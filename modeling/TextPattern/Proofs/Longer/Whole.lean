import TextPattern.Proofs.Longer.Parser

/-!
# A pattern between the ends of the text

* `Machine.endsInComment` : the text read ends in a comment that is still open;
* `Machine.fedLevel` : what the content of a text is when a line feed follows it;
* `Tree.whole` : the tree of a pattern between the ends of the text;
* `exists_read_opening`, `exists_read_closing` : the machine over what is put before and behind;
* `finish_whole`, `finish_whole_of_comment` : the whole text reads as that tree, unless a comment takes
  in what is put behind.
-/

namespace TextPattern.Syntax

open Reader (Longer)
open Unicode (isBlank)

/-! ## Escapes of one letter -/

/-- A backslash and the letter behind it have a meaning without an argument. -/
def isPlainLetter (c : Char) : Bool :=
  !c.isDigit && !(c = 'x' || c = 'u' || c = 'U') && !(c = 'p' || c = 'P') &&
    !(isMeta c || isEscapable c) && c != 'b'

theorem readEscape_letter {r : Reader} {c : Char} {cs : List Char} (hr : r.rest = '\\' :: c :: cs)
    (hc : isPlainLetter c = true) {letter : EscapeLetter} (hletter : escapeLetter? c = some letter) :
    readEscape r = .ok (letter.toTree ⟨r.pos, r.bump.bump.pos⟩, r.bump.bump) := by
  have hrest : r.bump.rest = c :: cs := by rw [Reader.rest_bump, hr, List.tail_cons]
  simp only [isPlainLetter, Bool.and_eq_true, Bool.not_eq_true', Bool.or_eq_false_iff,
    decide_eq_false_iff_not, bne_iff_ne] at hc
  obtain ⟨⟨⟨⟨hdigit, ⟨hx, hu⟩, hU⟩, hp, hP⟩, hmeta, hescapable⟩, hb⟩ := hc
  unfold readEscape
  simp only [hrest, hletter, hdigit, hx, hu, hU, hp, hP, hmeta, hescapable, hb]
  simp

theorem skipBlanks_of_solid {r : Reader} {c : Char} {cs : List Char} (hr : r.rest = c :: cs)
    (hblank : isBlank c = false) (hc : c ≠ '#') : r.skipBlanks = r := by
  obtain ⟨rest, pos, extended, captures, names⟩ := r
  obtain rfl : rest = c :: cs := hr
  unfold Reader.skipBlanks
  split
  · simp only [Reader.skipFrom, hblank, hc]
    rfl
  · rfl

theorem Machine.read_skip {m : Machine} {c : Char} {cs : List Char} (hr : m.reader.skipBlanks.rest = c :: cs)
    (fuel : Nat) :
    m.read (fuel + 1) = { m with reader := m.reader.skipBlanks }.step c >>= fun n => n.read fuel := by
  rw [Machine.read]
  simp only [hr]

theorem Machine.read_solid {m : Machine} {c : Char} {cs : List Char} (hr : m.reader.rest = c :: cs)
    (hblank : isBlank c = false) (hc : c ≠ '#') (fuel : Nat) :
    m.read (fuel + 1) = m.step c >>= fun n => n.read fuel := by
  have hskip := skipBlanks_of_solid hr hblank hc
  rw [Machine.read_skip (by rw [hskip, hr]), hskip]

theorem Machine.read_end {m : Machine} (hr : m.reader.skipBlanks.rest = []) (fuel : Nat) :
    m.read (fuel + 1) = .ok m := by
  rw [Machine.read]
  simp only [hr]

/-! ## Before the pattern -/

/-- The group around a pattern that is put between the ends of the text, in the level that holds the
assertion before it. -/
def aroundGroup (extended : Bool) : OpenGroup :=
  ⟨⟨.first, [], .first, [.assertion .blank .textStart]⟩, .first, .plain [], extended⟩

theorem readFlagged_colon {r : Reader} {cs : List Char} (hr : r.rest = ':' :: cs) (start mark : Position) :
    readFlagged start mark r = .ok (.opened (.plain []) r.bump.pos, r.bump) := by
  obtain ⟨rest, pos, extended, captures, names⟩ := r
  obtain rfl : rest = ':' :: cs := hr
  rfl

theorem readGroupStart_plain {r : Reader} {cs : List Char} (hr : r.rest = '(' :: '?' :: ':' :: cs) :
    readGroupStart r = .ok (.opened (.plain []) r.bump.bump.bump.pos, r.bump.bump.bump) := by
  have hnext : r.bump.rest = '?' :: ':' :: cs := by rw [Reader.rest_bump, hr, List.tail_cons]
  have hadvance : r.advance = r.bump := skipBlanks_of_solid hnext (by decide) (by decide)
  have hcolon : r.bump.bump.rest = ':' :: cs := by rw [Reader.rest_bump, hnext, List.tail_cons]
  unfold readGroupStart
  simp only [hadvance, Reader.past?, hnext]
  exact readFlagged_colon hcolon _ _

theorem exists_read_opening (text : List Char) (extended : Bool) :
    ∃ m : Machine,
      (∀ fuel, (Machine.ofText ("\\A(?:".toList ++ text) extended).read (fuel + 2) = m.read fuel) ∧
      m.reader.rest = text ∧ m.reader.extended = extended ∧ m.reader.captures = 0 ∧
      m.reader.names = [] ∧ m.level.erase = (Level.openAt .first).erase ∧
      m.groups.map OpenGroup.erase = [(aroundGroup extended).erase] := by
  let r : Reader := .ofText ("\\A(?:".toList ++ text) extended
  have hr : r.rest = '\\' :: 'A' :: '(' :: '?' :: ':' :: text := rfl
  have hs : r.bump.bump.rest = '(' :: '?' :: ':' :: text := rfl
  let item : Tree := .assertion ⟨r.pos, r.bump.bump.pos⟩ .textStart
  let group : OpenGroup := ⟨(Level.openAt .first).push item, r.bump.bump.pos, .plain [], extended⟩
  refine ⟨⟨r.bump.bump.bump.bump.bump, .openAt r.bump.bump.bump.bump.bump.pos, [group]⟩, fun fuel => ?_,
    rfl, rfl, rfl, rfl, rfl, rfl⟩
  have hfirst : (Machine.ofText ("\\A(?:".toList ++ text) extended).step '\\' =
      .ok ⟨r.bump.bump, (Level.openAt .first).push item, []⟩ := by
    change Machine.push _ (readEscape r) = _
    rw [readEscape_letter hr (by decide) (show escapeLetter? 'A' = some (.assertion .textStart) from rfl)]
    rfl
  have hsecond : (Machine.mk r.bump.bump ((Level.openAt .first).push item) []).step '(' =
      .ok ⟨r.bump.bump.bump.bump.bump, .openAt r.bump.bump.bump.bump.bump.pos, [group]⟩ := by
    change Machine.openGroup _ = _
    unfold Machine.openGroup
    rw [readGroupStart_plain hs]
    rfl
  rw [Machine.read_solid (m := .ofText ("\\A(?:".toList ++ text) extended) hr (by decide) (by decide), hfirst,
    ok_bind, Machine.read_solid hs (by decide) (by decide), hsecond, ok_bind]

/-! ## Behind the pattern -/

def Tree.whole (t : Tree) : Tree :=
  .concat .blank [.assertion .blank .textStart, .group .blank (.plain []) t, .assertion .blank .textEnd]

/-- The machine closes the group around a pattern and reads the end of the text. -/
theorem exists_read_closing {m : Machine} (hr : m.reader.skipBlanks.rest = ")\\z".toList)
    {extended : Bool} (hgroups : m.groups.map OpenGroup.erase = [(aroundGroup extended).erase])
    {fuel : Nat} (hfuel : 3 ≤ fuel) :
    ∃ last tree, m.read fuel = .ok last ∧ last.finish = .ok tree ∧
      tree.erase = (Tree.whole (m.level.toTree .first)).erase := by
  obtain ⟨k, rfl⟩ : ∃ k, fuel = k + 3 := ⟨fuel - 3, by omega⟩
  obtain ⟨g, hg, hgroup⟩ : ∃ g, m.groups = [g] ∧ g.erase = (aroundGroup extended).erase := by
    cases hm : m.groups with
    | nil => simp [hm] at hgroups
    | cons g groups =>
      rw [hm, List.map_cons, List.cons.injEq, List.map_eq_nil_iff] at hgroups
      exact ⟨g, by rw [hgroups.2], hgroups.1⟩
  simp only [OpenGroup.erase, OpenGroup.mk.injEq, true_and] at hgroup
  obtain ⟨houter, hkind, -⟩ := hgroup
  have hrest : m.reader.skipBlanks.rest = ')' :: '\\' :: ['z'] := hr
  have hread := Machine.read_skip hrest (k + 2)
  generalize m.reader.skipBlanks = s at hrest hread
  let group : Tree := .group ⟨g.start, s.bump.pos⟩ g.kind (m.level.toTree s.pos)
  let n : Machine := ⟨{ s.bump with extended := g.extended }, g.outer.push group, []⟩
  have hfirst : { m with reader := s }.step ')' = .ok n := by
    change Machine.closeGroup _ = _
    unfold Machine.closeGroup
    simp only [hg]
    rfl
  have hn : n.reader.rest = '\\' :: ['z'] := by
    change s.bump.rest = _
    rw [Reader.rest_bump, hrest, List.tail_cons]
  let item : Tree := .assertion ⟨n.reader.pos, n.reader.bump.bump.pos⟩ .textEnd
  let last : Machine := ⟨n.reader.bump.bump, n.level.push item, []⟩
  have hsecond : n.step '\\' = .ok last := by
    change n.push (readEscape n.reader) = _
    rw [readEscape_letter hn (by decide) (show escapeLetter? 'z' = some (.assertion .textEnd) from rfl)]
    rfl
  have hlast : last.reader.rest = [] := by
    change n.reader.bump.bump.rest = _
    rw [Reader.rest_bump, Reader.rest_bump, hn]
    rfl
  have hend : last.reader.skipBlanks.rest = [] := by
    rw [Reader.rest_skipBlanks, hlast]
    split <;> rfl
  refine ⟨last, last.level.toTree last.reader.skipBlanks.pos, ?_, rfl, ?_⟩
  · rw [hread, hfirst, ok_bind, Machine.read_solid hn (by decide) (by decide), hsecond, ok_bind,
      Machine.read_end hend]
  · have hgroup : group.erase = (Tree.group .blank (.plain []) (m.level.toTree .first)).erase := by
      simp only [group, Tree.erase, hkind, Level.erase_toTree rfl s.pos .first]
      rfl
    exact Level.erase_toTree (Level.erase_push (Level.erase_push houter hgroup) rfl) _ .first

/-! ## The whole text -/

/-- The text read ends in a comment that is still open. -/
def Machine.endsInComment (m : Machine) : Bool := m.reader.extended && commentOpen m.reader.rest false

/-- The content of the level when a line feed is put behind it: a blank where blanks are ignored, a part
of the last branch elsewhere. -/
def Machine.fedLevel (m : Machine) : Level :=
  if m.reader.extended then m.level else m.level.push (.literal ⟨.blank, '\n', false⟩)

variable {text z : List Char} {extended : Bool} {last : Machine}

/-- A pattern that is read on its own is read with `z` behind it, within the group around it. -/
theorem exists_read_pattern (hz : Closing z) (h : readItems text extended = .ok last) :
    ∃ last' fuel, last.Longer z [aroundGroup extended] last' ∧ z.length + 4 ≤ fuel ∧
      readItems ("\\A(?:".toList ++ (text ++ z)) extended = last'.read fuel := by
  obtain ⟨m, hm, hrest, hext, hcaptures, hnames, hlevel, hgroups⟩ := exists_read_opening (text ++ z) extended
  have hstart : (Machine.ofText text extended).Longer z [aroundGroup extended] m := by
    refine ⟨⟨hrest, hext, hcaptures, by rw [hnames]; rfl⟩, hlevel.symm, ?_⟩
    rw [hgroups]
    rfl
  obtain ⟨last', hlast, k, hk, hgo⟩ := hstart.read hz h
  obtain ⟨fuel, hfuel⟩ := Nat.exists_eq_add_of_le (show k ≤ text.length + z.length + 4 by omega)
  refine ⟨last', fuel, hlast, by omega, ?_⟩
  have hlength : ("\\A(?:".toList ++ (text ++ z)).length + 1 = text.length + z.length + 4 + 2 := by
    rw [List.length_append, List.length_append]
    change 5 + _ + 1 = _
    omega
  rw [readItems, hlength, hm, hfuel, hgo]

/-- Behind a pattern the blanks and comments it ends in are skipped, and with them an open comment. -/
theorem rest_behind {last' : Machine} (h : readItems text extended = .ok last) {bottom : List OpenGroup}
    (hlonger : last.Longer z bottom last') :
    last'.reader.skipBlanks.rest =
      if last.reader.extended then skipped z (commentOpen last.reader.rest false) else z := by
  have hskip := Machine.skipBlanks_of_read h
  rw [Reader.rest_skipBlanks] at hskip ⊢
  rw [hlonger.reader.extended, hlonger.reader.rest]
  by_cases hext : last.reader.extended = true
  · rw [if_pos hext] at hskip
    rw [if_pos hext, if_pos hext, skipped_append, if_pos hskip]
  · rw [if_neg hext] at hskip
    rw [if_neg hext, if_neg hext, hskip, List.nil_append]

theorem closing_end : Closing ")\\z".toList := by decide

/-- Between the ends of the text a pattern is read as it is on its own. -/
theorem finish_whole (h : readItems text extended = .ok last) (hgroups : last.groups = [])
    (hopen : last.endsInComment = false) :
    ∃ whole tree, readItems ("\\A(?:".toList ++ (text ++ ")\\z".toList)) extended = .ok whole ∧
      whole.finish = .ok tree ∧ tree.erase = (Tree.whole (last.level.toTree .first)).erase := by
  obtain ⟨last', fuel, hlonger, hfuel, hread⟩ := exists_read_pattern closing_end h
  have hrest : last'.reader.skipBlanks.rest = ")\\z".toList := by
    rw [rest_behind h hlonger]
    by_cases hext : last.reader.extended = true
    · rw [Machine.endsInComment, hext, Bool.true_and] at hopen
      rw [if_pos hext, hopen]
      rfl
    · rw [if_neg hext]
  have hlast : last'.groups.map OpenGroup.erase = [(aroundGroup extended).erase] := by
    rw [hlonger.groups, hgroups]
    rfl
  obtain ⟨whole, tree, hwhole, hfinish, htree⟩ :=
    exists_read_closing hrest hlast (show 3 ≤ fuel by omega)
  refine ⟨whole, tree, hread.trans hwhole, hfinish, htree.trans ?_⟩
  simp only [Tree.whole, Tree.erase, eraseParts, Level.erase_toTree hlonger.level .first .first]

/-- A comment that is open at the end of a pattern takes in what is put behind it. -/
theorem finish_whole_of_comment (h : readItems text extended = .ok last) (hopen : last.endsInComment = true) :
    ∃ whole fault, readItems ("\\A(?:".toList ++ (text ++ ")\\z".toList)) extended = .ok whole ∧
      whole.finish = .error fault := by
  obtain ⟨last', fuel, hlonger, hfuel, hread⟩ := exists_read_pattern closing_end h
  obtain ⟨hext, hcomment⟩ := Bool.and_eq_true_iff.1 hopen
  have hrest : last'.reader.skipBlanks.rest = [] := by
    rw [rest_behind h hlonger, if_pos hext, hcomment]
    rfl
  obtain ⟨k, rfl⟩ : ∃ k, fuel = k + 1 := ⟨fuel - 1, by omega⟩
  obtain ⟨g, groups, hg⟩ : ∃ g groups, last'.groups = g :: groups := by
    cases hg : last'.groups with
    | nil =>
      have := hlonger.groups
      simp [hg] at this
    | cons g groups => exact ⟨g, groups, rfl⟩
  refine ⟨last', { kind := .groupUnclosed, span := .ofChar g.start '(' },
    hread.trans (Machine.read_end hrest k), ?_⟩
  rw [Machine.finish, hg]
  rfl

/-- With a line feed behind it, a pattern between the ends of the text is read as it is on its own with
the line feed. -/
theorem finish_whole_fed (h : readItems text extended = .ok last) (hgroups : last.groups = []) :
    ∃ whole tree, readItems ("\\A(?:".toList ++ (text ++ '\n' :: ")\\z".toList)) extended = .ok whole ∧
      whole.finish = .ok tree ∧ tree.erase = (Tree.whole (last.fedLevel.toTree .first)).erase := by
  have hz : Closing ('\n' :: ")\\z".toList) := List.forall_mem_cons.2 ⟨by decide, closing_end⟩
  obtain ⟨last', fuel, hlonger, hfuel, hread⟩ := exists_read_pattern hz h
  have hlast : last'.groups.map OpenGroup.erase = [(aroundGroup extended).erase] := by
    rw [hlonger.groups, hgroups]
    rfl
  have hrest := rest_behind h hlonger
  unfold Machine.fedLevel
  by_cases hext : last.reader.extended = true
  · rw [if_pos hext] at hrest ⊢
    have hrest' : last'.reader.skipBlanks.rest = ")\\z".toList := by
      rw [hrest]
      cases commentOpen last.reader.rest false <;> rfl
    obtain ⟨whole, tree, hwhole, hfinish, htree⟩ :=
      exists_read_closing hrest' hlast (show 3 ≤ fuel by omega)
    refine ⟨whole, tree, hread.trans hwhole, hfinish, htree.trans ?_⟩
    simp only [Tree.whole, Tree.erase, eraseParts, Level.erase_toTree hlonger.level .first .first]
  · rw [if_neg hext] at hrest ⊢
    obtain ⟨k, rfl⟩ : ∃ k, fuel = k + 1 := ⟨fuel - 1, by omega⟩
    have hfeed := Machine.read_skip hrest k
    generalize hs : last'.reader.skipBlanks = s at hrest hfeed
    let item : Tree := .literal ⟨s.charSpan, '\n', false⟩
    let next : Machine := ⟨s.bump, last'.level.push item, last'.groups⟩
    have hstep : { last' with reader := s }.step '\n' = .ok next := rfl
    have hnext : next.reader.skipBlanks.rest = ")\\z".toList := by
      have hsext : s.extended = false := by
        rw [← hs, Reader.extended_skipBlanks, hlonger.reader.extended]
        simpa using hext
      change s.bump.skipBlanks.rest = _
      rw [Reader.rest_skipBlanks, Reader.extended_bump, hsext, Reader.rest_bump, hrest]
      rfl
    obtain ⟨whole, tree, hwhole, hfinish, htree⟩ :=
      exists_read_closing hnext hlast (show 3 ≤ k by omega)
    refine ⟨whole, tree, hread.trans ?_, hfinish, htree.trans ?_⟩
    · rw [hfeed, hstep, ok_bind, hwhole]
    · have hpush : next.level.erase = (last.level.push (.literal ⟨.blank, '\n', false⟩)).erase :=
        Level.erase_push hlonger.level.symm rfl
      simp only [Tree.whole, Tree.erase, eraseParts, Level.erase_toTree hpush .first .first]

end TextPattern.Syntax
