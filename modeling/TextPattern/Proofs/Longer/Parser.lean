import TextPattern.Proofs.Longer.Bracket
import TextPattern.Syntax.Parser

/-!
# Patterns in a longer text

* `Machine.Longer z bottom m m'` : two machines are alike up to places, `m'` in a text that is longer by
  `z` and within the groups `bottom`;
* `readCount_agrees`, `Machine.Longer.step` : a count, and a step of the machine, goes alike in both;
* `Machine.Longer.read` : when the shorter text is read, the machine goes on with `z`.
-/

namespace TextPattern.Syntax

open Reader (Longer)

variable {z : List Char} {r r' : Reader}

/-! ## Levels -/

def Level.erase (l : Level) : Level := ⟨.first, l.done.map Tree.erase, .first, l.parts.map Tree.erase⟩

def OpenGroup.erase (g : OpenGroup) : OpenGroup := ⟨g.outer.erase, .first, g.kind.erase, g.extended⟩

namespace Level

variable {l l' : Level}

theorem erase_eq_iff : l.erase = l'.erase ↔
    l.done.map Tree.erase = l'.done.map Tree.erase ∧ l.parts.map Tree.erase = l'.parts.map Tree.erase := by
  simp [erase]

theorem erase_push (h : l.erase = l'.erase) {t t' : Tree} (ht : t.erase = t'.erase) :
    (l.push t).erase = (l'.push t').erase := by
  rw [erase_eq_iff] at h ⊢
  exact ⟨h.1, by simp [push, h.2, ht]⟩

theorem erase_branch (h : l.erase = l'.erase) (stop stop' : Position) :
    (l.branch stop).erase = (l'.branch stop').erase := by
  have hparts := (erase_eq_iff.1 h).2
  unfold branch
  match hl : l.parts, hl' : l'.parts with
  | [], [] => rfl
  | [a], [b] =>
    rw [hl, hl'] at hparts
    simpa using hparts
  | a :: b :: parts, a' :: b' :: parts' =>
    rw [hl, hl'] at hparts
    simp only [Tree.erase, eraseParts_eq_map, List.map_reverse, hparts]
  | [], _ :: _ | _ :: _, [] | [_], _ :: _ :: _ | _ :: _ :: _, [_] =>
    rw [hl, hl'] at hparts
    simp at hparts

theorem erase_toTree (h : l.erase = l'.erase) (stop stop' : Position) :
    (l.toTree stop).erase = (l'.toTree stop').erase := by
  have hdone := (erase_eq_iff.1 h).1
  have hbranch := erase_branch h stop stop'
  unfold toTree
  match hl : l.done, hl' : l'.done with
  | [], [] => exact hbranch
  | a :: done, a' :: done' =>
    rw [hl, hl'] at hdone
    simp only [Tree.erase, eraseParts_eq_map, List.map_reverse, List.map_cons, hbranch] at hdone ⊢
    rw [hdone]
  | [], _ :: _ | _ :: _, [] =>
    rw [hl, hl'] at hdone
    simp at hdone

end Level

/-! ## Repetitions -/

theorem Tree.repeatable_erase (t : Tree) : t.erase.repeatable = t.repeatable := by
  cases t <;> rfl

theorem operand_agrees {l l' : Level} (h : l.erase = l'.erase) :
    Agrees (fun x y => x.1.erase = y.1.erase ∧ x.2.erase = y.2.erase) (operand l r) (operand l' r') := by
  obtain ⟨hdone, hparts⟩ := Level.erase_eq_iff.1 h
  unfold operand
  match hl : l.parts, hl' : l'.parts with
  | [], _ => exact agrees_fail
  | a :: parts, b :: parts' =>
    rw [hl, hl', List.map_cons, List.map_cons, List.cons.injEq] at hparts
    have hab : a.repeatable = b.repeatable := by rw [← a.repeatable_erase, hparts.1, b.repeatable_erase]
    refine .ite (by rw [hab]) (fun _ => ?_) fun _ => agrees_fail
    exact .ok ⟨hparts.1, Level.erase_eq_iff.2 ⟨hdone, hparts.2⟩⟩
  | _ :: _, [] =>
    rw [hl, hl'] at hparts
    simp at hparts

theorem readDecimal_longer (h : r.Longer z r') {x : Except Fault Nat} {s : Reader}
    (hs : readDecimal r = (x, s)) (hne : s.rest ≠ []) :
    ∃ x' s', readDecimal r' = (x', s') ∧ Agrees Eq x x' ∧ s.Longer z s' := by
  unfold readDecimal at hs ⊢
  rcases hd : r.dropBlanks.takeWhile Char.isDigit with ⟨digits, u⟩
  simp only [hd, Prod.mk.injEq] at hs
  obtain ⟨rfl, rfl⟩ := hs
  have hu : u.rest ≠ [] := fun hnil =>
    hne (List.suffix_nil.1 (hnil ▸ Reader.dropBlanksFrom_suffix u.rest u.pos))
  have hr : r.dropBlanks.rest ≠ [] := fun hnil => hu (by
    rw [← (Prod.mk.inj hd).2]
    exact List.suffix_nil.1 (hnil ▸ Reader.takeFrom_suffix _ _ _ _ _ _))
  obtain ⟨u', hd', hlonger⟩ := (h.dropBlanks hr).takeWhile hd hu
  simp only [hd']
  refine ⟨_, _, rfl, ?_, hlonger.dropBlanks hne⟩
  exact .ite Iff.rfl (fun _ => agrees_fail) fun _ => .ite Iff.rfl (fun _ => .ok rfl) fun _ => agrees_fail

/-- The bounds of a count are read alike in a longer text, if the shorter one goes on behind them. -/
theorem readBounds_longer (h : r.Longer z r') (hz : Closing z) {start start' : Position}
    {min min' : Except Fault Nat} (hmin : Agrees Eq min min') {x : (Nat × Option Nat) × Reader}
    (hx : readBounds start min r = .ok x) (hne : x.2.rest ≠ []) :
    ∃ y, readBounds start' min' r' = .ok y ∧ x.1 = y.1 ∧ x.2.Longer z y.2 := by
  have hcomma : r'.rest.head? = some ',' ↔ r.rest.head? = some ',' := h.head?_eq hz (by decide)
  unfold readBounds at hx ⊢
  by_cases hc : r.rest.head? = some ','
  · rw [if_pos hc] at hx
    rw [if_pos (hcomma.2 hc)]
    obtain ⟨s, hs, hx⟩ := bind_eq_ok.1 hx
    obtain ⟨n, hn, hx⟩ := bind_eq_ok.1 hx
    obtain ⟨s', hs', -, hlonger⟩ := Longer.unlessEnd h.advance s hs
    obtain ⟨n', hn', rfl⟩ := hmin n hn
    have hbrace : s'.rest.head? = some '\x7d' ↔ s.rest.head? = some '\x7d' :=
      hlonger.head?_eq hz (by decide)
    dsimp only
    rw [hs', ok_bind, hn', ok_bind]
    by_cases hb : s.rest.head? = some '\x7d'
    · rw [if_pos hb] at hx
      obtain rfl := Except.ok.inj hx
      rw [if_pos (hbrace.2 hb)]
      exact ⟨_, rfl, rfl, hlonger⟩
    · rw [if_neg hb] at hx
      rw [if_neg fun hb' => hb (hbrace.1 hb')]
      rcases hd : readDecimal s with ⟨max, u⟩
      rw [hd] at hx
      obtain ⟨k, hk, hx⟩ := bind_eq_ok.1 hx
      obtain rfl := Except.ok.inj hx
      obtain ⟨max', u', hd', hmax, hu⟩ := readDecimal_longer hlonger hd hne
      obtain ⟨_, hk', rfl⟩ := hmax k hk
      rw [hd']
      dsimp only
      rw [hk', ok_bind]
      exact ⟨_, rfl, rfl, hu⟩
  · rw [if_neg hc] at hx
    rw [if_neg fun hc' => hc (hcomma.1 hc')]
    obtain ⟨n, hn, hx⟩ := bind_eq_ok.1 hx
    obtain rfl := Except.ok.inj hx
    obtain ⟨_, hn', rfl⟩ := hmin n hn
    rw [hn', ok_bind]
    exact ⟨_, rfl, rfl, h⟩

theorem readCount_agrees (h : r.Longer z r') (hz : Closing z) :
    Agrees (fun x y => x.1 = y.1 ∧ x.2.rest ≠ [] ∧ x.2.Longer z y.2) (readCount r) (readCount r') := by
  refine (Longer.unlessEnd h.advance).bind ?_
  rintro s s' ⟨-, hs⟩
  rcases hd : readDecimal s with ⟨min, u⟩
  dsimp only
  by_cases hend : u.rest = []
  · simp only [Reader.unlessEnd, hend, List.isEmpty_nil, if_true]
    exact agrees_fail
  obtain ⟨min', u', hd', hmin, hu⟩ := readDecimal_longer hs hd hend
  simp only [hd']
  refine (Longer.unlessEnd fun _ => hu).bind ?_
  rintro v v' ⟨-, hv⟩ x hx
  obtain ⟨⟨bounds, w⟩, hw, hx⟩ := bind_eq_ok.1 hx
  dsimp only at hx
  by_cases hb : w.rest.head? = some '\x7d'
  · rw [if_pos hb] at hx
    obtain rfl := Except.ok.inj hx
    have hne : w.rest ≠ [] := fun hnil => by simp [hnil] at hb
    obtain ⟨⟨bounds', w'⟩, hw', hbounds, hlonger⟩ := readBounds_longer hv hz hmin hw hne
    have hbrace : w'.rest.head? = some '\x7d' ↔ w.rest.head? = some '\x7d' :=
      hlonger.head?_eq hz (by decide)
    rw [hw', ok_bind]
    dsimp only
    rw [if_pos (hbrace.2 hb)]
    exact ⟨_, rfl, hbounds, hne, hlonger⟩
  · rw [if_neg hb] at hx
    cases hx

/-! ## Machines -/

/-- The machines are alike up to places; `m'` is in a text that is longer by `z`, and within the groups
`bottom`. -/
structure Machine.Longer (z : List Char) (bottom : List OpenGroup) (m m' : Machine) : Prop where
  reader : m.reader.Longer z m'.reader
  level : m.level.erase = m'.level.erase
  groups : m'.groups.map OpenGroup.erase = m.groups.map OpenGroup.erase ++ bottom.map OpenGroup.erase

namespace Machine.Longer

variable {bottom : List OpenGroup} {m m' : Machine}

theorem push (h : m.Longer z bottom m') {x y : Except Fault (Tree × Reader)}
    (hxy : Agrees (SameItem z) x y) : Agrees (Machine.Longer z bottom) (m.push x) (m'.push y) := by
  refine hxy.bind ?_
  rintro ⟨item, s⟩ ⟨item', s'⟩ ⟨hitem, hs⟩
  exact .ok ⟨hs, Level.erase_push h.level hitem, h.groups⟩

theorem repeatBy (h : m.Longer z bottom m') (hz : Closing z) (hr : m.reader.rest ≠ []) (count : Count) :
    Agrees (Machine.Longer z bottom) (m.repeatBy count) (m'.repeatBy count) := by
  refine (operand_agrees h.level).bind ?_
  rintro ⟨sub, level⟩ ⟨sub', level'⟩ ⟨hsub, hlevel⟩
  have hbump := h.reader.bump hr
  have hlazy : m'.reader.bump.rest.head? = some '?' ↔ m.reader.bump.rest.head? = some '?' :=
    hbump.head?_eq hz (by decide)
  refine .ok ⟨?_, Level.erase_push hlevel ?_, h.groups⟩
  · by_cases hl : m.reader.bump.rest.head? = some '?'
    · have hne : m.reader.bump.rest ≠ [] := fun hnil => by simp [hnil] at hl
      simpa only [if_pos hl, if_pos (hlazy.2 hl)] using hbump.bump hne
    · simpa only [if_neg hl, if_neg fun hl' => hl (hlazy.1 hl')] using hbump
  · simp only [Tree.erase, hsub, hlazy]

theorem repeatCounted (h : m.Longer z bottom m') (hz : Closing z) :
    Agrees (Machine.Longer z bottom) m.repeatCounted m'.repeatCounted := by
  refine (operand_agrees h.level).bind ?_
  rintro ⟨sub, level⟩ ⟨sub', level'⟩ ⟨hsub, hlevel⟩
  refine (readCount_agrees h.reader hz).bind ?_
  rintro ⟨⟨min, max⟩, s⟩ ⟨⟨min', max'⟩, s'⟩ ⟨hcount, hne, hs⟩
  obtain ⟨rfl, rfl⟩ := Prod.mk.inj hcount
  dsimp only at hsub hlevel hne hs ⊢
  have hlazy : s'.advance.rest.head? = some '?' ↔ s.advance.rest.head? = some '?' := by
    by_cases hend : s.advance.rest = []
    · have hz' := hz.of_suffix (hs.advance_suffix hne hend)
      simpa [hend] using hz'.head?_ne (x := '?') (by decide)
    · exact (hs.advance hend).head?_eq hz (by decide)
  by_cases hord : ∀ n ∈ max, min ≤ n
  · rw [dif_pos hord, dif_pos hord]
    refine .ok ⟨?_, Level.erase_push hlevel ?_, h.groups⟩
    · by_cases hl : s.advance.rest.head? = some '?'
      · have hend : s.advance.rest ≠ [] := fun hnil => by simp [hnil] at hl
        simpa only [if_pos hl, if_pos (hlazy.2 hl)] using (hs.advance hend).bump hend
      · simpa only [if_neg hl, if_neg fun hl' => hl (hlazy.1 hl')] using hs.bump hne
    · simp only [Tree.erase, hsub, hlazy]
  · rw [dif_neg hord]
    exact agrees_fail

theorem openGroup (h : m.Longer z bottom m') (hz : Closing z) (hr : m.reader.rest ≠ []) :
    Agrees (Machine.Longer z bottom) m.openGroup m'.openGroup := by
  refine (readGroupStart_agrees h.reader hz hr).bind ?_
  rintro ⟨what, s⟩ ⟨what', s'⟩ ⟨hwhat, hs⟩
  dsimp only at hwhat hs
  cases what with
  | setting span items =>
    cases what' with
    | setting span' items' =>
      simp only [GroupStart.erase, GroupStart.setting.injEq, true_and] at hwhat
      have hextended : (flagValue items .extended).getD s.extended =
          (flagValue items' .extended).getD s'.extended := by
        rw [← flagValue_erase items, hwhat, flagValue_erase, hs.extended]
      refine .ok ⟨⟨hs.rest, hextended.symm, hs.captures, hs.names⟩, Level.erase_push h.level ?_, h.groups⟩
      simp only [Tree.erase, hwhat]
    | opened _ _ => simp [GroupStart.erase] at hwhat
  | opened kind content =>
    cases what' with
    | setting _ _ => simp [GroupStart.erase] at hwhat
    | opened kind' content' =>
      simp only [GroupStart.erase, GroupStart.opened.injEq, and_true] at hwhat
      have hextended : (flagValue kind.flags .extended).getD s.extended =
          (flagValue kind'.flags .extended).getD s'.extended := by
        rw [← flagValue_erase kind.flags, ← GroupKind.flags_erase, hwhat, GroupKind.flags_erase,
          flagValue_erase, hs.extended]
      refine .ok ⟨⟨hs.rest, hextended.symm, hs.captures, hs.names⟩, rfl, ?_⟩
      simp [OpenGroup.erase, h.level, h.groups, hwhat, hs.extended]

theorem closeGroup (h : m.Longer z bottom m') (hr : m.reader.rest ≠ []) :
    Agrees (Machine.Longer z bottom) m.closeGroup m'.closeGroup := by
  have hgroups := h.groups
  unfold Machine.closeGroup
  dsimp only
  match hg : m.groups, hg' : m'.groups with
  | [], _ => exact agrees_fail
  | g :: groups, g' :: groups' =>
    rw [hg, hg', List.map_cons, List.map_cons, List.cons_append, List.cons.injEq] at hgroups
    obtain ⟨hgroup, hgroups⟩ := hgroups
    simp only [OpenGroup.erase, OpenGroup.mk.injEq, true_and] at hgroup
    obtain ⟨houter, hkind, hextended⟩ := hgroup
    have hbump := h.reader.bump hr
    refine .ok ⟨⟨hbump.rest, hextended, hbump.captures, hbump.names⟩,
      Level.erase_push houter.symm ?_, hgroups⟩
    simp only [Tree.erase, hkind, Level.erase_toTree h.level m.reader.pos m'.reader.pos]
  | _ :: _, [] =>
    rw [hg, hg'] at hgroups
    simp at hgroups

theorem endBranch (h : m.Longer z bottom m') (hr : m.reader.rest ≠ []) :
    m.endBranch.Longer z bottom m'.endBranch := by
  refine ⟨h.reader.bump hr, ?_, h.groups⟩
  have hbranch := Level.erase_branch h.level m.reader.pos m'.reader.pos
  exact Level.erase_eq_iff.2 ⟨by simp [Machine.endBranch, hbranch, (Level.erase_eq_iff.1 h.level).1], rfl⟩

/-- A step goes alike in a longer text. -/
theorem step (h : m.Longer z bottom m') (hz : Closing z) (hr : m.reader.rest ≠ []) (c : Char) :
    Agrees (Machine.Longer z bottom) (m.step c) (m'.step c) := by
  have hbump := h.reader.bump hr
  unfold Machine.step
  dsimp only
  split
  · exact h.openGroup hz hr
  · exact h.closeGroup hr
  · exact .ok (h.endBranch hr)
  · exact h.push (readBracket_agrees h.reader hz)
  · exact h.repeatBy hz hr _
  · exact h.repeatBy hz hr _
  · exact h.repeatBy hz hr _
  · exact h.repeatCounted hz
  · exact h.push (readEscape_agrees h.reader hz hr)
  · exact h.push (.ok ⟨rfl, hbump⟩)
  · exact h.push (.ok ⟨rfl, hbump⟩)
  · exact h.push (.ok ⟨rfl, hbump⟩)
  · exact h.push (.ok ⟨rfl, hbump⟩)

/-- A machine in the longer text gets to where the shorter text ends, and goes on from there. -/
theorem read (h : m.Longer z bottom m') (hz : Closing z) {fuel : Nat} {last : Machine}
    (hread : m.read fuel = .ok last) :
    ∃ last', last.Longer z bottom last' ∧ ∃ k < fuel, ∀ j, m'.read (k + j) = last'.read j := by
  induction fuel generalizing m m' with
  | zero => cases hread
  | succ fuel ih =>
    rw [Machine.read] at hread
    cases hrest : m.reader.skipBlanks.rest with
    | nil =>
      rw [hrest] at hread
      obtain rfl := Except.ok.inj hread
      exact ⟨m', h, 0, by omega, fun j => by rw [Nat.zero_add]⟩
    | cons c cs =>
      rw [hrest] at hread
      have hne : m.reader.skipBlanks.rest ≠ [] := by simp [hrest]
      have hskip := h.reader.skipBlanks hne
      have hm : Machine.Longer z bottom { m with reader := m.reader.skipBlanks }
          { m' with reader := m'.reader.skipBlanks } := ⟨hskip, h.level, h.groups⟩
      obtain ⟨n, hn, hread⟩ := bind_eq_ok.1 hread
      obtain ⟨n', hn', hlonger⟩ := hm.step hz hne c n hn
      obtain ⟨last', hlast, k, hk, hgo⟩ := ih hlonger hread
      refine ⟨last', hlast, k + 1, by omega, fun j => ?_⟩
      rw [Nat.add_right_comm, Machine.read]
      rw [hskip.rest_of_cons hrest]
      dsimp only
      rw [hn', ok_bind]
      exact hgo j

end Machine.Longer

theorem Machine.skipBlanks_of_read {m last : Machine} {fuel : Nat} (h : m.read fuel = .ok last) :
    last.reader.skipBlanks.rest = [] := by
  induction fuel generalizing m with
  | zero => cases h
  | succ fuel ih =>
    rw [Machine.read] at h
    cases hrest : m.reader.skipBlanks.rest with
    | nil =>
      rw [hrest] at h
      exact Except.ok.inj h ▸ hrest
    | cons c cs =>
      rw [hrest] at h
      obtain ⟨n, -, h⟩ := bind_eq_ok.1 h
      exact ih h

end TextPattern.Syntax
