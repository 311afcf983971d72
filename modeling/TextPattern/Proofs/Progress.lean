import TextPattern.Proofs.Longer.Whole

/-!
# Every item has a character

* `Leaves n x` : the reading `x` leaves at most `n` characters;
* `leaves_readEscape`, `leaves_readBracket`, `leaves_readGroupStart`, `leaves_readCount` : what the items leave;
* `Machine.length_step` : a step of the machine leaves fewer characters than it finds;
* `Machine.read_of_length_lt` : rounds beyond the number of characters change nothing.
-/

namespace TextPattern.Syntax

/-! ## Readers that move on -/

namespace Reader

variable {r s : Reader}

theorem length_bump (r : Reader) : r.bump.rest.length = r.rest.length - 1 := by
  rw [rest_bump, List.length_tail]

theorem length_bumpN (n : Nat) (r : Reader) : (bumpN n r).rest.length = r.rest.length - n := by
  rw [rest_bumpN, List.length_drop]

theorem length_skipBlanks (r : Reader) : r.skipBlanks.rest.length ≤ r.rest.length := by
  rw [rest_skipBlanks]
  split
  · exact (skipped_suffix _ _).length_le
  · exact Nat.le_refl _

theorem length_advance (r : Reader) : r.advance.rest.length ≤ r.rest.length - 1 := by
  rw [← length_bump]
  exact length_skipBlanks r.bump

theorem length_takePlaced (p : Char → Bool) (r : Reader) : (r.takePlaced p).2.rest.length ≤ r.rest.length :=
  (takeFrom_suffix _ _ _ _ _ _).length_le

theorem length_takeWhile (p : Char → Bool) (r : Reader) : (r.takeWhile p).2.rest.length ≤ r.rest.length :=
  length_takePlaced p r

theorem length_dropBlanks (r : Reader) : r.dropBlanks.rest.length ≤ r.rest.length :=
  (dropBlanksFrom_suffix _ _).length_le

theorem length_past? {sign : List Char} (h : r.past? sign = some s) :
    s.rest.length = r.rest.length - sign.length := by
  unfold past? at h
  split at h
  · rw [← Option.some.inj h, length_bumpN]
  · cases h

theorem eq_of_unlessEnd {kind : FaultKind} {span : Span} (h : r.unlessEnd kind span = .ok s) :
    s = r ∧ 0 < r.rest.length := by
  unfold unlessEnd at h
  split at h
  · cases h
  · next hne => exact ⟨(Except.ok.inj h).symm, List.length_pos_iff.2 (by simpa using hne)⟩

end Reader

/-! ## Readings -/

/-- If the reading succeeds, it leaves at most `n` characters. -/
def Leaves {α : Type} (n : Nat) (x : Except Fault (α × Reader)) : Prop := Yields (fun y => y.2.rest.length ≤ n) x

theorem Leaves.ok {α : Type} {n : Nat} {a : α} {s : Reader} (h : s.rest.length ≤ n) : Leaves n (.ok (a, s)) :=
  Yields.ok h

theorem Leaves.length {α : Type} {n : Nat} {x : Except Fault (α × Reader)} (h : Leaves n x) {a : α} {s : Reader}
    (hx : x = .ok (a, s)) : s.rest.length ≤ n :=
  h (a, s) hx

theorem Leaves.mono {α : Type} {n k : Nat} {x : Except Fault (α × Reader)} (h : Leaves n x) (hle : n ≤ k) :
    Leaves k x :=
  Yields.mono h fun _ hn => Nat.le_trans hn hle

/-- The tree is one item: no row of items, no choice and no empty branch. -/
def Tree.isItem : Tree → Bool
  | .empty _ => false
  | .alternation _ _ => false
  | .concat _ _ => false
  | _ => true

def ReadsItem (n : Nat) (x : Except Fault (Tree × Reader)) : Prop :=
  Yields (fun y => y.1.isItem = true ∧ y.2.rest.length ≤ n) x

namespace ReadsItem

variable {n k : Nat} {x : Except Fault (Tree × Reader)} {t : Tree} {s : Reader}

theorem ok (ht : t.isItem = true) (hs : s.rest.length ≤ n) : ReadsItem n (.ok (t, s)) := Yields.ok ⟨ht, hs⟩

theorem isItem (h : ReadsItem n x) (hx : x = .ok (t, s)) : t.isItem = true := (h (t, s) hx).1

theorem length (h : ReadsItem n x) (hx : x = .ok (t, s)) : s.rest.length ≤ n := (h (t, s) hx).2

theorem mono (h : ReadsItem n x) (hle : n ≤ k) : ReadsItem k x :=
  Yields.mono h fun _ hn => ⟨hn.1, Nat.le_trans hn.2 hle⟩

end ReadsItem

variable {r : Reader}

/-! ## Escape sequences -/

theorem leaves_readHexDigits (n : Nat) (r : Reader) (digits : List Char) :
    Leaves r.rest.length (readHexDigits n r digits) := by
  induction n generalizing r digits with
  | zero => exact Leaves.ok (Nat.le_refl _)
  | succ n ih =>
    have hbump := r.length_bump
    have hadvance := r.length_advance
    unfold readHexDigits
    split
    · exact yields_fail
    · refine .ite (fun _ => ?_) fun _ => yields_fail
      refine .ite (fun _ => Leaves.ok (by omega)) fun _ => ?_
      exact (ih r.advance _).mono (by omega)

theorem readsItem_readHexBraced (start : Position) (r : Reader) :
    ReadsItem r.rest.length (readHexBraced start r) := by
  have hadvance := r.length_advance
  have htake := r.advance.length_takeWhile isHex
  unfold readHexBraced
  dsimp only
  generalize r.advance.takeWhile isHex = taken at htake
  have hbump := taken.2.length_bump
  split
  · exact yields_fail
  · refine .ite (fun _ => yields_fail) fun _ => ?_
    refine .ite (fun _ => yields_fail) fun _ => ?_
    split
    · exact yields_fail
    · exact ReadsItem.ok rfl (by omega)

theorem readsItem_readHex (start : Position) (r : Reader) : ReadsItem r.rest.length (readHex start r) := by
  have hadvance := r.length_advance
  unfold readHex
  dsimp only
  split
  · exact yields_fail
  · refine .ite (fun _ => (readsItem_readHexBraced _ _).mono (by omega)) fun _ => ?_
    refine .bind ?_
    rintro ⟨digits, s⟩ hs
    have hdigits := (leaves_readHexDigits _ _ _).length hs
    dsimp only
    split
    · exact yields_fail
    · exact ReadsItem.ok rfl (by omega)

theorem readsItem_readProperty (start : Position) (r : Reader) :
    ReadsItem r.rest.length (readProperty start r) := by
  have hadvance := r.length_advance
  have hnext := r.advance.length_advance
  have hbump := r.advance.length_bump
  unfold readProperty
  dsimp only
  split
  · exact yields_fail
  · refine .ite (fun _ => ?_) fun _ => ?_
    · have htake := r.advance.advance.length_takeWhile (· != '\x7d')
      generalize r.advance.advance.takeWhile (· != '\x7d') = taken at htake
      have htaken := taken.2.length_bump
      exact .ite (fun _ => yields_fail) fun _ => ReadsItem.ok rfl (by omega)
    · exact .ite (fun _ => yields_fail) fun _ => ReadsItem.ok rfl (by omega)

theorem length_readSpecialBoundary {start : Position} {s : Reader} {kind : Assertion}
    (h : readSpecialBoundary start r = .ok (some (kind, s))) : s.rest.length ≤ r.rest.length := by
  have hadvance := r.length_advance
  unfold readSpecialBoundary at h
  dsimp only at h
  split at h
  · cases h
  · split at h
    · cases h
    · have htake := r.advance.length_takeWhile fun c => c.isAlpha || decide (c = '-')
      generalize r.advance.takeWhile (fun c => c.isAlpha || decide (c = '-')) = taken at htake h
      have htaken := taken.2.length_bump
      split at h
      · cases h
      · split at h
        · cases h
        · obtain ⟨-, rfl⟩ := Prod.mk.inj (Option.some.inj (Except.ok.inj h))
          omega

theorem EscapeLetter.isItem_toTree (letter : EscapeLetter) (span : Span) : (letter.toTree span).isItem = true := by
  cases letter <;> rfl

theorem readsItem_readEscape (r : Reader) : ReadsItem (r.rest.length - 1) (readEscape r) := by
  have hbump := r.length_bump
  have hnext := r.bump.length_bump
  unfold readEscape
  dsimp only
  split
  · exact yields_fail
  · refine .ite (fun _ => yields_fail) fun _ => ?_
    refine .ite (fun _ => (readsItem_readHex _ _).mono (by omega)) fun _ => ?_
    refine .ite (fun _ => (readsItem_readProperty _ _).mono (by omega)) fun _ => ?_
    refine .ite (fun _ => ReadsItem.ok rfl (by omega)) fun _ => ?_
    split
    · exact yields_fail
    · next letter _ =>
      have hletter := letter.isItem_toTree ⟨r.pos, r.bump.bump.pos⟩
      refine .ite (fun _ => .bind ?_) fun _ => ReadsItem.ok hletter (by omega)
      rintro (_ | ⟨kind, s⟩) hs
      · exact ReadsItem.ok hletter (by omega)
      · have hboundary := length_readSpecialBoundary hs
        exact ReadsItem.ok rfl (by omega)

/-! ## Bracket classes -/

theorem leaves_readClassPrimitive (r : Reader) : Leaves (r.rest.length - 1) (readClassPrimitive r) := by
  unfold readClassPrimitive
  split
  · exact Yields.mono (readsItem_readEscape r) fun _ h => h.2
  · exact Leaves.ok (Nat.le_of_eq r.length_bump)
  · exact yields_fail

theorem leaves_readClassItem (frames : List ClassFrame) (r : Reader) :
    Leaves r.rest.length (readClassItem frames r) := by
  refine .bind ?_
  rintro ⟨first, s⟩ hs
  have hfirst := (leaves_readClassPrimitive _).length hs
  have hskip := s.length_skipBlanks
  have hadvance := s.skipBlanks.length_advance
  dsimp only
  split
  · exact .error
  · refine .ite (fun _ => .bind fun _ _ => Leaves.ok (by omega)) fun _ => ?_
    refine .ite (fun _ => .error) fun _ => .bind ?_
    rintro ⟨last, u⟩ hu
    have hlast := (leaves_readClassPrimitive _).length hu
    have hleft : u.rest.length ≤ r.rest.length := by omega
    exact .bind fun _ _ => .bind fun _ _ => .ite (fun _ => Leaves.ok hleft) fun _ => yields_fail

theorem length_readAsciiClass? {item : ClassTree} {s : Reader} (h : readAsciiClass? r = some (item, s)) :
    s.rest.length ≤ r.rest.length := by
  unfold readAsciiClass? at h
  obtain ⟨inner, hinner, h⟩ := Option.bind_eq_some_iff.1 h
  obtain ⟨next, hnext, h⟩ := Option.bind_eq_some_iff.1 h
  obtain ⟨kind, -, h⟩ := Option.bind_eq_some_iff.1 h
  obtain ⟨-, rfl⟩ := Prod.mk.inj (Option.some.inj h)
  have hopen := Reader.length_past? hinner
  have hclose := Reader.length_past? hnext
  have hsign : ((inner.past? ['^']).getD inner).rest.length ≤ inner.rest.length := by
    cases hs : inner.past? ['^'] with
    | none => exact Nat.le_refl _
    | some s => exact (Reader.length_past? hs).trans_le (Nat.sub_le _ _)
  rw [Reader.length_bumpN] at hclose
  omega

theorem leaves_readLeading (start : Position) (r : Reader) : Leaves r.rest.length (readLeading start r) := by
  have htake := r.length_takePlaced (· = '-')
  unfold readLeading
  dsimp only
  generalize r.takePlaced (· = '-') = taken at htake
  refine .bind fun next hnext => ?_
  obtain ⟨rfl, -⟩ := Reader.eq_of_unlessEnd hnext
  have hadvance := taken.2.length_advance
  exact .ite (fun _ => Leaves.ok (by omega)) fun _ => Leaves.ok htake

namespace ClassMachine

variable {m n : ClassMachine}

theorem length_openBracket (h : openBracket m = .ok n) : n.reader.rest.length ≤ m.reader.rest.length := by
  unfold openBracket at h
  obtain ⟨r, hr, h⟩ := bind_eq_ok.1 h
  obtain ⟨s, hs, h⟩ := bind_eq_ok.1 h
  obtain ⟨⟨level, u⟩, hu, h⟩ := bind_eq_ok.1 h
  obtain ⟨v, hv, h⟩ := bind_eq_ok.1 h
  obtain rfl := Except.ok.inj h
  obtain ⟨rfl, -⟩ := Reader.eq_of_unlessEnd hr
  obtain ⟨rfl, -⟩ := Reader.eq_of_unlessEnd hs
  obtain ⟨rfl, -⟩ := Reader.eq_of_unlessEnd hv
  have hadvance := m.reader.length_advance
  have hleading := (leaves_readLeading _ _).length hu
  dsimp only
  split at hleading
  · have hsign := m.reader.advance.length_advance
    omega
  · omega

theorem length_openItem (h : m.openItem = .ok n) : n.reader.rest.length ≤ m.reader.rest.length := by
  unfold openItem at h
  split at h
  · next item s hitem =>
    obtain rfl := Except.ok.inj h
    split at hitem
    · cases hitem
    · exact length_readAsciiClass? hitem
  · exact length_openBracket h

/-- What is left behind a step: as much as before at most, less where the class is finished. -/
def LeavesClass (n : Nat) : ClassMachine ⊕ (Tree × Reader) → Prop :=
  Sum.elim (fun m => m.reader.rest.length ≤ n) fun x => x.1.isItem = true ∧ x.2.rest.length ≤ n - 1

theorem leaves_closeBracket {x : ClassMachine ⊕ (Tree × Reader)} (h : m.closeBracket = .ok x) :
    LeavesClass m.reader.rest.length x := by
  have hbump := m.reader.length_bump
  unfold closeBracket at h
  dsimp only at h
  split at h
  · split at h
    · obtain rfl := Except.ok.inj h
      exact ⟨rfl, Nat.le_of_eq hbump⟩
    · obtain rfl := Except.ok.inj h
      exact hbump.trans_le (Nat.sub_le _ _)
  · cases h

theorem leaves_step {x : ClassMachine ⊕ (Tree × Reader)} (h : m.step = .ok x) :
    LeavesClass m.reader.rest.length x := by
  have hskip := m.reader.length_skipBlanks
  unfold step at h
  dsimp only at h
  split at h
  · cases h
  · split at h
    · obtain ⟨n, hn, h⟩ := bind_eq_ok.1 h
      obtain rfl := Except.ok.inj h
      exact (length_openItem hn).trans hskip
    · split at h
      · have hclose := leaves_closeBracket h
        cases x with
        | inl n => exact hclose.trans hskip
        | inr y => exact ⟨hclose.1, hclose.2.trans (Nat.sub_le_sub_right hskip 1)⟩
      · split at h
        · obtain rfl := Except.ok.inj h
          exact (Reader.length_bumpN 2 _).trans_le ((Nat.sub_le _ _).trans hskip)
        · obtain ⟨⟨item, s⟩, hs, h⟩ := bind_eq_ok.1 h
          obtain rfl := Except.ok.inj h
          exact ((leaves_readClassItem _ _).length hs).trans hskip

/-- A class leaves fewer characters than it finds. -/
theorem readsItem_run (fuel : Nat) (m : ClassMachine) : ReadsItem (m.reader.rest.length - 1) (m.run fuel) := by
  induction fuel generalizing m with
  | zero => exact .error
  | succ fuel ih =>
    refine .bind ?_
    rintro (n | ⟨tree, s⟩) hstep
    · have hleft : n.reader.rest.length ≤ m.reader.rest.length := leaves_step hstep
      exact (ih n).mono (by omega)
    · exact Yields.ok (leaves_step hstep)

end ClassMachine

theorem readsItem_readBracket (r : Reader) : ReadsItem (r.rest.length - 1) (readBracket r) :=
  ClassMachine.readsItem_run _ _

/-! ## Counted repetitions -/

theorem length_readDecimal {x : Except Fault Nat} {s : Reader} (h : readDecimal r = (x, s)) :
    s.rest.length ≤ r.rest.length := by
  have hdrop := r.length_dropBlanks
  have htake := r.dropBlanks.length_takeWhile Char.isDigit
  unfold readDecimal at h
  dsimp only at h
  generalize r.dropBlanks.takeWhile Char.isDigit = taken at htake h
  have hlast := taken.2.length_dropBlanks
  rw [← (Prod.mk.inj h).2]
  omega

theorem leaves_readBounds (start : Position) (min : Except Fault Nat) (r : Reader) :
    Leaves r.rest.length (readBounds start min r) := by
  have hadvance := r.length_advance
  refine .ite (fun _ => .bind fun s hs => .bind fun n _ => ?_) fun _ => .bind fun n _ => Leaves.ok (Nat.le_refl _)
  obtain ⟨rfl, -⟩ := Reader.eq_of_unlessEnd hs
  rcases hd : readDecimal r.advance with ⟨max, u⟩
  have hdecimal := length_readDecimal hd
  have hleft : u.rest.length ≤ r.rest.length := by omega
  exact .ite (fun _ => Leaves.ok (by omega)) fun _ => .bind fun _ _ => Leaves.ok hleft

theorem leaves_readCount (r : Reader) : Leaves (r.rest.length - 1) (readCount r) := by
  have hadvance := r.length_advance
  refine .bind fun s hs => ?_
  obtain ⟨rfl, -⟩ := Reader.eq_of_unlessEnd hs
  rcases hd : readDecimal r.advance with ⟨min, u⟩
  have hdecimal := length_readDecimal hd
  refine .bind fun v hv => .bind ?_
  obtain ⟨rfl, -⟩ := Reader.eq_of_unlessEnd hv
  rintro ⟨bounds, w⟩ hw
  have hbounds := (leaves_readBounds _ _ _).length hw
  exact .ite (fun _ => Leaves.ok (show w.rest.length ≤ _ by omega)) fun _ => yields_fail

/-! ## Openings of groups -/

theorem length_readFlags {cs rest : List Char} {p pos : Position} {sign : Option Span}
    {items items' : List FlagItem} (h : readFlags cs p sign items = .ok (items', rest, pos)) :
    rest.length ≤ cs.length := by
  induction cs generalizing p sign items with
  | nil => cases h
  | cons c cs ih =>
    simp only [readFlags] at h
    rw [List.length_cons]
    split at h
    · split at h
      · cases h
      · obtain ⟨-, hrest⟩ := Prod.mk.inj (Except.ok.inj h)
        rw [← (Prod.mk.inj hrest).1, List.length_cons]
    · split at h
      · split at h
        · cases h
        · exact (ih h).trans (Nat.le_succ _)
      · split at h
        · cases h
        · split at h
          · cases h
          · exact (ih h).trans (Nat.le_succ _)

theorem length_readNameChars {cs rest name name' : List Char} {p pos : Position}
    (h : readNameChars cs p name = .ok (name', rest, pos)) : rest.length ≤ cs.length := by
  induction cs generalizing p name with
  | nil => cases h
  | cons c cs ih =>
    rw [readNameChars] at h
    rw [List.length_cons]
    split at h
    · obtain ⟨-, hrest⟩ := Prod.mk.inj (Except.ok.inj h)
      rw [← (Prod.mk.inj hrest).1, List.length_cons]
    · split at h
      · exact (ih h).trans (Nat.le_succ _)
      · cases h

theorem leaves_readCaptureName (r : Reader) : Leaves r.rest.length (readCaptureName r) := by
  refine .bind ?_
  rintro ⟨name, rest, stop⟩ hname
  have hlength := length_readNameChars hname
  dsimp only
  refine .ite (fun _ => yields_fail) fun _ => ?_
  split
  · exact .error
  · refine Leaves.ok ?_
    rw [Reader.length_bump]
    exact (Nat.sub_le _ _).trans hlength

theorem leaves_readNamedGroup (r : Reader) : Leaves r.rest.length (readNamedGroup r) := by
  refine .bind ?_
  rintro ⟨name, s⟩ hs
  exact Leaves.ok ((leaves_readCaptureName { r with captures := r.captures + 1 }).length hs)

theorem leaves_readFlagged (start mark : Position) (r : Reader) :
    Leaves r.rest.length (readFlagged start mark r) := by
  refine .ite (fun _ => yields_fail) fun _ => .bind ?_
  rintro ⟨items, rest, pos⟩ hitems
  have hlength := length_readFlags hitems
  have hbump := ({ r with rest, pos } : Reader).length_bump
  dsimp only at hbump ⊢
  exact .ite (fun _ => .ite (fun _ => yields_fail) fun _ => Leaves.ok (by omega)) fun _ => Leaves.ok (by omega)

theorem leaves_readGroupStart (r : Reader) : Leaves (r.rest.length - 1) (readGroupStart r) := by
  have hadvance := r.length_advance
  unfold readGroupStart
  dsimp only
  split
  · exact yields_fail
  · split
    · next s hs =>
      have hpast : s.rest.length ≤ r.advance.rest.length := by
        rcases Option.or_eq_some_iff.1 hs with hs | ⟨-, hs⟩
        · exact (Reader.length_past? hs).trans_le (Nat.sub_le _ _)
        · exact (Reader.length_past? hs).trans_le (Nat.sub_le _ _)
      exact (leaves_readNamedGroup s).mono (by omega)
    · split
      · next s hs =>
        have hpast := Reader.length_past? hs
        exact (leaves_readFlagged _ _ s).mono (by omega)
      · exact Leaves.ok (Nat.le_of_eq r.length_bump)

/-! ## The machine -/

namespace Machine

variable {m n : Machine}

theorem length_push {x : Except Fault (Tree × Reader)} {k : Nat} (hx : ReadsItem k x) (h : m.push x = .ok n) :
    n.reader.rest.length ≤ k := by
  obtain ⟨⟨item, s⟩, hs, h⟩ := bind_eq_ok.1 h
  exact Except.ok.inj h ▸ hx.length hs

theorem length_repeatBy {count : Count} (h : m.repeatBy count = .ok n) :
    n.reader.rest.length ≤ m.reader.rest.length - 1 := by
  have hbump := m.reader.length_bump
  have hlazy := m.reader.bump.length_bump
  obtain ⟨⟨sub, level⟩, -, h⟩ := bind_eq_ok.1 h
  obtain rfl := Except.ok.inj h
  dsimp only
  split <;> omega

theorem length_repeatCounted (h : m.repeatCounted = .ok n) :
    n.reader.rest.length ≤ m.reader.rest.length - 1 := by
  obtain ⟨⟨sub, level⟩, -, h⟩ := bind_eq_ok.1 h
  obtain ⟨⟨⟨min, max⟩, r⟩, hr, h⟩ := bind_eq_ok.1 h
  have hcount := (leaves_readCount _).length hr
  have hbump := r.length_bump
  have hadvance := r.length_advance
  have hlazy := r.advance.length_bump
  dsimp only at h
  split at h
  · obtain rfl := Except.ok.inj h
    dsimp only
    split <;> omega
  · cases h

theorem length_openGroup (h : m.openGroup = .ok n) : n.reader.rest.length ≤ m.reader.rest.length - 1 := by
  obtain ⟨⟨what, r⟩, hr, h⟩ := bind_eq_ok.1 h
  have hleft := (leaves_readGroupStart _).length hr
  cases what with
  | setting _ _ => exact Except.ok.inj h ▸ hleft
  | opened _ _ => exact Except.ok.inj h ▸ hleft

theorem length_closeGroup (h : m.closeGroup = .ok n) : n.reader.rest.length ≤ m.reader.rest.length - 1 := by
  unfold closeGroup at h
  dsimp only at h
  split at h
  · cases h
  · exact Except.ok.inj h ▸ Nat.le_of_eq m.reader.length_bump

/-- A step leaves fewer characters than it finds. -/
theorem length_step {c : Char} (h : m.step c = .ok n) : n.reader.rest.length ≤ m.reader.rest.length - 1 := by
  have hbump := Nat.le_of_eq m.reader.length_bump
  unfold step at h
  dsimp only at h
  split at h
  · exact length_openGroup h
  · exact length_closeGroup h
  · exact Except.ok.inj h ▸ hbump
  · exact length_push (readsItem_readBracket _) h
  · exact length_repeatBy h
  · exact length_repeatBy h
  · exact length_repeatBy h
  · exact length_repeatCounted h
  · exact length_push (readsItem_readEscape _) h
  · exact length_push (.ok rfl hbump) h
  · exact length_push (.ok rfl hbump) h
  · exact length_push (.ok rfl hbump) h
  · exact length_push (.ok rfl hbump) h

/-- As many rounds as there are characters, and one to find the end, are enough: more change nothing. -/
theorem read_of_length_lt {fuel : Nat} (h : m.reader.rest.length < fuel) (k : Nat) :
    m.read (fuel + k) = m.read fuel := by
  induction fuel generalizing m with
  | zero => exact absurd h (Nat.not_lt_zero _)
  | succ fuel ih =>
    have hskip := m.reader.length_skipBlanks
    cases hrest : m.reader.skipBlanks.rest with
    | nil => rw [Nat.add_right_comm, read_end hrest, read_end hrest]
    | cons c cs =>
      rw [Nat.add_right_comm, read_skip hrest, read_skip hrest]
      cases hstep : { m with reader := m.reader.skipBlanks }.step c with
      | error e => rfl
      | ok n =>
        have hleft : n.reader.rest.length ≤ m.reader.skipBlanks.rest.length - 1 := length_step hstep
        rw [hrest, List.length_cons] at hskip hleft
        exact ih (by omega)

end Machine

end TextPattern.Syntax
