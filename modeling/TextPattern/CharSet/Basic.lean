/-!
# Sets of code points

* `CharSet` : a set of code points, kept as the ascending list of the code points at which
  membership changes;
* `CharSet.mem` : membership of a code point, `CharSet.contains` of a character;
* `CharSet.combine` : the set whose membership is a given connective of two memberships
  (`CharSet.mem_combine`), from which `union`, `inter`, `diff`, `symmDiff` and `compl` come;
* `CharSet.ofRanges`, `CharSet.ranges` : the view as closed ranges, in ascending order.
-/

namespace TextPattern

/-- A set of code points: `cuts` lists in ascending order where membership changes, starting from
"outside" before code point 0. -/
structure CharSet where
  cuts : List Nat
  ascending : cuts.Pairwise (· < ·)
deriving DecidableEq, Repr

namespace CharSet

/-- Membership of `c` given the cuts still ahead and the membership before them. -/
def holds : List Nat → Bool → Nat → Bool
  | [], inside, _ => inside
  | cut :: cuts, inside, c => if c < cut then inside else holds cuts (!inside) c

def mem (s : CharSet) (c : Nat) : Bool := holds s.cuts false c

def contains (s : CharSet) (c : Char) : Bool := s.mem c.toNat

def ascends : List Nat → Bool
  | a :: b :: rest => a < b && ascends (b :: rest)
  | _ => true

theorem pairwise_of_ascends : ∀ {l : List Nat}, ascends l = true → l.Pairwise (· < ·)
  | [], _ => .nil
  | [_], _ => List.pairwise_singleton _ _
  | a :: b :: rest, h => by
    simp only [ascends, Bool.and_eq_true, decide_eq_true_eq] at h
    have ih := pairwise_of_ascends h.2
    refine .cons (fun x hx => ?_) ih
    rcases List.mem_cons.1 hx with rfl | hx
    · exact h.1
    · exact Nat.lt_trans h.1 (List.rel_of_pairwise_cons ih hx)

/-! ## Construction -/

def empty : CharSet := ⟨[], .nil⟩

instance : Inhabited CharSet := ⟨empty⟩

def full : CharSet := ⟨[0, 0x110000], by decide⟩

/-- The code points from `lo` to `hi`, both included. -/
def range (lo hi : Nat) : CharSet :=
  if h : lo ≤ hi then ⟨[lo, hi + 1], List.pairwise_pair.2 (Nat.lt_succ_of_le h)⟩ else empty

def single (c : Char) : CharSet := ⟨[c.toNat, c.toNat + 1], List.pairwise_pair.2 (Nat.lt_succ_self _)⟩

/-! ## Connectives -/

/-- The cuts from `cut` on, where the membership becomes `new`; `tail` has the cuts behind it. -/
def emit (cut : Nat) (out new : Bool) (tail : List Nat) : List Nat :=
  if new = out then tail else cut :: tail

/-- The merge of `combine` while the left list has the next cut `a`; `rest` continues once that
cut has been passed. `l`, `r` and `out` are the memberships reached so far. -/
def combineAt (f : Bool → Bool → Bool) (a : Nat) (rest : List Nat → Bool → Bool → List Nat)
    (l : Bool) : List Nat → Bool → Bool → List Nat
  | [], r, out => emit a out (f (!l) r) (rest [] r (f (!l) r))
  | b :: bs, r, out =>
    if b < a then emit b out (f l (!r)) (combineAt f a rest l bs (!r) (f l (!r)))
    else if a < b then emit a out (f (!l) r) (rest (b :: bs) r (f (!l) r))
    else emit a out (f (!l) (!r)) (rest bs (!r) (f (!l) (!r)))

/-- The merge of `combine` once the left list is used up. -/
def combineRight (f : Bool → Bool → Bool) (l : Bool) : List Nat → Bool → Bool → List Nat
  | [], _, _ => []
  | b :: bs, r, out => emit b out (f l (!r)) (combineRight f l bs (!r) (f l (!r)))

/-- The merge of two ascending lists of cuts under the connective `f`. -/
def combineCuts (f : Bool → Bool → Bool) :
    List Nat → Bool → List Nat → Bool → Bool → List Nat
  | [], l, bs, r, out => combineRight f l bs r out
  | a :: as, l, bs, r, out => combineAt f a (combineCuts f as (!l)) l bs r out

def From (n : Nat) (l : List Nat) : Prop := l.Pairwise (· < ·) ∧ ∀ x ∈ l, n ≤ x

theorem From.nil (n : Nat) : From n [] := ⟨.nil, by simp⟩

theorem From.mono {m n : Nat} {l : List Nat} (h : From n l) (hmn : m ≤ n) : From m l :=
  ⟨h.1, fun x hx => Nat.le_trans hmn (h.2 x hx)⟩

theorem from_cons {n a : Nat} {l : List Nat} : From n (a :: l) ↔ n ≤ a ∧ From (a + 1) l := by
  simp only [From, List.pairwise_cons, List.forall_mem_cons]
  constructor
  · rintro ⟨⟨hlt, hl⟩, hna, -⟩
    exact ⟨hna, hl, fun x hx => hlt x hx⟩
  · rintro ⟨hna, hl, hlt⟩
    exact ⟨⟨fun x hx => hlt x hx, hl⟩, hna, fun x hx => by have := hlt x hx; omega⟩

theorem holds_of_lt {n c : Nat} {l : List Nat} {inside : Bool} (h : From n l) (hc : c < n) :
    holds l inside c = inside := by
  cases l with
  | nil => rfl
  | cons a l =>
    have := (from_cons.1 h).1
    simp only [holds, if_pos (show c < a by omega)]

theorem from_emit {n cut : Nat} {out new : Bool} {tail : List Nat} (hn : n ≤ cut)
    (h : From (cut + 1) tail) : From n (emit cut out new tail) := by
  unfold emit
  split
  · exact h.mono (by omega)
  · exact from_cons.2 ⟨hn, h⟩

theorem holds_emit {cut : Nat} {out new : Bool} {tail : List Nat} (h : From (cut + 1) tail)
    (c : Nat) : holds (emit cut out new tail) out c = if c < cut then out else holds tail new c := by
  unfold emit
  split
  · rename_i hsame
    subst hsame
    split
    · exact holds_of_lt h (by omega)
    · rfl
  · rename_i hdiff
    rw [holds, ← Bool.eq_not_of_ne hdiff]

section Merge

variable {f : Bool → Bool → Bool}

/-- What a merge of the cuts `as` with others has to keep: the outcome ascends, and its membership is
the connective of the two. -/
def Merges (f : Bool → Bool → Bool) (as : List Nat) (l : Bool) (n : Nat)
    (merge : List Nat → Bool → Bool → List Nat) : Prop :=
  ∀ bs r out, From n bs → From n (merge bs r out) ∧
    (out = f l r → ∀ c, holds (merge bs r out) out c = f (holds as l c) (holds bs r c))

theorem merges_combineRight (l : Bool) (n : Nat) : Merges f [] l n (combineRight f l) := by
  intro bs
  induction bs generalizing n with
  | nil => exact fun _ _ _ => ⟨From.nil n, fun hout _ => hout⟩
  | cons b bs ih =>
    intro r out h
    obtain ⟨hnb, hbs⟩ := from_cons.1 h
    obtain ⟨hfrom, hmem⟩ := ih (b + 1) (!r) (f l (!r)) hbs
    refine ⟨from_emit hnb hfrom, fun hout c => ?_⟩
    rw [combineRight, holds_emit hfrom, hmem rfl, hout]
    by_cases hc : c < b <;> simp only [holds, hc, if_true, if_false]

theorem merges_combineAt {a : Nat} {as : List Nat} {l : Bool}
    {rest : List Nat → Bool → Bool → List Nat} (hrest : Merges f as (!l) (a + 1) rest) {n : Nat}
    (hna : n ≤ a) :
    Merges f (a :: as) l n (combineAt f a rest l) := by
  intro bs
  induction bs generalizing n with
  | nil =>
    intro r out _
    obtain ⟨hfrom, hmem⟩ := hrest [] r (f (!l) r) (From.nil _)
    refine ⟨from_emit hna hfrom, fun hout c => ?_⟩
    rw [combineAt, holds_emit hfrom, hmem rfl, hout]
    by_cases hc : c < a <;> simp only [holds, hc, if_true, if_false]
  | cons b bs ih =>
    intro r out h
    obtain ⟨hnb, hbs⟩ := from_cons.1 h
    simp only [combineAt]
    -- The smaller of the two next cuts is passed first; both are when they are equal.
    split
    · rename_i hba
      obtain ⟨hfrom, hmem⟩ := ih (n := b + 1) (by omega) (!r) (f l (!r)) hbs
      refine ⟨from_emit hnb hfrom, fun hout c => ?_⟩
      rw [holds_emit hfrom, hmem rfl, hout]
      by_cases hc : c < b
      · simp only [holds, hc, show c < a by omega, if_true]
      · simp only [holds, hc, if_false]
    · split
      · rename_i hab
        obtain ⟨hfrom, hmem⟩ := hrest (b :: bs) r (f (!l) r) (from_cons.2 ⟨hab, hbs⟩)
        refine ⟨from_emit hna hfrom, fun hout c => ?_⟩
        rw [holds_emit hfrom, hmem rfl, hout]
        by_cases hc : c < a
        · simp only [holds, hc, show c < b by omega, if_true]
        · simp only [holds, hc, if_false]
      · obtain rfl : a = b := by omega
        obtain ⟨hfrom, hmem⟩ := hrest bs (!r) (f (!l) (!r)) hbs
        refine ⟨from_emit hna hfrom, fun hout c => ?_⟩
        rw [holds_emit hfrom, hmem rfl, hout]
        by_cases hc : c < a <;> simp only [holds, hc, if_true, if_false]

theorem merges_combineCuts : ∀ {as : List Nat} {l : Bool} {n : Nat}, From n as →
    Merges f as l n (combineCuts f as l)
  | [], _, _, _ => merges_combineRight _ _
  | _ :: _, _, _, has =>
    merges_combineAt (merges_combineCuts (from_cons.1 has).2) (from_cons.1 has).1

end Merge

theorem from_cuts (s : CharSet) : From 0 s.cuts := ⟨s.ascending, fun _ _ => Nat.zero_le _⟩

/-- The set whose membership is `f` of the two memberships. What is in neither set is not in it. -/
def combine (f : Bool → Bool → Bool) (s t : CharSet) : CharSet :=
  ⟨combineCuts f s.cuts false t.cuts false false,
    (merges_combineCuts s.from_cuts _ _ _ t.from_cuts).1.1⟩

theorem mem_combine {f : Bool → Bool → Bool} (hf : f false false = false) (s t : CharSet) (c : Nat) :
    (combine f s t).mem c = f (s.mem c) (t.mem c) :=
  (merges_combineCuts s.from_cuts _ _ _ t.from_cuts).2 hf.symm c

def union (s t : CharSet) : CharSet := combine (· || ·) s t

def inter (s t : CharSet) : CharSet := combine (· && ·) s t

def diff (s t : CharSet) : CharSet := combine (fun l r => l && !r) s t

def symmDiff (s t : CharSet) : CharSet := combine (fun l r => l != r) s t

def compl (s : CharSet) : CharSet := diff full s

def unions (sets : List CharSet) : CharSet := sets.foldl union empty

/-! ## Ranges -/

/-- The set with the code points from `lo` to `hi` added, all of which should be below its members. -/
def addBelow (lo hi : Nat) (s : CharSet) : CharSet :=
  match hs : s.cuts with
  | [] => range lo hi
  | next :: cuts =>
    if h : lo ≤ hi ∧ hi + 1 < next then
      ⟨lo :: (hi + 1) :: next :: cuts, by
        have hnext := (from_cons.1 (hs ▸ s.from_cuts)).2
        have : From 0 (lo :: (hi + 1) :: next :: cuts) := by
          simp only [from_cons]
          exact ⟨Nat.zero_le _, by omega, by omega, hnext⟩
        exact this.1⟩
    else if h : lo ≤ hi ∧ hi + 1 = next then
      ⟨lo :: cuts, by
        have hnext := (from_cons.1 (hs ▸ s.from_cuts)).2
        have : From 0 (lo :: cuts) := from_cons.2 ⟨Nat.zero_le _, hnext.mono (by omega)⟩
        exact this.1⟩
    else (range lo hi).union s

/-- The set of closed ranges, which should ascend. -/
def ofRanges : List (Nat × Nat) → CharSet
  | [] => empty
  | (lo, hi) :: rest => addBelow lo hi (ofRanges rest)

def rangesOfCuts : List Nat → List (Nat × Nat)
  | lo :: hi :: rest => (lo, hi - 1) :: rangesOfCuts rest
  | [lo] => [(lo, 0x10FFFF)]
  | [] => []

def ranges (s : CharSet) : List (Nat × Nat) := rangesOfCuts s.cuts

def isEmpty (s : CharSet) : Bool := s.cuts.isEmpty

/-- Every member is below 128. -/
def isAscii (s : CharSet) : Bool := s.ranges.all fun r => r.2 < 128

/-! ## Membership -/

@[simp] theorem mem_empty (c : Nat) : empty.mem c = false := rfl

theorem mem_range (lo hi c : Nat) : (range lo hi).mem c = (decide (lo ≤ c) && decide (c ≤ hi)) := by
  unfold range mem
  split
  · simp only [holds]
    split
    · have : ¬ lo ≤ c := by omega
      simp [this]
    · split <;> simp <;> omega
  · have : ¬ (lo ≤ c ∧ c ≤ hi) := by omega
    simp only [empty, holds]
    by_cases h : lo ≤ c
    · simp [h]
      omega
    · simp [h]

theorem contains_single (a c : Char) : (single a).contains c = decide (c = a) := by
  have h : c = a ↔ c.toNat = a.toNat := ⟨fun h => h ▸ rfl, fun h => Char.toNat_inj.1 h⟩
  simp only [single, contains, mem, holds, h]
  split
  · simp; omega
  · split <;> simp <;> omega

theorem mem_union (s t : CharSet) (c : Nat) : (union s t).mem c = (s.mem c || t.mem c) :=
  mem_combine rfl s t c

theorem mem_foldl_union (sets : List CharSet) (s : CharSet) (c : Nat) :
    (sets.foldl union s).mem c = (s.mem c || sets.any (·.mem c)) := by
  induction sets generalizing s with
  | nil => simp
  | cons t sets ih => rw [List.foldl_cons, ih, mem_union, List.any_cons, Bool.or_assoc]

theorem mem_unions (sets : List CharSet) (c : Nat) : (unions sets).mem c = sets.any (·.mem c) := by
  rw [unions, mem_foldl_union, mem_empty, Bool.false_or]

end CharSet

end TextPattern
