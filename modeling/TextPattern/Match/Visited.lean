/-!
# Sets of visited configurations

* `Visited` : a set of natural numbers, kept as a binary tree over their digits;
* `Visited.contains`, `Visited.insert` : membership and insertion;
* `contains_empty`, `contains_insert` : the set holds exactly what was inserted.
-/

namespace TextPattern

/-- A set of natural numbers. `here` tells whether 0 is a member; `even` holds the halves of the even
members above 0, `odd` the halves, rounded down, of the odd members. -/
inductive Visited where
  | empty
  | node (here : Bool) (even odd : Visited)
deriving Repr, Inhabited

namespace Visited

def contains : Visited → Nat → Bool
  | empty, _ => false
  | node here even odd, n =>
    if n = 0 then here else if n % 2 = 0 then even.contains (n / 2) else odd.contains (n / 2)

/-- The set with `n`, a number of at most `bits` binary digits, added. -/
def insertBits : (bits : Nat) → Nat → Visited → Visited
  | 0, _, empty => node true empty empty
  | 0, _, node _ even odd => node true even odd
  | bits + 1, n, s =>
    match s with
    | empty =>
      if n = 0 then node true empty empty
      else if n % 2 = 0 then node false (insertBits bits (n / 2) empty) empty
      else node false empty (insertBits bits (n / 2) empty)
    | node here even odd =>
      if n = 0 then node true even odd
      else if n % 2 = 0 then node here (insertBits bits (n / 2) even) odd
      else node here even (insertBits bits (n / 2) odd)

def insert (s : Visited) (n : Nat) : Visited := insertBits (n.log2 + 1) n s

@[simp] theorem contains_empty (n : Nat) : empty.contains n = false := rfl

theorem half_beq {n m : Nat} (h : n % 2 = m % 2) : (m / 2 == n / 2) = (m == n) := by
  rw [Bool.eq_iff_iff, beq_iff_eq, beq_iff_eq]
  omega

theorem contains_insertBits (bits n m : Nat) (s : Visited) (h : n < Nat.pow 2 bits) :
    (insertBits bits n s).contains m = (m == n || s.contains m) := by
  induction bits generalizing n m s with
  | zero =>
    have hn : n = 0 := by simpa using h
    subst hn
    cases s <;> by_cases hm : m = 0 <;> simp [insertBits, contains, hm]
  | succ bits ih =>
    have hlt : n / 2 < Nat.pow 2 bits := by
      have : Nat.pow 2 (bits + 1) = Nat.pow 2 bits * 2 := rfl
      omega
    have key : ∀ t m', (insertBits bits (n / 2) t).contains m' = (m' == n / 2 || t.contains m') :=
      fun t m' => ih (n / 2) m' t hlt
    by_cases hn : n = 0
    · subst hn
      cases s <;> by_cases hm : m = 0 <;> simp [insertBits, contains, hm]
    · by_cases hm : m = 0
      · subst hm
        have : (0 == n) = false := by simpa using Ne.symm hn
        cases s <;> by_cases hp : n % 2 = 0 <;> simp [insertBits, contains, hn, hp, this]
      · by_cases hp : n % 2 = 0 <;> by_cases hq : m % 2 = 0
        · cases s <;> simp [insertBits, contains, hn, hm, hp, hq, key, half_beq (hp.trans hq.symm)]
        · have : (m == n) = false := by simp; omega
          cases s <;> simp [insertBits, contains, hn, hm, hp, hq, this]
        · have : (m == n) = false := by simp; omega
          cases s <;> simp [insertBits, contains, hn, hm, hp, hq, this]
        · have heq : n % 2 = m % 2 := by omega
          cases s <;> simp [insertBits, contains, hn, hm, hp, hq, key, half_beq heq]

theorem contains_insert (s : Visited) (n m : Nat) :
    (s.insert n).contains m = (m == n || s.contains m) :=
  contains_insertBits _ n m s (Nat.lt_log2_self)

end Visited

end TextPattern
