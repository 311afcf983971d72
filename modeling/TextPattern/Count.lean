/-!
# Counts of repetitions

* `Count` : how often a repetition takes its operand;
* `Count.capped` : the count that is left where a second round changes nothing.
-/

namespace TextPattern

/-- How often a repetition takes its operand: at least `min` times, and at most `max` times if that is
given. -/
structure Count where
  min : Nat
  max : Option Nat
  ordered : ∀ m ∈ max, min ≤ m
deriving DecidableEq, Repr

namespace Count

def optional : Count := ⟨0, some 1, by simp⟩

def unlimited : Count := ⟨0, none, by simp⟩

def positive : Count := ⟨1, none, by simp⟩

/-- The count with every number above 1 taken as 1, and no limit as 1. -/
def capped (c : Count) : Count where
  min := if c.min = 0 then 0 else 1
  max := some (if c.max = some 0 then 0 else 1)
  ordered := by
    have h := c.ordered
    by_cases hm : c.max = some 0
    · have h0 : c.min = 0 := by simpa using h 0 (by simp [hm])
      simp [hm, h0]
    · simp only [hm, if_false, Option.mem_some_iff]
      split <;> omega

end Count

end TextPattern
