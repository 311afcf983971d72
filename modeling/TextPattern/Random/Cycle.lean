import TextPattern.Random.Source

/-!
# A source of given words

`Cycle` : gives its words in turn and starts again behind the last.
-/

namespace TextPattern.Random

/-- Words that are given in turn, and how many were drawn. -/
structure Cycle where
  words : Array UInt32
  drawn : Nat := 0
deriving Repr

def Cycle.next (c : Cycle) : UInt32 × Cycle :=
  (c.words[c.drawn % c.words.size]?.getD 0, { c with drawn := c.drawn + 1 })

instance : Source Cycle := ⟨Cycle.next⟩

end TextPattern.Random
