import TextPattern.Match.Search

/-!
# Match results

* `MatchResult` : one occurrence by its capture slots;
* `MatchSet` : the occurrences of a pattern in an input, in order.
-/

namespace TextPattern

/-- One occurrence: the texts of its capture slots, the whole of it first, and its byte offsets. A slot
is absent if its group took no part. -/
structure MatchResult where
  groups : List (Option String)
  start : Nat
  stop : Nat
deriving DecidableEq, Repr

namespace MatchResult

def ofOccurrence (o : Occurrence) : MatchResult :=
  ⟨o.slots.map fun slot => slot.map fun c => String.ofList c.text, o.start, o.stop⟩

/-- The text of a slot; none if the slot is absent or there is no such slot. -/
def group? (m : MatchResult) (index : Nat) : Option String := m.groups[index]?.join

def full (m : MatchResult) : String := (m.group? 0).getD ""

def slotCount (m : MatchResult) : Nat := m.groups.length

end MatchResult

/-- The occurrences of one pattern in one input, in order. -/
structure MatchSet where
  results : List MatchResult
deriving DecidableEq, Repr

namespace MatchSet

def empty : MatchSet := ⟨[]⟩

def size (s : MatchSet) : Nat := s.results.length

def isEmpty (s : MatchSet) : Bool := s.results.isEmpty

def get? (s : MatchSet) (index : Nat) : Option MatchResult := s.results[index]?

def fullMatches (s : MatchSet) : List String := s.results.map MatchResult.full

def take (s : MatchSet) (n : Nat) : MatchSet := ⟨s.results.take n⟩

end MatchSet

end TextPattern
