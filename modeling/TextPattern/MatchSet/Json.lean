import TextPattern.Json.Printer
import TextPattern.Json.Reader
import TextPattern.MatchSet

/-!
# Match sets as JSON

* `MatchSet.toJson` : a match set as a list of objects;
* `MatchSet.ofJson?` : the match set of such a list.
-/

namespace TextPattern

/-- The least number that is too large for an offset. -/
def offsetBound : Nat := 0x10000000000000000

namespace MatchResult

def slotToJson : Option String → Json
  | none => .null
  | some text => .text text.toList

def slotOfJson? : Json → Option (Option String)
  | .null => some none
  | .text text => some (some (String.ofList text))
  | _ => none

def toJson (m : MatchResult) : Json := .object [
  ("groups".toList, .list (m.groups.map slotToJson)),
  ("start".toList, .number m.start),
  ("end".toList, .number m.stop)]

def offsetOfJson? : Json → Option Nat
  | .number n => if n < offsetBound then some n else none
  | _ => none

def itemsOfJson? : Json → Option (List Json)
  | .list items => some items
  | _ => none

def ofJson? (v : Json) : Option MatchResult := do
  let groups ← (← itemsOfJson? (← v.field? "groups".toList)).mapM slotOfJson?
  let start ← offsetOfJson? (← v.field? "start".toList)
  let stop ← offsetOfJson? (← v.field? "end".toList)
  return ⟨groups, start, stop⟩

end MatchResult

namespace MatchSet

def toJson (s : MatchSet) : Json := .list (s.results.map MatchResult.toJson)

def ofJson? (v : Json) : Option MatchSet := do
  return ⟨← (← MatchResult.itemsOfJson? v).mapM MatchResult.ofJson?⟩

def ofText? (text : List Char) : Option MatchSet := Json.read? text >>= ofJson?

end MatchSet

end TextPattern
