/-!
# Faults of a YAML text

* `Mark` : a place in a text, by line and column from 0;
* `Fault` : why a text is not read, with its wording in `Fault.message`.

A place is described unless it is the very start of the text.
-/

namespace TextPattern.Yaml

/-- A place in a text: line and column from 0. -/
structure Mark where
  line : Nat
  column : Nat
deriving DecidableEq, Repr, Inhabited

namespace Mark

def first : Mark := ⟨0, 0⟩

def describe (m : Mark) : String :=
  "line " ++ toString (m.line + 1) ++ " column " ++ toString (m.column + 1)

def nextColumn (m : Mark) : Mark := { m with column := m.column + 1 }

def nextLine (m : Mark) : Mark := ⟨m.line + 1, 0⟩

/-- The description of a place behind other words; none for the start of the text. -/
def suffix (m : Mark) : String := if m = first then "" else " at " ++ m.describe

end Mark

/-- What a node was while something else was expected. -/
inductive Found where
  | unit | sequence | mapping
  | integer (text : String)
  /-- An integer that does not fit 64 bits. -/
  | wideInteger (value : Int)
  | float (text : String)
  | boolean (value : Bool)
  | text (value : String)
deriving DecidableEq, Repr

inductive Fault where
  /-- The form of the text is wrong at `place`, in something that began at the place of `context`. -/
  | malformed (problem : String) (place : Mark) (context : Option (String × Mark))
  /-- The text holds a character that may not occur, at a byte offset. -/
  | controlCharacter (offset : Nat)
  /-- An alias has no anchor. -/
  | unknownAnchor (place : Mark)
  /-- The text has more than one document. -/
  | severalDocuments
  /-- The text ends where a value is expected. -/
  | endOfText
  /-- A node is of the wrong type; `path` leads to it. -/
  | wrongType (path : List String) (found : Found) (expected : String) (place : Mark)
  /-- A scalar's tag does not fit its text. -/
  | wrongValue (path : List String) (text expected : String) (place : Mark)
  /-- A field is given twice. -/
  | duplicateField (name : String) (place : Mark)
deriving DecidableEq, Repr

end TextPattern.Yaml
