import TextPattern.Text.Quoted
import TextPattern.Yaml.Fault

/-!
# The wording of faults of a YAML text

* `Found.describe` : what a node was;
* `Fault.message` : the report of a fault.
-/

namespace TextPattern.Yaml

def Found.describe : Found → String
  | .unit => "unit value"
  | .sequence => "sequence"
  | .mapping => "map"
  | .integer digits => "integer \x60" ++ digits ++ "\x60"
  | .wideInteger n =>
    "integer \x60" ++ toString n ++ "\x60 as " ++ (if n < 0 then "i128" else "u128")
  | .float digits => "floating point \x60" ++ digits ++ "\x60"
  | .boolean value => "boolean \x60" ++ (if value then "true" else "false") ++ "\x60"
  | .text value => "string " ++ quoted value

def onPath (path : List String) (message : String) : String :=
  if path.isEmpty then message else ".".intercalate path ++ ": " ++ message

def Fault.message : Fault → String
  | malformed problem place context =>
    let tail := match context with
      | none => ""
      | some (what, start) => ", " ++ what ++ (if start = place then "" else start.suffix)
    problem ++ place.suffix ++ tail
  | controlCharacter offset =>
    "control characters are not allowed" ++
      (if offset = 0 then "" else " at position " ++ toString offset)
  | unknownAnchor place => "unknown anchor" ++ place.suffix
  | severalDocuments =>
    "deserializing from YAML containing more than one document is not supported"
  | endOfText => "EOF while parsing a value"
  | wrongType path found expected place =>
    onPath path ("invalid type: " ++ found.describe ++ ", expected " ++ expected) ++ place.suffix
  | wrongValue path text expected place =>
    onPath path ("invalid value: string " ++ quoted text ++ ", expected " ++ expected) ++
      place.suffix
  | duplicateField name place => "duplicate field \x60" ++ name ++ "\x60" ++ place.suffix

end TextPattern.Yaml
