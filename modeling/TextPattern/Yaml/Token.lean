import TextPattern.Yaml.Fault

/-!
# Tokens of a YAML text

`Token` : a token with the marks of its ends; `Token.Kind` : what it is. Indentation gives tokens without
text of their own: the starts of block collections and their ends.
-/

namespace TextPattern.Yaml

inductive Token.Kind where
  | streamStart | streamEnd | documentStart | documentEnd
  | blockSequence | blockMapping | blockEnd
  | flowSequence | flowSequenceEnd | flowMapping | flowMappingEnd
  | blockEntry | flowEntry | key | value
  | alias (name : String)
  | anchor (name : String)
  | tag (handle rest : String)
  | version (major minor : Nat)
  /-- The text that a handle of tags stands for. -/
  | handle (name text : String)
  | scalar (text : String) (plain : Bool)
deriving DecidableEq, Repr

/-- A token with the marks of its ends. -/
structure Token where
  kind : Token.Kind
  start : Mark
  stop : Mark
deriving DecidableEq, Repr

end TextPattern.Yaml
