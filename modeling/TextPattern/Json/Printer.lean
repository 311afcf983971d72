import TextPattern.Json.Basic

/-!
# Writing JSON

* `Json.escape` : a text with escape sequences;
* `Layout` : the blanks between tokens, `Layout.compact` and `Layout.indented`;
* `Json.write` : the text of a value.
-/

namespace TextPattern.Json

/-- How a character is written in a text: quotes, backslashes and controls as escape sequences. -/
def escapeChar (c : Char) : List Char :=
  match c with
  | '"' => ['\\', '"']
  | '\\' => ['\\', '\\']
  | '\n' => ['\\', 'n']
  | '\r' => ['\\', 'r']
  | '\t' => ['\\', 't']
  | '\x08' => ['\\', 'b']
  | '\x0c' => ['\\', 'f']
  | c =>
    if c.toNat < 0x20 then
      ['\\', 'u', '0', '0', Nat.digitChar (c.toNat / 16), Nat.digitChar (c.toNat % 16)]
    else [c]

def escape (text : List Char) : List Char := '"' :: text.flatMap escapeChar ++ ['"']

/-- The blanks that a text is laid out with: those in front of an item at a depth, and those behind the
colon of a field. -/
structure Layout where
  gap : Nat → List Char
  behindColon : List Char

def Layout.compact : Layout := ⟨fun _ => [], []⟩

/-- Every item on a line of its own, indented by two blanks for each depth. -/
def Layout.indented : Layout := ⟨fun depth => '\n' :: List.replicate (2 * depth) ' ', [' ']⟩

mutual

def writeAt (l : Layout) (depth : Nat) : Json → List Char
  | null => ['n', 'u', 'l', 'l']
  | bool true => ['t', 'r', 'u', 'e']
  | bool false => ['f', 'a', 'l', 's', 'e']
  | number n => Nat.toDigits 10 n
  | text t => escape t
  | list [] => ['[', ']']
  | list (item :: items) =>
    '[' :: l.gap (depth + 1) ++ writeAt l (depth + 1) item ++ writeBehind l (depth + 1) items ++
      l.gap depth ++ [']']
  | object [] => ['\x7b', '\x7d']
  | object ((name, value) :: fields) =>
    '\x7b' :: l.gap (depth + 1) ++ escape name ++ ':' :: l.behindColon ++
      writeAt l (depth + 1) value ++ writeFieldsBehind l (depth + 1) fields ++ l.gap depth ++ ['\x7d']

/-- The text of the items behind the first. -/
def writeBehind (l : Layout) (depth : Nat) : List Json → List Char
  | [] => []
  | item :: items => ',' :: l.gap depth ++ writeAt l depth item ++ writeBehind l depth items

def writeFieldsBehind (l : Layout) (depth : Nat) : List (List Char × Json) → List Char
  | [] => []
  | (name, value) :: fields =>
    ',' :: l.gap depth ++ escape name ++ ':' :: l.behindColon ++ writeAt l depth value ++
      writeFieldsBehind l depth fields

end

def write (l : Layout) (v : Json) : List Char := writeAt l 0 v

end TextPattern.Json
