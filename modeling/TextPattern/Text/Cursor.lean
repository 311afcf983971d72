/-!
# Places in a text

* `byteLength` : the length of a text in bytes of UTF-8;
* `Cursor` : a place between two characters of a text;
* `Cursor.next?` : the place behind the next character;
* `Cursor.slice` : the text between two places.
-/

namespace TextPattern

/-- The length of a text in bytes of UTF-8. -/
def byteLength (text : List Char) : Nat := text.foldl (fun n c => n + c.utf8Size) 0

/-- A place in a text: the character before it, the text behind it and the byte offset. -/
structure Cursor where
  before : Option Char
  rest : List Char
  offset : Nat
deriving DecidableEq, Repr

namespace Cursor

def ofText (text : List Char) : Cursor := ⟨none, text, 0⟩

def next? (c : Cursor) : Option (Char × Cursor) :=
  match c.rest with
  | [] => none
  | a :: rest => some (a, ⟨some a, rest, c.offset + a.utf8Size⟩)

/-- The characters of a text before the byte offset `stop`, the text starting at `offset`. -/
def takeTo (stop : Nat) : List Char → Nat → List Char → List Char
  | [], _, taken => taken.reverse
  | a :: rest, offset, taken =>
    if offset < stop then takeTo stop rest (offset + a.utf8Size) (a :: taken) else taken.reverse

/-- The text from the byte offset `start`, the text starting at `offset`. -/
def dropTo (start : Nat) : List Char → Nat → List Char × Nat
  | [], offset => ([], offset)
  | a :: rest, offset =>
    if offset < start then dropTo start rest (offset + a.utf8Size) else (a :: rest, offset)

def slice (c : Cursor) (start stop : Nat) : List Char :=
  let tail := dropTo start c.rest c.offset
  takeTo stop tail.1 tail.2 []

end Cursor

end TextPattern
