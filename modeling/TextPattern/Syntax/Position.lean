/-!
# Places in a pattern text

* `Position` : a place, by byte offset and by line and column;
* `Position.after` : the place behind a character;
* `Span` : the text between two places.
-/

namespace TextPattern.Syntax

/-- A place in a text: its offset in bytes from 0, its line and column from 1. -/
structure Position where
  offset : Nat
  line : Nat
  column : Nat
deriving DecidableEq, Repr

def Position.first : Position := ⟨0, 1, 1⟩

/-- The place behind the character `c` that stands at `p`; a line feed ends its line. -/
def Position.after (p : Position) (c : Char) : Position :=
  if c = '\n' then ⟨p.offset + c.utf8Size, p.line + 1, 1⟩
  else ⟨p.offset + c.utf8Size, p.line, p.column + 1⟩

structure Span where
  start : Position
  stop : Position
deriving DecidableEq, Repr

def Span.at (p : Position) : Span := ⟨p, p⟩

def Span.ofChar (p : Position) (c : Char) : Span := ⟨p, p.after c⟩

def Span.oneLine (s : Span) : Bool := s.start.line == s.stop.line

/-- The order by start, then by stop. -/
def Span.le (s t : Span) : Bool :=
  s.start.offset < t.start.offset ||
    (s.start.offset == t.start.offset && s.stop.offset ≤ t.stop.offset)

end TextPattern.Syntax
