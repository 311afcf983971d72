import TextPattern.Expr.Basic
import TextPattern.Text.Cursor
import TextPattern.Unicode.Word

/-!
# Zero-width conditions at a place

`Look.holds` : the condition holds at a place of a text, which is decided by the characters on both
sides of it.
-/

namespace TextPattern

/-- The character, if there is one, belongs to words. -/
def isWordSide (unicode : Bool) (c : Option Char) : Bool :=
  c.any fun c => if unicode then Unicode.isWordChar c else Unicode.isAsciiWordChar c

def Look.holds (l : Look) (c : Cursor) : Bool :=
  let before := c.before
  let after := c.rest.head?
  match l with
  | .textStart => before.isNone
  | .textEnd => after.isNone
  | .lineStart => before.all (· = '\n')
  | .lineEnd => after.all (· = '\n')
  | .lineStartCrlf => before.all fun b => b = '\n' || (b = '\r' && after != some '\n')
  | .lineEndCrlf => after.all fun a => a = '\r' || (a = '\n' && before != some '\r')
  | .wordBoundary u => isWordSide u before != isWordSide u after
  | .notWordBoundary u => isWordSide u before == isWordSide u after
  | .wordStart u => !isWordSide u before && isWordSide u after
  | .wordEnd u => isWordSide u before && !isWordSide u after
  | .wordStartHalf u => !isWordSide u before
  | .wordEndHalf u => !isWordSide u after

end TextPattern
