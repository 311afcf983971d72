import TextPattern.Expr.OfTree
import TextPattern.Syntax.Escape

/-!
# Match options

* `Options` : the options a pattern is compiled under;
* `Options.bits`, `Options.ofBits?` : their numbering as bits;
* `Options.active` : what still applies to a literal pattern;
* `Options.effectiveSource` : the text that is compiled, `Options.wholeSource` : the text whose matches
  cover a whole input.
-/

namespace TextPattern

structure Options where
  /-- Case does not matter. -/
  ignoreCase : Bool := false
  /-- Blanks in the pattern are ignored and `#` starts a comment. -/
  comments : Bool := false
  /-- `^` and `$` match at the ends of lines. -/
  multiLine : Bool := false
  /-- The pattern stands for its own text. -/
  literal : Bool := false
  /-- `.` also matches a line feed. -/
  dotAll : Bool := false
deriving DecidableEq, Repr, Inhabited

namespace Options

def none : Options := {}

def all : Options := ⟨true, true, true, true, true⟩

/-- The bit of each option, with its name, in ascending order. -/
def numbering : List (Nat × String × (Options → Bool)) := [
  (0x02, "CASE_INSENSITIVE", ignoreCase),
  (0x04, "COMMENTS", comments),
  (0x08, "MULTILINE", multiLine),
  (0x10, "LITERAL", literal),
  (0x20, "DOTALL", dotAll)]

def bits (o : Options) : Nat :=
  numbering.foldl (fun bits n => if n.2.2 o then bits + n.1 else bits) 0

def names (o : Options) : List String :=
  (numbering.filter fun n => n.2.2 o).map fun n => n.2.1

/-- The options that the bits of a number denote; none if there is a bit without an option. -/
def ofBits? (n : Nat) : Option Options :=
  let o : Options := {
    ignoreCase := n.testBit 1
    comments := n.testBit 2
    multiLine := n.testBit 3
    literal := n.testBit 4
    dotAll := n.testBit 5 }
  if o.bits = n then some o else Option.none

/-- The options that the connective makes of each pair. -/
def zipWith (f : Bool → Bool → Bool) (o p : Options) : Options where
  ignoreCase := f o.ignoreCase p.ignoreCase
  comments := f o.comments p.comments
  multiLine := f o.multiLine p.multiLine
  literal := f o.literal p.literal
  dotAll := f o.dotAll p.dotAll

def union (o p : Options) : Options := zipWith (· || ·) o p

def inter (o p : Options) : Options := zipWith (· && ·) o p

def diff (o p : Options) : Options := zipWith (fun x y => x && !y) o p

def symmDiff (o p : Options) : Options := zipWith (· != ·) o p

def compl (o : Options) : Options := diff all o

/-- Everything set in `p` is set in `o`. -/
def contains (o p : Options) : Bool := diff p o == none

/-- The options that still apply: a literal pattern keeps only the option on case. -/
def active (o : Options) : Options :=
  if o.literal then { literal := true, ignoreCase := o.ignoreCase } else o

/-- The text with a backslash before every character that would mean something else. -/
def escape (text : List Char) : List Char :=
  text.flatMap fun c => if Syntax.isMeta c then ['\\', c] else [c]

/-- The text that is compiled for a pattern. -/
def effectiveSource (o : Options) (source : List Char) : List Char :=
  if o.literal then escape source else source

/-- The text whose matches cover a whole input. Blanks being ignored, a line feed ends a comment that
the pattern may end in. -/
def wholeSource (o : Options) (source : List Char) : List Char :=
  let feed := if o.active.comments then ['\n'] else []
  "\\A(?:".toList ++ o.effectiveSource source ++ feed ++ ")\\z".toList

def modes (o : Options) : Modes where
  ignoreCase := o.active.ignoreCase
  multiLine := o.active.multiLine
  dotAll := o.active.dotAll
  swapGreed := false
  unicode := true
  crlf := false

end Options

end TextPattern
