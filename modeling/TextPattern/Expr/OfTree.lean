import TextPattern.Expr.Basic
import TextPattern.Syntax.Tree
import TextPattern.Syntax.Fault
import TextPattern.Unicode.Fold
import TextPattern.Unicode.Word

/-!
# From syntax trees to expressions

* `Modes` : the flags in force at a place;
* `AsciiKind.set`, `PerlClass.toSet`, `PropertyClass.toSet`, `ClassTree.toSet` : the set of a class;
* `Tree.toExpr` : the expression of a tree, with the flags in force behind it.

A setting such as `(?i)` holds up to the end of the group around it, across the bars of an alternation.
Where Unicode is switched off, classes are made of bytes; since texts are valid UTF-8, every such class
has to stay within ASCII.
-/

namespace TextPattern

open Syntax

structure Modes where
  ignoreCase : Bool
  multiLine : Bool
  dotAll : Bool
  swapGreed : Bool
  unicode : Bool
  crlf : Bool
deriving DecidableEq, Repr

def Modes.set (m : Modes) (items : List FlagItem) : Modes where
  ignoreCase := (flagValue items .ignoreCase).getD m.ignoreCase
  multiLine := (flagValue items .multiLine).getD m.multiLine
  dotAll := (flagValue items .dotAll).getD m.dotAll
  swapGreed := (flagValue items .swapGreed).getD m.swapGreed
  unicode := (flagValue items .unicode).getD m.unicode
  crlf := (flagValue items .crlf).getD m.crlf

namespace Syntax

/-! ## Classes -/

def AsciiKind.set : AsciiKind → CharSet
  | .alnum => .ofRanges [(0x30, 0x39), (0x41, 0x5A), (0x61, 0x7A)]
  | .alpha => .ofRanges [(0x41, 0x5A), (0x61, 0x7A)]
  | .ascii => .ofRanges [(0x00, 0x7F)]
  | .blank => .ofRanges [(0x09, 0x09), (0x20, 0x20)]
  | .cntrl => .ofRanges [(0x00, 0x1F), (0x7F, 0x7F)]
  | .digit => .ofRanges [(0x30, 0x39)]
  | .graph => .ofRanges [(0x21, 0x7E)]
  | .lower => .ofRanges [(0x61, 0x7A)]
  | .print => .ofRanges [(0x20, 0x7E)]
  | .punct => .ofRanges [(0x21, 0x2F), (0x3A, 0x40), (0x5B, 0x60), (0x7B, 0x7E)]
  | .space => .ofRanges [(0x09, 0x0D), (0x20, 0x20)]
  | .upper => .ofRanges [(0x41, 0x5A)]
  | .word => .ofRanges [(0x30, 0x39), (0x41, 0x5A), (0x5F, 0x5F), (0x61, 0x7A)]
  | .xdigit => .ofRanges [(0x30, 0x39), (0x41, 0x46), (0x61, 0x66)]

/-- The closure of a set under case where case is ignored. -/
def closeCase (m : Modes) (s : CharSet) : CharSet :=
  if m.ignoreCase then (if m.unicode then s.foldCase else s.foldAsciiCase) else s

/-- The set of a class that may be negated: closed under case first, negated then. The complement of a
class of bytes holds bytes that are no characters, which is a fault of the class. -/
def finishClass (m : Modes) (span : Span) (negated : Bool) (s : CharSet) : Except Fault CharSet :=
  let s := closeCase m s
  if negated then
    if m.unicode then .ok s.compl else .error { kind := .invalidUtf8, span }
  else .ok s

/-- The characters of a class such as `\d`. -/
def PerlClass.toSet (m : Modes) (c : PerlClass) : Except Fault CharSet :=
  let set : CharSet :=
    match c.kind, m.unicode with
    | .digit, true => Unicode.digits
    | .space, true => Unicode.blanks
    | .word, true => Unicode.wordChars
    | .digit, false => AsciiKind.digit.set
    | .space, false => AsciiKind.space.set
    | .word, false => AsciiKind.word.set
  if c.negated then
    if m.unicode then .ok set.compl else .error { kind := .invalidUtf8, span := c.span }
  else .ok set

/-- The characters of a class such as `\p{Greek}`. -/
def PropertyClass.toSet (m : Modes) (c : PropertyClass) : Except Fault CharSet :=
  if m.unicode then
    match c.query.resolve with
    | .ok s => finishClass m c.span c.negated s
    | .error .unknownProperty => .error { kind := .propertyNotFound, span := c.span }
    | .error .unknownValue => .error { kind := .propertyValueNotFound, span := c.span }
  else .error { kind := .unicodeNotAllowed, span := c.span }

/-- The character of a literal; where Unicode is off, a byte beyond ASCII is no text. -/
def Literal.scalar (m : Modes) (l : Literal) : Except Fault Char :=
  if !m.unicode && l.isByte && 0x7F < l.char.toNat then
    .error { kind := .invalidUtf8, span := l.span }
  else .ok l.char

/-- The character of a literal in a class; where Unicode is off it has to be ASCII. -/
def Literal.member (m : Modes) (l : Literal) : Except Fault Char := do
  let c ← l.scalar m
  if !m.unicode && 0x7F < c.toNat then .error { kind := .unicodeNotAllowed, span := l.span }
  else .ok c

def SetOp.apply : SetOp → CharSet → CharSet → CharSet
  | .inter => .inter
  | .diff => .diff
  | .symmDiff => .symmDiff

mutual

def ClassTree.toSet (m : Modes) : ClassTree → Except Fault CharSet
  | .empty _ => .ok .empty
  | .literal l => do .ok (.single (← l.member m))
  | .range _ lo hi => do
    let lo ← lo.member m
    let hi ← hi.member m
    .ok (.range lo.toNat hi.toNat)
  | .ascii span kind negated => finishClass m span negated kind.set
  | .property c => c.toSet m
  | .perl c => c.toSet m
  | .bracket span negated body => do finishClass m span negated (← body.toSet m)
  | .union _ items => itemsToSet m items .empty
  | .binary _ op lhs rhs => do
    let lhs ← lhs.toSet m
    let rhs ← rhs.toSet m
    .ok (op.apply (closeCase m lhs) (closeCase m rhs))

/-- The union of the items of a class with `acc`. -/
def itemsToSet (m : Modes) : List ClassTree → CharSet → Except Fault CharSet
  | [], acc => .ok acc
  | item :: items, acc => do
    let s ← item.toSet m
    itemsToSet m items (acc.union s)

end

/-! ## Expressions -/

def Literal.toExpr (m : Modes) (l : Literal) : Except Fault Expr := do
  let c ← l.scalar m
  if m.ignoreCase then
    if m.unicode then
      match Unicode.caseVariants c with
      | [] => .ok (.chars (.single c))
      | variants => .ok (.chars (.ofCodes variants))
    else .ok (.chars (CharSet.single c).foldAsciiCase)
  else .ok (.chars (.single c))

/-- The expression of a dot: any character, but no line end unless the flag for it is set. -/
def dotExpr (m : Modes) (span : Span) : Except Fault Expr :=
  if !m.unicode then .error { kind := .invalidUtf8, span }
  else if m.dotAll then .ok (.chars .full)
  else if m.crlf then .ok (.chars (.compl (.ofCodes [0x0A, 0x0D])))
  else .ok (.chars (.compl (.ofCodes [0x0A])))

def Assertion.toLook (m : Modes) : Assertion → Look
  | .lineStart =>
    if m.multiLine then (if m.crlf then .lineStartCrlf else .lineStart) else .textStart
  | .lineEnd => if m.multiLine then (if m.crlf then .lineEndCrlf else .lineEnd) else .textEnd
  | .textStart => .textStart
  | .textEnd => .textEnd
  | .wordBoundary => .wordBoundary m.unicode
  | .notWordBoundary => .notWordBoundary m.unicode
  | .wordStart => .wordStart m.unicode
  | .wordEnd => .wordEnd m.unicode
  | .wordStartHalf => .wordStartHalf m.unicode
  | .wordEndHalf => .wordEndHalf m.unicode

mutual

/-- The expression of a tree under the flags `m`, and the flags in force behind it. -/
def Tree.toExpr (m : Modes) : Tree → Except Fault (Expr × Modes)
  | .empty _ => .ok (.empty, m)
  | .flags _ items => .ok (.empty, m.set items)
  | .literal l => do .ok (← l.toExpr m, m)
  | .dot span => do .ok (← dotExpr m span, m)
  | .assertion _ kind => .ok (.look (kind.toLook m), m)
  | .property c => do .ok (.chars (← c.toSet m), m)
  | .perl c => do .ok (.chars (← c.toSet m), m)
  | .bracket span negated body => do
    .ok (.chars (← finishClass m span negated (← body.toSet m)), m)
  | .repetition _ count greedy sub => do
    let (e, m) ← sub.toExpr m
    .ok (.repetition e count (greedy != m.swapGreed), m)
  | .group _ kind sub => do
    let (e, _) ← sub.toExpr (m.set kind.flags)
    match kind with
    | .capture index => .ok (.group index e, m)
    | .named index _ => .ok (.group index e, m)
    | .plain _ => .ok (e, m)
  | .alternation _ branches => do
    let (es, m) ← partsToExprs m branches
    .ok (.alternation es, m)
  | .concat _ parts => do
    let (es, m) ← partsToExprs m parts
    .ok (.concat es, m)

/-- The expressions of trees in order, each under the flags behind the one before. -/
def partsToExprs (m : Modes) : List Tree → Except Fault (List Expr × Modes)
  | [] => .ok ([], m)
  | part :: parts => do
    let (e, m) ← part.toExpr m
    let (es, m) ← partsToExprs m parts
    .ok (e :: es, m)

end

end Syntax

end TextPattern
