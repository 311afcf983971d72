import TextPattern.Count
import TextPattern.Syntax.Position
import TextPattern.Unicode.Property

/-!
# Syntax trees of patterns

A tree keeps what was written and where, before flags are applied.

* `Literal`, `PerlClass`, `PropertyClass`, `Assertion` : the primitive items;
* `ClassTree` : what stands between square brackets;
* `Tree` : a pattern.
-/

namespace TextPattern.Syntax

open Unicode (PropertyQuery)

/-- A flag letter of a group such as `(?i)`. -/
inductive Flag where
  | ignoreCase | multiLine | dotAll | swapGreed | unicode | crlf | extended
deriving DecidableEq, Repr

/-- One character between `(?` and `:` or `)`: a flag letter, or the sign `-` that negates the letters
behind it. -/
structure FlagItem where
  span : Span
  flag : Option Flag
deriving DecidableEq, Repr

/-- The value that a list of flag items gives to a flag: the last one that names it decides. -/
def flagValue (items : List FlagItem) (flag : Flag) : Option Bool :=
  let step := fun (acc : Bool × Option Bool) (item : FlagItem) =>
    match item.flag with
    | none => (false, acc.2)
    | some f => if f = flag then (acc.1, some acc.1) else acc
  (items.foldl step (true, none)).2

/-- A literal character. `isByte` tells that it was written with exactly two hexadecimal digits, which
makes it a byte where Unicode is switched off. -/
structure Literal where
  span : Span
  char : Char
  isByte : Bool
deriving DecidableEq, Repr

inductive PerlKind where
  | digit | space | word
deriving DecidableEq, Repr

/-- A class such as `\d` or its negation `\D`. -/
structure PerlClass where
  span : Span
  kind : PerlKind
  negated : Bool
deriving DecidableEq, Repr

structure PropertyClass where
  span : Span
  query : PropertyQuery
  negated : Bool
deriving DecidableEq, Repr

inductive AsciiKind where
  | alnum | alpha | ascii | blank | cntrl | digit | graph | lower | print | punct | space | upper
  | word | xdigit
deriving DecidableEq, Repr

inductive SetOp where
  | inter | diff | symmDiff
deriving DecidableEq, Repr

/-- What a bracket class is made of. -/
inductive ClassTree where
  | empty (span : Span)
  | literal (lit : Literal)
  | range (span : Span) (lo hi : Literal)
  | ascii (span : Span) (kind : AsciiKind) (negated : Bool)
  | property (cls : PropertyClass)
  | perl (cls : PerlClass)
  | bracket (span : Span) (negated : Bool) (body : ClassTree)
  | union (span : Span) (items : List ClassTree)
  | binary (span : Span) (op : SetOp) (lhs rhs : ClassTree)
deriving Repr

def ClassTree.span : ClassTree → Span
  | .empty s => s
  | .literal l => l.span
  | .range s _ _ => s
  | .ascii s _ _ => s
  | .property c => c.span
  | .perl c => c.span
  | .bracket s _ _ => s
  | .union s _ => s
  | .binary s _ _ _ => s

inductive Assertion where
  | lineStart | lineEnd | textStart | textEnd | wordBoundary | notWordBoundary
  | wordStart | wordEnd | wordStartHalf | wordEndHalf
deriving DecidableEq, Repr

/-- What a group does besides grouping. -/
inductive GroupKind where
  | capture (index : Nat)
  | named (index : Nat) (name : List Char)
  | plain (flags : List FlagItem)
deriving DecidableEq, Repr

def GroupKind.flags : GroupKind → List FlagItem
  | .plain items => items
  | _ => []

/-- A pattern as it was written. -/
inductive Tree where
  | empty (span : Span)
  | flags (span : Span) (items : List FlagItem)
  | literal (lit : Literal)
  | dot (span : Span)
  | assertion (span : Span) (kind : Assertion)
  | property (cls : PropertyClass)
  | perl (cls : PerlClass)
  | bracket (span : Span) (negated : Bool) (body : ClassTree)
  | repetition (span : Span) (count : Count) (greedy : Bool) (sub : Tree)
  | group (span : Span) (kind : GroupKind) (sub : Tree)
  | alternation (span : Span) (branches : List Tree)
  | concat (span : Span) (parts : List Tree)
deriving Repr

def Tree.span : Tree → Span
  | .empty s => s
  | .flags s _ => s
  | .literal l => l.span
  | .dot s => s
  | .assertion s _ => s
  | .property c => c.span
  | .perl c => c.span
  | .bracket s _ _ => s
  | .repetition s _ _ _ => s
  | .group s _ _ => s
  | .alternation s _ => s
  | .concat s _ => s

end TextPattern.Syntax
