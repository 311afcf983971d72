import TextPattern.CharSet.Basic
import TextPattern.Count

/-!
# Pattern expressions

* `Look` : the zero-width conditions, with all flags settled;
* `Expr` : a pattern with all flags settled and all classes known;
* `Expr.nullable`, `Expr.zeroWidth` : whether the empty text, and whether only the empty text, can be
  matched;
* `Expr.concat`, `Expr.alternation`, `Expr.repetition` : the constructors that keep expressions in
  their simplified form;
* `Expr.slots` : the number of capture slots.

Concatenations and alternations are kept nested to the right, and no operand on the left of one is
itself of that kind.
-/

namespace TextPattern

/-- A zero-width condition. The conditions on words come for Unicode and for ASCII words. -/
inductive Look where
  | textStart | textEnd
  | lineStart | lineEnd
  | lineStartCrlf | lineEndCrlf
  | wordBoundary (unicode : Bool) | notWordBoundary (unicode : Bool)
  | wordStart (unicode : Bool) | wordEnd (unicode : Bool)
  | wordStartHalf (unicode : Bool) | wordEndHalf (unicode : Bool)
deriving DecidableEq, Repr

/-- A pattern with all flags settled. -/
inductive Expr where
  /-- The empty text. -/
  | empty
  /-- One character of a set. -/
  | chars (set : CharSet)
  /-- The empty text where a condition holds. -/
  | look (cond : Look)
  /-- One text behind another. -/
  | cat (fst snd : Expr)
  /-- The first text, else the second. -/
  | alt (fst snd : Expr)
  /-- As often as `count` allows, and as often as possible if `greedy`. -/
  | rep (sub : Expr) (count : Count) (greedy : Bool)
  /-- A text that is kept as capture `index`. -/
  | group (index : Nat) (sub : Expr)
deriving DecidableEq, Repr

namespace Expr

/-- The expression can match the empty text. -/
def nullable : Expr → Bool
  | empty => true
  | chars _ => false
  | look _ => true
  | cat a b => a.nullable && b.nullable
  | alt a b => a.nullable || b.nullable
  | rep e count _ => count.min == 0 || e.nullable
  | group _ e => e.nullable

/-- The expression matches nothing but the empty text. -/
def zeroWidth : Expr → Bool
  | empty => true
  | chars _ => false
  | look _ => true
  | cat a b => a.zeroWidth && b.zeroWidth
  | alt a b => a.zeroWidth && b.zeroWidth
  | rep e _ _ => e.zeroWidth
  | group _ e => e.zeroWidth

/-- One more than the greatest capture index, 1 without captures. -/
def slots : Expr → Nat
  | cat a b => max a.slots b.slots
  | alt a b => max a.slots b.slots
  | rep e _ _ => e.slots
  | group i e => max (i + 1) e.slots
  | _ => 1

/-! ## Concatenation -/

/-- The operands of a concatenation. -/
def factors : Expr → List Expr
  | empty => []
  | cat a b => a :: b.factors
  | e => [e]

/-- The concatenation of operands that are no concatenations. -/
def ofFactors : List Expr → Expr
  | [] => empty
  | [e] => e
  | e :: es => cat e (ofFactors es)

def concat (es : List Expr) : Expr := ofFactors (es.flatMap factors)

/-! ## Repetition -/

/-- The repetition of an expression. Taking an expression of zero width more than once changes
nothing; no repetition is the empty text, one is the expression itself. -/
def repetition (e : Expr) (count : Count) (greedy : Bool) : Expr :=
  let count := if e.zeroWidth then count.capped else count
  if count.max = some 0 then empty
  else if count.min = 1 ∧ count.max = some 1 then e
  else rep e count greedy

/-! ## Alternation -/

def branches : Expr → List Expr
  | alt a b => a :: b.branches
  | e => [e]

/-- The alternation of branches that are no alternations. -/
def ofBranches : List Expr → Expr
  | [] => chars .empty
  | [e] => e
  | e :: es => alt e (ofBranches es)

/-- The set of a one-character expression. -/
def charSet? : Expr → Option CharSet
  | chars s => some s
  | _ => none

def isLiteral : Expr → Bool
  | chars ⟨[lo, hi], _⟩ => hi == lo + 1
  | _ => false

/-- The operands of a concatenation with every run of fixed characters taken as one. -/
def segments : List Expr → List (List Expr)
  | [] => []
  | e :: es =>
    match segments es with
    | (f :: run) :: rest =>
      if e.isLiteral && f.isLiteral then (e :: f :: run) :: rest else [e] :: (f :: run) :: rest
    | rest => [e] :: rest

/-- The longest common start of two lists. -/
def commonPrefix : List (List Expr) → List (List Expr) → List (List Expr)
  | x :: xs, y :: ys => if x = y then x :: commonPrefix xs ys else []
  | _, _ => []

/-- The segments that all branches start with; none if a branch is not a concatenation of at least two
segments or nothing is shared. -/
def sharedPrefix? (es : List Expr) : Option (List (List Expr)) :=
  match es.map fun e => segments e.factors with
  | [] => none
  | first :: rest =>
    if (first :: rest).all fun s => 2 ≤ s.length then
      let common := rest.foldl commonPrefix first
      if common.isEmpty then none else some common
    else none

/-- The alternation of flat branches without anything shared between them. Fixed characters are one set,
and so are other sets, but not the two of them together. -/
def alternationOf (es : List Expr) : Expr :=
  match es.mapM charSet? with
  | some sets =>
    if 2 ≤ es.length ∧ (es.all isLiteral || es.all fun e => !e.isLiteral) then chars (.unions sets)
    else ofBranches es
  | none => ofBranches es

/-- The alternation of expressions, with what all branches start with taken out. The first branch that
matches is preferred, so an ambiguous start that was taken out is settled before the branch is. -/
def alternationFrom : Nat → List Expr → Expr
  | 0, es => alternationOf es
  | fuel + 1, es =>
    let es := es.flatMap branches
    match es.mapM charSet?, sharedPrefix? es with
    | some _, _ => alternationOf es
    | none, none => alternationOf es
    | none, some common =>
      if 2 ≤ es.length then
        let rests := es.map fun e => ofFactors ((segments e.factors).drop common.length).flatten
        concat [ofFactors common.flatten, alternationFrom fuel rests]
      else alternationOf es

/-- The number of operands of the longest concatenation among the branches. -/
def longest (es : List Expr) : Nat :=
  (es.flatMap branches).foldl (fun n e => max n e.factors.length) 0

/-- The alternation of expressions. Each taking out of a common start shortens every branch. -/
def alternation (es : List Expr) : Expr := alternationFrom (longest es) es

end Expr

end TextPattern
