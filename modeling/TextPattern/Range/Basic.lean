import TextPattern.Pattern

/-!
# Ranges of numbers as patterns

* `Dialect` : how any digit is written;
* `Alternatives` : pattern texts of which one has to match;
* `Alternatives.accepts` : whether one of them matches a whole text;
* `smallerAlternatives` : patterns of the numerals below a given one;
* `range` : the alternatives of the numerals that satisfy a comparison with a bound.

A numeral is smaller than the numeral of a bound if it is shorter, or of the same length with a smaller
digit where the two first differ. Each way of being smaller is one alternative.
-/

namespace TextPattern

/-- Pattern texts of which one has to match. -/
structure Alternatives where
  texts : List String
deriving DecidableEq, Repr

namespace Alternatives

def size (a : Alternatives) : Nat := a.texts.length

def isEmpty (a : Alternatives) : Bool := a.texts.isEmpty

def compile (a : Alternatives) : Except Error (List Pattern) :=
  a.texts.mapM fun text => Pattern.compile text .none

/-- One of the patterns matches the whole of a text; patterns behind it are not asked. -/
def anyMatchesWhole (text : String) : List Pattern → Except Error Bool
  | [] => .ok false
  | p :: ps =>
    match p.matchesWhole text with
    | .error e => .error e
    | .ok true => .ok true
    | .ok false => anyMatchesWhole text ps

/-- One of the alternatives matches the whole of a text. All of them have to compile. -/
def accepts (a : Alternatives) (text : String) : Except Error Bool := do
  anyMatchesWhole text (← a.compile)

end Alternatives

/-- How a pattern writes any digit. -/
inductive Dialect where
  /-- By the class of digits. -/
  | general
  /-- By the range of the ten digits. -/
  | sql
deriving DecidableEq, Repr

def Dialect.anyDigit : Dialect → List Char
  | general => ['\\', 'd']
  | sql => ['[', '0', '-', '9', ']']

def Dialect.digits (d : Dialect) (n : Nat) : List Char := (List.replicate n d.anyDigit).flatten

def digitRange (lo hi : Nat) : List Char :=
  ['[', Nat.digitChar lo, '-', Nat.digitChar hi, ']']

/-- The patterns of the numerals as long as `before ++ rest` that agree with it on `before` and have a
smaller digit in `rest` where the two first differ. The first digit of a numeral is not 0. -/
def sameLength (d : Dialect) : (before rest : List Nat) → List (List Char)
  | _, [] => []
  | before, digit :: rest =>
    let least := if before.isEmpty && !rest.isEmpty then 1 else 0
    let here :=
      if least < digit then
        [before.map Nat.digitChar ++ digitRange least (digit - 1) ++ d.digits rest.length]
      else []
    here ++ sameLength d (before ++ [digit]) rest

/-- The patterns of the numerals of fewer than `n` digits, a pattern for each number of digits. -/
def shorter (d : Dialect) (n : Nat) : List (List Char) :=
  (List.range (n - 1)).map fun k => '^' :: d.digits (k + 1) ++ ['$']

def smallerAlternatives (d : Dialect) (digits : List Nat) : List (List Char) :=
  sameLength d [] digits ++ shorter d digits.length

/-- The digits of a number, the leading one first. -/
def digitsOf (n : Nat) : List Nat := (Nat.toDigits 10 n).map fun c => c.toNat - '0'.toNat

def rangeTexts (bound : Nat) (c : Comparison) (d : Dialect) : List (List Char) :=
  (if c.includesBound then [Nat.toDigits 10 bound] else []) ++
    (if c.includesSmaller then smallerAlternatives d (digitsOf bound) else [])

/-- The alternatives of the numerals that satisfy a comparison with `bound`. Only the comparisons with
finitely many solutions are supported. -/
def range (bound : Int) (c : Comparison) (d : Dialect) : Except Error Alternatives :=
  if bound < 0 then .error (.invalidArgument (.boundNegative bound))
  else if !c.includesBound && !c.includesSmaller then
    .error (.invalidArgument (.comparisonUnsupported c))
  else .ok ⟨(rangeTexts bound.toNat c d).map String.ofList⟩

end TextPattern
