import TextPattern.Double.Basic

/-!
# Shortest decimal text of a floating-point number

* `Double.shortest` : the fewest decimal digits that are nearest to a number and no other;
* `Double.text` : a number with a decimal point and without an exponent.

The decimal fractions that are read as `m * 2 ^ q` are those between the middles to its two neighbours,
and the middles too if `m` is even.
-/

namespace TextPattern.Double

/-- The fractions that are read as a number, over the common denominator `den`. -/
structure Interval where
  low : Nat
  value : Nat
  high : Nat
  den : Nat
  closed : Bool
deriving Repr

/-- The interval of `m * 2 ^ q`. Below a power of two the neighbours are twice as near. -/
def interval (m : Nat) (q : Int) : Interval :=
  let below := if m = Nat.pow 2 (precision - 1) && minExponent < q then 1 else 2
  let scale := Nat.pow 2 q.toNat
  { low := (4 * m - below) * scale
    value := 4 * m * scale
    high := (4 * m + 2) * scale
    den := 4 * Nat.pow 2 (-q).toNat
    closed := m % 2 = 0 }

namespace Interval

def contains (i : Interval) (n : Nat) (e : Int) : Bool :=
  let point := n * Nat.pow 10 e.toNat * i.den
  let unit := Nat.pow 10 (-e).toNat
  if i.closed then i.low * unit ≤ point && point ≤ i.high * unit
  else i.low * unit < point && point < i.high * unit

/-- The point of the grid `10 ^ e` in the interval that is nearest to the value, if there is one. -/
def nearest? (i : Interval) (e : Int) : Option Nat :=
  let num := i.value * Nat.pow 10 (-e).toNat
  let den := i.den * Nat.pow 10 e.toNat
  let n := num / den
  match i.contains n e, i.contains (n + 1) e with
  | true, true => some (if 2 * (num % den) ≤ den then n else n + 1)
  | true, false => some n
  | false, true => some (n + 1)
  | false, false => none

/-- The first grid, from `10 ^ e` on to finer ones, that has a point in the interval. -/
def coarsest (i : Interval) : (rounds : Nat) → (e : Int) → Nat × Int
  | 0, e => (0, e)
  | rounds + 1, e =>
    match i.nearest? e with
    | some n => (n, e)
    | none => i.coarsest rounds (e - 1)

end Interval

/-- The number of decimal digits in front of the point of `num / den`, or one more. -/
def magnitude (num den : Nat) : Int :=
  (Nat.toDigits 10 num).length - (Nat.toDigits 10 den).length + 1

/-- The shortest decimal fraction `n * 10 ^ e` that is read as `m * 2 ^ q`. -/
def shortest (m : Nat) (q : Int) : Nat × Int :=
  let i := interval m q
  i.coarsest 800 (magnitude i.value i.den)

/-- The text of `n * 10 ^ e` with digits on both sides of the point. -/
def positional (n : Nat) (e : Int) : List Char :=
  let digits := Nat.toDigits 10 n
  if 0 ≤ e then digits ++ List.replicate e.toNat '0' ++ ['.', '0']
  else
    let places := (-e).toNat
    let padded := List.replicate (places + 1 - digits.length) '0' ++ digits
    padded.take (padded.length - places) ++ '.' :: padded.drop (padded.length - places)

def text : Double → List Char
  | nan => "NaN.0".toList
  | infinite negative => (if negative then ['-'] else []) ++ "inf.0".toList
  | finite negative m q =>
    (if negative then ['-'] else []) ++
      (if m = 0 then "0.0".toList
       else
        let (n, e) := shortest m q
        positional n e)

end TextPattern.Double
