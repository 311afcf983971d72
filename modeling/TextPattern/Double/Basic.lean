/-!
# Binary floating-point numbers

* `Double` : a number of 53 binary digits and bounded exponent, an infinity, or no number;
* `Double.compare?` : the order of two of them;
* `Double.ofDecimal` : the one nearest to a decimal fraction.
-/

namespace TextPattern

/-- A floating-point number; `finite negative m q` is `m * 2 ^ q` with its sign. -/
inductive Double where
  | nan
  | infinite (negative : Bool)
  | finite (negative : Bool) (m : Nat) (q : Int)
deriving DecidableEq, Repr

namespace Double

def minExponent : Int := -1074

def maxExponent : Int := 971

def precision : Nat := 53

def zero (negative : Bool) : Double := .finite negative 0 minExponent

/-- The order of two magnitudes `m * 2 ^ q`. -/
def compareMagnitudes (m : Nat) (q : Int) (n : Nat) (r : Int) : Ordering :=
  let low := min q r
  compare (m * Nat.pow 2 (q - low).toNat) (n * Nat.pow 2 (r - low).toNat)

/-- The order of two numbers; none if one of them is no number. Both zeros are equal. -/
def compare? : Double → Double → Option Ordering
  | nan, _ => none
  | _, nan => none
  | infinite s, infinite t => some (compare t.toNat s.toNat)
  | infinite s, finite .. => some (if s then .lt else .gt)
  | finite .., infinite t => some (if t then .gt else .lt)
  | finite s m q, finite t n r =>
    if m = 0 ∧ n = 0 then some .eq
    else if s ≠ t then
      if m = 0 then some (if t then .gt else .lt) else some (if s then .lt else .gt)
    else
      let order := compareMagnitudes m q n r
      some (if s then order.swap else order)

/-- The whole number nearest to `num / den`; a half goes to the even neighbour. -/
def roundHalfEven (num den : Nat) : Nat :=
  let low := num / den
  let twice := 2 * (num % den)
  if twice < den then low
  else if den < twice then low + 1
  else if low % 2 = 0 then low else low + 1

/-- The exponent of the greatest power of two that is not above `num / den`. -/
def floorLog2 (num den : Nat) : Int :=
  let k : Int := (num.log2 : Int) - (den.log2 : Int)
  if den * Nat.pow 2 k.toNat ≤ num * Nat.pow 2 (-k).toNat then k else k - 1

/-- The number nearest to `num / den`. -/
def ofQuotient (negative : Bool) (num den : Nat) : Double :=
  if num = 0 then zero negative
  else
    let q := max minExponent (floorLog2 num den - (precision - 1))
    let m := roundHalfEven (num * Nat.pow 2 (-q).toNat) (den * Nat.pow 2 q.toNat)
    let carried := if m = Nat.pow 2 precision then (Nat.pow 2 (precision - 1), q + 1) else (m, q)
    if maxExponent < carried.2 then .infinite negative
    else .finite negative carried.1 carried.2

/-- The decimal exponent above which every number is nearest to infinity. -/
def decimalCeiling : Int := 310

/-- The decimal exponent below which every number is nearest to zero. -/
def decimalFloor : Int := -400

/-- The number nearest to `n * 10 ^ e`. -/
def ofDecimal (negative : Bool) (n : Nat) (e : Int) : Double :=
  let top := e + (Nat.toDigits 10 n).length
  if n = 0 ∨ top < decimalFloor then zero negative
  else if decimalCeiling < top then .infinite negative
  else ofQuotient negative (n * Nat.pow 10 e.toNat) (Nat.pow 10 (-e).toNat)

end Double

end TextPattern
