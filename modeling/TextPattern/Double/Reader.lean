import TextPattern.Double.Basic

/-!
# Reading floating-point numbers

`Double.ofText?` : the number that a text denotes. A text is an optional sign and then a decimal
fraction with an optional exponent, or a name of infinity or of no number in any case.
-/

namespace TextPattern

def digitsValue (digits : List Char) : Nat :=
  digits.foldl (fun n c => 10 * n + (c.toNat - '0'.toNat)) 0

namespace Double

/-- The value of an optional sign and digits. -/
def exponent? (text : List Char) : Option Int :=
  let signed := match text with
    | '+' :: rest => (false, rest)
    | '-' :: rest => (true, rest)
    | rest => (false, rest)
  if signed.2.isEmpty || !signed.2.all Char.isDigit then none
  else
    let n := digitsValue signed.2
    some (if signed.1 then -n else n)

/-- The number of a decimal fraction with an optional exponent. -/
def fraction? (negative : Bool) (text : List Char) : Option Double := do
  let whole := text.takeWhile Char.isDigit
  let rest := text.dropWhile Char.isDigit
  let (part, rest) := match rest with
    | '.' :: rest => (rest.takeWhile Char.isDigit, rest.dropWhile Char.isDigit)
    | rest => ([], rest)
  if whole.isEmpty && part.isEmpty then none
  let e ← match rest with
    | [] => some 0
    | c :: rest => if c = 'e' ∨ c = 'E' then exponent? rest else none
  return ofDecimal negative (digitsValue (whole ++ part)) (e - part.length)

/-- The number that a text without a sign denotes. -/
def unsigned? (negative : Bool) (text : List Char) : Option Double :=
  let name := text.map Char.toLower
  if name = "inf".toList ∨ name = "infinity".toList then some (.infinite negative)
  else if name = "nan".toList then some .nan
  else fraction? negative text

def ofText? (text : List Char) : Option Double :=
  match text with
  | '+' :: rest => unsigned? false rest
  | '-' :: rest => unsigned? true rest
  | rest => unsigned? false rest

end Double

end TextPattern
