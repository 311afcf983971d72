import TextPattern.Double.Reader
import TextPattern.Double.Shortest
import TextPattern.Yaml.Fault

/-!
# What a scalar stands for

* `isNull`, `boolean?`, `integer?`, `float?` : the plain scalars of each type;
* `Found.ofScalar` : what a scalar is, by its tag and its text.
-/

namespace TextPattern.Yaml

def isNull (text : String) : Bool := ["null", "Null", "NULL", "~"].contains text

def boolean? (text : String) : Option Bool :=
  if ["true", "True", "TRUE"].contains text then some true
  else if ["false", "False", "FALSE"].contains text then some false
  else none

def digitOf? (base : Nat) (c : Char) : Option Nat :=
  let n :=
    if c.isDigit then c.toNat - '0'.toNat
    else if c.isLower then c.toNat - 'a'.toNat + 10
    else if c.isUpper then c.toNat - 'A'.toNat + 10
    else base
  if n < base then some n else none

/-- The value of digits of a base, of which there is at least one. -/
def digits? (base : Nat) (text : List Char) : Option Nat := do
  if text.isEmpty then none
  let values ← text.mapM (digitOf? base)
  return values.foldl (fun n d => base * n + d) 0

/-- The value of digits, whose base two characters in front of them may tell. -/
def natural? (text : List Char) : Option Nat :=
  match text with
  | '0' :: 'x' :: rest => digits? 16 rest
  | '0' :: 'o' :: rest => digits? 8 rest
  | '0' :: 'b' :: rest => digits? 2 rest
  | _ => digits? 10 text

/-- Several digits of which the first is 0; they are no number. -/
def hasLeadingZero (text : List Char) : Bool :=
  match text with
  | '0' :: d :: rest => (d :: rest).all Char.isDigit
  | _ => false

/-- Digits with an optional sign that are no number. -/
def isDigitText (text : List Char) : Bool :=
  match text with
  | '-' :: rest | '+' :: rest => hasLeadingZero rest
  | _ => hasLeadingZero text

/-- The integer that a text denotes, if it fits 128 bits. -/
def integer? (text : List Char) : Option Int :=
  let (negative, rest) := match text with
    | '-' :: rest => (true, rest)
    | '+' :: rest => (false, rest)
    | rest => (false, rest)
  if hasLeadingZero rest then none
  else
    match natural? rest with
    | none => none
    | some n =>
      if negative then if n ≤ Nat.pow 2 127 then some (-n) else none
      else if n < Nat.pow 2 128 then some n else none

def finite? (text : List Char) : Option Double :=
  match Double.ofText? text with
  | some (.finite s m q) => some (.finite s m q)
  | _ => none

def infinities : List (List Char) := [".inf".toList, ".Inf".toList, ".INF".toList]

def noNumbers : List (List Char) := [".nan".toList, ".NaN".toList, ".NAN".toList]

def float? (text : List Char) : Option Double :=
  if noNumbers.contains text then some .nan
  else
    match text with
    | '+' :: rest =>
      if rest.head? = some '+' ∨ rest.head? = some '-' then none
      else if infinities.contains rest then some (.infinite false)
      else finite? rest
    | '-' :: rest => if infinities.contains rest then some (.infinite true) else finite? text
    | _ => if infinities.contains text then some (.infinite false) else finite? text

def Found.ofInteger (n : Int) : Found :=
  if -0x8000000000000000 ≤ n ∧ n < 0x10000000000000000 then .integer (toString n) else .wideInteger n

def Found.ofDouble (x : Double) : Found := .float (String.ofList x.text)

/-- What a plain scalar without a tag is. -/
def Found.ofPlain (text : String) : Found :=
  let cs := text.toList
  if text.isEmpty || isNull text then .unit
  else
    match boolean? text, integer? cs, float? cs with
    | some b, _, _ => .boolean b
    | none, some n, _ => .ofInteger n
    | none, none, some x => if isDigitText cs then .text text else .ofDouble x
    | none, none, none => .text text

/-- The start of the tags of the types that every text knows. -/
def coreTag : String := "tag:yaml.org,2002:"

/-- What a scalar is; if its text does not fit its tag, what would. -/
def Found.ofScalar (text : String) (plain : Bool) (tag : Option String) : Except String Found :=
  match tag with
  | none => .ok (if plain then ofPlain text else .text text)
  | some tag =>
    if tag = coreTag ++ "bool" then
      (boolean? text).elim (.error "a boolean") fun b => .ok (.boolean b)
    else if tag = coreTag ++ "int" then
      (integer? text.toList).elim (.error "an integer") fun n => .ok (.ofInteger n)
    else if tag = coreTag ++ "float" then
      (float? text.toList).elim (.error "a float") fun x => .ok (.ofDouble x)
    else if tag = coreTag ++ "null" then
      if isNull text then .ok .unit else .error "null"
    else if plain && tag.startsWith "!" then .ok (ofPlain text)
    else .ok (.text text)

end TextPattern.Yaml
