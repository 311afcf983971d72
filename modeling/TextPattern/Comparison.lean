import TextPattern.Unicode.Blank

/-!
# Comparisons

* `Comparison` : the six comparisons of a candidate with a bound;
* `Comparison.evaluate` : whether a comparison holds, given how the two are ordered;
* `Comparison.name`, `Comparison.ofText?` : their names, written and read.
-/

namespace TextPattern

/-- A comparison between a candidate and a bound. -/
inductive Comparison where
  | equal | lesser | lesserOrEqual | greater | greaterOrEqual | unequal
deriving DecidableEq, Repr

namespace Comparison

def all : List Comparison := [equal, lesser, lesserOrEqual, greater, greaterOrEqual, unequal]

/-- The comparison holds of a candidate and a bound that are ordered as `order` tells; values without
an order are unequal and nothing else. -/
def evaluate (c : Comparison) (order : Option Ordering) : Bool :=
  match c with
  | equal => order == some .eq
  | lesser => order == some .lt
  | lesserOrEqual => order == some .lt || order == some .eq
  | greater => order == some .gt
  | greaterOrEqual => order == some .gt || order == some .eq
  | unequal => order != some .eq

def name : Comparison → String
  | equal => "equal"
  | lesser => "lesser"
  | lesserOrEqual => "lesser_or_equal"
  | greater => "greater"
  | greaterOrEqual => "greater_or_equal"
  | unequal => "unequal"

def trim (text : List Char) : List Char :=
  ((text.dropWhile Unicode.isBlank).reverse.dropWhile Unicode.isBlank).reverse

/-- The comparison with a name, blanks around it, case of ASCII letters and the choice between `-` and
`_` not mattering. -/
def ofText? (text : String) : Option Comparison :=
  let fold := fun c : Char => if c = '-' then '_' else c.toLower
  let name := String.ofList ((trim text.toList).map fold)
  all.find? fun c => c.name = name

/-- The bound itself is among the candidates that satisfy the comparison. -/
def includesBound (c : Comparison) : Bool := c == equal || c == lesserOrEqual

def includesSmaller (c : Comparison) : Bool := c == lesser || c == lesserOrEqual

end Comparison

end TextPattern
