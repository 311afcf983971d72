/-!
# JSON values

* `Json` : a JSON value whose numbers are natural numbers;
* `Json.Token`, `Json.tokens` : the tokens that a value is written with.
-/

namespace TextPattern

/-- A JSON value. The fields of an object keep their order. -/
inductive Json where
  | null
  | bool (value : Bool)
  | number (value : Nat)
  | text (value : List Char)
  | list (items : List Json)
  | object (fields : List (List Char × Json))
deriving Repr, Inhabited

namespace Json

inductive Token where
  | openList | closeList | openObject | closeObject | comma | colon
  | null
  | bool (value : Bool)
  | number (value : Nat)
  | text (value : List Char)
deriving DecidableEq, Repr

mutual

def tokens : Json → List Token
  | null => [.null]
  | bool value => [.bool value]
  | number value => [.number value]
  | text value => [.text value]
  | list [] => [.openList, .closeList]
  | list (item :: items) => .openList :: tokens item ++ tokensBehind items ++ [.closeList]
  | object [] => [.openObject, .closeObject]
  | object ((name, value) :: fields) =>
    .openObject :: .text name :: .colon :: tokens value ++ fieldTokensBehind fields ++ [.closeObject]

/-- The tokens of the items behind the first. -/
def tokensBehind : List Json → List Token
  | [] => []
  | item :: items => .comma :: tokens item ++ tokensBehind items

def fieldTokensBehind : List (List Char × Json) → List Token
  | [] => []
  | (name, value) :: fields =>
    .comma :: .text name :: .colon :: tokens value ++ fieldTokensBehind fields

end

end Json

end TextPattern
