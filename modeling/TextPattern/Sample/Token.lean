/-!
# Tokens of a pattern that samples are drawn for

* `Amount` : how many characters stand for a token;
* `Token` : the tokens that stand for one of several characters;
* `Amount.sign`, `Token.mark` : how they are written; `Token.alphabet` : what is drawn for a token.
-/

namespace TextPattern.Sample

/-- How many characters stand for a token. -/
inductive Amount where
  /-- Any number up to the greatest length. -/
  | any
  /-- The greatest length, at least one. -/
  | most
  /-- One. -/
  | one
deriving DecidableEq, Repr

namespace Amount

/-- All amounts, in the order in which they are replaced. -/
def all : List Amount := [any, most, one]

def sign : Amount → List Char
  | any => ['*']
  | most => ['+']
  | one => []

end Amount

/-- A token that stands for one of several characters. -/
inductive Token where
  | dot | word | digit | blank
deriving DecidableEq, Repr

namespace Token

def all : List Token := [dot, word, digit, blank]

def mark : Token → List Char
  | dot => ['.']
  | word => ['\\', 'w']
  | digit => ['\\', 'd']
  | blank => ['\\', 's']

def digits : List Char := "0123456789".toList

def wordCharacters : List Char :=
  "abcdefghijklmnopqrstuvwxyzABCDEFGHIJKLMNOPQRSTUVWXYZ".toList ++ digits ++ ['_']

def alphabet : Token → List Char
  | dot | word => wordCharacters
  | digit => digits
  | blank => [' ']

end Token

/-- A backslash does not stand before a token; it would make the token something else. -/
def opens (c : Char) : Bool := c != '\\'

end TextPattern.Sample
