import TextPattern.CharSet.Basic
import TextPattern.Text.Hex

/-!
# Tables of characters

A table gives the members of one property value as text: hexadecimal code points and closed ranges in
ascending order, separated by blanks, such as `41-5A 61-7A AA`.

* `Table` : the names of a property value and its members as text;
* `readRanges` : the ranges that such a text denotes;
* `Table.set` : the members as a set, `findTable?` : the table with a given name.
-/

namespace TextPattern.Unicode

/-- The ranges of a text of ranges, `lo` being the start of the range being read and `value` the
number read so far; the ranges already read are given last first. -/
def readRangesFrom : List Char → Option Nat → Option Nat → List (Nat × Nat) → List (Nat × Nat)
  | [], _, none, done => done.reverse
  | [], lo, some value, done => ((lo.getD value, value) :: done).reverse
  | '-' :: cs, _, value, done => readRangesFrom cs value none done
  | c :: cs, lo, value, done =>
    match hexDigit? c with
    | some d => readRangesFrom cs lo (some (value.getD 0 * 16 + d)) done
    | none =>
      match value with
      | some v => readRangesFrom cs none none ((lo.getD v, v) :: done)
      | none => readRangesFrom cs lo none done

def readRanges (text : String) : List (Nat × Nat) := readRangesFrom text.toList none none []

/-- The names of a property value, without case, blanks, `_` and `-`, and its members as text. -/
structure Table where
  names : List String
  members : String

def Table.set (t : Table) : CharSet := .ofRanges (readRanges t.members)

def findTable? (tables : List Table) (name : String) : Option Table :=
  tables.find? fun t => t.names.contains name

example : readRanges "41-5A 61 AA" = [(0x41, 0x5A), (0x61, 0x61), (0xAA, 0xAA)] := by decide

end TextPattern.Unicode
