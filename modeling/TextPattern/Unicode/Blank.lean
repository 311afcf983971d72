import TextPattern.CharSet.Basic

/-!
# White space

* `blanks` : the characters with the white space property;
* `isBlank` : the test of one character.
-/

namespace TextPattern.Unicode

def blanks : CharSet := ⟨[
  0x9, 0xE, 0x20, 0x21, 0x85, 0x86, 0xA0, 0xA1, 0x1680, 0x1681, 0x2000, 0x200B, 0x2028, 0x202A,
  0x202F, 0x2030, 0x205F, 0x2060, 0x3000, 0x3001],
  CharSet.pairwise_of_ascends (by decide)⟩

def isBlank (c : Char) : Bool := blanks.contains c

end TextPattern.Unicode
