import TextPattern.Unicode.Binary
import TextPattern.Unicode.Category

/-!
# Quoted texts in messages

* `isShown` : a character that a message can show as it is;
* `quoted` : a text between double quotes, with escape sequences for what cannot be shown.
-/

namespace TextPattern

def extenders : CharSet :=
  ((Unicode.findTable? Unicode.binaryTables "graphemeextend").map (·.set)).getD .empty

/-- Controls, formats, separators, private and unassigned characters. -/
def hidden : CharSet :=
  .unions (["cc", "cf", "cs", "co", "cn", "zl", "zp", "zs"].filterMap fun n =>
    (Unicode.findTable? Unicode.categoryTables n).map (·.set))

/-- The character can be shown as it is, alone. -/
def isShown (c : Char) : Bool :=
  c = ' ' || if c.toNat < 0x7F then 0x20 < c.toNat else !extenders.contains c && !hidden.contains c

def quotedChar (c : Char) : List Char :=
  match c with
  | '\x00' => ['\\', '0']
  | '\t' => ['\\', 't']
  | '\r' => ['\\', 'r']
  | '\n' => ['\\', 'n']
  | '\\' => ['\\', '\\']
  | '"' => ['\\', '"']
  | c => if isShown c then [c] else "\\u\x7b".toList ++ Nat.toDigits 16 c.toNat ++ ['\x7d']

def quoted (text : String) : String :=
  String.ofList ('"' :: text.toList.flatMap quotedChar ++ ['"'])

end TextPattern
