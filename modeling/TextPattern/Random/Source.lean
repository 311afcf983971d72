/-!
# Random draws

* `Source` : a source of random words of 32 bits;
* `below` : a number below a bound, drawn from one or two words;
* `letters` : a text of characters drawn from an alphabet.
-/

namespace TextPattern.Random

/-- A source of random words: the next word, and the source behind it. -/
class Source (σ : Type) where
  next : σ → UInt32 × σ

def wordCount : Nat := 0x100000000

/-- The number below `n` that two words select. A word times `n` is a number with a whole part and a
part below one; the second word settles whether the missing lower digits carry into the whole part. -/
def select (n : Nat) (a b : UInt32) : Nat :=
  let product := a.toNat * n
  let carry := product % wordCount + b.toNat * n / wordCount
  if wordCount ≤ carry then product / wordCount + 1 else product / wordCount

/-- The lower digits that a second word adds may carry into the whole part. -/
def mayCarry (n : Nat) (a : UInt32) : Bool := wordCount - n < a.toNat * n % wordCount

/-- Draws a number below `n`. The second word is drawn only if it matters. -/
def below {σ : Type} [Source σ] (n : Nat) : StateM σ Nat := do
  let a ← Source.next
  if mayCarry n a then
    let b ← Source.next
    return select n a b
  else
    return select n a 0

/-- Draws `n` characters of an alphabet in front of `drawn`, which is given last first. -/
def lettersFrom {σ : Type} [Source σ] (alphabet : Array Char) :
    (n : Nat) → (drawn : List Char) → StateM σ (List Char)
  | 0, drawn => return drawn.reverse
  | n + 1, drawn => do
    let i ← below alphabet.size
    lettersFrom alphabet n (alphabet[i]?.toList ++ drawn)

def letters {σ : Type} [Source σ] (alphabet : List Char) (n : Nat) : StateM σ (List Char) :=
  if alphabet.isEmpty then return [] else lettersFrom alphabet.toArray n []

end TextPattern.Random
