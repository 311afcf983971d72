import TextPattern.Pattern
import TextPattern.Random.Source
import TextPattern.Sample.Substitution

/-!
# Random texts for a pattern

* `drawClasses`, `drawToken` : one stage, in which what stands for one token is drawn and put in;
* `expand` : all stages;
* `generate` : a random text for a pattern.

A stage sees what earlier stages put in. What no stage knows stays as it is.
-/

namespace TextPattern.Sample

open TextPattern.Random

/-- Draws the number of characters that stand for a token, `max` being the greatest. -/
def Amount.draw {σ : Type} [Source σ] (a : Amount) (max : Nat) : StateM σ Nat :=
  match a with
  | .any => below (max + 1)
  | .most => return Nat.max max 1
  | .one => return 1

def drawValue {σ : Type} [Source σ] (alphabet : List Char) (a : Amount) (max : Nat) :
    StateM σ (List Char) := do
  letters alphabet (← a.draw max)

/-- Puts in what is drawn for the classes with the given bodies, one after the other. -/
def drawBodies {σ : Type} [Source σ] (a : Amount) (max : Nat) :
    (bodies : List (List Char)) → (text : List Char) → StateM σ (List Char)
  | [], text => return text
  | body :: bodies, text => do
    let value ← drawValue body a max
    drawBodies a max bodies (replaceAll (classMark body a.sign) value text)

/-- Puts in what is drawn for the plain classes of a text. -/
def drawClasses {σ : Type} [Source σ] (a : Amount) (max : Nat) (text : List Char) :
    StateM σ (List Char) :=
  drawBodies a max (classBodies a.sign text) text

/-- Puts in what is drawn for a token; nothing is drawn if the text does not have it. -/
def drawToken {σ : Type} [Source σ] (t : Token) (a : Amount) (max : Nat) (text : List Char) :
    StateM σ (List Char) :=
  let mark := t.mark ++ a.sign
  if occursFree mark text then do
    let value ← drawValue t.alphabet a max
    return exhaust mark value text
  else return text

/-- The tokens with their amounts, in the order in which they are replaced. -/
def tokenStages : List (Token × Amount) :=
  Token.all.flatMap fun t => Amount.all.map fun a => (t, a)

/-- Puts in what is drawn for all classes and tokens. -/
def expand {σ : Type} [Source σ] (max : Nat) (text : List Char) : StateM σ (List Char) := do
  let text ← Amount.all.foldlM (fun text a => drawClasses a max text) text
  tokenStages.foldlM (fun text stage => drawToken stage.1 stage.2 max text) text

/-- The text with every escaped dot as a dot. -/
def unescapeDots (text : List Char) : List Char := replaceAll ['\\', '.'] ['.'] text

end TextPattern.Sample

namespace TextPattern

open TextPattern.Random

def sampleLength (max : Int) : Except Error Nat :=
  if (maxRandomLength : Int) < max then .error (.invalidArgument (.lengthTooLarge max))
  else if max < 0 then .error (.invalidArgument (.lengthNegative max))
  else .ok max.toNat

/-- Generates a random text for a pattern. Nothing is drawn if that fails. -/
def generate {σ : Type} [Source σ] (pattern : String) (max : Int) (source : σ) :
    Except Error String × σ :=
  match validateAndCompile pattern .none, sampleLength max with
  | .error e, _ => (.error e, source)
  | _, .error e => (.error e, source)
  | .ok _, .ok n =>
    let (text, source) := (Sample.expand n pattern.toList).run source
    (.ok (String.ofList (Sample.unescapeDots text)), source)

end TextPattern
