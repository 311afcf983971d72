import TextPattern.Yaml.Fault

/-!
# Places in a YAML text

* `isBreak`, `isBlank` : the characters that separate lines and words;
* `Cursor` : a place with the text behind it;
* `Cursor.span`, `Cursor.takeBreak` : passing over characters of one line and over a line break;
* `Gap`, `Cursor.gap` : blanks and line breaks between two words of a scalar.
-/

namespace TextPattern.Yaml

def isBreak (c : Char) : Bool :=
  c = '\n' || c = '\r' || c = '\u0085' || c = '\u2028' || c = '\u2029'

def isBlank (c : Char) : Bool := c = ' ' || c = '\t'

/-- A blank, a line break or the end of the text. -/
def endsWord : Option Char → Bool
  | none => true
  | some c => isBlank c || isBreak c

def endsLine : Option Char → Bool
  | none => true
  | some c => isBreak c

/-- The text that a line break stands for: a line feed, unless it is a separator of its own. -/
def breakText (c : Char) : List Char :=
  if c = '\u2028' ∨ c = '\u2029' then [c] else ['\n']

def isNameChar (c : Char) : Bool := c.isAlphanum || c = '_' || c = '-'

/-- A place in a text: the text behind it, its mark and the number of characters before it. -/
structure Cursor where
  rest : List Char
  mark : Mark
  index : Nat
deriving Repr

namespace Cursor

def ofText (text : List Char) : Cursor := ⟨text, .first, 0⟩

/-- The character behind `n` others. -/
def look? (c : Cursor) (n : Nat) : Option Char := c.rest[n]?

/-- The place behind the next character, which does not end a line. -/
def skip (c : Cursor) : Cursor :=
  match c.rest with
  | [] => c
  | _ :: rest => ⟨rest, c.mark.nextColumn, c.index + 1⟩

def skipMany : Nat → Cursor → Cursor
  | 0, c => c
  | n + 1, c => skipMany n c.skip

/-- The text of a line break, and the place behind it. -/
def takeBreak (c : Cursor) : List Char × Cursor :=
  match c.rest with
  | '\r' :: '\n' :: rest => (['\n'], ⟨rest, c.mark.nextLine, c.index + 2⟩)
  | d :: rest =>
    if isBreak d then (breakText d, ⟨rest, c.mark.nextLine, c.index + 1⟩) else ([], c)
  | [] => ([], c)

def spanFrom (p : Char → Bool) :
    List Char → Mark → Nat → (taken : List Char) → List Char × Cursor
  | [], mark, index, taken => (taken.reverse, ⟨[], mark, index⟩)
  | c :: rest, mark, index, taken =>
    if p c then spanFrom p rest mark.nextColumn (index + 1) (c :: taken)
    else (taken.reverse, ⟨c :: rest, mark, index⟩)

/-- The next characters that satisfy `p`, none of which ends a line, and the place behind them. -/
def span (p : Char → Bool) (c : Cursor) : List Char × Cursor := spanFrom p c.rest c.mark c.index []

/-- A line begins with three of the character `d`, as the marks of documents do. -/
def atTriple (d : Char) (c : Cursor) : Bool :=
  c.mark.column = 0 && [d, d, d].isPrefixOf c.rest && endsWord (c.look? 3)

/-- A line begins that marks the start or the end of a document. -/
def atDocumentMark (c : Cursor) : Bool := c.atTriple '-' || c.atTriple '.'

end Cursor

/-! ## Gaps between words -/

/-- Blanks and line breaks between two words. Blanks count unless there is a line break; `first` is the
text of the first line break, and `more` that of the others. Both texts that grow are last first. -/
structure Gap where
  blanks : List Char := []
  first : Option (List Char) := none
  more : List Char := []
deriving Repr

namespace Gap

def addBlank (g : Gap) (c : Char) : Gap :=
  if g.first.isSome then g else { g with blanks := c :: g.blanks }

def addBreak (g : Gap) (text : List Char) : Gap :=
  match g.first with
  | none => { g with first := some text }
  | some _ => { g with more := text.reverse ++ g.more }

/-- What a gap stands for: a line break between two words is a blank, and of more line breaks the first
is dropped. -/
def text (g : Gap) : List Char :=
  match g.first with
  | none => g.blanks.reverse
  | some ['\n'] => if g.more.isEmpty then [' '] else g.more.reverse
  | some first => first ++ g.more.reverse

end Gap

/-- The rest of a gap. A tab at the start of a line, left of column `limit`, is an error. -/
def gapFrom (limit : Nat) : List Char → Mark → Nat → Gap → Except Mark (Gap × Cursor)
  | '\r' :: '\n' :: rest, mark, index, g =>
    gapFrom limit rest mark.nextLine (index + 2) (g.addBreak ['\n'])
  | c :: rest, mark, index, g =>
    if isBlank c then
      if g.first.isSome && c = '\t' && mark.column < limit then .error mark
      else gapFrom limit rest mark.nextColumn (index + 1) (g.addBlank c)
    else if isBreak c then gapFrom limit rest mark.nextLine (index + 1) (g.addBreak (breakText c))
    else .ok (g, ⟨c :: rest, mark, index⟩)
  | [], mark, index, g => .ok (g, ⟨[], mark, index⟩)

def Cursor.gap (limit : Nat) (g : Gap) (c : Cursor) : Except Mark (Gap × Cursor) :=
  gapFrom limit c.rest c.mark c.index g

end TextPattern.Yaml
