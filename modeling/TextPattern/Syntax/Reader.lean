import TextPattern.Syntax.Tree
import TextPattern.Syntax.Fault

/-!
# Reading a pattern text

* `Reader` : what is left to read, where that is, and what the text read so far has settled;
* `Reader.bump`, `Reader.skipBlanks`, `Reader.advance` : moving on, `Reader.unlessEnd` : only before the
  end;
* `Reader.past?`, `Reader.peek`, `Reader.peekPast` : looking at what comes next;
* `Reader.takeWhile` : the characters of a class, blanks between them left out.

In extended mode blanks and comments between items are not part of the pattern; a comment goes from
`#` to the end of its line.
-/

namespace TextPattern.Syntax

open Unicode (isBlank)

structure Reader where
  rest : List Char
  pos : Position
  /-- Blanks and comments are ignored. -/
  extended : Bool
  /-- The number of capture groups opened so far. -/
  captures : Nat
  /-- The capture names given so far, with their places. -/
  names : List (List Char × Span)
deriving Repr

namespace Reader

def ofText (text : List Char) (extended : Bool) : Reader := ⟨text, .first, extended, 0, []⟩

def bump (r : Reader) : Reader :=
  match r.rest with
  | [] => r
  | c :: cs => { r with rest := cs, pos := r.pos.after c }

def bumpN : Nat → Reader → Reader
  | 0, r => r
  | n + 1, r => bumpN n r.bump

/-- The reader behind the characters of `sign`, if they come next. -/
def past? (sign : List Char) (r : Reader) : Option Reader :=
  if sign.isPrefixOf r.rest then some (r.bumpN sign.length) else none

/-- What follows blanks and comments, given whether a comment is open. -/
def skipFrom : List Char → Position → Bool → List Char × Position
  | [], p, _ => ([], p)
  | c :: cs, p, inComment =>
    if inComment then skipFrom cs (p.after c) (c != '\n')
    else if isBlank c then skipFrom cs (p.after c) false
    else if c = '#' then skipFrom cs (p.after c) true
    else (c :: cs, p)

/-- Moves over blanks and comments in extended mode. -/
def skipBlanks (r : Reader) : Reader :=
  if r.extended then
    let next := skipFrom r.rest r.pos false
    { r with rest := next.1, pos := next.2 }
  else r

/-- Moves behind the next character and over what extended mode ignores. -/
def advance (r : Reader) : Reader := r.bump.skipBlanks

/-- The reader, which has to be before the end of its text. -/
def unlessEnd (r : Reader) (kind : FaultKind) (span : Span) : Except Fault Reader :=
  if r.rest.isEmpty then fail kind span else .ok r

def charSpan (r : Reader) : Span :=
  match r.rest with
  | [] => .at r.pos
  | c :: _ => .ofChar r.pos c

/-- The character behind the next one. -/
def peek (r : Reader) : Option Char := r.rest[1]?

/-- The first character that is neither blank nor the `#` of a comment. -/
def firstSolid : List Char → Bool → Option Char
  | [], _ => none
  | c :: cs, inComment =>
    if isBlank c then firstSolid cs inComment
    else if !inComment && c = '#' then firstSolid cs true
    else some c

/-- The character behind the next one; in extended mode blanks and the sign of a comment do not
count. -/
def peekPast (r : Reader) : Option Char :=
  if r.extended then
    match r.rest with
    | [] => none
    | _ :: cs => (firstSolid cs false).or cs.head?
  else r.peek

/-- The longest run of characters that satisfy `p`, last first and each with its place; in extended
mode blanks and comments between them are skipped, also behind the last one. -/
def takeFrom (p : Char → Bool) (extended : Bool) : List Char → Position → Bool →
    List (Char × Position) → List (Char × Position) × List Char × Position
  | [], pos, _, taken => (taken, [], pos)
  | c :: cs, pos, inComment, taken =>
    if inComment then takeFrom p extended cs (pos.after c) (c != '\n') taken
    else if extended && isBlank c then takeFrom p extended cs (pos.after c) false taken
    else if extended && c = '#' then takeFrom p extended cs (pos.after c) true taken
    else if p c then takeFrom p extended cs (pos.after c) false ((c, pos) :: taken)
    else (taken, c :: cs, pos)

def takePlaced (p : Char → Bool) (r : Reader) : List (Char × Position) × Reader :=
  let next := takeFrom p r.extended r.rest r.pos false []
  (next.1.reverse, { r with rest := next.2.1, pos := next.2.2 })

def takeWhile (p : Char → Bool) (r : Reader) : List Char × Reader :=
  let next := r.takePlaced p
  (next.1.map Prod.fst, next.2)

def dropBlanksFrom : List Char → Position → List Char × Position
  | [], p => ([], p)
  | c :: cs, p => if isBlank c then dropBlanksFrom cs (p.after c) else (c :: cs, p)

def dropBlanks (r : Reader) : Reader :=
  let next := dropBlanksFrom r.rest r.pos
  { r with rest := next.1, pos := next.2 }

end Reader

end TextPattern.Syntax
