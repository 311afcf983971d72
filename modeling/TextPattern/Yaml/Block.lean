import TextPattern.Yaml.Quoted

/-!
# Block scalars

`blockScalar` : the text of a scalar of whole lines, literal or folded. Its lines are indented; behind its
sign stand the indentation and what is done with the line breaks at its end, both in any order and both
optional.
-/

namespace TextPattern.Yaml

/-- What is done with the line breaks at the end of a block scalar. -/
inductive Chomping where
  /-- All are dropped. -/
  | strip
  /-- The first is kept. -/
  | clip
  /-- All are kept. -/
  | keep
deriving DecidableEq, Repr

def scanningBlock : String := "while scanning a block scalar"

def chomping? : Option Char → Option Chomping
  | some '+' => some .keep
  | some '-' => some .strip
  | _ => none

def indentation (start : Mark) (c : Cursor) : Except Fault (Option Nat × Cursor) :=
  match c.look? 0 with
  | some d =>
    if d = '0' then
      faultIn "found an indentation indicator equal to 0" c.mark scanningBlock start
    else if d.isDigit then .ok (some (d.toNat - '0'.toNat), c.skip)
    else .ok (none, c)
  | none => .ok (none, c)

/-- What stands behind the sign of a block scalar: the rule for its end and its indentation. -/
def blockHeader (start : Mark) (c : Cursor) :
    Except Fault (Chomping × Option Nat × Cursor) := do
  match chomping? (c.look? 0) with
  | some rule =>
    let (indent, c) ← indentation start c.skip
    return (rule, indent, c)
  | none =>
    let (indent, c) ← indentation start c
    match indent, chomping? (c.look? 0) with
    | some _, some rule => return (rule, indent, c.skip)
    | _, _ => return (.clip, indent, c)

/-- Empty lines in front of a line of a block scalar: their breaks, the mark behind the last of them, the
greatest column reached by blanks, and the place behind the blanks of the line. -/
structure EmptyLines where
  breaks : List Char
  stop : Mark
  widest : Nat
  behind : Cursor
deriving Repr

/-- The rest of the empty lines. `limit` is the indentation, if it is known; a tab in its place is an
error. The breaks so far are last first. -/
def emptyLinesFrom (limit : Option Nat) :
    List Char → Mark → Nat → (breaks : List Char) → (stop : Mark) → (widest : Nat) →
      Except Mark EmptyLines
  | '\r' :: '\n' :: rest, mark, index, breaks, _, widest =>
    emptyLinesFrom limit rest mark.nextLine (index + 2) ('\n' :: breaks) mark.nextLine
      (max widest mark.column)
  | c :: rest, mark, index, breaks, stop, widest =>
    if limit.all (mark.column < ·) && c = ' ' then
      emptyLinesFrom limit rest mark.nextColumn (index + 1) breaks stop widest
    else if limit.all (mark.column < ·) && c = '\t' then .error mark
    else if isBreak c then
      emptyLinesFrom limit rest mark.nextLine (index + 1) ((breakText c).reverse ++ breaks)
        mark.nextLine (max widest mark.column)
    else .ok ⟨breaks.reverse, stop, max widest mark.column, ⟨c :: rest, mark, index⟩⟩
  | [], mark, index, breaks, stop, widest =>
    .ok ⟨breaks.reverse, stop, max widest mark.column, ⟨[], mark, index⟩⟩

def emptyLines (start : Mark) (limit : Option Nat) (c : Cursor) : Except Fault EmptyLines :=
  match emptyLinesFrom limit c.rest c.mark c.index [] c.mark 0 with
  | .ok lines => .ok lines
  | .error place =>
    faultIn "found a tab character where an indentation space is expected" place scanningBlock start

/-- What a line break between two lines stands for, `breaks` being the empty lines between them: in a
folded scalar it is a blank or nothing, unless a line begins with a blank. -/
def joinLines (literal : Bool) (lineBreak breaks : List Char) (blankBefore blankBehind : Bool) :
    List Char :=
  if !literal && lineBreak = ['\n'] && !blankBefore && !blankBehind then
    if breaks.isEmpty then [' '] else breaks
  else lineBreak ++ breaks

/-- A block scalar: its text, the mark at its end and the place behind it. -/
structure Block where
  text : List Char
  stop : Mark
  behind : Cursor
deriving Repr

/-- The rest of a block scalar behind `done`, its text so far, last first. The line before ended in
`lineBreak` and began with a blank or not. -/
def blockFrom (literal : Bool) (rule : Chomping) (start : Mark) (indent : Nat) :
    (rounds : Nat) → EmptyLines → (lineBreak : List Char) → (blankBefore : Bool) →
      (done : List Char) → Except Fault Block
  | 0, lines, _, _, done => .ok ⟨done.reverse, lines.stop, lines.behind⟩
  | rounds + 1, lines, lineBreak, blankBefore, done =>
    let c := lines.behind
    if c.mark.column = indent && !c.rest.isEmpty then do
      let blank := (c.look? 0).any isBlank
      let joint := joinLines literal lineBreak lines.breaks blankBefore blank
      let (line, c) := c.span fun d => !isBreak d
      let (lineBreak, c) := c.takeBreak
      let lines ← emptyLines start (some indent) c
      blockFrom literal rule start indent rounds lines lineBreak blank
        (line.reverse ++ (joint.reverse ++ done))
    else
      let tail := match rule with
        | .strip => []
        | .clip => lineBreak
        | .keep => lineBreak ++ lines.breaks
      .ok ⟨done.reverse ++ tail, lines.stop, c⟩

/-- The block scalar at the place, in a collection at column `parent` if there is one. -/
def blockScalar (literal : Bool) (parent : Option Nat) (c : Cursor) : Except Fault Block := do
  let start := c.mark
  let (rule, increment, c) ← blockHeader start c.skip
  let c := (c.span isBlank).2
  let c := if c.look? 0 = some '#' then (c.span fun d => !isBreak d).2 else c
  if !endsLine (c.look? 0) then
    faultIn "did not find expected comment or line break" c.mark scanningBlock start
  else
    let c := c.takeBreak.2
    let known := increment.map fun n => parent.getD 0 + n
    let lines ← emptyLines start known c
    let least := parent.elim 1 (· + 1)
    let indent := known.getD (max lines.widest (max least 1))
    blockFrom literal rule start indent (c.rest.length + 1) lines [] false []

end TextPattern.Yaml
