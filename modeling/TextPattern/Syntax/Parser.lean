import TextPattern.Syntax.Bracket
import TextPattern.Syntax.Group
import TextPattern.Syntax.Nesting

/-!
# Parsing a pattern text

* `Level` : the content of a group being read, `OpenGroup` : a group whose content is being read;
* `Machine` : a pattern being read, `Machine.step` reads one item, `Machine.read` all of them, and
  `Machine.finish` ends the text;
* `readDecimal`, `readBounds`, `readCount` : the numbers of a counted repetition;
* `readItems`, `parse` : the machine behind, and the tree of, a whole pattern text.
-/

namespace TextPattern.Syntax

/-- What has been read between two parentheses: the branches before the last bar, last first, and the
parts of the branch behind it, last first. -/
structure Level where
  /-- Where the first branch starts. -/
  first : Position
  done : List Tree
  /-- Where the branch behind the last bar starts. -/
  start : Position
  parts : List Tree
deriving Repr

namespace Level

def openAt (p : Position) : Level := ⟨p, [], p, []⟩

def push (l : Level) (part : Tree) : Level := { l with parts := part :: l.parts }

/-- The branch behind the last bar as one tree that stops at `stop`. -/
def branch (l : Level) (stop : Position) : Tree :=
  match l.parts with
  | [] => .empty ⟨l.start, stop⟩
  | [part] => part
  | parts => .concat ⟨l.start, stop⟩ parts.reverse

def toTree (l : Level) (stop : Position) : Tree :=
  match l.done with
  | [] => l.branch stop
  | done => .alternation ⟨l.first, stop⟩ (l.branch stop :: done).reverse

end Level

/-- A group that started at `start` in the level `outer`, where blanks were treated as `extended`
tells. -/
structure OpenGroup where
  outer : Level
  start : Position
  kind : GroupKind
  extended : Bool
deriving Repr

/-- A pattern being read: the content of the innermost open group and the open groups from there
outwards. -/
structure Machine where
  reader : Reader
  level : Level
  groups : List OpenGroup
deriving Repr

/-! ## Repetitions -/

/-- The number at the reader, with blanks around it ignored, and the reader behind it. A fault of the
number counts only once the number is needed, so it does not stop the reading. -/
def readDecimal (r : Reader) : Except Fault Nat × Reader :=
  let r := r.dropBlanks
  let start := r.pos
  let (digits, r) := r.takeWhile Char.isDigit
  let span : Span := ⟨start, r.pos⟩
  let value : Nat := digits.foldl (fun n c => n * 10 + (c.toNat - 0x30)) 0
  let result : Except Fault Nat :=
    if digits.isEmpty then fail .repetitionCountDecimalEmpty span
    else if value < 0x100000000 then .ok value
    else fail .decimalInvalid span
  (result, r.dropBlanks)

/-- The bounds of a counted repetition behind its first number `min`, at a comma or the closing brace. The
opening brace is at `start`. -/
def readBounds (start : Position) (min : Except Fault Nat) (r : Reader) :
    Except Fault ((Nat × Option Nat) × Reader) :=
  if r.rest.head? = some ',' then do
    let r := r.advance
    let r ← r.unlessEnd .repetitionCountUnclosed ⟨start, r.pos⟩
    let n ← min
    if r.rest.head? = some '\x7d' then .ok ((n, none), r)
    else
      let (max, r) := readDecimal r
      .ok ((n, some (← max)), r)
  else do
    let n ← min
    .ok ((n, some n), r)

def readCount (r : Reader) : Except Fault ((Nat × Option Nat) × Reader) := do
  let start := r.pos
  let r := r.advance
  let r ← r.unlessEnd .repetitionCountUnclosed ⟨start, r.pos⟩
  let (min, r) := readDecimal r
  let r ← r.unlessEnd .repetitionCountUnclosed ⟨start, r.pos⟩
  let (bounds, r) ← readBounds start min r
  if r.rest.head? = some '\x7d' then .ok (bounds, r)
  else fail .repetitionCountUnclosed ⟨start, r.pos⟩

/-- A repetition operator may stand behind the tree. -/
def Tree.repeatable : Tree → Bool
  | .empty _ => false
  | .flags _ _ => false
  | _ => true

/-- The last part of the level, which a repetition operator at the reader applies to. -/
def operand (l : Level) (r : Reader) : Except Fault (Tree × Level) :=
  match l.parts with
  | [] => fail .repetitionMissing (.at r.pos)
  | part :: parts =>
    if part.repeatable then .ok (part, { l with parts }) else fail .repetitionMissing (.at r.pos)

/-- Repeats the last part of the level by the operator at the reader. -/
def Machine.repeatBy (m : Machine) (count : Count) : Except Fault Machine := do
  let (sub, level) ← operand m.level m.reader
  let r := m.reader.bump
  let lazy := r.rest.head? = some '?'
  let r := if lazy then r.bump else r
  let tree := Tree.repetition ⟨sub.span.start, r.pos⟩ count (!lazy) sub
  .ok { m with reader := r, level := level.push tree }

/-- Repeats the last part of the level as the braces at the reader tell. The span of the repetition
takes in the blanks behind the braces, which are left to be read. -/
def Machine.repeatCounted (m : Machine) : Except Fault Machine := do
  let (sub, level) ← operand m.level m.reader
  let ((min, max), r) ← readCount m.reader
  let past := r.advance
  let lazy := past.rest.head? = some '?'
  let stop := if lazy then past.bump.pos else past.pos
  let r := if lazy then past.bump else r.bump
  if h : ∀ n ∈ max, min ≤ n then
    let tree := Tree.repetition ⟨sub.span.start, stop⟩ ⟨min, max, h⟩ (!lazy) sub
    .ok { m with reader := r, level := level.push tree }
  else fail .repetitionCountInvalid ⟨m.reader.pos, stop⟩

/-! ## Groups and alternations -/

/-- Reads the opening parenthesis at the reader. A setting of the extended flag holds from here on, a
group has its own. -/
def Machine.openGroup (m : Machine) : Except Fault Machine := do
  let start := m.reader.pos
  let (what, r) ← readGroupStart m.reader
  match what with
  | .setting span items =>
    let extended := (flagValue items .extended).getD r.extended
    .ok { m with reader := { r with extended }, level := m.level.push (.flags span items) }
  | .opened kind content =>
    let extended := (flagValue kind.flags .extended).getD r.extended
    .ok ⟨{ r with extended }, .openAt content, ⟨m.level, start, kind, r.extended⟩ :: m.groups⟩

def Machine.closeGroup (m : Machine) : Except Fault Machine :=
  let r := m.reader
  match m.groups with
  | [] => fail .groupUnopened r.charSpan
  | g :: groups =>
    let next := { r.bump with extended := g.extended }
    let group := Tree.group ⟨g.start, next.pos⟩ g.kind (m.level.toTree r.pos)
    .ok ⟨next, g.outer.push group, groups⟩

def Machine.endBranch (m : Machine) : Machine :=
  let l := m.level
  let next := m.reader.bump
  { m with reader := next, level := ⟨l.first, l.branch m.reader.pos :: l.done, next.pos, []⟩ }

/-! ## The machine -/

def Machine.push (m : Machine) (read : Except Fault (Tree × Reader)) : Except Fault Machine := do
  let (item, r) ← read
  .ok { m with reader := r, level := m.level.push item }

def signAssertion (m : Machine) (kind : Assertion) : Except Fault (Tree × Reader) :=
  .ok (.assertion m.reader.charSpan kind, m.reader.bump)

def Machine.step (m : Machine) (c : Char) : Except Fault Machine :=
  let r := m.reader
  match c with
  | '(' => m.openGroup
  | ')' => m.closeGroup
  | '|' => .ok m.endBranch
  | '[' => m.push (readBracket r)
  | '?' => m.repeatBy .optional
  | '*' => m.repeatBy .unlimited
  | '+' => m.repeatBy .positive
  | '\x7b' => m.repeatCounted
  | '\\' => m.push (readEscape r)
  | '.' => m.push (.ok (.dot r.charSpan, r.bump))
  | '^' => m.push (signAssertion m .lineStart)
  | '$' => m.push (signAssertion m .lineEnd)
  | c => m.push (.ok (.literal ⟨r.charSpan, c, false⟩, r.bump))

/-- Reads items until only blanks and comments are left, at most `fuel` of them. -/
def Machine.read : Nat → Machine → Except Fault Machine
  | 0, m => fail .groupUnclosed (.at m.reader.pos)
  | fuel + 1, m =>
    let r := m.reader.skipBlanks
    match r.rest with
    | [] => .ok m
    | c :: _ => do (← { m with reader := r }.step c).read fuel

def Machine.finish (m : Machine) : Except Fault Tree :=
  match m.groups with
  | [] => .ok (m.level.toTree m.reader.skipBlanks.pos)
  | g :: _ => fail .groupUnclosed (.ofChar g.start '(')

def Machine.ofText (text : List Char) (extended : Bool) : Machine :=
  ⟨.ofText text extended, .openAt .first, []⟩

/-- The machine behind the last item of a text. Every item has a character, so the length of the text
bounds the number of items. -/
def readItems (text : List Char) (extended : Bool) : Except Fault Machine :=
  (Machine.ofText text extended).read (text.length + 1)

/-- The tree of a pattern text, read in extended mode from the start if `extended`. -/
def parse (text : List Char) (extended : Bool) : Except Fault Tree := do
  let tree ← (← readItems text extended).finish
  tree.checkDepth 0
  .ok tree

end TextPattern.Syntax
