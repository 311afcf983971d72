import TextPattern.Syntax.Escape

/-!
# Bracket classes

* `UnionLevel` : the items of a class read so far, between two operators or brackets;
* `ClassFrame` : what waits for the level to be finished, an open bracket or a left operand;
* `ClassMachine` : a class being read, `ClassMachine.step` reads one item, bracket or operator;
* `readBracket` : a whole class.
-/

namespace TextPattern.Syntax

/-- The items read so far, last first, and the places where they start and stop. -/
structure UnionLevel where
  start : Position
  stop : Position
  items : List ClassTree
deriving Repr

namespace UnionLevel

def openAt (p : Position) : UnionLevel := ⟨p, p, []⟩

def push (l : UnionLevel) (item : ClassTree) : UnionLevel :=
  ⟨if l.items.isEmpty then item.span.start else l.start, item.span.stop, item :: l.items⟩

def toTree (l : UnionLevel) : ClassTree :=
  match l.items with
  | [] => .empty ⟨l.start, l.stop⟩
  | [item] => item
  | items => .union ⟨l.start, l.stop⟩ items.reverse

end UnionLevel

/-- What waits for a level to be finished. -/
inductive ClassFrame where
  /-- An open bracket, from its `[` to behind its leading signs, in the level `outer`. -/
  | opened (outer : UnionLevel) (span : Span) (negated : Bool)
  /-- A left operand. -/
  | operand (op : SetOp) (lhs : ClassTree)
deriving Repr

structure ClassMachine where
  reader : Reader
  level : UnionLevel
  frames : List ClassFrame
deriving Repr

/-- The fault of a class that is not closed: it marks the innermost open bracket. -/
def unclosedClass : List ClassFrame → Reader → Fault
  | [], r => { kind := .classUnclosed, span := .at r.pos }
  | .opened _ span _ :: _, _ => { kind := .classUnclosed, span := span }
  | .operand _ _ :: frames, r => unclosedClass frames r

/-- Applies the operator whose left operand is waiting. -/
def closeOperand (rhs : ClassTree) : List ClassFrame → ClassTree × List ClassFrame
  | .operand op lhs :: frames => (.binary ⟨lhs.span.start, rhs.span.stop⟩ op lhs rhs, frames)
  | frames => (rhs, frames)

def Tree.asClassItem : Tree → Except Fault ClassTree
  | .literal l => .ok (.literal l)
  | .perl c => .ok (.perl c)
  | .property c => .ok (.property c)
  | t => fail .classEscapeInvalid t.span

def Tree.asRangeEnd : Tree → Except Fault Literal
  | .literal l => .ok l
  | t => fail .classRangeLiteral t.span

def readClassPrimitive (r : Reader) : Except Fault (Tree × Reader) :=
  match r.rest with
  | '\\' :: _ => readEscape r
  | c :: _ => .ok (.literal ⟨r.charSpan, c, false⟩, r.bump)
  | [] => fail .classUnclosed (.at r.pos)

def readClassItem (frames : List ClassFrame) (r : Reader) : Except Fault (ClassTree × Reader) := do
  let (first, r) ← readClassPrimitive r
  let r := r.skipBlanks
  match r.rest with
  | [] => .error (unclosedClass frames r)
  | c :: _ =>
    let next := r.peekPast
    if c != '-' || next = some ']' || next = some '-' then
      .ok (← first.asClassItem, r)
    else
      let r := r.advance
      if r.rest.isEmpty then .error (unclosedClass frames r)
      else
        let (last, r) ← readClassPrimitive r
        let span : Span := ⟨first.span.start, last.span.stop⟩
        let lo ← first.asRangeEnd
        let hi ← last.asRangeEnd
        if lo.char ≤ hi.char then .ok (.range span lo hi, r) else fail .classRangeInvalid span

def asciiKind? (name : List Char) : Option AsciiKind :=
  match String.ofList name with
  | "alnum" => some .alnum
  | "alpha" => some .alpha
  | "ascii" => some .ascii
  | "blank" => some .blank
  | "cntrl" => some .cntrl
  | "digit" => some .digit
  | "graph" => some .graph
  | "lower" => some .lower
  | "print" => some .print
  | "punct" => some .punct
  | "space" => some .space
  | "upper" => some .upper
  | "word" => some .word
  | "xdigit" => some .xdigit
  | _ => none

/-- The named ASCII class such as `[:alpha:]` at the reader, if there is one. -/
def readAsciiClass? (r : Reader) : Option (ClassTree × Reader) := do
  let inner ← r.past? ['[', ':']
  let sign := inner.past? ['^']
  let inner := sign.getD inner
  let name := inner.rest.takeWhile (· != ':')
  let next ← (inner.bumpN name.length).past? [':', ']']
  let kind ← asciiKind? name
  some (.ascii ⟨r.pos, next.pos⟩ kind sign.isSome, next)

/-- Reads what stands for itself at the start of a class: any hyphens, or else a `]`. The bracket of the
class is at `start`. -/
def readLeading (start : Position) (r : Reader) : Except Fault (UnionLevel × Reader) := do
  let (hyphens, next) := r.takePlaced (· = '-')
  let next ← next.unlessEnd .classUnclosed (.at start)
  let level := hyphens.foldl
    (fun l h => l.push (.literal ⟨.ofChar h.2 h.1, h.1, false⟩)) (.openAt r.pos)
  if hyphens.isEmpty && next.rest.head? = some ']' then
    .ok (level.push (.literal ⟨next.charSpan, ']', false⟩), next.advance)
  else .ok (level, next)

/-- Opens the bracket at the reader, with its sign of negation. -/
def openBracket (m : ClassMachine) : Except Fault ClassMachine := do
  let start := m.reader.pos
  let r := m.reader.advance
  let r ← r.unlessEnd .classUnclosed ⟨start, r.pos⟩
  let negated := r.rest.head? = some '^'
  let r := if negated then r.advance else r
  let r ← r.unlessEnd .classUnclosed ⟨start, r.pos⟩
  let (level, r) ← readLeading start r
  let r ← r.unlessEnd .classUnclosed ⟨start, r.pos⟩
  .ok ⟨r, level, .opened m.level ⟨start, r.pos⟩ negated :: m.frames⟩

def setOp? (text : List Char) : Option SetOp :=
  if ['&', '&'].isPrefixOf text then some .inter
  else if ['-', '-'].isPrefixOf text then some .diff
  else if ['~', '~'].isPrefixOf text then some .symmDiff
  else none

def ClassMachine.operator (m : ClassMachine) (op : SetOp) : ClassMachine :=
  let r := m.reader.bumpN 2
  let (lhs, frames) := closeOperand m.level.toTree m.frames
  ⟨r, .openAt r.pos, .operand op lhs :: frames⟩

/-- Reads the opening bracket at the reader, which may be that of a named class. -/
def ClassMachine.openItem (m : ClassMachine) : Except Fault ClassMachine :=
  match if m.frames.isEmpty then none else readAsciiClass? m.reader with
  | some (item, r) => .ok { m with reader := r, level := m.level.push item }
  | none => openBracket m

def ClassMachine.closeBracket (m : ClassMachine) : Except Fault (ClassMachine ⊕ (Tree × Reader)) :=
  let (body, frames) := closeOperand m.level.toTree m.frames
  let next := m.reader.bump
  match frames with
  | .opened outer span negated :: frames =>
    let span : Span := ⟨span.start, next.pos⟩
    if frames.isEmpty then .ok (.inr (.bracket span negated body, next))
    else .ok (.inl ⟨next, outer.push (.bracket span negated body), frames⟩)
  | _ => .error (unclosedClass frames m.reader)

/-- Reads one item, bracket or operator; a finished class is given with the reader behind it. -/
def ClassMachine.step (m : ClassMachine) : Except Fault (ClassMachine ⊕ (Tree × Reader)) :=
  let r := m.reader.skipBlanks
  let m := { m with reader := r }
  match r.rest with
  | [] => .error (unclosedClass m.frames r)
  | c :: _ =>
    if c = '[' then do .ok (.inl (← m.openItem))
    else if c = ']' then m.closeBracket
    else match setOp? r.rest with
      | some op => .ok (.inl (m.operator op))
      | none => do
        let (item, r) ← readClassItem m.frames r
        .ok (.inl { m with reader := r, level := m.level.push item })

def ClassMachine.run : Nat → ClassMachine → Except Fault (Tree × Reader)
  | 0, m => .error (unclosedClass m.frames m.reader)
  | fuel + 1, m => do
    match ← m.step with
    | .inl m => m.run fuel
    | .inr result => .ok result

/-- The bracket class at the reader. Every step reads a character, so the length of the rest bounds the
number of steps. -/
def readBracket (r : Reader) : Except Fault (Tree × Reader) :=
  (ClassMachine.mk r (.openAt r.pos) []).run (r.rest.length + 1)

end TextPattern.Syntax
