import TextPattern.Syntax.Escape
import TextPattern.Unicode.Binary
import TextPattern.Unicode.Category

/-!
# Openings of groups

* `GroupStart` : what stands at an opening parenthesis, a flag setting or the start of a group;
* `readFlags`, `readCaptureName` : the letters and the name behind it;
* `readNamedGroup`, `readFlagged`, `readGroupStart` : the whole of it.
-/

namespace TextPattern.Syntax

/-- What an opening parenthesis begins. -/
inductive GroupStart where
  /-- A setting such as `(?i)`, which holds up to the end of the group around it. -/
  | setting (span : Span) (items : List FlagItem)
  /-- A group whose content starts at a place. -/
  | opened (kind : GroupKind) (content : Position)
deriving Repr

def flagOfLetter? : Char → Option Flag
  | 'i' => some .ignoreCase
  | 'm' => some .multiLine
  | 's' => some .dotAll
  | 'U' => some .swapGreed
  | 'u' => some .unicode
  | 'R' => some .crlf
  | 'x' => some .extended
  | _ => none

/-- The flag items up to `:` or `)`; `items` are those already read, last first, and `sign` is the place
of a negation sign with nothing behind it yet. -/
def readFlags : List Char → Position → Option Span → List FlagItem →
    Except Fault (List FlagItem × List Char × Position)
  | [], p, _, _ => fail .flagUnexpectedEnd (.at p)
  | c :: cs, p, sign, items =>
    let span := Span.ofChar p c
    if c = ':' ∨ c = ')' then
      match sign with
      | some span => fail .flagDanglingNegation span
      | none => .ok (items.reverse, c :: cs, p)
    else if c = '-' then
      match items.find? fun i => i.flag.isNone with
      | some i => .error { kind := .flagRepeatedNegation, span, other := some i.span }
      | none => readFlags cs (p.after c) (some span) (⟨span, none⟩ :: items)
    else match flagOfLetter? c with
      | none => fail .flagUnrecognized span
      | some f =>
        match items.find? fun i => i.flag = some f with
        | some i => .error { kind := .flagDuplicate, span, other := some i.span }
        | none => readFlags cs (p.after c) none (⟨span, some f⟩ :: items)

def alphabetic : CharSet := ((Unicode.findTable? Unicode.binaryTables "alphabetic").map (·.set)).getD .empty

def numeric : CharSet :=
  .unions (["nd", "nl", "no"].filterMap fun n =>
    (Unicode.findTable? Unicode.categoryTables n).map (·.set))

/-- The character may stand in a capture name, at its start if `first`. -/
def isNameChar (c : Char) (first : Bool) : Bool :=
  c = '_' || alphabetic.contains c ||
    (!first && (c = '.' || c = '[' || c = ']' || numeric.contains c))

/-- The characters of a capture name up to `>`, those already read being given last first. -/
def readNameChars : List Char → Position → List Char →
    Except Fault (List Char × List Char × Position)
  | [], p, _ => fail .groupNameUnexpectedEnd (.at p)
  | c :: cs, p, name =>
    if c = '>' then .ok (name.reverse, c :: cs, p)
    else if isNameChar c name.isEmpty then readNameChars cs (p.after c) (c :: name)
    else fail .groupNameInvalid (.ofChar p c)

def readCaptureName (r : Reader) : Except Fault (List Char × Reader) := do
  let (name, rest, stop) ← readNameChars r.rest r.pos []
  let span : Span := ⟨r.pos, stop⟩
  if name.isEmpty then fail .groupNameEmpty (.at r.pos)
  match r.names.find? fun n => n.1 = name with
  | some n => .error { kind := .groupNameDuplicate, span, other := some n.2 }
  | none =>
    .ok (name, ({ r with rest, pos := stop, names := (name, span) :: r.names } : Reader).bump)

def readNamedGroup (r : Reader) : Except Fault (GroupStart × Reader) := do
  let index := r.captures + 1
  let (name, r) ← readCaptureName { r with captures := index }
  .ok (.opened (.named index name) r.pos, r)

/-- What flag items at the reader begin, the parenthesis before them being at `start` and the question
mark at `mark`. -/
def readFlagged (start mark : Position) (r : Reader) : Except Fault (GroupStart × Reader) := do
  if r.rest.isEmpty then fail .groupUnclosed (.ofChar start '(')
  let (items, rest, pos) ← readFlags r.rest r.pos none []
  let r := ({ r with rest, pos } : Reader)
  if r.rest.head? = some ')' then
    if items.isEmpty then fail .repetitionMissing (.at mark)
    else .ok (.setting ⟨start, r.bump.pos⟩ items, r.bump)
  else .ok (.opened (.plain items) r.bump.pos, r.bump)

/-- What the opening parenthesis at the reader begins. The content of a capture group starts behind
blanks, which are left to be read. -/
def readGroupStart (r : Reader) : Except Fault (GroupStart × Reader) :=
  let start := r.pos
  let next := r.bump
  let r := r.advance
  match (r.past? ['?', '=']).or <| (r.past? ['?', '!']).or <|
      (r.past? ['?', '<', '=']).or (r.past? ['?', '<', '!']) with
  | some r => fail .lookAround ⟨start, r.pos⟩
  | none =>
    match (r.past? ['?', 'P', '<']).or (r.past? ['?', '<']) with
    | some r => readNamedGroup r
    | none =>
      match r.past? ['?'] with
      | some next => readFlagged start r.pos next
      | none =>
        let index := r.captures + 1
        .ok (.opened (.capture index) r.pos, { next with captures := index })

end TextPattern.Syntax
