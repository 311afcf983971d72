import TextPattern.Yaml.Scanner

/-!
# Events of a YAML text

* `Event` : the start or the end of a node, a scalar or an alias;
* `Reader` : the tokens still to be read and what is expected of them;
* `Reader.next` : the next event;
* `eventsOf` : the events of a text up to its first fault.

A text is read without building its nodes, so that what comes before a fault is known.
-/

namespace TextPattern.Yaml

/-- What a node begins with: its anchor and its tag. -/
structure Properties where
  anchor : Option String := none
  tag : Option String := none
deriving DecidableEq, Repr

inductive Event.Kind where
  | streamStart | streamEnd | documentStart | documentEnd
  | alias (name : String)
  | scalar (text : String) (plain : Bool) (properties : Properties)
  | sequence (properties : Properties)
  | sequenceEnd
  | mapping (properties : Properties)
  | mappingEnd
deriving DecidableEq, Repr

structure Event where
  kind : Event.Kind
  mark : Mark
deriving DecidableEq, Repr

/-- What is expected next. The mark in a state is where the collection began. -/
inductive Expected where
  | streamStart
  | document (implicit : Bool)
  | documentContent
  | documentEnd
  | node
  | blockEntry (opened : Mark)
  | openEntry
  | blockKey (opened : Mark)
  | blockValue (opened : Mark)
  | flowItem (first : Bool) (opened : Mark)
  | pairKey (opened : Mark)
  | pairValue (opened : Mark)
  | pairEnd (opened : Mark)
  | flowKey (first : Bool) (opened : Mark)
  | flowValue (opened : Mark)
  | noFlowValue (opened : Mark)
  | nothing
deriving DecidableEq, Repr

/-- The tokens still to be read, the fault behind them, what is expected next, and what is expected
behind the nodes that are open, innermost first. -/
structure Reader where
  tokens : List Token
  fault : Fault
  expected : Expected
  behind : List Expected
  /-- The handles of tags that the document gives, with the texts that they stand for. -/
  handles : List (String × String)
deriving Repr

namespace Reader

abbrev Read := Event × Reader

def peek (r : Reader) : Except Fault Token :=
  match r.tokens with
  | t :: _ => .ok t
  | [] => .error r.fault

def skip (r : Reader) : Reader := { r with tokens := r.tokens.drop 1 }

/-- The reader that expects what is expected behind the current node. -/
def pop (r : Reader) : Reader :=
  match r.behind with
  | e :: behind => { r with expected := e, behind }
  | [] => { r with expected := .nothing }

def expect (r : Reader) (e : Expected) : Reader := { r with expected := e }

def expectBehind (r : Reader) (e : Expected) : Reader := { r with behind := e :: r.behind }

/-- A scalar that is not written. -/
def emptyScalar (mark : Mark) (r : Reader) : Read := (⟨.scalar "" true {}, mark⟩, r)

/-! ## Nodes -/

/-- The handles of tags that need not be given. -/
def defaultHandles : List (String × String) := [("!", "!"), ("!!", "tag:yaml.org,2002:")]

/-- The tag that a handle and the rest of a tag stand for; none if the handle is unknown. -/
def resolveTag? (r : Reader) (handle rest : String) : Option String :=
  if handle = "" then some rest
  else ((r.handles ++ defaultHandles).lookup handle).map (· ++ rest)

/-- The properties in front of a node: the anchor, and the handle and rest of the tag with its mark. -/
structure Written where
  anchor : Option String := none
  tag : Option (String × String × Mark) := none

/-- The properties at the next token, which may be an anchor and a tag in any order. -/
def written (r : Reader) : Except Fault (Written × Reader) := do
  let t ← r.peek
  match t.kind with
  | .anchor name =>
    let u ← r.skip.peek
    match u.kind with
    | .tag handle rest =>
      let r := r.skip.skip
      let _ ← r.peek
      return (⟨some name, some (handle, rest, u.start)⟩, r)
    | _ => return (⟨some name, none⟩, r.skip)
  | .tag handle rest =>
    let u ← r.skip.peek
    match u.kind with
    | .anchor name =>
      let r := r.skip.skip
      let _ ← r.peek
      return (⟨some name, some (handle, rest, t.start)⟩, r)
    | _ => return (⟨none, some (handle, rest, t.start)⟩, r.skip)
  | _ => return ({}, r)

/-- A node that begins at `start` with the given properties. Within brackets, block collections do not
count; a dash opens a sequence only where `dashes` may. -/
def content (isBlock dashes : Bool) (start : Mark) (p : Properties) (r : Reader) :
    Except Fault Read := do
  let t ← r.peek
  match t.kind with
  | .blockEntry =>
    if dashes then return (⟨.sequence p, start⟩, r.expect .openEntry) else missing t
  | .scalar text plain =>
    let tag := if p.tag = some "!" then none else p.tag
    return (⟨.scalar text plain { p with tag }, start⟩, r.pop.skip)
  | .flowSequence => return (⟨.sequence p, start⟩, (r.skip).expect (.flowItem true t.start))
  | .flowMapping => return (⟨.mapping p, start⟩, (r.skip).expect (.flowKey true t.start))
  | .blockSequence =>
    if isBlock then return (⟨.sequence p, start⟩, (r.skip).expect (.blockEntry t.start))
    else missing t
  | .blockMapping =>
    if isBlock then return (⟨.mapping p, start⟩, (r.skip).expect (.blockKey t.start))
    else missing t
  | _ => missing t
where
  missing (t : Token) : Except Fault Read :=
    if p.anchor.isSome || p.tag.isSome then
      .ok (⟨.scalar "" true p, start⟩, r.pop)
    else
      faultIn "did not find expected node content" t.start
        (if isBlock then "while parsing a block node" else "while parsing a flow node") start

def node (isBlock dashes : Bool) (r : Reader) : Except Fault Read := do
  let t ← r.peek
  match t.kind with
  | .alias name => return (⟨.alias name, t.start⟩, r.pop.skip)
  | _ =>
    let (w, r) ← r.written
    match w.tag with
    | none => content isBlock dashes t.start ⟨w.anchor, none⟩ r
    | some (handle, rest, mark) =>
      match r.resolveTag? handle rest with
      | some tag => content isBlock dashes t.start ⟨w.anchor, some tag⟩ r
      | none => faultIn "found undefined tag handle" mark "while parsing a node" t.start

/-! ## Documents -/

/-- The reader behind the ends of documents. -/
def skipDocumentEnds (r : Reader) : Reader :=
  { r with tokens := r.tokens.dropWhile fun t => t.kind = .documentEnd }

/-- The handles that directives give, behind those in `handles`, and the tokens behind them. The version may
be given once, and so may each handle. -/
def directives (fault : Fault) : List Token → (versioned : Bool) → (handles : List (String × String)) →
    Except Fault (List (String × String) × List Token)
  | [], _, _ => .error fault
  | t :: tokens, versioned, handles =>
    match t.kind with
    | .version major minor =>
      if versioned then .error (.malformed "found duplicate %YAML directive" t.start none)
      else if major = 1 ∧ (minor = 1 ∨ minor = 2) then directives fault tokens true handles
      else .error (.malformed "found incompatible YAML document" t.start none)
    | .handle name text =>
      if (handles.lookup name).isSome then
        .error (.malformed "found duplicate %TAG directive" t.start none)
      else directives fault tokens versioned (handles ++ [(name, text)])
    | _ => .ok (handles, t :: tokens)

def documentStart (r : Reader) : Except Fault Reader := do
  let (handles, tokens) ← directives r.fault r.tokens false []
  let r := { r with tokens, handles }
  let t ← r.peek
  if t.kind = .documentStart then return (r.skip.expectBehind .documentEnd).expect .documentContent
  else .error (.malformed "did not find expected <document start>" t.start none)

/-- A document that begins with such a token is marked. -/
def marksDocument : Token.Kind → Bool
  | .documentStart | .version .. | .handle .. => true
  | _ => false

def document (implicit : Bool) (r : Reader) : Except Fault Read := do
  let r := if implicit then r else r.skipDocumentEnds
  let t ← r.peek
  if t.kind = .streamEnd then return (⟨.streamEnd, t.start⟩, r.skip.expect .nothing)
  else if implicit && !marksDocument t.kind then
    return (⟨.documentStart, t.start⟩, (r.expectBehind .documentEnd).expect .node)
  else return (⟨.documentStart, t.start⟩, ← r.documentStart)

/-- The content of a document that is marked, which may be missing. -/
def documentContent (r : Reader) : Except Fault Read := do
  let t ← r.peek
  match t.kind with
  | .documentStart | .documentEnd | .streamEnd => return emptyScalar t.start r.pop
  | _ => r.node true false

def documentEnd (r : Reader) : Except Fault Read := do
  let t ← r.peek
  let r := if t.kind = .documentEnd then r.skip else r
  return (⟨.documentEnd, t.start⟩, r.expect (.document false))

/-! ## Block collections -/

/-- The next entry of a block sequence, or its end. -/
def blockEntry (opened : Mark) (r : Reader) : Except Fault Read := do
  let t ← r.peek
  match t.kind with
  | .blockEntry =>
    let r := r.skip
    match (← r.peek).kind with
    | .blockEntry | .blockEnd => return emptyScalar t.stop (r.expect (.blockEntry opened))
    | _ => (r.expectBehind (.blockEntry opened)).node true false
  | .blockEnd => return (⟨.sequenceEnd, t.start⟩, r.pop.skip)
  | _ => faultIn "did not find expected '-' indicator" t.start "while parsing a block collection" opened

/-- The next entry of a sequence that is not indented, or its end. -/
def openEntry (r : Reader) : Except Fault Read := do
  let t ← r.peek
  match t.kind with
  | .blockEntry =>
    let r := r.skip
    match (← r.peek).kind with
    | .blockEntry | .key | .value | .blockEnd => return emptyScalar t.stop (r.expect .openEntry)
    | _ => (r.expectBehind .openEntry).node true false
  | _ => return (⟨.sequenceEnd, t.start⟩, r.pop)

def blockKey (opened : Mark) (r : Reader) : Except Fault Read := do
  let t ← r.peek
  match t.kind with
  | .key =>
    let r := r.skip
    match (← r.peek).kind with
    | .key | .value | .blockEnd => return emptyScalar t.stop (r.expect (.blockValue opened))
    | _ => (r.expectBehind (.blockValue opened)).node true true
  | .blockEnd => return (⟨.mappingEnd, t.start⟩, r.pop.skip)
  | _ => faultIn "did not find expected key" t.start "while parsing a block mapping" opened

/-- The next value of a block mapping, which may be missing. -/
def blockValue (opened : Mark) (r : Reader) : Except Fault Read := do
  let t ← r.peek
  match t.kind with
  | .value =>
    let r := r.skip
    match (← r.peek).kind with
    | .key | .value | .blockEnd => return emptyScalar t.stop (r.expect (.blockKey opened))
    | _ => (r.expectBehind (.blockKey opened)).node true true
  | _ => return emptyScalar t.start (r.expect (.blockKey opened))

/-! ## Collections within brackets -/

/-- The reader behind the comma in front of an item, of which the first has none. -/
def flowComma (first : Bool) (opened : Mark) (problem context : String) (r : Reader) :
    Except Fault Reader := do
  if first then return r
  else
    let t ← r.peek
    if t.kind = .flowEntry then
      let _ ← r.skip.peek
      return r.skip
    else faultIn problem t.start context opened

/-- The next item of a sequence within brackets, or its end. An item may be a single pair. -/
def flowItem (first : Bool) (opened : Mark) (r : Reader) : Except Fault Read := do
  let t ← r.peek
  if t.kind = .flowSequenceEnd then return (⟨.sequenceEnd, t.start⟩, r.pop.skip)
  else
    let r ← flowComma first opened "did not find expected ',' or ']'"
      "while parsing a flow sequence" r
    let t ← r.peek
    match t.kind with
    | .key => return (⟨.mapping {}, t.start⟩, r.skip.expect (.pairKey opened))
    | .flowSequenceEnd => return (⟨.sequenceEnd, t.start⟩, r.pop.skip)
    | _ => (r.expectBehind (.flowItem false opened)).node false false

def pairKey (opened : Mark) (r : Reader) : Except Fault Read := do
  let t ← r.peek
  match t.kind with
  | .value | .flowEntry | .flowSequenceEnd =>
    return emptyScalar t.stop (r.skip.expect (.pairValue opened))
  | _ => (r.expectBehind (.pairValue opened)).node false false

def pairValue (opened : Mark) (r : Reader) : Except Fault Read := do
  let t ← r.peek
  if t.kind = .value then
    let r := r.skip
    let t ← r.peek
    match t.kind with
    | .flowEntry | .flowSequenceEnd => return emptyScalar t.start (r.expect (.pairEnd opened))
    | _ => (r.expectBehind (.pairEnd opened)).node false false
  else return emptyScalar t.start (r.expect (.pairEnd opened))

def pairEnd (opened : Mark) (r : Reader) : Except Fault Read := do
  return (⟨.mappingEnd, (← r.peek).start⟩, r.expect (.flowItem false opened))

def flowKey (first : Bool) (opened : Mark) (r : Reader) : Except Fault Read := do
  let t ← r.peek
  if t.kind = .flowMappingEnd then return (⟨.mappingEnd, t.start⟩, r.pop.skip)
  else
    let r ← flowComma first opened "did not find expected ',' or '\x7d'"
      "while parsing a flow mapping" r
    let t ← r.peek
    match t.kind with
    | .key =>
      let r := r.skip
      let t ← r.peek
      match t.kind with
      | .value | .flowEntry | .flowMappingEnd => return emptyScalar t.start (r.expect (.flowValue opened))
      | _ => (r.expectBehind (.flowValue opened)).node false false
    | .flowMappingEnd => return (⟨.mappingEnd, t.start⟩, r.pop.skip)
    | _ => (r.expectBehind (.noFlowValue opened)).node false false

def flowValue (opened : Mark) (r : Reader) : Except Fault Read := do
  let t ← r.peek
  if t.kind = .value then
    let r := r.skip
    let t ← r.peek
    match t.kind with
    | .flowEntry | .flowMappingEnd => return emptyScalar t.start (r.expect (.flowKey false opened))
    | _ => (r.expectBehind (.flowKey false opened)).node false false
  else return emptyScalar t.start (r.expect (.flowKey false opened))

/-! ## All events -/

def next (r : Reader) : Except Fault Read :=
  match r.expected with
  | .streamStart => do
    return (⟨.streamStart, (← r.peek).start⟩, r.skip.expect (.document true))
  | .document implicit => r.document implicit
  | .documentContent => r.documentContent
  | .documentEnd => r.documentEnd
  | .node => r.node true false
  | .blockEntry opened => r.blockEntry opened
  | .openEntry => r.openEntry
  | .blockKey opened => r.blockKey opened
  | .blockValue opened => r.blockValue opened
  | .flowItem first opened => r.flowItem first opened
  | .pairKey opened => r.pairKey opened
  | .pairValue opened => r.pairValue opened
  | .pairEnd opened => r.pairEnd opened
  | .flowKey first opened => r.flowKey first opened
  | .flowValue opened => r.flowValue opened
  | .noFlowValue opened => do
    return emptyScalar (← r.peek).start (r.expect (.flowKey false opened))
  | .nothing => .error r.fault

/-- The rest of the events up to the end of the stream, with the fault that ends them, if any. -/
def events : (rounds : Nat) → Reader → List Event × Option Fault
  | 0, _ => ([], none)
  | rounds + 1, r =>
    match r.next with
    | .error f => ([], some f)
    | .ok (e, r) =>
      if e.kind = .streamEnd then ([e], none)
      else
        let (rest, fault) := events rounds r
        (e :: rest, fault)

end Reader

/-- The events of a text up to its first fault. No more than a few events belong to a token. -/
def eventsOf (text : List Char) : List Event × Option Fault :=
  let (tokens, fault) := tokensOf text
  Reader.events (6 * tokens.length + 6) ⟨tokens, fault.getD .endOfText, .streamStart, [], []⟩

end TextPattern.Yaml
