import TextPattern.Yaml.Block
import TextPattern.Yaml.Directive
import TextPattern.Yaml.Plain

/-!
# The tokens of a YAML text

* `Scanner` : the tokens so far, the place, the open collections and the possible keys;
* `Scanner.step` : one more token;
* `tokensOf` : the tokens of a text up to its first fault.

A scalar is a key if a colon follows it on its line. So the place of a scalar is remembered as a possible
key, and the token of a key is put in front of it once the colon is found. A token in whose place a key
may still come is not settled, and a fault leaves no such token behind.
-/

namespace TextPattern.Yaml

/-- A place where a key may have begun. -/
structure PossibleKey where
  /-- Nothing but a key may stand there. -/
  required : Bool
  /-- The number of the token there. -/
  number : Nat
  mark : Mark
  index : Nat
deriving Repr

structure Scanner where
  place : Cursor
  /-- The tokens so far, last first. -/
  tokens : List Token
  count : Nat
  /-- A key may begin at the place. -/
  keyAllowed : Bool
  /-- The possible keys, that of the innermost brackets first and that outside of brackets last. -/
  keys : List (Option PossibleKey)
  /-- The columns of the open block collections, innermost first. -/
  indents : List Nat
  finished : Bool

namespace Scanner

def ofText (text : List Char) : Scanner where
  place := .ofText text
  tokens := [⟨.streamStart, .first, .first⟩]
  count := 1
  keyAllowed := true
  keys := [none]
  indents := []
  finished := false

def inFlow (s : Scanner) : Bool := s.keys.length ≠ 1

def emit (s : Scanner) (kind : Token.Kind) (start stop : Mark) : Scanner :=
  { s with tokens := ⟨kind, start, stop⟩ :: s.tokens, count := s.count + 1 }

/-- The scanner with a token put in front of the one with a number. -/
def insertAt (s : Scanner) (number : Nat) (kind : Token.Kind) (mark : Mark) : Scanner :=
  { s with
    tokens := s.tokens.insertIdx (s.count - number) ⟨kind, mark, mark⟩
    count := s.count + 1 }

def emitSigns (s : Scanner) (kind : Token.Kind) (n : Nat) : Scanner :=
  let stop := s.place.skipMany n
  { s.emit kind s.place.mark stop.mark with place := stop }

/-! ## Keys -/

def scanningKey : String := "while scanning a simple key"

def missingColon {α : Type} (place start : Mark) : Except Fault α :=
  faultIn "could not find expected ':'" place scanningKey start

def keyLimit : Nat := 1024

/-- A key that began there would be on an earlier line or too long. -/
def tooFar (k : PossibleKey) (c : Cursor) : Bool :=
  k.mark.line < c.mark.line || k.index + keyLimit < c.index

def dropFar (c : Cursor) : List (Option PossibleKey) → Except Fault (List (Option PossibleKey))
  | [] => .ok []
  | none :: keys => do return none :: (← dropFar c keys)
  | some k :: keys => do
    let rest ← dropFar c keys
    if tooFar k c then
      if k.required then missingColon c.mark k.mark else return none :: rest
    else return some k :: rest

def withoutFarKeys (s : Scanner) : Except Fault Scanner := do
  return { s with keys := ← dropFar s.place s.keys }

/-- The scanner without the possible key of the innermost brackets. -/
def withoutKey (s : Scanner) : Except Fault Scanner :=
  match s.keys with
  | some k :: keys =>
    if k.required then missingColon s.place.mark k.mark
    else .ok { s with keys := none :: keys }
  | _ => .ok s

/-- The scanner with the place as a possible key, if a key is allowed there. -/
def withKey (s : Scanner) : Except Fault Scanner :=
  if s.keyAllowed then do
    let key : PossibleKey := {
      required := !s.inFlow && s.indents.head? = some s.place.mark.column
      number := s.count
      mark := s.place.mark
      index := s.place.index }
    let s ← s.withoutKey
    return { s with keys := some key :: s.keys.drop 1 }
  else .ok s

/-! ## Indentation -/

def deeper (s : Scanner) (column : Nat) : Bool := s.indents.head?.all (· < column)

/-- Opens a block collection at the place, if the place is deeper than the innermost one. -/
def indent (s : Scanner) (kind : Token.Kind) : Scanner :=
  let column := s.place.mark.column
  if !s.inFlow && s.deeper column then
    { s.emit kind s.place.mark s.place.mark with indents := column :: s.indents }
  else s

/-- Opens a block mapping in front of the token of a key, if the key is deeper than the innermost block
collection. -/
def indentKey (s : Scanner) (k : PossibleKey) : Scanner :=
  if !s.inFlow && s.deeper k.mark.column then
    { s.insertAt k.number .blockMapping k.mark with indents := k.mark.column :: s.indents }
  else s

/-- Closes the given block collections as long as they are right of a column; none is a column left of
all. -/
def closeFrom (s : Scanner) (column : Option Nat) : List Nat → Scanner
  | [] => { s with indents := [] }
  | i :: indents =>
    if column.all (· < i) then (s.emit .blockEnd s.place.mark s.place.mark).closeFrom column indents
    else { s with indents := i :: indents }

/-- Closes the block collections right of a column, outside of brackets. -/
def dedent (s : Scanner) (column : Option Nat) : Scanner :=
  if s.inFlow then s else s.closeFrom column s.indents

/-! ## Between tokens -/

/-- Passes over blanks, comments and line breaks. A new line allows a key outside of brackets; a tab is
a blank only where no key is allowed. -/
def skipGapFor (flow : Bool) : (rounds : Nat) → (keyAllowed : Bool) → Cursor → Bool × Cursor
  | 0, keyAllowed, c => (keyAllowed, c)
  | rounds + 1, keyAllowed, c =>
    let c := if c.index = 0 && c.look? 0 = some '\ufeff' then c.skip else c
    let c := (c.span fun d => d = ' ' || ((flow || !keyAllowed) && d = '\t')).2
    let c := if c.look? 0 = some '#' then (c.span fun d => !isBreak d).2 else c
    if (c.look? 0).any isBreak then skipGapFor flow rounds (keyAllowed || !flow) c.takeBreak.2
    else (keyAllowed, c)

def skipGap (s : Scanner) : Scanner :=
  let (keyAllowed, place) := skipGapFor s.inFlow (s.place.rest.length + 1) s.keyAllowed s.place
  { s with keyAllowed, place }

/-! ## Tokens -/

def finish (s : Scanner) : Except Fault Scanner := do
  let mark := s.place.mark
  let mark := if mark.column = 0 then mark else mark.nextLine
  let s := { s with place := { s.place with mark } }
  let s ← (s.dedent none).withoutKey
  return { s.emit .streamEnd mark mark with keyAllowed := false, finished := true }

def documentMark (s : Scanner) (kind : Token.Kind) : Except Fault Scanner := do
  let s ← (s.dedent none).withoutKey
  return { s.emitSigns kind 3 with keyAllowed := false }

def directive (s : Scanner) : Except Fault Scanner := do
  let s ← (s.dedent none).withoutKey
  let (kind, stop, c) ← directiveToken s.place
  return { s.emit kind s.place.mark stop.mark with place := c, keyAllowed := false }

def openFlow (s : Scanner) (kind : Token.Kind) : Except Fault Scanner := do
  let s ← s.withKey
  return { s.emitSigns kind 1 with keyAllowed := true, keys := none :: s.keys }

def closeFlow (s : Scanner) (kind : Token.Kind) : Except Fault Scanner := do
  let s ← s.withoutKey
  let keys := if s.inFlow then s.keys.drop 1 else s.keys
  return { s.emitSigns kind 1 with keyAllowed := false, keys }

def flowEntry (s : Scanner) : Except Fault Scanner := do
  let s ← s.withoutKey
  return { s.emitSigns .flowEntry 1 with keyAllowed := true }

def misplaced {α : Type} (s : Scanner) (problem : String) : Except Fault α :=
  .error (.malformed problem s.place.mark none)

def blockEntry (s : Scanner) : Except Fault Scanner :=
  if !s.inFlow && !s.keyAllowed then
    s.misplaced "block sequence entries are not allowed in this context"
  else do
    let s ← (s.indent .blockSequence).withoutKey
    return { s.emitSigns .blockEntry 1 with keyAllowed := true }

def explicitKey (s : Scanner) : Except Fault Scanner :=
  if !s.inFlow && !s.keyAllowed then
    s.misplaced "mapping keys are not allowed in this context"
  else do
    let s ← (s.indent .blockMapping).withoutKey
    return { s.emitSigns .key 1 with keyAllowed := !s.inFlow }

/-- The colon of a value. It makes the possible key in front of it a key. -/
def valueColon (s : Scanner) : Except Fault Scanner :=
  match s.keys with
  | some k :: keys =>
    let s := (s.insertAt k.number .key k.mark).indentKey k
    .ok { s.emitSigns .value 1 with keyAllowed := false, keys := none :: keys }
  | _ =>
    if !s.inFlow && !s.keyAllowed then
      s.misplaced "mapping values are not allowed in this context"
    else
      .ok { (s.indent .blockMapping).emitSigns .value 1 with keyAllowed := !s.inFlow }

/-- The scanner with a token from its place to another, behind which no key is allowed. -/
def emitTo (s : Scanner) (kind : Token.Kind) (c : Cursor) : Scanner :=
  { s.emit kind s.place.mark c.mark with place := c, keyAllowed := false }

def anchor (s : Scanner) (isAlias : Bool) : Except Fault Scanner := do
  let s ← s.withKey
  let (name, c) ← anchorName isAlias s.place
  return s.emitTo (if isAlias then .alias name else .anchor name) c

def tag (s : Scanner) : Except Fault Scanner := do
  let s ← s.withKey
  let (handle, rest, c) ← tagParts s.inFlow s.place
  return s.emitTo (.tag handle rest) c

def block (s : Scanner) (literal : Bool) : Except Fault Scanner := do
  let s ← s.withoutKey
  let b ← blockScalar literal s.indents.head? s.place
  return { s.emit (.scalar (String.ofList b.text) false) s.place.mark b.stop with
    place := b.behind, keyAllowed := true }

def quoted (s : Scanner) (single : Bool) : Except Fault Scanner := do
  let s ← s.withKey
  let (text, c) ← quotedScalar single s.place
  return s.emitTo (.scalar (String.ofList text) false) c

def plain (s : Scanner) : Except Fault Scanner := do
  let s ← s.withKey
  let p ← plainScalar s.inFlow (s.indents.head?.elim 0 (· + 1)) s.place
  return { s.emit (.scalar (String.ofList p.text) true) s.place.mark p.stop with
    place := p.behind, keyAllowed := p.lineEnds }

def indicators : List Char := "-?:,[]\x7b\x7d#&*!|>'\"%@\x60".toList

def startsPlain (flow : Bool) (c : Char) (next : Option Char) : Bool :=
  if c = '-' then !next.any isBlank
  else if c = '?' || c = ':' then !flow && !endsWord next
  else !indicators.contains c && !isBlank c && !isBreak c

/-- The token that begins with the character `c`, which `next` follows. -/
def token (s : Scanner) (c : Char) (next : Option Char) : Except Fault Scanner :=
  let flow := s.inFlow
  if c = '%' && s.place.mark.column = 0 then s.directive
  else if s.place.atTriple '-' then s.documentMark .documentStart
  else if s.place.atTriple '.' then s.documentMark .documentEnd
  else if c = '[' then s.openFlow .flowSequence
  else if c = '\x7b' then s.openFlow .flowMapping
  else if c = ']' then s.closeFlow .flowSequenceEnd
  else if c = '\x7d' then s.closeFlow .flowMappingEnd
  else if c = ',' then s.flowEntry
  else if c = '-' && endsWord next then s.blockEntry
  else if c = '?' && (flow || endsWord next) then s.explicitKey
  else if c = ':' && (flow || endsWord next) then s.valueColon
  else if c = '*' then s.anchor true
  else if c = '&' then s.anchor false
  else if c = '!' then s.tag
  else if c = '|' && !flow then s.block true
  else if c = '>' && !flow then s.block false
  else if c = '\'' then s.quoted true
  else if c = '"' then s.quoted false
  else if startsPlain flow c next then s.plain
  else
    faultIn "found character that cannot start any token" s.place.mark
      "while scanning for the next token" s.place.mark

def step (s : Scanner) : Except Fault Scanner := do
  let s ← s.withoutFarKeys
  let s ← s.skipGap.withoutFarKeys
  let s := s.dedent (some s.place.mark.column)
  match s.place.rest with
  | [] => s.finish
  | c :: rest => s.token c rest.head?

/-- The number of tokens that no key can come in front of any more. -/
def settled (s : Scanner) : Nat :=
  s.keys.foldl (fun n key => key.elim n fun k => min n k.number) s.count

/-- The tokens of the rest of the text, with the fault that ends them, if any. -/
def run : (rounds : Nat) → Scanner → List Token × Option Fault
  | 0, s => (s.tokens.reverse, none)
  | rounds + 1, s =>
    if s.finished then (s.tokens.reverse, none)
    else
      match s.step with
      | .ok s => run rounds s
      | .error f => (s.tokens.reverse.take s.settled, some f)

end Scanner

/-! ## The tokens of a text -/

def isAllowed (c : Char) : Bool :=
  let n := c.toNat
  c = '\t' || c = '\n' || c = '\r' || (0x20 ≤ n && n ≤ 0x7E) || n = 0x85 ||
    (0xA0 ≤ n && n ≤ 0xFFFD) || 0x10000 ≤ n

/-- The byte offset of the first character that may not occur, the text starting at `offset`. -/
def forbiddenAt? : List Char → (offset : Nat) → Option Nat
  | [], _ => none
  | c :: rest, offset => if isAllowed c then forbiddenAt? rest (offset + c.utf8Size) else some offset

/-- The tokens of a text up to its first fault. -/
def tokensOf (text : List Char) : List Token × Option Fault :=
  match forbiddenAt? text 0 with
  | some offset => ([], some (.controlCharacter offset))
  | none => Scanner.run (2 * text.length + 4) (.ofText text)

end TextPattern.Yaml
