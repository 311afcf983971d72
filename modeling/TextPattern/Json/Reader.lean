import TextPattern.Json.Basic
import TextPattern.Text.Hex

/-!
# Reading JSON

* `Token.ofText?` : the tokens of a text;
* `ofTokens?` : the value that tokens denote;
* `read?` : the value that a text denotes.

Both passes are machines that take one character or one token at a time.
-/

namespace TextPattern.Json

/-! ## Tokens of a text -/

/-- What the text read so far is in the middle of. -/
inductive LexState where
  /-- Between tokens. -/
  | between
  /-- In a number, its value so far. -/
  | number (value : Nat)
  /-- In a word, its letters last first. -/
  | word (letters : List Char)
  /-- In a text, its codes last first. -/
  | text (codes : List Nat)
  /-- In a text, behind a backslash. -/
  | escaped (codes : List Nat)
  /-- In a text, in a numeric escape sequence with `missing` digits to come. -/
  | code (codes : List Nat) (missing value : Nat)

def charOf? (code : Nat) : Option Char := if code.isValidChar then some (Char.ofNat code) else none

/-- The code begins a pair of surrogates. -/
def isHighSurrogate (code : Nat) : Bool := 0xD800 ≤ code && code < 0xDC00

/-- The code ends a pair of surrogates. -/
def isLowSurrogate (code : Nat) : Bool := 0xDC00 ≤ code && code < 0xE000

/-- The characters of codes behind `done`, which is last first, `high` being a surrogate in front of
them. Two surrogates are one character; a surrogate alone is none. -/
def decodeFrom : (high : Option Nat) → (codes : List Nat) → (done : List Char) → Option (List Char)
  | none, [], done => some done.reverse
  | some _, [], _ => none
  | none, code :: codes, done =>
    if isHighSurrogate code then decodeFrom (some code) codes done
    else
      match charOf? code with
      | some c => decodeFrom none codes (c :: done)
      | none => none
  | some high, code :: codes, done =>
    if isLowSurrogate code then
      match charOf? (0x10000 + (high - 0xD800) * 0x400 + (code - 0xDC00)) with
      | some c => decodeFrom none codes (c :: done)
      | none => none
    else none

/-- The character that a letter stands for behind a backslash. -/
def unescape? (c : Char) : Option Char :=
  match c with
  | '"' | '\\' | '/' => some c
  | 'n' => some '\n'
  | 'r' => some '\r'
  | 't' => some '\t'
  | 'b' => some '\x08'
  | 'f' => some '\x0c'
  | _ => none

def wordToken? (word : List Char) : Option Token :=
  if word = ['n', 'u', 'l', 'l'] then some .null
  else if word = ['t', 'r', 'u', 'e'] then some (.bool true)
  else if word = ['f', 'a', 'l', 's', 'e'] then some (.bool false)
  else none

/-- The character may stand between tokens. -/
def isGap (c : Char) : Bool := c = ' ' || c = '\n' || c = '\r' || c = '\t'

/-- What a character between tokens leads to, and the token that it is if it is one by itself. -/
def LexState.start? (c : Char) : Option (LexState × List Token) :=
  match c with
  | '[' => some (.between, [.openList])
  | ']' => some (.between, [.closeList])
  | '\x7b' => some (.between, [.openObject])
  | '\x7d' => some (.between, [.closeObject])
  | ',' => some (.between, [.comma])
  | ':' => some (.between, [.colon])
  | '"' => some (.text [], [])
  | c =>
    if isGap c then some (.between, [])
    else if c.isDigit then some (.number (c.toNat - '0'.toNat), [])
    else if c.isLower then some (.word [c], [])
    else none

/-- What a character leads to, and the tokens that it completes. -/
def LexState.step? (s : LexState) (c : Char) : Option (LexState × List Token) :=
  match s with
  | .between => start? c
  | .number n =>
    if c.isDigit then
      if n = 0 then none else some (.number (10 * n + (c.toNat - '0'.toNat)), [])
    else (start? c).map fun (s, tokens) => (s, .number n :: tokens)
  | .word letters =>
    if c.isLower then some (.word (c :: letters), [])
    else do
      let token ← wordToken? letters.reverse
      let (s, tokens) ← start? c
      return (s, token :: tokens)
  | .text codes =>
    if c = '"' then (decodeFrom none codes.reverse []).map fun t => (.between, [.text t])
    else if c = '\\' then some (.escaped codes, [])
    else if c.toNat < 0x20 then none
    else some (.text (c.toNat :: codes), [])
  | .escaped codes =>
    if c = 'u' then some (.code codes 4 0, [])
    else (unescape? c).map fun d => (.text (d.toNat :: codes), [])
  | .code codes missing value => do
    let digit ← hexDigit? c
    let value := 16 * value + digit
    return (if missing ≤ 1 then .text (value :: codes) else .code codes (missing - 1) value, [])

def LexState.finish? : LexState → Option (List Token)
  | .between => some []
  | .number n => some [.number n]
  | .word letters => (wordToken? letters.reverse).map ([·])
  | _ => none

/-- The tokens of a text behind `done`, which are last first. -/
def Token.ofTextFrom? : LexState → List Char → (done : List Token) → Option (List Token)
  | s, [], done => s.finish?.map fun tokens => (tokens.reverse ++ done).reverse
  | s, c :: rest, done =>
    match s.step? c with
    | some (s, tokens) => ofTextFrom? s rest (tokens.reverse ++ done)
    | none => none

def Token.ofText? (text : List Char) : Option (List Token) := ofTextFrom? .between text []

/-! ## The value of tokens -/

/-- A value that is being read: a list with its items or an object with its fields and the name of the
next one; items and fields are last first. -/
inductive Frame where
  | list (items : List Json)
  | object (fields : List (List Char × Json)) (name : List Char)

inductive ReadState where
  /-- A value. -/
  | value (around : List Frame)
  /-- The first item of a list, or its end. -/
  | firstItem (around : List Frame)
  /-- Another item of a list, or its end. -/
  | moreItems (items : List Json) (around : List Frame)
  /-- The first field of an object, or its end. -/
  | firstField (around : List Frame)
  /-- The name of a field. -/
  | fieldName (fields : List (List Char × Json)) (around : List Frame)
  /-- The colon behind a name. -/
  | fieldColon (fields : List (List Char × Json)) (name : List Char) (around : List Frame)
  /-- Another field of an object, or its end. -/
  | moreFields (fields : List (List Char × Json)) (around : List Frame)
  /-- Nothing. -/
  | done (value : Json)

/-- What comes next behind a value. -/
def ReadState.behind (value : Json) : List Frame → ReadState
  | [] => .done value
  | .list items :: around => .moreItems (value :: items) around
  | .object fields name :: around => .moreFields ((name, value) :: fields) around

/-- What comes next behind a token where a value is expected. -/
def ReadState.valueStep? (around : List Frame) : Token → Option ReadState
  | .null => some (behind .null around)
  | .bool b => some (behind (.bool b) around)
  | .number n => some (behind (.number n) around)
  | .text t => some (behind (.text t) around)
  | .openList => some (.firstItem around)
  | .openObject => some (.firstField around)
  | _ => none

/-- What comes next behind a token. -/
def ReadState.step? : ReadState → Token → Option ReadState
  | .value around, t => valueStep? around t
  | .firstItem around, .closeList => some (behind (.list []) around)
  | .firstItem around, t => valueStep? (.list [] :: around) t
  | .moreItems items around, .comma => some (.value (.list items :: around))
  | .moreItems items around, .closeList => some (behind (.list items.reverse) around)
  | .firstField around, .closeObject => some (behind (.object []) around)
  | .firstField around, .text name => some (.fieldColon [] name around)
  | .fieldName fields around, .text name => some (.fieldColon fields name around)
  | .fieldColon fields name around, .colon => some (.value (.object fields name :: around))
  | .moreFields fields around, .comma => some (.fieldName fields around)
  | .moreFields fields around, .closeObject => some (behind (.object fields.reverse) around)
  | _, _ => none

def ofTokens? (tokens : List Token) : Option Json := do
  match ← tokens.foldlM ReadState.step? (.value []) with
  | .done v => some v
  | _ => none

def read? (text : List Char) : Option Json := Token.ofText? text >>= ofTokens?

/-- The value of the only field with a name; none if there is no such field or more than one. -/
def field? (name : List Char) : Json → Option Json
  | object fields =>
    match fields.filter fun f => f.1 = name with
    | [f] => some f.2
    | _ => none
  | _ => none

example : (read? "[1, \x7b\"a\":\"\\u00e9\\ud83d\\ude00\"\x7d , null ]".toList).isSome = true := by
  decide

end TextPattern.Json
