import TextPattern.Syntax.Reader

/-!
# Escape sequences

* `readEscape` : the item that a backslash and what follows it denote;
* `escapeLetter?` : the letters that stand for something on their own;
* `readHex`, `readProperty`, `readSpecialBoundary` : the sequences with an argument.
-/

namespace TextPattern.Syntax

/-- The characters with a meaning of their own, which a backslash takes away. -/
def isMeta (c : Char) : Bool := "\\.+*?()|[]\x7b\x7d^$#&-~".toList.contains c

/-- The ASCII characters without a meaning that may still be written with a backslash: neither letters
nor digits nor angle brackets. -/
def isEscapable (c : Char) : Bool :=
  c.toNat < 128 && !c.isAlphanum && c != '<' && c != '>'

def isHex (c : Char) : Bool := (hexDigit? c).isSome

/-- The number that hexadecimal digits denote. -/
def hexValue (digits : List Char) : Nat :=
  digits.foldl (fun n c => n * 16 + (hexDigit? c).getD 0) 0

def charOfCode? (n : Nat) : Option Char := if n.isValidChar then some (Char.ofNat n) else none

/-- The remaining digits of a hexadecimal sequence of fixed length, the next of which is at the
reader. -/
def readHexDigits : Nat → Reader → List Char → Except Fault (List Char × Reader)
  | 0, r, digits => .ok (digits.reverse, r)
  | n + 1, r, digits =>
    match r.rest with
    | [] => fail .escapeUnexpectedEnd (.at r.pos)
    | c :: _ =>
      if isHex c then
        if n = 0 then .ok ((c :: digits).reverse, r.bump)
        else readHexDigits n r.advance (c :: digits)
      else fail .escapeHexInvalidDigit r.charSpan

def readHexBraced (start : Position) (r : Reader) : Except Fault (Tree × Reader) :=
  let brace := r.pos
  let inner := (Span.ofChar r.pos '\x7b').stop
  let (digits, r) := r.advance.takeWhile isHex
  match r.rest with
  | [] => fail .escapeUnexpectedEnd ⟨brace, r.pos⟩
  | c :: _ =>
    if c != '\x7d' then fail .escapeHexInvalidDigit r.charSpan
    else if digits.isEmpty then fail .escapeHexEmpty ⟨brace, r.advance.pos⟩
    else match charOfCode? (hexValue digits) with
      | none => fail .escapeHexInvalid ⟨inner, r.pos⟩
      | some c => .ok (.literal ⟨⟨start, r.advance.pos⟩, c, false⟩, r.bump)

/-- A hexadecimal sequence of the length that its letter tells, the first digit of which is at the
reader. -/
def readHexFixed (start : Position) (letter : Option Char) (r : Reader) :
    Except Fault (Tree × Reader) := do
  let count := if letter = some 'x' then 2 else if letter = some 'u' then 4 else 8
  let inner := r.pos
  let (digits, r) ← readHexDigits count r []
  let stop := r.skipBlanks.pos
  match charOfCode? (hexValue digits) with
  | none => fail .escapeHexInvalid ⟨inner, stop⟩
  | some c => .ok (.literal ⟨⟨start, stop⟩, c, letter = some 'x'⟩, r)

/-- A hexadecimal sequence whose letter is at the reader and whose backslash is at `start`. Its span
takes in the blanks behind it, which are left to be read. -/
def readHex (start : Position) (r : Reader) : Except Fault (Tree × Reader) :=
  let next := r.advance
  match next.rest with
  | [] => fail .escapeUnexpectedEnd (.at next.pos)
  | c :: _ =>
    if c = '\x7b' then readHexBraced start next else readHexFixed start r.rest.head? next

/-- The text before the first occurrence of `sep` and the text behind it. -/
def splitAt? (sep : List Char) : List Char → List Char → Option (List Char × List Char)
  | before, c :: cs =>
    if sep.isPrefixOf (c :: cs) then some (before.reverse, (c :: cs).drop sep.length)
    else splitAt? sep (c :: before) cs
  | before, [] => if sep.isEmpty then some (before.reverse, []) else none

def propertyQuery (name : List Char) : Unicode.PropertyQuery :=
  match splitAt? ['!', '='] [] name with
  | some (p, v) => .valued p v
  | none => match splitAt? [':'] [] name with
    | some (p, v) => .valued p v
    | none => match splitAt? ['='] [] name with
      | some (p, v) => .valued p v
      | none => .named name

/-- A property class whose letter is at the reader and whose backslash is at `start`. The span of a
class without braces takes in the blanks behind it, which are left to be read. -/
def readProperty (start : Position) (r : Reader) : Except Fault (Tree × Reader) :=
  let negated := r.rest.head? = some 'P'
  let r := r.advance
  match r.rest with
  | [] => fail .escapeUnexpectedEnd (.at r.pos)
  | c :: _ =>
    if c = '\x7b' then
      let (name, r) := r.advance.takeWhile (· != '\x7d')
      if r.rest.isEmpty then fail .escapeUnexpectedEnd (.at r.pos)
      else .ok (.property ⟨⟨start, r.bump.pos⟩, propertyQuery name, negated⟩, r.bump)
    else if c = '\\' then fail .propertyClassInvalid r.charSpan
    else .ok (.property ⟨⟨start, r.advance.pos⟩, .named [c], negated⟩, r.bump)

/-- The word boundary that the name between braces denotes. -/
def specialBoundary? (name : List Char) : Option Assertion :=
  if name = "start".toList then some .wordStart
  else if name = "end".toList then some .wordEnd
  else if name = "start-half".toList then some .wordStartHalf
  else if name = "end-half".toList then some .wordEndHalf
  else none

/-- The word boundary whose backslash is at `start` and whose opening brace is at the reader; none if
the brace opens a counted repetition instead. -/
def readSpecialBoundary (start : Position) (r : Reader) : Except Fault (Option (Assertion × Reader)) :=
  let isLetter := fun c : Char => c.isAlpha || c = '-'
  let inner := r.advance
  match inner.rest with
  | [] => fail .wordBoundaryUnexpectedEnd ⟨start, inner.pos⟩
  | c :: _ =>
    if !isLetter c then .ok none
    else
      let (name, next) := inner.takeWhile isLetter
      if next.rest.head? != some '\x7d' then fail .wordBoundaryUnclosed ⟨r.pos, next.pos⟩
      else match specialBoundary? name with
        | none => fail .wordBoundaryUnrecognized ⟨inner.pos, next.pos⟩
        | some kind => .ok (some (kind, next.bump))

/-- What a letter behind a backslash stands for on its own. -/
inductive EscapeLetter where
  | literal (c : Char)
  | assertion (kind : Assertion)
  | perl (kind : PerlKind) (negated : Bool)

def EscapeLetter.toTree (span : Span) : EscapeLetter → Tree
  | literal c => .literal ⟨span, c, false⟩
  | assertion kind => .assertion span kind
  | perl kind negated => .perl ⟨span, kind, negated⟩

/-- The letters that stand for something on their own. -/
def escapeLetter? : Char → Option EscapeLetter
  | 'd' => some (.perl .digit false)
  | 'D' => some (.perl .digit true)
  | 's' => some (.perl .space false)
  | 'S' => some (.perl .space true)
  | 'w' => some (.perl .word false)
  | 'W' => some (.perl .word true)
  | 'a' => some (.literal '\x07')
  | 'f' => some (.literal '\x0c')
  | 't' => some (.literal '\t')
  | 'n' => some (.literal '\n')
  | 'r' => some (.literal '\r')
  | 'v' => some (.literal '\x0b')
  | 'A' => some (.assertion .textStart)
  | 'z' => some (.assertion .textEnd)
  | 'B' => some (.assertion .notWordBoundary)
  | '<' => some (.assertion .wordStart)
  | '>' => some (.assertion .wordEnd)
  | 'b' => some (.assertion .wordBoundary)
  | _ => none

def readEscape (r : Reader) : Except Fault (Tree × Reader) :=
  let start := r.pos
  let r := r.bump
  match r.rest with
  | [] => fail .escapeUnexpectedEnd ⟨start, r.pos⟩
  | c :: _ =>
    let next := r.bump
    let span : Span := ⟨start, next.pos⟩
    if c.isDigit then fail .backreference span
    else if c = 'x' ∨ c = 'u' ∨ c = 'U' then readHex start r
    else if c = 'p' ∨ c = 'P' then readProperty start r
    else if isMeta c || isEscapable c then .ok (.literal ⟨span, c, false⟩, next)
    else match escapeLetter? c with
      | none => fail .escapeUnrecognized span
      | some letter =>
        if c = 'b' ∧ next.rest.head? = some '\x7b' then do
          match ← readSpecialBoundary start next with
          | none => .ok (letter.toTree span, next)
          | some (kind, r) => .ok (.assertion ⟨start, r.pos⟩ kind, r)
        else .ok (letter.toTree span, next)

end TextPattern.Syntax
