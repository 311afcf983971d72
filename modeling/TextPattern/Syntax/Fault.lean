import TextPattern.Syntax.Position

/-!
# Faults of a pattern text

* `FaultKind` : what is wrong, with its wording in `FaultKind.message`;
* `Fault` : what is wrong and where;
* `Fault.render` : the report of a fault, which shows the pattern with the faulty places marked.

A pattern of one line is shown indented, with carets below the marked places. A pattern of several
lines is shown with line numbers between two rules; a marked place that goes over several lines is
described in words below the second rule.
-/

namespace TextPattern.Syntax

/-- What is wrong with a pattern text. -/
inductive FaultKind where
  | classEscapeInvalid | classRangeInvalid | classRangeLiteral | classUnclosed
  | decimalInvalid
  | escapeHexEmpty | escapeHexInvalid | escapeHexInvalidDigit | escapeUnexpectedEnd
  | escapeUnrecognized
  | flagDanglingNegation | flagDuplicate | flagRepeatedNegation | flagUnexpectedEnd
  | flagUnrecognized
  | groupNameDuplicate | groupNameEmpty | groupNameInvalid | groupNameUnexpectedEnd
  | groupUnclosed | groupUnopened
  | nestLimitExceeded (limit : Nat)
  | repetitionCountInvalid | repetitionCountDecimalEmpty | repetitionCountUnclosed
  | repetitionMissing
  | wordBoundaryUnclosed | wordBoundaryUnrecognized | wordBoundaryUnexpectedEnd
  | propertyClassInvalid
  | backreference | lookAround
  | unicodeNotAllowed | invalidUtf8 | propertyNotFound | propertyValueNotFound
deriving DecidableEq, Repr

def FaultKind.message : FaultKind → String
  | .classEscapeInvalid => "invalid escape sequence found in character class"
  | .classRangeInvalid => "invalid character class range, the start must be <= the end"
  | .classRangeLiteral => "invalid range boundary, must be a literal"
  | .classUnclosed => "unclosed character class"
  | .decimalInvalid => "decimal literal invalid"
  | .escapeHexEmpty => "hexadecimal literal empty"
  | .escapeHexInvalid => "hexadecimal literal is not a Unicode scalar value"
  | .escapeHexInvalidDigit => "invalid hexadecimal digit"
  | .escapeUnexpectedEnd => "incomplete escape sequence, reached end of pattern prematurely"
  | .escapeUnrecognized => "unrecognized escape sequence"
  | .flagDanglingNegation => "dangling flag negation operator"
  | .flagDuplicate => "duplicate flag"
  | .flagRepeatedNegation => "flag negation operator repeated"
  | .flagUnexpectedEnd => "expected flag but got end of regex"
  | .flagUnrecognized => "unrecognized flag"
  | .groupNameDuplicate => "duplicate capture group name"
  | .groupNameEmpty => "empty capture group name"
  | .groupNameInvalid => "invalid capture group character"
  | .groupNameUnexpectedEnd => "unclosed capture group name"
  | .groupUnclosed => "unclosed group"
  | .groupUnopened => "unopened group"
  | .nestLimitExceeded limit =>
    "exceed the maximum number of nested parentheses/brackets (" ++ toString limit ++ ")"
  | .repetitionCountInvalid =>
    "invalid repetition count range, the start must be <= the end"
  | .repetitionCountDecimalEmpty => "repetition quantifier expects a valid decimal"
  | .repetitionCountUnclosed => "unclosed counted repetition"
  | .repetitionMissing => "repetition operator missing expression"
  | .wordBoundaryUnclosed =>
    "special word boundary assertion is either unclosed or contains an invalid character"
  | .wordBoundaryUnrecognized =>
    "unrecognized special word boundary assertion, valid choices are: start, end, start-half or " ++
      "end-half"
  | .wordBoundaryUnexpectedEnd =>
    "found either the beginning of a special word boundary or a bounded repetition on a \\b " ++
      "with an opening brace, but no closing brace"
  | .propertyClassInvalid => "invalid Unicode character class"
  | .backreference => "backreferences are not supported"
  | .lookAround => "look-around, including look-ahead and look-behind, is not supported"
  | .unicodeNotAllowed => "Unicode not allowed here"
  | .invalidUtf8 => "pattern can match invalid UTF-8"
  | .propertyNotFound => "Unicode property not found"
  | .propertyValueNotFound => "Unicode property value not found"

/-- A fault with the place where it was found and, where two items clash, the place of the other. -/
structure Fault where
  kind : FaultKind
  span : Span
  other : Option Span := none
deriving DecidableEq, Repr

def fail {α : Type} (kind : FaultKind) (span : Span) : Except Fault α := .error { kind, span }

def Fault.spans (f : Fault) : List Span :=
  match f.other with
  | none => [f.span]
  | some o => if f.span.le o then [f.span, o] else [o, f.span]

/-! ## Lines -/

/-- The lines of a text with the line read so far, last character first. A line feed ends a line, a
carriage return before it is dropped, and an end of text right behind a line feed starts no line. -/
def linesFrom : List Char → List Char → List (List Char)
  | [], current => if current.isEmpty then [] else [current.reverse]
  | '\n' :: cs, current =>
    (match current with
      | '\r' :: line => line.reverse
      | line => line.reverse) :: linesFrom cs []
  | c :: cs, current => linesFrom cs (c :: current)

/-- The lines of a text. -/
def lines (text : List Char) : List (List Char) := linesFrom text []

/-! ## The report -/

/-- The carets of one line: `column` columns are already written, and every place gets at least one
caret. -/
def carets : List Span → Nat → List Char
  | [], _ => []
  | s :: rest, column =>
    let blanks := s.start.column - 1 - column
    let marks := max 1 (s.stop.column - s.start.column)
    List.replicate blanks ' ' ++ List.replicate marks '^' ++ carets rest (column + blanks + marks)

/-- A number written right-aligned. -/
def padded (width n : Nat) : List Char :=
  let digits := (toString n).toList
  List.replicate (width - digits.length) ' ' ++ digits

/-- The lines of the pattern from line `n` on, each followed by the carets of its marked places.
`width` is the width of the line numbers, which are left out when it is 0. -/
def notatedLines (width : Nat) (spans : List Span) : List (List Char) → Nat → List (List Char)
  | [], _ => []
  | line :: rest, n =>
    let head := if width = 0 then List.replicate 4 ' ' else padded width n ++ [':', ' ']
    let here := spans.filter fun s => s.oneLine && s.start.line == n
    let notes := if here.isEmpty then [] else
      [List.replicate (if width = 0 then 4 else width + 2) ' ' ++ carets here 0]
    (head ++ line) :: notes ++ notatedLines width spans rest (n + 1)

/-- The width of the line numbers: 0 for a pattern of one line. A line feed at the end counts one
more line. -/
def numberWidth (text : List Char) : Nat :=
  let count := (lines text).length + (if text.getLast? = some '\n' then 1 else 0)
  if count ≤ 1 then 0 else (toString count).length

def Span.describe (s : Span) : String :=
  "on line " ++ toString s.start.line ++ " (column " ++ toString s.start.column ++
    ") through line " ++ toString s.stop.line ++ " (column " ++ toString (s.stop.column - 1) ++ ")"

def Fault.render (f : Fault) (text : List Char) : String :=
  let shown := (notatedLines (numberWidth text) f.spans (lines text) 1).map String.ofList
  let last := "error: " ++ f.kind.message
  let body :=
    if text.contains '\n' then
      let rule := String.ofList (List.replicate 79 '~')
      let long := f.spans.filter fun s => !s.oneLine
      rule :: shown ++ rule :: long.map Span.describe
    else shown
  "\n".intercalate ("regex parse error:" :: body ++ [last])

end TextPattern.Syntax
