import TextPattern.Text.Hex
import TextPattern.Yaml.Cursor

/-!
# Quoted scalars

`quotedScalar` : the text of a scalar between quotes, single or double. Between single quotes a quote is
written twice; between double quotes a backslash begins an escape sequence.
-/

namespace TextPattern.Yaml

def faultIn {α : Type} (problem : String) (place : Mark) (context : String) (start : Mark) :
    Except Fault α :=
  .error (.malformed problem place (some (context, start)))

/-- The character that a letter stands for behind a backslash. -/
def unescape? (c : Char) : Option Char :=
  match c with
  | '0' => some '\x00'
  | 'a' => some '\x07'
  | 'b' => some '\x08'
  | 't' | '\t' => some '\t'
  | 'n' => some '\n'
  | 'v' => some '\x0b'
  | 'f' => some '\x0c'
  | 'r' => some '\r'
  | 'e' => some '\x1b'
  | ' ' | '"' | '/' | '\\' => some c
  | 'N' => some '\u0085'
  | '_' => some '\u00a0'
  | 'L' => some '\u2028'
  | 'P' => some '\u2029'
  | _ => none

/-- The number of digits behind a letter that begins a numeric escape sequence. -/
def codeLength? (c : Char) : Option Nat :=
  match c with
  | 'x' => some 2
  | 'u' => some 4
  | 'U' => some 8
  | _ => none

def parsingQuoted : String := "while parsing a quoted scalar"

def scanningQuoted : String := "while scanning a quoted scalar"

def codeEscape (start : Mark) (n : Nat) (c : Cursor) : Except Fault (Char × Cursor) :=
  let digits := (c.rest.take n).filterMap hexDigit?
  let value := digits.foldl (fun value digit => 16 * value + digit) 0
  if digits.length < n then
    faultIn "did not find expected hexadecimal number" c.mark parsingQuoted start
  else if !value.isValidChar then
    faultIn "found invalid Unicode character escape code" c.mark parsingQuoted start
  else .ok (Char.ofNat value, c.skipMany n)

def escape (start : Mark) (c : Cursor) : Except Fault (Char × Cursor) :=
  let unknown := faultIn "found unknown escape character" c.mark parsingQuoted start
  match c.look? 1 with
  | none => unknown
  | some letter =>
    match unescape? letter, codeLength? letter with
    | some d, _ => .ok (d, c.skipMany 2)
    | none, some n => codeEscape start n (c.skipMany 2)
    | none, none => unknown

/-- The rest of a quoted scalar that began at `start`, `done` being its text so far, last first. Every
round passes over a character, so the length of the text bounds the rounds. -/
def quotedFrom (single : Bool) (start : Mark) :
    (rounds : Nat) → Cursor → (done : List Char) → Except Fault (List Char × Cursor)
  | 0, c, _ => faultIn "found unexpected end of stream" c.mark scanningQuoted start
  | rounds + 1, c, done =>
    if c.atDocumentMark then
      faultIn "found unexpected document indicator" c.mark scanningQuoted start
    else
      match c.rest with
      | [] => faultIn "found unexpected end of stream" c.mark scanningQuoted start
      | d :: _ =>
        if single && d = '\'' && c.look? 1 = some '\'' then
          quotedFrom single start rounds (c.skipMany 2) ('\'' :: done)
        else if d = (if single then '\'' else '"') then .ok (done.reverse, c.skip)
        else if !single && d = '\\' && (c.look? 1).any isBreak then
          match c.skip.takeBreak.2.gap 0 { first := some [] } with
          | .error _ => faultIn "found unexpected end of stream" c.mark scanningQuoted start
          | .ok (g, c) => quotedFrom single start rounds c (g.text.reverse ++ done)
        else if !single && d = '\\' then
          match escape start c with
          | .error f => .error f
          | .ok (d, c) => quotedFrom single start rounds c (d :: done)
        else if isBlank d || isBreak d then
          match c.gap 0 {} with
          | .error _ => faultIn "found unexpected end of stream" c.mark scanningQuoted start
          | .ok (g, c) => quotedFrom single start rounds c (g.text.reverse ++ done)
        else quotedFrom single start rounds c.skip (d :: done)

def quotedScalar (single : Bool) (c : Cursor) : Except Fault (List Char × Cursor) :=
  quotedFrom single c.mark (c.rest.length + 1) c.skip []

end TextPattern.Yaml
