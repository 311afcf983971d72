import TextPattern.Yaml.Property
import TextPattern.Yaml.Token

/-!
# Directives

`directiveToken` : the token of a line in front of a document that begins with a percent sign. It gives the
version of YAML, or what a handle of tags stands for.
-/

namespace TextPattern.Yaml

def scanningDirective : String := "while scanning a directive"

def scanningVersion : String := "while scanning a %YAML directive"

def scanningHandle : String := "while scanning a %TAG directive"

def parsingHandle : String := "while parsing a %TAG directive"

namespace Cursor

def skipBlanks (c : Cursor) : Cursor := (c.span isBlank).2

/-- The place behind a comment, which ends with its line. -/
def skipComment (c : Cursor) : Cursor := if c.look? 0 = some '#' then (c.span fun d => !isBreak d).2 else c

end Cursor

def versionNumber (start : Mark) (c : Cursor) : Except Fault (Nat × Cursor) :=
  let (digits, behind) := c.span Char.isDigit
  if digits.isEmpty then faultIn "did not find expected version number" c.mark scanningVersion start
  else if 9 < digits.length then
    faultIn "found extremely long version number" (c.skipMany 9).mark scanningVersion start
  else .ok (digits.foldl (fun n d => 10 * n + (d.toNat - 0x30)) 0, behind)

def version (start : Mark) (c : Cursor) : Except Fault (Token.Kind × Cursor) := do
  let (major, c) ← versionNumber start c.skipBlanks
  if c.look? 0 = some '.' then
    let (minor, c) ← versionNumber start c.skip
    return (.version major minor, c)
  else faultIn "did not find expected digit or '.' character" c.mark scanningVersion start

/-- The handle of tags at the place, which is between exclamation marks or only one of them. -/
def tagHandle (start : Mark) (c : Cursor) : Except Fault (List Char × Cursor) :=
  if c.look? 0 = some '!' then
    let (name, behind) := c.skip.span isNameChar
    if behind.look? 0 = some '!' then .ok ('!' :: name ++ ['!'], behind.skip)
    else if name.isEmpty then .ok (['!'], behind)
    else faultIn "did not find expected '!'" behind.mark "while parsing a tag directive" start
  else faultIn "did not find expected '!'" c.mark "while scanning a tag directive" start

/-- The handle behind the name of its directive and the text that it stands for, and the place behind them. -/
def handleText (start : Mark) (c : Cursor) : Except Fault (Token.Kind × Cursor) := do
  let (handle, c) ← tagHandle start c.skipBlanks
  if (c.look? 0).any isBlank then
    let (text, c) ← tagText true false parsingHandle start c.skipBlanks
    if endsWord (c.look? 0) then return (.handle (String.ofList handle) (String.ofList text), c)
    else faultIn "did not find expected whitespace or line break" c.mark scanningHandle start
  else faultIn "did not find expected whitespace" c.mark scanningHandle start

/-- What the directive at the place says, the place behind that, and the place behind its line. -/
def directiveToken (c : Cursor) : Except Fault (Token.Kind × Cursor × Cursor) := do
  let start := c.mark
  let (name, c) := c.skip.span isNameChar
  if name.isEmpty then faultIn "could not find expected directive name" c.mark scanningDirective start
  else if !endsWord (c.look? 0) then
    faultIn "found unexpected non-alphabetical character" c.mark scanningDirective start
  else
    let (kind, stop) ←
      if name = "YAML".toList then version start c
      else if name = "TAG".toList then handleText start c
      else faultIn "found unknown directive name" c.mark scanningDirective start
    let c := stop.skipBlanks.skipComment
    if endsLine (c.look? 0) then return (kind, stop, c.takeBreak.2)
    else faultIn "did not find expected comment or line break" c.mark scanningDirective start

end TextPattern.Yaml
