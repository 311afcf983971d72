import TextPattern.Yaml.Quoted

/-!
# Anchors, aliases and tags

* `anchorName` : the name behind `&` or `*`;
* `tagParts` : the handle and the rest of a tag.
-/

namespace TextPattern.Yaml

def mayFollowName (c : Option Char) : Bool :=
  endsWord c || c.any fun d => "?:,]\x7d%@\x60".toList.contains d

/-- The name of the anchor or alias at the place, with its sign, and the place behind it. -/
def anchorName (isAlias : Bool) (c : Cursor) : Except Fault (String × Cursor) :=
  let (name, behind) := c.skip.span isNameChar
  if name.isEmpty || !mayFollowName (behind.look? 0) then
    faultIn "did not find expected alphabetic or numeric character" behind.mark
      (if isAlias then "while scanning an alias" else "while scanning an anchor") c.mark
  else .ok (String.ofList name, behind)

/-! ## Tags -/

def parsingTag : String := "while parsing a tag"

def scanningTag : String := "while scanning a tag"

def isTagChar (bracketed : Bool) (c : Char) : Bool :=
  isNameChar c || ";/?:@&=+$.%!~*'()".toList.contains c || (bracketed && ",[]".toList.contains c)

/-- The number of bytes of a character in UTF-8, told by the first. -/
def utf8Length? (byte : Nat) : Option Nat :=
  if byte < 0x80 then some 1
  else if byte / 0x20 = 6 then some 2
  else if byte / 0x10 = 14 then some 3
  else if byte / 0x08 = 30 then some 4
  else none

def tagByte? (c : Cursor) : Option Nat := do
  if c.look? 0 ≠ some '%' then none
  let high ← (c.look? 1).bind hexDigit?
  let low ← (c.look? 2).bind hexDigit?
  return 16 * high + low

def trailingBytes (words : String) (start : Mark) : (n : Nat) → Cursor → Except Fault (List Nat × Cursor)
  | 0, c => .ok ([], c)
  | n + 1, c =>
    match tagByte? c with
    | none => faultIn "did not find URI escaped octet" c.mark words start
    | some byte =>
      if byte / 0x40 ≠ 2 then
        faultIn "found an incorrect trailing UTF-8 octet" c.mark words start
      else do
        let (bytes, c) ← trailingBytes words start n (c.skipMany 3)
        return (byte :: bytes, c)

def tagEscape (words : String) (start : Mark) (c : Cursor) : Except Fault (List Char × Cursor) :=
  match tagByte? c with
  | none => faultIn "did not find URI escaped octet" c.mark words start
  | some byte =>
    match utf8Length? byte with
    | none => faultIn "found an incorrect leading UTF-8 octet" c.mark words start
    | some n => do
      let (bytes, c) ← trailingBytes words start (n - 1) (c.skipMany 3)
      let text := String.fromUTF8? ⟨((byte :: bytes).map Nat.toUInt8).toArray⟩
      return ((text.map String.toList).getD [], c)

def tagTextFrom (bracketed : Bool) (words : String) (start : Mark) :
    (rounds : Nat) → Cursor → (done : List Char) → Except Fault (List Char × Cursor)
  | 0, c, done => .ok (done.reverse, c)
  | rounds + 1, c, done =>
    match c.rest with
    | [] => .ok (done.reverse, c)
    | d :: _ =>
      if d = '%' then do
        let (text, c) ← tagEscape words start c
        tagTextFrom bracketed words start rounds c (text.reverse ++ done)
      else if isTagChar bracketed d then
        tagTextFrom bracketed words start rounds c.skip (d :: done)
      else .ok (done.reverse, c)

/-- The characters of a tag at the place, which may not be missing unless `optional`. -/
def tagText (bracketed optional : Bool) (words : String) (start : Mark) (c : Cursor) :
    Except Fault (List Char × Cursor) := do
  let (text, behind) ← tagTextFrom bracketed words start (c.rest.length + 1) c []
  if !optional && behind.index = c.index then
    faultIn "did not find expected tag URI" behind.mark words start
  else return (text, behind)

/-- The handle and the rest of the tag at the place, whatever follows it. -/
def openTag (c : Cursor) : Except Fault (List Char × List Char × Cursor) :=
  let start := c.mark
  if c.look? 1 = some '<' then do
    let (rest, c) ← tagText true false parsingTag start (c.skipMany 2)
    if c.look? 0 = some '>' then return ([], rest, c.skip)
    else faultIn "did not find the expected '>'" c.mark scanningTag start
  else
    let (name, behind) := c.skip.span isNameChar
    if behind.look? 0 = some '!' then do
      let (rest, c) ← tagText false false parsingTag start behind.skip
      return ('!' :: name ++ ['!'], rest, c)
    else do
      let (rest, c) ← tagText false true parsingTag start behind
      let rest := name ++ rest
      return if rest.isEmpty then ([], ['!'], c) else (['!'], rest, c)

def tagParts (flow : Bool) (c : Cursor) : Except Fault (String × String × Cursor) := do
  let (handle, rest, behind) ← openTag c
  if endsWord (behind.look? 0) || (flow && behind.look? 0 = some ',') then
    return (String.ofList handle, String.ofList rest, behind)
  else
    faultIn "did not find expected whitespace or line break" behind.mark scanningTag c.mark

end TextPattern.Yaml
