import TextPattern.Yaml.Quoted

/-!
# Plain scalars

`plainScalar` : the text of a scalar without quotes. It ends at a colon or a comment behind a blank, at a
line that is not indented enough, and within brackets at the characters that divide these.
-/

namespace TextPattern.Yaml

/-- A plain scalar: its text, the mark behind its last character, the place behind the gap that follows,
and whether that gap has a line break. -/
structure Plain where
  text : List Char
  stop : Mark
  behind : Cursor
  lineEnds : Bool
deriving Repr

def dividesFlow (c : Char) : Bool := c = ',' || c = '[' || c = ']' || c = '\x7b' || c = '\x7d'

def scanningPlain : String := "while scanning a plain scalar"

/-- The rest of a plain scalar that began at `start`. Its text so far is `done`, last first, and ends at
`stop`; the gap `g` was passed since, and `fresh` tells that nothing was. -/
def plainFrom (flow : Bool) (limit : Nat) (start : Mark) :
    (rounds : Nat) → Cursor → (fresh : Bool) → Gap → (done : List Char) → (stop : Mark) →
      Except Fault Plain
  | 0, c, _, g, done, stop => .ok ⟨done.reverse, stop, c, g.first.isSome⟩
  | rounds + 1, c, fresh, g, done, stop =>
    let finished : Except Fault Plain := .ok ⟨done.reverse, stop, c, g.first.isSome⟩
    match c.rest with
    | [] => finished
    | d :: _ =>
      if isBlank d || isBreak d then
        match c.gap limit {} with
        | .error place =>
          faultIn "found a tab character that violates indentation" place scanningPlain start
        | .ok (g, c) =>
          if !flow && c.mark.column < limit then .ok ⟨done.reverse, stop, c, g.first.isSome⟩
          else plainFrom flow limit start rounds c true g done stop
      else if fresh && (c.atDocumentMark || d = '#') then finished
      else if flow && d = ':' && (c.look? 1).any (fun e => dividesFlow e || e = '?') then
        faultIn "found unexpected ':'" c.mark scanningPlain start
      else if (d = ':' && endsWord (c.look? 1)) || (flow && dividesFlow d) then finished
      else
        plainFrom flow limit start rounds c.skip false {} (d :: (g.text.reverse ++ done)) c.skip.mark

/-- The plain scalar at the place, `limit` being the column that its lines have to reach. -/
def plainScalar (flow : Bool) (limit : Nat) (c : Cursor) : Except Fault Plain :=
  plainFrom flow limit c.mark (c.rest.length + 1) c true {} [] c.mark

end TextPattern.Yaml
