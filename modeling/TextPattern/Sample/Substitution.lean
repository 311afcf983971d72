import TextPattern.Sample.Token

/-!
# Substitution in a text

* `replaceAll` : every occurrence of a mark, from left to right, replaced by a value;
* `occursFree`, `replaceFree` : the same for occurrences that no backslash stands before;
* `exhaust` : replaced until no such occurrence is left;
* `classBodies` : the bodies of the plain bracket classes of a text.

All of them pass over a text once, with the result so far, last first, in an accumulator.
-/

namespace TextPattern.Sample

/-- The text with the occurrences of a mark replaced. An occurrence counts if it is `free`: at its place
the character before allows it. `skip` characters belong to an occurrence that was replaced; whether
another may follow it directly is told by `adjacent`. -/
def replaceFrom (opens : Char → Bool) (adjacent : Bool) (mark value : List Char) :
    (free : Bool) → (skip : Nat) → (text done : List Char) → List Char
  | _, _, [], done => done.reverse
  | free, skip + 1, _ :: rest, done => replaceFrom opens adjacent mark value free skip rest done
  | free, 0, c :: rest, done =>
    if free && mark.isPrefixOf (c :: rest) then
      replaceFrom opens adjacent mark value adjacent (mark.length - 1) rest (value.reverseAux done)
    else
      replaceFrom opens adjacent mark value (opens c) 0 rest (c :: done)

def replaceAll (mark value text : List Char) : List Char :=
  replaceFrom (fun _ => true) true mark value true 0 text []

/-- The text with the occurrences of a mark replaced that no backslash stands before. Of two that touch
only the first is replaced. -/
def replaceFree (mark value text : List Char) : List Char :=
  replaceFrom opens false mark value true 0 text []

/-- A mark occurs in a text, the character before which leaves it `free` or not. -/
def occursFrom (mark : List Char) : (free : Bool) → (text : List Char) → Bool
  | _, [] => false
  | free, c :: rest =>
    if free && mark.isPrefixOf (c :: rest) then true else occursFrom mark (opens c) rest

def occursFree (mark text : List Char) : Bool := occursFrom mark true text

/-- The text after `rounds` replacements, or as many as find something to replace. -/
def exhaustFor (mark value : List Char) : (rounds : Nat) → (text : List Char) → List Char
  | 0, text => text
  | rounds + 1, text =>
    if occursFree mark text then exhaustFor mark value rounds (replaceFree mark value text) else text

/-- The text with the occurrences of a mark replaced until none is left. A value holds no character that
begins a mark, so each round leaves fewer of those. -/
def exhaust (mark value text : List Char) : List Char := exhaustFor mark value text.length text

/-- A character that does not belong to the body of a plain class. -/
def breaksBody (c : Char) : Bool := c = '\\' || c = '^' || c = '-'

/-- The distinct bodies of the plain classes of a text that a sign follows, behind those in `found`,
which are last first. `body` is what was read behind the last opening bracket, last first. -/
def classBodiesFrom (sign : List Char) :
    (body : Option (List Char)) → (text : List Char) → (found : List (List Char)) → List (List Char)
  | _, [], found => found.reverse
  | body, c :: rest, found =>
    if c = '[' then classBodiesFrom sign (some []) rest found
    else if c = ']' then
      match body with
      | some (b :: bs) =>
        let new := (b :: bs).reverse
        if sign.isPrefixOf rest && !found.contains new then
          classBodiesFrom sign none rest (new :: found)
        else classBodiesFrom sign none rest found
      | _ => classBodiesFrom sign none rest found
    else if breaksBody c then classBodiesFrom sign none rest found
    else classBodiesFrom sign (body.map (c :: ·)) rest found

/-- The distinct bodies of the plain classes of a text that a sign follows, by first occurrence. -/
def classBodies (sign text : List Char) : List (List Char) := classBodiesFrom sign none text []

def classMark (body sign : List Char) : List Char := '[' :: body ++ ']' :: sign

end TextPattern.Sample
