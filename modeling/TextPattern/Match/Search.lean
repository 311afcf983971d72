import TextPattern.Match.Look
import TextPattern.Match.Program
import TextPattern.Match.Visited

/-!
# Searching a text

* `Thread` : a run of a program, `Inst.follow` : the runs that continue it, in order of preference;
* `Program.explore` : the preferred run that accepts, found by trying runs depth first and never
  entering a configuration twice;
* `Program.searchFrom` : the leftmost start from which some run accepts, with its preferred run;
* `Occurrence`, `Program.occurrences` : all occurrences from left to right;
* `Program.occursIn`, `Program.spans` : whether there is one, and where they stand, asked of the program
  that keeps no slots.

An empty occurrence that touches the end of the one before it is passed over: the search goes on behind
the next character.
-/

namespace TextPattern

/-- A run of a program: the next address, the place in the text, and the places kept in slots, last
first. -/
structure Thread where
  pc : Nat
  place : Cursor
  saves : List (Nat × Nat)
deriving Repr

/-- The runs that continue a run by an instruction, the preferred one first. -/
def Inst.follow (i : Inst) (t : Thread) : List Thread :=
  match i with
  | .take set next =>
    match t.place.next? with
    | some (c, place) => if set.contains c then [{ t with pc := next, place }] else []
    | none => []
  | .test cond next => if cond.holds t.place then [{ t with pc := next }] else []
  | .split fst snd => [{ t with pc := fst }, { t with pc := snd }]
  | .jump next => [{ t with pc := next }]
  | .save slot next => [{ t with pc := next, saves := (slot, t.place.offset) :: t.saves }]
  | .accept => []

namespace Program

/-- The number of a configuration, which is an address together with a place. -/
def configuration (p : Program) (t : Thread) : Nat := t.place.offset * p.code.size + t.pc

/-- The first run to accept, given the configurations seen and the runs still to be tried, with the
configurations seen then. Every round drops a run or sees a new configuration, so the number of
configurations bounds the rounds. -/
def explore (p : Program) : (rounds : Nat) → Visited → List Thread → Option Thread × Visited
  | 0, seen, _ => (none, seen)
  | _ + 1, seen, [] => (none, seen)
  | rounds + 1, seen, t :: stack =>
    let here := p.configuration t
    if seen.contains here then p.explore rounds seen stack
    else
      match p.code[t.pc]? with
      | none => p.explore rounds (seen.insert here) stack
      | some .accept => (some t, seen.insert here)
      | some i => p.explore rounds (seen.insert here) (i.follow t ++ stack)

/-- A bound on the rounds for a text of `n` characters. -/
def roundsFor (p : Program) (n : Nat) : Nat := 2 * p.code.size * (n + 1) + 2

/-- The leftmost place of `rest` from which a run accepts, and the preferred run from there. `before` is
the character before `rest` and `offset` its place. Configurations from which no run accepted are not
entered again from later places. -/
def searchFrom (p : Program) (rounds : Nat) :
    (rest : List Char) → (before : Option Char) → (offset : Nat) → Visited → Option (Cursor × Thread)
  | [], before, offset, seen =>
    let start : Cursor := ⟨before, [], offset⟩
    (p.explore rounds seen [⟨0, start, []⟩]).1.map (start, ·)
  | c :: rest, before, offset, seen =>
    let start : Cursor := ⟨before, c :: rest, offset⟩
    match p.explore rounds seen [⟨0, start, []⟩] with
    | (some t, _) => some (start, t)
    | (none, seen) => p.searchFrom rounds rest (some c) (offset + c.utf8Size) seen

/-- The leftmost place at or behind `c` from which a run accepts, and the preferred run from there. -/
def search? (p : Program) (rounds : Nat) (c : Cursor) : Option (Cursor × Thread) :=
  p.searchFrom rounds c.rest c.before c.offset .empty

end Program

/-! ## Occurrences -/

structure Capture where
  start : Nat
  stop : Nat
  text : List Char
deriving DecidableEq, Repr

/-- An occurrence, by its capture slots; slot 0 is the whole of it. -/
structure Occurrence where
  start : Nat
  stop : Nat
  slots : List (Option Capture)
deriving DecidableEq, Repr

/-- The place last kept in a slot. -/
def Thread.saved? (t : Thread) (slot : Nat) : Option Nat :=
  (t.saves.find? fun s => s.1 == slot).map (·.2)

/-- The text captured by a group in a run that began at `start`. -/
def Thread.capture? (t : Thread) (start : Cursor) (group : Nat) : Option Capture := do
  let lo ← t.saved? (2 * group)
  let hi ← t.saved? (2 * group + 1)
  return ⟨lo, hi, start.slice lo hi⟩

/-- The occurrence of a run that began at `start` and accepts. -/
def Thread.occurrence (t : Thread) (start : Cursor) (slots : Nat) : Occurrence :=
  let stop := t.place.offset
  let whole : Capture := ⟨start.offset, stop, start.slice start.offset stop⟩
  ⟨start.offset, stop,
    some whole :: (List.range (slots - 1)).map fun g => t.capture? start (g + 1)⟩

namespace Program

/-- The occurrences from the place `c` on, the one before having stopped at `last`. Each search may take
`rounds`. -/
def occurrencesFrom (p : Program) (rounds : Nat) :
    (searches : Nat) → Cursor → (last : Option Nat) → List Occurrence → List Occurrence
  | 0, _, _, found => found.reverse
  | searches + 1, c, last, found =>
    match p.search? rounds c with
    | none => found.reverse
    | some (start, t) =>
      if start.offset = t.place.offset ∧ last = some t.place.offset then
        match c.next? with
        | none => found.reverse
        | some (_, c) => p.occurrencesFrom rounds searches c last found
      else
        p.occurrencesFrom rounds searches t.place (some t.place.offset)
          (t.occurrence start p.slots :: found)

/-- The occurrences in a text, from left to right. At most one occurrence and one pass over an empty one
belong to each place. -/
def occurrences (p : Program) (text : List Char) : List Occurrence :=
  p.occurrencesFrom (p.roundsFor text.length) (2 * text.length + 3) (.ofText text) none []

/-- The occurrences in a text, from left to right, each with nothing but the whole of it. -/
def spans (p : Program) (text : List Char) : List Occurrence := p.slotless.occurrences text

def occursIn (p : Program) (text : List Char) : Bool :=
  (p.slotless.search? (p.slotless.roundsFor text.length) (.ofText text)).isSome

end Program

end TextPattern
