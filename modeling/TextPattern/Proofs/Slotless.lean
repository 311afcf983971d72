import TextPattern.Match.Search

/-!
# Searching without slots

* `Thread.slotless`, `Occurrence.slotless` : a run that has kept nothing, an occurrence without captures;
* `Inst.follow_slotless` : without slots an instruction leads to the same addresses and places;
* `explore_slotless`, `search?_slotless` : a search without slots finds the run that a search with slots
  finds, less what that has kept;
* `spans_eq`, `occursIn_eq` : the three searches of a text agree on where it has occurrences.

A configuration is an address with a place, so what a run has kept never decides which runs are tried.
-/

namespace TextPattern

/-- The run at the same address and place that has kept nothing. -/
def Thread.slotless (t : Thread) : Thread := { t with saves := [] }

def Occurrence.slotless (o : Occurrence) : Occurrence := { o with slots := o.slots.take 1 }

/-! ## One step -/

/-- Without slots an instruction leads to the same addresses and places, in the same order. -/
theorem Inst.follow_slotless (i : Inst) (t : Thread) :
    i.slotless.follow t.slotless = (i.follow t).map Thread.slotless := by
  cases i with
  | take set next =>
    simp only [slotless, follow, Thread.slotless]
    cases t.place.next? with
    | none => rfl
    | some found =>
      by_cases h : set.contains found.1 = true
      · simp [h, Thread.slotless]
      · simp [h]
  | test cond next =>
    simp only [slotless, follow, Thread.slotless]
    by_cases h : cond.holds t.place = true
    · simp [h, Thread.slotless]
    · simp [h]
  | split fst snd => rfl
  | jump next => rfl
  | save slot next => rfl
  | accept => rfl

theorem Thread.occurrence_slotless (t : Thread) (start : Cursor) (slots : Nat) :
    t.slotless.occurrence start 1 = (t.occurrence start slots).slotless := by
  simp [occurrence, Occurrence.slotless, slotless]

namespace Program

@[simp] theorem size_slotless (p : Program) : p.slotless.code.size = p.code.size := by
  simp [slotless]

theorem getElem?_slotless (p : Program) (pc : Nat) :
    p.slotless.code[pc]? = p.code[pc]?.map Inst.slotless := by
  simp [slotless]

theorem configuration_slotless (p : Program) (t : Thread) :
    p.slotless.configuration t.slotless = p.configuration t := by
  rw [configuration, configuration, size_slotless]
  rfl

theorem roundsFor_slotless (p : Program) (n : Nat) : p.slotless.roundsFor n = p.roundsFor n := by
  rw [roundsFor, roundsFor, size_slotless]

/-! ## One search -/

/-- An exploration without slots tries the same runs and finds the same one, less what it has kept. -/
theorem explore_slotless (p : Program) (rounds : Nat) (seen : Visited) (stack : List Thread) :
    p.slotless.explore rounds seen (stack.map Thread.slotless) =
      ((p.explore rounds seen stack).1.map Thread.slotless, (p.explore rounds seen stack).2) := by
  induction rounds generalizing seen stack with
  | zero => rfl
  | succ rounds ih =>
    cases stack with
    | nil => rfl
    | cons t stack =>
      have hcode : p.slotless.code[t.slotless.pc]? = p.code[t.pc]?.map Inst.slotless :=
        p.getElem?_slotless t.pc
      have hfollow : ∀ i : Inst, p.slotless.explore rounds (seen.insert (p.configuration t))
          (i.slotless.follow t.slotless ++ stack.map Thread.slotless) =
            ((p.explore rounds (seen.insert (p.configuration t)) (i.follow t ++ stack)).1.map Thread.slotless,
              (p.explore rounds (seen.insert (p.configuration t)) (i.follow t ++ stack)).2) := by
        intro i
        rw [Inst.follow_slotless, ← List.map_append]
        exact ih _ _
      rw [List.map_cons, explore, explore, configuration_slotless, hcode]
      by_cases hseen : seen.contains (p.configuration t) = true
      · rw [if_pos hseen, if_pos hseen]
        exact ih seen stack
      · rw [if_neg hseen, if_neg hseen]
        cases p.code[t.pc]? with
        | none => exact ih _ _
        | some i =>
          cases i with
          | accept => rfl
          | save slot next => exact hfollow (.save slot next)
          | take set next => exact hfollow (.take set next)
          | test cond next => exact hfollow (.test cond next)
          | split fst snd => exact hfollow (.split fst snd)
          | jump next => exact hfollow (.jump next)

theorem searchFrom_slotless (p : Program) (rounds : Nat) (rest : List Char) (before : Option Char)
    (offset : Nat) (seen : Visited) :
    p.slotless.searchFrom rounds rest before offset seen =
      (p.searchFrom rounds rest before offset seen).map fun found => (found.1, found.2.slotless) := by
  have hstart : ∀ c : Cursor, p.slotless.explore rounds seen [⟨0, c, []⟩] =
      ((p.explore rounds seen [⟨0, c, []⟩]).1.map Thread.slotless,
        (p.explore rounds seen [⟨0, c, []⟩]).2) := by
    intro c
    exact p.explore_slotless rounds seen [⟨0, c, []⟩]
  induction rest generalizing before offset seen with
  | nil =>
    simp only [searchFrom, hstart, Option.map_map]
    rfl
  | cons a rest ih =>
    have hnext := ih (some a) (offset + a.utf8Size)
    simp only [searchFrom, hstart]
    rcases hfound : p.explore rounds seen [⟨0, ⟨before, a :: rest, offset⟩, []⟩] with ⟨_ | t, seen'⟩
    · exact hnext seen' fun c => p.explore_slotless rounds seen' [⟨0, c, []⟩]
    · rfl

theorem search?_slotless (p : Program) (rounds : Nat) (c : Cursor) : p.slotless.search? rounds c =
    (p.search? rounds c).map fun found => (found.1, found.2.slotless) :=
  p.searchFrom_slotless rounds c.rest c.before c.offset .empty

/-! ## All occurrences -/

theorem occurrencesFrom_slotless (p : Program) (rounds searches : Nat) (c : Cursor) (last : Option Nat)
    (found : List Occurrence) :
    p.slotless.occurrencesFrom rounds searches c last (found.map Occurrence.slotless) =
      (p.occurrencesFrom rounds searches c last found).map Occurrence.slotless := by
  induction searches generalizing c last found with
  | zero => simp [occurrencesFrom]
  | succ searches ih =>
    rw [occurrencesFrom, occurrencesFrom, search?_slotless]
    cases p.search? rounds c with
    | none => simp
    | some hit =>
      obtain ⟨start, t⟩ := hit
      have hplace : t.slotless.place = t.place := rfl
      simp only [Option.map_some, hplace]
      split
      · -- An empty match at the end of the one before is passed over by both.
        cases c.next? with
        | none => simp
        | some next => exact ih next.2 last found
      · have hmore := ih t.place (some t.place.offset) (t.occurrence start p.slots :: found)
        rw [List.map_cons, ← Thread.occurrence_slotless t start p.slots] at hmore
        exact hmore

theorem spans_eq (p : Program) (text : List Char) :
    p.spans text = (p.occurrences text).map Occurrence.slotless := by
  rw [spans, occurrences, occurrences, roundsFor_slotless]
  exact p.occurrencesFrom_slotless _ _ _ none []

theorem occursIn_eq (p : Program) (text : List Char) :
    p.occursIn text = (p.search? (p.roundsFor text.length) (.ofText text)).isSome := by
  rw [occursIn, roundsFor_slotless, search?_slotless, Option.isSome_map]

end Program

end TextPattern
