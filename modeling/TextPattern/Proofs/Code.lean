import TextPattern.Match.Search
import TextPattern.Proofs.Meaning

/-!
# The code of an expression does what the expression says

* `Inst.Goes i c pc d` : the instruction `i` may go from the place `c` to the address `pc` at `d`;
* `Program.EndsIn p stop n pc c` : some run from the address `pc` at `c` accepts at `stop` after `n` steps;
* `Program.Reads p start exit R` : the runs from `start` are those that get to `exit` at a place that
  `R` relates to theirs (`Reads.trans`, `reads_loop` put such parts together);
* `Program.HasAt p start part` : the code has `part` at `start`;
* `code_cat` to `size_between` : the code and its length, form by form;
* `reads_code`, `ends_program` : the code of an expression reads what the expression matches;
* `within_code`, `lt_size_of_goes` : its steps stay within the code.
-/

namespace TextPattern

/-! ## Steps -/

/-- The instruction may go from the place `c` to the address `pc` at the place `d`. -/
def Inst.Goes : Inst → Cursor → Nat → Cursor → Prop
  | take set next, c, pc, d => pc = next ∧ ∃ a, c.next? = some (a, d) ∧ set.contains a = true
  | test cond next, c, pc, d => pc = next ∧ d = c ∧ cond.holds c = true
  | split fst snd, c, pc, d => (pc = fst ∨ pc = snd) ∧ d = c
  | jump next, c, pc, d => pc = next ∧ d = c
  | save _ next, c, pc, d => pc = next ∧ d = c
  | accept, _, _, _ => False

/-- The runs that continue a run are the steps of its instruction. -/
theorem Inst.exists_follow (i : Inst) (t : Thread) (pc : Nat) (d : Cursor) :
    (∃ s ∈ i.follow t, s.pc = pc ∧ s.place = d) ↔ i.Goes t.place pc d := by
  cases i with
  | take set next =>
    simp only [follow, Goes]
    cases hn : t.place.next? with
    | none => simp
    | some a =>
      obtain ⟨a, place⟩ := a
      dsimp only
      by_cases ha : set.contains a = true
      · rw [if_pos ha]
        simp only [List.mem_singleton, exists_eq_left, Option.some.injEq, Prod.mk.injEq]
        constructor
        · rintro ⟨rfl, rfl⟩
          exact ⟨rfl, a, ⟨rfl, rfl⟩, ha⟩
        · rintro ⟨rfl, b, ⟨rfl, rfl⟩, -⟩
          exact ⟨rfl, rfl⟩
      · rw [if_neg ha]
        simp only [List.not_mem_nil, false_and, exists_false, Option.some.injEq, Prod.mk.injEq,
          false_iff, not_and, not_exists]
        rintro - b ⟨rfl, -⟩
        exact ha
  | test cond next => by_cases h : cond.holds t.place = true <;> simp [follow, Goes, h, eq_comm]
  | split fst snd =>
    simp only [follow, Goes, List.mem_cons, List.not_mem_nil, or_false, exists_eq_or_imp,
      exists_eq_left]
    grind
  | jump next => simp [follow, Goes, eq_comm]
  | save slot next => simp [follow, Goes, eq_comm]
  | accept => simp [follow, Goes]

namespace Program

/-- Some run from the address `pc` at the place `c` accepts at the place `stop` after `n` steps. -/
def EndsIn (p : Program) (stop : Cursor) : (n pc : Nat) → Cursor → Prop
  | 0, pc, c => p.code[pc]? = some .accept ∧ c = stop
  | n + 1, pc, c => ∃ i, p.code[pc]? = some i ∧ ∃ next d, i.Goes c next d ∧ p.EndsIn stop n next d

/-- Some run from the address `pc` at the place `c` accepts at the place `stop`. -/
def Ends (p : Program) (pc : Nat) (c stop : Cursor) : Prop := ∃ n, p.EndsIn stop n pc c

/-- Some run from the address `pc` at the place `c` accepts. -/
def Accepts (p : Program) (pc : Nat) (c : Cursor) : Prop := ∃ stop, p.Ends pc c stop

variable {p : Program} {pc start exit : Nat} {c d stop : Cursor} {R S : Cursor → Cursor → Prop}

theorem ends_of_accept (hi : p.code[pc]? = some .accept) (c : Cursor) : p.Ends pc c c := ⟨0, hi, rfl⟩

theorem Ends.step {i : Inst} (hi : p.code[pc]? = some i) {next : Nat} (hg : i.Goes c next d)
    (h : p.Ends next d stop) : p.Ends pc c stop := by
  obtain ⟨n, hn⟩ := h
  exact ⟨n + 1, i, hi, next, d, hg, hn⟩

theorem Accepts.step {i : Inst} (hi : p.code[pc]? = some i) {next : Nat} (hg : i.Goes c next d)
    (h : p.Accepts next d) : p.Accepts pc c := by
  obtain ⟨stop, hstop⟩ := h
  exact ⟨stop, hstop.step hi hg⟩

theorem EndsIn.exists_step {i : Inst} (hi : p.code[pc]? = some i) (hne : i ≠ .accept) {n : Nat}
    (h : p.EndsIn stop n pc c) : ∃ m next d, n = m + 1 ∧ i.Goes c next d ∧ p.EndsIn stop m next d := by
  cases n with
  | zero => exact absurd (Option.some.inj (hi.symm.trans h.1)) hne
  | succ n =>
    obtain ⟨j, hj, next, d, hg, hn⟩ := h
    obtain rfl := Option.some.inj (hi.symm.trans hj)
    exact ⟨n, next, d, rfl, hg, hn⟩

/-! ## Parts of a program -/

/-- From `start` the program gets to `exit` by reading what `R` relates: an accepting run behind the
exit can be led there, and every accepting run gets there. -/
def Reads (p : Program) (start exit : Nat) (R : Cursor → Cursor → Prop) : Prop :=
  ∀ stop, (∀ c d, R c d → p.Ends exit d stop → p.Ends start c stop) ∧
    ∀ n c, p.EndsIn stop n start c → ∃ d, R c d ∧ ∃ m ≤ n, p.EndsIn stop m exit d

theorem Reads.refl (p : Program) (pc : Nat) : p.Reads pc pc fun c d => d = c := by
  intro stop
  refine ⟨?_, fun n c h => ⟨c, rfl, n, Nat.le_refl n, h⟩⟩
  rintro c d rfl h
  exact h

theorem Reads.trans {mid : Nat} (hR : p.Reads start mid R) (hS : p.Reads mid exit S) :
    p.Reads start exit fun c d => ∃ m, R c m ∧ S m d := by
  intro stop
  constructor
  · rintro c d ⟨m, hcm, hmd⟩ h
    exact (hR stop).1 c m hcm ((hS stop).1 m d hmd h)
  · intro n c h
    obtain ⟨m, hcm, k, hk, hmid⟩ := (hR stop).2 n c h
    obtain ⟨d, hmd, j, hj, hexit⟩ := (hS stop).2 k m hmid
    exact ⟨d, ⟨m, hcm, hmd⟩, j, Nat.le_trans hj hk, hexit⟩

theorem Reads.congr (h : p.Reads start exit R) (hRS : ∀ c d, R c d ↔ S c d) :
    p.Reads start exit S := by
  have : R = S := by funext c d; exact propext (hRS c d)
  exact this ▸ h

theorem reads_inst {i : Inst} (hi : p.code[start]? = some i) (hne : i ≠ .accept)
    (h : ∀ c next d, i.Goes c next d ↔ next = exit ∧ R c d) : p.Reads start exit R := by
  intro stop
  constructor
  · intro c d hcd hexit
    exact .step hi ((h c exit d).2 ⟨rfl, hcd⟩) hexit
  · intro n c hn
    obtain ⟨m, next, d, rfl, hg, hm⟩ := hn.exists_step hi hne
    obtain ⟨rfl, hcd⟩ := (h c next d).1 hg
    exact ⟨d, hcd, m, Nat.le_succ m, hm⟩

theorem goes_choice {greedy : Bool} {inside outside next : Nat} :
    (Inst.choice greedy inside outside).Goes c next d ↔ (next = inside ∨ next = outside) ∧ d = c := by
  cases greedy <;> simp [Inst.choice, Inst.Goes, or_comm]

theorem choice_ne_accept {greedy : Bool} {inside outside : Nat} :
    Inst.choice greedy inside outside ≠ .accept := by
  cases greedy <;> simp [Inst.choice]

/-- A choice between a part and the way around it. -/
theorem reads_choice {greedy : Bool} {inside : Nat}
    (hi : p.code[start]? = some (.choice greedy inside exit)) (hR : p.Reads inside exit R) :
    p.Reads start exit fun c d => d = c ∨ R c d := by
  intro stop
  constructor
  · rintro c d (rfl | hcd) hexit
    · exact .step hi (goes_choice.2 ⟨.inr rfl, rfl⟩) hexit
    · exact .step hi (goes_choice.2 ⟨.inl rfl, rfl⟩) ((hR stop).1 c d hcd hexit)
  · intro n c hn
    obtain ⟨m, next, d, rfl, hg, hm⟩ := hn.exists_step hi choice_ne_accept
    obtain ⟨rfl | rfl, rfl⟩ := goes_choice.1 hg
    · obtain ⟨e, hce, k, hk, hexit⟩ := (hR stop).2 m d hm
      exact ⟨e, .inr hce, k, by omega, hexit⟩
    · exact ⟨d, .inl rfl, m, Nat.le_succ m, hm⟩

/-- A choice between a part that comes back to the choice and the way on. -/
theorem reads_loop {greedy : Bool} {inside : Nat}
    (hi : p.code[start]? = some (.choice greedy inside exit)) (hR : p.Reads inside start R) :
    p.Reads start exit fun c d => ∃ n, Rounds R n c d := by
  intro stop
  constructor
  · rintro c d ⟨n, hn⟩ hexit
    induction n generalizing c with
    | zero =>
      obtain rfl : d = c := hn
      exact .step hi (goes_choice.2 ⟨.inr rfl, rfl⟩) hexit
    | succ n ih =>
      obtain ⟨m, hcm, hmd⟩ := hn
      exact .step hi (goes_choice.2 ⟨.inl rfl, rfl⟩) ((hR stop).1 c m hcm (ih m hmd))
  · -- Every round takes at least the step of the choice.
    intro n
    induction n using Nat.strongRecOn with
    | _ n ih =>
      intro c hn
      obtain ⟨m, next, d, rfl, hg, hm⟩ := hn.exists_step hi choice_ne_accept
      obtain ⟨rfl | rfl, rfl⟩ := goes_choice.1 hg
      · obtain ⟨e, hde, k, hk, hstart⟩ := (hR stop).2 m d hm
        obtain ⟨f, ⟨r, hr⟩, j, hj, hexit⟩ := ih k (by omega) e hstart
        exact ⟨f, ⟨r + 1, e, hde, hr⟩, j, by omega, hexit⟩
      · exact ⟨d, ⟨0, rfl⟩, m, Nat.le_succ m, hm⟩

theorem reads_split {fst snd : Nat} (hi : p.code[start]? = some (.split fst snd))
    (hR : p.Reads fst exit R) (hS : p.Reads snd exit S) :
    p.Reads start exit fun c d => R c d ∨ S c d := by
  intro stop
  constructor
  · rintro c d (hcd | hcd) hexit
    · exact .step hi (show Inst.Goes _ c fst c from ⟨.inl rfl, rfl⟩) ((hR stop).1 c d hcd hexit)
    · exact .step hi (show Inst.Goes _ c snd c from ⟨.inr rfl, rfl⟩) ((hS stop).1 c d hcd hexit)
  · intro n c hn
    obtain ⟨m, next, d, rfl, hg, hm⟩ := hn.exists_step hi (by simp)
    obtain ⟨rfl | rfl, rfl⟩ := hg
    · obtain ⟨e, hce, k, hk, hexit⟩ := (hR stop).2 m d hm
      exact ⟨e, .inl hce, k, by omega, hexit⟩
    · obtain ⟨e, hce, k, hk, hexit⟩ := (hS stop).2 m d hm
      exact ⟨e, .inr hce, k, by omega, hexit⟩

/-! ## Where a part stands -/

/-- The code has `part` at the address `start`. -/
def HasAt (p : Program) (start : Nat) (part : List Inst) : Prop :=
  ∀ k < part.length, p.code[start + k]? = part[k]?

theorem hasAt_cons {i : Inst} {part : List Inst} :
    p.HasAt start (i :: part) ↔ p.code[start]? = some i ∧ p.HasAt (start + 1) part := by
  constructor
  · intro h
    refine ⟨by simpa using h 0 (by simp), fun k hk => ?_⟩
    have := h (k + 1) (by simpa using hk)
    rwa [show start + (k + 1) = start + 1 + k by omega, List.getElem?_cons_succ] at this
  · rintro ⟨hi, h⟩ k hk
    cases k with
    | zero => simpa using hi
    | succ k =>
      rw [show start + (k + 1) = start + 1 + k by omega, List.getElem?_cons_succ]
      exact h k (by simpa using hk)

theorem hasAt_append {part rest : List Inst} :
    p.HasAt start (part ++ rest) ↔ p.HasAt start part ∧ p.HasAt (start + part.length) rest := by
  induction part generalizing start with
  | nil => simp [HasAt]
  | cons i part ih =>
    rw [List.cons_append, hasAt_cons, hasAt_cons, ih, List.length_cons, and_assoc,
      show start + 1 + part.length = start + (part.length + 1) by omega]

end Program

/-! ## Repeated parts -/

theorem length_copies {code : Nat → Nat → List Inst} {size : Nat}
    (h : ∀ s x, (code s x).length = size) (n start exit : Nat) :
    (copies code size n start exit).length = n * size := by
  induction n generalizing start with
  | zero => simp [copies]
  | succ n ih => rw [copies, List.length_append, h, ih, Nat.succ_mul, Nat.add_comm]

theorem length_optionalCopies {code : Nat → Nat → List Inst} {size : Nat} {greedy : Bool}
    (h : ∀ s x, (code s x).length = size) (n start exit : Nat) :
    (optionalCopies code size greedy n start exit).length = n * (size + 1) := by
  induction n generalizing start with
  | zero => simp [optionalCopies]
  | succ n ih =>
    simp only [optionalCopies, List.length_cons, List.length_append, h, ih, Nat.succ_mul]
    omega

section Copies

variable {p : Program} {code : Nat → Nat → List Inst} {size : Nat} {R : Cursor → Cursor → Prop}

/-- Copies in a row read one round each. Without any copy there is no way to go. -/
theorem reads_copies (hlen : ∀ s x, (code s x).length = size)
    (hcode : ∀ s x, p.HasAt s (code s x) → p.Reads s x R) {n start exit : Nat}
    (h : p.HasAt start (copies code size n start exit)) (h0 : n = 0 → start = exit) :
    p.Reads start exit (Rounds R n) := by
  induction n generalizing start with
  | zero =>
    obtain rfl := h0 rfl
    exact .refl p start
  | succ n ih =>
    rw [copies, Program.hasAt_append, hlen] at h
    obtain ⟨hfirst, hrest⟩ := h
    by_cases hn : n = 0
    · subst hn
      rw [if_pos rfl] at hfirst
      refine (hcode _ _ hfirst).congr fun c d => ?_
      simp [Rounds]
    · rw [if_neg hn] at hfirst
      exact (hcode _ _ hfirst).trans (ih hrest fun h => absurd h hn)

theorem reads_optionalCopies {greedy : Bool} (hlen : ∀ s x, (code s x).length = size)
    (hcode : ∀ s x, p.HasAt s (code s x) → p.Reads s x R) {n start exit : Nat}
    (h : p.HasAt start (optionalCopies code size greedy n start exit)) (h0 : n ≠ 0) :
    p.Reads start exit fun c d => ∃ k ≤ n, Rounds R k c d := by
  induction n generalizing start with
  | zero => exact absurd rfl h0
  | succ n ih =>
    simp only [optionalCopies, Program.hasAt_cons, Program.hasAt_append, hlen] at h
    obtain ⟨hi, hfirst, hrest⟩ := h
    have hbody : p.Reads (start + 1) exit fun c d => ∃ m, R c m ∧ ∃ k ≤ n, Rounds R k m d := by
      by_cases hn : n = 0
      · subst hn
        rw [if_pos rfl] at hfirst
        refine (hcode _ _ hfirst).congr fun c d => ?_
        simp [Rounds]
      · rw [if_neg hn] at hfirst
        exact (hcode _ _ hfirst).trans (ih hrest hn)
    refine (Program.reads_choice hi hbody).congr fun c d => ?_
    constructor
    · rintro (rfl | ⟨m, hcm, k, hk, hmd⟩)
      · exact ⟨0, Nat.zero_le _, rfl⟩
      · exact ⟨k + 1, by omega, m, hcm, hmd⟩
    · rintro ⟨k, hk, hcd⟩
      cases k with
      | zero => exact .inl hcd
      | succ k =>
        obtain ⟨m, hcm, hmd⟩ := hcd
        exact .inr ⟨m, hcm, k, by omega, hmd⟩

end Copies

/-! ## Rounds -/

section Rounds

variable {R : Cursor → Cursor → Prop} {c d : Cursor}

theorem rounds_add (n k : Nat) : Rounds R (n + k) c d ↔ ∃ m, Rounds R n c m ∧ Rounds R k m d := by
  induction n generalizing c with
  | zero => simp [Rounds]
  | succ n ih =>
    rw [Nat.succ_add]
    simp only [Rounds, ih]
    constructor
    · rintro ⟨a, hca, b, hab, hbd⟩
      exact ⟨b, ⟨a, hca, hab⟩, hbd⟩
    · rintro ⟨b, ⟨a, hca, hab⟩, hbd⟩
      exact ⟨a, hca, b, hab, hbd⟩

theorem exists_rounds_iff :
    (∃ n, Rounds R n c d) ↔ d = c ∨ ∃ m, R c m ∧ ∃ n, Rounds R n m d := by
  constructor
  · rintro ⟨n, hn⟩
    cases n with
    | zero => exact .inl hn
    | succ n =>
      obtain ⟨m, hcm, hmd⟩ := hn
      exact .inr ⟨m, hcm, n, hmd⟩
  · rintro (hcd | ⟨m, hcm, n, hmd⟩)
    · exact ⟨0, hcd⟩
    · exact ⟨n + 1, m, hcm, hmd⟩

theorem exists_rounds_ge (min : Nat) :
    (∃ n, min ≤ n ∧ Rounds R n c d) ↔ ∃ m, Rounds R min c m ∧ ∃ k, Rounds R k m d := by
  constructor
  · rintro ⟨n, hn, hcd⟩
    obtain ⟨k, rfl⟩ := Nat.exists_eq_add_of_le hn
    obtain ⟨m, hcm, hmd⟩ := (rounds_add min k).1 hcd
    exact ⟨m, hcm, k, hmd⟩
  · rintro ⟨m, hcm, k, hmd⟩
    exact ⟨min + k, Nat.le_add_right min k, (rounds_add min k).2 ⟨m, hcm, hmd⟩⟩

/-- From `min` to `max` rounds are `min` rounds and some of the others behind them. -/
theorem exists_rounds_between {min max : Nat} (h : min ≤ max) :
    (∃ n, (min ≤ n ∧ n ≤ max) ∧ Rounds R n c d) ↔
      ∃ m, Rounds R min c m ∧ ∃ k ≤ max - min, Rounds R k m d := by
  constructor
  · rintro ⟨n, ⟨hn, hn'⟩, hcd⟩
    obtain ⟨k, rfl⟩ := Nat.exists_eq_add_of_le hn
    obtain ⟨m, hcm, hmd⟩ := (rounds_add min k).1 hcd
    exact ⟨m, hcm, k, by omega, hmd⟩
  · rintro ⟨m, hcm, k, hk, hmd⟩
    exact ⟨min + k, ⟨by omega, by omega⟩, (rounds_add min k).2 ⟨m, hcm, hmd⟩⟩

end Rounds

namespace Expr

/-! ## Shape of the code -/

section Shape

variable {a b e : Expr} {greedy : Bool} {min max start exit i : Nat}

theorem code_cat : (cat a b).code start exit = a.code start (start + a.size) ++ b.code (start + a.size) exit := rfl

theorem code_alt : (alt a b).code start exit = .split (start + 1) (start + 1 + a.size) ::
    (a.code (start + 1) exit ++ b.code (start + 1 + a.size) exit) := rfl

theorem code_group : (group i e).code start exit = .save (2 * i) (start + 1) ::
    (e.code (start + 1) (start + 1 + e.size) ++ [.save (2 * i + 1) exit]) := rfl

theorem code_unbounded {hord : ∀ m ∈ none, 0 ≤ m} : (rep e ⟨0, none, hord⟩ greedy).code start exit =
    if e.nullable then
      .choice greedy (start + 2) exit :: .choice greedy (start + 2) exit :: e.code (start + 2) (start + 1)
    else .choice greedy (start + 1) exit :: e.code (start + 1) start := rfl

theorem code_atLeast {hord : ∀ m ∈ none, min + 1 ≤ m} : (rep e ⟨min + 1, none, hord⟩ greedy).code start exit =
    copies e.code e.size min start (start + min * e.size) ++
      e.code (start + min * e.size) (start + min * e.size + e.size) ++
        [.choice greedy (start + min * e.size) exit] := rfl

theorem code_between {hord : ∀ m ∈ some max, min ≤ m} : (rep e ⟨min, some max, hord⟩ greedy).code start exit =
    if max = 0 then [.jump exit]
    else copies e.code e.size min start (if max ≤ min then exit else start + min * e.size) ++
      optionalCopies e.code e.size greedy (max - min) (start + min * e.size) exit := by
  cases min <;> rfl

theorem size_cat : (cat a b).size = a.size + b.size := rfl

theorem size_alt : (alt a b).size = a.size + b.size + 1 := rfl

theorem size_group : (group i e).size = e.size + 2 := rfl

theorem size_unbounded {hord : ∀ m ∈ none, 0 ≤ m} : (rep e ⟨0, none, hord⟩ greedy).size =
    if e.nullable then e.size + 2 else e.size + 1 := rfl

theorem size_atLeast {hord : ∀ m ∈ none, min + 1 ≤ m} :
    (rep e ⟨min + 1, none, hord⟩ greedy).size = (min + 1) * e.size + 1 := rfl

theorem size_between {hord : ∀ m ∈ some max, min ≤ m} : (rep e ⟨min, some max, hord⟩ greedy).size =
    if max = 0 then 1 else min * e.size + (max - min) * (e.size + 1) := by
  cases min <;> rfl

end Shape

/-- An expression has as many instructions as `size` tells. -/
theorem length_code (e : Expr) (start exit : Nat) : (e.code start exit).length = e.size := by
  induction e generalizing start exit with
  | empty | chars _ | look _ => rfl
  | cat a b iha ihb => rw [code_cat, List.length_append, iha, ihb, size_cat]
  | alt a b iha ihb => simp only [code_alt, List.length_cons, List.length_append, iha, ihb, size_alt]
  | rep e count greedy ih =>
    obtain ⟨min, max, hord⟩ := count
    rcases max with _ | max
    · cases min with
      | zero => rw [code_unbounded, size_unbounded]; split <;> simp [ih]
      | succ min =>
        simp only [code_atLeast, size_atLeast, List.length_append, length_copies ih, ih,
          List.length_singleton, Nat.succ_mul]
    · rw [code_between, size_between]
      split
      · rfl
      · rw [List.length_append, length_copies ih, length_optionalCopies ih]
  | group i e ih => simp only [code_group, List.length_cons, List.length_append, ih, size_group]; rfl

variable {p : Program}

section Repetition

variable {e : Expr} {greedy : Bool} {start exit : Nat}
  (he : ∀ {start exit}, p.HasAt start (e.code start exit) → p.Reads start exit e.Matches)

include he

/-- Without bounds: the loop, whose first round is apart if it may be empty. -/
theorem reads_unbounded (hord : ∀ m ∈ none, 0 ≤ m)
    (h : p.HasAt start ((rep e ⟨0, none, hord⟩ greedy).code start exit)) :
    p.Reads start exit fun c d => ∃ n, Rounds e.Matches n c d := by
  rw [code_unbounded] at h
  split at h
  · simp only [Program.hasAt_cons] at h
    obtain ⟨henter, hagain, hbody⟩ := h
    have hround := he hbody
    have hloop := Program.reads_loop hagain hround
    exact (Program.reads_choice henter (hround.trans hloop)).congr fun c d => exists_rounds_iff.symm
  · rw [Program.hasAt_cons] at h
    exact Program.reads_loop h.1 (he h.2)

/-- With a least number alone: the copies before the last, the last and the choice to go back to it. -/
theorem reads_atLeast {min : Nat} (hord : ∀ m ∈ none, min + 1 ≤ m)
    (h : p.HasAt start ((rep e ⟨min + 1, none, hord⟩ greedy).code start exit)) :
    p.Reads start exit fun c d => ∃ n, min + 1 ≤ n ∧ Rounds e.Matches n c d := by
  simp only [code_atLeast, Program.hasAt_append, length_copies (length_code e), length_code,
    Program.hasAt_cons, List.length_append, ← Nat.add_assoc] at h
  obtain ⟨⟨hcopies, hbody⟩, hagain, -⟩ := h
  have hfirst := reads_copies (length_code e) (fun s x => he) hcopies (by rintro rfl; simp)
  have hlast := he hbody
  refine (hfirst.trans (hlast.trans (Program.reads_loop hagain hlast))).congr fun c d => ?_
  rw [exists_rounds_ge]
  constructor
  · rintro ⟨a, hca, m, ham, hmd⟩
    exact ⟨m, (rounds_add min 1).2 ⟨a, hca, m, ham, rfl⟩, hmd⟩
  · rintro ⟨m, hcm, hmd⟩
    obtain ⟨a, hca, _, ham, rfl⟩ := (rounds_add min 1).1 hcm
    exact ⟨a, hca, _, ham, hmd⟩

/-- With both bounds: the copies that are needed, and the optional ones. -/
theorem reads_between {min max : Nat} (hord : ∀ m ∈ some max, min ≤ m)
    (h : p.HasAt start ((rep e ⟨min, some max, hord⟩ greedy).code start exit)) :
    p.Reads start exit fun c d => ∃ n, (min ≤ n ∧ n ≤ max) ∧ Rounds e.Matches n c d := by
  have hmin : min ≤ max := hord max rfl
  rw [code_between] at h
  split at h
  · next hmax =>
    -- No round at all.
    subst hmax
    obtain rfl := Nat.le_zero.1 hmin
    refine Program.reads_inst (Program.hasAt_cons.1 h).1 (by simp) fun c next d => ?_
    simp [Inst.Goes, Rounds]
  · next hmax =>
    rw [Program.hasAt_append, length_copies (length_code e)] at h
    obtain ⟨hcopies, hoptional⟩ := h
    simp only [exists_rounds_between hmin]
    by_cases hle : max ≤ min
    · rw [if_pos hle] at hcopies
      refine (reads_copies (length_code e) (fun s x => he) hcopies (by omega)).congr fun c d => ?_
      simp [Nat.sub_eq_zero_of_le hle, Rounds]
    · rw [if_neg hle] at hcopies
      have hfirst := reads_copies (length_code e) (fun s x => he) hcopies (by rintro rfl; simp)
      exact hfirst.trans (reads_optionalCopies (length_code e) (fun s x => he) hoptional (by omega))

end Repetition

/-- The code of an expression reads what the expression matches. -/
theorem reads_code (e : Expr) {start exit : Nat} (h : p.HasAt start (e.code start exit)) :
    p.Reads start exit e.Matches := by
  induction e generalizing start exit with
  | empty =>
    exact Program.reads_inst (Program.hasAt_cons.1 h).1 (by simp) fun c next d => by
      simp [Inst.Goes, Matches]
  | chars set =>
    exact Program.reads_inst (Program.hasAt_cons.1 h).1 (by simp) fun c next d => Iff.rfl
  | look cond =>
    exact Program.reads_inst (Program.hasAt_cons.1 h).1 (by simp) fun c next d => Iff.rfl
  | cat a b iha ihb =>
    rw [code_cat, Program.hasAt_append, length_code] at h
    exact (iha h.1).trans (ihb h.2)
  | alt a b iha ihb =>
    rw [code_alt, Program.hasAt_cons, Program.hasAt_append, length_code] at h
    obtain ⟨hi, ha, hb⟩ := h
    exact Program.reads_split hi (iha ha) (ihb hb)
  | group i e ih =>
    rw [code_group, Program.hasAt_cons, Program.hasAt_append, length_code, Program.hasAt_cons] at h
    obtain ⟨hopen, hbody, hclose, -⟩ := h
    have hsave : ∀ {slot a b : Nat}, p.code[a]? = some (.save slot b) →
        p.Reads a b fun c d => d = c := fun hi =>
      Program.reads_inst hi (by simp) fun c next d => Iff.rfl
    refine ((hsave hopen).trans ((ih hbody).trans (hsave hclose))).congr fun c d => ?_
    simp [Matches]
  | rep e count greedy ih =>
    obtain ⟨min, max, hord⟩ := count
    rcases max with _ | max
    · cases min with
      | zero => exact (reads_unbounded ih hord h).congr fun c d => by simp [Matches, Count.Allows]
      | succ min => exact (reads_atLeast ih hord h).congr fun c d => by simp [Matches, Count.Allows]
    · exact (reads_between ih hord h).congr fun c d => by simp [Matches, Count.Allows]

/-- The program of an expression accepts where a match of the expression ends. -/
theorem ends_program (e : Expr) (c d : Cursor) : e.program.Ends 0 c d ↔ e.Matches c d := by
  have hcode : e.program.HasAt 0 (e.code 0 e.size ++ [.accept]) := by
    intro k _
    simp [program]
  rw [Program.hasAt_append, length_code, Nat.zero_add] at hcode
  have hreads := reads_code e hcode.1 d
  have haccept := (Program.hasAt_cons.1 hcode.2).1
  constructor
  · rintro ⟨n, hn⟩
    obtain ⟨m, hm, k, -, hk⟩ := hreads.2 n c hn
    cases k with
    | zero => exact hk.2 ▸ hm
    | succ k =>
      obtain ⟨i, hi, next, place, hg, -⟩ := hk
      obtain rfl := Option.some.inj (haccept.symm.trans hi)
      exact hg.elim
  · intro hm
    exact hreads.1 c d hm (Program.ends_of_accept haccept d)

/-- The program of an expression accepts from a place where the expression matches. -/
theorem accepts_program (e : Expr) (c : Cursor) : e.program.Accepts 0 c ↔ ∃ d, e.Matches c d :=
  exists_congr fun d => ends_program e c d

end Expr

/-! ## Addresses -/

def Inst.targets : Inst → List Nat
  | take _ next => [next]
  | test _ next => [next]
  | split fst snd => [fst, snd]
  | jump next => [next]
  | save _ next => [next]
  | accept => []

theorem Inst.Goes.mem_targets {i : Inst} {c d : Cursor} {pc : Nat} (h : i.Goes c pc d) :
    pc ∈ i.targets := by
  cases i with
  | accept => exact h.elim
  | split fst snd => simpa [targets] using h.1
  | take _ _ | test _ _ | jump _ | save _ _ => simpa [targets] using h.1

/-- The instructions go on at `exit` or from `lo` up to `hi`. -/
def Within (lo hi exit : Nat) (part : List Inst) : Prop :=
  ∀ i ∈ part, ∀ t ∈ i.targets, t = exit ∨ (lo ≤ t ∧ t < hi)

section Within

variable {lo hi exit : Nat}

theorem within_cons {i : Inst} {part : List Inst} :
    Within lo hi exit (i :: part) ↔
      (∀ t ∈ i.targets, t = exit ∨ (lo ≤ t ∧ t < hi)) ∧ Within lo hi exit part :=
  List.forall_mem_cons

theorem within_append {part rest : List Inst} :
    Within lo hi exit (part ++ rest) ↔ Within lo hi exit part ∧ Within lo hi exit rest :=
  List.forall_mem_append

theorem Within.mono {lo' hi' exit' : Nat} {part : List Inst} (h : Within lo hi exit part)
    (hlo : lo' ≤ lo) (hhi : hi ≤ hi') (hexit : exit = exit' ∨ (lo' ≤ exit ∧ exit < hi')) :
    Within lo' hi' exit' part := by
  intro i hi t ht
  rcases h i hi t ht with rfl | h
  · exact hexit
  · exact .inr ⟨by omega, by omega⟩

theorem targets_choice {greedy : Bool} {inside outside t : Nat} :
    t ∈ (Inst.choice greedy inside outside).targets ↔ t = inside ∨ t = outside := by
  cases greedy <;> simp [Inst.choice, Inst.targets, or_comm]

variable {code : Nat → Nat → List Inst} {size : Nat}

theorem within_copies (hsize : 0 < size) (hcode : ∀ s x, Within s (s + size) x (code s x))
    (n start exit : Nat) : Within start (start + n * size) exit (copies code size n start exit) := by
  induction n generalizing start with
  | zero => simp [copies, Within]
  | succ n ih =>
    rw [copies, within_append, Nat.succ_mul]
    refine ⟨(hcode _ _).mono (Nat.le_refl _) (by omega) ?_, (ih _).mono (by omega) (by omega) (.inl rfl)⟩
    split
    · exact .inl rfl
    · have : 0 < n * size := Nat.mul_pos (by omega) hsize
      exact .inr ⟨by omega, by omega⟩

theorem within_optionalCopies {greedy : Bool} (hsize : 0 < size)
    (hcode : ∀ s x, Within s (s + size) x (code s x)) (n start exit : Nat) :
    Within start (start + n * (size + 1)) exit (optionalCopies code size greedy n start exit) := by
  induction n generalizing start with
  | zero => simp [optionalCopies, Within]
  | succ n ih =>
    simp only [optionalCopies, within_cons, within_append, targets_choice, Nat.succ_mul]
    refine ⟨?_, (hcode _ _).mono (by omega) (by omega) ?_,
      (ih _).mono (by omega) (by omega) (.inl rfl)⟩
    · rintro t (rfl | rfl)
      · exact .inr ⟨by omega, by omega⟩
      · exact .inl rfl
    · split
      · exact .inl rfl
      · have : 0 < n * (size + 1) := Nat.mul_pos (by omega) (by omega)
        exact .inr ⟨by omega, by omega⟩

end Within

namespace Expr

theorem size_pos (e : Expr) : 0 < e.size := by
  induction e with
  | empty | chars _ | look _ => exact Nat.one_pos
  | cat _ _ iha _ => rw [size_cat]; omega
  | alt _ _ _ _ => rw [size_alt]; omega
  | group _ _ _ => rw [size_group]; omega
  | rep e count _ ih =>
    obtain ⟨min, max, hord⟩ := count
    rcases max with _ | max
    · cases min with
      | zero => rw [size_unbounded]; split <;> omega
      | succ min => rw [size_atLeast]; omega
    · have hmin : min ≤ max := hord max rfl
      rw [size_between]
      split
      · omega
      · rcases Nat.eq_zero_or_pos min with rfl | hpos
        · have : 0 < (max - 0) * (e.size + 1) := Nat.mul_pos (by omega) (by omega)
          omega
        · have : 0 < min * e.size := Nat.mul_pos hpos ih
          omega

/-- The instructions of an expression go on within its code or at its exit. -/
theorem within_code (e : Expr) (start exit : Nat) :
    Within start (start + e.size) exit (e.code start exit) := by
  induction e generalizing start exit with
  | empty | chars _ | look _ => exact within_cons.2 ⟨by simp [Inst.targets], by simp [Within]⟩
  | cat a b iha ihb =>
    have hb := b.size_pos
    rw [code_cat, within_append, size_cat]
    exact ⟨(iha _ _).mono (by omega) (by omega) (.inr ⟨by omega, by omega⟩),
      (ihb _ _).mono (by omega) (by omega) (.inl rfl)⟩
  | alt a b iha ihb =>
    have ha := a.size_pos
    have hb := b.size_pos
    simp only [code_alt, within_cons, within_append, Inst.targets, List.forall_mem_cons, size_alt]
    exact ⟨⟨.inr ⟨by omega, by omega⟩, .inr ⟨by omega, by omega⟩, by simp⟩,
      (iha _ _).mono (by omega) (by omega) (.inl rfl), (ihb _ _).mono (by omega) (by omega) (.inl rfl)⟩
  | group i e ih =>
    simp only [code_group, within_cons, within_append, Inst.targets, List.forall_mem_cons, size_group]
    exact ⟨⟨.inr ⟨by omega, by omega⟩, by simp⟩,
      (ih _ _).mono (by omega) (by omega) (.inr ⟨by omega, by omega⟩), by simp, by simp [Within]⟩
  | rep e count greedy ih =>
    have he := e.size_pos
    obtain ⟨min, max, hord⟩ := count
    rcases max with _ | max
    · cases min with
      | zero =>
        rw [code_unbounded, size_unbounded]
        split
        · simp only [within_cons, targets_choice]
          refine ⟨?_, ?_, (ih _ _).mono (by omega) (by omega) (.inr ⟨by omega, by omega⟩)⟩
          all_goals
            rintro t (rfl | rfl)
            · exact .inr ⟨by omega, by omega⟩
            · exact .inl rfl
        · simp only [within_cons, targets_choice]
          refine ⟨?_, (ih _ _).mono (by omega) (by omega) (.inr ⟨by omega, by omega⟩)⟩
          rintro t (rfl | rfl)
          · exact .inr ⟨by omega, by omega⟩
          · exact .inl rfl
      | succ min =>
        simp only [code_atLeast, size_atLeast, within_append, within_cons, targets_choice, Nat.succ_mul]
        refine ⟨⟨(within_copies he ih _ _ _).mono (by omega) (by omega) (.inr ⟨by omega, by omega⟩),
          (ih _ _).mono (by omega) (by omega) (.inr ⟨by omega, by omega⟩)⟩, ?_, by simp [Within]⟩
        rintro t (rfl | rfl)
        · exact .inr ⟨by omega, by omega⟩
        · exact .inl rfl
    · have hmin : min ≤ max := hord max rfl
      rw [code_between, size_between]
      split
      · simp [Within, Inst.targets]
      · rw [within_append]
        refine ⟨(within_copies he ih _ _ _).mono (by omega) (by omega) ?_,
          (within_optionalCopies he ih _ _ _).mono (by omega) (by omega) (.inl rfl)⟩
        split
        · exact .inl rfl
        · have : 0 < (max - min) * (e.size + 1) := Nat.mul_pos (by omega) (by omega)
          exact .inr ⟨by omega, by omega⟩

theorem lt_size_of_goes {e : Expr} {i : Inst} {pc next : Nat} {c d : Cursor}
    (hi : e.program.code[pc]? = some i) (hg : i.Goes c next d) : next < e.program.code.size := by
  have hmem : i ∈ e.code 0 e.size ++ [.accept] :=
    List.mem_of_getElem? (by rw [← hi, program, List.getElem?_toArray])
  have hsize : e.program.code.size = e.size + 1 := by simp [program, length_code]
  rcases List.mem_append.1 hmem with hmem | hmem
  · rcases e.within_code 0 e.size i hmem next hg.mem_targets with h | h <;> omega
  · rw [List.mem_singleton.1 hmem] at hg
    exact hg.elim

end Expr

end TextPattern
