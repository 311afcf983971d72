import Mathlib.Data.List.Basic
import Mathlib.Order.Basic
import TextPattern.Match.Look

/-!
# What an expression matches

* `Expr.Matches e c d` : the expression can match the text from the place `c` to the place `d`,
  whatever the preferences among its matches;
* `Expr.Covers e text` : it can match the whole of a text;
* `Expr.InTurn es c d` : the expressions match one behind the other;
* `matches_concat`, `matches_repetition`, `matches_alternation` : the constructors that simplify keep
  the meaning.
-/

namespace TextPattern

theorem Cursor.next?_eq_some {c d : Cursor} {a : Char} :
    c.next? = some (a, d) ↔ ∃ rest, c.rest = a :: rest ∧ d = ⟨some a, rest, c.offset + a.utf8Size⟩ := by
  unfold Cursor.next?
  cases c.rest with
  | nil => simp
  | cons b rest =>
    constructor
    · intro h
      obtain ⟨rfl, rfl⟩ := Prod.mk.inj (Option.some.inj h)
      exact ⟨rest, rfl, rfl⟩
    · rintro ⟨_, ⟨⟩, rfl⟩
      rfl

/-- `n` steps of a relation between places. -/
def Rounds (R : Cursor → Cursor → Prop) : Nat → Cursor → Cursor → Prop
  | 0, c, d => d = c
  | n + 1, c, d => ∃ m, R c m ∧ Rounds R n m d

/-- A repetition may take its operand `n` times. -/
def Count.Allows (count : Count) (n : Nat) : Prop := count.min ≤ n ∧ ∀ m ∈ count.max, n ≤ m

namespace Expr

/-- The expression can match the text from `c` to `d`. Conditions are decided by the whole text. -/
def Matches : Expr → Cursor → Cursor → Prop
  | empty, c, d => d = c
  | chars set, c, d => ∃ a, c.next? = some (a, d) ∧ set.contains a = true
  | look cond, c, d => d = c ∧ cond.holds c = true
  | cat a b, c, d => ∃ m, a.Matches c m ∧ b.Matches m d
  | alt a b, c, d => a.Matches c d ∨ b.Matches c d
  | rep e count _, c, d => ∃ n, count.Allows n ∧ Rounds e.Matches n c d
  | group _ e, c, d => e.Matches c d

/-- The expression can match a text from its start to its end. -/
def Covers (e : Expr) (text : List Char) : Prop := ∃ d, e.Matches (.ofText text) d ∧ d.rest = []

/-! ## Concatenation -/

/-- The expressions match one behind the other from `c` to `d`. -/
def InTurn : List Expr → Cursor → Cursor → Prop
  | [], c, d => d = c
  | e :: es, c, d => ∃ m, e.Matches c m ∧ InTurn es m d

variable {c d : Cursor}

theorem inTurn_append (es fs : List Expr) :
    InTurn (es ++ fs) c d ↔ ∃ m, InTurn es c m ∧ InTurn fs m d := by
  induction es generalizing c with
  | nil => simp [InTurn]
  | cons e es ih =>
    simp only [List.cons_append, InTurn, ih]
    constructor
    · rintro ⟨m, he, k, hes, hfs⟩
      exact ⟨k, ⟨m, he, hes⟩, hfs⟩
    · rintro ⟨k, ⟨m, he, hes⟩, hfs⟩
      exact ⟨m, he, k, hes, hfs⟩

theorem inTurn_singleton (e : Expr) : InTurn [e] c d ↔ e.Matches c d := by
  simp [InTurn]

theorem inTurn_factors (e : Expr) : InTurn e.factors c d ↔ e.Matches c d := by
  induction e generalizing c with
  | empty => rfl
  | cat a b _ ihb => simp only [factors, InTurn, Matches, ihb]
  | chars _ | look _ | alt _ _ _ _ | rep _ _ _ _ | group _ _ _ => exact inTurn_singleton _

theorem matches_ofFactors (es : List Expr) : (ofFactors es).Matches c d ↔ InTurn es c d := by
  induction es generalizing c with
  | nil => rfl
  | cons e es ih =>
    cases es with
    | nil => exact (inTurn_singleton e).symm
    | cons f es => simp only [ofFactors, Matches, InTurn] at ih ⊢; simp only [ih]

theorem inTurn_flatMap_factors (es : List Expr) : InTurn (es.flatMap factors) c d ↔ InTurn es c d := by
  induction es generalizing c with
  | nil => rfl
  | cons e es ih => simp only [List.flatMap_cons, inTurn_append, inTurn_factors, InTurn, ih]

/-- A concatenation matches what its operands match one behind the other. -/
theorem matches_concat (es : List Expr) : (concat es).Matches c d ↔ InTurn es c d := by
  rw [concat, matches_ofFactors, inTurn_flatMap_factors]

/-! ## Repetition -/

theorem rounds_stay {R : Cursor → Cursor → Prop} (hR : ∀ c d, R c d → d = c) {n : Nat} (hn : 0 < n) :
    Rounds R n c d ↔ d = c ∧ R c c := by
  induction n generalizing c with
  | zero => omega
  | succ n ih =>
    simp only [Rounds]
    constructor
    · rintro ⟨m, hm, hrest⟩
      obtain rfl := hR c m hm
      cases n with
      | zero => exact ⟨hrest, hm⟩
      | succ n => exact ⟨((ih (by omega)).1 hrest).1, hm⟩
    · rintro ⟨rfl, hc⟩
      refine ⟨d, hc, ?_⟩
      cases n with
      | zero => rfl
      | succ n => exact (ih (by omega)).2 ⟨rfl, hc⟩

theorem stays_of_zeroWidth {e : Expr} (h : e.zeroWidth = true) : ∀ c d, e.Matches c d → d = c := by
  induction e with
  | empty => exact fun _ _ hm => hm
  | chars _ => simp [zeroWidth] at h
  | look _ => exact fun _ _ hm => hm.1
  | cat a b iha ihb =>
    simp only [zeroWidth, Bool.and_eq_true] at h
    rintro c d ⟨m, ha, hb⟩
    rw [ihb h.2 m d hb, iha h.1 c m ha]
  | alt a b iha ihb =>
    simp only [zeroWidth, Bool.and_eq_true] at h
    rintro c d (ha | hb)
    · exact iha h.1 c d ha
    · exact ihb h.2 c d hb
  | rep e count _ ih =>
    rintro c d ⟨n, -, hn⟩
    cases n with
    | zero => exact hn
    | succ n => exact ((rounds_stay (ih h) (by omega)).1 hn).1
  | group _ e ih => exact ih h

theorem exists_allowed_capped {P : Nat → Prop} (hP : ∀ n, 0 < n → (P n ↔ P 1)) (count : Count) :
    (∃ n, count.capped.Allows n ∧ P n) ↔ ∃ n, count.Allows n ∧ P n := by
  have hord := count.ordered
  simp only [Count.Allows, Count.capped, Option.mem_some_iff, forall_eq']
  constructor
  · rintro ⟨n, ⟨hmin, hmax⟩, hn⟩
    rcases Nat.eq_zero_or_pos n with rfl | hpos
    · refine ⟨0, ⟨?_, by simp⟩, hn⟩
      split at hmin <;> omega
    · -- A positive number of rounds is allowed: the least one, or a single round.
      have hne : count.max ≠ some 0 := by
        rintro h0
        rw [if_pos h0] at hmax
        omega
      refine ⟨max count.min 1, ⟨by omega, fun m hm => ?_⟩, (hP _ (by omega)).2 ((hP n hpos).1 hn)⟩
      have := hord m hm
      have : m ≠ 0 := by rintro rfl; exact hne hm
      omega
  · rintro ⟨n, ⟨hmin, hmax⟩, hn⟩
    rcases Nat.eq_zero_or_pos n with rfl | hpos
    · exact ⟨0, ⟨by simp; omega, by omega⟩, hn⟩
    · refine ⟨1, ⟨by split <;> omega, ?_⟩, (hP n hpos).1 hn⟩
      split
      · rename_i h0
        have := hmax 0 h0
        omega
      · exact Nat.le_refl 1

theorem matches_repetition (e : Expr) (count : Count) (greedy : Bool) :
    (repetition e count greedy).Matches c d ↔ (rep e count greedy).Matches c d := by
  have key : (repetition e count greedy).Matches c d ↔
      (rep e (if e.zeroWidth then count.capped else count) greedy).Matches c d := by
    unfold repetition
    generalize (if e.zeroWidth = true then count.capped else count) = k
    have hord := k.ordered
    simp only [Matches, Count.Allows]
    split
    · rename_i h0
      have hmin := hord 0 h0
      constructor
      · rintro rfl
        exact ⟨0, ⟨hmin, by simp⟩, rfl⟩
      · rintro ⟨n, ⟨-, hn⟩, hr⟩
        obtain rfl : n = 0 := Nat.le_zero.1 (hn 0 h0)
        exact hr
    · split
      · rename_i h1
        constructor
        · intro hm
          exact ⟨1, ⟨Nat.le_of_eq h1.1, by simp [h1.2]⟩, d, hm, rfl⟩
        · rintro ⟨n, ⟨hmin, hn⟩, hr⟩
          obtain rfl : n = 1 := by have := hn 1 h1.2; omega
          obtain ⟨m, hm, rfl⟩ := hr
          exact hm
      · rfl
  rw [key]
  split
  · rename_i hz
    exact exists_allowed_capped (fun n hn => by
      rw [rounds_stay (stays_of_zeroWidth hz) hn, rounds_stay (stays_of_zeroWidth hz) (by omega)]) count
  · rfl

/-! ## Alternation -/

theorem matches_ofBranches (es : List Expr) : (ofBranches es).Matches c d ↔ ∃ e ∈ es, e.Matches c d := by
  induction es with
  | nil => simp [ofBranches, Matches, CharSet.contains]
  | cons e es ih =>
    cases es with
    | nil => simp [ofBranches]
    | cons f es => simp only [ofBranches, Matches, ih, List.mem_cons, exists_eq_or_imp]

theorem exists_branches (e : Expr) : (∃ b ∈ e.branches, b.Matches c d) ↔ e.Matches c d := by
  induction e with
  | alt a b _ ihb => simp only [branches, List.mem_cons, exists_eq_or_imp, Matches, ihb]
  | empty | chars _ | look _ | cat _ _ _ _ | rep _ _ _ _ | group _ _ _ => simp [branches]

theorem exists_flatMap_branches (es : List Expr) :
    (∃ b ∈ es.flatMap branches, b.Matches c d) ↔ ∃ e ∈ es, e.Matches c d := by
  simp only [List.mem_flatMap]
  constructor
  · rintro ⟨b, ⟨e, he, hb⟩, hm⟩
    exact ⟨e, he, (exists_branches e).1 ⟨b, hb, hm⟩⟩
  · rintro ⟨e, he, hm⟩
    obtain ⟨b, hb, hm⟩ := (exists_branches e).2 hm
    exact ⟨b, ⟨e, he, hb⟩, hm⟩

theorem eq_chars_of_mapM {es : List Expr} {sets : List CharSet} (h : es.mapM charSet? = some sets) :
    es = sets.map chars := by
  induction es generalizing sets with
  | nil => simp_all
  | cons e es ih =>
    simp only [List.mapM_cons, Option.bind_eq_bind, Option.bind_eq_some_iff, Option.pure_def,
      Option.some.injEq] at h
    obtain ⟨s, hs, rest, hrest, rfl⟩ := h
    rw [List.map_cons, ← ih hrest]
    cases e <;> simp_all [charSet?]

/-- An alternation of flat branches matches what one of them matches. -/
theorem matches_alternationOf (es : List Expr) :
    (alternationOf es).Matches c d ↔ ∃ e ∈ es, e.Matches c d := by
  unfold alternationOf
  split
  · rename_i sets hsets
    split
    · rw [eq_chars_of_mapM hsets]
      simp only [Matches, CharSet.contains, CharSet.mem_unions, List.any_eq_true, List.mem_map]
      constructor
      · rintro ⟨a, hnext, s, hs, ha⟩
        exact ⟨chars s, ⟨s, hs, rfl⟩, a, hnext, ha⟩
      · rintro ⟨_, ⟨s, hs, rfl⟩, a, hnext, ha⟩
        exact ⟨a, hnext, s, hs, ha⟩
    · exact matches_ofBranches es
  · exact matches_ofBranches es

theorem flatten_segments (es : List Expr) : (segments es).flatten = es := by
  induction es with
  | nil => rfl
  | cons e es ih =>
    rw [segments]
    split
    · rename_i f run rest heq
      rw [heq] at ih
      split <;> simp_all
    · rename_i hrest
      simp [ih]

theorem commonPrefix_starts : ∀ xs ys : List (List Expr),
    commonPrefix xs ys <+: xs ∧ commonPrefix xs ys <+: ys
  | [], _ => by simp [commonPrefix]
  | _ :: _, [] => by simp [commonPrefix]
  | x :: xs, y :: ys => by
    rw [commonPrefix]
    split
    · rename_i hxy
      subst hxy
      have ih := commonPrefix_starts xs ys
      exact ⟨(List.prefix_cons_inj x).2 ih.1, (List.prefix_cons_inj x).2 ih.2⟩
    · simp

theorem foldl_commonPrefix (rest : List (List (List Expr))) (first : List (List Expr)) :
    rest.foldl commonPrefix first <+: first ∧ ∀ s ∈ rest, rest.foldl commonPrefix first <+: s := by
  induction rest generalizing first with
  | nil => simp
  | cons s rest ih =>
    obtain ⟨hfirst, hrest⟩ := ih (commonPrefix first s)
    have hboth := commonPrefix_starts first s
    refine ⟨hfirst.trans hboth.1, fun t ht => ?_⟩
    rcases List.mem_cons.1 ht with rfl | ht
    · exact hfirst.trans hboth.2
    · exact hrest t ht

/-- The segments that are taken out start every branch. -/
theorem sharedPrefix?_starts {es : List Expr} {common : List (List Expr)}
    (h : sharedPrefix? es = some common) : ∀ e ∈ es, common <+: segments e.factors := by
  unfold sharedPrefix? at h
  split at h
  · simp at h
  · rename_i first rest hmap
    simp only at h
    split at h
    · split at h
      · simp at h
      · obtain rfl := Option.some.inj h
        obtain ⟨hfirst, hrest⟩ := foldl_commonPrefix rest first
        intro e he
        have : segments e.factors ∈ first :: rest := hmap ▸ List.mem_map_of_mem he
        rcases List.mem_cons.1 this with heq | hmem
        · exact heq ▸ hfirst
        · exact hrest _ hmem
    · simp at h

theorem matches_of_starts {e : Expr} {common : List (List Expr)} (h : common <+: segments e.factors) :
    e.Matches c d ↔ ∃ m, InTurn common.flatten c m ∧
      (ofFactors ((segments e.factors).drop common.length).flatten).Matches m d := by
  obtain ⟨rest, hrest⟩ := h
  have hfactors : e.factors = common.flatten ++ rest.flatten := by
    rw [← List.flatten_append, hrest, flatten_segments]
  rw [← hrest, List.drop_left, ← inTurn_factors, hfactors, inTurn_append]
  simp only [matches_ofFactors]

/-- An alternation matches what one of its operands matches. -/
theorem matches_alternationFrom (fuel : Nat) (es : List Expr) :
    (alternationFrom fuel es).Matches c d ↔ ∃ e ∈ es, e.Matches c d := by
  induction fuel generalizing es c d with
  | zero => exact matches_alternationOf es
  | succ fuel ih =>
    rw [alternationFrom, ← exists_flatMap_branches es]
    generalize es.flatMap branches = flat
    split
    · exact matches_alternationOf flat
    · exact matches_alternationOf flat
    · rename_i common _ hcommon
      have hstarts := sharedPrefix?_starts hcommon
      split
      · simp only [matches_concat, InTurn, matches_ofFactors, ih]
        constructor
        · rintro ⟨m, hm, k, ⟨f, hf, hrest⟩, rfl⟩
          obtain ⟨e, he, rfl⟩ := List.mem_map.1 hf
          exact ⟨e, he, (matches_of_starts (hstarts e he)).2 ⟨m, hm, hrest⟩⟩
        · rintro ⟨e, he, hmatch⟩
          obtain ⟨m, hm, hrest⟩ := (matches_of_starts (hstarts e he)).1 hmatch
          exact ⟨m, hm, d, ⟨_, List.mem_map_of_mem he, hrest⟩, rfl⟩
      · exact matches_alternationOf flat

theorem matches_alternation (es : List Expr) :
    (alternation es).Matches c d ↔ ∃ e ∈ es, e.Matches c d :=
  matches_alternationFrom _ es

end Expr

end TextPattern
