import Mathlib.Data.List.Basic
import TextPattern.Sample.Generate

/-!
# Where a pass replaces

* `Stands opens? free mark text` : the mark stands at an open place of the text, `occursFree_iff` : which is
  what a search finds out;
* `Passed open? adjacent mark value free text out` : what one pass over a text does, `replaceFrom_passed` : which
  is what the passes do;
* `Replaced mark value places text out` : a text with a value in place of a mark at some of its places, told
  by what is counted in it;
* `replaceAll_replaced`, `exhaust_replaced` : what the passes over a text do to it, whatever it is.
-/

namespace TextPattern.Sample

/-! ## Open places -/

/-- The mark stands in the text behind a character that opens a place, or at the start if that is `free`. -/
def Stands (open? : Char → Bool) (free : Bool) (mark text : List Char) : Prop :=
  ∃ left right, text = left ++ mark ++ right ∧ left.getLast?.elim free open? = true

section Stands

variable {open? : Char → Bool} {free : Bool} {mark text rest : List Char}

theorem elim_getLast?_cons (c : Char) (left : List Char) :
    (c :: left).getLast?.elim free open? = left.getLast?.elim (open? c) open? := by
  cases left with
  | nil => rfl
  | cons d left => rw [List.getLast?_cons_cons, List.getLast?_cons, Option.elim_some, Option.elim_some]

theorem not_stands_nil (hmark : mark ≠ []) : ¬ Stands open? free mark [] := by
  rintro ⟨left, right, htext, -⟩
  have hempty := (List.append_eq_nil_iff.1 htext.symm).1
  exact hmark (List.append_eq_nil_iff.1 hempty).2

theorem stands_cons {c : Char} : Stands open? free mark (c :: rest) ↔
    (free = true ∧ mark <+: c :: rest) ∨ Stands open? (open? c) mark rest := by
  constructor
  · rintro ⟨left, right, htext, hopen⟩
    cases left with
    | nil => exact .inl ⟨hopen, right, htext.symm⟩
    | cons d left =>
      obtain ⟨rfl, hrest⟩ := List.cons.inj htext
      rw [elim_getLast?_cons] at hopen
      exact .inr ⟨left, right, hrest, hopen⟩
  · rintro (⟨hfree, right, htext⟩ | ⟨left, right, rfl, hopen⟩)
    · exact ⟨[], right, htext.symm, hfree⟩
    · exact ⟨c :: left, right, rfl, by rwa [elim_getLast?_cons]⟩

/-- Where every place is open, a mark stands in a text that it is a part of. -/
theorem stands_everywhere : Stands (fun _ => true) true mark text ↔ mark <:+: text := by
  constructor
  · rintro ⟨left, right, htext, -⟩
    exact ⟨left, right, htext.symm⟩
  · rintro ⟨left, right, htext⟩
    refine ⟨left, right, htext.symm, ?_⟩
    cases left.getLast? <;> rfl

theorem Stands.of_append {sign : List Char} (h : Stands open? free (mark ++ sign) text) :
    Stands open? free mark text := by
  obtain ⟨left, right, htext, hopen⟩ := h
  exact ⟨left, sign ++ right, by rw [htext]; simp, hopen⟩

theorem occursFrom_iff (hmark : mark ≠ []) : occursFrom mark free text = true ↔ Stands opens free mark text := by
  induction text generalizing free with
  | nil => exact iff_of_false Bool.false_ne_true (not_stands_nil hmark)
  | cons c rest ih =>
    rw [stands_cons, ← ih, ← List.isPrefixOf_iff_prefix, ← Bool.and_eq_true_iff, occursFrom]
    split
    · next h => exact iff_of_true rfl (.inl h)
    · next h => exact (or_iff_right h).symm

/-- A search finds a mark that stands where no backslash is before it. -/
theorem occursFree_iff (hmark : mark ≠ []) : occursFree mark text = true ↔ Stands opens true mark text :=
  occursFrom_iff hmark

theorem tokenMark_ne_nil (t : Token) (a : Amount) : t.mark ++ a.sign ≠ [] := by
  cases t <;> simp [Token.mark]

end Stands

/-! ## One pass -/

/-- What a pass over a text does, at a place that is `free` to replace or not: it keeps a character where the
mark does not stand, and puts a value where it does. Behind a value the place is as `adjacent` tells. -/
inductive Passed (open? : Char → Bool) (adjacent : Bool) (mark value : List Char) :
    (free : Bool) → (text out : List Char) → Prop
  | nil {free : Bool} : Passed open? adjacent mark value free [] []
  | keep {free : Bool} {c : Char} {rest out : List Char} (hnot : ¬ (free = true ∧ mark <+: c :: rest))
      (h : Passed open? adjacent mark value (open? c) rest out) :
      Passed open? adjacent mark value free (c :: rest) (c :: out)
  | put {rest out : List Char} (h : Passed open? adjacent mark value adjacent rest out) :
      Passed open? adjacent mark value true (mark ++ rest) (value ++ out)

section Passed

variable {mark : List Char}

theorem replaceFrom_passed (open? : Char → Bool) (adjacent free : Bool) (hmark : mark ≠ [])
    (value : List Char) (skip : Nat) (text done : List Char) :
    ∃ out, replaceFrom open? adjacent mark value free skip text done = done.reverse ++ out ∧
      Passed open? adjacent mark value free (text.drop skip) out := by
  induction text generalizing free skip done with
  | nil =>
    refine ⟨[], by simp [replaceFrom], ?_⟩
    rw [List.drop_nil]
    exact .nil
  | cons c rest ih =>
    cases skip with
    | succ skip =>
      rw [replaceFrom]
      exact ih free skip done
    | zero =>
      rw [replaceFrom]
      split
      · next h =>
        obtain ⟨rfl, hprefix⟩ := Bool.and_eq_true_iff.1 h
        obtain ⟨right, hright⟩ := List.isPrefixOf_iff_prefix.1 hprefix
        obtain ⟨out, hout, hpassed⟩ := ih adjacent (mark.length - 1) (value.reverseAux done)
        -- What is skipped is the rest of the mark.
        have hdrop : rest.drop (mark.length - 1) = right := by
          obtain ⟨m, ms, rfl⟩ := List.exists_cons_of_ne_nil hmark
          rw [List.cons_append, List.cons.injEq] at hright
          rw [← hright.2, List.length_cons, Nat.add_sub_cancel, List.drop_left]
        rw [hdrop] at hpassed
        refine ⟨value ++ out, ?_, ?_⟩
        · rw [hout, List.reverseAux_eq]
          simp
        · rw [List.drop_zero, ← hright]
          exact .put hpassed
      · next h =>
        obtain ⟨out, hout, hpassed⟩ := ih (open? c) 0 (c :: done)
        rw [Bool.and_eq_true_iff, List.isPrefixOf_iff_prefix] at h
        exact ⟨c :: out, by rw [hout]; simp, .keep h hpassed⟩

theorem replaceAll_passed (hmark : mark ≠ []) (value text : List Char) :
    Passed (fun _ => true) true mark value true text (replaceAll mark value text) := by
  obtain ⟨out, hout, hpassed⟩ := replaceFrom_passed (fun _ => true) true true hmark value 0 text []
  rw [replaceAll, hout]
  exact hpassed

theorem replaceFree_passed (hmark : mark ≠ []) (value text : List Char) :
    Passed opens false mark value true text (replaceFree mark value text) := by
  obtain ⟨out, hout, hpassed⟩ := replaceFrom_passed opens false true hmark value 0 text []
  rw [replaceFree, hout]
  exact hpassed

end Passed

/-! ## What a pass leaves -/

/-- Counted by any property of characters, `out` is the text with as many values for as many marks; without any
it is the text. -/
structure Replaced (mark value : List Char) (places : Nat) (text out : List Char) : Prop where
  count : ∀ P : Char → Bool,
    out.countP P + places * mark.countP P = text.countP P + places * value.countP P
  same : places = 0 → out = text

section Replaced

variable {mark value text out : List Char} {places : Nat}

theorem Replaced.refl (mark value text : List Char) : Replaced mark value 0 text text :=
  ⟨fun P => by simp, fun _ => rfl⟩

theorem Replaced.trans {more : Nat} {last : List Char} (h : Replaced mark value places text out)
    (h' : Replaced mark value more out last) : Replaced mark value (places + more) text last := by
  constructor
  · intro P
    have hfirst := h.count P
    have hsecond := h'.count P
    rw [Nat.add_mul, Nat.add_mul]
    omega
  · intro hnone
    rw [h'.same (by omega), h.same (by omega)]

theorem Replaced.length (h : Replaced mark value places text out) :
    out.length + places * mark.length = text.length + places * value.length := by
  have hcount := h.count fun _ => true
  simpa only [List.countP_true] using hcount

/-- Where a value has no character of the mark, the text has room for the marks that are replaced. -/
theorem Replaced.room (h : Replaced mark value places text out) (hother : ∀ c ∈ value, c ∉ mark) :
    places * mark.length ≤ text.length := by
  have hcount := h.count fun c => decide (c ∈ mark)
  have hvalue : value.countP (fun c => decide (c ∈ mark)) = 0 := by
    rw [List.countP_eq_zero]
    intro c hc
    simpa using hother c hc
  have hmark : mark.countP (fun c => decide (c ∈ mark)) = mark.length := by
    rw [List.countP_eq_length]
    exact fun c hc => decide_eq_true hc
  have htext := List.countP_le_length (p := fun c => decide (c ∈ mark)) (l := text)
  rw [hvalue, hmark] at hcount
  omega

theorem Replaced.forall {P : Char → Prop} (h : Replaced mark value places text out) (htext : ∀ c ∈ text, P c)
    (hvalue : ∀ c ∈ value, P c) : ∀ c ∈ out, P c := by
  classical
  have hcount := h.count fun c => decide (¬ P c)
  have hnone : ∀ {l : List Char}, (∀ c ∈ l, P c) → l.countP (fun c => decide (¬ P c)) = 0 := by
    intro l hl
    rw [List.countP_eq_zero]
    intro c hc
    simpa using hl c hc
  rw [hnone htext, hnone hvalue, Nat.mul_zero] at hcount
  have hout : out.countP (fun c => decide (¬ P c)) = 0 := by omega
  intro c hc
  simpa using List.countP_eq_zero.1 hout c hc

theorem Replaced.cons (c : Char) (h : Replaced mark value places text out) :
    Replaced mark value places (c :: text) (c :: out) := by
  constructor
  · intro P
    have hcount := h.count P
    rw [List.countP_cons, List.countP_cons]
    omega
  · intro hnone
    rw [h.same hnone]

theorem Replaced.append (h : Replaced mark value places text out) :
    Replaced mark value (places + 1) (mark ++ text) (value ++ out) := by
  constructor
  · intro P
    have hcount := h.count P
    rw [List.countP_append, List.countP_append, Nat.succ_mul, Nat.succ_mul]
    omega
  · exact fun hnone => absurd hnone (Nat.succ_ne_zero places)

/-- A pass replaces the mark at some places, at none only if it does not stand in the text. -/
theorem Passed.replaced {open? : Char → Bool} {adjacent free : Bool} (hmark : mark ≠ [])
    (h : Passed open? adjacent mark value free text out) :
    ∃ places, Replaced mark value places text out ∧ (places = 0 ↔ ¬ Stands open? free mark text) := by
  induction h with
  | nil => exact ⟨0, Replaced.refl mark value [], iff_of_true rfl (not_stands_nil hmark)⟩
  | @keep free c rest out hnot _ ih =>
    obtain ⟨places, hreplaced, hplaces⟩ := ih
    exact ⟨places, hreplaced.cons c, by rw [hplaces, stands_cons, or_iff_right hnot]⟩
  | @put rest out _ ih =>
    obtain ⟨places, hreplaced, -⟩ := ih
    have hstands : Stands open? true mark (mark ++ rest) := ⟨[], rest, rfl, rfl⟩
    exact ⟨places + 1, hreplaced.append, iff_of_false (Nat.succ_ne_zero places) (not_not.2 hstands)⟩

theorem replaceAll_replaced (hmark : mark ≠ []) (value text : List Char) :
    ∃ places, Replaced mark value places text (replaceAll mark value text) ∧
      (places = 0 ↔ ¬ mark <:+: text) := by
  obtain ⟨places, hreplaced, hstands⟩ := (replaceAll_passed hmark value text).replaced hmark
  exact ⟨places, hreplaced, hstands.trans (not_congr stands_everywhere)⟩

theorem exhaustFor_replaced (hmark : mark ≠ []) (value : List Char) (rounds : Nat) (text : List Char) :
    ∃ places, Replaced mark value places text (exhaustFor mark value rounds text) ∧
      (rounds ≠ 0 → (places = 0 ↔ ¬ Stands opens true mark text)) := by
  induction rounds generalizing text with
  | zero => exact ⟨0, Replaced.refl mark value text, fun h => absurd rfl h⟩
  | succ rounds ih =>
    rw [exhaustFor]
    split
    · next h =>
      have hstands := (occursFree_iff hmark).1 h
      obtain ⟨places, hreplaced, hnone⟩ := (replaceFree_passed hmark value text).replaced hmark
      obtain ⟨more, hmore, -⟩ := ih (replaceFree mark value text)
      have hplaces : places ≠ 0 := fun hzero => hnone.1 hzero hstands
      exact ⟨places + more, hreplaced.trans hmore, fun _ => iff_of_false (by omega) (not_not.2 hstands)⟩
    · next h =>
      rw [occursFree_iff hmark] at h
      exact ⟨0, Replaced.refl mark value text, fun _ => iff_of_true rfl h⟩

/-- Replacing as long as there is something to replace: at no place if the mark does not stand in the text. -/
theorem exhaust_replaced (hmark : mark ≠ []) (value text : List Char) :
    ∃ places, Replaced mark value places text (exhaust mark value text) ∧
      (places = 0 ↔ ¬ Stands opens true mark text) := by
  cases text with
  | nil => exact ⟨0, Replaced.refl mark value [], iff_of_true rfl (not_stands_nil hmark)⟩
  | cons c rest =>
    obtain ⟨places, hreplaced, hnone⟩ := exhaustFor_replaced hmark value (c :: rest).length (c :: rest)
    exact ⟨places, hreplaced, hnone (Nat.succ_ne_zero _)⟩

theorem unescapeDots_eq_self (h : ¬ ['\\', '.'] <:+: text) : unescapeDots text = text := by
  obtain ⟨places, hreplaced, hplaces⟩ := replaceAll_replaced (List.cons_ne_nil '\\' ['.']) ['.'] text
  exact hreplaced.same (hplaces.2 h)

end Replaced

end TextPattern.Sample
