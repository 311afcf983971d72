import TextPattern.Proofs.Sample.Places
import TextPattern.Proofs.Sample.Stages

/-!
# Tokens are used up

A token is replaced as long as the text has it where no backslash stands before it.

* `Exhausts mark value rounds text out` : replacing as long as there is something to replace ends behind that
  many rounds, `exhaust_exhausts` : which it does, since each round leaves fewer of the characters that a mark
  begins with;
* `Stands.of_passed` : a pass brings no token to an open place, whatever it leaves out or puts in;
* `draws_stages` : the stages of tokens leave no token at an open place;
* `drawToken_ends_and_expand_settles` : both facts about the stages of a sample.
-/

namespace TextPattern.Sample

open TextPattern.Random

/-! ## Rounds -/

/-- Replacing as long as the mark is found turns the text into `out` in that many rounds, and then stops. -/
inductive Exhausts (mark value : List Char) : (rounds : Nat) → (text out : List Char) → Prop
  | stop {text : List Char} (h : occursFree mark text = false) : Exhausts mark value 0 text text
  | round {rounds : Nat} {text out : List Char} (h : occursFree mark text = true)
      (hrest : Exhausts mark value rounds (replaceFree mark value text) out) :
      Exhausts mark value (rounds + 1) text out

section Exhausts

variable {mark value text out : List Char} {rounds : Nat}

theorem Exhausts.not_stands (h : Exhausts mark value rounds text out) (hmark : mark ≠ []) :
    ¬ Stands opens true mark out := by
  induction h with
  | stop h =>
    rw [← occursFree_iff hmark, h]
    exact Bool.false_ne_true
  | round _ _ ih => exact ih

theorem occursFree_eq_false {m : Char} (hm : m ∈ mark) (htext : m ∉ text) : occursFree mark text = false := by
  rw [Bool.eq_false_iff, Ne, occursFree_iff (List.ne_nil_of_mem hm)]
  rintro ⟨left, right, rfl, -⟩
  exact htext (List.mem_append_left _ (List.mem_append_right _ hm))

/-- A round that finds the mark leaves fewer of a character that is in the mark and not in the value. -/
theorem count_replaceFree_lt {m : Char} (hm : m ∈ mark) (hvalue : m ∉ value)
    (h : occursFree mark text = true) : (replaceFree mark value text).count m < text.count m := by
  have hmark := List.ne_nil_of_mem hm
  obtain ⟨places, hreplaced, hplaces⟩ := (replaceFree_passed hmark value text).replaced hmark
  have hsome : places ≠ 0 := fun hnone => hplaces.1 hnone ((occursFree_iff hmark).1 h)
  have hcount : (replaceFree mark value text).count m + places * mark.count m =
      text.count m + places * value.count m := hreplaced.count (· == m)
  have hless : 0 < places * mark.count m :=
    Nat.mul_pos (Nat.pos_of_ne_zero hsome) (List.count_pos_iff.2 hm)
  rw [List.count_eq_zero.2 hvalue, Nat.mul_zero] at hcount
  omega

theorem exhaustFor_exhausts {m : Char} (hm : m ∈ mark) (hvalue : m ∉ value) {rounds : Nat}
    (hrounds : text.count m ≤ rounds) :
    ∃ n, n ≤ rounds ∧ Exhausts mark value n text (exhaustFor mark value rounds text) := by
  induction rounds generalizing text with
  | zero =>
    have hnone : m ∉ text := List.count_eq_zero.1 (Nat.le_zero.1 hrounds)
    exact ⟨0, Nat.le_refl 0, .stop (occursFree_eq_false hm hnone)⟩
  | succ rounds ih =>
    rw [exhaustFor]
    split
    · next h =>
      have hless := count_replaceFree_lt hm hvalue h
      have hcount : (replaceFree mark value text).count m ≤ rounds := by omega
      obtain ⟨n, hn, hexhausts⟩ := ih hcount
      exact ⟨n + 1, Nat.succ_le_succ hn, .round h hexhausts⟩
    · next h => exact ⟨0, Nat.zero_le _, .stop (Bool.eq_false_iff.2 h)⟩

theorem exhaust_exhausts {m : Char} (hm : m ∈ mark) (hvalue : m ∉ value) (text : List Char) :
    ∃ rounds, rounds ≤ text.length ∧ Exhausts mark value rounds text (exhaust mark value text) :=
  exhaustFor_exhausts hm hvalue List.count_le_length

end Exhausts

/-! ## Open places -/

section Places

variable {open? : Char → Bool} {free opened : Bool} {mark value text out : List Char}

/-- Where a mark stands in a text, it stands with more before that which leaves the start as it is. -/
theorem Stands.prepend {left : List Char} (h : Stands open? opened mark text)
    (hleft : left.getLast?.elim free open? = opened) : Stands open? free mark (left ++ text) := by
  obtain ⟨before, behind, rfl, hopen⟩ := h
  refine ⟨left ++ before, behind, by simp, ?_⟩
  rw [List.getLast?_append]
  cases hlast : before.getLast? with
  | none =>
    rw [hlast] at hopen
    rw [Option.none_or, hleft]
    exact hopen
  | some c =>
    rw [hlast] at hopen
    exact hopen

theorem Stands.of_prepend {t : Token} (hvalue : ∀ c ∈ value, isStart c = false)
    (h : Stands opens true t.mark (value ++ text)) : Stands opens true t.mark text := by
  induction value with
  | nil => exact h
  | cons c value ih =>
    obtain ⟨hc, hvalue⟩ := List.forall_mem_cons.1 hvalue
    have hopens : opens c = true := bne_iff_ne.2 (ne_of_isStart hc)
    rw [List.cons_append, stands_cons, hopens] at h
    rcases h with ⟨-, hprefix⟩ | h
    · obtain ⟨m, ms, hmark, hm, -⟩ := (Hole.mk (.token t) .one).mark_shape
      have hmark : t.mark = m :: ms := by rw [← hmark]; simp [Hole.mark, Choice.mark, Amount.sign]
      rw [hmark] at hprefix
      rw [(List.cons_prefix_cons.1 hprefix).1, hc] at hm
      cases hm
    · exact ih hvalue h

theorem Passed.head?_eq {adjacent : Bool} (h : Passed open? adjacent mark value false text out) :
    out.head? = text.head? := by
  cases h with
  | nil => rfl
  | keep _ _ => rfl

theorem opens_getLast?_tokenMark (t : Token) (a : Amount) :
    (t.mark ++ a.sign).getLast?.elim true opens = true := by
  cases t <;> cases a <;> decide

/-- A pass for a token brings no token to an open place: before what it replaces no backslash stands, and none
ends a mark or is put in. -/
theorem Stands.of_passed {t u : Token} {a : Amount} (hvalue : ∀ c ∈ value, isStart c = false)
    (h : Passed opens false (t.mark ++ a.sign) value free text out) (hfree : free = true → opened = true)
    (hstands : Stands opens opened u.mark out) : Stands opens opened u.mark text := by
  induction h generalizing opened with
  | nil => exact hstands
  | @keep free c rest out hnot h ih =>
    rw [stands_cons] at hstands ⊢
    rcases hstands with ⟨hopened, hprefix⟩ | hstands
    · refine .inl ⟨hopened, tokenMark_isPrefix_of_head? (fun hback => ?_) hprefix⟩
      subst hback
      exact h.head?_eq
    · exact .inr (ih id hstands)
  | @put rest out h ih =>
    obtain rfl := hfree rfl
    have hrest := ih (fun _ => rfl) (hstands.of_prepend hvalue)
    exact hrest.prepend (opens_getLast?_tokenMark t a)

end Places

/-! ## The stages of tokens -/

section Stages

variable {σ : Type} [Source σ] {value text : List Char}

theorem isStart_of_fits {t : Token} {a : Amount} {max : Nat} (h : Hole.Fits ⟨.token t, a⟩ max value) :
    ∀ c ∈ value, isStart c = false :=
  fun c hc => isStart_of_isInert (h.inert (h := ⟨.token t, a⟩) trivial c hc)

/-- A token begins with a character that is not drawn for any. -/
theorem exhaust_of_fits {t : Token} {a : Amount} {max : Nat} (h : Hole.Fits ⟨.token t, a⟩ max value)
    (text : List Char) : ∃ rounds, rounds ≤ text.length ∧
      Exhausts (t.mark ++ a.sign) value rounds text (exhaust (t.mark ++ a.sign) value text) := by
  obtain ⟨m, ms, hmark, hm, -⟩ := (Hole.mk (.token t) a).mark_shape
  have hmark : t.mark ++ a.sign = m :: ms := hmark
  have hvalue : m ∉ value := fun hmem => by
    rw [isStart_of_fits h m hmem] at hm
    cases hm
  exact exhaust_exhausts (by rw [hmark]; exact List.mem_cons_self) hvalue text

/-- Rounds bring no token to an open place. -/
theorem Stands.of_exhausts {t u : Token} {a : Amount} {rounds : Nat} {out : List Char}
    (hvalue : ∀ c ∈ value, isStart c = false) (h : Exhausts (t.mark ++ a.sign) value rounds text out)
    (hstands : Stands opens true u.mark out) : Stands opens true u.mark text := by
  induction h with
  | stop _ => exact hstands
  | round _ _ ih =>
    exact Stands.of_passed hvalue (replaceFree_passed (tokenMark_ne_nil t a) value _) id (ih hstands)

theorem drawToken_exhausts (t : Token) (a : Amount) (max : Nat) (text : List Char) (source : σ) :
    ∃ rounds, rounds ≤ text.length ∧
      Exhausts (t.mark ++ a.sign) ((drawValue t.alphabet a max).run source).1 rounds text
        ((drawToken t a max text).run source).1 := by
  unfold drawToken
  simp only
  split
  · exact exhaust_of_fits (draws_drawHole (h := ⟨.token t, a⟩) trivial max source) text
  · next h => exact ⟨0, Nat.zero_le _, .stop (Bool.eq_false_iff.2 h)⟩

theorem Stands.of_drawToken {t u : Token} {a : Amount} {max : Nat} {source : σ}
    (h : Stands opens true t.mark ((drawToken u a max text).run source).1) : Stands opens true t.mark text := by
  obtain ⟨rounds, -, hexhausts⟩ := drawToken_exhausts u a max text source
  have hvalue := draws_drawHole (h := ⟨.token u, a⟩) trivial max source
  exact Stands.of_exhausts (isStart_of_fits hvalue) hexhausts h

/-- The stages bring no token to an open place, and leave none there whose stage without a sign is among them. -/
theorem draws_stages (max : Nat) (stages : List (Token × Amount)) (text : List Char) :
    Draws (stages.foldlM (fun text stage => drawToken stage.1 stage.2 max text) text : StateM σ (List Char))
      fun out => ∀ t : Token, (Stands opens true t.mark out → Stands opens true t.mark text) ∧
        ((t, .one) ∈ stages → ¬ Stands opens true t.mark out) := by
  induction stages generalizing text with
  | nil => exact Draws.pure fun t => ⟨id, fun hmem => absurd hmem List.not_mem_nil⟩
  | cons stage stages ih =>
    obtain ⟨u, a⟩ := stage
    rw [List.foldlM_cons]
    refine Draws.bind (P := fun mid => ∀ t : Token,
        (Stands opens true t.mark mid → Stands opens true t.mark text) ∧
          ((t, .one) = (u, a) → ¬ Stands opens true t.mark mid)) (fun source t => ?_) fun mid hmid => ?_
    · refine ⟨Stands.of_drawToken, ?_⟩
      rintro ⟨rfl, rfl⟩
      obtain ⟨rounds, -, hexhausts⟩ := drawToken_exhausts u .one max text source
      have hnot := hexhausts.not_stands (tokenMark_ne_nil u .one)
      rwa [Amount.sign, List.append_nil] at hnot
    · refine (ih mid).imp fun out hout t => ?_
      obtain ⟨hstands, hmem⟩ := hout t
      refine ⟨fun h => (hmid t).1 (hstands h), fun h => ?_⟩
      rcases List.mem_cons.1 h with heq | h
      · exact fun hout => (hmid t).2 heq (hstands hout)
      · exact hmem h

/-- What the stages leave has no token at an open place. -/
theorem draws_expand_settled (max : Nat) (text : List Char) :
    Draws (expand max text : StateM σ (List Char)) fun out => ∀ t : Token, ¬ Stands opens true t.mark out := by
  have hany : ∀ x : StateM σ (List Char), Draws x fun _ => True := fun _ _ => trivial
  refine (hany _).bind fun mid _ => (draws_stages max tokenStages mid).imp fun out hout t => ?_
  exact (hout t).2 (mem_tokenStages t .one)

/-- For every text, token and amount the replacing ends, in at most as many rounds as the text has characters,
and leaves no token at the start of the text or behind any character but a backslash that did not stand so before.
When all stages are done, no dot and no `\w`, `\d` or `\s` stands so. -/
theorem drawToken_ends_and_expand_settles (max : Nat) (text : List Char) (source : σ) (t : Token) :
    (∀ a : Amount, ∃ rounds, rounds ≤ text.length ∧
      Exhausts (t.mark ++ a.sign) ((drawValue t.alphabet a max).run source).1 rounds text
        ((drawToken t a max text).run source).1) ∧
      (∀ u : Token, ∀ a : Amount, Stands opens true t.mark ((drawToken u a max text).run source).1 →
        Stands opens true t.mark text) ∧
      ¬ Stands opens true t.mark ((expand max text).run source).1 :=
  ⟨fun a => drawToken_exhausts t a max text source, fun _ _ => Stands.of_drawToken,
    draws_expand_settled max text source t⟩

end Stages

end TextPattern.Sample
