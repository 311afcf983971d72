import Mathlib.Data.Prod.Lex
import TextPattern.Proofs.Sample.Classes
import TextPattern.Proofs.Sample.Matching
import TextPattern.Proofs.Sample.Places

/-!
# Patterns that are their own samples

* `Settled text` : no stage finds anything in the text;
* `rank`, `Shrinks text out` : what a stage replaces makes the rank of a text less;
* `expand_of_settled`, `draws_expand` : the stages leave the settled texts, and no others, as they are;
* `generate_eq_pattern_iff` : a sample is the text of its pattern iff that is settled;
* `generate_bracket_iff` : which classes with a range, a negation or an escape are left as they are.
-/

namespace TextPattern.Sample

open TextPattern.Random

/-- No stage finds anything in the text, and no dot in it is escaped. -/
structure Settled (text : List Char) : Prop where
  classes : ∀ a : Amount, classBodies a.sign text = []
  tokens : ∀ t : Token, ¬ Stands opens true t.mark text
  points : ¬ ['\\', '.'] <:+: text

/-! ## The rank of a text -/

/-- How many opening brackets a text has, and then how many characters that a mark may begin with. -/
def rank (text : List Char) : ℕ ×ₗ ℕ := toLex (text.countP (· = '['), text.countP isStart)

/-- The text is left as it is, or it gets a lower rank. -/
def Shrinks (text out : List Char) : Prop := out = text ∨ rank out < rank text

section Rank

variable {text mid out mark value : List Char} {places : Nat}

theorem Shrinks.refl (text : List Char) : Shrinks text text := .inl rfl

theorem Shrinks.trans (h : Shrinks text mid) (h' : Shrinks mid out) : Shrinks text out := by
  rcases h with rfl | h
  · exact h'
  · rcases h' with rfl | h'
    · exact .inr h
    · exact .inr (h'.trans h)

theorem Shrinks.eq_of_eq (h : Shrinks text mid) (h' : Shrinks mid out) (hsame : out = text) : mid = text := by
  rcases h with h | h
  · exact h
  · subst hsame
    rcases h' with h' | h'
    · exact h'.symm
    · exact absurd (h'.trans h) (lt_irrefl _)

/-- Replacing a mark by a value of a lower rank changes a text, or there was nothing to replace. -/
theorem Replaced.shrinks (h : Replaced mark value places text out) (hless : rank value < rank mark) :
    Shrinks text out ∧ (out = text → places = 0) := by
  rcases Nat.eq_zero_or_pos places with hnone | hsome
  · exact ⟨.inl (h.same hnone), fun _ => hnone⟩
  · have hopen := h.count (· = '[')
    have hstart := h.count isStart
    have hlower : rank out < rank text := by
      rw [rank, rank, Prod.Lex.toLex_lt_toLex] at hless ⊢
      simp only at hless ⊢
      rcases hless with hfirst | ⟨hfirst, hsecond⟩
      · have := Nat.mul_lt_mul_of_pos_left hfirst hsome
        omega
      · have := Nat.mul_lt_mul_of_pos_left hsecond hsome
        rw [hfirst] at hopen
        omega
    refine ⟨.inr hlower, ?_⟩
    rintro rfl
    exact absurd hlower (lt_irrefl _)

theorem rank_of_inert (h : ∀ c ∈ text, isInert c = true) : rank text = toLex (0, 0) := by
  have hopen : text.countP (· = '[') = 0 := by
    rw [List.countP_eq_zero]
    intro c hc
    rw [decide_eq_true_iff]
    exact ne_of_isInert (by decide) (h c hc)
  have hstart : text.countP isStart = 0 := by
    rw [List.countP_eq_zero]
    intro c hc
    rw [isStart_of_isInert (h c hc)]
    exact Bool.false_ne_true
  rw [rank, hopen, hstart]

end Rank

/-! ## Stages that change nothing -/

section Stages

variable {σ : Type}

/-- What a step makes of any text has a property of the text and the step, or is another text of a lower rank;
then so it is with steps in a row. -/
theorem draws_foldlM {α : Type} {f : List Char → α → StateM σ (List Char)} {Q : α → List Char → Prop}
    (hstep : ∀ text x, Draws (f text x) fun out => Shrinks text out ∧ (out = text → Q x text))
    (xs : List α) (text : List Char) :
    Draws (xs.foldlM f text) fun out => Shrinks text out ∧ (out = text → ∀ x ∈ xs, Q x text) := by
  induction xs generalizing text with
  | nil => exact Draws.pure ⟨Shrinks.refl text, fun _ x hx => absurd hx List.not_mem_nil⟩
  | cons x xs ih =>
    rw [List.foldlM_cons]
    refine (hstep text x).bind fun mid hmid => (ih mid).imp fun out hout => ?_
    refine ⟨hmid.1.trans hout.1, fun hsame => ?_⟩
    obtain rfl := hmid.1.eq_of_eq hout.1 hsame
    exact List.forall_mem_cons.2 ⟨hmid.2 rfl, hout.2 hsame⟩

variable [Source σ]

/-- A class is replaced by what is drawn over its body, which has no bracket. -/
theorem draws_drawBodies (a : Amount) (max : Nat) {bodies : List (List Char)}
    (hbodies : ∀ body ∈ bodies, body ≠ [] ∧ '[' ∉ body) (text : List Char) :
    Draws (drawBodies a max bodies text : StateM σ (List Char)) fun out => Shrinks text out ∧
      (out = text → ∀ body ∈ bodies, ¬ classMark body a.sign <:+: text) := by
  induction bodies generalizing text with
  | nil => exact Draws.pure ⟨Shrinks.refl text, fun _ body hbody => absurd hbody List.not_mem_nil⟩
  | cons body bodies ih =>
    obtain ⟨⟨hne, hplain⟩, hbodies⟩ := List.forall_mem_cons.1 hbodies
    refine (draws_drawValue hne a max).bind fun value hvalue => ?_
    have hmark : classMark body a.sign ≠ [] := List.cons_ne_nil _ _
    obtain ⟨places, hreplaced, hplaces⟩ := replaceAll_replaced hmark value text
    have hless : rank value < rank (classMark body a.sign) := by
      rw [rank, rank, Prod.Lex.toLex_lt_toLex]
      left
      have hnone : value.countP (· = '[') = 0 := by
        rw [List.countP_eq_zero]
        intro c hc
        rw [decide_eq_true_iff]
        rintro rfl
        exact hplain (hvalue.2 _ hc)
      simp [hnone, classMark]
    obtain ⟨hshrinks, hsame⟩ := hreplaced.shrinks hless
    refine (ih hbodies _).imp fun out hout => ⟨hshrinks.trans hout.1, fun h => ?_⟩
    have hround := hshrinks.eq_of_eq hout.1 h
    rw [hround] at hout
    exact List.forall_mem_cons.2 ⟨hplaces.1 (hsame hround), hout.2 h⟩

theorem draws_drawClasses (a : Amount) (max : Nat) (text : List Char) :
    Draws (drawClasses a max text : StateM σ (List Char)) fun out =>
      Shrinks text out ∧ (out = text → classBodies a.sign text = []) := by
  have hbodies : ∀ body ∈ classBodies a.sign text, body ≠ [] ∧ '[' ∉ body := by
    intro body hbody
    obtain ⟨hne, hchars, -⟩ := mem_classBodies.1 hbody
    exact ⟨hne, fun hopen => Bool.false_ne_true (hchars _ hopen)⟩
  refine (draws_drawBodies a max hbodies text).imp fun out hout => ⟨hout.1, fun h => ?_⟩
  rw [List.eq_nil_iff_forall_not_mem]
  exact fun body hbody => hout.2 h body hbody (mem_classBodies.1 hbody).2.2

theorem rank_tokenMark (t : Token) (a : Amount) : toLex (0, 0) < rank (t.mark ++ a.sign) := by
  cases t <;> cases a <;> decide

theorem draws_drawToken (t : Token) (a : Amount) (max : Nat) (text : List Char) :
    Draws (drawToken t a max text : StateM σ (List Char)) fun out => Shrinks text out ∧
      (out = text → ¬ Stands opens true (t.mark ++ a.sign) text) := by
  unfold drawToken
  simp only
  split
  · refine (draws_drawHole (h := ⟨.token t, a⟩) trivial max).bind fun value hvalue => Draws.pure ?_
    obtain ⟨places, hreplaced, hplaces⟩ := exhaust_replaced (tokenMark_ne_nil t a) value text
    have hless : rank value < rank (t.mark ++ a.sign) := by
      rw [rank_of_inert (hvalue.inert (h := ⟨.token t, a⟩) trivial)]
      exact rank_tokenMark t a
    obtain ⟨hshrinks, hsame⟩ := hreplaced.shrinks hless
    exact ⟨hshrinks, fun h => hplaces.1 (hsame h)⟩
  · next hnot =>
    rw [occursFree_iff (tokenMark_ne_nil t a)] at hnot
    exact Draws.pure ⟨Shrinks.refl text, fun _ => hnot⟩

/-- The stages and the unescaping leave a text as it is only if it is settled. -/
theorem draws_expand (max : Nat) (text : List Char) :
    Draws (expand max text : StateM σ (List Char)) fun out => unescapeDots out = text → Settled text := by
  refine (draws_foldlM (Q := fun a text => classBodies a.sign text = [])
    (fun text a => draws_drawClasses a max text) Amount.all text).bind fun mid hmid => ?_
  refine (draws_foldlM (Q := fun s text => ¬ Stands opens true (s.1.mark ++ s.2.sign) text)
    (fun text s => draws_drawToken s.1 s.2 max text) tokenStages mid).imp fun out hout hsame => ?_
  have hpoint : ['\\', '.'] ≠ [] := List.cons_ne_nil _ _
  obtain ⟨places, hreplaced, hplaces⟩ := replaceAll_replaced hpoint ['.'] out
  obtain ⟨hshrinks, hnone⟩ := hreplaced.shrinks (by decide)
  -- Nothing was replaced in the end, so nothing was at any time.
  obtain rfl := hmid.1.eq_of_eq (hout.1.trans hshrinks) hsame
  obtain rfl := hout.1.eq_of_eq hshrinks hsame
  refine ⟨fun a => hmid.2 rfl a (by cases a <;> decide), fun t => ?_, hplaces.1 (hnone hsame)⟩
  have hnot := hout.2 rfl _ (mem_tokenStages t .one)
  rwa [Amount.sign, List.append_nil] at hnot

/-- The stages draw nothing for a settled text. -/
theorem expand_of_settled {text : List Char} (h : Settled text) (max : Nat) :
    (expand max text : StateM σ (List Char)) = pure text := by
  have hclasses : ∀ a ∈ Amount.all, (drawClasses a max text : StateM σ (List Char)) = pure text := by
    intro a _
    rw [drawClasses, h.classes a, drawBodies]
  have htokens : ∀ s ∈ tokenStages, (drawToken s.1 s.2 max text : StateM σ (List Char)) = pure text := by
    rintro ⟨t, a⟩ _
    have hnot : ¬ occursFree (t.mark ++ a.sign) text = true := by
      rw [occursFree_iff (tokenMark_ne_nil t a)]
      exact fun hstands => h.tokens t hstands.of_append
    rw [drawToken]
    exact if_neg hnot
  rw [expand, foldlM_eq_pure hclasses, pure_bind, foldlM_eq_pure htokens]

end Stages

/-! ## Samples -/

section Generate

variable {σ : Type} [Source σ]

/-- A sample of a valid pattern is the text of the pattern iff that is settled: it has no plain class, no token
that a backslash does not stand before, and no escaped dot. -/
theorem generate_eq_pattern_iff {pattern : String} (hvalid : isValid pattern = true) {limit : Int}
    (hmin : 0 ≤ limit) (hmax : limit ≤ 2 ^ 20) (source : σ) :
    ∃ sample, (generate pattern limit source).1 = .ok sample ∧ (sample = pattern ↔ Settled pattern.toList) := by
  obtain ⟨p, hp⟩ := exists_compile_of_isValid hvalid
  refine ⟨_, by rw [generate_eq_ok (validateAndCompile_none hp) (sampleLength_eq_ok hmin hmax)], ?_⟩
  constructor
  · intro hsame
    have hexpand := draws_expand (σ := σ) limit.toNat pattern.toList source
    refine hexpand ?_
    conv_rhs => rw [← hsame, String.toList_ofList]
  · intro h
    rw [expand_of_settled h]
    show String.ofList (unescapeDots pattern.toList) = pattern
    rw [unescapeDots_eq_self h.points, String.ofList_toList]

end Generate

/-! ## Classes that are not plain -/

section Brackets

variable {body rest : List Char}

theorem classBodiesFrom_broken {sign : List Char} {read : Option (List Char)} {found : List (List Char)}
    (hopen : '[' ∉ body) (hclose : ']' ∉ body) (hbreaks : ∃ c ∈ body, breaksBody c = true) :
    classBodiesFrom sign read (body ++ rest) found = classBodiesFrom sign none rest found := by
  induction body generalizing read with
  | nil =>
    obtain ⟨c, hc, -⟩ := hbreaks
    exact absurd hc List.not_mem_nil
  | cons c body ih =>
    rw [List.mem_cons, not_or] at hopen hclose
    rw [List.cons_append, classBodiesFrom.eq_def]
    simp only [if_neg (Ne.symm hopen.1), if_neg (Ne.symm hclose.1)]
    split
    · exact classBodiesFrom_outside hopen.2
    · next hc =>
      obtain ⟨d, hd, hd'⟩ := hbreaks
      have hd : d ∈ body := (List.mem_cons.1 hd).resolve_left fun heq => hc (heq ▸ hd')
      exact ih hopen.2 hclose.2 ⟨d, hd, hd'⟩

theorem classBodies_broken (hopen : '[' ∉ body) (hclose : ']' ∉ body) (hbreaks : ∃ c ∈ body, breaksBody c = true)
    (sign : List Char) (a : Amount) : classBodies sign (classMark body a.sign) = [] := by
  have htail : '[' ∉ ']' :: a.sign := by cases a <;> decide
  have hend : classBodiesFrom sign none (']' :: a.sign) [] = [] := classBodies_of_not_mem htail
  rw [classBodies, classMark, List.cons_append, classBodiesFrom.eq_def]
  simp only [if_pos, classBodiesFrom_broken hopen hclose hbreaks, hend]

/-- A token does not reach over the closing bracket. -/
theorem stands_append_close_iff (t : Token) (a : Amount) (free : Bool) :
    Stands opens free t.mark (body ++ ']' :: a.sign) ↔ Stands opens free t.mark body := by
  induction body generalizing free with
  | nil =>
    refine iff_of_false ?_ (not_stands_nil (by cases t <;> exact List.cons_ne_nil _ _))
    cases t <;> cases a <;> simp [stands_cons, Token.mark, Amount.sign, opens, not_stands_nil]
  | cons c body ih =>
    have hprefix : t.mark <+: c :: (body ++ ']' :: a.sign) ↔ t.mark <+: c :: body := by
      cases t <;> cases body <;> simp [Token.mark]
    rw [List.cons_append, stands_cons, stands_cons, hprefix, ih]

theorem stands_classMark_iff (t : Token) (a : Amount) :
    Stands opens true t.mark (classMark body a.sign) ↔ Stands opens true t.mark body := by
  have hfirst : ¬ t.mark <+: '[' :: (body ++ ']' :: a.sign) := by cases t <;> simp [Token.mark]
  rw [classMark, List.cons_append, stands_cons, or_iff_right fun h => hfirst h.2]
  exact stands_append_close_iff t a true

/-- A class that is not plain is settled iff no dot and no token stands in it; a token that a backslash stands
before is none. -/
theorem settled_classMark_iff (hopen : '[' ∉ body) (hclose : ']' ∉ body)
    (hbreaks : ∃ c ∈ body, breaksBody c = true) (a : Amount) :
    Settled (classMark body a.sign) ↔ '.' ∉ body ∧ ∀ t : Token, ¬ Stands opens true t.mark body := by
  constructor
  · intro h
    have htokens : ∀ t : Token, ¬ Stands opens true t.mark body := fun t hstands =>
      h.tokens t ((stands_classMark_iff t a).2 hstands)
    refine ⟨fun hdot => ?_, htokens⟩
    obtain ⟨left, right, rfl⟩ := List.append_of_mem hdot
    rcases List.eq_nil_or_concat left with rfl | ⟨left, c, rfl⟩
    · exact htokens .dot ⟨[], right, rfl, rfl⟩
    · by_cases hc : c = '\\'
      · refine h.points ⟨'[' :: left, right ++ ']' :: a.sign, ?_⟩
        simp [classMark, hc]
      · refine htokens .dot ⟨left ++ [c], right, by simp [Token.mark], ?_⟩
        simp [opens, hc]
  · rintro ⟨hdot, htokens⟩
    refine ⟨fun b => classBodies_broken hopen hclose hbreaks b.sign a,
      fun t hstands => htokens t ((stands_classMark_iff t a).1 hstands), fun hpoint => ?_⟩
    have hmem : '.' ∈ classMark body a.sign := hpoint.subset (by simp)
    have hsign : '.' ∉ a.sign := by cases a <;> decide
    simp [classMark, hdot, hsign] at hmem

variable {σ : Type} [Source σ]

/-- A pattern that is one class with a range, a negation or an escape is left as it is iff no dot stands in the
class, and no token that a backslash does not stand before. -/
theorem generate_bracket_iff (hopen : '[' ∉ body) (hclose : ']' ∉ body)
    (hbreaks : ∃ c ∈ body, breaksBody c = true) (a : Amount)
    (hvalid : isValid (String.ofList (classMark body a.sign)) = true) {limit : Int} (hmin : 0 ≤ limit)
    (hmax : limit ≤ 2 ^ 20) (source : σ) :
    ∃ sample, (generate (String.ofList (classMark body a.sign)) limit source).1 = .ok sample ∧
      (sample = String.ofList (classMark body a.sign) ↔
        '.' ∉ body ∧ ∀ t : Token, ¬ Stands opens true t.mark body) := by
  obtain ⟨sample, hsample, hiff⟩ := generate_eq_pattern_iff hvalid hmin hmax source
  rw [String.toList_ofList, settled_classMark_iff hopen hclose hbreaks] at hiff
  exact ⟨sample, hsample, hiff⟩

/-- `[a-z]+` has neither. -/
theorem generate_bracket_letters : isValid "[a-z]+" = true ∧ ∃ sample,
    (generate "[a-z]+" 5 (Cycle.mk #[0x9E3779B9] 0)).1 = .ok sample ∧ sample = "[a-z]+" := by
  have hvalid : isValid "[a-z]+" = true := by decide +kernel
  have hopen : '[' ∉ "a-z".toList := by decide
  have hbreaks : ∃ c ∈ "a-z".toList, breaksBody c = true := ⟨'-', by decide, rfl⟩
  have hmax : (5 : Int) ≤ 2 ^ 20 := by decide
  have htokens : ∀ t : Token, ¬ Stands opens true t.mark "a-z".toList := by
    intro t
    rw [← occursFree_iff (by cases t <;> exact List.cons_ne_nil _ _)]
    cases t <;> decide
  obtain ⟨sample, hsample, hiff⟩ := generate_bracket_iff hopen (by decide) hbreaks .most hvalid
    (by decide) hmax (Cycle.mk #[0x9E3779B9] 0)
  exact ⟨hvalid, sample, hsample, hiff.2 ⟨by decide, htokens⟩⟩

/-- The escape in a negated class is taken for a token. -/
theorem generate_bracket_blank : ∃ body, '[' ∉ body ∧ ']' ∉ body ∧ (∃ c ∈ body, breaksBody c = true) ∧
    String.ofList (classMark body Amount.one.sign) = "[^\\s]" ∧ isValid "[^\\s]" = true ∧
    (generate "[^\\s]" 1 (Cycle.mk #[0] 0)).1 = .ok "[^ ]" := by
  refine ⟨['^', '\\', 's'], by decide, by decide, ⟨'^', by decide, rfl⟩, by decide, by decide +kernel, ?_⟩
  decide +kernel

end Brackets

end TextPattern.Sample
