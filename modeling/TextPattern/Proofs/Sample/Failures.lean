import TextPattern.Proofs.Sample.Classes
import TextPattern.Proofs.Sample.Matching

/-!
# Calls that fail

* `Accepted call` : the pattern of a call is valid, and its greatest length is one;
* `generate_eq_of_invalid`, `generate_eq_of_length`, `generate_eq_of_accepted` : the three outcomes of a call;
* `generateCalls calls source` : calls one behind the other on one source;
* `generateCalls_filter` : calls that fail leave no trace in the samples of the others;
* `generate_outcome` : which calls fail, how they do, and what they leave.
-/

namespace TextPattern.Sample

open TextPattern.Random

/-! ## One call -/

/-- A call for a sample of a pattern that is valid, with a greatest length from 0 to 2^20. -/
def Accepted (call : String × Int) : Prop := isValid call.1 = true ∧ 0 ≤ call.2 ∧ call.2 ≤ 2 ^ 20

instance : DecidablePred Accepted := fun _ => inferInstanceAs (Decidable (_ ∧ _ ∧ _))

section Call

variable {σ : Type} [Source σ] {pattern : String} {limit : Int}

/-- A pattern that is not valid is reported, whatever the greatest length. -/
theorem generate_eq_of_invalid (h : isValid pattern = false) :
    ∃ cause, ∀ (limit : Int) (source : σ),
      generate pattern limit source = (.error (.invalidPattern pattern cause), source) := by
  have hnot : ¬ (isValid pattern = true ∧ (Pattern.compile pattern .none).isOk = true) := by simp [h]
  obtain ⟨cause, hcause⟩ := validateAndCompile_eq_error hnot
  refine ⟨cause, fun limit source => ?_⟩
  unfold generate
  rw [hcause]

theorem sampleLength_eq_error (h : limit < 0 ∨ 2 ^ 20 < limit) :
    ∃ cause, sampleLength limit = .error (.invalidArgument cause) := by
  rw [sampleLength]
  by_cases hmax : (maxRandomLength : Int) < limit
  · exact ⟨_, if_pos hmax⟩
  · have hneg : limit < 0 := h.resolve_right hmax
    exact ⟨_, by rw [if_neg hmax, if_pos hneg]⟩

/-- With a valid pattern a greatest length out of range is reported. -/
theorem generate_eq_of_length (hvalid : isValid pattern = true) (h : limit < 0 ∨ 2 ^ 20 < limit) :
    ∃ cause, ∀ source : σ, generate pattern limit source = (.error (.invalidArgument cause), source) := by
  obtain ⟨p, hp⟩ := exists_compile_of_isValid hvalid
  obtain ⟨cause, hcause⟩ := sampleLength_eq_error h
  refine ⟨cause, fun source => ?_⟩
  unfold generate
  rw [validateAndCompile_none hp, hcause]

theorem generate_eq_of_accepted (h : Accepted (pattern, limit)) (source : σ) :
    ∃ sample left, generate pattern limit source = (.ok sample, left) := by
  obtain ⟨p, hp⟩ := exists_compile_of_isValid h.1
  exact ⟨_, _, generate_eq_ok (validateAndCompile_none hp) (sampleLength_eq_ok h.2.1 h.2.2) source⟩

theorem generate_eq_of_not_accepted (h : ¬ Accepted (pattern, limit)) :
    ∃ e, ∀ source : σ, generate pattern limit source = (.error e, source) := by
  cases hvalid : isValid pattern with
  | false =>
    obtain ⟨cause, hcause⟩ := generate_eq_of_invalid (σ := σ) hvalid
    exact ⟨_, hcause limit⟩
  | true =>
    have hlimit : limit < 0 ∨ 2 ^ 20 < limit := by
      by_contra hnot
      rw [not_or, Int.not_lt, Int.not_lt] at hnot
      exact h ⟨hvalid, hnot.1, hnot.2⟩
    obtain ⟨cause, hcause⟩ := generate_eq_of_length (σ := σ) hvalid hlimit
    exact ⟨_, hcause⟩

end Call

/-! ## Calls one behind the other -/

/-- The outcomes of calls one behind the other, each with what the one before leaves of the source, and what the
last one leaves. -/
def generateCalls {σ : Type} [Source σ] : List (String × Int) → σ → List (Except Error String) × σ
  | [], source => ([], source)
  | call :: calls, source =>
    let (outcome, left) := generate call.1 call.2 source
    let (outcomes, left) := generateCalls calls left
    (outcome :: outcomes, left)

section Calls

variable {σ : Type} [Source σ]

/-- Without the calls that fail the others have the same outcomes, and the source is left in the same state. -/
theorem generateCalls_filter (calls : List (String × Int)) (source : σ) :
    generateCalls (calls.filter Accepted) source =
      ((generateCalls calls source).1.filter Except.isOk, (generateCalls calls source).2) := by
  induction calls generalizing source with
  | nil => rfl
  | cons call calls ih =>
    by_cases hcall : Accepted call
    · obtain ⟨sample, left, hsample⟩ := generate_eq_of_accepted hcall source
      have hkeep : (call :: calls).filter Accepted = call :: calls.filter Accepted :=
        List.filter_cons_of_pos (decide_eq_true hcall)
      rw [hkeep, generateCalls, generateCalls, hsample]
      simp only [ih]
      rw [List.filter_cons_of_pos rfl]
    · obtain ⟨e, he⟩ := generate_eq_of_not_accepted (σ := σ) hcall
      have hdrop : (call :: calls).filter Accepted = calls.filter Accepted :=
        List.filter_cons_of_neg (by simpa using hcall)
      rw [hdrop, generateCalls, he source]
      simp only [ih]
      rw [List.filter_cons_of_neg Bool.false_ne_true]

/-- A call fails for its pattern iff that is not valid, whatever the greatest length, and else for the greatest
length iff that is not from 0 to 2^20; what the stages extract from a text is always found. A call that fails
leaves the source, so that in a row of calls it makes no difference to the others. -/
theorem generate_outcome (pattern : String) (limit : Int) (source : σ) (calls : List (String × Int)) :
    ((∃ cause, (generate pattern limit source).1 = .error (.invalidPattern pattern cause)) ↔
        isValid pattern = false) ∧
      ((∃ cause, (generate pattern limit source).1 = .error (.invalidArgument cause)) ↔
        isValid pattern = true ∧ (limit < 0 ∨ 2 ^ 20 < limit)) ∧
      ((∃ sample, (generate pattern limit source).1 = .ok sample) ↔ Accepted (pattern, limit)) ∧
      (∀ a text, ∃ set, extractAll (classPattern a) .none text = .ok set ∧
        ((set.results.filterMap fun r => r.group? 1).map String.toList).eraseDups =
          classBodies a.sign text.toList) ∧
      (∀ e, (generate pattern limit source).1 = .error e → (generate pattern limit source).2 = source) ∧
      generateCalls (calls.filter Accepted) source =
        ((generateCalls calls source).1.filter Except.isOk, (generateCalls calls source).2) := by
  have hcalls := generateCalls_filter calls source
  cases hvalid : isValid pattern with
  | false =>
    obtain ⟨cause, hcause⟩ := generate_eq_of_invalid (σ := σ) hvalid
    have hnot : ¬ Accepted (pattern, limit) := fun h => Bool.false_ne_true (hvalid.symm.trans h.1)
    rw [hcause limit source]
    exact ⟨iff_of_true ⟨cause, rfl⟩ rfl, iff_of_false (by rintro ⟨_, ⟨⟩⟩) (fun h => Bool.false_ne_true h.1),
      iff_of_false (by rintro ⟨_, ⟨⟩⟩) hnot, extractAll_classPattern, fun _ _ => rfl, hcalls⟩
  | true =>
    by_cases hlimit : limit < 0 ∨ 2 ^ 20 < limit
    · obtain ⟨cause, hcause⟩ := generate_eq_of_length (σ := σ) hvalid hlimit
      have hnot : ¬ Accepted (pattern, limit) := by
        rintro ⟨-, hmin, hmax⟩
        exact hlimit.elim (Int.not_lt.2 hmin) (Int.not_lt.2 hmax)
      rw [hcause source]
      exact ⟨iff_of_false (by rintro ⟨_, ⟨⟩⟩) (by decide), iff_of_true ⟨cause, rfl⟩ ⟨rfl, hlimit⟩,
        iff_of_false (by rintro ⟨_, ⟨⟩⟩) hnot, extractAll_classPattern, fun _ _ => rfl, hcalls⟩
    · have haccepted : Accepted (pattern, limit) := by
        rw [not_or, Int.not_lt, Int.not_lt] at hlimit
        exact ⟨hvalid, hlimit.1, hlimit.2⟩
      obtain ⟨sample, left, hsample⟩ := generate_eq_of_accepted haccepted source
      rw [hsample]
      exact ⟨iff_of_false (by rintro ⟨_, ⟨⟩⟩) (by decide),
        iff_of_false (by rintro ⟨_, ⟨⟩⟩) (fun h => hlimit h.2), iff_of_true ⟨sample, rfl⟩ haccepted,
        extractAll_classPattern, by rintro _ ⟨⟩, hcalls⟩

end Calls

end TextPattern.Sample
