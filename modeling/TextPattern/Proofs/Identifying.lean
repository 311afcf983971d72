import TextPattern.Proofs.Hits

/-!
# Faults of a scan with the built-in catalog

* `value_identifying` : a scan is a sweep with the catalog on top over the built-in one;
* `Blames overrides error` : the fault is that of a text of the catalog on top;
* `isValid_merge_builtin` : all active entries are valid iff those of the catalog on top are;
* `identifying_ok_iff` : a scan succeeds iff these are valid, and else it is one of them that is blamed.
-/

namespace TextPattern

theorem value_identifying (overrides : Option Catalog) (d : Disclosure) (input : String) :
    (identifying overrides d input).value = ((Catalog.builtin.merge overrides).value.sweep d input).value := rfl

namespace Catalog

/-- The error is the fault of a text of the catalog on top that is no valid pattern. -/
def Blames (overrides : Option Catalog) (error : Error) : Prop :=
  ∃ user ∈ overrides, ∃ e ∈ user.active, isValid e.2 = false ∧ ∃ cause, error = .invalidPattern e.2 cause

section Overrides

variable {overrides : Option Catalog} {d : Disclosure} {input : String} {order : List (String × String)}
  {error : Error}

/-- An entry that is not valid can only come from the catalog on top. -/
theorem exists_of_not_isValid {e : String × String} (he : e ∈ (builtin.merge overrides).value.active)
    (hinvalid : isValid e.2 = false) : ∃ user ∈ overrides, e ∈ user.active := by
  cases overrides with
  | none => cases (isValid_builtin e he).symm.trans hinvalid
  | some user =>
    refine ⟨user, rfl, (mem_active_merge.1 he).resolve_right fun hbase => ?_⟩
    cases (isValid_builtin e hbase.1).symm.trans hinvalid

/-- All active entries are valid iff those of the catalog on top are. -/
theorem isValid_merge_builtin : (∀ e ∈ (builtin.merge overrides).value.active, isValid e.2 = true) ↔
    ∀ user ∈ overrides, ∀ e ∈ user.active, isValid e.2 = true := by
  constructor
  · rintro h user rfl e he
    exact h e (mem_active_merge.2 (.inl he))
  · intro h e he
    by_contra hinvalid
    rw [Bool.not_eq_true] at hinvalid
    obtain ⟨user, huser, he⟩ := exists_of_not_isValid he hinvalid
    cases (h user huser e he).symm.trans hinvalid

/-- In whichever order the active entries are searched, a fault is one of the catalog on top. -/
theorem blames_of_sweepEntries (horder : order.Perm (builtin.merge overrides).value.active)
    (h : (sweepEntries d input order .empty).value = .error error) : Blames overrides error := by
  have hinvalid : ∃ e ∈ order, isValid e.2 = false := by
    by_contra hvalid
    simp only [not_exists, not_and, Bool.not_eq_false] at hvalid
    have hnames := (horder.map Prod.fst).nodup_iff.2 (nodup_active _)
    obtain ⟨found, hfound⟩ := (exists_sweepEntries_iff d input hnames).2 hvalid
    cases h.symm.trans hfound
  obtain ⟨e, he, hinvalid, cause, hcause⟩ := sweepEntries_eq_error d input .empty hinvalid
  obtain ⟨user, huser, huser'⟩ := exists_of_not_isValid (horder.mem_iff.1 he) hinvalid
  exact ⟨user, huser, e, huser', hinvalid, cause, Except.error.inj (h.symm.trans hcause)⟩

/-- A scan succeeds iff the active entries of the catalog on top are valid. -/
theorem exists_identifying_iff (overrides : Option Catalog) (d : Disclosure) (input : String) :
    (∃ found, (identifying overrides d input).value = .ok found) ↔
      ∀ user ∈ overrides, ∀ e ∈ user.active, isValid e.2 = true := by
  rw [value_identifying, exists_sweep_iff, isValid_merge_builtin]

end Overrides

/-- Every text that is not empty is that of a pattern which compiles without options. -/
def Compiles (c : Catalog) : Prop :=
  ∀ e ∈ c.entries, e.2.isEmpty = false → ∃ p, Pattern.compile e.2 .none = .ok p

theorem compiles_iff {c : Catalog} : c.Compiles ↔ ∀ e ∈ c.active, isValid e.2 = true := by
  constructor
  · intro h e he
    obtain ⟨hmem, hne⟩ := List.mem_filter.1 he
    obtain ⟨p, hp⟩ := h e hmem (by simpa using hne)
    rw [isValid, hp]
    rfl
  · intro h e he hne
    exact exists_compile_of_isValid (h e (List.mem_filter.2 ⟨he, by simpa using hne⟩))

end Catalog

open Catalog in
/-- The text of the built-in catalog can be read. A scan with it succeeds iff all texts of the catalog on top compile that are
not empty, and else blames one of these, in whichever order the entries are searched. Without a catalog on top it
succeeds. Whether it does never depends on the text that is scanned. -/
theorem identifying_ok_iff (overrides : Option Catalog) (d : Disclosure) (input : String) :
    Catalog.ofYaml builtinText = .ok loadBuiltin.value ∧
      ((∃ found, (identifying overrides d input).value = .ok found) ↔ ∀ user ∈ overrides, user.Compiles) ∧
      (∀ error, (identifying overrides d input).value = .error error → Blames overrides error) ∧
      (∀ order, order.Perm (loadBuiltin.value.merge overrides).value.active → ∀ error,
        (sweepEntries d input order .empty).value = .error error → Blames overrides error) ∧
      (∃ found, (identifying none d input).value = .ok found) ∧
      ∀ other, (∃ found, (identifying overrides d other).value = .ok found) ↔
        ∃ found, (identifying overrides d input).value = .ok found := by
  have hok := exists_identifying_iff overrides d
  refine ⟨ofYaml_eq_loadBuiltin, ?_, fun error herror => ?_, fun order horder error herror => ?_, ?_, fun other => ?_⟩
  · simp only [compiles_iff, hok]
  · rw [value_identifying, value_sweep] at herror
    exact blames_of_sweepEntries (.refl _) herror
  · exact blames_of_sweepEntries horder herror
  · exact (exists_identifying_iff none d input).2 nofun
  · rw [hok, hok]

/-- An entry is put out of use and another is added, and a text does not compile. -/
theorem identifying_ok_iff_bad :
    (∃ found, (identifying (some (.ofList [("us_ssn", ""), ("word", "[a-z]+")])) .full "a 1").value = .ok found) ∧
      ∃ error, (identifying (some (.ofList [("bad", "("), ("off", "")])) .full "a 1").value = .error error ∧
        Catalog.Blames (some (.ofList [("bad", "("), ("off", "")])) error := by
  have hgood : (Catalog.ofList [("us_ssn", ""), ("word", "[a-z]+")]).Compiles :=
    Catalog.compiles_iff.2 (by decide +kernel)
  have hbad : ¬ (Catalog.ofList [("bad", "("), ("off", "")]).Compiles :=
    fun h => absurd (Catalog.compiles_iff.1 h) (by decide +kernel)
  obtain ⟨-, hok, hblames, -⟩ := identifying_ok_iff (some (.ofList [("bad", "("), ("off", "")])) .full "a 1"
  refine ⟨(identifying_ok_iff _ .full "a 1").2.1.2 (by rintro _ ⟨⟩; exact hgood), ?_⟩
  cases hvalue : (identifying (some (.ofList [("bad", "("), ("off", "")])) .full "a 1").value with
  | ok found => exact absurd (hok.1 ⟨found, hvalue⟩ _ rfl) hbad
  | error error => exact ⟨error, rfl, hblames error hvalue⟩

end TextPattern
