import TextPattern.Catalog.Sweep
import TextPattern.Proofs.NameMap
import TextPattern.Proofs.Searches

/-!
# Sweeping in any order

* `search_eq_some` : what the search of an entry finds, by the two questions to its pattern;
* `sweepEntries_eq_ok`, `sweepEntries_eq_error`, `exists_sweepEntries_iff` : entries searched in some order, when
  all are valid and when some are not;
* `sweep_eq_ok`, `exists_sweep_iff` : what a sweep finds, and when it succeeds;
* `Findings.AreOf found c input` : the findings are those of the entries of a catalog, each on its own;
* `sweep_in_any_order` : a sweep gives the same findings in every order of the entries with a text.
-/

namespace TextPattern

/-! ## One entry -/

section Search

variable {pattern input : String} {p : Pattern}

theorem MatchResult.full_ofOccurrence (o : Occurrence) :
    (ofOccurrence o).full = String.ofList (o.text?.getD []) := by
  unfold full group? ofOccurrence Occurrence.text?
  cases o.slots with
  | nil => rfl
  | cons slot slots => cases slot <;> rfl

theorem Pattern.fullMatches_matchSet (p : Pattern) (input : String) :
    (p.matchSet input).fullMatches = p.fullMatches input := by
  rw [MatchSet.fullMatches, matchSet, fullMatches_eq, List.map_map]
  exact List.map_congr_left fun o _ => MatchResult.full_ofOccurrence o

namespace Catalog

theorem search_eq_ok (h : Pattern.compile pattern .none = .ok p) (input : String) : search pattern input =
    .ok (if p.occursIn input then some (p.fullMatches input) else none) := by
  rw [search, h]
  rfl

theorem search_eq_error (h : isValid pattern = false) (input : String) :
    ∃ cause, search pattern input = .error (.invalidPattern pattern cause) := by
  unfold isValid at h
  cases hp : Pattern.compile pattern .none with
  | ok p =>
    rw [hp] at h
    cases h
  | error e =>
    obtain ⟨cause, rfl⟩ := exists_of_compile_error hp
    exact ⟨cause, by rw [search, hp]; rfl⟩

theorem search_eq_some {texts : List String} : search pattern input = .ok (some texts) ↔
    occursIn pattern .none input = .ok true ∧
      ∃ set, extractAll pattern .none input = .ok set ∧ texts = set.fullMatches := by
  cases hp : Pattern.compile pattern .none with
  | error e =>
    have hsearch : search pattern input = .error e := by
      rw [search, hp]
      rfl
    have hoccurs : occursIn pattern .none input = .error e := by
      rw [occursIn, validateAndCompile, hp]
      rfl
    simp [hsearch, hoccurs]
  | ok p =>
    have hoccurs : occursIn pattern .none input = .ok (p.occursIn input) := by
      rw [occursIn, validateAndCompile_none hp]
      rfl
    have hall : extractAll pattern .none input = .ok (p.matchSet input) :=
      extractAll_eq_ok.2 ⟨p, validateAndCompile_none hp, rfl⟩
    rw [search_eq_ok hp, hoccurs, hall]
    cases p.occursIn input with
    | false => simp
    | true => simp [Pattern.fullMatches_matchSet, eq_comm]

theorem ne_nil_of_search {texts : List String} (h : search pattern input = .ok (some texts)) :
    texts ≠ [] := by
  cases hp : Pattern.compile pattern .none with
  | error e =>
    rw [search, hp] at h
    cases h
  | ok p =>
    rw [search_eq_ok hp] at h
    split at h
    · next hoccurs =>
      obtain rfl := Option.some.inj (Except.ok.inj h)
      exact (p.fullMatches_ne_nil_iff input).2 hoccurs
    · cases h

end Catalog

end Search

/-! ## The entries in some order -/

namespace Catalog

section Entries

variable {d : Disclosure} {input : String} {order : List (String × String)} {found : Findings}

theorem sweepEntries_none {name pattern : String} (h : search pattern input = .ok none) :
    sweepEntries d input ((name, pattern) :: order) found = sweepEntries d input order found := by
  rw [sweepEntries, h]

theorem sweepEntries_some {name pattern : String} {texts : List String}
    (h : search pattern input = .ok (some texts)) :
    (sweepEntries d input ((name, pattern) :: order) found).value =
      (sweepEntries d input order (found.insert name texts)).value := by
  rw [sweepEntries, h]
  rfl

theorem sweepEntries_error {name pattern : String} {e : Error} (h : search pattern input = .error e) :
    (sweepEntries d input ((name, pattern) :: order) found).value = .error e := by
  rw [sweepEntries, h]
  rfl

/-- Valid entries of distinct names add to what was found before what their patterns find. -/
theorem sweepEntries_eq_ok (d : Disclosure) (input : String) (hvalid : ∀ e ∈ order, isValid e.2 = true)
    (hnames : (order.map Prod.fst).Nodup) (hfresh : ∀ e ∈ order, ∀ f ∈ found.entries, f.1 ≠ e.1) :
    ∃ after, (sweepEntries d input order found).value = .ok after ∧
      ∀ f, f ∈ after.entries ↔ f ∈ found.entries ∨
        ∃ pattern, (f.1, pattern) ∈ order ∧ search pattern input = .ok (some f.2) := by
  induction order generalizing found with
  | nil => exact ⟨found, rfl, by simp⟩
  | cons e order ih =>
    obtain ⟨name, pattern⟩ := e
    obtain ⟨hhead, hvalid⟩ := List.forall_mem_cons.1 hvalid
    obtain ⟨hfirst, hfresh⟩ := List.forall_mem_cons.1 hfresh
    rw [List.map_cons, List.nodup_cons] at hnames
    obtain ⟨hnew, hnames⟩ := hnames
    obtain ⟨p, hp⟩ := exists_compile_of_isValid hhead
    have hsearch := search_eq_ok hp input
    split at hsearch
    · -- The entry adds its texts, under a name that the entries behind it do not have.
      have hfresh' : ∀ e ∈ order, ∀ f ∈ (found.insert name (p.fullMatches input)).entries, f.1 ≠ e.1 := by
        intro e he f hf heq
        rcases NameMap.mem_insert.1 hf with rfl | ⟨hf, -⟩
        · exact hnew (List.mem_map.2 ⟨e, he, heq.symm⟩)
        · exact hfresh e he f hf heq
      obtain ⟨after, hafter, hmem⟩ := ih hvalid hnames hfresh'
      refine ⟨after, (sweepEntries_some hsearch).trans hafter, fun f => ?_⟩
      rw [hmem, NameMap.mem_insert]
      constructor
      · rintro ((rfl | ⟨hf, -⟩) | ⟨q, hq, hfound⟩)
        · exact .inr ⟨pattern, List.mem_cons_self, hsearch⟩
        · exact .inl hf
        · exact .inr ⟨q, List.mem_cons_of_mem _ hq, hfound⟩
      · rintro (hf | ⟨q, hq, hfound⟩)
        · exact .inl (.inr ⟨hf, hfirst f hf⟩)
        · rcases List.mem_cons.1 hq with heq | hq
          · obtain ⟨hname, rfl⟩ := Prod.mk.inj heq
            rw [hsearch] at hfound
            exact .inl (.inl (Prod.ext hname (Option.some.inj (Except.ok.inj hfound)).symm))
          · exact .inr ⟨q, hq, hfound⟩
    · -- The entry finds nothing.
      obtain ⟨after, hafter, hmem⟩ := ih hvalid hnames hfresh
      refine ⟨after, by rw [sweepEntries_none hsearch]; exact hafter, fun f => ?_⟩
      rw [hmem]
      refine or_congr_right ⟨fun ⟨q, hq, hfound⟩ => ⟨q, List.mem_cons_of_mem _ hq, hfound⟩, ?_⟩
      rintro ⟨q, hq, hfound⟩
      rcases List.mem_cons.1 hq with heq | hq
      · obtain ⟨-, rfl⟩ := Prod.mk.inj heq
        rw [hsearch] at hfound
        cases hfound
      · exact ⟨q, hq, hfound⟩

/-- Entries that are not all valid give the fault of one that is not. -/
theorem sweepEntries_eq_error (d : Disclosure) (input : String) (found : Findings)
    (h : ∃ e ∈ order, isValid e.2 = false) : ∃ e ∈ order, isValid e.2 = false ∧
      ∃ cause, (sweepEntries d input order found).value = .error (.invalidPattern e.2 cause) := by
  induction order generalizing found with
  | nil =>
    obtain ⟨e, he, -⟩ := h
    exact absurd he List.not_mem_nil
  | cons first order ih =>
    obtain ⟨name, pattern⟩ := first
    cases hvalid : isValid pattern with
    | false =>
      obtain ⟨cause, hcause⟩ := search_eq_error hvalid input
      exact ⟨(name, pattern), List.mem_cons_self, hvalid, cause, sweepEntries_error hcause⟩
    | true =>
      have hrest : ∃ e ∈ order, isValid e.2 = false := by
        obtain ⟨e, he, hinvalid⟩ := h
        rcases List.mem_cons.1 he with rfl | he
        · cases hvalid.symm.trans hinvalid
        · exact ⟨e, he, hinvalid⟩
      obtain ⟨p, hp⟩ := exists_compile_of_isValid hvalid
      have hsearch := search_eq_ok hp input
      split at hsearch
      · obtain ⟨e, he, hinvalid, cause, hcause⟩ := ih (found.insert name _) hrest
        exact ⟨e, List.mem_cons_of_mem _ he, hinvalid, cause, (sweepEntries_some hsearch).trans hcause⟩
      · obtain ⟨e, he, hinvalid, cause, hcause⟩ := ih found hrest
        exact ⟨e, List.mem_cons_of_mem _ he, hinvalid, cause, by rw [sweepEntries_none hsearch, hcause]⟩

theorem exists_sweepEntries_iff (d : Disclosure) (input : String) (hnames : (order.map Prod.fst).Nodup) :
    (∃ found, (sweepEntries d input order .empty).value = .ok found) ↔ ∀ e ∈ order, isValid e.2 = true := by
  constructor
  · rintro ⟨found, hfound⟩ e he
    by_contra hinvalid
    rw [Bool.not_eq_true] at hinvalid
    obtain ⟨_, _, _, cause, hcause⟩ := sweepEntries_eq_error d input .empty ⟨e, he, hinvalid⟩
    cases hfound.symm.trans hcause
  · intro hvalid
    have hfresh : ∀ e ∈ order, ∀ f ∈ (NameMap.empty : Findings).entries, f.1 ≠ e.1 :=
      fun _ _ _ hf => absurd hf List.not_mem_nil
    obtain ⟨found, hfound, -⟩ := sweepEntries_eq_ok d input hvalid hnames hfresh
    exact ⟨found, hfound⟩

end Entries

/-- The findings of a sweep are those of its active entries in the order of their names. -/
theorem value_sweep (c : Catalog) (d : Disclosure) (input : String) :
    (c.sweep d input).value = (sweepEntries d input c.active .empty).value := by
  simp only [sweep]
  cases sweepEntries d input c.active .empty with
  | mk value log => cases value <;> rfl

theorem nodup_active (c : Catalog) : (c.active.map Prod.fst).Nodup :=
  c.patterns.nodup_names.sublist (List.filter_sublist.map Prod.fst)

theorem mem_active {c : Catalog} {name pattern : String} :
    (name, pattern) ∈ c.active ↔ c.get? name = some pattern ∧ pattern.isEmpty = false := by
  rw [active, List.mem_filter, Bool.not_eq_true']
  exact and_congr_left fun _ => NameMap.get?_eq_some.symm

theorem sweep_eq_ok {c : Catalog} (hvalid : ∀ e ∈ c.active, isValid e.2 = true) (d : Disclosure)
    (input : String) : ∃ found, (c.sweep d input).value = .ok found ∧ ∀ f, f ∈ found.entries ↔
      ∃ pattern, (f.1, pattern) ∈ c.active ∧ search pattern input = .ok (some f.2) := by
  have hfresh : ∀ e ∈ c.active, ∀ f ∈ (NameMap.empty : Findings).entries, f.1 ≠ e.1 :=
    fun _ _ _ hf => absurd hf List.not_mem_nil
  obtain ⟨found, hfound, hmem⟩ := sweepEntries_eq_ok d input hvalid c.nodup_active hfresh
  refine ⟨found, (value_sweep c d input).trans hfound, fun f => ?_⟩
  rw [hmem]
  exact or_iff_right List.not_mem_nil

/-- A sweep succeeds iff the patterns of all active entries are valid. -/
theorem exists_sweep_iff (c : Catalog) (d : Disclosure) (input : String) :
    (∃ found, (c.sweep d input).value = .ok found) ↔ ∀ e ∈ c.active, isValid e.2 = true := by
  rw [value_sweep]
  exact exists_sweepEntries_iff d input c.nodup_active

end Catalog

/-! ## Any order -/

/-- The findings are those of the active entries of a catalog, each searched on its own: the names of those
that occur, in ascending order, with the texts of all results in the order of the input. -/
structure Findings.AreOf (found : Findings) (c : Catalog) (input : String) : Prop where
  ascending : (found.entries.map Prod.fst).Pairwise (· < ·)
  names : ∀ name, (∃ texts, found.get? name = some texts) ↔
    ∃ pattern, (name, pattern) ∈ c.active ∧ occursIn pattern .none input = .ok true
  texts : ∀ name pattern texts, (name, pattern) ∈ c.active → found.get? name = some texts →
    texts ≠ [] ∧ ∃ set, extractAll pattern .none input = .ok set ∧ texts = set.fullMatches

namespace Catalog

theorem areOf_of_mem {c : Catalog} {input : String} {found : Findings}
    (h : ∀ f, f ∈ found.entries ↔
      ∃ pattern, (f.1, pattern) ∈ c.active ∧ search pattern input = .ok (some f.2)) :
    Findings.AreOf found c input := by
  refine ⟨List.pairwise_map.2 found.sorted, fun name => ?_, fun name pattern texts hactive hget => ?_⟩
  · simp only [NameMap.get?_eq_some, h]
    constructor
    · rintro ⟨texts, pattern, hactive, hsearch⟩
      exact ⟨pattern, hactive, (search_eq_some.1 hsearch).1⟩
    · rintro ⟨pattern, hactive, hoccurs⟩
      obtain ⟨p, hp, -⟩ := Syntax.bind_eq_ok.1 hoccurs
      exact ⟨_, pattern, hactive, search_eq_some.2 ⟨hoccurs, _, extractAll_eq_ok.2 ⟨p, hp, rfl⟩, rfl⟩⟩
  · obtain ⟨q, hq, hsearch⟩ := (h (name, texts)).1 (NameMap.get?_eq_some.1 hget)
    obtain rfl : q = pattern :=
      congrArg Prod.snd (List.inj_on_of_nodup_map c.nodup_active hq hactive rfl)
    exact ⟨ne_nil_of_search hsearch, (search_eq_some.1 hsearch).2⟩

/-- In whichever order the active entries are searched, a sweep gives the findings of each of them on its
own if all are valid, and else the fault of one that is not. Entries without a text do not matter. -/
theorem sweep_in_any_order (c : Catalog) (d : Disclosure) (input : String)
    {order : List (String × String)} (horder : order.Perm c.active) :
    ((∀ e ∈ c.active, isValid e.2 = true) → ∃ found, (c.sweep d input).value = .ok found ∧
        (sweepEntries d input order .empty).value = .ok found ∧ Findings.AreOf found c input) ∧
      ((∃ e ∈ c.active, isValid e.2 = false) → ∃ e ∈ c.active, ∃ e' ∈ c.active,
        isValid e.2 = false ∧ isValid e'.2 = false ∧
          (∃ cause, (c.sweep d input).value = .error (.invalidPattern e.2 cause)) ∧
          ∃ cause, (sweepEntries d input order .empty).value = .error (.invalidPattern e'.2 cause)) ∧
      ∀ other : Catalog, other.active = c.active →
        (other.sweep d input).value = (c.sweep d input).value := by
  refine ⟨fun hvalid => ?_, fun hinvalid => ?_, fun other hother => ?_⟩
  · have hempty : ∀ (e : String × String), ∀ f ∈ (NameMap.empty : Findings).entries, f.1 ≠ e.1 :=
      fun _ f hf => absurd hf List.not_mem_nil
    have hnames : (order.map Prod.fst).Nodup := (horder.map Prod.fst).nodup_iff.2 c.nodup_active
    obtain ⟨found, hfound, hmem⟩ := sweepEntries_eq_ok d input hvalid c.nodup_active
      fun e _ => hempty e
    obtain ⟨other, hother, hmem'⟩ := sweepEntries_eq_ok d input
      (fun e he => hvalid e (horder.mem_iff.1 he)) hnames fun e _ => hempty e
    have hsame : other = found := NameMap.eq_of_mem fun f => by
      rw [hmem, hmem']
      simp only [horder.mem_iff]
    refine ⟨found, (value_sweep c d input).trans hfound, hsame ▸ hother, areOf_of_mem fun f => ?_⟩
    rw [hmem]
    exact or_iff_right List.not_mem_nil
  · obtain ⟨e, he, hinvalid', hcause⟩ := sweepEntries_eq_error d input .empty hinvalid
    obtain ⟨first, hfirst, hfirst'⟩ := hinvalid
    obtain ⟨e', he', hinvalid'', hcause'⟩ := sweepEntries_eq_error d input .empty
      ⟨first, horder.mem_iff.2 hfirst, hfirst'⟩
    rw [value_sweep]
    exact ⟨e, he, e', horder.mem_iff.1 he', hinvalid', hinvalid'', hcause, hcause'⟩
  · rw [value_sweep, value_sweep, hother]

/-- The digits are searched before the words although their name comes behind, and a catalog with a pattern
that is not valid fails. -/
theorem sweep_in_any_order_reversed :
    (∃ found, ((ofList [("number", "[0-9]+"), ("off", ""), ("word", "[a-z]+")]).sweep .full "ab 12").value =
        .ok found ∧
      (sweepEntries .full "ab 12" [("word", "[a-z]+"), ("number", "[0-9]+")] .empty).value = .ok found ∧
      Findings.AreOf found (ofList [("number", "[0-9]+"), ("off", ""), ("word", "[a-z]+")]) "ab 12") ∧
    ∃ e ∈ [("bad", "("), ("worse", "[")], ∃ e' ∈ [("bad", "("), ("worse", "[")],
      isValid e.2 = false ∧ isValid e'.2 = false ∧
        (∃ cause, ((ofList [("bad", "("), ("worse", "[")]).sweep .full "").value =
          .error (.invalidPattern e.2 cause)) ∧
        ∃ cause, (sweepEntries .full "" [("worse", "["), ("bad", "(")] .empty).value =
          .error (.invalidPattern e'.2 cause) := by
  have hwords : [("word", "[a-z]+"), ("number", "[0-9]+")].Perm
      (ofList [("number", "[0-9]+"), ("off", ""), ("word", "[a-z]+")]).active := by decide +kernel
  have hfaults : [("worse", "["), ("bad", "(")].Perm (ofList [("bad", "("), ("worse", "[")]).active := by
    decide +kernel
  exact ⟨(sweep_in_any_order _ .full "ab 12" hwords).1 (by decide +kernel),
    (sweep_in_any_order _ .full "" hfaults).2.1 (by decide +kernel)⟩

end Catalog

end TextPattern
