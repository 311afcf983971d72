import TextPattern.Proofs.Sweep

/-!
# Sweeping merged catalogs

* `get?_merge` : an entry of a merged catalog is that of the catalog on top, or else that of the base;
* `merge_assoc` : a pile of three catalogs does not depend on which two of them are merged first;
* `finding input pattern`, `get?_of_sweep` : what a sweep has under a name depends on the text of that entry
  alone;
* `sweep_merge` : the findings of a merged catalog are those of its parts, taken name by name.

An entry without a text on top of another keeps its name, so it goes on hiding what is below it.
-/

namespace TextPattern

namespace Catalog

/-! ## Merging -/

theorem value_merge_none (c : Catalog) : (c.merge none).value = c := rfl

theorem value_override (c : Catalog) (entries : List (String × String)) :
    (c.override entries).value = ⟨c.patterns.insertAll entries⟩ := by
  induction entries generalizing c with
  | nil => rfl
  | cons e entries ih =>
    obtain ⟨name, pattern⟩ := e
    have hnext := ih ⟨c.patterns.insert name pattern⟩
    unfold override
    split
    · exact hnext
    · exact hnext

/-- An entry of a merged catalog is that of the catalog on top, or else that of the base. -/
theorem get?_merge (base user : Catalog) (name : String) :
    (base.merge (some user)).value.get? name = (user.get? name).or (base.get? name) := by
  have hvalue : (base.merge (some user)).value = (base.override user.entries).value := rfl
  rw [hvalue, value_override]
  exact NameMap.get?_insertAll user.patterns.nodup_names base.patterns name

theorem eq_of_get? {b c : Catalog} (h : ∀ name, b.get? name = c.get? name) : b = c := by
  obtain ⟨patterns⟩ := b
  obtain ⟨others⟩ := c
  exact congrArg Catalog.mk (NameMap.eq_of_get? h)

/-- A pile of three catalogs does not depend on which two of them are merged first. -/
theorem merge_assoc (a b c : Catalog) :
    ((a.merge (some b)).value.merge (some c)).value = (a.merge (some (b.merge (some c)).value)).value := by
  apply eq_of_get?
  intro name
  simp only [get?_merge, Option.or_assoc]

/-- The active entries of a merged catalog are those of the catalog on top, and those of the base that no
entry stands over. -/
theorem mem_active_merge {base user : Catalog} {name pattern : String} :
    (name, pattern) ∈ (base.merge (some user)).value.active ↔
      (name, pattern) ∈ user.active ∨ ((name, pattern) ∈ base.active ∧ user.get? name = none) := by
  simp only [mem_active, get?_merge]
  cases user.get? name with
  | none => simp
  | some text => simp

/-! ## Findings by name -/

/-- What a sweep finds for the text of an entry: nothing if that is empty or does not occur. -/
def finding (input pattern : String) : Option (List String) :=
  if pattern.isEmpty then none else (search pattern input).toOption.join

/-- What a sweep has under a name depends on the text of that entry alone. -/
theorem get?_of_sweep {c : Catalog} {d : Disclosure} {input : String} {found : Findings}
    (h : (c.sweep d input).value = .ok found) (name : String) :
    found.get? name = (c.get? name).bind (finding input) := by
  obtain ⟨found', hfound, hmem⟩ := sweep_eq_ok ((exists_sweep_iff c d input).1 ⟨found, h⟩) d input
  obtain rfl := Except.ok.inj (hfound.symm.trans h)
  apply Option.ext
  intro texts
  rw [NameMap.get?_eq_some, hmem, Option.bind_eq_some_iff]
  apply exists_congr
  intro pattern
  rw [mem_active, and_assoc]
  apply and_congr_right
  intro _
  unfold finding
  cases pattern.isEmpty with
  | true => simp
  | false =>
    rw [if_neg Bool.false_ne_true]
    cases search pattern input with
    | error e => simp [Except.toOption]
    | ok result => simp [Except.toOption]

/-! ## Sweeping -/

/-- A sweep with a merged catalog succeeds iff the active entries on top, and those of the base that no entry
stands over, are valid. It then finds, under each name, what the catalog on top finds if it has the name, and
else what the base finds. Merging is associative. -/
theorem sweep_merge (base user : Catalog) (d : Disclosure) (input : String) :
    ((∃ found, ((base.merge (some user)).value.sweep d input).value = .ok found) ↔
        (∀ e ∈ user.active, isValid e.2 = true) ∧
          ∀ e ∈ base.active, user.get? e.1 = none → isValid e.2 = true) ∧
      (∀ below above, (base.sweep d input).value = .ok below → (user.sweep d input).value = .ok above →
        ∃ found, ((base.merge (some user)).value.sweep d input).value = .ok found ∧
          ∀ name, found.get? name =
            if (user.get? name).isSome then above.get? name else below.get? name) ∧
      ∀ top : Catalog, ((base.merge (some user)).value.merge (some top)).value =
        (base.merge (some (user.merge (some top)).value)).value := by
  have hok : (∃ found, ((base.merge (some user)).value.sweep d input).value = .ok found) ↔
      (∀ e ∈ user.active, isValid e.2 = true) ∧
        ∀ e ∈ base.active, user.get? e.1 = none → isValid e.2 = true := by
    simp only [exists_sweep_iff, Prod.forall, mem_active_merge]
    constructor
    · intro h
      exact ⟨fun name pattern he => h name pattern (.inl he),
        fun name pattern he hnone => h name pattern (.inr ⟨he, hnone⟩)⟩
    · rintro ⟨huser, hbase⟩ name pattern (he | ⟨he, hnone⟩)
      · exact huser name pattern he
      · exact hbase name pattern he hnone
  refine ⟨hok, fun below above hbelow habove => ?_, merge_assoc base user⟩
  have hbase := (exists_sweep_iff base d input).1 ⟨below, hbelow⟩
  have huser := (exists_sweep_iff user d input).1 ⟨above, habove⟩
  obtain ⟨found, hfound⟩ := hok.2 ⟨huser, fun e he _ => hbase e he⟩
  refine ⟨found, hfound, fun name => ?_⟩
  rw [get?_of_sweep hfound, get?_of_sweep habove, get?_of_sweep hbelow, get?_merge]
  cases user.get? name with
  | none => rfl
  | some text => rfl

/-- The words are hidden by an empty text, and the letter `a` is added. -/
theorem sweep_merge_hidden : ∃ below above,
    ((ofList [("number", "[0-9]+"), ("word", "[a-z]+")]).sweep .full "ab 12").value = .ok below ∧
    ((ofList [("letter", "a"), ("word", "")]).sweep .full "ab 12").value = .ok above ∧
    ∃ found, ((((ofList [("number", "[0-9]+"), ("word", "[a-z]+")]).merge
        (some (ofList [("letter", "a"), ("word", "")]))).value).sweep .full "ab 12").value = .ok found ∧
      ∀ name, found.get? name = if ((ofList [("letter", "a"), ("word", "")]).get? name).isSome then
        above.get? name else below.get? name := by
  obtain ⟨below, hbelow⟩ := (exists_sweep_iff (ofList [("number", "[0-9]+"), ("word", "[a-z]+")]) .full
    "ab 12").2 (by decide +kernel)
  obtain ⟨above, habove⟩ := (exists_sweep_iff (ofList [("letter", "a"), ("word", "")]) .full "ab 12").2
    (by decide +kernel)
  exact ⟨below, above, hbelow, habove, (sweep_merge _ _ .full "ab 12").2.1 below above hbelow habove⟩

end Catalog

end TextPattern
