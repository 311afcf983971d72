import TextPattern.Proofs.Range

/-!
# The alternatives of a range exclude each other

* `Excludes r s` : no text fits both rows, `Excludes.of_length` and `Excludes.of_digit` : they differ in length,
  or in the digit behind a common start;
* `pairwise_rangeRows` : the rows of a range exclude each other;
* `range_alternatives_exclude` : no input is matched by two alternatives of a range.
-/

namespace TextPattern

/-! ## Rows without a common text -/

/-- No text fits both rows. -/
def Excludes (r s : List CharSet) : Prop := ∀ text, Fits r text → ¬ Fits s text

variable {r s : List CharSet} {before rest : List Nat} {lo digit : Nat} {d : Dialect}

theorem Excludes.symm (h : Excludes r s) : Excludes s r := fun text hs hr => h text hr hs

theorem Excludes.of_length (h : r.length ≠ s.length) : Excludes r s := by
  intro text hr hs
  exact h (hr.length_eq.trans hs.length_eq.symm)

/-- A digit excludes the smaller ones behind a common start. -/
theorem Excludes.of_digit (hlo : lo < digit) (hdigit : digit < 10) :
    Excludes (digitRow before ++ .single (Nat.digitChar digit) :: r)
      (digitRow before ++ digitRangeSet lo (digit - 1) :: s) := by
  intro text hr hs
  obtain ⟨more, rfl, hmore⟩ := (fits_singles _).1 hr
  obtain ⟨_, hsame, hmore'⟩ := (fits_singles _).1 hs
  obtain rfl := List.append_cancel_left hsame
  obtain ⟨a, _, ha, -, rfl⟩ := fits_cons.1 hmore
  obtain ⟨_, _, ha', -, hsame⟩ := fits_cons.1 hmore'
  obtain ⟨rfl, -⟩ := List.cons.inj hsame
  rw [CharSet.contains_single, decide_eq_true_iff] at ha
  subst ha
  obtain ⟨x, -, hx, hsame⟩ := (contains_digitRangeSet (by omega) (by omega)).1 ha'
  have := (digitChar_inj hdigit (by omega)).1 hsame
  omega

/-! ## Rows for one length -/

theorem digitRow_append (xs ys : List Nat) : digitRow (xs ++ ys) = digitRow xs ++ digitRow ys := by
  unfold digitRow
  rw [List.map_append, List.map_append]

theorem length_digitRow (xs : List Nat) : (digitRow xs).length = xs.length := by
  unfold digitRow
  rw [List.length_map, List.length_map]

theorem length_of_mem_sameLengthRows (h : r ∈ sameLengthRows d before rest) :
    r.length = before.length + rest.length := by
  obtain ⟨ys, digit, zs, rfl, -, rfl⟩ := mem_sameLengthRows.1 h
  simp only [List.length_append, List.length_cons, length_digitRow, Dialect.anyRow, List.length_replicate]
  omega

/-- The digits themselves exclude the rows for their length. -/
theorem excludes_digitRow (hrest : Digits rest) (h : r ∈ sameLengthRows d before rest) :
    Excludes (digitRow (before ++ rest)) r := by
  obtain ⟨ys, digit, zs, rfl, hleast, rfl⟩ := mem_sameLengthRows.1 h
  have hdigit : digit < 10 := (digits_cons.1 (digits_append.1 hrest).2).1
  rw [← List.append_assoc, digitRow_append]
  exact .of_digit hleast hdigit

/-- The rows for one length exclude each other: the first of two has a smaller digit where the other has the
digit itself. -/
theorem pairwise_sameLengthRows (d : Dialect) (before : List Nat) (hrest : Digits rest) :
    (sameLengthRows d before rest).Pairwise Excludes := by
  induction rest generalizing before with
  | nil => exact .nil
  | cons digit rest ih =>
    obtain ⟨hdigit, hrest⟩ := digits_cons.1 hrest
    rw [sameLengthRows]
    refine List.pairwise_append.2 ⟨?_, ih (before ++ [digit]) hrest, ?_⟩
    · generalize (if before.isEmpty && !rest.isEmpty then 1 else 0) = least
      split
      · exact List.pairwise_singleton _ _
      · exact .nil
    · intro r hr s hs
      obtain ⟨hleast, hr⟩ := List.mem_ite_nil_right.1 hr
      obtain rfl := List.mem_singleton.1 hr
      obtain ⟨ys, y, zs, -, -, rfl⟩ := mem_sameLengthRows.1 hs
      rw [digitRow_append, digitRow_append, List.append_assoc, List.append_assoc]
      exact (Excludes.of_digit hleast hdigit).symm

/-! ## Rows of a range -/

theorem length_of_mem_shorterRows {n : Nat} (h : r ∈ shorterRows d n) : r.length < n := by
  obtain ⟨k, hk, rfl⟩ := List.mem_map.1 h
  have := List.mem_range.1 hk
  rw [Dialect.anyRow, List.length_replicate]
  omega

theorem pairwise_shorterRows (d : Dialect) (n : Nat) : (shorterRows d n).Pairwise Excludes := by
  refine List.pairwise_map.2 (List.pairwise_lt_range.imp fun {j k} hlt => ?_)
  apply Excludes.of_length
  rw [Dialect.anyRow, Dialect.anyRow, List.length_replicate, List.length_replicate]
  omega

/-- The rows of a range exclude each other. -/
theorem pairwise_rangeRows (b : Nat) (c : Comparison) (d : Dialect) :
    (rangeRows b c d).Pairwise Excludes := by
  have hdigits := digits_digitsOf b
  have hequal : ∀ s ∈ sameLengthRows d [] (digitsOf b) ++ shorterRows d (digitsOf b).length,
      Excludes (digitRow (digitsOf b)) s := by
    intro s hs
    rcases List.mem_append.1 hs with hs | hs
    · exact excludes_digitRow hdigits hs
    · have := length_of_mem_shorterRows hs
      exact .of_length (by rw [length_digitRow]; omega)
  have hsmaller :
      (sameLengthRows d [] (digitsOf b) ++ shorterRows d (digitsOf b).length).Pairwise Excludes := by
    refine List.pairwise_append.2 ⟨pairwise_sameLengthRows d [] hdigits, pairwise_shorterRows d _, ?_⟩
    intro r hr s hs
    have hlength := length_of_mem_sameLengthRows hr
    have hshorter := length_of_mem_shorterRows hs
    rw [List.length_nil] at hlength
    exact .of_length (by omega)
  unfold rangeRows
  cases c.includesBound <;> cases c.includesSmaller
  · exact .nil
  · exact hsmaller
  · exact List.pairwise_singleton _ _
  · exact List.pairwise_cons.2 ⟨hequal, hsmaller⟩

/-! ## Alternatives -/

/-- Patterns that decide excluding rows do not match the whole of one input. -/
theorem pairwise_of_decides {ps : List Pattern} {rows : List (List CharSet)}
    (h : List.Forall₂ (fun p row => Decides p (Fits row)) ps rows) (hrows : rows.Pairwise Excludes)
    (input : String) :
    ps.Pairwise fun p q => ¬ (p.matchesWhole input = .ok true ∧ q.matchesWhole input = .ok true) := by
  have hfits : ∀ {p row}, Decides p (Fits row) → p.matchesWhole input = .ok true → Fits row input.toList := by
    intro p row hdecides hp
    obtain ⟨found, hfound, hiff⟩ := hdecides input
    rw [hfound, Except.ok.injEq] at hp
    exact hiff.1 hp
  rw [List.pairwise_iff_getElem]
  intro i j hi hj hlt
  rintro ⟨hp, hq⟩
  have hi' : i < rows.length := h.length_eq ▸ hi
  have hj' : j < rows.length := h.length_eq ▸ hj
  exact List.pairwise_iff_getElem.1 hrows i j hi' hj' hlt input.toList (hfits (h.get hi hi') hp)
    (hfits (h.get hj hj') hq)

/-- No input is matched by two alternatives of a range. -/
theorem range_alternatives_exclude {bound : Int} (hbound : 0 ≤ bound) (hmax : bound ≤ 9223372036854775807)
    {c : Comparison} (hc : c ∈ [.equal, .lesser, .lesserOrEqual]) (dialect : Dialect) :
    ∃ set ps, range bound c dialect = .ok set ∧ set.compile = .ok ps ∧
      ∀ input : String, (∀ p ∈ ps, (p.matchesWhole input).isOk = true) ∧
        ps.Pairwise fun p q => ¬ (p.matchesWhole input = .ok true ∧ q.matchesWhole input = .ok true) := by
  obtain ⟨b, rfl⟩ := Int.eq_ofNat_of_zero_le hbound
  have hsize := length_digitsOf_of_le (b := b) (by omega)
  have hdenotes := denotes_rangeTexts dialect c (b := b) (by omega)
  obtain ⟨ps, hps, hrows⟩ := exists_compile_of_denotes hdenotes
  refine ⟨_, ps, range_eq_ok dialect hc b, hps, fun input => ⟨?_, ?_⟩⟩
  · refine ((List.forall₂_and_left _ _).1 (hrows.imp fun p row hdecides => ⟨?_, hdecides⟩)).1
    obtain ⟨found, hfound, -⟩ := hdecides input
    rw [hfound]
    rfl
  · exact pairwise_of_decides hrows (pairwise_rangeRows b c dialect) input

theorem range_alternatives_exclude_sql : ∃ set ps, range 1125 .lesserOrEqual .sql = .ok set ∧
    set.compile = .ok ps ∧
    ∀ input : String, (∀ p ∈ ps, (p.matchesWhole input).isOk = true) ∧
      ps.Pairwise fun p q => ¬ (p.matchesWhole input = .ok true ∧ q.matchesWhole input = .ok true) :=
  range_alternatives_exclude (by decide) (by decide) (by decide) .sql

end TextPattern
