import TextPattern.Proofs.Range

/-!
# The texts that the two dialects accept besides numerals

* `Smaller d b text` : the text fits a row for the numerals below `b`;
* `smaller_sql` : in the dialect of the ten digits, `text` is one of the general dialect, in these digits alone;
* `smaller_of_not_numeral` : besides numerals, these are the shorter digit strings with a leading zero;
* `accepts_besides_numerals` : what a range of the ten digits accepts besides numerals;
* `IsWide b text` : a text with other digits that the class of digits takes for a numeral below `b`;
* `dialects_differ_iff` : the dialects differ on such texts alone.
-/

namespace TextPattern

variable {d : Dialect} {text : List Char} {b : Nat} {digits xs : List Nat}

/-! ## The ten digits -/

theorem contains_anyDigitSet_sql {a : Char} : Dialect.sql.anyDigitSet.contains a = true ↔ a.isDigit = true := by
  rw [isDigit_iff]
  refine (contains_digitRangeSet (Nat.zero_le 9) (by decide)).trans (exists_congr fun x => ?_)
  rw [and_iff_right (Nat.zero_le x), ← Nat.lt_succ_iff]

theorem eq_zero_of_digitChar {x : Nat} (hx : x < 10) (h : Nat.digitChar x = '0') : x = 0 :=
  (digitChar_inj hx (by decide)).1 h

/-! ## Smaller numerals -/

/-- The text fits a row for the numerals below `b`. -/
def Smaller (d : Dialect) (b : Nat) (text : List Char) : Prop :=
  SmallerDigit d (digitsOf b) text ∨ FewerDigits d (digitsOf b).length text

/-- Only the single digit 0 starts with it among the texts with a smaller digit. -/
theorem SmallerDigit.length_of_head (h : SmallerDigit d (digitsOf b) text) (hhead : text.head? = some '0') :
    text.length = 1 := by
  obtain ⟨before, digit, rest, x, fill, hdigits, hleast, hlt, rfl, hlength, -⟩ := h
  have hall : Digits (before ++ digit :: rest) := hdigits ▸ digits_digitsOf b
  obtain ⟨hbefore, hrest⟩ := digits_append.1 hall
  have hx : x < 10 := hlt.trans (digits_cons.1 hrest).1
  cases before with
  | nil =>
    obtain rfl := eq_zero_of_digitChar hx (Option.some.inj hhead)
    cases rest with
    | nil =>
      rw [List.eq_nil_of_length_eq_zero hlength]
      rfl
    | cons z rest => exact absurd hleast (Nat.not_succ_le_zero 0)
  | cons y before =>
    obtain rfl := eq_zero_of_digitChar (digits_cons.1 hbefore).1 (Option.some.inj hhead)
    exact absurd (eq_nil_of_digitsOf hdigits) (List.append_ne_nil_of_right_ne_nil _ (List.cons_ne_nil _ _))

/-- A range accepts the numeral of the bound and the texts for smaller ones, as the comparison includes them. -/
theorem accepts_iff_smaller (d : Dialect) {c : Comparison} (hc : c ∈ [.equal, .lesser, .lesserOrEqual])
    (hmax : b ≤ 9223372036854775807) :
    ∃ set, range b c d = .ok set ∧ ∀ input : String, ∃ found, set.accepts input = .ok found ∧
      (found = true ↔ (c.includesBound = true ∧ input.toList = (digitsOf b).map Nat.digitChar) ∨
        (c.includesSmaller = true ∧ Smaller d b input.toList)) := by
  have hsize := length_digitsOf_of_le hmax
  obtain ⟨set, hrange, -, haccepts⟩ := accepts_iff_fits d hc (show (digitsOf b).length ≤ 1000 by omega)
  refine ⟨set, hrange, fun input => ?_⟩
  obtain ⟨found, hfound, hiff⟩ := haccepts input
  exact ⟨found, hfound, hiff.trans (fits_rangeRows_iff c)⟩

theorem smallerDigit_sql (hdigits : Digits digits) : SmallerDigit .sql digits text ↔
    SmallerDigit .general digits text ∧ ∀ a ∈ text, a.isDigit = true := by
  constructor
  · intro h
    have hall : ∀ a ∈ text, a.isDigit = true := fun a ha => contains_anyDigitSet_sql.1 (h.contains hdigits a ha)
    obtain ⟨before, digit, rest, x, fill, rfl, hleast, hlt, rfl, hlength, hfill⟩ := h
    refine ⟨⟨before, digit, rest, x, fill, rfl, hleast, hlt, rfl, hlength, fun a ha => ?_⟩, hall⟩
    exact contains_of_isDigit .general (contains_anyDigitSet_sql.1 (hfill a ha))
  · rintro ⟨⟨before, digit, rest, x, fill, rfl, hleast, hlt, rfl, hlength, -⟩, hall⟩
    refine ⟨before, digit, rest, x, fill, rfl, hleast, hlt, rfl, hlength, fun a ha => ?_⟩
    exact contains_anyDigitSet_sql.2 (hall a (List.mem_append_right _ (List.mem_cons_of_mem _ ha)))

theorem fewerDigits_sql {n : Nat} : FewerDigits .sql n text ↔
    FewerDigits .general n text ∧ ∀ a ∈ text, a.isDigit = true := by
  constructor
  · rintro ⟨hpos, hlt, htext⟩
    have hall : ∀ a ∈ text, a.isDigit = true := fun a ha => contains_anyDigitSet_sql.1 (htext a ha)
    exact ⟨⟨hpos, hlt, fun a ha => contains_of_isDigit .general (hall a ha)⟩, hall⟩
  · rintro ⟨⟨hpos, hlt, -⟩, hall⟩
    exact ⟨hpos, hlt, fun a ha => contains_anyDigitSet_sql.2 (hall a ha)⟩

/-- The dialect of the ten digits has the texts of the general one that are written with these alone. -/
theorem smaller_sql : Smaller .sql b text ↔ Smaller .general b text ∧ ∀ a ∈ text, a.isDigit = true := by
  rw [Smaller, Smaller, smallerDigit_sql (digits_digitsOf b), fewerDigits_sql, ← or_and_right]

/-! ## Besides numerals -/

theorem head?_of_not_numeral (hxs : Digits xs) (hpos : 0 < xs.length) (hnot : ∀ n, xs ≠ digitsOf n) :
    xs.head? = some 0 ∧ 2 ≤ xs.length := by
  obtain ⟨x, ys, rfl⟩ := List.exists_cons_of_length_pos hpos
  have hlead : ¬ ∀ zs, x :: ys = 0 :: zs → zs = [] := fun h => hnot _ (digitsOf_valueOf hxs hpos h).symm
  obtain ⟨zs, hlead⟩ := not_forall.1 hlead
  obtain ⟨hzero, hmore⟩ := Classical.not_imp.1 hlead
  obtain ⟨rfl, rfl⟩ := List.cons.inj hzero
  exact ⟨rfl, Nat.succ_le_succ (List.length_pos_iff.2 hmore)⟩

/-- Besides numerals, the texts for smaller numerals are shorter digit strings with a leading zero. -/
theorem smaller_of_not_numeral (hnot : ∀ n, text ≠ (digitsOf n).map Nat.digitChar) :
    Smaller .sql b text ↔ (∀ a ∈ text, a.isDigit = true) ∧ text.head? = some '0' ∧ 2 ≤ text.length ∧
      text.length < (digitsOf b).length := by
  have hlead : (∀ a ∈ text, a.isDigit = true) → 0 < text.length → text.head? = some '0' ∧ 2 ≤ text.length := by
    intro hall hpos
    obtain ⟨xs, hxs, rfl⟩ := exists_digits hall
    rw [List.length_map] at hpos ⊢
    obtain ⟨hhead, hlength⟩ := head?_of_not_numeral hxs hpos fun n h => hnot n (h ▸ rfl)
    rw [List.head?_map, hhead]
    exact ⟨rfl, hlength⟩
  constructor
  · intro h
    have hall := (smaller_sql.1 h).2
    rcases h with h | ⟨hpos, hlt, -⟩
    · have hpos : 0 < text.length := by
        obtain ⟨before, digit, rest, x, fill, -, -, -, rfl, -⟩ := h
        rw [List.length_append, List.length_cons]
        omega
      obtain ⟨hhead, hlength⟩ := hlead hall hpos
      have := h.length_of_head hhead
      omega
    · obtain ⟨hhead, hlength⟩ := hlead hall hpos
      exact ⟨hall, hhead, hlength, hlt⟩
  · rintro ⟨hall, -, hlength, hlt⟩
    exact .inr ⟨by omega, hlt, fun a ha => contains_anyDigitSet_sql.2 (hall a ha)⟩

theorem valueOf_lt_of_smaller (h : Smaller .sql b text) :
    ∃ xs, Digits xs ∧ 0 < xs.length ∧ text = xs.map Nat.digitChar ∧ valueOf xs < b := by
  obtain ⟨xs, hxs, rfl⟩ := exists_digits (smaller_sql.1 h).2
  rcases h with h | h
  · have hlead : ∀ ys, xs = 0 :: ys → ys = [] := by
      rintro ys rfl
      have hlength := h.length_of_head rfl
      rw [List.length_map, List.length_cons] at hlength
      exact List.eq_nil_of_length_eq_zero (Nat.succ.inj hlength)
    obtain ⟨hlength, hvalue⟩ := (smallerDigit_map .sql (digits_digitsOf b) hxs hlead).1 h
    rw [valueOf_digitsOf] at hvalue
    exact ⟨xs, hxs, hlength ▸ length_digitsOf_pos b, rfl, hvalue⟩
  · obtain ⟨hpos, hlt⟩ := (fewerDigits_map .sql hxs).1 h
    exact ⟨xs, hxs, hpos, rfl, valueOf_lt_of_length_lt hxs hpos hlt⟩

theorem includesSmaller_iff {c : Comparison} : c.includesSmaller = true ↔ c = .lesser ∨ c = .lesserOrEqual := by
  rw [Comparison.includesSmaller, Bool.or_eq_true, beq_iff_eq, beq_iff_eq]

/-- Besides numerals, a range of the ten digits accepts the strings of these digits that have a leading zero and
fewer digits than the bound; and whatever it accepts is a digit string whose value satisfies the comparison. -/
theorem accepts_besides_numerals {bound : Int} (hbound : 0 ≤ bound) (hmax : bound ≤ 9223372036854775807)
    {c : Comparison} (hc : c ∈ [.equal, .lesser, .lesserOrEqual]) :
    ∃ set, range bound c .sql = .ok set ∧
      (∀ text : String, (∀ n : Nat, text ≠ toString n) → ∃ found, set.accepts text = .ok found ∧
        (found = true ↔ (c = .lesser ∨ c = .lesserOrEqual) ∧ (∀ a ∈ text.toList, a.isDigit = true) ∧
          text.toList.head? = some '0' ∧ 2 ≤ text.length ∧ text.length < (toString bound.toNat).length)) ∧
      ∀ text : String, set.accepts text = .ok true →
        text ≠ "" ∧ (∀ a ∈ text.toList, a.isDigit = true) ∧
          c.evaluate (some (compare (Nat.ofDigitChars 10 text.toList 0 : Int) bound)) = true := by
  obtain ⟨b, rfl⟩ := Int.eq_ofNat_of_zero_le hbound
  obtain ⟨set, hrange, haccepts⟩ := accepts_iff_smaller .sql hc (b := b) (by omega)
  refine ⟨set, hrange, fun text hnot => ?_, fun text htext => ?_⟩
  · obtain ⟨found, hfound, hiff⟩ := haccepts text
    have hnot' : ∀ n, text.toList ≠ (digitsOf n).map Nat.digitChar := by
      intro n h
      rw [← toList_toString] at h
      exact hnot n (String.toList_inj.1 h)
    have hlength : (toString (b : Int).toNat).length = (digitsOf b).length := by
      rw [Int.toNat_natCast, ← String.length_toList, toList_toString, List.length_map]
    rw [or_iff_right fun h => hnot' b h.2, includesSmaller_iff, smaller_of_not_numeral hnot',
      String.length_toList, ← hlength] at hiff
    exact ⟨found, hfound, hiff⟩
  · obtain ⟨found, hfound, hiff⟩ := haccepts text
    obtain rfl := Except.ok.inj (hfound.symm.trans htext)
    have hvalue : ∃ xs, Digits xs ∧ 0 < xs.length ∧ text.toList = xs.map Nat.digitChar ∧
        ((c.includesBound = true ∧ valueOf xs = b) ∨ (c.includesSmaller = true ∧ valueOf xs < b)) := by
      rcases hiff.1 rfl with ⟨hequal, h⟩ | ⟨hsmaller, h⟩
      · exact ⟨digitsOf b, digits_digitsOf b, length_digitsOf_pos b, h, .inl ⟨hequal, valueOf_digitsOf b⟩⟩
      · obtain ⟨xs, hxs, hpos, hmap, hlt⟩ := valueOf_lt_of_smaller h
        exact ⟨xs, hxs, hpos, hmap, .inr ⟨hsmaller, hlt⟩⟩
    obtain ⟨xs, hxs, hpos, hmap, hholds⟩ := hvalue
    refine ⟨?_, ?_, ?_⟩
    · rintro rfl
      rw [← List.length_map (f := Nat.digitChar), ← hmap] at hpos
      exact absurd hpos (Nat.lt_irrefl 0)
    · rw [hmap]
      exact isDigit_of_mem_map hxs
    · rw [hmap]
      exact (evaluate_compare hc (valueOf xs) b).2 hholds

theorem accepts_besides_numerals_padded : ∃ set, range 1000 .lesser .sql = .ok set ∧
    (∀ text : String, (∀ n : Nat, text ≠ toString n) → ∃ found, set.accepts text = .ok found ∧
      (found = true ↔ (Comparison.lesser = .lesser ∨ Comparison.lesser = .lesserOrEqual) ∧
        (∀ a ∈ text.toList, a.isDigit = true) ∧ text.toList.head? = some '0' ∧ 2 ≤ text.length ∧
        text.length < (toString (1000 : Int).toNat).length)) ∧
    ∀ text : String, set.accepts text = .ok true →
      text ≠ "" ∧ (∀ a ∈ text.toList, a.isDigit = true) ∧
        Comparison.lesser.evaluate (some (compare (Nat.ofDigitChars 10 text.toList 0 : Int) 1000)) = true :=
  accepts_besides_numerals (by decide) (by decide) (by decide)

/-! ## Other digits -/

/-- A text of digits, not all of them `0` to `9`, that the class of digits takes for a numeral below `b`: it is
shorter than the numeral of `b`, or as long with leading digits that are below those of `b`. -/
structure IsWide (b : Nat) (text : List Char) : Prop where
  digits : ∀ a ∈ text, Unicode.digits.contains a = true
  wide : ∃ a ∈ text, a.isDigit = false
  below : text.length < (Nat.toDigits 10 b).length ∨
    text.length = (Nat.toDigits 10 b).length ∧ (leading text).head? ≠ some '0' ∧
      Nat.ofDigitChars 10 (leading text) 0 <
        Nat.ofDigitChars 10 ((Nat.toDigits 10 b).take (leading text).length) 0

theorem length_leading_lt (hwide : ∃ a ∈ text, a.isDigit = false) : (leading text).length < text.length := by
  apply Nat.lt_of_le_of_ne (List.takeWhile_sublist _).length_le
  intro hlength
  have hall := (List.takeWhile_sublist Char.isDigit).eq_of_length hlength
  obtain ⟨a, ha, hnot⟩ := hwide
  rw [List.takeWhile_eq_self_iff.1 hall a ha] at hnot
  cases hnot

theorem smallerDigit_wide (hwide : ∃ a ∈ text, a.isDigit = false)
    (hall : ∀ a ∈ text, Unicode.digits.contains a = true) :
    SmallerDigit .general (digitsOf b) text ↔
      text.length = (Nat.toDigits 10 b).length ∧ (leading text).head? ≠ some '0' ∧
        Nat.ofDigitChars 10 (leading text) 0 <
          Nat.ofDigitChars 10 ((Nat.toDigits 10 b).take (leading text).length) 0 := by
  have hdigits := digits_digitsOf b
  obtain ⟨xs, more, hxs, hlead, htext⟩ := exists_leading text
  have hvalue : Nat.ofDigitChars 10 (leading text) 0 <
      Nat.ofDigitChars 10 ((Nat.toDigits 10 b).take (leading text).length) 0 ↔
      valueOf xs < valueOf ((digitsOf b).take xs.length) := by
    rw [hlead, ← map_digitsOf, List.length_map, ← List.map_take]
    rfl
  rw [hvalue, ← length_digitsOf]
  constructor
  · intro h
    refine ⟨h.length_eq, fun hhead => ?_, h.valueOf_lt hdigits hxs hlead⟩
    have hone : text.length = 1 := by
      apply h.length_of_head
      rw [htext, List.head?_append, ← hlead, hhead]
      rfl
    have hfew := length_leading_lt hwide
    have hsome : 0 < (leading text).length := List.length_pos_of_mem (List.mem_of_mem_head? hhead)
    omega
  · rintro ⟨hlength, hhead, hlt⟩
    rw [htext, List.length_append, List.length_map] at hlength
    rw [htext] at hall ⊢
    refine smallerDigit_of_valueOf_lt hdigits hxs hlength ?_ (List.forall_mem_append.1 hall).2 hlt
    rintro ys rfl
    exact absurd (congrArg List.head? hlead) hhead

/-- The class of digits takes the texts with other digits that are wide for a numeral below `b`. -/
theorem smaller_wide (hwide : ∃ a ∈ text, a.isDigit = false) : Smaller .general b text ↔ IsWide b text := by
  have hpos : 0 < text.length := by
    obtain ⟨a, ha, -⟩ := hwide
    exact List.length_pos_of_mem ha
  constructor
  · intro h
    have hall : ∀ a ∈ text, Unicode.digits.contains a = true := by
      rcases h with h | ⟨-, -, hall⟩
      · exact h.contains (digits_digitsOf b)
      · exact hall
    refine ⟨hall, hwide, ?_⟩
    rcases h with h | ⟨-, hlt, -⟩
    · exact .inr ((smallerDigit_wide hwide hall).1 h)
    · exact .inl (length_digitsOf b ▸ hlt)
  · rintro ⟨hall, -, hlt | hbelow⟩
    · exact .inr ⟨hpos, length_digitsOf b ▸ hlt, hall⟩
    · exact .inl ((smallerDigit_wide hwide hall).2 hbelow)

/-- The two dialects accept the same texts but for wide ones: what the ten digits accept, the class of digits
accepts, and they differ where smaller numbers satisfy the comparison and the text is wide for the bound. -/
theorem dialects_differ_iff {bound : Int} (hbound : 0 ≤ bound) (hmax : bound ≤ 9223372036854775807)
    {c : Comparison} (hc : c ∈ [.equal, .lesser, .lesserOrEqual]) :
    ∃ general sql, range bound c .general = .ok general ∧ range bound c .sql = .ok sql ∧
      ∀ text : String, ∃ byClass byRange, general.accepts text = .ok byClass ∧ sql.accepts text = .ok byRange ∧
        (byRange = true → byClass = true) ∧
        (byClass ≠ byRange ↔ (c = .lesser ∨ c = .lesserOrEqual) ∧ IsWide bound.toNat text.toList) := by
  obtain ⟨b, rfl⟩ := Int.eq_ofNat_of_zero_le hbound
  obtain ⟨general, hgeneral, hclass⟩ := accepts_iff_smaller .general hc (b := b) (by omega)
  obtain ⟨sql, hsql, hrange⟩ := accepts_iff_smaller .sql hc (b := b) (by omega)
  refine ⟨general, sql, hgeneral, hsql, fun text => ?_⟩
  obtain ⟨byClass, hbyClass, hclass⟩ := hclass text
  obtain ⟨byRange, hbyRange, hrange⟩ := hrange text
  refine ⟨byClass, byRange, hbyClass, hbyRange, ?_, ?_⟩
  · rw [hclass, hrange, smaller_sql]
    exact Or.imp_right fun ⟨hsmaller, h, _⟩ => ⟨hsmaller, h⟩
  · rw [Int.toNat_natCast, ← includesSmaller_iff]
    by_cases hall : ∀ a ∈ text.toList, a.isDigit = true
    · rw [smaller_sql, and_iff_left hall, ← hclass] at hrange
      refine iff_of_false (fun hne => hne (Bool.eq_iff_iff.2 hrange.symm)) ?_
      rintro ⟨-, hwide⟩
      obtain ⟨a, ha, hnot⟩ := hwide.wide
      rw [hall a ha] at hnot
      cases hnot
    · have hnumeral : text.toList ≠ (digitsOf b).map Nat.digitChar := by
        intro h
        rw [h] at hall
        exact hall (isDigit_of_mem_map (digits_digitsOf b))
      have hwide : ∃ a ∈ text.toList, a.isDigit = false := by
        obtain ⟨a, hnot⟩ := not_forall.1 hall
        obtain ⟨ha, hnot⟩ := Classical.not_imp.1 hnot
        exact ⟨a, ha, Bool.eq_false_iff.2 hnot⟩
      rw [or_iff_right fun h => hnumeral h.2, smaller_wide hwide] at hclass
      have hrejected : byRange = false := by
        rw [Bool.eq_false_iff, Ne, hrange, smaller_sql]
        rintro (⟨-, h⟩ | ⟨-, -, h⟩)
        · exact hnumeral h
        · exact hall h
      rw [hrejected, ← hclass, Ne, Bool.not_eq_false]

theorem dialects_differ_iff_ten : ∃ general sql, range 10 .lesser .general = .ok general ∧
    range 10 .lesser .sql = .ok sql ∧
    ∀ text : String, ∃ byClass byRange, general.accepts text = .ok byClass ∧ sql.accepts text = .ok byRange ∧
      (byRange = true → byClass = true) ∧
      (byClass ≠ byRange ↔ (Comparison.lesser = .lesser ∨ Comparison.lesser = .lesserOrEqual) ∧
        IsWide (10 : Int).toNat text.toList) :=
  dialects_differ_iff (by decide) (by decide) (by decide)

/-- The class of digits takes an Arabic digit for a numeral below ten, the range of the ten digits does not. -/
theorem dialects_differ : ∃ general sql, range 10 .lesser .general = .ok general ∧
    range 10 .lesser .sql = .ok sql ∧ general.accepts "\u0663" = .ok true ∧ sql.accepts "\u0663" = .ok false :=
  ⟨_, _, rfl, rfl, by decide +kernel, by decide +kernel⟩

end TextPattern
