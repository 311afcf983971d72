import Mathlib.Algebra.Order.Ring.Nat
import Mathlib.Data.List.TakeWhile
import TextPattern.Range.Basic

/-!
# Digits and numbers

* `Digits` : decimal digits, `valueOf` : the number with given digits;
* `valueOf_cons_lt` : of two numerals of one length, the first digit decides before the others, `valueOf_lt_iff` :
  the smaller one has a smaller digit where the two first differ;
* `exists_digits` : a text of digit characters as digits, `leading` : the digit characters at its start;
* `valueOf_digitsOf` : the digits of a number have its value, `eq_nil_of_digitsOf` : only zero starts with 0,
  `digitsOf_valueOf` : other digits are those of their value;
* `lt_iff_digitsOf` : the order of two numbers by their digits.
-/

namespace TextPattern

/-! ## Values -/

/-- The number with the given digits, the leading one first. -/
def valueOf (digits : List Nat) : Nat := Nat.ofDigitChars 10 (digits.map Nat.digitChar) 0

def Digits (xs : List Nat) : Prop := ∀ x ∈ xs, x < 10

variable {x y : Nat} {xs ys : List Nat}

theorem digits_cons : Digits (x :: xs) ↔ x < 10 ∧ Digits xs := List.forall_mem_cons

theorem digits_append : Digits (xs ++ ys) ↔ Digits xs ∧ Digits ys := List.forall_mem_append

theorem digits_take (hxs : Digits xs) (n : Nat) : Digits (xs.take n) := fun x hx => hxs x (List.mem_of_mem_take hx)

theorem valueOf_cons (hx : x < 10) (xs : List Nat) :
    valueOf (x :: xs) = 10 ^ xs.length * x + valueOf xs := by
  unfold valueOf
  rw [List.map_cons, Nat.ofDigitChars_cons_digitChar_of_lt_ten hx, Nat.ofDigitChars_eq_ofDigitChars_zero,
    List.length_map, Nat.mul_zero, Nat.zero_add]

theorem valueOf_lt (hxs : Digits xs) : valueOf xs < 10 ^ xs.length := by
  induction xs with
  | nil => exact Nat.one_pos
  | cons x xs ih =>
    obtain ⟨hx, hxs⟩ := digits_cons.1 hxs
    have hrest := ih hxs
    have hdigit : 10 ^ xs.length * x ≤ 10 ^ xs.length * 9 := Nat.mul_le_mul_left _ (by omega)
    rw [valueOf_cons hx, List.length_cons, Nat.pow_succ]
    omega

theorem valueOf_cons_lt (hxs : Digits (x :: xs)) (hys : Digits (y :: ys)) (hlength : xs.length = ys.length) :
    valueOf (x :: xs) < valueOf (y :: ys) ↔ x < y ∨ x = y ∧ valueOf xs < valueOf ys := by
  obtain ⟨hx, hxs⟩ := digits_cons.1 hxs
  obtain ⟨hy, hys⟩ := digits_cons.1 hys
  have hltx := valueOf_lt hxs
  have hlty := valueOf_lt hys
  rw [valueOf_cons hx, valueOf_cons hy, hlength] at *
  have hstep : ∀ {a b : Nat}, a < b → 10 ^ ys.length * a + 10 ^ ys.length ≤ 10 ^ ys.length * b := by
    intro a b hab
    rw [← Nat.mul_succ]
    exact Nat.mul_le_mul_left _ hab
  rcases Nat.lt_trichotomy x y with h | rfl | h
  · have := hstep h
    exact iff_of_true (by omega) (.inl h)
  · constructor
    · exact fun hlt => .inr ⟨rfl, by omega⟩
    · rintro (hlt | ⟨-, hlt⟩) <;> omega
  · have := hstep h
    exact iff_of_false (by omega) (by omega)

/-- Of two numerals of one length, the smaller one has a smaller digit where the two first differ. -/
theorem valueOf_lt_iff (hxs : Digits xs) (hys : Digits ys) (hlength : xs.length = ys.length) :
    valueOf xs < valueOf ys ↔
      ∃ before x us y vs, xs = before ++ x :: us ∧ ys = before ++ y :: vs ∧ x < y := by
  induction xs generalizing ys with
  | nil =>
    rw [List.eq_nil_of_length_eq_zero hlength.symm]
    refine iff_of_false (Nat.lt_irrefl _) ?_
    rintro ⟨before, x, us, -, -, hnil, -⟩
    exact List.append_ne_nil_of_right_ne_nil before (List.cons_ne_nil x us) hnil.symm
  | cons x xs ih =>
    obtain ⟨y, ys, rfl⟩ := List.exists_cons_of_length_eq_add_one hlength.symm
    have hlength := Nat.succ.inj hlength
    rw [valueOf_cons_lt hxs hys hlength, ih (digits_cons.1 hxs).2 (digits_cons.1 hys).2 hlength]
    constructor
    · rintro (hlt | ⟨rfl, before, x', us, y', vs, rfl, rfl, hlt⟩)
      · exact ⟨[], x, xs, y, ys, rfl, rfl, hlt⟩
      · exact ⟨x :: before, x', us, y', vs, rfl, rfl, hlt⟩
    · rintro ⟨before, x', us, y', vs, hx, hy, hlt⟩
      cases before with
      | nil =>
        obtain ⟨rfl, -⟩ := List.cons.inj hx
        obtain ⟨rfl, -⟩ := List.cons.inj hy
        exact .inl hlt
      | cons z before =>
        obtain ⟨rfl, hxs'⟩ := List.cons.inj hx
        obtain ⟨rfl, hys'⟩ := List.cons.inj hy
        exact .inr ⟨rfl, before, x', us, y', vs, hxs', hys', hlt⟩

/-- Numerals of one length are known by their values. -/
theorem valueOf_inj (hxs : Digits xs) (hys : Digits ys) (hlength : xs.length = ys.length)
    (hvalue : valueOf xs = valueOf ys) : xs = ys := by
  induction xs generalizing ys with
  | nil => exact (List.eq_nil_of_length_eq_zero hlength.symm).symm
  | cons x xs ih =>
    obtain ⟨y, ys, rfl⟩ := List.exists_cons_of_length_eq_add_one hlength.symm
    have hlength := Nat.succ.inj hlength
    have hlt := valueOf_cons_lt hxs hys hlength
    have hgt := valueOf_cons_lt hys hxs hlength.symm
    have hxy : x = y ∧ valueOf xs = valueOf ys := by omega
    rw [hxy.1, ih (digits_cons.1 hxs).2 (digits_cons.1 hys).2 hlength hxy.2]

/-! ## Digits in a text -/

variable {text : List Char}

theorem digitChar_inj (hx : x < 10) (hy : y < 10) : Nat.digitChar x = Nat.digitChar y ↔ x = y := by
  rw [← Char.toNat_inj, Nat.toNat_digitChar_of_lt_ten hx, Nat.toNat_digitChar_of_lt_ten hy]
  omega

theorem map_digitChar_inj (hxs : Digits xs) (hys : Digits ys) :
    xs.map Nat.digitChar = ys.map Nat.digitChar ↔ xs = ys := by
  refine ⟨fun h => ?_, fun h => h ▸ rfl⟩
  have hback : ∀ {zs : List Nat}, Digits zs → (zs.map Nat.digitChar).map (fun c => c.toNat - 48) = zs := by
    intro zs hzs
    calc (zs.map Nat.digitChar).map (fun c => c.toNat - 48)
        = zs.map id := by
          rw [List.map_map]
          exact List.map_congr_left fun z hz => Nat.toNat_digitChar_sub_48_of_lt_ten (hzs z hz)
      _ = zs := List.map_id zs
  rw [← hback hxs, h, hback hys]

theorem toNat_of_isDigit {c : Char} (hc : c.isDigit = true) : 48 ≤ c.toNat ∧ c.toNat ≤ 57 := by
  simp only [Char.isDigit, Bool.and_eq_true, decide_eq_true_eq] at hc
  exact hc

theorem isDigit_iff {a : Char} : a.isDigit = true ↔ ∃ x < 10, a = Nat.digitChar x := by
  constructor
  · intro ha
    obtain ⟨hlo, hhi⟩ := toNat_of_isDigit ha
    refine ⟨a.toNat - 48, by omega, Char.toNat_inj.1 ?_⟩
    rw [Nat.toNat_digitChar_of_lt_ten (by omega)]
    omega
  · rintro ⟨x, hx, rfl⟩
    rw [Nat.isDigit_digitChar, decide_eq_true hx]

theorem isDigit_of_mem_map (hxs : Digits xs) : ∀ a ∈ xs.map Nat.digitChar, a.isDigit = true := by
  intro a ha
  obtain ⟨x, hx, rfl⟩ := List.mem_map.1 ha
  exact isDigit_iff.2 ⟨x, hxs x hx, rfl⟩

theorem exists_digits (h : ∀ a ∈ text, a.isDigit = true) : ∃ xs, Digits xs ∧ text = xs.map Nat.digitChar := by
  induction text with
  | nil => exact ⟨[], List.forall_mem_nil _, rfl⟩
  | cons a text ih =>
    obtain ⟨ha, htext⟩ := List.forall_mem_cons.1 h
    obtain ⟨x, hx, rfl⟩ := isDigit_iff.1 ha
    obtain ⟨xs, hxs, rfl⟩ := ih htext
    exact ⟨x :: xs, digits_cons.2 ⟨hx, hxs⟩, rfl⟩

/-- The digits `0` to `9` at the start of a text. -/
def leading (text : List Char) : List Char := text.takeWhile Char.isDigit

theorem leading_append (hxs : Digits xs) (fill : List Char) :
    leading (xs.map Nat.digitChar ++ fill) = xs.map Nat.digitChar ++ leading fill :=
  List.takeWhile_append_of_pos (isDigit_of_mem_map hxs)

theorem exists_leading (text : List Char) : ∃ xs rest, Digits xs ∧ leading text = xs.map Nat.digitChar ∧
    text = xs.map Nat.digitChar ++ rest := by
  have hdigits : ∀ a ∈ leading text, a.isDigit = true := fun a ha => List.mem_takeWhile_imp ha
  obtain ⟨xs, hxs, hlead⟩ := exists_digits hdigits
  refine ⟨xs, text.dropWhile Char.isDigit, hxs, hlead, ?_⟩
  rw [← hlead, leading, List.takeWhile_append_dropWhile]

/-! ## Digits of a number -/

theorem digits_digitsOf (n : Nat) : Digits (digitsOf n) := by
  intro x hx
  obtain ⟨c, hc, rfl⟩ := List.mem_map.1 hx
  have := toNat_of_isDigit (Nat.isDigit_of_mem_toDigits (by decide) (Nat.le_refl 10) hc)
  change c.toNat - 48 < 10
  omega

theorem map_digitsOf (n : Nat) : (digitsOf n).map Nat.digitChar = Nat.toDigits 10 n := by
  have hdigit : ∀ c ∈ Nat.toDigits 10 n, Nat.digitChar (c.toNat - '0'.toNat) = c := by
    intro c hc
    obtain ⟨x, hx, rfl⟩ := isDigit_iff.1 (Nat.isDigit_of_mem_toDigits (by decide) (Nat.le_refl 10) hc)
    exact congrArg Nat.digitChar (Nat.toNat_digitChar_sub_48_of_lt_ten hx)
  calc (digitsOf n).map Nat.digitChar
      = (Nat.toDigits 10 n).map id := by
        rw [digitsOf, List.map_map]
        exact List.map_congr_left hdigit
    _ = Nat.toDigits 10 n := List.map_id _

theorem valueOf_digitsOf (n : Nat) : valueOf (digitsOf n) = n := by
  rw [valueOf, map_digitsOf, Nat.ofDigitChars_ten_toDigits]

theorem toList_toString (n : Nat) : (toString n).toList = (digitsOf n).map Nat.digitChar := by
  rw [map_digitsOf, Nat.toString_eq_ofList_toDigits, String.toList_ofList]

theorem length_digitsOf (n : Nat) : (digitsOf n).length = (Nat.toDigits 10 n).length := by
  rw [digitsOf, List.length_map]

theorem length_digitsOf_pos (n : Nat) : 0 < (digitsOf n).length := by
  rw [length_digitsOf]
  exact Nat.length_toDigits_pos

/-- Digits that are fewer than those of a number have a smaller value. -/
theorem valueOf_lt_of_length_lt {b : Nat} (hxs : Digits xs) (hpos : 0 < xs.length)
    (h : xs.length < (digitsOf b).length) : valueOf xs < b := by
  have hvalue := valueOf_lt hxs
  have hb : ¬ b < 10 ^ xs.length := by
    rw [← Nat.length_toDigits_le_iff (by decide) hpos, ← length_digitsOf]
    omega
  omega

theorem lt_of_length_digitsOf_lt {n b : Nat} (h : (digitsOf n).length < (digitsOf b).length) : n < b := by
  rw [← valueOf_digitsOf n]
  exact valueOf_lt_of_length_lt (digits_digitsOf n) (length_digitsOf_pos n) h

/-- Only the numeral of zero starts with the digit zero. -/
theorem eq_nil_of_digitsOf {n : Nat} (h : digitsOf n = 0 :: xs) : xs = [] := by
  by_contra hne
  have hpos : 0 < xs.length := List.length_pos_iff.2 hne
  have hxs : Digits xs := (digits_cons.1 (h ▸ digits_digitsOf n)).2
  have hn : n < 10 ^ xs.length := by
    rw [← valueOf_digitsOf n, h, valueOf_cons (by decide), Nat.mul_zero, Nat.zero_add]
    exact valueOf_lt hxs
  have hlength := (Nat.length_toDigits_le_iff (by decide) hpos).2 hn
  rw [← length_digitsOf, h, List.length_cons] at hlength
  omega

/-- Digits are those of their value unless the leading one of several is zero. -/
theorem digitsOf_valueOf (hxs : Digits xs) (hpos : 0 < xs.length) (hlead : ∀ ys, xs = 0 :: ys → ys = []) :
    digitsOf (valueOf xs) = xs := by
  have hlength : (digitsOf (valueOf xs)).length = xs.length := by
    apply Nat.le_antisymm
    · rw [length_digitsOf, Nat.length_toDigits_le_iff (by decide) hpos]
      exact valueOf_lt hxs
    · apply Nat.le_of_not_lt
      intro hlt
      obtain ⟨x, ys, rfl⟩ := List.exists_cons_of_length_pos hpos
      have hfew : (digitsOf (valueOf (x :: ys))).length ≤ ys.length := Nat.le_of_lt_succ hlt
      have hys : 0 < ys.length := (length_digitsOf_pos _).trans_le hfew
      have hx : 0 < x := by
        rcases Nat.eq_zero_or_pos x with rfl | hx
        · rw [hlead ys rfl] at hys
          exact absurd hys (Nat.lt_irrefl 0)
        · exact hx
      rw [length_digitsOf, Nat.length_toDigits_le_iff (by decide) hys,
        valueOf_cons (digits_cons.1 hxs).1] at hfew
      have := Nat.le_mul_of_pos_right (10 ^ ys.length) hx
      omega
  exact valueOf_inj (digits_digitsOf _) hxs hlength (valueOf_digitsOf _)

/-- A number is below another if it has fewer digits, or as many and is smaller among those. -/
theorem lt_iff_digitsOf (n b : Nat) : n < b ↔
    ((digitsOf n).length = (digitsOf b).length ∧ valueOf (digitsOf n) < valueOf (digitsOf b)) ∨
      (digitsOf n).length < (digitsOf b).length := by
  rw [valueOf_digitsOf, valueOf_digitsOf]
  constructor
  · intro hlt
    rcases Nat.lt_trichotomy (digitsOf n).length (digitsOf b).length with h | h | h
    · exact .inr h
    · exact .inl ⟨h, hlt⟩
    · have := lt_of_length_digitsOf_lt h
      omega
  · rintro (⟨-, hlt⟩ | h)
    · exact hlt
    · exact lt_of_length_digitsOf_lt h

end TextPattern
