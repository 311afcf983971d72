import TextPattern.Proofs.Numeral
import TextPattern.Proofs.Sequence

/-!
# The texts that a range accepts

* `exists_compile_of_denotes` : what denotes something compiles to a pattern that decides it,
  `accepts_of_denotes` : alternatives accept the inputs that one of them denotes;
* `rangeRows` : the alternatives of a range as rows of sets of characters, `denotes_rangeTexts` : each
  alternative denotes the texts that fit its row;
* `accepts_iff_fits` : a range accepts the inputs that fit one of its rows;
* `fits_rangeRows_iff` : the texts that fit the rows of a range, `SmallerDigit` and `FewerDigits` : those of the
  rows for smaller numerals, `fits_rangeRows` : the numerals among them;
* `accepts_range` : a range accepts the numerals that satisfy the comparison.
-/

namespace TextPattern

open Syntax

/-! ## Alternatives -/

variable {α : Type} {P : α → List Char → Prop}

/-- The pattern matches the whole of the inputs that `P` holds of, and fails on none. -/
def Decides (p : Pattern) (P : List Char → Prop) : Prop :=
  ∀ input, ∃ found, p.matchesWhole input = .ok found ∧ (found = true ↔ P input.toList)

theorem exists_compile_of_denotes {texts : List (List Char)} {rows : List α}
    (h : List.Forall₂ (fun text row => Denotes text (P row)) texts rows) :
    ∃ ps, (Alternatives.mk (texts.map String.ofList)).compile = .ok ps ∧
      List.Forall₂ (fun p row => Decides p (P row)) ps rows := by
  induction h with
  | nil => exact ⟨[], rfl, .nil⟩
  | @cons text row texts rows hdenotes _ ih =>
    obtain ⟨p, hp, hdecides⟩ := hdenotes
    obtain ⟨ps, hps, hrows⟩ := ih
    refine ⟨p :: ps, ?_, .cons hdecides hrows⟩
    unfold Alternatives.compile at hps ⊢
    rw [List.map_cons, List.mapM_cons, hp, ok_bind, hps]
    rfl

theorem anyMatchesWhole_of_decides {ps : List Pattern} {rows : List α}
    (h : List.Forall₂ (fun p row => Decides p (P row)) ps rows) (input : String) :
    ∃ found, Alternatives.anyMatchesWhole input ps = .ok found ∧
      (found = true ↔ ∃ row ∈ rows, P row input.toList) := by
  induction h with
  | nil => exact ⟨false, rfl, by simp⟩
  | @cons p row ps rows hdecides _ ih =>
    obtain ⟨here, hhere, hrow⟩ := hdecides input
    obtain ⟨later, hlater, hrows⟩ := ih
    simp only [List.exists_mem_cons_iff, ← hrow, ← hrows]
    unfold Alternatives.anyMatchesWhole
    rw [hhere]
    cases here with
    | true => exact ⟨true, rfl, by simp⟩
    | false => exact ⟨later, hlater, by simp⟩

/-- Alternatives accept the inputs that one of them denotes. -/
theorem accepts_of_denotes {texts : List (List Char)} {rows : List α}
    (h : List.Forall₂ (fun text row => Denotes text (P row)) texts rows) (input : String) :
    ∃ found, (Alternatives.mk (texts.map String.ofList)).accepts input = .ok found ∧
      (found = true ↔ ∃ row ∈ rows, P row input.toList) := by
  obtain ⟨ps, hps, hrows⟩ := exists_compile_of_denotes h
  rw [Alternatives.accepts, hps, ok_bind]
  exact anyMatchesWhole_of_decides hrows input

/-! ## Rows -/

def Dialect.anyDigitSet : Dialect → CharSet
  | .general => Unicode.digits
  | .sql => .range (Nat.digitChar 0).toNat (Nat.digitChar 9).toNat

def digitRangeSet (lo hi : Nat) : CharSet := .range (Nat.digitChar lo).toNat (Nat.digitChar hi).toNat

def digitRow (digits : List Nat) : List CharSet := (digits.map Nat.digitChar).map .single

def Dialect.anyRow (d : Dialect) (n : Nat) : List CharSet := List.replicate n d.anyDigitSet

def sameLengthRows (d : Dialect) : (before rest : List Nat) → List (List CharSet)
  | _, [] => []
  | before, digit :: rest =>
    let least := if before.isEmpty && !rest.isEmpty then 1 else 0
    let here :=
      if least < digit then [digitRow before ++ digitRangeSet least (digit - 1) :: d.anyRow rest.length] else []
    here ++ sameLengthRows d (before ++ [digit]) rest

def shorterRows (d : Dialect) (n : Nat) : List (List CharSet) :=
  (List.range (n - 1)).map fun k => d.anyRow (k + 1)

def rangeRows (bound : Nat) (c : Comparison) (d : Dialect) : List (List CharSet) :=
  (if c.includesBound then [digitRow (digitsOf bound)] else []) ++
    (if c.includesSmaller then
      sameLengthRows d [] (digitsOf bound) ++ shorterRows d (digitsOf bound).length else [])

variable {x lo hi : Nat} {before rest digits xs : List Nat}

theorem isMeta_digitChar (hx : x < 10) : isMeta (Nat.digitChar x) = false := by
  have hall : ∀ x < 10, isMeta (Nat.digitChar x) = false := by decide +kernel
  exact hall x hx

theorem isItem_digitRange (hle : lo ≤ hi) (hhi : hi < 10) :
    IsItem (digitRange lo hi) (.chars (digitRangeSet lo hi)) := by
  refine (isOperand_range (isMember_of_not_isMeta (isMeta_digitChar (by omega)))
    (isMember_of_not_isMeta (isMeta_digitChar hhi)) ?_).isItem
  rw [Char.le_def, UInt32.le_iff_toNat_le]
  change (Nat.digitChar lo).toNat ≤ (Nat.digitChar hi).toNat
  rw [Nat.toNat_digitChar_of_lt_ten (by omega), Nat.toNat_digitChar_of_lt_ten hhi]
  omega

theorem isItem_anyDigit (d : Dialect) : IsItem d.anyDigit (.chars d.anyDigitSet) := by
  cases d with
  | general => exact isOperand_digit.isItem
  | sql => exact isItem_digitRange (Nat.zero_le 9) (by decide)

theorem spells_anyRow (d : Dialect) (n : Nat) : Spells (d.digits n) ((d.anyRow n).map .chars) := by
  rw [Dialect.anyRow, List.map_replicate]
  exact Spells.replicate (isItem_anyDigit d) n

theorem spells_digitRow (hdigits : Digits digits) :
    Spells (digits.map Nat.digitChar) ((digitRow digits).map .chars) := by
  have hplain : ∀ c ∈ digits.map Nat.digitChar, isMeta c = false := by
    intro c hc
    obtain ⟨y, hy, rfl⟩ := List.mem_map.1 hc
    exact isMeta_digitChar (hdigits y hy)
  have hspells := Spells.literals (digits.map Nat.digitChar) hplain
  rwa [digitRow, List.map_map (g := Expr.chars)]

/-! ### Sizes -/

theorem stateSize_digitRangeSet (hlo : lo < 10) (hhi : hi < 10) (backwards : Bool) :
    (Expr.chars (digitRangeSet lo hi)).stateSize backwards false ≤ 10000 := by
  have hall : ∀ lo < 10, ∀ hi < 10, ∀ backwards,
      (Expr.chars (digitRangeSet lo hi)).stateSize backwards false ≤ 10000 := by decide +kernel
  exact hall lo hlo hi hhi backwards

theorem stateSize_digitRow (hdigits : Digits digits) :
    ∀ s ∈ digitRow digits, ∀ backwards, (Expr.chars s).stateSize backwards false ≤ 10000 := by
  have hall : ∀ x < 10, ∀ backwards,
      (Expr.chars (.single (Nat.digitChar x))).stateSize backwards false ≤ 10000 := by decide +kernel
  intro s hs
  rw [digitRow, List.map_map] at hs
  obtain ⟨y, hy, rfl⟩ := List.mem_map.1 hs
  exact hall y (hdigits y hy)

theorem stateSize_anyRow (d : Dialect) (n : Nat) :
    ∀ s ∈ d.anyRow n, ∀ backwards, (Expr.chars s).stateSize backwards false ≤ 10000 := by
  intro s hs
  rw [List.eq_of_mem_replicate hs]
  cases d with
  | general => decide +kernel
  | sql => exact stateSize_digitRangeSet (by decide) (by decide)

/-! ### Denotations -/

theorem denotes_digitRow (hdigits : Digits digits) (hsize : digits.length ≤ 1000) :
    Denotes (digits.map Nat.digitChar) (Fits (digitRow digits)) := by
  refine (spells_digitRow hdigits).denotes_row ⟨?_, stateSize_digitRow hdigits⟩
  rwa [digitRow, List.length_map, List.length_map]

theorem denotes_digitRange (d : Dialect) (hbefore : Digits before) (hle : lo ≤ hi) (hhi : hi < 10) {n : Nat}
    (hsize : before.length + n < 1000) :
    Denotes (before.map Nat.digitChar ++ digitRange lo hi ++ d.digits n)
      (Fits (digitRow before ++ digitRangeSet lo hi :: d.anyRow n)) := by
  refine Spells.denotes_row ?_ ⟨?_, ?_⟩
  · rw [List.append_assoc, List.map_append, List.map_cons]
    exact (spells_digitRow hbefore).append (.cons (isItem_digitRange hle hhi) (spells_anyRow d n))
  · simp only [digitRow, Dialect.anyRow, List.length_append, List.length_map, List.length_cons,
      List.length_replicate]
    omega
  · rw [List.forall_mem_append, List.forall_mem_cons]
    exact ⟨stateSize_digitRow hbefore, stateSize_digitRangeSet (by omega) hhi, stateSize_anyRow d n⟩

theorem denotes_sameLength (d : Dialect) (hbefore : Digits before) (hrest : Digits rest)
    (hsize : before.length + rest.length ≤ 1000) :
    List.Forall₂ (fun text row => Denotes text (Fits row)) (sameLength d before rest)
      (sameLengthRows d before rest) := by
  induction rest generalizing before with
  | nil => exact .nil
  | cons digit rest ih =>
    obtain ⟨hdigit, hrest⟩ := digits_cons.1 hrest
    rw [List.length_cons] at hsize
    rw [sameLength, sameLengthRows]
    refine List.rel_append ?_ (ih (digits_append.2 ⟨hbefore, digits_cons.2 ⟨hdigit, nofun⟩⟩) hrest ?_)
    · generalize (if before.isEmpty && !rest.isEmpty then 1 else 0) = least
      by_cases hleast : least < digit
      · rw [if_pos hleast, if_pos hleast]
        exact .cons (denotes_digitRange d hbefore (by omega) (by omega) (by omega)) .nil
      · rw [if_neg hleast, if_neg hleast]
        exact .nil
    · rw [List.length_append, List.length_singleton]
      omega

theorem denotes_shorter (d : Dialect) {n : Nat} (hsize : n ≤ 1000) :
    List.Forall₂ (fun text row => Denotes text (Fits row)) (shorter d n) (shorterRows d n) := by
  rw [shorter, shorterRows, List.forall₂_map_left_iff, List.forall₂_map_right_iff, List.forall₂_same]
  intro k hk
  have hk := List.mem_range.1 hk
  refine (spells_anyRow d (k + 1)).denotes_anchored ⟨?_, stateSize_anyRow d (k + 1)⟩
  rw [Dialect.anyRow, List.length_replicate]
  omega

/-- Each alternative of a range denotes the texts that fit its row. -/
theorem denotes_rangeTexts (d : Dialect) (c : Comparison) {b : Nat} (hsize : (digitsOf b).length ≤ 1000) :
    List.Forall₂ (fun text row => Denotes text (Fits row)) (rangeTexts b c d) (rangeRows b c d) := by
  have hdigits := digits_digitsOf b
  refine List.rel_append ?_ ?_
  · cases c.includesBound with
    | false => exact .nil
    | true => exact .cons (map_digitsOf b ▸ denotes_digitRow hdigits hsize) .nil
  · cases c.includesSmaller with
    | false => exact .nil
    | true =>
      refine List.rel_append (denotes_sameLength d (List.forall_mem_nil _) hdigits ?_) (denotes_shorter d hsize)
      rwa [List.length_nil, Nat.zero_add]

theorem range_eq_ok (d : Dialect) {c : Comparison} (hc : c ∈ [.equal, .lesser, .lesserOrEqual]) (b : Nat) :
    range b c d = .ok ⟨(rangeTexts b c d).map String.ofList⟩ := by
  have hsupported : (!c.includesBound && !c.includesSmaller) = false := by
    simp only [List.mem_cons, List.not_mem_nil, or_false] at hc
    rcases hc with rfl | rfl | rfl <;> rfl
  rw [range, if_neg (by omega), hsupported, if_neg Bool.false_ne_true, Int.toNat_natCast]

/-- A range accepts the inputs that fit one of its rows. -/
theorem accepts_iff_fits (d : Dialect) {c : Comparison} (hc : c ∈ [.equal, .lesser, .lesserOrEqual]) {b : Nat}
    (hsize : (digitsOf b).length ≤ 1000) :
    ∃ set, range b c d = .ok set ∧ (∀ text ∈ set.texts, (Pattern.compile text .none).isOk = true) ∧
      ∀ input, ∃ found, set.accepts input = .ok found ∧
        (found = true ↔ ∃ row ∈ rangeRows b c d, Fits row input.toList) := by
  have hdenotes := denotes_rangeTexts d c hsize
  refine ⟨_, range_eq_ok d hc b, ?_, accepts_of_denotes hdenotes⟩
  intro text htext
  obtain ⟨chars, hchars, rfl⟩ := List.mem_map.1 htext
  exact ((List.forall₂_and_left _ _).1 (hdenotes.imp fun _ _ h => ⟨h.isOk_compile, h⟩)).1 chars hchars

/-! ## Texts of the rows -/

/-- The least digit of a row for one length: 1 for the leading one of several digits, else 0. -/
def leastDigit (before rest : List Nat) : Nat := if before.isEmpty && !rest.isEmpty then 1 else 0

variable {d : Dialect} {row : List CharSet} {text : List Char} {b n : Nat}

/-- A row for one length agrees with the digits up to some place, and has smaller digits there. -/
theorem mem_sameLengthRows : row ∈ sameLengthRows d before rest ↔
    ∃ ys digit zs, rest = ys ++ digit :: zs ∧ leastDigit (before ++ ys) zs < digit ∧
      row = digitRow (before ++ ys) ++
        digitRangeSet (leastDigit (before ++ ys) zs) (digit - 1) :: d.anyRow zs.length := by
  induction rest generalizing before with
  | nil =>
    refine iff_of_false List.not_mem_nil ?_
    rintro ⟨ys, digit, zs, hnil, -⟩
    exact List.append_ne_nil_of_right_ne_nil ys (List.cons_ne_nil digit zs) hnil.symm
  | cons digit rest ih =>
    rw [sameLengthRows, List.mem_append, List.mem_ite_nil_right, List.mem_singleton, ih]
    constructor
    · rintro (⟨hleast, rfl⟩ | ⟨ys, y, zs, rfl, hleast, rfl⟩)
      · refine ⟨[], digit, rest, rfl, ?_, ?_⟩
        · rwa [List.append_nil]
        · rw [List.append_nil, leastDigit]
      · rw [List.append_assoc] at hleast ⊢
        exact ⟨digit :: ys, y, zs, rfl, hleast, rfl⟩
    · rintro ⟨ys, y, zs, hrest, hleast, rfl⟩
      cases ys with
      | nil =>
        obtain ⟨rfl, rfl⟩ := List.cons.inj hrest
        rw [List.append_nil] at hleast ⊢
        exact .inl ⟨hleast, rfl⟩
      | cons x ys =>
        obtain ⟨rfl, rfl⟩ := List.cons.inj hrest
        rw [List.append_cons before digit ys] at hleast ⊢
        exact .inr ⟨ys, y, zs, rfl, hleast, rfl⟩

theorem contains_digitRangeSet {a : Char} (hle : lo ≤ hi) (hhi : hi < 10) :
    (digitRangeSet lo hi).contains a = true ↔ ∃ x, lo ≤ x ∧ x ≤ hi ∧ a = Nat.digitChar x := by
  rw [digitRangeSet, CharSet.contains, CharSet.mem_range, Bool.and_eq_true, decide_eq_true_iff,
    decide_eq_true_iff, Nat.toNat_digitChar_of_lt_ten (by omega), Nat.toNat_digitChar_of_lt_ten hhi]
  constructor
  · rintro ⟨hloa, hahi⟩
    refine ⟨a.toNat - 48, by omega, by omega, Char.toNat_inj.1 ?_⟩
    rw [Nat.toNat_digitChar_of_lt_ten (by omega)]
    omega
  · rintro ⟨x, hlox, hxhi, rfl⟩
    rw [Nat.toNat_digitChar_of_lt_ten (by omega)]
    omega

theorem contains_of_isDigit (d : Dialect) {a : Char} (ha : a.isDigit = true) :
    d.anyDigitSet.contains a = true := by
  obtain ⟨x, hx, rfl⟩ := isDigit_iff.1 ha
  cases d with
  | general =>
    have hall : ∀ x < 10, Unicode.digits.contains (Nat.digitChar x) = true := by decide +kernel
    exact hall x hx
  | sql => exact (contains_digitRangeSet (by decide) (by decide)).2 ⟨x, Nat.zero_le x, by omega, rfl⟩

theorem fits_anyRow : Fits (d.anyRow n) text ↔ text.length = n ∧ ∀ a ∈ text, d.anyDigitSet.contains a = true :=
  fits_replicate n

theorem fits_digitRow : Fits (digitRow digits) text ↔ text = digits.map Nat.digitChar := by
  rw [← List.append_nil (digitRow digits), digitRow, fits_singles]
  simp only [fits_nil, exists_eq_right, List.append_nil]

/-- At the first place where the text differs from the digits it has a smaller digit; as many characters as digits
stand behind it, any digits of the dialect. -/
def SmallerDigit (d : Dialect) (digits : List Nat) (text : List Char) : Prop :=
  ∃ before digit rest x fill, digits = before ++ digit :: rest ∧ leastDigit before rest ≤ x ∧ x < digit ∧
    text = before.map Nat.digitChar ++ Nat.digitChar x :: fill ∧ fill.length = rest.length ∧
    ∀ a ∈ fill, d.anyDigitSet.contains a = true

/-- The text has fewer than `n` characters, any digits of the dialect. -/
def FewerDigits (d : Dialect) (n : Nat) (text : List Char) : Prop :=
  0 < text.length ∧ text.length < n ∧ ∀ a ∈ text, d.anyDigitSet.contains a = true

theorem fits_sameLengthRows (hdigits : Digits digits) :
    (∃ row ∈ sameLengthRows d [] digits, Fits row text) ↔ SmallerDigit d digits text := by
  constructor
  · rintro ⟨row, hrow, hfits⟩
    obtain ⟨before, digit, rest, rfl, hleast, rfl⟩ := mem_sameLengthRows.1 hrow
    rw [List.nil_append] at hleast hfits
    have hdigit : digit < 10 := (digits_cons.1 (digits_append.1 hdigits).2).1
    obtain ⟨more, rfl, hmore⟩ := (fits_singles _).1 hfits
    obtain ⟨a, fill, ha, hfill, rfl⟩ := fits_cons.1 hmore
    obtain ⟨x, hlo, hhi, rfl⟩ := (contains_digitRangeSet (by omega) (by omega)).1 ha
    obtain ⟨hlength, hall⟩ := fits_anyRow.1 hfill
    exact ⟨before, digit, rest, x, fill, rfl, hlo, by omega, rfl, hlength, hall⟩
  · rintro ⟨before, digit, rest, x, fill, rfl, hlo, hlt, rfl, hlength, hall⟩
    have hdigit : digit < 10 := (digits_cons.1 (digits_append.1 hdigits).2).1
    have hx : (digitRangeSet (leastDigit before rest) (digit - 1)).contains (Nat.digitChar x) = true :=
      (contains_digitRangeSet (by omega) (by omega)).2 ⟨x, hlo, by omega, rfl⟩
    refine ⟨_, mem_sameLengthRows.2 ⟨before, digit, rest, rfl, Nat.lt_of_le_of_lt hlo hlt, rfl⟩, ?_⟩
    exact (fits_singles _).2 ⟨_, rfl, fits_cons.2 ⟨_, fill, hx, fits_anyRow.2 ⟨hlength, hall⟩, rfl⟩⟩

theorem fits_shorterRows : (∃ row ∈ shorterRows d n, Fits row text) ↔ FewerDigits d n text := by
  simp only [shorterRows, List.mem_map, List.mem_range, exists_exists_and_eq_and, fits_anyRow, FewerDigits]
  constructor
  · rintro ⟨k, hk, hlength, hall⟩
    exact ⟨by omega, by omega, hall⟩
  · rintro ⟨hpos, hlt, hall⟩
    exact ⟨text.length - 1, by omega, by omega, hall⟩

theorem fits_rangeRows_iff (c : Comparison) : (∃ row ∈ rangeRows b c d, Fits row text) ↔
    (c.includesBound = true ∧ text = (digitsOf b).map Nat.digitChar) ∨
    (c.includesSmaller = true ∧
      (SmallerDigit d (digitsOf b) text ∨ FewerDigits d (digitsOf b).length text)) := by
  rw [rangeRows, ← fits_digitRow, ← fits_sameLengthRows (digits_digitsOf b), ← fits_shorterRows]
  cases c.includesBound <;> cases c.includesSmaller <;>
    simp only [List.mem_append, or_and_right, exists_or, if_pos, List.mem_singleton, exists_eq_left, true_and,
      Bool.false_eq_true, if_false, List.not_mem_nil, false_and, exists_false, or_false, false_or]

/-! ## Numerals -/

theorem contains_of_mem_map (d : Dialect) (hxs : Digits xs) :
    ∀ a ∈ xs.map Nat.digitChar, d.anyDigitSet.contains a = true :=
  fun a ha => contains_of_isDigit d (isDigit_of_mem_map hxs a ha)

/-- The least digit of a row is no restriction where several digits do not start with 0. -/
theorem leastDigit_le {zs : List Char} (hlength : zs.length = rest.length)
    (hlead : before = [] → x = 0 → zs = []) : leastDigit before rest ≤ x := by
  unfold leastDigit
  split
  · next hfirst =>
    obtain ⟨hnil, hmore⟩ := Bool.and_eq_true_iff.1 hfirst
    rcases Nat.eq_zero_or_pos x with hx | hpos
    · rw [hlead (List.isEmpty_iff.1 hnil) hx] at hlength
      rw [List.eq_nil_of_length_eq_zero hlength.symm] at hmore
      cases hmore
    · exact hpos
  · exact Nat.zero_le x

theorem SmallerDigit.length_eq (h : SmallerDigit d digits text) : text.length = digits.length := by
  obtain ⟨before, digit, rest, x, fill, rfl, -, -, rfl, hlength, -⟩ := h
  rw [List.length_append, List.length_append, List.length_map, List.length_cons, List.length_cons, hlength]

theorem SmallerDigit.contains (h : SmallerDigit d digits text) (hdigits : Digits digits) :
    ∀ a ∈ text, d.anyDigitSet.contains a = true := by
  obtain ⟨before, digit, rest, x, fill, rfl, -, hlt, rfl, -, hfill⟩ := h
  obtain ⟨hbefore, hrest⟩ := digits_append.1 hdigits
  have hx : (Nat.digitChar x).isDigit = true := isDigit_iff.2 ⟨x, hlt.trans (digits_cons.1 hrest).1, rfl⟩
  exact List.forall_mem_append.2
    ⟨contains_of_mem_map d hbefore, List.forall_mem_cons.2 ⟨contains_of_isDigit d hx, hfill⟩⟩

theorem SmallerDigit.valueOf_lt (h : SmallerDigit d digits text) (hdigits : Digits digits) (hxs : Digits xs)
    (hlead : leading text = xs.map Nat.digitChar) : valueOf xs < valueOf (digits.take xs.length) := by
  obtain ⟨before, digit, rest, x, fill, rfl, -, hlt, rfl, hlength, -⟩ := h
  obtain ⟨hbefore, hrest⟩ := digits_append.1 hdigits
  obtain ⟨us, more, hus, hleadfill, rfl⟩ := exists_leading fill
  have hplace : Digits (before ++ [x]) :=
    digits_append.2 ⟨hbefore, digits_cons.2 ⟨hlt.trans (digits_cons.1 hrest).1, List.forall_mem_nil _⟩⟩
  have hxs' : xs = before ++ x :: us := by
    apply (map_digitChar_inj hxs (by rw [List.append_cons]; exact digits_append.2 ⟨hplace, hus⟩)).1
    rw [← hlead, List.append_cons _ (Nat.digitChar x), ← List.map_singleton, ← List.map_append,
      leading_append hplace, hleadfill, ← List.map_append, List.append_cons before x us]
  have htake : (before ++ digit :: rest).take xs.length = before ++ digit :: rest.take us.length := by
    rw [hxs', List.length_append, List.length_cons, List.take_length_add_append, List.take_succ_cons]
  have hfew : us.length ≤ rest.length := by
    rw [List.length_append, List.length_map] at hlength
    omega
  have hsame : xs.length = (before ++ digit :: rest.take us.length).length := by
    rw [hxs', List.length_append, List.length_append, List.length_cons, List.length_cons,
      List.length_take_of_le hfew]
  have htaken := digits_take hdigits xs.length
  rw [htake] at htaken ⊢
  exact (valueOf_lt_iff hxs htaken hsame).2 ⟨before, x, us, digit, rest.take us.length, hxs', rfl, hlt⟩

theorem smallerDigit_of_valueOf_lt {more : List Char} (hdigits : Digits digits) (hxs : Digits xs)
    (hlength : xs.length + more.length = digits.length) (hhead : ∀ ys, xs = 0 :: ys → ys = [] ∧ more = [])
    (hmore : ∀ a ∈ more, d.anyDigitSet.contains a = true)
    (hvalue : valueOf xs < valueOf (digits.take xs.length)) :
    SmallerDigit d digits (xs.map Nat.digitChar ++ more) := by
  have hsame : xs.length = (digits.take xs.length).length := by
    rw [List.length_take_of_le (by omega)]
  obtain ⟨before, x, us, y, vs, hxs', htake, hlt⟩ := (valueOf_lt_iff hxs (digits_take hdigits _) hsame).1 hvalue
  have hdigits' : digits = before ++ y :: (vs ++ digits.drop xs.length) := by
    rw [← List.cons_append, ← List.append_assoc, ← htake, List.take_append_drop]
  have hfill : (us.map Nat.digitChar ++ more).length = (vs ++ digits.drop xs.length).length := by
    have htotal := congrArg List.length hdigits'
    rw [List.length_append, List.length_cons] at htotal
    rw [hxs', List.length_append, List.length_cons] at hlength
    rw [List.length_append, List.length_map]
    omega
  subst hxs'
  refine ⟨before, y, _, x, us.map Nat.digitChar ++ more, hdigits', leastDigit_le hfill ?_, hlt, ?_, hfill, ?_⟩
  · rintro rfl rfl
    obtain ⟨rfl, rfl⟩ := hhead us rfl
    rfl
  · rw [List.map_append, List.map_cons, List.append_assoc, List.cons_append]
  · have hus := (digits_cons.1 (digits_append.1 hxs).2).2
    exact List.forall_mem_append.2 ⟨contains_of_mem_map d hus, hmore⟩

/-- A numeral of one length with the digits has a smaller digit at the first difference if its value is smaller. -/
theorem smallerDigit_map (d : Dialect) (hdigits : Digits digits) (hxs : Digits xs)
    (hlead : ∀ zs, xs = 0 :: zs → zs = []) :
    SmallerDigit d digits (xs.map Nat.digitChar) ↔ xs.length = digits.length ∧ valueOf xs < valueOf digits := by
  constructor
  · intro h
    have hlength := h.length_eq
    have hvalue := h.valueOf_lt hdigits hxs (by rw [← List.append_nil (xs.map _), leading_append hxs]; rfl)
    rw [List.length_map] at hlength
    rw [hlength, List.take_length] at hvalue
    exact ⟨hlength, hvalue⟩
  · rintro ⟨hlength, hvalue⟩
    rw [← List.append_nil (xs.map _)]
    refine smallerDigit_of_valueOf_lt hdigits hxs hlength (fun ys h => ⟨hlead ys h, rfl⟩)
      (List.forall_mem_nil _) ?_
    rwa [hlength, List.take_length]

theorem fewerDigits_map (d : Dialect) (hxs : Digits xs) :
    FewerDigits d n (xs.map Nat.digitChar) ↔ 0 < xs.length ∧ xs.length < n := by
  rw [FewerDigits, List.length_map]
  exact and_congr_right fun _ => and_iff_left (contains_of_mem_map d hxs)

theorem fits_rangeRows (d : Dialect) (c : Comparison) (b n : Nat) :
    (∃ row ∈ rangeRows b c d, Fits row (toString n).toList) ↔
      (c.includesBound = true ∧ n = b) ∨ (c.includesSmaller = true ∧ n < b) := by
  have hn := digits_digitsOf n
  have hb := digits_digitsOf b
  have hequal : digitsOf n = digitsOf b ↔ n = b := by
    constructor
    · intro h
      rw [← valueOf_digitsOf n, h, valueOf_digitsOf]
    · rintro rfl
      rfl
  rw [toList_toString, fits_rangeRows_iff, map_digitChar_inj hn hb, hequal, fewerDigits_map d hn,
    smallerDigit_map d hb hn fun _ => eq_nil_of_digitsOf, and_iff_right (length_digitsOf_pos n), ← lt_iff_digitsOf]

theorem evaluate_compare {c : Comparison} (hc : c ∈ [.equal, .lesser, .lesserOrEqual]) (n b : Nat) :
    c.evaluate (some (compare (n : Int) b)) = true ↔
      (c.includesBound = true ∧ n = b) ∨ (c.includesSmaller = true ∧ n < b) := by
  have horder : (compare (n : Int) b = .lt ∧ n < b) ∨ (compare (n : Int) b = .eq ∧ n = b) ∨
      (compare (n : Int) b = .gt ∧ b < n) := by
    rw [compare_lt_iff_lt, compare_eq_iff_eq, compare_gt_iff_gt]
    omega
  simp only [List.mem_cons, List.not_mem_nil, or_false] at hc
  rcases horder with ⟨h, hn⟩ | ⟨h, hn⟩ | ⟨h, hn⟩ <;> rw [h] <;> rcases hc with rfl | rfl | rfl <;>
    simp [Comparison.evaluate, Comparison.includesBound, Comparison.includesSmaller] <;> omega

theorem length_digitsOf_of_le {b : Nat} (hb : b ≤ 9223372036854775807) : (digitsOf b).length ≤ 19 := by
  rw [length_digitsOf, Nat.length_toDigits_le_iff (by decide) (by decide)]
  omega

/-- For the comparisons with finitely many solutions, a range has alternatives, each of them compiles, and
they accept the numerals of the numbers that satisfy the comparison with the bound. -/
theorem accepts_range {bound : Int} (hbound : 0 ≤ bound) (hmax : bound ≤ 9223372036854775807)
    {c : Comparison} (hc : c ∈ [.equal, .lesser, .lesserOrEqual]) (dialect : Dialect) :
    ∃ set, range bound c dialect = .ok set ∧
      (∀ text ∈ set.texts, (Pattern.compile text .none).isOk = true) ∧
      ∀ n : Nat, set.accepts (toString n) = .ok (c.evaluate (some (compare (n : Int) bound))) := by
  obtain ⟨b, rfl⟩ := Int.eq_ofNat_of_zero_le hbound
  have hsize := length_digitsOf_of_le (b := b) (by omega)
  obtain ⟨set, hrange, hcompile, haccepts⟩ :=
    accepts_iff_fits dialect hc (show (digitsOf b).length ≤ 1000 by omega)
  refine ⟨set, hrange, hcompile, fun n => ?_⟩
  obtain ⟨found, hfound, hiff⟩ := haccepts (toString n)
  rw [fits_rangeRows, ← evaluate_compare hc, ← Bool.eq_iff_iff] at hiff
  rw [hfound, hiff]

theorem accepts_range_maximum : ∃ set, range 9223372036854775807 .lesserOrEqual .general = .ok set ∧
    (∀ text ∈ set.texts, (Pattern.compile text .none).isOk = true) ∧
    ∀ n : Nat, set.accepts (toString n) =
      .ok (Comparison.lesserOrEqual.evaluate (some (compare (n : Int) 9223372036854775807))) :=
  accepts_range (by decide) (by decide) (by decide) .general

end TextPattern
