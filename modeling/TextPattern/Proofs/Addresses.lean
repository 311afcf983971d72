import TextPattern.Proofs.Identifying
import TextPattern.Proofs.Lines

/-!
# Network addresses

* `IsOctet` : up to three digits of a value of at most 255;
* `IsAddress` : four octets with dots between them, `isAddress_iff` : the pieces between the dots decide it;
* `octetShape_iff` : the numbers up to 255 by their digits;
* `describes_octetExpr`, `describes_addressBody` : the built-in expression describes octets and addresses, between
  word boundaries;
* `IsBounded` : an address with no word character next to it, `delimits_isBounded` : from each place there is at
  most one;
* `mem_partsBy_isBounded`, `identifying_addresses` : such an address is found, unless a dot stands before it.

Bounded addresses may overlap: of `1.2.3.4.5` the first four octets are found, but not the last four, which have a
dot before them.
-/

namespace TextPattern

/-! ## Octets -/

/-- The text is one to three digits, of a value of at most 255. -/
def IsOctet (text : List Char) : Prop :=
  (1 ≤ text.length ∧ text.length ≤ 3) ∧ (∀ c ∈ text, c.isDigit = true) ∧ Nat.ofDigitChars 10 text 0 ≤ 255

instance : DecidablePred IsOctet := fun text => decidable_of_iff ((1 ≤ text.length ∧ text.length ≤ 3) ∧
  text.all Char.isDigit = true ∧ Nat.ofDigitChars 10 text 0 ≤ 255)
  (and_congr_right' (and_congr_left' List.all_eq_true))

/-- What an octet is found by: 250 to 255, 200 to 249, or one to three digits with at most 1 as the first of
three. -/
def octetExpr : Expr :=
  .alt (.cat (.chars (.single '2')) (.cat (.chars (.single '5')) (.chars (digitRangeSet 0 5))))
    (.alt (.cat (.chars (.single '2')) (.cat (.chars (digitRangeSet 0 4)) (.chars digitSet)))
      (.cat (.rep (.chars (digitRangeSet 0 1)) .optional true)
        (.cat (.chars digitSet) (.rep (.chars digitSet) .optional true))))

theorem isOctet_map {xs : List Nat} (hxs : Digits xs) :
    IsOctet (xs.map Nat.digitChar) ↔ (1 ≤ xs.length ∧ xs.length ≤ 3) ∧ valueOf xs ≤ 255 := by
  rw [IsOctet, List.length_map, and_iff_right (isDigit_of_mem_map hxs), valueOf]

theorem isOctet_short (xs : List Nat) (hxs : Digits xs) (hmin : 1 ≤ xs.length) (hmax : xs.length ≤ 2) :
    IsOctet (xs.map Nat.digitChar) := by
  have hvalue := valueOf_lt hxs
  have hpow : 10 ^ xs.length ≤ 10 ^ 2 := Nat.pow_le_pow_right (by decide) hmax
  exact (isOctet_map hxs).2 ⟨⟨hmin, by omega⟩, by omega⟩

theorem isOctet_three {x y z : Nat} (hx : x < 10) (hy : y < 10) (hz : z < 10) :
    IsOctet [Nat.digitChar x, Nat.digitChar y, Nat.digitChar z] ↔ 100 * x + 10 * y + z ≤ 255 := by
  have hdigits : Digits [x, y, z] :=
    digits_cons.2 ⟨hx, digits_cons.2 ⟨hy, digits_cons.2 ⟨hz, List.forall_mem_nil _⟩⟩⟩
  have hvalue : valueOf [x, y, z] = 100 * x + 10 * y + z := by
    rw [valueOf_cons hx, valueOf_cons hy, valueOf_cons hz]
    simp [valueOf, Nat.add_assoc]
  rw [← hvalue]
  exact (isOctet_map hdigits).trans (and_iff_right (by simp))

/-- The texts that the alternatives of the expression are for. -/
inductive OctetShape : List Char → Prop
  | top {z : Nat} (hz : z ≤ 5) : OctetShape ['2', '5', Nat.digitChar z]
  | upper {y z : Nat} (hy : y ≤ 4) (hz : z ≤ 9) : OctetShape ['2', Nat.digitChar y, Nat.digitChar z]
  | lower {x y z : Nat} (hx : x ≤ 1) (hy : y ≤ 9) (hz : z ≤ 9) :
      OctetShape [Nat.digitChar x, Nat.digitChar y, Nat.digitChar z]
  | two {y z : Nat} (hy : y ≤ 9) (hz : z ≤ 9) : OctetShape [Nat.digitChar y, Nat.digitChar z]
  | one {z : Nat} (hz : z ≤ 9) : OctetShape [Nat.digitChar z]

/-- The shapes are those of the numbers up to 255. -/
theorem octetShape_iff {text : List Char} : OctetShape text ↔ IsOctet text := by
  constructor
  · intro h
    cases h with
    | @top z hz => exact (isOctet_three (x := 2) (y := 5) (by omega) (by omega) (by omega)).2 (by omega)
    | @upper y z hy hz => exact (isOctet_three (x := 2) (by omega) (by omega) (by omega)).2 (by omega)
    | @lower x y z hx hy hz => exact (isOctet_three (by omega) (by omega) (by omega)).2 (by omega)
    | @two y z hy hz => exact isOctet_short [y, z] (by simp [Digits]; omega) (by simp) (by simp)
    | @one z hz => exact isOctet_short [z] (by simp [Digits]; omega) (by simp) (by simp)
  · intro htext
    obtain ⟨xs, hxs, rfl⟩ := exists_digits htext.2.1
    obtain ⟨⟨hmin, hmax⟩, -⟩ := (isOctet_map hxs).1 htext
    match xs with
    | [z] => exact .one (Nat.le_of_lt_succ (hxs z (by simp)))
    | [y, z] => exact .two (Nat.le_of_lt_succ (hxs y (by simp))) (Nat.le_of_lt_succ (hxs z (by simp)))
    | [x, y, z] =>
      have hx := hxs x (by simp)
      have hy := hxs y (by simp)
      have hz := hxs z (by simp)
      have hvalue := (isOctet_three hx hy hz).1 htext
      rcases (by omega : x ≤ 1 ∨ x = 2 ∧ y ≤ 4 ∨ x = 2 ∧ y = 5) with hx | ⟨rfl, hy⟩ | ⟨rfl, rfl⟩
      · exact .lower hx (by omega) (by omega)
      · exact .upper hy (by omega)
      · exact .top (by omega)

theorem describes_digitRange {lo hi : Nat} (hle : lo ≤ hi) (hhi : hi < 10) :
    (Expr.chars (digitRangeSet lo hi)).Describes fun mid => ∃ x, mid = [Nat.digitChar x] ∧ lo ≤ x ∧ x ≤ hi := by
  refine (Expr.describes_chars _).congr fun mid => ?_
  constructor
  · rintro ⟨_, rfl, hc⟩
    obtain ⟨x, hlo, hx, rfl⟩ := (contains_digitRangeSet hle hhi).1 hc
    exact ⟨x, rfl, hlo, hx⟩
  · rintro ⟨x, rfl, hlo, hx⟩
    exact ⟨_, rfl, (contains_digitRangeSet hle hhi).2 ⟨x, hlo, hx, rfl⟩⟩

theorem describes_octetShape : octetExpr.Describes OctetShape := by
  have hany : (Expr.chars digitSet).Describes fun mid => ∃ x, mid = [Nat.digitChar x] ∧ 0 ≤ x ∧ x ≤ 9 :=
    describes_digitRange (Nat.zero_le 9) (by decide)
  have htop := ((describes_digitRange (Nat.zero_le 5) (by decide)).single_cat '5').single_cat '2'
  have hupper := ((describes_digitRange (Nat.zero_le 4) (by decide)).cat hany).single_cat '2'
  have hlower := ((describes_digitRange (Nat.zero_le 1) (by decide)).optional true).cat
    (hany.cat (hany.optional true))
  refine (htop.alt (hupper.alt hlower)).congr fun text => ?_
  constructor
  · rintro (⟨_, rfl, _, rfl, z, rfl, -, hz⟩ | ⟨_, rfl, _, _, rfl, ⟨y, rfl, -, hy⟩, z, rfl, -, hz⟩ |
      ⟨_, _, rfl, rfl | ⟨x, rfl, -, hx⟩, _, _, rfl, ⟨y, rfl, -, hy⟩, rfl | ⟨z, rfl, -, hz⟩⟩)
    · exact .top hz
    · exact .upper hy hz
    · exact .one hy
    · exact .two hy hz
    · exact .two (by omega) hy
    · exact .lower hx hy hz
  · intro h
    cases h with
    | @top z hz => exact .inl ⟨_, rfl, _, rfl, z, rfl, Nat.zero_le z, hz⟩
    | @upper y z hy hz =>
      exact .inr (.inl ⟨_, rfl, _, _, rfl, ⟨y, rfl, Nat.zero_le y, hy⟩, z, rfl, Nat.zero_le z, hz⟩)
    | @lower x y z hx hy hz =>
      exact .inr (.inr ⟨_, _, rfl, .inr ⟨x, rfl, Nat.zero_le x, hx⟩, _, _, rfl, ⟨y, rfl, Nat.zero_le y, hy⟩,
        .inr ⟨z, rfl, Nat.zero_le z, hz⟩⟩)
    | @two y z hy hz =>
      exact .inr (.inr ⟨[], _, rfl, .inl rfl, _, _, rfl, ⟨y, rfl, Nat.zero_le y, hy⟩,
        .inr ⟨z, rfl, Nat.zero_le z, hz⟩⟩)
    | @one z hz =>
      exact .inr (.inr ⟨[], _, rfl, .inl rfl, _, [], rfl, ⟨z, rfl, Nat.zero_le z, hz⟩, .inl rfl⟩)

theorem describes_octetExpr : octetExpr.Describes IsOctet :=
  describes_octetShape.congr fun _ => octetShape_iff

/-! ## Addresses -/

/-- Four octets with dots between them. -/
def IsAddress (text : List Char) : Prop :=
  ∃ octets : List (List Char), octets.length = 4 ∧ (∀ octet ∈ octets, IsOctet octet) ∧
    text = ['.'].intercalate octets

def addressBody : List Expr := [.rep (.cat octetExpr (.chars (.single '.'))) (.exactly 3) true, octetExpr]

theorem IsOctet.not_mem {text : List Char} {x : Char} (h : IsOctet text) (hx : x.isDigit = false) : x ∉ text :=
  not_mem_of_kind h.2.1 hx

/-- The pieces between the dots decide whether a text is an address. -/
theorem isAddress_iff {text : List Char} :
    IsAddress text ↔ (text.splitOn '.').length = 4 ∧ ∀ octet ∈ text.splitOn '.', IsOctet octet := by
  constructor
  · rintro ⟨octets, hlength, hoctets, htext⟩
    have hne : octets ≠ [] := List.ne_nil_of_length_eq_add_one hlength
    rw [splitOn_eq_iff.2 ⟨hne, fun octet hmem => (hoctets octet hmem).not_mem rfl, htext⟩]
    exact ⟨hlength, hoctets⟩
  · rintro ⟨hlength, hoctets⟩
    exact ⟨text.splitOn '.', hlength, hoctets, (List.intercalate_splitOn '.').symm⟩

instance : DecidablePred IsAddress := fun _ => decidable_of_iff _ isAddress_iff.symm

theorem describes_addressBody : (Expr.ofFactors addressBody).Describes IsAddress := by
  have hdotted := (describes_octetExpr.cat_single '.').rep_flatMap (.exactly 3) true
  refine (hdotted.cat describes_octetExpr).congr fun text => ?_
  simp only [Count.allows_exactly]
  constructor
  · rintro ⟨_, last, rfl, ⟨octets, hlength, hoctets, rfl⟩, hlast⟩
    refine ⟨octets ++ [last], ?_, ?_, (intercalate_concat '.' octets last).symm⟩
    · rw [List.length_append, hlength]
      rfl
    · exact List.forall_mem_append.2 ⟨hoctets, by simpa using hlast⟩
  · rintro ⟨octets, hlength, hoctets, rfl⟩
    obtain ⟨octets, last, rfl⟩ := List.eq_nil_or_concat' octets |>.resolve_left (by rintro rfl; cases hlength)
    obtain ⟨hoctets, hlast⟩ := List.forall_mem_append.1 hoctets
    refine ⟨_, last, intercalate_concat '.' octets last, ⟨octets, ?_, hoctets, rfl⟩, by simpa using hlast⟩
    simpa using hlength

/-! ## Bounded addresses -/

/-- The part is an address with no word character next to it. -/
def IsBounded (prev : Option Char) (mid post : List Char) : Prop :=
  IsAddress mid ∧ isWordSide true prev = false ∧ isWordSide true post.head? = false

/-- Octets with dots between them are known by the text that they start, where no digit stands behind them. -/
theorem eq_of_intercalate_append {octets octets' : List (List Char)} {rest rest' : List Char}
    (hlength : octets.length = octets'.length) (hoctets : ∀ octet ∈ octets, IsOctet octet)
    (hoctets' : ∀ octet ∈ octets', IsOctet octet) (hrest : ∀ c ∈ rest.head?, c.isDigit = false)
    (hrest' : ∀ c ∈ rest'.head?, c.isDigit = false)
    (h : ['.'].intercalate octets ++ rest = ['.'].intercalate octets' ++ rest') : octets = octets' := by
  induction octets generalizing octets' with
  | nil => exact (List.eq_nil_of_length_eq_zero hlength.symm).symm
  | cons octet octets ih =>
    obtain ⟨octet', octets', rfl⟩ := List.exists_cons_of_length_eq_add_one hlength.symm
    obtain ⟨hoctet, hothers⟩ := List.forall_mem_cons.1 hoctets
    obtain ⟨hoctet', hothers'⟩ := List.forall_mem_cons.1 hoctets'
    cases octets with
    | nil =>
      obtain rfl := List.eq_nil_of_length_eq_zero (Nat.succ.inj hlength).symm
      rw [List.intercalate_singleton, List.intercalate_singleton] at h
      rw [(append_inj_of_kind hoctet.2.1 hoctet'.2.1 hrest hrest' h).1]
    | cons next octets =>
      obtain ⟨next', octets', rfl⟩ := List.exists_cons_of_length_eq_add_one (Nat.succ.inj hlength).symm
      simp only [List.intercalate_cons_cons, List.append_assoc, List.singleton_append] at h
      obtain ⟨hsame, htail⟩ := append_inj_of_kind hoctet.2.1 hoctet'.2.1 (by simp) (by simp) h
      rw [hsame, ih (Nat.succ.inj hlength) hothers hothers' (List.cons.inj htail).2]

theorem isDigit_eq_false_of_not_isWordSide {c : Option Char} (h : isWordSide true c = false) :
    ∀ a ∈ c, a.isDigit = false := by
  have hall : ∀ x < 10, Unicode.asciiWordChars.contains (Nat.digitChar x) = true := by decide +kernel
  rintro a rfl
  by_contra hdigit
  rw [Bool.not_eq_false] at hdigit
  obtain ⟨x, hx, rfl⟩ := isDigit_iff.1 hdigit
  have hword : isWordSide true (some (Nat.digitChar x)) = true := isWordSide_of_ascii true (hall x hx)
  rw [hword] at h
  cases h

theorem delimits_isBounded : Delimits IsBounded where
  ne_nil h := by
    obtain ⟨⟨octets, hlength, hoctets, rfl⟩, -, -⟩ := h
    obtain ⟨octet, octets, rfl⟩ := List.exists_cons_of_length_eq_add_one hlength
    have hne : octet ≠ [] := List.ne_nil_of_length_pos (hoctets octet List.mem_cons_self).1.1
    rw [intercalate_cons]
    exact List.append_ne_nil_of_left_ne_nil hne _
  unique h h' htext := by
    obtain ⟨⟨octets, hlength, hoctets, rfl⟩, -, hpost⟩ := h
    obtain ⟨⟨octets', hlength', hoctets', rfl⟩, -, hpost'⟩ := h'
    rw [eq_of_intercalate_append (hlength.trans hlength'.symm) hoctets hoctets'
      (isDigit_eq_false_of_not_isWordSide hpost) (isDigit_eq_false_of_not_isWordSide hpost') htext]

theorem IsAddress.isDigit_or {text : List Char} (h : IsAddress text) : ∀ c ∈ text, c.isDigit = true ∨ c = '.' := by
  obtain ⟨octets, hlength, hoctets, rfl⟩ := h
  obtain ⟨octet, octets, rfl⟩ := List.exists_cons_of_length_eq_add_one hlength
  obtain ⟨hoctet, hoctets⟩ := List.forall_mem_cons.1 hoctets
  intro c hc
  rw [intercalate_cons, List.mem_append, List.mem_flatMap] at hc
  rcases hc with hc | ⟨octet, hmem, hc⟩
  · exact .inl (hoctet.2.1 c hc)
  · rcases List.mem_cons.1 hc with rfl | hc
    · exact .inr rfl
    · exact .inl ((hoctets octet hmem).2.1 c hc)

/-! ## The built-in expression -/

def addressExpr : Expr := .enclosed (.wordBoundary true) addressBody (.wordBoundary true)

theorem reads_addressExpr : addressExpr.Reads (partBy IsBounded) :=
  delimits_isBounded.reads fun _ _ _ =>
    Expr.onPart_enclosed_wordBoundary describes_addressBody (by decide +kernel) (by decide +kernel)

theorem compile_addressExpr : Except.toOption (Options.none.compile
    "\\b(?:(?:25[0-5]|2[0-4][0-9]|[01]?[0-9][0-9]?)\\.)\x7b3\x7d(?:25[0-5]|2[0-4][0-9]|[01]?[0-9][0-9]?)\\b".toList) =
      some addressExpr :=
  Options.toOption_compile_ofList (by decide +kernel)

/-- An address that begins at the start of a text or behind a character that is neither in a word nor a dot is not
reached by another one, so it is read. -/
theorem mem_partsBy_isBounded {pre mid post : List Char} (hmid : IsAddress mid)
    (hpre : ∀ c ∈ pre.getLast?, Unicode.isWordChar c = false ∧ c ≠ '.')
    (hpost : ∀ c ∈ post.head?, Unicode.isWordChar c = false) :
    (pre, mid) ∈ partsBy IsBounded (pre ++ mid ++ post) := by
  have hside : ∀ c : Option Char, (∀ a ∈ c, Unicode.isWordChar a = false) → isWordSide true c = false := by
    intro c hc
    cases c with
    | none => rfl
    | some a => exact hc a rfl
  refine delimits_isBounded.mem_partsBy ⟨hmid, hside _ fun c hc => (hpre c hc).1, hside _ hpost⟩ ?_
  rintro left right other behind rfl hright htext ⟨hother, -, -⟩
  by_contra hlonger
  rw [Nat.not_le] at hlonger
  have hstart : right <+: other :=
    List.prefix_of_prefix_length_le ⟨mid ++ post, htext.symm⟩ ⟨behind, rfl⟩ hlonger.le
  have hlast : right.getLast hright ∈ (left ++ right).getLast? := by
    rw [List.getLast?_append_of_ne_nil left hright, List.getLast?_eq_some_getLast hright]
    rfl
  obtain ⟨hword, hdot⟩ := hpre _ hlast
  rcases hother.isDigit_or _ (hstart.subset (List.getLast_mem hright)) with hdigit | heq
  · have hnot := isDigit_eq_false_of_not_isWordSide (c := some (right.getLast hright)) hword _ rfl
    rw [hdigit] at hnot
    cases hnot
  · exact hdot heq

/-- All that is found under the name is an address of the text, one behind the other, and each address is found at
its place that has neither a dot before it nor a word character next to it. -/
theorem identifying_addresses (d : Disclosure) (input : String) :
    ∃ (found : Findings) (places : List (List Char × List Char)), (identifying none d input).value = .ok found ∧
      found.get? "ip_v4_address" = listed (places.map fun place => String.ofList place.2) ∧
      places.Pairwise (fun a b => a.1.length + a.2.length ≤ b.1.length) ∧
      (∀ place ∈ places, IsAddress place.2 ∧ ∃ post, input.toList = place.1 ++ place.2 ++ post) ∧
      ∀ pre mid post, input.toList = pre ++ mid ++ post → IsAddress mid →
        (∀ c ∈ pre.getLast?, Unicode.isWordChar c = false ∧ c ≠ '.') →
        (∀ c ∈ post.head?, Unicode.isWordChar c = false) → (pre, mid) ∈ places := by
  obtain ⟨found, hfound⟩ := (Catalog.exists_sweep_iff Catalog.builtin d input).2 Catalog.isValid_builtin
  refine ⟨found, partsBy IsBounded input.toList, ?_, ?_, pairwise_partsBy _ _, ?_, ?_⟩
  · rw [value_identifying, Catalog.value_merge_none, hfound]
  · exact Catalog.get?_of_sweep_builtin (by decide +kernel) (by decide +kernel) compile_addressExpr reads_addressExpr
      hfound
  · intro place hplace
    obtain ⟨post, htext, hplace, -⟩ := delimits_isBounded.exists_of_mem hplace
    exact ⟨hplace, post, htext⟩
  · intro pre mid post htext hmid hpre hpost
    rw [htext]
    exact mem_partsBy_isBounded hmid hpre hpost

/-- Two addresses, the second with more octets behind it. -/
theorem identifying_addresses_two : ∃ (found : Findings) (places : List (List Char × List Char)),
    (identifying none .full "10.0.0.1, 1.2.3.4.5").value = .ok found ∧
      found.get? "ip_v4_address" = listed (places.map fun place => String.ofList place.2) ∧
      ([], "10.0.0.1".toList) ∈ places ∧ ("10.0.0.1,".toList ++ [' '], "1.2.3.4".toList) ∈ places := by
  obtain ⟨found, places, hfound, hget, -, -, hplaces⟩ := identifying_addresses .full "10.0.0.1, 1.2.3.4.5"
  have hcomma : Unicode.isWordChar ',' = false := by decide +kernel
  have hblank : Unicode.isWordChar ' ' = false ∧ ' ' ≠ '.' := by decide +kernel
  have hdot : Unicode.isWordChar '.' = false := by decide +kernel
  have hfirst := hplaces [] "10.0.0.1".toList (',' :: " 1.2.3.4.5".toList) (by decide +kernel) (by decide +kernel)
    nofun (by rintro _ ⟨⟩; exact hcomma)
  have hsecond := hplaces ("10.0.0.1,".toList ++ [' ']) "1.2.3.4".toList ('.' :: ['5']) (by decide +kernel)
    (by decide +kernel) (by rw [List.getLast?_concat]; rintro _ ⟨⟩; exact hblank) (by rintro _ ⟨⟩; exact hdot)
  exact ⟨found, places, hfound, hget, hfirst, hsecond⟩

end TextPattern
