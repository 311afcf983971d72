import TextPattern.Proofs.Delimited
import TextPattern.Proofs.Dialects

/-!
# Whole lines

Zip codes and addresses of electronic mail are looked for as whole lines.

* `IsWholeLine P` : a part with a property that is a line of its text;
* `splitOn_eq_iff` : the pieces of a text that is split at a character, `intercalate_cons` and `intercalate_concat` :
  pieces with a character between them;
* `partsBy_isWholeLine` : the parts that are whole lines are the lines with the property, in order;
* `IsZipCode`, `IsMailAddress` : the two properties, with `isZipCode` and `isMailAddress` to decide them;
* `describes_zipBody`, `describes_mailBody` : the built-in expressions describe the two, between the ends of a
  line;
* `Catalog.builtin_whole_lines` : what a sweep with the built-in catalog has under the two names.
-/

namespace TextPattern

/-! ## Lines of a text -/

/-- The part is a line of its text, and has the property. -/
def IsWholeLine (P : List Char → Prop) (prev : Option Char) (mid post : List Char) : Prop :=
  P mid ∧ prev.all (· = '\n') = true ∧ post.head?.all (· = '\n') = true

def OfLines (P : List Char → Prop) : Prop := ∀ line, P line → line ≠ [] ∧ '\n' ∉ line

section Lines

variable {P : List Char → Prop} {before line rest : List Char} {lines : List (List Char)}

theorem eq_of_append_line {line' rest' : List Char} (hline : '\n' ∉ line) (hline' : '\n' ∉ line')
    (hrest : rest.head?.all (· = '\n') = true) (hrest' : rest'.head?.all (· = '\n') = true)
    (h : line ++ rest = line' ++ rest') : line = line' := by
  have hkind : ∀ line : List Char, '\n' ∉ line → ∀ c ∈ line, (c != '\n') = true := by
    intro line hline c hc
    rw [bne_iff_ne]
    rintro rfl
    exact hline hc
  have hstop : ∀ rest : List Char, rest.head?.all (· = '\n') = true → ∀ c ∈ rest.head?, (c != '\n') = false := by
    intro rest hrest c hc
    rw [Option.mem_def.1 hc] at hrest
    simpa using hrest
  exact (append_inj_of_kind (hkind _ hline) (hkind _ hline') (hstop _ hrest) (hstop _ hrest') h).1

theorem OfLines.delimits (hP : OfLines P) : Delimits (IsWholeLine P) where
  ne_nil h := (hP _ h.1).1
  unique h h' htext := eq_of_append_line (hP _ h.1).2 (hP _ h'.1).2 h.2.2 h'.2.2 htext

/-- From the start of a line, the whole of it is read if it has the property, and nothing else of it. -/
theorem partsFrom_line [DecidablePred P] (hP : OfLines P) (hbefore : before.getLast?.all (· = '\n') = true)
    (hline : '\n' ∉ line) (hrest : rest.head?.all (· = '\n') = true) :
    (partsFrom (partBy (IsWholeLine P)) 0 before (line ++ rest)).map Prod.snd =
      [line].filter P ++ (partsFrom (partBy (IsWholeLine P)) 0 (before ++ line) rest).map Prod.snd := by
  by_cases hhas : P line
  · have hpart : partBy (IsWholeLine P) before.getLast? (line ++ rest) = some line :=
      hP.delimits.partBy_eq_some.2 ⟨rest, rfl, hhas, hbefore, hrest⟩
    rw [partsFrom_part (hP line hhas).1 hpart, List.map_cons, List.filter_singleton, decide_eq_true hhas]
    rfl
  · have hpass : partsFrom (partBy (IsWholeLine P)) 0 before (line ++ rest) =
        partsFrom (partBy (IsWholeLine P)) 0 (before ++ line) rest :=
      partsFrom_pass fun left right heq hne => by
        rw [hP.delimits.partBy_eq_none]
        rintro mid post htext ⟨hmid, hprev, hpost⟩
        cases left using List.reverseRecOn with
        | nil =>
          -- At the start of the line only the line itself could be read.
          obtain rfl : line = right := heq
          exact hhas (eq_of_append_line hline (hP mid hmid).2 hrest hpost htext ▸ hmid)
        | append_singleton left c =>
          rw [← List.append_assoc, List.getLast?_concat] at hprev
          obtain rfl : c = '\n' := by simpa using hprev
          exact hline (heq ▸ by simp)
    rw [hpass, List.filter_singleton, decide_eq_false hhas]
    rfl

/-- Of lines one below the other, those with the property are read. -/
theorem partsFrom_intercalate [DecidablePred P] (hP : OfLines P) (hne : lines ≠ [])
    (hlines : ∀ line ∈ lines, '\n' ∉ line) (hbefore : before.getLast?.all (· = '\n') = true) :
    (partsFrom (partBy (IsWholeLine P)) 0 before (['\n'].intercalate lines)).map Prod.snd = lines.filter P := by
  induction lines generalizing before with
  | nil => exact absurd rfl hne
  | cons line lines ih =>
    obtain ⟨hline, hlines⟩ := List.forall_mem_cons.1 hlines
    cases lines with
    | nil =>
      have hend : (([] : List Char).head?.all (· = '\n')) = true := rfl
      have hlast := partsFrom_line hP hbefore hline hend
      rw [List.append_nil, partsFrom, List.map_nil, List.append_nil] at hlast
      rw [List.intercalate_singleton, hlast]
    | cons next lines =>
      have hfeed : partBy (IsWholeLine P) (before ++ line).getLast?
          ('\n' :: ['\n'].intercalate (next :: lines)) = none := by
        rw [hP.delimits.partBy_eq_none]
        rintro mid post htext ⟨hmid, -, -⟩
        obtain ⟨c, mid, rfl⟩ := List.exists_cons_of_ne_nil (hP mid hmid).1
        obtain rfl : '\n' = c := (List.cons.inj htext).1
        exact (hP _ hmid).2 List.mem_cons_self
      have hfed : (before ++ line ++ ['\n']).getLast?.all (· = '\n') = true := by simp
      have hnext := ih (List.cons_ne_nil next lines) hlines hfed
      rw [List.intercalate_cons_cons, List.append_assoc, List.singleton_append,
        partsFrom_line hP hbefore hline rfl, partsFrom, hfeed]
      rw [hnext, ← List.filter_append, List.singleton_append]

/-! ### Pieces -/

/-- No piece has the character that a text is split at. -/
theorem not_mem_of_mem_splitOn {x : Char} {text piece : List Char} (h : piece ∈ text.splitOn x) : x ∉ piece := by
  induction text generalizing piece with
  | nil =>
    rw [List.splitOn_nil, List.mem_singleton] at h
    rw [h]
    exact List.not_mem_nil
  | cons c text ih =>
    rw [List.splitOn_cons_eq_if_modifyHead] at h
    split at h
    · rcases List.mem_cons.1 h with rfl | h
      · exact List.not_mem_nil
      · exact ih h
    · next hc =>
      obtain ⟨first, pieces, hsplit⟩ := List.exists_cons_of_ne_nil (List.splitOn_ne_nil x text)
      rw [hsplit] at h ih
      rcases List.mem_cons.1 h with rfl | h
      · rw [List.mem_cons, not_or]
        exact ⟨fun heq => hc (by rw [heq, beq_self_eq_true]), ih List.mem_cons_self⟩
      · exact ih (List.mem_cons_of_mem _ h)

/-- The pieces of a text are the lists without the character that make up the text with it between them. -/
theorem splitOn_eq_iff {x : Char} {text : List Char} {pieces : List (List Char)} :
    text.splitOn x = pieces ↔ pieces ≠ [] ∧ (∀ piece ∈ pieces, x ∉ piece) ∧ text = [x].intercalate pieces := by
  constructor
  · rintro rfl
    exact ⟨List.splitOn_ne_nil x text, fun _ => not_mem_of_mem_splitOn, (List.intercalate_splitOn x).symm⟩
  · rintro ⟨hne, hpieces, rfl⟩
    exact List.splitOn_intercalate x hpieces hne

theorem intercalate_cons (x : Char) (first : List Char) (pieces : List (List Char)) :
    [x].intercalate (first :: pieces) = first ++ pieces.flatMap (x :: ·) := by
  induction pieces generalizing first with
  | nil => rw [List.intercalate_singleton, List.flatMap_nil, List.append_nil]
  | cons piece pieces ih =>
    rw [List.intercalate_cons_cons, ih, List.flatMap_cons, List.append_assoc]
    rfl

theorem intercalate_concat (x : Char) (pieces : List (List Char)) (last : List Char) :
    [x].intercalate (pieces ++ [last]) = pieces.flatMap (· ++ [x]) ++ last := by
  induction pieces with
  | nil => exact List.intercalate_singleton
  | cons piece pieces ih =>
    rw [List.cons_append, List.intercalate_cons_of_ne_nil (by simp), ih, List.flatMap_cons,
      List.append_assoc (piece ++ [x])]

theorem intercalate_concat_of_ne_nil (x : Char) {pieces : List (List Char)} (last : List Char) (h : pieces ≠ []) :
    [x].intercalate (pieces ++ [last]) = [x].intercalate pieces ++ x :: last := by
  obtain ⟨first, pieces, rfl⟩ := List.exists_cons_of_ne_nil h
  rw [List.cons_append, intercalate_cons, intercalate_cons, List.flatMap_append, List.flatMap_singleton,
    List.append_assoc]

/-! ### Whole lines -/

/-- The parts that are whole lines are the lines with the property, in order. -/
theorem partsBy_isWholeLine [DecidablePred P] (hP : OfLines P) (text : List Char) :
    (partsBy (IsWholeLine P) text).map Prod.snd = (text.splitOn '\n').filter P := by
  have hstart : (([] : List Char).getLast?.all (· = '\n')) = true := rfl
  have hread := partsFrom_intercalate hP (List.splitOn_ne_nil '\n' text)
    (fun _ hline => not_mem_of_mem_splitOn hline) hstart
  rwa [List.intercalate_splitOn] at hread

end Lines

theorem not_mem_of_kind {p : Char → Bool} {x : Char} {text : List Char} (htext : ∀ c ∈ text, p c = true)
    (hx : p x = false) : x ∉ text := by
  intro hmem
  rw [htext x hmem] at hx
  cases hx

/-! ## Zip codes -/

/-- The text is `n` decimal digits. -/
def IsDigits (n : Nat) (text : List Char) : Prop := text.length = n ∧ ∀ c ∈ text, c.isDigit = true

/-- The line is five digits, and may have a hyphen and four digits behind them. -/
def IsZipCode (line : List Char) : Prop :=
  ∃ five, IsDigits 5 five ∧ (line = five ∨ ∃ four, IsDigits 4 four ∧ line = five ++ '-' :: four)

def digitSet : CharSet := digitRangeSet 0 9

theorem contains_digitSet {c : Char} : digitSet.contains c = true ↔ c.isDigit = true := contains_anyDigitSet_sql

/-- What a zip code is found by, between the ends of a line. -/
def zipBody : List Expr := [
  .rep (.chars digitSet) (.exactly 5) true,
  .rep (.cat (.chars (.single '-')) (.rep (.chars digitSet) (.exactly 4) true)) .optional true]

theorem describes_digits (n : Nat) : (Expr.rep (.chars digitSet) (.exactly n) true).Describes (IsDigits n) :=
  (Expr.describes_rep_chars digitSet _ true).congr fun mid => by
    simp only [Count.allows_exactly, contains_digitSet, IsDigits]

theorem describes_zipBody : (Expr.ofFactors zipBody).Describes IsZipCode := by
  have hmore := ((describes_digits 4).single_cat '-').optional true
  refine ((describes_digits 5).cat hmore).congr fun line => ?_
  constructor
  · rintro ⟨five, more, rfl, hfive, rfl | ⟨four, rfl, hfour⟩⟩
    · exact ⟨five, hfive, .inl (List.append_nil five)⟩
    · exact ⟨five, hfive, .inr ⟨four, hfour, rfl⟩⟩
  · rintro ⟨five, hfive, rfl | ⟨four, hfour, rfl⟩⟩
    · exact ⟨line, [], (List.append_nil line).symm, hfive, .inl rfl⟩
    · exact ⟨five, '-' :: four, rfl, hfive, .inr ⟨four, rfl, hfour⟩⟩

instance (n : Nat) : DecidablePred (IsDigits n) := fun text =>
  decidable_of_iff (text.length = n ∧ text.all Char.isDigit = true) (and_congr_right' List.all_eq_true)

/-- Decides by the pieces between hyphens whether a line is a zip code. -/
def isZipCode (line : List Char) : Bool :=
  match line.splitOn '-' with
  | [five] => decide (IsDigits 5 five)
  | [five, four] => decide (IsDigits 5 five) && decide (IsDigits 4 four)
  | _ => false

theorem IsDigits.not_mem {n : Nat} {text : List Char} {x : Char} (h : IsDigits n text) (hx : x.isDigit = false) :
    x ∉ text := not_mem_of_kind h.2 hx

theorem isZipCode_iff {line : List Char} : isZipCode line = true ↔ IsZipCode line := by
  constructor
  · intro h
    unfold isZipCode at h
    split at h
    · next five hsplit =>
      obtain ⟨-, -, rfl⟩ := splitOn_eq_iff.1 hsplit
      exact ⟨five, of_decide_eq_true h, .inl (by simp)⟩
    · next five four hsplit =>
      obtain ⟨-, -, rfl⟩ := splitOn_eq_iff.1 hsplit
      obtain ⟨hfive, hfour⟩ := Bool.and_eq_true_iff.1 h
      exact ⟨five, of_decide_eq_true hfive, .inr ⟨four, of_decide_eq_true hfour, by simp⟩⟩
    · cases h
  · rintro ⟨five, hfive, rfl | ⟨four, hfour, rfl⟩⟩
    · rw [isZipCode, List.splitOn_eq_singleton (hfive.not_mem rfl)]
      exact decide_eq_true hfive
    · rw [isZipCode, List.splitOn_append_cons_self_of_not_mem (hfive.not_mem rfl),
        List.splitOn_eq_singleton (hfour.not_mem rfl)]
      exact Bool.and_eq_true_iff.2 ⟨decide_eq_true hfive, decide_eq_true hfour⟩

instance : DecidablePred IsZipCode := fun _ => decidable_of_iff _ isZipCode_iff

/-! ## Addresses of electronic mail -/

def isLabelChar (c : Char) : Bool := c.isAlphanum || c = '-'

def isMailChar (c : Char) : Bool := isLabelChar c || c = '.' || c = '_'

/-- The text is at least `n` characters of one kind. -/
def IsRunOf (p : Char → Bool) (n : Nat) (text : List Char) : Prop := n ≤ text.length ∧ ∀ c ∈ text, p c = true

/-- The text is labels with dots between them, a dot, and at least two letters. -/
def IsHost (text : List Char) : Prop := ∃ labels top, text = ['.'].intercalate labels ++ '.' :: top ∧
  (labels ≠ [] ∧ ∀ label ∈ labels, IsRunOf isLabelChar 1 label) ∧ IsRunOf Char.isAlpha 2 top

/-- The line is a name, `@` and a host. -/
def IsMailAddress (line : List Char) : Prop :=
  ∃ name host, line = name ++ '@' :: host ∧ IsRunOf isMailChar 1 name ∧ IsHost host

def inRanges (ranges : List (Nat × Nat)) : CharSet := .unions (ranges.map fun r => .range r.1 r.2)

def letterRanges : List (Nat × Nat) := [(0x41, 0x5A), (0x61, 0x7A)]

def labelRanges : List (Nat × Nat) := letterRanges ++ [(0x30, 0x39), (0x2D, 0x2D)]

def mailRanges : List (Nat × Nat) := labelRanges ++ [(0x2E, 0x2E), (0x5F, 0x5F)]

section Ranges

variable {c : Char} {ranges : List (Nat × Nat)}

theorem contains_inRanges :
    (inRanges ranges).contains c = true ↔ ∃ r ∈ ranges, r.1 ≤ c.toNat ∧ c.toNat ≤ r.2 := by
  simp only [inRanges, CharSet.contains, CharSet.mem_unions, List.any_map, List.any_eq_true, Function.comp_apply,
    CharSet.mem_range, Bool.and_eq_true, decide_eq_true_eq]

theorem contains_append_two {r s : Nat × Nat} : (inRanges (ranges ++ [r, s])).contains c = true ↔
    (inRanges ranges).contains c = true ∨ (r.1 ≤ c.toNat ∧ c.toNat ≤ r.2) ∨ s.1 ≤ c.toNat ∧ c.toNat ≤ s.2 := by
  simp only [contains_inRanges, List.mem_append, List.mem_cons, List.not_mem_nil, or_false, or_and_right, exists_or,
    exists_eq_left]

theorem eq_iff_le_and_le {d : Char} : c = d ↔ d.toNat ≤ c.toNat ∧ c.toNat ≤ d.toNat := by
  rw [← Char.toNat_inj]
  exact le_antisymm_iff.trans and_comm

theorem contains_letterRanges : (inRanges letterRanges).contains c = true ↔ c.isAlpha = true := by
  have hupper : c.isUpper = true ↔ 0x41 ≤ c.toNat ∧ c.toNat ≤ 0x5A := decide_eq_true_iff
  have hlower : c.isLower = true ↔ 0x61 ≤ c.toNat ∧ c.toNat ≤ 0x7A :=
    Bool.and_eq_true_iff.trans (and_congr decide_eq_true_iff decide_eq_true_iff)
  have halpha : c.isAlpha = true ↔ c.isUpper = true ∨ c.isLower = true := Bool.or_eq_true_iff
  rw [contains_inRanges, halpha, hupper, hlower]
  simp only [letterRanges, List.mem_cons, List.not_mem_nil, or_false, exists_eq_or_imp, exists_eq_left]

theorem contains_labelRanges : (inRanges labelRanges).contains c = true ↔ isLabelChar c = true := by
  have hdigit : c.isDigit = true ↔ 0x30 ≤ c.toNat ∧ c.toNat ≤ 0x39 := Char.isDigit_iff_toNat
  rw [labelRanges, contains_append_two, contains_letterRanges, ← hdigit, isLabelChar, Char.isAlphanum]
  simp only [Bool.or_eq_true, decide_eq_true_eq, or_assoc]
  rw [eq_iff_le_and_le]
  rfl

theorem contains_mailRanges : (inRanges mailRanges).contains c = true ↔ isMailChar c = true := by
  rw [mailRanges, contains_append_two, contains_labelRanges, isMailChar]
  simp only [Bool.or_eq_true, decide_eq_true_eq, or_assoc]
  rw [eq_iff_le_and_le, eq_iff_le_and_le]
  rfl

end Ranges

def hostBody : List Expr := [
  .rep (.chars (inRanges labelRanges)) (.atLeast 1) true,
  .rep (.cat (.chars (.single '.')) (.rep (.chars (inRanges labelRanges)) (.atLeast 1) true)) .unlimited true,
  .chars (.single '.'),
  .rep (.chars (inRanges letterRanges)) (.atLeast 2) true]

def mailBody : List Expr :=
  .rep (.chars (inRanges mailRanges)) (.atLeast 1) true :: .chars (.single '@') :: hostBody

theorem describes_run {s : CharSet} {p : Char → Bool} (h : ∀ {c}, s.contains c = true ↔ p c = true) (n : Nat) :
    (Expr.rep (.chars s) (.atLeast n) true).Describes (IsRunOf p n) :=
  (Expr.describes_rep_chars s _ true).congr fun mid => by simp only [Count.allows_atLeast, h, IsRunOf]

theorem describes_hostBody : (Expr.ofFactors hostBody).Describes IsHost := by
  have hlabel := describes_run contains_labelRanges 1
  have htop := describes_run contains_letterRanges 2
  have hmore := (hlabel.single_cat '.').rep_flatMap .unlimited true
  refine (hlabel.cat (hmore.cat (htop.single_cat '.'))).congr fun host => ?_
  constructor
  · rintro ⟨first, _, rfl, hfirst, _, _, rfl, ⟨labels, -, hlabels, rfl⟩, top, rfl, htop⟩
    refine ⟨first :: labels, top, ?_, ⟨List.cons_ne_nil _ _, List.forall_mem_cons.2 ⟨hfirst, hlabels⟩⟩, htop⟩
    rw [intercalate_cons, List.append_assoc]
  · rintro ⟨labels, top, rfl, ⟨hne, hlabels⟩, htop⟩
    obtain ⟨first, labels, rfl⟩ := List.exists_cons_of_ne_nil hne
    obtain ⟨hfirst, hlabels⟩ := List.forall_mem_cons.1 hlabels
    refine ⟨first, labels.flatMap ('.' :: ·) ++ '.' :: top, ?_, hfirst, labels.flatMap ('.' :: ·), '.' :: top, rfl,
      ⟨labels, ⟨Nat.zero_le _, nofun⟩, hlabels, rfl⟩, top, rfl, htop⟩
    rw [intercalate_cons, List.append_assoc]

theorem describes_mailBody : (Expr.ofFactors mailBody).Describes IsMailAddress := by
  have hname := describes_run contains_mailRanges 1
  refine (hname.cat (describes_hostBody.single_cat '@')).congr fun line => ?_
  constructor
  · rintro ⟨name, _, rfl, hname, host, rfl, hhost⟩
    exact ⟨name, host, rfl, hname, hhost⟩
  · rintro ⟨name, host, rfl, hname, hhost⟩
    exact ⟨name, '@' :: host, rfl, hname, host, rfl, hhost⟩

instance (p : Char → Bool) (n : Nat) : DecidablePred (IsRunOf p n) := fun text =>
  decidable_of_iff (n ≤ text.length ∧ text.all p = true) (and_congr_right' List.all_eq_true)

/-- Decides by the pieces between dots whether a text is a host. -/
def isHost (text : List Char) : Bool :=
  match (text.splitOn '.').reverse with
  | top :: label :: labels =>
    decide (IsRunOf Char.isAlpha 2 top) && decide (∀ l ∈ label :: labels, IsRunOf isLabelChar 1 l)
  | _ => false

def isMailAddress (line : List Char) : Bool :=
  match line.splitOn '@' with
  | [name, host] => decide (IsRunOf isMailChar 1 name) && isHost host
  | _ => false

theorem isHost_iff {text : List Char} : isHost text = true ↔ IsHost text := by
  constructor
  · intro h
    unfold isHost at h
    split at h
    · next top label labels hsplit =>
      obtain ⟨htop, hlabels⟩ := Bool.and_eq_true_iff.1 h
      rw [List.reverse_eq_cons_iff] at hsplit
      obtain ⟨-, -, rfl⟩ := splitOn_eq_iff.1 hsplit
      have hne : (label :: labels).reverse ≠ [] := by simp
      exact ⟨_, top, intercalate_concat_of_ne_nil '.' top hne,
        ⟨hne, fun l hl => of_decide_eq_true hlabels l (List.mem_reverse.1 hl)⟩, of_decide_eq_true htop⟩
    · cases h
  · rintro ⟨labels, top, rfl, ⟨hne, hlabels⟩, htop⟩
    have hsplit : (['.'].intercalate labels ++ '.' :: top).splitOn '.' = labels ++ [top] := by
      refine splitOn_eq_iff.2 ⟨by simp, ?_, (intercalate_concat_of_ne_nil '.' top hne).symm⟩
      intro piece hpiece
      rcases List.mem_append.1 hpiece with hpiece | hpiece
      · exact not_mem_of_kind (hlabels piece hpiece).2 rfl
      · rw [List.mem_singleton.1 hpiece]
        exact not_mem_of_kind htop.2 rfl
    obtain ⟨label, rest, hrest⟩ := List.exists_cons_of_ne_nil (List.reverse_ne_nil_iff.2 hne)
    unfold isHost
    rw [hsplit, List.reverse_concat, hrest]
    refine Bool.and_eq_true_iff.2 ⟨decide_eq_true htop, decide_eq_true fun l hl => hlabels l ?_⟩
    rwa [← hrest, List.mem_reverse] at hl

theorem IsHost.isMailChar {text : List Char} (h : IsHost text) : ∀ c ∈ text, isMailChar c = true := by
  have hlabel : ∀ label, IsRunOf isLabelChar 1 label → ∀ c ∈ label, TextPattern.isMailChar c = true := by
    intro label hlabel c hc
    simp [TextPattern.isMailChar, hlabel.2 c hc]
  obtain ⟨labels, top, rfl, ⟨hne, hlabels⟩, htop⟩ := h
  obtain ⟨first, labels, rfl⟩ := List.exists_cons_of_ne_nil hne
  obtain ⟨hfirst, hlabels⟩ := List.forall_mem_cons.1 hlabels
  intro c hc
  rw [intercalate_cons, List.mem_append, List.mem_append, List.mem_flatMap, List.mem_cons] at hc
  rcases hc with (hc | ⟨label, hmem, hc⟩) | rfl | hc
  · exact hlabel first hfirst c hc
  · rcases List.mem_cons.1 hc with rfl | hc
    · rfl
    · exact hlabel label (hlabels label hmem) c hc
  · rfl
  · simp [TextPattern.isMailChar, isLabelChar, Char.isAlphanum, htop.2 c hc]

theorem isMailAddress_iff {line : List Char} : isMailAddress line = true ↔ IsMailAddress line := by
  constructor
  · intro h
    unfold isMailAddress at h
    split at h
    · next name host hsplit =>
      obtain ⟨hname, hhost⟩ := Bool.and_eq_true_iff.1 h
      obtain ⟨-, -, rfl⟩ := splitOn_eq_iff.1 hsplit
      exact ⟨name, host, by simp, of_decide_eq_true hname, isHost_iff.1 hhost⟩
    · cases h
  · rintro ⟨name, host, rfl, hname, hhost⟩
    rw [isMailAddress, List.splitOn_append_cons_self_of_not_mem (not_mem_of_kind hname.2 rfl),
      List.splitOn_eq_singleton (not_mem_of_kind hhost.isMailChar rfl)]
    exact Bool.and_eq_true_iff.2 ⟨decide_eq_true hname, isHost_iff.2 hhost⟩

instance : DecidablePred IsMailAddress := fun _ => decidable_of_iff _ isMailAddress_iff

example : ["first.last@mail-1.host.org", "a@b", "a@b..cd", "a@b.c", "a@b.cd\r"].map
    (fun line => isMailAddress line.toList) = [true, false, false, false, false] := by decide +kernel

/-! ## Built-in expressions -/

def lineExpr (body : List Expr) : Expr := .enclosed .lineStart body .lineEnd

theorem reads_lineExpr {body : List Expr} {P : List Char → Prop} (h : (Expr.ofFactors body).Describes P)
    (hP : OfLines P) : (lineExpr body).Reads (partBy (IsWholeLine P)) :=
  hP.delimits.reads fun _ _ _ => Expr.onPart_enclosed h

theorem ofLines_isZipCode : OfLines IsZipCode := by
  rintro line ⟨five, hfive, hline⟩
  have hne : five ≠ [] := List.ne_nil_of_length_eq_add_one hfive.1
  rcases hline with rfl | ⟨four, hfour, rfl⟩
  · exact ⟨hne, hfive.not_mem rfl⟩
  · refine ⟨List.append_ne_nil_of_left_ne_nil hne _, ?_⟩
    rw [List.mem_append, List.mem_cons, not_or, not_or]
    exact ⟨hfive.not_mem rfl, by decide, hfour.not_mem rfl⟩

theorem ofLines_isMailAddress : OfLines IsMailAddress := by
  rintro line ⟨name, host, rfl, hname, hhost⟩
  refine ⟨List.append_ne_nil_of_left_ne_nil (List.ne_nil_of_length_pos hname.1) _, ?_⟩
  rw [List.mem_append, List.mem_cons, not_or, not_or]
  exact ⟨not_mem_of_kind hname.2 rfl, by decide, not_mem_of_kind hhost.isMailChar rfl⟩

theorem compile_zipBody :
    (Options.none.compile "(?m)^[0-9]\x7b5\x7d(?:-[0-9]\x7b4\x7d)?$".toList).toOption = some (lineExpr zipBody) :=
  Options.toOption_compile_ofList (by decide +kernel)

theorem compile_mailBody :
    (Options.none.compile
      "(?m)^[A-Za-z0-9._-]+@[A-Za-z0-9-]+(?:\\.[A-Za-z0-9-]+)*\\.[A-Za-z]\x7b2,\x7d$".toList).toOption =
      some (lineExpr mailBody) :=
  Options.toOption_compile_ofList (by decide +kernel)

/-- In every text just the lines that are zip codes are found as such, in order, and so are the lines that are
addresses of electronic mail. -/
theorem Catalog.builtin_whole_lines (d : Disclosure) (input : String) :
    ∃ found, (loadBuiltin.value.sweep d input).value = .ok found ∧
      found.get? "us_zipcode" = listed (((input.toList.splitOn '\n').filter IsZipCode).map String.ofList) ∧
      found.get? "email_address" =
        listed (((input.toList.splitOn '\n').filter IsMailAddress).map String.ofList) := by
  rw [value_loadBuiltin]
  obtain ⟨found, hfound⟩ := (exists_sweep_iff builtin d input).2 isValid_builtin
  refine ⟨found, hfound, ?_, ?_⟩
  · rw [get?_of_sweep_builtin (by decide +kernel) (by decide +kernel) compile_zipBody
      (reads_lineExpr describes_zipBody ofLines_isZipCode) hfound,
      ← partsBy_isWholeLine ofLines_isZipCode, List.map_map]
    rfl
  · rw [get?_of_sweep_builtin (by decide +kernel) (by decide +kernel) compile_mailBody
      (reads_lineExpr describes_mailBody ofLines_isMailAddress) hfound,
      ← partsBy_isWholeLine ofLines_isMailAddress, List.map_map]
    rfl

end TextPattern
