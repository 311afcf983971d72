import TextPattern.Proofs.Sample.Classes
import TextPattern.Proofs.Sample.Exhaust
import TextPattern.Proofs.Sample.Matching
import TextPattern.Proofs.Sample.Reading

/-!
# How long samples get

No stage makes a text heavier, since what it puts in weighs no more than what it is put in for.

* `Light more extra mark value` : a value weighs no more than its mark, wherever both stand;
* `Passed.weight_le` : so a pass that puts in a light value makes no text heavier;
* `light_class`, `light_token` : what is drawn is light;
* `looseClasses` : the classes of a pattern that may leave tokens with a sign;
* `length_generate_le` : how long a sample gets.
-/

namespace TextPattern.Sample

open TextPattern.Random

/-! ## Light values -/

/-- The open brackets of the second reading have behind them what those of the first have. -/
def Below (t s : Reading) : Prop := List.Forall₂ Inside.Le t.opened s.opened

/-- What the next character may grow to more behind the first reading than behind the second. -/
def gap (more extra : Nat) (t s : Reading) : Nat :=
  (if t.joined = true ∧ s.joined = false then more else 0) + if t.mixed = true ∧ s.mixed = false then extra else 0

/-- Wherever both stand, a value and what comes next behind it may grow to no more than a mark. -/
def Light (more extra : Nat) (mark value : List Char) : Prop :=
  ∀ t s : Reading, Below t s → Below (t.run value) (s.run mark) ∧
    t.weight more extra value + gap more extra (t.run value) (s.run mark) ≤
      s.weight more extra mark + gap more extra t s

section Light

variable {more extra : Nat} {mark value : List Char} {t s : Reading}

theorem gap_le (more extra : Nat) (t s : Reading) :
    gap more extra t s ≤ (if t.joined then more else 0) + if t.mixed then extra else 0 := by
  unfold gap
  cases t.joined <;> cases s.joined <;> cases t.mixed <;> cases s.mixed <;> simp

theorem le_gap (more extra : Nat) (t s : Reading) :
    (if t.joined then more else 0) + (if t.mixed then extra else 0) ≤
      (if s.joined then more else 0) + (if s.mixed then extra else 0) + gap more extra t s := by
  unfold gap
  cases t.joined <;> cases s.joined <;> cases t.mixed <;> cases s.mixed <;> simp; omega

theorem Below.next (h : Below t s) (c : Char) :
    Below (t.next c) (s.next c) ∧ ((t.next c).mixed = true → (s.next c).mixed = true) := by
  obtain ⟨tj, tm, is⟩ := t
  obtain ⟨sj, sm, js⟩ := s
  have h : List.Forall₂ Inside.Le is js := h
  unfold Reading.next
  split
  · exact ⟨List.Forall₂.cons (.refl _) h, id⟩
  · split
    · cases h with
      | nil => exact ⟨List.Forall₂.nil, id⟩
      | cons hfirst hrest => exact ⟨forall₂_note hfirst hrest, hfirst.mixed⟩
    · exact ⟨forall₂_note (.refl _) h, id⟩

theorem gap_of_not_mixed (more extra : Nat) (h : t.mixed = false) (s : Reading) :
    gap more extra t s ≤ if s.joined then 0 else more := by
  unfold gap
  rw [h]
  cases t.joined <;> cases s.joined <;> simp

theorem light_char (more extra : Nat) (c : Char) : Light more extra [c] [c] := by
  intro t s h
  obtain ⟨hbelow, hmixed⟩ := h.next c
  refine ⟨hbelow, ?_⟩
  have hnone : gap more extra (t.next c) (s.next c) = 0 := by
    have hjoined : ¬ ((t.next c).joined = true ∧ (s.next c).joined = false) := by
      rintro ⟨htrue, hfalse⟩
      rw [Reading.joined_next, ← Reading.joined_next (r := s), hfalse] at htrue
      cases htrue
    have hmixed : ¬ ((t.next c).mixed = true ∧ (s.next c).mixed = false) := by
      rintro ⟨htrue, hfalse⟩
      rw [hmixed htrue] at hfalse
      cases hfalse
    rw [gap, if_neg hjoined, if_neg hmixed]
  have hcharge : t.charge more extra c ≤ s.charge more extra c + gap more extra t s := by
    unfold Reading.charge gap Reading.loosens
    cases t.joined <;> cases s.joined <;> cases t.mixed <;> cases s.mixed <;> simp <;> split_ifs <;> omega
  change t.charge more extra c + 0 + gap more extra (t.next c) (s.next c) ≤ s.charge more extra c + 0 + _
  omega

/-- A pass that puts in a light value makes no text heavier. -/
theorem Passed.weight_le {open? : Char → Bool} {adjacent free : Bool} {text out : List Char}
    (hlight : Light more extra mark value) (h : Passed open? adjacent mark value free text out)
    (hbelow : Below t s) : t.weight more extra out ≤ s.weight more extra text + gap more extra t s := by
  induction h generalizing t s with
  | nil => exact Nat.zero_le _
  | @keep free c rest out _ _ ih =>
    obtain ⟨hnext, hchar⟩ := light_char more extra c t s hbelow
    have hrest := ih hnext
    have hsplit : ∀ l : List Char, c :: l = [c] ++ l := fun _ => rfl
    rw [hsplit out, hsplit rest, Reading.weight_append, Reading.weight_append]
    omega
  | @put rest out _ ih =>
    obtain ⟨hnext, hvalue⟩ := hlight t s hbelow
    have hrest := ih hnext
    rw [Reading.weight_append, Reading.weight_append]
    omega

def weightOf (more extra : Nat) (text : List Char) : Nat := Reading.start.weight more extra text

theorem Passed.weightOf_le {open? : Char → Bool} {adjacent free : Bool} {text out : List Char}
    (hlight : Light more extra mark value) (h : Passed open? adjacent mark value free text out) :
    weightOf more extra out ≤ weightOf more extra text :=
  h.weight_le hlight (t := .start) (s := .start) List.Forall₂.nil

theorem Exhausts.weightOf_le {rounds : Nat} {text out : List Char} (hlight : Light more extra mark value)
    (hmark : mark ≠ []) (h : Exhausts mark value rounds text out) :
    weightOf more extra out ≤ weightOf more extra text := by
  induction h with
  | stop _ => exact Nat.le_refl _
  | round _ _ ih => exact ih.trans ((replaceFree_passed hmark value _).weightOf_le hlight)

end Light

/-! ## What is drawn -/

section Drawn

variable {more extra max : Nat} {value : List Char}

def Amount.hasSign : Amount → Bool
  | any | most => true
  | one => false

theorem Amount.Allows.le {a : Amount} {n : Nat} (h : a.Allows max n) :
    n ≤ if a.hasSign then Nat.max max 1 else 1 := by
  cases a with
  | any => exact Nat.le_trans h (Nat.le_max_left max 1)
  | most => exact Nat.le_of_eq h
  | one => exact Nat.le_of_eq h

section Class

variable {body : List Char}

theorem classMark_append (body sign : List Char) : classMark body sign = '[' :: body ++ ([']'] ++ sign) := by
  simp [classMark]

theorem run_body (hbody : ∀ c ∈ body, isBodyChar c = true) (s : Reading) :
    (s.run ('[' :: body)).opened = .ofText body :: s.opened := by
  have hplain : ∀ c ∈ body, c ≠ '[' ∧ c ≠ ']' := fun c hc =>
    ⟨ne_of_isBodyChar (by decide) (hbody c hc), ne_of_isBodyChar (by decide) (hbody c hc)⟩
  have hopened := (Reading.run_of_plain (r := s.next '[') hplain).1
  refine hopened.trans ?_
  simp [Reading.next, note, Inside.or, Inside.ofText]

theorem run_class (hbody : ∀ c ∈ body, isBodyChar c = true) (s : Reading) :
    (s.run ('[' :: body)).next ']' = ⟨true, (Inside.ofText body).mixed, note (.ofText body) s.opened⟩ := by
  rw [Reading.next, if_neg (by decide), if_pos rfl, run_body hbody]

theorem run_classMark (hbody : ∀ c ∈ body, isBodyChar c = true) (a : Amount) (s : Reading) :
    s.run (classMark body a.sign) = ⟨!a.hasSign, !a.hasSign && (Inside.ofText body).mixed,
      note (.ofText a.sign) (note (.ofText body) s.opened)⟩ := by
  have hrun : s.run (classMark body a.sign) = ((s.run ('[' :: body)).next ']').run a.sign := by
    rw [classMark_append, Reading.run_append]
    rfl
  rw [hrun, run_class hbody]
  cases a with
  | any | most => rfl
  | one => simp [Reading.run, Amount.sign, Amount.hasSign, note_empty]

/-- The bracket of a class counts as a token, and so does its sign, which also counts the tokens that may be drawn
from the class. -/
theorem le_weight_classMark (more extra : Nat) (hne : body ≠ []) (hbody : ∀ c ∈ body, isBodyChar c = true)
    (a : Amount) (s : Reading) :
    3 + more + (if s.joined then more else 0) + (if s.mixed then extra else 0) +
        (if a.hasSign then 1 + more + if (Inside.ofText body).mixed then extra else 0 else 0) ≤
      s.weight more extra (classMark body a.sign) := by
  have hsplit : '[' :: body ++ ([']'] ++ a.sign) = ['['] ++ (body ++ ([']'] ++ a.sign)) := rfl
  have hlength := Reading.length_le_weight more extra (s.run ['[']) body
  have hpos := List.length_pos_iff.2 hne
  have hrun : ((s.run ['[']).run body).run [']'] =
      ⟨true, (Inside.ofText body).mixed, note (.ofText body) s.opened⟩ := run_class hbody s
  have hopen : s.weight more extra ['['] =
      1 + more + (if s.joined then more else 0) + if s.mixed then extra else 0 := by
    simp [Reading.weight, Reading.charge, Reading.loosens]
  have hclose : ∀ r : Reading, r.weight more extra [']'] = 1 := by
    intro r
    simp [Reading.weight, Reading.charge, Reading.loosens, isSign]
  have hsign : ∀ is, (Reading.mk true (Inside.ofText body).mixed is).weight more extra a.sign =
      if a.hasSign then 1 + more + if (Inside.ofText body).mixed then extra else 0 else 0 := by
    intro is
    cases a <;> simp [Reading.weight, Reading.charge, Reading.loosens, isSign, Amount.sign, Amount.hasSign]
  rw [classMark_append, hsplit, Reading.weight_append, Reading.weight_append, Reading.weight_append, hrun, hopen,
    hclose, hsign]
  omega

/-- What is drawn over the body of a class weighs no more than the class. -/
theorem light_class (hne : body ≠ []) (hbody : ∀ c ∈ body, isBodyChar c = true) (hmem : ∀ c ∈ value, c ∈ body)
    {a : Amount} (hlength : a.Allows max value.length) (hmore : Nat.max max 1 ≤ more + 2)
    (hextra : more * (Nat.max max 1 / 2) ≤ extra) : Light more extra (classMark body a.sign) value := by
  intro t s hbelow
  have hplain : ∀ c ∈ value, c ≠ '[' ∧ c ≠ ']' := fun c hc =>
    ⟨ne_of_isBodyChar (by decide) (hbody c (hmem c hc)), ne_of_isBodyChar (by decide) (hbody c (hmem c hc))⟩
  obtain ⟨hopened, hmixed⟩ := Reading.run_of_plain (r := t) hplain
  constructor
  · rw [Below, hopened, run_classMark hbody, note_note]
    exact forall₂_note ((Inside.ofText_le hmem).or_left _) hbelow
  have hmark := le_weight_classMark more extra hne hbody a s
  have hgap := le_gap more extra t s
  -- What stands before the class stands before the rest if nothing is drawn; the bracket has paid for that.
  by_cases hnil : value = []
  · subst hnil
    have hbehind := gap_le more extra t (s.run (classMark body a.sign))
    simp only [Reading.weight, Reading.run_nil]
    omega
  · have hdrawn := Reading.weight_of_drawn more extra t hbody hmem hlength.le
    have hbehind := gap_of_not_mixed more extra (hmixed hnil) (s.run (classMark body a.sign))
    have hlength := hlength.le
    have hjoined : (s.run (classMark body a.sign)).joined = !a.hasSign := by rw [run_classMark hbody]
    rw [hjoined] at hbehind
    cases hsign : a.hasSign with
    | true =>
      simp only [hsign, if_true, Bool.not_true, Bool.false_eq_true, if_false] at hmark hdrawn hlength hbehind
      have htokens : (if (Inside.ofText body).mixed then more * (Nat.max max 1 / 2) else 0) ≤
          if (Inside.ofText body).mixed then extra else 0 := by
        split_ifs
        · exact hextra
        · exact Nat.le_refl 0
      omega
    | false =>
      simp only [hsign, Bool.false_eq_true, if_false, Bool.not_false, if_true, Nat.reduceDiv, Nat.mul_zero,
        ite_self] at hmark hdrawn hlength hbehind
      omega

end Class

theorem le_weight_tokenMark (more extra : Nat) (t : Token) (a : Amount) (s : Reading) :
    (if a.hasSign then more + 2 else 1) ≤ s.weight more extra (t.mark ++ a.sign) := by
  cases t <;> cases a <;>
    simp [Reading.weight, Reading.charge, Reading.next, Token.mark, Amount.sign, Amount.hasSign, isSign] <;> omega

/-- What is drawn for a token weighs no more than the token. When that is replaced no class is left, so none
counts. -/
theorem light_token {t : Token} {a : Amount} (hvalue : Hole.Fits ⟨.token t, a⟩ max value)
    (hmore : Nat.max max 1 ≤ more + 2) : Light more 0 (t.mark ++ a.sign) value := by
  have hinert := hvalue.inert (h := ⟨.token t, a⟩) trivial
  have hmark : ∀ c ∈ t.mark ++ a.sign, c ≠ '[' ∧ c ≠ ']' := by
    cases t <;> cases a <;> simp [Token.mark, Amount.sign]
  intro r s hbelow
  rw [Reading.run_of_inert hinert, Reading.weight_of_inert hinert]
  constructor
  · have hopened : r.opened = note (.ofText []) r.opened := (note_empty _).symm
    have hnone : (Inside.ofText []).Le (.ofText (t.mark ++ a.sign)) :=
      ⟨fun h => absurd h Bool.false_ne_true, fun h => absurd h Bool.false_ne_true⟩
    rw [Below, (Reading.run_of_plain hmark).1, apply_ite Reading.opened, ite_self, hopened]
    exact forall₂_note hnone hbelow
  have hweight := le_weight_tokenMark more 0 t a s
  have hlength : value.length ≤ _ := hvalue.length.le
  have hbehind := gap_le more 0 (if value = [] then r else ⟨false, false, r.opened⟩) (s.run (t.mark ++ a.sign))
  have hroom : (if r.joined then more else 0) ≤ more := by
    split_ifs
    · exact Nat.le_refl more
    · exact Nat.zero_le more
  -- Only an amount with a sign may be nothing, and then the sign has paid for what stands before.
  by_cases hnil : value = []
  · subst hnil
    simp only [if_true, ite_self] at hbehind ⊢
    cases a with
    | one => cases (hvalue.length : 0 = 1)
    | any | most =>
      simp only [Amount.hasSign, if_true, List.length_nil] at hweight ⊢
      omega
  · simp only [hnil, if_false, Bool.false_eq_true] at hbehind ⊢
    cases hsign : a.hasSign with
    | true =>
      simp only [hsign, if_true] at hweight hlength
      omega
    | false =>
      simp only [hsign, Bool.false_eq_true, if_false] at hweight hlength
      omega

end Drawn

/-! ## Samples -/

section Stages

variable {σ : Type} [Source σ] {more extra max : Nat}

theorem weightOf_drawBodies_le (hmore : Nat.max max 1 ≤ more + 2) (hextra : more * (Nat.max max 1 / 2) ≤ extra)
    (a : Amount) {bodies : List (List Char)}
    (hbodies : ∀ body ∈ bodies, body ≠ [] ∧ ∀ c ∈ body, isBodyChar c = true) (text : List Char) :
    Draws (drawBodies a max bodies text : StateM σ (List Char))
      fun out => weightOf more extra out ≤ weightOf more extra text := by
  induction bodies generalizing text with
  | nil => exact Draws.pure (Nat.le_refl _)
  | cons body bodies ih =>
    obtain ⟨⟨hne, hbody⟩, hbodies⟩ := List.forall_mem_cons.1 hbodies
    refine (draws_drawValue hne a max).bind fun value hvalue => ?_
    have hlight := light_class hne hbody hvalue.2 hvalue.1 hmore hextra
    have hmark : classMark body a.sign ≠ [] := List.cons_ne_nil _ _
    exact (ih hbodies _).imp fun out hout => hout.trans ((replaceAll_passed hmark value text).weightOf_le hlight)

theorem weightOf_drawClasses_le (hmore : Nat.max max 1 ≤ more + 2) (hextra : more * (Nat.max max 1 / 2) ≤ extra)
    (a : Amount) (text : List Char) : Draws (drawClasses a max text : StateM σ (List Char))
      fun out => weightOf more extra out ≤ weightOf more extra text :=
  weightOf_drawBodies_le hmore hextra a (fun _ hbody => (mem_classBodies.1 hbody).imp_right And.left) text

theorem weightOf_drawToken_le (hmore : Nat.max max 1 ≤ more + 2) (t : Token) (a : Amount) (text : List Char) :
    Draws (drawToken t a max text : StateM σ (List Char))
      fun out => weightOf more 0 out ≤ weightOf more 0 text := by
  intro source
  obtain ⟨rounds, -, hexhausts⟩ := drawToken_exhausts t a max text source
  have hvalue := draws_drawHole (h := ⟨.token t, a⟩) trivial max source
  exact hexhausts.weightOf_le (light_token hvalue hmore) (tokenMark_ne_nil t a)

theorem length_expand_le (hmore : Nat.max max 1 ≤ more + 2) (hextra : more * (Nat.max max 1 / 2) ≤ extra)
    (text : List Char) :
    Draws (expand max text : StateM σ (List Char)) fun out => out.length ≤ weightOf more extra text := by
  have hclasses : Draws (Amount.all.foldlM (fun text a => drawClasses a max text) text : StateM σ (List Char))
      fun mid => weightOf more extra mid ≤ weightOf more extra text :=
    Draws.foldlM (fun mid a hmid =>
      (weightOf_drawClasses_le hmore hextra a mid).imp fun _ hout => hout.trans hmid) _ (Nat.le_refl _)
  refine hclasses.bind fun mid hmid => ?_
  have htokens : Draws (tokenStages.foldlM (fun text s => drawToken s.1 s.2 max text) mid : StateM σ (List Char))
      fun out => weightOf more 0 out ≤ weightOf more 0 mid :=
    Draws.foldlM (fun out s hout =>
      (weightOf_drawToken_le hmore s.1 s.2 out).imp fun _ hlast => hlast.trans hout) _ (Nat.le_refl _)
  refine htokens.imp fun out hout => ?_
  calc
    out.length ≤ weightOf more 0 out := Reading.length_le_weight more 0 .start out
    _ ≤ weightOf more 0 mid := hout
    _ ≤ weightOf more extra mid := Reading.weight_mono (Nat.zero_le extra)
    _ ≤ weightOf more extra text := hmid

theorem length_unescapeDots_le (text : List Char) : (unescapeDots text).length ≤ text.length := by
  obtain ⟨places, hreplaced, -⟩ := replaceAll_replaced (List.cons_ne_nil '\\' ['.']) ['.'] text
  have hlength := hreplaced.length
  have hshort : places * ['.'].length ≤ places * ['\\', '.'].length := Nat.mul_le_mul_left places (by decide)
  rw [unescapeDots]
  omega

/-- How many classes of a pattern have a dot and a sign, and a sign or another class directly behind them. In
`[.+]+[.a]*[.*](x)[[.]*]+` these are the first and the one around the last. -/
def looseClasses (pattern : String) : Nat := Reading.start.loose pattern.toList

/-- A sample has no more characters than the greatest length, or one if that is zero, for each character of the
pattern, and beside these what is drawn for half that many tokens for each loose class. -/
theorem length_generate_le {pattern : String} (hvalid : isValid pattern = true) {limit : Int} (hmin : 0 ≤ limit)
    (hmax : limit ≤ 2 ^ 20) (source : σ) :
    ∃ sample, (generate pattern limit source).1 = .ok sample ∧
      sample.length ≤ pattern.length * Nat.max limit.toNat 1 +
        looseClasses pattern * (Nat.max limit.toNat 1 / 2 * (Nat.max limit.toNat 1 - 2)) := by
  obtain ⟨p, hp⟩ := exists_compile_of_isValid hvalid
  refine ⟨_, by rw [generate_eq_ok (validateAndCompile_none hp) (sampleLength_eq_ok hmin hmax)], ?_⟩
  have hpos : 1 ≤ Nat.max limit.toNat 1 := Nat.le_max_right _ 1
  generalize hlongest : Nat.max limit.toNat 1 = longest at hpos ⊢
  have hmore : Nat.max limit.toNat 1 ≤ longest - 2 + 2 := by omega
  have hextra : (longest - 2) * (Nat.max limit.toNat 1 / 2) ≤ longest / 2 * (longest - 2) := by
    rw [hlongest, Nat.mul_comm]
  have hexpand := length_expand_le (σ := σ) hmore hextra pattern.toList source
  have hroom : (longest - 2 + 1) * pattern.toList.length ≤ longest * pattern.toList.length :=
    Nat.mul_le_mul_right _ (by omega)
  rw [String.length_ofList]
  calc
    _ ≤ _ := length_unescapeDots_le _
    _ ≤ weightOf (longest - 2) (longest / 2 * (longest - 2)) pattern.toList := hexpand
    _ ≤ (longest - 2 + 1) * pattern.toList.length + 0 + longest / 2 * (longest - 2) * looseClasses pattern :=
      Reading.weight_le _ _ .start _
    _ ≤ _ := by
      rw [← String.length_toList, Nat.mul_comm _ longest, Nat.mul_comm (looseClasses pattern)]
      omega

/-- The tokens that the class in `[.+]+` leaves are replaced in their turn. -/
theorem length_generate_dot_plus : isValid "[.+]+" = true ∧ looseClasses "[.+]+" = 1 ∧ ∃ sample,
    (generate "[.+]+" 12 (Cycle.mk #[0, 0xFFFFFFFF] 0)).1 = .ok sample ∧
      sample.length ≤ 5 * 12 + 1 * (6 * 10) := by
  have hvalid : isValid "[.+]+" = true := by decide +kernel
  have hmax : (12 : Int) ≤ 2 ^ 20 := by decide
  exact ⟨hvalid, by decide, length_generate_le hvalid (by decide) hmax (Cycle.mk #[0, 0xFFFFFFFF] 0)⟩

/-- So there may be more characters than the greatest length for each of the pattern. -/
theorem exists_length_generate_gt : ∃ pattern, isValid pattern = true ∧ ∃ sample,
    (generate pattern 12 (Cycle.mk #[0, 0xFFFFFFFF] 0)).1 = .ok sample ∧
      pattern.length * Nat.max 12 1 < sample.length := by
  refine ⟨"[.+]+", by decide +kernel,
    "a_a_a_a_a_a_a_a_a_a_a_a_a_a_a_a_a_a_a_a_a_a_a_a_a_a_a_a_a_a_a_a_a_a_a_a_", ?_, by decide⟩
  decide +kernel

end Stages

end TextPattern.Sample
