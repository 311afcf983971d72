import Mathlib.Data.List.Forall2
import TextPattern.Proofs.Sample.Items

/-!
# What a text may grow to

What stands for a class may have tokens that a later stage replaces, so what a character grows to depends on what
stands before it.

* `Inside`, `Reading` : what is known of a text behind the part that is read;
* `Reading.weight more extra r text` : what a text may grow to, `more` for each token with a sign, and `extra` for
  each class from which such tokens may be drawn;
* `Reading.weight_le` : a bound in which only the length of the text counts, and its loose classes;
* `Reading.run_of_plain`, `Reading.weight_of_plain` : texts without brackets;
* `Reading.weight_of_drawn` : texts that are drawn over the body of a class.
-/

namespace TextPattern.Sample

/-! ## Reading a text -/

def isSign (c : Char) : Bool := c = '*' || c = '+'

/-- Whether a text has a dot, and whether it has a sign. -/
structure Inside where
  dot : Bool
  sign : Bool
deriving DecidableEq, Repr

namespace Inside

def ofText (text : List Char) : Inside := ⟨text.contains '.', text.any isSign⟩

def or (i j : Inside) : Inside := ⟨i.dot || j.dot, i.sign || j.sign⟩

/-- From a text with both a dot with a sign behind it may be drawn. -/
def mixed (i : Inside) : Bool := i.dot && i.sign

structure Le (i j : Inside) : Prop where
  dot : i.dot = true → j.dot = true
  sign : i.sign = true → j.sign = true

end Inside

/-- Adds to what the innermost open bracket has behind it. -/
def note (i : Inside) : List Inside → List Inside
  | [] => []
  | j :: opened => j.or i :: opened

/-- What is known of a text behind the part that is read. -/
structure Reading where
  /-- A dot or a closing bracket stands before. -/
  joined : Bool
  /-- A bracket was closed just before that has a dot and a sign behind it. -/
  mixed : Bool
  /-- What the open brackets have behind them, the innermost first. -/
  opened : List Inside
deriving DecidableEq, Repr

namespace Reading

def start : Reading := ⟨false, false, []⟩

/-- Behind the next character. A closing bracket takes what its class has to the bracket around it. -/
def next (r : Reading) (c : Char) : Reading :=
  if c = '[' then ⟨false, false, .ofText [] :: r.opened⟩
  else if c = ']' then
    match r.opened with
    | [] => ⟨true, false, []⟩
    | i :: opened => ⟨true, i.mixed, note i opened⟩
  else ⟨c = '.', false, note (.ofText [c]) r.opened⟩

def run (r : Reading) (text : List Char) : Reading := text.foldl next r

/-- A class from which tokens may be drawn has just been closed, and the character is a sign or begins a class that
may leave one behind it. -/
def loosens (r : Reading) (c : Char) : Bool := r.mixed && (c = '[' || isSign c)

/-- How many classes of a text have a dot and a sign, and a sign or another class directly behind them. -/
def loose : Reading → List Char → Nat
  | _, [] => 0
  | r, c :: rest => (r.loosens c).toNat + (r.next c).loose rest

variable (more extra : Nat)

/-- What a character may grow to. A bracket or a backslash may begin a token; a sign makes a token of the dot or the
class before it, and a class that is left out may leave one there. Behind a class from which tokens may be drawn
either may bring these about. -/
def charge (r : Reading) (c : Char) : Nat :=
  1 + (if c = '[' ∨ c = '\\' then more else 0) +
    (if r.joined ∧ (c = '[' ∨ isSign c) then more else 0) + if r.loosens c then extra else 0

def weight : Reading → List Char → Nat
  | _, [] => 0
  | r, c :: rest => charge more extra r c + weight (r.next c) rest

end Reading

namespace Reading

variable {more extra : Nat} {r : Reading} {text rest : List Char}

theorem run_nil (r : Reading) : r.run [] = r := rfl

theorem run_append : r.run (text ++ rest) = (r.run text).run rest := List.foldl_append

theorem weight_append :
    r.weight more extra (text ++ rest) = r.weight more extra text + (r.run text).weight more extra rest := by
  induction text generalizing r with
  | nil => exact (Nat.zero_add _).symm
  | cons c text ih =>
    rw [List.cons_append, weight, weight, ih, Nat.add_assoc]
    rfl

theorem length_le_weight (more extra : Nat) (r : Reading) (text : List Char) :
    text.length ≤ r.weight more extra text := by
  induction text generalizing r with
  | nil => exact Nat.le_refl 0
  | cons c text ih =>
    have hrest := ih (r.next c)
    rw [List.length_cons, weight, charge]
    omega

theorem weight_mono {less : Nat} (h : less ≤ extra) : r.weight more less text ≤ r.weight more extra text := by
  induction text generalizing r with
  | nil => exact Nat.le_refl 0
  | cons c text ih =>
    have hrest := ih (r := r.next c)
    have hfirst : r.charge more less c ≤ r.charge more extra c := by
      unfold charge
      split_ifs <;> omega
    rw [weight, weight]
    omega

theorem joined_next {c : Char} : (r.next c).joined = true ↔ c = '.' ∨ c = ']' := by
  unfold next
  split
  · next hc => simp [hc]
  · split
    · next hc => split <;> simp [hc]
    · next hc => simp [hc]

theorem ite_and_le {p q : Prop} [Decidable p] [Decidable q] (n : Nat) :
    (if p ∧ q then n else 0) ≤ if p then n else 0 := by
  by_cases h : p ∧ q
  · rw [if_pos h, if_pos h.1]
  · rw [if_neg h]
    exact Nat.zero_le _

/-- A character pays for what it may grow to and for what stands behind it with its own share and with what was
paid before it. -/
theorem charge_le (more extra : Nat) (r : Reading) (c : Char) :
    charge more extra r c + (if (r.next c).joined then more else 0) ≤
      more + 1 + (if r.joined then more else 0) + extra * (r.loosens c).toNat := by
  have hloose : (if r.loosens c then extra else 0) = extra * (r.loosens c).toNat := by
    cases r.loosens c <;> simp
  have hjoined : (if r.joined ∧ (c = '[' ∨ isSign c) then more else 0) ≤ if r.joined then more else 0 :=
    ite_and_le more
  simp only [charge, joined_next, hloose]
  by_cases hbehind : c = '.' ∨ c = ']'
  · have hopen : ¬ (c = '[' ∨ c = '\\') := by rcases hbehind with rfl | rfl <;> decide
    have hsign : ¬ (c = '[' ∨ isSign c = true) := by rcases hbehind with rfl | rfl <;> decide
    rw [if_neg hopen, if_neg (fun h => hsign h.2), if_pos hbehind]
    omega
  · rw [if_neg hbehind]
    by_cases hopen : c = '[' ∨ c = '\\'
    · rw [if_pos hopen]
      omega
    · rw [if_neg hopen]
      omega

/-- What a text may grow to is its own length, `more` for each character, and `extra` for each loose class. -/
theorem weight_le (more extra : Nat) (r : Reading) (text : List Char) : r.weight more extra text ≤
    (more + 1) * text.length + (if r.joined then more else 0) + extra * r.loose text := by
  induction text generalizing r with
  | nil => exact Nat.zero_le _
  | cons c text ih =>
    have hrest := ih (r.next c)
    have hfirst := charge_le more extra r c
    rw [weight, loose, List.length_cons, Nat.mul_add, Nat.mul_add, Nat.mul_one]
    omega

end Reading

/-! ## What texts have -/

namespace Inside

theorem Le.refl (i : Inside) : i.Le i := ⟨id, id⟩

theorem Le.or {i j i' j' : Inside} (h : i.Le j) (h' : i'.Le j') : (i.or i').Le (j.or j') := by
  constructor
  · simp only [Inside.or, Bool.or_eq_true]
    exact Or.imp h.dot h'.dot
  · simp only [Inside.or, Bool.or_eq_true]
    exact Or.imp h.sign h'.sign

theorem Le.or_left {i j : Inside} (h : i.Le j) (k : Inside) : i.Le (j.or k) :=
  ⟨fun hdot => Bool.or_inl (h.dot hdot), fun hsign => Bool.or_inl (h.sign hsign)⟩

theorem Le.mixed {i j : Inside} (h : i.Le j) (hi : i.mixed = true) : j.mixed = true := by
  obtain ⟨hdot, hsign⟩ := Bool.and_eq_true_iff.1 hi
  exact Bool.and_eq_true_iff.2 ⟨h.dot hdot, h.sign hsign⟩

theorem ofText_cons (c : Char) (text : List Char) : ofText (c :: text) = (ofText [c]).or (.ofText text) := by
  simp [ofText, Inside.or, Bool.or_comm]

/-- A text has what a part of its characters has. -/
theorem ofText_le {text body : List Char} (hmem : ∀ c ∈ text, c ∈ body) : (ofText text).Le (.ofText body) := by
  constructor
  · simp only [ofText, List.contains_iff_mem]
    exact hmem '.'
  · simp only [ofText, List.any_eq_true]
    rintro ⟨c, hc, hsign⟩
    exact ⟨c, hmem c hc, hsign⟩

end Inside

theorem note_empty (is : List Inside) : note (.ofText []) is = is := by
  cases is with
  | nil => rfl
  | cons i is => simp [note, Inside.or, Inside.ofText]

theorem note_note (i j : Inside) (is : List Inside) : note j (note i is) = note (i.or j) is := by
  cases is with
  | nil => rfl
  | cons k is => simp [note, Inside.or, Bool.or_assoc]

theorem forall₂_note {i j : Inside} {is js : List Inside} (hij : i.Le j) (h : List.Forall₂ Inside.Le is js) :
    List.Forall₂ Inside.Le (note i is) (note j js) := by
  cases h with
  | nil => exact .nil
  | cons hfirst hrest => exact .cons (hfirst.or hij) hrest

/-! ## Texts without brackets -/

section Plain

variable {more extra : Nat} {r : Reading} {text : List Char} {c : Char}

theorem isSign_of_isInert (hc : isInert c = true) : isSign c = false := by
  have hstar : c ≠ '*' := ne_of_isInert (by decide) hc
  have hplus : c ≠ '+' := ne_of_isInert (by decide) hc
  simp [isSign, hstar, hplus]

namespace Reading

theorem next_of_plain (hopen : c ≠ '[') (hclose : c ≠ ']') :
    r.next c = ⟨c = '.', false, note (.ofText [c]) r.opened⟩ := by
  rw [next, if_neg hopen, if_neg hclose]

theorem run_of_plain (htext : ∀ c ∈ text, c ≠ '[' ∧ c ≠ ']') :
    (r.run text).opened = note (.ofText text) r.opened ∧ (text ≠ [] → (r.run text).mixed = false) := by
  induction text generalizing r with
  | nil => exact ⟨(note_empty _).symm, fun h => absurd rfl h⟩
  | cons c text ih =>
    obtain ⟨⟨hopen, hclose⟩, htext⟩ := List.forall_mem_cons.1 htext
    obtain ⟨hopened, hmixed⟩ := ih (r := r.next c) htext
    have hrun : r.run (c :: text) = (r.next c).run text := rfl
    rw [hrun, hopened, next_of_plain hopen hclose, note_note, ← Inside.ofText_cons]
    refine ⟨rfl, fun _ => ?_⟩
    cases text with
    | nil => rfl
    | cons d text =>
      rw [← next_of_plain hopen hclose]
      exact hmixed (List.cons_ne_nil d text)

theorem charge_of_plain (hopen : c ≠ '[') (hback : c ≠ '\\') : charge more extra r c =
    1 + (if r.joined ∧ isSign c then more else 0) + if r.mixed ∧ isSign c then extra else 0 := by
  simp [charge, loosens, hopen, hback]

/-- Without signs nothing grows. -/
theorem weight_of_no_sign (htext : ∀ c ∈ text, c ≠ '[' ∧ c ≠ '\\' ∧ isSign c = false) :
    weight more extra r text = text.length := by
  induction text generalizing r with
  | nil => rfl
  | cons c text ih =>
    obtain ⟨⟨hopen, hback, hsign⟩, htext⟩ := List.forall_mem_cons.1 htext
    rw [weight, charge_of_plain hopen hback, ih htext, hsign]
    simp [Nat.add_comm]

theorem weight_of_inert (htext : ∀ c ∈ text, isInert c = true) : weight more extra r text = text.length :=
  weight_of_no_sign fun c hc => ⟨ne_of_isInert (by decide) (htext c hc), ne_of_isInert (by decide) (htext c hc),
    isSign_of_isInert (htext c hc)⟩

theorem next_of_inert (hc : isInert c = true) : r.next c = ⟨false, false, r.opened⟩ := by
  have hdot : c ≠ '.' := ne_of_isInert (by decide) hc
  have hnone : Inside.ofText [c] = .ofText [] := by
    simp [Inside.ofText, isSign_of_isInert hc, hdot.symm]
  rw [next_of_plain (ne_of_isInert (by decide) hc) (ne_of_isInert (by decide) hc), hnone, note_empty,
    decide_eq_false hdot]

theorem run_of_inert (htext : ∀ c ∈ text, isInert c = true) :
    r.run text = if text = [] then r else ⟨false, false, r.opened⟩ := by
  induction text generalizing r with
  | nil => rfl
  | cons c text ih =>
    obtain ⟨hc, htext⟩ := List.forall_mem_cons.1 htext
    have hrun : r.run (c :: text) = (r.next c).run text := rfl
    rw [hrun, next_of_inert hc, ih htext, ite_self, if_neg (List.cons_ne_nil c text)]

/-- Without dots only a sign at the start does. -/
theorem weight_of_no_dot (htext : ∀ c ∈ text, isBodyChar c = true ∧ c ≠ '.') : weight more extra r text ≤
    text.length + (if r.joined then more else 0) + if r.mixed then extra else 0 := by
  induction text generalizing r with
  | nil => exact Nat.zero_le _
  | cons c text ih =>
    obtain ⟨⟨hbody, hdot⟩, htext⟩ := List.forall_mem_cons.1 htext
    have hrest := ih (r := r.next c) htext
    have hopen : c ≠ '[' := ne_of_isBodyChar (by decide) hbody
    have hclose : c ≠ ']' := ne_of_isBodyChar (by decide) hbody
    have hback : c ≠ '\\' := ne_of_isBodyChar (by decide) hbody
    have hnext : (r.next c).joined = false ∧ (r.next c).mixed = false := by
      rw [next_of_plain hopen hclose]
      exact ⟨decide_eq_false hdot, rfl⟩
    have hjoined : (if r.joined ∧ isSign c then more else 0) ≤ if r.joined then more else 0 := ite_and_le more
    have hmixed : (if r.mixed ∧ isSign c then extra else 0) ≤ if r.mixed then extra else 0 := ite_and_le extra
    rw [hnext.1, hnext.2, if_neg Bool.false_ne_true, if_neg Bool.false_ne_true] at hrest
    rw [weight, charge_of_plain hopen hback, List.length_cons]
    omega

/-- Of two characters one at most is a sign behind a dot. -/
theorem weight_of_plain (more extra : Nat) (r : Reading) (htext : ∀ c ∈ text, isBodyChar c = true) :
    weight more extra r text ≤
      text.length + (if r.mixed then extra else 0) + more * ((text.length + r.joined.toNat) / 2) := by
  induction text generalizing r with
  | nil => exact Nat.zero_le _
  | cons c text ih =>
    obtain ⟨hbody, htext⟩ := List.forall_mem_cons.1 htext
    have hopen : c ≠ '[' := ne_of_isBodyChar (by decide) hbody
    have hclose : c ≠ ']' := ne_of_isBodyChar (by decide) hbody
    have hback : c ≠ '\\' := ne_of_isBodyChar (by decide) hbody
    have hmixed : (if r.mixed ∧ isSign c then extra else 0) ≤ if r.mixed then extra else 0 := ite_and_le extra
    have hrest := ih (r.next c) htext
    rw [next_of_plain hopen hclose] at hrest
    simp only [Bool.false_eq_true, if_false, Nat.add_zero] at hrest
    rw [weight, charge_of_plain hopen hback, List.length_cons, next_of_plain hopen hclose]
    -- A sign behind a dot takes that dot with it; any other character leaves room for a pair.
    by_cases hpair : r.joined = true ∧ isSign c = true
    · obtain ⟨hjoined, hsign⟩ := hpair
      have hdot : c ≠ '.' := by
        rintro rfl
        cases hsign
      have hroom : more * ((text.length + 1 + r.joined.toNat) / 2) =
          more * ((text.length + (decide (c = '.')).toNat) / 2) + more := by
        rw [hjoined, decide_eq_false hdot, ← Nat.mul_succ]
        exact congrArg (more * ·) (Nat.add_div_right _ Nat.two_pos)
      rw [if_pos ⟨hjoined, hsign⟩]
      omega
    · have hroom : more * ((text.length + (decide (c = '.')).toNat) / 2) ≤
          more * ((text.length + 1 + r.joined.toNat) / 2) := by
        have := (decide (c = '.')).toNat_le
        exact Nat.mul_le_mul_left more (by omega)
      rw [if_neg hpair]
      omega

/-- What is drawn over a body has tokens only if the body has a dot and a sign. -/
theorem weight_of_drawn (more extra : Nat) (r : Reading) {body value : List Char} {n : Nat}
    (hbody : ∀ c ∈ body, isBodyChar c = true) (hmem : ∀ c ∈ value, c ∈ body) (hlength : value.length ≤ n) :
    weight more extra r value ≤
      value.length + (if r.joined then more else 0) + (if r.mixed then extra else 0) +
        if (Inside.ofText body).mixed then more * (n / 2) else 0 := by
  have hvalue : ∀ c ∈ value, isBodyChar c = true := fun c hc => hbody c (hmem c hc)
  by_cases hmixed : (Inside.ofText body).mixed = true
  · have hplain := weight_of_plain more extra r hvalue
    have hhalf : (value.length + r.joined.toNat) / 2 ≤ n / 2 + r.joined.toNat := by
      have := r.joined.toNat_le
      omega
    have hroom := Nat.mul_le_mul_left more hhalf
    have hjoined : more * r.joined.toNat = if r.joined then more else 0 := by cases r.joined <;> simp
    rw [Nat.mul_add, hjoined] at hroom
    rw [if_pos hmixed]
    omega
  · rw [if_neg hmixed, Nat.add_zero]
    rw [Inside.mixed, Bool.and_eq_true_iff, not_and_or] at hmixed
    rcases hmixed with hdot | hsign
    · refine weight_of_no_dot fun c hc => ⟨hvalue c hc, ?_⟩
      rintro rfl
      exact hdot (List.contains_iff_mem.2 (hmem _ hc))
    · have hnone : ∀ c ∈ value, c ≠ '[' ∧ c ≠ '\\' ∧ isSign c = false := by
        intro c hc
        refine ⟨ne_of_isBodyChar (by decide) (hvalue c hc), ne_of_isBodyChar (by decide) (hvalue c hc), ?_⟩
        rw [Bool.eq_false_iff]
        exact fun h => hsign (List.any_eq_true.2 ⟨c, hmem c hc, h⟩)
      rw [weight_of_no_sign hnone]
      omega

end Reading

end Plain

end TextPattern.Sample
