import Mathlib.Data.List.Basic
import TextPattern.Proofs.Sample.Items
import TextPattern.Sample.Generate

/-!
# What is drawn

* `Draws x P` : whatever the source, what the computation draws has the property;
* `draws_below`, `draws_letters` : numbers below a bound, texts over an alphabet;
* `Hole.Fits h max value` : a text may stand for a hole;
* `drawHoles`, `draws_drawHoles` : texts that provide holes, one for each, which fits it.
-/

namespace TextPattern

open TextPattern.Random

/-! ## Computations that draw -/

/-- Whatever the source, what is drawn has the property. -/
def Draws {σ α : Type} (x : StateM σ α) (P : α → Prop) : Prop := ∀ source, P (x.run source).1

namespace Draws

variable {σ α β : Type} {x : StateM σ α} {P Q : α → Prop} {R : β → Prop} {f g : α → StateM σ β}

theorem pure {a : α} (h : P a) : Draws (pure a : StateM σ α) P := fun _ => h

theorem bind (hx : Draws x P) (hf : ∀ a, P a → Draws (f a) R) : Draws (x >>= f) R :=
  fun source => hf _ (hx source) _

theorem imp (hx : Draws x P) (h : ∀ a, P a → Q a) : Draws x Q := fun source => h _ (hx source)

/-- What follows a draw matters only for what may be drawn. -/
theorem bind_congr (hx : Draws x P) (h : ∀ a, P a → f a = g a) : x >>= f = x >>= g := by
  funext source
  have hsame : f (x.run source).1 = g (x.run source).1 := h _ (hx source)
  change (f (x.run source).1).run (x.run source).2 = (g (x.run source).1).run (x.run source).2
  rw [hsame]

/-- What holds of a text and is kept by every step holds behind all steps. -/
theorem foldlM {γ : Type} {step : α → γ → StateM σ α} {a : α} (hstep : ∀ a x, P a → Draws (step a x) P)
    (xs : List γ) (ha : P a) : Draws (xs.foldlM step a) P := by
  induction xs generalizing a with
  | nil => exact Draws.pure ha
  | cons x xs ih =>
    rw [List.foldlM_cons]
    exact (hstep a x ha).bind fun b hb => ih hb

end Draws

theorem foldlM_eq_pure {σ α γ : Type} {step : α → γ → StateM σ α} {xs : List γ} {a : α}
    (hstep : ∀ x ∈ xs, step a x = pure a) : xs.foldlM step a = pure a := by
  induction xs with
  | nil => rfl
  | cons x xs ih =>
    obtain ⟨hx, hxs⟩ := List.forall_mem_cons.1 hstep
    rw [List.foldlM_cons, hx, pure_bind, ih hxs]

namespace Random

variable {σ : Type} [Source σ]

theorem select_lt {n : Nat} (hn : 0 < n) (a b : UInt32) : select n a b < n := by
  have ha : a.toNat < wordCount := a.toNat_lt
  have hb : b.toNat < wordCount := b.toNat_lt
  have hpos : 0 < wordCount := by decide
  have hproduct := Nat.div_add_mod (a.toNat * n) wordCount
  -- Both words are at most the greatest one, which leaves room for a carry.
  have hfirst : a.toNat * n + n ≤ wordCount * n := by
    rw [← Nat.succ_mul]
    exact Nat.mul_le_mul_right n ha
  have hsecond : b.toNat * n / wordCount < n := by
    rw [Nat.div_lt_iff_lt_mul hpos, Nat.mul_comm n]
    exact Nat.mul_lt_mul_of_pos_right hb hn
  unfold select
  simp only
  split
  · next hcarry =>
    refine Nat.lt_of_mul_lt_mul_left (a := wordCount) ?_
    rw [Nat.mul_add]
    omega
  · refine Nat.lt_of_mul_lt_mul_left (a := wordCount) ?_
    omega

theorem draws_below {n : Nat} (hn : 0 < n) : Draws (below n : StateM σ Nat) (· < n) := by
  have hany : ∀ x : StateM σ UInt32, Draws x fun _ => True := fun _ _ => trivial
  refine (hany _).bind fun a _ => ?_
  split
  · exact (hany _).bind fun b _ => Draws.pure (select_lt hn a b)
  · exact Draws.pure (select_lt hn a 0)

/-- The text has `n` characters, all of the alphabet. -/
def Over (alphabet : List Char) (n : Nat) (text : List Char) : Prop :=
  text.length = n ∧ ∀ c ∈ text, c ∈ alphabet

theorem draws_lettersFrom {alphabet : Array Char} (hsize : 0 < alphabet.size) {n k : Nat} {drawn : List Char}
    (hdrawn : Over alphabet.toList k drawn) :
    Draws (lettersFrom alphabet n drawn : StateM σ (List Char)) (Over alphabet.toList (n + k)) := by
  induction n generalizing k drawn with
  | zero =>
    refine Draws.pure ⟨?_, fun c hc => hdrawn.2 c (List.mem_reverse.1 hc)⟩
    rw [List.length_reverse, hdrawn.1, Nat.zero_add]
  | succ n ih =>
    refine (draws_below hsize).bind fun i hi => ?_
    have hmore : Over alphabet.toList (k + 1) (alphabet[i]?.toList ++ drawn) := by
      rw [Array.getElem?_eq_getElem hi]
      refine ⟨by simp [hdrawn.1], fun c hc => ?_⟩
      rcases List.mem_append.1 hc with hc | hc
      · rw [Option.toList_some, List.mem_singleton] at hc
        exact hc ▸ Array.getElem_mem_toList hi
      · exact hdrawn.2 c hc
    have hindex : n + 1 + k = n + (k + 1) := by omega
    rw [hindex]
    exact ih hmore

theorem draws_letters {alphabet : List Char} (hne : alphabet ≠ []) (n : Nat) :
    Draws (letters alphabet n : StateM σ (List Char)) (Over alphabet n) := by
  unfold letters
  rw [if_neg (by simpa using hne)]
  have hsize : 0 < alphabet.toArray.size := List.length_pos_iff.2 hne
  exact draws_lettersFrom hsize ⟨rfl, fun c hc => absurd hc List.not_mem_nil⟩

end Random

namespace Sample

variable {σ : Type} [Source σ]

/-- The number of characters may stand for an amount, `max` being the greatest. -/
def Amount.Allows (a : Amount) (max n : Nat) : Prop :=
  match a with
  | any => n ≤ max
  | most => n = Nat.max max 1
  | one => n = 1

theorem Amount.draws_draw (a : Amount) (max : Nat) : Draws (a.draw max : StateM σ Nat) (a.Allows max) := by
  cases a with
  | any => exact (draws_below (Nat.succ_pos max)).imp fun n hn => Nat.le_of_lt_succ hn
  | most => exact Draws.pure rfl
  | one => exact Draws.pure rfl

/-- A text may stand for a hole: it has as many characters as the amount allows, all of the alphabet. -/
structure Hole.Fits (h : Hole) (max : Nat) (value : List Char) : Prop where
  length : h.amount.Allows max value.length
  mem : ∀ c ∈ value, c ∈ h.choice.alphabet

def drawHole (h : Hole) (max : Nat) : StateM σ (List Char) := drawValue h.choice.alphabet h.amount max

theorem Choice.alphabet_ne_nil {x : Choice} (hx : x.Sound) : x.alphabet ≠ [] := by
  match x with
  | .token t => cases t <;> decide
  | .plainClass body => exact hx.1

theorem draws_drawValue {alphabet : List Char} (hne : alphabet ≠ []) (a : Amount) (max : Nat) :
    Draws (drawValue alphabet a max : StateM σ (List Char))
      fun value => a.Allows max value.length ∧ ∀ c ∈ value, c ∈ alphabet := by
  refine (a.draws_draw max).bind fun n hn => ?_
  exact (draws_letters hne n).imp fun value hvalue => ⟨hvalue.1 ▸ hn, hvalue.2⟩

theorem draws_drawHole {h : Hole} (hh : h.choice.Sound) (max : Nat) :
    Draws (drawHole h max : StateM σ (List Char)) (h.Fits max) :=
  (draws_drawValue (Choice.alphabet_ne_nil hh) h.amount max).imp fun _ hvalue => ⟨hvalue.1, hvalue.2⟩

def drawHoles (max : Nat) : List Hole → StateM σ (List (Hole × List Char))
  | [] => return []
  | h :: holes => do
    let value ← drawHole h max
    let more ← drawHoles max holes
    return (h, value) :: more

theorem drawHoles_append (max : Nat) (holes more : List Hole) :
    (drawHoles max (holes ++ more) : StateM σ _) = do
      let values ← drawHoles max holes
      let others ← drawHoles max more
      return values ++ others := by
  induction holes with
  | nil => simp [drawHoles]
  | cons h holes ih => simp [drawHoles, ih]

/-- The texts are one for each of the holes, in their order, and fit them. -/
structure Provides (values : List (Hole × List Char)) (holes : List Hole) (max : Nat) : Prop where
  holes_eq : values.map Prod.fst = holes
  fits : ∀ e ∈ values, e.1.Fits max e.2

theorem Provides.mem_holes {values : List (Hole × List Char)} {holes : List Hole} {max : Nat}
    (h : Provides values holes max) {e : Hole × List Char} (he : e ∈ values) : e.1 ∈ holes := by
  rw [← h.holes_eq]
  exact List.mem_map_of_mem he

theorem draws_drawHoles {holes : List Hole} (hholes : ∀ h ∈ holes, h.choice.Sound) (max : Nat) :
    Draws (drawHoles max holes : StateM σ _) (Provides · holes max) := by
  induction holes with
  | nil => exact Draws.pure ⟨rfl, fun e he => absurd he List.not_mem_nil⟩
  | cons h holes ih =>
    obtain ⟨hh, hholes⟩ := List.forall_mem_cons.1 hholes
    refine (draws_drawHole hh max).bind fun value hvalue => (ih hholes).bind fun more hmore => ?_
    refine Draws.pure ⟨?_, List.forall_mem_cons.2 ⟨hvalue, hmore.fits⟩⟩
    rw [List.map_cons, hmore.holes_eq]

end Sample

end TextPattern
