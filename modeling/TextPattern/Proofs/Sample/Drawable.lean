import TextPattern.Proofs.Sample.Draws

/-!
# What can be drawn

* `Tape` : words given one after the other, a source of them;
* `CanDraw x a` : with some words to begin with, the computation draws that and no more;
* `canDraw_below` : each number below a bound that has at most 31 bits;
* `canDraw_drawValue` : each text over an alphabet that is as long as an amount allows.
-/

namespace TextPattern

open TextPattern.Random

/-- Words that are given one after the other, and zeros behind the last. -/
structure Tape where
  words : List UInt32

namespace Tape

def next (tape : Tape) : UInt32 × Tape := (tape.words.head?.getD 0, ⟨tape.words.tail⟩)

instance : Source Tape := ⟨next⟩

end Tape

/-- There are words with which `a` is drawn, whatever words follow; those are left. -/
def CanDraw {α : Type} (x : StateM Tape α) (a : α) : Prop :=
  ∃ words, ∀ rest, x.run ⟨words ++ rest⟩ = (a, ⟨rest⟩)

namespace CanDraw

variable {α β : Type} {x : StateM Tape α} {f : α → StateM Tape β} {a : α} {b : β}

theorem pure (a : α) : CanDraw (pure a) a := ⟨[], fun _ => rfl⟩

theorem bind (hx : CanDraw x a) (hf : CanDraw (f a) b) : CanDraw (x >>= f) b := by
  obtain ⟨words, hwords⟩ := hx
  obtain ⟨more, hmore⟩ := hf
  refine ⟨words ++ more, fun rest => ?_⟩
  rw [StateT.run_bind, List.append_assoc, hwords]
  exact hmore rest

theorem of_draws {P : α → Prop} (h : CanDraw x a) (hx : Draws x P) : P a := by
  obtain ⟨words, hwords⟩ := h
  have hdrawn := hx ⟨words ++ []⟩
  rwa [hwords] at hdrawn

end CanDraw

namespace Random

/-- The word that is the given part of all words selects the number without a second one. -/
theorem select_of_part {n i : Nat} (hi : i < n) (hn : 2 * n ≤ wordCount) :
    ∃ a : UInt32, mayCarry n a = false ∧ select n a 0 = i := by
  let word := (i * wordCount + (n - 1)) / n
  have hpos : 0 < n := Nat.zero_lt_of_lt hi
  -- A multiple of `n` that the number of words goes into `i` times, and little more.
  have hdiv : word * n + (i * wordCount + (n - 1)) % n = i * wordCount + (n - 1) := by
    rw [Nat.mul_comm]
    exact Nat.div_add_mod _ _
  have hmod := Nat.mod_lt (i * wordCount + (n - 1)) hpos
  obtain ⟨more, hmore⟩ : ∃ more, word * n = i * wordCount + more := Nat.exists_eq_add_of_le (by omega)
  have hless : more < n := by omega
  have hword : word < wordCount := by
    have hle : (i + 1) * wordCount ≤ n * wordCount := Nat.mul_le_mul_right wordCount hi
    rw [Nat.succ_mul] at hle
    refine Nat.lt_of_mul_lt_mul_right (a := n) ?_
    rw [hmore, Nat.mul_comm wordCount]
    omega
  have htoNat : (UInt32.ofNat word).toNat = word := UInt32.toNat_ofNat_of_lt hword
  have hrest : (i * wordCount + more) % wordCount = more := by
    rw [Nat.mul_add_mod', Nat.mod_eq_of_lt (by omega)]
  have hwhole : (i * wordCount + more) / wordCount = i := by
    rw [Nat.mul_comm, Nat.mul_add_div (by decide), Nat.div_eq_of_lt (by omega), Nat.add_zero]
  refine ⟨UInt32.ofNat word, ?_, ?_⟩
  · rw [mayCarry, htoNat, hmore, hrest, decide_eq_false_iff_not]
    omega
  · have hcarry : ¬ wordCount ≤ more + (0 : UInt32).toNat * n / wordCount := by
      rw [UInt32.toNat_zero, Nat.zero_mul, Nat.zero_div]
      omega
    rw [select, htoNat, hmore, hrest, if_neg hcarry, hwhole]

theorem canDraw_below {n i : Nat} (hi : i < n) (hn : 2 * n ≤ wordCount) : CanDraw (below n) i := by
  obtain ⟨a, hcarry, hselect⟩ := select_of_part hi hn
  have hnext : CanDraw (Source.next : StateM Tape UInt32) a := ⟨[a], fun _ => rfl⟩
  refine hnext.bind ?_
  rw [hcarry, ← hselect]
  exact CanDraw.pure _

theorem canDraw_letters {alphabet text : List Char} (hsize : 2 * alphabet.length ≤ wordCount)
    (htext : ∀ c ∈ text, c ∈ alphabet) : CanDraw (letters alphabet text.length) text := by
  have hfrom : ∀ drawn : List Char,
      CanDraw (lettersFrom alphabet.toArray text.length drawn) (drawn.reverse ++ text) := by
    induction text with
    | nil =>
      intro drawn
      rw [List.append_nil]
      exact CanDraw.pure _
    | cons c text ih =>
      intro drawn
      obtain ⟨hc, hrest⟩ := List.forall_mem_cons.1 htext
      obtain ⟨i, hi, rfl⟩ := List.mem_iff_getElem.1 hc
      have hfirst : CanDraw (below alphabet.toArray.size) i := canDraw_below hi hsize
      refine hfirst.bind ?_
      have hlater := ih hrest (alphabet[i] :: drawn)
      rw [List.reverse_cons, List.append_assoc] at hlater
      simpa [hi] using hlater
  unfold letters
  split
  · next hempty =>
    rw [List.isEmpty_iff] at hempty
    subst hempty
    obtain rfl : text = [] := List.eq_nil_iff_forall_not_mem.2 fun c hc => List.not_mem_nil (htext c hc)
    exact CanDraw.pure _
  · exact hfrom []

end Random

namespace Sample

/-- Each text over an alphabet that is as long as an amount allows can be drawn. -/
theorem canDraw_drawValue {alphabet text : List Char} {a : Amount} {max : Nat}
    (hsize : 2 * alphabet.length ≤ wordCount) (hmax : 2 * (max + 1) ≤ wordCount)
    (hlength : a.Allows max text.length) (htext : ∀ c ∈ text, c ∈ alphabet) :
    CanDraw (drawValue alphabet a max) text := by
  have hcount : CanDraw (a.draw max) text.length := by
    cases a with
    | any => exact canDraw_below (Nat.lt_succ_of_le hlength) hmax
    | most =>
      rw [show text.length = Nat.max max 1 from hlength]
      exact CanDraw.pure _
    | one =>
      rw [show text.length = 1 from hlength]
      exact CanDraw.pure _
  exact hcount.bind (canDraw_letters hsize htext)

end Sample

end TextPattern
