import TextPattern.Syntax.Fault

/-!
# Results that succeed

* `bind_eq_ok`, `toOption_bind` : when a computation that binds another succeeds;
* `Yields P x` : if `x` succeeds, `P` holds of the result;
* `Agrees R x y` : if `x` succeeds, `y` succeeds with a result that `R` relates to its own.
-/

namespace TextPattern.Syntax

/-! ## Success -/

theorem bind_eq_ok {ε α β : Type} {x : Except ε α} {f : α → Except ε β} {b : β} :
    x >>= f = .ok b ↔ ∃ a, x = .ok a ∧ f a = .ok b := by
  cases x with
  | error e => exact ⟨nofun, fun ⟨_, h, _⟩ => nomatch h⟩
  | ok a => exact ⟨fun h => ⟨a, rfl, h⟩, fun ⟨_, ha, h⟩ => Except.ok.inj ha ▸ h⟩

theorem ok_bind {ε α β : Type} (a : α) (f : α → Except ε β) : (.ok a >>= f) = f a := rfl

theorem toOption_bind {ε α β : Type} (x : Except ε α) (f : α → Except ε β) :
    (x >>= f).toOption = x.toOption.bind fun a => (f a).toOption := by
  cases x <;> rfl

@[simp] theorem toOption_ok {ε α : Type} (a : α) : (.ok a : Except ε α).toOption = some a := rfl

theorem toOption_eq_some {ε α : Type} {x : Except ε α} {a : α} : x.toOption = some a ↔ x = .ok a := by
  cases x <;> simp [Except.toOption]

@[simp] theorem toOption_error {ε α : Type} (e : ε) : (.error e : Except ε α).toOption = none := rfl

/-! ## Results -/

/-- If `x` succeeds, `P` holds of the result. -/
def Yields {ε α : Type} (P : α → Prop) (x : Except ε α) : Prop := ∀ a, x = .ok a → P a

namespace Yields

variable {ε α β : Type} {P Q : α → Prop} {x y : Except ε α}

theorem ok {a : α} (h : P a) : Yields P (.ok a : Except ε α) := by
  rintro _ ⟨⟩
  exact h

theorem error {e : ε} : Yields P (.error e) := nofun

theorem mono (h : Yields P x) (hle : ∀ a, P a → Q a) : Yields Q x := fun a ha => hle a (h a ha)

theorem bind {z : Except ε β} {f : β → Except ε α} (h : ∀ b, z = .ok b → Yields P (f b)) : Yields P (z >>= f) := by
  intro a ha
  obtain ⟨b, hb, ha⟩ := bind_eq_ok.1 ha
  exact h b hb a ha

theorem ite {p : Prop} [Decidable p] (hx : p → Yields P x) (hy : ¬ p → Yields P y) :
    Yields P (if p then x else y) := by
  by_cases hp : p
  · rw [if_pos hp]
    exact hx hp
  · rw [if_neg hp]
    exact hy hp

end Yields

theorem yields_fail {α : Type} {P : α → Prop} {kind : FaultKind} {span : Span} : Yields P (fail kind span) :=
  Yields.error

/-! ## Agreement -/

/-- If `x` succeeds, `y` succeeds with a related result. -/
def Agrees {ε α β : Type} (R : α → β → Prop) (x : Except ε α) (y : Except ε β) : Prop :=
  ∀ a, x = .ok a → ∃ b, y = .ok b ∧ R a b

namespace Agrees

variable {ε α β γ δ : Type} {R : α → β → Prop} {S : γ → δ → Prop}

theorem ok {a : α} {b : β} (h : R a b) : Agrees R (.ok a : Except ε α) (.ok b) := by
  rintro _ ⟨⟩
  exact ⟨b, rfl, h⟩

theorem error {e : ε} {y : Except ε β} : Agrees R (.error e) y := nofun

theorem bind {x : Except ε α} {y : Except ε β} {f : α → Except ε γ} {g : β → Except ε δ}
    (h : Agrees R x y) (hfg : ∀ a b, R a b → Agrees S (f a) (g b)) : Agrees S (x >>= f) (y >>= g) := by
  intro c hc
  cases x with
  | error e => cases hc
  | ok a =>
    obtain ⟨b, rfl, hab⟩ := h a rfl
    exact hfg a b hab c hc

theorem ite {p q : Prop} [Decidable p] [Decidable q] {x x' : Except ε α} {y y' : Except ε β}
    (hpq : p ↔ q) (ht : p → Agrees R x y) (he : ¬ p → Agrees R x' y') :
    Agrees R (if p then x else x') (if q then y else y') := by
  by_cases hp : p
  · rw [if_pos hp, if_pos (hpq.1 hp)]
    exact ht hp
  · rw [if_neg hp, if_neg fun hq => hp (hpq.2 hq)]
    exact he hp

end Agrees

theorem agrees_fail {α β : Type} {R : α → β → Prop} {kind : FaultKind} {span : Span}
    {y : Except Fault β} : Agrees R (fail kind span) y := Agrees.error

end TextPattern.Syntax
