import TextPattern.Proofs.Level

/-!
# Expressions in simplified form

* `Expr.Flat e` : no operand of a concatenation is empty, here and in the branches of an alternation;
* `ofFactors_factors` : a flat expression is the concatenation of its factors;
* `flat_concat`, `flat_repetition`, `flat_alternation` : the constructors that simplify keep expressions flat;
* `Tree.flat_toExpr` : the expression of a tree is flat;
* `ofParts_empty_cons` : an empty part in front of a branch changes nothing.
-/

namespace TextPattern

namespace Expr

/-! ## Flat expressions -/

/-- No operand of a concatenation is empty, here and in the branches of an alternation. -/
def Flat : Expr → Prop
  | cat a b => (a.Flat ∧ a ≠ empty) ∧ b.Flat ∧ b ≠ empty
  | alt a b => a.Flat ∧ b.Flat
  | _ => True

/-- An expression that may be an operand of a concatenation. -/
def IsFactor (e : Expr) : Prop := e.Flat ∧ e ≠ empty

variable {e f : Expr} {es : List Expr}

theorem factors_ne_nil (h : e ≠ empty) : e.factors ≠ [] := by
  cases e with
  | empty => exact absurd rfl h
  | cat _ _ | chars _ | look _ | alt _ _ | rep _ _ _ | group _ _ => exact List.cons_ne_nil _ _

theorem ofFactors_factors (h : e.Flat) : ofFactors e.factors = e := by
  induction e with
  | empty | chars _ | look _ | alt _ _ _ _ | rep _ _ _ _ | group _ _ _ => rfl
  | cat a b _ ihb =>
    obtain ⟨-, hb, hne⟩ := h
    obtain ⟨g, gs, hfactors⟩ := List.exists_cons_of_ne_nil (factors_ne_nil hne)
    have hrest := ihb hb
    rw [factors, hfactors] at *
    rw [ofFactors, hrest]
    exact List.cons_ne_nil g gs

theorem isFactor_of_mem_factors (h : e.Flat) (hf : f ∈ e.factors) : f.IsFactor := by
  induction e with
  | empty => exact absurd hf List.not_mem_nil
  | cat a b _ ihb =>
    obtain ⟨ha, hb, -⟩ := h
    rcases List.mem_cons.1 hf with rfl | hf
    · exact ha
    · exact ihb hb hf
  | chars _ | look _ | alt _ _ _ _ | rep _ _ _ _ | group _ _ _ =>
    obtain rfl := List.mem_singleton.1 hf
    exact ⟨h, nofun⟩

theorem flat_of_mem_branches (h : e.Flat) (hf : f ∈ e.branches) : f.Flat := by
  induction e with
  | alt a b _ ihb =>
    obtain ⟨ha, hb⟩ := h
    rcases List.mem_cons.1 hf with rfl | hf
    · exact ha
    · exact ihb hb hf
  | empty | cat _ _ _ _ | chars _ | look _ | rep _ _ _ _ | group _ _ _ =>
    obtain rfl := List.mem_singleton.1 hf
    exact h

/-! ## Constructors -/

theorem flat_ofFactors (h : ∀ f ∈ es, f.IsFactor) : (ofFactors es).Flat ∧ (es ≠ [] → ofFactors es ≠ empty) := by
  induction es with
  | nil => exact ⟨trivial, fun hne => absurd rfl hne⟩
  | cons e es ih =>
    obtain ⟨he, hes⟩ := List.forall_mem_cons.1 h
    obtain ⟨hflat, hne⟩ := ih hes
    cases es with
    | nil => exact ⟨he.1, fun _ => he.2⟩
    | cons f es => exact ⟨⟨he, hflat, hne (List.cons_ne_nil f es)⟩, fun _ => nofun⟩

theorem flat_concat (h : ∀ e ∈ es, e.Flat) : (concat es).Flat := by
  refine (flat_ofFactors fun f hf => ?_).1
  obtain ⟨e, he, hf⟩ := List.mem_flatMap.1 hf
  exact isFactor_of_mem_factors (h e he) hf

theorem flat_repetition (h : e.Flat) (count : Count) (greedy : Bool) : (repetition e count greedy).Flat := by
  unfold repetition
  dsimp only
  generalize (if e.zeroWidth then count.capped else count) = count
  split
  · trivial
  · split
    · exact h
    · trivial

theorem flat_ofBranches (h : ∀ e ∈ es, e.Flat) : (ofBranches es).Flat := by
  induction es with
  | nil => trivial
  | cons e es ih =>
    obtain ⟨he, hes⟩ := List.forall_mem_cons.1 h
    cases es with
    | nil => exact he
    | cons f es => exact ⟨he, ih hes⟩

theorem flat_alternationOf (h : ∀ e ∈ es, e.Flat) : (alternationOf es).Flat := by
  unfold alternationOf
  split
  · split
    · trivial
    · exact flat_ofBranches h
  · exact flat_ofBranches h

theorem flat_ofFactors_segments {segs : List (List Expr)} (h : e.Flat) (hsegs : segs ⊆ segments e.factors) :
    (ofFactors segs.flatten).Flat := by
  refine (flat_ofFactors fun f hf => isFactor_of_mem_factors h ?_).1
  obtain ⟨seg, hseg, hf⟩ := List.mem_flatten.1 hf
  rw [← flatten_segments e.factors]
  exact List.mem_flatten.2 ⟨seg, hsegs hseg, hf⟩

theorem flat_alternationFrom (fuel : Nat) (h : ∀ e ∈ es, e.Flat) : (alternationFrom fuel es).Flat := by
  induction fuel generalizing es with
  | zero => exact flat_alternationOf h
  | succ fuel ih =>
    have hflat : ∀ f ∈ es.flatMap branches, f.Flat := by
      intro f hf
      obtain ⟨e, he, hf⟩ := List.mem_flatMap.1 hf
      exact flat_of_mem_branches (h e he) hf
    rw [alternationFrom]
    generalize es.flatMap branches = flat at hflat
    dsimp only
    split
    · exact flat_alternationOf hflat
    · exact flat_alternationOf hflat
    · next common _ hcommon =>
      have hstarts := sharedPrefix?_starts hcommon
      split
      · next hmany =>
        refine flat_concat (List.forall_mem_cons.2 ⟨?_, List.forall_mem_singleton.2 (ih fun f hf => ?_)⟩)
        · obtain ⟨e, rest, rfl⟩ := List.exists_cons_of_length_pos (Nat.lt_of_lt_of_le Nat.two_pos hmany)
          exact flat_ofFactors_segments (hflat e List.mem_cons_self) (hstarts e List.mem_cons_self).subset
        · obtain ⟨e, he, rfl⟩ := List.mem_map.1 hf
          exact flat_ofFactors_segments (hflat e he) (List.drop_subset _ _)
      · exact flat_alternationOf hflat

theorem flat_alternation (h : ∀ e ∈ es, e.Flat) : (alternation es).Flat := flat_alternationFrom _ h

theorem ofParts_empty_cons (h : ∀ e ∈ es, e.Flat) : ofParts (empty :: es) = ofParts es := by
  rcases es with _ | ⟨e, _ | ⟨f, es⟩⟩
  · rfl
  · change ofFactors (e.factors ++ []) = e
    rw [List.append_nil, ofFactors_factors (h e List.mem_cons_self)]
  · rfl

end Expr

/-! ## Trees -/

namespace Syntax

theorem flat_literal {m : Modes} {l : Literal} {e : Expr} (h : l.toExpr m = .ok e) : e.Flat := by
  obtain ⟨c, -, h⟩ := bind_eq_ok.1 h
  split at h
  · split at h
    · split at h
      · exact Except.ok.inj h ▸ trivial
      · exact Except.ok.inj h ▸ trivial
    · exact Except.ok.inj h ▸ trivial
  · exact Except.ok.inj h ▸ trivial

theorem flat_dot {m : Modes} {span : Span} {e : Expr} (h : dotExpr m span = .ok e) : e.Flat := by
  unfold dotExpr at h
  split at h
  · cases h
  · split at h
    · exact Except.ok.inj h ▸ trivial
    · split at h
      · exact Except.ok.inj h ▸ trivial
      · exact Except.ok.inj h ▸ trivial

mutual

theorem Tree.flat_toExpr (t : Tree) {m n : Modes} {e : Expr} (h : t.toExpr m = .ok (e, n)) : e.Flat := by
  match t with
  | .empty _ | .flags _ _ | .assertion _ _ =>
    obtain ⟨rfl, -⟩ := Prod.mk.inj (Except.ok.inj h)
    trivial
  | .literal l =>
    obtain ⟨f, hf, h⟩ := bind_eq_ok.1 h
    obtain ⟨rfl, -⟩ := Prod.mk.inj (Except.ok.inj h)
    exact flat_literal hf
  | .dot span =>
    obtain ⟨f, hf, h⟩ := bind_eq_ok.1 h
    obtain ⟨rfl, -⟩ := Prod.mk.inj (Except.ok.inj h)
    exact flat_dot hf
  | .property _ | .perl _ =>
    obtain ⟨s, -, h⟩ := bind_eq_ok.1 h
    obtain ⟨rfl, -⟩ := Prod.mk.inj (Except.ok.inj h)
    trivial
  | .bracket _ _ _ =>
    obtain ⟨s, -, h⟩ := bind_eq_ok.1 h
    obtain ⟨s, -, h⟩ := bind_eq_ok.1 h
    obtain ⟨rfl, -⟩ := Prod.mk.inj (Except.ok.inj h)
    trivial
  | .repetition _ count greedy sub =>
    obtain ⟨⟨f, k⟩, hf, h⟩ := bind_eq_ok.1 h
    obtain ⟨rfl, -⟩ := Prod.mk.inj (Except.ok.inj h)
    exact Expr.flat_repetition (sub.flat_toExpr hf) _ _
  | .group _ kind sub =>
    obtain ⟨⟨f, k⟩, hf, h⟩ := bind_eq_ok.1 h
    have hflat := sub.flat_toExpr hf
    cases kind with
    | capture _ | named _ _ =>
      obtain ⟨rfl, -⟩ := Prod.mk.inj (Except.ok.inj h)
      trivial
    | plain _ =>
      obtain ⟨rfl, -⟩ := Prod.mk.inj (Except.ok.inj h)
      exact hflat
  | .alternation _ branches =>
    obtain ⟨es, hes, rfl⟩ := toExpr_alternation.1 h
    exact Expr.flat_alternation (flat_partsToExprs branches hes)
  | .concat _ parts =>
    obtain ⟨es, hes, rfl⟩ := toExpr_concat.1 h
    exact Expr.flat_concat (flat_partsToExprs parts hes)

theorem flat_partsToExprs (parts : List Tree) {m n : Modes} {es : List Expr}
    (h : partsToExprs m parts = .ok (es, n)) : ∀ e ∈ es, e.Flat := by
  match parts with
  | [] =>
    obtain ⟨rfl, -⟩ := Prod.mk.inj (Except.ok.inj h)
    exact List.forall_mem_nil _
  | part :: parts =>
    obtain ⟨e, k, fs, he, hfs, rfl⟩ := partsToExprs_cons.1 h
    exact List.forall_mem_cons.2 ⟨part.flat_toExpr he, flat_partsToExprs parts hfs⟩

end

end Syntax

end TextPattern
