import TextPattern.Expr.OfTree
import TextPattern.Proofs.Agreement
import TextPattern.Syntax.Nesting

/-!
# Trees without their places

* `Tree.erase` : the tree with all its spans taken away;
* `Tree.toExpr_erase` : places decide what a fault says, not what a tree means;
* `Tree.depth` : how deep the items of a tree nest, `checkDepth_eq_ok` : the check of the limit in its
  terms.
-/

namespace TextPattern

namespace Syntax

def Span.blank : Span := .at .first

/-! ## Erasing -/

def FlagItem.erase (i : FlagItem) : FlagItem := { i with span := .blank }

def Literal.erase (l : Literal) : Literal := { l with span := .blank }

def PerlClass.erase (c : PerlClass) : PerlClass := { c with span := .blank }

def PropertyClass.erase (c : PropertyClass) : PropertyClass := { c with span := .blank }

def GroupKind.erase : GroupKind → GroupKind
  | .plain items => .plain (items.map FlagItem.erase)
  | kind => kind

mutual

def ClassTree.erase : ClassTree → ClassTree
  | .empty _ => .empty .blank
  | .literal l => .literal l.erase
  | .range _ lo hi => .range .blank lo.erase hi.erase
  | .ascii _ kind negated => .ascii .blank kind negated
  | .property c => .property c.erase
  | .perl c => .perl c.erase
  | .bracket _ negated body => .bracket .blank negated body.erase
  | .union _ items => .union .blank (eraseItems items)
  | .binary _ op lhs rhs => .binary .blank op lhs.erase rhs.erase

def eraseItems : List ClassTree → List ClassTree
  | [] => []
  | item :: items => item.erase :: eraseItems items

end

mutual

/-- The tree with its spans taken away. -/
def Tree.erase : Tree → Tree
  | .empty _ => .empty .blank
  | .flags _ items => .flags .blank (items.map FlagItem.erase)
  | .literal l => .literal l.erase
  | .dot _ => .dot .blank
  | .assertion _ kind => .assertion .blank kind
  | .property c => .property c.erase
  | .perl c => .perl c.erase
  | .bracket _ negated body => .bracket .blank negated body.erase
  | .repetition _ count greedy sub => .repetition .blank count greedy sub.erase
  | .group _ kind sub => .group .blank kind.erase sub.erase
  | .alternation _ branches => .alternation .blank (eraseParts branches)
  | .concat _ parts => .concat .blank (eraseParts parts)

def eraseParts : List Tree → List Tree
  | [] => []
  | part :: parts => part.erase :: eraseParts parts

end

theorem eraseItems_eq_map (items : List ClassTree) : eraseItems items = items.map ClassTree.erase := by
  induction items with
  | nil => rfl
  | cons item items ih => rw [eraseItems, ih, List.map_cons]

theorem eraseParts_eq_map (parts : List Tree) : eraseParts parts = parts.map Tree.erase := by
  induction parts with
  | nil => rfl
  | cons part parts ih => rw [eraseParts, ih, List.map_cons]

/-! ## Flags -/

theorem flagValue_erase (items : List FlagItem) (flag : Flag) :
    flagValue (items.map FlagItem.erase) flag = flagValue items flag := by
  simp only [flagValue, List.foldl_map, FlagItem.erase]

theorem GroupKind.flags_erase (kind : GroupKind) : kind.erase.flags = kind.flags.map FlagItem.erase := by
  cases kind <;> rfl

end Syntax

open Syntax

theorem Modes.set_erase (m : Modes) (items : List FlagItem) :
    m.set (items.map FlagItem.erase) = m.set items := by
  simp only [Modes.set, flagValue_erase]

namespace Syntax

/-! ## Meaning -/

variable (m : Modes)

theorem toOption_finishClass (span span' : Span) (negated : Bool) (s : CharSet) :
    (finishClass m span negated s).toOption = (finishClass m span' negated s).toOption := by
  unfold finishClass
  cases negated with
  | false => rfl
  | true => cases h : m.unicode <;> simp

theorem PerlClass.toSet_erase (c : PerlClass) :
    (c.erase.toSet m).toOption = (c.toSet m).toOption := by
  obtain ⟨span, kind, negated⟩ := c
  cases negated with
  | false => rfl
  | true =>
    simp only [PerlClass.toSet, PerlClass.erase, if_true]
    cases h : m.unicode <;> simp

theorem PropertyClass.toSet_erase (c : PropertyClass) :
    (c.erase.toSet m).toOption = (c.toSet m).toOption := by
  simp only [PropertyClass.toSet, PropertyClass.erase]
  by_cases hu : m.unicode = true
  · rw [if_pos hu, if_pos hu]
    rcases c.query.resolve with e | s
    · cases e <;> rfl
    · exact toOption_finishClass m _ _ _ _
  · rw [if_neg hu, if_neg hu]
    rfl

theorem Literal.scalar_erase (l : Literal) :
    (l.erase.scalar m).toOption = (l.scalar m).toOption := by
  rw [Literal.scalar, Literal.scalar, apply_ite Except.toOption, apply_ite Except.toOption]
  rfl

theorem Literal.member_erase (l : Literal) :
    (l.erase.member m).toOption = (l.member m).toOption := by
  simp only [Literal.member, toOption_bind, Literal.scalar_erase]
  congr 1
  funext c
  rw [apply_ite Except.toOption, apply_ite Except.toOption]
  rfl

theorem Literal.toExpr_erase (l : Literal) :
    (l.erase.toExpr m).toOption = (l.toExpr m).toOption := by
  simp only [Literal.toExpr, toOption_bind, Literal.scalar_erase]

theorem dotExpr_erase (span span' : Span) :
    (dotExpr m span).toOption = (dotExpr m span').toOption := by
  unfold dotExpr
  cases h : m.unicode <;> simp

mutual

theorem ClassTree.toSet_erase (t : ClassTree) : (t.erase.toSet m).toOption = (t.toSet m).toOption := by
  match t with
  | .empty _ => rfl
  | .literal l =>
    simp only [ClassTree.erase, ClassTree.toSet, toOption_bind, Literal.member_erase]
  | .range _ lo hi =>
    simp only [ClassTree.erase, ClassTree.toSet, toOption_bind, Literal.member_erase]
  | .ascii _ kind negated => exact toOption_finishClass m _ _ _ _
  | .property c => exact PropertyClass.toSet_erase m c
  | .perl c => exact PerlClass.toSet_erase m c
  | .bracket span negated body =>
    simp only [ClassTree.erase, ClassTree.toSet, toOption_bind, body.toSet_erase,
      toOption_finishClass m .blank span]
  | .union _ items =>
    simp only [ClassTree.erase, ClassTree.toSet, itemsToSet_erase items]
  | .binary _ op lhs rhs =>
    simp only [ClassTree.erase, ClassTree.toSet, toOption_bind, lhs.toSet_erase, rhs.toSet_erase]

theorem itemsToSet_erase (items : List ClassTree) (acc : CharSet) :
    (itemsToSet m (eraseItems items) acc).toOption = (itemsToSet m items acc).toOption := by
  match items with
  | [] => rfl
  | item :: items =>
    simp only [eraseItems, itemsToSet, toOption_bind, item.toSet_erase, itemsToSet_erase items]

end

mutual

/-- Places decide what a fault says, not what a tree means. -/
theorem Tree.toExpr_erase (m : Modes) (t : Tree) : (t.erase.toExpr m).toOption = (t.toExpr m).toOption := by
  match t with
  | .empty _ => rfl
  | .flags _ items => simp only [Tree.erase, Tree.toExpr, Modes.set_erase]
  | .literal l => simp only [Tree.erase, Tree.toExpr, toOption_bind, Literal.toExpr_erase]
  | .dot span => simp only [Tree.erase, Tree.toExpr, toOption_bind, dotExpr_erase m .blank span]
  | .assertion _ kind => rfl
  | .property c => simp only [Tree.erase, Tree.toExpr, toOption_bind, PropertyClass.toSet_erase]
  | .perl c => simp only [Tree.erase, Tree.toExpr, toOption_bind, PerlClass.toSet_erase]
  | .bracket span negated body =>
    simp only [Tree.erase, Tree.toExpr, toOption_bind, ClassTree.toSet_erase,
      toOption_finishClass m .blank span]
  | .repetition _ count greedy sub =>
    simp only [Tree.erase, Tree.toExpr, toOption_bind, sub.toExpr_erase]
  | .group _ kind sub =>
    simp only [Tree.erase, Tree.toExpr, toOption_bind, sub.toExpr_erase, GroupKind.flags_erase,
      Modes.set_erase]
    cases kind <;> rfl
  | .alternation _ branches =>
    simp only [Tree.erase, Tree.toExpr, toOption_bind, partsToExprs_erase _ branches]
  | .concat _ parts =>
    simp only [Tree.erase, Tree.toExpr, toOption_bind, partsToExprs_erase _ parts]

theorem partsToExprs_erase (m : Modes) (parts : List Tree) :
    (partsToExprs m (eraseParts parts)).toOption = (partsToExprs m parts).toOption := by
  match parts with
  | [] => rfl
  | part :: parts =>
    simp only [eraseParts, partsToExprs, toOption_bind, part.toExpr_erase, partsToExprs_erase _ parts]

end

theorem Tree.toExpr_of_erase {t t' : Tree} (h : t.erase = t'.erase) {m : Modes} {x : Expr × Modes}
    (hx : t.toExpr m = .ok x) : t'.toExpr m = .ok x := by
  rw [← toOption_eq_some, ← Tree.toExpr_erase, ← h, Tree.toExpr_erase, hx, toOption_ok]

/-! ## Depth -/

mutual

/-- How deep brackets, unions and operators nest in a part of a class. -/
def ClassTree.depth : ClassTree → Nat
  | .bracket _ _ body => body.depth + 1
  | .union _ items => itemsDepth items + 1
  | .binary _ _ lhs rhs => max lhs.depth rhs.depth + 1
  | _ => 0

def itemsDepth : List ClassTree → Nat
  | [] => 0
  | item :: items => max item.depth (itemsDepth items)

end

mutual

def Tree.depth : Tree → Nat
  | .bracket _ _ body => body.depth + 1
  | .repetition _ _ _ sub => sub.depth + 1
  | .group _ _ sub => sub.depth + 1
  | .alternation _ branches => partsDepth branches + 1
  | .concat _ parts => partsDepth parts + 1
  | _ => 0

def partsDepth : List Tree → Nat
  | [] => 0
  | part :: parts => max part.depth (partsDepth parts)

end

theorem enter_bind_eq_ok {depth : Nat} {span : Span} {check : Except Fault Unit} :
    (enter depth span >>= fun _ => check) = .ok () ↔ depth < nestLimit ∧ check = .ok () := by
  unfold enter
  split
  · next h => exact ⟨fun hc => ⟨h, hc⟩, fun hc => hc.2⟩
  · next h => exact ⟨nofun, fun hc => absurd hc.1 h⟩

theorem check_bind_eq_ok {check rest : Except Fault Unit} :
    (check >>= fun _ => rest) = .ok () ↔ check = .ok () ∧ rest = .ok () := by
  cases check with
  | error _ => exact ⟨nofun, fun h => nomatch h.1⟩
  | ok u => exact ⟨fun h => ⟨rfl, h⟩, fun h => h.2⟩

mutual

theorem ClassTree.checkDepth_eq_ok (t : ClassTree) {d : Nat} (hd : d ≤ nestLimit) :
    t.checkDepth d = .ok () ↔ d + t.depth ≤ nestLimit := by
  match t with
  | .empty _ | .literal _ | .range _ _ _ | .ascii _ _ _ | .property _ | .perl _ =>
    exact ⟨fun _ => hd, fun _ => rfl⟩
  | .bracket _ _ body =>
    rw [ClassTree.checkDepth, enter_bind_eq_ok, ClassTree.depth]
    constructor
    · rintro ⟨h, hbody⟩
      have := (body.checkDepth_eq_ok h).1 hbody
      omega
    · intro h
      exact ⟨by omega, (body.checkDepth_eq_ok (by omega)).2 (by omega)⟩
  | .union _ items =>
    rw [ClassTree.checkDepth, enter_bind_eq_ok, ClassTree.depth]
    constructor
    · rintro ⟨h, hitems⟩
      have := (checkItemsDepth_eq_ok items h).1 hitems
      omega
    · intro h
      exact ⟨by omega, (checkItemsDepth_eq_ok items (by omega)).2 (by omega)⟩
  | .binary _ _ lhs rhs =>
    rw [ClassTree.checkDepth, enter_bind_eq_ok, check_bind_eq_ok, ClassTree.depth]
    constructor
    · rintro ⟨h, hl, hr⟩
      have := (lhs.checkDepth_eq_ok h).1 hl
      have := (rhs.checkDepth_eq_ok h).1 hr
      omega
    · intro h
      exact ⟨by omega, (lhs.checkDepth_eq_ok (by omega)).2 (by omega),
        (rhs.checkDepth_eq_ok (by omega)).2 (by omega)⟩

theorem checkItemsDepth_eq_ok (items : List ClassTree) {d : Nat} (hd : d ≤ nestLimit) :
    checkItemsDepth d items = .ok () ↔ d + itemsDepth items ≤ nestLimit := by
  match items with
  | [] => exact ⟨fun _ => hd, fun _ => rfl⟩
  | item :: items =>
    rw [checkItemsDepth, check_bind_eq_ok, item.checkDepth_eq_ok hd, checkItemsDepth_eq_ok items hd,
      itemsDepth]
    omega

end

mutual

theorem Tree.checkDepth_eq_ok (t : Tree) {d : Nat} (hd : d ≤ nestLimit) :
    t.checkDepth d = .ok () ↔ d + t.depth ≤ nestLimit := by
  match t with
  | .empty _ | .flags _ _ | .literal _ | .dot _ | .assertion _ _ | .property _ | .perl _ =>
    exact ⟨fun _ => hd, fun _ => rfl⟩
  | .bracket _ _ body =>
    rw [Tree.checkDepth, enter_bind_eq_ok, Tree.depth]
    constructor
    · rintro ⟨h, hbody⟩
      have := (body.checkDepth_eq_ok h).1 hbody
      omega
    · intro h
      exact ⟨by omega, (body.checkDepth_eq_ok (by omega)).2 (by omega)⟩
  | .repetition _ _ _ sub | .group _ _ sub =>
    rw [Tree.checkDepth, enter_bind_eq_ok, Tree.depth]
    constructor
    · rintro ⟨h, hsub⟩
      have := (sub.checkDepth_eq_ok h).1 hsub
      omega
    · intro h
      exact ⟨by omega, (sub.checkDepth_eq_ok (by omega)).2 (by omega)⟩
  | .alternation _ parts | .concat _ parts =>
    rw [Tree.checkDepth, enter_bind_eq_ok, Tree.depth]
    constructor
    · rintro ⟨h, hparts⟩
      have := (checkPartsDepth_eq_ok parts h).1 hparts
      omega
    · intro h
      exact ⟨by omega, (checkPartsDepth_eq_ok parts (by omega)).2 (by omega)⟩

theorem checkPartsDepth_eq_ok (parts : List Tree) {d : Nat} (hd : d ≤ nestLimit) :
    checkPartsDepth d parts = .ok () ↔ d + partsDepth parts ≤ nestLimit := by
  match parts with
  | [] => exact ⟨fun _ => hd, fun _ => rfl⟩
  | part :: parts =>
    rw [checkPartsDepth, check_bind_eq_ok, part.checkDepth_eq_ok hd, checkPartsDepth_eq_ok parts hd,
      partsDepth]
    omega

end

mutual

theorem ClassTree.depth_erase (t : ClassTree) : t.erase.depth = t.depth := by
  match t with
  | .empty _ | .literal _ | .range _ _ _ | .ascii _ _ _ | .property _ | .perl _ => rfl
  | .bracket _ _ body => simp only [ClassTree.erase, ClassTree.depth, body.depth_erase]
  | .union _ items => simp only [ClassTree.erase, ClassTree.depth, itemsDepth_erase items]
  | .binary _ _ lhs rhs => simp only [ClassTree.erase, ClassTree.depth, lhs.depth_erase, rhs.depth_erase]

theorem itemsDepth_erase (items : List ClassTree) : itemsDepth (eraseItems items) = itemsDepth items := by
  match items with
  | [] => rfl
  | item :: items => simp only [eraseItems, itemsDepth, item.depth_erase, itemsDepth_erase items]

end

mutual

theorem Tree.depth_erase (t : Tree) : t.erase.depth = t.depth := by
  match t with
  | .empty _ | .flags _ _ | .literal _ | .dot _ | .assertion _ _ | .property _ | .perl _ => rfl
  | .bracket _ _ body => simp only [Tree.erase, Tree.depth, body.depth_erase]
  | .repetition _ _ _ sub | .group _ _ sub => simp only [Tree.erase, Tree.depth, sub.depth_erase]
  | .alternation _ parts | .concat _ parts =>
    simp only [Tree.erase, Tree.depth, partsDepth_erase parts]

theorem partsDepth_erase (parts : List Tree) : partsDepth (eraseParts parts) = partsDepth parts := by
  match parts with
  | [] => rfl
  | part :: parts => simp only [eraseParts, partsDepth, part.depth_erase, partsDepth_erase parts]

end

theorem Tree.depth_of_erase {t t' : Tree} (h : t.erase = t'.erase) : t.depth = t'.depth := by
  rw [← t.depth_erase, h, t'.depth_erase]

end Syntax

end TextPattern
