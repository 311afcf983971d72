import TextPattern.Proofs.Flat
import TextPattern.Proofs.Progress

/-!
# A setting in front of a pattern

* `Alike R x y` : both fail with one fault, or both succeed with results that `R` relates;
* `Level.Led t l l'` : `l'` is `l` with the tree `t` in front of its first branch, `Machine.Led` : two machines at
  one place, the second with `t` in front of its outermost level;
* `Machine.Led.step`, `Machine.Led.read` : a step, and all of them, keep machines so;
* `Tree.depthBehind` : how deep a pattern nests behind a setting;
* `Tree.Behind items t t'` : `t'` means what `t` means under the flags of a setting, and nests as deep as that;
* `Machine.Led.finish` : machines of which the second has a setting in front end in such trees.
-/

namespace TextPattern.Syntax

/-! ## Computations that go alike -/

/-- Both fail with one fault, or both succeed with results that `R` relates. -/
inductive Alike {ε α β : Type} (R : α → β → Prop) : Except ε α → Except ε β → Prop
  | ok {a : α} {b : β} : R a b → Alike R (.ok a) (.ok b)
  | error {e : ε} : Alike R (.error e) (.error e)

namespace Alike

variable {ε α β γ δ : Type} {R : α → β → Prop} {S : γ → δ → Prop} {x : Except ε α} {y : Except ε β}

theorem bind {f : α → Except ε γ} {g : β → Except ε δ} (h : Alike R x y)
    (hfg : ∀ a b, R a b → Alike S (f a) (g b)) : Alike S (x >>= f) (y >>= g) := by
  cases h with
  | ok hab => exact hfg _ _ hab
  | error => exact .error

theorem of_bind {f : α → Except ε γ} {g : α → Except ε δ} (hfg : ∀ a, x = .ok a → Alike S (f a) (g a)) :
    Alike S (x >>= f) (x >>= g) := by
  cases x with
  | error e => exact .error
  | ok a => exact hfg a rfl

theorem exists_right (h : Alike R x y) {a : α} (hx : x = .ok a) : ∃ b, y = .ok b ∧ R a b := by
  cases h with
  | ok hab =>
    obtain rfl := Except.ok.inj hx
    exact ⟨_, rfl, hab⟩
  | error => cases hx

theorem exists_left (h : Alike R x y) {b : β} (hy : y = .ok b) : ∃ a, x = .ok a ∧ R a b := by
  cases h with
  | ok hab =>
    obtain rfl := Except.ok.inj hy
    exact ⟨_, rfl, hab⟩
  | error => cases hy

end Alike

/-! ## Levels -/

/-- The level with `t` in front of the branch behind the last bar. -/
def Level.under (t : Tree) (l : Level) : Level := { l with parts := l.parts ++ [t] }

/-- `l'` is the level `l` with `t` in front of its first branch, whose parts are items. That branch is the one
being read, or else the one read first. -/
inductive Level.Led (t : Tree) : Level → Level → Prop
  | first {l : Level} (hdone : l.done = []) (hitems : ∀ part ∈ l.parts, part.isItem = true) : Led t l (l.under t)
  | later {l b : Level} (done : List Tree) {stop : Position} (hdone : l.done = done ++ [b.branch stop])
    (hitems : ∀ part ∈ b.parts, part.isItem = true) :
    Led t l { l with done := done ++ [(b.under t).branch stop] }

namespace Level.Led

variable {t : Tree} {l l' : Level}

theorem push (h : l.Led t l') {part : Tree} (hpart : part.isItem = true) : (l.push part).Led t (l'.push part) := by
  cases h with
  | first hdone hitems => exact .first (l := l.push part) hdone (List.forall_mem_cons.2 ⟨hpart, hitems⟩)
  | later _ hdone hitems => exact .later _ (l := l.push part) hdone hitems

theorem operand (h : l.Led t l') (ht : t.repeatable = false) (r : Reader) :
    Alike (fun x y => x.1 = y.1 ∧ x.2.Led t y.2) (operand l r) (operand l' r) := by
  obtain ⟨start, done, first, parts⟩ := l
  cases h with
  | first hdone hitems =>
    cases parts with
    | nil =>
      -- Nothing is there to repeat in the one, and only `t` in the other: the same fault at the same place.
      change Alike _ (fail _ _) (if t.repeatable then _ else _)
      rw [ht, if_neg Bool.false_ne_true]
      exact .error
    | cons part parts =>
      change Alike _ (if part.repeatable then _ else _) (if part.repeatable then _ else _)
      split
      · exact .ok ⟨rfl, .first (l := ⟨start, done, first, parts⟩) hdone (List.forall_mem_cons.1 hitems).2⟩
      · exact .error
  | later _ hdone hitems =>
    cases parts with
    | nil => exact .error
    | cons part parts =>
      change Alike _ (if part.repeatable then _ else _) (if part.repeatable then _ else _)
      split
      · exact .ok ⟨rfl, .later _ (l := ⟨start, done, first, parts⟩) hdone hitems⟩
      · exact .error

/-- A bar ends the first branch, or leaves it behind. -/
theorem endBranch (h : l.Led t l') (stop next : Position) :
    Led t ⟨l.first, l.branch stop :: l.done, next, []⟩ ⟨l'.first, l'.branch stop :: l'.done, next, []⟩ := by
  obtain ⟨start, done, first, parts⟩ := l
  cases h with
  | first hdone hitems =>
    obtain rfl : done = [] := hdone
    exact .later [] (l := ⟨start, [Level.branch ⟨start, [], first, parts⟩ stop], next, []⟩) rfl hitems
  | @later b before stop' hdone hitems =>
    obtain rfl : done = _ := hdone
    let last := Level.branch ⟨start, before ++ [b.branch stop'], first, parts⟩ stop
    exact .later (last :: before) (l := ⟨start, last :: (before ++ [b.branch stop']), next, []⟩) rfl hitems

end Level.Led

/-! ## Machines -/

/-- The machines are at one place, and the outermost level of the second has `t` in front. -/
inductive Machine.Led (t : Tree) : Machine → Machine → Prop
  | outermost {r : Reader} {l l' : Level} (h : l.Led t l') : Led t ⟨r, l, []⟩ ⟨r, l', []⟩
  | within {r : Reader} {l outer : Level} (groups : List OpenGroup) {g : OpenGroup} (h : g.outer.Led t outer) :
    Led t ⟨r, l, groups ++ [g]⟩ ⟨r, l, groups ++ [{ g with outer }]⟩

namespace Machine.Led

variable {t : Tree} {m m' : Machine}

theorem reader_eq (h : m.Led t m') : m'.reader = m.reader := by
  cases h <;> rfl

theorem withReader (h : m.Led t m') (r : Reader) : Led t { m with reader := r } { m' with reader := r } := by
  cases h with
  | outermost h => exact .outermost h
  | within _ h => exact .within _ h

theorem push (h : m.Led t m') {n : Nat} {x : Except Fault (Tree × Reader)} (hx : ReadsItem n x) :
    Alike (Led t) (m.push x) (m'.push x) := by
  refine .of_bind ?_
  rintro ⟨item, r⟩ hr
  cases h with
  | outermost h => exact .ok (.outermost (h.push (hx.isItem hr)))
  | within _ h => exact .ok (.within _ h)

theorem repeatBy (h : m.Led t m') (ht : t.repeatable = false) (count : Count) :
    Alike (Led t) (m.repeatBy count) (m'.repeatBy count) := by
  cases h with
  | outermost h =>
    refine (h.operand ht _).bind ?_
    rintro ⟨sub, level⟩ ⟨_, level'⟩ ⟨rfl, hlevel⟩
    exact .ok (.outermost (hlevel.push rfl))
  | within _ h =>
    -- Within a group the level that is being read is the same.
    exact .of_bind fun _ _ => .ok (.within _ h)

theorem repeatCounted (h : m.Led t m') (ht : t.repeatable = false) :
    Alike (Led t) m.repeatCounted m'.repeatCounted := by
  cases h with
  | outermost h =>
    refine (h.operand ht _).bind ?_
    rintro ⟨sub, level⟩ ⟨_, level'⟩ ⟨rfl, hlevel⟩
    refine .of_bind ?_
    rintro ⟨⟨min, max⟩, r⟩ -
    dsimp only
    split
    · exact .ok (.outermost (hlevel.push rfl))
    · exact .error
  | within _ h =>
    refine .of_bind fun _ _ => .of_bind ?_
    rintro ⟨⟨min, max⟩, r⟩ -
    dsimp only
    split
    · exact .ok (.within _ h)
    · exact .error

theorem openGroup (h : m.Led t m') : Alike (Led t) m.openGroup m'.openGroup := by
  cases h with
  | outermost h =>
    refine .of_bind ?_
    rintro ⟨_ | ⟨kind, content⟩, r⟩ -
    · exact .ok (.outermost (h.push rfl))
    · exact .ok (.within [] h)
  | @within _ l _ groups _ h =>
    refine .of_bind ?_
    rintro ⟨_ | ⟨kind, content⟩, r⟩ -
    · exact .ok (.within _ h)
    · exact .ok (.within (⟨l, _, kind, _⟩ :: groups) h)

theorem closeGroup (h : m.Led t m') : Alike (Led t) m.closeGroup m'.closeGroup := by
  cases h with
  | outermost h => exact .error
  | @within _ _ _ groups _ h =>
    cases groups with
    | nil => exact .ok (.outermost (h.push rfl))
    | cons _ groups => exact .ok (.within _ h)

theorem endBranch (h : m.Led t m') : m.endBranch.Led t m'.endBranch := by
  cases h with
  | outermost h => exact .outermost (h.endBranch _ _)
  | within _ h => exact .within _ h

theorem step (h : m.Led t m') (ht : t.repeatable = false) (c : Char) : Alike (Led t) (m.step c) (m'.step c) := by
  have hliteral : ∀ item : Tree, item.isItem = true →
      Alike (Led t) (m.push (.ok (item, m.reader.bump))) (m'.push (.ok (item, m.reader.bump))) :=
    fun item hitem => h.push (.ok hitem (Nat.le_refl _))
  unfold Machine.step signAssertion
  rw [h.reader_eq]
  dsimp only
  split
  · exact h.openGroup
  · exact h.closeGroup
  · exact .ok h.endBranch
  · exact h.push (readsItem_readBracket _)
  · exact h.repeatBy ht _
  · exact h.repeatBy ht _
  · exact h.repeatBy ht _
  · exact h.repeatCounted ht
  · exact h.push (readsItem_readEscape _)
  · exact hliteral _ rfl
  · exact hliteral _ rfl
  · exact hliteral _ rfl
  · exact hliteral _ rfl

theorem read (h : m.Led t m') (ht : t.repeatable = false) (fuel : Nat) :
    Alike (Led t) (m.read fuel) (m'.read fuel) := by
  induction fuel generalizing m m' with
  | zero =>
    rw [Machine.read, Machine.read, h.reader_eq]
    exact .error
  | succ fuel ih =>
    cases hrest : m.reader.skipBlanks.rest with
    | nil =>
      rw [read_end hrest, read_end (by rw [h.reader_eq, hrest])]
      exact .ok h
    | cons c cs =>
      rw [read_skip hrest, read_skip (by rw [h.reader_eq, hrest]), h.reader_eq]
      exact ((h.withReader _).step ht c).bind fun _ _ hn => ih hn

end Machine.Led

/-! ## Meaning -/

section Meaning

variable {m n : Modes} {span : Span} {items : List FlagItem} {l l' : Level} {e : Expr} {stop : Position}

/-- Behind a setting a branch means what it means under the flags of the setting. -/
theorem Level.toExpr_branch_under : ((l.under (.flags span items)).branch stop).toExpr m = .ok (e, n) ↔
    (l.branch stop).toExpr (m.set items) = .ok (e, n) := by
  have hparts : (l.under (.flags span items)).parts.reverse = .flags span items :: l.parts.reverse :=
    List.reverse_concat
  rw [toExpr_branch, toExpr_branch, hparts]
  constructor
  · rintro ⟨_, hfs, rfl⟩
    obtain ⟨_, _, fs, hsetting, hfs, rfl⟩ := partsToExprs_cons.1 hfs
    obtain ⟨rfl, rfl⟩ := Prod.mk.inj (Except.ok.inj hsetting)
    exact ⟨fs, hfs, Expr.ofParts_empty_cons (flat_partsToExprs _ hfs)⟩
  · rintro ⟨fs, hfs, rfl⟩
    refine ⟨.empty :: fs, partsToExprs_cons.2 ⟨.empty, m.set items, fs, rfl, hfs, rfl⟩, ?_⟩
    exact (Expr.ofParts_empty_cons (flat_partsToExprs _ hfs)).symm

theorem Level.toTree_of_nil (h : l.done = []) (stop : Position) : l.toTree stop = l.branch stop := by
  rw [toTree, h]

theorem Level.toTree_of_concat {done : List Tree} {branch : Tree} (h : l.done = done ++ [branch])
    (stop : Position) :
    l.toTree stop = .alternation ⟨l.first, stop⟩ (branch :: (l.branch stop :: done).reverse) := by
  have hrows : (l.branch stop :: (done ++ [branch])).reverse = branch :: (l.branch stop :: done).reverse := by
    rw [← List.cons_append, List.reverse_concat]
  unfold toTree
  split
  · next hnil =>
    rw [h] at hnil
    exact absurd hnil (List.append_ne_nil_of_right_ne_nil _ (List.cons_ne_nil _ _))
  · rw [h, hrows]

/-- A setting in front of a level sets the flags that the level is taken under. -/
theorem Level.Led.toExpr_toTree (h : l.Led (.flags span items) l') :
    (l'.toTree stop).toExpr m = .ok (e, n) ↔ (l.toTree stop).toExpr (m.set items) = .ok (e, n) := by
  cases h with
  | first hdone _ =>
    rw [toTree_of_nil hdone, toTree_of_nil (l := l.under _) hdone]
    exact toExpr_branch_under
  | @later b done _ hdone _ =>
    rw [Level.toExpr_toTree, Level.toExpr_toTree, hdone]
    -- The flags set in the first branch hold in the others, whichever way they were set.
    simp only [List.reverse_concat, partsToExprs_cons, toExpr_branch_under]

end Meaning

/-! ## Depth -/

/-- How deep a branch nests with an item in front that does not nest: a single item gets one level deeper. -/
def Tree.branchDepthBehind : Tree → Nat
  | .empty _ => 0
  | .concat _ parts => partsDepth parts + 1
  | t => t.depth + 1

/-- How deep a pattern nests with an item in front of its first branch that does not nest. -/
def Tree.depthBehind : Tree → Nat
  | .alternation _ (branch :: branches) => max branch.branchDepthBehind (partsDepth branches) + 1
  | t => t.branchDepthBehind

theorem Tree.branchDepthBehind_bounds (t : Tree) :
    t.depth ≤ t.branchDepthBehind ∧ t.branchDepthBehind ≤ t.depth + 1 := by
  cases t with
  | empty _ => exact ⟨Nat.le_refl 0, Nat.zero_le _⟩
  | concat _ _ => exact ⟨Nat.le_refl _, Nat.le_succ _⟩
  | flags _ _ | literal _ | dot _ | assertion _ _ | property _ | perl _ | bracket _ _ _ | repetition _ _ _ _
  | group _ _ _ | alternation _ _ => exact ⟨Nat.le_succ _, Nat.le_refl _⟩

/-- With such an item in front a pattern nests at most one level deeper. -/
theorem Tree.depthBehind_bounds (t : Tree) : t.depth ≤ t.depthBehind ∧ t.depthBehind ≤ t.depth + 1 := by
  unfold depthBehind
  split
  · next branch branches =>
    have hbounds := branch.branchDepthBehind_bounds
    rw [Tree.depth, partsDepth]
    omega
  · exact t.branchDepthBehind_bounds

section Depth

variable {t : Tree} {l l' : Level}

theorem Level.depth_branch_under (ht : t.depth = 0) (hitems : ∀ part ∈ l.parts, part.isItem = true)
    (stop : Position) : ((l.under t).branch stop).depth = (l.branch stop).branchDepthBehind ∧
      (l.branch stop).depthBehind = (l.branch stop).branchDepthBehind := by
  obtain ⟨start, done, first, parts⟩ := l
  rcases parts with _ | ⟨a, _ | ⟨b, parts⟩⟩
  · exact ⟨ht, rfl⟩
  · have ha : a.isItem = true := hitems a List.mem_cons_self
    have hdepth : Tree.depth (.concat ⟨first, stop⟩ [t, a]) = a.depth + 1 := by
      rw [Tree.depth, partsDepth, partsDepth, partsDepth, ht, Nat.max_zero, Nat.zero_max]
    change Tree.depth (.concat ⟨first, stop⟩ [t, a]) = a.branchDepthBehind ∧ a.depthBehind = a.branchDepthBehind
    rw [hdepth]
    cases a with
    | empty _ | concat _ _ | alternation _ _ => cases ha
    | flags _ _ | literal _ | dot _ | assertion _ _ | property _ | perl _ | bracket _ _ _ | repetition _ _ _ _
    | group _ _ _ => exact ⟨rfl, rfl⟩
  · refine ⟨?_, rfl⟩
    have hparts : (a :: b :: parts ++ [t]).reverse = t :: (a :: b :: parts).reverse := List.reverse_concat
    change partsDepth (a :: b :: parts ++ [t]).reverse + 1 = partsDepth (a :: b :: parts).reverse + 1
    rw [hparts, partsDepth, ht, Nat.zero_max]

/-- A tree in front of a level makes it nest as deep as with any item there that does not nest. -/
theorem Level.Led.depth_toTree (h : l.Led t l') (ht : t.depth = 0) (stop : Position) :
    (l'.toTree stop).depth = (l.toTree stop).depthBehind := by
  cases h with
  | first hdone hitems =>
    obtain ⟨hdepth, hbehind⟩ := Level.depth_branch_under ht hitems stop
    rw [toTree_of_nil hdone, toTree_of_nil (l := l.under _) hdone, hdepth, hbehind]
  | @later b done stop' hdone hitems =>
    obtain ⟨hdepth, -⟩ := Level.depth_branch_under ht hitems stop'
    rw [toTree_of_concat hdone, toTree_of_concat rfl, Tree.depth, partsDepth, hdepth]
    rfl

end Depth

/-! ## A pattern behind a setting -/

/-- The tree `t'` means what `t` means under the flags of a setting, and nests as `t` does behind an item. -/
structure Tree.Behind (items : List FlagItem) (t t' : Tree) : Prop where
  toExpr : ∀ {m n : Modes} {e : Expr}, t'.toExpr m = .ok (e, n) ↔ t.toExpr (m.set items) = .ok (e, n)
  depth : t'.depth = t.depthBehind

theorem Tree.Behind.of_erase {items : List FlagItem} {t s s' : Tree} (h : t.Behind items s)
    (hs : s'.erase = s.erase) : t.Behind items s' := by
  refine ⟨?_, (Tree.depth_of_erase hs).trans h.depth⟩
  intro m n e
  rw [← h.toExpr]
  exact ⟨Tree.toExpr_of_erase hs, Tree.toExpr_of_erase hs.symm⟩

/-- With a setting in front of the second, machines end in a tree and the tree behind the setting. -/
theorem Machine.Led.finish {span : Span} {items : List FlagItem} {m m' : Machine}
    (h : m.Led (.flags span items) m') : Alike (Tree.Behind items) m.finish m'.finish := by
  cases h with
  | outermost h => exact .ok ⟨h.toExpr_toTree, h.depth_toTree rfl _⟩
  | within groups h =>
    cases groups with
    | nil => exact .error
    | cons _ groups => exact .error

end TextPattern.Syntax
