import TextPattern.Proofs.Sample.Matching

/-!
# Stages as one substitution

* `Stage.turn`, `Hole.Before` : the order of the stages, and of the holes of a row;
* `InStageOrder items holes` : the holes of a row, each once, in the order in which they are filled;
* `inStageOrder_stagedHoles` : the stages draw for the holes in that order;
* `generate_one_pass` : the stages draw a text for each hole and put them in, as one pass over the items does.
-/

namespace TextPattern.Sample

open TextPattern.Random

/-! ## Places in a list -/

section Places

variable {α β : Type} [BEq α] [LawfulBEq α] [BEq β] [LawfulBEq β]

theorem idxOf_lt_of_filterMap {f : α → Option β} {b c : β} {x y : α} (hb : ∀ z, f z = some b ↔ z = x)
    (hc : ∀ z, f z = some c ↔ z = y) {l : List α} (h : (l.filterMap f).idxOf b < (l.filterMap f).idxOf c) :
    l.idxOf x < l.idxOf y := by
  induction l with
  | nil => exact absurd h (Nat.lt_irrefl 0)
  | cons z l ih =>
    cases hz : f z with
    | none =>
      have hx : z ≠ x := fun heq => by rw [(hb z).2 heq] at hz; cases hz
      have hy : z ≠ y := fun heq => by rw [(hc z).2 heq] at hz; cases hz
      rw [List.filterMap_cons_none hz] at h
      rw [List.idxOf_cons_ne l hx, List.idxOf_cons_ne l hy]
      exact Nat.succ_lt_succ (ih h)
    | some d =>
      rw [List.filterMap_cons_some hz] at h
      have hd : d ≠ c := by
        rintro rfl
        rw [List.idxOf_cons_self] at h
        exact absurd h (Nat.not_lt_zero _)
      have hy : z ≠ y := fun heq => hd (Option.some.inj (hz.symm.trans ((hc z).2 heq)))
      rw [List.idxOf_cons_ne l hy]
      by_cases hx : z = x
      · rw [hx, List.idxOf_cons_self]
        exact Nat.succ_pos _
      · have hne : d ≠ b := fun heq => hx ((hb z).1 (heq ▸ hz))
        rw [List.idxOf_cons_ne _ hne, List.idxOf_cons_ne _ hd] at h
        rw [List.idxOf_cons_ne l hx]
        exact Nat.succ_lt_succ (ih (Nat.lt_of_succ_lt_succ h))

/-- What is left when repetitions are dropped stands by first occurrence. -/
theorem pairwise_eraseDups (l : List α) : l.eraseDups.Pairwise fun a b => l.idxOf a < l.idxOf b := by
  match l with
  | [] => exact List.Pairwise.nil
  | a :: l =>
    have hshort : (l.filter fun b => !b == a).length < l.length + 1 :=
      Nat.lt_succ_of_le (List.length_filter_le _ l)
    have hne : ∀ b ∈ (l.filter fun b => !b == a).eraseDups, b ≠ a := by
      intro b hb
      have hmem := (List.mem_filter.1 (List.mem_eraseDups.1 hb)).2
      simpa using hmem
    rw [List.eraseDups_cons, List.pairwise_cons]
    constructor
    · intro b hb
      rw [List.idxOf_cons_self, List.idxOf_cons_ne l (hne b hb).symm]
      exact Nat.succ_pos _
    · -- The others are those of a shorter list, in which their order is the same.
      have hothers := pairwise_eraseDups (l.filter fun b => !b == a)
      have hpick : ∀ b, b ≠ a → ∀ c, Option.guard (fun b => !b == a) c = some b ↔ c = b := by
        intro b hb c
        rw [Option.guard_eq_some_iff]
        exact ⟨And.left, fun heq => ⟨heq, by simpa [heq] using hb⟩⟩
      refine hothers.imp_of_mem fun {b c} hb hc hlt => ?_
      rw [List.idxOf_cons_ne l (hne b hb).symm, List.idxOf_cons_ne l (hne c hc).symm]
      rw [← List.filterMap_eq_filter] at hlt
      exact Nat.succ_lt_succ (idxOf_lt_of_filterMap (hpick b (hne b hb)) (hpick c (hne c hc)) hlt)
termination_by l.length

end Places

/-! ## The order of the holes -/

def Amount.turn : Amount → Nat
  | any => 0
  | most => 1
  | one => 2

def Token.turn : Token → Nat
  | dot => 0
  | word => 1
  | digit => 2
  | blank => 3

/-- The place of a stage: the classes with each amount, then each token with each amount. -/
def Stage.turn : Stage → Nat
  | classes a => a.turn
  | token t a => 3 * (t.turn + 1) + a.turn

theorem Stage.pairwise_all : all.Pairwise fun s s' => s.turn < s'.turn := by decide

/-- A hole is filled before another: its stage comes first, or the stage is the same and it stands first. -/
def Hole.Before (items : List Item) (g h : Hole) : Prop :=
  g.stage.turn < h.stage.turn ∨
    g.stage.turn = h.stage.turn ∧ items.idxOf (.hole g) < items.idxOf (.hole h)

/-- The holes of a row in the order in which they are filled. -/
structure InStageOrder (items : List Item) (holes : List Hole) : Prop where
  mem_iff : ∀ h, h ∈ holes ↔ .hole h ∈ items
  sorted : holes.Pairwise (Hole.Before items)

variable {items : List Item} {holes : List Hole}

/-- No hole comes twice, so that one text is drawn for all its places. -/
theorem InStageOrder.nodup (h : InStageOrder items holes) : holes.Nodup := by
  refine h.sorted.imp fun {g g'} hbefore heq => ?_
  subst heq
  rcases hbefore with hlt | ⟨-, hlt⟩
  · exact Nat.lt_irrefl _ hlt
  · exact Nat.lt_irrefl _ hlt

theorem Stage.pairwise_holes (s : Stage) (items : List Item) :
    (s.holes items).Pairwise fun g h => items.idxOf (.hole g) < items.idxOf (.hole h) := by
  cases s with
  | classes a =>
    rw [holes, List.pairwise_map]
    refine (pairwise_eraseDups (items.filterMap (Item.body? a))).imp fun {body body'} hlt => ?_
    exact idxOf_lt_of_filterMap (fun _ => Item.body?_eq_some) (fun _ => Item.body?_eq_some) hlt
  | token t a =>
    rw [holes]
    split
    · exact List.pairwise_singleton _ _
    · exact List.Pairwise.nil

/-- The stages fill the holes of a row in their order. -/
theorem inStageOrder_stagedHoles (items : List Item) : InStageOrder items (stagedHoles items) := by
  refine ⟨fun h => mem_stagedHoles, ?_⟩
  rw [stagedHoles, List.pairwise_flatMap]
  constructor
  · intro s hs
    refine (s.pairwise_holes items).imp_of_mem fun {g h} hg hh hlt => .inr ⟨?_, hlt⟩
    rw [(Stage.mem_holes.1 hg).1, (Stage.mem_holes.1 hh).1]
  · refine Stage.pairwise_all.imp fun {s s'} hlt g hg h hh => .inl ?_
    rw [(Stage.mem_holes.1 hg).1, (Stage.mem_holes.1 hh).1]
    exact hlt

/-! ## One pass -/

section Generate

variable {σ : Type} [Source σ]

/-- A pattern of clean items is valid, or it is refused as too large. -/
theorem isValid_or_tooLarge (hclean : ∀ i ∈ items, i.isClean = true) :
    isValid (String.ofList (textOf items)) = true ∨
      Options.none.compile (textOf items) = .error (.tooLarge costLimit) := by
  obtain ⟨tree, -, hparse, hexpr, -, -⟩ := (spells_textOf hclean).exists_parse
  have hcompile : Options.none.compile (textOf items) =
      if (Expr.ofParts (items.map Item.expr)).cost ≤ costLimit then .ok (Expr.ofParts (items.map Item.expr))
      else .error (.tooLarge costLimit) := compileText_of_parse hparse hexpr
  by_cases hcost : (Expr.ofParts (items.map Item.expr)).cost ≤ costLimit
  · left
    rw [if_pos hcost] at hcompile
    have hsource : Options.none.effectiveSource (String.ofList (textOf items)).toList = textOf items := by
      rw [String.toList_ofList]
      rfl
    rw [isValid, Pattern.compile, hsource, hcompile]
    rfl
  · right
    rwa [if_neg hcost] at hcompile

theorem generate_of_error {text : List Char} {cause : CompileFault}
    (h : Options.none.compile text = .error cause) (limit : Int) (source : σ) :
    generate (String.ofList text) limit source =
      (.error (.invalidPattern (String.ofList text) cause), source) := by
  have hsource : Options.none.effectiveSource (String.ofList text).toList = text := by
    rw [String.toList_ofList]
    rfl
  have hcompile : Pattern.compile (String.ofList text) .none =
      .error (.invalidPattern (String.ofList text) cause) := by
    rw [Pattern.compile, hsource, h]
  have hvalid : validateAndCompile (String.ofList text) .none =
      .error (.invalidPattern (String.ofList text) cause) := by
    rw [validateAndCompile, hcompile]
    rfl
  rw [generate, hvalid]

/-- The stages come to one pass over a row of clean items, unless the pattern is refused as too large. For the
holes of the row, each once and in the order of the stages, a text is drawn that fits; the sample is made of
the items in their order, each hole with its text wherever it stands, and the source is left behind those
draws. -/
theorem generate_one_pass (hclean : ∀ i ∈ items, i.isClean = true) {limit : Int} (hmin : 0 ≤ limit)
    (hmax : limit ≤ 2 ^ 20) (source : σ) :
    (∃ bound, Options.none.compile (textOf items) = .error (.tooLarge bound) ∧
      generate (String.ofList (textOf items)) limit source =
        (.error (.invalidPattern (String.ofList (textOf items)) (.tooLarge bound)), source)) ∨
    ∃ holes values after, InStageOrder items holes ∧
      (drawHoles limit.toNat holes).run source = (values, after) ∧
      Provides values holes limit.toNat ∧
      generate (String.ofList (textOf items)) limit source =
        (.ok (String.ofList (items.flatMap (Item.rendered values))), after) := by
  rcases isValid_or_tooLarge hclean with hvalid | hlarge
  · right
    have hclear : Clear true items := clear_of_sound fun i hi => Item.sound_of_isClean (hclean i hi)
    have hlimit : sampleLength limit = .ok limit.toNat := sampleLength_eq_ok hmin hmax
    have horder : InStageOrder items (stagedHoles items) := inStageOrder_stagedHoles items
    have hvalues : Provides (drawn limit.toNat items source) (stagedHoles items) limit.toNat :=
      provides_drawn hclear limit.toNat source
    exact ⟨_, _, _, horder, rfl, hvalues, generate_items hclean hvalid hlimit source⟩
  · left
    exact ⟨costLimit, hlarge, generate_of_error hlarge limit source⟩

/-- The class is drawn for first, with its length, then the dot and then the three digits. -/
theorem generate_one_pass_version : ∃ holes values after, InStageOrder versionItems holes ∧
    (drawHoles 3 holes).run (Cycle.mk #[0x9E3779B9, 0x7F4A7C15] 0) = (values, after) ∧
    Provides values holes 3 ∧
    generate "v\\d+\\.[ab]*.[ab]*" 3 (Cycle.mk #[0x9E3779B9, 0x7F4A7C15] 0) =
      (.ok (String.ofList (versionItems.flatMap (Item.rendered values))), after) := by
  have hok : (Options.none.compile (textOf versionItems)).isOk = true := by decide +kernel
  rw [← textOf_versionItems]
  have hmin : (0 : Int) ≤ 3 := by decide
  have hmax : (3 : Int) ≤ 2 ^ 20 := by decide
  refine (generate_one_pass (by decide) hmin hmax _).resolve_left ?_
  rintro ⟨bound, hlarge, -⟩
  rw [hlarge] at hok
  cases hok

end Generate

end TextPattern.Sample
