import TextPattern.Proofs.Sample.Draws
import TextPattern.Proofs.Sample.Passes

/-!
# The stages of a sample

* `Stage`, `Stage.run`, `Stage.all` : the stages in which a text is expanded;
* `Stage.holes s items` : the holes of a row that a stage fills;
* `fillAll values items` : the row with texts in place of the holes that have one;
* `Stage.run_textOf` : a stage draws a text for each of its holes and puts it in;
* `expand_textOf` : all stages draw a text for each hole of the row, and put them in;
* `unescapeDots_textOf` : what is left once every hole is filled.
-/

namespace TextPattern.Sample

open TextPattern.Random

/-! ## Stages -/

theorem mem_tokenStages (t : Token) (a : Amount) : (t, a) ∈ tokenStages := by
  cases t <;> cases a <;> decide

/-- A stage fills the classes with an amount, or a token with an amount. -/
inductive Stage where
  | classes (a : Amount)
  | token (t : Token) (a : Amount)
deriving DecidableEq, Repr

def Hole.stage : Hole → Stage
  | ⟨.plainClass _, a⟩ => .classes a
  | ⟨.token t, a⟩ => .token t a

theorem Hole.stage_eq_classes {h : Hole} {a : Amount} :
    h.stage = .classes a ↔ ∃ body, h = ⟨.plainClass body, a⟩ := by
  match h with
  | ⟨.plainClass body, b⟩ => simp [Hole.stage]
  | ⟨.token t, b⟩ => simp [Hole.stage]

theorem Hole.stage_eq_token {h : Hole} {t : Token} {a : Amount} :
    h.stage = .token t a ↔ h = ⟨.token t, a⟩ := by
  match h with
  | ⟨.plainClass body, b⟩ => simp [Hole.stage]
  | ⟨.token u, b⟩ => simp [Hole.stage]

theorem Item.body?_eq_some {i : Item} {a : Amount} {body : List Char} :
    i.body? a = some body ↔ i = .hole ⟨.plainClass body, a⟩ := by
  match i with
  | .literal c => simp [Item.body?]
  | .point => simp [Item.body?]
  | .hole ⟨.token t, b⟩ => simp [Item.body?]
  | .hole ⟨.plainClass body, b⟩ => simp [Item.body?, and_comm]

namespace Stage

def run {σ : Type} [Source σ] (max : Nat) (text : List Char) : Stage → StateM σ (List Char)
  | classes a => drawClasses a max text
  | token t a => drawToken t a max text

/-- All stages, in their order. -/
def all : List Stage := Amount.all.map classes ++ tokenStages.map fun s => token s.1 s.2

theorem nodup_all : all.Nodup := by decide

theorem stage_mem_all (h : Hole) : h.stage ∈ all := by
  have hclasses : ∀ a, classes a ∈ all := by
    intro a
    cases a <;> decide
  have htokens : ∀ t a, token t a ∈ all := by
    intro t a
    cases t <;> cases a <;> decide
  match h with
  | ⟨.plainClass _, a⟩ => exact hclasses a
  | ⟨.token t, a⟩ => exact htokens t a

/-- The stages of the same choices with a sign, which a stage without one would mistake for its own. -/
def before : Stage → List Stage
  | classes .one => [classes .any, classes .most]
  | token t .one => [token t .any, token t .most]
  | _ => []

/-- Each stage comes behind those that it could mistake for its own; the stages in `done` have been. -/
def isOrdered : (done rest : List Stage) → Bool
  | _, [] => true
  | done, s :: rest => s.before.all done.contains && isOrdered (s :: done) rest

theorem isOrdered_all : isOrdered [] all = true := by decide

/-- The holes of a row that a stage fills, by first occurrence. -/
def holes (items : List Item) : Stage → List Hole
  | classes a => (items.filterMap (Item.body? a)).eraseDups.map fun body => ⟨.plainClass body, a⟩
  | token t a => if .hole ⟨.token t, a⟩ ∈ items then [⟨.token t, a⟩] else []

theorem mem_holes {s : Stage} {items : List Item} {h : Hole} :
    h ∈ s.holes items ↔ h.stage = s ∧ .hole h ∈ items := by
  cases s with
  | classes a =>
    simp only [holes, List.mem_map, List.mem_eraseDups, List.mem_filterMap, Item.body?_eq_some,
      Hole.stage_eq_classes]
    constructor
    · rintro ⟨body, ⟨_, hmem, rfl⟩, rfl⟩
      exact ⟨⟨body, rfl⟩, hmem⟩
    · rintro ⟨⟨body, rfl⟩, hmem⟩
      exact ⟨body, ⟨_, hmem, rfl⟩, rfl⟩
  | token t a =>
    rw [holes, Hole.stage_eq_token]
    split
    · next hmem =>
      rw [List.mem_singleton]
      exact ⟨fun heq => ⟨heq, heq ▸ hmem⟩, And.left⟩
    · next hnot =>
      refine iff_of_false List.not_mem_nil ?_
      rintro ⟨rfl, hmem⟩
      exact hnot hmem

end Stage

/-! ## Filled rows -/

def Item.fill (values : List (Hole × List Char)) : Item → List Item
  | hole h => (values.lookup h).elim [hole h] fun value => value.map literal
  | i => [i]

/-- A row with texts in place of the holes that have one. -/
def fillAll (values : List (Hole × List Char)) (items : List Item) : List Item :=
  items.flatMap (Item.fill values)

section Fill

variable {values more : List (Hole × List Char)} {items : List Item} {h : Hole}

theorem fillAll_cons (i : Item) : fillAll values (i :: items) = i.fill values ++ fillAll values items :=
  List.flatMap_cons

theorem fillAll_append (items others : List Item) :
    fillAll values (items ++ others) = fillAll values items ++ fillAll values others :=
  List.flatMap_append

theorem fillAll_nil (items : List Item) : fillAll [] items = items := by
  induction items with
  | nil => rfl
  | cons i items ih =>
    rw [fillAll_cons, ih]
    cases i <;> rfl

theorem fillAll_literals (text : List Char) : fillAll values (text.map .literal) = text.map .literal := by
  induction text with
  | nil => rfl
  | cons c text ih =>
    rw [List.map_cons, fillAll_cons, ih]
    rfl

/-- Filling twice is filling with the texts of both times, those of the first time first. -/
theorem fillAll_fillAll : fillAll more (fillAll values items) = fillAll (values ++ more) items := by
  induction items with
  | nil => rfl
  | cons i items ih =>
    rw [fillAll_cons, fillAll_append, ih, fillAll_cons]
    congr 1
    match i with
    | .literal c => rfl
    | .point => rfl
    | .hole h =>
      unfold Item.fill
      simp only [List.lookup_append]
      cases values.lookup h with
      | none =>
        rw [Option.elim_none, fillAll_cons]
        simp [fillAll, Item.fill]
      | some value => exact fillAll_literals value

theorem fillAll_single (value : List Char) (items : List Item) :
    fillAll [(h, value)] items = put (.hole h) value items := by
  induction items with
  | nil => rfl
  | cons i items ih =>
    rw [fillAll_cons, put_cons, ih]
    congr 1
    match i with
    | .literal c => rfl
    | .point => rfl
    | .hole g =>
      by_cases hg : g = h
      · subst hg
        simp [Item.fill]
      · have hnone : [(h, value)].lookup g = none := by
          rw [List.lookup_eq_none_iff]
          intro e he
          rwa [List.mem_singleton.1 he, bne_iff_ne]
        simp [Item.fill, hnone, hg]

theorem mem_of_lookup {value : List Char} (h' : values.lookup h = some value) : (h, value) ∈ values := by
  obtain ⟨left, right, rfl, -⟩ := List.lookup_eq_some_iff.1 h'
  simp

theorem hole_mem_fillAll : .hole h ∈ fillAll values items ↔ .hole h ∈ items ∧ h ∉ values.map Prod.fst := by
  have hlookup : ∀ g, values.lookup g = none ↔ g ∉ values.map Prod.fst := by
    intro g
    rw [List.lookup_eq_none_iff, List.mem_map]
    constructor
    · rintro hne ⟨e, he, rfl⟩
      exact bne_iff_ne.1 (hne e he) rfl
    · intro hnot e he
      rw [bne_iff_ne]
      rintro rfl
      exact hnot ⟨e, he, rfl⟩
  rw [fillAll, List.mem_flatMap, ← hlookup]
  constructor
  · rintro ⟨i, hi, hmem⟩
    match i with
    | .literal c => simp [Item.fill] at hmem
    | .point => simp [Item.fill] at hmem
    | .hole g =>
      rw [Item.fill] at hmem
      cases hg : values.lookup g with
      | none =>
        rw [hg, Option.elim_none, List.mem_singleton, Item.hole.injEq] at hmem
        exact hmem ▸ ⟨hi, hg⟩
      | some value =>
        rw [hg] at hmem
        simp at hmem
  · rintro ⟨hi, hnone⟩
    exact ⟨_, hi, by simp [Item.fill, hnone]⟩

theorem filled_fillAll (hvalues : ∀ e ∈ values, ∀ c ∈ e.2, isInert c = true) (items : List Item) :
    Filled items (fillAll values items) := by
  induction items with
  | nil => exact .nil
  | cons i items ih =>
    rw [fillAll_cons]
    match i with
    | .literal c => exact .keep _ ih
    | .point => exact .keep _ ih
    | .hole h =>
      rw [Item.fill]
      cases hvalue : values.lookup h with
      | none => exact .keep _ ih
      | some value => exact .fill h (hvalues _ (mem_of_lookup hvalue)) ih

theorem body?_fill {a : Amount} (hvalues : ∀ e ∈ values, e.1.stage ≠ .classes a) (i : Item) :
    (i.fill values).filterMap (Item.body? a) = [i].filterMap (Item.body? a) := by
  match i with
  | .literal c => rfl
  | .point => rfl
  | .hole h =>
    rw [Item.fill]
    cases hvalue : values.lookup h with
    | none => rfl
    | some value =>
      have hnone : Item.body? a (.hole h) = none := by
        rw [Option.eq_none_iff_forall_ne_some]
        intro body hbody
        obtain rfl := Item.hole.inj (Item.body?_eq_some.1 hbody)
        exact hvalues _ (mem_of_lookup hvalue) rfl
      rw [Option.elim_some, List.filterMap_cons_none hnone, List.filterMap_map]
      exact List.filterMap_eq_nil_iff.2 fun c _ => rfl

theorem holes_fillAll {s : Stage} (hvalues : ∀ e ∈ values, e.1.stage ≠ s) :
    s.holes (fillAll values items) = s.holes items := by
  cases s with
  | classes a =>
    have hbodies : (fillAll values items).filterMap (Item.body? a) = items.filterMap (Item.body? a) := by
      induction items with
      | nil => rfl
      | cons i items ih =>
        rw [fillAll_cons, List.filterMap_append, ih, body?_fill hvalues, ← List.filterMap_append,
          List.singleton_append]
    rw [Stage.holes, hbodies, Stage.holes]
  | token t a =>
    have hmem : .hole ⟨.token t, a⟩ ∈ fillAll values items ↔ .hole ⟨.token t, a⟩ ∈ items := by
      rw [hole_mem_fillAll]
      refine and_iff_left fun hmem => ?_
      obtain ⟨e, he, heq⟩ := List.mem_map.1 hmem
      exact hvalues e he (heq ▸ rfl)
    rw [Stage.holes, Stage.holes]
    simp only [hmem]

end Fill

/-! ## One stage -/

section Run

variable {σ : Type} [Source σ] {items : List Item}

/-- What is drawn for a choice belongs to no mark. -/
theorem Choice.alphabet_inert {x : Choice} (hx : x.Sound) : ∀ c ∈ x.alphabet, isInert c = true := by
  match x with
  | .token t =>
    have hall : t.alphabet.all isInert = true := by cases t <;> decide
    exact List.all_eq_true.1 hall
  | .plainClass body => exact fun c hc => (hx.2 c hc).1

theorem Hole.Fits.inert {h : Hole} {max : Nat} {value : List Char} (hvalue : h.Fits max value)
    (hh : h.choice.Sound) : ∀ c ∈ value, isInert c = true :=
  fun c hc => Choice.alphabet_inert hh c (hvalue.mem c hc)

/-- No hole is left that a stage would mistake for its own. -/
def Stage.Ready (s : Stage) (items : List Item) : Prop := ∀ h, .hole h ∈ items → h.stage ∉ s.before

theorem Stage.Ready.fillAll {s : Stage} (hready : s.Ready items) (values : List (Hole × List Char)) :
    s.Ready (fillAll values items) :=
  fun h hh => hready h (hole_mem_fillAll.1 hh).1

/-- A hole of a stage that is ready is apart from all holes of the row. -/
theorem Stage.Ready.apart {g : Hole} (hready : g.stage.Ready items) (hg : g.choice.Sound)
    (hclear : Clear true items) : ∀ h, .hole h ∈ items → Apart g h := by
  intro h hh
  refine apart_hole hg (hclear.sound hh) fun hchoice hone => ?_
  have hnot := hready h hh
  obtain ⟨x, a⟩ := g
  obtain ⟨y, b⟩ := h
  obtain rfl : y = x := hchoice
  obtain rfl : a = .one := hone
  cases y <;> cases b <;> simp_all [Hole.stage, Stage.before]

theorem drawBodies_textOf {a : Amount} {bodies : List (List Char)} (hbodies : ∀ body ∈ bodies, SoundBody body)
    (max : Nat) (hclear : Clear true items) (hready : (Stage.classes a).Ready items) :
    (drawBodies a max bodies (textOf items) : StateM σ _) = do
      let values ← drawHoles max (bodies.map fun body => ⟨.plainClass body, a⟩)
      return textOf (fillAll values items) := by
  induction bodies generalizing items with
  | nil => simp [drawBodies, drawHoles, fillAll_nil]
  | cons body bodies ih =>
    obtain ⟨hbody, hbodies⟩ := List.forall_mem_cons.1 hbodies
    let g : Hole := ⟨.plainClass body, a⟩
    have hmark : classMark body a.sign = g.mark := by simp [g, Hole.mark, Choice.mark, classMark]
    have hnext : ∀ value, g.Fits max value →
        (drawBodies a max bodies (replaceAll (classMark body a.sign) value (textOf items)) : StateM σ _) = do
          let values ← drawHoles max (bodies.map fun body => ⟨.plainClass body, a⟩)
          return textOf (fillAll ((g, value) :: values) items) := by
      intro value hvalue
      have hfilled : Filled items (fillAll [(g, value)] items) :=
        filled_fillAll (List.forall_mem_singleton.2 (hvalue.inert hbody)) items
      rw [hmark, replaceAll_textOf hclear (hready.apart (g := g) hbody hclear), ← fillAll_single,
        ih hbodies (hfilled.clear hclear) (hready.fillAll _)]
      simp only [fillAll_fillAll, List.singleton_append]
    rw [drawBodies, List.map_cons, drawHoles]
    refine ((draws_drawHole (h := g) hbody max).bind_congr hnext).trans ?_
    simp [g]

/-- A stage that is ready draws a text for each of its holes and puts it in. -/
theorem Stage.run_textOf {s : Stage} (max : Nat) (hclear : Clear true items) (hready : s.Ready items) :
    (s.run max (textOf items) : StateM σ _) = do
      let values ← drawHoles max (s.holes items)
      return textOf (fillAll values items) := by
  cases s with
  | classes a =>
    have hone : a = .one → ∀ body b, .hole ⟨.plainClass body, b⟩ ∈ items → b = .one := by
      rintro rfl body b hmem
      have := hready _ hmem
      cases b <;> simp_all [Hole.stage, before]
    rw [run, drawClasses, classBodies_textOf hclear hone, holes]
    refine drawBodies_textOf (fun body hbody => ?_) max hclear hready
    obtain ⟨i, hi, heq⟩ := List.mem_filterMap.1 (List.mem_eraseDups.1 hbody)
    obtain rfl := Item.body?_eq_some.1 heq
    exact hclear.sound hi
  | token t a =>
    let g : Hole := ⟨.token t, a⟩
    have hapart := Stage.Ready.apart (g := g) hready trivial hclear
    have hoccurs := occursFree_textOf hclear hapart
    change occursFree (t.mark ++ a.sign) (textOf items) = _ at hoccurs
    rw [run, drawToken, hoccurs, holes]
    by_cases hmem : .hole g ∈ items
    · have hput : ∀ value, g.Fits max value → (return exhaust g.mark value (textOf items) : StateM σ _) =
          return textOf (fillAll [(g, value)] items) := by
        intro value hvalue
        rw [exhaust_textOf (hvalue.inert (h := g) trivial) hclear hapart, fillAll_single]
      rw [if_pos (decide_eq_true hmem), if_pos hmem]
      refine ((draws_drawHole (h := g) trivial max).bind_congr hput).trans ?_
      simp [drawHoles, g]
    · rw [if_neg (by simpa using hmem), if_neg hmem]
      simp [drawHoles, fillAll_nil]

/-! ## All stages -/

/-- The holes of a row in the order in which the stages fill them. -/
def stagedHoles (items : List Item) : List Hole := Stage.all.flatMap fun s => s.holes items

theorem mem_stagedHoles {h : Hole} : h ∈ stagedHoles items ↔ .hole h ∈ items := by
  simp only [stagedHoles, List.mem_flatMap, Stage.mem_holes]
  constructor
  · rintro ⟨s, -, -, hmem⟩
    exact hmem
  · exact fun hmem => ⟨h.stage, Stage.stage_mem_all h, rfl, hmem⟩

namespace Provides

variable {values : List (Hole × List Char)} {holes : List Hole} {max : Nat} {s : Stage}

theorem filled_fillAll (hvalues : Provides values holes max) (hclear : Clear true items)
    (hholes : ∀ h ∈ holes, .hole h ∈ items) : Filled items (fillAll values items) :=
  Sample.filled_fillAll (fun e he =>
    (hvalues.fits e he).inert (hclear.sound (hholes _ (hvalues.mem_holes he)))) items

/-- The holes that a stage leaves are those of other stages. -/
theorem stage_ne (hvalues : Provides values (s.holes items) max) {h : Hole}
    (hh : .hole h ∈ fillAll values items) : .hole h ∈ items ∧ h.stage ≠ s := by
  obtain ⟨hitem, hnot⟩ := hole_mem_fillAll.1 hh
  refine ⟨hitem, fun hstage => hnot ?_⟩
  rw [hvalues.holes_eq]
  exact Stage.mem_holes.2 ⟨hstage, hitem⟩

theorem holes_of_ne (hvalues : Provides values (s.holes items) max) {s' : Stage} (hne : s' ≠ s) :
    s'.holes (fillAll values items) = s'.holes items := by
  refine holes_fillAll fun e he heq => hne ?_
  rw [← heq]
  exact (Stage.mem_holes.1 (hvalues.mem_holes he)).1

end Provides

/-- The stages that are left draw a text for each of their holes, in their order, and put them in. -/
theorem foldlM_stages {done rest : List Stage} (max : Nat) (hordered : Stage.isOrdered done rest = true)
    (hnodup : rest.Nodup) (hclear : Clear true items) (hdone : ∀ h, .hole h ∈ items → h.stage ∉ done) :
    (rest.foldlM (fun text s => s.run max text) (textOf items) : StateM σ _) = do
      let values ← drawHoles max (rest.flatMap fun s => s.holes items)
      return textOf (fillAll values items) := by
  induction rest generalizing done items with
  | nil => simp [drawHoles, fillAll_nil]
  | cons s rest ih =>
    rw [Stage.isOrdered, Bool.and_eq_true_iff, List.all_eq_true] at hordered
    obtain ⟨hbefore, hordered⟩ := hordered
    obtain ⟨hs, hnodup⟩ := List.nodup_cons.1 hnodup
    have hready : s.Ready items := fun h hh hmem =>
      hdone h hh (by simpa using hbefore _ hmem)
    have hholes : ∀ h ∈ s.holes items, h.choice.Sound := fun h hh =>
      hclear.sound (Stage.mem_holes.1 hh).2
    have hnext : ∀ values, Provides values (s.holes items) max →
        (rest.foldlM (fun text s => s.run max text) (textOf (fillAll values items)) : StateM σ _) = do
          let others ← drawHoles max (rest.flatMap fun s => s.holes items)
          return textOf (fillAll (values ++ others) items) := by
      intro values hvalues
      have hfilled := hvalues.filled_fillAll hclear fun h hh => (Stage.mem_holes.1 hh).2
      have hleft : ∀ h, .hole h ∈ fillAll values items → h.stage ∉ s :: done := by
        intro h hh hmem
        obtain ⟨hitem, hne⟩ := hvalues.stage_ne hh
        rcases List.mem_cons.1 hmem with hstage | hstage
        · exact hne hstage
        · exact hdone h hitem hstage
      have hsame : (rest.flatMap fun s => s.holes (fillAll values items)) =
          rest.flatMap fun s => s.holes items := by
        refine List.flatMap_congr fun s' hs' => hvalues.holes_of_ne ?_
        rintro rfl
        exact hs hs'
      rw [ih hordered hnodup (hfilled.clear hclear) hleft, hsame]
      simp only [fillAll_fillAll]
    rw [List.foldlM_cons, Stage.run_textOf max hclear hready, bind_assoc, List.flatMap_cons, drawHoles_append]
    simp only [pure_bind, bind_assoc]
    exact (draws_drawHoles hholes max).bind_congr hnext

/-- Expanding a row draws a text for each of its holes, in the order of the stages, and puts it in wherever
the hole stands. -/
theorem expand_textOf (max : Nat) (hclear : Clear true items) :
    (expand max (textOf items) : StateM σ _) = do
      let values ← drawHoles max (stagedHoles items)
      return textOf (fillAll values items) := by
  have hstages : (expand max (textOf items) : StateM σ _) =
      Stage.all.foldlM (fun text s => s.run max text) (textOf items) := by
    rw [Stage.all, List.foldlM_append, List.foldlM_map, expand]
    simp only [List.foldlM_map]
    rfl
  rw [hstages]
  exact foldlM_stages max Stage.isOrdered_all Stage.nodup_all hclear fun h _ => List.not_mem_nil

end Run

/-! ## The text of a sample -/

def Item.rendered (values : List (Hole × List Char)) : Item → List Char
  | literal c => [c]
  | point => ['.']
  | hole h => (values.lookup h).getD []

section Unescape

variable {c : Char} {text rest : List Char}

theorem replaceFrom_append_done {open? : Char → Bool} {adjacent free : Bool} {mark value : List Char}
    {skip : Nat} (done : List Char) : replaceFrom open? adjacent mark value free skip text done =
      done.reverse ++ replaceFrom open? adjacent mark value free skip text [] := by
  induction text generalizing free skip done with
  | nil => simp [replaceFrom]
  | cons c text ih =>
    cases skip with
    | succ skip => rw [replaceFrom, replaceFrom, ih]
    | zero =>
      rw [replaceFrom, replaceFrom]
      split
      · rw [ih, ih (value.reverseAux [])]
        simp [List.reverseAux_eq]
      · rw [ih, ih [c]]
        simp

theorem unescapeDots_point : unescapeDots ('\\' :: '.' :: text) = '.' :: unescapeDots text := by
  unfold unescapeDots replaceAll
  rw [replaceFrom, if_pos (by simp)]
  show replaceFrom _ _ _ _ _ 1 ('.' :: text) _ = _
  rw [replaceFrom, replaceFrom_append_done]
  rfl

theorem unescapeDots_cons (h : c = '\\' → text.head? ≠ some '.') :
    unescapeDots (c :: text) = c :: unescapeDots text := by
  have hnot : ¬ ['\\', '.'] <+: c :: text := by
    intro hprefix
    obtain ⟨rfl, hdot⟩ := List.cons_prefix_cons.1 hprefix
    cases text with
    | nil => simp at hdot
    | cons d text => exact h rfl (congrArg some (List.cons_prefix_cons.1 hdot).1.symm)
  rw [← List.isPrefixOf_iff_prefix] at hnot
  unfold unescapeDots replaceAll
  rw [replaceFrom, Bool.true_and, if_neg hnot, replaceFrom_append_done]
  rfl

theorem unescapeDots_append (text : List Char) (htext : ∀ c ∈ text, isInert c = true) :
    unescapeDots (text ++ rest) = text ++ unescapeDots rest := by
  induction text with
  | nil => rfl
  | cons c text ih =>
    obtain ⟨hc, htext⟩ := List.forall_mem_cons.1 htext
    rw [List.cons_append, unescapeDots_cons fun hback => absurd hback (ne_of_isInert (by decide) hc), ih htext]
    rfl

/-- Once every hole has a text, a sample is made of its literals, of dots and of those texts. -/
theorem unescapeDots_textOf {values : List (Hole × List Char)} {items : List Item}
    (hitems : ∀ i ∈ items, i.Sound) (hvalues : ∀ e ∈ values, ∀ c ∈ e.2, isInert c = true)
    (hfilled : ∀ h, .hole h ∈ items → (values.lookup h).isSome = true) :
    unescapeDots (textOf (fillAll values items)) = items.flatMap (Item.rendered values) := by
  induction items with
  | nil => rfl
  | cons i items ih =>
    obtain ⟨hi, hrest⟩ := List.forall_mem_cons.1 hitems
    have hrow := ih hrest fun h hh => hfilled h (List.mem_cons_of_mem _ hh)
    rw [fillAll_cons, textOf_append, List.flatMap_cons, ← hrow]
    cases i with
    | literal c => exact unescapeDots_append [c] (List.forall_mem_singleton.2 hi)
    | point => exact unescapeDots_point
    | hole h =>
      obtain ⟨value, hvalue⟩ := Option.isSome_iff_exists.1 (hfilled h List.mem_cons_self)
      rw [Item.fill, Item.rendered, hvalue, Option.elim_some, textOf_literals, Option.getD_some]
      exact unescapeDots_append value (hvalues _ (mem_of_lookup hvalue))

end Unescape

end TextPattern.Sample
