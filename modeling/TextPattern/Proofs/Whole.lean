import Mathlib.Algebra.Group.Action.Defs
import Mathlib.Algebra.Order.BigOperators.Group.List
import Mathlib.Algebra.Order.Ring.Nat
import TextPattern.Extract
import TextPattern.Proofs.Level
import TextPattern.Proofs.Longer.Whole
import TextPattern.Proofs.Search

/-!
# Matching the whole of an input

* `Expr.whole` : an expression between the ends of the text, `occursIn_whole` : it occurs in the texts that
  the expression covers;
* `cost_le`, `stateSize_whole_le` : the cost is that of the states, to which the ends of the text add little;
* `compileText_eq_ok` : a text compiles if it reads, nests within the limit and costs within the limit;
* `compileText_of_whole`, `eq_whole_of_compileText` : the whole text of a pattern compiles to the pattern
  between the ends of the text;
* `Options.endsInComment`, `Options.endsExtended` : how a pattern text ends;
* `Pattern.matchesWhole_isOk_iff`, `Pattern.matchesWhole_iff_covers`, `Pattern.matchesWhole_of_comments` :
  when a pattern can be asked for a match of the whole, and what the answer says.
-/

namespace TextPattern

open Syntax

/-! ## Between the ends of the text -/

namespace Expr

/-- The expression between the ends of the text. -/
def whole (e : Expr) : Expr := concat [look .textStart, e, look .textEnd]

theorem holds_textStart {pre post : List Char} :
    Look.holds .textStart (.between pre post) = true ↔ pre = [] := by
  simp [Look.holds, Cursor.between]

theorem occursIn_whole (e : Expr) (text : List Char) :
    e.whole.program.occursIn text = true ↔ e.Covers text := by
  simp only [occursIn_program, whole, matches_concat, InTurn, Matches]
  constructor
  · rintro ⟨pre, post, htext, d, _, ⟨rfl, hstart⟩, m, he, _, ⟨rfl, hend⟩, rfl⟩
    obtain rfl := holds_textStart.1 hstart
    obtain rfl : text = post := htext
    exact ⟨_, he, by simpa [Look.holds] using hend⟩
  · rintro ⟨d, he, hend⟩
    refine ⟨[], text, rfl, d, _, ⟨rfl, holds_textStart.2 rfl⟩, d, he, d, ⟨rfl, ?_⟩, rfl⟩
    simp [Look.holds, hend]

/-! ### Costs -/

theorem automatonSize_le (backwards : Bool) (e : Expr) :
    e.automatonSize backwards ≤ e.stateSize backwards false + 208 := by
  unfold automatonSize
  split <;> split <;> omega

theorem cost_le {e : Expr} {n : Nat} (h : ∀ backwards, e.stateSize backwards false ≤ n) : e.cost ≤ n + 208 := by
  have hforwards := automatonSize_le false e
  have hbackwards := automatonSize_le true e
  have hn := h false
  have hn' := h true
  rw [cost, Nat.max_le]
  omega

variable (backwards : Bool)

theorem stateSize_ofFactors_le (es : List Expr) :
    (ofFactors es).stateSize backwards false ≤ (es.map (stateSize backwards false)).sum + 32 := by
  match es with
  | [] => exact Nat.le_refl 32
  | [e] =>
    change e.stateSize backwards false ≤ e.stateSize backwards false + 0 + 32
    omega
  | e :: f :: es =>
    have ih := stateSize_ofFactors_le (f :: es)
    simp only [ofFactors, stateSize, List.map_cons, List.sum_cons] at ih ⊢
    omega

theorem sum_stateSize_factors_le (e : Expr) :
    (e.factors.map (stateSize backwards false)).sum ≤ e.stateSize backwards false := by
  induction e with
  | empty => exact Nat.zero_le _
  | cat a b _ ihb =>
    simp only [factors, stateSize, List.map_cons, List.sum_cons]
    omega
  | chars _ | look _ | alt _ _ _ _ | rep _ _ _ _ | group _ _ _ => simp [factors]

/-- A concatenation takes little more than its operands. -/
theorem stateSize_concat_le (es : List Expr) :
    (concat es).stateSize backwards false ≤ (es.map (stateSize backwards false)).sum + 32 := by
  have hfactors : ((es.flatMap factors).map (stateSize backwards false)).sum ≤ (es.map (stateSize backwards false)).sum := by
    induction es with
    | nil => exact Nat.le_refl 0
    | cons e es ih =>
      have := e.sum_stateSize_factors_le backwards
      simp only [List.flatMap_cons, List.map_append, List.sum_append, List.map_cons, List.sum_cons]
      omega
  have := stateSize_ofFactors_le backwards (es.flatMap factors)
  rw [concat]
  omega

theorem stateSize_ofParts_le (es : List Expr) :
    (ofParts es).stateSize backwards false ≤ (es.map (stateSize backwards false)).sum + 32 := by
  match es with
  | [] => exact Nat.le_refl 32
  | [e] =>
    change e.stateSize backwards false ≤ e.stateSize backwards false + 0 + 32
    omega
  | e :: f :: es => exact stateSize_concat_le _ _

theorem stateSize_whole_le (e : Expr) : e.whole.stateSize backwards false ≤ e.stateSize backwards false + 96 := by
  have := stateSize_concat_le backwards [look .textStart, e, look .textEnd]
  simp only [List.map_cons, List.sum_cons, List.map_nil, List.sum_nil, stateSize] at this
  rw [whole]
  omega

end Expr

namespace Syntax

theorem depth_whole (t : Tree) : t.whole.depth = t.depth + 2 := by
  simp [Tree.whole, Tree.depth, partsDepth]

theorem toExpr_whole {t : Tree} {m k : Modes} {w : Expr} :
    t.whole.toExpr m = .ok (w, k) ↔ ∃ e n, t.toExpr m = .ok (e, n) ∧ w = e.whole ∧ k = m := by
  have hgroup : ∀ {m : Modes} {e : Expr} {n : Modes},
      (Tree.group .blank (.plain []) t).toExpr m = .ok (e, n) ↔
        (∃ n, t.toExpr m = .ok (e, n)) ∧ n = m := by
    intro m e n
    rw [Tree.toExpr, bind_eq_ok]
    constructor
    · rintro ⟨⟨f, i⟩, hf, h⟩
      obtain ⟨rfl, rfl⟩ := Prod.mk.inj (Except.ok.inj h)
      exact ⟨⟨i, hf⟩, rfl⟩
    · rintro ⟨⟨i, he⟩, rfl⟩
      exact ⟨(e, i), he, rfl⟩
  simp only [Tree.whole, toExpr_concat, partsToExprs_cons, hgroup]
  constructor
  · rintro ⟨_, ⟨_, _, _, hstart, ⟨e, _, _, ⟨⟨n, he⟩, rfl⟩, ⟨_, _, _, hend, hnil, rfl⟩, rfl⟩, rfl⟩, rfl⟩
    obtain ⟨rfl, rfl⟩ := Prod.mk.inj (Except.ok.inj hstart)
    obtain ⟨rfl, rfl⟩ := Prod.mk.inj (Except.ok.inj hend)
    obtain ⟨rfl, rfl⟩ := Prod.mk.inj (Except.ok.inj hnil)
    exact ⟨e, n, he, rfl, rfl⟩
  · rintro ⟨e, n, he, rfl, rfl⟩
    exact ⟨_, ⟨_, _, _, rfl, ⟨e, _, _, ⟨⟨n, he⟩, rfl⟩, ⟨_, _, _, rfl, rfl, rfl⟩, rfl⟩, rfl⟩, rfl⟩

theorem finish_eq_ok {m : Machine} {tree : Tree} : m.finish = .ok tree ↔
    m.groups = [] ∧ tree = m.level.toTree m.reader.skipBlanks.pos := by
  unfold Machine.finish
  cases m.groups with
  | nil => simp [eq_comm]
  | cons g groups => simp [fail]

/-! ## Compiled texts -/

theorem parse_eq_ok {text : List Char} {extended : Bool} {tree : Tree} : parse text extended = .ok tree ↔
    ∃ last, readItems text extended = .ok last ∧ last.finish = .ok tree ∧ tree.depth ≤ nestLimit := by
  simp only [parse, bind_eq_ok]
  constructor
  · rintro ⟨last, hlast, t, hfinish, u, hcheck, h⟩
    obtain rfl := Except.ok.inj h
    refine ⟨last, hlast, hfinish, ?_⟩
    simpa using (t.checkDepth_eq_ok (Nat.zero_le _)).1 hcheck
  · rintro ⟨last, hlast, hfinish, hdepth⟩
    exact ⟨last, hlast, tree, hfinish, (), (tree.checkDepth_eq_ok (Nat.zero_le _)).2 (by simpa using hdepth),
      rfl⟩

end Syntax

variable {modes : Modes} {extended : Bool} {text : List Char} {e w : Expr}

theorem compileText_of_parse {tree : Tree} {n : Modes} (hparse : parse text extended = .ok tree)
    (he : tree.toExpr modes = .ok (e, n)) :
    compileText modes extended text = if e.cost ≤ costLimit then .ok e else .error (.tooLarge costLimit) := by
  simp only [compileText, hparse, he]

theorem compileText_of_size {tree : Tree} {n : Modes} (hparse : parse text extended = .ok tree)
    (he : tree.toExpr modes = .ok (e, n))
    (hsize : ∀ limit, compileText modes extended text ≠ .error (.tooLarge limit)) :
    compileText modes extended text = .ok e := by
  have heq := compileText_of_parse hparse he
  rw [heq] at hsize ⊢
  by_cases hcost : e.cost ≤ costLimit
  · rw [if_pos hcost]
  · rw [if_neg hcost] at hsize
    exact absurd rfl (hsize costLimit)

theorem compileText_eq_ok : compileText modes extended text = .ok e ↔
    ∃ tree n, parse text extended = .ok tree ∧ tree.toExpr modes = .ok (e, n) ∧ e.cost ≤ costLimit := by
  constructor
  · intro h
    unfold compileText at h
    split at h
    · cases h
    · next tree hparse =>
      split at h
      · cases h
      · next f n hf =>
        split at h
        · next hcost =>
          obtain rfl := Except.ok.inj h
          exact ⟨tree, n, hparse, hf, hcost⟩
        · cases h
  · rintro ⟨tree, n, hparse, he, hcost⟩
    rw [compileText_of_parse hparse he, if_pos hcost]

theorem exists_of_compileText (h : compileText modes extended text = .ok e) :
    ∃ last n, readItems text extended = .ok last ∧ last.groups = [] ∧
      (last.level.toTree .first).toExpr modes = .ok (e, n) := by
  obtain ⟨tree, n, hparse, he, -⟩ := compileText_eq_ok.1 h
  obtain ⟨last, hread, hfinish, -⟩ := parse_eq_ok.1 hparse
  obtain ⟨hgroups, rfl⟩ := finish_eq_ok.1 hfinish
  exact ⟨last, n, hread, hgroups, Tree.toExpr_of_erase (Level.erase_toTree rfl _ _) he⟩

/-! ## Whole texts -/

section Whole

variable {last : Machine} {tree t : Tree}

/-- A text that reads as a tree between the ends of the text compiles to its expression between them. -/
theorem compileText_of_whole (hread : readItems text extended = .ok last)
    (hfinish : last.finish = .ok tree) (hwhole : tree.erase = t.whole.erase) :
    compileText modes extended text = .ok w ↔
      ∃ e n, t.toExpr modes = .ok (e, n) ∧ t.depth + 2 ≤ nestLimit ∧ w = e.whole ∧ w.cost ≤ costLimit := by
  have hdepth : tree.depth = t.depth + 2 := by rw [Tree.depth_of_erase hwhole, depth_whole]
  rw [compileText_eq_ok]
  constructor
  · rintro ⟨tree', k, hparse, hw, hcost⟩
    obtain ⟨last', hread', hfinish', hlimit⟩ := parse_eq_ok.1 hparse
    obtain rfl := Except.ok.inj (hread.symm.trans hread')
    obtain rfl := Except.ok.inj (hfinish.symm.trans hfinish')
    obtain ⟨e, n, he, rfl, -⟩ := toExpr_whole.1 (Tree.toExpr_of_erase hwhole hw)
    exact ⟨e, n, he, by omega, rfl, hcost⟩
  · rintro ⟨e, n, he, hlimit, rfl, hcost⟩
    exact ⟨tree, modes, parse_eq_ok.2 ⟨last, hread, hfinish, by omega⟩,
      Tree.toExpr_of_erase hwhole.symm (toExpr_whole.2 ⟨e, n, he, rfl, rfl⟩), hcost⟩

theorem exists_compileText_of_whole (hread : readItems text extended = .ok last)
    (hfinish : last.finish = .ok tree) (hwhole : tree.erase = t.whole.erase) {n : Modes}
    (he : t.toExpr modes = .ok (e, n)) (hdepth : t.depth + 2 ≤ nestLimit)
    (hsize : ∀ limit, compileText modes extended text ≠ .error (.tooLarge limit)) :
    compileText modes extended text = .ok e.whole := by
  have hparse : parse text extended = .ok tree :=
    parse_eq_ok.2 ⟨last, hread, hfinish, by rw [Tree.depth_of_erase hwhole, depth_whole]; exact hdepth⟩
  exact compileText_of_size hparse (Tree.toExpr_of_erase hwhole.symm (toExpr_whole.2 ⟨e, n, he, rfl, rfl⟩))
    hsize

/-- A comment that is open at the end of a text keeps the whole text from compiling. -/
theorem compileText_ne_ok_of_comment (hread : readItems text extended = .ok last)
    (hopen : last.endsInComment = true) :
    compileText modes extended ("\\A(?:".toList ++ (text ++ ")\\z".toList)) ≠ .ok w := by
  intro hw
  obtain ⟨whole, fault, hwhole, hfault⟩ := finish_whole_of_comment hread hopen
  obtain ⟨tree, k, hparse, -⟩ := compileText_eq_ok.1 hw
  obtain ⟨whole', hwhole', hfinish, -⟩ := parse_eq_ok.1 hparse
  obtain rfl := Except.ok.inj (hwhole.symm.trans hwhole')
  rw [hfault] at hfinish
  cases hfinish

/-- The whole text of a text that ends in no comment compiles to its expression between the ends. -/
theorem eq_whole_of_compileText (h : compileText modes extended text = .ok e)
    (hw : compileText modes extended ("\\A(?:".toList ++ (text ++ ")\\z".toList)) = .ok w) : w = e.whole := by
  obtain ⟨last, n, hread, hgroups, he⟩ := exists_of_compileText h
  cases hopen : last.endsInComment with
  | true => exact absurd hw (compileText_ne_ok_of_comment hread hopen)
  | false =>
    obtain ⟨whole, tree, hwhole, hfinish, htree⟩ := finish_whole hread hgroups hopen
    obtain ⟨f, k, hf, -, rfl, -⟩ := (compileText_of_whole hwhole hfinish htree).1 hw
    obtain ⟨rfl, -⟩ := Prod.mk.inj (Except.ok.inj (he.symm.trans hf))
    rfl

theorem exists_toExpr_fedLevel {n : Modes} (he : (last.level.toTree .first).toExpr modes = .ok (e, n)) :
    ∃ f k, (last.fedLevel.toTree .first).toExpr modes = .ok (f, k) := by
  unfold Machine.fedLevel
  split
  · exact ⟨e, n, he⟩
  · obtain ⟨es, k, fs, hes, hfs, -⟩ := Level.toExpr_toTree.1 he
    exact ⟨_, n, Level.toExpr_push.2 ⟨es, k, fs, n, _, hes, hfs, toExpr_feed _ n, rfl⟩⟩

/-- A level with a line feed behind it covers what its earlier branches cover and, with a line feed at the
end, what its last branch matches. -/
theorem covers_push_feed {l : Level} {span : Span} {stop : Position} {n : Modes}
    (h : ((l.push (.literal ⟨span, '\n', false⟩)).toTree stop).toExpr modes = .ok (e, n)) :
    ∃ es k fs, partsToExprs modes l.done.reverse = .ok (es, k) ∧
      partsToExprs k l.parts.reverse = .ok (fs, n) ∧
      ∀ input, e.Covers input ↔
        (∃ f ∈ es, f.Covers input) ∨ ∃ d, Expr.InTurn fs (.ofText input) d ∧ d.rest = ['\n'] := by
  obtain ⟨es, k, fs, i, f, hes, hfs, hf, rfl⟩ := Level.toExpr_push.1 h
  obtain ⟨rfl, rfl⟩ := Prod.mk.inj (Except.ok.inj ((toExpr_feed span i).symm.trans hf))
  refine ⟨es, k, fs, hes, hfs, fun input => ?_⟩
  have hlast : (∃ d, Expr.InTurn (fs ++ [.chars (.single '\n')]) (.ofText input) d ∧ d.rest = []) ↔
      ∃ d, Expr.InTurn fs (.ofText input) d ∧ d.rest = ['\n'] := by
    simp only [Expr.inTurn_append, Expr.inTurn_singleton, Expr.Matches, CharSet.contains_single,
      decide_eq_true_eq]
    constructor
    · rintro ⟨d, ⟨m, hm, a, hnext, rfl⟩, hend⟩
      obtain ⟨rest, hrest, rfl⟩ := Cursor.next?_eq_some.1 hnext
      obtain rfl : rest = [] := hend
      exact ⟨m, hm, hrest⟩
    · rintro ⟨m, hm, hrest⟩
      exact ⟨_, ⟨m, hm, '\n', Cursor.next?_eq_some.2 ⟨[], hrest, rfl⟩, rfl⟩, rfl⟩
  rw [← hlast, ← Expr.covers_ofParts, Expr.covers_ofLevel]
  simp only [List.mem_append, List.mem_singleton, or_and_right, exists_or, exists_eq_left]

theorem depth_push_feed (l : Level) (span : Span) (stop : Position) :
    ((l.push (.literal ⟨span, '\n', false⟩)).toTree stop).depth ≤ (l.toTree stop).depth + 1 := by
  have hparts : ∀ ps qs : List Tree, partsDepth (ps ++ qs) = max (partsDepth ps) (partsDepth qs) := by
    intro ps qs
    induction ps with
    | nil => simp [partsDepth]
    | cons p ps ih => simp only [List.cons_append, partsDepth, ih, Nat.max_assoc]
  have hbranch : ((l.push (.literal ⟨span, '\n', false⟩)).branch stop).depth ≤ (l.branch stop).depth + 1 := by
    unfold Level.branch Level.push
    match l.parts with
    | [] => simp [Tree.depth]
    | [part] => simp [Tree.depth, partsDepth]
    | a :: b :: parts => simp [Tree.depth, partsDepth, hparts]
  unfold Level.toTree
  match hdone : l.done with
  | [] =>
    exact hbranch
  | a :: done =>
    simp only [Tree.depth, List.reverse_cons, hparts, partsDepth]
    omega

theorem depth_fedLevel_le (last : Machine) :
    (last.fedLevel.toTree .first).depth ≤ (last.level.toTree .first).depth + 1 := by
  unfold Machine.fedLevel
  split
  · exact Nat.le_succ _
  · exact depth_push_feed _ _ _

end Whole

/-! ## Patterns -/

namespace Options

/-- The pattern text, as it is compiled, ends in a comment that is still open. -/
def endsInComment (o : Options) (source : List Char) : Bool :=
  match readItems (o.effectiveSource source) o.active.comments with
  | .ok last => last.endsInComment
  | .error _ => false

/-- Blanks are ignored where the pattern text, as it is compiled, ends. -/
def endsExtended (o : Options) (source : List Char) : Bool :=
  match readItems (o.effectiveSource source) o.active.comments with
  | .ok last => last.reader.extended
  | .error _ => false

/-- A branch of the pattern before its last bar covers the text, or the parts of the branch behind it match
the text up to a line feed at its end. -/
def CoversFed (o : Options) (source text : List Char) : Prop :=
  ∃ last es k fs n, readItems (o.effectiveSource source) o.active.comments = .ok last ∧
    partsToExprs o.modes last.level.done.reverse = .ok (es, k) ∧
    partsToExprs k last.level.parts.reverse = .ok (fs, n) ∧
    ((∃ e ∈ es, e.Covers text) ∨ ∃ d, Expr.InTurn fs (.ofText text) d ∧ d.rest = ['\n'])

theorem wholeSource_of_not_comments {o : Options} (ho : o.active.comments = false) (source : List Char) :
    o.wholeSource source = "\\A(?:".toList ++ (o.effectiveSource source ++ ")\\z".toList) := by
  change "\\A(?:".toList ++ o.effectiveSource source ++ (if o.active.comments then ['\n'] else []) ++ _ = _
  rw [ho, if_neg Bool.false_ne_true, List.append_nil, List.append_assoc]

theorem wholeSource_of_comments {o : Options} (ho : o.active.comments = true) (source : List Char) :
    o.wholeSource source = "\\A(?:".toList ++ (o.effectiveSource source ++ '\n' :: ")\\z".toList) := by
  change "\\A(?:".toList ++ o.effectiveSource source ++ (if o.active.comments then ['\n'] else []) ++ _ = _
  rw [ho, if_pos rfl, List.append_assoc, List.append_assoc, List.singleton_append]

/-- Within the limits, the whole text of a text that compiles does too, unless an open comment at its end
takes in what is put behind it. -/
theorem isOk_compile_wholeSource {o : Options} {source : List Char} {tree : Tree}
    (he : o.compile (o.effectiveSource source) = .ok e)
    (htree : parse (o.effectiveSource source) o.active.comments = .ok tree)
    (hdepth : tree.depth + 3 ≤ nestLimit)
    (hsize : ∀ limit, o.compile (o.wholeSource source) ≠ .error (.tooLarge limit)) :
    (o.compile (o.wholeSource source)).isOk = true ↔
      ¬ (o.active.comments = false ∧ o.endsInComment source = true) := by
  obtain ⟨last, hread, hfinish, -⟩ := parse_eq_ok.1 htree
  obtain ⟨hgroups, rfl⟩ := finish_eq_ok.1 hfinish
  obtain ⟨last', n, hread', -, hlast⟩ := exists_of_compileText he
  obtain rfl := Except.ok.inj (hread.symm.trans hread')
  have hdepth' : (last.level.toTree .first).depth + 3 ≤ nestLimit := by
    rwa [Tree.depth_of_erase (Level.erase_toTree rfl .first last.reader.skipBlanks.pos)]
  have hends : o.endsInComment source = last.endsInComment := by
    rw [Options.endsInComment, hread]
  rw [hends]
  unfold Options.compile at hsize ⊢
  cases ho : o.active.comments with
  | false =>
    rw [Options.wholeSource_of_not_comments ho, ho] at hsize
    rw [Options.wholeSource_of_not_comments ho]
    rw [ho] at hread
    cases hopen : last.endsInComment with
    | true =>
      refine ⟨fun hok => ?_, fun h => absurd ⟨rfl, rfl⟩ h⟩
      cases hw : compileText o.modes false
          ("\\A(?:".toList ++ (o.effectiveSource source ++ ")\\z".toList)) with
      | ok w => exact absurd hw (compileText_ne_ok_of_comment hread hopen)
      | error cause =>
        rw [hw] at hok
        cases hok
    | false =>
      obtain ⟨whole, tree, hwhole, hfinish, hwholeTree⟩ := finish_whole hread hgroups hopen
      rw [exists_compileText_of_whole hwhole hfinish hwholeTree hlast (by omega) hsize]
      exact ⟨fun _ => by simp, fun _ => rfl⟩
  | true =>
    rw [Options.wholeSource_of_comments ho, ho] at hsize
    rw [Options.wholeSource_of_comments ho]
    rw [ho] at hread
    obtain ⟨whole, tree, hwhole, hfinish, hwholeTree⟩ := finish_whole_fed hread hgroups
    obtain ⟨f, k, hf⟩ := exists_toExpr_fedLevel hlast
    have hfed := depth_fedLevel_le last
    rw [exists_compileText_of_whole hwhole hfinish hwholeTree hf (by omega) hsize]
    exact ⟨fun _ => by simp, fun _ => rfl⟩

end Options

namespace Pattern

variable {source : String} {o : Options} {p : Pattern}

theorem compile_eq_ok : compile source o = .ok p ↔
    ∃ e, o.compile (o.effectiveSource source.toList) = .ok e ∧ p = ⟨source, o, e, e.program⟩ := by
  unfold compile
  cases o.compile (o.effectiveSource source.toList) with
  | ok e => simp [eq_comm]
  | error cause => simp

theorem compile_of_expr {e : Expr} (h : (o.compile (o.effectiveSource source.toList)).toOption = some e) :
    compile source o = .ok ⟨source, o, e, e.program⟩ :=
  compile_eq_ok.2 ⟨e, toOption_eq_some.1 h, rfl⟩

theorem matchesWhole_eq_ok {input : String} {b : Bool} : p.matchesWhole input = .ok b ↔
    ∃ w, p.options.compile (p.options.wholeSource p.source.toList) = .ok w ∧
      b = w.program.occursIn input.toList := by
  unfold matchesWhole
  cases p.options.compile (p.options.wholeSource p.source.toList) with
  | ok w => simp [eq_comm]
  | error cause => simp

theorem exists_of_matchesWhole {input : String} {b : Bool}
    (h : ((compile source o).bind fun p => p.matchesWhole input).toOption = some b) :
    ∃ p, compile source o = .ok p ∧ p.matchesWhole input = .ok b := by
  cases hp : compile source o with
  | error cause => simp [hp, Except.bind] at h
  | ok p =>
    refine ⟨p, rfl, ?_⟩
    rw [hp] at h
    exact toOption_eq_some.1 h

/-- Without comments a pattern matches the whole of the inputs that its own expression covers. -/
theorem matchesWhole_iff_covers (hp : compile source o = .ok p) (ho : o.active.comments = false)
    {input : String} {b : Bool} (hb : p.matchesWhole input = .ok b) :
    b = true ↔ p.expr.Covers input.toList := by
  obtain ⟨e, he, rfl⟩ := compile_eq_ok.1 hp
  obtain ⟨w, hw, rfl⟩ := matchesWhole_eq_ok.1 hb
  rw [Options.wholeSource_of_not_comments ho] at hw
  obtain rfl := eq_whole_of_compileText he hw
  exact Expr.occursIn_whole e input.toList

theorem covers_ab_of_matchesWhole : ∃ p, compile "a|ab" { multiLine := true } = .ok p ∧
    p.matchesWhole "ab" = .ok true ∧ p.expr.Covers "ab".toList := by
  obtain ⟨p, hp, hb⟩ := exists_of_matchesWhole
    (show ((compile "a|ab" { multiLine := true }).bind fun p => p.matchesWhole "ab").toOption = some true by
      decide +kernel)
  exact ⟨p, hp, hb, (matchesWhole_iff_covers hp rfl hb).1 rfl⟩

theorem isOk_matchesWhole (p : Pattern) (input : String) :
    (p.matchesWhole input).isOk = (p.options.compile (p.options.wholeSource p.source.toList)).isOk := by
  unfold matchesWhole
  cases p.options.compile (p.options.wholeSource p.source.toList) <;> rfl

/-- Within the limits a pattern that compiles can be asked for a match of the whole, unless its text ends
in an open comment and the option for comments is off. -/
theorem matchesWhole_isOk_iff {tree : Tree} (hp : compile source o = .ok p)
    (htree : parse (o.effectiveSource source.toList) o.active.comments = .ok tree)
    (hdepth : tree.depth + 3 ≤ nestLimit)
    (hsize : ∀ limit, o.compile (o.wholeSource source.toList) ≠ .error (.tooLarge limit)) (input : String) :
    ((p.matchesWhole input).isOk = true ↔
        ¬ (o.active.comments = false ∧ o.endsInComment source.toList = true)) ∧
      ∀ set, extract source o (-1) input = .ok set →
        ((TextPattern.matchesWhole source o input).isOk = true ↔
          ¬ (o.active.comments = false ∧ o.endsInComment source.toList = true)) := by
  obtain ⟨e, he, rfl⟩ := compile_eq_ok.1 hp
  have hwhole : ((⟨source, o, e, e.program⟩ : Pattern).matchesWhole input).isOk = true ↔
      ¬ (o.active.comments = false ∧ o.endsInComment source.toList = true) := by
    rw [isOk_matchesWhole]
    exact Options.isOk_compile_wholeSource he htree hdepth hsize
  refine ⟨hwhole, fun set hset => ?_⟩
  obtain ⟨q, hq, -⟩ := bind_eq_ok.1 hset
  obtain ⟨-, -, hcompile⟩ := bind_eq_ok.1 hq
  obtain rfl := Except.ok.inj (hcompile.symm.trans hp)
  rw [TextPattern.matchesWhole, hq, ok_bind]
  exact hwhole

theorem isOk_matchesWhole_ab : ∃ p, compile "a|b" .none = .ok p ∧ (p.matchesWhole "a").isOk = true := by
  obtain ⟨p, hp, -⟩ := exists_of_matchesWhole
    (show ((compile "a|b" .none).bind fun p => p.matchesWhole "a").toOption = some true by decide +kernel)
  have hparse : (parse (Options.none.effectiveSource "a|b".toList) Options.none.active.comments).toOption.map
      Tree.depth = some 1 := by decide +kernel
  obtain ⟨tree, htree, hdepth⟩ := Option.map_eq_some_iff.1 hparse
  rw [toOption_eq_some] at htree
  have hok : (Options.none.compile (Options.none.wholeSource "a|b".toList)).isOk = true := by decide +kernel
  have hsize : ∀ limit, Options.none.compile (Options.none.wholeSource "a|b".toList) ≠
      .error (.tooLarge limit) := by
    intro limit h
    rw [h] at hok
    cases hok
  exact ⟨p, hp, (matchesWhole_isOk_iff hp htree (by rw [hdepth]; decide) hsize "a").1.2
    (by decide +kernel)⟩

/-- The setting that ignores blanks makes the end of a text a comment, which takes in what is put behind. -/
theorem matchesWhole_error_of_comment : ∃ p, compile "(?x)a # c" .none = .ok p ∧
    (extract "(?x)a # c" .none (-1) "a").isOk = true ∧ (p.matchesWhole "a").isOk = false ∧
    (TextPattern.matchesWhole "(?x)a # c" .none "a").isOk = false := by
  have hok : (compile "(?x)a # c" .none).isOk = true := by decide +kernel
  have hnot : ((compile "(?x)a # c" .none).bind fun p => p.matchesWhole "a").isOk = false := by
    decide +kernel
  cases hp : compile "(?x)a # c" .none with
  | error cause =>
    rw [hp] at hok
    cases hok
  | ok p =>
    rw [hp] at hnot
    exact ⟨p, rfl, by decide +kernel, hnot, by decide +kernel⟩

/-- With the option for comments a pattern matches the whole of the inputs that its own expression covers
where blanks are ignored at its end; elsewhere the line feed put behind it is part of its last branch. -/
theorem matchesWhole_of_comments (hp : compile source o = .ok p) (hcomments : o.comments = true)
    (hliteral : o.literal = false) {input : String} {b : Bool} (hb : p.matchesWhole input = .ok b) :
    (o.endsExtended source.toList = true → (b = true ↔ p.expr.Covers input.toList)) ∧
      (o.endsExtended source.toList = false → (b = true ↔ o.CoversFed source.toList input.toList)) := by
  have ho : o.active.comments = true := by simp [Options.active, hliteral, hcomments]
  obtain ⟨e, he, rfl⟩ := compile_eq_ok.1 hp
  obtain ⟨w, hw, rfl⟩ := matchesWhole_eq_ok.1 hb
  obtain ⟨last, n, hread, hgroups, hlast⟩ := exists_of_compileText he
  rw [Options.wholeSource_of_comments ho] at hw
  obtain ⟨whole, tree, hwhole, hfinish, htree⟩ := finish_whole_fed hread hgroups
  obtain ⟨f, k, hf, -, rfl, -⟩ := (compileText_of_whole hwhole hfinish htree).1 hw
  rw [Expr.occursIn_whole]
  have hends : o.endsExtended source.toList = last.reader.extended := by
    rw [Options.endsExtended, hread]
  rw [hends]
  unfold Machine.fedLevel at hf
  constructor
  · intro hext
    rw [if_pos hext, hlast] at hf
    obtain ⟨rfl, -⟩ := Prod.mk.inj (Except.ok.inj hf)
    rfl
  · intro hext
    rw [if_neg (by simp [hext])] at hf
    obtain ⟨es, i, fs, hes, hfs, hcovers⟩ := covers_push_feed hf
    rw [hcovers]
    constructor
    · exact fun h => ⟨last, es, i, fs, k, hread, hes, hfs, h⟩
    · rintro ⟨last', es', i', fs', k', hread', hes', hfs', h⟩
      obtain rfl := Except.ok.inj (hread.symm.trans hread')
      obtain ⟨rfl, rfl⟩ := Prod.mk.inj (Except.ok.inj (hes.symm.trans hes'))
      obtain ⟨rfl, -⟩ := Prod.mk.inj (Except.ok.inj (hfs.symm.trans hfs'))
      exact h

theorem covers_a_of_comments : ∃ p, compile "a # c" { comments := true } = .ok p ∧
    p.matchesWhole "a" = .ok true ∧ p.expr.Covers "a".toList := by
  obtain ⟨p, hp, hb⟩ := exists_of_matchesWhole
    (show ((compile "a # c" { comments := true }).bind fun p => p.matchesWhole "a").toOption = some true by
      decide +kernel)
  exact ⟨p, hp, hb, ((matchesWhole_of_comments hp rfl rfl hb).1 (by decide +kernel)).1 rfl⟩

/-- Where a setting ends the ignoring of blanks, the line feed put behind a pattern has to be matched. -/
theorem matchesWhole_false_of_feed : ∃ p, compile "(?-x)a" { comments := true } = .ok p ∧
    p.matchesWhole "a" = .ok false ∧ p.expr.Covers "a".toList := by
  obtain ⟨p, hp, hb⟩ := exists_of_matchesWhole
    (show ((compile "(?-x)a" { comments := true }).bind fun p => p.matchesWhole "a").toOption = some false by
      decide +kernel)
  refine ⟨p, hp, hb, (Expr.occursIn_whole _ _).1 ?_⟩
  have hcovers : ((compile "(?-x)a" { comments := true }).toOption.map fun p =>
      p.expr.whole.program.occursIn "a".toList) = some true := by decide +kernel
  rw [hp] at hcovers
  exact Option.some.inj hcovers

end Pattern

end TextPattern
