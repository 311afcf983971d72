import TextPattern.Proofs.Erasure
import TextPattern.Proofs.Meaning
import TextPattern.Syntax.Parser

/-!
# What the content of a group matches

* `partsToExprs_cons`, `partsToExprs_append` : the expressions of trees in order;
* `Level.toExpr_toTree` : the expression of a level, by its branches and the parts of the last one;
* `Level.toExpr_push` : the same with one more part;
* `toExpr_feed` : a line feed that is a part matches a line feed, whatever the flags.
-/

namespace TextPattern

namespace Expr

/-- The expression of the parts of a branch. -/
def ofParts : List Expr → Expr
  | [] => empty
  | [e] => e
  | es => concat es

/-- The expression of the branches of a level. -/
def ofLevel : List Expr → Expr
  | [e] => e
  | es => alternation es

theorem ofLevel_concat {es : List Expr} (h : es ≠ []) (e : Expr) :
    ofLevel (es ++ [e]) = alternation (es ++ [e]) := by
  rcases es with _ | ⟨f, _ | ⟨g, es⟩⟩
  · exact absurd rfl h
  · rfl
  · rfl

theorem matches_ofParts (es : List Expr) {c d : Cursor} : (ofParts es).Matches c d ↔ InTurn es c d := by
  match es with
  | [] => rfl
  | [e] => exact (inTurn_singleton e).symm
  | e :: f :: es => exact matches_concat _

theorem matches_ofLevel (es : List Expr) {c d : Cursor} :
    (ofLevel es).Matches c d ↔ ∃ e ∈ es, e.Matches c d := by
  match es with
  | [e] => simp [ofLevel]
  | [] | _ :: _ :: _ => exact matches_alternation _

theorem covers_ofLevel (es : List Expr) (text : List Char) :
    (ofLevel es).Covers text ↔ ∃ e ∈ es, e.Covers text := by
  simp only [Covers, matches_ofLevel]
  constructor
  · rintro ⟨d, ⟨e, he, hm⟩, hend⟩
    exact ⟨e, he, d, hm, hend⟩
  · rintro ⟨e, he, d, hm, hend⟩
    exact ⟨d, ⟨e, he, hm⟩, hend⟩

theorem covers_ofParts (es : List Expr) (text : List Char) :
    (ofParts es).Covers text ↔ ∃ d, InTurn es (.ofText text) d ∧ d.rest = [] := by
  simp only [Covers, matches_ofParts]

end Expr

namespace Syntax

variable {m n : Modes}

/-! ## Parts in order -/

theorem partsToExprs_cons {part : Tree} {parts : List Tree} {es : List Expr} :
    partsToExprs m (part :: parts) = .ok (es, n) ↔
      ∃ e k fs, part.toExpr m = .ok (e, k) ∧ partsToExprs k parts = .ok (fs, n) ∧ es = e :: fs := by
  rw [partsToExprs, bind_eq_ok]
  constructor
  · rintro ⟨⟨e, k⟩, he, h⟩
    obtain ⟨⟨fs, i⟩, hfs, h⟩ := bind_eq_ok.1 h
    obtain ⟨rfl, rfl⟩ := Prod.mk.inj (Except.ok.inj h)
    exact ⟨e, k, fs, he, hfs, rfl⟩
  · rintro ⟨e, k, fs, he, hfs, rfl⟩
    exact ⟨(e, k), he, bind_eq_ok.2 ⟨(fs, n), hfs, rfl⟩⟩

theorem partsToExprs_append {parts more : List Tree} {es : List Expr} :
    partsToExprs m (parts ++ more) = .ok (es, n) ↔
      ∃ fs k gs, partsToExprs m parts = .ok (fs, k) ∧ partsToExprs k more = .ok (gs, n) ∧
        es = fs ++ gs := by
  induction parts generalizing m es with
  | nil =>
    constructor
    · exact fun h => ⟨[], m, es, rfl, h, rfl⟩
    · rintro ⟨_, _, gs, heq, h, rfl⟩
      obtain ⟨rfl, rfl⟩ := Prod.mk.inj (Except.ok.inj heq)
      exact h
  | cons part parts ih =>
    simp only [List.cons_append, partsToExprs_cons, ih]
    constructor
    · rintro ⟨e, k, _, he, ⟨fs, l, gs, hfs, hgs, rfl⟩, rfl⟩
      exact ⟨e :: fs, l, gs, ⟨e, k, fs, he, hfs, rfl⟩, hgs, rfl⟩
    · rintro ⟨_, l, gs, ⟨e, k, fs, he, hfs, rfl⟩, hgs, rfl⟩
      exact ⟨e, k, fs ++ gs, he, ⟨fs, l, gs, hfs, hgs, rfl⟩, rfl⟩

theorem partsToExprs_singleton {part : Tree} {es : List Expr} :
    partsToExprs m [part] = .ok (es, n) ↔ ∃ e, part.toExpr m = .ok (e, n) ∧ es = [e] := by
  rw [partsToExprs_cons]
  constructor
  · rintro ⟨e, k, fs, he, heq, rfl⟩
    obtain ⟨rfl, rfl⟩ := Prod.mk.inj (Except.ok.inj heq)
    exact ⟨e, he, rfl⟩
  · rintro ⟨e, he, rfl⟩
    exact ⟨e, n, [], he, rfl, rfl⟩

theorem length_partsToExprs {parts : List Tree} {es : List Expr} (h : partsToExprs m parts = .ok (es, n)) :
    es.length = parts.length := by
  induction parts generalizing m es with
  | nil =>
    obtain ⟨rfl, -⟩ := Prod.mk.inj (Except.ok.inj h)
    rfl
  | cons part parts ih =>
    obtain ⟨e, k, fs, -, hfs, rfl⟩ := partsToExprs_cons.1 h
    rw [List.length_cons, List.length_cons, ih hfs]

theorem toExpr_concat {span : Span} {parts : List Tree} {e : Expr} :
    (Tree.concat span parts).toExpr m = .ok (e, n) ↔
      ∃ es, partsToExprs m parts = .ok (es, n) ∧ e = .concat es := by
  rw [Tree.toExpr, bind_eq_ok]
  constructor
  · rintro ⟨⟨es, k⟩, hes, h⟩
    obtain ⟨rfl, rfl⟩ := Prod.mk.inj (Except.ok.inj h)
    exact ⟨es, hes, rfl⟩
  · rintro ⟨es, hes, rfl⟩
    exact ⟨(es, n), hes, rfl⟩

theorem toExpr_alternation {span : Span} {branches : List Tree} {e : Expr} :
    (Tree.alternation span branches).toExpr m = .ok (e, n) ↔
      ∃ es, partsToExprs m branches = .ok (es, n) ∧ e = .alternation es := by
  rw [Tree.toExpr, bind_eq_ok]
  constructor
  · rintro ⟨⟨es, k⟩, hes, h⟩
    obtain ⟨rfl, rfl⟩ := Prod.mk.inj (Except.ok.inj h)
    exact ⟨es, hes, rfl⟩
  · rintro ⟨es, hes, rfl⟩
    exact ⟨(es, n), hes, rfl⟩

/-! ## Levels -/

namespace Level

variable {l : Level} {stop : Position} {e : Expr}

theorem toExpr_branch : (l.branch stop).toExpr m = .ok (e, n) ↔
    ∃ fs, partsToExprs m l.parts.reverse = .ok (fs, n) ∧ e = .ofParts fs := by
  unfold branch
  rcases l.parts with _ | ⟨part, _ | ⟨b, parts⟩⟩
  · constructor
    · intro h
      obtain ⟨rfl, rfl⟩ := Prod.mk.inj (Except.ok.inj h)
      exact ⟨[], rfl, rfl⟩
    · rintro ⟨fs, heq, rfl⟩
      obtain ⟨rfl, rfl⟩ := Prod.mk.inj (Except.ok.inj heq)
      rfl
  · simp only [List.reverse_singleton, partsToExprs_singleton]
    constructor
    · exact fun h => ⟨[e], ⟨e, h, rfl⟩, rfl⟩
    · rintro ⟨_, ⟨f, hf, rfl⟩, rfl⟩
      exact hf
  · rw [toExpr_concat]
    refine exists_congr fun fs => and_congr_right fun h => ?_
    have hlen := length_partsToExprs h
    rw [List.length_reverse] at hlen
    rcases fs with _ | ⟨f, _ | ⟨g, fs⟩⟩
    · simp at hlen
    · simp at hlen
    · rfl

theorem toExpr_toTree : (l.toTree stop).toExpr m = .ok (e, n) ↔
    ∃ es k fs, partsToExprs m l.done.reverse = .ok (es, k) ∧
      partsToExprs k l.parts.reverse = .ok (fs, n) ∧ e = .ofLevel (es ++ [.ofParts fs]) := by
  unfold toTree
  rcases l.done with _ | ⟨a, done⟩
  · rw [toExpr_branch]
    constructor
    · rintro ⟨fs, hfs, rfl⟩
      exact ⟨[], m, fs, rfl, hfs, rfl⟩
    · rintro ⟨es, k, fs, heq, hfs, rfl⟩
      obtain ⟨rfl, rfl⟩ := Prod.mk.inj (Except.ok.inj heq)
      exact ⟨fs, hfs, rfl⟩
  · have hmany : ∀ {es : List Expr} {k : Modes}, partsToExprs m (a :: done).reverse = .ok (es, k) →
        es ≠ [] := by
      rintro _ k hes rfl
      have hlen := length_partsToExprs hes
      simp at hlen
    rw [toExpr_alternation, List.reverse_cons]
    simp only [partsToExprs_append, partsToExprs_singleton, toExpr_branch]
    constructor
    · rintro ⟨_, ⟨es, k, _, hes, ⟨_, ⟨fs, hfs, rfl⟩, rfl⟩, rfl⟩, rfl⟩
      exact ⟨es, k, fs, hes, hfs, (Expr.ofLevel_concat (hmany hes) _).symm⟩
    · rintro ⟨es, k, fs, hes, hfs, rfl⟩
      exact ⟨es ++ [.ofParts fs], ⟨es, k, _, hes, ⟨_, ⟨fs, hfs, rfl⟩, rfl⟩, rfl⟩,
        Expr.ofLevel_concat (hmany hes) _⟩

theorem toExpr_push {part : Tree} : ((l.push part).toTree stop).toExpr m = .ok (e, n) ↔
    ∃ es k fs i f, partsToExprs m l.done.reverse = .ok (es, k) ∧
      partsToExprs k l.parts.reverse = .ok (fs, i) ∧ part.toExpr i = .ok (f, n) ∧
      e = .ofLevel (es ++ [.ofParts (fs ++ [f])]) := by
  rw [toExpr_toTree]
  simp only [push, List.reverse_cons, partsToExprs_append, partsToExprs_singleton]
  constructor
  · rintro ⟨es, k, _, hes, ⟨fs, i, _, hfs, ⟨f, hf, rfl⟩, rfl⟩, rfl⟩
    exact ⟨es, k, fs, i, f, hes, hfs, hf, rfl⟩
  · rintro ⟨es, k, fs, i, f, hes, hfs, hf, rfl⟩
    exact ⟨es, k, fs ++ [f], hes, ⟨fs, i, [f], hfs, ⟨f, hf, rfl⟩, rfl⟩, rfl⟩

end Level

/-! ## Line feeds -/

theorem caseVariants_feed : Unicode.caseVariants '\n' = [] := by decide +kernel

theorem foldAsciiCase_feed : (CharSet.single '\n').foldAsciiCase = .single '\n' := by decide +kernel

/-- A line feed that is a part matches a line feed, whatever the flags. -/
theorem toExpr_feed (span : Span) (m : Modes) :
    (Tree.literal ⟨span, '\n', false⟩).toExpr m = .ok (.chars (.single '\n'), m) := by
  have hscalar : (Literal.mk span '\n' false).scalar m = .ok '\n' := by
    simp [Literal.scalar]
  have hliteral : (Literal.mk span '\n' false).toExpr m = .ok (.chars (.single '\n')) := by
    unfold Literal.toExpr
    rw [hscalar]
    cases hcase : m.ignoreCase with
    | false => rfl
    | true =>
      cases hunicode : m.unicode with
      | true => simp [caseVariants_feed, bind, Except.bind]
      | false => simp [foldAsciiCase_feed, bind, Except.bind]
  rw [Tree.toExpr, hliteral]
  rfl

end Syntax

end TextPattern
