import TextPattern.Proofs.Longer.Items
import TextPattern.Syntax.Bracket

/-!
# Bracket classes in a longer text

* `ClassMachine.Longer z m m'` : two class machines are alike up to places, `m'` in a text that is longer
  by `z`;
* `readClassItem_agrees`, `ClassMachine.Longer.step` : an item, and a step, goes alike in both;
* `readBracket_agrees` : so does a whole class.
-/

namespace TextPattern.Syntax

open Reader (Longer)

variable {z : List Char} {r r' : Reader}

/-! ## Levels and frames -/

def UnionLevel.erase (l : UnionLevel) : UnionLevel := ⟨.first, .first, l.items.map ClassTree.erase⟩

def ClassFrame.erase : ClassFrame → ClassFrame
  | opened outer _ negated => opened outer.erase .blank negated
  | operand op lhs => operand op lhs.erase

theorem UnionLevel.erase_eq_iff {l l' : UnionLevel} :
    l.erase = l'.erase ↔ l.items.map ClassTree.erase = l'.items.map ClassTree.erase := by
  simp [erase]

theorem UnionLevel.erase_push {l l' : UnionLevel} (h : l.erase = l'.erase) {item item' : ClassTree}
    (hitem : item.erase = item'.erase) : (l.push item).erase = (l'.push item').erase := by
  rw [erase_eq_iff] at h ⊢
  simp [push, h, hitem]

theorem UnionLevel.erase_toTree {l l' : UnionLevel} (h : l.erase = l'.erase) :
    l.toTree.erase = l'.toTree.erase := by
  rw [erase_eq_iff] at h
  unfold toTree
  match hl : l.items, hl' : l'.items with
  | [], [] => rfl
  | [a], [b] =>
    rw [hl, hl'] at h
    simpa using h
  | a :: b :: items, a' :: b' :: items' =>
    rw [hl, hl'] at h
    simp only [ClassTree.erase, eraseItems_eq_map, List.map_reverse, h]
  | [], _ :: _ | _ :: _, [] | [_], _ :: _ :: _ | _ :: _ :: _, [_] =>
    rw [hl, hl'] at h
    simp at h

theorem closeOperand_erase {frames frames' : List ClassFrame}
    (h : frames.map ClassFrame.erase = frames'.map ClassFrame.erase) {rhs rhs' : ClassTree}
    (hrhs : rhs.erase = rhs'.erase) :
    (closeOperand rhs frames).1.erase = (closeOperand rhs' frames').1.erase ∧
      (closeOperand rhs frames).2.map ClassFrame.erase =
        (closeOperand rhs' frames').2.map ClassFrame.erase := by
  match frames, frames' with
  | [], [] => exact ⟨hrhs, rfl⟩
  | .operand op lhs :: frames, .operand op' lhs' :: frames' =>
    simp only [List.map_cons, List.cons.injEq, ClassFrame.erase, ClassFrame.operand.injEq] at h
    obtain ⟨⟨rfl, hlhs⟩, hframes⟩ := h
    exact ⟨by simp only [closeOperand, ClassTree.erase, hlhs, hrhs], hframes⟩
  | .opened _ _ _ :: _, .opened _ _ _ :: _ => exact ⟨hrhs, h⟩
  | .opened _ _ _ :: _, .operand _ _ :: _ | .operand _ _ :: _, .opened _ _ _ :: _ =>
    simp [ClassFrame.erase] at h
  | [], _ :: _ | _ :: _, [] => simp at h

/-! ## Items -/

theorem readClassPrimitive_agrees (h : r.Longer z r') (hz : Closing z) :
    Agrees (SameItem z) (readClassPrimitive r) (readClassPrimitive r') := by
  unfold readClassPrimitive
  cases hr : r.rest with
  | nil => exact agrees_fail
  | cons c cs =>
    have hne : r.rest ≠ [] := by simp [hr]
    rw [h.rest_of_cons hr]
    by_cases hc : c = '\\'
    · subst hc
      exact readEscape_agrees h hz hne
    · simp only
      exact .ok ⟨rfl, h.bump hne⟩

theorem asClassItem_agrees {t t' : Tree} (h : t.erase = t'.erase) :
    Agrees (fun x y => x.erase = y.erase) t.asClassItem t'.asClassItem := by
  cases t with
  | literal _ | perl _ | property _ =>
    cases t' <;> simp only [Tree.erase, reduceCtorEq] at h
    injection h with h
    exact .ok (by simp only [ClassTree.erase, h])
  | _ => exact agrees_fail

theorem asRangeEnd_agrees {t t' : Tree} (h : t.erase = t'.erase) :
    Agrees (fun x y => x.erase = y.erase) t.asRangeEnd t'.asRangeEnd := by
  cases t with
  | literal _ =>
    cases t' <;> simp only [Tree.erase, reduceCtorEq] at h
    injection h with h
    exact .ok h
  | _ => exact agrees_fail

theorem readClassItem_agrees (h : r.Longer z r') (hz : Closing z) (frames frames' : List ClassFrame) :
    Agrees (fun x y => x.1.erase = y.1.erase ∧ x.2.Longer z y.2) (readClassItem frames r)
      (readClassItem frames' r') := by
  refine (readClassPrimitive_agrees h hz).bind ?_
  rintro ⟨first, s⟩ ⟨first', s'⟩ ⟨hfirst, hs⟩
  dsimp only at hfirst hs ⊢
  cases hrest : s.skipBlanks.rest with
  | nil => exact .error
  | cons c cs =>
    have hne : s.skipBlanks.rest ≠ [] := by simp [hrest]
    have hskip := hs.skipBlanks hne
    rw [hskip.rest_of_cons hrest]
    have hbracket := hskip.peekPast hz hne (x := ']') (by decide) (by decide)
    have hhyphen := hskip.peekPast hz hne (x := '-') (by decide) (by decide)
    refine .ite (by simp [hbracket, hhyphen]) (fun _ => ?_) fun _ => ?_
    · refine (asClassItem_agrees hfirst).bind fun item item' hitem => ?_
      exact .ok ⟨hitem, hskip⟩
    · by_cases hend : s.skipBlanks.advance.rest = []
      · rw [if_pos (by simp [hend])]
        exact .error
      · have hnext := hskip.advance hend
        rw [if_neg (by simpa using hend), if_neg (by simpa using hnext.rest_ne_nil hend)]
        refine (readClassPrimitive_agrees hnext hz).bind ?_
        rintro ⟨last, u⟩ ⟨last', u'⟩ ⟨hlast, hu⟩
        refine (asRangeEnd_agrees hfirst).bind fun lo lo' hlo => ?_
        refine (asRangeEnd_agrees hlast).bind fun hi hi' hhi => ?_
        have hloChar : lo.erase.char = lo'.erase.char := congrArg Literal.char hlo
        have hhiChar : hi.erase.char = hi'.erase.char := congrArg Literal.char hhi
        refine .ite (by rw [show lo.char = lo'.char from hloChar, show hi.char = hi'.char from hhiChar])
          (fun _ => ?_) fun _ => agrees_fail
        exact .ok ⟨by simp only [ClassTree.erase, hlo, hhi], hu⟩

theorem readAsciiClass?_rel (h : r.Longer z r') (hz : Closing z) :
    Option.Rel (fun x y => x.1.erase = y.1.erase ∧ x.2.Longer z y.2) (readAsciiClass? r)
      (readAsciiClass? r') := by
  unfold readAsciiClass?
  refine Reader.rel_bind (h.past? hz (by decide)) fun start start' hstart => ?_
  have hsign := hstart.past? hz (show Apart ['^'] by decide)
  have hinner : Longer z ((start.past? ['^']).getD start) ((start'.past? ['^']).getD start') := by
    rcases Reader.exists_of_rel hsign with ⟨hs, hs'⟩ | ⟨s, s', hs, hs', hlonger⟩
    · rwa [hs, hs']
    · rwa [hs, hs']
  have hsome : (start.past? ['^']).isSome = (start'.past? ['^']).isSome := by
    rcases Reader.exists_of_rel hsign with ⟨hs, hs'⟩ | ⟨s, s', hs, hs', -⟩
    · rw [hs, hs']
    · rw [hs, hs']
      rfl
  dsimp only
  rcases hinner.takeWhile_ne hz (x := ':') (by decide) with ⟨hname, hend⟩ | ⟨hs, hs'⟩
  · rw [hname, ← hsome]
    refine Reader.rel_bind (hend.past? hz (by decide)) fun next next' hnext => ?_
    cases asciiKind? _ with
    | none => exact .none
    | some kind => exact .some ⟨rfl, hnext⟩
  · rw [Reader.past?_of_nil hs, Reader.past?_of_nil hs']
    exact .none

/-! ## The machine -/

/-- The class machines are alike up to places, and `m'` is in a text that is longer by `z`. -/
structure ClassMachine.Longer (z : List Char) (m m' : ClassMachine) : Prop where
  reader : m.reader.Longer z m'.reader
  level : m.level.erase = m'.level.erase
  frames : m.frames.map ClassFrame.erase = m'.frames.map ClassFrame.erase

/-- The outcomes of a step are alike up to places: a class being read or a finished one. -/
def SameOutcome (z : List Char) : ClassMachine ⊕ (Tree × Reader) → ClassMachine ⊕ (Tree × Reader) → Prop
  | .inl m, .inl m' => m.Longer z m'
  | .inr x, .inr y => SameItem z x y
  | _, _ => False

theorem foldl_push_hyphens {l l' : UnionLevel} (h : l.erase = l'.erase)
    {hyphens hyphens' : List (Char × Position)}
    (hhyphens : hyphens'.map Prod.fst = hyphens.map Prod.fst) :
    (hyphens.foldl (fun l h => l.push (.literal ⟨.ofChar h.2 h.1, h.1, false⟩)) l).erase =
      (hyphens'.foldl (fun l h => l.push (.literal ⟨.ofChar h.2 h.1, h.1, false⟩)) l').erase := by
  induction hyphens generalizing l l' hyphens' with
  | nil =>
    obtain rfl : hyphens' = [] := by simpa using hhyphens
    exact h
  | cons a hyphens ih =>
    obtain ⟨b, hyphens', rfl⟩ : ∃ b bs, hyphens' = b :: bs := by
      cases hyphens' with
      | nil => simp at hhyphens
      | cons b bs => exact ⟨b, bs, rfl⟩
    simp only [List.map_cons, List.cons.injEq] at hhyphens
    exact ih (UnionLevel.erase_push h (by simp [ClassTree.erase, Literal.erase, hhyphens.1])) hhyphens.2

theorem readLeading_agrees (h : r.Longer z r') (hz : Closing z) (start start' : Position) :
    Agrees (fun x y => x.1.erase = y.1.erase ∧ (x.2.rest ≠ [] → x.2.Longer z y.2))
      (readLeading start r) (readLeading start' r') := by
  unfold readLeading
  dsimp only
  rcases hs : r.takePlaced (· = '-') with ⟨hyphens, s⟩
  rcases hs' : r'.takePlaced (· = '-') with ⟨hyphens', s'⟩
  by_cases hend : s.rest = []
  · -- The hyphens end the shorter text.
    simp only [Reader.unlessEnd, hend, List.isEmpty_nil, if_true]
    exact agrees_fail
  have hplaced := h.takePlaced (p := (· = '-')) (by rw [hs]; exact hend)
  rw [hs, hs'] at hplaced
  obtain ⟨hhyphens, hlonger⟩ := hplaced
  have hopen : (UnionLevel.openAt r.pos).erase = (UnionLevel.openAt r'.pos).erase := rfl
  have hlevel := foldl_push_hyphens hopen hhyphens
  have hempty : hyphens.isEmpty = hyphens'.isEmpty := by
    rw [← List.isEmpty_map (f := Prod.fst), ← List.isEmpty_map (f := Prod.fst) (l := hyphens'), hhyphens]
  refine (Longer.unlessEnd fun _ => hlonger).bind ?_
  rintro s s' ⟨hne, hlonger⟩
  refine .ite (by simp [hempty, hlonger.head?_eq hz (show ']' ∉ closers by decide)]) (fun _ => ?_) fun _ => ?_
  · exact .ok ⟨UnionLevel.erase_push hlevel rfl, hlonger.advance⟩
  · exact .ok ⟨hlevel, fun _ => hlonger⟩

theorem openBracket_agrees {m m' : ClassMachine} (h : m.Longer z m') (hz : Closing z) :
    Agrees (fun x y => x.Longer z y) (openBracket m) (openBracket m') := by
  refine (Longer.unlessEnd h.reader.advance).bind ?_
  rintro r r' ⟨-, hr⟩
  have hsign : r'.rest.head? = some '^' ↔ r.rest.head? = some '^' := hr.head?_eq hz (by decide)
  have hinner : (if r.rest.head? = some '^' then r.advance else r).rest ≠ [] →
      Longer z (if r.rest.head? = some '^' then r.advance else r)
        (if r'.rest.head? = some '^' then r'.advance else r') := by
    by_cases hc : r.rest.head? = some '^'
    · rw [if_pos hc, if_pos (hsign.2 hc)]
      exact hr.advance
    · rw [if_neg hc, if_neg fun hc' => hc (hsign.1 hc')]
      exact fun _ => hr
  refine (Longer.unlessEnd hinner).bind ?_
  rintro s s' ⟨-, hs⟩
  refine (readLeading_agrees hs hz _ _).bind ?_
  rintro ⟨level, u⟩ ⟨level', u'⟩ ⟨hlevel, hu⟩
  refine (Longer.unlessEnd hu).bind ?_
  rintro v v' ⟨-, hv⟩
  refine .ok ⟨hv, hlevel, ?_⟩
  simp [ClassFrame.erase, h.level, h.frames, hsign]

theorem setOp?_append (hz : Closing z) (text : List Char) : setOp? (text ++ z) = setOp? text := by
  simp only [setOp?, hz.isPrefixOf_append (show Apart ['&', '&'] by decide),
    hz.isPrefixOf_append (show Apart ['-', '-'] by decide),
    hz.isPrefixOf_append (show Apart ['~', '~'] by decide)]

theorem two_le_of_setOp? {text : List Char} {op : SetOp} (h : setOp? text = some op) :
    2 ≤ text.length := by
  unfold setOp? at h
  split at h
  · next hp => exact (List.isPrefixOf_iff_prefix.1 hp).length_le
  · split at h
    · next hp => exact (List.isPrefixOf_iff_prefix.1 hp).length_le
    · split at h
      · next hp => exact (List.isPrefixOf_iff_prefix.1 hp).length_le
      · cases h

theorem ClassMachine.Longer.operator {m m' : ClassMachine} (h : m.Longer z m')
    (hlen : 2 ≤ m.reader.rest.length) (op : SetOp) : (m.operator op).Longer z (m'.operator op) := by
  obtain ⟨hlhs, hframes⟩ := closeOperand_erase h.frames (UnionLevel.erase_toTree h.level)
  refine ⟨h.reader.bumpN hlen, rfl, ?_⟩
  simp only [ClassMachine.operator, List.map_cons, ClassFrame.erase, hlhs, hframes]

theorem ClassMachine.Longer.openItem {m m' : ClassMachine} (h : m.Longer z m') (hz : Closing z) :
    Agrees (fun x y => x.Longer z y) m.openItem m'.openItem := by
  unfold ClassMachine.openItem
  have hempty : m.frames.isEmpty = m'.frames.isEmpty := by
    rw [← List.isEmpty_map (f := ClassFrame.erase), h.frames, List.isEmpty_map]
  rw [← hempty]
  cases m.frames.isEmpty with
  | true => exact openBracket_agrees h hz
  | false =>
    rcases Reader.exists_of_rel (readAsciiClass?_rel h.reader hz) with
      ⟨hs, hs'⟩ | ⟨⟨item, s⟩, ⟨item', s'⟩, hs, hs', hitem, hlonger⟩
    · simp only [hs, hs']
      exact openBracket_agrees h hz
    · simp only [hs, hs']
      exact .ok ⟨hlonger, UnionLevel.erase_push h.level hitem, h.frames⟩

theorem ClassMachine.Longer.closeBracket {m m' : ClassMachine} (h : m.Longer z m')
    (hr : m.reader.rest ≠ []) : Agrees (SameOutcome z) m.closeBracket m'.closeBracket := by
  unfold ClassMachine.closeBracket
  obtain ⟨hbody, hframes⟩ := closeOperand_erase h.frames (UnionLevel.erase_toTree h.level)
  rcases hc : closeOperand m.level.toTree m.frames with ⟨body, frames⟩
  rcases hc' : closeOperand m'.level.toTree m'.frames with ⟨body', frames'⟩
  rw [hc, hc'] at hbody hframes
  dsimp only at hbody hframes ⊢
  match frames, frames' with
  | .opened outer span negated :: frames, .opened outer' span' negated' :: frames' =>
    simp only [List.map_cons, List.cons.injEq, ClassFrame.erase, ClassFrame.opened.injEq] at hframes
    obtain ⟨⟨houter, -, rfl⟩, hframes⟩ := hframes
    have hempty : frames.isEmpty = frames'.isEmpty := by
      rw [← List.isEmpty_map (f := ClassFrame.erase), hframes, List.isEmpty_map]
    refine .ite (by rw [hempty]) (fun _ => ?_) fun _ => ?_
    · exact .ok ⟨by simp only [Tree.erase, hbody], h.reader.bump hr⟩
    · exact .ok ⟨h.reader.bump hr, UnionLevel.erase_push houter (by simp only [ClassTree.erase, hbody]),
        hframes⟩
  | .opened _ _ _ :: _, .operand _ _ :: _ => simp [ClassFrame.erase] at hframes
  | .opened _ _ _ :: _, [] => simp at hframes
  | .operand _ _ :: _, _ | [], _ => exact .error

theorem ClassMachine.Longer.step {m m' : ClassMachine} (h : m.Longer z m') (hz : Closing z) :
    Agrees (SameOutcome z) m.step m'.step := by
  unfold ClassMachine.step
  dsimp only
  cases hrest : m.reader.skipBlanks.rest with
  | nil => exact .error
  | cons c cs =>
    have hne : m.reader.skipBlanks.rest ≠ [] := by simp [hrest]
    have hskip := h.reader.skipBlanks hne
    have hm : ClassMachine.Longer z { m with reader := m.reader.skipBlanks }
        { m' with reader := m'.reader.skipBlanks } := ⟨hskip, h.level, h.frames⟩
    rw [hskip.rest_of_cons hrest]
    refine .ite Iff.rfl (fun _ => ?_) fun _ => .ite Iff.rfl (fun _ => hm.closeBracket hne) fun _ => ?_
    · exact (hm.openItem hz).bind fun n n' hn => .ok hn
    · rw [← List.cons_append, setOp?_append hz]
      cases hop : setOp? (c :: cs) with
      | some op =>
        exact .ok (hm.operator (by rw [hrest]; exact two_le_of_setOp? hop) op)
      | none =>
        refine (readClassItem_agrees hskip hz _ _).bind ?_
        rintro ⟨item, s⟩ ⟨item', s'⟩ ⟨hitem, hlonger⟩
        exact .ok ⟨hlonger, UnionLevel.erase_push h.level hitem, h.frames⟩

theorem ClassMachine.Longer.run {m m' : ClassMachine} (h : m.Longer z m') (hz : Closing z)
    {n n' : Nat} (hn : n ≤ n') : Agrees (SameItem z) (m.run n) (m'.run n') := by
  induction n generalizing n' m m' with
  | zero => exact .error
  | succ n ih =>
    obtain ⟨k, rfl⟩ : ∃ k, n' = k + 1 := ⟨n' - 1, by omega⟩
    refine (h.step hz).bind ?_
    rintro (s | x) (s' | y) hxy
    · exact ih hxy (by omega)
    · exact hxy.elim
    · exact hxy.elim
    · exact .ok hxy

/-- A bracket class is read alike in a longer text. -/
theorem readBracket_agrees (h : r.Longer z r') (hz : Closing z) :
    Agrees (SameItem z) (readBracket r) (readBracket r') := by
  have hm : ClassMachine.Longer z ⟨r, .openAt r.pos, []⟩ ⟨r', .openAt r'.pos, []⟩ := ⟨h, rfl, rfl⟩
  refine hm.run hz ?_
  rw [h.rest, List.length_append]
  omega

end TextPattern.Syntax
