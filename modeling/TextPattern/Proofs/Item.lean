import Mathlib.Data.List.Basic
import TextPattern.Proofs.Whole

/-!
# Items of a pattern

* `IsOperand text e` : without options the machine steps over the text, and what it pushes may be repeated;
* `IsItem text e` : without options the text reads as one part, with the expression `e`;
* `IsOperand.isItem`, `IsOperand.repeated` : an operand is an item, by itself and with an operator behind it;
* `isOperand_literal`, `isOperand_escape`, `isOperand_meta`, `isOperand_range`, `isOperand_class` : the operands of
  a pattern;
* `memberSet body` : the set of a class of single characters.
-/

namespace TextPattern

open Syntax

/-! ## Operands and items -/

/-- Without options the machine steps over the text and pushes one part, which may be repeated, has the
expression `e` and sets no flags. A question mark, which would make a repetition before it lazy, does not
start the text. -/
structure IsOperand (text : List Char) (e : Expr) : Prop where
  head : ∃ c cs, text = c :: cs ∧ c ≠ '?'
  step : ∀ (m : Machine) (more : List Char), m.reader.rest = text ++ more → m.reader.extended = false →
    ∃ r part, (∀ fuel, m.read (fuel + 1) = (Machine.mk r (m.level.push part) m.groups).read fuel) ∧
      r.rest = more ∧ r.extended = false ∧ part.toExpr Options.none.modes = .ok (e, Options.none.modes) ∧
      part.repeatable = true ∧ part.depth ≤ 2

/-- Without options the text reads as one part, which has the expression `e` and sets no flags, unless a
question mark stands behind it. -/
structure IsItem (text : List Char) (e : Expr) : Prop where
  head : ∃ c cs, text = c :: cs ∧ c ≠ '?'
  read : ∀ (m : Machine) (more : List Char), m.reader.rest = text ++ more → more.head? ≠ some '?' →
    m.reader.extended = false →
    ∃ r part rounds, rounds ≤ text.length ∧
      (∀ fuel, m.read (fuel + rounds) = (Machine.mk r (m.level.push part) m.groups).read fuel) ∧
      r.rest = more ∧ r.extended = false ∧ part.toExpr Options.none.modes = .ok (e, Options.none.modes) ∧
      part.depth ≤ 3

theorem skipBlanks_verbatim {r : Reader} (hext : r.extended = false) : r.skipBlanks = r := by
  unfold Reader.skipBlanks
  rw [hext, if_neg Bool.false_ne_true]

theorem read_verbatim {m : Machine} (hext : m.reader.extended = false) {c : Char} {cs : List Char}
    (hr : m.reader.rest = c :: cs) (fuel : Nat) : m.read (fuel + 1) = m.step c >>= fun n => n.read fuel := by
  have hskip := skipBlanks_verbatim hext
  rw [Machine.read_skip (by rw [hskip, hr]), hskip]

variable {e : Expr} {text more : List Char}

theorem IsOperand.isItem (h : IsOperand text e) : IsItem text e := by
  refine ⟨h.head, fun m more hr _ hext => ?_⟩
  obtain ⟨r, part, hread, hrest, hext', hexpr, -, hdepth⟩ := h.step m more hr hext
  obtain ⟨c, cs, rfl, -⟩ := h.head
  exact ⟨r, part, 1, Nat.succ_pos _, hread, hrest, hext', hexpr, Nat.le_succ_of_le hdepth⟩

/-- An operand with a repetition operator behind it is an item. -/
theorem IsOperand.repeated (h : IsOperand text e) {sign : Char} {count : Count}
    (hsign : ∀ m : Machine, m.step sign = m.repeatBy count) :
    IsItem (text ++ [sign]) (.repetition e count true) := by
  obtain ⟨c, cs, htext, hc⟩ := h.head
  refine ⟨⟨c, cs ++ [sign], by rw [htext, List.cons_append], hc⟩, fun m more hr hmore hext => ?_⟩
  rw [List.append_assoc, List.singleton_append] at hr
  obtain ⟨r, part, hread, hrest, hext', hexpr, hrepeatable, hdepth⟩ := h.step m _ hr hext
  have hbump : r.bump.rest = more := by rw [Reader.rest_bump, hrest, List.tail_cons]
  refine ⟨r.bump, .repetition ⟨part.span.start, r.bump.pos⟩ count true part, 2, ?_, fun fuel => ?_, hbump,
    by rw [Reader.extended_bump, hext'], ?_, ?_⟩
  · rw [htext, List.length_append, List.length_cons, List.length_singleton]
    omega
  · rw [hread, read_verbatim hext' hrest, hsign]
    simp [Machine.repeatBy, operand, Level.push, hrepeatable, hbump, hmore, bind, Except.bind]
  · rw [Tree.toExpr, hexpr]
    rfl
  · rw [Tree.depth]
    exact Nat.succ_le_succ hdepth

/-- A text is an operand if the machine steps over it with its first character. -/
theorem isOperand_of_step {c : Char} {cs : List Char} (hc : c ≠ '?')
    (h : ∀ (m : Machine) (more : List Char), m.reader.rest = c :: cs ++ more → m.reader.extended = false →
      ∃ r part, m.step c = .ok ⟨r, m.level.push part, m.groups⟩ ∧ r.rest = more ∧ r.extended = false ∧
        part.toExpr Options.none.modes = .ok (e, Options.none.modes) ∧ part.repeatable = true ∧
        part.depth ≤ 2) :
    IsOperand (c :: cs) e := by
  refine ⟨⟨c, cs, rfl, hc⟩, fun m more hr hext => ?_⟩
  obtain ⟨r, part, hstep, hpart⟩ := h m more hr hext
  refine ⟨r, part, fun fuel => ?_, hpart⟩
  rw [read_verbatim hext hr, hstep, ok_bind]

/-! ## Single characters -/

theorem isOperand_char {c : Char} (hc : c ≠ '?') (part : Reader → Tree)
    (hstep : ∀ m : Machine, m.step c = m.push (.ok (part m.reader, m.reader.bump)))
    (hexpr : ∀ r, (part r).toExpr Options.none.modes = .ok (e, Options.none.modes))
    (hrepeatable : ∀ r, (part r).repeatable = true) (hdepth : ∀ r, (part r).depth ≤ 2) :
    IsOperand [c] e := by
  refine isOperand_of_step hc fun m more hr hext => ?_
  refine ⟨m.reader.bump, part m.reader, ?_, ?_, ?_, hexpr m.reader, hrepeatable m.reader, hdepth m.reader⟩
  · rw [hstep]
    rfl
  · rw [Reader.rest_bump, hr]
    rfl
  · rw [Reader.extended_bump, hext]

theorem contains_eq_false_of_all {chars : List Char} {P : Char → Bool} {c : Char} (hall : chars.all P = true)
    (hc : P c = false) : chars.contains c = false := by
  rw [List.contains_eq_mem, decide_eq_false_iff_not]
  intro hmem
  have hP : P c = true := List.all_eq_true.1 hall c hmem
  exact Bool.false_ne_true (hc.symm.trans hP)

def isOperator (c : Char) : Bool := "\\.+*?()|[\x7b^$".toList.contains c

theorem isOperator_of_not_isMeta {c : Char} (hc : isMeta c = false) : isOperator c = false :=
  contains_eq_false_of_all (by decide) hc

theorem isOperand_literal {c : Char} (hc : isOperator c = false) : IsOperand [c] (.chars (.single c)) := by
  have hquestion : c ≠ '?' := by
    rintro rfl
    cases hc
  refine isOperand_char hquestion (fun r => .literal ⟨r.charSpan, c, false⟩) (fun m => ?_) (fun _ => rfl)
    (fun _ => rfl) fun _ => Nat.zero_le 2
  unfold Machine.step
  split <;> first | rfl | exact absurd hc (by decide)

theorem isOperand_dot : IsOperand ['.'] (.chars (.compl (.ofCodes [0x0A]))) :=
  isOperand_char (by decide) (fun r => .dot r.charSpan) (fun _ => rfl) (fun _ => rfl) (fun _ => rfl)
    fun _ => Nat.zero_le 2

theorem isOperand_lineStart : IsOperand ['^'] (.look .textStart) :=
  isOperand_char (by decide) (fun r => .assertion r.charSpan .lineStart) (fun _ => rfl) (fun _ => rfl)
    (fun _ => rfl) fun _ => Nat.zero_le 2

theorem isOperand_lineEnd : IsOperand ['$'] (.look .textEnd) :=
  isOperand_char (by decide) (fun r => .assertion r.charSpan .lineEnd) (fun _ => rfl) (fun _ => rfl)
    (fun _ => rfl) fun _ => Nat.zero_le 2

/-! ## Escape sequences -/

/-- A backslash with a character that it makes an item of is an operand. -/
theorem isOperand_escape {c : Char} (part : Span → Tree)
    (hread : ∀ (r : Reader) (cs : List Char), r.rest = '\\' :: c :: cs →
      readEscape r = .ok (part ⟨r.pos, r.bump.bump.pos⟩, r.bump.bump))
    (hexpr : ∀ span, (part span).toExpr Options.none.modes = .ok (e, Options.none.modes))
    (hrepeatable : ∀ span, (part span).repeatable = true) (hdepth : ∀ span, (part span).depth ≤ 2) :
    IsOperand ['\\', c] e := by
  refine isOperand_of_step (by decide) fun m more hr hext => ?_
  refine ⟨m.reader.bump.bump, part ⟨m.reader.pos, m.reader.bump.bump.pos⟩, ?_, ?_, ?_, hexpr _, hrepeatable _,
    hdepth _⟩
  · change m.push (readEscape m.reader) = _
    rw [hread m.reader more hr]
    rfl
  · rw [Reader.rest_bump, Reader.rest_bump, hr]
    rfl
  · rw [Reader.extended_bump, Reader.extended_bump, hext]

theorem isOperand_perl {c : Char} {kind : PerlKind} {s : CharSet} (hc : isPlainLetter c = true)
    (hletter : escapeLetter? c = some (.perl kind false))
    (hset : ∀ span, PerlClass.toSet Options.none.modes ⟨span, kind, false⟩ = .ok s) :
    IsOperand ['\\', c] (.chars s) := by
  refine isOperand_escape (fun span => .perl ⟨span, kind, false⟩)
    (fun r cs hr => readEscape_letter hr hc hletter) (fun span => ?_) (fun _ => rfl) fun _ => Nat.zero_le 2
  rw [Tree.toExpr, hset]
  rfl

theorem isOperand_digit : IsOperand ['\\', 'd'] (.chars Unicode.digits) :=
  isOperand_perl (by decide) rfl fun _ => rfl

theorem isOperand_word : IsOperand ['\\', 'w'] (.chars Unicode.wordChars) :=
  isOperand_perl (by decide) rfl fun _ => rfl

theorem isOperand_blank : IsOperand ['\\', 's'] (.chars Unicode.blanks) :=
  isOperand_perl (by decide) rfl fun _ => rfl

theorem readEscape_meta {r : Reader} {c : Char} {cs : List Char} (hr : r.rest = '\\' :: c :: cs)
    (hc : isMeta c = true) :
    readEscape r = .ok (.literal ⟨⟨r.pos, r.bump.bump.pos⟩, c, false⟩, r.bump.bump) := by
  have hall : ∀ c ∈ "\\.+*?()|[]\x7b\x7d^$#&-~".toList, c.isDigit = false ∧
      ¬ (c = 'x' ∨ c = 'u' ∨ c = 'U') ∧ ¬ (c = 'p' ∨ c = 'P') := by simp
  obtain ⟨hdigit, hhex, hproperty⟩ := hall c (List.contains_iff_mem.1 hc)
  have hrest : r.bump.rest = c :: cs := by rw [Reader.rest_bump, hr, List.tail_cons]
  unfold readEscape
  simp only [hrest, hdigit, Bool.false_eq_true, if_false, if_neg hhex, if_neg hproperty, hc, Bool.true_or, if_true]

/-- A character with a meaning of its own is an operand behind a backslash, which takes that away. -/
theorem isOperand_meta {c : Char} (hc : isMeta c = true) : IsOperand ['\\', c] (.chars (.single c)) :=
  isOperand_escape (fun span => .literal ⟨span, c, false⟩) (fun _ _ hr => readEscape_meta hr hc) (fun _ => rfl)
    (fun _ => rfl) fun _ => Nat.zero_le 2

theorem isOperand_point : IsOperand ['\\', '.'] (.chars (.single '.')) := isOperand_meta (by decide)

/-! ## Brackets -/

/-- The character stands for itself between brackets, unless it is the half of an operator. -/
def isBodyChar (c : Char) : Bool := !"[]\\^-".toList.contains c

theorem ne_of_isBodyChar {a c : Char} (ha : isBodyChar a = false) (hc : isBodyChar c = true) : c ≠ a := by
  rintro rfl
  rw [ha] at hc
  cases hc

/-- The character stands for itself between brackets, whatever stands around it. -/
def isMember (c : Char) : Bool := !"[]\\^-&~".toList.contains c

theorem ne_of_isMember {a c : Char} (ha : isMember a = false) (hc : isMember c = true) : c ≠ a := by
  rintro rfl
  rw [ha] at hc
  cases hc

theorem isBodyChar_of_isMember {c : Char} (hc : isMember c = true) : isBodyChar c = true := by
  rw [isMember, Bool.not_eq_true'] at hc
  rw [isBodyChar, Bool.not_eq_true']
  exact contains_eq_false_of_all (by decide) hc

/-- No operator of two signs stands in the text. -/
structure NoSetOp (text : List Char) : Prop where
  inter : ¬ ['&', '&'] <:+: text
  symmDiff : ¬ ['~', '~'] <:+: text

theorem NoSetOp.tail {c : Char} {text : List Char} (h : NoSetOp (c :: text)) : NoSetOp text :=
  ⟨fun hpart => h.inter (hpart.trans (List.suffix_cons c text).isInfix),
    fun hpart => h.symmDiff (hpart.trans (List.suffix_cons c text).isInfix)⟩

theorem noSetOp_of_isMember {text : List Char} (h : ∀ c ∈ text, isMember c = true) : NoSetOp text := by
  have hnot : ∀ {c : Char}, isMember c = false → ¬ [c, c] <:+: text := by
    intro c hc hpart
    have hmember := h c (hpart.subset List.mem_cons_self)
    rw [hc] at hmember
    cases hmember
  exact ⟨hnot (by decide), hnot (by decide)⟩

theorem setOp?_eq_none {c : Char} {text : List Char} (hc : isBodyChar c = true) (h : NoSetOp (c :: text))
    (cs : List Char) : setOp? (c :: (text ++ ']' :: cs)) = none := by
  have hhyphen : c ≠ '-' := ne_of_isBodyChar (by decide) hc
  have hpair : ∀ {a : Char}, a ≠ ']' → ¬ [a, a] <:+: c :: text →
      ¬ [a, a] <+: c :: (text ++ ']' :: cs) := by
    intro a hclose hnot hprefix
    obtain ⟨rfl, hrest⟩ := List.cons_prefix_cons.1 hprefix
    cases text with
    | nil => exact hclose (List.cons_prefix_cons.1 hrest).1
    | cons d text =>
      obtain ⟨rfl, -⟩ := List.cons_prefix_cons.1 hrest
      exact hnot ⟨[], text, rfl⟩
  have hinter := hpair (by decide) h.inter
  have hsymm := hpair (by decide) h.symmDiff
  have hdiff : ¬ ['-', '-'] <+: c :: (text ++ ']' :: cs) := fun hprefix =>
    hhyphen (List.cons_prefix_cons.1 hprefix).1.symm
  rw [← List.isPrefixOf_iff_prefix] at hinter hsymm hdiff
  rw [setOp?, if_neg hinter, if_neg hdiff, if_neg hsymm]

theorem isMember_of_not_isMeta {c : Char} (hc : isMeta c = false) : isMember c = true := by
  rw [isMember, Bool.not_eq_true']
  exact contains_eq_false_of_all (by decide) hc

section Bracket

variable {lo hi c : Char} {r : Reader}

theorem step_openBracket (hlo : isBodyChar lo = true) {cs : List Char} (hr : r.rest = '[' :: lo :: cs)
    (hext : r.extended = false) :
    (ClassMachine.mk r (.openAt r.pos) []).step =
      .ok (.inl ⟨r.bump, .openAt r.bump.pos, [.opened (.openAt r.pos) ⟨r.pos, r.bump.pos⟩ false]⟩) := by
  obtain ⟨rest, pos, extended, captures, names⟩ := r
  obtain rfl : rest = '[' :: lo :: cs := hr
  obtain rfl : extended = false := hext
  have hcaret : lo ≠ '^' := ne_of_isBodyChar (by decide) hlo
  have hhyphen : lo ≠ '-' := ne_of_isBodyChar (by decide) hlo
  have hclose : lo ≠ ']' := ne_of_isBodyChar (by decide) hlo
  simp [ClassMachine.step, ClassMachine.openItem, openBracket, Reader.skipBlanks, Reader.advance, Reader.bump,
    Reader.unlessEnd, readLeading, Reader.takePlaced, Reader.takeFrom, hcaret, hhyphen, hclose, bind,
    Except.bind]

theorem readClassItem_range (hlo : isMember lo = true) (hhi : isMember hi = true) (hle : lo ≤ hi)
    {cs : List Char} (hr : r.rest = lo :: '-' :: hi :: cs) (hext : r.extended = false) :
    ∃ span lspan hspan, ∀ frames, readClassItem frames r =
      .ok (.range span ⟨lspan, lo, false⟩ ⟨hspan, hi, false⟩, r.bump.bump.bump) := by
  obtain ⟨rest, pos, extended, captures, names⟩ := r
  obtain rfl : rest = lo :: '-' :: hi :: cs := hr
  obtain rfl : extended = false := hext
  have hlo' : lo ≠ '\\' := ne_of_isMember (by decide) hlo
  have hhi' : hi ≠ '\\' := ne_of_isMember (by decide) hhi
  have hhyphen : hi ≠ '-' := ne_of_isMember (by decide) hhi
  have hclose : hi ≠ ']' := ne_of_isMember (by decide) hhi
  refine ⟨⟨pos, ((pos.after lo).after '-').after hi⟩, .ofChar pos lo,
    .ofChar ((pos.after lo).after '-') hi, fun frames => ?_⟩
  simp [readClassItem, readClassPrimitive, Reader.skipBlanks, Reader.advance, Reader.bump, Reader.peekPast,
    Reader.peek, Reader.charSpan, hhyphen, hclose, hle, Tree.asRangeEnd, Tree.span, Span.ofChar,
    bind, Except.bind]

theorem readClassItem_member (hc : isBodyChar c = true) {d : Char} (hd : d ≠ '-') {cs : List Char}
    (hr : r.rest = c :: d :: cs) (hext : r.extended = false) (frames : List ClassFrame) :
    readClassItem frames r = .ok (.literal ⟨.ofChar r.pos c, c, false⟩, r.bump) := by
  obtain ⟨rest, pos, extended, captures, names⟩ := r
  obtain rfl : rest = c :: d :: cs := hr
  obtain rfl : extended = false := hext
  have hc' : c ≠ '\\' := ne_of_isBodyChar (by decide) hc
  simp [readClassItem, readClassPrimitive, Reader.skipBlanks, Reader.bump, Reader.charSpan, hd,
    Tree.asClassItem, bind, Except.bind]

theorem step_classItem (hc : isBodyChar c = true) {cs : List Char} (hr : r.rest = c :: cs)
    (hop : setOp? (c :: cs) = none) (hext : r.extended = false) {frames : List ClassFrame}
    {item : ClassTree} {next : Reader}
    (hitem : readClassItem frames r = .ok (item, next)) (level : UnionLevel) :
    (ClassMachine.mk r level frames).step = .ok (.inl ⟨next, level.push item, frames⟩) := by
  have hopen : c ≠ '[' := ne_of_isBodyChar (by decide) hc
  have hclose : c ≠ ']' := ne_of_isBodyChar (by decide) hc
  unfold ClassMachine.step
  simp only [skipBlanks_verbatim hext, hr, hop, if_neg hopen, if_neg hclose, hitem]
  rfl

theorem step_closeBracket {cs : List Char} (hr : r.rest = ']' :: cs) (hext : r.extended = false)
    (level outer : UnionLevel) (span : Span) (negated : Bool) :
    (ClassMachine.mk r level [.opened outer span negated]).step =
      .ok (.inr (.bracket ⟨span.start, r.bump.pos⟩ negated level.toTree, r.bump)) := by
  unfold ClassMachine.step
  simp only [skipBlanks_verbatim hext, hr]
  rfl

/-- A text in brackets reads as a bracket class if the machine, behind the opening bracket, comes to the
closing one. -/
theorem readBracket_of_run {body : List Char} (hbody : ∃ lo los, body = lo :: los ∧ isBodyChar lo = true)
    {cs : List Char} (hr : r.rest = '[' :: body ++ ']' :: cs) (hext : r.extended = false)
    {next : Reader} {level : UnionLevel} {rounds : Nat} (hrounds : rounds ≤ body.length)
    (hrun : ∀ frames fuel, (ClassMachine.mk r.bump (.openAt r.bump.pos) frames).run (fuel + rounds) =
      (ClassMachine.mk next level frames).run fuel)
    (hnext : next.rest = ']' :: cs) (hext' : next.extended = false) :
    ∃ span, readBracket r = .ok (.bracket span false level.toTree, next.bump) := by
  obtain ⟨lo, los, rfl, hlo⟩ := hbody
  obtain ⟨k, hk⟩ : ∃ k, r.rest.length + 1 = k + 1 + rounds + 1 := by
    refine ⟨(lo :: los).length + cs.length + 1 - rounds, ?_⟩
    rw [hr]
    simp only [List.cons_append, List.length_cons, List.length_append] at hrounds ⊢
    omega
  refine ⟨⟨r.pos, next.bump.pos⟩, ?_⟩
  rw [readBracket, hk, ClassMachine.run, step_openBracket hlo hr hext, ok_bind]
  simp only
  rw [hrun, ClassMachine.run, step_closeBracket hnext hext', ok_bind]

theorem isOperand_bracket (body : List Char) {s : CharSet} (hread : ∀ (r : Reader) (cs : List Char),
      r.rest = '[' :: body ++ ']' :: cs → r.extended = false →
      ∃ span tree next, readBracket r = .ok (.bracket span false tree, next) ∧ next.rest = cs ∧
        next.extended = false ∧ tree.toSet Options.none.modes = .ok s ∧ tree.depth ≤ 1) :
    IsOperand ('[' :: body ++ [']']) (.chars s) := by
  refine isOperand_of_step (by decide) fun m more hr hext => ?_
  have hr' : m.reader.rest = '[' :: body ++ ']' :: more := by
    rw [hr]
    exact List.append_assoc ('[' :: body) [']'] more
  obtain ⟨span, tree, next, hbracket, hrest, hext', hset, hdepth⟩ := hread m.reader more hr' hext
  refine ⟨next, .bracket span false tree, ?_, hrest, hext', ?_, rfl, ?_⟩
  · change m.push (readBracket m.reader) = _
    rw [hbracket]
    rfl
  · rw [Tree.toExpr, hset]
    rfl
  · rw [Tree.depth]
    exact Nat.succ_le_succ hdepth

theorem isOperand_range (hlo : isMember lo = true) (hhi : isMember hi = true) (hle : lo ≤ hi) :
    IsOperand ['[', lo, '-', hi, ']'] (.chars (.range lo.toNat hi.toNat)) := by
  refine isOperand_bracket [lo, '-', hi] fun r cs hr hext => ?_
  have hr₁ : r.bump.rest = lo :: '-' :: hi :: ']' :: cs := by rw [Reader.rest_bump, hr]; rfl
  have hext₁ : r.bump.extended = false := by rw [Reader.extended_bump, hext]
  obtain ⟨inner, lspan, hspan, hitem⟩ := readClassItem_range hlo hhi hle hr₁ hext₁
  have hlo' := isBodyChar_of_isMember hlo
  have hop : setOp? (lo :: '-' :: hi :: ']' :: cs) = none := by
    have hand : '&' ≠ lo := (ne_of_isMember (by decide) hlo).symm
    have hhyphen : '-' ≠ lo := (ne_of_isMember (by decide) hlo).symm
    have htilde : '~' ≠ lo := (ne_of_isMember (by decide) hlo).symm
    simp [setOp?, hand, hhyphen, htilde]
  have hnext : r.bump.bump.bump.bump.rest = ']' :: cs := by
    rw [Reader.rest_bump, Reader.rest_bump, Reader.rest_bump, hr₁]
    rfl
  have hext' : r.bump.bump.bump.bump.extended = false := by simp only [Reader.extended_bump, hext]
  let level := (UnionLevel.openAt r.bump.pos).push (.range inner ⟨lspan, lo, false⟩ ⟨hspan, hi, false⟩)
  have hrun : ∀ frames fuel, (ClassMachine.mk r.bump (.openAt r.bump.pos) frames).run (fuel + 1) =
      (ClassMachine.mk r.bump.bump.bump.bump level frames).run fuel := by
    intro frames fuel
    rw [ClassMachine.run, step_classItem hlo' hr₁ hop hext₁ (hitem frames), ok_bind]
  obtain ⟨span, hread⟩ := readBracket_of_run ⟨lo, _, rfl, hlo'⟩ hr hext (Nat.succ_pos _) hrun hnext hext'
  refine ⟨span, _, _, hread, ?_, ?_, rfl, Nat.zero_le 1⟩
  · rw [Reader.rest_bump, hnext, List.tail_cons]
  · rw [Reader.extended_bump, hext']

end Bracket

/-! ## Classes of single characters -/

def memberSet : List Char → CharSet
  | [c] => .single c
  | body => .unions (body.map .single)

theorem contains_memberSet (body : List Char) (a : Char) :
    (memberSet body).contains a = true ↔ a ∈ body := by
  have hunions : (CharSet.unions (body.map .single)).contains a = true ↔ a ∈ body := by
    rw [CharSet.contains, CharSet.mem_unions, List.any_map, List.any_eq_true]
    constructor
    · rintro ⟨c, hc, ha⟩
      change (CharSet.single c).contains a = true at ha
      rw [CharSet.contains_single, decide_eq_true_iff] at ha
      exact ha ▸ hc
    · intro ha
      refine ⟨a, ha, ?_⟩
      change (CharSet.single a).contains a = true
      rw [CharSet.contains_single, decide_eq_true rfl]
  unfold memberSet
  split
  · rw [CharSet.contains_single, decide_eq_true_iff, List.mem_singleton]
  · exact hunions

theorem itemsToSet_literals (lits : List Literal) (acc : CharSet) :
    itemsToSet Options.none.modes (lits.map .literal) acc =
      .ok ((lits.map fun l => .single l.char).foldl CharSet.union acc) := by
  induction lits generalizing acc with
  | nil => rfl
  | cons l lits ih => exact ih _

theorem itemsDepth_literals (lits : List Literal) : itemsDepth (lits.map .literal) = 0 := by
  induction lits with
  | nil => rfl
  | cons l lits ih => simpa [itemsDepth, ClassTree.depth] using ih

theorem toSet_literals {level : UnionLevel} {lits : List Literal} (hne : lits ≠ [])
    (hitems : level.items = (lits.map .literal).reverse) :
    level.toTree.toSet Options.none.modes = .ok (memberSet (lits.map Literal.char)) ∧
      level.toTree.depth ≤ 1 := by
  unfold UnionLevel.toTree
  rw [hitems]
  match lits with
  | [] => exact absurd rfl hne
  | [l] => exact ⟨rfl, Nat.zero_le 1⟩
  | k :: l :: lits =>
    split
    · next heq => simp at heq
    · next heq =>
      have := congrArg List.length heq
      simp at this
    · rw [List.reverse_reverse]
      refine ⟨?_, ?_⟩
      · change itemsToSet Options.none.modes _ _ = _
        rw [itemsToSet_literals, memberSet, CharSet.unions, List.map_map]
        · rfl
        · simp
      · change itemsDepth _ + 1 ≤ 1
        rw [itemsDepth_literals]

/-- The machine reads members of a class one by one. -/
theorem run_members {body cs : List Char} (hbody : ∀ c ∈ body, isBodyChar c = true) (hops : NoSetOp body)
    {r : Reader} (hr : r.rest = body ++ ']' :: cs) (hext : r.extended = false) (level : UnionLevel) :
    ∃ (next : Reader) (level' : UnionLevel) (lits : List Literal),
      (∀ frames fuel, (ClassMachine.mk r level frames).run (fuel + body.length) =
          (ClassMachine.mk next level' frames).run fuel) ∧
      next.rest = ']' :: cs ∧ next.extended = false ∧ lits.map Literal.char = body ∧
      level'.items = (lits.map .literal).reverse ++ level.items := by
  induction body generalizing r level with
  | nil => exact ⟨r, level, [], fun _ _ => rfl, hr, hext, rfl, rfl⟩
  | cons c body ih =>
    obtain ⟨hc, hbody⟩ := List.forall_mem_cons.1 hbody
    -- What stands behind a member is no hyphen, which would make it the start of a range.
    obtain ⟨d, ds, hd, hne⟩ : ∃ d ds, body ++ ']' :: cs = d :: ds ∧ d ≠ '-' := by
      cases body with
      | nil => exact ⟨']', cs, rfl, by decide⟩
      | cons d ds => exact ⟨d, _, rfl, ne_of_isBodyChar (by decide) (hbody d List.mem_cons_self)⟩
    rw [List.cons_append] at hr
    have hitem := readClassItem_member hc hne (hd ▸ hr) hext
    obtain ⟨next, level', lits, hrun, hrest, hext', hchars, hitems⟩ := ih hbody hops.tail
      (show r.bump.rest = _ by rw [Reader.rest_bump, hr, List.tail_cons])
      (by rw [Reader.extended_bump, hext]) (level.push (.literal ⟨.ofChar r.pos c, c, false⟩))
    refine ⟨next, level', ⟨.ofChar r.pos c, c, false⟩ :: lits, fun frames fuel => ?_, hrest, hext', ?_, ?_⟩
    · rw [List.length_cons, ← Nat.add_assoc, ClassMachine.run,
        step_classItem hc hr (setOp?_eq_none hc hops cs) hext (hitem _), ok_bind]
      exact hrun frames fuel
    · rw [List.map_cons, hchars]
    · rw [hitems]
      simp [UnionLevel.push]

theorem isOperand_class {body : List Char} (hne : body ≠ []) (hbody : ∀ c ∈ body, isBodyChar c = true)
    (hops : NoSetOp body) : IsOperand ('[' :: body ++ [']']) (.chars (memberSet body)) := by
  refine isOperand_bracket body fun r cs hr hext => ?_
  have hr₁ : r.bump.rest = body ++ ']' :: cs := by rw [Reader.rest_bump, hr]; rfl
  obtain ⟨next, level, lits, hrun, hnext, hext', hchars, hitems⟩ := run_members hbody hops hr₁
    (by rw [Reader.extended_bump, hext]) (.openAt r.bump.pos)
  have hfirst : ∃ lo los, body = lo :: los ∧ isBodyChar lo = true := by
    obtain ⟨lo, los, rfl⟩ := List.exists_cons_of_ne_nil hne
    exact ⟨lo, los, rfl, hbody lo List.mem_cons_self⟩
  obtain ⟨span, hread⟩ := readBracket_of_run hfirst hr hext (Nat.le_refl _) hrun hnext hext'
  have hlits : lits ≠ [] := by
    rintro rfl
    exact hne hchars.symm
  obtain ⟨hset, hdepth⟩ := toSet_literals hlits (hitems.trans (List.append_nil _))
  refine ⟨span, _, _, hread, ?_, ?_, hchars ▸ hset, hdepth⟩
  · rw [Reader.rest_bump, hnext, List.tail_cons]
  · rw [Reader.extended_bump, hext']

end TextPattern
