import TextPattern.Proofs.Parts
import TextPattern.Proofs.Searches
import TextPattern.Proofs.Sequence

/-!
# Literal patterns

* `Options.compile_of_literal`, `Options.wholeSource_of_literal` : a literal pattern is compiled without options;
* `copiesOf piece text` : the copies of a text in another, each behind the one before;
* `literalExpr text` : the expression of a literal pattern, `reads_literalExpr` : which reads copies;
* `Pattern.Finds p text` : the questions to the pattern are answered by looking for the text;
* `not_tooLarge_of_literal` : which literal patterns are small enough;
* `compile_literal` : a literal pattern finds its text, whatever other options are set.
-/

namespace TextPattern

/-! ## Options -/

namespace Options

variable {o : Options}

theorem active_of_literal (hliteral : o.literal = true) (hcase : o.ignoreCase = false) :
    o.active = { literal := true } := by
  rw [active, if_pos hliteral, hcase]

theorem compile_of_literal (hliteral : o.literal = true) (hcase : o.ignoreCase = false) :
    o.compile = Options.none.compile := by
  funext text
  simp only [compile, modes, active_of_literal hliteral hcase]
  rfl

theorem effectiveSource_of_literal (hliteral : o.literal = true) (source : List Char) :
    o.effectiveSource source = escape source := if_pos hliteral

theorem wholeSource_of_literal (hliteral : o.literal = true) (hcase : o.ignoreCase = false)
    (source : List Char) : o.wholeSource source = Options.none.wholeSource (escape source) := by
  have hcomments : o.active.comments = false := by rw [active_of_literal hliteral hcase]
  rw [wholeSource_of_not_comments hcomments, effectiveSource_of_literal hliteral,
    wholeSource_of_not_comments rfl]
  rfl

end Options

/-! ## Copies of a text -/

/-- The text if another begins with it. -/
def copyOf? (piece : List Char) (_ : Option Char) (text : List Char) : Option (List Char) :=
  if piece <+: text then some piece else none

/-- The copies of a text in another from left to right, each with all that stands before it: where a copy begins,
the next one is looked for behind it, and else one character further. -/
def copiesOf (piece text : List Char) : List (List Char × List Char) := partsFrom (copyOf? piece) 0 [] text

theorem eq_of_copyOf? {piece text part : List Char} {prev : Option Char} :
    copyOf? piece prev text = some part ↔ piece <+: text ∧ piece = part := by
  rw [copyOf?, Option.ite_none_right_eq_some, Option.some.injEq]

theorem eq_of_mem_copiesOf {piece text : List Char} {r : List Char × List Char} (h : r ∈ copiesOf piece text) :
    r.2 = piece := by
  obtain ⟨prev, rest, hpart⟩ := exists_of_mem_partsFrom h
  exact (eq_of_copyOf?.1 hpart).2.symm

/-! ## The expression of a literal pattern -/

def literalExpr (text : List Char) : Expr := .ofParts (text.map fun c => .chars (.single c))

theorem reads_literalExpr {text : List Char} (hne : text ≠ []) : (literalExpr text).Reads (copyOf? text) := by
  refine ⟨fun pre rest d => ?_, fun prev rest part hpart => ?_⟩
  · rw [literalExpr, Expr.matches_ofParts, Expr.inTurn_singles]
    constructor
    · rintro ⟨post, rfl, rfl⟩
      exact ⟨text, post, rfl, eq_of_copyOf?.2 ⟨List.prefix_append _ _, rfl⟩, rfl⟩
    · rintro ⟨part, post, rfl, hpart, rfl⟩
      obtain ⟨-, rfl⟩ := eq_of_copyOf?.1 hpart
      exact ⟨post, rfl, rfl⟩
  · obtain ⟨hhead, rfl⟩ := eq_of_copyOf?.1 hpart
    exact ⟨hne, hhead⟩

theorem slots_ofFactors {es : List Expr} (h : ∀ e ∈ es, e.slots = 1) : (Expr.ofFactors es).slots = 1 := by
  match es with
  | [] => rfl
  | [e] => exact h e List.mem_cons_self
  | e :: f :: es =>
    obtain ⟨he, hes⟩ := List.forall_mem_cons.1 h
    rw [Expr.ofFactors, Expr.slots, he, slots_ofFactors hes]
    · rfl
    · exact List.cons_ne_nil f es

theorem slots_literalExpr (text : List Char) : (literalExpr text).slots = 1 := by
  match text with
  | [] | [_] => rfl
  | c :: d :: text =>
    have hchars : ∀ e ∈ (c :: d :: text).map (fun c => Expr.chars (.single c)),
        e.factors = [e] ∧ e.slots = 1 := by
      intro e he
      obtain ⟨a, -, rfl⟩ := List.mem_map.1 he
      exact ⟨rfl, rfl⟩
    refine slots_ofFactors fun e he => ?_
    obtain ⟨f, hf, he⟩ := List.mem_flatMap.1 he
    rw [(hchars f hf).1, List.mem_singleton] at he
    exact he ▸ (hchars f hf).2

/-! ## The size of a literal pattern -/

theorem byteSequences_self (tail mark n : Nat) :
    ∃ bytes, byteSequences tail mark n n = [bytes] ∧ bytes.length = tail + 1 := by
  induction tail generalizing mark n with
  | zero => exact ⟨_, rfl, rfl⟩
  | succ tail ih =>
    obtain ⟨bytes, hbytes, hlength⟩ := ih 0x80 (n % Nat.pow 64 (tail + 1))
    rw [byteSequences]
    dsimp only
    rw [if_pos rfl, hbytes, List.map_singleton]
    exact ⟨_, rfl, congrArg Nat.succ hlength⟩

theorem length_rangeSequences_self (n : Nat) : (rangeSequences (n, n)).flatten.length ≤ 4 := by
  have hpart : ∀ tail mark lo hi,
      (if max lo n ≤ min hi n then byteSequences tail mark (max lo n) (min hi n) else []).flatten.length =
        if lo ≤ n ∧ n ≤ hi then tail + 1 else 0 := by
    intro tail mark lo hi
    by_cases h : lo ≤ n ∧ n ≤ hi
    · obtain ⟨bytes, hbytes, hlength⟩ := byteSequences_self tail mark n
      rw [Nat.max_eq_right h.1, Nat.min_eq_right h.2, if_pos (Nat.le_refl n), if_pos h, hbytes,
        List.flatten_singleton, hlength]
    · rw [if_neg (by omega), if_neg h]
      rfl
  simp only [rangeSequences, List.flatten_append, List.length_append, hpart]
  split_ifs <;> omega

theorem stateSize_single_le (backwards : Bool) (c : Char) :
    (Expr.chars (.single c)).stateSize backwards false ≤ 128 := by
  have hliteral : (Expr.chars (.single c)).isLiteral = true := beq_self_eq_true (c.toNat + 1)
  have hbytes := length_rangeSequences_self c.toNat
  have hsequences : (CharSet.single c).sequences = rangeSequences (c.toNat, c.toNat) := List.append_nil _
  rw [Expr.stateSize, if_pos hliteral, hsequences]
  omega

/-- A literal pattern of up to 80000 characters is not too large. -/
theorem not_tooLarge_of_literal {text : String} (hlength : text.length ≤ 80000) {o : Options}
    (hliteral : o.literal = true) (hcase : o.ignoreCase = false) (bound : Nat) :
    o.compile (o.effectiveSource text.toList) ≠ .error (.tooLarge bound) ∧
      o.compile (o.wholeSource text.toList) ≠ .error (.tooLarge bound) := by
  rw [Options.compile_of_literal hliteral hcase, Options.effectiveSource_of_literal hliteral,
    Options.wholeSource_of_literal hliteral hcase]
  refine (Spells.escape text.toList).not_tooLarge (fun backwards => ?_) bound
  have hsum := List.sum_le_card_nsmul
      ((text.toList.map fun c => Expr.chars (.single c)).map (Expr.stateSize backwards false)) 128 (by
    intro n hn
    rw [List.map_map] at hn
    obtain ⟨c, -, rfl⟩ := List.mem_map.1 hn
    exact stateSize_single_le backwards c)
  rw [List.length_map, List.length_map, String.length_toList, smul_eq_mul] at hsum
  unfold costLimit
  omega

/-! ## Literal patterns -/

/-- The pattern answers every question by looking for a text: it occurs where the text does, its occurrences are
the copies of the text, with nothing but the whole of each, and it matches the whole of no other text. -/
structure Pattern.Finds (p : Pattern) (text : String) : Prop where
  slotCount : p.slotCount = 1
  occursIn : ∀ input, p.occursIn input = true ↔ text.toList <:+: input.toList
  occurrences : ∀ input, p.occurrences input = (copiesOf text.toList input.toList).map fun r =>
    ⟨(wholeOf r).start, (wholeOf r).stop, [some (wholeOf r)]⟩
  fullMatches : ∀ input, p.fullMatches input = (copiesOf text.toList input.toList).map fun _ => text
  matchesWhole : ∀ input, p.matchesWhole input = .ok (decide (input = text))

section Literal

variable {text : String} {o : Options}

theorem compile_eq_literalExpr (hliteral : o.literal = true) (hcase : o.ignoreCase = false)
    (hsize : ∀ bound, o.compile (o.effectiveSource text.toList) ≠ .error (.tooLarge bound)) :
    Pattern.compile text o =
      .ok ⟨text, o, literalExpr text.toList, (literalExpr text.toList).program⟩ := by
  rw [Options.compile_of_literal hliteral hcase, Options.effectiveSource_of_literal hliteral] at hsize
  refine Pattern.compile_eq_ok.2 ⟨_, ?_, rfl⟩
  rw [Options.compile_of_literal hliteral hcase, Options.effectiveSource_of_literal hliteral]
  exact (Spells.escape text.toList).compile_of_size hsize

theorem finds_literalExpr (hne : text ≠ "") (hliteral : o.literal = true) (hcase : o.ignoreCase = false)
    (hwhole : ∀ bound, o.compile (o.wholeSource text.toList) ≠ .error (.tooLarge bound)) :
    (Pattern.mk text o (literalExpr text.toList) (literalExpr text.toList).program).Finds text := by
  have hne : text.toList ≠ [] := fun h => hne (String.toList_inj.1 h)
  have hreads := reads_literalExpr hne
  have hoccurrences := hreads.occurrences_of_slots (slots_literalExpr text.toList)
  refine ⟨slots_literalExpr _, fun input => ?_, fun input => hoccurrences input.toList, fun input => ?_,
    fun input => ?_⟩
  · refine hreads.occursIn_iff.trans ?_
    simp only [eq_of_copyOf?]
    constructor
    · rintro ⟨pre, rest, htext, _, ⟨post, rfl⟩, -⟩
      exact ⟨pre, post, by rw [htext, List.append_assoc]⟩
    · rintro ⟨pre, post, htext⟩
      exact ⟨pre, text.toList ++ post, by rw [← htext, List.append_assoc], _, List.prefix_append _ _, rfl⟩
  · rw [Pattern.fullMatches_eq, Pattern.occurrences, hoccurrences, List.map_map]
    refine List.map_congr_left fun r hr => ?_
    have hsame := eq_of_mem_copiesOf hr
    simp [Occurrence.text?, wholeOf, hsame]
  · have hsource : o.compile (o.wholeSource text.toList) =
        Options.none.compile (Options.none.wholeSource (Options.escape text.toList)) := by
      rw [Options.compile_of_literal hliteral hcase, Options.wholeSource_of_literal hliteral hcase]
    rw [hsource] at hwhole
    have hcompile := hsource.trans ((Spells.escape text.toList).compile_whole_of_size hwhole)
    have hmatch : (Pattern.mk text o (literalExpr text.toList) (literalExpr text.toList).program).matchesWhole
        input = .ok ((literalExpr text.toList).whole.program.occursIn input.toList) :=
      Pattern.matchesWhole_eq_ok.2 ⟨_, hcompile, rfl⟩
    have hplace : Cursor.ofText input.toList = .between [] input.toList := rfl
    refine hmatch.trans (congrArg Except.ok ?_)
    rw [Bool.eq_iff_iff, Expr.occursIn_whole, literalExpr, Expr.covers_ofParts, decide_eq_true_iff, hplace]
    simp only [Expr.inTurn_singles]
    constructor
    · rintro ⟨_, ⟨post, htext, rfl⟩, hend⟩
      obtain rfl : post = [] := hend
      rw [List.append_nil] at htext
      exact String.toList_inj.1 htext
    · rintro rfl
      exact ⟨_, ⟨[], (List.append_nil _).symm, rfl⟩, rfl⟩

/-- A literal pattern that is not too large, by itself and between the ends of the text, compiles and finds its
text, whether or not that would be a pattern by itself. Beside it all options but that on case change nothing. -/
theorem compile_literal (hne : text ≠ "") (hliteral : o.literal = true) (hcase : o.ignoreCase = false)
    (hsize : ∀ bound, o.compile (o.effectiveSource text.toList) ≠ .error (.tooLarge bound))
    (hwhole : ∀ bound, o.compile (o.wholeSource text.toList) ≠ .error (.tooLarge bound)) :
    ∃ p q, Pattern.compile text o = .ok p ∧ p.Finds text ∧
      Pattern.compile text { literal := true } = .ok q ∧ p = { q with options := o } ∧
      ∀ input, p.matchesWhole input = q.matchesWhole input := by
  have hfinds := finds_literalExpr hne hliteral hcase hwhole
  have halone : o.compile = ({ literal := true } : Options).compile := by
    rw [Options.compile_of_literal hliteral hcase, Options.compile_of_literal (o := { literal := true }) rfl rfl]
  have hsource : o.effectiveSource text.toList = ({ literal := true } : Options).effectiveSource text.toList := by
    rw [Options.effectiveSource_of_literal hliteral,
      Options.effectiveSource_of_literal (o := { literal := true }) rfl]
  have hsourceWhole : o.wholeSource text.toList = ({ literal := true } : Options).wholeSource text.toList := by
    rw [Options.wholeSource_of_literal hliteral hcase,
      Options.wholeSource_of_literal (o := { literal := true }) rfl rfl]
  refine ⟨_, _, compile_eq_literalExpr hliteral hcase hsize, hfinds,
    compile_eq_literalExpr rfl rfl (by rwa [← halone, ← hsource]), rfl, fun input => ?_⟩
  have hother := finds_literalExpr hne (o := { literal := true }) rfl rfl (by rwa [← halone, ← hsourceWhole])
  rw [hfinds.matchesWhole, hother.matchesWhole]

/-- A text that is no pattern, with blanks, a sign for comments and a line feed. -/
theorem compile_literal_metacharacters : isValid "[.(é #\n" = false ∧
    ∃ p q, Pattern.compile "[.(é #\n" ⟨false, true, true, true, true⟩ = .ok p ∧ p.Finds "[.(é #\n" ∧
      Pattern.compile "[.(é #\n" { literal := true } = .ok q ∧
      p = { q with options := ⟨false, true, true, true, true⟩ } ∧
      ∀ input, p.matchesWhole input = q.matchesWhole input := by
  refine ⟨by decide +kernel, compile_literal (by decide) rfl rfl (fun bound => ?_) fun bound => ?_⟩
  · exact (not_tooLarge_of_literal (by decide) rfl rfl bound).1
  · exact (not_tooLarge_of_literal (by decide) rfl rfl bound).2

end Literal

end TextPattern
