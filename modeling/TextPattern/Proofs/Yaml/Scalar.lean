import Mathlib.Data.List.TakeWhile
import TextPattern.Yaml.Scanner

/-!
# Scalars of a line

* `Cursor.ahead`, `Cursor.below` : a place further on its line, and one on the next line;
* `gapFrom_blanks`, `Cursor.gap_lineFeed` : a gap of blanks, and one with a line break;
* `doubled`, `quotedScalar_doubled` : a text between single quotes, in which each is written twice, is read as it is;
* `plainFrom_append`, `plainFrom_colon`, `plainFrom_lineFeed` : a word without quotes, and what may end it;
* `skipGapFor_of_settled`, `skipGapFor_blank`, `skipGapFor_lineFeed` : what is passed over in front of a token.
-/

namespace TextPattern.Yaml

/-! ## Places -/

namespace Cursor

/-- The place behind `n` other characters of its line, `rest` being the text behind it. -/
def ahead (c : Cursor) (n : Nat) (rest : List Char) : Cursor :=
  ⟨rest, ⟨c.mark.line, c.mark.column + n⟩, c.index + n⟩

/-- The place in a column of the next line, in front of which nothing but a line feed and blanks is passed. -/
def below (c : Cursor) (column : Nat) (rest : List Char) : Cursor :=
  ⟨rest, ⟨c.mark.line + 1, column⟩, c.index + 1 + column⟩

variable {c : Cursor} {d : Char} {rest : List Char}

theorem ahead_zero (h : c.rest = rest) : c.ahead 0 rest = c := by
  subst h
  rfl

theorem ahead_ahead (c : Cursor) (m n : Nat) (before rest : List Char) :
    (c.ahead m before).ahead n rest = c.ahead (m + n) rest := by
  simp only [ahead, Nat.add_assoc]

theorem skip_eq (h : c.rest = d :: rest) : c.skip = c.ahead 1 rest := by
  rw [skip, h]
  rfl

theorem skipMany_two {e : Char} (h : c.rest = d :: e :: rest) : c.skipMany 2 = c.ahead 2 rest := by
  rw [skipMany, skipMany, skipMany, skip_eq h]
  exact (skip_eq rfl).trans (ahead_ahead c 1 1 _ rest)

theorem look?_zero (h : c.rest = rest) : c.look? 0 = rest.head? := by
  rw [look?, h, List.head?_eq_getElem?]

theorem look?_one (h : c.rest = d :: rest) : c.look? 1 = rest.head? := by
  rw [look?, h, List.getElem?_cons_succ, List.head?_eq_getElem?]

theorem atDocumentMark_eq_false (h : c.mark.column ≠ 0) : c.atDocumentMark = false := by
  rw [atDocumentMark, atTriple, atTriple, decide_eq_false h]
  rfl

theorem span_append {p : Char → Bool} {front : List Char} (hc : c.rest = front ++ rest)
    (hfront : ∀ d ∈ front, p d = true) (hrest : ∀ d ∈ rest.head?, p d = false) :
    c.span p = (front, c.ahead front.length rest) := by
  have hfrom : ∀ front taken mark index, (∀ d ∈ front, p d = true) →
      spanFrom p (front ++ rest) mark index taken =
        (taken.reverse ++ front, ⟨rest, ⟨mark.line, mark.column + front.length⟩, index + front.length⟩) := by
    intro front
    induction front with
    | nil =>
      intro taken mark index _
      rw [List.nil_append, List.append_nil]
      cases rest with
      | nil => rfl
      | cons d rest =>
        rw [spanFrom, if_neg (Bool.eq_false_iff.1 (hrest d rfl))]
        rfl
    | cons d front ih =>
      intro taken mark index hall
      obtain ⟨hd, hall⟩ := List.forall_mem_cons.1 hall
      rw [List.cons_append, spanFrom, if_pos hd, ih _ _ _ hall]
      simp only [Mark.nextColumn, List.reverse_cons, List.append_assoc, List.singleton_append, List.length_cons,
        Nat.add_assoc, Nat.add_comm 1]
  rw [span, hc, hfrom front [] c.mark c.index hfront]
  rfl

end Cursor

/-! ## Gaps -/

def EndsGap (rest : List Char) : Prop := ∀ d ∈ rest.head?, isBlank d = false ∧ isBreak d = false

section Gap

variable {c : Cursor} {limit : Nat} {blanks rest : List Char}

theorem gapFrom_of_endsGap (h : EndsGap rest) (mark : Mark) (index : Nat) (g : Gap) :
    gapFrom limit rest mark index g = .ok (g, ⟨rest, mark, index⟩) := by
  cases rest with
  | nil => rfl
  | cons d rest =>
    obtain ⟨hblank, hbreak⟩ := h d rfl
    have hreturn : ∀ tail, d = '\r' → rest = '\n' :: tail → False := by
      rintro _ rfl -
      cases hbreak
    rw [gapFrom, if_neg (Bool.eq_false_iff.1 hblank), if_neg (Bool.eq_false_iff.1 hbreak)]
    exact hreturn

theorem gapFrom_blank {d : Char} (hd : isBlank d = true) {g : Gap} (hg : g.first = none ∨ d = ' ') (mark : Mark)
    (index : Nat) : gapFrom limit (d :: rest) mark index g =
      gapFrom limit rest mark.nextColumn (index + 1) (g.addBlank d) := by
  have hreturn : ∀ tail, d = '\r' → rest = '\n' :: tail → False := by
    rintro _ rfl -
    cases hd
  have htab : ¬(g.first.isSome && decide (d = '\t') && decide (mark.column < limit)) = true := by
    rcases hg with hg | rfl
    · rw [hg]
      exact Bool.false_ne_true
    · rw [show decide (' ' = '\t') = false from rfl, Bool.and_false]
      exact Bool.false_ne_true
  rw [gapFrom, if_pos hd, if_neg htab]
  exact hreturn

/-- Blanks between two words of a line are kept. -/
theorem gapFrom_blanks (hblanks : ∀ d ∈ blanks, isBlank d = true) (hrest : EndsGap rest) {g : Gap}
    (hg : g.first = none) (mark : Mark) (index : Nat) :
    gapFrom limit (blanks ++ rest) mark index g = .ok ({ g with blanks := blanks.reverse ++ g.blanks },
      ⟨rest, ⟨mark.line, mark.column + blanks.length⟩, index + blanks.length⟩) := by
  induction blanks generalizing mark index g with
  | nil => exact gapFrom_of_endsGap hrest mark index g
  | cons d blanks ih =>
    obtain ⟨hd, hblanks⟩ := List.forall_mem_cons.1 hblanks
    have hadd : g.addBlank d = { g with blanks := d :: g.blanks } := by
      rw [Gap.addBlank, hg]
      rfl
    rw [List.cons_append, gapFrom_blank hd (.inl hg), hadd,
      ih hblanks (show ({ g with blanks := d :: g.blanks } : Gap).first = none from hg)]
    simp only [Mark.nextColumn, List.reverse_cons, List.append_assoc, List.singleton_append, List.length_cons,
      Nat.add_assoc, Nat.add_comm 1]

/-- Blanks in front of the first word of a line are dropped. -/
theorem gapFrom_indent (column : Nat) (hrest : EndsGap rest) {g : Gap} (hg : g.first.isSome = true) (mark : Mark)
    (index : Nat) : gapFrom limit (List.replicate column ' ' ++ rest) mark index g =
      .ok (g, ⟨rest, ⟨mark.line, mark.column + column⟩, index + column⟩) := by
  induction column generalizing mark index with
  | zero => exact gapFrom_of_endsGap hrest mark index g
  | succ column ih =>
    have hadd : g.addBlank ' ' = g := if_pos hg
    rw [List.replicate_succ, List.cons_append, gapFrom_blank rfl (.inr rfl), hadd, ih]
    simp only [Mark.nextColumn, Nat.add_assoc, Nat.add_comm 1]

theorem Cursor.gap_blanks (hc : c.rest = blanks ++ rest) (hblanks : ∀ d ∈ blanks, isBlank d = true)
    (hrest : EndsGap rest) : c.gap limit {} = .ok (⟨blanks.reverse, none, []⟩, c.ahead blanks.length rest) := by
  rw [Cursor.gap, hc, gapFrom_blanks hblanks hrest rfl, List.append_nil]
  rfl

theorem Cursor.gap_lineFeed {column : Nat} (hc : c.rest = '\n' :: (List.replicate column ' ' ++ rest))
    (hrest : EndsGap rest) : c.gap limit {} = .ok (⟨[], some ['\n'], []⟩, c.below column rest) := by
  have hfeed : ∀ rest mark index, gapFrom limit ('\n' :: rest) mark index {} =
      gapFrom limit rest mark.nextLine (index + 1) ⟨[], some ['\n'], []⟩ := by
    intro rest mark index
    rw [gapFrom, if_neg (by decide), if_pos (by decide)]
    · rfl
    · exact fun _ h => absurd h (by decide)
  rw [Cursor.gap, hc, hfeed, gapFrom_indent column hrest rfl]
  simp only [Mark.nextLine, Nat.zero_add]
  rfl

end Gap

/-! ## Quoted scalars -/

/-- The text with each single quote written twice. -/
def doubled (text : List Char) : List Char := text.flatMap fun c => if c = '\'' then ['\'', '\''] else [c]

theorem doubled_append (front behind : List Char) : doubled (front ++ behind) = doubled front ++ doubled behind :=
  List.flatMap_append

theorem doubled_cons_quote (text : List Char) : doubled ('\'' :: text) = '\'' :: '\'' :: doubled text := rfl

theorem doubled_cons {d : Char} (hd : d ≠ '\'') (text : List Char) : doubled (d :: text) = d :: doubled text := by
  rw [doubled, List.flatMap_cons, if_neg hd]
  rfl

theorem doubled_eq_self {text : List Char} (h : '\'' ∉ text) : doubled text = text := by
  induction text with
  | nil => rfl
  | cons c text ih =>
    obtain ⟨hc, htext⟩ := not_or.1 (List.mem_cons.not.1 h)
    rw [doubled_cons (Ne.symm hc), ih htext]

theorem mem_of_mem_doubled {text : List Char} {c : Char} (h : c ∈ doubled text) : c ∈ text := by
  obtain ⟨d, hd, hc⟩ := List.mem_flatMap.1 h
  split at hc
  · next hquote =>
    obtain rfl : c = '\'' := by simpa using hc
    exact hquote ▸ hd
  · exact List.mem_singleton.1 hc ▸ hd

theorem length_le_doubled (text : List Char) : text.length ≤ (doubled text).length := by
  induction text with
  | nil => exact le_rfl
  | cons c text ih =>
    by_cases hc : c = '\''
    · rw [hc, doubled_cons_quote, List.length_cons, List.length_cons, List.length_cons]
      omega
    · rw [doubled_cons hc, List.length_cons, List.length_cons]
      omega

section Quoted

variable {c : Cursor} {start : Mark} {rounds : Nat} {d : Char} {text blanks rest done : List Char}

theorem quotedFrom_end (hcolumn : c.mark.column ≠ 0) (hc : c.rest = '\'' :: rest) (hrest : rest.head? ≠ some '\'') :
    quotedFrom true start (rounds + 1) c done = .ok (done.reverse, c.ahead 1 rest) := by
  rw [quotedFrom, if_neg (Bool.eq_false_iff.1 (Cursor.atDocumentMark_eq_false hcolumn)), Cursor.look?_one hc, hc]
  simp only [hrest, decide_false, Bool.and_false, Bool.false_eq_true, if_false, if_true, Cursor.skip_eq hc]

theorem quotedFrom_quote (hcolumn : c.mark.column ≠ 0) (hc : c.rest = '\'' :: '\'' :: rest) :
    quotedFrom true start (rounds + 1) c done = quotedFrom true start rounds (c.ahead 2 rest) ('\'' :: done) := by
  rw [quotedFrom, if_neg (Bool.eq_false_iff.1 (Cursor.atDocumentMark_eq_false hcolumn)), Cursor.look?_one hc, hc]
  simp only [List.head?_cons, decide_true, Bool.and_self, if_true, Cursor.skipMany_two hc]

theorem quotedFrom_char (hcolumn : c.mark.column ≠ 0) (hc : c.rest = d :: rest) (hquote : d ≠ '\'')
    (hblank : isBlank d = false) (hbreak : isBreak d = false) :
    quotedFrom true start (rounds + 1) c done = quotedFrom true start rounds (c.ahead 1 rest) (d :: done) := by
  rw [quotedFrom, if_neg (Bool.eq_false_iff.1 (Cursor.atDocumentMark_eq_false hcolumn)), hc]
  simp only [hquote, hblank, hbreak, decide_false, Bool.and_false, Bool.false_and, Bool.not_true, Bool.or_self,
    Bool.false_eq_true, if_false, if_true, Cursor.skip_eq hc]

theorem quotedFrom_blanks (hcolumn : c.mark.column ≠ 0) (hc : c.rest = blanks ++ rest) (hne : blanks ≠ [])
    (hblanks : ∀ d ∈ blanks, isBlank d = true) (hrest : EndsGap rest) :
    quotedFrom true start (rounds + 1) c done =
      quotedFrom true start rounds (c.ahead blanks.length rest) (blanks.reverse ++ done) := by
  obtain ⟨d, tail, rfl⟩ := List.exists_cons_of_ne_nil hne
  have hd := hblanks d List.mem_cons_self
  have hquote : d ≠ '\'' := by
    rintro rfl
    cases hd
  rw [quotedFrom, if_neg (Bool.eq_false_iff.1 (Cursor.atDocumentMark_eq_false hcolumn)),
    Cursor.gap_blanks hc hblanks hrest, hc, List.cons_append]
  simp only [hquote, hd, decide_false, Bool.and_false, Bool.false_and, Bool.not_true, Bool.true_or,
    Bool.false_eq_true, if_false, if_true, Gap.text, List.reverse_reverse]

theorem exists_blanks (hd : isBlank d = true) (text : List Char) : ∃ blanks remain, d :: text = blanks ++ remain ∧
    blanks ≠ [] ∧ (∀ e ∈ blanks, isBlank e = true) ∧ ∀ e ∈ remain.head?, isBlank e = false := by
  refine ⟨(d :: text).takeWhile isBlank, (d :: text).dropWhile isBlank, List.takeWhile_append_dropWhile.symm, ?_,
    fun e => List.mem_takeWhile_imp, fun e he => ?_⟩
  · rw [List.takeWhile_cons_of_pos hd]
    exact List.cons_ne_nil _ _
  · have hhead := List.head?_dropWhile_not isBlank (d :: text)
    rw [Option.mem_def.1 he] at hhead
    exact hhead

theorem endsGap_doubled (htext : ∀ e ∈ text, isBreak e = false) (hhead : ∀ e ∈ text.head?, isBlank e = false) :
    EndsGap (doubled text ++ '\'' :: rest) := by
  rcases text with _ | ⟨e, text⟩
  · rintro _ ⟨⟩
    exact ⟨rfl, rfl⟩
  · by_cases hquote : e = '\''
    · rw [hquote, doubled_cons_quote]
      rintro _ ⟨⟩
      exact ⟨rfl, rfl⟩
    · rw [doubled_cons hquote]
      rintro _ ⟨⟩
      exact ⟨hhead e rfl, htext e List.mem_cons_self⟩

/-- Between quotes that are doubled, a text without line breaks is read as it is. -/
theorem quotedFrom_doubled (htext : ∀ d ∈ text, isBreak d = false) (hrest : rest.head? ≠ some '\'')
    (hrounds : text.length < rounds) (hcolumn : c.mark.column ≠ 0) (hc : c.rest = doubled text ++ '\'' :: rest) :
    quotedFrom true start rounds c done =
      .ok (done.reverse ++ text, c.ahead ((doubled text).length + 1) rest) := by
  -- A gap takes all blanks up to the next word at once, so the induction is on the length.
  induction hlength : text.length using Nat.strong_induction_on generalizing text rounds c done with
  | _ n ih =>
    subst hlength
    obtain ⟨rounds, rfl⟩ : ∃ r, rounds = r + 1 := Nat.exists_eq_add_one_of_ne_zero (by omega)
    have hahead : ∀ m behind, (c.ahead m behind).mark.column ≠ 0 := fun m behind h =>
      hcolumn (Nat.eq_zero_of_add_eq_zero_right h)
    rcases text with _ | ⟨d, text⟩
    · rw [quotedFrom_end hcolumn hc hrest, List.append_nil]
      rfl
    · obtain ⟨hd, htail⟩ := List.forall_mem_cons.1 htext
      rw [List.length_cons] at hrounds
      by_cases hquote : d = '\''
      · subst hquote
        rw [doubled_cons_quote, List.cons_append, List.cons_append] at hc
        rw [quotedFrom_quote hcolumn hc, ih text.length (Nat.lt_succ_self _) htail (by omega) (hahead 2 _) rfl rfl,
          Cursor.ahead_ahead, List.reverse_cons, List.append_assoc, doubled_cons_quote, List.length_cons,
          List.length_cons, Nat.add_comm 2, Nat.add_right_comm]
        rfl
      · by_cases hblank : isBlank d = true
        · obtain ⟨blanks, remain, hsplit, hne, hblanks, hremain⟩ := exists_blanks hblank text
          rw [hsplit, List.forall_mem_append] at htext
          have hself : doubled blanks = blanks := doubled_eq_self fun hmem => Bool.false_ne_true (hblanks _ hmem)
          have hlength := congrArg List.length hsplit
          rw [List.length_cons, List.length_append] at hlength
          have hpos := List.length_pos_iff.2 hne
          rw [hsplit, doubled_append, hself, List.append_assoc] at hc
          rw [quotedFrom_blanks hcolumn hc hne hblanks (endsGap_doubled htext.2 hremain),
            ih remain.length (by rw [List.length_cons]; omega) htext.2 (by omega) (hahead blanks.length _) rfl rfl,
            Cursor.ahead_ahead, List.reverse_append, List.reverse_reverse, List.append_assoc, hsplit, doubled_append,
            hself, List.length_append, Nat.add_assoc]
        · rw [Bool.not_eq_true] at hblank
          rw [doubled_cons hquote, List.cons_append] at hc
          rw [quotedFrom_char hcolumn hc hquote hblank hd,
            ih text.length (Nat.lt_succ_self _) htail (by omega) (hahead 1 _) rfl rfl, Cursor.ahead_ahead,
            List.reverse_cons, List.append_assoc, doubled_cons hquote, List.length_cons, Nat.add_comm 1]
          rfl

/-- A text without line breaks is read back from between single quotes, in which it has each quote twice. -/
theorem quotedScalar_doubled (htext : ∀ d ∈ text, isBreak d = false) (hrest : rest.head? ≠ some '\'')
    (hc : c.rest = '\'' :: (doubled text ++ '\'' :: rest)) :
    quotedScalar true c = .ok (text, c.ahead ((doubled text).length + 2) rest) := by
  have hrounds : text.length < c.rest.length + 1 := by
    have hdoubled := length_le_doubled text
    rw [hc, List.length_cons, List.length_append]
    omega
  have hcolumn : (c.ahead 1 (doubled text ++ '\'' :: rest)).mark.column ≠ 0 := Nat.succ_ne_zero _
  rw [quotedScalar, Cursor.skip_eq hc, quotedFrom_doubled htext hrest hrounds hcolumn rfl, Cursor.ahead_ahead,
    Nat.add_comm 1]
  rfl

end Quoted

/-! ## Plain scalars -/

def inWord (d : Char) : Bool := !isBlank d && !isBreak d && d ≠ ':' && d ≠ '#'

section Plain

variable {c : Cursor} {limit rounds : Nat} {start stop : Mark} {fresh : Bool} {g : Gap} {d : Char}
  {word rest done : List Char}

theorem plainFrom_char (hc : c.rest = d :: rest) (hd : inWord d = true)
    (hfresh : fresh = true → c.atDocumentMark = false) :
    plainFrom false limit start (rounds + 1) c fresh g done stop =
      plainFrom false limit start rounds (c.ahead 1 rest) false {} (d :: (g.text.reverse ++ done))
        (c.ahead 1 rest).mark := by
  simp only [inWord, Bool.and_eq_true, Bool.not_eq_true', decide_eq_true_iff] at hd
  obtain ⟨⟨⟨hblank, hbreak⟩, hcolon⟩, hcomment⟩ := hd
  have hmark : (fresh && (c.atDocumentMark || decide (d = '#'))) = false := by
    cases fresh with
    | false => rfl
    | true => rw [hfresh rfl, decide_eq_false hcomment]; rfl
  rw [plainFrom, hc]
  simp only [hblank, hbreak, hcolon, hmark, Bool.or_self, decide_false, Bool.and_false, Bool.false_and,
    Bool.false_eq_true, if_false, Cursor.skip_eq hc]

theorem plainFrom_append (hword : ∀ e ∈ word, inWord e = true) (hc : c.rest = word ++ rest) :
    plainFrom false limit start (word.length + rounds) c false {} done c.mark =
      plainFrom false limit start rounds (c.ahead word.length rest) false {} (word.reverse ++ done)
        (c.ahead word.length rest).mark := by
  induction word generalizing c done with
  | nil =>
    rw [List.nil_append] at hc
    rw [List.length_nil, Nat.zero_add, Cursor.ahead_zero hc]
    rfl
  | cons d word ih =>
    obtain ⟨hd, hword⟩ := List.forall_mem_cons.1 hword
    rw [List.length_cons, Nat.add_right_comm, plainFrom_char hc hd (fun h => Bool.noConfusion h)]
    refine (ih hword rfl).trans ?_
    rw [Cursor.ahead_ahead, Nat.add_comm 1, List.reverse_cons, List.append_assoc]
    rfl

theorem plainFrom_colon (hc : c.rest = ':' :: rest) (hrest : endsWord rest.head? = true) :
    plainFrom false limit start (rounds + 1) c false g done stop = .ok ⟨done.reverse, stop, c, g.first.isSome⟩ := by
  rw [plainFrom, Cursor.look?_one hc, hc, hrest]
  rfl

theorem plainFrom_end (hc : c.rest = []) :
    plainFrom false limit start (rounds + 1) c false g done stop = .ok ⟨done.reverse, stop, c, g.first.isSome⟩ := by
  rw [plainFrom, hc]

theorem plainFrom_lineFeed {column : Nat} (hc : c.rest = '\n' :: (List.replicate column ' ' ++ rest))
    (hrest : EndsGap rest) (hcolumn : column < limit) :
    plainFrom false limit start (rounds + 1) c false g done stop =
      .ok ⟨done.reverse, stop, c.below column rest, true⟩ := by
  have hbelow : (!false && decide ((c.below column rest).mark.column < limit)) = true := decide_eq_true hcolumn
  rw [plainFrom, Cursor.gap_lineFeed hc hrest, hc]
  simp only
  rw [if_pos (by decide), if_pos hbelow]
  rfl

theorem plainScalar_word (hc : c.rest = d :: (word ++ ':' :: rest)) (hmark : c.atDocumentMark = false)
    (hword : ∀ e ∈ d :: word, inWord e = true) (hrest : endsWord rest.head? = true) :
    plainScalar false limit c = .ok ⟨d :: word, (c.ahead (word.length + 1) (':' :: rest)).mark,
      c.ahead (word.length + 1) (':' :: rest), false⟩ := by
  obtain ⟨hd, hword⟩ := List.forall_mem_cons.1 hword
  have hrounds : c.rest.length = word.length + (rest.length + 1 + 1) := by
    rw [hc, List.length_cons, List.length_append, List.length_cons]
    rfl
  rw [plainScalar, plainFrom_char hc hd fun _ => hmark, hrounds]
  refine (plainFrom_append hword rfl).trans ?_
  rw [plainFrom_colon rfl hrest, Cursor.ahead_ahead, Nat.add_comm 1, List.reverse_append, List.reverse_reverse]
  rfl

end Plain

/-! ## Between tokens -/

/-- The text goes on with what is no part of a gap between tokens. -/
def Settled (rest : List Char) : Prop :=
  ∀ d ∈ rest.head?, isBlank d = false ∧ isBreak d = false ∧ d ≠ '#' ∧ d ≠ '\ufeff'

theorem Settled.endsGap {rest : List Char} (h : Settled rest) : EndsGap rest :=
  fun d hd => ⟨(h d hd).1, (h d hd).2.1⟩

theorem settled_cons {d : Char} (hblank : isBlank d = false) (hbreak : isBreak d = false) (hcomment : d ≠ '#')
    (hmark : d ≠ '\ufeff') (rest : List Char) : Settled (d :: rest) := by
  rintro _ ⟨⟩
  exact ⟨hblank, hbreak, hcomment, hmark⟩

theorem settled_nil : Settled [] := fun _ h => absurd h (Option.not_mem_none _)

section SkipGap

variable {c : Cursor} {rounds column : Nat} {keyAllowed : Bool} {rest : List Char}

theorem skipGapFor_blanks (hc : c.rest = List.replicate column ' ' ++ rest) (hrest : Settled rest) :
    Scanner.skipGapFor false (rounds + 1) keyAllowed c = (keyAllowed, c.ahead column rest) := by
  have hmark : c.look? 0 ≠ some '\ufeff' := by
    rw [Cursor.look?_zero hc]
    cases column with
    | zero => exact fun h => (hrest _ h).2.2.2 rfl
    | succ column => exact fun h => absurd (Option.some.inj h) (by decide)
  have hspan : c.span (fun d => d = ' ' || ((false || !keyAllowed) && d = '\t')) =
      (List.replicate column ' ', c.ahead column rest) := by
    have hblank : ∀ d, isBlank d = false → (d = ' ' || ((false || !keyAllowed) && d = '\t')) = false := by
      intro d hd
      rw [isBlank, Bool.or_eq_false_iff] at hd
      rw [hd.1, hd.2, Bool.and_false, Bool.or_false]
    rw [Cursor.span_append hc (fun d hd => by rw [List.eq_of_mem_replicate hd]; rfl)
      fun d hd => hblank d (hrest d hd).1, List.length_replicate]
  have hcomment : (c.ahead column rest).look? 0 ≠ some '#' := by
    rw [Cursor.look?_zero rfl]
    exact fun h => (hrest _ h).2.2.1 rfl
  have hbreak : ((c.ahead column rest).look? 0).any isBreak = false := by
    rw [Cursor.look?_zero rfl, Option.any_eq_false]
    exact fun d hd => (hrest d hd).2.1
  rw [Scanner.skipGapFor]
  simp only [hmark, decide_false, Bool.and_false, Bool.false_eq_true, if_false, hspan, hcomment, hbreak]

theorem skipGapFor_of_settled (hrest : Settled c.rest) :
    Scanner.skipGapFor false (rounds + 1) keyAllowed c = (keyAllowed, c) := by
  rw [skipGapFor_blanks (show c.rest = List.replicate 0 ' ' ++ c.rest from rfl) hrest, Cursor.ahead_zero rfl]

/-- The indentation of a line is passed over, behind which a key may begin. -/
theorem skipGapFor_lineFeed (hc : c.rest = '\n' :: (List.replicate column ' ' ++ rest)) (hrest : Settled rest) :
    Scanner.skipGapFor false (rounds + 2) keyAllowed c = (true, c.below column rest) := by
  have hspan : c.span (fun d => d = ' ' || ((false || !keyAllowed) && d = '\t')) = ([], c) := by
    have hfeed : ∀ d ∈ c.rest.head?, (d = ' ' || ((false || !keyAllowed) && d = '\t')) = false := by
      rw [hc]
      rintro _ ⟨⟩
      rw [show decide ('\n' = '\t') = false from rfl, Bool.and_false]
      rfl
    exact Cursor.span_append (List.nil_append _).symm (fun d hd => absurd hd List.not_mem_nil) hfeed
  have hlook : c.look? 0 = some '\n' := Cursor.look?_zero hc
  have hmark : decide (some '\n' = some '\ufeff') = false := by decide
  have hcomment : some '\n' ≠ some '#' := by decide
  have hbreak : (some '\n').any isBreak = true := rfl
  have hbelow : c.takeBreak.2 = ⟨List.replicate column ' ' ++ rest, c.mark.nextLine, c.index + 1⟩ := by
    rw [Cursor.takeBreak, hc]
    rfl
  rw [Scanner.skipGapFor]
  simp only [hlook, hmark, Bool.and_false, Bool.false_eq_true, if_false, hspan, hcomment, hbreak, if_true, hbelow]
  rw [skipGapFor_blanks rfl hrest, Bool.not_false, Bool.or_true]
  simp only [Cursor.ahead, Cursor.below, Mark.nextLine, Nat.zero_add]

end SkipGap

end TextPattern.Yaml
