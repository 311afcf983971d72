import TextPattern.Proofs.Yaml.Scanner

/-!
# Tokens of quoted entries

* `entryChars`, `linesTail` : an entry with its name and its text in single quotes, and lines of such entries;
* `Tail.Passed` : where the scanner stands behind a value;
* `Has.step_value`, `step_name`, `steps_entry`, `steps_entries` : what the scanner makes of a value, of a name, of an
  entry and of all entries;
* `tokensOf_document` : the tokens of a document of such lines.
-/

namespace TextPattern.Yaml

/-! ## The lines of a document -/

/-- What follows a value: the end of the text, or another line with its indentation. -/
inductive Tail where
  | nothing
  | line (column : Nat) (rest : List Char)

def Tail.chars : Tail → List Char
  | nothing => []
  | line column rest => '\n' :: (List.replicate column ' ' ++ rest)

/-- The line that follows, if any, is less indented than `limit` and begins with a token. -/
def Tail.Fits (limit : Nat) : Tail → Prop
  | nothing => True
  | line column rest => column < limit ∧ Settled rest

def valueChars : Option (List Char) → List Char
  | some text => '\'' :: (doubled text ++ ['\''])
  | none => ['~']

/-- The text of a value as a scalar, and whether it is without quotes. -/
def valueScalar : Option (List Char) → String × Bool
  | some text => (String.ofList text, false)
  | none => ("~", true)

def valueKind (value : Option (List Char)) : Token.Kind := .scalar (valueScalar value).1 (valueScalar value).2

def entryChars (e : List Char × Option (List Char)) : List Char :=
  '\'' :: (doubled e.1 ++ '\'' :: ':' :: ' ' :: valueChars e.2)

def entryKinds (e : List Char × Option (List Char)) : List Token.Kind :=
  [.key, .scalar (String.ofList e.1) false, .value, valueKind e.2]

theorem length_flatMap_const {α β : Type} {f : α → List β} {n : Nat} (hf : ∀ a, (f a).length = n) (l : List α) :
    (l.flatMap f).length = l.length * n := by
  induction l with
  | nil => exact (Nat.zero_mul n).symm
  | cons a l ih => rw [List.flatMap_cons, List.length_append, ih, hf, List.length_cons, Nat.succ_mul, Nat.add_comm]

/-- An entry can be written in a line: its characters may occur and break no line, and its name is short enough for a
key. -/
structure OnLine (e : List Char × Option (List Char)) : Prop where
  name : ∀ d ∈ e.1, isAllowed d = true ∧ isBreak d = false
  short : (doubled e.1).length + 2 ≤ Scanner.keyLimit
  text : ∀ text ∈ e.2, ∀ d ∈ text, isAllowed d = true ∧ isBreak d = false

def linesTail : List (List Char × Option (List Char)) → (ending : Tail) → Tail
  | [], ending => ending
  | e :: entries, ending => .line 2 (entryChars e ++ (linesTail entries ending).chars)

/-- Where a scanner stands behind a value: in front of what follows, or already behind the indentation of its line. -/
def Tail.Passed (keyAllowed : Bool) (place : Cursor) : Tail → Prop
  | nothing => place.rest = []
  | line column rest => place.rest = '\n' :: (List.replicate column ' ' ++ rest) ∨
      keyAllowed = true ∧ place.rest = rest ∧ place.mark.column = column

section Tail

variable {tail ending : Tail} {keyAllowed : Bool} {place : Cursor} {limit column : Nat} {rest : List Char}
  {entries : List (List Char × Option (List Char))}

theorem Tail.passed_of_rest (h : place.rest = tail.chars) : tail.Passed keyAllowed place := by
  cases tail with
  | nothing => exact h
  | line column rest => exact .inl h

theorem Tail.head?_chars (tail : Tail) : tail.chars.head? = none ∨ tail.chars.head? = some '\n' := by
  cases tail with
  | nothing => exact .inl rfl
  | line column rest => exact .inr rfl

/-- A line is reached behind its indentation, where a key may begin. -/
theorem Tail.Passed.exists_skipGapFor (h : (line column rest).Passed keyAllowed place) (hrest : Settled rest) :
    ∃ behind, Scanner.skipGapFor false (place.rest.length + 1) keyAllowed place = (true, behind) ∧
      behind.rest = rest ∧ behind.mark.column = column := by
  rcases h with hplace | ⟨hkey, hplace, hcolumn⟩
  · refine ⟨place.below column rest, ?_, rfl, rfl⟩
    rw [hplace, List.length_cons, skipGapFor_lineFeed hplace hrest]
  · refine ⟨place, ?_, hplace, hcolumn⟩
    rw [hkey, skipGapFor_of_settled (hplace ▸ hrest)]

theorem settled_entryChars (e : List Char × Option (List Char)) (rest : List Char) : Settled (entryChars e ++ rest) :=
  settled_cons rfl rfl (by decide) (by decide) _

theorem fits_linesTail (hending : ending.Fits 3) : (linesTail entries ending).Fits 3 := by
  cases entries with
  | nil => exact hending
  | cons e entries => exact ⟨by decide, settled_entryChars e _⟩

theorem exists_plainScalar_tilde (hplace : place.rest = '~' :: tail.chars) (hcolumn : place.mark.column ≠ 0)
    (htail : tail.Fits limit) :
    ∃ p, plainScalar false limit place = .ok p ∧ p.text = ['~'] ∧ tail.Passed p.lineEnds p.behind := by
  have hchar : plainScalar false limit place = plainFrom false limit place.mark (tail.chars.length + 1)
      (place.ahead 1 tail.chars) false {} ['~'] (place.ahead 1 tail.chars).mark := by
    rw [plainScalar, hplace, List.length_cons,
      plainFrom_char hplace rfl fun _ => Cursor.atDocumentMark_eq_false hcolumn]
    rfl
  cases tail with
  | nothing => exact ⟨_, hchar.trans (plainFrom_end rfl), rfl, rfl⟩
  | line column rest =>
    exact ⟨_, hchar.trans (plainFrom_lineFeed rfl htail.2.endsGap htail.1), rfl, .inr ⟨rfl, rfl, rfl⟩⟩

end Tail

namespace Scanner

/-! ## The steps of an entry -/

section Entry

variable {s : Scanner} {kinds : List Token.Kind} {indents : List Nat} {tail ending : Tail}
  {e : List Char × Option (List Char)} {entries : List (List Char × Option (List Char))}
  {value : Option (List Char)}

theorem Has.step_value (h : s.Has kinds indents none) (hkey : s.keyAllowed = false)
    (hplace : s.place.rest = ' ' :: (valueChars value ++ tail.chars))
    (hcolumn : ∀ i ∈ indents.head?, i ≤ s.place.mark.column)
    (hvalue : ∀ text ∈ value, ∀ d ∈ text, isBreak d = false) (htail : tail.Fits (indents.head?.elim 0 (· + 1))) :
    ∃ t, s.step = .ok t ∧ t.Has (valueKind value :: kinds) indents none ∧ tail.Passed t.keyAllowed t.place := by
  have hsettled : Settled (valueChars value ++ tail.chars) := by
    cases value with
    | none => exact settled_cons rfl rfl (by decide) (by decide) _
    | some text => exact settled_cons rfl rfl (by decide) (by decide) _
  have hgap : skipGapFor false (s.place.rest.length + 1) s.keyAllowed s.place =
      (false, s.place.ahead 1 (valueChars value ++ tail.chars)) := by
    rw [hkey]
    exact skipGapFor_blanks hplace hsettled
  have hmark := Cursor.atDocumentMark_eq_false
    (show (s.place.ahead 1 (valueChars value ++ tail.chars)).mark.column ≠ 0 from Nat.succ_ne_zero _)
  have hmoved := h.moved false (s.place.ahead 1 (valueChars value ++ tail.chars))
  have hstep : ∀ d rest, valueChars value ++ tail.chars = d :: rest →
      s.step = (s.moved false (s.place.ahead 1 (valueChars value ++ tail.chars))).token d rest.head? :=
    fun d rest hrest => h.step_token hgap (fun k hk => absurd hk (Option.not_mem_none k))
      (fun i hi => Nat.le_succ_of_le (hcolumn i hi)) hrest
  cases value with
  | none =>
    obtain ⟨p, hp, htext, hpassed⟩ := exists_plainScalar_tilde
      (show (s.place.ahead 1 ('~' :: tail.chars)).rest = _ from rfl) (Nat.succ_ne_zero _) htail
    obtain ⟨t, ht, hhas, hat, hallowed⟩ := hmoved.plain hp
    refine ⟨t, (hstep _ _ rfl).trans ((token_tilde hmark _).trans ht), ?_, ?_⟩
    · rw [htext] at hhas
      exact hhas
    · rw [hat, hallowed]
      exact hpassed
  | some text =>
    have hquote : tail.chars.head? ≠ some '\'' := by
      rcases tail.head?_chars with hhead | hhead <;> rw [hhead] <;> decide
    have hchars : valueChars (some text) ++ tail.chars = '\'' :: (doubled text ++ '\'' :: tail.chars) := by
      rw [valueChars, List.cons_append, List.append_assoc]
      rfl
    obtain ⟨t, ht, hhas, hat, -⟩ := hmoved.quoted (hvalue text rfl) hquote hchars
    refine ⟨t, (hstep _ _ hchars).trans ((token_quote hmark _).trans ht), hhas, ?_⟩
    rw [hat]
    exact Tail.passed_of_rest rfl

/-- The name of an entry is a possible key in the column of its line, and near enough to what follows it. -/
theorem Has.step_name {name rest : List Char} (h : s.Has kinds indents none)
    (hpassed : (Tail.line 2 ('\'' :: (doubled name ++ '\'' :: rest))).Passed s.keyAllowed s.place)
    (hindents : ∀ i ∈ indents.head?, i ≤ 2) (hname : ∀ d ∈ name, isBreak d = false)
    (hshort : (doubled name).length + 2 ≤ keyLimit) (hrest : rest.head? ≠ some '\'') :
    ∃ t k, s.step = .ok t ∧ t.Has (.scalar (String.ofList name) false :: kinds) indents (some k) ∧
      k.number = kinds.length ∧ k.mark.column = 2 ∧ tooFar k t.place = false ∧ t.place.rest = rest ∧
      2 < t.place.mark.column := by
  obtain ⟨place, hgap, hplace, hcolumn⟩ :=
    hpassed.exists_skipGapFor (settled_cons (by decide) rfl (by decide) (by decide) _)
  have hmark : place.atDocumentMark = false := Cursor.atDocumentMark_eq_false (by rw [hcolumn]; decide)
  obtain ⟨t, ht, hhas, hat, -⟩ := (h.moved true place).quoted hname hrest hplace
  refine ⟨t, (s.moved true place).keyHere, ?_, hhas, (h.moved true place).count_eq, hcolumn, ?_, ?_, ?_⟩
  · rw [h.step_token hgap (fun k hk => absurd hk (Option.not_mem_none k)) (hcolumn ▸ hindents) hplace]
    exact (token_quote hmark _).trans ht
  · rw [hat]
    exact tooFar_keyHere _ hshort _
  · rw [hat]
    rfl
  · rw [hat, Scanner.moved, Cursor.ahead, hcolumn]
    exact Nat.lt_add_of_pos_right (Nat.succ_pos _)

/-- An entry takes three steps: its name, which the colon makes a key, and its value. -/
theorem Has.steps_entry (h : s.Has kinds indents none)
    (hpassed : (Tail.line 2 (entryChars e ++ tail.chars)).Passed s.keyAllowed s.place)
    (hindents : ∀ i ∈ indents.head?, i ≤ 2) (he : OnLine e) (htail : tail.Fits 3) :
    ∃ t, Steps 3 s t ∧ t.Has ((entryKinds e).reverse ++ openKinds 2 indents kinds) (openIndents 2 indents) none ∧
      tail.Passed t.keyAllowed t.place := by
  obtain ⟨name, value⟩ := e
  have hchars : entryChars (name, value) ++ tail.chars =
      '\'' :: (doubled name ++ '\'' :: ':' :: ' ' :: (valueChars value ++ tail.chars)) := by
    rw [entryChars, List.cons_append, List.append_assoc]
    rfl
  rw [hchars] at hpassed
  have hcolon : (':' :: ' ' :: (valueChars value ++ tail.chars)).head? ≠ some '\'' := fun h => absurd h (by simp)
  obtain ⟨t, k, hfirst, hname, hnumber, hcolumn, hnear, hrest, hright⟩ :=
    h.step_name hpassed hindents (fun d hd => (he.name d hd).2) he.short hcolon
  obtain ⟨u, hsecond, hkey, hbehind, hallowed⟩ := hname.step_colon hnumber hnear hrest rfl
    (Nat.ne_of_gt (Nat.zero_lt_of_lt hright)) fun i hi => (hindents i hi).trans hright.le
  rw [hcolumn] at hkey
  have hhead := head?_openIndents hindents
  have hvalue : ∀ i ∈ (openIndents 2 indents).head?, i ≤ u.place.mark.column := by
    rw [hhead, hbehind]
    rintro _ ⟨⟩
    exact hright.le.trans (Nat.le_add_right _ _)
  have hfits : tail.Fits ((openIndents 2 indents).head?.elim 0 (· + 1)) := by
    rw [hhead]
    exact htail
  obtain ⟨v, hv, hhas, hpassed⟩ := hkey.step_value hallowed (hbehind ▸ rfl) hvalue
    (fun text htext d hd => (he.text text htext d hd).2) hfits
  exact ⟨v, .more h.finished_eq hfirst (.more hname.finished_eq hsecond (.one hkey.finished_eq hv)), hhas, hpassed⟩

theorem Has.steps_entries (h : s.Has kinds indents none) (hindents : indents.head? = some 2)
    (hpassed : (linesTail entries ending).Passed s.keyAllowed s.place) (hentries : ∀ e ∈ entries, OnLine e)
    (hending : ending.Fits 3) :
    ∃ t, Steps (3 * entries.length) s t ∧ t.Has ((entries.flatMap entryKinds).reverse ++ kinds) indents none ∧
      ending.Passed t.keyAllowed t.place := by
  induction entries generalizing s kinds with
  | nil => exact ⟨s, .none s, h, hpassed⟩
  | cons e entries ih =>
    obtain ⟨he, hentries⟩ := List.forall_mem_cons.1 hentries
    have hle : ∀ i ∈ indents.head?, i ≤ 2 := by
      rw [hindents]
      rintro _ ⟨⟩
      exact le_rfl
    obtain ⟨t, ht, hhas, hpassed⟩ := h.steps_entry hpassed hle he (fits_linesTail hending)
    rw [(openIndents_of_head? hindents kinds).1, (openIndents_of_head? hindents kinds).2] at hhas
    obtain ⟨u, hu, hhas, hpassed⟩ := ih hhas hpassed hentries
    refine ⟨u, ?_, ?_, hpassed⟩
    · rw [List.length_cons, Nat.mul_succ, Nat.add_comm]
      exact ht.trans hu
    · rwa [List.flatMap_cons, List.reverse_append, List.append_assoc]

theorem Has.step_ending (h : s.Has kinds indents none) (hending : ending = .nothing ∨ ending = .line 0 [])
    (hpassed : ending.Passed s.keyAllowed s.place) : ∃ t, s.step = .ok t ∧ t.finished = true ∧
      t.tokens.map Token.kind = .streamEnd :: (List.replicate indents.length .blockEnd ++ kinds) := by
  rcases hending with rfl | rfl
  · refine h.step_end (skipGapFor_of_settled ?_) hpassed
    rw [show s.place.rest = [] from hpassed]
    exact settled_nil
  · obtain ⟨place, hgap, hrest, -⟩ := hpassed.exists_skipGapFor settled_nil
    exact h.step_end hgap hrest

end Entry

end Scanner

/-! ## A document -/

def fieldChars : List Char := ['p', 'a', 't', 't', 'e', 'r', 'n', 's', ':']

def documentChars (entries : List (List Char × Option (List Char))) (ending : Tail) : List Char :=
  fieldChars ++ (linesTail entries ending).chars

/-- There are entries, each can be written in a line, and the last line may end. -/
structure IsDocument (entries : List (List Char × Option (List Char))) (ending : Tail) : Prop where
  ne_nil : entries ≠ []
  onLine : ∀ e ∈ entries, OnLine e
  ends : ending = .nothing ∨ ending = .line 0 []

def fieldKinds : List Token.Kind :=
  [.streamStart, .blockMapping, .key, .scalar "patterns" true, .value, .blockMapping]

section Document

variable {entries : List (List Char × Option (List Char))} {ending : Tail}

open Scanner in
/-- The field of the entries is a key, which the first mapping is opened for. -/
theorem steps_field (tail : Tail) : ∃ t, Steps 2 (.ofText (fieldChars ++ tail.chars)) t ∧
    t.Has [.value, .scalar "patterns" true, .key, .blockMapping, .streamStart] [0] none ∧
      tail.Passed t.keyAllowed t.place := by
  generalize hs : Scanner.ofText (fieldChars ++ tail.chars) = s
  have hplace : s.place = .ofText (fieldChars ++ tail.chars) := hs ▸ rfl
  have h : s.Has [.streamStart] [] none := by
    subst hs
    exact ⟨rfl, rfl, rfl, rfl, rfl⟩
  have hrest : s.place.rest = 'p' :: (['a', 't', 't', 'e', 'r', 'n', 's'] ++ ':' :: tail.chars) := hplace ▸ rfl
  have hmark : s.place.atDocumentMark = false := hplace ▸ rfl
  have hcolon : endsWord tail.chars.head? = true := by
    rcases tail.head?_chars with hhead | hhead <;> rw [hhead] <;> rfl
  have hword : ∀ d ∈ ['p', 'a', 't', 't', 'e', 'r', 'n', 's'], inWord d = true := List.all_eq_true.1 rfl
  have hsettled : Settled s.place.rest := by
    rw [hrest]
    exact settled_cons rfl rfl (by decide) (by decide) _
  obtain ⟨t, ht, hhas, hat, -⟩ := h.plain (plainScalar_word hrest hmark hword hcolon)
  have hfirst : s.step = .ok t := by
    rw [h.step_token (skipGapFor_of_settled hsettled) (fun k hk => absurd hk (Option.not_mem_none k))
      (fun i hi => absurd hi (Option.not_mem_none i)) hrest]
    exact (token_letter hmark _).trans ht
  have hallowed : s.keyAllowed = true := hs ▸ rfl
  rw [if_pos hallowed] at hhas
  have hmark : t.place.mark.column ≠ 0 := by
    rw [hat]
    exact Nat.succ_ne_zero _
  obtain ⟨u, hsecond, hkey, hat, -⟩ := hhas.step_colon h.count_eq (hat ▸ tooFar_keyHere _ (by decide) _) (hat ▸ rfl)
    hcolon hmark fun i hi => absurd hi (Option.not_mem_none i)
  have hcolumn : s.keyHere.mark.column = 0 := by
    rw [keyHere, hplace]
    rfl
  rw [hcolumn] at hkey
  refine ⟨u, .more h.finished_eq hfirst (.one hhas.finished_eq hsecond), hkey, ?_⟩
  rw [hat]
  exact Tail.passed_of_rest rfl

/-- Three steps are less than the characters of an entry. -/
theorem length_le_linesTail : 3 * entries.length ≤ (linesTail entries ending).chars.length := by
  induction entries with
  | nil => exact Nat.zero_le _
  | cons e entries ih =>
    rw [linesTail, Tail.chars, entryChars]
    simp only [List.length_cons, List.length_append, List.length_replicate]
    omega

theorem chars_linesTail (entries : List (List Char × Option (List Char))) (ending : Tail) :
    (linesTail entries ending).chars = (linesTail entries .nothing).chars ++ ending.chars := by
  induction entries with
  | nil => rfl
  | cons e entries ih =>
    rw [linesTail, Tail.chars, ih, linesTail, Tail.chars, List.cons_append, List.append_assoc, List.append_assoc]

theorem isAllowed_linesTail (hentries : ∀ e ∈ entries, OnLine e) (hending : ∀ c ∈ ending.chars, isAllowed c = true) :
    ∀ c ∈ (linesTail entries ending).chars, isAllowed c = true := by
  induction entries with
  | nil => exact hending
  | cons e entries ih =>
    obtain ⟨he, hentries⟩ := List.forall_mem_cons.1 hentries
    have hname : ∀ c ∈ doubled e.1, isAllowed c = true := fun c hc => (he.name c (mem_of_mem_doubled hc)).1
    have hvalue : ∀ c ∈ valueChars e.2, isAllowed c = true := by
      intro c hc
      cases hvalue : e.2 with
      | none =>
        rw [hvalue] at hc
        obtain rfl := List.mem_singleton.1 hc
        rfl
      | some text =>
        rw [hvalue, valueChars, List.mem_cons, List.mem_append, List.mem_singleton] at hc
        rcases hc with rfl | hc | rfl
        · rfl
        · exact (he.text text hvalue c (mem_of_mem_doubled hc)).1
        · rfl
    simp only [linesTail, Tail.chars, entryChars, List.replicate_succ, List.replicate_zero, List.cons_append,
      List.append_assoc, List.nil_append, List.forall_mem_cons, List.forall_mem_append]
    exact ⟨rfl, rfl, rfl, rfl, hname, rfl, rfl, rfl, hvalue, ih hentries⟩

theorem forbiddenAt?_eq_none {text : List Char} (h : ∀ c ∈ text, isAllowed c = true) (offset : Nat) :
    forbiddenAt? text offset = none := by
  induction text generalizing offset with
  | nil => rfl
  | cons c text ih =>
    obtain ⟨hc, htext⟩ := List.forall_mem_cons.1 h
    rw [forbiddenAt?, if_pos hc, ih htext]

theorem tokensOf_document (h : IsDocument entries ending) :
    ∃ tokens, tokensOf (documentChars entries ending) = (tokens, none) ∧
      tokens.map Token.kind = fieldKinds ++ entries.flatMap entryKinds ++ [.blockEnd, .blockEnd, .streamEnd] := by
  obtain ⟨e, entries, rfl⟩ := List.exists_cons_of_ne_nil h.ne_nil
  obtain ⟨he, hentries⟩ := List.forall_mem_cons.1 h.onLine
  have hfits : ending.Fits 3 := by
    rcases h.ends with rfl | rfl
    · exact trivial
    · exact ⟨by decide, settled_nil⟩
  have hallowed : ∀ c ∈ documentChars (e :: entries) ending, isAllowed c = true := by
    refine List.forall_mem_append.2 ⟨List.all_eq_true.1 rfl, isAllowed_linesTail h.onLine ?_⟩
    rcases h.ends with rfl | rfl <;> exact List.all_eq_true.1 rfl
  obtain ⟨s, hs, hfield, hpassed⟩ := steps_field (linesTail (e :: entries) ending)
  have hzero : ∀ i ∈ [0].head?, i ≤ 2 := by decide
  obtain ⟨t, ht, hfirst, hpassed⟩ := hfield.steps_entry hpassed hzero he (fits_linesTail hfits)
  obtain ⟨u, hu, hothers, hpassed⟩ := hfirst.steps_entries rfl hpassed hentries hfits
  obtain ⟨v, hv, hfinished, hkinds⟩ := hothers.step_ending h.ends hpassed
  have hsteps := hs.trans (ht.trans (hu.trans (.one hothers.finished_eq hv)))
  obtain ⟨rounds, hrounds⟩ : ∃ rounds, 2 * (documentChars (e :: entries) ending).length + 4 =
      2 + (3 + (3 * entries.length + 1)) + rounds := by
    refine Nat.exists_eq_add_of_le ?_
    have hlength := @length_le_linesTail (e :: entries) ending
    rw [List.length_cons] at hlength
    rw [documentChars, List.length_append]
    omega
  refine ⟨v.tokens.reverse, ?_, ?_⟩
  · rw [tokensOf, forbiddenAt?_eq_none hallowed, hrounds]
    exact (Scanner.run_of_steps hsteps rounds).trans (Scanner.run_of_finished hfinished rounds)
  · rw [List.map_reverse, hkinds]
    simp [fieldKinds, Scanner.openKinds, Scanner.openIndents]

end Document

end TextPattern.Yaml
