import Mathlib.Data.List.InsertIdx
import TextPattern.Proofs.Yaml.Scalar

/-!
# Steps of the scanner

* `Steps n s t`, `run_of_steps` : steps of the scanner, and the run that they are the start of;
* `Has s kinds indents key` : the tokens of a scanner outside of brackets, its open collections and its possible key;
* `Has.step_token` : a step is the token behind the gap, where no key is too far and no collection ends;
* `Has.quoted`, `Has.plain`, `Has.valueColon`, `Has.finish` : what a token does.
-/

namespace TextPattern.Yaml.Scanner

/-! ## Runs -/

/-- A scanner becomes another in a number of steps, in front of which it is not finished. -/
inductive Steps : Nat → Scanner → Scanner → Prop
  | none (s : Scanner) : Steps 0 s s
  | more {n : Nat} {s t u : Scanner} (hopen : s.finished = false) (hstep : s.step = .ok t) (h : Steps n t u) :
      Steps (n + 1) s u

section Steps

variable {m n rounds : Nat} {s t u : Scanner}

theorem Steps.trans (h : Steps m s t) (h' : Steps n t u) : Steps (m + n) s u := by
  induction h with
  | none s => rwa [Nat.zero_add]
  | more hopen hstep h ih =>
    rw [Nat.add_right_comm]
    exact .more hopen hstep (ih h')

theorem Steps.one (hopen : s.finished = false) (hstep : s.step = .ok t) : Steps 1 s t := .more hopen hstep (.none t)

theorem run_of_finished (h : s.finished = true) (rounds : Nat) : run rounds s = (s.tokens.reverse, none) := by
  cases rounds with
  | zero => rfl
  | succ rounds => rw [run, if_pos h]

theorem run_of_steps (h : Steps n s t) (rounds : Nat) : run (n + rounds) s = run rounds t := by
  induction h with
  | none s => rw [Nat.zero_add]
  | more hopen hstep h ih =>
    rw [Nat.add_right_comm, run, if_neg (Bool.eq_false_iff.1 hopen), hstep]
    exact ih

end Steps

/-! ## The state between tokens -/

/-- A scanner outside of brackets that has tokens of these kinds, last first, open block collections in these columns,
innermost first, and at most one possible key. -/
structure Has (s : Scanner) (kinds : List Token.Kind) (indents : List Nat) (key : Option PossibleKey) : Prop where
  kinds_eq : s.tokens.map Token.kind = kinds
  count_eq : s.count = kinds.length
  keys_eq : s.keys = [key]
  indents_eq : s.indents = indents
  finished_eq : s.finished = false

def moved (s : Scanner) (keyAllowed : Bool) (place : Cursor) : Scanner := { s with keyAllowed, place }

def keyHere (s : Scanner) : PossibleKey where
  required := !s.inFlow && s.indents.head? = some s.place.mark.column
  number := s.count
  mark := s.place.mark
  index := s.place.index

section Has

variable {s : Scanner} {kinds older : List Token.Kind} {indents : List Nat} {key : Option PossibleKey}
  {keyAllowed : Bool} {place : Cursor} {kind : Token.Kind} {text rest : List Char} {d : Char}

theorem Has.moved (h : s.Has kinds indents key) (keyAllowed : Bool) (place : Cursor) :
    (s.moved keyAllowed place).Has kinds indents key := ⟨h.kinds_eq, h.count_eq, h.keys_eq, h.indents_eq, h.finished_eq⟩

theorem Has.emit (h : s.Has kinds indents key) (kind : Token.Kind) (start stop : Mark) :
    (s.emit kind start stop).Has (kind :: kinds) indents key :=
  ⟨congrArg (kind :: ·) h.kinds_eq, congrArg (· + 1) h.count_eq, h.keys_eq, h.indents_eq, h.finished_eq⟩

theorem Has.inFlow_eq (h : s.Has kinds indents key) : s.inFlow = false := by
  rw [inFlow, h.keys_eq]
  rfl

theorem Has.withoutFarKeys_eq (h : s.Has kinds indents key) (hnear : ∀ k ∈ key, tooFar k s.place = false) :
    s.withoutFarKeys = .ok s := by
  have hdrop : dropFar s.place s.keys = .ok s.keys := by
    rw [h.keys_eq]
    cases key with
    | none => rfl
    | some k =>
      rw [dropFar]
      change (if tooFar k s.place = true then _ else _) = _
      rw [if_neg (Bool.eq_false_iff.1 (hnear k rfl))]
      rfl
  rw [withoutFarKeys, hdrop]
  rfl

/-- A step is the token behind the gap, or the end of the text, where no key is too far away. -/
theorem Has.step_eq (h : s.Has kinds indents key)
    (hgap : skipGapFor false (s.place.rest.length + 1) s.keyAllowed s.place = (keyAllowed, place))
    (hnear : ∀ k ∈ key, tooFar k s.place = false ∧ tooFar k place = false) {t : Scanner}
    (ht : (s.moved keyAllowed place).dedent (some place.mark.column) = t) :
    (t.place.rest = [] → s.step = t.finish) ∧ ∀ d rest, t.place.rest = d :: rest → s.step = t.token d rest.head? := by
  have hskip : s.skipGap = s.moved keyAllowed place := by
    rw [skipGap, h.inFlow_eq, hgap]
    rfl
  have hcolumn : (s.moved keyAllowed place).place.mark.column = place.mark.column := rfl
  rw [step, h.withoutFarKeys_eq fun k hk => (hnear k hk).1]
  dsimp only [bind, Except.bind]
  rw [hskip, (h.moved keyAllowed place).withoutFarKeys_eq fun k hk => (hnear k hk).2]
  dsimp only
  rw [hcolumn, ht]
  exact ⟨fun hrest => by rw [hrest], fun d rest hrest => by rw [hrest]⟩

theorem dedent_eq {column : Nat} (hcolumn : ∀ i ∈ s.indents.head?, i ≤ column) : s.dedent (some column) = s := by
  have hclose : ∀ indents, s.indents = indents → s.closeFrom (some column) indents = s := by
    intro indents hindents
    rw [hindents] at hcolumn
    subst hindents
    cases hlist : s.indents with
    | nil =>
      rw [closeFrom, ← hlist]
    | cons i indents =>
      rw [hlist] at hcolumn
      have hright : ¬(some column).all (fun c => decide (c < i)) = true := by
        rw [Option.all_some, decide_eq_true_iff]
        exact Nat.not_lt.2 (hcolumn i rfl)
      rw [closeFrom, if_neg hright, ← hlist]
  rw [dedent, hclose s.indents rfl, ite_self]

/-- Where a gap ends at a character, no key is too far away and no collection ends, a step is the token there. -/
theorem Has.step_token (h : s.Has kinds indents key)
    (hgap : skipGapFor false (s.place.rest.length + 1) s.keyAllowed s.place = (keyAllowed, place))
    (hnear : ∀ k ∈ key, tooFar k s.place = false ∧ tooFar k place = false)
    (hcolumn : ∀ i ∈ indents.head?, i ≤ place.mark.column) (hplace : place.rest = d :: rest) :
    s.step = (s.moved keyAllowed place).token d rest.head? := by
  have hdedent : (s.moved keyAllowed place).dedent (some place.mark.column) = s.moved keyAllowed place := by
    refine dedent_eq ?_
    rw [(h.moved keyAllowed place).indents_eq]
    exact hcolumn
  exact (h.step_eq hgap hnear hdedent).2 d rest hplace

/-! ## Tokens -/

theorem token_quote (hmark : s.place.atDocumentMark = false) (next : Option Char) :
    s.token '\'' next = s.quoted true := by
  rw [Cursor.atDocumentMark, Bool.or_eq_false_iff] at hmark
  rw [token, hmark.1, hmark.2]
  rfl

theorem token_colon (hmark : s.place.atDocumentMark = false) {next : Option Char} (hnext : endsWord next = true) :
    s.token ':' next = s.valueColon := by
  rw [Cursor.atDocumentMark, Bool.or_eq_false_iff] at hmark
  rw [token, hmark.1, hmark.2, hnext, Bool.or_true]
  rfl

theorem token_tilde (hmark : s.place.atDocumentMark = false) (next : Option Char) : s.token '~' next = s.plain := by
  rw [Cursor.atDocumentMark, Bool.or_eq_false_iff] at hmark
  rw [token, hmark.1, hmark.2]
  rfl

theorem token_letter (hmark : s.place.atDocumentMark = false) (next : Option Char) : s.token 'p' next = s.plain := by
  rw [Cursor.atDocumentMark, Bool.or_eq_false_iff] at hmark
  rw [token, hmark.1, hmark.2]
  rfl

theorem tooFar_keyHere (s : Scanner) {n : Nat} (hn : n ≤ keyLimit) (rest : List Char) :
    tooFar s.keyHere (s.place.ahead n rest) = false := by
  rw [tooFar, Bool.or_eq_false_iff]
  exact ⟨decide_eq_false (Nat.lt_irrefl _), decide_eq_false (Nat.not_lt.2 (Nat.add_le_add_left hn _))⟩

theorem Has.withKey (h : s.Has kinds indents none) : ∃ t, s.withKey = .ok t ∧
    t.Has kinds indents (if s.keyAllowed then some s.keyHere else none) ∧ t.place = s.place := by
  unfold Scanner.withKey
  cases s.keyAllowed with
  | false => exact ⟨s, rfl, h, rfl⟩
  | true =>
    have hwithout : s.withoutKey = .ok s := by
      rw [withoutKey, h.keys_eq]
    rw [hwithout]
    refine ⟨_, rfl, ⟨h.kinds_eq, h.count_eq, ?_, h.indents_eq, h.finished_eq⟩, rfl⟩
    rw [h.keys_eq]
    rfl

theorem Has.quoted (h : s.Has kinds indents none) (htext : ∀ d ∈ text, isBreak d = false)
    (hrest : rest.head? ≠ some '\'') (hplace : s.place.rest = '\'' :: (doubled text ++ '\'' :: rest)) :
    ∃ t, s.quoted true = .ok t ∧ t.Has (.scalar (String.ofList text) false :: kinds) indents
      (if s.keyAllowed then some s.keyHere else none) ∧
      t.place = s.place.ahead ((doubled text).length + 2) rest ∧ t.keyAllowed = false := by
  obtain ⟨t, hkey, ht, hat⟩ := h.withKey
  have hemit := ht.emit (.scalar (String.ofList text) false) t.place.mark
    (s.place.ahead ((doubled text).length + 2) rest).mark
  rw [Scanner.quoted, hkey]
  dsimp only [bind, Except.bind]
  rw [hat, quotedScalar_doubled htext hrest hplace]
  exact ⟨_, rfl, hemit.moved false _, rfl, rfl⟩

theorem Has.plain (h : s.Has kinds indents none) {p : Plain}
    (hp : plainScalar false (indents.head?.elim 0 (· + 1)) s.place = .ok p) :
    ∃ t, s.plain = .ok t ∧ t.Has (.scalar (String.ofList p.text) true :: kinds) indents
      (if s.keyAllowed then some s.keyHere else none) ∧ t.place = p.behind ∧ t.keyAllowed = p.lineEnds := by
  obtain ⟨t, hkey, ht, hat⟩ := h.withKey
  have hemit := ht.emit (.scalar (String.ofList p.text) true) s.place.mark p.stop
  rw [Scanner.plain, hkey]
  dsimp only [bind, Except.bind]
  rw [hat, ht.inFlow_eq, ht.indents_eq, hp]
  exact ⟨_, rfl, hemit.moved p.lineEnds p.behind, rfl, rfl⟩

def openKinds (column : Nat) (indents : List Nat) (kinds : List Token.Kind) : List Token.Kind :=
  if indents.head?.all (· < column) then .blockMapping :: kinds else kinds

/-- The open collections with a mapping in a column, if it is right of them. -/
def openIndents (column : Nat) (indents : List Nat) : List Nat :=
  if indents.head?.all (· < column) then column :: indents else indents

theorem head?_openIndents {column : Nat} (h : ∀ i ∈ indents.head?, i ≤ column) :
    (openIndents column indents).head? = some column := by
  rw [openIndents]
  split
  · rfl
  · next hright =>
    cases hhead : indents.head? with
    | none =>
      rw [hhead] at hright
      exact absurd rfl hright
    | some i =>
      rw [hhead, Option.all_some, decide_eq_true_iff, Nat.not_lt] at hright
      exact congrArg some (Nat.le_antisymm (h i hhead) hright)

/-- Nothing is opened in the column of the innermost collection. -/
theorem openIndents_of_head? {column : Nat} (h : indents.head? = some column) (kinds : List Token.Kind) :
    openIndents column indents = indents ∧ openKinds column indents kinds = kinds := by
  have hright : ¬indents.head?.all (fun i => decide (i < column)) = true := by
    rw [h, Option.all_some, decide_eq_true_iff]
    exact Nat.lt_irrefl _
  exact ⟨if_neg hright, if_neg hright⟩

theorem insertIdx_length {α : Type} (front behind : List α) (a : α) :
    (front ++ behind).insertIdx front.length a = front ++ a :: behind := by
  induction front with
  | nil => rfl
  | cons b front ih => rw [List.cons_append, List.length_cons, List.insertIdx_succ_cons, ih, List.cons_append]

theorem Has.insertAt {front : List Token.Kind} (h : s.Has (front ++ older) indents key) (kind : Token.Kind)
    (mark : Mark) : (s.insertAt older.length kind mark).Has (front ++ kind :: older) indents key := by
  refine ⟨?_, ?_, h.keys_eq, h.indents_eq, h.finished_eq⟩
  · rw [Scanner.insertAt, List.map_insertIdx, h.kinds_eq, h.count_eq, List.length_append, Nat.add_sub_cancel,
      insertIdx_length]
  · rw [Scanner.insertAt, h.count_eq]
    simp only [List.length_append, List.length_cons, Nat.add_assoc]

/-- A mapping is opened in front of a key that is right of the open collections. -/
theorem Has.indentKey {front : List Token.Kind} {k : PossibleKey} (h : s.Has (front ++ older) indents key)
    (hnumber : k.number = older.length) : (s.indentKey k).Has (front ++ openKinds k.mark.column indents older)
      (openIndents k.mark.column indents) key := by
  have hopen : (!s.inFlow && s.deeper k.mark.column) = indents.head?.all (· < k.mark.column) := by
    rw [h.inFlow_eq, deeper, h.indents_eq]
    rfl
  rw [Scanner.indentKey, hopen, openKinds, openIndents]
  split
  · have hinsert := h.insertAt .blockMapping k.mark
    rw [hnumber]
    refine ⟨hinsert.kinds_eq, hinsert.count_eq, hinsert.keys_eq, ?_, hinsert.finished_eq⟩
    rw [h.indents_eq]
  · exact h

theorem indentKey_place (s : Scanner) (k : PossibleKey) : (s.indentKey k).place = s.place := by
  unfold Scanner.indentKey
  split <;> rfl

/-- A colon makes a key of the last token, in front of which a mapping is opened if the key is right of the open
collections. -/
theorem Has.valueColon {k : PossibleKey} (h : s.Has (kind :: older) indents (some k))
    (hnumber : k.number = older.length) (hplace : s.place.rest = d :: rest) :
    ∃ t, s.valueColon = .ok t ∧ t.Has (.value :: kind :: .key :: openKinds k.mark.column indents older)
      (openIndents k.mark.column indents) none ∧ t.place = s.place.ahead 1 rest ∧ t.keyAllowed = false := by
  have hkey : (s.insertAt k.number .key k.mark).Has ([kind, .key] ++ older) indents (some k) := by
    rw [hnumber]
    exact @Has.insertAt s older indents (some k) [kind] h .key k.mark
  have hopen := hkey.indentKey hnumber
  have hskip : ((s.insertAt k.number .key k.mark).indentKey k).place.skipMany 1 = s.place.ahead 1 rest := by
    rw [indentKey_place]
    exact Cursor.skip_eq hplace
  have hemit := hopen.emit .value s.place.mark (s.place.ahead 1 rest).mark
  unfold Scanner.valueColon emitSigns
  rw [h.keys_eq]
  dsimp only
  rw [hskip, indentKey_place]
  exact ⟨_, rfl, ⟨hemit.kinds_eq, hemit.count_eq, rfl, hemit.indents_eq, hemit.finished_eq⟩, rfl, rfl⟩

theorem Has.step_colon {k : PossibleKey} (h : s.Has (kind :: older) indents (some k))
    (hnumber : k.number = older.length) (hnear : tooFar k s.place = false)
    (hplace : s.place.rest = ':' :: rest) (hrest : endsWord rest.head? = true)
    (hcolumn : s.place.mark.column ≠ 0) (hindents : ∀ i ∈ indents.head?, i ≤ s.place.mark.column) :
    ∃ t, s.step = .ok t ∧ t.Has (.value :: kind :: .key :: openKinds k.mark.column indents older)
      (openIndents k.mark.column indents) none ∧ t.place = s.place.ahead 1 rest ∧ t.keyAllowed = false := by
  obtain ⟨t, ht, hvalue⟩ := h.valueColon hnumber hplace
  have hsettled : Settled s.place.rest := by
    rw [hplace]
    exact settled_cons rfl rfl (by decide) (by decide) rest
  refine ⟨t, ?_, hvalue⟩
  rw [h.step_token (skipGapFor_of_settled hsettled) (by rintro _ ⟨⟩; exact ⟨hnear, hnear⟩) hindents hplace]
  exact (token_colon (Cursor.atDocumentMark_eq_false hcolumn) hrest).trans ht

/-! ## The end of the text -/

/-- Closing open collections adds a token for each. -/
theorem Has.dedent (h : s.Has kinds indents key) (column : Option Nat) :
    ∃ n ≤ indents.length, (column = none → n = indents.length) ∧ (s.dedent column).place = s.place ∧
      (s.dedent column).Has (List.replicate n .blockEnd ++ kinds) (indents.drop n) key := by
  have hclose : ∀ (s : Scanner) kinds others, s.Has kinds others key →
      ∃ n ≤ indents.length, (column = none → n = indents.length) ∧ (s.closeFrom column indents).place = s.place ∧
        (s.closeFrom column indents).Has (List.replicate n .blockEnd ++ kinds) (indents.drop n) key := by
    clear h
    induction indents with
    | nil => exact fun s kinds _ h =>
        ⟨0, le_rfl, fun _ => rfl, rfl, h.kinds_eq, h.count_eq, h.keys_eq, rfl, h.finished_eq⟩
    | cons i indents ih =>
      intro s kinds others h
      rw [Scanner.closeFrom]
      split
      · obtain ⟨n, hn, hall, hat, hclosed⟩ := ih _ _ others (h.emit .blockEnd s.place.mark s.place.mark)
        refine ⟨n + 1, Nat.succ_le_succ hn, fun hcolumn => congrArg (· + 1) (hall hcolumn), hat, ?_⟩
        rwa [List.replicate_succ', List.append_assoc]
      · next hright =>
        refine ⟨0, Nat.zero_le _, fun hcolumn => ?_, rfl, h.kinds_eq, h.count_eq, h.keys_eq, rfl, h.finished_eq⟩
        rw [hcolumn] at hright
        exact absurd rfl hright
  rw [Scanner.dedent, h.inFlow_eq, h.indents_eq]
  exact hclose s kinds indents h

theorem Has.finish (h : s.Has kinds indents none) : ∃ t, s.finish = .ok t ∧ t.finished = true ∧
    t.tokens.map Token.kind = .streamEnd :: (List.replicate indents.length .blockEnd ++ kinds) := by
  have hend : ∀ mark, ∃ t, (s.moved s.keyAllowed { s.place with mark }).dedent none = t ∧ t.withoutKey = .ok t ∧
      t.tokens.map Token.kind = List.replicate indents.length .blockEnd ++ kinds := by
    intro mark
    obtain ⟨n, -, hall, -, hclosed⟩ := (h.moved s.keyAllowed { s.place with mark }).dedent none
    refine ⟨_, rfl, ?_, ?_⟩
    · rw [withoutKey, hclosed.keys_eq]
    · rw [hclosed.kinds_eq, hall rfl]
  unfold Scanner.finish
  obtain ⟨t, ht, hwithout, hkinds⟩ := hend (if s.place.mark.column = 0 then s.place.mark else s.place.mark.nextLine)
  dsimp only [Scanner.moved] at ht
  dsimp only
  rw [ht, hwithout]
  exact ⟨_, rfl, rfl, congrArg (_ :: ·) hkinds⟩

theorem Has.step_end (h : s.Has kinds indents none)
    (hgap : skipGapFor false (s.place.rest.length + 1) s.keyAllowed s.place = (keyAllowed, place))
    (hplace : place.rest = []) : ∃ t, s.step = .ok t ∧ t.finished = true ∧
      t.tokens.map Token.kind = .streamEnd :: (List.replicate indents.length .blockEnd ++ kinds) := by
  obtain ⟨n, hn, -, hat, hclosed⟩ := (h.moved keyAllowed place).dedent (some place.mark.column)
  obtain ⟨t, hfinish, hfinished, hkinds⟩ := hclosed.finish
  have hstep := (h.step_eq hgap (fun k hk => absurd hk (Option.not_mem_none k)) rfl).1
  refine ⟨t, (hstep ?_).trans hfinish, hfinished, ?_⟩
  · rw [hat]
    exact hplace
  · rw [hkinds, ← List.append_assoc, List.replicate_append_replicate, List.length_drop, Nat.sub_add_cancel hn]

end Has

end TextPattern.Yaml.Scanner
