import TextPattern.Command.Reader

/-!
# The words of a command line

* `wordMove`, `scanFrom_cons` : what one word of a command line does;
* `scan_append_of_command`, `scan_append_of_done` : words in front of others are read whatever those are;
* `Fileless` : words that name no file for the input;
* `Arguments.AddsFile path a b` : the second arguments name a file for the input, and the first do not;
* `follows_wordMove`, `follows_scanFrom` : a word, and words, behind the name of a file ask for what they ask for
  without it.
-/

namespace TextPattern

namespace Signature

/-! ## One word -/

/-- What a word of a command line does: the words behind it are read on, or they are those of a command, or they do not
matter. -/
inductive Move where
  | next (lacking : Option Parameter) (plain : Bool) (given : Arguments)
  | command (given : Arguments)
  | help | version | wrong

def Step.move : Step → Move
  | given a => .next none false a
  | valueOf p a => .next (some p) false a
  | help => .help
  | version => .version
  | wrong => .wrong

/-- What a word without a name does. -/
def takeWord (s : Signature) (word : String) (plain : Bool) (a : Arguments) : Move :=
  if s.commands && !plain then .command a
  else (s.giveWord word a).elim .wrong (.next none plain)

def takeValue (word : String) (p : Parameter) (a : Arguments) : Move :=
  if word.toList.head? = some '-' && word.toList ≠ ['-'] && !(p.negative && isNegativeNumber word.toList) then .wrong
  else (give p word a).elim .wrong (.next none false)

def wordMove (s : Signature) (word : String) : (lacking : Option Parameter) → (plain : Bool) → Arguments → Move
  | some p, _, a => takeValue word p a
  | none, true, a => s.takeWord word true a
  | none, false, a =>
    match word.toList with
    | ['-', '-'] => .next none true a
    | '-' :: '-' :: name => (s.longStep name a).move
    | ['-'] => s.takeWord word false a
    | '-' :: names =>
      if s.negativeWord && a.word.isNone && isNegativeNumber ('-' :: names) then s.takeWord word false a
      else (s.shortStep names a).move
    | _ => s.takeWord word false a

def Move.scan (s : Signature) (word : String) (words : List String) : Move → Scan
  | next lacking plain a => s.scanFrom words lacking plain a
  | command a => .command a word words
  | help => .help
  | version => .version
  | wrong => .wrong

section Moves

variable {plain : Bool}

/-- Names are recognised behind a word as far as `plain` says. -/
def Move.Keeps (plain : Bool) (m : Move) : Prop := ∀ lacking plain' a, m = .next lacking plain' a → plain' = plain

theorem Move.keeps_next (lacking : Option Parameter) (plain : Bool) (a : Arguments) :
    (Move.next lacking plain a).Keeps plain := by
  intro lacking' plain' b h
  cases h
  rfl

theorem Move.keeps_wrong : Move.wrong.Keeps plain := fun _ _ _ h => Move.noConfusion h

theorem Step.keeps_move (step : Step) : step.move.Keeps false := by
  cases step with
  | given a => exact Move.keeps_next none false a
  | valueOf p a => exact Move.keeps_next (some p) false a
  | help | version | wrong => exact fun _ _ _ h => Move.noConfusion h

theorem keeps_elim (given : Option Arguments) : (given.elim Move.wrong (.next none plain)).Keeps plain := by
  cases given with
  | none => exact Move.keeps_wrong
  | some a => exact Move.keeps_next none plain a

theorem keeps_takeWord (s : Signature) (word : String) (plain : Bool) (a : Arguments) :
    (s.takeWord word plain a).Keeps plain := by
  unfold takeWord
  split
  · exact fun _ _ _ h => Move.noConfusion h
  · exact keeps_elim _

/-- Only two dashes alone end the words that are read as names. -/
theorem keeps_wordMove {word : String} (hword : word ≠ "--") (s : Signature) (lacking : Option Parameter)
    (a : Arguments) : (s.wordMove word lacking false a).Keeps false := by
  cases lacking with
  | some p =>
    rw [wordMove, takeValue]
    split
    · exact Move.keeps_wrong
    · exact keeps_elim _
  | none =>
    rw [wordMove]
    split
    · next heq => exact absurd (String.toList_inj.1 heq) hword
    · exact Step.keeps_move _
    · exact keeps_takeWord s word false a
    · split
      · exact keeps_takeWord s word false a
      · exact Step.keeps_move _
    · exact keeps_takeWord s word false a

end Moves

section Scan

variable {s : Signature} {word : String} {words : List String} {lacking lacking' : Option Parameter}
  {plain plain' : Bool} {a b : Arguments}

/-- The words are read one after the other. -/
theorem scanFrom_cons (s : Signature) (word : String) (words : List String) (lacking : Option Parameter)
    (plain : Bool) (a : Arguments) :
    s.scanFrom (word :: words) lacking plain a = (s.wordMove word lacking plain a).scan s word words := by
  cases lacking with
  | some p =>
    rw [scanFrom, wordMove, takeValue]
    split
    · rfl
    · cases give p word a <;> rfl
  | none =>
    have htake : ∀ plain, (s.takeWord word plain a).scan s word words =
        if s.commands && !plain then .command a word words
        else (s.giveWord word a).elim .wrong (s.scanFrom words none plain) := by
      intro plain
      rw [takeWord]
      split
      · rfl
      · cases s.giveWord word a <;> rfl
    cases plain with
    | true =>
      rw [scanFrom, wordMove, if_pos rfl, eq_comm, htake]
      cases s.giveWord word a <;> rfl
    | false =>
      rw [eq_comm, wordMove]
      -- The words are told apart as in `wordMove`, each kind by what the ones before it are not.
      split
      · next heq =>
        rw [scanFrom, if_neg Bool.false_ne_true, heq]
        rfl
      · next name hname heq =>
        rw [scanFrom, if_neg Bool.false_ne_true, heq]
        simp only
        cases s.longStep name a <;> rfl
      · next heq =>
        rw [scanFrom, if_neg Bool.false_ne_true, heq, htake]
        cases s.giveWord word a <;> rfl
      · next names hlong hdash hempty heq =>
        rw [scanFrom, if_neg Bool.false_ne_true, heq]
        simp only
        split
        · rw [htake]
          cases s.giveWord word a <;> rfl
        · cases s.shortStep names a <;> rfl
      · next hdashes hlong hdash hnames =>
        rw [scanFrom, if_neg Bool.false_ne_true, htake]
        simp only
        cases s.giveWord word a <;> rfl

/-- Words in front of the name of a command are read whatever stands behind that name. -/
theorem scan_append_of_command {lead : List String} {outer : Arguments} {name : String}
    (h : s.scan (lead ++ [name]) = .command outer name []) (rest : List String) :
    s.scan (lead ++ name :: rest) = .command outer name rest := by
  have hfrom : ∀ lead lacking plain a, s.scanFrom (lead ++ [name]) lacking plain a = .command outer name [] →
      s.scanFrom (lead ++ name :: rest) lacking plain a = .command outer name rest := by
    intro lead
    induction lead with
    | nil =>
      intro lacking plain a h
      rw [List.nil_append, scanFrom_cons] at h ⊢
      cases hmove : s.wordMove name lacking plain a with
      | command b =>
        rw [hmove] at h
        rw [(Scan.command.inj h).1]
        rfl
      | next lacking plain b =>
        rw [hmove] at h
        cases lacking <;> cases h
      | help | version | wrong =>
        rw [hmove] at h
        cases h
    | cons word lead ih =>
      intro lacking plain a h
      rw [List.cons_append, scanFrom_cons] at h ⊢
      cases hmove : s.wordMove word lacking plain a with
      | command b =>
        rw [hmove] at h
        exact absurd (Scan.command.inj h).2.2 (by simp)
      | next lacking plain b =>
        rw [hmove] at h
        exact ih lacking plain b h
      | help | version | wrong =>
        rw [hmove] at h
        cases h
  exact hfrom lead none false {} h

theorem scan_append_of_done {args : List String} (h : s.scan args = .done b) (hplain : "--" ∉ args)
    (more : List String) : s.scan (args ++ more) = s.scanFrom more none false b := by
  have hfrom : ∀ args lacking a, "--" ∉ args → s.scanFrom args lacking false a = .done b →
      s.scanFrom (args ++ more) lacking false a = s.scanFrom more none false b := by
    intro args
    induction args with
    | nil =>
      intro lacking a _ h
      cases lacking with
      | none => rw [Scan.done.inj h, List.nil_append]
      | some p => cases h
    | cons word args ih =>
      intro lacking a hplain h
      rw [List.cons_append, scanFrom_cons]
      rw [scanFrom_cons] at h
      cases hmove : s.wordMove word lacking false a with
      | next lacking plain c =>
        have hword : word ≠ "--" := fun hword => hplain (hword ▸ List.mem_cons_self)
        obtain rfl := keeps_wordMove hword s _ a lacking plain c hmove
        rw [hmove] at h
        exact ih lacking c (fun hmem => hplain (List.mem_cons_of_mem _ hmem)) h
      | command c | help | version | wrong =>
        rw [hmove] at h
        cases h
  exact hfrom args none {} hplain h

/-- None of the words names a file for the input: as far as they lack nothing, none is given. -/
def Fileless (s : Signature) (words : List String) (lacking : Option Parameter) (plain : Bool) (a : Arguments) : Prop :=
  ∀ front, front <+: words → ∀ b, s.scanFrom front lacking plain a = .done b → b.has "input-file" = false

theorem Fileless.has_eq_false (h : s.Fileless words none plain a) : a.has "input-file" = false :=
  h [] (List.nil_prefix) a rfl

theorem Fileless.tail (h : s.Fileless (word :: words) lacking plain a)
    (hmove : s.wordMove word lacking plain a = .next lacking' plain' b) : s.Fileless words lacking' plain' b := by
  intro front hfront c hc
  refine h (word :: front) (List.cons_prefix_cons.2 ⟨rfl, hfront⟩) c ?_
  rw [scanFrom_cons, hmove]
  exact hc

end Scan

end Signature

/-! ## A file among the arguments -/

/-- The second arguments name a file for the input, and the first do not, which have all else of the second. -/
structure Arguments.AddsFile (path : String) (a b : Arguments) : Prop where
  missing : a.value? "input-file" = none
  given : b.value? "input-file" = some path
  others : ∀ name, name ≠ "input-file" → b.value? name = a.value? name
  word : b.word = a.word

namespace Arguments.AddsFile

variable {path : String} {a b : Arguments} {p : Parameter}

theorem has_eq (h : AddsFile path a b) {name : String} (hname : name ≠ "input-file") : b.has name = a.has name := by
  rw [has, h.others name hname, has]

theorem give_cases (h : AddsFile path a b) (p : Parameter) (value : String) :
    (Signature.give p value a = none ∧ Signature.give p value b = none) ∨
      (∃ a' b', Signature.give p value a = some a' ∧ Signature.give p value b = some b' ∧ AddsFile path a' b') ∨
      (p.long = "input-file" ∧ Signature.give p value b = none ∧
        ∃ a', Signature.give p value a = some a' ∧ a'.has "input-file" = true) := by
  unfold Signature.give
  by_cases hlong : p.long = "input-file"
  · have hb : b.has p.long = true := by
      rw [hlong, has, h.given]
      rfl
    rw [hb, Bool.true_or, if_pos rfl]
    split
    · exact .inl ⟨rfl, rfl⟩
    · refine .inr (.inr ⟨hlong, rfl, _, rfl, ?_⟩)
      rw [has, value?, hlong, List.lookup_cons_self]
      rfl
  · rw [h.has_eq hlong]
    split
    · exact .inl ⟨rfl, rfl⟩
    · refine .inr (.inl ⟨_, _, rfl, rfl, ?_⟩)
      have hother : ("input-file" == p.long) = false := beq_eq_false_iff_ne.2 (Ne.symm hlong)
      refine ⟨?_, ?_, fun name hname => ?_, h.word⟩
      · rw [value?, List.lookup_cons, hother]
        exact h.missing
      · rw [value?, List.lookup_cons, hother]
        exact h.given
      · rw [value?, value?, List.lookup_cons, List.lookup_cons]
        split
        · rfl
        · exact h.others name hname

end Arguments.AddsFile

namespace Signature

/-- A word does the same to both arguments of which the second have a file, or it names that once more. -/
inductive Move.Follows (path : String) : Move → Move → Prop
  | next {a b : Arguments} (lacking : Option Parameter) (plain : Bool) (h : a.AddsFile path b) :
      Follows path (.next lacking plain a) (.next lacking plain b)
  | again {a : Arguments} (plain : Bool) (h : a.has "input-file" = true) : Follows path (.next none plain a) .wrong
  | help : Follows path .help .help
  | version : Follows path .version .version
  | wrong : Follows path .wrong .wrong

inductive Scan.Follows (path : String) : Scan → Scan → Prop
  | done {a b : Arguments} (h : a.AddsFile path b) : Follows path (.done a) (.done b)
  | help : Follows path .help .help
  | version : Follows path .version .version
  | wrong : Follows path .wrong .wrong

section Follows

variable {s : Signature} {path : String} {a b : Arguments}

theorem follows_elim_give (h : a.AddsFile path b) (p : Parameter) (value : String) :
    ((give p value a).elim Move.wrong (.next none false)).Follows path
      ((give p value b).elim Move.wrong (.next none false)) := by
  rcases h.give_cases p value with ⟨ha, hb⟩ | ⟨a', b', ha, hb, hadds⟩ | ⟨-, hb, a', ha, hhas⟩
  · rw [ha, hb]
    exact .wrong
  · rw [ha, hb]
    exact .next none false hadds
  · rw [ha, hb]
    exact .again false hhas

theorem follows_parameterStep (h : a.AddsFile path b) (p : Parameter) (value : Option String) :
    (parameterStep p value a).move.Follows path (parameterStep p value b).move := by
  have helim : ∀ value, ((give p value a).elim Step.wrong .given).move.Follows path
      ((give p value b).elim Step.wrong .given).move := by
    intro value
    have hmove : ∀ given : Option Arguments, (given.elim Step.wrong .given).move =
        given.elim Move.wrong (.next none false) := fun given => by cases given <;> rfl
    rw [hmove, hmove]
    exact follows_elim_give h p value
  unfold parameterStep
  split
  · exact helim ""
  · exact .wrong
  · exact helim _
  · exact .next (some p) false h

/-- The file is no flag, so short names that share a dash go on as they do without it. -/
theorem follows_shortStep (hfile : ∀ p ∈ s.parameters, p.long = "input-file" → p.accepts.isSome = true)
    (h : a.AddsFile path b) (names : List Char) :
    (s.shortStep names a).move.Follows path (s.shortStep names b).move := by
  induction names generalizing a b with
  | nil => exact .next none false h
  | cons c names ih =>
    rw [shortStep, shortStep]
    cases hshort : s.short? c with
    | none =>
      simp only
      split
      · exact .help
      · split
        · exact .version
        · exact .wrong
    | some p =>
      simp only
      by_cases hflag : p.accepts.isNone = true
      · rw [if_pos hflag, if_pos hflag]
        rcases h.give_cases p "" with ⟨ha, hb⟩ | ⟨a', b', ha, hb, hadds⟩ | ⟨hlong, -⟩
        · rw [ha, hb]
          exact .wrong
        · rw [ha, hb]
          exact ih hadds
        · have hsome := hfile p (List.mem_of_find?_eq_some hshort) hlong
          rw [Option.isNone_iff_eq_none] at hflag
          rw [hflag] at hsome
          cases hsome
      · rw [if_neg hflag, if_neg hflag]
        split
        · exact .next (some p) false h
        · exact follows_parameterStep h p _
        · exact follows_parameterStep h p _

theorem follows_longStep (h : a.AddsFile path b) (name : List Char) :
    (s.longStep name a).move.Follows path (s.longStep name b).move := by
  rw [longStep, longStep]
  cases s.long? (String.ofList (name.takeWhile (· ≠ '='))) with
  | some p => exact follows_parameterStep h p _
  | none =>
    simp only
    split
    · exact .wrong
    · rw [Option.isSome_none, if_neg Bool.false_ne_true]
      split
      · exact .help
      · split
        · exact .version
        · exact .wrong

theorem follows_takeWord (hcommands : s.commands = false) (h : a.AddsFile path b) (word : String) (plain : Bool) :
    (s.takeWord word plain a).Follows path (s.takeWord word plain b) := by
  rw [takeWord, takeWord, hcommands, Bool.false_and, if_neg Bool.false_ne_true, if_neg Bool.false_ne_true, giveWord,
    giveWord, h.word]
  cases s.word with
  | none => exact .wrong
  | some accepts =>
    simp only
    split
    · exact .wrong
    · exact .next none plain ⟨h.missing, h.given, h.others, rfl⟩

theorem follows_wordMove (hcommands : s.commands = false)
    (hfile : ∀ p ∈ s.parameters, p.long = "input-file" → p.accepts.isSome = true) (h : a.AddsFile path b)
    (word : String) (lacking : Option Parameter) (plain : Bool) :
    (s.wordMove word lacking plain a).Follows path (s.wordMove word lacking plain b) := by
  cases lacking with
  | some p =>
    rw [wordMove, wordMove, takeValue, takeValue]
    split
    · exact .wrong
    · exact follows_elim_give h p word
  | none =>
    cases plain with
    | true => exact follows_takeWord hcommands h word true
    | false =>
      rw [wordMove, wordMove, h.word]
      split
      · exact .next none true h
      · exact follows_longStep h _
      · exact follows_takeWord hcommands h word false
      · split
        · exact follows_takeWord hcommands h word false
        · exact follows_shortStep hfile h _
      · exact follows_takeWord hcommands h word false

/-- Words that name no file ask for the same behind arguments with a file as behind those without it. -/
theorem follows_scanFrom (hcommands : s.commands = false)
    (hfile : ∀ p ∈ s.parameters, p.long = "input-file" → p.accepts.isSome = true) (h : a.AddsFile path b)
    {words : List String} {lacking : Option Parameter} {plain : Bool} (hwords : s.Fileless words lacking plain a) :
    Scan.Follows path (s.scanFrom words lacking plain a) (s.scanFrom words lacking plain b) := by
  induction words generalizing lacking plain a b with
  | nil =>
    cases lacking with
    | none => exact .done h
    | some p => exact .wrong
  | cons word words ih =>
    rw [scanFrom_cons, scanFrom_cons]
    have hmove := follows_wordMove hcommands hfile h word lacking plain
    generalize ha : s.wordMove word lacking plain a = move, s.wordMove word lacking plain b = move' at hmove ⊢
    cases hmove with
    | next lacking plain hadds => exact ih hadds (hwords.tail ha)
    | again plain hhas =>
      rw [(hwords.tail ha).has_eq_false] at hhas
      cases hhas
    | help => exact .help
    | version => exact .version
    | wrong => exact .wrong

end Follows

end Signature

end TextPattern
