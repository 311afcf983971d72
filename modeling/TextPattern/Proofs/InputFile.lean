import TextPattern.Proofs.CommandLine
import TextPattern.Proofs.CommandWords

/-!
# The input of a command in a file

* `NamesFile path words fileWords`, `readCommandLine_of_namesFile` : a command line with `-f` is read as that without
  it, but for the input;
* `runCommandLine_file_eq_piped` : a command with a file does what it does if the text of the file is piped in, but for
  the end of the last line.
-/

namespace TextPattern

/-! ## A file on a command line -/

def Command.withInput (input : InputChoice) : Command → Command
  | extract pattern limit options _ => extract pattern limit options input
  | matchWhole pattern options _ => matchWhole pattern options input
  | find pattern options _ => find pattern options input
  | sweep catalog builtin _ => sweep catalog builtin input
  | c => c

def Reading.withInput (input : InputChoice) : Reading → Reading
  | run i => run { i with command := i.command.withInput input }
  | r => r

def inputCommands : List String := ["extract", "matches", "find", "sweep"]

/-- The first command line is of a command with an input and names no file for that, and the second is the first with
`-f` and a path among the arguments, where no value of another is expected and names are recognised. -/
inductive NamesFile (path : String) : List String → List String → Prop
  | intro {lead args more : List String} {name : String} {outer inner : Arguments} {s : Signature}
      (hlead : outerSignature.scan (lead ++ [name]) = .command outer name []) (hname : name ∈ inputCommands)
      (hs : signature? name = some s) (hargs : s.scan args = .done inner) (hplain : "--" ∉ args)
      (hno : s.Fileless (args ++ more) none false {})
      (hpath : path ≠ "" ∧ (path.toList.head? = some '-' → path.toList = ['-'])) :
      NamesFile path (lead ++ name :: (args ++ more)) (lead ++ name :: (args ++ "-f" :: path :: more))

section Reading

variable {path : String} {a b : Arguments}

theorem Arguments.AddsFile.get_eq {α : Type} (h : a.AddsFile path b) {name : String} (hname : name ≠ "input-file")
    (read : String → Option α) (default : α) : b.get name read default = a.get name read default := by
  rw [get, h.others name hname, get]

theorem Arguments.AddsFile.input? (h : a.AddsFile path b) :
    (a.input? = some .standard ∧ b.input? = some (.file path)) ∨
      ∃ text, a.input? = some (.inline text) ∧ b.input? = none := by
  unfold Arguments.input?
  rw [h.missing, h.given, h.others "input" (by decide)]
  cases a.value? "input" with
  | none => exact .inl ⟨rfl, rfl⟩
  | some text => exact .inr ⟨text, rfl, rfl⟩

theorem Arguments.exists_command? (a : Arguments) {name : String} (hname : name ∈ inputCommands) :
    ∃ make : Option (InputChoice → Command),
      (∀ command ∈ make, ∀ input, (command input).input? = some input ∧
        ∀ other, (command input).withInput other = command other) ∧
      a.command? name = (do return (← make) (← a.input?)) ∧
      ∀ path b, a.AddsFile path b → b.command? name = do return (← make) (← b.input?) := by
  have hoptions : ∀ {path b}, a.AddsFile path b → b.get "options" readSigned 0 = a.get "options" readSigned 0 :=
    fun h => h.get_eq (by decide) readSigned 0
  have hword : ∀ command : String → InputChoice → Command,
      (∀ word input, (command word input).input? = some input ∧
        ∀ other, (command word input).withInput other = command word other) →
      ∀ made ∈ a.word.map command, ∀ input, (made input).input? = some input ∧
        ∀ other, (made input).withInput other = made other := by
    intro command hcommand made hmade
    obtain ⟨word, -, rfl⟩ := Option.map_eq_some_iff.1 hmade
    exact hcommand word
  simp only [inputCommands, List.mem_cons, List.not_mem_nil, or_false] at hname
  rcases hname with rfl | rfl | rfl | rfl
  · refine ⟨a.word.map fun word =>
      .extract word (a.get "limit" readSigned (-1)) (a.get "options" readSigned 0),
      hword _ fun _ _ => ⟨rfl, fun _ => rfl⟩, ?_, fun path b h => ?_⟩
    · simp only [command?]
      cases a.word <;> rfl
    · simp only [command?, hoptions h, h.get_eq (show "limit" ≠ "input-file" by decide), h.word]
      cases a.word <;> rfl
  · refine ⟨a.word.map fun word => .matchWhole word (a.get "options" readSigned 0),
      hword _ fun _ _ => ⟨rfl, fun _ => rfl⟩, ?_, fun path b h => ?_⟩
    · simp only [command?]
      cases a.word <;> rfl
    · simp only [command?, hoptions h, h.word]
      cases a.word <;> rfl
  · refine ⟨a.word.map fun word => .find word (a.get "options" readSigned 0),
      hword _ fun _ _ => ⟨rfl, fun _ => rfl⟩, ?_, fun path b h => ?_⟩
    · simp only [command?]
      cases a.word <;> rfl
    · simp only [command?, hoptions h, h.word]
      cases a.word <;> rfl
  · refine ⟨if a.has "no-defaults" && !a.has "catalog" then none
      else some (.sweep (a.value? "catalog") (!a.has "no-defaults")), ?_, ?_, fun path b h => ?_⟩
    · split
      · exact fun _ hnone => absurd hnone (Option.some_ne_none _).symm
      · intro command hcommand
        obtain rfl := Option.some.inj hcommand
        exact fun _ => ⟨rfl, fun _ => rfl⟩
    · simp only [command?]
      split <;> rfl
    · simp only [command?, h.has_eq (show "no-defaults" ≠ "input-file" by decide),
        h.has_eq (show "catalog" ≠ "input-file" by decide), h.others "catalog" (by decide)]
      split <;> rfl

theorem Arguments.AddsFile.command? (h : a.AddsFile path b) {name : String} (hname : name ∈ inputCommands) :
    (a.command? name = none → b.command? name = none) ∧ ∀ c, a.command? name = some c → c.input? = some .standard →
      b.command? name = some (c.withInput (.file path)) := by
  obtain ⟨make, hmake, ha, hb⟩ := a.exists_command? hname
  rw [hb path b h, ha]
  cases make with
  | none => exact ⟨fun _ => rfl, fun _ hc => absurd hc (Option.some_ne_none _).symm⟩
  | some command =>
    rcases h.input? with ⟨hfirst, hsecond⟩ | ⟨text, hfirst, hsecond⟩
    · rw [hfirst, hsecond]
      refine ⟨fun hnone => absurd hnone (Option.some_ne_none _), fun c hc _ => ?_⟩
      obtain rfl := Option.some.inj hc
      rw [(hmake command rfl .standard).2]
      rfl
    · rw [hfirst, hsecond]
      refine ⟨fun _ => rfl, fun c hc hstandard => ?_⟩
      obtain rfl := Option.some.inj hc
      rw [(hmake command rfl (.inline text)).1] at hstandard
      cases hstandard

/-- What arguments ask for with a file is what they ask for without it, but for the input, if a command that they give
has standard input. -/
theorem readInner_of_follows {outer : Arguments} {name : String} {scan fileScan : Scan}
    (h : Signature.Scan.Follows path scan fileScan) (hname : name ∈ inputCommands)
    (hinput : ∀ i, readInner outer name scan = .run i → i.command.input? = some .standard) :
    readInner outer name fileScan = (readInner outer name scan).withInput (.file path) := by
  cases h with
  | @done a b h =>
    obtain ⟨hnone, hsome⟩ := h.command? hname
    have hquiet := h.has_eq (show "quiet" ≠ "input-file" by decide)
    have hdebug := h.has_eq (show "debug" ≠ "input-file" by decide)
    have hboth : b.contradicts = a.contradicts := by
      rw [Arguments.contradicts, hquiet, hdebug, Arguments.contradicts]
    unfold readInner at hinput ⊢
    simp only [hquiet, hdebug, hboth] at hinput ⊢
    by_cases hcontradicts : (outer.contradicts || a.contradicts) = true
    · rw [if_pos hcontradicts, if_pos hcontradicts]
      rfl
    · rw [if_neg hcontradicts] at hinput
      rw [if_neg hcontradicts, if_neg hcontradicts]
      cases hc : a.command? name with
      | none =>
        rw [hnone hc]
        rfl
      | some c =>
        rw [hc] at hinput
        rw [hsome c hc (hinput _ rfl)]
        rfl
  | help | version | wrong => rfl

def fileParameter : Parameter := ⟨"input-file", some 'f', some isPath, false⟩

theorem takes_file {name : String} {s : Signature} (hname : name ∈ inputCommands) (hs : signature? name = some s) :
    s.commands = false ∧ s.short? 'f' = some fileParameter ∧
      ∀ p ∈ s.parameters, p.long = "input-file" → p.accepts.isSome = true := by
  simp only [inputCommands, List.mem_cons, List.not_mem_nil, or_false] at hname
  rcases hname with rfl | rfl | rfl | rfl
  · obtain rfl := Option.some.inj hs
    exact ⟨rfl, rfl, by decide⟩
  · obtain rfl := Option.some.inj hs
    exact ⟨rfl, rfl, by decide⟩
  · obtain rfl := Option.some.inj hs
    exact ⟨rfl, rfl, by decide⟩
  · obtain rfl := Option.some.inj hs
    exact ⟨rfl, rfl, by decide⟩

/-- Behind `-f` and a path, words that name no file ask for what they ask for without them, but for the file. -/
theorem follows_file {s : Signature} (hcommands : s.commands = false) (hshort : s.short? 'f' = some fileParameter)
    (hfile : ∀ p ∈ s.parameters, p.long = "input-file" → p.accepts.isSome = true)
    (hpath : path ≠ "" ∧ (path.toList.head? = some '-' → path.toList = ['-'])) {more : List String} {a : Arguments}
    (hmore : s.Fileless more none false a) :
    Signature.Scan.Follows path (s.scanFrom more none false a) (s.scanFrom ("-f" :: path :: more) none false a) := by
  have hname : s.wordMove "-f" none false a = .next (some fileParameter) false a := by
    have hchars : "-f".toList = ['-', 'f'] := by decide
    have hnumber : isNegativeNumber ['-', 'f'] = false := by decide
    rw [Signature.wordMove, hchars]
    change (if (s.negativeWord && a.word.isNone && isNegativeNumber ['-', 'f']) = true then s.takeWord "-f" false a
      else (s.shortStep ['f'] a).move) = _
    rw [hnumber, Bool.and_false, if_neg Bool.false_ne_true, Signature.shortStep, hshort]
    rfl
  have hhas := hmore.has_eq_false
  have hvalue : s.wordMove path (some fileParameter) false a =
      .next none false { a with values := ("input-file", path) :: a.values } := by
    have hdash : (decide (path.toList.head? = some '-') && decide (path.toList ≠ ['-'])) = false := by
      rw [Bool.and_eq_false_imp, decide_eq_true_iff]
      exact fun hhead => decide_eq_false fun hne => hne (hpath.2 hhead)
    have haccepts : fileParameter.accepts.all (fun accepts => accepts path) = true := by
      simpa [fileParameter, isPath] using hpath.1
    simp only [Signature.wordMove, Signature.takeValue, hdash, Bool.false_and, Bool.false_eq_true, if_false,
      Signature.give, haccepts, Bool.not_true, Bool.or_false]
    rw [show fileParameter.long = "input-file" from rfl, if_neg (Bool.eq_false_iff.1 hhas)]
    rfl
  have hadds : a.AddsFile path { a with values := ("input-file", path) :: a.values } := by
    refine ⟨Option.not_isSome_iff_eq_none.1 (Bool.eq_false_iff.1 hhas), ?_, fun other hother => ?_, rfl⟩
    · rw [Arguments.value?, List.lookup_cons_self]
    · rw [Arguments.value?, List.lookup_cons, beq_eq_false_iff_ne.2 hother]
      rfl
  rw [Signature.scanFrom_cons, hname, Signature.Move.scan, Signature.scanFrom_cons, hvalue]
  exact Signature.follows_scanFrom hcommands hfile hadds hmore

/-- A command line with a file is read as without it, but for the input, if a command that it gives has standard
input. -/
theorem readCommandLine_of_namesFile {words fileWords : List String} (h : NamesFile path words fileWords)
    (hinput : ∀ i, readCommandLine words = .run i → i.command.input? = some .standard) :
    readCommandLine fileWords = (readCommandLine words).withInput (.file path) := by
  obtain @⟨lead, args, more, name, outer, inner, s, hlead, hname, hs, hargs, hplain, hno, hpath⟩ := h
  obtain ⟨hcommands, hshort, hfile⟩ := takes_file hname hs
  have hhelp : name ≠ "help" := by
    rintro rfl
    exact absurd hname (by decide)
  have hread : ∀ rest, readCommandLine (lead ++ name :: rest) = readInner outer name (s.scan rest) := by
    intro rest
    rw [readCommandLine, Signature.scan_append_of_command hlead rest]
    simp only
    rw [if_neg hhelp, hs]
  have hmore : s.Fileless more none false inner := by
    intro front hfront b hb
    refine hno (args ++ front) ((List.prefix_append_right_inj args).2 hfront) b ?_
    exact (Signature.scan_append_of_done hargs hplain front).trans hb
  rw [hread, Signature.scan_append_of_done hargs hplain] at hinput ⊢
  rw [hread, Signature.scan_append_of_done hargs hplain]
  exact readInner_of_follows (follows_file hcommands hshort hfile hpath hmore) hname hinput

end Reading

/-! ## A file and standard input -/

def Surroundings.piping (s : Surroundings) (text : String) : Surroundings :=
  { s with standardInput := text.toUTF8, terminal := false }

section Run

variable {s : Surroundings} {path all text : String}

theorem fromUTF8?_toUTF8 (text : String) : String.fromUTF8? text.toUTF8 = some text := dif_pos text.isValidUTF8

theorem run_withInput {c : Command} {input : InputChoice} (hc : c.input? = some .standard)
    (hinput : s.read input = .ok text) (hpiped : (s.piping all).read .standard = .ok text) :
    (c.withInput input).run s = c.run (s.piping all) := by
  cases c with
  | extract pattern limit options given =>
    obtain rfl : given = .standard := Option.some.inj hc
    simp only [Command.withInput, Command.run, ask, hinput, hpiped]
  | matchWhole pattern options given | find pattern options given =>
    obtain rfl : given = .standard := Option.some.inj hc
    simp only [Command.withInput, Command.run, ask, hinput, hpiped]
  | sweep catalog builtin given =>
    obtain rfl : given = .standard := Option.some.inj hc
    have hcatalog : sweepCatalog (s.piping all) catalog builtin = sweepCatalog s catalog builtin := by
      cases catalog <;> rfl
    simp only [Command.withInput, Command.run, runSweep, hcatalog, hinput, hpiped]
    rfl
  | validate pattern => cases hc
  | generate pattern length seed count => cases hc
  | range bound comparison sql => cases hc

def Surroundings.withPage (text : String) : Surroundings :=
  ⟨fun path => if path = "page" then some (.file text.toUTF8) else none, .empty, false, none, 0⟩

theorem namesFile_page : NamesFile "page" ["matches", "a"] ["matches", "a", "-f", "page"] := by
  obtain ⟨outer, houter⟩ : ∃ outer, outerSignature.scan ([] ++ ["matches"]) = .command outer "matches" [] := ⟨_, rfl⟩
  obtain ⟨s, hs⟩ : ∃ s, signature? "matches" = some s := ⟨_, rfl⟩
  have hargs : s.scan ["a"] = .done { word := some "a" } := by
    obtain rfl := Option.some.inj hs
    rfl
  refine @NamesFile.intro "page" [] ["a"] [] "matches" outer _ s houter (by decide) hs hargs (by decide) ?_ (by decide)
  intro front hfront b hb
  rcases front with _ | ⟨word, rest⟩
  · obtain rfl := Scan.done.inj hb
    rfl
  · obtain ⟨rfl, hrest⟩ := List.cons_prefix_cons.1 hfront
    obtain rfl := List.prefix_nil.1 hrest
    obtain rfl := Scan.done.inj (hargs.symm.trans hb)
    rfl

/-- A command line that names no file and no text for the input prints the same and ends with the same code if it
names a file, as long as what is piped in is the text of that or has the end of a last line besides. -/
theorem runCommandLine_file_eq_piped {words fileWords : List String} (h : NamesFile path words fileWords)
    (hinput : ∀ i, readCommandLine words = .run i → i.command.input? = some .standard)
    (hfile : s.files path = some (.file text.toUTF8)) (hend : DropsLineEnd all.toList text.toList) :
    (runCommandLine s fileWords).exit = (runCommandLine (s.piping all) words).exit ∧
      (runCommandLine s fileWords).printed = (runCommandLine (s.piping all) words).printed := by
  have hread : s.read (.file path) = .ok text := read_eq_ok_iff.2 (.file hfile (fromUTF8?_toUTF8 text))
  have hpiped : (s.piping all).read .standard = .ok text :=
    read_eq_ok_iff.2 (.standard rfl (fromUTF8?_toUTF8 all) hend)
  rw [runCommandLine, runCommandLine, readCommandLine_of_namesFile h hinput]
  cases hreading : readCommandLine words with
  | run i =>
    have hrun := run_withInput (hinput i hreading) hread hpiped
    simp only [Reading.withInput, Invocation.run, hrun]
    cases (i.command.run (s.piping all)).value.verdict <;> exact ⟨rfl, rfl⟩
  | help | version | wrong => exact ⟨rfl, rfl⟩

theorem runCommandLine_file_eq_piped_page :
    (NamesFile "page" ["matches", "a"] ["matches", "a", "-f", "page"] ∧
      (∀ i, readCommandLine ["matches", "a"] = .run i → i.command.input? = some .standard) ∧
      (Surroundings.withPage "a").files "page" = some (.file "a".toUTF8) ∧ DropsLineEnd "a\n".toList "a".toList) ∧
    (runCommandLine (.withPage "a") ["matches", "a", "-f", "page"]).exit =
        (runCommandLine ((Surroundings.withPage "a").piping "a\n") ["matches", "a"]).exit ∧
      (runCommandLine (.withPage "a") ["matches", "a", "-f", "page"]).printed =
        (runCommandLine ((Surroundings.withPage "a").piping "a\n") ["matches", "a"]).printed := by
  have hinput : ∀ i, readCommandLine ["matches", "a"] = .run i → i.command.input? = some .standard := by
    have hread : readCommandLine ["matches", "a"] = .run ⟨.matchWhole "a" 0 .standard, false, false⟩ := by
      decide +kernel
    intro i hi
    obtain rfl := Reading.run.inj (hread.symm.trans hi)
    rfl
  have hend : DropsLineEnd "a\n".toList "a".toList := .feed ['a'] (by decide)
  exact ⟨⟨namesFile_page, hinput, rfl, hend⟩, runCommandLine_file_eq_piped namesFile_page hinput rfl hend⟩

/-- The end of the last line is a part of a file, but not of what is piped in. -/
theorem runCommandLine_file_ne_piped :
    NamesFile "page" ["matches", "a"] ["matches", "a", "-f", "page"] ∧
      (Surroundings.withPage "a\n").files "page" = some (.file "a\n".toUTF8) ∧
      (runCommandLine (.withPage "a\n") ["matches", "a", "-f", "page"]).exit = 1 ∧
      (runCommandLine (.withPage "a\n") ["matches", "a", "-f", "page"]).printed = .text "false\n" ∧
      (runCommandLine ((Surroundings.withPage "a\n").piping "a\n") ["matches", "a"]).exit = 0 ∧
      (runCommandLine ((Surroundings.withPage "a\n").piping "a\n") ["matches", "a"]).printed = .text "true\n" := by
  refine ⟨namesFile_page, rfl, ?_, ?_, ?_, ?_⟩ <;> decide +kernel

end Run

end TextPattern
