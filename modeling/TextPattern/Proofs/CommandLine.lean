import TextPattern.Proofs.Extract
import TextPattern.Proofs.Json.Results
import TextPattern.Proofs.Sample.Failures

/-!
# Command lines and the library

* `Given s choice text` : an input stands for a text, `read_eq_ok_iff` : which is what is read;
* `generateEach` : calls for a pattern one after the other on one source;
* `Value`, `Command.call` : the value of the calls of the library that a command stands for;
* `generateMany_of_ok`, `generateMany_of_error` : lines are printed as they are generated, and none before a
  failure;
* `Ending.Tells`, `tells_call` : a command prints the value of its calls, or fails like one of them;
* `runCommandLine_agrees` : the same of a command line, its exit code and what is read back of what it prints.
-/

namespace TextPattern

open TextPattern.Random (Source)

/-! ## Inputs -/

/-- The first text is the second with the end of a line, or it does not end with one. -/
inductive DropsLineEnd : List Char → List Char → Prop
  | both (text : List Char) : DropsLineEnd (text ++ ['\r', '\n']) text
  | feed (text : List Char) (h : text.getLast? ≠ some '\r') : DropsLineEnd (text ++ ['\n']) text
  | none (text : List Char) (h : text.getLast? ≠ some '\n') : DropsLineEnd text text

/-- An input stands for a text: the one that is given with it, all of a file, or all of standard input, which is no
terminal, but for the end of its last line. -/
inductive Given (s : Surroundings) : InputChoice → String → Prop
  | inline (text : String) : Given s (.inline text) text
  | file {path : String} {bytes : ByteArray} {text : String} (hfile : s.files path = some (.file bytes))
      (htext : String.fromUTF8? bytes = some text) : Given s (.file path) text
  | standard {all text : String} (hpiped : s.terminal = false)
      (htext : String.fromUTF8? s.standardInput = some all) (hend : DropsLineEnd all.toList text.toList) :
      Given s .standard text

theorem dropsLineEnd_iff {all text : List Char} : DropsLineEnd all text ↔ dropLineEnd all = text := by
  have hback : ∀ {rest}, all.reverse = rest → all = rest.reverse := by
    intro rest h
    rw [← h, List.reverse_reverse]
  constructor
  · rintro (text | ⟨text, h⟩ | ⟨text, h⟩)
    · simp [dropLineEnd]
    · unfold dropLineEnd
      rw [List.reverse_append, List.reverse_singleton, List.singleton_append]
      split
      · next rest hreverse =>
        rw [List.cons.injEq] at hreverse
        rw [← List.head?_reverse, hreverse.2] at h
        exact absurd rfl h
      · next rest _ hreverse =>
        rw [← (List.cons.inj hreverse).2, List.reverse_reverse]
      · next _ hfeed => exact absurd rfl (hfeed text.reverse)
    · unfold dropLineEnd
      rw [← List.head?_reverse] at h
      split
      · next rest hreverse =>
        rw [hreverse] at h
        exact absurd rfl h
      · next rest _ hreverse =>
        rw [hreverse] at h
        exact absurd rfl h
      · rfl
  · rintro rfl
    unfold dropLineEnd
    split
    · next rest hreverse =>
      rw [hback hreverse, List.reverse_cons, List.reverse_cons, List.append_assoc]
      exact .both _
    · next rest hnot hreverse =>
      rw [hback hreverse, List.reverse_cons]
      refine .feed _ fun hlast => ?_
      rw [List.getLast?_reverse] at hlast
      obtain ⟨more, rfl⟩ := List.head?_eq_some_iff.1 hlast
      exact hnot more rfl
    · next _ hfeed =>
      refine .none _ fun hlast => ?_
      rw [← List.head?_reverse] at hlast
      obtain ⟨rest, hreverse⟩ := List.head?_eq_some_iff.1 hlast
      exact hfeed rest hreverse

theorem readFile_eq_ok {node : Option FileNode} {text : String} :
    readFile node = .ok text ↔ ∃ bytes, node = some (.file bytes) ∧ String.fromUTF8? bytes = some text := by
  match node with
  | none => simp [readFile]
  | some .folder => simp [readFile]
  | some (.file bytes) =>
    rw [readFile]
    cases htext : String.fromUTF8? bytes with
    | none => simp [htext]
    | some found => simp [htext]

theorem read_standard_eq_ok {s : Surroundings} {text : String} : s.read .standard = .ok text ↔
    s.terminal = false ∧ ∃ all, String.fromUTF8? s.standardInput = some all ∧
      dropLineEnd all.toList = text.toList := by
  have hlist : ∀ cs : List Char, String.ofList cs = text ↔ cs = text.toList := fun cs =>
    ⟨fun h => by rw [← h, String.toList_ofList], fun h => by rw [h, String.ofList_toList]⟩
  rw [Surroundings.read, readFile]
  cases s.terminal with
  | true => simp
  | false =>
    cases hall : String.fromUTF8? s.standardInput with
    | none => simp
    | some all => simp [hlist]

theorem read_eq_ok_iff {s : Surroundings} {choice : InputChoice} {text : String} :
    s.read choice = .ok text ↔ Given s choice text := by
  constructor
  · intro h
    match choice with
    | .inline given =>
      obtain rfl : given = text := Except.ok.inj h
      exact .inline given
    | .file path =>
      obtain ⟨bytes, hfile, htext⟩ : ∃ bytes, s.files path = some (.file bytes) ∧
          String.fromUTF8? bytes = some text := by
        rw [← readFile_eq_ok]
        cases hread : readFile (s.files path) with
        | ok found =>
          rw [Surroundings.read, hread] at h
          exact congrArg Except.ok (Except.ok.inj h)
        | error fault =>
          rw [Surroundings.read, hread] at h
          cases h
      exact .file hfile htext
    | .standard =>
      obtain ⟨hpiped, all, htext, hend⟩ := read_standard_eq_ok.1 h
      exact .standard hpiped htext (dropsLineEnd_iff.2 hend)
  · rintro (_ | ⟨hfile, htext⟩ | ⟨hpiped, htext, hend⟩)
    · rfl
    · rw [Surroundings.read, readFile_eq_ok.2 ⟨_, hfile, htext⟩]
      rfl
    · exact read_standard_eq_ok.2 ⟨hpiped, _, htext, dropsLineEnd_iff.1 hend⟩

/-! ## Calls -/

/-- The results of calls for a pattern, one after the other on one source, each whatever became of those before. -/
def generateEach {σ : Type} [Source σ] (pattern : String) (length : Int) :
    (count : Nat) → σ → List (Except Error String)
  | 0, _ => []
  | count + 1, source =>
    let call := generate pattern length source
    call.1 :: generateEach pattern length count call.2

def userCatalog (s : Surroundings) : Option String → Except Error (Option Catalog)
  | none => .ok none
  | some path => (Catalog.ofFile path (s.files path)).value.map some

/-- The value of the calls of the library that a command stands for. -/
inductive Value where
  | validity (valid : Bool)
  | occurrences (found : MatchSet)
  | truth (holds : Bool)
  | findings (found : Findings)
  | samples (texts : List String)
  | alternatives (found : Alternatives)

namespace Value

/-- How a value is written. -/
def printed : Value → String
  | validity valid => line (if valid then "valid" else "invalid")
  | occurrences found => jsonLines found.toJson
  | truth holds => line (if holds then "true" else "false")
  | findings found => jsonLines found.toJson
  | samples texts => String.join (texts.map line)
  | alternatives found => String.join (found.texts.map line)

/-- A text is a JSON document of the value, if that is written as one. -/
def IsReadFrom (text : List Char) : Value → Prop
  | occurrences found => MatchSet.ofText? text = some found
  | findings found => Findings.ofText? text = some found
  | _ => True

/-- The value is no negative answer. -/
def positive : Value → Bool
  | validity valid => valid
  | truth holds => holds
  | _ => true

end Value

/-- The calls of the library that a command stands for, given the text of its input. -/
def Command.call (s : Surroundings) (text : String) : Command → Except Error Value
  | validate pattern => .ok (.validity (isValid pattern))
  | extract pattern limit options _ => do
    return .occurrences (← TextPattern.extract pattern (← Options.ofRaw options) limit text)
  | matchWhole pattern options _ => do
    return .truth (← TextPattern.matchesWhole pattern (← Options.ofRaw options) text)
  | find pattern options _ => do
    return .truth (← TextPattern.occursIn pattern (← Options.ofRaw options) text)
  | sweep path builtin _ => do
    let user ← userCatalog s path
    let d := Disclosure.ofSetting s.disclosure
    if builtin then return .findings (← (identifying user d text).value)
    else return .findings (← ((user.getD .empty).sweep d text).value)
  | generate pattern length seed count => do
    let source := Random.KeyStream.ofSeed ((seed.map Nat.toUInt64).getD s.seed)
    return .samples (← (generateEach pattern length count source).mapM id)
  | range bound comparison sql => do
    return .alternatives (← TextPattern.range bound comparison (if sql then .sql else .general))

/-! ### Samples -/

section Samples

variable {σ : Type} [Source σ] {pattern : String} {length : Int}

/-- Whether generating fails, and how, does not depend on the source. -/
theorem generate_eq_error {source : σ} {e : Error} (h : (generate pattern length source).1 = .error e)
    (other : σ) : (generate pattern length other).1 = .error e := by
  have hnot : ¬ Sample.Accepted (pattern, length) := by
    intro haccepted
    obtain ⟨text, left, htext⟩ := Sample.generate_eq_of_accepted haccepted source
    rw [htext] at h
    cases h
  obtain ⟨cause, hcause⟩ := Sample.generate_eq_of_not_accepted (σ := σ) hnot
  rw [hcause] at h ⊢
  exact h

/-- If one of the calls fails, the first one does. -/
theorem generate_of_mem_generateEach {count : Nat} {source : σ} {e : Error}
    (h : .error e ∈ generateEach pattern length count source) :
    0 < count ∧ (generate pattern length source).1 = .error e := by
  induction count generalizing source with
  | zero => exact absurd h List.not_mem_nil
  | succ count ih =>
    refine ⟨Nat.succ_pos count, ?_⟩
    rcases List.mem_cons.1 h with hfirst | hlater
    · exact hfirst.symm
    · exact generate_eq_error (ih hlater).2 source

/-- What is generated is printed line by line. -/
theorem generateMany_of_ok {count : Nat} {source : σ} {texts : List String}
    (h : generateEach pattern length count source = texts.map .ok) (printed : List String) :
    generateMany pattern length count source printed =
      ⟨String.join (printed.reverse ++ texts.map line), .ok true⟩ := by
  induction count generalizing source texts printed with
  | zero =>
    obtain rfl : texts = [] := List.map_eq_nil_iff.1 h.symm
    rw [generateMany, List.map_nil, List.append_nil]
  | succ count ih =>
    obtain ⟨text, texts, rfl, hfirst, hlater⟩ := List.map_eq_cons_iff.1 h.symm
    have hcall : generate pattern length source = (.ok text, (generate pattern length source).2) := by
      rw [hfirst]
    rw [generateMany, hcall]
    refine (ih hlater.symm _).trans ?_
    rw [List.map_cons, List.reverse_cons, List.append_assoc, List.singleton_append]

/-- Nothing is printed if a call fails, since then the first one does. -/
theorem generateMany_of_error {count : Nat} {source : σ} {e : Error}
    (h : .error e ∈ generateEach pattern length count source) :
    generateMany pattern length count source [] = ⟨"", .error (.generation pattern e)⟩ := by
  obtain ⟨hpos, hfirst⟩ := generate_of_mem_generateEach h
  obtain ⟨count, rfl⟩ := Nat.exists_eq_succ_of_ne_zero (Nat.ne_of_gt hpos)
  have hcall : generate pattern length source = (.error e, (generate pattern length source).2) := by
    rw [← hfirst]
  rw [generateMany, hcall]
  rfl

end Samples

theorem mapM_id_eq_ok {ε α : Type} {results : List (Except ε α)} {values : List α} :
    results.mapM id = .ok values → results = values.map .ok := by
  induction results generalizing values with
  | nil =>
    intro h
    obtain rfl : values = [] := (Except.ok.inj h).symm
    rfl
  | cons result results ih =>
    intro h
    rw [List.mapM_cons] at h
    obtain ⟨value, hvalue, h⟩ := Syntax.bind_eq_ok.1 h
    obtain ⟨more, hmore, h⟩ := Syntax.bind_eq_ok.1 h
    rw [← Except.ok.inj h, List.map_cons, ← ih hmore]
    exact congrArg (· :: results) hvalue

theorem mem_of_mapM_id_eq_error {ε α : Type} {results : List (Except ε α)} {e : ε} :
    results.mapM id = .error e → .error e ∈ results := by
  induction results with
  | nil => exact fun h => nomatch h
  | cons result results ih =>
    intro h
    rw [List.mapM_cons] at h
    cases result with
    | error e' =>
      obtain rfl : e' = e := Except.error.inj h
      exact List.mem_cons_self
    | ok value =>
      cases hmore : results.mapM id with
      | error e' =>
        rw [hmore] at h
        obtain rfl : e' = e := Except.error.inj h
        exact List.mem_cons_of_mem _ (ih hmore)
      | ok more =>
        rw [hmore] at h
        cases h

/-! ## Commands -/

/-- A command ends as calls tell: it prints their value and nothing else, and its answer is that of the value, or it
fails like them, before it has printed anything. -/
def Ending.Tells (e : Ending) : Except Error Value → Prop
  | .ok v => e = ⟨v.printed, .ok v.positive⟩
  | .error _ => ∃ f, e = ⟨"", .error f⟩

section Commands

variable {s : Surroundings} {text : String}

theorem tells_map {α : Type} (result : Except Error α) (cause : Error → Failure) {answer : α → Answer}
    {value : α → Value} (h : ∀ a, answer a = ⟨(value a).printed, (value a).positive⟩) :
    (Answer.ending ((result.map answer).mapError cause)).Tells (result >>= fun a => .ok (value a)) := by
  cases result with
  | error e => exact ⟨cause e, rfl⟩
  | ok a =>
    show Answer.ending (.ok (answer a)) = _
    rw [h]
    rfl

/-- A question about an input is asked under the options that are given, if there are such options. -/
theorem tells_ask {options : Int} {input : InputChoice} (hread : s.read input = .ok text)
    {question : Options → String → Except Failure Answer} {call : Options → Except Error Value}
    (h : ∀ o, (Answer.ending (question o text)).Tells (call o)) :
    (Answer.ending (ask s options input question)).Tells (Options.ofRaw options >>= call) := by
  rw [ask, hread]
  cases Options.ofRaw options with
  | error e => exact ⟨.plain e, rfl⟩
  | ok o => exact h o

theorem value_bind {α β : Type} (x : Logged α) (f : α → Logged β) : (x >>= f).value = (f x.value).value := rfl

/-- The catalog of a sweep is that of the file, or the built-in one with that over it. -/
theorem value_sweepCatalog (path : Option String) (builtin : Bool) :
    match userCatalog s path with
    | .ok user => (sweepCatalog s path builtin).value =
        .ok (if builtin then (Catalog.builtin.merge user).value else user.getD .empty)
    | .error _ => ∃ f, (sweepCatalog s path builtin).value = .error f := by
  cases path with
  | none => cases builtin <;> rfl
  | some path =>
    rw [userCatalog, sweepCatalog, value_bind, namedCatalog, value_bind]
    cases (Catalog.ofFile path (s.files path)).value with
    | error e => exact ⟨.catalog path e, rfl⟩
    | ok user => cases builtin <;> rfl

/-- A sweep with a catalog and an input that can be read gives the findings, or the failure, of that catalog. -/
theorem value_runSweep {input : InputChoice} {path : Option String} {builtin : Bool} {catalog : Catalog}
    (hcatalog : (sweepCatalog s path builtin).value = .ok catalog) (hread : s.read input = .ok text) :
    (runSweep s path builtin input).value =
      ((catalog.sweep (.ofSetting s.disclosure) text).value.map fun found =>
        ⟨jsonLines found.toJson, true⟩).mapError .sweep := by
  rw [runSweep, value_bind, hcatalog, hread]
  simp only [value_bind]
  cases (catalog.sweep (.ofSetting s.disclosure) text).value <;> rfl

theorem tells_sweep {input : InputChoice} (hread : s.read input = .ok text) (path : Option String)
    (builtin : Bool) : (Answer.ending (runSweep s path builtin input).value).Tells
      ((Command.sweep path builtin input).call s text) := by
  have hcatalog := value_sweepCatalog (s := s) path builtin
  rw [Command.call]
  cases huser : userCatalog s path with
  | error e =>
    rw [huser] at hcatalog
    obtain ⟨f, hf⟩ := hcatalog
    rw [runSweep, value_bind, hf]
    exact ⟨f, rfl⟩
  | ok user =>
    rw [huser] at hcatalog
    rw [value_runSweep hcatalog hread]
    cases builtin with
    | true => exact tells_map _ _ fun _ => rfl
    | false => exact tells_map _ _ fun _ => rfl

theorem tells_generate (pattern : String) (length : Int) (seed : Option Nat) (count : Nat) :
    ((Command.generate pattern length seed count).run s).value.Tells
      ((Command.generate pattern length seed count).call s text) := by
  let source := Random.KeyStream.ofSeed ((seed.map Nat.toUInt64).getD s.seed)
  show (generateMany pattern length count source []).Tells
    ((generateEach pattern length count source).mapM id >>= fun texts => .ok (.samples texts))
  cases hcalls : (generateEach pattern length count source).mapM id with
  | error e => exact ⟨_, generateMany_of_error (mem_of_mapM_id_eq_error hcalls)⟩
  | ok texts => exact generateMany_of_ok (mapM_id_eq_ok hcalls) []

/-- How a command ends is what the calls tell that it stands for. -/
theorem tells_call {c : Command} (hinput : ∀ choice, c.input? = some choice → s.read choice = .ok text) :
    (c.run s).value.Tells (c.call s text) := by
  match c with
  | .validate pattern => rfl
  | .extract pattern limit options input =>
    refine tells_ask (hinput input rfl) fun o => ?_
    cases TextPattern.extract pattern o limit text with
    | error e => exact ⟨.extraction pattern e, rfl⟩
    | ok found => rfl
  | .matchWhole pattern options input => exact tells_ask (hinput input rfl) fun o => tells_map _ _ fun _ => rfl
  | .find pattern options input => exact tells_ask (hinput input rfl) fun o => tells_map _ _ fun _ => rfl
  | .sweep path builtin input => exact tells_sweep (hinput input rfl) path builtin
  | .generate pattern length seed count => exact tells_generate pattern length seed count
  | .range bound comparison sql => exact tells_map _ _ fun _ => rfl

theorem fits_of_extract {pattern : String} {o : Options} {limit : Int} {found : MatchSet}
    (h : extract pattern o limit text = .ok found) (hsize : text.utf8ByteSize < offsetBound) :
    ∀ m ∈ found.results, m.Fits := by
  obtain ⟨p, hp, -⟩ := Syntax.bind_eq_ok.1 h
  obtain ⟨e, -, rfl⟩ := Pattern.compile_eq_ok.1 (validateAndCompile_eq_ok.1 hp).2
  have hall : ∀ m ∈ (Pattern.matchSet ⟨pattern, o, e, e.program⟩ text).results, m.Fits := by
    intro m hm
    obtain ⟨occ, ho, rfl⟩ := List.mem_map.1 hm
    have hstands := (Expr.stands_of_mem_occurrences ho).1.ofOccurrence
    rw [String.ofList_toList] at hstands
    have hstart := hstands.start_le
    have hstop := hstands.stop_le
    constructor <;> omega
  intro m hm
  rw [extract_eq_of_compile hp] at h
  split at h
  · cases h
  · split at h
    · obtain rfl := Except.ok.inj h
      exact hall m hm
    · obtain rfl := Except.ok.inj h
      exact hall m (List.mem_of_mem_take hm)

theorem exists_extract_of_call {c : Command} {found : MatchSet} (h : c.call s text = .ok (.occurrences found)) :
    ∃ pattern o limit, extract pattern o limit text = .ok found := by
  have hother : ∀ {α : Type} {x : Except Error α} {value : α → Value},
      (∀ a, value a ≠ .occurrences found) → (x >>= fun a => .ok (value a)) ≠ .ok (.occurrences found) := by
    intro α x value hne heq
    obtain ⟨a, -, ha⟩ := Syntax.bind_eq_ok.1 heq
    exact hne a (Except.ok.inj ha)
  match c with
  | .extract pattern limit options input =>
    obtain ⟨o, -, h⟩ := Syntax.bind_eq_ok.1 h
    obtain ⟨found', hfound, h⟩ := Syntax.bind_eq_ok.1 h
    obtain rfl : found' = found := Value.occurrences.inj (Except.ok.inj h)
    exact ⟨pattern, o, limit, hfound⟩
  | .validate pattern => cases h
  | .matchWhole pattern options input | .find pattern options input =>
    obtain ⟨o, -, h⟩ := Syntax.bind_eq_ok.1 h
    exact absurd h (hother nofun)
  | .sweep path builtin input =>
    obtain ⟨user, -, h⟩ := Syntax.bind_eq_ok.1 h
    cases builtin with
    | true => exact absurd h (hother nofun)
    | false => exact absurd h (hother nofun)
  | .generate pattern length seed count => exact absurd h (hother nofun)
  | .range bound comparison sql => exact absurd h (hother nofun)

theorem toList_jsonLines (v : Json) : (jsonLines v).toList = v.write .indented ++ ['\n'] := by
  rw [jsonLines, line, String.toList_append, String.toList_ofList]
  rfl

/-- What is printed for occurrences and findings is a JSON document of them. -/
theorem isReadFrom_printed {c : Command} {v : Value} (h : c.call s text = .ok v)
    (hsize : text.utf8ByteSize < offsetBound) : v.IsReadFrom v.printed.toList := by
  have hfeed : ∀ d ∈ ['\n'], Json.isGap d = true := List.forall_mem_singleton.2 rfl
  match v with
  | .validity _ | .truth _ | .samples _ | .alternatives _ => trivial
  | .findings found =>
    show Findings.ofText? (jsonLines found.toJson).toList = some found
    rw [toList_jsonLines]
    exact Findings.ofText?_write Json.isBlank_indented found hfeed
  | .occurrences found =>
    obtain ⟨pattern, o, limit, hfound⟩ := exists_extract_of_call h
    have hfits : ∀ m ∈ found.results, m.Fits := fits_of_extract hfound hsize
    show MatchSet.ofText? (jsonLines found.toJson).toList = some found
    rw [toList_jsonLines]
    exact MatchSet.ofText?_write Json.isBlank_indented hfits hfeed

end Commands

/-- A command line that is understood, with an input that can be read, agrees with the calls of the library that
it stands for. If they all succeed, nothing but their value is printed, from which occurrences and findings can
be read back, as long as the places in the text are numbers of 64 bits, and the exit code is 1 for a negative
answer and 0 else. If one of them fails, nothing is printed and the exit code is 2. -/
theorem runCommandLine_agrees {s : Surroundings} {words : List String} {i : Invocation} {text : String}
    (hwords : readCommandLine words = .run i)
    (hinput : ∀ choice, i.command.input? = some choice → Given s choice text) :
    (∀ v, i.command.call s text = .ok v →
      (runCommandLine s words).exit = (if v.positive then 0 else 1) ∧
        (runCommandLine s words).printed = .text v.printed ∧
        (text.utf8ByteSize < offsetBound → v.IsReadFrom v.printed.toList)) ∧
      ∀ e, i.command.call s text = .error e →
        (runCommandLine s words).exit = 2 ∧ (runCommandLine s words).printed = .text "" := by
  have htells := tells_call fun choice hchoice => read_eq_ok_iff.2 (hinput choice hchoice)
  have hrun : runCommandLine s words = i.run s := by
    rw [runCommandLine, hwords]
  rw [hrun, Invocation.run]
  constructor
  · intro v hv
    rw [hv] at htells
    have hend : (i.command.run s).value = ⟨v.printed, .ok v.positive⟩ := htells
    simp only [hend]
    exact ⟨trivial, trivial, isReadFrom_printed hv⟩
  · intro e he
    rw [he] at htells
    obtain ⟨f, hend⟩ := htells
    simp only [hend]
    exact ⟨trivial, trivial⟩

/-- A line is piped in whose end is no part of the input. -/
def piped : Surroundings where
  files _ := none
  standardInput := "ab\r\n".toUTF8
  disclosure := none
  seed := 0

theorem runCommandLine_agrees_piped : ∃ found,
    (runCommandLine piped ["extract", "(b)|a"]).exit = 0 ∧
      (runCommandLine piped ["extract", "(b)|a"]).printed = .text (jsonLines found.toJson) ∧
      MatchSet.ofText? (jsonLines found.toJson).toList = some found := by
  have hwords : readCommandLine ["extract", "(b)|a"] = .run ⟨.extract "(b)|a" (-1) 0 .standard, false, false⟩ := by
    decide +kernel
  have hall : String.fromUTF8? piped.standardInput = some "ab\r\n" := by decide +kernel
  have hgiven : Given piped .standard "ab" := .standard rfl hall (.both ['a', 'b'])
  have hok : (extract "(b)|a" .none (-1) "ab").isOk = true := by decide +kernel
  cases hfound : extract "(b)|a" .none (-1) "ab" with
  | error e =>
    rw [hfound] at hok
    cases hok
  | ok found =>
    have hcall : (Command.extract "(b)|a" (-1) 0 .standard).call piped "ab" = .ok (.occurrences found) := by
      have hnone : Options.ofRaw 0 = .ok .none := rfl
      rw [Command.call, hnone, Syntax.ok_bind, hfound]
      rfl
    have hinput : ∀ choice, InputChoice.standard = choice → Given piped choice "ab" := fun _ h => h ▸ hgiven
    obtain ⟨hexit, hprinted, hread⟩ :=
      (runCommandLine_agrees hwords fun choice hchoice => hinput choice (Option.some.inj hchoice)).1 _ hcall
    exact ⟨found, hexit, hprinted, hread (by decide)⟩

end TextPattern
