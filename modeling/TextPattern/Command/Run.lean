import TextPattern.Catalog.Builtin
import TextPattern.Command.Reader
import TextPattern.Extract
import TextPattern.Json.Printer
import TextPattern.MatchSet.Json
import TextPattern.Random.KeyStream
import TextPattern.Range.Basic
import TextPattern.Sample.Generate
import TextPattern.Text.Quoted

/-!
# Running commands

* `Surroundings` : what a command can read besides its arguments;
* `Failure` : why a command fails, with its wording in `Failure.message`;
* `Command.run` : the text that a command prints, and whether its answer is positive or why it failed;
* `runCommandLine` : what a command line leads to.

What is printed before a command fails stays printed.
-/

namespace TextPattern

/-- What a command can read besides its arguments. -/
structure Surroundings where
  files : String → Option FileNode
  standardInput : ByteArray
  /-- Standard input is a terminal, from which no input is read. -/
  terminal : Bool := false
  /-- The setting that allows matched texts in the log. -/
  disclosure : Option String
  /-- The seed of a generator that is given none. -/
  seed : UInt64

inductive Failure where
  | plain (cause : Error)
  | extraction (pattern : String) (cause : Error)
  | generation (pattern : String) (cause : Error)
  | sweep (cause : Error)
  | catalog (path : String) (cause : Error)
  | inputFile (path : String) (cause : FileFault)
  | standardInput (cause : FileFault)
deriving DecidableEq, Repr

/-- The report of an error with its causes. The cause of an invalid pattern is told once more. -/
def Error.chain (e : Error) : String :=
  match e with
  | invalidPattern _ cause => e.message ++ ": " ++ cause.message
  | _ => e.message

def Failure.message : Failure → String
  | plain cause => cause.chain
  | extraction pattern cause =>
    "Extraction with pattern " ++ quoted pattern ++ " failed: " ++ cause.chain
  | generation pattern cause =>
    "Could not generate a string for " ++ quoted pattern ++ ": " ++ cause.chain
  | sweep cause => "Catalog sweep failed: " ++ cause.chain
  | catalog path cause => "Failed to load catalog " ++ path ++ ": " ++ cause.chain
  | inputFile path cause => "Failed to read input file " ++ path ++ ": " ++ cause.message
  | standardInput cause => "Failed to read input from stdin: " ++ cause.message

/-! ## Input -/

/-- The text without the end of its last line. -/
def dropLineEnd (text : List Char) : List Char :=
  match text.reverse with
  | '\n' :: '\r' :: rest | '\n' :: rest => rest.reverse
  | _ => text

/-- The text of an input. -/
def Surroundings.read (s : Surroundings) : InputChoice → Except Failure String
  | .inline text => .ok text
  | .file path => (readFile (s.files path)).mapError (.inputFile path)
  | .standard =>
    if s.terminal then
      .error (.plain (.missingInput "no --input, --input-file or piped stdin"))
    else
      match readFile (some (.file s.standardInput)) with
      | .ok text => .ok (String.ofList (dropLineEnd text.toList))
      | .error fault => .error (.standardInput fault)

/-! ## Output -/

/-- What a command prints, and whether its answer is positive. -/
structure Answer where
  printed : String
  positive : Bool := true
deriving DecidableEq, Repr

/-- How a command ends: what it printed before, and whether its answer is positive or why it failed. -/
structure Ending where
  printed : String
  verdict : Except Failure Bool
deriving Repr

/-- The ending of a command that prints its whole answer once it is known. -/
def Answer.ending : Except Failure Answer → Ending
  | .ok a => ⟨a.printed, .ok a.positive⟩
  | .error f => ⟨"", .error f⟩

def line (text : String) : String := text ++ "\n"

def jsonLines (v : Json) : String := line (String.ofList (v.write .indented))

def Findings.toJson (f : Findings) : Json :=
  .object (f.entries.map fun e => (e.1.toList, .list (e.2.map fun t => .text t.toList)))

def truth (b : Bool) : Answer := ⟨line (if b then "true" else "false"), b⟩

/-! ## Commands -/

/-- Prints texts for a pattern as they are generated, one after the other, until one fails. The lines so far
are in `printed`, last first. -/
def generateMany {σ : Type} [Random.Source σ] (pattern : String) (length : Int) :
    (count : Nat) → σ → (printed : List String) → Ending
  | 0, _, printed => ⟨String.join printed.reverse, .ok true⟩
  | count + 1, source, printed =>
    match generate pattern length source with
    | (.error e, _) => ⟨String.join printed.reverse, .error (.generation pattern e)⟩
    | (.ok text, source) => generateMany pattern length count source (line text :: printed)

/-- The catalog of the file that a path leads to, if there is a path. -/
def namedCatalog (s : Surroundings) : Option String → Logged (Except Failure (Option Catalog))
  | none => return .ok none
  | some path => do
    match ← Catalog.ofFile path (s.files path) with
    | .ok c => return .ok (some c)
    | .error e => return .error (.catalog path e)

/-- The catalog of a sweep: a named one, over the built-in one unless that is left out. -/
def sweepCatalog (s : Surroundings) (path : Option String) (builtin : Bool) :
    Logged (Except Failure Catalog) := do
  match ← namedCatalog s path with
  | .error f => return .error f
  | .ok user =>
    if builtin then
      let base ← Catalog.loadBuiltin
      return .ok (← base.merge user)
    else return .ok (user.getD .empty)

def runSweep (s : Surroundings) (path : Option String) (builtin : Bool) (input : InputChoice) :
    Logged (Except Failure Answer) := do
  match ← sweepCatalog s path builtin with
  | .error f => return .error f
  | .ok catalog =>
    match s.read input with
    | .error f => return .error f
    | .ok text =>
      match ← catalog.sweep (.ofSetting s.disclosure) text with
      | .error e => return .error (.sweep e)
      | .ok found => return .ok ⟨jsonLines found.toJson, true⟩

def ask (s : Surroundings) (options : Int) (input : InputChoice)
    (question : Options → String → Except Failure Answer) : Except Failure Answer := do
  let o ← (Options.ofRaw options).mapError .plain
  question o (← s.read input)

/-- What a command prints and logs, and how it ends. -/
def Command.run (s : Surroundings) : Command → Logged Ending
  | validate pattern =>
    let valid := isValid pattern
    return ⟨line (if valid then "valid" else "invalid"), .ok valid⟩
  | extract pattern limit options input =>
    return Answer.ending <| ask s options input fun o text => do
      let found ← (TextPattern.extract pattern o limit text).mapError (.extraction pattern)
      return ⟨jsonLines found.toJson, true⟩
  | matchWhole pattern options input =>
    return Answer.ending <| ask s options input fun o text =>
      ((TextPattern.matchesWhole pattern o text).map truth).mapError .plain
  | find pattern options input =>
    return Answer.ending <| ask s options input fun o text =>
      ((TextPattern.occursIn pattern o text).map truth).mapError .plain
  | sweep path builtin input => do
    return Answer.ending (← runSweep s path builtin input)
  | generate pattern length seed count =>
    let source := Random.KeyStream.ofSeed ((seed.map Nat.toUInt64).getD s.seed)
    return generateMany pattern length count source []
  | range bound comparison sql =>
    return Answer.ending <|
      ((TextPattern.range bound comparison (if sql then .sql else .general)).map fun a =>
        ⟨String.join (a.texts.map line), true⟩).mapError .plain

/-! ## Command lines -/

/-- What a program reports when it ends. -/
inductive Report where
  | nothing
  /-- That the command line is not understood. -/
  | usage
  | failure (cause : Failure)
deriving DecidableEq, Repr

inductive Printed where
  | text (value : String)
  | help
deriving DecidableEq, Repr

/-- What a command line leads to: the exit code, what is printed and reported, and the log lines that are
shown. -/
structure Outcome where
  exit : Nat
  printed : Printed
  report : Report
  log : List LogEntry
deriving DecidableEq, Repr

def versionText : String := line "regexkit 0.1.0"

/-- The outcome of a command. -/
def Invocation.run (s : Surroundings) (i : Invocation) : Outcome :=
  let result := i.command.run s
  let log := result.log.filter fun e => i.shows e.level
  let printed := .text result.value.printed
  match result.value.verdict with
  | .ok positive => ⟨if positive then 0 else 1, printed, .nothing, log⟩
  | .error f => ⟨2, printed, .failure f, log⟩

def runCommandLine (s : Surroundings) (words : List String) : Outcome :=
  match readCommandLine words with
  | .run i => i.run s
  | .help => ⟨0, .help, .nothing, []⟩
  | .version => ⟨0, .text versionText, .nothing, []⟩
  | .wrong => ⟨2, .text "", .usage, []⟩

end TextPattern
