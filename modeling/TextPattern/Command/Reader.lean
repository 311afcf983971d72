import TextPattern.Command.Arguments
import TextPattern.Command.Basic

/-!
# Reading commands

* `Reading` : what a command line asks for;
* `readCommandLine` : the command that words denote.
-/

namespace TextPattern

/-- What a command line asks for. -/
inductive Reading where
  | run (invocation : Invocation)
  | help
  | version
  /-- It is not understood. -/
  | wrong
deriving DecidableEq, Repr

/-! ## What commands take -/

def anyText : String → Bool := fun _ => true

def isPath (text : String) : Bool := !text.isEmpty

def choiceName (c : Comparison) : String :=
  String.ofList (c.name.toList.map fun d => if d = '_' then '-' else d)

def choice? (text : String) : Option Comparison := Comparison.all.find? fun c => choiceName c = text

def commonFlags : List Parameter := [
  ⟨"quiet", some 'q', none, false⟩,
  ⟨"debug", some 'd', none, false⟩]

def inputParameters : List Parameter := [
  ⟨"input", some 'i', some anyText, false⟩,
  ⟨"input-file", some 'f', some isPath, false⟩]

def optionsParameter : Parameter := ⟨"options", some 'o', some fun t => (readSigned t).isSome, true⟩

/-- What stands in front of a command. -/
def outerSignature : Signature where
  parameters := commonFlags
  commands := true

def signature? (name : String) : Option Signature :=
  match name with
  | "validate" => some { parameters := commonFlags, word := some anyText }
  | "extract" => some {
      parameters := commonFlags ++ inputParameters ++
        [optionsParameter, ⟨"limit", some 'l', some fun t => (readSigned t).isSome, true⟩]
      word := some anyText }
  | "matches" | "find" => some {
      parameters := commonFlags ++ inputParameters ++ [optionsParameter]
      word := some anyText }
  | "sweep" => some {
      parameters := commonFlags ++ inputParameters ++
        [⟨"catalog", some 'c', some isPath, false⟩, ⟨"no-defaults", none, none, false⟩] }
  | "generate" => some {
      parameters := commonFlags ++ [
        ⟨"length", some 'l', some fun t => (readSigned t).isSome, true⟩,
        ⟨"seed", some 's', some fun t => (readNatural t).isSome, false⟩,
        ⟨"count", some 'n', some fun t => (readNatural t).isSome, false⟩]
      word := some anyText }
  | "range" => some {
      parameters := commonFlags ++ [
        ⟨"comparison", some 'c', some fun t => (choice? t).isSome, false⟩,
        ⟨"sql", none, none, false⟩]
      word := some fun t => (readSigned t).isSome
      negativeWord := true }
  | _ => none

/-! ## Commands -/

namespace Arguments

/-- The value of a parameter by a reader, or what stands for it if it is not given. -/
def get {α : Type} (a : Arguments) (name : String) (read : String → Option α) (default : α) : α :=
  ((a.value? name).bind read).getD default

/-- The input that is chosen; two choices at once are wrong. -/
def input? (a : Arguments) : Option InputChoice :=
  match a.value? "input", a.value? "input-file" with
  | some _, some _ => none
  | some text, none => some (.inline text)
  | none, some path => some (.file path)
  | none, none => some .standard

def contradicts (a : Arguments) : Bool := a.has "quiet" && a.has "debug"

def command? (a : Arguments) (name : String) : Option Command := do
  let options := a.get "options" readSigned 0
  match name with
  | "validate" => return .validate (← a.word)
  | "extract" => return .extract (← a.word) (a.get "limit" readSigned (-1)) options (← a.input?)
  | "matches" => return .matchWhole (← a.word) options (← a.input?)
  | "find" => return .find (← a.word) options (← a.input?)
  | "sweep" =>
    if a.has "no-defaults" && !a.has "catalog" then none
    else return .sweep (a.value? "catalog") (!a.has "no-defaults") (← a.input?)
  | "generate" =>
    return .generate (← a.word) (a.get "length" readSigned 8)
      ((a.value? "seed").bind readNatural) (a.get "count" readNatural 1)
  | "range" =>
    return .range (← readSigned (← a.word)) (a.get "comparison" choice? .lesser) (a.has "sql")
  | _ => none

end Arguments

/-- What a request for help asks for, by the words behind it. -/
def readHelp (words : List String) : Reading :=
  match words with
  | [] => .help
  | [name] => if name = "help" || (signature? name).isSome then .help else .wrong
  | _ => .wrong

/-- What the arguments of a command ask for, `outer` being those in front of its name. -/
def readInner (outer : Arguments) (name : String) (scan : Scan) : Reading :=
  match scan with
  | .done inner =>
    if outer.contradicts || inner.contradicts then .wrong
    else
      match inner.command? name with
      | some command =>
        .run ⟨command, outer.has "quiet" || inner.has "quiet", outer.has "debug" || inner.has "debug"⟩
      | none => .wrong
  | .help => .help
  | .version => .version
  | _ => .wrong

def readCommandLine (words : List String) : Reading :=
  match outerSignature.scan words with
  | .command outer name rest =>
    if name = "help" then readHelp rest
    else
      match signature? name with
      | some s => readInner outer name (s.scan rest)
      | none => .wrong
  | .help => .help
  | .version => .version
  | _ => .wrong

end TextPattern
