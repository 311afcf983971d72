import TextPattern.Comparison
import TextPattern.Log

/-!
# Commands

* `InputChoice` : where the input of a command comes from;
* `Command` : what is to be done;
* `Invocation` : a command with what it logs.
-/

namespace TextPattern

/-- Where the input of a command comes from. -/
inductive InputChoice where
  | inline (text : String)
  | file (path : String)
  | standard
deriving DecidableEq, Repr

/-- What is to be done. Options and limits are numbers that may still turn out to be out of range. -/
inductive Command where
  | validate (pattern : String)
  | extract (pattern : String) (limit options : Int) (input : InputChoice)
  | matchWhole (pattern : String) (options : Int) (input : InputChoice)
  | find (pattern : String) (options : Int) (input : InputChoice)
  | sweep (catalog : Option String) (builtin : Bool) (input : InputChoice)
  | generate (pattern : String) (length : Int) (seed : Option Nat) (count : Nat)
  | range (bound : Int) (comparison : Comparison) (sql : Bool)
deriving DecidableEq, Repr

namespace Command

def input? : Command → Option InputChoice
  | extract _ _ _ input | matchWhole _ _ input | find _ _ input | sweep _ _ input => some input
  | _ => none

/-- The paths of the files that a command may read. -/
def paths (c : Command) : List String :=
  let input := match c.input? with
    | some (.file path) => [path]
    | _ => []
  match c with
  | sweep (some path) _ _ => path :: input
  | _ => input

end Command

/-- A command, and whether it logs nothing or everything instead of warnings alone. -/
structure Invocation where
  command : Command
  quiet : Bool := false
  detailed : Bool := false
deriving DecidableEq, Repr

def Invocation.shows (i : Invocation) (level : LogLevel) : Bool :=
  !i.quiet && LogLevel.shows (if i.detailed then .detail else .warning) level

end TextPattern
