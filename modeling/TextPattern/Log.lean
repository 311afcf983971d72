/-!
# Log lines

* `LogEntry` : a message with its level and its source;
* `LogEntry.line` : the first line that it is shown as, `LogLevel.shows` : whether it is shown at all;
* `Logged` : a value with the log lines of its computation.
-/

namespace TextPattern

inductive LogLevel where
  | warning | notice | detail
deriving DecidableEq, Repr

namespace LogLevel

def name : LogLevel → String
  | warning => "WARN "
  | notice => "INFO "
  | detail => "DEBUG"

/-- The rank of a level, the most important first. -/
def rank : LogLevel → Nat
  | warning => 0
  | notice => 1
  | detail => 2

/-- Messages of a level are shown where those up to `least` are. -/
def shows (least level : LogLevel) : Bool := level.rank ≤ least.rank

end LogLevel

inductive LogSource where
  | catalog | matchSet
deriving DecidableEq, Repr

def LogSource.name : LogSource → String
  | catalog => "regexkit_core::catalog"
  | matchSet => "regexkit_core::match_set"

structure LogEntry where
  level : LogLevel
  source : LogSource
  message : String
deriving DecidableEq, Repr

/-- The first line that a message is shown as. -/
def LogEntry.line (e : LogEntry) : String :=
  "[" ++ e.level.name ++ " " ++ e.source.name ++ "] " ++
    String.ofList (e.message.toList.takeWhile (· ≠ '\n'))

/-- A value with the log lines of its computation. -/
structure Logged (α : Type) where
  value : α
  log : List LogEntry := []
deriving DecidableEq, Repr

namespace Logged

def pure {α : Type} (a : α) : Logged α := ⟨a, []⟩

def bind {α β : Type} (x : Logged α) (f : α → Logged β) : Logged β :=
  let y := f x.value
  ⟨y.value, x.log ++ y.log⟩

instance : Monad Logged where
  pure := Logged.pure
  bind := Logged.bind

end Logged

def note (level : LogLevel) (source : LogSource) (message : String) : Logged Unit :=
  ⟨(), [⟨level, source, message⟩]⟩

end TextPattern
