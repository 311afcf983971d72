import TextPattern.Error
import TextPattern.Expr.Cost
import TextPattern.Match.Search
import TextPattern.Options
import TextPattern.Syntax.Parser

/-!
# Compiled patterns

* `compileText` : the expression of a text under given flags;
* `Pattern` : a pattern that compiles, with its text and options;
* `Pattern.compile`, `isValid` : compiling and validating;
* `Pattern.occursIn`, `Pattern.matchesWhole`, `Pattern.occurrences`, `Pattern.fullMatches` : the questions
  to a pattern.
-/

namespace TextPattern

/-- The expression of a pattern text, read in extended mode if `extended`. -/
def compileText (modes : Modes) (extended : Bool) (text : List Char) : Except CompileFault Expr :=
  match Syntax.parse text extended with
  | .error fault => .error (.faulty text fault)
  | .ok tree =>
    match tree.toExpr modes with
    | .error fault => .error (.faulty text fault)
    | .ok (e, _) => if e.cost ≤ costLimit then .ok e else .error (.tooLarge costLimit)

def Options.compile (o : Options) (text : List Char) : Except CompileFault Expr :=
  compileText o.modes o.active.comments text

structure Pattern where
  source : String
  options : Options
  expr : Expr
  program : Program

namespace Pattern

/-- Compiles a pattern. A fault is reported with the pattern as it was given. -/
def compile (source : String) (options : Options) : Except Error Pattern :=
  match options.compile (options.effectiveSource source.toList) with
  | .ok expr => .ok ⟨source, options, expr, expr.program⟩
  | .error cause => .error (.invalidPattern source cause)

def slotCount (p : Pattern) : Nat := p.program.slots

def occursIn (p : Pattern) (input : String) : Bool := p.program.occursIn input.toList

def matchesWhole (p : Pattern) (input : String) : Except Error Bool :=
  match p.options.compile (p.options.wholeSource p.source.toList) with
  | .ok expr => .ok (expr.program.occursIn input.toList)
  | .error cause => .error (.invalidPattern p.source cause)

def occurrences (p : Pattern) (input : String) : List Occurrence :=
  p.program.occurrences input.toList

/-- The texts of the occurrences in the input, which are searched without slots. -/
def fullMatches (p : Pattern) (input : String) : List String :=
  (p.program.spans input.toList).map fun o => String.ofList ((o.slots.head?.join.map (·.text)).getD [])

end Pattern

/-- The pattern compiles without options. -/
def isValid (pattern : String) : Bool := (Pattern.compile pattern .none).isOk

/-- Compiles a pattern that also has to be valid without options. -/
def validateAndCompile (pattern : String) (options : Options) : Except Error Pattern := do
  let _ ← Pattern.compile pattern .none
  Pattern.compile pattern options

def Options.ofRaw (raw : Int) : Except Error Options :=
  if raw < 0 ∨ 0x100000000 ≤ raw then .error (.invalidArgument (.optionsOutOfRange raw))
  else match Options.ofBits? raw.toNat with
    | some o => .ok o
    | Option.none => .error (.invalidArgument (.unknownOptions raw.toNat))

end TextPattern
