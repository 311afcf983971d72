import TextPattern.Double.Reader

/-!
# Arguments of a command line

* `Parameter`, `Signature` : what a command takes;
* `Arguments` : what it is given;
* `Signature.scan` : the arguments that words give, or what else they ask for.

A long name follows two dashes, and its value an equals sign or in the next word. Short names share a
dash, and the value of the last follows directly, behind an equals sign or in the next word. Behind two
dashes alone every word is taken as it is. Words are read in order, and help is given as soon as it is
asked for.
-/

namespace TextPattern

/-! ## Values -/

/-- The number that digits with an optional sign denote. -/
def readInteger (text : String) : Option Int :=
  let (negative, digits) := match text.toList with
    | '-' :: rest => (true, rest)
    | '+' :: rest => (false, rest)
    | rest => (false, rest)
  if digits.isEmpty || !digits.all Char.isDigit then none
  else some (if negative then -digitsValue digits else digitsValue digits)

/-- The signed integer of 64 bits that a text denotes. -/
def readSigned (text : String) : Option Int := do
  let n ← readInteger text
  if -0x8000000000000000 ≤ n ∧ n < 0x8000000000000000 then some n else none

/-- The natural number of 64 bits that a text denotes; it has no minus sign. -/
def readNatural (text : String) : Option Nat := do
  if text.startsWith "-" then none
  let n ← readInteger text
  if n < 0x10000000000000000 then some n.toNat else none

/-- The word is a minus sign and a number, with a point or an exponent or not. -/
def isNegativeNumber (word : List Char) : Bool :=
  match word with
  | '-' :: c :: rest => (c :: rest).all fun d => d.isDigit || d = '.' || d = 'e'
  | _ => false

/-! ## Parameters -/

/-- A parameter with names. A flag has no test of values. -/
structure Parameter where
  long : String
  short : Option Char
  /-- The texts that are a value. -/
  accepts : Option (String → Bool)
  /-- A negative number is a value. -/
  negative : Bool := false

/-- What a command takes: named parameters and at most one word without a name. -/
structure Signature where
  parameters : List Parameter
  /-- The words that are accepted without a name; none is if this is missing. -/
  word : Option (String → Bool) := none
  /-- A negative number is such a word. -/
  negativeWord : Bool := false
  /-- The first word without a name is the name of a command that takes the rest. -/
  commands : Bool := false

/-- What a command is given: the parameters with their values, and the word without a name. -/
structure Arguments where
  values : List (String × String) := []
  word : Option String := none
deriving Repr

namespace Arguments

def value? (a : Arguments) (name : String) : Option String := a.values.lookup name

def has (a : Arguments) (name : String) : Bool := (a.value? name).isSome

end Arguments

inductive Scan where
  | done (given : Arguments)
  /-- A command by its name, with the words behind it. -/
  | command (given : Arguments) (name : String) (rest : List String)
  | help
  | version
  | wrong
deriving Repr

namespace Signature

def long? (s : Signature) (name : String) : Option Parameter :=
  s.parameters.find? fun p => p.long = name

def short? (s : Signature) (name : Char) : Option Parameter :=
  s.parameters.find? fun p => p.short = some name

/-- The arguments with a parameter added, which may be given once and with a fitting value. -/
def give (p : Parameter) (value : String) (a : Arguments) : Option Arguments :=
  if a.has p.long || !p.accepts.all (fun accepts => accepts value) then none
  else some { a with values := (p.long, value) :: a.values }

def giveWord (s : Signature) (word : String) (a : Arguments) : Option Arguments :=
  match s.word with
  | some accepts =>
    if a.word.isSome || !accepts word then none else some { a with word := some word }
  | none => none

/-- What a word of names leads to. -/
inductive Step where
  | given (given : Arguments)
  /-- The value of a parameter is in the next word. -/
  | valueOf (p : Parameter) (given : Arguments)
  | help | version | wrong

def parameterStep (p : Parameter) (value : Option String) (a : Arguments) : Step :=
  match p.accepts, value with
  | none, none => (give p "" a).elim .wrong .given
  | none, some _ => .wrong
  | some _, some value => (give p value a).elim .wrong .given
  | some _, none => .valueOf p a

/-- The short names of a word, behind its dash. -/
def shortStep (s : Signature) : List Char → Arguments → Step
  | [], a => .given a
  | c :: rest, a =>
    match s.short? c with
    | none =>
      if c = 'h' then .help else if c = 'V' && s.commands then .version else .wrong
    | some p =>
      if p.accepts.isNone then
        match give p "" a with
        | some a => shortStep s rest a
        | none => .wrong
      else
        match rest with
        | [] => .valueOf p a
        | '=' :: value => parameterStep p (some (String.ofList value)) a
        | value => parameterStep p (some (String.ofList value)) a

def longStep (s : Signature) (name : List Char) (a : Arguments) : Step :=
  let long := String.ofList (name.takeWhile (· ≠ '='))
  let value := match name.dropWhile (· ≠ '=') with
    | '=' :: value => some (String.ofList value)
    | _ => none
  match s.long? long with
  | some p => parameterStep p value a
  | none =>
    if value.isSome then .wrong
    else if long = "help" then .help
    else if long = "version" && s.commands then .version
    else .wrong

/-- What words ask for, given the arguments before them. A parameter may still lack its value; once
`plain`, names are not recognised any more. -/
def scanFrom (s : Signature) :
    List String → (lacking : Option Parameter) → (plain : Bool) → Arguments → Scan
  | [], none, _, a => .done a
  | [], some _, _, _ => .wrong
  | word :: words, some p, _, a =>
    let cs := word.toList
    if cs.head? = some '-' && cs ≠ ['-'] && !(p.negative && isNegativeNumber cs) then .wrong
    else
      match give p word a with
      | some a => scanFrom s words none false a
      | none => .wrong
  | word :: words, none, plain, a =>
    let take (_ : Unit) : Scan :=
      if s.commands && !plain then .command a word words
      else
        match s.giveWord word a with
        | some a => scanFrom s words none plain a
        | none => .wrong
    let go (step : Step) : Scan :=
      match step with
      | .given a => scanFrom s words none false a
      | .valueOf p a => scanFrom s words (some p) false a
      | .help => .help
      | .version => .version
      | .wrong => .wrong
    if plain then take ()
    else
      match word.toList with
      | ['-', '-'] => scanFrom s words none true a
      | '-' :: '-' :: name => go (s.longStep name a)
      | ['-'] => take ()
      | '-' :: names =>
        if s.negativeWord && a.word.isNone && isNegativeNumber ('-' :: names) then take ()
        else go (s.shortStep names a)
      | _ => take ()

def scan (s : Signature) (words : List String) : Scan := s.scanFrom words none false {}

end Signature

end TextPattern
