import TextPattern.MatchSet
import TextPattern.Pattern

/-!
# Extraction

* `MatchLimit` : how many occurrences are wanted;
* `extract`, `extractAll` : the occurrences of a pattern in an input;
* `matchesWhole`, `occursIn` : whether a pattern matches the whole of an input, or somewhere in it.

Every operation first compiles the pattern without options, then with them.
-/

namespace TextPattern

inductive MatchLimit where
  | unbounded
  | atMost (count : Nat)
deriving DecidableEq, Repr

/-- The limit that a number denotes; -1 is no limit. -/
def MatchLimit.ofRaw (n : Int) : Except Error MatchLimit :=
  if n = -1 then .ok .unbounded
  else if n < -1 then .error (.invalidArgument (.limitTooSmall n))
  else .ok (.atMost n.toNat)

def MatchLimit.apply (l : MatchLimit) (s : MatchSet) : MatchSet :=
  match l with
  | .unbounded => s
  | .atMost n => s.take n

def Pattern.matchSet (p : Pattern) (input : String) : MatchSet :=
  ⟨(p.occurrences input).map MatchResult.ofOccurrence⟩

/-- The first occurrences of a pattern in an input, as many as the limit allows. -/
def extract (pattern : String) (options : Options) (limit : Int) (input : String) :
    Except Error MatchSet := do
  let p ← validateAndCompile pattern options
  let limit ← MatchLimit.ofRaw limit
  if limit = .atMost 0 then .ok .empty else .ok (limit.apply (p.matchSet input))

def extractAll (pattern : String) (options : Options) (input : String) : Except Error MatchSet :=
  extract pattern options (-1) input

def matchesWhole (pattern : String) (options : Options) (input : String) : Except Error Bool := do
  (← validateAndCompile pattern options).matchesWhole input

def occursIn (pattern : String) (options : Options) (input : String) : Except Error Bool := do
  .ok ((← validateAndCompile pattern options).occursIn input)

end TextPattern
