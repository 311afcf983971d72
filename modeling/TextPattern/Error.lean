import TextPattern.Comparison
import TextPattern.Syntax.Fault
import TextPattern.Yaml.FaultText

/-!
# Errors

* `CompileFault` : why a pattern text does not compile;
* `ArgumentFault`, `FileFault`, `CatalogFault` : the other causes;
* `Error` : an error of an operation, with its wording in `Error.message`.
-/

namespace TextPattern

/-- Why a pattern text does not compile. -/
inductive CompileFault where
  /-- The text has a fault. -/
  | faulty (text : List Char) (fault : Syntax.Fault)
  /-- The compiled pattern would be larger than the limit in bytes. -/
  | tooLarge (limit : Nat)
deriving DecidableEq, Repr

def CompileFault.message : CompileFault → String
  | faulty text fault => fault.render text
  | tooLarge limit => "Compiled regex exceeds size limit of " ++ toString limit ++ " bytes."

def maxRandomLength : Nat := 0x100000

inductive ArgumentFault where
  | optionsOutOfRange (raw : Int)
  | unknownOptions (bits : Nat)
  | limitTooSmall (limit : Int)
  | lengthTooLarge (length : Int)
  | lengthNegative (length : Int)
  | boundNegative (bound : Int)
  | comparisonUnsupported (comparison : Comparison)
  | comparisonUnknown (text : String)
deriving DecidableEq, Repr

def ArgumentFault.message : ArgumentFault → String
  | optionsOutOfRange raw => "pattern options must be non-negative, got " ++ toString raw
  | unknownOptions bits =>
    "unknown pattern option bits: 0x" ++ String.ofList (Nat.toDigits 16 bits)
  | limitTooSmall limit => "match limit must be -1 or greater, got " ++ toString limit
  | lengthTooLarge length =>
    "random value length must be at most " ++ toString maxRandomLength ++ ", got " ++
      toString length
  | lengthNegative length => "random value length must be non-negative, got " ++ toString length
  | boundNegative bound => "bound must be non-negative, got " ++ toString bound
  | comparisonUnsupported c =>
    "comparison '" ++ c.name ++ "' is not supported for range synthesis"
  | comparisonUnknown text => "unknown comparison '" ++ text ++ "'"

/-- Why a file gives no text. -/
inductive FileFault where
  | notFound | isDirectory | invalidUtf8
deriving DecidableEq, Repr

def FileFault.message : FileFault → String
  | notFound => "No such file or directory (os error 2)"
  | isDirectory => "Is a directory (os error 21)"
  | invalidUtf8 => "stream did not contain valid UTF-8"

inductive CatalogFault where
  | unreadable (path : String) (fault : FileFault)
  | malformed (fault : Yaml.Fault)
deriving DecidableEq, Repr

def CatalogFault.message : CatalogFault → String
  | unreadable path fault => "Failed to read catalog file " ++ path ++ ": " ++ fault.message
  | malformed fault => fault.message

/-- An error of an operation. -/
inductive Error where
  | invalidPattern (pattern : String) (cause : CompileFault)
  | invalidArgument (cause : ArgumentFault)
  | missingInput (what : String)
  | catalog (cause : CatalogFault)
deriving DecidableEq, Repr

def Error.message : Error → String
  | invalidPattern pattern cause => "Invalid regex pattern '" ++ pattern ++ "': " ++ cause.message
  | invalidArgument cause => "Invalid argument: " ++ cause.message
  | missingInput what => "Missing required input: " ++ what
  | catalog cause => "Failed to load pattern catalog: " ++ cause.message

end TextPattern
