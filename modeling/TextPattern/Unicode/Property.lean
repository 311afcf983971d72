import TextPattern.Unicode.Category
import TextPattern.Unicode.Script
import TextPattern.Unicode.ScriptExtension
import TextPattern.Unicode.Binary
import TextPattern.Unicode.Age
import TextPattern.Unicode.Segmentation
import TextPattern.Unicode.Unsupported
import TextPattern.Unicode.Digit
import TextPattern.Unicode.Blank

/-!
# Classes named by a property

* `looseName` : a name as it is compared, without case, blanks, `_`, `-` and a leading `is`;
* `PropertyQuery` : a property by name alone, or a property with a value;
* `PropertyQuery.resolve` : the characters that a query denotes.

A name alone is tried as a binary property, then as a general category, then as a script.
-/

namespace TextPattern.Unicode

/-- The form in which names are compared: lower case ASCII, without blanks, `_` and `-`, without a
leading `is`. A name that is only `isc` keeps its first letters, since `c` alone is a category. -/
def looseName (name : List Char) : String :=
  let isMark := fun c : Char => c = ' ' || c = '_' || c = '-'
  let fold := fun cs : List Char =>
    (cs.filter fun c => !isMark c && c.toNat < 128).map Char.toLower
  match name with
  | i :: s :: rest =>
    if (i = 'i' || i = 'I') && (s = 's' || s = 'S') then
      if fold rest = ['c'] then "isc" else String.ofList (fold rest)
    else String.ofList (fold name)
  | _ => String.ofList (fold name)

/-- What stands between the braces of a property class. -/
inductive PropertyQuery where
  | named (name : List Char)
  | valued (property value : List Char)
deriving DecidableEq, Repr

inductive PropertyFault where
  | unknownProperty
  | unknownValue
deriving DecidableEq, Repr

def category? (name : String) : Option CharSet :=
  if name = "any" then some .full
  else if name = "ascii" then some (.range 0 0x7F)
  else if name = "assigned" then
    (findTable? categoryTables "cn").map fun t => t.set.compl
  else match findTable? categoryTables name with
    | some t => some t.set
    | none =>
      (categoryUnions.find? fun u => u.1.contains name).map fun u =>
        .unions (u.2.filterMap fun part => (findTable? categoryTables part).map Table.set)

/-- The characters of a script; a script value without a table is an unknown value. -/
def script? (name : String) : Option (Except PropertyFault CharSet) :=
  match findTable? scriptTables name with
  | some t => some (.ok t.set)
  | none => if emptyScripts.contains name then some (.error .unknownValue) else none

def scriptExtension? (name : String) : Option (Except PropertyFault CharSet) :=
  match findTable? scriptTables name with
  | some t =>
    match scriptExtensionTables.find? fun x => x.names.any t.names.contains with
    | some x => some (.ok x.set)
    | none => some (.ok t.set)
  | none => if emptyScripts.contains name then some (.error .unknownValue) else none

inductive ValuedProperty where
  | generalCategory | script | scriptExtensions | age | clusterBreak | wordBreak | sentenceBreak
deriving DecidableEq, Repr

def valuedProperty? (name : String) : Option ValuedProperty :=
  if name = "gc" ∨ name = "generalcategory" then some .generalCategory
  else if name = "sc" ∨ name = "script" then some .script
  else if name = "scx" ∨ name = "scriptextensions" then some .scriptExtensions
  else if name = "age" then some .age
  else if name = "gcb" ∨ name = "graphemeclusterbreak" then some .clusterBreak
  else if name = "wb" ∨ name = "wordbreak" then some .wordBreak
  else if name = "sb" ∨ name = "sentencebreak" then some .sentenceBreak
  else none

def ValuedProperty.resolve (property : ValuedProperty) (value : String) :
    Except PropertyFault CharSet :=
  let known := fun s : Option CharSet => s.elim (.error .unknownValue) Except.ok
  let tabled := fun tables => known ((findTable? tables value).map Table.set)
  match property with
  | .generalCategory => known (category? value)
  | .script => (script? value).getD (.error .unknownValue)
  | .scriptExtensions => (scriptExtension? value).getD (.error .unknownValue)
  | .age => known (age? value)
  | .clusterBreak => tabled clusterBreakTables
  | .wordBreak => tabled wordBreakTables
  | .sentenceBreak => tabled sentenceBreakTables

/-- The name denotes some property. The short names of three properties are left out where they are
also short names of a general category. -/
def isPropertyName (name : String) : Bool :=
  unsupportedProperties.contains name || (valuedProperty? name).isSome ||
    (findTable? binaryTables name).isSome

def PropertyQuery.resolve : PropertyQuery → Except PropertyFault CharSet
  | .named name =>
    let name := looseName name
    let isCategory := name = "cf" ∨ name = "sc" ∨ name = "lc"
    if ¬ isCategory ∧ isPropertyName name then
      match findTable? binaryTables name with
      | some t => .ok t.set
      | none => .error .unknownProperty
    else match category? name with
      | some s => .ok s
      | none => (script? name).getD (.error .unknownProperty)
  | .valued property value =>
    let property := looseName property
    let value := looseName value
    match valuedProperty? property with
    | some p => p.resolve value
    | none => if isPropertyName property then .error .unknownValue else .error .unknownProperty

end TextPattern.Unicode
