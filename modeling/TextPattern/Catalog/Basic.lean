import TextPattern.Log
import TextPattern.NameMap

/-!
# Catalogs of patterns

* `Catalog` : pattern texts by the names of what they identify;
* `Catalog.active` : the entries that are looked for;
* `Catalog.merge` : a catalog with another over it.

An entry without text is inert: it stands for a name that is not looked for.
-/

namespace TextPattern

/-- Pattern texts by name. -/
structure Catalog where
  patterns : NameMap String
deriving DecidableEq

namespace Catalog

def empty : Catalog := ⟨.empty⟩

/-- The catalog of a list of names and texts; of two with one name the later counts. -/
def ofList (entries : List (String × String)) : Catalog := ⟨.ofList entries⟩

/-- The entries, in the order of their names. -/
def entries (c : Catalog) : List (String × String) := c.patterns.entries

def size (c : Catalog) : Nat := c.patterns.size

def isEmpty (c : Catalog) : Bool := c.patterns.isEmpty

def get? (c : Catalog) (name : String) : Option String := c.patterns.get? name

/-- The catalog with an entry added or replaced, and the text that the entry had. -/
def insert (c : Catalog) (name pattern : String) : Catalog × Option String :=
  (⟨c.patterns.insert name pattern⟩, c.get? name)

def active (c : Catalog) : List (String × String) := c.entries.filter fun e => !e.2.isEmpty

def report (level : LogLevel) (message : String) : Logged Unit := note level .catalog message

/-- Puts entries over a catalog, one after the other. An empty text over an entry is reported. -/
def override (c : Catalog) : List (String × String) → Logged Catalog
  | [] => return c
  | (name, pattern) :: entries => do
    if pattern.isEmpty && (c.get? name).isSome then
      report .warning ("Catalog entry '" ++ name ++ "' disabled by an empty override.")
    override ⟨c.patterns.insert name pattern⟩ entries

def merge (base : Catalog) (overrides : Option Catalog) : Logged Catalog := do
  report .detail ("merge_catalogs called. Base entries: " ++ toString base.size)
  let merged ← match overrides with
    | none => Pure.pure base
    | some user => do
      report .detail
        ("Override catalog provided. Merging " ++ toString user.size ++ " entries.")
      base.override user.entries
  report .detail ("Final catalog entries after merge: " ++ toString merged.size)
  return merged

end Catalog

end TextPattern
