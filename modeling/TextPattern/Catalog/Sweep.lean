import TextPattern.Catalog.Basic
import TextPattern.Pattern
import TextPattern.Text.Redaction

/-!
# Sweeping a text with a catalog

* `Disclosure` : how matched texts are shown in the log;
* `Findings` : the texts that were found, by the names of the entries;
* `Catalog.sweep` : the findings of a catalog in a text.

The entries are searched in the order of their names, and the first that does not compile is reported.
-/

namespace TextPattern

/-- How matched texts are shown in a log. -/
inductive Disclosure where
  /-- By at most their length. -/
  | redacted
  /-- As they are. -/
  | full
deriving DecidableEq, Repr

namespace Disclosure

/-- The disclosure that a setting asks for: everything is shown if it is `true`, in any case. -/
def ofSetting (setting : Option String) : Disclosure :=
  if setting.any fun s => s.toList.map Char.toLower = "true".toList then full else redacted

def shown (d : Disclosure) (text : String) : String :=
  match d with
  | redacted => TextPattern.redacted text
  | full => text

end Disclosure

/-- Texts that were found, by name. -/
abbrev Findings := NameMap (List String)

namespace Catalog

def reportFound (d : Disclosure) (name text : String) : Logged Unit :=
  note .detail .matchSet
    ("[regexkit_core::catalog] Category '" ++ name ++ "' matched: '" ++ d.shown text ++ "'")

def reportAll (d : Disclosure) (name : String) : List String → Logged Unit
  | [] => return
  | text :: texts => do
    reportFound d name text
    reportAll d name texts

/-- The texts that an entry's pattern finds; none if it does not occur at all. -/
def search (pattern input : String) : Except Error (Option (List String)) := do
  let p ← Pattern.compile pattern .none
  return if p.occursIn input then some (p.fullMatches input) else none

/-- The findings of entries behind those in `found`. -/
def sweepEntries (d : Disclosure) (input : String) :
    List (String × String) → (found : Findings) → Logged (Except Error Findings)
  | [], found => return .ok found
  | (name, pattern) :: entries, found =>
    match search pattern input with
    | .error e => return .error e
    | .ok none => sweepEntries d input entries found
    | .ok (some texts) => do
      reportAll d name texts
      sweepEntries d input entries (found.insert name texts)

def sweep (c : Catalog) (d : Disclosure) (input : String) : Logged (Except Error Findings) := do
  let active := c.active
  report .detail
    ("Sweeping input of " ++ toString input.utf8ByteSize ++ " bytes with " ++
      toString active.length ++ " active catalog entries (" ++
      toString (c.size - active.length) ++ " inert).")
  let result ← sweepEntries d input active .empty
  match result with
  | .error e => return .error e
  | .ok found =>
    report .detail ("Sweep flagged " ++ toString found.size ++ " categories.")
    return .ok found

end Catalog

end TextPattern
