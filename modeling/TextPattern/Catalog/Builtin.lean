import TextPattern.Catalog.Reader
import TextPattern.Catalog.Sweep

/-!
# The built-in catalog

* `builtinText` : the text of a catalog of patterns that may identify a person;
* `Catalog.builtin` : the catalog that is read from it;
* `identifying` : the findings of the built-in catalog, with another over it, in a text.

Addresses of electronic mail and zip codes are whole lines.
-/

namespace TextPattern

/-- The lines of the text that comes with the program, comments included. -/
def builtinLines : List String := [
  "# regexkit-core/config/default_catalog.yaml",
  "# Built-in identifiable-information catalog.",
  "# Patterns use the `regex` crate syntax (no look-around, no back-references).",
  "# An entry with an empty or null pattern is kept but never evaluated.",
  "# Email addresses and zip codes match only a whole line.",
  "patterns:",
  "  email_address: '(?m)^[A-Za-z0-9._-]+@[A-Za-z0-9-]+(?:\\.[A-Za-z0-9-]+)*\\.[A-Za-z]{2,}$'",
  "  domain_name: '\\b(?:[A-Za-z0-9](?:[A-Za-z0-9-]{0,61}[A-Za-z0-9])?\\.)+[A-Za-z]{2,}\\b'",
  "  domain_url: '\\b(?:https?://)?(?:www\\.)?[A-Za-z0-9-]+(?:\\.[A-Za-z0-9-]+)+(?:/[^\\s]*)?'",
  "  ip_v4_address: '\\b(?:(?:25[0-5]|2[0-4][0-9]|[01]?[0-9][0-9]?)\\.){3}(?:25[0-5]|2[0-4][0-9]|[01]?[0-9][0-9]?)\\b'",
  "  ip_v6_address: '\\b(?:[0-9A-Fa-f]{1,4}:){7}[0-9A-Fa-f]{1,4}\\b'",
  "  us_phone: '(?:\\+?1[ .-]?)?\\(?\\b[2-9][0-9]{2}\\)?[ .-]?[0-9]{3}[ .-][0-9]{4}\\b'",
  "  can_phone: '(?:\\+?1[ .-]?)?\\(?\\b[2-9][0-9]{2}\\)?[ .-]?[0-9]{3}[ .-][0-9]{4}\\b'",
  "  can_postcode: '\\b[ABCEGHJ-NPRSTVXY][0-9][ABCEGHJ-NPRSTV-Z] ?[0-9][ABCEGHJ-NPRSTV-Z][0-9]\\b'",
  "  us_zipcode: '(?m)^[0-9]{5}(?:-[0-9]{4})?$'",
  "  us_ssn: '\\b[0-9]{3}-[0-9]{2}-[0-9]{4}\\b'",
  "  can_sin: '\\b[0-9]{3}[- ]?[0-9]{3}[- ]?[0-9]{3}\\b'",
  "  us_passport: '\\b[0-9]{9}\\b'",
  "  can_passport: '\\b[A-Z]{2}[0-9]{6}\\b'",
  "  in_passport: '\\b[A-Z][0-9]{7}\\b'",
  "  in_pan: '\\b[A-Z]{5}[0-9]{4}[A-Z]\\b'",
  "  in_aadhar: '\\b[2-9][0-9]{3} ?[0-9]{4} ?[0-9]{4}\\b'",
  "  in_auto_license: '\\b[A-Z]{2}[0-9]{2}[ -]?[0-9]{11}\\b'",
  "  can_on_auto_license: '\\b[A-Z][0-9]{4}-[0-9]{5}-[0-9]{5}\\b'",
  "  can_qc_auto_license: '\\b[A-Z][0-9]{4}-[0-9]{6}-[0-9]{2}\\b'",
  "  can_ab_auto_license: '\\b[0-9]{6}-?[0-9]{3}\\b'",
  "  can_bc_auto_license: '\\b[0-9]{7}\\b'",
  "  us_tx_auto_license: '\\b[0-9]{7}\\b'",
  "  us_ca_auto_license: '\\b[A-Z][0-9]{7}\\b'",
  "  us_ny_auto_license: '\\b[0-9]{3}[- ]?[0-9]{3}[- ]?[0-9]{3}\\b'",
  "  us_fl_mi_mn_auto_license: '\\b[A-Z][0-9]{3}-?[0-9]{3}-?[0-9]{3}(?:[0-9]{3})?\\b'"]

def builtinText : String := String.join (builtinLines.map (· ++ "\n"))

/-- Reading the text succeeds, so that the empty catalog is never taken. To unfold this is to read the text, hence it
is irreducible. -/
@[irreducible] def Catalog.builtin : Catalog := (ofYaml builtinText).toOption.getD .empty

def Catalog.loadBuiltin : Logged Catalog := do
  report .detail "Loading default catalog from embedded string..."
  report .detail ("Loaded " ++ toString builtin.size ++ " default catalog entries.")
  return builtin

def identifying (overrides : Option Catalog) (d : Disclosure) (input : String) :
    Logged (Except Error Findings) := do
  let base ← Catalog.loadBuiltin
  (← base.merge overrides).sweep d input

end TextPattern
