import TextPattern.Catalog.Builtin
import TextPattern.Proofs.Agreement
import TextPattern.Proofs.NameMap

/-!
# Reading the built-in catalog

* `TextLines lines text` : the characters of a text of lines;
* `builtinEntries` : what the text of the built-in catalog is read as, in its own order;
* `ofYaml_builtinText` : the text is read without a fault;
* `Catalog.builtin_eq`, `Catalog.mem_of_mem_builtin` : the built-in catalog by its entries.
-/

namespace TextPattern

/-! ## Texts of lines -/

/-- The characters of some lines, for lines that are given by theirs. -/
inductive TextLines : List String → List Char → Prop
  | nil : TextLines [] []
  | cons {line : List Char} {lines : List String} {text : List Char} (h : TextLines lines text) :
      TextLines (String.ofList line :: lines) (line ++ '\n' :: text)

section Lines

variable {lines : List String} {text : List Char} {entries : List (String × String)}

theorem TextLines.toList (h : TextLines lines text) : (String.join (lines.map (· ++ "\n"))).toList = text := by
  induction h with
  | nil => rfl
  | cons h ih => simp [← ih]

theorem ofYaml_of_textLines (h : TextLines lines text) (hread : (Yaml.readCatalog text).toOption = some entries) :
    Catalog.ofYaml (String.join (lines.map (· ++ "\n"))) = .ok (.ofList entries) := by
  rw [Catalog.ofYaml, h.toList, Syntax.toOption_eq_some.1 hread]

end Lines

/-! ## The built-in catalog -/

def builtinEntries : List (String × String) := [
  ("email_address", "(?m)^[A-Za-z0-9._-]+@[A-Za-z0-9-]+(?:\\.[A-Za-z0-9-]+)*\\.[A-Za-z]{2,}$"),
  ("domain_name", "\\b(?:[A-Za-z0-9](?:[A-Za-z0-9-]{0,61}[A-Za-z0-9])?\\.)+[A-Za-z]{2,}\\b"),
  ("domain_url", "\\b(?:https?://)?(?:www\\.)?[A-Za-z0-9-]+(?:\\.[A-Za-z0-9-]+)+(?:/[^\\s]*)?"),
  ("ip_v4_address",
    "\\b(?:(?:25[0-5]|2[0-4][0-9]|[01]?[0-9][0-9]?)\\.){3}(?:25[0-5]|2[0-4][0-9]|[01]?[0-9][0-9]?)\\b"),
  ("ip_v6_address", "\\b(?:[0-9A-Fa-f]{1,4}:){7}[0-9A-Fa-f]{1,4}\\b"),
  ("us_phone", "(?:\\+?1[ .-]?)?\\(?\\b[2-9][0-9]{2}\\)?[ .-]?[0-9]{3}[ .-][0-9]{4}\\b"),
  ("can_phone", "(?:\\+?1[ .-]?)?\\(?\\b[2-9][0-9]{2}\\)?[ .-]?[0-9]{3}[ .-][0-9]{4}\\b"),
  ("can_postcode", "\\b[ABCEGHJ-NPRSTVXY][0-9][ABCEGHJ-NPRSTV-Z] ?[0-9][ABCEGHJ-NPRSTV-Z][0-9]\\b"),
  ("us_zipcode", "(?m)^[0-9]{5}(?:-[0-9]{4})?$"),
  ("us_ssn", "\\b[0-9]{3}-[0-9]{2}-[0-9]{4}\\b"),
  ("can_sin", "\\b[0-9]{3}[- ]?[0-9]{3}[- ]?[0-9]{3}\\b"),
  ("us_passport", "\\b[0-9]{9}\\b"),
  ("can_passport", "\\b[A-Z]{2}[0-9]{6}\\b"),
  ("in_passport", "\\b[A-Z][0-9]{7}\\b"),
  ("in_pan", "\\b[A-Z]{5}[0-9]{4}[A-Z]\\b"),
  ("in_aadhar", "\\b[2-9][0-9]{3} ?[0-9]{4} ?[0-9]{4}\\b"),
  ("in_auto_license", "\\b[A-Z]{2}[0-9]{2}[ -]?[0-9]{11}\\b"),
  ("can_on_auto_license", "\\b[A-Z][0-9]{4}-[0-9]{5}-[0-9]{5}\\b"),
  ("can_qc_auto_license", "\\b[A-Z][0-9]{4}-[0-9]{6}-[0-9]{2}\\b"),
  ("can_ab_auto_license", "\\b[0-9]{6}-?[0-9]{3}\\b"),
  ("can_bc_auto_license", "\\b[0-9]{7}\\b"),
  ("us_tx_auto_license", "\\b[0-9]{7}\\b"),
  ("us_ca_auto_license", "\\b[A-Z][0-9]{7}\\b"),
  ("us_ny_auto_license", "\\b[0-9]{3}[- ]?[0-9]{3}[- ]?[0-9]{3}\\b"),
  ("us_fl_mi_mn_auto_license", "\\b[A-Z][0-9]{3}-?[0-9]{3}-?[0-9]{3}(?:[0-9]{3})?\\b")]

/-- The comments and the quotes are gone. -/
theorem ofYaml_builtinText : Catalog.ofYaml builtinText = .ok (.ofList builtinEntries) := by
  unfold builtinText builtinLines builtinEntries
  -- The kernel is given the characters of each line, which saves it reading them from their bytes.
  apply ofYaml_of_textLines
  · repeat apply TextLines.cons
    exact .nil
  · decide +kernel

namespace Catalog

theorem value_loadBuiltin : loadBuiltin.value = builtin := rfl

theorem builtin_eq : builtin = .ofList builtinEntries := by
  unfold builtin
  rw [Syntax.toOption_eq_some.2 ofYaml_builtinText, Option.getD_some]

theorem ofYaml_eq_loadBuiltin : ofYaml builtinText = .ok loadBuiltin.value := by
  rw [value_loadBuiltin, builtin_eq, ofYaml_builtinText]

theorem mem_of_mem_builtin {e : String × String} (h : e ∈ builtin.entries) : e ∈ builtinEntries := by
  rw [builtin_eq] at h
  exact NameMap.mem_ofList h

end Catalog

end TextPattern
