import TextPattern.Proofs.Sweep
import TextPattern.Proofs.Yaml.Document

/-!
# Catalogs in quotes

* `quotedDocument` : the document of names and texts, all of them in single quotes;
* `toList_quotedDocument` : its characters are those of a document of entries;
* `ofYaml_quotedDocument` : it is read as the catalog of these names and texts.
-/

namespace TextPattern

/-- The text in single quotes, each of its own written twice. -/
def singleQuoted (text : String) : String := "'" ++ String.ofList (Yaml.doubled text.toList) ++ "'"

def quotedLine (e : String × Option String) : String := "  '" ++ e.1 ++ "': " ++ (e.2.map singleQuoted).getD "~" ++ "\n"

/-- The document of names with a text or without one. -/
def quotedDocument (entries : List (String × Option String)) : String :=
  "patterns:\n" ++ String.join (entries.map quotedLine)

def isEntryChar (c : Char) : Bool := c.isAlphanum || c = '_'

/-- A printable character of ASCII. -/
def isPrintable (c : Char) : Bool := 0x20 ≤ c.toNat && c.toNat ≤ 0x7E

/-- The name is no longer than 1000 characters, and the text, if any, is printable. -/
structure IsQuotable (e : String × Option String) : Prop where
  length_le : e.1.length ≤ 1000
  name : ∀ c ∈ e.1.toList, isEntryChar c = true
  text : ∀ text ∈ e.2, ∀ c ∈ text.toList, isPrintable c = true

instance (e : String × Option String) : Decidable (IsQuotable e) :=
  decidable_of_iff (e.1.length ≤ 1000 ∧ e.1.toList.all isEntryChar = true ∧
    (e.2.all fun text => text.toList.all isPrintable) = true)
    ⟨fun h => ⟨h.1, List.all_eq_true.1 h.2.1, fun text htext => by
      have hall := h.2.2
      rw [Option.mem_def.1 htext] at hall
      exact List.all_eq_true.1 hall⟩,
    fun h => ⟨h.length_le, List.all_eq_true.2 h.name, (Option.all_eq_true _ _).2 fun text htext =>
      List.all_eq_true.2 (h.text text htext)⟩⟩

def charsOf (e : String × Option String) : List Char × Option (List Char) := (e.1.toList, e.2.map String.toList)

section Chars

variable {entries : List (String × Option String)} {e : String × Option String} {text : String} {c : Char}

theorem isPrintable_iff : isPrintable c = true ↔ 0x20 ≤ c.toNat ∧ c.toNat ≤ 0x7E := by
  rw [isPrintable, Bool.and_eq_true, decide_eq_true_iff, decide_eq_true_iff]

theorem isPrintable_of_isEntryChar (h : isEntryChar c = true) : isPrintable c = true ∧ c ≠ '\'' := by
  have hupper : c.isUpper = true ↔ 0x41 ≤ c.toNat ∧ c.toNat ≤ 0x5A := decide_eq_true_iff
  have hlower : c.isLower = true ↔ 0x61 ≤ c.toNat ∧ c.toNat ≤ 0x7A :=
    Bool.and_eq_true_iff.trans (and_congr decide_eq_true_iff decide_eq_true_iff)
  have hdigit : c.isDigit = true ↔ 0x30 ≤ c.toNat ∧ c.toNat ≤ 0x39 := Char.isDigit_iff_toNat
  have halpha : c.isAlpha = true ↔ c.isUpper = true ∨ c.isLower = true := Bool.or_eq_true_iff
  have halnum : c.isAlphanum = true ↔ c.isAlpha = true ∨ c.isDigit = true := Bool.or_eq_true_iff
  have hentry : isEntryChar c = true ↔ c.isAlphanum = true ∨ c.toNat = 0x5F := by
    rw [isEntryChar, Bool.or_eq_true, decide_eq_true_iff, ← Char.toNat_inj]
    rfl
  rw [hentry, halnum, halpha, hupper, hlower, hdigit] at h
  rw [isPrintable_iff, Ne, ← Char.toNat_inj, show '\''.toNat = 0x27 from rfl]
  omega

theorem isAllowed_of_isPrintable (h : isPrintable c = true) : Yaml.isAllowed c = true ∧ Yaml.isBreak c = false := by
  rw [isPrintable_iff] at h
  constructor
  · simp only [Yaml.isAllowed, h.1, h.2, decide_true, Bool.and_self, Bool.or_true, Bool.true_or]
  · rw [← Bool.not_eq_true, Yaml.isBreak]
    simp only [Bool.or_eq_true, decide_eq_true_iff, ← Char.toNat_inj]
    rintro ((((h' | h') | h') | h') | h') <;> rw [h'] at h <;> exact absurd h (by decide)

theorem IsQuotable.doubled_name (h : IsQuotable e) : Yaml.doubled e.1.toList = e.1.toList :=
  Yaml.doubled_eq_self fun hquote => (isPrintable_of_isEntryChar (h.name _ hquote)).2 rfl

theorem IsQuotable.onLine (h : IsQuotable e) : Yaml.OnLine (charsOf e) := by
  refine ⟨fun d hd => isAllowed_of_isPrintable (isPrintable_of_isEntryChar (h.name d hd)).1, ?_, ?_⟩
  · rw [charsOf, h.doubled_name, String.length_toList]
    exact (Nat.add_le_add_right h.length_le 2).trans (by decide)
  · intro chars hchars d hd
    obtain ⟨text, htext, rfl⟩ := Option.map_eq_some_iff.1 hchars
    exact isAllowed_of_isPrintable (h.text text htext d hd)

theorem toList_quotedLine (h : IsQuotable e) :
    (quotedLine e).toList = ' ' :: ' ' :: (Yaml.entryChars (charsOf e) ++ ['\n']) := by
  obtain ⟨name, value⟩ := e
  have hvalue : ((value.map singleQuoted).getD "~").toList = Yaml.valueChars (value.map String.toList) := by
    cases value with
    | none => rfl
    | some text => simp [singleQuoted, Yaml.valueChars]
  have hname : Yaml.doubled name.toList = name.toList := h.doubled_name
  rw [quotedLine, Yaml.entryChars, charsOf, hname, ← hvalue]
  simp

theorem toList_quotedDocument (h : ∀ e ∈ entries, IsQuotable e) :
    (quotedDocument entries).toList = Yaml.documentChars (entries.map charsOf) (.line 0 []) := by
  have hlines : (Yaml.linesTail (entries.map charsOf) (.line 0 [])).chars =
      '\n' :: entries.flatMap fun e => (quotedLine e).toList := by
    induction entries with
    | nil => rfl
    | cons e entries ih =>
      obtain ⟨he, hentries⟩ := List.forall_mem_cons.1 h
      rw [List.map_cons, Yaml.linesTail, Yaml.Tail.chars, ih hentries, List.flatMap_cons, toList_quotedLine he]
      simp [List.replicate_succ]
  rw [Yaml.documentChars, hlines, quotedDocument]
  simp [Yaml.fieldChars, List.flatMap_map]

/-- With or without the end of its last line, it is a document of its entries. -/
theorem exists_isDocument (hne : entries ≠ []) (h : ∀ e ∈ entries, IsQuotable e)
    (htext : text = quotedDocument entries ∨ text ++ "\n" = quotedDocument entries) :
    ∃ ending, Yaml.IsDocument (entries.map charsOf) ending ∧
      text.toList = Yaml.documentChars (entries.map charsOf) ending := by
  have honLine : ∀ e ∈ entries.map charsOf, Yaml.OnLine e := by
    intro e he
    obtain ⟨e, hmem, rfl⟩ := List.mem_map.1 he
    exact (h e hmem).onLine
  have hne : entries.map charsOf ≠ [] := fun hnil => hne (List.map_eq_nil_iff.1 hnil)
  rcases htext with rfl | htext
  · exact ⟨.line 0 [], ⟨hne, honLine, .inr rfl⟩, toList_quotedDocument h⟩
  · refine ⟨.nothing, ⟨hne, honLine, .inl rfl⟩, ?_⟩
    have hchars := congrArg String.toList htext
    rw [toList_quotedDocument h, String.toList_append, Yaml.documentChars, Yaml.chars_linesTail,
      ← List.append_assoc] at hchars
    exact List.append_cancel_right hchars

end Chars

/-! ## The catalog -/

section Catalog

variable {entries : List (String × Option String)} {text : String}

theorem lookup_map {α β γ : Type} [BEq α] (f : β → γ) (entries : List (α × β)) (a : α) :
    (entries.map fun e => (e.1, f e.2)).lookup a = (entries.lookup a).map f := by
  induction entries with
  | nil => rfl
  | cons e entries ih =>
    rw [List.map_cons, List.lookup_cons, List.lookup_cons, ih]
    split <;> rfl

theorem readAs_charsOf (e : String × Option String) : Yaml.readAs (charsOf e) = (e.1, e.2.getD "") := by
  obtain ⟨name, value⟩ := e
  cases value with
  | none => rw [Yaml.readAs, charsOf, String.ofList_toList]; rfl
  | some text => simp [Yaml.readAs, charsOf]

theorem Catalog.mem_names_iff {c : Catalog} {name : String} :
    name ∈ c.entries.map Prod.fst ↔ (c.get? name).isSome = true := by
  rw [Option.isSome_iff_exists, List.mem_map]
  constructor
  · rintro ⟨e, he, rfl⟩
    exact ⟨e.2, NameMap.get?_eq_some.2 he⟩
  · rintro ⟨pattern, hpattern⟩
    exact ⟨(name, pattern), NameMap.get?_eq_some.1 hpattern, rfl⟩

/-- A document in single quotes is read as the catalog of its names, each with its last text, where none is empty. The
active entries are those whose last text is there and not empty. -/
theorem ofYaml_quotedDocument (hne : entries ≠ []) (h : ∀ e ∈ entries, IsQuotable e)
    (htext : text = quotedDocument entries ∨ text ++ "\n" = quotedDocument entries) :
    ∃ c, Catalog.ofYaml text = .ok c ∧ (∀ name, name ∈ c.entries.map Prod.fst ↔ name ∈ entries.map Prod.fst) ∧
      (∀ name, c.get? name = (entries.reverse.lookup name).map (·.getD "")) ∧
      ∀ name pattern, (name, pattern) ∈ c.active ↔
        entries.reverse.lookup name = some (some pattern) ∧ pattern ≠ "" := by
  obtain ⟨ending, hdocument, hchars⟩ := exists_isDocument hne h htext
  have hread : Yaml.readCatalog text.toList = .ok (entries.map fun e => (e.1, e.2.getD "")) := by
    rw [hchars, Yaml.readCatalog_document hdocument, List.map_map]
    exact congrArg Except.ok (List.map_congr_left fun e _ => readAs_charsOf e)
  have hget : ∀ name, (Catalog.ofList (entries.map fun e => (e.1, e.2.getD ""))).get? name =
      (entries.reverse.lookup name).map (·.getD "") := by
    intro name
    rw [Catalog.get?, Catalog.ofList, NameMap.get?_ofList, ← List.map_reverse]
    exact lookup_map (fun value : Option String => value.getD "") entries.reverse name
  refine ⟨_, by rw [Catalog.ofYaml, hread], ?_, hget, ?_⟩
  · intro name
    rw [Catalog.mem_names_iff, hget, Option.isSome_map, List.lookup_isSome_iff]
    simp only [List.mem_reverse, beq_iff_eq, List.mem_map]
    exact exists_congr fun e => and_congr_right fun _ => eq_comm
  · intro name pattern
    rw [Catalog.mem_active, hget, ← Bool.not_eq_true, String.isEmpty_iff]
    refine and_congr_left fun hpattern => ⟨fun hlast => ?_, fun hlast => by rw [hlast]; rfl⟩
    obtain ⟨value, hvalue, hgetD⟩ := Option.map_eq_some_iff.1 hlast
    cases value with
    | none => exact absurd hgetD.symm hpattern
    | some text =>
      obtain rfl : text = pattern := hgetD
      exact hvalue

def quotedWords : List (String × Option String) :=
  [("id_1", some "a"), ("none", none), ("empty", some ""), ("id_1", some " it's #1: ")]

theorem ofYaml_quotedDocument_words :
    (quotedWords ≠ [] ∧ (∀ e ∈ quotedWords, IsQuotable e) ∧ (quotedDocument quotedWords = quotedDocument quotedWords ∨
      quotedDocument quotedWords ++ "\n" = quotedDocument quotedWords)) ∧
    ∃ c, Catalog.ofYaml (quotedDocument quotedWords) = .ok c ∧ c.get? "id_1" = some " it's #1: " ∧
      c.get? "none" = some "" ∧ ("empty", "") ∉ c.active := by
  have hne : quotedWords ≠ [] := List.cons_ne_nil _ _
  have hquotable : ∀ e ∈ quotedWords, IsQuotable e := by decide +kernel
  refine ⟨⟨hne, hquotable, .inl rfl⟩, ?_⟩
  obtain ⟨c, hc, -, hget, hactive⟩ := ofYaml_quotedDocument hne hquotable (.inl rfl)
  refine ⟨c, hc, ?_, ?_, fun hempty => ((hactive "empty" "").1 hempty).2 rfl⟩
  · rw [hget]
    decide +kernel
  · rw [hget]
    decide +kernel

end Catalog

end TextPattern
