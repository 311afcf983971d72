import TextPattern.Proofs.Merge

/-!
# Log lines of matched texts

* `foundEntry d name text` : the line of a text that was matched for a name, `log_reportAll` : those of several texts;
* `LogEntry.isAbout name` : a line tells of a redacted text for a name, `isAbout_foundEntry_iff` : for that name alone;
* `Interleave`, `InterleaveAll` : lines that are written at the same time, `InterleaveAll.filter_eq` : if those of one
  kind all come from one place, they are in the order that they have there;
* `Catalog.Emits c d input log` : the lines of a sweep whose entries are searched at the same time,
  `emits_sweep` : those of a sweep that searches them in turn are an instance;
* `filter_of_emits` : the lines for a name are those of the texts that were found for it;
* `Findings.Alike`, `match_lines_redacted` : sweeps that find texts of the same lengths write the same lines.
-/

namespace TextPattern

/-! ## Lines of one name -/

def foundEntry (d : Disclosure) (name text : String) : LogEntry :=
  ⟨.detail, .matchSet, "[regexkit_core::catalog] Category '" ++ name ++ "' matched: '" ++ d.shown text ++ "'"⟩

/-- What stands in front of the quote that opens the text in a line for a name. -/
def foundHead (name : String) : List Char :=
  "[regexkit_core::catalog] Category '".toList ++ (name.toList ++ "' matched: ".toList)

/-- The line tells of a matched text for a name: behind the words for the name, the second quote ends the line. -/
def LogEntry.isAbout (name : String) (e : LogEntry) : Bool :=
  let head := foundHead name ++ ['\'']
  let tail := e.message.toList.drop head.length
  e.source = .matchSet && head.isPrefixOf e.message.toList && tail.idxOf '\'' + 1 = tail.length

section Lines

variable {d : Disclosure} {name other text : String}

theorem toList_message_foundEntry (d : Disclosure) (name text : String) :
    (foundEntry d name text).message.toList = foundHead name ++ ['\''] ++ ((d.shown text).toList ++ ['\'']) := by
  have hquote : "' matched: '".toList = "' matched: ".toList ++ ['\''] := by decide
  have hlast : "'".toList = ['\''] := by decide
  unfold foundEntry foundHead
  simp only [String.toList_append, hquote, hlast, List.append_assoc]

theorem quote_not_mem_redacted (text : String) : '\'' ∉ (redacted text).toList := by
  have hdigits : '\'' ∉ (toString text.utf8ByteSize).toList := by
    rw [Nat.toString_eq_ofList_toDigits, String.toList_ofList]
    intro h
    have hdigit := Nat.isDigit_of_mem_toDigits (by decide) (Nat.le_refl 10) h
    exact absurd hdigit (by decide)
  unfold redacted
  split
  · decide
  · simp only [String.toList_append, List.mem_append, not_or]
    exact ⟨⟨by decide, hdigits⟩, by decide⟩

theorem idxOf_add_one_eq_length {α : Type} [BEq α] [LawfulBEq α] {a : α} {l : List α} :
    l.idxOf a + 1 = l.length ↔ ∃ front, a ∉ front ∧ l = front ++ [a] := by
  constructor
  · intro h
    obtain ⟨front, back, hl, hfront⟩ := List.eq_append_cons_of_mem (List.idxOf_lt_length_iff.1 (by omega) : a ∈ l)
    subst hl
    rw [List.idxOf_append_of_notMem hfront, List.idxOf_cons_self, List.length_append, List.length_cons] at h
    obtain rfl : back = [] := List.eq_nil_of_length_eq_zero (by omega)
    exact ⟨front, hfront, rfl⟩
  · rintro ⟨front, hfront, rfl⟩
    rw [List.idxOf_append_of_notMem hfront, List.idxOf_cons_self, List.length_append]
    rfl

theorem append_cons_inj_of_last {α : Type} {a : α} {l l' r r' : List α} (hr : a ∉ r) (hr' : a ∉ r')
    (h : l ++ a :: r = l' ++ a :: r') : l = l' ∧ r = r' := by
  have hback : ∀ {m s s' : List α}, a ∉ s → a :: s = m ++ a :: s' → m = [] := by
    intro m s s' hs h
    cases m with
    | nil => rfl
    | cons b m =>
      rw [(List.cons.inj h).2] at hs
      exact absurd (List.mem_append_right m List.mem_cons_self) hs
  rcases List.append_eq_append_iff.1 h with ⟨m, rfl, hm⟩ | ⟨m, rfl, hm⟩
  · obtain rfl := hback hr hm
    exact ⟨(List.append_nil l).symm, (List.cons.inj hm).2⟩
  · obtain rfl := hback hr' hm
    exact ⟨List.append_nil l', (List.cons.inj hm).2.symm⟩

/-- The line of a redacted text tells of the name that it was written for, and of no other. -/
theorem isAbout_foundEntry_iff : (foundEntry .redacted other text).isAbout name = true ↔ other = name := by
  have hshown := quote_not_mem_redacted text
  rw [LogEntry.isAbout, Bool.and_eq_true, Bool.and_eq_true, decide_eq_true_iff, decide_eq_true_iff,
    List.isPrefixOf_iff_prefix, toList_message_foundEntry, idxOf_add_one_eq_length]
  constructor
  · rintro ⟨⟨-, tail, htail⟩, front, hfront, hdrop⟩
    rw [← htail, List.drop_left] at hdrop
    subst hdrop
    have hcut : foundHead name ++ '\'' :: front = foundHead other ++ '\'' :: (redacted text).toList := by
      have hquote : (foundHead name ++ '\'' :: front) ++ ['\''] =
          (foundHead other ++ '\'' :: (redacted text).toList) ++ ['\''] := by
        simpa [Disclosure.shown] using htail
      exact List.append_cancel_right hquote
    have hheads := List.append_cancel_left (append_cons_inj_of_last hfront hshown hcut).1
    exact (String.toList_inj.1 (List.append_cancel_right hheads)).symm
  · rintro rfl
    exact ⟨⟨rfl, List.prefix_append _ _⟩, (redacted text).toList, hshown, List.drop_left⟩

end Lines

/-! ## Lines written at the same time -/

section Interleave

variable {α : Type}

/-- The third list has the elements of the other two, those of each in their order. -/
inductive Interleave : List α → List α → List α → Prop
  | nil : Interleave [] [] []
  | left {a : α} {l r both : List α} (h : Interleave l r both) : Interleave (a :: l) r (a :: both)
  | right {a : α} {l r both : List α} (h : Interleave l r both) : Interleave l (a :: r) (a :: both)

/-- A list has the elements of several others, those of each in their order. -/
inductive InterleaveAll : List (List α) → List α → Prop
  | nil : InterleaveAll [] []
  | cons {l rest all : List α} {ls : List (List α)} (hrest : InterleaveAll ls rest) (h : Interleave l rest all) :
      InterleaveAll (l :: ls) all

namespace Interleave

variable {l r both : List α}

theorem append (l r : List α) : Interleave l r (l ++ r) := by
  induction l with
  | nil =>
    induction r with
    | nil => exact .nil
    | cons a r ih => exact .right ih
  | cons a l ih => exact .left ih

theorem mem_iff (h : Interleave l r both) {a : α} : a ∈ both ↔ a ∈ l ∨ a ∈ r := by
  induction h with
  | nil => simp
  | left h ih => rw [List.mem_cons, List.mem_cons, ih, or_assoc]
  | right h ih => rw [List.mem_cons, List.mem_cons, ih, or_left_comm]

theorem filter (h : Interleave l r both) (p : α → Bool) : Interleave (l.filter p) (r.filter p) (both.filter p) := by
  induction h with
  | nil => exact .nil
  | @left a l r both h ih =>
    rw [List.filter_cons, List.filter_cons]
    split
    · exact .left ih
    · exact ih
  | @right a l r both h ih =>
    rw [List.filter_cons, List.filter_cons]
    split
    · exact .right ih
    · exact ih

theorem eq_of_nil_left (h : Interleave [] r both) : both = r := by
  induction r generalizing both with
  | nil =>
    cases h
    rfl
  | cons a r ih =>
    cases h with
    | right h => rw [ih h]

theorem eq_of_nil_right (h : Interleave l [] both) : both = l := by
  induction l generalizing both with
  | nil =>
    cases h
    rfl
  | cons a l ih =>
    cases h with
    | left h => rw [ih h]

end Interleave

namespace InterleaveAll

variable {ls : List (List α)} {all : List α}

theorem flatten (ls : List (List α)) : InterleaveAll ls ls.flatten := by
  induction ls with
  | nil => exact .nil
  | cons l ls ih => exact .cons ih (.append l ls.flatten)

theorem mem_iff (h : InterleaveAll ls all) {a : α} : a ∈ all ↔ a ∈ ls.flatten := by
  induction h with
  | nil => rfl
  | cons hrest h ih => rw [h.mem_iff, ih, List.flatten_cons, List.mem_append]

/-- If no two lists have elements of one kind, those of that kind are in the order that they have in their list. -/
theorem filter_eq {p : α → Bool} (h : InterleaveAll ls all)
    (hapart : ls.Pairwise fun l r => l.filter p = [] ∨ r.filter p = []) : all.filter p = ls.flatten.filter p := by
  induction h with
  | nil => rfl
  | @cons l rest all ls hrest h ih =>
    obtain ⟨hfirst, hapart⟩ := List.pairwise_cons.1 hapart
    have hkind := h.filter p
    rw [ih hapart] at hkind
    rw [List.flatten_cons, List.filter_append]
    by_cases hl : l.filter p = []
    · rw [hl] at hkind ⊢
      exact hkind.eq_of_nil_left
    · have hothers : ls.flatten.filter p = [] := by
        rw [List.filter_flatten, List.flatten_eq_nil_iff]
        intro kept hkept
        obtain ⟨r, hr, rfl⟩ := List.mem_map.1 hkept
        exact (hfirst r hr).resolve_left hl
      rw [hothers] at hkind ⊢
      rw [hkind.eq_of_nil_right, List.append_nil]

end InterleaveAll

end Interleave

/-! ## Sweeps -/

namespace Catalog

/-- The lines of an entry that is searched on its own. -/
def entryLines (d : Disclosure) (input : String) (e : String × String) : List LogEntry :=
  (sweepEntries d input [e] .empty).log

/-- The lines that a sweep writes of the texts that it finds, if its entries are searched at the same time. -/
def Emits (c : Catalog) (d : Disclosure) (input : String) (log : List LogEntry) : Prop :=
  InterleaveAll (c.active.map (entryLines d input)) log

section Sweep

variable {c : Catalog} {d : Disclosure} {input : String} {found : Findings}

theorem log_reportAll (d : Disclosure) (name : String) (texts : List String) :
    (reportAll d name texts).log = texts.map (foundEntry d name) := by
  induction texts with
  | nil => rfl
  | cons text texts ih =>
    have hcons : (reportAll d name (text :: texts)).log =
        foundEntry d name text :: (reportAll d name texts).log := rfl
    rw [hcons, ih, List.map_cons]

theorem log_sweepEntries_none {name pattern : String} {order : List (String × String)}
    (h : search pattern input = .ok none) :
    (sweepEntries d input ((name, pattern) :: order) found).log = (sweepEntries d input order found).log := by
  rw [sweepEntries_none h]

theorem log_sweepEntries_some {name pattern : String} {texts : List String} {order : List (String × String)}
    (h : search pattern input = .ok (some texts)) :
    (sweepEntries d input ((name, pattern) :: order) found).log =
      texts.map (foundEntry d name) ++ (sweepEntries d input order (found.insert name texts)).log := by
  rw [← log_reportAll, sweepEntries, h]
  rfl

theorem entryLines_eq (d : Disclosure) (input name pattern : String) : entryLines d input (name, pattern) =
    ((search pattern input).toOption.join.getD []).map (foundEntry d name) := by
  rw [entryLines]
  cases hsearch : search pattern input with
  | error e =>
    rw [sweepEntries, hsearch]
    rfl
  | ok result =>
    cases result with
    | none =>
      rw [log_sweepEntries_none hsearch]
      rfl
    | some texts =>
      rw [log_sweepEntries_some hsearch]
      exact List.append_nil _

/-- The lines of entries that are searched in turn are those of each of them on its own. -/
theorem log_sweepEntries {order : List (String × String)} (hvalid : ∀ e ∈ order, isValid e.2 = true)
    (found : Findings) : (sweepEntries d input order found).log = (order.map (entryLines d input)).flatten := by
  induction order generalizing found with
  | nil => rfl
  | cons e order ih =>
    obtain ⟨name, pattern⟩ := e
    obtain ⟨hhead, hvalid⟩ := List.forall_mem_cons.1 hvalid
    obtain ⟨p, hp⟩ := exists_compile_of_isValid hhead
    have hsearch := search_eq_ok hp input
    rw [List.map_cons, List.flatten_cons]
    split at hsearch
    · rw [log_sweepEntries_some hsearch, ih hvalid, entryLines_eq, hsearch]
      rfl
    · rw [log_sweepEntries_none hsearch, ih hvalid, entryLines_eq, hsearch]
      rfl

theorem filter_log_sweep (h : (c.sweep d input).value = .ok found) :
    (c.sweep d input).log.filter (fun e => e.source = .matchSet) =
      (sweepEntries d input c.active .empty).log.filter fun e => e.source = .matchSet := by
  rw [value_sweep] at h
  have hlog : ∃ first last : String, (c.sweep d input).log =
      ⟨.detail, .catalog, first⟩ :: ((sweepEntries d input c.active .empty).log ++ [⟨.detail, .catalog, last⟩]) := by
    simp only [sweep]
    cases hentries : sweepEntries d input c.active .empty with
    | mk value log =>
      rw [hentries] at h
      cases h
      exact ⟨_, _, rfl⟩
  obtain ⟨first, last, hlog⟩ := hlog
  rw [hlog, List.filter_cons_of_neg (by simp), List.filter_append, List.filter_cons_of_neg (by simp)]
  exact List.append_nil _

/-- The lines of the texts that a sweep in turn finds are those of its entries, one entry behind the other. -/
theorem emits_sweep (h : (c.sweep d input).value = .ok found) :
    c.Emits d input ((c.sweep d input).log.filter fun e => e.source = .matchSet) := by
  have hvalid := (exists_sweep_iff c d input).1 ⟨found, h⟩
  rw [filter_log_sweep h, log_sweepEntries hvalid, List.filter_eq_self.2]
  · exact .flatten _
  · intro line hline
    obtain ⟨lines, hlines, hline⟩ := List.mem_flatten.1 hline
    obtain ⟨⟨name, pattern⟩, -, rfl⟩ := List.mem_map.1 hlines
    rw [entryLines_eq] at hline
    obtain ⟨text, -, rfl⟩ := List.mem_map.1 hline
    rfl

/-- Every line is about a text that was found. -/
theorem exists_of_mem_emits (h : (c.sweep d input).value = .ok found) {log : List LogEntry}
    (hlog : c.Emits d input log) {line : LogEntry} (hline : line ∈ log) :
    ∃ f ∈ found.entries, ∃ text ∈ f.2, line = foundEntry d f.1 text := by
  obtain ⟨found', hfound, hmem⟩ := sweep_eq_ok ((exists_sweep_iff c d input).1 ⟨found, h⟩) d input
  obtain rfl : found' = found := Except.ok.inj (hfound.symm.trans h)
  obtain ⟨lines, hlines, hline⟩ := List.mem_flatten.1 (hlog.mem_iff.1 hline)
  obtain ⟨⟨name, pattern⟩, hactive, rfl⟩ := List.mem_map.1 hlines
  rw [entryLines_eq] at hline
  obtain ⟨text, htext, rfl⟩ := List.mem_map.1 hline
  cases hsearch : search pattern input with
  | error e =>
    rw [hsearch] at htext
    exact absurd htext List.not_mem_nil
  | ok result =>
    cases result with
    | none =>
      rw [hsearch] at htext
      exact absurd htext List.not_mem_nil
    | some texts =>
      rw [hsearch] at htext
      exact ⟨(name, texts), (hmem _).2 ⟨pattern, hactive, hsearch⟩, text, htext, rfl⟩

theorem filter_entryLines (input name other pattern : String) :
    (entryLines .redacted input (other, pattern)).filter (LogEntry.isAbout name) =
      if other = name then entryLines .redacted input (other, pattern) else [] := by
  rw [entryLines_eq, List.filter_map]
  split
  · next heq =>
    rw [List.filter_eq_self.2]
    exact fun text _ => isAbout_foundEntry_iff.2 heq
  · next hne =>
    rw [List.filter_eq_nil_iff.2, List.map_nil]
    exact fun text _ hname => hne (isAbout_foundEntry_iff.1 hname)

/-- The lines about a name are those of the texts that were found for it, in their order. -/
theorem filter_of_emits (h : (c.sweep .redacted input).value = .ok found) {log : List LogEntry}
    (hlog : c.Emits .redacted input log) (name : String) :
    log.filter (LogEntry.isAbout name) = ((found.get? name).getD []).map (foundEntry .redacted name) := by
  have hapart : (c.active.map (entryLines .redacted input)).Pairwise fun l r =>
      l.filter (LogEntry.isAbout name) = [] ∨ r.filter (LogEntry.isAbout name) = [] := by
    rw [List.pairwise_map]
    refine (List.pairwise_map.1 c.nodup_active).imp fun {e f} hne => ?_
    rw [filter_entryLines, filter_entryLines]
    by_cases he : e.1 = name
    · exact .inr (if_neg fun hf => hne (he.trans hf.symm))
    · exact .inl (if_neg he)
  have hothers : ∀ entries : List (String × String), (∀ e ∈ entries, e.1 ≠ name) →
      (entries.map (entryLines .redacted input)).flatten.filter (LogEntry.isAbout name) = [] := by
    intro entries hentries
    rw [List.filter_flatten, List.map_map, List.flatten_eq_nil_iff]
    intro lines hlines
    obtain ⟨e, he, rfl⟩ := List.mem_map.1 hlines
    exact (filter_entryLines input name e.1 e.2).trans (if_neg (hentries e he))
  rw [hlog.filter_eq hapart, get?_of_sweep h]
  by_cases hname : ∃ pattern, (name, pattern) ∈ c.active
  · obtain ⟨pattern, hactive⟩ := hname
    obtain ⟨hget, hne⟩ := mem_active.1 hactive
    obtain ⟨before, behind, hsplit⟩ := List.append_of_mem hactive
    have hnames := c.nodup_active
    rw [hsplit, List.map_append, List.map_cons, List.nodup_middle, List.nodup_cons] at hnames
    have hnew : ∀ e ∈ before ++ behind, e.1 ≠ name := fun e he heq =>
      hnames.1 (by rw [← List.map_append]; exact List.mem_map.2 ⟨e, he, heq⟩)
    rw [hsplit, List.map_append, List.map_cons, List.flatten_append, List.flatten_cons, List.filter_append,
      List.filter_append, hothers before fun e he => hnew e (List.mem_append_left _ he),
      hothers behind fun e he => hnew e (List.mem_append_right _ he), filter_entryLines, if_pos rfl,
      List.nil_append, List.append_nil, entryLines_eq, hget, Option.bind_some, finding, hne]
    rfl
  · have hnone : (c.get? name).bind (finding input) = none := by
      rw [Option.bind_eq_none_iff]
      intro pattern hget
      cases hempty : pattern.isEmpty with
      | true => exact if_pos hempty
      | false => exact absurd ⟨pattern, mem_active.2 ⟨hget, hempty⟩⟩ hname
    rw [hnone, hothers c.active fun e he heq => hname ⟨e.2, heq ▸ he⟩]
    rfl

end Sweep

end Catalog

/-! ## Two inputs -/

/-- Neither of two texts is longer than 8 bytes, or both have the same length in bytes. -/
def SimilarLength (text other : String) : Prop :=
  (text.utf8ByteSize ≤ 8 ∧ other.utf8ByteSize ≤ 8) ∨ text.utf8ByteSize = other.utf8ByteSize

/-- The findings have the same names, with equally many texts for each, which are of similar lengths in turn. -/
def Findings.Alike (found other : Findings) : Prop :=
  List.Forall₂ (fun e f => e.1 = f.1 ∧ List.Forall₂ SimilarLength e.2 f.2) found.entries other.entries

section Alike

theorem redacted_eq_of_similar {text other : String} (h : SimilarLength text other) :
    redacted text = redacted other := by
  unfold redacted redactionLimit
  rcases h with ⟨htext, hother⟩ | hsame
  · rw [if_pos htext, if_pos hother]
  · rw [hsame]

theorem map_foundEntry_of_similar {texts others : List String} (h : List.Forall₂ SimilarLength texts others)
    (name : String) : texts.map (foundEntry .redacted name) = others.map (foundEntry .redacted name) := by
  induction h with
  | nil => rfl
  | @cons text other texts others hfirst hrest ih =>
    have hline : foundEntry .redacted name text = foundEntry .redacted name other := by
      unfold foundEntry Disclosure.shown
      rw [redacted_eq_of_similar hfirst]
    rw [List.map_cons, List.map_cons, hline, ih]

theorem Findings.Alike.get? {found other : Findings} (h : found.Alike other) (name : String) :
    List.Forall₂ SimilarLength ((found.get? name).getD []) ((other.get? name).getD []) := by
  unfold Findings.Alike at h
  unfold NameMap.get?
  generalize found.entries = entries, other.entries = others at h ⊢
  induction h with
  | nil => exact .nil
  | @cons e f entries others hfirst hrest ih =>
    rw [List.find?_cons, List.find?_cons, hfirst.1]
    cases decide (f.1 = name) with
    | true => exact hfirst.2
    | false => exact ih

theorem Disclosure.ofSetting_eq_redacted {setting : Option String}
    (h : ∀ value ∈ setting, value.toList.map Char.toLower ≠ "true".toList) : ofSetting setting = redacted := by
  cases setting with
  | none => rfl
  | some value => exact if_neg fun htrue => h value rfl (of_decide_eq_true htrue)

end Alike

/-- Matched texts are redacted unless the setting is `true`, in any case. However the entries of a sweep are searched
at the same time, there is then one line about a name for each text that was found for it, in their order, and no
other line, and the lines about a name are the same in another sweep with the catalog that finds texts of similar
lengths. A sweep that searches the entries in turn writes such lines. -/
theorem Catalog.match_lines_redacted {setting : Option String}
    (hsetting : ∀ value ∈ setting, value.toList.map Char.toLower ≠ "true".toList) (c : Catalog) {input other : String}
    {found others : Findings} (h : (c.sweep (.ofSetting setting) input).value = .ok found)
    (hother : (c.sweep (.ofSetting setting) other).value = .ok others) :
    c.Emits (.ofSetting setting) input
        ((c.sweep (.ofSetting setting) input).log.filter fun e => e.source = .matchSet) ∧
      (∀ log, c.Emits (.ofSetting setting) input log →
        (∀ line ∈ log, ∃ f ∈ found.entries, ∃ text ∈ f.2, line = foundEntry .redacted f.1 text) ∧
          ∀ name, log.filter (LogEntry.isAbout name) =
            ((found.get? name).getD []).map (foundEntry .redacted name)) ∧
      (found.Alike others → ∀ log log', c.Emits (.ofSetting setting) input log →
        c.Emits (.ofSetting setting) other log' → ∀ name,
          log.filter (LogEntry.isAbout name) = log'.filter (LogEntry.isAbout name)) := by
  rw [Disclosure.ofSetting_eq_redacted hsetting] at h hother ⊢
  refine ⟨emits_sweep h, fun log hlog => ⟨fun line hline => exists_of_mem_emits h hlog hline,
    filter_of_emits h hlog⟩, fun halike log log' hlog hlog' name => ?_⟩
  rw [filter_of_emits h hlog, filter_of_emits hother hlog']
  exact map_foundEntry_of_similar (halike.get? name) name

/-- The numbers are of the same length, and the words are both short. -/
theorem Catalog.match_lines_redacted_numbers : ∃ found others,
    ((ofList [("number", "[0-9]+"), ("word", "[a-z]+")]).sweep (.ofSetting (some "1")) "ab 123456789").value =
      .ok found ∧
    ((ofList [("number", "[0-9]+"), ("word", "[a-z]+")]).sweep (.ofSetting (some "1")) "987654321 cde").value =
      .ok others ∧
    found.Alike others ∧
    ∀ log log',
      (ofList [("number", "[0-9]+"), ("word", "[a-z]+")]).Emits (.ofSetting (some "1")) "ab 123456789" log →
      (ofList [("number", "[0-9]+"), ("word", "[a-z]+")]).Emits (.ofSetting (some "1")) "987654321 cde" log' →
      ∀ name, log.filter (LogEntry.isAbout name) = log'.filter (LogEntry.isAbout name) := by
  have hentries : (((ofList [("number", "[0-9]+"), ("word", "[a-z]+")]).sweep (.ofSetting (some "1"))
      "ab 123456789").value.map NameMap.entries).toOption = some [("number", ["123456789"]), ("word", ["ab"])] := by
    decide +kernel
  have hothers : (((ofList [("number", "[0-9]+"), ("word", "[a-z]+")]).sweep (.ofSetting (some "1"))
      "987654321 cde").value.map NameMap.entries).toOption = some [("number", ["987654321"]), ("word", ["cde"])] := by
    decide +kernel
  obtain ⟨found, h⟩ := (exists_sweep_iff (ofList [("number", "[0-9]+"), ("word", "[a-z]+")]) (.ofSetting (some "1"))
    "ab 123456789").2 (by decide +kernel)
  obtain ⟨others, hother⟩ := (exists_sweep_iff (ofList [("number", "[0-9]+"), ("word", "[a-z]+")])
    (.ofSetting (some "1")) "987654321 cde").2 (by decide +kernel)
  rw [h] at hentries
  rw [hother] at hothers
  have halike : found.Alike others := by
    unfold Findings.Alike SimilarLength
    rw [Option.some.inj hentries, Option.some.inj hothers]
    decide
  exact ⟨found, others, h, hother, halike, (match_lines_redacted (by decide) _ h hother).2.2 halike⟩

end TextPattern
