import Mathlib.Data.List.Forall2
import TextPattern.Catalog.Reader
import TextPattern.Proofs.Yaml.Events

/-!
# Reading quoted entries

* `Gives`, `exists_load_of_gives` : the items that events without anchors give;
* `readEntries_of_entryItems`, `readDocument_of_fieldItems` : what entries are read as;
* `readCatalog_document` : a document of entries is read as these, the missing text as an empty one.
-/

namespace TextPattern.Yaml

/-! ## Items -/

/-- An event without an anchor gives an item. -/
inductive Gives : Event.Kind → Item.Kind → Prop
  | scalar (text : String) (plain : Bool) (tag : Option String) :
      Gives (.scalar text plain ⟨none, tag⟩) (.scalar text plain tag)
  | mapping (tag : Option String) : Gives (.mapping ⟨none, tag⟩) .mapping
  | mappingEnd : Gives .mappingEnd .mappingEnd

def entryItems (e : List Char × Option (List Char)) : List Item.Kind :=
  [.scalar (String.ofList e.1) false none, .scalar (valueScalar e.2).1 (valueScalar e.2).2 none]

def fieldItems (entries : List (List Char × Option (List Char))) : List Item.Kind :=
  [.mapping, .scalar "patterns" true none, .mapping] ++ entries.flatMap entryItems ++ [.mappingEnd, .mappingEnd]

section Items

variable {fault : Option Fault} {events rest : List Event} {items : List Item.Kind} {l : Loading}
  {entries : List (List Char × Option (List Char))} {ending : Tail}

theorem exists_load_of_gives (h : List.Forall₂ Gives (events.map Event.kind) items) :
    ∃ l' : Loading, l'.items.map Item.kind = items.reverse ++ l.items.map Item.kind ∧
      ∀ rest, Loading.load fault (events ++ rest) l = Loading.load fault rest l' := by
  induction events generalizing l items with
  | nil =>
    cases h
    exact ⟨l, rfl, fun _ => rfl⟩
  | cons e events ih =>
    cases h with
    | @cons _ i _ items hgives h =>
      have hadd : ∀ rest, Loading.load fault (e :: events ++ rest) l =
          Loading.load fault (events ++ rest) (l.add i e.mark) := by
        intro rest
        rw [List.cons_append, Loading.load]
        generalize e.kind = kind at hgives
        cases hgives <;> rfl
      obtain ⟨l', hitems, hload⟩ := @ih items (l.add i e.mark) h
      refine ⟨l', ?_, fun rest => (hadd rest).trans (hload rest)⟩
      rw [hitems, List.reverse_cons, List.append_assoc]
      rfl

theorem gives_fieldEvents (entries : List (List Char × Option (List Char))) :
    List.Forall₂ Gives (Reader.fieldEvents entries) (fieldItems entries) := by
  have hentries : List.Forall₂ Gives (entries.flatMap Reader.entryEvents) (entries.flatMap entryItems) := by
    induction entries with
    | nil => exact .nil
    | cons e entries ih =>
      exact .cons (.scalar _ _ none) (.cons (.scalar _ _ none) ih)
  have hends : List.Forall₂ Gives [.mappingEnd, .mappingEnd] [.mappingEnd, .mappingEnd] :=
    .cons .mappingEnd (.cons .mappingEnd .nil)
  exact .cons (.mapping none) (.cons (.scalar _ _ none) (.cons (.mapping none) (List.rel_append hentries hends)))

/-- A document of entries is the only one of its text, and has no fault. -/
theorem firstDocument_document (h : IsDocument entries ending) :
    ∃ d, firstDocument (documentChars entries ending) = (d, false) ∧ d.items.map Item.kind = fieldItems entries ∧
      d.fault = none := by
  obtain ⟨events, hevents, hkinds⟩ := Reader.eventsOf_document h
  obtain ⟨front, behind, rfl, hfront, hbehind⟩ := List.map_eq_append_iff.1 hkinds
  obtain ⟨start, body, rfl, hstart, hbody⟩ := List.map_eq_append_iff.1 hfront
  obtain ⟨s₁, start, rfl, hs₁, hstart⟩ := List.map_eq_cons_iff.1 hstart
  obtain ⟨s₂, start, rfl, hs₂, hstart⟩ := List.map_eq_cons_iff.1 hstart
  obtain rfl := List.map_eq_nil_iff.1 hstart
  obtain ⟨e₁, behind, rfl, he₁, hbehind⟩ := List.map_eq_cons_iff.1 hbehind
  obtain ⟨e₂, behind, rfl, he₂, hbehind⟩ := List.map_eq_cons_iff.1 hbehind
  obtain rfl := List.map_eq_nil_iff.1 hbehind
  obtain ⟨l, hitems, hload⟩ := @exists_load_of_gives none body (fieldItems entries) {} (by
    rw [hbody]
    exact gives_fieldEvents entries)
  have hall : Loading.load none ([s₁, s₂] ++ body ++ [e₁, e₂]) {} = (l.finish none, [e₂]) := by
    rw [List.append_assoc, List.cons_append, Loading.load, hs₁]
    dsimp only
    rw [List.cons_append, Loading.load, hs₂]
    dsimp only
    rw [List.nil_append, hload, Loading.load, he₁]
  refine ⟨l.finish none, ?_, ?_, rfl⟩
  · unfold firstDocument
    rw [hevents]
    dsimp only
    rw [hall]
    dsimp only
    rw [List.head?_cons, Option.any_some, he₂]
    rfl
  · rw [Loading.finish, List.map_reverse, hitems, List.map_nil, List.append_nil, List.reverse_reverse]

end Items

/-! ## Entries -/

def readAs (e : List Char × Option (List Char)) : String × String :=
  (String.ofList e.1, (e.2.map String.ofList).getD "")

section Entries

variable {d : Document} {path : List String} {around : Mark} {items : List Item} {kinds : List Item.Kind}
  {entries : List (List Char × Option (List Char))} {ending : Tail}

theorem target_of_scalar {i : Item} {text : String} {plain : Bool} {tag : Option String}
    (h : i.kind = .scalar text plain tag) : target d i = i := by
  rw [target, h]

theorem entryText_of_value {i : Item} {name : String} {value : Option (List Char)}
    (h : i.kind = .scalar (valueScalar value).1 (valueScalar value).2 none) :
    entryText path around name i = .ok (value.map String.ofList) := by
  rw [entryText, h]
  cases value <;> rfl

theorem readEntries_of_entryItems (h : items.map Item.kind = entries.flatMap entryItems ++ .mappingEnd :: kinds)
    {rounds : Nat} (hrounds : entries.length < rounds) (done : List (String × String)) :
    ∃ rest, rest.map Item.kind = kinds ∧
      readEntries d path around rounds items done = .ok (done.reverse ++ entries.map readAs, rest) := by
  induction entries generalizing items rounds done with
  | nil =>
    obtain ⟨last, rest, rfl, hlast, hrest⟩ := List.map_eq_cons_iff.1 h
    obtain ⟨rounds, rfl⟩ := Nat.exists_eq_add_one_of_ne_zero (Nat.ne_of_gt hrounds)
    refine ⟨rest, hrest, ?_⟩
    rw [readEntries, if_pos hlast, List.map_nil, List.append_nil]
    rfl
  | cons e entries ih =>
    obtain ⟨key, items, rfl, hkey, h⟩ := List.map_eq_cons_iff.1 h
    obtain ⟨value, items, rfl, hvalue, h⟩ := List.map_eq_cons_iff.1 h
    obtain ⟨rounds, rfl⟩ := Nat.exists_eq_add_one_of_ne_zero (Nat.ne_of_gt (Nat.zero_lt_of_lt hrounds))
    obtain ⟨rest, hrest, hread⟩ := ih h (Nat.lt_of_succ_lt_succ hrounds) (readAs e :: done)
    refine ⟨rest, hrest, ?_⟩
    have hends : key.kind ≠ .mappingEnd := fun hends => Item.Kind.noConfusion (hkey.symm.trans hends)
    rw [readEntries, if_neg hends, target_of_scalar hkey, scalarText, hkey]
    dsimp only [bind, Except.bind]
    rw [target_of_scalar hvalue, entryText_of_value hvalue]
    refine hread.trans ?_
    rw [List.reverse_cons, List.append_assoc]
    rfl

theorem readDocument_of_fieldItems (h : d.items.map Item.kind = fieldItems entries) :
    readDocument d = .ok (entries.map readAs) := by
  obtain ⟨first, items, hitems, hfirst, h⟩ := List.map_eq_cons_iff.1 h
  obtain ⟨key, items, rfl, hkey, h⟩ := List.map_eq_cons_iff.1 h
  obtain ⟨value, items, rfl, hvalue, h⟩ := List.map_eq_cons_iff.1 h
  have h : items.map Item.kind = entries.flatMap entryItems ++ [.mappingEnd, .mappingEnd] := h
  have hlength : entries.length < items.length := by
    have hlength := congrArg List.length h
    have hscalars := length_flatMap_const (show ∀ e, (entryItems e).length = 2 from fun _ => rfl) entries
    rw [List.length_map, List.length_append, List.length_cons] at hlength
    omega
  obtain ⟨behind, hbehind, hread⟩ :=
    @readEntries_of_entryItems d [keyName key] value.mark items _ entries h _ hlength []
  obtain ⟨last, behind, rfl, hlast, -⟩ := List.map_eq_cons_iff.1 hbehind
  have hpatterns : readPatterns d [keyName key] value items = .ok (entries.map readAs, last :: behind) := by
    rw [readPatterns, hvalue]
    exact hread
  have hends : key.kind ≠ .mappingEnd := fun hends => Item.Kind.noConfusion (hkey.symm.trans hends)
  have hfield : ¬"patterns" ≠ patternsField := fun hne => hne rfl
  rw [readDocument, hitems]
  dsimp only
  rw [hfirst, List.length_cons, List.length_cons]
  dsimp only
  rw [readFields, if_neg hends, target_of_scalar hkey, scalarText, hkey]
  dsimp only [bind, Except.bind]
  rw [if_neg hfield, if_neg (by decide)]
  rw [hvalue]
  dsimp only
  rw [hpatterns]
  dsimp only
  rw [readFields.eq_def]
  exact if_pos hlast

theorem readCatalog_document (h : IsDocument entries ending) :
    readCatalog (documentChars entries ending) = .ok (entries.map readAs) := by
  obtain ⟨d, hd, hitems, hfault⟩ := firstDocument_document h
  rw [readCatalog, hd]
  dsimp only [bind, Except.bind]
  rw [readDocument_of_fieldItems hitems, hfault]
  rfl

end Entries

end TextPattern.Yaml
