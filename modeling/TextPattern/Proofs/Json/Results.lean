import TextPattern.Command.Run
import TextPattern.Proofs.Json.RoundTrip
import TextPattern.Proofs.NameMap

/-!
# Results as JSON documents

* `mapM_map_eq_some` : items that are read one by one;
* `MatchSet.ofText?_write` : a match set that is written is read again, if its offsets are not too large;
* `MatchSet.read_back` : either layout gives such a match set back, and no other has its text;
* `NameMap.ofList_entries` : a map is the map of its entries;
* `Findings.ofText?` : the findings that a JSON text denotes, `Findings.ofText?_write` : those that are written.
-/

namespace TextPattern

open Json (Layout isGap read?_write)

theorem mapM_map_eq_some {α β : Type} {write : α → β} {read : β → Option α} {items : List α}
    (h : ∀ item ∈ items, read (write item) = some item) : (items.map write).mapM read = some items := by
  induction items with
  | nil => rfl
  | cons item items ih =>
    obtain ⟨hitem, hitems⟩ := List.forall_mem_cons.1 h
    rw [List.map_cons, List.mapM_cons, hitem, ih hitems]
    rfl

section Blank

variable {l : Layout} {gap : List Char}

/-! ## Match sets -/

namespace MatchResult

theorem slotOfJson?_slotToJson (slot : Option String) : slotOfJson? (slotToJson slot) = some slot := by
  cases slot with
  | none => rfl
  | some text => rw [slotToJson, slotOfJson?, String.ofList_toList]

/-- The offsets fit a word of 64 bits. -/
def Fits (m : MatchResult) : Prop := m.start < offsetBound ∧ m.stop < offsetBound

instance : DecidablePred Fits := fun _ => inferInstanceAs (Decidable (_ ∧ _))

theorem ofJson?_toJson {m : MatchResult} (hm : m.Fits) : ofJson? m.toJson = some m := by
  obtain ⟨hstart, hstop⟩ := hm
  have hgroups : m.toJson.field? "groups".toList = some (.list (m.groups.map slotToJson)) := rfl
  have hfirst : m.toJson.field? "start".toList = some (.number m.start) := rfl
  have hlast : m.toJson.field? "end".toList = some (.number m.stop) := rfl
  have hslots : (m.groups.map slotToJson).mapM slotOfJson? = some m.groups :=
    mapM_map_eq_some fun slot _ => slotOfJson?_slotToJson slot
  rw [ofJson?, hgroups, hfirst, hlast]
  simp [itemsOfJson?, offsetOfJson?, hslots, hstart, hstop]

end MatchResult

namespace MatchSet

theorem ofJson?_toJson {s : MatchSet} (hs : ∀ m ∈ s.results, m.Fits) : ofJson? s.toJson = some s := by
  have hresults : (s.results.map MatchResult.toJson).mapM MatchResult.ofJson? = some s.results :=
    mapM_map_eq_some fun m hm => MatchResult.ofJson?_toJson (hs m hm)
  rw [ofJson?, toJson, MatchResult.itemsOfJson?]
  simp [hresults]

theorem ofText?_write (hl : l.IsBlank) {s : MatchSet} (hs : ∀ m ∈ s.results, m.Fits)
    (hgap : ∀ c ∈ gap, isGap c = true) : ofText? (s.toJson.write l ++ gap) = some s := by
  rw [ofText?, read?_write hl _ hgap]
  exact ofJson?_toJson hs

/-- Two match sets with one text are the same. -/
theorem eq_of_write (hl : l.IsBlank) {s other : MatchSet} (hs : ∀ m ∈ s.results, m.Fits)
    (hother : ∀ m ∈ other.results, m.Fits) (h : other.toJson.write l = s.toJson.write l) : other = s := by
  have hread := ofText?_write hl hs (List.forall_mem_nil _)
  have hread' := ofText?_write hl hother (List.forall_mem_nil _)
  rw [h, hread] at hread'
  exact (Option.some.inj hread').symm

/-- A match set whose offsets fit a word of 64 bits is read back from its text in either layout, and no other has
that text. So it is not lost which slots are absent and which are empty. -/
theorem read_back {s : MatchSet} (hs : ∀ m ∈ s.results, m.Fits) :
    ofText? (s.toJson.write .compact) = some s ∧ ofText? (s.toJson.write .indented) = some s ∧
      ∀ other : MatchSet, (∀ m ∈ other.results, m.Fits) →
        (other.toJson.write .compact = s.toJson.write .compact → other = s) ∧
          (other.toJson.write .indented = s.toJson.write .indented → other = s) := by
  have hread : ∀ {l : Layout}, l.IsBlank → ofText? (s.toJson.write l) = some s := by
    intro l hl
    have hwrite := ofText?_write hl hs (List.forall_mem_nil _)
    rwa [List.append_nil] at hwrite
  exact ⟨hread Json.isBlank_compact, hread Json.isBlank_indented, fun other hother =>
    ⟨eq_of_write Json.isBlank_compact hs hother, eq_of_write Json.isBlank_indented hs hother⟩⟩

/-- A text with characters that are escaped or beyond 16 bits, an absent slot and an empty one, and the largest
offset. -/
theorem read_back_slots : ∃ s other : MatchSet,
    s = ⟨[⟨[some "\"\\\n\u0000\x7f😀", none, some ""], 0, 0xFFFFFFFFFFFFFFFF⟩]⟩ ∧
    other = ⟨[⟨[some "\"\\\n\u0000\x7f😀", some "", none], 0, 0xFFFFFFFFFFFFFFFF⟩]⟩ ∧
    (∀ m ∈ s.results, m.Fits) ∧ ofText? (s.toJson.write .compact) = some s ∧
    ofText? (s.toJson.write .indented) = some s ∧ other.toJson.write .compact ≠ s.toJson.write .compact := by
  have hfits : ∀ m ∈ [MatchResult.mk [some "\"\\\n\u0000\x7f😀", none, some ""] 0 0xFFFFFFFFFFFFFFFF], m.Fits := by
    decide +kernel
  obtain ⟨hcompact, hindented, hother⟩ := read_back (s := ⟨_⟩) hfits
  refine ⟨_, _, rfl, rfl, hfits, hcompact, hindented, fun hsame => ?_⟩
  exact absurd ((hother _ (by decide +kernel)).1 hsame) (by decide +kernel)

end MatchSet

/-! ## Findings -/

/-- A map is the map of its entries. -/
theorem NameMap.ofList_entries {α : Type} (m : NameMap α) : NameMap.ofList m.entries = m := by
  apply eq_of_get?
  intro name
  have hnone : (empty : NameMap α).get? name = none := rfl
  rw [ofList, get?_insertAll m.nodup_names, hnone, Option.or_none]
  rfl

namespace Findings

def textOfJson? : Json → Option String
  | .text t => some (String.ofList t)
  | _ => none

def entryOfJson? (field : List Char × Json) : Option (String × List String) := do
  return (String.ofList field.1, ← (← MatchResult.itemsOfJson? field.2).mapM textOfJson?)

/-- The findings of a JSON value; of two fields with one name the later counts. -/
def ofJson? : Json → Option Findings
  | .object fields => do return NameMap.ofList (← fields.mapM entryOfJson?)
  | _ => none

def ofText? (text : List Char) : Option Findings := Json.read? text >>= ofJson?

theorem ofJson?_toJson (f : Findings) : ofJson? f.toJson = some f := by
  have hentries : (f.entries.map fun e => (e.1.toList, Json.list (e.2.map fun t => .text t.toList))).mapM
      entryOfJson? = some f.entries := by
    refine mapM_map_eq_some fun e _ => ?_
    have htexts : (e.2.map fun t => Json.text t.toList).mapM textOfJson? = some e.2 :=
      mapM_map_eq_some fun t _ => by rw [textOfJson?, String.ofList_toList]
    rw [entryOfJson?, MatchResult.itemsOfJson?]
    simp [htexts]
  rw [toJson, ofJson?, hentries]
  simp [NameMap.ofList_entries]

theorem ofText?_write (hl : l.IsBlank) (f : Findings) (hgap : ∀ c ∈ gap, isGap c = true) :
    ofText? (f.toJson.write l ++ gap) = some f := by
  rw [ofText?, read?_write hl _ hgap]
  exact ofJson?_toJson f

end Findings

end Blank

end TextPattern
