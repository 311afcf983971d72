import Mathlib.Data.List.Nodup
import TextPattern.NameMap

/-!
# Members of a map from names

* `mem_insertSorted_iff`, `NameMap.mem_insert` : what an insertion leaves;
* `NameMap.get?_eq_some` : looking up finds the members;
* `NameMap.eq_of_mem`, `NameMap.eq_of_get?` : a map is known by its members, and by what looking up finds;
* `NameMap.mem_ofList` : the members of a map of entries are among them;
* `NameMap.get?_insert`, `NameMap.get?_insertAll`, `NameMap.get?_ofList` : looking up what was added to a map.
-/

namespace TextPattern

variable {α : Type}

theorem mem_insertSorted_iff {name : String} {value : α} {entries : List (String × α)}
    (h : entries.Pairwise (·.1 < ·.1)) {e : String × α} :
    e ∈ insertSorted name value entries ↔ e = (name, value) ∨ (e ∈ entries ∧ e.1 ≠ name) := by
  induction entries with
  | nil => simp [insertSorted]
  | cons head rest ih =>
    obtain ⟨other, old⟩ := head
    obtain ⟨hhead, hrest⟩ := List.pairwise_cons.1 h
    simp only [insertSorted]
    split
    · next hlt =>
      have hne : ∀ x ∈ (other, old) :: rest, x.1 ≠ name := by
        intro x hx
        rcases List.mem_cons.1 hx with rfl | hx
        · exact (String.ne_of_lt hlt).symm
        · exact (String.ne_of_lt (String.lt_trans hlt (hhead x hx))).symm
      rw [List.mem_cons]
      exact or_congr_right ⟨fun hx => ⟨hx, hne e hx⟩, And.left⟩
    · split
      · next heq =>
        subst heq
        have hne : ∀ x ∈ rest, x.1 ≠ name := fun x hx => (String.ne_of_lt (hhead x hx)).symm
        simp only [List.mem_cons]
        refine or_congr_right ⟨fun hx => ⟨.inr hx, hne e hx⟩, ?_⟩
        rintro ⟨rfl | hx, hother⟩
        · exact absurd rfl hother
        · exact hx
      · next hne =>
        simp only [List.mem_cons, ih hrest]
        constructor
        · rintro (rfl | rfl | ⟨hx, hother⟩)
          · exact .inr ⟨.inl rfl, fun heq => hne heq.symm⟩
          · exact .inl rfl
          · exact .inr ⟨.inr hx, hother⟩
        · rintro (rfl | ⟨rfl | hx, hother⟩)
          · exact .inr (.inl rfl)
          · exact .inl rfl
          · exact .inr (.inr ⟨hx, hother⟩)

namespace NameMap

variable {m n : NameMap α} {name : String} {value : α}

theorem mem_insert {e : String × α} :
    e ∈ (m.insert name value).entries ↔ e = (name, value) ∨ (e ∈ m.entries ∧ e.1 ≠ name) :=
  mem_insertSorted_iff m.sorted

theorem nodup_names (m : NameMap α) : (m.entries.map Prod.fst).Nodup :=
  (List.pairwise_map.2 m.sorted).imp String.ne_of_lt

/-- Looking up a name finds its entry. -/
theorem get?_eq_some : m.get? name = some value ↔ (name, value) ∈ m.entries := by
  simp only [get?, Option.map_eq_some_iff]
  constructor
  · rintro ⟨e, hfind, rfl⟩
    obtain rfl : e.1 = name := by simpa using List.find?_some hfind
    exact List.mem_of_find?_eq_some hfind
  · intro hmem
    cases hfind : m.entries.find? (fun e => decide (e.1 = name)) with
    | none => exact absurd (decide_eq_true rfl) (List.find?_eq_none.1 hfind _ hmem)
    | some e =>
      have hname : e.1 = name := by simpa using List.find?_some hfind
      have heq : e = (name, value) :=
        List.inj_on_of_nodup_map m.nodup_names (List.mem_of_find?_eq_some hfind) hmem hname
      exact ⟨e, rfl, congrArg Prod.snd heq⟩

theorem eq_of_mem (h : ∀ e, e ∈ m.entries ↔ e ∈ n.entries) : m = n := by
  have hperm : m.entries.Perm n.entries :=
    (List.perm_ext_iff_of_nodup (List.Nodup.of_map _ m.nodup_names)
      (List.Nodup.of_map _ n.nodup_names)).2 h
  have hentries : m.entries = n.entries :=
    hperm.eq_of_pairwise (fun _ _ _ _ hlt hgt => absurd (String.lt_trans hlt hgt) (String.lt_irrefl _))
      m.sorted n.sorted
  cases m
  cases n
  simpa using hentries

theorem eq_of_get? (h : ∀ name, m.get? name = n.get? name) : m = n := by
  apply eq_of_mem
  intro e
  have hname := h e.1
  rw [show e = (e.1, e.2) from rfl, ← get?_eq_some, ← get?_eq_some, hname]

/-- An insertion is found under its name, and all else as before. -/
theorem get?_insert (m : NameMap α) (name other : String) (value : α) :
    (m.insert name value).get? other = if name = other then some value else m.get? other := by
  apply Option.ext
  intro found
  rw [get?_eq_some, mem_insert]
  by_cases h : name = other
  · subst h
    simp [eq_comm]
  · rw [if_neg h, get?_eq_some]
    simp [Ne.symm h]

theorem mem_ofList {entries : List (String × α)} {e : String × α} (h : e ∈ (ofList entries).entries) :
    e ∈ entries := by
  have hadd : ∀ m : NameMap α, e ∈ (m.insertAll entries).entries → e ∈ m.entries ∨ e ∈ entries := by
    clear h
    induction entries with
    | nil => exact fun m h => .inl h
    | cons head entries ih =>
      intro m h
      rcases ih (m.insert head.1 head.2) h with h | h
      · rcases mem_insert.1 h with rfl | ⟨h, -⟩
        · exact .inr List.mem_cons_self
        · exact .inl h
      · exact .inr (List.mem_cons_of_mem _ h)
  exact (hadd empty h).resolve_left List.not_mem_nil

/-- Of entries that are added to a map, the last with a name is found, and else what the map has under that name. -/
theorem get?_insertAll_last (entries : List (String × α)) (m : NameMap α) (name : String) :
    (m.insertAll entries).get? name = (entries.reverse.lookup name).or (m.get? name) := by
  unfold insertAll
  induction entries generalizing m with
  | nil => rfl
  | cons e entries ih =>
    rw [List.foldl_cons, ih, get?_insert, List.reverse_cons, List.lookup_append, Option.or_assoc]
    by_cases h : e.1 = name
    · rw [if_pos h, ← h, List.lookup_cons_self]
      rfl
    · rw [if_neg h, List.lookup_cons, beq_eq_false_iff_ne.2 (Ne.symm h)]
      rfl

theorem get?_ofList (entries : List (String × α)) (name : String) :
    (ofList entries).get? name = entries.reverse.lookup name := by
  rw [ofList, get?_insertAll_last]
  exact Option.or_none

/-- Of entries with distinct names that are added to a map, the one with a name is found, and else what the
map has under that name. -/
theorem get?_insertAll {entries : List (String × α)} (hnames : (entries.map Prod.fst).Nodup)
    (m : NameMap α) (name : String) : (m.insertAll entries).get? name =
      ((entries.find? fun e => e.1 = name).map (·.2)).or (m.get? name) := by
  unfold insertAll
  induction entries generalizing m with
  | nil => rfl
  | cons e entries ih =>
    rw [List.map_cons, List.nodup_cons] at hnames
    obtain ⟨hnew, hnames⟩ := hnames
    rw [List.foldl_cons, ih hnames, get?_insert]
    by_cases h : e.1 = name
    · have hnone : entries.find? (fun e => e.1 = name) = none := by
        rw [List.find?_eq_none]
        intro f hf hname
        exact hnew (List.mem_map.2 ⟨f, hf, (of_decide_eq_true hname).trans h.symm⟩)
      rw [hnone, List.find?_cons, decide_eq_true h, if_pos h]
      rfl
    · rw [List.find?_cons, decide_eq_false h, if_neg h]

end NameMap

end TextPattern
