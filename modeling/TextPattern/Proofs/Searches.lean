import TextPattern.Proofs.Extract
import TextPattern.Proofs.Slotless

/-!
# The three searches of a pattern

A pattern is asked whether it occurs, which texts it matches, and what its groups capture. Only the last of
these searches keeps slots.

* `Occurrence.text?` : the text of the whole occurrence;
* `fullMatches_eq`, `fullMatches_ne_nil_iff` : the texts that a pattern matches, by its occurrences;
* `text?_of_mem_occurrences` : every occurrence of a compiled pattern has its text;
* `searches_agree` : the three searches find the same occurrences.
-/

namespace TextPattern

def Occurrence.text? (o : Occurrence) : Option (List Char) := o.slots.head?.join.map (·.text)

theorem Occurrence.text?_slotless (o : Occurrence) : o.slotless.text? = o.text? := by
  unfold text? slotless
  cases o.slots with
  | nil => rfl
  | cons slot slots => rfl

namespace Pattern

theorem fullMatches_eq (p : Pattern) (input : String) :
    p.fullMatches input = (p.occurrences input).map fun o => String.ofList (o.text?.getD []) := by
  have htext : ∀ o : Occurrence, String.ofList (o.slotless.text?.getD []) = String.ofList (o.text?.getD []) := by
    intro o
    rw [o.text?_slotless]
  show (p.program.spans input.toList).map (fun o => String.ofList (o.text?.getD [])) = _
  rw [Program.spans_eq, List.map_map]
  exact List.map_congr_left fun o _ => htext o

theorem fullMatches_ne_nil_iff (p : Pattern) (input : String) :
    p.fullMatches input ≠ [] ↔ p.occursIn input = true := by
  rw [fullMatches_eq, Ne, List.map_eq_nil_iff]
  exact p.program.occurrences_ne_nil_iff input.toList

variable {pattern : String} {o : Options} {p : Pattern}

theorem text?_of_mem_occurrences (hp : compile pattern o = .ok p) {input : String} {occ : Occurrence}
    (h : occ ∈ p.occurrences input) : ∃ text, occ.text? = some text := by
  obtain ⟨e, -, rfl⟩ := compile_eq_ok.1 hp
  obtain ⟨pre, mid, post, -, -, -, hhead, -⟩ := (Expr.stands_of_mem_occurrences h).1
  refine ⟨mid, ?_⟩
  rw [Occurrence.text?, hhead]
  rfl

/-- A pattern is found to occur iff the search with slots finds an occurrence; the texts that the search for
texts finds are those in slot 0 of the occurrences, in their order. So a pattern is found in an input iff all
that is extracted from it is not nothing. -/
theorem searches_agree (hp : compile pattern o = .ok p) (input : String) :
    (p.occursIn input = true ↔ p.occurrences input ≠ []) ∧
      (p.fullMatches input).map some = (p.occurrences input).map (fun occ => occ.text?.map String.ofList) ∧
      (TextPattern.occursIn pattern o input = .ok true ↔
        ∃ set, extractAll pattern o input = .ok set ∧ set.results ≠ []) := by
  have hfind : p.occursIn input = true ↔ p.occurrences input ≠ [] :=
    (p.program.occurrences_ne_nil_iff input.toList).symm
  refine ⟨hfind, ?_, ?_⟩
  · rw [fullMatches_eq, List.map_map]
    apply List.map_congr_left
    intro occ hocc
    obtain ⟨text, htext⟩ := text?_of_mem_occurrences hp hocc
    show some (String.ofList (occ.text?.getD [])) = occ.text?.map String.ofList
    rw [htext]
    rfl
  · have hresults : (p.matchSet input).results ≠ [] ↔ p.occursIn input = true := by
      rw [hfind, matchSet, Ne, List.map_eq_nil_iff]
    constructor
    · intro h
      obtain ⟨q, hq, hoccurs⟩ := Syntax.bind_eq_ok.1 h
      obtain rfl := Except.ok.inj ((validateAndCompile_eq_ok.1 hq).2.symm.trans hp)
      exact ⟨_, extractAll_eq_ok.2 ⟨q, hq, rfl⟩, hresults.2 (Except.ok.inj hoccurs)⟩
    · rintro ⟨set, hset, hne⟩
      obtain ⟨q, hq, rfl⟩ := extractAll_eq_ok.1 hset
      obtain rfl := Except.ok.inj ((validateAndCompile_eq_ok.1 hq).2.symm.trans hp)
      rw [TextPattern.occursIn, hq, Syntax.ok_bind, hresults.1 hne]

/-- Empty matches between two-byte characters, and a group that takes part in only some of the matches. -/
theorem searches_agree_accents : ∃ p, compile "x*|(é)" .none = .ok p ∧
    (p.occursIn "aéxxé" = true ↔ p.occurrences "aéxxé" ≠ []) ∧
    (p.fullMatches "aéxxé").map some = (p.occurrences "aéxxé").map (fun occ => occ.text?.map String.ofList) ∧
    (TextPattern.occursIn "x*|(é)" .none "aéxxé" = .ok true ↔
      ∃ set, extractAll "x*|(é)" .none "aéxxé" = .ok set ∧ set.results ≠ []) := by
  have hvalid : isValid "x*|(é)" = true := by decide +kernel
  obtain ⟨p, hp⟩ := exists_compile_of_isValid hvalid
  exact ⟨p, hp, searches_agree hp "aéxxé"⟩

end Pattern

end TextPattern
