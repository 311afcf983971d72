import TextPattern.Proofs.Yaml.Entries
import TextPattern.Yaml.Document

/-!
# Events of quoted entries

* `Reader.Emits r kinds r'`, `exists_events_of_emits` : the events that lead from a reader to another;
* `Reader.Has r kinds expected behind` : the tokens of a reader and what it expects;
* `Has.emits_key` and so on : the event of each kind of token;
* `eventsOf_document` : the events of a document of entries.
-/

namespace TextPattern.Yaml.Reader

/-! ## Events in a row -/

/-- A reader gives events of these kinds, of which none ends the stream, and becomes another. -/
inductive Emits : Reader → List Event.Kind → Reader → Prop
  | none (r : Reader) : Emits r [] r
  | more {r r' r'' : Reader} {e : Event} {kinds : List Event.Kind} (hnext : r.next = .ok (e, r'))
      (hkind : e.kind ≠ .streamEnd) (h : Emits r' kinds r'') : Emits r (e.kind :: kinds) r''

section Emits

variable {r r' r'' : Reader} {kinds kinds' : List Event.Kind} {e : Event}

theorem Emits.trans (h : Emits r kinds r') (h' : Emits r' kinds' r'') : Emits r (kinds ++ kinds') r'' := by
  induction h with
  | none r => exact h'
  | more hnext hkind h ih => exact .more hnext hkind (ih h')

theorem Emits.one {kind : Event.Kind} {mark : Mark} (hnext : r.next = .ok (⟨kind, mark⟩, r'))
    (hkind : kind ≠ .streamEnd) : Emits r [kind] r' := .more hnext hkind (.none r')

/-- The events of a reader begin with those that lead to another. -/
theorem exists_events_of_emits (h : Emits r kinds r') : ∃ front : List Event, front.map Event.kind = kinds ∧
    ∀ rounds, events (front.length + rounds) r = (front ++ (events rounds r').1, (events rounds r').2) := by
  induction h with
  | none r =>
    refine ⟨[], rfl, fun rounds => ?_⟩
    rw [List.length_nil, Nat.zero_add]
    rfl
  | @more r r' r'' e kinds hnext hkind h ih =>
    obtain ⟨front, hfront, hevents⟩ := ih
    refine ⟨e :: front, congrArg (e.kind :: ·) hfront, fun rounds => ?_⟩
    rw [List.length_cons, Nat.add_right_comm, events, hnext]
    simp only
    rw [if_neg hkind, hevents]
    rfl

end Emits

/-! ## Single events -/

/-- A reader has tokens of these kinds and expects something next, and something behind the open nodes. -/
structure Has (r : Reader) (kinds : List Token.Kind) (expected : Expected) (behind : List Expected) : Prop where
  kinds_eq : r.tokens.map Token.kind = kinds
  expected_eq : r.expected = expected
  behind_eq : r.behind = behind

section Has

variable {r : Reader} {kinds : List Token.Kind} {kind : Token.Kind} {expected : Expected} {behind : List Expected}
  {text : String} {plain : Bool} {opened : Mark}

theorem Has.expect (h : r.Has kinds expected behind) (e : Expected) : (r.expect e).Has kinds e behind :=
  ⟨h.kinds_eq, rfl, h.behind_eq⟩

theorem Has.expectBehind (h : r.Has kinds expected behind) (e : Expected) :
    (r.expectBehind e).Has kinds expected (e :: behind) :=
  ⟨h.kinds_eq, h.expected_eq, congrArg (e :: ·) h.behind_eq⟩

theorem Has.pop {e : Expected} (h : r.Has kinds expected (e :: behind)) : r.pop.Has kinds e behind := by
  rw [Reader.pop, h.behind_eq]
  exact ⟨h.kinds_eq, rfl, rfl⟩

theorem Has.exists_peek (h : r.Has (kind :: kinds) expected behind) :
    ∃ t, r.peek = .ok t ∧ t.kind = kind ∧ r.skip.Has kinds expected behind := by
  obtain ⟨t, tokens, htokens, hkind, hkinds⟩ := List.map_eq_cons_iff.1 h.kinds_eq
  refine ⟨t, ?_, hkind, ?_, h.expected_eq, h.behind_eq⟩
  · rw [peek, htokens]
  · rw [skip, htokens]
    exact hkinds

section Node

variable {t : Token} (isBlock dashes : Bool)

theorem node_scalar (hpeek : r.peek = .ok t) (hkind : t.kind = .scalar text plain) :
    r.node isBlock dashes = .ok (⟨.scalar text plain {}, t.start⟩, r.pop.skip) := by
  unfold Reader.node written content
  rw [hpeek]
  dsimp only [bind, Except.bind]
  rw [hkind]
  dsimp only [pure, Except.pure]
  rw [hpeek]
  dsimp only
  rw [hkind]
  rfl

theorem node_blockMapping (hpeek : r.peek = .ok t) (hkind : t.kind = .blockMapping) :
    r.node true dashes = .ok (⟨.mapping {}, t.start⟩, r.skip.expect (.blockKey t.start)) := by
  unfold Reader.node written content
  rw [hpeek]
  dsimp only [bind, Except.bind]
  rw [hkind]
  dsimp only [pure, Except.pure]
  rw [hpeek]
  dsimp only
  rw [hkind]
  rfl

end Node

theorem Has.emits_streamStart (h : r.Has (.streamStart :: kinds) .streamStart behind) :
    ∃ r', Emits r [.streamStart] r' ∧ r'.Has kinds (.document true) behind := by
  obtain ⟨t, hpeek, hkind, hskip⟩ := h.exists_peek
  have hnext : r.next = .ok (⟨.streamStart, t.start⟩, r.skip.expect (.document true)) := by
    rw [next, h.expected_eq]
    dsimp only
    rw [hpeek]
    rfl
  exact ⟨_, .one hnext Event.Kind.noConfusion, hskip.expect _⟩

/-- A document that is not marked starts with its first node. -/
theorem Has.emits_documentStart (h : r.Has (.blockMapping :: kinds) (.document true) behind) :
    ∃ r', Emits r [.documentStart] r' ∧ r'.Has (.blockMapping :: kinds) .node (.documentEnd :: behind) := by
  obtain ⟨t, hpeek, hkind, -⟩ := h.exists_peek
  have hnext : r.next = .ok (⟨.documentStart, t.start⟩, (r.expectBehind .documentEnd).expect .node) := by
    rw [next, h.expected_eq]
    dsimp only
    rw [document, if_pos rfl, hpeek]
    dsimp only [bind, Except.bind]
    rw [hkind]
    rfl
  exact ⟨_, .one hnext Event.Kind.noConfusion, (h.expectBehind _).expect _⟩

theorem Has.emits_mapping (h : r.Has (.blockMapping :: kinds) .node behind) :
    ∃ r' opened, Emits r [.mapping {}] r' ∧ r'.Has kinds (.blockKey opened) behind := by
  obtain ⟨t, hpeek, hkind, hskip⟩ := h.exists_peek
  have hnext : r.next = .ok (⟨.mapping {}, t.start⟩, r.skip.expect (.blockKey t.start)) := by
    rw [next, h.expected_eq]
    exact node_blockMapping false hpeek hkind
  exact ⟨_, t.start, .one hnext Event.Kind.noConfusion, hskip.expect _⟩

theorem Has.emits_key (h : r.Has (.key :: .scalar text plain :: kinds) (.blockKey opened) behind) :
    ∃ r', Emits r [.scalar text plain {}] r' ∧ r'.Has kinds (.blockValue opened) behind := by
  obtain ⟨t, hpeek, hkind, hskip⟩ := h.exists_peek
  have hkey := hskip.expectBehind (.blockValue opened)
  obtain ⟨u, hpeek', hkind', -⟩ := hkey.exists_peek
  obtain ⟨-, -, -, hbehind⟩ := hkey.pop.exists_peek
  have hnext : r.next =
      .ok (⟨.scalar text plain {}, u.start⟩, (r.skip.expectBehind (.blockValue opened)).pop.skip) := by
    rw [next, h.expected_eq]
    dsimp only
    rw [blockKey, hpeek]
    dsimp only [bind, Except.bind]
    rw [hkind]
    dsimp only
    rw [show r.skip.peek = .ok u from hpeek']
    dsimp only
    rw [hkind']
    exact node_scalar true true hpeek' hkind'
  exact ⟨_, .one hnext Event.Kind.noConfusion, hbehind⟩

/-- The value behind a colon is a node, behind which a key is expected. -/
theorem Has.next_value (h : r.Has (.value :: kind :: kinds) (.blockValue opened) behind)
    (hkind : kind ≠ .key ∧ kind ≠ .value ∧ kind ≠ .blockEnd) :
    r.next = (r.skip.expectBehind (.blockKey opened)).node true true := by
  obtain ⟨t, hpeek, ht, hskip⟩ := h.exists_peek
  obtain ⟨u, hpeek', rfl, -⟩ := hskip.exists_peek
  rw [next, h.expected_eq]
  dsimp only
  rw [blockValue, hpeek]
  dsimp only [bind, Except.bind]
  rw [ht]
  dsimp only
  rw [hpeek']
  dsimp only
  split
  · next heq => exact absurd heq hkind.1
  · next heq => exact absurd heq hkind.2.1
  · next heq => exact absurd heq hkind.2.2
  · rfl

theorem Has.emits_value (h : r.Has (.value :: .scalar text plain :: kinds) (.blockValue opened) behind) :
    ∃ r', Emits r [.scalar text plain {}] r' ∧ r'.Has kinds (.blockKey opened) behind := by
  obtain ⟨-, -, -, hskip⟩ := h.exists_peek
  have hvalue := hskip.expectBehind (.blockKey opened)
  obtain ⟨u, hpeek, hkind, -⟩ := hvalue.exists_peek
  obtain ⟨-, -, -, hbehind⟩ := hvalue.pop.exists_peek
  have hnode := h.next_value ⟨Token.Kind.noConfusion, Token.Kind.noConfusion, Token.Kind.noConfusion⟩
  have hnext := hnode.trans (node_scalar true true hpeek hkind)
  exact ⟨_, .one hnext Event.Kind.noConfusion, hbehind⟩

theorem Has.emits_value_mapping (h : r.Has (.value :: .blockMapping :: kinds) (.blockValue opened) behind) :
    ∃ r' opened', Emits r [.mapping {}] r' ∧ r'.Has kinds (.blockKey opened') (.blockKey opened :: behind) := by
  obtain ⟨-, -, -, hskip⟩ := h.exists_peek
  have hvalue := hskip.expectBehind (.blockKey opened)
  obtain ⟨u, hpeek, hkind, hbehind⟩ := hvalue.exists_peek
  have hnode := h.next_value ⟨Token.Kind.noConfusion, Token.Kind.noConfusion, Token.Kind.noConfusion⟩
  have hnext := hnode.trans (node_blockMapping true hpeek hkind)
  exact ⟨_, u.start, .one hnext Event.Kind.noConfusion, hbehind.expect _⟩

theorem Has.emits_mappingEnd {e : Expected} (h : r.Has (.blockEnd :: kinds) (.blockKey opened) (e :: behind)) :
    ∃ r', Emits r [.mappingEnd] r' ∧ r'.Has kinds e behind := by
  obtain ⟨t, hpeek, hkind, -⟩ := h.exists_peek
  obtain ⟨-, -, -, hbehind⟩ := h.pop.exists_peek
  have hnext : r.next = .ok (⟨.mappingEnd, t.start⟩, r.pop.skip) := by
    rw [next, h.expected_eq]
    dsimp only
    rw [blockKey, hpeek]
    dsimp only [bind, Except.bind]
    rw [hkind]
    rfl
  exact ⟨_, .one hnext Event.Kind.noConfusion, hbehind⟩

theorem Has.emits_documentEnd (h : r.Has (.streamEnd :: kinds) .documentEnd behind) :
    ∃ r', Emits r [.documentEnd] r' ∧ r'.Has (.streamEnd :: kinds) (.document false) behind := by
  obtain ⟨t, hpeek, hkind, -⟩ := h.exists_peek
  have hnext : r.next = .ok (⟨.documentEnd, t.start⟩, r.expect (.document false)) := by
    rw [next, h.expected_eq]
    dsimp only
    rw [documentEnd, hpeek]
    dsimp only [bind, Except.bind]
    rw [hkind]
    rfl
  exact ⟨_, .one hnext Event.Kind.noConfusion, h.expect _⟩

theorem Has.events_streamEnd (h : r.Has (.streamEnd :: kinds) (.document false) behind) (rounds : Nat) :
    ∃ e, events (rounds + 1) r = ([e], none) ∧ e.kind = .streamEnd := by
  obtain ⟨t, tokens, htokens, hkind, -⟩ := List.map_eq_cons_iff.1 h.kinds_eq
  have hends : r.skipDocumentEnds = r := by
    have hfirst : ¬decide (t.kind = .documentEnd) = true := by
      rw [hkind]
      exact of_decide_eq_false rfl
    rw [skipDocumentEnds, htokens, List.dropWhile_cons, if_neg hfirst, ← htokens]
  have hnext : r.next = .ok (⟨.streamEnd, t.start⟩, r.skip.expect .nothing) := by
    rw [next, h.expected_eq]
    dsimp only
    rw [document, if_neg Bool.false_ne_true, hends, peek, htokens]
    dsimp only [bind, Except.bind]
    rw [hkind]
    rfl
  refine ⟨⟨.streamEnd, t.start⟩, ?_, rfl⟩
  rw [events, hnext]
  exact if_pos rfl

end Has

/-! ## The events of a document -/

section Document

variable {r : Reader} {kinds : List Token.Kind} {behind : List Expected} {opened : Mark}
  {entries : List (List Char × Option (List Char))} {ending : Tail}

def entryEvents (e : List Char × Option (List Char)) : List Event.Kind :=
  [.scalar (String.ofList e.1) false {}, .scalar (valueScalar e.2).1 (valueScalar e.2).2 {}]

def fieldEvents (entries : List (List Char × Option (List Char))) : List Event.Kind :=
  [.mapping {}, .scalar "patterns" true {}, .mapping {}] ++ entries.flatMap entryEvents ++ [.mappingEnd, .mappingEnd]

/-- Each entry gives a scalar for its name and one for its text. -/
theorem Has.emits_entries (h : r.Has (entries.flatMap entryKinds ++ kinds) (.blockKey opened) behind) :
    ∃ r', Emits r (entries.flatMap entryEvents) r' ∧ r'.Has kinds (.blockKey opened) behind := by
  induction entries generalizing r with
  | nil => exact ⟨r, .none r, h⟩
  | cons e entries ih =>
    rw [List.flatMap_cons, List.append_assoc] at h
    obtain ⟨r₁, hkey, h⟩ := h.emits_key
    obtain ⟨r₂, hvalue, h⟩ := h.emits_value
    obtain ⟨r₃, hrest, h⟩ := ih h
    exact ⟨r₃, (hkey.trans hvalue).trans hrest, h⟩

theorem eventsOf_document (h : IsDocument entries ending) : ∃ events,
    eventsOf (documentChars entries ending) = (events, none) ∧
      events.map Event.kind = [.streamStart, .documentStart] ++ fieldEvents entries ++ [.documentEnd, .streamEnd] := by
  obtain ⟨tokens, htokens, hkinds⟩ := tokensOf_document h
  have hreader : Has ⟨tokens, .endOfText, .streamStart, [], []⟩ _ .streamStart [] := ⟨hkinds, rfl, rfl⟩
  rw [List.append_assoc] at hreader
  obtain ⟨r₁, h₁, hreader⟩ := hreader.emits_streamStart
  obtain ⟨r₂, h₂, hreader⟩ := hreader.emits_documentStart
  obtain ⟨r₃, opened, h₃, hreader⟩ := hreader.emits_mapping
  obtain ⟨r₄, h₄, hreader⟩ := hreader.emits_key
  obtain ⟨r₅, opened', h₅, hreader⟩ := hreader.emits_value_mapping
  obtain ⟨r₆, h₆, hreader⟩ := hreader.emits_entries
  obtain ⟨r₇, h₇, hreader⟩ := hreader.emits_mappingEnd
  obtain ⟨r₈, h₈, hreader⟩ := hreader.emits_mappingEnd
  obtain ⟨r₉, h₉, hreader⟩ := hreader.emits_documentEnd
  have hemits := h₁.trans <| h₂.trans <| h₃.trans <| h₄.trans <| h₅.trans <| h₆.trans <| h₇.trans <| h₈.trans h₉
  obtain ⟨front, hfront, hevents⟩ := exists_events_of_emits hemits
  obtain ⟨rounds, hrounds⟩ : ∃ rounds, 6 * tokens.length + 6 = front.length + (rounds + 1) := by
    have htokens := congrArg List.length hkinds
    have hevents := congrArg List.length hfront
    have hkeys := length_flatMap_const (show ∀ e, (entryKinds e).length = 4 from fun _ => rfl) entries
    have hscalars := length_flatMap_const (show ∀ e, (entryEvents e).length = 2 from fun _ => rfl) entries
    simp only [fieldKinds, List.length_map, List.length_append, List.length_cons, List.length_nil] at htokens hevents
    refine ⟨6 * tokens.length + 5 - front.length, ?_⟩
    omega
  obtain ⟨last, hlast, hkind⟩ := hreader.events_streamEnd rounds
  refine ⟨front ++ [last], ?_, ?_⟩
  · unfold eventsOf
    rw [htokens]
    dsimp only
    rw [Option.getD_none, hrounds, hevents, hlast]
  · rw [List.map_append, hfront]
    simp [fieldEvents, hkind]

end Document

end TextPattern.Yaml.Reader
