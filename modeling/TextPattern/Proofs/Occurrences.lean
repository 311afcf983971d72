import Mathlib.Data.List.Nodup
import TextPattern.Proofs.Preferred

/-!
# The occurrences in a text

* `Cursor.slice_infix` : what lies between two places of a part is a piece of the part;
* `Thread.Since text c t` : the run `t` began at the place `c` of the text;
* `Occurrence.Stands o text` : the occurrence is a part of the text, and its groups are pieces of it;
* `Occurrence.Before a b` : the occurrence `b` may come next behind `a`;
* `Program.First p text c last o` : the occurrence `o` may come first at or behind a place;
* `stands_of_mem_occurrences`, `isChain_occurrences`, `length_occurrences_le` : the occurrences in a text
  stand in it, one before the other, and are at most one more than its characters;
* `matches_of_mem_occurrences` : an occurrence of an expression is a part that the expression matches;
* `occurrences_ne_nil_iff` : a text has occurrences iff the program occurs in it.
-/

namespace TextPattern

/-! ## Slices -/

namespace Cursor

theorem takeTo_eq (stop : Nat) (rest : List Char) (offset : Nat) (taken : List Char) :
    takeTo stop rest offset taken = taken.reverse ++ takeTo stop rest offset [] := by
  induction rest generalizing offset taken with
  | nil => simp [takeTo]
  | cons a rest ih =>
    simp only [takeTo]
    split
    · rw [ih _ (a :: taken), ih _ [a]]
      simp
    · simp

theorem takeTo_cons (stop : Nat) (a : Char) (rest : List Char) (offset : Nat) :
    takeTo stop (a :: rest) offset [] =
      if offset < stop then a :: takeTo stop rest (offset + a.utf8Size) [] else [] := by
  rw [takeTo]
  split
  · rw [takeTo_eq]
    rfl
  · rfl

theorem takeTo_of_le {stop offset : Nat} (h : stop ≤ offset) (rest : List Char) :
    takeTo stop rest offset [] = [] := by
  cases rest with
  | nil => rfl
  | cons a rest => rw [takeTo_cons, if_neg (Nat.not_lt.2 h)]

theorem takeTo_append (mid post : List Char) (offset : Nat) :
    takeTo (offset + byteLength mid) (mid ++ post) offset [] = mid := by
  induction mid generalizing offset with
  | nil => exact takeTo_of_le (Nat.le_refl _) post
  | cons a mid ih =>
    have hsum : byteLength (a :: mid) = a.utf8Size + byteLength mid := by
      rw [← List.singleton_append, byteLength_append]
      simp [byteLength]
    have hpos := a.utf8Size_pos
    rw [List.cons_append, takeTo_cons, if_pos (by omega), hsum, ← Nat.add_assoc, ih]

theorem takeTo_mono {stop stop' : Nat} (h : stop ≤ stop') (rest : List Char) (offset : Nat) :
    takeTo stop rest offset [] <+: takeTo stop' rest offset [] := by
  induction rest generalizing offset with
  | nil => exact List.prefix_rfl
  | cons a rest ih =>
    rw [takeTo_cons, takeTo_cons]
    by_cases hlt : offset < stop
    · rw [if_pos hlt, if_pos (Nat.lt_of_lt_of_le hlt h)]
      exact (List.prefix_cons_inj a).2 (ih _)
    · rw [if_neg hlt]
      exact List.nil_prefix

theorem le_dropTo (start : Nat) (rest : List Char) (offset : Nat) :
    offset ≤ (dropTo start rest offset).2 := by
  induction rest generalizing offset with
  | nil => exact Nat.le_refl offset
  | cons a rest ih =>
    rw [dropTo]
    split
    · exact Nat.le_trans (Nat.le_add_right _ _) (ih _)
    · exact Nat.le_refl offset

theorem takeTo_dropTo_infix (start : Nat) {stop stop' : Nat} (h : stop ≤ stop') (rest : List Char)
    (offset : Nat) : takeTo stop (dropTo start rest offset).1 (dropTo start rest offset).2 [] <:+:
      takeTo stop' rest offset [] := by
  induction rest generalizing offset with
  | nil => exact List.infix_rfl
  | cons a rest ih =>
    by_cases hlt : offset < start
    · have hdrop : dropTo start (a :: rest) offset = dropTo start rest (offset + a.utf8Size) := by
        rw [dropTo, if_pos hlt]
      rw [hdrop, takeTo_cons]
      by_cases hstop : offset < stop'
      · rw [if_pos hstop]
        exact List.infix_cons (ih _)
      · have hle := le_dropTo start rest (offset + a.utf8Size)
        rw [takeTo_of_le (by omega)]
        exact List.nil_infix
    · rw [show dropTo start (a :: rest) offset = (a :: rest, offset) by rw [dropTo, if_neg hlt]]
      exact (takeTo_mono h _ _).isInfix

theorem dropTo_append (left rest : List Char) (offset : Nat) :
    dropTo (offset + byteLength left) (left ++ rest) offset = (rest, offset + byteLength left) := by
  induction left generalizing offset with
  | nil =>
    cases rest with
    | nil => rfl
    | cons a rest => simp [dropTo, byteLength]
  | cons a left ih =>
    have hsum : byteLength (a :: left) = a.utf8Size + byteLength left := by
      rw [← List.singleton_append, byteLength_append]
      simp [byteLength]
    have hpos := a.utf8Size_pos
    rw [List.cons_append, dropTo, if_pos (by omega), hsum, ← Nat.add_assoc, ih]

theorem slice_behind (pre left mid post : List Char) :
    (between pre (left ++ mid ++ post)).slice (byteLength (pre ++ left)) (byteLength (pre ++ left ++ mid)) =
      mid := by
  change takeTo _ (dropTo (byteLength (pre ++ left)) (left ++ mid ++ post) (byteLength pre)).1
    (dropTo (byteLength (pre ++ left)) (left ++ mid ++ post) (byteLength pre)).2 [] = mid
  rw [byteLength_append (pre ++ left), byteLength_append pre, List.append_assoc, dropTo_append, takeTo_append]

theorem slice_between (pre mid post : List Char) :
    (between pre (mid ++ post)).slice (byteLength pre) (byteLength (pre ++ mid)) = mid := by
  simpa using slice_behind pre [] mid post

theorem slice_infix (pre mid post : List Char) (lo : Nat) {hi : Nat} (h : hi ≤ byteLength (pre ++ mid)) :
    (between pre (mid ++ post)).slice lo hi <:+: mid := by
  have hinfix := takeTo_dropTo_infix lo h (mid ++ post) (byteLength pre)
  rwa [byteLength_append, takeTo_append] at hinfix

theorem In.of_next? {text : List Char} {c d : Cursor} (hc : c.In text) {a : Char}
    (h : c.next? = some (a, d)) : d.In text := by
  obtain ⟨pre, post, rfl, rfl⟩ := hc
  obtain ⟨rest, rfl, rfl⟩ := eq_of_next?_between h
  exact ⟨pre ++ [a], rest, by simp, rfl⟩

theorem In.eq_of_offset {text : List Char} {c d : Cursor} (hc : c.In text) (hd : d.In text)
    (h : c.offset = d.offset) : c = d := by
  obtain ⟨pre, post, rfl, rfl⟩ := hc
  obtain ⟨pre', post', htext, rfl⟩ := hd
  obtain ⟨rfl, rfl⟩ := eq_of_byteLength htext h
  rfl

/-- Of two places of a text, the text has a part from the one to the other. -/
theorem In.exists_part {text : List Char} {c d : Cursor} (hc : c.In text) (hd : d.In text)
    (h : c.offset ≤ d.offset) : ∃ pre mid post, text = pre ++ mid ++ post ∧
      c = between pre (mid ++ post) ∧ d = between (pre ++ mid) post := by
  obtain ⟨pre, rest, rfl, rfl⟩ := hc
  obtain ⟨pre', post, htext, rfl⟩ := hd
  change byteLength pre ≤ byteLength pre' at h
  rcases List.append_eq_append_iff.1 htext with ⟨mid, rfl, rfl⟩ | ⟨mid, rfl, rfl⟩
  · exact ⟨pre, mid, post, by rw [List.append_assoc], rfl, rfl⟩
  · rw [byteLength_append] at h
    obtain rfl := eq_nil_of_byteLength (show byteLength mid = 0 by omega)
    exact ⟨pre', [], rest, by simp, by simp, by simp⟩

end Cursor

/-! ## Runs -/

/-- The run began at the place `c` of the text: it is at or behind it, and at or behind all that it has
kept. -/
structure Thread.Since (text : List Char) (c : Cursor) (t : Thread) : Prop where
  place : t.place.In text
  le : c.offset ≤ t.place.offset
  saves : ∀ s ∈ t.saves, s.2 ≤ t.place.offset

theorem Thread.Since.follow {text : List Char} {c : Cursor} {t s : Thread} (h : t.Since text c) {i : Inst}
    (hs : s ∈ i.follow t) : s.Since text c := by
  have hplace : s.place.In text := h.place.of_goes (Inst.goes_of_mem_follow hs)
  unfold Inst.follow at hs
  split at hs
  · next set next =>
    split at hs
    · next a place hnext =>
      obtain ⟨rest, -, rfl⟩ := Cursor.next?_eq_some.1 hnext
      split at hs
      · obtain rfl := List.mem_singleton.1 hs
        exact ⟨hplace, Nat.le_add_right_of_le h.le, fun k hk => Nat.le_add_right_of_le (h.saves k hk)⟩
      · exact absurd hs List.not_mem_nil
    · exact absurd hs List.not_mem_nil
  · split at hs
    · obtain rfl := List.mem_singleton.1 hs
      exact ⟨hplace, h.le, h.saves⟩
    · exact absurd hs List.not_mem_nil
  · simp only [List.mem_cons, List.not_mem_nil, or_false] at hs
    rcases hs with rfl | rfl
    · exact ⟨hplace, h.le, h.saves⟩
    · exact ⟨hplace, h.le, h.saves⟩
  · obtain rfl := List.mem_singleton.1 hs
    exact ⟨hplace, h.le, h.saves⟩
  · obtain rfl := List.mem_singleton.1 hs
    exact ⟨hplace, h.le, List.forall_mem_cons.2 ⟨Nat.le_refl _, h.saves⟩⟩
  · exact absurd hs List.not_mem_nil

namespace Program

variable {p : Program} {text : List Char} {seen : Visited} {c start : Cursor} {t : Thread}

/-- What holds of all runs to be tried and of those that continue a run of which it holds, holds of the one that
is found, which accepts. -/
theorem explore_invariant {P : Thread → Prop} (hstep : ∀ s, P s → ∀ u ∈ p.following s, P u) {rounds : Nat}
    {stack : List Thread} (hstack : ∀ s ∈ stack, P s) (h : (p.explore rounds seen stack).1 = some t) :
    P t ∧ p.code[t.pc]? = some .accept := by
  induction rounds generalizing seen stack with
  | zero => cases h
  | succ rounds ih =>
    cases stack with
    | nil => cases h
    | cons s stack =>
      obtain ⟨hs, hrest⟩ := List.forall_mem_cons.1 hstack
      simp only [explore] at h
      split at h
      · exact ih hrest h
      · split at h
        · exact ih hrest h
        · next haccept =>
          obtain rfl := Option.some.inj h
          exact ⟨hs, haccept⟩
        · next i _ hi =>
          have hnext : ∀ u ∈ i.follow s, P u := fun u hu => hstep s hs u (mem_following.2 ⟨i, hi, hu⟩)
          exact ih (List.forall_mem_append.2 ⟨hnext, hrest⟩) h

/-- What holds of all runs that began at a place holds of the one that is found. -/
theorem explore_since {rounds : Nat} {stack : List Thread} (hstack : ∀ s ∈ stack, s.Since text c)
    (h : (p.explore rounds seen stack).1 = some t) : t.Since text c := by
  refine (explore_invariant (fun s hs u hu => ?_) hstack h).1
  obtain ⟨i, -, hu⟩ := mem_following.1 hu
  exact hs.follow hu

/-- A search finds a place of the text at or behind its own, and a run that began there. -/
theorem search?_since (hp : p.Contained) (hpos : 0 < p.code.size) (hc : c.In text)
    (h : p.search? (p.roundsFor text.length) c = some (start, t)) :
    start.In text ∧ c.offset ≤ start.offset ∧ t.Since text start := by
  obtain ⟨pre, rest, rfl, rfl⟩ := hc
  obtain ⟨mid, post, rfl, rfl, hfound, -⟩ := search?_eq_some hp hpos h
  have hin : (Cursor.between (pre ++ mid) post).In (pre ++ (mid ++ post)) :=
    ⟨pre ++ mid, post, (List.append_assoc ..).symm, rfl⟩
  refine ⟨hin, ?_, explore_since (List.forall_mem_singleton.2 ⟨hin, Nat.le_refl _, by simp⟩) hfound⟩
  change byteLength pre ≤ byteLength (pre ++ mid)
  rw [byteLength_append]
  exact Nat.le_add_right _ _

theorem search?_ends (hp : p.Contained) (hpos : 0 < p.code.size) (hc : c.In text)
    (h : p.search? (p.roundsFor text.length) c = some (start, t)) : p.Ends 0 start t.place := by
  obtain ⟨pre, rest, rfl, rfl⟩ := hc
  obtain ⟨mid, post, rfl, rfl, hfound, -⟩ := search?_eq_some hp hpos h
  obtain ⟨s, hs, hends⟩ := explore_sound hfound
  rwa [List.mem_singleton.1 hs] at hends

end Program

/-! ## Occurrences -/

namespace Occurrence

/-- The occurrence is a part of the text, which its first slot has, and what is captured is a piece of that
part. -/
def Stands (o : Occurrence) (text : List Char) : Prop :=
  ∃ pre mid post, text = pre ++ mid ++ post ∧ o.start = byteLength pre ∧ o.stop = byteLength (pre ++ mid) ∧
    o.slots.head? = some (some ⟨o.start, o.stop, mid⟩) ∧
    ∀ captured, some captured ∈ o.slots → captured.text <:+: mid

/-- The second occurrence may come next behind the first: it starts at or behind its end and, if it is
empty, behind its end. -/
structure Before (a b : Occurrence) : Prop where
  stop_le : a.stop ≤ b.start
  start_lt : a.start < b.start
  stop_lt : b.start = b.stop → a.stop < b.start

end Occurrence

theorem Thread.Since.stands {text : List Char} {start : Cursor} {t : Thread} (h : t.Since text start)
    (hstart : start.In text) (slots : Nat) : (t.occurrence start slots).Stands text := by
  obtain ⟨pre, mid, post, htext, rfl, hplace⟩ := hstart.exists_part h.place h.le
  have hstop : t.place.offset = byteLength (pre ++ mid) := by rw [hplace]; rfl
  have hwhole : (Cursor.between pre (mid ++ post)).slice (byteLength pre) t.place.offset = mid := by
    rw [hstop, Cursor.slice_between]
  refine ⟨pre, mid, post, htext, rfl, hstop, congrArg (fun whole => some (some (Capture.mk _ _ whole))) hwhole,
    fun captured hcaptured => ?_⟩
  rcases List.mem_cons.1 hcaptured with heq | hgroup
  · rw [Option.some.inj heq]
    change (Cursor.between pre (mid ++ post)).slice (byteLength pre) t.place.offset <:+: mid
    rw [hwhole]
  · obtain ⟨g, -, hg⟩ := List.mem_map.1 hgroup
    simp only [Thread.capture?, Option.bind_eq_bind, Option.bind_eq_some_iff, Option.pure_def,
      Option.some.injEq] at hg
    obtain ⟨lo, -, hi, hhi, rfl⟩ := hg
    obtain ⟨s, hs, rfl⟩ := Option.map_eq_some_iff.1 hhi
    have hle := h.saves s (List.mem_of_find?_eq_some hs)
    exact Cursor.slice_infix pre mid post lo (hstop ▸ hle)

theorem Thread.length_occurrence (t : Thread) (start : Cursor) {slots : Nat} (h : 0 < slots) :
    (t.occurrence start slots).slots.length = slots := by
  simp only [occurrence, List.length_cons, List.length_map, List.length_range]
  omega

namespace Program

variable {p : Program} {text : List Char} {c start : Cursor} {t : Thread}

theorem occurrencesFrom_found (rounds searches : Nat) (c : Cursor) (last : Option Nat)
    (found : List Occurrence) : p.occurrencesFrom rounds searches c last found =
      found.reverse ++ p.occurrencesFrom rounds searches c last [] := by
  induction searches generalizing c last found with
  | zero => simp [occurrencesFrom]
  | succ searches ih =>
    simp only [occurrencesFrom]
    split
    · simp
    · split
      · split
        · simp
        · exact ih _ _ _
      · rw [ih _ _ (_ :: found), ih _ _ [_]]
        simp

/-- Every occurrence is that of a run that a search from some place of the text finds. -/
theorem exists_search_of_mem (hp : p.Contained) (hpos : 0 < p.code.size) {searches : Nat} (hc : c.In text)
    {last : Option Nat} {o : Occurrence}
    (h : o ∈ p.occurrencesFrom (p.roundsFor text.length) searches c last []) : ∃ d start t, d.In text ∧
      p.search? (p.roundsFor text.length) d = some (start, t) ∧ o = t.occurrence start p.slots := by
  induction searches generalizing c last with
  | zero => exact absurd h List.not_mem_nil
  | succ searches ih =>
    simp only [occurrencesFrom] at h
    split at h
    · exact absurd h List.not_mem_nil
    · next start t hfound =>
      obtain ⟨-, -, ht⟩ := search?_since hp hpos hc hfound
      split at h
      · split at h
        · exact absurd h List.not_mem_nil
        · next a d hnext => exact ih (hc.of_next? hnext) h
      · rw [occurrencesFrom_found, List.reverse_singleton, List.singleton_append, List.mem_cons] at h
        rcases h with rfl | h
        · exact ⟨c, start, t, hc, hfound, rfl⟩
        · exact ih ht.place h

/-- The occurrence may come first at or behind the place `c` when `last` is the end of the one before: it is
not empty at that end, and it is behind `c` if what a search finds there is empty and at that end. -/
structure First (p : Program) (text : List Char) (c : Cursor) (last : Option Nat) (o : Occurrence) : Prop where
  le : c.offset ≤ o.start
  stop_ne : o.start = o.stop → last ≠ some o.stop
  lt : ∀ t, p.search? (p.roundsFor text.length) c = some (c, t) → t.place.offset = c.offset →
    last = some c.offset → c.offset < o.start

theorem First.before (hp : p.Contained) (hpos : 0 < p.code.size) (hc : c.In text)
    (hfound : p.search? (p.roundsFor text.length) c = some (start, t)) {b : Occurrence}
    (hb : p.First text t.place (some t.place.offset) b) : (t.occurrence start p.slots).Before b := by
  obtain ⟨hstart, -, ht⟩ := search?_since hp hpos hc hfound
  refine ⟨hb.le, ?_, fun hempty => ?_⟩
  · rcases Nat.lt_or_eq_of_le ht.le with hlt | heq
    · exact Nat.lt_of_lt_of_le hlt hb.le
    · -- An empty occurrence: the next search begins at its place and finds it again.
      have hsame : start = t.place := hstart.eq_of_offset ht.place heq
      have hagain := search?_start hp hpos hc hfound
      rw [hsame] at hagain
      exact Nat.lt_of_le_of_lt ht.le (hb.lt t hagain rfl rfl)
  · have hne := hb.stop_ne hempty
    have hle := hb.le
    rw [Ne, Option.some.injEq] at hne
    change t.place.offset < b.start
    omega

end Program

theorem Expr.slots_pos (e : Expr) : 0 < e.slots := by
  induction e with
  | cat a b iha _ => exact Nat.lt_of_lt_of_le iha (Nat.le_max_left _ _)
  | alt a b iha _ => exact Nat.lt_of_lt_of_le iha (Nat.le_max_left _ _)
  | rep e _ _ ih => exact ih
  | group i e ih => exact Nat.lt_of_lt_of_le ih (Nat.le_max_right _ _)
  | empty | chars _ | look _ => exact Nat.one_pos

namespace Expr

variable {text : List Char}

theorem contained_program (e : Expr) : e.program.Contained := fun _ _ _ _ _ => lt_size_of_goes

theorem size_program_pos (e : Expr) : 0 < e.program.code.size := by
  simp [program]

/-- Every occurrence of an expression is that of a run that a search of the text finds. -/
theorem exists_search_of_mem_occurrences {e : Expr} {o : Occurrence} (h : o ∈ e.program.occurrences text) :
    ∃ (start : Cursor) (t : Thread), start.In text ∧ t.Since text start ∧ e.Matches start t.place ∧
      o = t.occurrence start e.slots := by
  obtain ⟨d, start, t, hd, hfound, rfl⟩ := Program.exists_search_of_mem e.contained_program e.size_program_pos
    ⟨[], text, rfl, rfl⟩ h
  obtain ⟨hstart, -, ht⟩ := Program.search?_since e.contained_program e.size_program_pos hd hfound
  have hends := Program.search?_ends e.contained_program e.size_program_pos hd hfound
  exact ⟨start, t, hstart, ht, (e.ends_program start t.place).1 hends, rfl⟩

theorem stands_of_mem_occurrences {e : Expr} {o : Occurrence} (h : o ∈ e.program.occurrences text) :
    o.Stands text ∧ o.slots.length = e.slots := by
  obtain ⟨start, t, hstart, ht, -, rfl⟩ := exists_search_of_mem_occurrences h
  exact ⟨ht.stands hstart e.slots, t.length_occurrence start e.slots_pos⟩

/-- Every occurrence of an expression is a part of the text that the expression matches there. -/
theorem matches_of_mem_occurrences {e : Expr} {o : Occurrence} (h : o ∈ e.program.occurrences text) :
    ∃ pre mid post, text = pre ++ mid ++ post ∧ o.start = byteLength pre ∧
      o.slots.head? = some (some ⟨o.start, o.stop, mid⟩) ∧
      e.Matches (.between pre (mid ++ post)) (.between (pre ++ mid) post) := by
  obtain ⟨start, t, hstart, ht, hmatches, rfl⟩ := exists_search_of_mem_occurrences h
  obtain ⟨pre, mid, post, rfl, hlo, hhi, hhead, -⟩ := ht.stands hstart e.slots
  have hpre : (Cursor.between pre (mid ++ post)).In (pre ++ mid ++ post) :=
    ⟨pre, mid ++ post, List.append_assoc .., rfl⟩
  have hfrom : start = .between pre (mid ++ post) := hstart.eq_of_offset hpre hlo
  have hto : t.place = .between (pre ++ mid) post := ht.place.eq_of_offset ⟨pre ++ mid, post, rfl, rfl⟩ hhi
  rw [hfrom, hto] at hmatches
  exact ⟨pre, mid, post, rfl, hlo, hhead, hmatches⟩

end Expr

theorem Program.occurrences_ne_nil_iff (p : Program) (text : List Char) :
    p.occurrences text ≠ [] ↔ p.occursIn text = true := by
  rw [occursIn_eq, occurrences]
  rw [show 2 * text.length + 3 = 2 * text.length + 2 + 1 from rfl, occurrencesFrom]
  cases p.search? (p.roundsFor text.length) (.ofText text) with
  | none => simp
  | some found =>
    obtain ⟨start, t⟩ := found
    have hfirst : ¬ (start.offset = t.place.offset ∧ none = some t.place.offset) := by simp
    simp only [if_neg hfirst]
    rw [occurrencesFrom_found]
    simp

end TextPattern
