import TextPattern.Proofs.Occurrences

/-!
# Expressions that read one part from a place

* `partsFrom part? skip before text` : the parts of a text that are read one behind the other, where `part?` tells
  which part is read from a place;
* `exists_append_of_mem_partsFrom`, `pairwise_partsFrom`, `mem_partsFrom_of_free` : what is read is a part of the
  text, the parts come one behind the other, and a part over whose start no other reaches is read;
* `wholeOf r` : a part with its byte offsets;
* `Expr.Reads e part?` : what the expression matches from a place is the part that is read there;
* `Expr.Reads.occursIn_iff`, `Expr.Reads.occurrences` : a text has an occurrence iff a part is read somewhere, and
  its occurrences are the parts that are read one behind the other;
* `Expr.inTurn_singles`, `Expr.rounds_chars` : what characters match one behind the other.
-/

namespace TextPattern

/-! ## Parts -/

/-- The parts of a text that are read from left to right, each with all that stands before it. Where no part is
read, a character is passed over. `skip` characters belong to the part that was read last. -/
def partsFrom (part? : Option Char → List Char → Option (List Char)) :
    (skip : Nat) → (before text : List Char) → List (List Char × List Char)
  | _, _, [] => []
  | skip + 1, before, c :: rest => partsFrom part? skip (before ++ [c]) rest
  | 0, before, c :: rest =>
    match part? before.getLast? (c :: rest) with
    | some part => (before, part) :: partsFrom part? (part.length - 1) (before ++ [c]) rest
    | none => partsFrom part? 0 (before ++ [c]) rest

/-- A part of a text with its byte offsets, given with all that stands before it. -/
def wholeOf (r : List Char × List Char) : Capture := ⟨byteLength r.1, byteLength (r.1 ++ r.2), r.2⟩

section Parts

variable {part? : Option Char → List Char → Option (List Char)} {before part passed rest : List Char}

theorem partsFrom_skip (skipped : List Char) :
    partsFrom part? skipped.length before (skipped ++ rest) = partsFrom part? 0 (before ++ skipped) rest := by
  induction skipped generalizing before with
  | nil => simp
  | cons c skipped ih =>
    rw [List.length_cons, List.cons_append, partsFrom, ih]
    simp

theorem partsFrom_part (hne : part ≠ []) (h : part? before.getLast? (part ++ rest) = some part) :
    partsFrom part? 0 before (part ++ rest) = (before, part) :: partsFrom part? 0 (before ++ part) rest := by
  obtain ⟨c, cs, rfl⟩ := List.exists_cons_of_ne_nil hne
  rw [List.cons_append] at h ⊢
  rw [partsFrom, h]
  simp [partsFrom_skip]

/-- What is read begins behind the characters that are skipped, with all of the text before it. -/
theorem exists_append_of_mem_partsFrom {skip : Nat} {text : List Char} {r : List Char × List Char}
    (h : r ∈ partsFrom part? skip before text) : ∃ passed rest, text = passed ++ rest ∧ r.1 = before ++ passed ∧
      skip ≤ passed.length ∧ part? r.1.getLast? rest = some r.2 := by
  induction text generalizing skip before with
  | nil => exact absurd h (by simp [partsFrom])
  | cons c rest ih =>
    have hnext : ∀ {n}, r ∈ partsFrom part? n (before ++ [c]) rest → ∃ passed behind, c :: rest = passed ++ behind ∧
        r.1 = before ++ passed ∧ n + 1 ≤ passed.length ∧ part? r.1.getLast? behind = some r.2 := by
      intro n h
      obtain ⟨passed, behind, rfl, hbefore, hle, hpart⟩ := ih h
      refine ⟨c :: passed, behind, rfl, ?_, Nat.succ_le_succ hle, hpart⟩
      rw [hbefore, List.append_assoc, List.singleton_append]
    cases skip with
    | succ skip => exact hnext h
    | zero =>
      have hbehind : ∀ {n}, r ∈ partsFrom part? n (before ++ [c]) rest → ∃ passed behind, c :: rest = passed ++ behind ∧
          r.1 = before ++ passed ∧ 0 ≤ passed.length ∧ part? r.1.getLast? behind = some r.2 := by
        intro n h
        obtain ⟨passed, behind, htext, hbefore, -, hpart⟩ := hnext h
        exact ⟨passed, behind, htext, hbefore, Nat.zero_le _, hpart⟩
      rw [partsFrom] at h
      split at h
      · next part hpart =>
        rcases List.mem_cons.1 h with rfl | h
        · exact ⟨[], c :: rest, rfl, (List.append_nil before).symm, Nat.zero_le _, hpart⟩
        · exact hbehind h
      · exact hbehind h

theorem exists_of_mem_partsFrom {skip : Nat} {text : List Char} {r : List Char × List Char}
    (h : r ∈ partsFrom part? skip before text) : ∃ prev rest, part? prev rest = some r.2 := by
  obtain ⟨passed, rest, -, -, -, hpart⟩ := exists_append_of_mem_partsFrom h
  exact ⟨_, rest, hpart⟩

/-- Of two parts that are read, the second begins at or behind the end of the first. -/
theorem pairwise_partsFrom (skip : Nat) (before text : List Char) :
    (partsFrom part? skip before text).Pairwise fun a b => a.1.length + a.2.length ≤ b.1.length := by
  induction text generalizing skip before with
  | nil => simp [partsFrom]
  | cons c rest ih =>
    cases skip with
    | succ skip => exact ih skip _
    | zero =>
      rw [partsFrom]
      split
      · next part hpart =>
        refine List.pairwise_cons.2 ⟨fun r hr => ?_, ih _ _⟩
        obtain ⟨passed, behind, -, hbefore, hle, -⟩ := exists_append_of_mem_partsFrom hr
        rw [hbefore]
        simp only [List.length_append, List.length_singleton]
        omega
      · exact ih 0 _

/-- A part is read where it begins if no part that begins before it, behind the characters that are skipped,
reaches over that place. -/
theorem mem_partsFrom_of_free {skip : Nat} (hskip : skip ≤ passed.length) (hne : rest ≠ [])
    (hpart : part? (before ++ passed).getLast? rest = some part)
    (hfree : ∀ left right other, passed = left ++ right → right ≠ [] →
      part? (before ++ left).getLast? (right ++ rest) = some other → other.length ≤ right.length) :
    (before ++ passed, part) ∈ partsFrom part? skip before (passed ++ rest) := by
  induction passed generalizing skip before with
  | nil =>
    obtain rfl : skip = 0 := Nat.le_zero.1 hskip
    obtain ⟨c, rest, rfl⟩ := List.exists_cons_of_ne_nil hne
    rw [List.append_nil] at hpart ⊢
    rw [List.nil_append, partsFrom, hpart]
    exact List.mem_cons_self
  | cons c passed ih =>
    have hbehind : ∀ n, n ≤ passed.length →
        (before ++ c :: passed, part) ∈ partsFrom part? n (before ++ [c]) (passed ++ rest) := by
      intro n hn
      have happend : ∀ left, before ++ [c] ++ left = before ++ c :: left := fun left => by simp
      rw [← happend passed] at hpart ⊢
      refine ih hn hpart fun left right other heq hright hother => ?_
      rw [happend] at hother
      exact hfree (c :: left) right other (by rw [heq, List.cons_append]) hright hother
    rw [List.cons_append]
    cases skip with
    | succ skip => exact hbehind skip (Nat.le_of_succ_le_succ hskip)
    | zero =>
      rw [partsFrom]
      split
      · next other hother =>
        rw [← List.append_nil before, ← List.cons_append] at hother
        have hle := hfree [] (c :: passed) other rfl (List.cons_ne_nil c passed) hother
        rw [List.length_cons] at hle
        exact List.mem_cons_of_mem _ (hbehind _ (by omega))
      · exact hbehind 0 (Nat.zero_le _)

theorem partsFrom_pass (h : ∀ left right, passed = left ++ right → right ≠ [] →
      part? (before ++ left).getLast? (right ++ rest) = none) :
    partsFrom part? 0 before (passed ++ rest) = partsFrom part? 0 (before ++ passed) rest := by
  induction passed generalizing before with
  | nil => simp
  | cons c passed ih =>
    have hhere := h [] (c :: passed) rfl (List.cons_ne_nil c passed)
    rw [List.append_nil, List.cons_append] at hhere
    rw [List.cons_append, partsFrom, hhere]
    refine (ih fun left right heq hne => ?_).trans (by simp)
    simpa using h (c :: left) right (by rw [heq, List.cons_append]) hne

theorem partsFrom_eq_nil (h : ∀ left right, rest = left ++ right → right ≠ [] →
      part? (before ++ left).getLast? right = none) : partsFrom part? 0 before rest = [] := by
  have hpass : partsFrom part? 0 before (rest ++ []) = partsFrom part? 0 (before ++ rest) [] :=
    partsFrom_pass fun left right heq hne => by
      rw [List.append_nil]
      exact h left right heq hne
  rw [← List.append_nil rest, hpass, partsFrom]

end Parts

/-! ## Expressions -/

/-- What an expression matches from a place is settled by the character before it and the text behind it: it is one
part of that text, which is not empty, or nothing. -/
structure Expr.Reads (e : Expr) (part? : Option Char → List Char → Option (List Char)) : Prop where
  matches_iff : ∀ pre rest d, e.Matches (.between pre rest) d ↔
    ∃ part post, rest = part ++ post ∧ part? pre.getLast? rest = some part ∧ d = .between (pre ++ part) post
  shape : ∀ prev rest part, part? prev rest = some part → part ≠ [] ∧ part <+: rest

section Reads

variable {e : Expr} {part? : Option Char → List Char → Option (List Char)} {pre rest text : List Char}

theorem Expr.Reads.eq_none_iff (h : e.Reads part?) :
    part? pre.getLast? rest = none ↔ ¬ ∃ d, e.Matches (.between pre rest) d := by
  constructor
  · rintro hnone ⟨d, hd⟩
    obtain ⟨part, post, -, hsome, -⟩ := (h.matches_iff pre rest d).1 hd
    rw [hnone] at hsome
    cases hsome
  · intro hnot
    rw [Option.eq_none_iff_forall_ne_some]
    intro part hpart
    obtain ⟨-, post, rfl⟩ := h.shape _ _ _ hpart
    exact hnot ⟨_, (h.matches_iff pre _ _).2 ⟨part, post, rfl, hpart, rfl⟩⟩

theorem Expr.Reads.occursIn_iff (h : e.Reads part?) : e.program.occursIn text = true ↔
    ∃ pre rest, text = pre ++ rest ∧ ∃ part, part? pre.getLast? rest = some part := by
  rw [occursIn_program]
  refine exists_congr fun pre => exists_congr fun rest => and_congr_right fun _ => ?_
  rw [← Option.ne_none_iff_exists', Ne, h.eq_none_iff, not_not]

/-- Enough searches from a place find the parts that are read there. -/
theorem Expr.Reads.occurrencesFrom (h : e.Reads part?) (pre : List Char) {searches : Nat}
    (hsearches : rest.length < searches) (last : Option Nat) :
    (e.program.occurrencesFrom (e.program.roundsFor (pre ++ rest).length) searches (.between pre rest) last
        []).map (fun o => (o.start, o.stop, o.slots.head?)) =
      (partsFrom part? 0 pre rest).map fun r =>
        ((wholeOf r).start, (wholeOf r).stop, some (some (wholeOf r))) := by
  have hp := e.contained_program
  have hpos := e.size_program_pos
  induction searches generalizing pre rest last with
  | zero => exact absurd hsearches (Nat.not_lt_zero _)
  | succ searches ih =>
    have hin : (Cursor.between pre rest).In (pre ++ rest) := ⟨pre, rest, rfl, rfl⟩
    rw [Program.occurrencesFrom]
    split
    · next hfound =>
      -- From no place that is left a run accepts.
      have hsome := Program.searchFrom_isSome hp hpos pre rest Program.closed_empty
      rw [show e.program.searchFrom _ rest pre.getLast? (byteLength pre) .empty = none from hfound] at hsome
      rw [partsFrom_eq_nil, List.reverse_nil, List.map_nil, List.map_nil]
      intro left right heq _
      rw [h.eq_none_iff, ← accepts_program]
      exact fun hacc => absurd (hsome.2 ⟨left, right, heq, hacc⟩) Bool.false_ne_true
    · next start t hfound =>
      have hends := Program.search?_ends hp hpos hin hfound
      obtain ⟨passed, behind, rfl, rfl, -, hfirst⟩ := Program.search?_eq_some hp hpos hfound
      obtain ⟨part, post, rfl, hpart, hplace⟩ := (h.matches_iff _ _ _).1 ((e.ends_program _ _).1 hends)
      obtain ⟨hne, -⟩ := h.shape _ _ _ hpart
      have hstop : t.place.offset = byteLength (pre ++ passed ++ part) := by rw [hplace]; rfl
      have hnext : ¬ ((Cursor.between (pre ++ passed) (part ++ post)).offset = t.place.offset ∧
          last = some t.place.offset) := by
        rintro ⟨hempty, -⟩
        rw [hstop, byteLength_append (pre ++ passed)] at hempty
        exact hne (eq_nil_of_byteLength (Nat.left_eq_add.1 hempty))
      have hpassed : partsFrom part? 0 pre (passed ++ (part ++ post)) =
          partsFrom part? 0 (pre ++ passed) (part ++ post) :=
        partsFrom_pass fun left right heq hright => by
          rw [h.eq_none_iff, ← accepts_program]
          exact hfirst left right heq hright
      have hlength : post.length < searches := by
        have := List.length_pos_iff.2 hne
        simp only [List.length_append] at hsearches
        omega
      have hrest := ih (pre ++ passed ++ part) hlength (some t.place.offset)
      have htext : pre ++ passed ++ part ++ post = pre ++ (passed ++ (part ++ post)) := by simp
      rw [htext, ← hplace] at hrest
      rw [if_neg hnext, Program.occurrencesFrom_found, List.reverse_singleton, List.singleton_append,
        List.map_cons, hrest, hpassed, partsFrom_part hne hpart, List.map_cons]
      have hslice : (Cursor.between (pre ++ passed) (part ++ post)).slice (byteLength (pre ++ passed))
          t.place.offset = part := by rw [hstop, Cursor.slice_between]
      refine congrArg (· :: _) ?_
      change (byteLength (pre ++ passed), t.place.offset, some (some (Capture.mk _ t.place.offset
        ((Cursor.between (pre ++ passed) (part ++ post)).slice (byteLength (pre ++ passed)) t.place.offset)))) = _
      rw [hslice, hstop]
      rfl

/-- The occurrences of an expression that reads parts are the parts that are read one behind the other. -/
theorem Expr.Reads.occurrences (h : e.Reads part?) (text : List Char) :
    (e.program.occurrences text).map (fun o => (o.start, o.stop, o.slots.head?)) =
      (partsFrom part? 0 [] text).map fun r =>
        ((wholeOf r).start, (wholeOf r).stop, some (some (wholeOf r))) :=
  h.occurrencesFrom [] (by omega) none

theorem Expr.Reads.occurrences_of_slots (h : e.Reads part?) (hslots : e.slots = 1) (text : List Char) :
    e.program.occurrences text =
      (partsFrom part? 0 [] text).map fun r => ⟨(wholeOf r).start, (wholeOf r).stop, [some (wholeOf r)]⟩ := by
  have hsame : ∀ o ∈ e.program.occurrences text, Occurrence.mk o.start o.stop o.slots.head?.toList = o := by
    intro o ho
    have hlength := (stands_of_mem_occurrences ho).2
    rw [hslots, List.length_eq_one_iff] at hlength
    obtain ⟨slot, hslot⟩ := hlength
    rw [hslot]
    cases o
    cases hslot
    rfl
  have hparts := congrArg (List.map fun r => Occurrence.mk r.1 r.2.1 r.2.2.toList) (h.occurrences text)
  rw [List.map_map, List.map_map] at hparts
  exact ((List.map_congr_left hsame).trans (List.map_id' _)).symm.trans hparts

end Reads

/-! ## Characters one behind the other -/

section Characters

variable {pre rest : List Char} {d : Cursor}

theorem Expr.matches_chars {s : CharSet} : (Expr.chars s).Matches (.between pre rest) d ↔
    ∃ c post, rest = c :: post ∧ s.contains c = true ∧ d = .between (pre ++ [c]) post := by
  rw [Matches]
  constructor
  · rintro ⟨c, hnext, hc⟩
    obtain ⟨post, rfl, rfl⟩ := Cursor.eq_of_next?_between hnext
    exact ⟨c, post, rfl, hc, rfl⟩
  · rintro ⟨c, post, rfl, hc, rfl⟩
    exact ⟨c, Cursor.next?_between pre post c, hc⟩

theorem Expr.inTurn_singles (text : List Char) :
    InTurn (text.map fun c => .chars (.single c)) (.between pre rest) d ↔
      ∃ post, rest = text ++ post ∧ d = .between (pre ++ text) post := by
  induction text generalizing pre rest with
  | nil => simp [InTurn]
  | cons c text ih =>
    rw [List.map_cons, InTurn]
    constructor
    · rintro ⟨m, hfirst, hm⟩
      obtain ⟨a, post, rfl, ha, rfl⟩ := matches_chars.1 hfirst
      rw [CharSet.contains_single, decide_eq_true_iff] at ha
      obtain ⟨post, rfl, rfl⟩ := ih.1 hm
      exact ⟨post, by rw [ha, List.cons_append], by rw [ha, List.append_assoc, List.singleton_append]⟩
    · rintro ⟨post, rfl, rfl⟩
      refine ⟨.between (pre ++ [c]) (text ++ post), matches_chars.2 ⟨c, text ++ post, rfl, ?_, rfl⟩, ?_⟩
      · rw [CharSet.contains_single, decide_eq_true rfl]
      · exact ih.2 ⟨post, rfl, by rw [List.append_assoc, List.singleton_append]⟩

theorem Expr.rounds_chars {s : CharSet} {n : Nat} : Rounds (Expr.chars s).Matches n (.between pre rest) d ↔
    ∃ part post, part.length = n ∧ (∀ c ∈ part, s.contains c = true) ∧ rest = part ++ post ∧
      d = .between (pre ++ part) post := by
  induction n generalizing pre rest with
  | zero => simp [Rounds, List.length_eq_zero_iff]
  | succ n ih =>
    rw [Rounds]
    constructor
    · rintro ⟨m, hfirst, hm⟩
      obtain ⟨c, rest, rfl, hc, rfl⟩ := matches_chars.1 hfirst
      obtain ⟨part, post, rfl, hpart, rfl, rfl⟩ := ih.1 hm
      exact ⟨c :: part, post, rfl, List.forall_mem_cons.2 ⟨hc, hpart⟩, rfl, by simp⟩
    · rintro ⟨part, post, hlength, hpart, rfl, rfl⟩
      obtain ⟨c, part, rfl⟩ := List.exists_cons_of_length_eq_add_one hlength
      obtain ⟨hc, hpart⟩ := List.forall_mem_cons.1 hpart
      refine ⟨_, matches_chars.2 ⟨c, part ++ post, rfl, hc, rfl⟩, ih.2 ⟨part, post, ?_, hpart, rfl, by simp⟩⟩
      exact Nat.succ.inj hlength

end Characters

end TextPattern
