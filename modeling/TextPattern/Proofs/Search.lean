import Mathlib.Data.Finset.Prod
import Mathlib.Data.List.Infix
import TextPattern.Proofs.Code
import TextPattern.Proofs.Slotless

/-!
# The search finds every occurrence

* `Cursor.between pre post` : the place of a text between two parts of it;
* `Program.unseen p text seen` : the configurations of a text that are not seen, which bound the rounds
  of a search;
* `Program.Closed p text seen stack` : what follows a seen configuration is seen or to be tried;
* `explore_sound`, `explore_complete` : an exploration finds an accepting run iff there is one;
* `occursIn_program` : a text has an occurrence iff the expression matches from one of its places.
-/

namespace TextPattern

/-! ## Places of a text -/

theorem byteLength_append (pre post : List Char) :
    byteLength (pre ++ post) = byteLength pre + byteLength post := by
  have hadd : ∀ (l : List Char) (n : Nat),
      l.foldl (fun n c => n + c.utf8Size) n = n + l.foldl (fun n c => n + c.utf8Size) 0 := by
    intro l
    induction l with
    | nil => simp
    | cons a l ih =>
      intro n
      rw [List.foldl_cons, List.foldl_cons, ih (n + a.utf8Size), ih (0 + a.utf8Size)]
      omega
  rw [byteLength, List.foldl_append, hadd]
  rfl

theorem byteLength_concat (pre : List Char) (a : Char) :
    byteLength (pre ++ [a]) = byteLength pre + a.utf8Size := by
  rw [byteLength_append]
  simp [byteLength]

theorem eq_nil_of_byteLength {text : List Char} (h : byteLength text = 0) : text = [] := by
  cases text with
  | nil => rfl
  | cons a text =>
    have hsum := byteLength_append [a] text
    have ha : byteLength [a] = a.utf8Size := by simp [byteLength]
    have := a.utf8Size_pos
    rw [List.singleton_append] at hsum
    omega

/-- The start of a text is known by its length in bytes. -/
theorem eq_of_byteLength {pre post pre' post' : List Char} (h : pre ++ post = pre' ++ post')
    (hlen : byteLength pre = byteLength pre') : pre = pre' ∧ post = post' := by
  rcases List.append_eq_append_iff.1 h with ⟨mid, rfl, rfl⟩ | ⟨mid, rfl, rfl⟩
  · rw [byteLength_append] at hlen
    obtain rfl := eq_nil_of_byteLength (show byteLength mid = 0 by omega)
    simp
  · rw [byteLength_append] at hlen
    obtain rfl := eq_nil_of_byteLength (show byteLength mid = 0 by omega)
    simp

namespace Cursor

def between (pre post : List Char) : Cursor := ⟨pre.getLast?, post, byteLength pre⟩

theorem next?_between (pre post : List Char) (a : Char) :
    (between pre (a :: post)).next? = some (a, between (pre ++ [a]) post) := by
  simp [between, next?, byteLength_concat]

theorem eq_of_next?_between {pre post : List Char} {a : Char} {d : Cursor}
    (h : (between pre post).next? = some (a, d)) :
    ∃ rest, post = a :: rest ∧ d = between (pre ++ [a]) rest := by
  cases post with
  | nil => simp [between, next?] at h
  | cons b rest =>
    rw [next?_between, Option.some.injEq, Prod.mk.injEq] at h
    obtain ⟨rfl, rfl⟩ := h
    exact ⟨rest, rfl, rfl⟩

/-- The place is one of the text. -/
def In (c : Cursor) (text : List Char) : Prop := ∃ pre post, text = pre ++ post ∧ c = between pre post

theorem In.of_goes {i : Inst} {c d : Cursor} {pc : Nat} {text : List Char} (hc : c.In text)
    (h : i.Goes c pc d) : d.In text := by
  cases i with
  | take set next =>
    obtain ⟨-, a, hn, -⟩ := h
    obtain ⟨pre, post, rfl, rfl⟩ := hc
    obtain ⟨rest, rfl, rfl⟩ := eq_of_next?_between hn
    exact ⟨pre ++ [a], rest, by simp, rfl⟩
  | test _ _ => exact h.2.1 ▸ hc
  | split _ _ | jump _ | save _ _ => exact h.2 ▸ hc
  | accept => exact h.elim

end Cursor

theorem Inst.goes_of_mem_follow {i : Inst} {t s : Thread} (h : s ∈ i.follow t) :
    i.Goes t.place s.pc s.place :=
  (i.exists_follow t s.pc s.place).1 ⟨s, h, rfl, rfl⟩

theorem Inst.length_follow (i : Inst) (t : Thread) : (i.follow t).length ≤ 2 := by
  unfold follow
  split
  · split
    · split <;> simp
    · simp
  · split <;> simp
  all_goals simp

namespace Program

variable {p : Program} {text : List Char} {seen : Visited}

/-! ## Configurations of a text -/

def Contained (p : Program) : Prop :=
  ∀ (pc next : Nat) (i : Inst) (c d : Cursor),
    p.code[pc]? = some i → i.Goes c next d → next < p.code.size

/-- The run is at an address of the program and a place of the text. -/
def Stands (p : Program) (text : List Char) (t : Thread) : Prop :=
  t.pc < p.code.size ∧ t.place.In text

theorem eq_of_configuration {s t : Thread} (hs : p.Stands text s) (ht : p.Stands text t)
    (h : p.configuration s = p.configuration t) : s.pc = t.pc ∧ s.place = t.place := by
  obtain ⟨hsp, pre, post, htext, hpre⟩ := hs
  obtain ⟨htp, pre', post', htext', hpre'⟩ := ht
  have hpos : 0 < p.code.size := by omega
  rw [configuration, configuration] at h
  have hpc : s.pc = t.pc := by
    have := congrArg (· % p.code.size) h
    simpa [Nat.mul_add_mod_of_lt, Nat.mod_eq_of_lt, hsp, htp] using this
  have hoff : s.place.offset = t.place.offset :=
    Nat.eq_of_mul_eq_mul_right hpos (by omega)
  rw [hpre, hpre'] at hoff
  obtain ⟨rfl, rfl⟩ := eq_of_byteLength (htext.symm.trans htext') hoff
  exact ⟨hpc, hpre.trans hpre'.symm⟩

/-- The numbers of the configurations of a text. -/
def configurations (p : Program) (text : List Char) : Finset Nat :=
  (Finset.range (text.length + 1) ×ˢ Finset.range p.code.size).image
    fun x => byteLength (text.take x.1) * p.code.size + x.2

theorem mem_configurations {t : Thread} (ht : p.Stands text t) :
    p.configuration t ∈ p.configurations text := by
  obtain ⟨hpc, pre, post, rfl, hplace⟩ := ht
  refine Finset.mem_image.2 ⟨(pre.length, t.pc), ?_, ?_⟩
  · rw [Finset.mem_product, Finset.mem_range, Finset.mem_range, List.length_append]
    exact ⟨by omega, hpc⟩
  · rw [configuration, hplace, List.take_left]
    rfl

def unseen (p : Program) (text : List Char) (seen : Visited) : Finset Nat :=
  (p.configurations text).filter fun n => seen.contains n = false

theorem card_unseen_le (p : Program) (text : List Char) (seen : Visited) :
    (p.unseen text seen).card ≤ (text.length + 1) * p.code.size :=
  calc (p.unseen text seen).card
    _ ≤ (p.configurations text).card := Finset.card_filter_le _ _
    _ ≤ _ := Finset.card_image_le
    _ = (text.length + 1) * p.code.size := by
      rw [Finset.card_product, Finset.card_range, Finset.card_range]

theorem card_unseen_insert {t : Thread} (ht : p.Stands text t)
    (h : seen.contains (p.configuration t) = false) :
    (p.unseen text (seen.insert (p.configuration t))).card < (p.unseen text seen).card := by
  refine Finset.card_lt_card (Finset.ssubset_iff_subset_ne.2 ⟨?_, fun heq => ?_⟩)
  · intro n hn
    simp only [unseen, Finset.mem_filter, Visited.contains_insert, Bool.or_eq_false_iff] at hn ⊢
    exact ⟨hn.1, hn.2.2⟩
  · have hmem : p.configuration t ∈ p.unseen text seen :=
      Finset.mem_filter.2 ⟨mem_configurations ht, h⟩
    rw [← heq, unseen, Finset.mem_filter, Visited.contains_insert] at hmem
    simp at hmem

/-! ## Exploring -/

/-- The run that an exploration finds accepts where one of those to be tried may end. -/
theorem explore_sound {rounds : Nat} {stack : List Thread} {t : Thread}
    (h : (p.explore rounds seen stack).1 = some t) : ∃ s ∈ stack, p.Ends s.pc s.place t.place := by
  induction rounds generalizing seen stack with
  | zero => simp [explore] at h
  | succ rounds ih =>
    cases stack with
    | nil => simp [explore] at h
    | cons s stack =>
      simp only [explore] at h
      split at h
      · obtain ⟨u, hu, hacc⟩ := ih h
        exact ⟨u, List.mem_cons_of_mem s hu, hacc⟩
      · split at h
        · obtain ⟨u, hu, hacc⟩ := ih h
          exact ⟨u, List.mem_cons_of_mem s hu, hacc⟩
        · next haccept =>
          rw [← Option.some.inj h]
          exact ⟨s, List.mem_cons_self, ends_of_accept haccept s.place⟩
        · next i _ hi =>
          obtain ⟨u, hu, hacc⟩ := ih h
          rcases List.mem_append.1 hu with hu | hu
          · exact ⟨s, List.mem_cons_self, hacc.step hi (Inst.goes_of_mem_follow hu)⟩
          · exact ⟨u, List.mem_cons_of_mem s hu, hacc⟩

/-- No seen configuration accepts at once, and what follows one is seen or on the stack. -/
def Closed (p : Program) (text : List Char) (seen : Visited) (stack : List Thread) : Prop :=
  ∀ t, p.Stands text t → seen.contains (p.configuration t) = true →
    p.code[t.pc]? ≠ some .accept ∧
      ∀ i next d, p.code[t.pc]? = some i → i.Goes t.place next d →
        seen.contains (p.configuration ⟨next, d, []⟩) = true ∨ ∃ s ∈ stack, s.pc = next ∧ s.place = d

theorem closed_empty : p.Closed text .empty [] := by
  intro t _ h
  simp at h

theorem Closed.mono {stack more : List Thread} (h : p.Closed text seen stack) (hsub : stack ⊆ more) :
    p.Closed text seen more := by
  intro t ht hseen
  obtain ⟨hacc, hnext⟩ := h t ht hseen
  refine ⟨hacc, fun i next d hi hg => (hnext i next d hi hg).imp_right ?_⟩
  rintro ⟨s, hs, hplace⟩
  exact ⟨s, hsub hs, hplace⟩

theorem Closed.drop_seen {t : Thread} {stack : List Thread} (h : p.Closed text seen (t :: stack))
    (ht : seen.contains (p.configuration t) = true) : p.Closed text seen stack := by
  intro s hs hseen
  obtain ⟨hacc, hnext⟩ := h s hs hseen
  refine ⟨hacc, fun i next d hi hg => ?_⟩
  rcases hnext i next d hi hg with hc | ⟨u, hu, rfl, rfl⟩
  · exact .inl hc
  · rcases List.mem_cons.1 hu with rfl | hu
    · exact .inl ht
    · exact .inr ⟨u, hu, rfl, rfl⟩

/-- A run that is seen now is replaced by the runs that continue it. -/
theorem Closed.insert {t : Thread} {stack : List Thread} {more : List Thread}
    (h : p.Closed text seen (t :: stack)) (ht : p.Stands text t)
    (haccept : p.code[t.pc]? ≠ some .accept)
    (hmore : ∀ i next d, p.code[t.pc]? = some i → i.Goes t.place next d →
      ∃ s ∈ more, s.pc = next ∧ s.place = d) :
    p.Closed text (seen.insert (p.configuration t)) (more ++ stack) := by
  intro s hs hseen
  rw [Visited.contains_insert, Bool.or_eq_true, beq_iff_eq] at hseen
  rcases hseen with heq | hseen
  · obtain ⟨hpc, hplace⟩ := eq_of_configuration hs ht heq
    rw [hpc, hplace]
    refine ⟨haccept, fun i next d hi hg => .inr ?_⟩
    obtain ⟨u, hu, rfl, rfl⟩ := hmore i next d hi hg
    exact ⟨u, List.mem_append_left _ hu, rfl, rfl⟩
  · obtain ⟨hacc, hnext⟩ := h s hs hseen
    refine ⟨hacc, fun i next d hi hg => ?_⟩
    rw [Visited.contains_insert, Bool.or_eq_true, beq_iff_eq]
    rcases hnext i next d hi hg with hc | ⟨u, hu, rfl, rfl⟩
    · exact .inl (.inr hc)
    · rcases List.mem_cons.1 hu with rfl | hu
      · exact .inl (.inl rfl)
      · exact .inr ⟨u, List.mem_append_right _ hu, rfl, rfl⟩

/-- From a seen configuration no run accepts once there is nothing left to be tried. -/
theorem Closed.not_accepts (hp : p.Contained) (h : p.Closed text seen []) {t : Thread}
    (ht : p.Stands text t) (hseen : seen.contains (p.configuration t) = true) :
    ¬ p.Accepts t.pc t.place := by
  rintro ⟨stop, n, hn⟩
  induction n generalizing t with
  | zero => exact (h t ht hseen).1 hn.1
  | succ n ih =>
    obtain ⟨i, hi, next, d, hg, hrest⟩ := hn
    have hstands : p.Stands text ⟨next, d, []⟩ := ⟨hp _ _ _ _ _ hi hg, ht.2.of_goes hg⟩
    rcases (h t ht hseen).2 i next d hi hg with hc | ⟨s, hs, -⟩
    · exact ih hstands hc hrest
    · exact absurd hs List.not_mem_nil

/-- An exploration with enough rounds that finds nothing leaves a closed set with all it was to try. -/
theorem explore_complete (hp : p.Contained) {rounds : Nat} {stack : List Thread} {seen' : Visited}
    (hrounds : stack.length + 2 * (p.unseen text seen).card < rounds)
    (hstack : ∀ s ∈ stack, p.Stands text s) (hclosed : p.Closed text seen stack)
    (h : p.explore rounds seen stack = (none, seen')) :
    p.Closed text seen' [] ∧ (∀ n, seen.contains n = true → seen'.contains n = true) ∧
      ∀ s ∈ stack, seen'.contains (p.configuration s) = true := by
  induction rounds generalizing seen stack with
  | zero => omega
  | succ rounds ih =>
    cases stack with
    | nil =>
      obtain ⟨-, rfl⟩ := Prod.mk.inj h
      exact ⟨hclosed, fun _ hn => hn, fun _ hs => absurd hs List.not_mem_nil⟩
    | cons t stack =>
      have ht := hstack t List.mem_cons_self
      have hrest : ∀ s ∈ stack, p.Stands text s := fun s hs => hstack s (List.mem_cons_of_mem t hs)
      simp only [explore] at h
      rw [List.length_cons] at hrounds
      by_cases hseen : seen.contains (p.configuration t) = true
      · rw [if_pos hseen] at h
        obtain ⟨hclosed', hmono, hall⟩ := ih (by omega) hrest (hclosed.drop_seen hseen) h
        refine ⟨hclosed', hmono, fun s hs => ?_⟩
        rcases List.mem_cons.1 hs with rfl | hs
        · exact hmono _ hseen
        · exact hall s hs
      · rw [if_neg hseen] at h
        have hless := card_unseen_insert ht (Bool.eq_false_iff.2 hseen)
        have hstep : ∀ more : List Thread, (∀ s ∈ more, p.Stands text s) → more.length ≤ 2 →
            p.code[t.pc]? ≠ some .accept →
            (∀ i next d, p.code[t.pc]? = some i → i.Goes t.place next d →
              ∃ s ∈ more, s.pc = next ∧ s.place = d) →
            p.explore rounds (seen.insert (p.configuration t)) (more ++ stack) = (none, seen') →
            p.Closed text seen' [] ∧ (∀ n, seen.contains n = true → seen'.contains n = true) ∧
              ∀ s ∈ t :: stack, seen'.contains (p.configuration s) = true := by
          intro more hstands hlen hacc hmore h
          obtain ⟨hclosed', hmono, hall⟩ := ih (by rw [List.length_append]; omega)
            (List.forall_mem_append.2 ⟨hstands, hrest⟩) (hclosed.insert ht hacc hmore) h
          refine ⟨hclosed', fun n hn => hmono n ?_, fun s hs => ?_⟩
          · rw [Visited.contains_insert, hn, Bool.or_true]
          · rcases List.mem_cons.1 hs with rfl | hs
            · exact hmono _ (by rw [Visited.contains_insert, beq_self_eq_true, Bool.true_or])
            · exact hall s (List.mem_append_right more hs)
        split at h
        · next hnone =>
          refine hstep [] (by simp) (by simp) (by simp [hnone]) ?_ h
          simp [hnone]
        · simp at h
        · next i hne hi =>
          refine hstep (i.follow t) (fun s hs => ?_) (i.length_follow t) ?_ ?_ h
          · have hg := Inst.goes_of_mem_follow hs
            exact ⟨hp _ _ _ _ _ hi hg, ht.2.of_goes hg⟩
          · rw [hi]
            rintro ⟨⟩
            exact hne rfl
          · intro j next d hj hg
            obtain rfl := Option.some.inj (hi.symm.trans hj)
            exact (i.exists_follow t next d).2 hg

/-- An exploration from a place of a text finds a run iff one accepts from there. If it finds none, the
set it leaves is closed. -/
theorem explore_start (hp : p.Contained) (hpos : 0 < p.code.size) {c : Cursor} (hc : c.In text)
    (hclosed : p.Closed text seen []) :
    ((p.explore (p.roundsFor text.length) seen [⟨0, c, []⟩]).1.isSome = true ↔ p.Accepts 0 c) ∧
      ((p.explore (p.roundsFor text.length) seen [⟨0, c, []⟩]).1 = none →
        p.Closed text (p.explore (p.roundsFor text.length) seen [⟨0, c, []⟩]).2 []) := by
  have hstart : p.Stands text ⟨0, c, []⟩ := ⟨hpos, hc⟩
  rcases hres : p.explore (p.roundsFor text.length) seen [⟨0, c, []⟩] with ⟨_ | t, seen'⟩
  · have hrounds : [(⟨0, c, []⟩ : Thread)].length + 2 * (p.unseen text seen).card <
        p.roundsFor text.length := by
      have := p.card_unseen_le text seen
      rw [roundsFor, List.length_singleton, Nat.mul_assoc, Nat.mul_comm p.code.size]
      omega
    obtain ⟨hclosed', -, hall⟩ := explore_complete hp hrounds (by simpa using hstart)
      (hclosed.mono (List.nil_subset _)) hres
    have hnot := hclosed'.not_accepts hp hstart (hall _ List.mem_cons_self)
    exact ⟨by simpa using hnot, fun _ => hclosed'⟩
  · obtain ⟨s, hs, hacc⟩ := explore_sound (t := t) (by rw [hres])
    rw [List.mem_singleton.1 hs] at hacc
    exact ⟨iff_of_true rfl ⟨t.place, hacc⟩, by simp⟩

/-! ## Searching -/

/-- The search finds a place iff a run accepts from one of the places behind `pre`. -/
theorem searchFrom_isSome (hp : p.Contained) (hpos : 0 < p.code.size) (pre rest : List Char)
    (hclosed : p.Closed (pre ++ rest) seen []) :
    (p.searchFrom (p.roundsFor (pre ++ rest).length) rest pre.getLast? (byteLength pre) seen).isSome =
        true ↔ ∃ mid post, rest = mid ++ post ∧ p.Accepts 0 (.between (pre ++ mid) post) := by
  induction rest generalizing pre seen with
  | nil =>
    have hexplore := explore_start hp hpos ⟨pre, [], rfl, rfl⟩ hclosed
    simp only [searchFrom, Option.isSome_map]
    refine hexplore.1.trans ⟨fun h => ⟨[], [], rfl, by simpa using h⟩, ?_⟩
    rintro ⟨mid, post, hnil, hacc⟩
    obtain ⟨rfl, rfl⟩ := List.append_eq_nil_iff.1 hnil.symm
    simpa using hacc
  | cons a rest ih =>
    have hexplore := explore_start hp hpos ⟨pre, a :: rest, rfl, rfl⟩ hclosed
    have hplace : Cursor.mk pre.getLast? (a :: rest) (byteLength pre) = .between pre (a :: rest) := rfl
    simp only [searchFrom, hplace]
    rcases hres : p.explore (p.roundsFor (pre ++ a :: rest).length) seen
      [⟨0, .between pre (a :: rest), []⟩] with ⟨_ | t, seen'⟩
    · rw [hres] at hexplore
      have hhere : ¬ p.Accepts 0 (.between pre (a :: rest)) := by simpa using hexplore.1
      have hclosed' : p.Closed ((pre ++ [a]) ++ rest) seen' [] := by simpa using hexplore.2 rfl
      have hlater := ih (pre ++ [a]) hclosed'
      rw [byteLength_concat, List.getLast?_concat, List.append_assoc, List.singleton_append] at hlater
      refine hlater.trans ⟨?_, ?_⟩
      · rintro ⟨mid, post, rfl, hacc⟩
        exact ⟨a :: mid, post, rfl, by simpa using hacc⟩
      · rintro ⟨mid, post, heq, hacc⟩
        cases mid with
        | nil =>
          obtain rfl : a :: rest = post := heq
          exact absurd (by simpa using hacc) hhere
        | cons b mid =>
          obtain ⟨rfl, rfl⟩ := List.cons.inj heq
          exact ⟨mid, post, rfl, by simpa using hacc⟩
    · rw [hres] at hexplore
      have hhere : p.Accepts 0 (.between pre (a :: rest)) := by simpa using hexplore.1
      exact ⟨fun _ => ⟨[], a :: rest, rfl, by simpa using hhere⟩, fun _ => rfl⟩

end Program

/-- A text has an occurrence of an expression iff the expression matches from one of its places. -/
theorem Expr.occursIn_program (e : Expr) (text : List Char) :
    e.program.occursIn text = true ↔
      ∃ pre post, text = pre ++ post ∧ ∃ d, e.Matches (.between pre post) d := by
  have hpos : 0 < e.program.code.size := by simp [program]
  have h := Program.searchFrom_isSome (fun _ _ _ _ _ => lt_size_of_goes) hpos [] text
    Program.closed_empty
  simp only [accepts_program] at h
  rw [Program.occursIn_eq]
  exact h

end TextPattern
