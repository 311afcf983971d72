import TextPattern.Proofs.Search

/-!
# The preferred run from a place

* `Program.following p t` : the runs that continue a run, `explore_succ` : one round of an exploration;
* `Program.Suffices p text rounds seen stack` : the rounds are enough for the runs to be tried;
* `Program.Alike p text seen seen'` : the sets agree on the configurations from which a run accepts;
* `explore_dead` : exploring runs that do not accept comes back to the runs behind them;
* `explore_eq_of_alike` : what an exploration finds does not depend on which of the configurations from
  which no run accepts are seen;
* `searchFrom_eq_some`, `search?_start` : a search from the place it has found finds the same run.
-/

namespace TextPattern.Program

variable {p : Program} {text : List Char} {rounds : Nat} {seen seen' : Visited} {stack : List Thread}

/-! ## One round -/

def following (p : Program) (t : Thread) : List Thread := (p.code[t.pc]?.map fun i => i.follow t).getD []

/-- The rounds are enough to try the runs of a stack: each drops a run or sees a new configuration, which
leads to at most two runs. -/
def Suffices (p : Program) (text : List Char) (rounds : Nat) (seen : Visited) (stack : List Thread) : Prop :=
  stack.length + 2 * (p.unseen text seen).card < rounds

theorem explore_seen {t : Thread} (h : seen.contains (p.configuration t) = true) :
    p.explore (rounds + 1) seen (t :: stack) = p.explore rounds seen stack := by
  simp only [explore, h, if_true]

theorem explore_succ {t : Thread} (h : seen.contains (p.configuration t) = false)
    (haccept : p.code[t.pc]? ≠ some .accept) :
    p.explore (rounds + 1) seen (t :: stack) =
      p.explore rounds (seen.insert (p.configuration t)) (p.following t ++ stack) := by
  simp only [explore, h, Bool.false_eq_true, if_false, following]
  split
  · next hnone => simp [hnone]
  · next hi => exact absurd hi haccept
  · next i _ hi => simp [hi]

theorem explore_accept {t : Thread} (h : seen.contains (p.configuration t) = false)
    (haccept : p.code[t.pc]? = some .accept) :
    (p.explore (rounds + 1) seen (t :: stack)).1 = some t := by
  simp only [explore, h, Bool.false_eq_true, if_false, haccept]

theorem mem_following {s t : Thread} :
    s ∈ p.following t ↔ ∃ i, p.code[t.pc]? = some i ∧ s ∈ i.follow t := by
  unfold following
  cases p.code[t.pc]? <;> simp

theorem exists_of_mem_following {s t : Thread} (h : s ∈ p.following t) :
    ∃ i, p.code[t.pc]? = some i ∧ i.Goes t.place s.pc s.place := by
  obtain ⟨i, hi, hs⟩ := mem_following.1 h
  exact ⟨i, hi, Inst.goes_of_mem_follow hs⟩

theorem length_following (p : Program) (t : Thread) : (p.following t).length ≤ 2 := by
  unfold following
  cases p.code[t.pc]? with
  | none => exact Nat.zero_le 2
  | some i => exact i.length_follow t

theorem stands_following (hp : p.Contained) {s t : Thread} (ht : p.Stands text t) (hs : s ∈ p.following t) :
    p.Stands text s := by
  obtain ⟨i, hi, hg⟩ := exists_of_mem_following hs
  exact ⟨hp _ _ _ _ _ hi hg, ht.2.of_goes hg⟩

theorem Suffices.drop {t : Thread} (h : p.Suffices text (rounds + 1) seen (t :: stack)) :
    p.Suffices text rounds seen stack := by
  unfold Suffices at h ⊢
  rw [List.length_cons] at h
  omega

theorem Suffices.insert {t : Thread} (h : p.Suffices text (rounds + 1) seen (t :: stack))
    (ht : p.Stands text t) (hseen : seen.contains (p.configuration t) = false) :
    p.Suffices text rounds (seen.insert (p.configuration t)) (p.following t ++ stack) := by
  have hless := card_unseen_insert ht hseen
  have hlength := p.length_following t
  unfold Suffices at h ⊢
  rw [List.length_cons] at h
  rw [List.length_append]
  omega

/-! ## Configurations that do not matter -/

/-- The sets have the same of the configurations from which a run accepts. -/
def Alike (p : Program) (text : List Char) (seen seen' : Visited) : Prop :=
  ∀ t, p.Stands text t → p.Accepts t.pc t.place →
    seen.contains (p.configuration t) = seen'.contains (p.configuration t)

theorem Alike.refl (p : Program) (text : List Char) (seen : Visited) : p.Alike text seen seen :=
  fun _ _ _ => rfl

theorem Alike.symm (h : p.Alike text seen seen') : p.Alike text seen' seen :=
  fun t ht hacc => (h t ht hacc).symm

theorem Alike.trans {seen'' : Visited} (h : p.Alike text seen seen') (h' : p.Alike text seen' seen'') :
    p.Alike text seen seen'' :=
  fun t ht hacc => (h t ht hacc).trans (h' t ht hacc)

theorem Alike.insert (h : p.Alike text seen seen') (n : Nat) :
    p.Alike text (seen.insert n) (seen'.insert n) := by
  intro t ht hacc
  rw [Visited.contains_insert, Visited.contains_insert, h t ht hacc]

theorem Alike.insert_dead {t : Thread} (ht : p.Stands text t) (hdead : ¬ p.Accepts t.pc t.place) :
    p.Alike text (seen.insert (p.configuration t)) seen := by
  intro s hs hacc
  rw [Visited.contains_insert]
  have hne : p.configuration s ≠ p.configuration t := by
    intro heq
    obtain ⟨hpc, hplace⟩ := eq_of_configuration hs ht heq
    rw [hpc, hplace] at hacc
    exact hdead hacc
  rw [beq_eq_false_iff_ne.2 hne, Bool.false_or]

/-- A closed set has no configuration from which a run accepts. -/
theorem Closed.alike_empty (hp : p.Contained) (h : p.Closed text seen []) : p.Alike text seen .empty := by
  intro t ht hacc
  rw [Visited.contains_empty]
  exact Bool.eq_false_iff.2 fun hseen => h.not_accepts hp ht hseen hacc

/-- Exploring runs that do not accept comes back to the runs behind them, with enough rounds left. -/
theorem explore_dead (hp : p.Contained) {dead : List Thread}
    (hrounds : p.Suffices text rounds seen (dead ++ stack)) (hstands : ∀ t ∈ dead, p.Stands text t)
    (hdead : ∀ t ∈ dead, ¬ p.Accepts t.pc t.place) :
    ∃ rounds' seen', rounds' + dead.length ≤ rounds ∧
      p.explore rounds seen (dead ++ stack) = p.explore rounds' seen' stack ∧
      p.Suffices text rounds' seen' stack ∧ p.Alike text seen' seen := by
  induction rounds generalizing seen dead with
  | zero => exact absurd hrounds (Nat.not_lt_zero _)
  | succ rounds ih =>
    cases dead with
    | nil => exact ⟨rounds + 1, seen, Nat.le_refl _, rfl, hrounds, .refl p text seen⟩
    | cons t dead =>
      obtain ⟨ht, hstands⟩ := List.forall_mem_cons.1 hstands
      obtain ⟨htdead, hdead⟩ := List.forall_mem_cons.1 hdead
      rw [List.cons_append] at hrounds ⊢
      cases hseen : seen.contains (p.configuration t) with
      | true =>
        obtain ⟨rounds', seen', hle, heq, hmore, halike⟩ := ih hrounds.drop hstands hdead
        rw [explore_seen hseen]
        exact ⟨rounds', seen', Nat.succ_le_succ hle, heq, hmore, halike⟩
      | false =>
        have haccept : p.code[t.pc]? ≠ some .accept := fun hi => htdead ⟨_, ends_of_accept hi t.place⟩
        have hnext : ∀ s ∈ p.following t, ¬ p.Accepts s.pc s.place := by
          intro s hs hacc
          obtain ⟨i, hi, hg⟩ := exists_of_mem_following hs
          exact htdead (hacc.step hi hg)
        have hrounds' := hrounds.insert ht hseen
        rw [← List.append_assoc] at hrounds'
        obtain ⟨rounds', seen', hle, heq, hmore, halike⟩ := ih hrounds'
          (List.forall_mem_append.2 ⟨fun s hs => stands_following hp ht hs, hstands⟩)
          (List.forall_mem_append.2 ⟨hnext, hdead⟩)
        rw [explore_succ hseen haccept, ← List.append_assoc]
        rw [List.length_append] at hle
        rw [List.length_cons]
        exact ⟨rounds', seen', by omega, heq, hmore, halike.trans (.insert_dead ht htdead)⟩

/-- What an exploration finds does not depend on which of the configurations from which no run accepts are
seen, nor on the rounds if they are enough. -/
theorem explore_eq_of_alike (hp : p.Contained) {rounds' : Nat} (hrounds : p.Suffices text rounds seen stack)
    (hrounds' : p.Suffices text rounds' seen' stack) (hstands : ∀ t ∈ stack, p.Stands text t)
    (halike : p.Alike text seen seen') :
    (p.explore rounds seen stack).1 = (p.explore rounds' seen' stack).1 := by
  induction rounds using Nat.strongRecOn generalizing rounds' seen seen' stack with
  | _ rounds ih =>
    obtain ⟨k, rfl⟩ := Nat.exists_eq_succ_of_ne_zero (Nat.ne_zero_of_lt hrounds)
    obtain ⟨k', rfl⟩ := Nat.exists_eq_succ_of_ne_zero (Nat.ne_zero_of_lt hrounds')
    cases stack with
    | nil => simp only [explore]
    | cons t stack =>
      obtain ⟨ht, hstack⟩ := List.forall_mem_cons.1 hstands
      by_cases hacc : p.Accepts t.pc t.place
      · -- Both explorations do the same with a run from which a run accepts.
        have hboth := halike t ht hacc
        cases hseen : seen.contains (p.configuration t) with
        | true =>
          rw [explore_seen hseen, explore_seen (hboth ▸ hseen)]
          exact ih k (Nat.lt_succ_self k) hrounds.drop hrounds'.drop hstack halike
        | false =>
          have hseen' : seen'.contains (p.configuration t) = false := hboth ▸ hseen
          by_cases haccept : p.code[t.pc]? = some .accept
          · rw [explore_accept hseen haccept, explore_accept hseen' haccept]
          · rw [explore_succ hseen haccept, explore_succ hseen' haccept]
            refine ih k (Nat.lt_succ_self k) (hrounds.insert ht hseen) (hrounds'.insert ht hseen') ?_
              (halike.insert _)
            exact List.forall_mem_append.2 ⟨fun s hs => stands_following hp ht hs, hstack⟩
      · -- Each of them comes back from one from which none does.
        have hdead : ∀ s ∈ [t], ¬ p.Accepts s.pc s.place := by simpa using hacc
        have hone : ∀ s ∈ [t], p.Stands text s := by simpa using ht
        obtain ⟨r, s, hr, heq, hmore, hs⟩ := explore_dead hp hrounds hone hdead
        obtain ⟨r', s', hr', heq', hmore', hs'⟩ := explore_dead hp hrounds' hone hdead
        rw [List.singleton_append] at heq heq'
        rw [heq, heq']
        exact ih r (by rw [List.length_singleton] at hr; omega) hmore hmore' hstack
          (hs.trans (halike.trans hs'.symm))

/-! ## Searching -/

theorem suffices_start (p : Program) (text : List Char) (seen : Visited) (t : Thread) :
    p.Suffices text (p.roundsFor text.length) seen [t] := by
  have := p.card_unseen_le text seen
  unfold Suffices
  rw [roundsFor, List.length_singleton, Nat.mul_assoc, Nat.mul_comm p.code.size]
  omega

/-- From a place of the text, an exploration finds what it would find had it seen nothing. -/
theorem explore_fresh (hp : p.Contained) (hpos : 0 < p.code.size) (hclosed : p.Closed text seen [])
    {c : Cursor} (hc : c.In text) :
    (p.explore (p.roundsFor text.length) seen [⟨0, c, []⟩]).1 =
      (p.explore (p.roundsFor text.length) .empty [⟨0, c, []⟩]).1 :=
  explore_eq_of_alike hp (suffices_start p _ _ _) (suffices_start p _ _ _)
    (List.forall_mem_singleton.2 ⟨hpos, hc⟩) (hclosed.alike_empty hp)

/-- A search finds the first place behind `pre` from which a run accepts, and the run that an exploration from
there finds. -/
theorem searchFrom_eq_some (hp : p.Contained) (hpos : 0 < p.code.size) {pre rest : List Char}
    (hclosed : p.Closed (pre ++ rest) seen []) {start : Cursor} {t : Thread}
    (h : p.searchFrom (p.roundsFor (pre ++ rest).length) rest pre.getLast? (byteLength pre) seen =
      some (start, t)) :
    ∃ mid post, rest = mid ++ post ∧ start = .between (pre ++ mid) post ∧
      (p.explore (p.roundsFor (pre ++ rest).length) .empty [⟨0, start, []⟩]).1 = some t ∧
      ∀ left right, mid = left ++ right → right ≠ [] →
        ¬ p.Accepts 0 (.between (pre ++ left) (right ++ post)) := by
  have hnone : ∀ left right : List Char, [] = left ++ right → right = [] :=
    fun left right heq => (List.append_eq_nil_iff.1 heq.symm).2
  induction rest generalizing pre seen with
  | nil =>
    simp only [searchFrom, Option.map_eq_some_iff, Prod.mk.injEq] at h
    obtain ⟨_, hfound, rfl, rfl⟩ := h
    refine ⟨[], [], rfl, by simp [Cursor.between], ?_, fun left right heq hne => absurd (hnone _ _ heq) hne⟩
    exact (explore_fresh hp hpos hclosed ⟨pre, [], rfl, rfl⟩).symm.trans hfound
  | cons a rest ih =>
    have hplace : Cursor.mk pre.getLast? (a :: rest) (byteLength pre) = .between pre (a :: rest) := rfl
    have hin : (Cursor.between pre (a :: rest)).In (pre ++ a :: rest) := ⟨pre, a :: rest, rfl, rfl⟩
    simp only [searchFrom, hplace] at h
    rcases hres : p.explore (p.roundsFor (pre ++ a :: rest).length) seen
      [⟨0, .between pre (a :: rest), []⟩] with ⟨_ | u, seen'⟩
    · obtain ⟨hhere, hclosed'⟩ := explore_start hp hpos hin hclosed
      rw [hres] at h hhere hclosed'
      have hclosed' := hclosed' rfl
      have htext : pre ++ a :: rest = (pre ++ [a]) ++ rest := by simp
      rw [← byteLength_concat, ← List.getLast?_concat (l := pre), htext] at h
      rw [htext] at hclosed' ⊢
      obtain ⟨mid, post, rfl, hstart, hfound, hfirst⟩ := ih hclosed' h
      refine ⟨a :: mid, post, rfl, by simpa using hstart, hfound, fun left right heq hne => ?_⟩
      cases left with
      | nil =>
        obtain rfl : a :: mid = right := heq
        simpa using hhere
      | cons b left =>
        obtain ⟨rfl, rfl⟩ := List.cons.inj heq
        simpa using hfirst left right rfl hne
    · have hhere := explore_fresh hp hpos hclosed hin
      rw [hres] at h hhere
      obtain ⟨rfl, rfl⟩ := Prod.mk.inj (Option.some.inj h)
      exact ⟨[], a :: rest, rfl, by simp, hhere.symm, fun left right heq hne => absurd (hnone _ _ heq) hne⟩

theorem search?_eq_some (hp : p.Contained) (hpos : 0 < p.code.size) {pre rest : List Char}
    {start : Cursor} {t : Thread}
    (h : p.search? (p.roundsFor (pre ++ rest).length) (.between pre rest) = some (start, t)) :
    ∃ mid post, rest = mid ++ post ∧ start = .between (pre ++ mid) post ∧
      (p.explore (p.roundsFor (pre ++ rest).length) .empty [⟨0, start, []⟩]).1 = some t ∧
      ∀ left right, mid = left ++ right → right ≠ [] →
        ¬ p.Accepts 0 (.between (pre ++ left) (right ++ post)) :=
  searchFrom_eq_some hp hpos closed_empty h

theorem searchFrom_of_explore {rest : List Char} {prev : Option Char} {offset : Nat} {t : Thread}
    (h : (p.explore rounds seen [⟨0, ⟨prev, rest, offset⟩, []⟩]).1 = some t) :
    p.searchFrom rounds rest prev offset seen = some (⟨prev, rest, offset⟩, t) := by
  cases rest with
  | nil =>
    rw [searchFrom, h]
    rfl
  | cons a rest =>
    simp only [searchFrom]
    split
    · next u _ hres =>
      rw [hres] at h
      rw [Option.some.inj h]
    · next hres =>
      rw [hres] at h
      cases h

/-- A search from the place that a search has found finds it again, with the same run. -/
theorem search?_start (hp : p.Contained) (hpos : 0 < p.code.size) {c start : Cursor} {t : Thread}
    (hc : c.In text) (h : p.search? (p.roundsFor text.length) c = some (start, t)) :
    p.search? (p.roundsFor text.length) start = some (start, t) := by
  obtain ⟨pre, rest, rfl, rfl⟩ := hc
  obtain ⟨mid, post, rfl, rfl, hfound, -⟩ := search?_eq_some hp hpos h
  exact searchFrom_of_explore hfound

end TextPattern.Program
