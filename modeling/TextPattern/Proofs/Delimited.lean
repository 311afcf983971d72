import TextPattern.Proofs.Hits
import TextPattern.Proofs.Parts

/-!
# Delimited parts

What an expression matches is often told by the matched part alone, but for conditions on the characters on both
sides of it.

* `Expr.Describes e P` : the expression matches the parts with a property, wherever they stand, with a lemma for
  each constructor;
* `Expr.enclosed left body right` : an expression with conditions at both of its ends;
* `Delimits R` : from each place at most one part has the property `R`, which is told by the character before the
  part, the part and the text behind it;
* `partsBy R text` : the parts with such a property, one behind the other, with what they are
  (`Delimits.exists_of_mem`), how they stand (`pairwise_partsBy`) and which are among them
  (`Delimits.mem_partsBy`);
* `Catalog.get?_of_sweep_builtin` : what a sweep has under a name of the built-in catalog whose expression reads
  parts.
-/

namespace TextPattern

/-! ## Numbers of rounds -/

namespace Count

def exactly (n : Nat) : Count := ⟨n, some n, fun _ h => Nat.le_of_eq (Option.some.inj h)⟩

def atLeast (n : Nat) : Count := ⟨n, none, nofun⟩

theorem allows_exactly {n k : Nat} : (exactly n).Allows k ↔ k = n := by
  simp only [Allows, exactly, Option.mem_some_iff, forall_eq']
  exact and_comm.trans le_antisymm_iff.symm

theorem allows_atLeast {n k : Nat} : (atLeast n).Allows k ↔ n ≤ k :=
  and_iff_left fun _ h => absurd h (Option.not_mem_none _)

end Count

/-! ## Described parts -/

namespace Expr

/-- Wherever a part of a text stands, the expression matches it iff it has the property. -/
def Describes (e : Expr) (P : List Char → Prop) : Prop := ∀ pre mid post, OnPart e.Matches pre mid post ↔ P mid

section Describes

variable {a b e : Expr} {P Q : List Char → Prop} {pre mid post : List Char}

theorem Describes.congr (h : e.Describes P) (hPQ : ∀ mid, P mid ↔ Q mid) : e.Describes Q :=
  fun pre mid post => (h pre mid post).trans (hPQ mid)

theorem describes_chars (s : CharSet) : (chars s).Describes fun mid => ∃ c, mid = [c] ∧ s.contains c = true :=
  fun _ _ _ => onPart_chars

theorem describes_single (c : Char) : (chars (.single c)).Describes (· = [c]) :=
  (describes_chars (.single c)).congr fun mid => by simp [CharSet.contains_single]

theorem Describes.cat (ha : a.Describes P) (hb : b.Describes Q) :
    (Expr.cat a b).Describes fun mid => ∃ fst snd, mid = fst ++ snd ∧ P fst ∧ Q snd := by
  intro pre mid post
  rw [onPart_cat]
  exact exists_congr fun fst => exists_congr fun snd =>
    and_congr_right fun _ => and_congr (ha _ _ _) (hb _ _ _)

theorem Describes.single_cat (h : b.Describes Q) (c : Char) :
    (Expr.cat (chars (.single c)) b).Describes fun mid => ∃ snd, mid = c :: snd ∧ Q snd := by
  refine ((describes_single c).cat h).congr fun mid => ⟨?_, ?_⟩
  · rintro ⟨_, snd, rfl, rfl, hsnd⟩
    exact ⟨snd, rfl, hsnd⟩
  · rintro ⟨snd, rfl, hsnd⟩
    exact ⟨[c], snd, rfl, rfl, hsnd⟩

theorem Describes.cat_single (h : a.Describes P) (c : Char) :
    (Expr.cat a (chars (.single c))).Describes fun mid => ∃ fst, mid = fst ++ [c] ∧ P fst := by
  refine (h.cat (describes_single c)).congr fun mid => ⟨?_, ?_⟩
  · rintro ⟨fst, _, rfl, hfst, rfl⟩
    exact ⟨fst, rfl, hfst⟩
  · rintro ⟨fst, rfl, hfst⟩
    exact ⟨fst, [c], rfl, hfst, rfl⟩

theorem Describes.alt (ha : a.Describes P) (hb : b.Describes Q) :
    (Expr.alt a b).Describes fun mid => P mid ∨ Q mid :=
  fun pre mid post => or_congr (ha pre mid post) (hb pre mid post)

theorem Describes.onPart_rounds (h : e.Describes P) (n : Nat) : OnPart (Rounds e.Matches n) pre mid post ↔
    ∃ parts : List (List Char), parts.length = n ∧ (∀ part ∈ parts, P part) ∧ mid = parts.flatten := by
  induction n generalizing pre mid with
  | zero =>
    refine onPart_eq.trans ⟨fun hmid => ⟨[], rfl, by simp, hmid⟩, ?_⟩
    rintro ⟨parts, hlength, -, rfl⟩
    rw [List.eq_nil_of_length_eq_zero hlength, List.flatten_nil]
  | succ n ih =>
    rw [onPart_rounds_succ]
    constructor
    · rintro ⟨fst, snd, rfl, hfst, hsnd⟩
      obtain ⟨parts, hlength, hparts, rfl⟩ := ih.1 hsnd
      refine ⟨fst :: parts, ?_, List.forall_mem_cons.2 ⟨(h _ _ _).1 hfst, hparts⟩, rfl⟩
      rw [List.length_cons, hlength]
    · rintro ⟨parts, hlength, hparts, rfl⟩
      obtain ⟨fst, parts, rfl⟩ := List.exists_cons_of_length_eq_add_one hlength
      obtain ⟨hfst, hparts⟩ := List.forall_mem_cons.1 hparts
      exact ⟨fst, parts.flatten, rfl, (h _ _ _).2 hfst, ih.2 ⟨parts, Nat.succ.inj hlength, hparts, rfl⟩⟩

theorem Describes.rep (h : e.Describes P) (count : Count) (greedy : Bool) : (Expr.rep e count greedy).Describes
    fun mid => ∃ parts : List (List Char),
      count.Allows parts.length ∧ (∀ part ∈ parts, P part) ∧ mid = parts.flatten := by
  intro pre mid post
  constructor
  · rintro ⟨n, hn, hrounds⟩
    obtain ⟨parts, rfl, hparts, hmid⟩ := (h.onPart_rounds n).1 hrounds
    exact ⟨parts, hn, hparts, hmid⟩
  · rintro ⟨parts, hn, hparts, hmid⟩
    exact ⟨parts.length, hn, (h.onPart_rounds _).2 ⟨parts, rfl, hparts, hmid⟩⟩

theorem Describes.rep_flatMap {α : Type} {write : α → List Char} {P : α → Prop}
    (h : e.Describes fun mid => ∃ a, mid = write a ∧ P a) (count : Count) (greedy : Bool) :
    (Expr.rep e count greedy).Describes fun mid => ∃ as : List α,
      count.Allows as.length ∧ (∀ a ∈ as, P a) ∧ mid = as.flatMap write := by
  have hwritten : ∀ parts : List (List Char), (∀ part ∈ parts, ∃ a, part = write a ∧ P a) →
      ∃ as : List α, parts = as.map write ∧ ∀ a ∈ as, P a := by
    intro parts hparts
    induction parts with
    | nil => exact ⟨[], rfl, List.forall_mem_nil _⟩
    | cons part parts ih =>
      obtain ⟨⟨a, hpart, ha⟩, hrest⟩ := List.forall_mem_cons.1 hparts
      obtain ⟨as, rfl, has⟩ := ih hrest
      exact ⟨a :: as, by rw [hpart, List.map_cons], List.forall_mem_cons.2 ⟨ha, has⟩⟩
  refine (h.rep count greedy).congr fun mid => ⟨?_, ?_⟩
  · rintro ⟨parts, hcount, hparts, rfl⟩
    obtain ⟨as, rfl, has⟩ := hwritten parts hparts
    exact ⟨as, by rwa [List.length_map] at hcount, has, List.flatMap_def.symm⟩
  · rintro ⟨as, hcount, has, rfl⟩
    refine ⟨as.map write, by rwa [List.length_map], fun part hpart => ?_, List.flatMap_def⟩
    obtain ⟨a, ha, rfl⟩ := List.mem_map.1 hpart
    exact ⟨a, rfl, has a ha⟩

theorem Describes.optional (h : e.Describes P) (greedy : Bool) :
    (Expr.rep e .optional greedy).Describes fun mid => mid = [] ∨ P mid := by
  refine (h.rep .optional greedy).congr fun mid => ⟨?_, ?_⟩
  · rintro ⟨parts, ⟨-, hmax⟩, hparts, rfl⟩
    have hlength : parts.length ≤ 1 := hmax 1 rfl
    match parts with
    | [] => exact .inl rfl
    | [part] => exact .inr (by simpa using hparts)
    | _ :: _ :: _ => exact absurd hlength (by simp)
  · rintro (rfl | hmid)
    · exact ⟨[], ⟨Nat.zero_le _, fun _ _ => Nat.zero_le _⟩, by simp, rfl⟩
    · refine ⟨[mid], ⟨Nat.zero_le _, ?_⟩, by simpa using hmid, by simp⟩
      rintro n ⟨⟩
      exact Nat.le_refl 1

theorem describes_rep_chars (s : CharSet) (count : Count) (greedy : Bool) :
    (Expr.rep (chars s) count greedy).Describes
      fun mid => count.Allows mid.length ∧ ∀ c ∈ mid, s.contains c = true := by
  intro pre mid post
  constructor
  · rintro ⟨n, hn, hrounds⟩
    obtain ⟨part, rest, rfl, hpart, htext, hstop⟩ := rounds_chars.1 hrounds
    obtain rfl : post = rest := congrArg Cursor.rest hstop
    obtain rfl := List.append_cancel_right htext
    exact ⟨hn, hpart⟩
  · rintro ⟨hn, hmid⟩
    exact ⟨mid.length, hn, rounds_chars.2 ⟨mid, post, rfl, hmid, rfl, rfl⟩⟩

end Describes

end Expr

/-! ## Conditions at both ends -/

/-- An expression between two conditions. -/
def Expr.enclosed (left : Look) (body : List Expr) (right : Look) : Expr :=
  .ofFactors (.look left :: (body ++ [.look right]))

theorem Expr.onPart_enclosed {left right : Look} {body : List Expr} {P : List Char → Prop}
    (h : (ofFactors body).Describes P) {pre mid post : List Char} :
    OnPart (enclosed left body right).Matches pre mid post ↔
      P mid ∧ left.holds (.between pre (mid ++ post)) = true ∧ right.holds (.between (pre ++ mid) post) = true := by
  rw [← h pre mid post]
  unfold OnPart enclosed
  rw [matches_ofFactors, matches_ofFactors, InTurn]
  simp only [inTurn_append, inTurn_singleton, Matches]
  constructor
  · rintro ⟨_, ⟨rfl, hleft⟩, m, hbody, rfl, hright⟩
    exact ⟨hbody, hleft, hright⟩
  · rintro ⟨hbody, hleft, hright⟩
    exact ⟨_, ⟨rfl, hleft⟩, _, hbody, rfl, hright⟩

/-- Between word boundaries an expression that starts and ends in a word matches what no word character stands
next to. -/
theorem Expr.onPart_enclosed_wordBoundary {body : List Expr} {P : List Char → Prop}
    (h : (ofFactors body).Describes P) (hfirst : (ofFactors body).firstIn Unicode.asciiWordChars false = true)
    (hlast : (ofFactors body).lastIn Unicode.asciiWordChars false = true) {pre mid post : List Char} :
    OnPart (enclosed (.wordBoundary true) body (.wordBoundary true)).Matches pre mid post ↔
      P mid ∧ isWordSide true pre.getLast? = false ∧ isWordSide true post.head? = false := by
  rw [onPart_enclosed h]
  apply and_congr_right
  intro hmid
  have hbody := (h pre mid post).2 hmid
  have hafter : isWordSide true (mid ++ post).head? = true :=
    isWordSide_of_ascii true (hasFirst_of_firstIn hfirst hbody nofun)
  have hbefore : isWordSide true (pre ++ mid).getLast? = true :=
    isWordSide_of_ascii true (hasLast_of_lastIn hlast hbody nofun)
  unfold Look.holds Cursor.between
  simp only [hafter, hbefore, bne_iff_ne, ne_eq, Bool.not_eq_true, Bool.true_eq]

/-! ## Parts with a property -/

/-- A property that parts of a text have because of the character before them, themselves, and the text behind
them. From each place at most one part has it, which is not empty. -/
structure Delimits (R : Option Char → List Char → List Char → Prop) : Prop where
  ne_nil : ∀ {prev mid post}, R prev mid post → mid ≠ []
  unique : ∀ {prev mid post mid' post'}, R prev mid post → R prev mid' post' → mid ++ post = mid' ++ post' →
    mid = mid'

open Classical in
/-- The part with the property that begins at a place, if there is one. -/
noncomputable def partBy (R : Option Char → List Char → List Char → Prop) (prev : Option Char)
    (rest : List Char) : Option (List Char) :=
  if h : ∃ mid post, rest = mid ++ post ∧ R prev mid post then some h.choose else none

/-- The parts with the property from left to right, each with all that stands before it. -/
noncomputable def partsBy (R : Option Char → List Char → List Char → Prop) (text : List Char) :
    List (List Char × List Char) :=
  partsFrom (partBy R) 0 [] text

section Delimits

variable {R : Option Char → List Char → List Char → Prop} {prev : Option Char}
  {pre mid post rest text : List Char}

theorem Delimits.partBy_eq_some (hR : Delimits R) :
    partBy R prev rest = some mid ↔ ∃ post, rest = mid ++ post ∧ R prev mid post := by
  unfold partBy
  split
  · next h =>
    obtain ⟨post, hpost, hchosen⟩ := h.choose_spec
    rw [Option.some.injEq]
    constructor
    · rintro rfl
      exact ⟨post, hpost, hchosen⟩
    · rintro ⟨post', rfl, hmid⟩
      exact hR.unique hchosen hmid hpost.symm
  · next h => exact iff_of_false nofun fun ⟨post, hrest, hmid⟩ => h ⟨mid, post, hrest, hmid⟩

theorem Delimits.partBy_eq_none (hR : Delimits R) :
    partBy R prev rest = none ↔ ∀ mid post, rest = mid ++ post → ¬ R prev mid post := by
  simp only [Option.eq_none_iff_forall_ne_some, Ne, hR.partBy_eq_some, not_exists, not_and]

theorem Delimits.exists_of_mem (hR : Delimits R) {r : List Char × List Char} (h : r ∈ partsBy R text) :
    ∃ post, text = r.1 ++ r.2 ++ post ∧ R r.1.getLast? r.2 post := by
  obtain ⟨passed, rest, rfl, hbefore, -, hpart⟩ := exists_append_of_mem_partsFrom h
  obtain ⟨post, rfl, hr⟩ := hR.partBy_eq_some.1 hpart
  rw [List.nil_append] at hbefore
  exact ⟨post, by rw [hbefore, List.append_assoc], hr⟩

theorem pairwise_partsBy (R : Option Char → List Char → List Char → Prop) (text : List Char) :
    (partsBy R text).Pairwise fun a b => a.1.length + a.2.length ≤ b.1.length :=
  pairwise_partsFrom 0 [] text

/-- A part with the property is read if no part with the property that begins before it reaches into it. -/
theorem Delimits.mem_partsBy (hR : Delimits R) (h : R pre.getLast? mid post)
    (hfree : ∀ left right other behind, pre = left ++ right → right ≠ [] →
      other ++ behind = right ++ (mid ++ post) → R left.getLast? other behind → other.length ≤ right.length) :
    (pre, mid) ∈ partsBy R (pre ++ mid ++ post) := by
  have hne : mid ++ post ≠ [] := List.append_ne_nil_of_left_ne_nil (hR.ne_nil h) post
  have hmem : ([] ++ pre, mid) ∈ partsFrom (partBy R) 0 [] (pre ++ (mid ++ post)) := by
    refine mem_partsFrom_of_free (Nat.zero_le _) hne (hR.partBy_eq_some.2 ⟨post, rfl, h⟩) ?_
    intro left right other hpre hright hother
    obtain ⟨behind, htext, hother⟩ := hR.partBy_eq_some.1 hother
    exact hfree left right other behind hpre hright htext.symm hother
  rwa [List.nil_append, ← List.append_assoc] at hmem

/-- An expression that matches just the parts with such a property reads them. -/
theorem Delimits.reads (hR : Delimits R) {e : Expr}
    (he : ∀ pre mid post, OnPart e.Matches pre mid post ↔ R pre.getLast? mid post) : e.Reads (partBy R) := by
  refine ⟨fun pre rest d => ⟨fun hd => ?_, ?_⟩, fun prev rest part hpart => ?_⟩
  · obtain ⟨mid, post, rfl, rfl⟩ := e.advances_matches pre rest d hd
    exact ⟨mid, post, rfl, hR.partBy_eq_some.2 ⟨post, rfl, (he pre mid post).1 hd⟩, rfl⟩
  · rintro ⟨part, post, rfl, hpart, rfl⟩
    obtain ⟨post', hpost, hmid⟩ := hR.partBy_eq_some.1 hpart
    obtain rfl := List.append_cancel_left hpost
    exact (he pre part post).2 hmid
  · obtain ⟨post, rfl, hmid⟩ := hR.partBy_eq_some.1 hpart
    exact ⟨hR.ne_nil hmid, List.prefix_append part post⟩

end Delimits

/-- A run of characters of one kind is known by the text that it starts. -/
theorem append_inj_of_kind {p : Char → Bool} {run run' rest rest' : List Char} (hrun : ∀ c ∈ run, p c = true)
    (hrun' : ∀ c ∈ run', p c = true) (hrest : ∀ c ∈ rest.head?, p c = false)
    (hrest' : ∀ c ∈ rest'.head?, p c = false) (h : run ++ rest = run' ++ rest') : run = run' ∧ rest = rest' := by
  have hstop : ∀ rest : List Char, (∀ c ∈ rest.head?, p c = false) → rest.takeWhile p = [] := by
    intro rest hrest
    cases rest with
    | nil => rfl
    | cons c rest => exact List.takeWhile_cons_of_neg (Bool.eq_false_iff.1 (hrest c rfl))
  have hsame : run = run' := by
    have htake := congrArg (List.takeWhile p) h
    rwa [List.takeWhile_append_of_pos hrun, List.takeWhile_append_of_pos hrun', hstop rest hrest,
      hstop rest' hrest', List.append_nil, List.append_nil] at htake
  subst hsame
  exact ⟨rfl, List.append_cancel_left h⟩

/-! ## What a sweep has under a name -/

/-- Hits as a sweep has them under a name: none is nothing at all. -/
def listed (hits : List String) : Option (List String) := if hits.isEmpty then none else some hits

theorem Options.toOption_compile_ofList {o : Options} {text : List Char} {e : Option Expr}
    (h : (o.compile text).toOption = e) : (o.compile (String.ofList text).toList).toOption = e := by
  rwa [String.toList_ofList]

/-- The texts that an expression finds that reads parts are those parts. -/
theorem Expr.Reads.fullMatches {e : Expr} {part? : Option Char → List Char → Option (List Char)}
    (h : e.Reads part?) {p : Pattern} (hp : p.program = e.program) (input : String) :
    p.fullMatches input = (partsFrom part? 0 [] input.toList).map fun r => String.ofList r.2 := by
  have hparts := congrArg (List.map fun r => String.ofList ((r.2.2.join.map Capture.text).getD []))
    (h.occurrences input.toList)
  rw [List.map_map, List.map_map, ← hp] at hparts
  rw [Pattern.fullMatches_eq]
  exact hparts

namespace Catalog

theorem get?_of_sweep_of_compile {c : Catalog} {d : Disclosure} {input name pattern : String} {found : Findings}
    {p : Pattern} (h : (c.sweep d input).value = .ok found) (hname : c.get? name = some pattern)
    (hne : pattern.isEmpty = false) (hp : Pattern.compile pattern .none = .ok p) :
    found.get? name = listed (p.fullMatches input) := by
  have hfinding : finding input pattern = if p.occursIn input then some (p.fullMatches input) else none := by
    rw [finding, hne, search_eq_ok hp]
    rfl
  have hoccurs := p.fullMatches_ne_nil_iff input
  rw [get?_of_sweep h, hname, Option.bind_some, hfinding, listed]
  cases hmatches : p.fullMatches input with
  | nil =>
    rw [hmatches] at hoccurs
    rw [if_neg fun hoccurs' => hoccurs.2 hoccurs' rfl]
    rfl
  | cons hit hits =>
    rw [hmatches] at hoccurs
    rw [if_pos (hoccurs.1 (List.cons_ne_nil hit hits))]
    rfl

/-- Under a name of the built-in catalog a sweep has the parts that the entry's expression reads. -/
theorem get?_of_sweep_builtin {name pattern : String} {e : Expr}
    {part? : Option Char → List Char → Option (List Char)} (hname : (ofList builtinEntries).get? name = some pattern)
    (hne : pattern.isEmpty = false) (he : (Options.none.compile pattern.toList).toOption = some e)
    (hreads : e.Reads part?) {d : Disclosure} {input : String} {found : Findings}
    (h : (builtin.sweep d input).value = .ok found) :
    found.get? name = listed ((partsFrom part? 0 [] input.toList).map fun r => String.ofList r.2) := by
  rw [← builtin_eq] at hname
  have hmatches := get?_of_sweep_of_compile h hname hne (Pattern.compile_of_expr he)
  rw [hmatches, hreads.fullMatches rfl]

end Catalog

end TextPattern
