import Mathlib.Data.List.Infix
import Mathlib.Data.List.TakeWhile
import TextPattern.Proofs.Agreement
import TextPattern.Syntax.Reader

/-!
# Reading a longer text

A pattern that is put into a longer text is read there as it is on its own, up to places.

* `Closing z` : the text `z` holds only characters that may stand behind a pattern put into another;
* `Reader.Longer z r r'` : the readers `r` and `r'` are at one place of a pattern, `z` being what only
  `r'` has still to read;
* `commentOpen` : a comment is open at the end of a text, `skipped_append` : what is skipped there;
* `Longer.skipBlanks`, `Longer.takeWhile` and so on : moving on keeps the relation as long as the reader
  does not get to the end of its text.
-/

namespace TextPattern.Syntax

open Unicode (isBlank)

/-! ## What stands behind a pattern -/

/-- The characters that may stand behind a pattern put into another: none of them goes on with an item
of the pattern. -/
def closers : List Char := ['\n', ')', '\\', 'z']

/-- The text may stand behind a pattern put into another. -/
def Closing (z : List Char) : Prop := ∀ c ∈ z, c ∈ closers

instance (z : List Char) : Decidable (Closing z) := List.decidableBAll (· ∈ closers) z

/-- No character of the sign may stand behind a pattern. -/
def Apart (sign : List Char) : Prop := ∀ x ∈ sign, x ∉ closers

instance (sign : List Char) : Decidable (Apart sign) := List.decidableBAll (· ∉ closers) sign

theorem Closing.ne {z : List Char} (hz : Closing z) {x c : Char} (hx : x ∉ closers) (hc : c ∈ z) :
    c ≠ x := by
  rintro rfl
  exact hx (hz c hc)

theorem Closing.head?_ne {z : List Char} (hz : Closing z) {x : Char} (hx : x ∉ closers) :
    z.head? ≠ some x :=
  fun h => hz.ne hx (List.mem_of_mem_head? h) rfl

theorem Closing.of_suffix {y z : List Char} (hz : Closing z) (h : y <:+ z) : Closing y :=
  fun c hc => hz c (h.subset hc)

theorem Closing.isPrefixOf_append {z : List Char} (hz : Closing z) {sign : List Char}
    (hsign : Apart sign) (text : List Char) :
    sign.isPrefixOf (text ++ z) = sign.isPrefixOf text := by
  induction sign generalizing text with
  | nil => rw [List.isPrefixOf_nil_left, List.isPrefixOf_nil_left]
  | cons x sign ih =>
    have hx := hsign x List.mem_cons_self
    cases text with
    | nil =>
      cases z with
      | nil => rfl
      | cons c z =>
        have hne : (x == c) = false := by simpa using (hz.ne hx List.mem_cons_self).symm
        rw [List.nil_append, List.isPrefixOf_cons_cons, hne, Bool.false_and]
        rfl
    | cons c text =>
      rw [List.cons_append, List.isPrefixOf_cons_cons, List.isPrefixOf_cons_cons,
        ih (fun y hy => hsign y (List.mem_cons_of_mem x hy))]

/-! ## Skipping -/

/-- What follows blanks and comments at the start of a text. -/
def skipped (text : List Char) (inComment : Bool) : List Char := (Reader.skipFrom text .first inComment).1

/-- A comment is open at the end of a text that holds blanks and comments only. -/
def commentOpen : List Char → Bool → Bool
  | [], inComment => inComment
  | c :: cs, inComment => commentOpen cs (if inComment then c != '\n' else c = '#')

theorem skipFrom_fst (text : List Char) (p q : Position) (inComment : Bool) :
    (Reader.skipFrom text p inComment).1 = (Reader.skipFrom text q inComment).1 := by
  induction text generalizing p q inComment with
  | nil => rfl
  | cons c text ih =>
    simp only [Reader.skipFrom]
    split
    · exact ih _ _ _
    · split
      · exact ih _ _ _
      · split
        · exact ih _ _ _
        · rfl

theorem skipped_cons (c : Char) (text : List Char) (inComment : Bool) :
    skipped (c :: text) inComment =
      if inComment then skipped text (c != '\n')
      else if isBlank c then skipped text false
      else if c = '#' then skipped text true
      else c :: text := by
  simp only [skipped, Reader.skipFrom]
  split
  · exact skipFrom_fst _ _ _ _
  · split
    · exact skipFrom_fst _ _ _ _
    · split
      · exact skipFrom_fst _ _ _ _
      · rfl

theorem skipped_suffix (text : List Char) (inComment : Bool) : skipped text inComment <:+ text := by
  induction text generalizing inComment with
  | nil => exact List.suffix_refl _
  | cons c text ih =>
    rw [skipped_cons]
    split
    · exact (ih _).trans (List.suffix_cons c text)
    · split
      · exact (ih _).trans (List.suffix_cons c text)
      · split
        · exact (ih _).trans (List.suffix_cons c text)
        · exact List.suffix_refl _

/-- Skipping stops in the first part of a text, or else goes on in the second. -/
theorem skipped_append (text z : List Char) (inComment : Bool) :
    skipped (text ++ z) inComment =
      if skipped text inComment = [] then skipped z (commentOpen text inComment)
      else skipped text inComment ++ z := by
  induction text generalizing inComment with
  | nil => rfl
  | cons c text ih =>
    have hhash : isBlank '#' = false := by decide
    rw [List.cons_append, skipped_cons, skipped_cons, commentOpen]
    cases inComment with
    | true => exact ih _
    | false =>
      by_cases hb : isBlank c = true
      · have hne : c ≠ '#' := by
          rintro rfl
          simp [hhash] at hb
        simpa [hb, hne] using ih false
      · by_cases hc : c = '#'
        · simpa [hc, hhash] using ih true
        · simp [hb, hc]

/-! ## Readers of a longer text -/

namespace Reader

variable {z : List Char} {r r' : Reader}

/-- The reader `r'` is at the place of `r` in a text that is longer by `z`. -/
structure Longer (z : List Char) (r r' : Reader) : Prop where
  rest : r'.rest = r.rest ++ z
  extended : r'.extended = r.extended
  captures : r'.captures = r.captures
  names : r'.names.map Prod.fst = r.names.map Prod.fst

theorem rest_bump (r : Reader) : r.bump.rest = r.rest.tail := by
  unfold bump
  split <;> simp [*]

theorem rest_skipBlanks (r : Reader) :
    r.skipBlanks.rest = if r.extended then skipped r.rest false else r.rest := by
  unfold skipBlanks
  split
  · exact skipFrom_fst _ _ _ _
  · rfl

@[simp] theorem extended_bump (r : Reader) : r.bump.extended = r.extended := by
  unfold bump
  split <;> rfl

@[simp] theorem extended_skipBlanks (r : Reader) : r.skipBlanks.extended = r.extended := by
  unfold skipBlanks
  split <;> rfl

@[simp] theorem captures_skipBlanks (r : Reader) : r.skipBlanks.captures = r.captures := by
  unfold skipBlanks
  split <;> rfl

@[simp] theorem names_skipBlanks (r : Reader) : r.skipBlanks.names = r.names := by
  unfold skipBlanks
  split <;> rfl

theorem rest_advance (r : Reader) :
    r.advance.rest = if r.extended then skipped r.rest.tail false else r.rest.tail := by
  rw [advance, rest_skipBlanks, rest_bump, extended_bump]

theorem rest_bumpN (n : Nat) (r : Reader) : (bumpN n r).rest = r.rest.drop n := by
  induction n generalizing r with
  | zero => rfl
  | succ n ih => rw [bumpN, ih, rest_bump, List.drop_tail]

theorem past?_of_nil {x : Char} {sign : List Char} (hr : r.rest = []) : r.past? (x :: sign) = none := by
  rw [past?, hr]
  rfl

namespace Longer

theorem rest_of_cons (h : Longer z r r') {c : Char} {cs : List Char} (hr : r.rest = c :: cs) :
    r'.rest = c :: (cs ++ z) := by
  rw [h.rest, hr, List.cons_append]

theorem bump (h : Longer z r r') (hne : r.rest ≠ []) : Longer z r.bump r'.bump := by
  obtain ⟨c, cs, hr⟩ := List.exists_cons_of_ne_nil hne
  have hr' := h.rest_of_cons hr
  simp only [Reader.bump, hr, hr']
  exact ⟨rfl, h.extended, h.captures, h.names⟩

theorem bumpN {n : Nat} (h : Longer z r r') (hn : n ≤ r.rest.length) :
    Longer z (bumpN n r) (bumpN n r') := by
  induction n generalizing r r' with
  | zero => exact h
  | succ n ih =>
    have hne : r.rest ≠ [] := List.ne_nil_of_length_pos (by omega)
    refine ih (h.bump hne) ?_
    rw [rest_bump, List.length_tail]
    omega

theorem skipBlanks (h : Longer z r r') (hne : r.skipBlanks.rest ≠ []) :
    Longer z r.skipBlanks r'.skipBlanks := by
  refine ⟨?_, by simpa using h.extended, by simpa using h.captures, by simpa using h.names⟩
  rw [rest_skipBlanks] at hne ⊢
  rw [rest_skipBlanks, h.extended, h.rest]
  split
  · next hext =>
    rw [if_pos hext] at hne
    rw [skipped_append, if_neg hne]
  · rfl

/-- Behind the end of the shorter text what is skipped is part of `z`. -/
theorem skipBlanks_suffix (h : Longer z r r') (hnil : r.skipBlanks.rest = []) :
    r'.skipBlanks.rest <:+ z := by
  rw [rest_skipBlanks] at hnil ⊢
  rw [h.extended, h.rest]
  split
  · next hext =>
    rw [if_pos hext] at hnil
    rw [skipped_append, if_pos hnil]
    exact skipped_suffix _ _
  · next hext =>
    rw [if_neg hext] at hnil
    rw [hnil]
    exact List.suffix_refl z

theorem advance (h : Longer z r r') (hne : r.advance.rest ≠ []) : Longer z r.advance r'.advance := by
  refine (h.bump fun hnil => hne ?_).skipBlanks hne
  rw [rest_advance, hnil]
  split <;> rfl

theorem advance_suffix (h : Longer z r r') (hr : r.rest ≠ []) (hnil : r.advance.rest = []) :
    r'.advance.rest <:+ z :=
  (h.bump hr).skipBlanks_suffix hnil

theorem rest_ne_nil (h : Longer z r r') (hne : r.rest ≠ []) : r'.rest ≠ [] := by
  rw [h.rest]
  exact List.append_ne_nil_of_left_ne_nil hne z

/-- No character of `z` is taken for one that goes on with an item. -/
theorem head?_eq (h : Longer z r r') (hz : Closing z) {x : Char} (hx : x ∉ closers) :
    r'.rest.head? = some x ↔ r.rest.head? = some x := by
  rw [h.rest]
  cases hr : r.rest with
  | nil => simpa using hz.head?_ne hx
  | cons c cs => rfl

end Longer

/-! ## Runs of characters -/

theorem takeFrom_suffix (p : Char → Bool) (ext : Bool) (cs : List Char) (pos : Position)
    (inComment : Bool) (taken : List (Char × Position)) :
    (takeFrom p ext cs pos inComment taken).2.1 <:+ cs := by
  induction cs generalizing pos inComment taken with
  | nil => exact List.suffix_refl _
  | cons c cs ih =>
    simp only [takeFrom]
    split
    · exact (ih _ _ _).trans (List.suffix_cons c cs)
    · split
      · exact (ih _ _ _).trans (List.suffix_cons c cs)
      · split
        · exact (ih _ _ _).trans (List.suffix_cons c cs)
        · split
          · exact (ih _ _ _).trans (List.suffix_cons c cs)
          · exact List.suffix_refl _

theorem takeFrom_append (p : Char → Bool) (ext : Bool) (cs z : List Char) (pos pos' : Position)
    (inComment : Bool) (taken taken' : List (Char × Position))
    (htaken : taken'.map Prod.fst = taken.map Prod.fst)
    (hne : (takeFrom p ext cs pos inComment taken).2.1 ≠ []) :
    (takeFrom p ext (cs ++ z) pos' inComment taken').1.map Prod.fst =
        (takeFrom p ext cs pos inComment taken).1.map Prod.fst ∧
      (takeFrom p ext (cs ++ z) pos' inComment taken').2.1 =
        (takeFrom p ext cs pos inComment taken).2.1 ++ z := by
  induction cs generalizing pos pos' inComment taken taken' with
  | nil => exact absurd rfl hne
  | cons c cs ih =>
    simp only [takeFrom, List.cons_append] at hne ⊢
    split at hne
    · next hc =>
      rw [if_pos hc, if_pos hc]
      exact ih _ _ _ _ _ htaken hne
    · next hc =>
      rw [if_neg hc, if_neg hc]
      split at hne
      · next hb =>
        rw [if_pos hb, if_pos hb]
        exact ih _ _ _ _ _ htaken hne
      · next hb =>
        rw [if_neg hb, if_neg hb]
        split at hne
        · next hh =>
          rw [if_pos hh, if_pos hh]
          exact ih _ _ _ _ _ htaken hne
        · next hh =>
          rw [if_neg hh, if_neg hh]
          split at hne
          · next hp =>
            rw [if_pos hp, if_pos hp]
            exact ih _ _ _ _ _ (by simp [htaken]) hne
          · next hp =>
            rw [if_neg hp, if_neg hp]
            exact ⟨htaken, rfl⟩

theorem dropBlanksFrom_suffix (cs : List Char) (pos : Position) : (dropBlanksFrom cs pos).1 <:+ cs := by
  induction cs generalizing pos with
  | nil => exact List.suffix_refl _
  | cons c cs ih =>
    simp only [dropBlanksFrom]
    split
    · exact (ih _).trans (List.suffix_cons c cs)
    · exact List.suffix_refl _

theorem dropBlanksFrom_append (cs z : List Char) (pos pos' : Position)
    (hne : (dropBlanksFrom cs pos).1 ≠ []) :
    (dropBlanksFrom (cs ++ z) pos').1 = (dropBlanksFrom cs pos).1 ++ z := by
  induction cs generalizing pos pos' with
  | nil => exact absurd rfl hne
  | cons c cs ih =>
    simp only [dropBlanksFrom, List.cons_append] at hne ⊢
    split at hne
    · next hb =>
      rw [if_pos hb, if_pos hb]
      exact ih _ _ hne
    · next hb =>
      rw [if_neg hb, if_neg hb]
      rfl

namespace Longer

theorem takePlaced {p : Char → Bool} (h : Longer z r r') (hne : (r.takePlaced p).2.rest ≠ []) :
    (r'.takePlaced p).1.map Prod.fst = (r.takePlaced p).1.map Prod.fst ∧
      Longer z (r.takePlaced p).2 (r'.takePlaced p).2 := by
  obtain ⟨htaken, hrest⟩ := takeFrom_append p r.extended r.rest z r.pos r'.pos false [] [] rfl hne
  refine ⟨?_, ?_, h.extended, h.captures, h.names⟩
  · simp only [Reader.takePlaced, List.map_reverse, h.extended, h.rest, htaken]
  · simp only [Reader.takePlaced, h.extended, h.rest, hrest]

theorem takeWhile {p : Char → Bool} (h : Longer z r r') {chars : List Char} {s : Reader}
    (hs : r.takeWhile p = (chars, s)) (hne : s.rest ≠ []) :
    ∃ s', r'.takeWhile p = (chars, s') ∧ Longer z s s' := by
  obtain ⟨rfl, rfl⟩ := Prod.mk.inj hs
  obtain ⟨hchars, hlonger⟩ := h.takePlaced hne
  exact ⟨_, Prod.ext hchars rfl, hlonger⟩

theorem advance_takeWhile {p : Char → Bool} (h : Longer z r r') {chars : List Char} {s : Reader}
    (hs : r.advance.takeWhile p = (chars, s)) (hne : s.rest ≠ []) :
    ∃ s', r'.advance.takeWhile p = (chars, s') ∧ Longer z s s' := by
  refine (h.advance fun hnil => hne ?_).takeWhile hs hne
  rw [← (Prod.mk.inj hs).2]
  exact List.suffix_nil.1 (hnil ▸ takeFrom_suffix _ _ _ _ _ _)

theorem dropBlanks (h : Longer z r r') (hne : r.dropBlanks.rest ≠ []) :
    Longer z r.dropBlanks r'.dropBlanks := by
  refine ⟨?_, h.extended, h.captures, h.names⟩
  have happ := dropBlanksFrom_append r.rest z r.pos r'.pos hne
  rw [← h.rest] at happ
  exact happ

/-! ## Looking ahead -/

theorem unlessEnd {kind : FaultKind} {span span' : Span} (h : r.rest ≠ [] → Longer z r r') :
    Agrees (fun x y => x.rest ≠ [] ∧ Longer z x y) (r.unlessEnd kind span) (r'.unlessEnd kind span') := by
  unfold Reader.unlessEnd
  by_cases hend : r.rest = []
  · rw [if_pos (by simpa using hend)]
    exact agrees_fail
  · have hlonger := h hend
    rw [if_neg (by simpa using hend), if_neg (by simpa using hlonger.rest_ne_nil hend)]
    exact .ok ⟨hend, hlonger⟩

theorem past? (h : Longer z r r') (hz : Closing z) {sign : List Char} (hsign : Apart sign) :
    Option.Rel (Longer z) (r.past? sign) (r'.past? sign) := by
  unfold Reader.past?
  rw [h.rest, hz.isPrefixOf_append hsign]
  by_cases hp : sign.isPrefixOf r.rest = true
  · rw [if_pos hp, if_pos hp]
    exact .some (h.bumpN (List.isPrefixOf_iff_prefix.1 hp).length_le)
  · rw [if_neg hp, if_neg hp]
    exact .none

theorem advance_past? (h : Longer z r r') (hz : Closing z) (hr : r.rest ≠ []) {sign : List Char}
    (hsign : Apart sign) (hne : sign ≠ []) :
    Option.Rel (Longer z) (r.advance.past? sign) (r'.advance.past? sign) := by
  by_cases hend : r.advance.rest = []
  · -- The shorter text ends here, and what is left of the longer one starts no sign.
    have hz' := hz.of_suffix (h.advance_suffix hr hend)
    have hnot := hz'.isPrefixOf_append hsign []
    have hnil : sign.isPrefixOf [] = false := by
      cases sign with
      | nil => exact absurd rfl hne
      | cons x sign => rfl
    unfold Reader.past?
    rw [List.nil_append] at hnot
    rw [hend, hnot, hnil]
    exact .none
  · exact (h.advance hend).past? hz hsign

/-- The characters up to a sign that does not close are the same in both readers, unless the sign is
missing in both. -/
theorem takeWhile_ne (h : Longer z r r') (hz : Closing z) {x : Char} (hx : x ∉ closers) :
    (r'.rest.takeWhile (· != x) = r.rest.takeWhile (· != x) ∧
        Longer z (Reader.bumpN (r.rest.takeWhile (· != x)).length r)
          (Reader.bumpN (r.rest.takeWhile (· != x)).length r')) ∨
      (Reader.bumpN (r.rest.takeWhile (· != x)).length r).rest = [] ∧
        (Reader.bumpN (r'.rest.takeWhile (· != x)).length r').rest = [] := by
  have hle := (List.takeWhile_sublist (· != x) (l := r.rest)).length_le
  rw [h.rest, List.takeWhile_append, rest_bumpN, rest_bumpN, h.rest]
  split
  · next hall =>
    have hz' : z.takeWhile (· != x) = z :=
      List.takeWhile_eq_self_iff.2 fun c hc => by simpa using hz.ne hx hc
    refine .inr ⟨by simp [hall], ?_⟩
    rw [hz', List.drop_length]
  · exact .inl ⟨rfl, h.bumpN hle⟩

end Longer

theorem exists_of_rel {α β : Type} {R : α → β → Prop} {x : Option α} {y : Option β}
    (h : Option.Rel R x y) : (x = none ∧ y = none) ∨ ∃ a b, x = some a ∧ y = some b ∧ R a b := by
  cases h with
  | some hab => exact .inr ⟨_, _, rfl, rfl, hab⟩
  | none => exact .inl ⟨rfl, rfl⟩

theorem rel_bind {α β γ δ : Type} {R : α → β → Prop} {S : γ → δ → Prop} {x : Option α} {y : Option β}
    {f : α → Option γ} {g : β → Option δ} (h : Option.Rel R x y)
    (hfg : ∀ a b, R a b → Option.Rel S (f a) (g b)) : Option.Rel S (x >>= f) (y >>= g) := by
  cases h with
  | some hab => exact hfg _ _ hab
  | none => exact .none

theorem rel_or {α β : Type} {R : α → β → Prop} {x x' : Option α} {y y' : Option β}
    (h : Option.Rel R x y) (h' : Option.Rel R x' y') : Option.Rel R (x.or x') (y.or y') := by
  cases h with
  | some hab => exact .some hab
  | none => exact h'

theorem firstSolid_append_of_some {cs : List Char} {inComment : Bool} {x : Char}
    (h : firstSolid cs inComment = some x) : firstSolid (cs ++ z) inComment = some x := by
  induction cs generalizing inComment with
  | nil => cases h
  | cons c cs ih =>
    simp only [firstSolid, List.cons_append] at h ⊢
    split at h
    · next hb => rw [if_pos hb, ih h]
    · next hb =>
      rw [if_neg hb]
      split at h
      · next hc => rw [if_pos hc, ih h]
      · next hc => rw [if_neg hc, h]

theorem mem_of_firstSolid {cs : List Char} {inComment : Bool} {x : Char}
    (h : firstSolid cs inComment = some x) : x ∈ cs := by
  induction cs generalizing inComment with
  | nil => cases h
  | cons c cs ih =>
    simp only [firstSolid] at h
    split at h
    · exact List.mem_cons_of_mem c (ih h)
    · split at h
      · exact List.mem_cons_of_mem c (ih h)
      · obtain rfl := Option.some.inj h
        exact List.mem_cons_self

/-- Before the end of a text without solid characters there are only blanks and signs of comments, and
the first solid character of a longer one is behind. -/
theorem firstSolid_append_of_none {cs : List Char} {inComment : Bool}
    (h : firstSolid cs inComment = none) :
    (∀ c ∈ cs, isBlank c = true ∨ c = '#') ∧
      ∃ b, firstSolid (cs ++ z) inComment = firstSolid z b := by
  induction cs generalizing inComment with
  | nil => exact ⟨by simp, inComment, rfl⟩
  | cons c cs ih =>
    simp only [firstSolid, List.cons_append] at h ⊢
    split at h
    · next hb =>
      rw [if_pos hb]
      exact ⟨List.forall_mem_cons.2 ⟨.inl hb, (ih h).1⟩, (ih h).2⟩
    · next hb =>
      rw [if_neg hb]
      split at h
      · next hc =>
        rw [if_pos hc]
        have hc : c = '#' := by simpa using (Bool.and_eq_true_iff.1 hc).2
        exact ⟨List.forall_mem_cons.2 ⟨.inr hc, (ih h).1⟩, (ih h).2⟩
      · cases h

/-- What `z` adds is not taken for a character that goes on with a range. -/
theorem Longer.peekPast (h : Longer z r r') (hz : Closing z) (hne : r.rest ≠ []) {x : Char}
    (hx : x ∉ closers) (hsolid : ¬ (isBlank x = true ∨ x = '#')) :
    r'.peekPast = some x ↔ r.peekPast = some x := by
  obtain ⟨c, cs, hr⟩ := List.exists_cons_of_ne_nil hne
  have hr' := h.rest_of_cons hr
  have hhead : (cs ++ z).head? = some x ↔ cs.head? = some x := by
    cases cs with
    | nil => simpa using hz.head?_ne hx
    | cons a cs => rfl
  unfold Reader.peekPast
  rw [h.extended, hr, hr']
  split
  · dsimp only
    cases hs : firstSolid cs false with
    | some a => rw [firstSolid_append_of_some hs, Option.some_or, Option.some_or]
    | none =>
      obtain ⟨hblank, b, hb⟩ := firstSolid_append_of_none (z := z) hs
      have hcs : cs.head? ≠ some x := fun hx => hsolid (hblank x (List.mem_of_mem_head? hx))
      rw [hb, Option.none_or]
      cases hf : firstSolid z b with
      | some a =>
        have : a ≠ x := hz.ne hx (mem_of_firstSolid hf)
        simpa [this] using hcs
      | none => rw [Option.none_or, hhead]
  · unfold peek
    rw [hr, hr']
    simpa [List.head?_eq_getElem?] using hhead

end Reader

end TextPattern.Syntax
