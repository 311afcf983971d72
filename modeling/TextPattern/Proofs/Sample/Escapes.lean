import TextPattern.Proofs.Sample.OnePass

/-!
# Escaped backslashes before tokens

* `Part`, `spell` : parts of a pattern, among them escaped backslashes, and how they are written;
* `rowOf` : parts as a row, in which a token behind an escaped backslash is no hole, `clear_rowOf` : which is
  clear;
* `render values parts` : what stands for the parts in a sample, `unescapeDots_rowOf` : which is what is left of
  the row;
* `render_eq_iff` : it is what stands for each part by itself iff no token stands behind an escaped backslash;
* `generate_escapes` : a sample of parts.
-/

namespace TextPattern.Sample

open TextPattern.Random

/-! ## Parts -/

inductive Part where
  /-- An escaped backslash. -/
  | slash
  /-- An escaped dot. -/
  | point
  /-- A character that stands for itself. -/
  | literal (c : Char)
  /-- A token with its amount. -/
  | token (t : Token) (a : Amount)
deriving DecidableEq, Repr

def Part.text : Part → List Char
  | slash => ['\\', '\\']
  | point => ['\\', '.']
  | literal c => [c]
  | token t a => t.mark ++ a.sign

/-- How parts are written. -/
def spell (parts : List Part) : List Char := parts.flatMap Part.text

def PlainParts (parts : List Part) : Prop := ∀ c, .literal c ∈ parts → isPlain c = true

/-- Parts as a row. Behind an escaped backslash, the last character of which is a backslash too, a token is not
found and is a row of literals. -/
def rowOf : List Part → List Item
  | [] => []
  | .slash :: .token t a :: parts => ('\\' :: '\\' :: (t.mark ++ a.sign)).map .literal ++ rowOf parts
  | .slash :: parts => ['\\', '\\'].map .literal ++ rowOf parts
  | .point :: parts => .point :: rowOf parts
  | .literal c :: parts => .literal c :: rowOf parts
  | .token t a :: parts => .hole ⟨.token t, a⟩ :: rowOf parts

section Row

variable {parts : List Part}

theorem PlainParts.tail {p : Part} (h : PlainParts (p :: parts)) : PlainParts parts :=
  fun c hc => h c (List.mem_cons_of_mem p hc)

theorem textOf_rowOf (parts : List Part) : textOf (rowOf parts) = spell parts := by
  fun_induction rowOf parts with
  | case1 => rfl
  | case2 t a parts ih =>
    rw [textOf_append, textOf_literals, ih]
    simp [spell, Part.text]
  | case3 parts _ ih =>
    rw [textOf_append, textOf_literals, ih]
    rfl
  | case4 parts ih | case5 c parts ih | case6 t a parts ih =>
    rw [textOf_cons, ih]
    rfl

theorem noSign_spell (h : PlainParts parts) : NoSign (spell parts) := by
  cases parts with
  | nil => exact ⟨by simp [spell], by simp [spell]⟩
  | cons p parts =>
    rw [spell, List.flatMap_cons]
    cases p with
    | slash => exact noSign_of_cons (by decide) (by decide) _
    | point => exact noSign_of_cons (by decide) (by decide) _
    | literal c =>
      have hc := isInert_of_isPlain (h c List.mem_cons_self)
      exact noSign_of_cons (ne_of_isInert (by decide) hc) (ne_of_isInert (by decide) hc) _
    | token t a => cases t <;> exact noSign_of_cons (by decide) (by decide) _

/-- Behind a character that is no backslash, a sign by itself is no token. -/
theorem clear_sign {items : List Item} (h : Clear true items) (a : Amount) :
    Clear true (a.sign.map .literal ++ items) := by
  have hmark : ∀ {c : Char} {text : List Char}, c ≠ '\\' → c ≠ '.' → ∀ t : Token, ¬ t.mark <+: c :: text := by
    intro c text hback hdot t
    cases t <;> simp [Token.mark, Ne.symm hback, Ne.symm hdot]
  cases a with
  | any => exact ⟨by decide, fun _ => hmark (by decide) (by decide), h⟩
  | most => exact ⟨by decide, fun _ => hmark (by decide) (by decide), h⟩
  | one => exact h

theorem clear_escaped {items : List Item} (h : Clear true items) (t : Token) (a : Amount) :
    Clear false ((t.mark ++ a.sign).map .literal ++ items) := by
  have hsign := clear_sign h a
  rw [List.map_append, List.append_assoc]
  cases t with
  | dot => exact ⟨by decide, nofun, hsign⟩
  | word => exact ⟨by decide, nofun, by decide, nofun, hsign⟩
  | digit => exact ⟨by decide, nofun, by decide, nofun, hsign⟩
  | blank => exact ⟨by decide, nofun, by decide, nofun, hsign⟩

theorem clear_slash {items : List Item} (h : Clear false items) :
    Clear true (['\\', '\\'].map .literal ++ items) := by
  refine ⟨by decide, fun _ t => ?_, by decide, nofun, h⟩
  cases t <;> simp [Token.mark, Item.text]

theorem Clear.closed {items : List Item} (h : Clear true items) (hno : ∀ g rest, items ≠ .hole g :: rest) :
    Clear false items := by
  cases items with
  | nil => trivial
  | cons i items =>
    cases i with
    | literal c => exact ⟨h.1, nofun, h.2.2⟩
    | point => exact h
    | hole g => exact absurd rfl (hno g items)

theorem rowOf_ne_hole (h : ∀ t a rest, parts = .token t a :: rest → False) (g : Hole) (rest : List Item) :
    rowOf parts ≠ .hole g :: rest := by
  fun_cases rowOf parts with
  | case1 | case2 | case3 | case4 | case5 => simp
  | case6 t a parts => exact fun _ => h t a parts rfl

theorem clear_rowOf (h : PlainParts parts) : Clear true (rowOf parts) := by
  fun_induction rowOf parts with
  | case1 => trivial
  | case2 t a parts ih => exact clear_slash (clear_escaped (ih h.tail.tail) t a)
  | case3 parts hno ih => exact clear_slash ((ih h.tail).closed (rowOf_ne_hole hno))
  | case4 parts ih => exact ih h.tail
  | case5 c parts ih =>
    have hc := isInert_of_isPlain (h c List.mem_cons_self)
    exact clear_literals (List.forall_mem_singleton.2 hc) (ih h.tail) true fun _ => rfl
  | case6 t a parts ih =>
    have hsign := noSign_spell h.tail
    rw [← textOf_rowOf] at hsign
    exact ⟨rfl, trivial, hsign, ih h.tail⟩

end Row

/-! ## What stands for parts -/

/-- What is left of an escaped backslash and the token behind it: a dot that is a token is taken to be escaped by
the second backslash, which goes. -/
def escaped : Token → Amount → List Char
  | .dot, a => '\\' :: '.' :: a.sign
  | t, a => '\\' :: '\\' :: (t.mark ++ a.sign)

def render (values : List (Hole × List Char)) : List Part → List Char
  | [] => []
  | .slash :: .token t a :: parts => escaped t a ++ render values parts
  | .slash :: parts => '\\' :: '\\' :: render values parts
  | .point :: parts => '.' :: render values parts
  | .literal c :: parts => c :: render values parts
  | .token t a :: parts => (values.lookup ⟨.token t, a⟩).getD [] ++ render values parts

/-- What stands for a part by itself. -/
def Part.rendered (values : List (Hole × List Char)) : Part → List Char
  | slash => ['\\', '\\']
  | point => ['.']
  | literal c => [c]
  | token t a => (values.lookup ⟨.token t, a⟩).getD []

section Render

variable {values : List (Hole × List Char)} {parts : List Part}

theorem unescapeDots_sign (a : Amount) (rest : List Char) :
    unescapeDots (a.sign ++ rest) = a.sign ++ unescapeDots rest := by
  cases a with
  | any => exact unescapeDots_cons fun h => absurd h (by decide)
  | most => exact unescapeDots_cons fun h => absurd h (by decide)
  | one => rfl

theorem unescapeDots_escaped (t : Token) (a : Amount) (rest : List Char) :
    unescapeDots ('\\' :: '\\' :: (t.mark ++ a.sign) ++ rest) = escaped t a ++ unescapeDots rest := by
  have hletter : ∀ d, d ≠ '.' → d ≠ '\\' → unescapeDots ('\\' :: '\\' :: '\\' :: d :: (a.sign ++ rest)) =
      '\\' :: '\\' :: '\\' :: d :: (a.sign ++ unescapeDots rest) := by
    intro d hdot hback
    rw [unescapeDots_cons (by simp), unescapeDots_cons (by simp), unescapeDots_cons (by simpa using hdot),
      unescapeDots_cons (fun h => absurd h hback), unescapeDots_sign]
  cases t with
  | dot =>
    show unescapeDots ('\\' :: '\\' :: '.' :: (a.sign ++ rest)) = _
    rw [unescapeDots_cons (by simp), unescapeDots_point, unescapeDots_sign]
    rfl
  | word => exact hletter 'w' (by decide) (by decide)
  | digit => exact hletter 'd' (by decide) (by decide)
  | blank => exact hletter 's' (by decide) (by decide)

theorem fillAll_rowOf_literals (text : List Char) (items : List Item) :
    textOf (fillAll values (text.map .literal ++ items)) = text ++ textOf (fillAll values items) := by
  rw [fillAll_append, fillAll_literals, textOf_append, textOf_literals]

theorem head?_fillAll_rowOf (hplain : PlainParts parts) (h : ∀ t a rest, parts = .token t a :: rest → False) :
    (textOf (fillAll values (rowOf parts))).head? ≠ some '.' := by
  fun_cases rowOf parts with
  | case1 => simp [fillAll]
  | case2 | case3 =>
    rw [fillAll_rowOf_literals]
    simp
  | case4 parts => simp [fillAll_cons, Item.fill, Item.text]
  | case5 c parts =>
    have hc : c ≠ '.' := ne_of_isInert (by decide) (isInert_of_isPlain (hplain c List.mem_cons_self))
    simp [fillAll_cons, Item.fill, Item.text, hc]
  | case6 t a parts => exact absurd rfl (h t a parts)

/-- Once every hole has a text, a sample of parts is what stands for them. -/
theorem unescapeDots_rowOf (hplain : PlainParts parts)
    (hvalues : ∀ e ∈ values, ∀ c ∈ e.2, isInert c = true)
    (hfilled : ∀ h, .hole h ∈ rowOf parts → (values.lookup h).isSome = true) :
    unescapeDots (textOf (fillAll values (rowOf parts))) = render values parts := by
  fun_induction rowOf parts with
  | case1 => rfl
  | case2 t a parts ih =>
    have hrest := ih hplain.tail.tail fun h hh => hfilled h (List.mem_append_right _ hh)
    rw [fillAll_rowOf_literals, unescapeDots_escaped, hrest, render]
  | case3 parts hno ih =>
    have hrest := ih hplain.tail fun h hh => hfilled h (List.mem_append_right _ hh)
    have hhead : (textOf (fillAll values (rowOf parts))).head? ≠ some '.' :=
      head?_fillAll_rowOf hplain.tail hno
    rw [fillAll_rowOf_literals, render.eq_3 _ _ hno]
    show unescapeDots ('\\' :: '\\' :: textOf (fillAll values (rowOf parts))) = _
    rw [unescapeDots_cons (by simp), unescapeDots_cons fun _ => hhead, hrest]
  | case4 parts ih =>
    have hrest := ih hplain.tail fun h hh => hfilled h (List.mem_cons_of_mem _ hh)
    rw [fillAll_cons, textOf_append, render, ← hrest]
    exact unescapeDots_point
  | case5 c parts ih =>
    have hrest := ih hplain.tail fun h hh => hfilled h (List.mem_cons_of_mem _ hh)
    have hc := isInert_of_isPlain (hplain c List.mem_cons_self)
    rw [fillAll_cons, textOf_append, render, ← hrest]
    exact unescapeDots_append [c] (List.forall_mem_singleton.2 hc)
  | case6 t a parts ih =>
    have hrest := ih hplain.tail fun h hh => hfilled h (List.mem_cons_of_mem _ hh)
    obtain ⟨value, hvalue⟩ := Option.isSome_iff_exists.1 (hfilled _ List.mem_cons_self)
    rw [fillAll_cons, Item.fill, hvalue, Option.elim_some, textOf_append, textOf_literals, render, hvalue,
      Option.getD_some, ← hrest]
    exact unescapeDots_append value (hvalues _ (mem_of_lookup hvalue))

/-- The dots of a text, counted twice, and its backslashes. -/
def weight (text : List Char) : Nat := 2 * text.countP (· = '.') + text.countP (· = '\\')

theorem weight_append (text rest : List Char) : weight (text ++ rest) = weight text + weight rest := by
  simp only [weight, List.countP_append]
  omega

theorem weight_of_inert {text : List Char} (htext : ∀ c ∈ text, isInert c = true) : weight text = 0 := by
  have hnone : ∀ {a : Char}, isInert a = false → text.countP (· = a) = 0 := by
    intro a ha
    rw [List.countP_eq_zero]
    intro c hc
    rw [decide_eq_true_iff]
    exact ne_of_isInert ha (htext c hc)
  rw [weight, hnone (by decide), hnone (by decide)]

theorem weight_rendered_token (hvalues : ∀ e ∈ values, ∀ c ∈ e.2, isInert c = true) (t : Token) (a : Amount) :
    weight ((Part.token t a).rendered values) = 0 := by
  rw [Part.rendered]
  cases hvalue : values.lookup ⟨.token t, a⟩ with
  | none => rfl
  | some value => exact weight_of_inert (hvalues _ (mem_of_lookup hvalue))

theorem weight_escaped (t : Token) (a : Amount) : weight (escaped t a) = 3 := by
  cases t <;> cases a <;> decide

/-- A token stands directly behind an escaped backslash. -/
def Clashes (parts : List Part) : Prop := ∃ t a, [.slash, .token t a] <:+: parts

section Cons

variable {p : Part} (h : ¬ ∃ t a rest, p = .slash ∧ parts = .token t a :: rest)
include h

theorem clashes_cons : Clashes (p :: parts) ↔ Clashes parts := by
  have hfirst : ∀ t a, ¬ [.slash, .token t a] <+: p :: parts := by
    intro t a hprefix
    obtain ⟨hp, rest, hparts⟩ := List.cons_prefix_cons.1 hprefix
    exact h ⟨t, a, rest, hp.symm, hparts.symm⟩
  simp only [Clashes, List.infix_cons_iff, hfirst, false_or]

theorem render_cons : render values (p :: parts) = p.rendered values ++ render values parts := by
  cases p with
  | slash => exact render.eq_3 _ _ fun t a rest hparts => h ⟨t, a, rest, rfl, hparts⟩
  | point | literal c | token t a => rfl

end Cons

/-- Parts with a token behind an escaped backslash weigh more in a sample than each by itself. -/
theorem weight_render (hvalues : ∀ e ∈ values, ∀ c ∈ e.2, isInert c = true) (parts : List Part) :
    weight (parts.flatMap (Part.rendered values)) ≤ weight (render values parts) ∧
      (Clashes parts → weight (parts.flatMap (Part.rendered values)) < weight (render values parts)) := by
  induction parts with
  | nil =>
    refine ⟨Nat.le_refl _, ?_⟩
    rintro ⟨t, a, hpart⟩
    exact absurd (List.infix_nil.1 hpart) (List.cons_ne_nil _ _)
  | cons p parts ih =>
    rw [List.flatMap_cons, weight_append]
    by_cases h : ∃ t a rest, p = .slash ∧ parts = .token t a :: rest
    · -- The token weighs nothing by itself.
      obtain ⟨t, a, rest, rfl, rfl⟩ := h
      have htoken : weight (render values (.token t a :: rest)) = weight (render values rest) := by
        have hvalue := weight_rendered_token hvalues t a
        rw [Part.rendered] at hvalue
        rw [render, weight_append, hvalue, Nat.zero_add]
      have hslash : weight (Part.rendered values .slash) = 2 := rfl
      rw [render, weight_append, weight_escaped, hslash]
      omega
    · rw [clashes_cons h, render_cons h, weight_append]
      exact ⟨Nat.add_le_add_left ih.1 _, fun hclashes => Nat.add_lt_add_left (ih.2 hclashes) _⟩

theorem render_of_not_clashes (hnot : ¬ Clashes parts) :
    render values parts = parts.flatMap (Part.rendered values) := by
  induction parts with
  | nil => rfl
  | cons p parts ih =>
    have h : ¬ ∃ t a rest, p = .slash ∧ parts = .token t a :: rest := by
      rintro ⟨t, a, rest, rfl, rfl⟩
      exact hnot ⟨t, a, [], rest, rfl⟩
    rw [clashes_cons h] at hnot
    rw [render_cons h, List.flatMap_cons, ih hnot]

/-- What stands for parts in a sample is what stands for each by itself iff no token stands directly behind an
escaped backslash. -/
theorem render_eq_iff (hvalues : ∀ e ∈ values, ∀ c ∈ e.2, isInert c = true) :
    render values parts = parts.flatMap (Part.rendered values) ↔ ¬ Clashes parts := by
  refine ⟨fun hsame hclashes => ?_, render_of_not_clashes⟩
  have hless := (weight_render hvalues parts).2 hclashes
  rw [hsame] at hless
  exact Nat.lt_irrefl _ hless

end Render

/-! ## Samples -/

section Generate

variable {σ : Type} [Source σ] {parts : List Part}

/-- For the tokens that do not stand directly behind an escaped backslash, each with its amount once and in the
order of the stages, a text is drawn that fits; the sample is what stands for the parts. That is what stands for
each of them by itself iff no token stands directly behind an escaped backslash. -/
theorem generate_escapes (hplain : PlainParts parts) (hvalid : isValid (String.ofList (spell parts)) = true)
    {limit : Int} (hmin : 0 ≤ limit) (hmax : limit ≤ 2 ^ 20) (source : σ) :
    ∃ holes values after, InStageOrder (rowOf parts) holes ∧
      (drawHoles limit.toNat holes).run source = (values, after) ∧ Provides values holes limit.toNat ∧
      generate (String.ofList (spell parts)) limit source = (.ok (String.ofList (render values parts)), after) ∧
      (render values parts = parts.flatMap (Part.rendered values) ↔ ¬ Clashes parts) := by
  have hclear := clear_rowOf hplain
  have hlimit : sampleLength limit = .ok limit.toNat := sampleLength_eq_ok hmin hmax
  have hinert := inert_drawn hclear limit.toNat source
  have hfilled : ∀ h, .hole h ∈ rowOf parts → _ := fun h hh => lookup_drawn_isSome hclear limit.toNat source hh
  have horder : InStageOrder (rowOf parts) (stagedHoles (rowOf parts)) := inStageOrder_stagedHoles _
  rw [← textOf_rowOf] at hvalid ⊢
  refine ⟨_, _, _, horder, rfl, provides_drawn hclear limit.toNat source, ?_, render_eq_iff hinert⟩
  rw [generate_row hclear hvalid hlimit source, unescapeDots_rowOf hplain hinert hfilled]
  rfl

/-- The parts of `\\\s\s`: of the two blanks only the second is drawn. -/
def blankParts : List Part := [.slash, .token .blank .one, .token .blank .one]

theorem spell_blankParts : String.ofList (spell blankParts) = "\\\\\\s\\s" := by decide

theorem generate_escapes_blanks : ∃ holes values after, InStageOrder (rowOf blankParts) holes ∧
    (drawHoles 1 holes).run (Cycle.mk #[0x9E3779B9] 0) = (values, after) ∧ Provides values holes 1 ∧
    generate "\\\\\\s\\s" 1 (Cycle.mk #[0x9E3779B9] 0) =
      (.ok (String.ofList (render values blankParts)), after) ∧
    (render values blankParts = blankParts.flatMap (Part.rendered values) ↔ ¬ Clashes blankParts) := by
  have hplain : PlainParts blankParts := by
    intro c hc
    simp [blankParts] at hc
  have hmax : (1 : Int) ≤ 2 ^ 20 := by decide
  rw [← spell_blankParts]
  exact generate_escapes hplain (by decide +kernel) (by decide) hmax _

/-- The blank behind an escaped backslash is left as it is written. -/
theorem generate_escapes_slash : spell [.slash, .token .blank .one] = "\\\\\\s".toList ∧
    isValid "\\\\\\s" = true ∧ (generate "\\\\\\s" 1 (Cycle.mk #[0] 0)).1 = .ok "\\\\\\s" := by
  refine ⟨by decide, by decide +kernel, by decide +kernel⟩

end Generate

end TextPattern.Sample
