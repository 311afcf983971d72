import TextPattern.Proofs.Extract
import TextPattern.Proofs.Parts
import TextPattern.Proofs.Sample.Stages
import TextPattern.Proofs.Sequence
import TextPattern.Random.Cycle

/-!
# A sample matches its pattern

* `Expr.Takes e text` : the expression can match the text wherever it stands;
* `Item.isClean` : the items of the patterns that samples are made for;
* `Item.expr`, `isItem_text` : the expression of an item, and how its text reads;
* `takes_rendered` : an item takes what stands for it in a sample;
* `generate_rendered` : the text of a sample, item by item;
* `generate_matchesWhole` : a sample matches the whole of its pattern.
-/

namespace TextPattern

open TextPattern.Random

/-! ## Texts that an expression takes -/

namespace Expr

def Takes (e : Expr) (text : List Char) : Prop :=
  ∀ pre post, e.Matches (.between pre (text ++ post)) (.between (pre ++ text) post)

variable {s : CharSet} {text : List Char}

theorem takes_chars {c : Char} (hc : s.contains c = true) : (chars s).Takes [c] :=
  fun pre post => ⟨c, Cursor.next?_between pre post c, hc⟩

theorem takes_repetition {count : Count} (greedy : Bool) (htext : ∀ c ∈ text, s.contains c = true)
    (hcount : count.Allows text.length) : (repetition (chars s) count greedy).Takes text := by
  intro pre post
  rw [matches_repetition]
  exact ⟨text.length, hcount, rounds_chars.2 ⟨text, post, rfl, htext, rfl, rfl⟩⟩

end Expr

namespace Sample

/-! ## Clean items -/

/-- The character stands for itself in a pattern. -/
def isPlain (c : Char) : Bool := !"\\.+*?()|[]\x7b\x7d^$".toList.contains c

/-- The character may be in the body of a class. -/
def isPlainMember (c : Char) : Bool := !"[]\\^-.*+&~".toList.contains c

/-- The items of the patterns that samples are made for: characters that stand for themselves, escaped dots,
tokens and classes of single characters. -/
def Item.isClean : Item → Bool
  | literal c => isPlain c
  | point => true
  | hole ⟨.token _, _⟩ => true
  | hole ⟨.plainClass body, _⟩ => !body.isEmpty && body.all isPlainMember

theorem not_contains_of_all {few many : List Char} {c : Char} (hall : few.all many.contains = true)
    (hc : (!many.contains c) = true) : (!few.contains c) = true := by
  rw [Bool.not_eq_true'] at hc ⊢
  exact contains_eq_false_of_all hall hc

theorem isInert_of_isPlain {c : Char} (hc : isPlain c = true) : isInert c = true :=
  not_contains_of_all (by decide) hc

theorem isInert_of_isPlainMember {c : Char} (hc : isPlainMember c = true) : isInert c = true :=
  not_contains_of_all (by decide) hc

theorem isMember_of_isPlainMember {c : Char} (hc : isPlainMember c = true) : isMember c = true :=
  not_contains_of_all (by decide) hc

theorem isOperator_of_isPlain {c : Char} (hc : isPlain c = true) : isOperator c = false := by
  have hnot : (!isOperator c) = true := not_contains_of_all (by decide) hc
  rwa [Bool.not_eq_true'] at hnot

theorem breaksBody_of_isPlainMember {c : Char} (hc : isPlainMember c = true) : breaksBody c = false :=
  breaksBody_of_isBodyChar (isBodyChar_of_isMember (isMember_of_isPlainMember hc))

theorem Item.isClean_class {body : List Char} {a : Amount} :
    (Item.hole ⟨.plainClass body, a⟩).isClean = true ↔ body ≠ [] ∧ ∀ c ∈ body, isPlainMember c = true := by
  rw [isClean, Bool.and_eq_true_iff, List.all_eq_true, Bool.not_eq_true', List.isEmpty_eq_false_iff]

theorem Item.sound_of_isClean {i : Item} (hi : i.isClean = true) : i.Sound := by
  match i with
  | .literal c => exact isInert_of_isPlain hi
  | .point => trivial
  | .hole ⟨.token t, a⟩ => trivial
  | .hole ⟨.plainClass body, a⟩ =>
    obtain ⟨hne, hbody⟩ := Item.isClean_class.1 hi
    exact ⟨hne, fun c hc => ⟨isInert_of_isPlainMember (hbody c hc), breaksBody_of_isPlainMember (hbody c hc)⟩⟩

/-! ## The expressions of items -/

def Choice.set : Choice → CharSet
  | token .dot => .compl (.ofCodes [0x0A])
  | token .word => Unicode.wordChars
  | token .digit => Unicode.digits
  | token .blank => Unicode.blanks
  | plainClass body => memberSet body

def Amount.expr (s : CharSet) : Amount → Expr
  | any => .repetition (.chars s) .unlimited true
  | most => .repetition (.chars s) .positive true
  | one => .chars s

def Item.expr : Item → Expr
  | literal c => .chars (.single c)
  | point => .chars (.single '.')
  | hole h => h.amount.expr h.choice.set

theorem Choice.isOperand_mark {x : Choice} {a : Amount} (hx : (Item.hole ⟨x, a⟩).isClean = true) :
    IsOperand x.mark (.chars x.set) := by
  match x with
  | .token .dot => exact isOperand_dot
  | .token .word => exact isOperand_word
  | .token .digit => exact isOperand_digit
  | .token .blank => exact isOperand_blank
  | .plainClass body =>
    obtain ⟨hne, hbody⟩ := Item.isClean_class.1 hx
    have hmember : ∀ c ∈ body, isMember c = true := fun c hc => isMember_of_isPlainMember (hbody c hc)
    exact isOperand_class hne (fun c hc => isBodyChar_of_isMember (hmember c hc)) (noSetOp_of_isMember hmember)

/-- An operand with an amount behind it reads as one part of a pattern. -/
theorem isItem_withAmount {mark : List Char} {s : CharSet} (h : IsOperand mark (.chars s)) (a : Amount) :
    IsItem (mark ++ a.sign) (a.expr s) := by
  have hany : ∀ m : Syntax.Machine, m.step '*' = m.repeatBy .unlimited := fun _ => rfl
  have hmost : ∀ m : Syntax.Machine, m.step '+' = m.repeatBy .positive := fun _ => rfl
  cases a with
  | any => exact h.repeated hany
  | most => exact h.repeated hmost
  | one =>
    rw [Amount.sign, List.append_nil]
    exact h.isItem

theorem isItem_text {i : Item} (hi : i.isClean = true) : IsItem i.text i.expr := by
  match i with
  | .literal c => exact (isOperand_literal (isOperator_of_isPlain hi)).isItem
  | .point => exact isOperand_point.isItem
  | .hole ⟨x, a⟩ => exact isItem_withAmount (Choice.isOperand_mark hi) a

theorem spells_textOf {items : List Item} (hclean : ∀ i ∈ items, i.isClean = true) :
    Spells (textOf items) (items.map Item.expr) := by
  induction items with
  | nil => exact .nil
  | cons i items ih =>
    obtain ⟨hi, hitems⟩ := List.forall_mem_cons.1 hclean
    exact .cons (isItem_text hi) (ih hitems)

/-! ## What the items take -/

/-- What is drawn for a choice matches it. -/
theorem Choice.contains_set {x : Choice} : ∀ c ∈ x.alphabet, x.set.contains c = true := by
  match x with
  | .token t =>
    have hall : (Choice.token t).alphabet.all (Choice.token t).set.contains = true := by
      cases t <;> decide +kernel
    exact List.all_eq_true.1 hall
  | .plainClass body => exact fun c hc => (contains_memberSet body c).2 hc

theorem Hole.Fits.takes {h : Hole} {max : Nat} {value : List Char} (hvalue : h.Fits max value) :
    (h.amount.expr h.choice.set).Takes value := by
  have hset : ∀ c ∈ value, h.choice.set.contains c = true := fun c hc => Choice.contains_set c (hvalue.mem c hc)
  have hlength := hvalue.length
  obtain ⟨x, a⟩ := h
  cases a with
  | any =>
    have hcount : Count.unlimited.Allows value.length := ⟨Nat.zero_le _, by simp [Count.unlimited]⟩
    exact Expr.takes_repetition true hset hcount
  | most =>
    have hpos : 1 ≤ value.length := by
      rw [show value.length = Nat.max max 1 from hlength]
      exact Nat.le_max_right max 1
    have hcount : Count.positive.Allows value.length := ⟨hpos, by simp [Count.positive]⟩
    exact Expr.takes_repetition true hset hcount
  | one =>
    obtain ⟨c, rfl⟩ := List.length_eq_one_iff.1 hlength
    exact Expr.takes_chars (hset c List.mem_cons_self)

variable {values : List (Hole × List Char)} {items : List Item} {max : Nat}

theorem takes_rendered (hvalues : ∀ e ∈ values, e.1.Fits max e.2) {i : Item}
    (hfilled : ∀ h, i = .hole h → (values.lookup h).isSome = true) : i.expr.Takes (i.rendered values) := by
  match i with
  | .literal c => exact Expr.takes_chars (by rw [CharSet.contains_single, decide_eq_true rfl])
  | .point => exact Expr.takes_chars (by rw [CharSet.contains_single, decide_eq_true rfl])
  | .hole h =>
    obtain ⟨value, hvalue⟩ := Option.isSome_iff_exists.1 (hfilled h rfl)
    have htakes := (hvalues _ (mem_of_lookup hvalue)).takes
    rwa [Item.rendered, hvalue, Option.getD_some]

theorem inTurn_rendered (htakes : ∀ i ∈ items, i.expr.Takes (i.rendered values)) (pre post : List Char) :
    Expr.InTurn (items.map Item.expr) (.between pre (items.flatMap (Item.rendered values) ++ post))
      (.between (pre ++ items.flatMap (Item.rendered values)) post) := by
  induction items generalizing pre with
  | nil =>
    rw [List.flatMap_nil, List.append_nil]
    rfl
  | cons i items ih =>
    obtain ⟨hi, hitems⟩ := List.forall_mem_cons.1 htakes
    have hfirst := hi pre (items.flatMap (Item.rendered values) ++ post)
    have hrest := ih hitems (pre ++ i.rendered values)
    rw [List.map_cons, List.flatMap_cons, List.append_assoc, ← List.append_assoc pre]
    exact ⟨_, hfirst, hrest⟩

/-! ## Samples -/

theorem matchesWhole_of_denotes {text : List Char} {P : List Char → Prop} (h : Denotes text P) {input : String}
    (hinput : P input.toList) : matchesWhole (String.ofList text) .none input = .ok true := by
  obtain ⟨p, hp, hmatches⟩ := h
  obtain ⟨found, hfound, hiff⟩ := hmatches input
  rw [matchesWhole, validateAndCompile_none hp, Syntax.ok_bind, hfound, hiff.2 hinput]

section Generate

variable {σ : Type} [Source σ]

/-- What is drawn for the holes of a row, with `max` as the greatest length. -/
def drawn (max : Nat) (items : List Item) (source : σ) : List (Hole × List Char) :=
  ((drawHoles max (stagedHoles items)).run source).1

theorem provides_drawn (hclear : Clear true items) (max : Nat) (source : σ) :
    Provides (drawn max items source) (stagedHoles items) max :=
  draws_drawHoles (fun _ hh => hclear.sound (mem_stagedHoles.1 hh)) max source

theorem inert_drawn (hclear : Clear true items) (max : Nat) (source : σ) :
    ∀ e ∈ drawn max items source, ∀ c ∈ e.2, isInert c = true := by
  intro e he
  have hvalues := provides_drawn hclear max source
  exact (hvalues.fits e he).inert (hclear.sound (mem_stagedHoles.1 (hvalues.mem_holes he)))

theorem lookup_drawn_isSome (hclear : Clear true items) (max : Nat) (source : σ) {h : Hole}
    (hh : .hole h ∈ items) : ((drawn max items source).lookup h).isSome = true := by
  have hmem : h ∈ (drawn max items source).map Prod.fst := by
    rw [(provides_drawn hclear max source).holes_eq]
    exact mem_stagedHoles.2 hh
  obtain ⟨e, he, rfl⟩ := List.mem_map.1 hmem
  exact List.lookup_isSome_iff.2 ⟨e, he, beq_self_eq_true _⟩

theorem sampleLength_eq_ok {limit : Int} (hmin : 0 ≤ limit) (hmax : limit ≤ 2 ^ 20) :
    sampleLength limit = .ok limit.toNat := by
  have hle : ¬ (maxRandomLength : Int) < limit := Int.not_lt.2 hmax
  rw [sampleLength, if_neg hle, if_neg (Int.not_lt.2 hmin)]

/-- A sample is the expanded text of its pattern with every escaped dot as a dot; the source is left where
expanding leaves it. -/
theorem generate_eq_ok {pattern : String} {p : Pattern} (hvalid : validateAndCompile pattern .none = .ok p)
    {limit : Int} (hlimit : sampleLength limit = .ok max) (source : σ) :
    generate pattern limit source =
      (.ok (String.ofList (unescapeDots ((expand max pattern.toList).run source).1)),
        ((expand max pattern.toList).run source).2) := by
  unfold generate
  simp only [hvalid, hlimit]
  cases (expand max pattern.toList).run source
  rfl

/-- The text of a sample is that of its row, each hole with the one text that is drawn for it, and then every
escaped dot as a dot; nothing else is drawn. -/
theorem generate_row (hclear : Clear true items) (hvalid : isValid (String.ofList (textOf items)) = true)
    {limit : Int} (hlimit : sampleLength limit = .ok max) (source : σ) :
    generate (String.ofList (textOf items)) limit source =
      (.ok (String.ofList (unescapeDots (textOf (fillAll (drawn max items source) items)))),
        ((drawHoles max (stagedHoles items)).run source).2) := by
  obtain ⟨p, hp⟩ := exists_compile_of_isValid hvalid
  have hexpand : (expand max (textOf items)).run source =
      (textOf (fillAll (drawn max items source) items), ((drawHoles max (stagedHoles items)).run source).2) := by
    rw [expand_textOf max hclear]
    rfl
  rw [generate_eq_ok (validateAndCompile_none hp) hlimit, String.toList_ofList, hexpand]

theorem generate_items (hclean : ∀ i ∈ items, i.isClean = true)
    (hvalid : isValid (String.ofList (textOf items)) = true) {limit : Int}
    (hlimit : sampleLength limit = .ok max) (source : σ) :
    generate (String.ofList (textOf items)) limit source =
      (.ok (String.ofList (items.flatMap (Item.rendered (drawn max items source)))),
        ((drawHoles max (stagedHoles items)).run source).2) := by
  have hitems : ∀ i ∈ items, i.Sound := fun i hi => Item.sound_of_isClean (hclean i hi)
  have hclear : Clear true items := clear_of_sound hitems
  rw [generate_row hclear hvalid hlimit source, unescapeDots_textOf hitems (inert_drawn hclear max source)
    fun h hh => lookup_drawn_isSome hclear max source hh]

theorem generate_rendered (hclean : ∀ i ∈ items, i.isClean = true)
    (hvalid : isValid (String.ofList (textOf items)) = true) {limit : Int}
    (hlimit : sampleLength limit = .ok max) (source : σ) :
    (generate (String.ofList (textOf items)) limit source).1 =
      .ok (String.ofList (items.flatMap (Item.rendered (drawn max items source)))) := by
  rw [generate_items hclean hvalid hlimit source]

/-- A sample of a pattern of clean items, which is not too large by itself and between the ends of the text,
is made for every greatest length up to 2^20, and the pattern matches the whole of it, whatever is drawn. -/
theorem generate_matchesWhole (hclean : ∀ i ∈ items, i.isClean = true)
    (hsize : ∀ bound, Options.none.compile (textOf items) ≠ .error (.tooLarge bound))
    (hwhole : ∀ bound, Options.none.compile (Options.none.wholeSource (textOf items)) ≠
      .error (.tooLarge bound))
    {limit : Int} (hmin : 0 ≤ limit) (hmax : limit ≤ 2 ^ 20) (source : σ) :
    ∃ text, (generate (String.ofList (textOf items)) limit source).1 = .ok text ∧
      matchesWhole (String.ofList (textOf items)) .none text = .ok true := by
  have hclear : Clear true items := clear_of_sound fun i hi => Item.sound_of_isClean (hclean i hi)
  have hlimit : sampleLength limit = .ok limit.toNat := sampleLength_eq_ok hmin hmax
  have hdenotes := (spells_textOf hclean).denotes_of_size hsize hwhole
  refine ⟨_, generate_rendered hclean hdenotes.isOk_compile hlimit source, ?_⟩
  -- The items take the parts of the sample that stand for them, from its start to its end.
  have htakes : ∀ i ∈ items, i.expr.Takes (i.rendered (drawn limit.toNat items source)) := by
    intro i hi
    refine takes_rendered (provides_drawn hclear limit.toNat source).fits fun h heq => ?_
    exact lookup_drawn_isSome hclear limit.toNat source (heq ▸ hi)
  have hturn := inTurn_rendered htakes [] []
  rw [List.append_nil] at hturn
  refine matchesWhole_of_denotes hdenotes ?_
  rw [String.toList_ofList]
  exact ⟨_, hturn, rfl⟩

/-- The items of `v\d+\.[ab]*.[ab]*`. -/
def versionItems : List Item := [.literal 'v', .hole ⟨.token .digit, .most⟩, .point,
  .hole ⟨.plainClass ['a', 'b'], .any⟩, .hole ⟨.token .dot, .one⟩, .hole ⟨.plainClass ['a', 'b'], .any⟩]

theorem textOf_versionItems : String.ofList (textOf versionItems) = "v\\d+\\.[ab]*.[ab]*" := by decide

/-- The sample that words of zero bits give: each choice draws its first character, and `[ab]*` none. -/
theorem generate_matchesWhole_version : ∃ text,
    (generate "v\\d+\\.[ab]*.[ab]*" 3 (Cycle.mk #[0] 0)).1 = .ok text ∧
      matchesWhole "v\\d+\\.[ab]*.[ab]*" .none text = .ok true := by
  have hfits : ∀ {r : Except CompileFault Expr}, r.isOk = true → ∀ bound, r ≠ .error (.tooLarge bound) := by
    rintro _ hok bound rfl
    cases hok
  have hsize := hfits (r := Options.none.compile (textOf versionItems)) (by decide +kernel)
  have hwhole := hfits (r := Options.none.compile (Options.none.wholeSource (textOf versionItems)))
    (by decide +kernel)
  rw [← textOf_versionItems]
  exact generate_matchesWhole (by decide) hsize hwhole (by decide) (by decide) _

end Generate

end Sample

end TextPattern
