import Mathlib.Data.List.Basic
import TextPattern.Proofs.Item
import TextPattern.Sample.Substitution

/-!
# Patterns that samples are drawn for

* `Choice`, `Hole` : what a text is drawn for, without and with its amount;
* `Item`, `textOf` : the items of a pattern, and how they are written;
* `Item.Sound` : an item cannot be taken for a part of another;
* `Hole.isPrefix_iff` : what is written where an item begins tells the item;
* `Item.text_shape` : where in an item another could begin;
* `Clear opened items` : a row in which holes are found only where they stand, `clear_of_sound` : such as one of
  items that cannot be confused.
-/

namespace TextPattern.Sample

/-! ## Items -/

/-- What a text is drawn for: one of the tokens, or a class of single characters. -/
inductive Choice where
  | token (t : Token)
  | plainClass (body : List Char)
deriving DecidableEq, Repr

namespace Choice

def mark : Choice → List Char
  | token t => t.mark
  | plainClass body => classMark body []

def alphabet : Choice → List Char
  | token t => t.alphabet
  | plainClass body => body

end Choice

/-- A choice with an amount, which is filled with one text wherever it stands. -/
structure Hole where
  choice : Choice
  amount : Amount
deriving DecidableEq, Repr

def Hole.mark (h : Hole) : List Char := h.choice.mark ++ h.amount.sign

inductive Item where
  /-- A character that stands for itself. -/
  | literal (c : Char)
  /-- An escaped dot. -/
  | point
  /-- A choice with its amount. -/
  | hole (h : Hole)
deriving DecidableEq, Repr

def Item.text : Item → List Char
  | literal c => [c]
  | point => ['\\', '.']
  | hole h => h.mark

def textOf (items : List Item) : List Char := items.flatMap Item.text

@[simp] theorem textOf_nil : textOf [] = [] := rfl

@[simp] theorem textOf_cons (i : Item) (items : List Item) : textOf (i :: items) = i.text ++ textOf items :=
  List.flatMap_cons

@[simp] theorem textOf_append (items more : List Item) : textOf (items ++ more) = textOf items ++ textOf more :=
  List.flatMap_append

@[simp] theorem textOf_literals (text : List Char) : textOf (text.map .literal) = text := by
  induction text with
  | nil => rfl
  | cons c text ih =>
    rw [List.map_cons, textOf_cons, ih]
    rfl

/-! ## Items that cannot be confused -/

/-- The character belongs to no mark of a hole and to no sign of an amount. -/
def isInert (c : Char) : Bool := !"\\.*+[]".toList.contains c

/-- The body of a class of single characters, none of which has to do with a mark. -/
def SoundBody (body : List Char) : Prop := body ≠ [] ∧ ∀ c ∈ body, isInert c = true ∧ breaksBody c = false

/-- The choice can be told from all others by its mark. -/
def Choice.Sound : Choice → Prop
  | token _ => True
  | plainClass body => SoundBody body

/-- The item cannot be taken for a part of another. -/
def Item.Sound : Item → Prop
  | literal c => isInert c = true
  | point => True
  | hole h => h.choice.Sound

theorem ne_of_isInert {a c : Char} (ha : isInert a = false) (hc : isInert c = true) : c ≠ a := by
  rintro rfl
  rw [ha] at hc
  cases hc

theorem breaksBody_of_isBodyChar {c : Char} (hc : isBodyChar c = true) : breaksBody c = false := by
  have hback : c ≠ '\\' := ne_of_isBodyChar (by decide) hc
  have hcaret : c ≠ '^' := ne_of_isBodyChar (by decide) hc
  have hhyphen : c ≠ '-' := ne_of_isBodyChar (by decide) hc
  simp [breaksBody, hback, hcaret, hhyphen]

theorem isBodyChar_of_isInert {c : Char} (hinert : isInert c = true) (hbreaks : breaksBody c = false) :
    isBodyChar c = true := by
  have hopen : c ≠ '[' := ne_of_isInert (by decide) hinert
  have hclose : c ≠ ']' := ne_of_isInert (by decide) hinert
  simp only [breaksBody, Bool.or_eq_false_iff, decide_eq_false_iff_not] at hbreaks
  simp [isBodyChar, hopen, hclose, hbreaks]

theorem SoundBody.isBodyChar {body : List Char} (h : SoundBody body) : ∀ c ∈ body, isBodyChar c = true :=
  fun c hc => isBodyChar_of_isInert (h.2 c hc).1 (h.2 c hc).2

/-- No sign of an amount stands at the start of the text. -/
structure NoSign (text : List Char) : Prop where
  any : text.head? ≠ some '*'
  most : text.head? ≠ some '+'

theorem noSign_of_cons {c : Char} (hany : c ≠ '*') (hmost : c ≠ '+') (cs : List Char) : NoSign (c :: cs) :=
  ⟨by simpa using hany, by simpa using hmost⟩

variable {i : Item} {items : List Item} {more : List Char}

def isStart (c : Char) : Bool := "\\.[".toList.contains c

theorem isStart_of_isInert {c : Char} (hc : isInert c = true) : isStart c = false := by
  rw [isInert, Bool.not_eq_true'] at hc
  exact contains_eq_false_of_all (by decide) hc

theorem isStart_sign {a : Amount} : ∀ c ∈ a.sign, isStart c = false := by
  cases a <;> simp [Amount.sign] <;> decide

/-- A mark could only begin where an item does, but for the character behind a backslash. -/
theorem Item.text_shape (hi : i.Sound) : ∃ c cs, i.text = c :: cs ∧ c ≠ '*' ∧ c ≠ '+' ∧
    ((c ≠ '\\' ∧ ∀ d ∈ cs, isStart d = false) ∨
      c = '\\' ∧ ∃ d ds, cs = d :: ds ∧ d ≠ '[' ∧ d ≠ '\\' ∧ ∀ x ∈ ds, isStart x = false) := by
  match i with
  | .literal c =>
    refine ⟨c, [], rfl, ne_of_isInert (by decide) hi, ne_of_isInert (by decide) hi, .inl ⟨?_, by simp⟩⟩
    exact ne_of_isInert (by decide) hi
  | .point => exact ⟨'\\', ['.'], rfl, by decide, by decide, .inr ⟨rfl, '.', [], rfl, by decide, by decide, by simp⟩⟩
  | .hole ⟨.token .dot, a⟩ => exact ⟨'.', a.sign, rfl, by decide, by decide, .inl ⟨by decide, isStart_sign⟩⟩
  | .hole ⟨.token .word, a⟩ =>
    exact ⟨'\\', 'w' :: a.sign, rfl, by decide, by decide,
      .inr ⟨rfl, 'w', a.sign, rfl, by decide, by decide, isStart_sign⟩⟩
  | .hole ⟨.token .digit, a⟩ =>
    exact ⟨'\\', 'd' :: a.sign, rfl, by decide, by decide,
      .inr ⟨rfl, 'd', a.sign, rfl, by decide, by decide, isStart_sign⟩⟩
  | .hole ⟨.token .blank, a⟩ =>
    exact ⟨'\\', 's' :: a.sign, rfl, by decide, by decide,
      .inr ⟨rfl, 's', a.sign, rfl, by decide, by decide, isStart_sign⟩⟩
  | .hole ⟨.plainClass body, a⟩ =>
    refine ⟨'[', (body ++ [']']) ++ a.sign, rfl, by decide, by decide, .inl ⟨by decide, fun d hd => ?_⟩⟩
    rcases List.mem_append.1 hd with hd | hd
    · rcases List.mem_append.1 hd with hd | hd
      · exact isStart_of_isInert (hi.2 d hd).1
      · rw [List.mem_singleton.1 hd]
        decide
    · exact isStart_sign d hd

theorem noSign_textOf (hitems : ∀ i ∈ items, i.Sound) : NoSign (textOf items) := by
  cases items with
  | nil => exact ⟨by simp, by simp⟩
  | cons i items =>
    obtain ⟨c, cs, htext, hany, hmost, -⟩ := Item.text_shape (hitems i List.mem_cons_self)
    rw [textOf_cons, htext]
    exact noSign_of_cons hany hmost _

/-! ## Marks -/

theorem sign_isPrefix_iff {a b : Amount} (hmore : NoSign more) :
    a.sign <+: b.sign ++ more ↔ a = b ∨ a = .one := by
  have hany := hmore.any
  have hmost := hmore.most
  cases more with
  | nil => cases a <;> cases b <;> simp [Amount.sign]
  | cons c more =>
    cases a <;> cases b <;> simp_all [Amount.sign, eq_comm]

theorem append_cons_isPrefix_iff {body body' text : List Char} {x : Char} (h : x ∉ body) (h' : x ∉ body') :
    body ++ x :: text <+: body' ++ x :: more ↔ body = body' ∧ text <+: more := by
  induction body generalizing body' with
  | nil =>
    cases body' with
    | nil => simp
    | cons c body' =>
      have hne : x ≠ c := fun heq => h' (heq ▸ List.mem_cons_self)
      simp [hne]
  | cons c body ih =>
    rw [List.mem_cons, not_or] at h
    cases body' with
    | nil => simp [Ne.symm h.1]
    | cons c' body' =>
      rw [List.mem_cons, not_or] at h'
      simp [ih h.2 h'.2, and_assoc]

/-- The marks of choices tell them apart. -/
theorem Choice.mark_isPrefix_iff {x y : Choice} (hx : x.Sound) (hy : y.Sound) {text : List Char} :
    x.mark ++ text <+: y.mark ++ more ↔ x = y ∧ text <+: more := by
  match x, y with
  | .token t, .token u => cases t <;> cases u <;> simp [mark, Token.mark]
  | .token t, .plainClass body => cases t <;> simp [mark, Token.mark, classMark]
  | .plainClass body, .token t => cases t <;> simp [mark, Token.mark, classMark]
  | .plainClass body, .plainClass body' =>
    have hclose : ∀ {b : List Char}, SoundBody b → ']' ∉ b := fun hb hmem =>
      ne_of_isInert (by decide) (hb.2 _ hmem).1 rfl
    have hiff : body ++ ']' :: text <+: body' ++ ']' :: more ↔ body = body' ∧ text <+: more :=
      append_cons_isPrefix_iff (hclose hx) (hclose hy)
    simpa [mark, classMark] using hiff

/-- The mark of a hole stands where another hole of its choice begins, of the same amount or, without a sign
of its own, of any. -/
theorem Hole.isPrefix_iff {g : Hole} (hg : g.choice.Sound) (hi : i.Sound) (hmore : NoSign more) :
    g.mark <+: i.text ++ more ↔
      ∃ h, i = .hole h ∧ g.choice = h.choice ∧ (g.amount = h.amount ∨ g.amount = .one) := by
  obtain ⟨x, a⟩ := g
  match i with
  | .literal c =>
    have hopen : c ≠ '[' := ne_of_isInert (by decide) hi
    have hback : c ≠ '\\' := ne_of_isInert (by decide) hi
    have hdot : c ≠ '.' := ne_of_isInert (by decide) hi
    cases x with
    | token t => cases t <;> simp [mark, Choice.mark, Token.mark, Item.text, hback.symm, hdot.symm]
    | plainClass body => simp [mark, Choice.mark, classMark, Item.text, hopen.symm]
  | .point =>
    cases x with
    | token t => cases t <;> simp [mark, Choice.mark, Token.mark, Item.text]
    | plainClass body => simp [mark, Choice.mark, classMark, Item.text]
  | .hole ⟨y, b⟩ =>
    have hiff : x.mark ++ a.sign <+: y.mark ++ (b.sign ++ more) ↔ x = y ∧ a.sign <+: b.sign ++ more :=
      Choice.mark_isPrefix_iff hg hi
    rw [sign_isPrefix_iff hmore] at hiff
    simpa [mark, Item.text] using hiff

/-! ## Rows of items -/

theorem Item.text_ne_nil (i : Item) : i.text ≠ [] := by
  match i with
  | .literal c => exact List.cons_ne_nil _ _
  | .point => exact List.cons_ne_nil _ _
  | .hole ⟨.token t, a⟩ => cases t <;> exact List.cons_ne_nil _ _
  | .hole ⟨.plainClass body, a⟩ => exact List.cons_ne_nil _ _

/-- In what the row is written as, a token or a class can be found only where a hole stands. `opened` tells
whether the character before the row leaves its start open to a token. -/
def Clear : (opened : Bool) → List Item → Prop
  | _, [] => True
  | opened, .literal c :: items =>
    c ≠ '[' ∧ (opened = true → ∀ t : Token, ¬ t.mark <+: c :: textOf items) ∧ Clear (opens c) items
  | _, .point :: items => Clear true items
  | opened, .hole h :: items => opened = true ∧ h.choice.Sound ∧ NoSign (textOf items) ∧ Clear true items

theorem not_tokenMark_isPrefix {c : Char} (hc : isInert c = true) (t : Token) : ¬ t.mark <+: c :: more := by
  have hback : '\\' ≠ c := (ne_of_isInert (by decide) hc).symm
  have hdot : '.' ≠ c := (ne_of_isInert (by decide) hc).symm
  cases t <;> simp [Token.mark, hback, hdot]

theorem opens_of_isInert {c : Char} (hc : isInert c = true) : opens c = true :=
  bne_iff_ne.2 (ne_of_isInert (by decide) hc)

theorem clear_literals {text : List Char} (htext : ∀ c ∈ text, isInert c = true) (h : Clear true items)
    (opened : Bool) (hopened : text = [] → opened = true) : Clear opened (text.map .literal ++ items) := by
  induction text generalizing opened with
  | nil => rwa [hopened rfl]
  | cons c text ih =>
    obtain ⟨hc, htext⟩ := List.forall_mem_cons.1 htext
    refine ⟨ne_of_isInert (by decide) hc, fun _ => not_tokenMark_isPrefix hc, ?_⟩
    exact ih htext _ fun _ => opens_of_isInert hc

/-- Items that cannot be confused make a clear row. -/
theorem clear_of_sound (hitems : ∀ i ∈ items, i.Sound) : Clear true items := by
  induction items with
  | nil => trivial
  | cons i items ih =>
    obtain ⟨hi, hrest⟩ := List.forall_mem_cons.1 hitems
    cases i with
    | literal c => exact clear_literals (List.forall_mem_singleton.2 hi) (ih hrest) true fun _ => rfl
    | point => exact ih hrest
    | hole h => exact ⟨rfl, hi, noSign_textOf hrest, ih hrest⟩

theorem Clear.sound {opened : Bool} (hclear : Clear opened items) {h : Hole} (hh : .hole h ∈ items) :
    h.choice.Sound := by
  induction items generalizing opened with
  | nil => exact absurd hh List.not_mem_nil
  | cons i items ih =>
    cases i with
    | literal c => exact ih hclear.2.2 ((List.mem_cons.1 hh).resolve_left nofun)
    | point => exact ih hclear ((List.mem_cons.1 hh).resolve_left nofun)
    | hole g =>
      rcases List.mem_cons.1 hh with heq | hh
      · obtain rfl := Item.hole.inj heq
        exact hclear.2.1
      · exact ih hclear.2.2.2 hh

end TextPattern.Sample
