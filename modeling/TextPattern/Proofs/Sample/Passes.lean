import Mathlib.Data.List.Count
import Mathlib.Data.List.Dedup
import TextPattern.Proofs.Sample.Items

/-!
# Passes over a row of items

* `put target value items` : the row with literals in place of an item;
* `Filled items filled` : a row with some holes filled, `Filled.clear` : which is as clear as it was;
* `Apart g h` : where `h` stands, the mark of `g` begins only if it is the same hole;
* `replaceAll_textOf`, `occursFree_textOf`, `exhaust_textOf` : a pass over what a row is written as, said of
  the row;
* `Item.body?`, `classBodies_textOf` : the bodies of the classes of a row.
-/

namespace TextPattern.Sample

/-! ## Items in place of others -/

/-- The row with the characters of a text, as literals, in place of an item. -/
def put (target : Item) (value : List Char) (items : List Item) : List Item :=
  items.flatMap fun i => if i = target then value.map .literal else [i]

/-- The row with a text in place of an item where it is `free` to be replaced; behind a place where it was,
it is as `adjacent` tells. -/
def putFrom (adjacent : Bool) (target : Item) (value : List Char) : (free : Bool) → List Item → List Item
  | _, [] => []
  | free, i :: items =>
    if free && i = target then value.map .literal ++ putFrom adjacent target value adjacent items
    else i :: putFrom adjacent target value true items

section Put

variable {adjacent free : Bool} {target : Item} {value : List Char} {items : List Item}

theorem put_cons (i : Item) : put target value (i :: items) =
    (if i = target then value.map .literal else [i]) ++ put target value items :=
  List.flatMap_cons

theorem put_append (more : List Item) :
    put target value (items ++ more) = put target value items ++ put target value more :=
  List.flatMap_append

theorem put_of_not_mem (h : target ∉ items) : put target value items = items := by
  induction items with
  | nil => rfl
  | cons i items ih =>
    rw [List.mem_cons, not_or] at h
    rw [put_cons, if_neg (Ne.symm h.1), ih h.2, List.singleton_append]

theorem putFrom_adjacent : putFrom true target value true items = put target value items := by
  induction items with
  | nil => rfl
  | cons i items ih =>
    rw [putFrom, put_cons, ih]
    by_cases hi : i = target <;> simp [hi]

theorem put_literals {g : Hole} : put (.hole g) value (value.map .literal) = value.map .literal :=
  put_of_not_mem (by simp)

/-- Putting a text in some places first makes no difference. -/
theorem put_putFrom {g : Hole} : put (.hole g) value (putFrom adjacent (.hole g) value free items) =
    put (.hole g) value items := by
  induction items generalizing free with
  | nil => rfl
  | cons i items ih =>
    rw [putFrom]
    split
    · next h =>
      obtain ⟨-, hi⟩ := Bool.and_eq_true_iff.1 h
      rw [put_append, put_literals, ih, put_cons, if_pos (of_decide_eq_true hi)]
    · rw [put_cons, put_cons, ih]

theorem count_putFrom_le {g : Hole} :
    (putFrom adjacent (.hole g) value free items).count (.hole g) ≤ items.count (.hole g) := by
  induction items generalizing free with
  | nil => exact Nat.le_refl 0
  | cons i items ih =>
    have hliterals : (value.map Item.literal).count (.hole g) = 0 := List.count_eq_zero.2 (by simp)
    rw [putFrom]
    split
    · rw [List.count_append, hliterals, Nat.zero_add]
      exact Nat.le_trans ih (List.count_le_count_cons ..)
    · rw [List.count_cons, List.count_cons]
      exact Nat.add_le_add_right ih _

theorem count_putFrom_lt {g : Hole} (h : .hole g ∈ items) :
    (putFrom adjacent (.hole g) value true items).count (.hole g) < items.count (.hole g) := by
  induction items with
  | nil => exact absurd h List.not_mem_nil
  | cons i items ih =>
    have hliterals : (value.map Item.literal).count (.hole g) = 0 := List.count_eq_zero.2 (by simp)
    by_cases hi : i = .hole g
    · rw [putFrom, if_pos (by simp [hi]), List.count_append, hliterals, Nat.zero_add, hi, List.count_cons_self]
      exact Nat.lt_succ_of_le count_putFrom_le
    · have hmem : .hole g ∈ items := (List.mem_cons.1 h).resolve_left (Ne.symm hi)
      rw [putFrom, if_neg (by simp [hi]), List.count_cons_of_ne hi, List.count_cons_of_ne hi]
      exact ih hmem

end Put

/-! ## Filled rows -/

/-- Some holes of a row are filled with characters that belong to no mark. -/
inductive Filled : List Item → List Item → Prop
  | nil : Filled [] []
  | keep (i : Item) {items filled : List Item} (h : Filled items filled) : Filled (i :: items) (i :: filled)
  | fill (g : Hole) {value : List Char} {items filled : List Item} (hvalue : ∀ c ∈ value, isInert c = true)
      (h : Filled items filled) : Filled (.hole g :: items) (value.map .literal ++ filled)

section Filled

variable {opened : Bool} {items filled : List Item} {value : List Char}

theorem filled_putFrom (hvalue : ∀ c ∈ value, isInert c = true) (g : Hole) (adjacent free : Bool)
    (items : List Item) : Filled items (putFrom adjacent (.hole g) value free items) := by
  induction items generalizing free with
  | nil => exact .nil
  | cons i items ih =>
    rw [putFrom]
    split
    · next h =>
      rw [of_decide_eq_true (Bool.and_eq_true_iff.1 h).2]
      exact .fill g hvalue (ih _)
    · exact .keep i (ih _)

theorem Filled.hole_mem (h : Filled items filled) {g : Hole} (hg : .hole g ∈ filled) : .hole g ∈ items := by
  induction h with
  | nil => exact hg
  | keep i _ ih =>
    rcases List.mem_cons.1 hg with rfl | hg
    · exact List.mem_cons_self
    · exact List.mem_cons_of_mem _ (ih hg)
  | fill g hvalue _ ih =>
    rcases List.mem_append.1 hg with hg | hg
    · simp at hg
    · exact List.mem_cons_of_mem _ (ih hg)

theorem noSign_cons_iff {c : Char} {cs ds : List Char} : NoSign (c :: cs) ↔ NoSign (c :: ds) :=
  ⟨fun h => ⟨h.any, h.most⟩, fun h => ⟨h.any, h.most⟩⟩

theorem Filled.noSign (h : Filled items filled) (hclear : Clear opened items) (hsign : NoSign (textOf items)) :
    NoSign (textOf filled) := by
  induction h generalizing opened with
  | nil => exact hsign
  | keep i _ _ =>
    obtain ⟨c, cs, htext⟩ := List.exists_cons_of_ne_nil i.text_ne_nil
    rw [textOf_cons, htext, List.cons_append] at hsign ⊢
    exact noSign_cons_iff.1 hsign
  | @fill g value items filled hvalue _ ih =>
    rw [textOf_append, textOf_literals]
    cases value with
    | nil => exact ih hclear.2.2.2 hclear.2.2.1
    | cons c value =>
      have hc := hvalue c List.mem_cons_self
      exact noSign_of_cons (ne_of_isInert (by decide) hc) (ne_of_isInert (by decide) hc) _

/-- Where no token may begin, no hole does, and what stands there is not filled. -/
theorem Filled.head?_textOf (h : Filled items filled) (hclear : Clear false items) :
    (textOf filled).head? = (textOf items).head? := by
  cases h with
  | nil => rfl
  | keep i _ =>
    obtain ⟨c, cs, htext⟩ := List.exists_cons_of_ne_nil i.text_ne_nil
    rw [textOf_cons, textOf_cons, htext]
    rfl
  | fill g hvalue _ => exact absurd hclear.1 Bool.false_ne_true

theorem tokenMark_isPrefix_of_head? {t : Token} {c : Char} {text more : List Char}
    (h : c = '\\' → text.head? = more.head?) (hmark : t.mark <+: c :: text) : t.mark <+: c :: more := by
  have hletter : ∀ d, ['\\', d] <+: c :: text → ['\\', d] <+: c :: more := by
    intro d hprefix
    obtain ⟨rfl, hprefix⟩ := List.cons_prefix_cons.1 hprefix
    have hhead := h rfl
    cases more with
    | nil => cases text <;> simp_all
    | cons e more => cases text <;> simp_all
  cases t with
  | dot => exact List.cons_prefix_cons.2 ⟨(List.cons_prefix_cons.1 hmark).1, List.nil_prefix⟩
  | word => exact hletter _ hmark
  | digit => exact hletter _ hmark
  | blank => exact hletter _ hmark

/-- A row stays clear when holes are filled. -/
theorem Filled.clear (h : Filled items filled) (hclear : Clear opened items) : Clear opened filled := by
  induction h generalizing opened with
  | nil => exact hclear
  | @keep i items filled h ih =>
    cases i with
    | literal c =>
      obtain ⟨hopen, hmark, hrest⟩ := hclear
      refine ⟨hopen, fun hopened t hprefix => hmark hopened t ?_, ih hrest⟩
      refine tokenMark_isPrefix_of_head? (fun hback => ?_) hprefix
      subst hback
      exact h.head?_textOf hrest
    | point => exact ih hclear
    | hole g =>
      obtain ⟨hopened, hg, hsign, hrest⟩ := hclear
      exact ⟨hopened, hg, h.noSign hrest hsign, ih hrest⟩
  | fill g hvalue _ ih =>
    obtain ⟨rfl, -, -, hrest⟩ := hclear
    exact clear_literals hvalue (ih hrest) true fun _ => rfl

end Filled

/-! ## One pass -/

/-- The choice is a class, which is found behind any character. -/
def Choice.isClass : Choice → Bool
  | token _ => false
  | plainClass _ => true

/-- The character may stand before the choice. -/
def Choice.opens (x : Choice) (c : Char) : Bool := x.isClass || Sample.opens c

/-- Where `h` stands, with anything but a sign behind it, the mark of `g` begins only if it is the same hole. -/
def Apart (g h : Hole) : Prop := ∀ more, NoSign more → (g.mark <+: h.mark ++ more ↔ h = g)

section Pass

variable {adjacent free opened : Bool} {g : Hole} {i : Item} {items : List Item}
  {value rest done : List Char}

theorem opens_of_ne {x : Choice} {c : Char} (hc : c ≠ '\\') : x.opens c = true := by
  simp [Choice.opens, Sample.opens, hc]

theorem Hole.mark_shape (g : Hole) : ∃ m ms, g.mark = m :: ms ∧ isStart m = true ∧
    (m = '.' → g.choice.opens '\\' = false) := by
  match g with
  | ⟨.token t, a⟩ => cases t <;> exact ⟨_, _, rfl, by decide, fun _ => rfl⟩
  | ⟨.plainClass body, a⟩ => exact ⟨'[', body ++ [']'] ++ a.sign, rfl, by decide, nofun⟩

/-- Behind the first character of an item no mark begins. -/
theorem isPrefixOf_eq_false {c : Char} (hc : isStart c = false) : g.mark.isPrefixOf (c :: rest) = false := by
  obtain ⟨m, ms, hmark, hm, -⟩ := g.mark_shape
  have hne : m ≠ c := by
    rintro rfl
    rw [hm] at hc
    cases hc
  simp [hmark, List.isPrefixOf_cons_cons, hne]

/-- Nor does one begin behind a backslash at the start of an item. -/
theorem open_and_isPrefixOf_eq_false {c : Char} (hopen : c ≠ '[') (hback : c ≠ '\\') :
    (g.choice.opens '\\' && g.mark.isPrefixOf (c :: rest)) = false := by
  obtain ⟨m, ms, hmark, hm, hdot⟩ := g.mark_shape
  by_cases hc : isStart c = true
  · have hc : c = '.' := by
      simpa [isStart, hopen, hback] using hc
    by_cases hmc : m = '.'
    · rw [hdot hmc, Bool.false_and]
    · simp [hmark, List.isPrefixOf_cons_cons, hc, hmc]
  · rw [isPrefixOf_eq_false (Bool.eq_false_iff.2 hc), Bool.and_false]

theorem ne_of_isStart {c : Char} (hc : isStart c = false) : c ≠ '\\' := by
  rintro rfl
  cases hc

/-- A literal of a clear row is not the start of a mark that a pass could find there. -/
theorem literal_isPrefixOf_eq_false {c : Char} (hclear : Clear opened (.literal c :: items)) :
    ((opened || g.choice.isClass) && g.mark.isPrefixOf (c :: textOf items)) = false := by
  obtain ⟨hopen, hmark, -⟩ := hclear
  rw [Bool.and_eq_false_iff, or_iff_not_imp_left, Bool.not_eq_false]
  intro hplace
  rw [Bool.eq_false_iff, Ne, List.isPrefixOf_iff_prefix]
  match g with
  | ⟨.token t, a⟩ =>
    have hopened : opened = true := by simpa [Choice.isClass] using hplace
    exact fun hprefix => hmark hopened t ((List.prefix_append t.mark a.sign).trans hprefix)
  | ⟨.plainClass body, a⟩ => exact fun hprefix => hopen (List.cons_prefix_cons.1 hprefix).1.symm

theorem point_isPrefixOf_eq_false : g.mark.isPrefixOf (Item.point.text ++ rest) = false := by
  match g with
  | ⟨.token t, a⟩ => cases t <;> rfl
  | ⟨.plainClass body, a⟩ => rfl

theorem replaceFrom_inner {text : List Char} (htext : ∀ c ∈ text, isStart c = false) :
    replaceFrom g.choice.opens adjacent g.mark value true 0 (text ++ rest) done =
      replaceFrom g.choice.opens adjacent g.mark value true 0 rest (text.reverse ++ done) := by
  induction text generalizing done with
  | nil => rfl
  | cons c text ih =>
    obtain ⟨hc, htext⟩ := List.forall_mem_cons.1 htext
    rw [List.cons_append, replaceFrom, isPrefixOf_eq_false hc, opens_of_ne (ne_of_isStart hc)]
    simp [ih htext]

theorem replaceFrom_item (hi : i.Sound) (hfirst : (free && g.mark.isPrefixOf (i.text ++ rest)) = false) :
    replaceFrom g.choice.opens adjacent g.mark value free 0 (i.text ++ rest) done =
      replaceFrom g.choice.opens adjacent g.mark value true 0 rest (i.text.reverse ++ done) := by
  obtain ⟨c, cs, htext, -, -, hshape⟩ := Item.text_shape hi
  rw [htext, List.cons_append] at hfirst ⊢
  rw [replaceFrom, hfirst]
  rcases hshape with ⟨hc, hcs⟩ | ⟨rfl, d, ds, rfl, hopen, hback, hds⟩
  · rw [opens_of_ne hc]
    simp [replaceFrom_inner hcs]
  · rw [List.cons_append, replaceFrom, open_and_isPrefixOf_eq_false hopen hback, opens_of_ne hback]
    simp [replaceFrom_inner hds]

theorem replaceFrom_skip {open? : Char → Bool} (text : List Char) {mark : List Char} :
    replaceFrom open? adjacent mark value free text.length (text ++ rest) done =
      replaceFrom open? adjacent mark value free 0 rest done := by
  induction text with
  | nil => rfl
  | cons c text ih =>
    rw [List.length_cons, List.cons_append, replaceFrom]
    exact ih

theorem replaceFrom_hole :
    replaceFrom g.choice.opens adjacent g.mark value true 0 (g.mark ++ rest) done =
      replaceFrom g.choice.opens adjacent g.mark value adjacent 0 rest (value.reverse ++ done) := by
  obtain ⟨m, ms, hmark, -⟩ := g.mark_shape
  have hstarts : (true && (m :: ms).isPrefixOf (m :: (ms ++ rest))) = true := by simp
  rw [hmark, List.cons_append, replaceFrom, hstarts, if_pos rfl, List.length_cons, Nat.add_sub_cancel,
    replaceFrom_skip, List.reverseAux_eq]

/-- A pass over what a row is written as. It is at a place of the mark if it is `free` to replace and no
backslash closes the place. -/
theorem replaceFrom_textOf (free : Bool) (done : List Char) (hclear : Clear opened items)
    (hapart : ∀ h, .hole h ∈ items → Apart g h) :
    replaceFrom g.choice.opens adjacent g.mark value (free && (opened || g.choice.isClass)) 0 (textOf items)
        done =
      done.reverse ++ textOf (putFrom adjacent (.hole g) value free items) := by
  induction items generalizing free opened done with
  | nil => simp [replaceFrom, putFrom]
  | cons i items ih =>
    have hrest : ∀ h, .hole h ∈ items → Apart g h := fun h hh => hapart h (List.mem_cons_of_mem _ hh)
    rw [textOf_cons, putFrom]
    cases i with
    | literal c =>
      have hfirst := literal_isPrefixOf_eq_false (g := g) hclear
      have hplace : g.choice.opens c = (true && (opens c || g.choice.isClass)) := by
        rw [Choice.opens, Bool.true_and, Bool.or_comm]
      have hrow := ih true (c :: done) hclear.2.2 hrest
      rw [Item.text, List.singleton_append, replaceFrom, Bool.and_assoc, hfirst, Bool.and_false,
        if_neg Bool.false_ne_true, hplace, hrow]
      simp [Item.text]
    | point =>
      have hfirst : ((free && (opened || g.choice.isClass)) &&
          g.mark.isPrefixOf (Item.point.text ++ textOf items)) = false := by
        rw [point_isPrefixOf_eq_false, Bool.and_false]
      have hrow := ih true (Item.point.text.reverse ++ done) hclear hrest
      rw [Bool.true_and, Bool.true_or] at hrow
      rw [replaceFrom_item (i := .point) trivial hfirst, hrow]
      simp
    | hole h =>
      obtain ⟨rfl, hh, hsign, hclear⟩ := hclear
      have hstarts := hapart h List.mem_cons_self _ hsign
      rw [Bool.true_or, Bool.and_true]
      split
      · next hput =>
        obtain ⟨rfl, hsame⟩ := Bool.and_eq_true_iff.1 hput
        obtain rfl := Item.hole.inj (of_decide_eq_true hsame)
        have hrow := ih adjacent (value.reverse ++ done) hclear hrest
        rw [Bool.true_or, Bool.and_true] at hrow
        rw [Item.text, replaceFrom_hole, hrow]
        simp
      · next hput =>
        have hfirst : (free && g.mark.isPrefixOf ((Item.hole h).text ++ textOf items)) = false := by
          rw [Bool.eq_false_iff, Ne, Bool.and_eq_true_iff, List.isPrefixOf_iff_prefix]
          simpa [Item.text, hstarts] using hput
        have hrow := ih true ((Item.hole h).text.reverse ++ done) hclear hrest
        rw [Bool.true_and, Bool.true_or] at hrow
        rw [replaceFrom_item (i := .hole h) hh hfirst, hrow]
        simp

/-! ### The passes of a sample -/

theorem occursFrom_inner {text : List Char} (htext : ∀ c ∈ text, isStart c = false) :
    occursFrom g.mark true (text ++ rest) = occursFrom g.mark true rest := by
  induction text with
  | nil => rfl
  | cons c text ih =>
    obtain ⟨hc, htext⟩ := List.forall_mem_cons.1 htext
    have hopens : opens c = true := bne_iff_ne.2 (ne_of_isStart hc)
    rw [List.cons_append, occursFrom, isPrefixOf_eq_false hc, hopens]
    exact ih htext

/-- A search goes over an item that is not searched for. -/
theorem occursFrom_item (hi : i.Sound) (hfirst : (free && g.mark.isPrefixOf (i.text ++ rest)) = false) :
    occursFrom g.mark free (i.text ++ rest) = occursFrom g.mark true rest := by
  obtain ⟨c, cs, htext, -, -, hshape⟩ := Item.text_shape hi
  rw [htext, List.cons_append] at hfirst ⊢
  rw [occursFrom, hfirst]
  rcases hshape with ⟨hc, hcs⟩ | ⟨rfl, d, ds, rfl, hopen, hback, hds⟩
  · have hopens : opens c = true := bne_iff_ne.2 hc
    rw [hopens]
    exact occursFrom_inner hcs
  · have hopens : opens d = true := bne_iff_ne.2 hback
    show occursFrom g.mark false (d :: ds ++ rest) = _
    rw [List.cons_append, occursFrom, Bool.false_and, hopens]
    exact occursFrom_inner hds

theorem occursFrom_textOf (hclear : Clear opened items) (hapart : ∀ h, .hole h ∈ items → Apart g h) :
    occursFrom g.mark opened (textOf items) = decide (.hole g ∈ items) := by
  induction items generalizing opened with
  | nil => simp [occursFrom]
  | cons i items ih =>
    have hrest : ∀ h, .hole h ∈ items → Apart g h := fun h hh => hapart h (List.mem_cons_of_mem _ hh)
    rw [textOf_cons]
    cases i with
    | literal c =>
      have hfirst : (opened && g.mark.isPrefixOf (c :: textOf items)) = false := by
        have hplace := literal_isPrefixOf_eq_false (g := g) hclear
        rw [Bool.and_or_distrib_right, Bool.or_eq_false_iff] at hplace
        exact hplace.1
      rw [Item.text, List.singleton_append, occursFrom, hfirst, if_neg Bool.false_ne_true, ih hclear.2.2 hrest]
      simp
    | point =>
      have hfirst : (opened && g.mark.isPrefixOf (Item.point.text ++ textOf items)) = false := by
        rw [point_isPrefixOf_eq_false, Bool.and_false]
      rw [occursFrom_item (i := .point) trivial hfirst, ih hclear hrest]
      simp
    | hole h =>
      obtain ⟨rfl, hh, hsign, hclear⟩ := hclear
      have hstarts := hapart h List.mem_cons_self _ hsign
      by_cases hsame : h = g
      · obtain ⟨m, ms, hmark, -⟩ := h.mark_shape
        have hprefix := List.isPrefixOf_iff_prefix.2 (hstarts.2 hsame)
        rw [Item.text, hmark, List.cons_append] at *
        rw [occursFrom, hprefix]
        simp [hsame]
      · have hfirst : (true && g.mark.isPrefixOf ((Item.hole h).text ++ textOf items)) = false := by
          rw [Bool.true_and, Bool.eq_false_iff, Ne, List.isPrefixOf_iff_prefix, Item.text, hstarts]
          exact hsame
        rw [occursFrom_item (i := .hole h) hh hfirst, ih hclear hrest]
        simp [Ne.symm hsame]

/-- A hole occurs in what a row is written as iff it stands in the row. -/
theorem occursFree_textOf (hclear : Clear true items) (hapart : ∀ h, .hole h ∈ items → Apart g h) :
    occursFree g.mark (textOf items) = decide (.hole g ∈ items) :=
  occursFrom_textOf hclear hapart

theorem replaceAll_textOf {body : List Char} {a : Amount} (hclear : Clear true items)
    (hapart : ∀ h, .hole h ∈ items → Apart ⟨.plainClass body, a⟩ h) :
    replaceAll (Hole.mk (.plainClass body) a).mark value (textOf items) =
      textOf (put (.hole ⟨.plainClass body, a⟩) value items) := by
  rw [← putFrom_adjacent]
  exact replaceFrom_textOf true [] hclear hapart

theorem replaceFree_textOf {t : Token} {a : Amount} (hclear : Clear true items)
    (hapart : ∀ h, .hole h ∈ items → Apart ⟨.token t, a⟩ h) :
    replaceFree (Hole.mk (.token t) a).mark value (textOf items) =
      textOf (putFrom false (.hole ⟨.token t, a⟩) value true items) :=
  replaceFrom_textOf true [] hclear hapart

/-- Each round leaves fewer places to be filled, and the rounds are enough for all. -/
theorem exhaustFor_textOf {t : Token} {a : Amount} (hvalue : ∀ c ∈ value, isInert c = true) {rounds : Nat}
    (hclear : Clear true items) (hapart : ∀ h, .hole h ∈ items → Apart ⟨.token t, a⟩ h)
    (hrounds : items.count (.hole ⟨.token t, a⟩) ≤ rounds) :
    exhaustFor (Hole.mk (.token t) a).mark value rounds (textOf items) =
      textOf (put (.hole ⟨.token t, a⟩) value items) := by
  induction rounds generalizing items with
  | zero => rw [exhaustFor, put_of_not_mem (List.count_eq_zero.1 (Nat.le_zero.1 hrounds))]
  | succ rounds ih =>
    rw [exhaustFor, occursFree_textOf hclear hapart]
    by_cases hmem : .hole ⟨.token t, a⟩ ∈ items
    · have hless : (putFrom false (.hole ⟨.token t, a⟩) value true items).count (.hole ⟨.token t, a⟩) <
          items.count (.hole ⟨.token t, a⟩) := count_putFrom_lt hmem
      have hfilled := filled_putFrom hvalue ⟨.token t, a⟩ false true items
      have hround := ih (hfilled.clear hclear) (fun h hh => hapart h (hfilled.hole_mem hh)) (by omega)
      rw [put_putFrom] at hround
      rw [if_pos (decide_eq_true hmem), replaceFree_textOf hclear hapart, hround]
    · rw [if_neg (by simp [hmem]), put_of_not_mem hmem]

theorem length_le_textOf (items : List Item) : items.length ≤ (textOf items).length := by
  induction items with
  | nil => exact Nat.le_refl 0
  | cons i items ih =>
    have hpos := List.length_pos_iff.2 i.text_ne_nil
    rw [textOf_cons, List.length_append, List.length_cons]
    omega

/-- Replacing as long as there is something to replace puts the value in place of the token. -/
theorem exhaust_textOf {t : Token} {a : Amount} (hvalue : ∀ c ∈ value, isInert c = true)
    (hclear : Clear true items) (hapart : ∀ h, .hole h ∈ items → Apart ⟨.token t, a⟩ h) :
    exhaust (Hole.mk (.token t) a).mark value (textOf items) =
      textOf (put (.hole ⟨.token t, a⟩) value items) := by
  have hcount : items.count (.hole ⟨.token t, a⟩) ≤ items.length := List.count_le_length
  exact exhaustFor_textOf hvalue hclear hapart (Nat.le_trans hcount (length_le_textOf items))

/-- A hole is apart from every hole but one of its choice with a sign that it does not have itself. -/
theorem apart_hole {h : Hole} (hg : g.choice.Sound) (hh : h.choice.Sound)
    (hone : h.choice = g.choice → g.amount = .one → h.amount = .one) : Apart g h := by
  intro more hmore
  refine (Hole.isPrefix_iff hg (i := .hole h) hh hmore).trans ⟨?_, ?_⟩
  · rintro ⟨k, hk, hchoice, hamount⟩
    obtain rfl := Item.hole.inj hk
    have hsame : g.amount = h.amount := by
      rcases hamount with hsame | hg
      · exact hsame
      · rw [hg, hone hchoice.symm hg]
    cases g
    cases h
    rw [Hole.mk.injEq]
    exact ⟨hchoice.symm, hsame.symm⟩
  · rintro rfl
    exact ⟨h, rfl, rfl, .inl rfl⟩

end Pass

/-! ## The classes of a row -/

def Item.body? (a : Amount) : Item → Option (List Char)
  | hole ⟨.plainClass body, b⟩ => if b = a then some body else none
  | _ => none

section Bodies

variable {sign rest : List Char} {found : List (List Char)}

theorem classBodiesFrom_outside {text : List Char} (htext : '[' ∉ text) :
    classBodiesFrom sign none (text ++ rest) found = classBodiesFrom sign none rest found := by
  induction text with
  | nil => rfl
  | cons c text ih =>
    obtain ⟨hc, htext⟩ := not_or.1 (List.mem_cons.not.1 htext)
    rw [List.cons_append, classBodiesFrom.eq_def]
    simp only [if_neg (Ne.symm hc), Option.map_none, ih htext, ite_self]

theorem classBodies_of_not_mem {text : List Char} (h : '[' ∉ text) : classBodies sign text = [] := by
  rw [classBodies, ← List.append_nil text, classBodiesFrom_outside h]
  rfl

theorem classBodiesFrom_inside {body read : List Char} (hbody : ∀ c ∈ body, isBodyChar c = true) :
    classBodiesFrom sign (some read) (body ++ rest) found =
      classBodiesFrom sign (some (body.reverse ++ read)) rest found := by
  induction body generalizing read with
  | nil => rfl
  | cons c body ih =>
    obtain ⟨hc, hbody⟩ := List.forall_mem_cons.1 hbody
    have hopen : c ≠ '[' := ne_of_isBodyChar (by decide) hc
    have hclose : c ≠ ']' := ne_of_isBodyChar (by decide) hc
    rw [List.cons_append, classBodiesFrom.eq_def]
    simp only [if_neg hopen, if_neg hclose, breaksBody_of_isBodyChar hc, Bool.false_eq_true, if_false,
      Option.map_some, ih hbody, List.reverse_cons, List.append_assoc, List.singleton_append]

/-- A class adds its body if a sign follows it and the body is new. -/
theorem classBodiesFrom_class {body : List Char} (hne : body ≠ []) (hbody : ∀ c ∈ body, isBodyChar c = true) :
    classBodiesFrom sign none (classMark body [] ++ rest) found =
      classBodiesFrom sign none rest
        (if sign.isPrefixOf rest && !found.contains body then body :: found else found) := by
  have hmark : classMark body [] ++ rest = '[' :: (body ++ ']' :: rest) := by simp [classMark]
  rw [hmark, classBodiesFrom.eq_def]
  simp only [if_pos, classBodiesFrom_inside hbody, List.append_nil]
  obtain ⟨b, bs, hreverse⟩ := List.exists_cons_of_ne_nil (List.reverse_ne_nil_iff.2 hne)
  have hnew : (b :: bs).reverse = body := by rw [← hreverse, List.reverse_reverse]
  have hclose : ']' ≠ '[' := by decide
  rw [hreverse, classBodiesFrom.eq_def]
  simp only [if_neg hclose, if_pos, hnew]
  split <;> rfl

/-- The bodies of the classes of a row, with a sign behind them or, once none has one, without. -/
theorem classBodies_textOf {a : Amount} {opened : Bool} {items : List Item} (hclear : Clear opened items)
    (hone : a = .one → ∀ body b, .hole ⟨.plainClass body, b⟩ ∈ items → b = .one) :
    classBodies a.sign (textOf items) = (items.filterMap (Item.body? a)).eraseDups := by
  have key : ∀ found, classBodiesFrom a.sign none (textOf items) found =
      List.eraseDupsBy.loop (· == ·) (items.filterMap (Item.body? a)) found := by
    induction items generalizing opened with
    | nil => exact fun found => by simp [classBodiesFrom, List.eraseDupsBy.loop]
    | cons i items ih =>
      intro found
      have hbodies : a = .one → ∀ body b, .hole ⟨.plainClass body, b⟩ ∈ items → b = .one :=
        fun ha body b hmem => hone ha body b (List.mem_cons_of_mem _ hmem)
      rw [textOf_cons]
      match i with
      | .literal c =>
        have hopen : '[' ∉ (Item.literal c).text := fun hmem => hclear.1 (List.mem_singleton.1 hmem).symm
        rw [classBodiesFrom_outside hopen, ih hclear.2.2 hbodies]
        rfl
      | .point =>
        rw [classBodiesFrom_outside (by decide), ih (show Clear true items from hclear) hbodies]
        rfl
      | .hole ⟨.token t, b⟩ =>
        rw [classBodiesFrom_outside (by cases t <;> cases b <;> decide), ih hclear.2.2.2 hbodies]
        rfl
      | .hole ⟨.plainClass body, b⟩ =>
        obtain ⟨-, hbody, hnosign, hrest⟩ := hclear
        have hsign : a.sign.isPrefixOf (b.sign ++ textOf items) = decide (b = a) := by
          rw [Bool.eq_iff_iff, List.isPrefixOf_iff_prefix, sign_isPrefix_iff hnosign, decide_eq_true_iff]
          constructor
          · rintro (rfl | rfl)
            · rfl
            · exact hone rfl body b List.mem_cons_self
          · exact fun hb => .inl hb.symm
        have hoverSign : ∀ found, classBodiesFrom a.sign none (b.sign ++ textOf items) found =
            classBodiesFrom a.sign none (textOf items) found :=
          fun found => classBodiesFrom_outside (by cases b <;> decide)
        have htext : (Item.hole ⟨.plainClass body, b⟩).text = classMark body [] ++ b.sign := rfl
        rw [htext, List.append_assoc, classBodiesFrom_class hbody.1 hbody.isBodyChar, hsign, hoverSign,
          ih hrest hbodies]
        by_cases hb : b = a
        · have hbody : Item.body? a (.hole ⟨.plainClass body, b⟩) = some body := if_pos hb
          rw [List.filterMap_cons_some hbody, List.eraseDupsBy.loop, List.any_beq]
          cases found.contains body <;> simp [hb]
        · have hbody : Item.body? a (.hole ⟨.plainClass body, b⟩) = none := if_neg hb
          rw [List.filterMap_cons_none hbody]
          simp [hb]
  exact key []

end Bodies

end TextPattern.Sample
