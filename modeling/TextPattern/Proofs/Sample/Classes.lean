import Mathlib.Data.List.Dedup
import TextPattern.Proofs.Extract
import TextPattern.Proofs.Parts
import TextPattern.Proofs.Sample.Items
import TextPattern.Sample.Generate

/-!
# Classes as a pattern finds them

* `classBody? sign text` : the body of the class that the text begins with;
* `classesOf sign text` : the bodies of all classes of a text, `classBodies_eq` : each is listed once as it is
  met first;
* `classPattern a` : the pattern of a plain class with an amount, its body in a group;
* `classExpr a` : its expression, `reads_classExpr` : which reads a class, `group_of_mem_occurrences` : and keeps
  its body;
* `extractAll_classPattern` : the groups of all occurrences of the pattern in a text are the bodies of the classes.
-/

namespace TextPattern.Sample

/-! ## The classes of a text -/

/-- The body of a class of which `read`, last first, has been read, if the text closes it with the sign behind. -/
def closedBody? (sign read text : List Char) : Option (List Char) :=
  let body := read.reverse ++ text.takeWhile isBodyChar
  if body ≠ [] ∧ ']' :: sign <+: text.dropWhile isBodyChar then some body else none

/-- The body of the class that the text begins with, if it begins with one that has the sign. -/
def classBody? (sign : List Char) : List Char → Option (List Char)
  | '[' :: rest => closedBody? sign [] rest
  | _ => none

/-- The bodies of the classes of a text that have the sign. -/
def classesOf (sign text : List Char) : List (List Char) := text.tails.filterMap (classBody? sign)

section Bodies

variable {sign read text rest body : List Char} {c : Char}

theorem takeWhile_body (hbody : ∀ c ∈ body, isBodyChar c = true) (rest : List Char) :
    (body ++ ']' :: rest).takeWhile isBodyChar = body ∧
      (body ++ ']' :: rest).dropWhile isBodyChar = ']' :: rest := by
  rw [List.takeWhile_append_of_pos hbody, List.dropWhile_append_of_pos hbody]
  simp [isBodyChar]

theorem closedBody?_eq_some : closedBody? sign [] text = some body ↔
    body ≠ [] ∧ (∀ c ∈ body, isBodyChar c = true) ∧ body ++ ']' :: sign <+: text := by
  rw [closedBody?, Option.ite_none_right_eq_some, List.reverse_nil, List.nil_append, Option.some.injEq]
  constructor
  · rintro ⟨⟨hne, hclose⟩, rfl⟩
    refine ⟨hne, fun c hc => List.mem_takeWhile_imp hc, ?_⟩
    conv_rhs => rw [← List.takeWhile_append_dropWhile (p := isBodyChar) (l := text)]
    exact (List.prefix_append_right_inj _).2 hclose
  · rintro ⟨hne, hbody, post, rfl⟩
    obtain ⟨htake, hdrop⟩ := takeWhile_body hbody (sign ++ post)
    rw [List.append_assoc, List.cons_append, htake, hdrop]
    exact ⟨⟨hne, ⟨post, rfl⟩⟩, rfl⟩

theorem classBody?_eq_some : classBody? sign text = some body ↔
    body ≠ [] ∧ (∀ c ∈ body, isBodyChar c = true) ∧ classMark body sign <+: text := by
  match text with
  | [] => simp [classBody?, classMark]
  | c :: rest =>
    by_cases hc : c = '['
    · subst hc
      rw [classBody?, closedBody?_eq_some, classMark, List.cons_append, List.prefix_cons_inj]
    · have hnone : classBody? sign (c :: rest) = none := by
        unfold classBody?
        split
        · next h => exact absurd (List.cons.inj h).1 hc
        · rfl
      rw [hnone, classMark, List.cons_append, List.cons_prefix_cons]
      simp [Ne.symm hc]

theorem classesOf_nil : classesOf sign [] = [] := by
  simp [classesOf, classBody?]

theorem classesOf_cons : classesOf sign (c :: rest) =
    (classBody? sign (c :: rest)).toList ++ classesOf sign rest := by
  rw [classesOf, List.tails_cons, List.filterMap_cons, classesOf]
  cases classBody? sign (c :: rest) <;> rfl

theorem classesOf_cons_of_ne (hc : c ≠ '[') : classesOf sign (c :: rest) = classesOf sign rest := by
  have hnone : classBody? sign (c :: rest) = none := by
    rw [Option.eq_none_iff_forall_ne_some]
    intro body hbody
    exact hc (List.cons_prefix_cons.1 (classBody?_eq_some.1 hbody).2.2).1.symm
  rw [classesOf_cons, hnone]
  rfl

theorem mem_classesOf : body ∈ classesOf sign text ↔
    body ≠ [] ∧ (∀ c ∈ body, isBodyChar c = true) ∧ classMark body sign <:+: text := by
  rw [classesOf, List.mem_filterMap]
  constructor
  · rintro ⟨tail, htail, hbody⟩
    obtain ⟨hne, hchars, hmark⟩ := classBody?_eq_some.1 hbody
    exact ⟨hne, hchars, hmark.isInfix.trans ((List.mem_tails _ _).1 htail).isInfix⟩
  · rintro ⟨hne, hchars, left, right, rfl⟩
    refine ⟨classMark body sign ++ right, (List.mem_tails _ _).2 ⟨left, by simp⟩, ?_⟩
    exact classBody?_eq_some.2 ⟨hne, hchars, List.prefix_append _ _⟩

theorem closedBody?_cons_of_isBodyChar (hc : isBodyChar c = true) :
    closedBody? sign read (c :: rest) = closedBody? sign (c :: read) rest := by
  simp [closedBody?, hc]

theorem closedBody?_cons_of_not (hc : isBodyChar c = false) : closedBody? sign read (c :: rest) =
    if read ≠ [] ∧ ']' :: sign <+: c :: rest then some read.reverse else none := by
  simp [closedBody?, hc]

/-- Collecting bodies goes on with those of the rest, behind that of a class which is open. -/
theorem classBodiesFrom_eq (sign text : List Char) (body : Option (List Char)) (found : List (List Char)) :
    classBodiesFrom sign body text found = List.eraseDupsBy.loop (· == ·)
      ((body.bind fun read => closedBody? sign read text).toList ++ classesOf sign text) found := by
  induction text generalizing body found with
  | nil =>
    have hnone : (body.bind fun read => closedBody? sign read []) = none := by
      cases body <;> simp [closedBody?]
    rw [hnone, classesOf_nil, classBodiesFrom]
    rfl
  | cons c rest ih =>
    have hother : isBodyChar c = false → c ≠ ']' →
        (body.bind fun read => closedBody? sign read (c :: rest)) = none := by
      intro hc hclose
      cases body with
      | none => rfl
      | some read => simp [closedBody?_cons_of_not hc, Ne.symm hclose]
    rw [classBodiesFrom.eq_def]
    simp only
    split
    · next hopen =>
      subst hopen
      rw [ih, hother (by decide) (by decide), classesOf_cons]
      rfl
    · next hopen =>
      rw [classesOf_cons_of_ne hopen]
      split
      · next hclose =>
        subst hclose
        have hbody : isBodyChar ']' = false := by decide
        split
        · next b bs =>
          have hclosed : (some (b :: bs)).bind (fun read => closedBody? sign read (']' :: rest)) =
              if sign.isPrefixOf rest = true then some (b :: bs).reverse else none := by
            simp [closedBody?_cons_of_not hbody]
          rw [hclosed]
          by_cases hsign : sign.isPrefixOf rest = true
          · rw [if_pos hsign, hsign, Bool.true_and, ih, ih, Option.toList_some, List.singleton_append,
              List.eraseDupsBy.loop, List.any_beq]
            cases found.contains (b :: bs).reverse <;> rfl
          · rw [if_neg hsign, Bool.eq_false_iff.2 hsign, Bool.false_and, if_neg Bool.false_ne_true, ih]
            rfl
        · next hnot =>
          have hnone : (body.bind fun read => closedBody? sign read (']' :: rest)) = none := by
            cases body with
            | none => rfl
            | some read =>
              cases read with
              | nil => simp [closedBody?_cons_of_not hbody]
              | cons b bs => exact absurd rfl (hnot b bs)
          rw [ih, hnone]
          rfl
      · next hclose =>
        split
        · next hbreaks =>
          have hbody : isBodyChar c = false := by
            rw [Bool.eq_false_iff]
            intro hc
            rw [breaksBody_of_isBodyChar hc] at hbreaks
            cases hbreaks
          rw [ih, hother hbody hclose]
          rfl
        · next hbreaks =>
          have hbody : isBodyChar c = true := by
            simp only [breaksBody, Bool.or_eq_true, decide_eq_true_eq, not_or] at hbreaks
            simp [isBodyChar, hopen, hclose, hbreaks]
          rw [ih]
          cases body with
          | none => rfl
          | some read =>
            rw [Option.map_some, Option.bind_some, Option.bind_some, closedBody?_cons_of_isBodyChar hbody]

/-- The bodies that are collected are those of the classes, each listed as it is met first. -/
theorem classBodies_eq (sign text : List Char) : classBodies sign text = (classesOf sign text).eraseDups :=
  classBodiesFrom_eq sign text none []

theorem mem_classBodies : body ∈ classBodies sign text ↔
    body ≠ [] ∧ (∀ c ∈ body, isBodyChar c = true) ∧ classMark body sign <:+: text := by
  rw [classBodies_eq, List.mem_eraseDups, mem_classesOf]

def classPart? (sign : List Char) (_ : Option Char) (text : List Char) : Option (List Char) :=
  (classBody? sign text).map fun body => classMark body sign

/-- The classes that are read one behind the other are all there are: none begins inside another. -/
theorem partsFrom_classPart? (hsign : '[' ∉ sign) (skip : Nat) (before text : List Char)
    (hskip : '[' ∉ text.take skip) : (partsFrom (classPart? sign) skip before text).map Prod.snd =
      (classesOf sign text).map fun body => classMark body sign := by
  induction text generalizing skip before with
  | nil => simp [partsFrom, classesOf_nil]
  | cons c rest ih =>
    cases skip with
    | succ skip =>
      obtain ⟨hc, hrest⟩ := not_or.1 (List.mem_cons.not.1 hskip)
      rw [partsFrom, classesOf_cons_of_ne (Ne.symm hc), ih skip _ hrest]
    | zero =>
      rw [partsFrom, classesOf_cons, classPart?]
      cases hbody : classBody? sign (c :: rest) with
      | none => exact ih 0 _ (by simp)
      | some body =>
        obtain ⟨-, hchars, hmark⟩ := classBody?_eq_some.1 hbody
        have hinside : '[' ∉ rest.take ((classMark body sign).length - 1) := by
          obtain ⟨post, hpost⟩ := hmark
          rw [classMark, List.cons_append, List.cons_append, List.cons.injEq] at hpost
          rw [← hpost.2, classMark, List.cons_append, List.length_cons, Nat.add_sub_cancel, List.take_left,
            List.mem_append, List.mem_cons]
          rintro (hmem | hmem | hmem)
          · exact absurd (hchars _ hmem) (by decide)
          · exact absurd hmem (by decide)
          · exact hsign hmem
        rw [Option.map_some, List.map_cons, ih _ _ hinside, Option.toList_some, List.singleton_append,
          List.map_cons]

end Bodies

/-! ## The pattern of a class -/

def bodySet : CharSet := ⟨[0, 45, 46, 91, 95, 1114112], by decide⟩

theorem contains_bodySet (c : Char) : bodySet.contains c = isBodyChar c := by
  have hvalid : c.toNat < 1114112 := by
    have := c.valid
    simp only [UInt32.isValidChar, Nat.isValidChar] at this
    change c.val.toNat < 1114112
    omega
  have hne : ∀ d : Char, c = d ↔ c.toNat = d.toNat := fun d => Char.toNat_inj.symm
  rw [Bool.eq_iff_iff]
  simp only [CharSet.contains, CharSet.mem, CharSet.holds, bodySet, isBodyChar]
  simp [hne]
  omega

/-- How a class with an amount is found: brackets around a body, which is a group, and the sign behind it. -/
def classPattern (a : Amount) : String :=
  String.ofList ("\\[([^\\[\\]\\\\^-]+)\\]".toList ++ Options.escape a.sign)

def classExpr (sign : List Char) : Expr :=
  .cat (.chars (.single '[')) (.cat (.group 1 (.rep (.chars bodySet) .positive true))
    (.ofFactors (.chars (.single ']') :: sign.map fun c => .chars (.single c))))

theorem compile_classPattern (a : Amount) : Pattern.compile (classPattern a) .none =
    .ok ⟨classPattern a, .none, classExpr a.sign, (classExpr a.sign).program⟩ := by
  cases a <;> exact Pattern.compile_of_expr (by decide +kernel)

theorem matches_classExpr {sign pre rest : List Char} {d : Cursor} :
    (classExpr sign).Matches (.between pre rest) d ↔
      ∃ body post, body ≠ [] ∧ (∀ c ∈ body, isBodyChar c = true) ∧ rest = classMark body sign ++ post ∧
        d = .between (pre ++ classMark body sign) post := by
  have hbehind : (']' :: sign).map (fun c => Expr.chars (.single c)) =
      .chars (.single ']') :: sign.map fun c => .chars (.single c) := rfl
  simp only [classExpr, Expr.Matches, Expr.matches_ofFactors, ← hbehind]
  constructor
  · rintro ⟨_, hopen, _, ⟨n, hn, hbody⟩, hclose⟩
    obtain ⟨a, rest, rfl, ha, rfl⟩ := Expr.matches_chars.1 hopen
    rw [CharSet.contains_single, decide_eq_true_iff] at ha
    obtain ⟨body, rest, rfl, hchars, rfl, rfl⟩ := Expr.rounds_chars.1 hbody
    obtain ⟨post, rfl, rfl⟩ := (Expr.inTurn_singles _).1 hclose
    refine ⟨body, post, List.length_pos_iff.1 hn.1, fun c hc => ?_, ?_, ?_⟩
    · rw [← contains_bodySet]
      exact hchars c hc
    · rw [ha, classMark]
      simp
    · rw [ha, classMark]
      simp
  · rintro ⟨body, post, hne, hchars, rfl, rfl⟩
    have hcount : 1 ≤ body.length ∧ ∀ n ∈ (none : Option Nat), body.length ≤ n :=
      ⟨List.length_pos_iff.2 hne, fun n hn => absurd hn (Option.not_mem_none n)⟩
    refine ⟨.between (pre ++ ['[']) (body ++ (']' :: sign ++ post)), ?_,
      .between (pre ++ ['['] ++ body) (']' :: sign ++ post), ⟨body.length, hcount, ?_⟩, ?_⟩
    · refine Expr.matches_chars.2 ⟨'[', _, by simp [classMark], ?_, rfl⟩
      rw [CharSet.contains_single, decide_eq_true rfl]
    · refine Expr.rounds_chars.2 ⟨body, _, rfl, fun c hc => ?_, rfl, rfl⟩
      rw [contains_bodySet]
      exact hchars c hc
    · exact (Expr.inTurn_singles _).2 ⟨post, rfl, by simp [classMark]⟩

theorem reads_classExpr (sign : List Char) : (classExpr sign).Reads (classPart? sign) := by
  refine ⟨fun pre rest d => ?_, fun prev rest part hpart => ?_⟩
  · rw [matches_classExpr]
    constructor
    · rintro ⟨body, post, hne, hchars, rfl, rfl⟩
      refine ⟨classMark body sign, post, rfl, Option.map_eq_some_iff.2 ⟨body, ?_, rfl⟩, rfl⟩
      exact classBody?_eq_some.2 ⟨hne, hchars, List.prefix_append _ _⟩
    · rintro ⟨part, post, rfl, hpart, rfl⟩
      obtain ⟨body, hbody, rfl⟩ := Option.map_eq_some_iff.1 hpart
      obtain ⟨hne, hchars, -⟩ := classBody?_eq_some.1 hbody
      exact ⟨body, post, hne, hchars, rfl, rfl⟩
  · obtain ⟨body, hbody, rfl⟩ := Option.map_eq_some_iff.1 hpart
    exact ⟨List.cons_ne_nil _ _, (classBody?_eq_some.1 hbody).2.2⟩

/-! ## The group -/

/-- What a run of the pattern from the place between `pre` and `rest` has read and kept, by its address. -/
def ClassRun (pre rest : List Char) (t : Thread) : Prop :=
  match t.pc with
  | 0 => t.place = .between pre rest ∧ t.saves = []
  | 1 => ∃ post, rest = '[' :: post ∧ t.place = .between (pre ++ ['[']) post ∧ t.saves = []
  | 2 | 3 | 4 => ∃ body post, (∀ c ∈ body, isBodyChar c = true) ∧ rest = '[' :: (body ++ post) ∧
      t.place = .between (pre ++ '[' :: body) post ∧ t.saves = [(2, byteLength (pre ++ ['[']))]
  | 5 => ∃ body post, (∀ c ∈ body, isBodyChar c = true) ∧ rest = '[' :: (body ++ post) ∧
      t.place = .between (pre ++ '[' :: body) post ∧
      t.saves = [(3, byteLength (pre ++ '[' :: body)), (2, byteLength (pre ++ ['[']))]
  | _ => ∃ body post, (∀ c ∈ body, isBodyChar c = true) ∧ rest = '[' :: (body ++ ']' :: post) ∧
      t.saves = [(3, byteLength (pre ++ '[' :: body)), (2, byteLength (pre ++ ['[']))]

theorem code_classExpr (a : Amount) : ∃ behind, (classExpr a.sign).program.code.toList =
    [.take (.single '[') 1, .save 2 2, .take bodySet 3, .split 2 4, .save 3 5, .take (.single ']') 6] ++ behind ∧
      (behind = [.accept] ∨ ∃ set, behind = [.take set 7, .accept]) := by
  cases a with
  | any => exact ⟨[.take (.single '*') 7, .accept], rfl, .inr ⟨_, rfl⟩⟩
  | most => exact ⟨[.take (.single '+') 7, .accept], rfl, .inr ⟨_, rfl⟩⟩
  | one => exact ⟨[.accept], rfl, .inl rfl⟩

/-- A run accepts only behind all that is kept. -/
theorem le_of_accept {a : Amount} {pc : Nat} (h : (classExpr a.sign).program.code[pc]? = some .accept) :
    6 ≤ pc := by
  obtain ⟨behind, hcode, -⟩ := code_classExpr a
  rw [← Array.getElem?_toList, hcode] at h
  match pc with
  | 0 | 1 | 2 | 3 | 4 | 5 => simp at h
  | pc + 6 => exact Nat.le_add_left 6 pc

theorem eq_of_mem_follow_take {set : CharSet} {next : Nat} {t u : Thread} {pre rest : List Char}
    (hplace : t.place = .between pre rest) (hu : u ∈ (Inst.take set next).follow t) :
    ∃ c post, rest = c :: post ∧ set.contains c = true ∧ u = ⟨next, .between (pre ++ [c]) post, t.saves⟩ := by
  rw [Inst.follow, hplace] at hu
  cases rest with
  | nil => exact absurd hu List.not_mem_nil
  | cons c post =>
    simp only [Cursor.next?_between] at hu
    split at hu
    · next hc => exact ⟨c, post, rfl, hc, List.mem_singleton.1 hu⟩
    · exact absurd hu List.not_mem_nil

theorem classRun_following {a : Amount} {pre rest : List Char} (t : Thread) (ht : ClassRun pre rest t) :
    ∀ u ∈ (classExpr a.sign).program.following t, ClassRun pre rest u := by
  intro u hu
  obtain ⟨i, hi, hu⟩ := Program.mem_following.1 hu
  obtain ⟨behind, hcode, hbehind⟩ := code_classExpr a
  rw [← Array.getElem?_toList, hcode] at hi
  obtain ⟨pc, place, saves⟩ := t
  match pc with
  | 0 =>
    obtain rfl : Inst.take (.single '[') 1 = i := Option.some.inj hi
    obtain ⟨hplace, rfl⟩ := ht
    obtain ⟨c, post, rfl, hc, rfl⟩ := eq_of_mem_follow_take hplace hu
    rw [CharSet.contains_single, decide_eq_true_iff] at hc
    subst hc
    exact ⟨post, rfl, rfl, rfl⟩
  | 1 =>
    obtain rfl : Inst.save 2 2 = i := Option.some.inj hi
    obtain ⟨post, rfl, hplace, rfl⟩ := ht
    obtain rfl := List.mem_singleton.1 hu
    exact ⟨[], post, by simp, rfl, hplace, by rw [show place = _ from hplace]; rfl⟩
  | 2 =>
    obtain rfl : Inst.take bodySet 3 = i := Option.some.inj hi
    obtain ⟨body, rest, hbody, rfl, hplace, hsaves⟩ := ht
    obtain ⟨c, post, rfl, hc, rfl⟩ := eq_of_mem_follow_take hplace hu
    rw [contains_bodySet] at hc
    refine ⟨body ++ [c], post, ?_, by simp, by simp, hsaves⟩
    exact List.forall_mem_append.2 ⟨hbody, List.forall_mem_singleton.2 hc⟩
  | 3 =>
    obtain rfl : Inst.split 2 4 = i := Option.some.inj hi
    simp only [Inst.follow, List.mem_cons, List.not_mem_nil, or_false] at hu
    rcases hu with rfl | rfl
    · exact ht
    · exact ht
  | 4 =>
    obtain rfl : Inst.save 3 5 = i := Option.some.inj hi
    obtain ⟨body, post, hbody, rfl, hplace, hsaves⟩ := ht
    obtain rfl := List.mem_singleton.1 hu
    refine ⟨body, post, hbody, rfl, hplace, ?_⟩
    rw [show place = _ from hplace, show saves = _ from hsaves]
    rfl
  | 5 =>
    obtain rfl : Inst.take (.single ']') 6 = i := Option.some.inj hi
    obtain ⟨body, rest, hbody, rfl, hplace, hsaves⟩ := ht
    obtain ⟨c, post, rfl, hc, rfl⟩ := eq_of_mem_follow_take hplace hu
    rw [CharSet.contains_single, decide_eq_true_iff] at hc
    subst hc
    exact ⟨body, post, hbody, rfl, hsaves⟩
  | pc + 6 =>
    -- Behind the closing bracket nothing more is kept.
    have hi : behind[pc]? = some i := hi
    rcases hbehind with rfl | ⟨set, rfl⟩
    · cases pc with
      | zero =>
        obtain rfl : Inst.accept = i := Option.some.inj hi
        exact absurd hu List.not_mem_nil
      | succ pc => simp at hi
    · cases pc with
      | zero =>
        obtain rfl : Inst.take set 7 = i := Option.some.inj hi
        have hsame : u.pc = 7 ∧ u.saves = saves := by
          simp only [Inst.follow] at hu
          split at hu
          · split at hu
            · obtain rfl := List.mem_singleton.1 hu
              exact ⟨rfl, rfl⟩
            · exact absurd hu List.not_mem_nil
          · exact absurd hu List.not_mem_nil
        obtain ⟨body, post, hbody, hrest, hsaves⟩ := ht
        obtain ⟨upc, uplace, usaves⟩ := u
        obtain ⟨rfl, rfl⟩ := hsame
        exact ⟨body, post, hbody, hrest, hsaves⟩
      | succ pc =>
        cases pc with
        | zero =>
          obtain rfl : Inst.accept = i := Option.some.inj hi
          exact absurd hu List.not_mem_nil
        | succ pc => simp at hi

/-- The group of an occurrence is the body of the class that the occurrence is. -/
theorem group_of_mem_occurrences {a : Amount} {text : List Char} {o : Occurrence}
    (h : o ∈ (classExpr a.sign).program.occurrences text) : ∃ body whole group,
      o.slots.head? = some (some whole) ∧ whole.text = classMark body a.sign ∧
        o.slots[1]? = some (some group) ∧ group.text = body := by
  have hp := (classExpr a.sign).contained_program
  have hpos := (classExpr a.sign).size_program_pos
  have hstart : (Cursor.ofText text).In text := ⟨[], text, rfl, rfl⟩
  obtain ⟨d, start, t, hd, hfound, rfl⟩ := Program.exists_search_of_mem hp hpos hstart h
  have hends := Program.search?_ends hp hpos hd hfound
  obtain ⟨left, right, rfl, rfl⟩ := hd
  obtain ⟨mid, rest, rfl, rfl, hexplore, -⟩ := Program.search?_eq_some hp hpos hfound
  obtain ⟨body, post, -, hbody, rfl, hplace⟩ := matches_classExpr.1 (((classExpr a.sign).ends_program _ _).1 hends)
  have hfirst : ClassRun (left ++ mid) (classMark body a.sign ++ post)
      ⟨0, .between (left ++ mid) (classMark body a.sign ++ post), []⟩ := ⟨rfl, rfl⟩
  obtain ⟨hrun, haccept⟩ := Program.explore_invariant classRun_following
    (List.forall_mem_singleton.2 hfirst) hexplore
  obtain ⟨n, hn⟩ := Nat.exists_eq_add_of_le' (le_of_accept haccept)
  rw [ClassRun.eq_def, hn] at hrun
  obtain ⟨body', post', hbody', hrest, hsaves⟩ := hrun
  -- Both are what stands before the first closing bracket.
  have hsame : body' = body := by
    have hinside : body ++ ']' :: (a.sign ++ post) = body' ++ ']' :: post' := by
      simpa [classMark] using hrest
    rw [← (takeWhile_body hbody' _).1, ← hinside, (takeWhile_body hbody _).1]
  subst hsame
  have hslots : (classExpr a.sign).program.slots = 2 := by cases a <;> rfl
  have hcapture : t.capture? (.between (left ++ mid) (classMark body' a.sign ++ post)) 1 =
      some ⟨byteLength (left ++ mid ++ ['[']), byteLength (left ++ mid ++ '[' :: body'),
        (Cursor.between (left ++ mid) (classMark body' a.sign ++ post)).slice
          (byteLength (left ++ mid ++ ['['])) (byteLength (left ++ mid ++ '[' :: body'))⟩ := by
    simp [Thread.capture?, Thread.saved?, hsaves]
  have hslot : (t.occurrence (.between (left ++ mid) (classMark body' a.sign ++ post))
      (classExpr a.sign).program.slots).slots[1]? =
        some (t.capture? (.between (left ++ mid) (classMark body' a.sign ++ post)) 1) := by
    rw [Thread.occurrence, hslots]
    rfl
  rw [hcapture] at hslot
  refine ⟨body', _, _, rfl, ?_, hslot, ?_⟩
  · have hslice := Cursor.slice_between (left ++ mid) (classMark body' a.sign) post
    rw [show t.place.offset = byteLength (left ++ mid ++ classMark body' a.sign) by rw [hplace]; rfl]
    exact hslice
  · have hslice := Cursor.slice_behind (left ++ mid) ['['] body' (']' :: a.sign ++ post)
    simpa [classMark] using hslice

/-! ## What is extracted -/

/-- What is told of each entry of a list by one thing that is told of it. -/
theorem filterMap_eq_map {α β γ δ : Type} {f : α → γ} {g : β → γ} {k : α → Option δ} {m : β → δ}
    (hg : Function.Injective g) {xs : List α} {ys : List β} (hsame : xs.map f = ys.map g)
    (h : ∀ x ∈ xs, ∃ y, f x = g y ∧ k x = some (m y)) : xs.filterMap k = ys.map m := by
  induction xs generalizing ys with
  | nil =>
    obtain rfl := List.map_eq_nil_iff.1 hsame.symm
    rfl
  | cons x xs ih =>
    obtain ⟨⟨y, hxy, hk⟩, h⟩ := List.forall_mem_cons.1 h
    obtain ⟨z, zs, rfl, hz, hzs⟩ := List.map_eq_cons_iff.1 hsame.symm
    obtain rfl : z = y := hg (hz.trans hxy)
    rw [List.filterMap_cons_some hk, ih hzs.symm h, List.map_cons]

theorem classMark_injective (sign : List Char) : Function.Injective fun body => classMark body sign := by
  intro body body' h
  have h : '[' :: (body ++ ']' :: sign) = '[' :: (body' ++ ']' :: sign) := h
  exact List.append_cancel_right (List.cons.inj h).2

/-- The groups of what the pattern finds are the bodies of the classes. -/
theorem groups_occurrences (a : Amount) (text : List Char) :
    ((classExpr a.sign).program.occurrences text).filterMap
        (fun o => (MatchResult.ofOccurrence o).group? 1) =
      (classesOf a.sign text).map String.ofList := by
  have hsign : '[' ∉ a.sign := by cases a <;> decide
  have hwholes := congrArg (List.map fun r => r.2.2.join.map Capture.text)
    ((reads_classExpr a.sign).occurrences text)
  have hparts := congrArg (List.map some) (partsFrom_classPart? hsign 0 [] text (by simp))
  simp only [List.map_map] at hwholes hparts
  refine filterMap_eq_map (fun body body' h => classMark_injective a.sign (Option.some.inj h))
    (hwholes.trans hparts) fun o ho => ?_
  obtain ⟨body, whole, group, hhead, hwhole, hgroup, htext⟩ := group_of_mem_occurrences ho
  refine ⟨body, ?_, ?_⟩
  · simp [hhead, hwhole]
  · rw [MatchResult.group?, MatchResult.ofOccurrence, List.getElem?_map, hgroup, ← htext]
    rfl

/-- Every extraction with the pattern succeeds, and the groups of what it finds, each listed as it is met first,
are the bodies that are replaced. -/
theorem extractAll_classPattern (a : Amount) (text : String) :
    ∃ set, extractAll (classPattern a) .none text = .ok set ∧
      ((set.results.filterMap fun r => r.group? 1).map String.toList).eraseDups =
        classBodies a.sign text.toList := by
  refine ⟨_, extractAll_eq_ok.2 ⟨_, validateAndCompile_none (compile_classPattern a), rfl⟩, ?_⟩
  have hgroups := congrArg (List.map String.toList) (groups_occurrences a text.toList)
  simp only [List.map_map, Function.comp_def, String.toList_ofList, List.map_id'] at hgroups
  rw [classBodies_eq, ← hgroups, Pattern.matchSet, List.filterMap_map]
  rfl

end TextPattern.Sample
