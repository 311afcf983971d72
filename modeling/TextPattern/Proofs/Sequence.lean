import Mathlib.Data.List.Forall2
import TextPattern.Proofs.Item

/-!
# Patterns of one item behind the other

* `Spells text es` : the text is a row of items, with the expressions `es`, `Spells.escape` : as an escaped text is;
* `Spells.exists_read` : the machine over a row of items, `Spells.compile_of_size` : what it compiles to;
* `Denotes text P` : the text compiles, and matches the whole of the inputs that `P` holds of;
* `Spells.denotes` : what a row of items that compiles denotes, `Spells.denotes_row` : what a row of sets
  denotes;
* `Fits sets text` : the characters of the text belong to the sets, one to one.
-/

namespace TextPattern

open Syntax

variable {e : Expr} {text more : List Char}

/-! ## Rows of items -/

/-- The text is a row of items with the expressions `es`. -/
inductive Spells : List Char → List Expr → Prop
  | nil : Spells [] []
  | cons {item text : List Char} {e : Expr} {es : List Expr} :
    IsItem item e → Spells text es → Spells (item ++ text) (e :: es)

namespace Spells

variable {es fs : List Expr}

theorem single (h : IsItem text e) : Spells text [e] := by
  have := cons h nil
  rwa [List.append_nil] at this

theorem append {other : List Char} (h : Spells text es) (h' : Spells other fs) :
    Spells (text ++ other) (es ++ fs) := by
  induction h with
  | nil => exact h'
  | cons hitem _ ih =>
    rw [List.append_assoc]
    exact cons hitem ih

theorem replicate (h : IsItem text e) (n : Nat) :
    Spells (List.replicate n text).flatten (List.replicate n e) := by
  induction n with
  | zero => exact nil
  | succ n ih => exact cons h ih

/-- A text of characters without a meaning of their own stands for itself. -/
theorem literals (text : List Char) (h : ∀ c ∈ text, isMeta c = false) :
    Spells text (text.map fun c => .chars (.single c)) := by
  induction text with
  | nil => exact nil
  | cons c text ih =>
    obtain ⟨hc, htext⟩ := List.forall_mem_cons.1 h
    exact cons (isOperand_literal (isOperator_of_not_isMeta hc)).isItem (ih htext)

/-- An escaped text stands for the text, whatever its characters mean. -/
theorem escape (text : List Char) :
    Spells (Options.escape text) (text.map fun c => .chars (.single c)) := by
  induction text with
  | nil => exact nil
  | cons c text ih =>
    rw [Options.escape, List.flatMap_cons, List.map_cons]
    split
    · next hc => exact cons (isOperand_meta hc).isItem ih
    · next hc => exact cons (isOperand_literal (isOperator_of_not_isMeta (Bool.eq_false_iff.2 hc))).isItem ih

theorem head?_ne (h : Spells text es) (hmore : more.head? ≠ some '?') : (text ++ more).head? ≠ some '?' := by
  cases h with
  | nil => exact hmore
  | cons hitem _ =>
    obtain ⟨c, cs, rfl, hc⟩ := hitem.head
    simpa using hc

/-- The machine reads a row of items as parts of the level. -/
theorem exists_read (h : Spells text es) (m : Machine) (hr : m.reader.rest = text ++ more)
    (hmore : more.head? ≠ some '?') (hext : m.reader.extended = false) :
    ∃ r parts rounds, rounds ≤ text.length ∧ (∀ fuel, m.read (fuel + rounds) =
        (Machine.mk r { m.level with parts := parts.reverse ++ m.level.parts } m.groups).read fuel) ∧
      r.rest = more ∧ r.extended = false ∧
      partsToExprs Options.none.modes parts = .ok (es, Options.none.modes) ∧ partsDepth parts ≤ 3 := by
  induction h generalizing m with
  | nil => exact ⟨m.reader, [], 0, Nat.le_refl 0, fun _ => rfl, hr, hext, rfl, Nat.zero_le 3⟩
  | @cons item text e es hitem hspells ih =>
    rw [List.append_assoc] at hr
    obtain ⟨r, part, first, hfirst, hread, hrest, hext', hpart, hdepth⟩ :=
      hitem.read m _ hr (hspells.head?_ne hmore) hext
    obtain ⟨last, parts, rounds, hrounds, hreads, hlast, hext'', hparts, hdepths⟩ :=
      ih ⟨r, m.level.push part, m.groups⟩ hrest hext'
    refine ⟨last, part :: parts, rounds + first, ?_, fun fuel => ?_, hlast, hext'', ?_, ?_⟩
    · rw [List.length_append]
      omega
    · rw [← Nat.add_assoc, hread, hreads]
      simp only [Level.push, List.reverse_cons, List.append_assoc, List.singleton_append]
    · exact partsToExprs_cons.2 ⟨e, _, es, hpart, hparts, rfl⟩
    · rw [partsDepth]
      exact Nat.max_le.2 ⟨hdepth, hdepths⟩

/-- The machine behind a row of items: no group is open, and the level has the items as its parts. -/
theorem exists_readItems (h : Spells text es) :
    ∃ last parts, readItems text false = .ok last ∧ last.groups = [] ∧ last.reader.extended = false ∧
      last.level = ⟨.first, [], .first, parts.reverse⟩ ∧
      partsToExprs Options.none.modes parts = .ok (es, Options.none.modes) ∧ partsDepth parts ≤ 3 := by
  obtain ⟨r, parts, rounds, hrounds, hread, hrest, hext, hparts, hdepth⟩ :=
    h.exists_read (.ofText text false) (List.append_nil text).symm (by simp) rfl
  let last : Machine := ⟨r, ⟨.first, [], .first, parts.reverse⟩, []⟩
  refine ⟨last, parts, ?_, rfl, hext, rfl, hparts, hdepth⟩
  obtain ⟨k, hk⟩ := Nat.exists_eq_add_of_le hrounds
  have hfuel : text.length + 1 = k + 1 + rounds := by omega
  have hlast : (Machine.ofText text false).read (text.length + 1) = last.read (k + 1) := by
    rw [hfuel, hread]
    simp only [Machine.ofText, Level.openAt, List.append_nil, last]
  have hend : last.reader.skipBlanks.rest = [] := by
    rw [skipBlanks_verbatim hext, hrest]
  rw [readItems, hlast, Machine.read_end hend]

theorem depth_toTree_le (parts : List Tree) (stop : Position) :
    ((Level.mk .first [] .first parts).toTree stop).depth ≤ partsDepth parts.reverse + 1 := by
  match parts with
  | [] => exact Nat.zero_le _
  | [part] =>
    change part.depth ≤ max part.depth 0 + 1
    omega
  | a :: b :: parts => exact Nat.le_refl _

end Spells

/-! ## What a text denotes -/

/-- Without options the text compiles, and its pattern matches the whole of the inputs that `P` holds of. -/
def Denotes (text : List Char) (P : List Char → Prop) : Prop :=
  ∃ p, Pattern.compile (String.ofList text) .none = .ok p ∧
    ∀ input, ∃ found, p.matchesWhole input = .ok found ∧ (found = true ↔ P input.toList)

theorem Denotes.congr {P Q : List Char → Prop} (h : Denotes text P) (hPQ : ∀ input, P input ↔ Q input) :
    Denotes text Q := by
  obtain ⟨p, hp, hfound⟩ := h
  refine ⟨p, hp, fun input => ?_⟩
  obtain ⟨found, hmatch, hiff⟩ := hfound input
  exact ⟨found, hmatch, hiff.trans (hPQ _)⟩

theorem Denotes.isOk_compile {P : List Char → Prop} (h : Denotes text P) :
    (Pattern.compile (String.ofList text) .none).isOk = true := by
  obtain ⟨p, hp, -⟩ := h
  rw [hp]
  rfl

namespace Spells

variable {es : List Expr}

theorem exists_parse (h : Spells text es) : ∃ tree whole,
    parse text false = .ok tree ∧
      tree.toExpr Options.none.modes = .ok (.ofParts es, Options.none.modes) ∧
      parse (Options.none.wholeSource text) false = .ok whole ∧
      whole.toExpr Options.none.modes = .ok ((Expr.ofParts es).whole, Options.none.modes) := by
  obtain ⟨last, parts, hread, hgroups, hext, hlevel, hparts, hdepth⟩ := h.exists_readItems
  have hexpr : ∀ stop, (last.level.toTree stop).toExpr Options.none.modes =
      .ok (.ofParts es, Options.none.modes) := by
    intro stop
    rw [hlevel]
    exact Level.toExpr_toTree.2 ⟨[], _, es, rfl, by rwa [List.reverse_reverse], rfl⟩
  have hlimit : ∀ stop, (last.level.toTree stop).depth + 2 ≤ nestLimit := by
    intro stop
    have := depth_toTree_le parts.reverse stop
    rw [List.reverse_reverse] at this
    rw [hlevel]
    unfold nestLimit
    omega
  have hopen : last.endsInComment = false := by rw [Machine.endsInComment, hext, Bool.false_and]
  obtain ⟨behind, whole, hbehind, hfinish, htree⟩ := finish_whole hread hgroups hopen
  refine ⟨last.level.toTree last.reader.skipBlanks.pos, whole, ?_, hexpr _, ?_, ?_⟩
  · have := hlimit last.reader.skipBlanks.pos
    exact parse_eq_ok.2 ⟨last, hread, finish_eq_ok.2 ⟨hgroups, rfl⟩, by omega⟩
  · rw [Options.wholeSource_of_not_comments rfl]
    refine parse_eq_ok.2 ⟨behind, hbehind, hfinish, ?_⟩
    rw [Tree.depth_of_erase htree, depth_whole]
    exact hlimit _
  · exact Tree.toExpr_of_erase htree.symm (toExpr_whole.2 ⟨_, _, hexpr _, rfl, rfl⟩)

/-- A row of items compiles unless it is too large. -/
theorem compile_of_size (h : Spells text es)
    (hsize : ∀ limit, Options.none.compile text ≠ .error (.tooLarge limit)) :
    Options.none.compile text = .ok (.ofParts es) := by
  obtain ⟨tree, -, htree, hexpr, -, -⟩ := h.exists_parse
  exact compileText_of_size htree hexpr hsize

theorem compile_whole_of_size (h : Spells text es)
    (hwhole : ∀ limit, Options.none.compile (Options.none.wholeSource text) ≠ .error (.tooLarge limit)) :
    Options.none.compile (Options.none.wholeSource text) = .ok (Expr.ofParts es).whole := by
  obtain ⟨-, whole, -, -, hparse, hexpr⟩ := h.exists_parse
  exact compileText_of_size hparse hexpr hwhole

/-- A row of items that compiles, by itself and between the ends of the text, matches the whole of the inputs
that its expressions match one behind the other. -/
theorem denotes_of_size (h : Spells text es)
    (hsize : ∀ limit, Options.none.compile text ≠ .error (.tooLarge limit))
    (hwhole : ∀ limit, Options.none.compile (Options.none.wholeSource text) ≠ .error (.tooLarge limit)) :
    Denotes text fun input => ∃ d, Expr.InTurn es (.ofText input) d ∧ d.rest = [] := by
  have hcompile := h.compile_of_size hsize
  have hcompileWhole := h.compile_whole_of_size hwhole
  refine ⟨⟨String.ofList text, .none, .ofParts es, (Expr.ofParts es).program⟩, ?_, fun input => ?_⟩
  · exact Pattern.compile_eq_ok.2 ⟨_, by rw [String.toList_ofList]; exact hcompile, rfl⟩
  · refine ⟨(Expr.ofParts es).whole.program.occursIn input.toList, ?_, ?_⟩
    · exact Pattern.matchesWhole_eq_ok.2 ⟨_, by rw [String.toList_ofList]; exact hcompileWhole, rfl⟩
    · rw [Expr.occursIn_whole, Expr.covers_ofParts]

/-- A row of items, by itself and between the ends of the text, is not too large if the items are not in sum. -/
theorem not_tooLarge (h : Spells text es)
    (hsize : ∀ backwards, (es.map (Expr.stateSize backwards false)).sum + 336 ≤ costLimit) (limit : Nat) :
    Options.none.compile text ≠ .error (.tooLarge limit) ∧
      Options.none.compile (Options.none.wholeSource text) ≠ .error (.tooLarge limit) := by
  obtain ⟨tree, whole, htree, hexpr, hparse, hexprWhole⟩ := h.exists_parse
  have hstates : ∀ backwards, (Expr.ofParts es).stateSize backwards false ≤ costLimit - 304 := by
    intro backwards
    have hparts := Expr.stateSize_ofParts_le backwards es
    have hsum := hsize backwards
    omega
  have hcost := Expr.cost_le hstates
  have hcostWhole := Expr.cost_le fun backwards =>
    (Expr.stateSize_whole_le backwards _).trans (Nat.add_le_add_right (hstates backwards) 96)
  have hlimit : 304 ≤ costLimit := by decide
  constructor
  · rw [Options.compile, show Options.none.active.comments = false from rfl, compileText_of_parse htree hexpr,
      if_pos (by omega)]
    exact nofun
  · rw [Options.compile, show Options.none.active.comments = false from rfl,
      compileText_of_parse hparse hexprWhole, if_pos (by omega)]
    exact nofun

theorem denotes (h : Spells text es)
    (hsize : ∀ backwards, (es.map (Expr.stateSize backwards false)).sum + 336 ≤ costLimit) :
    Denotes text fun input => ∃ d, Expr.InTurn es (.ofText input) d ∧ d.rest = [] :=
  h.denotes_of_size (fun limit => (h.not_tooLarge hsize limit).1) fun limit => (h.not_tooLarge hsize limit).2

end Spells

/-! ## Rows of sets -/

/-- The characters of the text belong to the sets, one to one. -/
def Fits (sets : List CharSet) (text : List Char) : Prop :=
  List.Forall₂ (fun s a => s.contains a = true) sets text

variable {s : CharSet} {sets : List CharSet}

theorem fits_nil : Fits [] text ↔ text = [] := List.forall₂_nil_left_iff

theorem fits_cons : Fits (s :: sets) text ↔ ∃ a rest, s.contains a = true ∧ Fits sets rest ∧ text = a :: rest :=
  List.forall₂_cons_left_iff

theorem fits_singles (chars : List Char) :
    Fits (chars.map .single ++ sets) text ↔ ∃ rest, text = chars ++ rest ∧ Fits sets rest := by
  induction chars generalizing text with
  | nil => simp
  | cons c chars ih =>
    rw [List.map_cons, List.cons_append, fits_cons]
    constructor
    · rintro ⟨a, _, ha, hfits, rfl⟩
      rw [CharSet.contains_single, decide_eq_true_iff] at ha
      obtain ⟨rest, rfl, hrest⟩ := ih.1 hfits
      exact ⟨rest, by rw [ha, List.cons_append], hrest⟩
    · rintro ⟨rest, rfl, hrest⟩
      exact ⟨c, chars ++ rest, by simp [CharSet.contains_single], ih.2 ⟨rest, rfl, hrest⟩, rfl⟩

theorem fits_replicate (n : Nat) :
    Fits (List.replicate n s) text ↔ text.length = n ∧ ∀ a ∈ text, s.contains a = true := by
  induction n generalizing text with
  | zero => simp +contextual [fits_nil, List.length_eq_zero_iff]
  | succ n ih =>
    rw [List.replicate_succ, fits_cons]
    constructor
    · rintro ⟨a, rest, ha, hfits, rfl⟩
      obtain ⟨hlength, hrest⟩ := ih.1 hfits
      exact ⟨congrArg Nat.succ hlength, List.forall_mem_cons.2 ⟨ha, hrest⟩⟩
    · rintro ⟨hlength, hall⟩
      obtain ⟨a, rest, rfl⟩ := List.exists_cons_of_length_eq_add_one hlength
      obtain ⟨ha, hrest⟩ := List.forall_mem_cons.1 hall
      exact ⟨a, rest, ha, ih.2 ⟨Nat.succ.inj hlength, hrest⟩, rfl⟩

theorem inTurn_chars (sets : List CharSet) (c : Cursor) :
    (∃ d, Expr.InTurn (sets.map .chars) c d ∧ d.rest = []) ↔ Fits sets c.rest := by
  induction sets generalizing c with
  | nil => simp [Expr.InTurn, fits_nil]
  | cons s sets ih =>
    simp only [List.map_cons, Expr.InTurn, Expr.Matches, fits_cons]
    constructor
    · rintro ⟨d, ⟨m, ⟨a, hnext, ha⟩, hm⟩, hend⟩
      obtain ⟨rest, hrest, rfl⟩ := Cursor.next?_eq_some.1 hnext
      exact ⟨a, rest, ha, (ih _).1 ⟨d, hm, hend⟩, hrest⟩
    · rintro ⟨a, rest, ha, hfits, hrest⟩
      obtain ⟨d, hm, hend⟩ := (ih ⟨some a, rest, c.offset + a.utf8Size⟩).2 hfits
      exact ⟨d, ⟨_, ⟨a, Cursor.next?_eq_some.2 ⟨rest, hrest, rfl⟩, ha⟩, hm⟩, hend⟩

theorem inTurn_anchored (sets : List CharSet) (text : List Char) :
    (∃ d, Expr.InTurn (.look .textStart :: (sets.map .chars ++ [.look .textEnd])) (.ofText text) d ∧
        d.rest = []) ↔ Fits sets text := by
  rw [← show (Cursor.ofText text).rest = text from rfl, ← inTurn_chars]
  simp only [Expr.InTurn, Expr.inTurn_append, Expr.Matches]
  constructor
  · rintro ⟨d, ⟨_, ⟨rfl, -⟩, m, hm, _, ⟨rfl, hend⟩, rfl⟩, -⟩
    exact ⟨_, hm, by simpa [Look.holds] using hend⟩
  · rintro ⟨d, hm, hend⟩
    exact ⟨d, ⟨_, ⟨rfl, rfl⟩, d, hm, d, ⟨rfl, by simp [Look.holds, hend]⟩, rfl⟩, hend⟩

/-- The sets are few and small enough for a pattern of them to compile. -/
structure Small (sets : List CharSet) : Prop where
  length : sets.length ≤ 1000
  stateSize_le : ∀ s ∈ sets, ∀ backwards, (Expr.chars s).stateSize backwards false ≤ 10000

theorem Small.sum_stateSize_le (h : Small sets) (backwards : Bool) :
    ((sets.map Expr.chars).map (Expr.stateSize backwards false)).sum ≤ 1000 * 10000 := by
  have hsum := List.sum_le_card_nsmul ((sets.map Expr.chars).map (Expr.stateSize backwards false)) 10000 (by
    intro n hn
    rw [List.map_map] at hn
    obtain ⟨s, hs, rfl⟩ := List.mem_map.1 hn
    exact h.stateSize_le s hs backwards)
  rw [List.length_map, List.length_map, smul_eq_mul] at hsum
  exact hsum.trans (Nat.mul_le_mul_right 10000 h.length)

/-- A row of sets matches the whole of the inputs that fit the sets. -/
theorem Spells.denotes_row (h : Spells text (sets.map .chars)) (hsmall : Small sets) :
    Denotes text (Fits sets) := by
  have hsize : ∀ backwards, ((sets.map Expr.chars).map (Expr.stateSize backwards false)).sum + 336 ≤ costLimit := by
    intro backwards
    have hsum := hsmall.sum_stateSize_le backwards
    unfold costLimit
    omega
  exact (h.denotes hsize).congr fun input => inTurn_chars sets (.ofText input)

theorem Spells.denotes_anchored (h : Spells text (sets.map .chars)) (hsmall : Small sets) :
    Denotes ('^' :: text ++ ['$']) (Fits sets) := by
  have hspells :
      Spells ('^' :: text ++ ['$']) (.look .textStart :: (sets.map .chars ++ [.look .textEnd])) :=
    (Spells.cons isOperand_lineStart.isItem h).append (.single isOperand_lineEnd.isItem)
  refine (hspells.denotes fun backwards => ?_).congr (inTurn_anchored sets)
  have hsum := hsmall.sum_stateSize_le backwards
  simp only [List.map_cons, List.map_append, List.sum_cons, List.sum_append, Expr.stateSize, List.map_nil,
    List.sum_nil, costLimit]
  omega

end TextPattern
