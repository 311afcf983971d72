import TextPattern.Proofs.Setting
import TextPattern.Proofs.Whole

/-!
# Options as flags of a pattern

* `Machine.Longer.exists_finish` : machines that differ in places only end in trees that differ in places only;
* `Options.flagGroup` : the flags that say in a pattern what the options say outside of it;
* `Options.exists_read_flagGroup` : behind them the machine goes on as under the options, with a setting in front;
* `Options.compile_flagGroup` : the texts compile to the same expression, within the limit of nesting;
* `Pattern.compile_behind_flags` : a pattern under options and the pattern behind the flags answer alike.
-/

namespace TextPattern

open Syntax

/-! ## Machines that differ in places -/

namespace Syntax

variable {m m' : Machine} {fuel : Nat} {tree : Tree} {text : List Char} {extended : Bool}

theorem Machine.Longer.exists_finish (h : m.Longer [] [] m') (htree : m.read fuel >>= finish = .ok tree) :
    ∃ tree', m'.read fuel >>= finish = .ok tree' ∧ tree'.erase = tree.erase := by
  obtain ⟨last, hread, hfinish⟩ := bind_eq_ok.1 htree
  obtain ⟨hgroups, rfl⟩ := finish_eq_ok.1 hfinish
  obtain ⟨last', hlast, k, hk, hgo⟩ := h.read (List.forall_mem_nil _) hread
  have hend : last'.reader.skipBlanks.rest = [] :=
    List.suffix_nil.1 (hlast.reader.skipBlanks_suffix (Machine.skipBlanks_of_read hread))
  have hgroups' : last'.groups = [] := by
    have herase := hlast.groups
    rw [hgroups] at herase
    exact List.map_eq_nil_iff.1 herase
  obtain ⟨j, rfl⟩ := Nat.exists_eq_add_of_lt hk
  have hread' : m'.read (k + j + 1) = .ok last' := (hgo (j + 1)).trans (read_end hend j)
  have hfinish' := finish_eq_ok.2 ⟨hgroups', rfl⟩
  exact ⟨_, bind_eq_ok.2 ⟨last', hread', hfinish'⟩, (Level.erase_toTree hlast.level _ _).symm⟩

theorem Machine.Longer.symm (h : m.Longer [] [] m') : m'.Longer [] [] m := by
  obtain ⟨⟨hrest, hextended, hcaptures, hnames⟩, hlevel, hgroups⟩ := h
  rw [List.append_nil] at hrest
  refine ⟨⟨?_, hextended.symm, hcaptures.symm, hnames.symm⟩, hlevel.symm, ?_⟩
  · rw [List.append_nil, hrest]
  · rw [List.map_nil, List.append_nil] at hgroups ⊢
    exact hgroups.symm

theorem parse_eq_ok_iff : parse text extended = .ok tree ↔
    readItems text extended >>= Machine.finish = .ok tree ∧ tree.depth ≤ nestLimit := by
  rw [parse_eq_ok, bind_eq_ok, ← exists_and_right]
  simp only [and_assoc]

end Syntax

/-! ## Flags -/

namespace Options

variable {o : Options} {text : List Char} {e : Expr}

/-- The letters of the options that are set. -/
def flagLetters (o : Options) : List Char :=
  (if o.ignoreCase then ['i'] else []) ++ (if o.comments then ['x'] else []) ++
    (if o.multiLine then ['m'] else []) ++ if o.dotAll then ['s'] else []

/-- The flags that say in a pattern what the options say outside of it. -/
def flagGroup (o : Options) : List Char :=
  if o.flagLetters = [] then [] else "(?".toList ++ o.flagLetters ++ [')']

theorem flagGroup_eq_nil (hliteral : o.literal = false) : o.flagGroup = [] ↔ o = none := by
  obtain ⟨ignoreCase, comments, multiLine, literal, dotAll⟩ := o
  obtain rfl : literal = false := hliteral
  cases ignoreCase <;> cases comments <;> cases multiLine <;> cases dotAll <;> decide

example : flagGroup { ignoreCase := true, dotAll := true } = "(?is)".toList := by decide

/-- The machine reads the flags of options as a setting, which makes the flags of a pattern those of the options. -/
theorem exists_step_flagGroup (hliteral : o.literal = false) (hne : o ≠ none) (text : List Char) :
    ∃ (r : Reader) (span : Span) (items : List FlagItem),
      (Machine.ofText (o.flagGroup ++ text) false).step '(' =
        .ok ⟨r, (Level.openAt .first).push (.flags span items), []⟩ ∧
      Reader.Longer [] (.ofText text o.comments) r ∧ none.modes.set items = o.modes := by
  obtain ⟨ignoreCase, comments, multiLine, literal, dotAll⟩ := o
  obtain rfl : literal = false := hliteral
  -- Each of the fifteen groups is closed before the text, so reading it computes.
  cases ignoreCase <;> cases comments <;> cases multiLine <;> cases dotAll <;>
    first
    | exact absurd rfl hne
    | exact ⟨_, _, _, rfl, ⟨(List.append_nil text).symm, rfl, rfl, rfl⟩, rfl⟩

/-- Behind the flags of options the machine goes on as it does under the options, with a setting in front. -/
theorem exists_read_flagGroup (hliteral : o.literal = false) (hne : o ≠ none) (text : List Char) :
    ∃ (m m' : Machine) (span : Span) (items : List FlagItem),
      (Machine.ofText text o.comments).Led (.flags span items) m ∧ m.Longer [] [] m' ∧
      readItems (o.flagGroup ++ text) false = m'.read (text.length + 1) ∧ none.modes.set items = o.modes := by
  obtain ⟨r, span, items, hstep, hlonger, hmodes⟩ := exists_step_flagGroup hliteral hne text
  let level := (Level.openAt .first).push (.flags span items)
  refine ⟨⟨.ofText text o.comments, level, []⟩, ⟨r, level, []⟩, span, items, ?_, ⟨hlonger, rfl, rfl⟩, ?_, hmodes⟩
  · exact .outermost (.first rfl (List.forall_mem_nil _))
  · obtain ⟨k, hk⟩ : ∃ k, o.flagGroup = '(' :: k := by
      have hletters : o.flagLetters ≠ [] := fun h => hne ((flagGroup_eq_nil hliteral).1 (if_pos h))
      exact ⟨_, if_neg hletters⟩
    have hrest : (Machine.ofText (o.flagGroup ++ text) false).reader.rest = '(' :: (k ++ text) := by
      rw [hk]
      rfl
    have hlength : (o.flagGroup ++ text).length = text.length + 1 + k.length := by
      rw [hk, List.cons_append, List.length_cons, List.length_append]
      omega
    have hleft : r.rest.length < text.length + 1 := by
      rw [hlonger.rest, List.append_nil]
      exact Nat.lt_succ_self _
    -- The rounds that the flags had are left over.
    rw [readItems, Machine.read_solid hrest (by decide) (by decide), hstep, ok_bind, hlength]
    exact Machine.read_of_length_lt hleft _

theorem exists_tree_flagGroup (hliteral : o.literal = false) (hne : o ≠ none) (text : List Char) :
    ∃ items, none.modes.set items = o.modes ∧
      (∀ tree, readItems text o.comments >>= Machine.finish = .ok tree →
        ∃ tree', readItems (o.flagGroup ++ text) false >>= Machine.finish = .ok tree' ∧ tree.Behind items tree') ∧
      ∀ tree', readItems (o.flagGroup ++ text) false >>= Machine.finish = .ok tree' →
        ∃ tree, readItems text o.comments >>= Machine.finish = .ok tree ∧ tree.Behind items tree' := by
  obtain ⟨m, m', span, items, hled, hlonger, hread, hmodes⟩ := exists_read_flagGroup hliteral hne text
  have halike : Alike (Tree.Behind items) (readItems text o.comments >>= Machine.finish)
      (m.read (text.length + 1) >>= Machine.finish) :=
    (hled.read rfl _).bind fun _ _ hlast => hlast.finish
  rw [hread]
  refine ⟨items, hmodes, fun tree htree => ?_, fun tree' htree' => ?_⟩
  · obtain ⟨led, hled, hbehind⟩ := halike.exists_right htree
    obtain ⟨tree', htree', herase⟩ := hlonger.exists_finish hled
    exact ⟨tree', htree', hbehind.of_erase herase⟩
  · obtain ⟨led, hled, herase⟩ := hlonger.symm.exists_finish htree'
    obtain ⟨tree, htree, hbehind⟩ := halike.exists_left hled
    exact ⟨tree, htree, hbehind.of_erase herase.symm⟩

/-- Behind the flags of options a text compiles to the expression that it compiles to under the options, if it
nests within the limit there. -/
theorem compile_flagGroup (hliteral : o.literal = false) (hne : o ≠ none) :
    none.compile (o.flagGroup ++ text) = .ok e ↔
      o.compile text = .ok e ∧ ∀ tree, parse text o.comments = .ok tree → tree.depthBehind ≤ nestLimit := by
  have hcomments : o.active.comments = o.comments := by
    rw [active, hliteral, if_neg Bool.false_ne_true]
  obtain ⟨items, hmodes, hthere, hback⟩ := exists_tree_flagGroup hliteral hne text
  rw [Options.compile, Options.compile, hcomments, compileText_eq_ok, compileText_eq_ok, ← hmodes]
  constructor
  · rintro ⟨tree', n, hparse', he', hcost⟩
    obtain ⟨htree', hlimit⟩ := parse_eq_ok_iff.1 hparse'
    obtain ⟨tree, htree, hbehind⟩ := hback tree' htree'
    rw [hbehind.depth] at hlimit
    have hparse : parse text o.comments = .ok tree :=
      parse_eq_ok_iff.2 ⟨htree, tree.depthBehind_bounds.1.trans hlimit⟩
    refine ⟨⟨tree, n, hparse, hbehind.toExpr.1 he', hcost⟩, fun t ht => ?_⟩
    obtain rfl := Except.ok.inj (hparse.symm.trans ht)
    exact hlimit
  · rintro ⟨⟨tree, n, hparse, he, hcost⟩, hlimit⟩
    obtain ⟨tree', htree', hbehind⟩ := hthere tree (parse_eq_ok_iff.1 hparse).1
    have hlimit' : tree'.depth ≤ nestLimit := hbehind.depth.trans_le (hlimit tree hparse)
    exact ⟨tree', n, parse_eq_ok_iff.2 ⟨htree', hlimit'⟩, hbehind.toExpr.2 he, hcost⟩

/-- The pattern nests as deep as a pattern may, and behind the flags of the options deeper. -/
def overnests (o : Options) (source : String) : Prop :=
  o ≠ none ∧ ∃ tree, parse source.toList o.comments = .ok tree ∧ tree.depth = nestLimit ∧
    tree.depthBehind = nestLimit + 1

theorem not_overnests_iff (hne : o ≠ none) {source : String} : ¬ o.overnests source ↔
    ∀ tree, parse source.toList o.comments = .ok tree → tree.depthBehind ≤ nestLimit := by
  constructor
  · intro h tree hparse
    obtain ⟨-, hdepth⟩ := parse_eq_ok_iff.1 hparse
    have hbound := tree.depthBehind_bounds.2
    by_contra hover
    exact h ⟨hne, tree, hparse, by omega, by omega⟩
  · rintro h ⟨-, tree, hparse, -, hover⟩
    have hlimit := h tree hparse
    omega

end Options

/-! ## Patterns -/

namespace Pattern

theorem exists_compile_iff {o : Options} {source : String} {e : Expr} :
    (∃ p, compile source o = .ok p ∧ p.expr = e) ↔ o.compile (o.effectiveSource source.toList) = .ok e := by
  constructor
  · rintro ⟨p, hp, rfl⟩
    obtain ⟨f, hf, rfl⟩ := compile_eq_ok.1 hp
    exact hf
  · intro h
    exact ⟨_, compile_eq_ok.2 ⟨e, h, rfl⟩, rfl⟩

/-- Behind the flags of the options a pattern compiles to the expression that it compiles to under the options. -/
theorem exists_compile_flagGroup {o : Options} (hliteral : o.literal = false) (source : String) (e : Expr) :
    (∃ q, compile (String.ofList o.flagGroup ++ source) .none = .ok q ∧ q.expr = e) ↔
      (∃ p, compile source o = .ok p ∧ p.expr = e) ∧ ¬ o.overnests source := by
  have hsource : o.effectiveSource source.toList = source.toList := by
    rw [Options.effectiveSource, hliteral, if_neg Bool.false_ne_true]
  have hflags : Options.none.effectiveSource (String.ofList o.flagGroup ++ source).toList =
      o.flagGroup ++ source.toList := by
    rw [String.toList_append, String.toList_ofList]
    rfl
  rw [exists_compile_iff, exists_compile_iff, hsource, hflags]
  by_cases hne : o = .none
  · -- No option, no group: the two sources are the same.
    have hgroup : o.flagGroup = [] := (Options.flagGroup_eq_nil hliteral).2 hne
    have hover : ¬ o.overnests source := fun h => h.1 hne
    rw [and_iff_left hover, hgroup, List.nil_append, hne]
  · rw [Options.not_overnests_iff hne, Options.compile_flagGroup hliteral hne]

/-- A pattern under options and the pattern behind the flags of the options compile alike, unless the flags make it
nest too deep, and they answer alike. -/
theorem compile_behind_flags (o : Options) (source : String) (hliteral : o.literal = false) :
    ((∃ q, compile (String.ofList o.flagGroup ++ source) .none = .ok q) ↔
        (∃ p, compile source o = .ok p) ∧ ¬ o.overnests source) ∧
      ∀ p q, compile source o = .ok p → compile (String.ofList o.flagGroup ++ source) .none = .ok q →
        q.slotCount = p.slotCount ∧ ∀ input, q.occursIn input = p.occursIn input ∧
          q.occurrences input = p.occurrences input ∧ q.fullMatches input = p.fullMatches input := by
  have hiff := exists_compile_flagGroup hliteral source
  refine ⟨⟨?_, ?_⟩, fun p q hp hq => ?_⟩
  · rintro ⟨q, hq⟩
    obtain ⟨⟨p, hp, -⟩, hover⟩ := (hiff q.expr).1 ⟨q, hq, rfl⟩
    exact ⟨⟨p, hp⟩, hover⟩
  · rintro ⟨⟨p, hp⟩, hover⟩
    obtain ⟨q, hq, -⟩ := (hiff p.expr).2 ⟨⟨p, hp, rfl⟩, hover⟩
    exact ⟨q, hq⟩
  · obtain ⟨⟨p', hp', hexpr⟩, -⟩ := (hiff q.expr).1 ⟨q, hq, rfl⟩
    obtain rfl := Except.ok.inj (hp.symm.trans hp')
    have hprogram : q.program = p.program := by
      obtain ⟨e, -, rfl⟩ := compile_eq_ok.1 hp
      obtain ⟨f, -, rfl⟩ := compile_eq_ok.1 hq
      obtain rfl : e = f := hexpr
      rfl
    refine ⟨congrArg Program.slots hprogram, fun input => ⟨?_, ?_, ?_⟩⟩
    · rw [occursIn, occursIn, hprogram]
    · rw [occurrences, occurrences, hprogram]
    · rw [fullMatches, fullMatches, hprogram]

theorem compile_behind_flags_dotAll : ∃ p q, compile "a.(b)" { dotAll := true } = .ok p ∧
    compile (String.ofList "(?s)".toList ++ "a.(b)") .none = .ok q ∧ q.slotCount = p.slotCount ∧
    ∀ input, q.occurrences input = p.occurrences input := by
  have hp : (compile "a.(b)" { dotAll := true }).toOption.isSome = true := by decide +kernel
  have hq : (compile (String.ofList "(?s)".toList ++ "a.(b)") .none).toOption.isSome = true := by decide +kernel
  obtain ⟨p, hp⟩ := Option.isSome_iff_exists.1 hp
  obtain ⟨q, hq⟩ := Option.isSome_iff_exists.1 hq
  rw [toOption_eq_some] at hp hq
  obtain ⟨hslots, hanswers⟩ := (compile_behind_flags { dotAll := true } "a.(b)" rfl).2 p q hp hq
  exact ⟨p, q, hp, hq, hslots, fun input => (hanswers input).2.1⟩

def deepest : List Char := List.replicate nestLimit '(' ++ 'a' :: List.replicate nestLimit ')'

/-- The flags in front are one item more than the nesting leaves room for. -/
theorem flagGroup_deepest : (∃ p, compile (String.ofList deepest) { ignoreCase := true } = .ok p) ∧
    ¬ ∃ q, compile (String.ofList (Options.flagGroup { ignoreCase := true }) ++ String.ofList deepest) .none =
      .ok q := by
  have hthere : (Options.compile { ignoreCase := true } deepest).toOption.isSome = true := by decide +kernel
  have hbehind : (Options.none.compile (Options.flagGroup { ignoreCase := true } ++ deepest)).toOption = none := by
    decide +kernel
  obtain ⟨e, he⟩ := Option.isSome_iff_exists.1 hthere
  refine ⟨⟨_, compile_eq_ok.2 ⟨e, ?_, rfl⟩⟩, ?_⟩
  · rw [String.toList_ofList]
    exact toOption_eq_some.1 he
  · rintro ⟨q, hq⟩
    obtain ⟨f, hf, -⟩ := compile_eq_ok.1 hq
    rw [String.toList_append, String.toList_ofList, String.toList_ofList] at hf
    have hsome : (Options.none.compile (Options.flagGroup { ignoreCase := true } ++ deepest)).toOption = some f :=
      toOption_eq_some.2 hf
    rw [hbehind] at hsome
    cases hsome

end Pattern

end TextPattern
