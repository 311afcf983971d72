import TextPattern.Proofs.Builtin
import TextPattern.Proofs.Cut
import TextPattern.Proofs.Merge

/-!
# Hits on their own

A hit is found in an input and may be asked for again on its own.

* `Pattern.exists_part_of_mem` : a hit is a part of the input that the expression of its pattern matches there;
* `Pattern.passes check text` : a pattern of the text can be asked both, and its expression passes a check;
* `Expr.isBounded s` : a word boundary with an expression behind it that starts with a character of the set;
* `Catalog.passes_builtin` : all built-in expressions stand alone but that of web addresses, which is bounded;
* `Catalog.builtin_hits_whole` : each hit of the built-in catalog matches the whole of its pattern, but for those
  web addresses that begin with a hyphen.

A web address may begin with a hyphen, and a word boundary stands before one only behind a word character. So
such a hit has a character before it that is cut off with the rest of the input.
-/

namespace TextPattern

/-! ## Hits -/

namespace Pattern

variable {pattern input hit : String} {o : Options} {p : Pattern}

/-- A hit is a part of the input that the expression of its pattern matches there. -/
theorem exists_part_of_mem (hp : compile pattern o = .ok p) (h : hit ∈ p.fullMatches input) :
    ∃ pre post, input.toList = pre ++ hit.toList ++ post ∧ OnPart p.expr.Matches pre hit.toList post := by
  obtain ⟨e, -, rfl⟩ := compile_eq_ok.1 hp
  rw [fullMatches_eq, List.mem_map] at h
  obtain ⟨occ, hocc, rfl⟩ := h
  obtain ⟨pre, mid, post, htext, -, hhead, hmatches⟩ := Expr.matches_of_mem_occurrences hocc
  have hmid : occ.text? = some mid := by
    rw [Occurrence.text?, hhead]
    rfl
  rw [hmid, Option.getD_some, String.toList_ofList]
  exact ⟨pre, post, htext, hmatches⟩

/-- The text compiles, by itself and between the ends of the text, and its expression passes a check. -/
def passes (check : Expr → Bool) (text : List Char) : Bool :=
  match Options.none.compile text with
  | .ok e => check e && (Options.none.compile (Options.none.wholeSource text)).isOk
  | .error _ => false

theorem passes_ofList {check : Expr → Bool} {text : List Char} (h : passes check text = true) :
    passes check (String.ofList text).toList = true := by
  rwa [String.toList_ofList]

/-- A pattern that passes a check compiles, and matches the whole of what its expression covers. -/
theorem exists_of_passes {check : Expr → Bool} (h : passes check pattern.toList = true) :
    ∃ p, compile pattern .none = .ok p ∧ check p.expr = true ∧
      ∀ input b, (p.expr.Covers input.toList ↔ b = true) →
        TextPattern.matchesWhole pattern .none input = .ok b := by
  unfold passes at h
  cases he : Options.none.compile pattern.toList with
  | error cause =>
    rw [he] at h
    cases h
  | ok e =>
    rw [he] at h
    obtain ⟨hcheck, hwhole⟩ := Bool.and_eq_true_iff.1 h
    have hp : compile pattern .none = .ok ⟨pattern, .none, e, e.program⟩ := compile_eq_ok.2 ⟨e, he, rfl⟩
    refine ⟨_, hp, hcheck, fun input b hiff => ?_⟩
    cases hw : Options.none.compile (Options.none.wholeSource pattern.toList) with
    | error cause =>
      rw [hw] at hwhole
      cases hwhole
    | ok w =>
      have hsource := hw
      rw [Options.wholeSource_of_not_comments rfl] at hsource
      obtain rfl := eq_whole_of_compileText he hsource
      have hb : e.whole.program.occursIn input.toList = b := by
        rw [Bool.eq_iff_iff, Expr.occursIn_whole]
        exact hiff
      rw [TextPattern.matchesWhole, validateAndCompile_none hp, Syntax.ok_bind]
      exact matchesWhole_eq_ok.2 ⟨_, hw, hb.symm⟩

end Pattern

/-! ## Bounded expressions -/

namespace Expr

/-- A word boundary with an expression behind it that stands alone and starts with a character of the set. -/
def isBounded (s : CharSet) : Expr → Bool
  | cat (look (.wordBoundary true)) e => e.standsAlone && e.firstIn s false
  | _ => false

/-- What a bounded expression matches in a text it matches on its own iff it starts with a word character. It
does start with a character of the set. -/
theorem covers_of_isBounded {e : Expr} {s : CharSet} {pre mid post : List Char} (h : e.isBounded s = true)
    (hm : OnPart e.Matches pre mid post) :
    (e.Covers mid ↔ HasFirst Unicode.wordChars mid) ∧ HasFirst s mid := by
  unfold isBounded at h
  split at h
  · next e =>
    obtain ⟨halone, hfirst⟩ := Bool.and_eq_true_iff.1 h
    refine ⟨covers_boundary_iff halone hm, ?_⟩
    obtain ⟨fst, snd, rfl, hlook, hsnd⟩ := onPart_cat.1 hm
    obtain ⟨rfl, -⟩ := onPart_look.1 hlook
    have hstart : HasFirst s (snd ++ []) := hasFirst_of_firstIn hfirst hsnd nofun
    rwa [List.append_nil] at hstart
  · cases h

end Expr

/-! ## The built-in catalog -/

namespace Catalog

/-- The characters that labels of host names are made of, and the underscore. -/
def hostChars : CharSet := Unicode.asciiWordChars.union (.single '-')

/-- The entry for web addresses. -/
def addressName : String := "domain_url"

theorem hasFirst_word_iff {text : List Char} (h : HasFirst hostChars text) :
    HasFirst Unicode.wordChars text ↔ text.head? ≠ some '-' := by
  have hhyphen : Unicode.wordChars.contains '-' = false := by decide +kernel
  cases text with
  | nil => cases h
  | cons a text =>
    have ha : (Unicode.asciiWordChars.contains a || (CharSet.single '-').contains a) = true :=
      (CharSet.mem_union _ _ a.toNat).symm.trans h
    rw [CharSet.contains_single, Bool.or_eq_true, decide_eq_true_iff] at ha
    rw [hasFirst_cons, List.head?_cons, Ne, Option.some.injEq]
    by_cases heq : a = '-'
    · subst heq
      rw [hhyphen]
      exact iff_of_false Bool.false_ne_true (fun hne => hne rfl)
    · exact iff_of_true (CharSet.contains_of_within within_wordChars (ha.resolve_right heq)) heq

/-- What holds of the expression of an entry: it is bounded for web addresses, and stands alone for all else. -/
def entryCheck (name : String) : Expr → Bool :=
  if name = addressName then Expr.isBounded hostChars else Expr.standsAlone

/-- All built-in expressions stand alone but that of web addresses, which is bounded. -/
theorem passes_builtin : ∀ e ∈ builtin.entries, Pattern.passes (entryCheck e.1) e.2.toList = true := by
  have hentries : ∀ e ∈ builtinEntries, Pattern.passes (entryCheck e.1) e.2.toList = true := by
    unfold builtinEntries entryCheck addressName
    simp only [List.forall_mem_cons, List.not_mem_nil, false_implies, implies_true, and_true, String.reduceEq,
      if_true, if_false]
    and_intros
    -- The kernel is given the characters of each text, which saves it reading them from their bytes.
    all_goals exact Pattern.passes_ofList (by decide +kernel)
  exact fun e he => hentries e (mem_of_mem_builtin he)

theorem isValid_builtin : ∀ e ∈ builtin.active, isValid e.2 = true := by
  intro e he
  obtain ⟨p, hp, -⟩ := Pattern.exists_of_passes (passes_builtin e (List.mem_of_mem_filter he))
  rw [isValid, hp]
  rfl

theorem covers_hit_iff {name pattern input hit : String} {p : Pattern}
    (hcheck : entryCheck name p.expr = true)
    (hp : Pattern.compile pattern .none = .ok p) (hhit : hit ∈ p.fullMatches input) :
    p.expr.Covers hit.toList ↔ (!(name == addressName && hit.toList.head? == some '-')) = true := by
  obtain ⟨pre, post, -, hpart⟩ := Pattern.exists_part_of_mem hp hhit
  unfold entryCheck at hcheck
  split at hcheck
  · next hname =>
    obtain ⟨hiff, hfirst⟩ := Expr.covers_of_isBounded hcheck hpart
    rw [hiff, hasFirst_word_iff hfirst]
    simp [hname]
  · next hname =>
    refine iff_of_true (Expr.covers_of_standsAlone hcheck hpart) ?_
    simp [hname]

/-- What a sweep has under a name are the texts that the pattern of that entry finds. -/
theorem exists_entry_of_get? {c : Catalog} {d : Disclosure} {input : String} {found : Findings}
    (h : (c.sweep d input).value = .ok found) {name : String} {texts : List String}
    (hname : found.get? name = some texts) : ∃ pattern p, c.get? name = some pattern ∧
      Pattern.compile pattern .none = .ok p ∧ texts = p.fullMatches input := by
  rw [get?_of_sweep h, Option.bind_eq_some_iff] at hname
  obtain ⟨pattern, hpattern, hfinding⟩ := hname
  unfold finding at hfinding
  split at hfinding
  · cases hfinding
  · cases hp : Pattern.compile pattern .none with
    | error cause =>
      rw [search, hp] at hfinding
      cases hfinding
    | ok p =>
      rw [search_eq_ok hp] at hfinding
      split at hfinding
      · exact ⟨pattern, p, hpattern, hp, (Option.some.inj hfinding).symm⟩
      · cases hfinding

/-- Where all expressions of a catalog stand alone but that of web addresses, which is bounded, a hit matches the
whole of its pattern unless it is a web address that begins with a hyphen. -/
theorem hits_whole {c : Catalog} (hpasses : ∀ e ∈ c.entries, Pattern.passes (entryCheck e.1) e.2.toList = true)
    {d : Disclosure} {input : String} {found : Findings} (hfound : (c.sweep d input).value = .ok found)
    {name : String} {texts : List String} (hname : found.get? name = some texts) :
    ∃ pattern, c.get? name = some pattern ∧ ∀ hit ∈ texts, matchesWhole pattern .none hit =
      .ok (!(name == addressName && hit.toList.head? == some '-')) := by
  obtain ⟨pattern, p, hpattern, hp, rfl⟩ := exists_entry_of_get? hfound hname
  refine ⟨pattern, hpattern, fun hit hhit => ?_⟩
  obtain ⟨q, hq, hcheck, hwhole⟩ := Pattern.exists_of_passes
    (hpasses (name, pattern) (NameMap.get?_eq_some.1 hpattern))
  obtain rfl := Except.ok.inj (hq.symm.trans hp)
  exact hwhole hit _ (covers_hit_iff hcheck hp hhit)

/-- A sweep with the built-in catalog succeeds for every input. Each of its hits matches the whole of the pattern
that it stands under, but for web addresses that begin with a hyphen, which do not. -/
theorem builtin_hits_whole (d : Disclosure) (input : String) :
    ∃ found, (loadBuiltin.value.sweep d input).value = .ok found ∧
      ∀ name texts, found.get? name = some texts → ∃ pattern, loadBuiltin.value.get? name = some pattern ∧
        ∀ hit ∈ texts, matchesWhole pattern .none hit =
          .ok (!(name == addressName && hit.toList.head? == some '-')) := by
  rw [value_loadBuiltin]
  obtain ⟨found, hfound⟩ := (exists_sweep_iff builtin d input).2 isValid_builtin
  exact ⟨found, hfound, fun name texts hname => hits_whole passes_builtin hfound hname⟩

/-- An address with a hyphen before it and one without. -/
theorem builtin_hits_whole_hyphen : ∃ found pattern,
    (loadBuiltin.value.sweep .full "_-foo.com a.bc").value = .ok found ∧
      found.get? "domain_url" = some ["-foo.com", "a.bc"] ∧
      loadBuiltin.value.get? "domain_url" = some pattern ∧
      matchesWhole pattern .none "-foo.com" = .ok false ∧ matchesWhole pattern .none "a.bc" = .ok true := by
  obtain ⟨found, hfound, hall⟩ := builtin_hits_whole .full "_-foo.com a.bc"
  rw [value_loadBuiltin] at hfound hall ⊢
  have hhits : found.get? "domain_url" = some ["-foo.com", "a.bc"] := by
    rw [get?_of_sweep hfound, builtin_eq]
    decide +kernel
  obtain ⟨pattern, hpattern, hwhole⟩ := hall "domain_url" _ hhits
  have hhyphen := hwhole "-foo.com" (by decide)
  have hletter := hwhole "a.bc" (by decide)
  exact ⟨found, pattern, hfound, hhits, hpattern, hhyphen, hletter⟩

/-- A hit that does not match the whole of its pattern: the boundary before it is that behind the underscore. -/
theorem builtin_hit_not_whole : ∃ found pattern,
    (loadBuiltin.value.sweep .full "_-foo.com").value = .ok found ∧
      found.get? "domain_url" = some ["-foo.com"] ∧ loadBuiltin.value.get? "domain_url" = some pattern ∧
      matchesWhole pattern .none "-foo.com" ≠ .ok true := by
  rw [value_loadBuiltin]
  obtain ⟨found, hfound⟩ := (exists_sweep_iff builtin .full "_-foo.com").2 isValid_builtin
  have hhits : found.get? "domain_url" = some ["-foo.com"] := by
    rw [get?_of_sweep hfound, builtin_eq]
    decide +kernel
  have hnot : (builtin.get? "domain_url").any fun pattern =>
      (matchesWhole pattern .none "-foo.com").toOption == some false := by
    rw [builtin_eq]
    decide +kernel
  rw [Option.any_eq_true] at hnot
  obtain ⟨pattern, hpattern, hfalse⟩ := hnot
  refine ⟨found, pattern, hfound, hhits, hpattern, fun htrue => ?_⟩
  rw [htrue] at hfalse
  cases hfalse

end Catalog

end TextPattern
