import TextPattern.Proofs.Erasure
import TextPattern.Proofs.Longer.Reader
import TextPattern.Syntax.Group

/-!
# Escapes and groups in a longer text

* `SameItem z x y` : two items are alike up to places, and so are the readers behind them;
* `readEscape_agrees` : an escape sequence is read alike in a longer text;
* `readGroupStart_agrees` : so is the opening of a group.
-/

namespace TextPattern.Syntax

open Reader (Longer)

def SameItem (z : List Char) (x y : Tree × Reader) : Prop :=
  x.1.erase = y.1.erase ∧ x.2.Longer z y.2

variable {z : List Char} {r r' : Reader}

/-! ## Hexadecimal sequences -/

theorem readHexDigits_agrees (n : Nat) (h : r.Longer z r')
    (digits : List Char) :
    Agrees (fun x y => x.1 = y.1 ∧ x.2.Longer z y.2) (readHexDigits n r digits)
      (readHexDigits n r' digits) := by
  induction n generalizing r r' digits with
  | zero => exact .ok ⟨rfl, h⟩
  | succ n ih =>
    unfold readHexDigits
    cases hr : r.rest with
    | nil => exact agrees_fail
    | cons c cs =>
      have hne : r.rest ≠ [] := by simp [hr]
      rw [h.rest_of_cons hr]
      refine .ite Iff.rfl (fun _ => .ite Iff.rfl (fun _ => .ok ⟨rfl, h.bump hne⟩) fun hn => ?_)
        fun _ => agrees_fail
      by_cases hend : r.advance.rest = []
      · -- The text ends before the last digit.
        obtain ⟨k, rfl⟩ := Nat.exists_eq_succ_of_ne_zero hn
        rw [readHexDigits, hend]
        exact agrees_fail
      · exact ih (h.advance hend) _


theorem charOfCode?_agrees {kind : FaultKind} {span span' : Span} {n : Nat} {x y : Reader}
    {f g : Char → Tree} (hfg : ∀ c, (f c).erase = (g c).erase) (hxy : x.Longer z y) :
    Agrees (SameItem z)
      (match charOfCode? n with
        | none => fail kind span
        | some c => .ok (f c, x))
      (match charOfCode? n with
        | none => fail kind span'
        | some c => .ok (g c, y)) := by
  cases charOfCode? n with
  | none => exact agrees_fail
  | some c => exact .ok ⟨hfg c, hxy⟩

theorem readHexBraced_agrees (h : r.Longer z r') (start start' : Position) :
    Agrees (SameItem z) (readHexBraced start r) (readHexBraced start' r') := by
  unfold readHexBraced
  rcases hs : r.advance.takeWhile isHex with ⟨digits, s⟩
  dsimp only
  cases hrest : s.rest with
  | nil => exact agrees_fail
  | cons c cs =>
    have hne : s.rest ≠ [] := by simp [hrest]
    obtain ⟨s', hs', hlonger⟩ := h.advance_takeWhile hs hne
    rw [hs']
    dsimp only
    rw [hlonger.rest_of_cons hrest]
    exact .ite Iff.rfl (fun _ => agrees_fail) fun _ => .ite Iff.rfl (fun _ => agrees_fail) fun _ =>
      charOfCode?_agrees (fun _ => rfl) (hlonger.bump hne)

theorem readHexFixed_agrees (h : r.Longer z r') (start start' : Position) (letter : Option Char) :
    Agrees (SameItem z) (readHexFixed start letter r) (readHexFixed start' letter r') := by
  refine (readHexDigits_agrees _ h []).bind ?_
  rintro ⟨digits, s⟩ ⟨_, s'⟩ ⟨rfl, hlonger⟩
  exact charOfCode?_agrees (fun _ => rfl) hlonger

theorem readHex_agrees (h : r.Longer z r') (hr : r.rest ≠ []) (start start' : Position) :
    Agrees (SameItem z) (readHex start r) (readHex start' r') := by
  unfold readHex
  dsimp only
  cases hrest : r.advance.rest with
  | nil => exact agrees_fail
  | cons c cs =>
    have hnext := h.advance (by simp [hrest])
    have hhead : r'.rest.head? = r.rest.head? := by
      rw [h.rest, List.head?_append_of_ne_nil _ hr]
    rw [hnext.rest_of_cons hrest, hhead]
    exact .ite Iff.rfl (fun _ => readHexBraced_agrees hnext _ _) fun _ =>
      readHexFixed_agrees hnext _ _ _

/-! ## Escape sequences -/

theorem readProperty_agrees (h : r.Longer z r') (hr : r.rest ≠ []) (start start' : Position) :
    Agrees (SameItem z) (readProperty start r) (readProperty start' r') := by
  unfold readProperty
  dsimp only
  cases hrest : r.advance.rest with
  | nil => exact agrees_fail
  | cons c cs =>
    have hne : r.advance.rest ≠ [] := by simp [hrest]
    have hnext := h.advance hne
    have hhead : r'.rest.head? = r.rest.head? := by
      rw [h.rest, List.head?_append_of_ne_nil _ hr]
    rw [hnext.rest_of_cons hrest, hhead]
    refine .ite Iff.rfl (fun _ => ?_) fun _ => .ite Iff.rfl (fun _ => agrees_fail) fun _ =>
      .ok ⟨rfl, hnext.bump hne⟩
    rcases hs : r.advance.advance.takeWhile (· != '\x7d') with ⟨name, s⟩
    dsimp only
    by_cases hend : s.rest = []
    · rw [if_pos (by simp [hend])]
      exact agrees_fail
    · obtain ⟨s', hs', hlonger⟩ := hnext.advance_takeWhile hs hend
      rw [hs', if_neg (by simpa using hend), if_neg (by simpa using hlonger.rest_ne_nil hend)]
      exact .ok ⟨rfl, hlonger.bump hend⟩

theorem readSpecialBoundary_agrees (h : r.Longer z r') (hz : Closing z) (start start' : Position) :
    Agrees (fun x y => (x = none ∧ y = none) ∨
        ∃ kind s s', x = some (kind, s) ∧ y = some (kind, s') ∧ s.Longer z s')
      (readSpecialBoundary start r) (readSpecialBoundary start' r') := by
  unfold readSpecialBoundary
  dsimp only
  cases hrest : r.advance.rest with
  | nil => exact agrees_fail
  | cons c cs =>
    have hnext := h.advance (by simp [hrest])
    rw [hnext.rest_of_cons hrest]
    refine .ite Iff.rfl (fun _ => .ok (.inl ⟨rfl, rfl⟩)) fun _ => ?_
    rcases hs : r.advance.takeWhile (fun c => c.isAlpha || decide (c = '-')) with ⟨name, s⟩
    dsimp only
    by_cases hend : s.rest = []
    · rw [if_pos (by simp [hend])]
      exact agrees_fail
    · obtain ⟨s', hs', hlonger⟩ := hnext.takeWhile hs hend
      rw [hs']
      refine .ite ?_ (fun _ => agrees_fail) fun _ => ?_
      · simpa using not_congr (hlonger.head?_eq hz (by decide)).symm
      · cases specialBoundary? name with
        | none => exact agrees_fail
        | some kind => exact .ok (.inr ⟨kind, _, _, rfl, rfl, hlonger.bump hend⟩)

theorem EscapeLetter.erase_toTree (letter : EscapeLetter) (span span' : Span) :
    (letter.toTree span).erase = (letter.toTree span').erase := by
  cases letter <;> rfl

theorem readEscape_agrees (h : r.Longer z r') (hz : Closing z) (hr : r.rest ≠ []) :
    Agrees (SameItem z) (readEscape r) (readEscape r') := by
  unfold readEscape
  have hbump := h.bump hr
  dsimp only
  cases hrest : r.bump.rest with
  | nil => exact agrees_fail
  | cons c cs =>
    have hne : r.bump.rest ≠ [] := by simp [hrest]
    have hnext := hbump.bump hne
    rw [hbump.rest_of_cons hrest]
    refine .ite Iff.rfl (fun _ => agrees_fail) fun _ =>
      .ite Iff.rfl (fun _ => readHex_agrees hbump hne _ _) fun _ =>
      .ite Iff.rfl (fun _ => readProperty_agrees hbump hne _ _) fun _ =>
      .ite Iff.rfl (fun _ => .ok ⟨rfl, hnext⟩) fun _ => ?_
    cases escapeLetter? c with
    | none => exact agrees_fail
    | some letter =>
      dsimp only
      refine .ite (and_congr Iff.rfl (hnext.head?_eq hz (by decide)).symm) (fun _ => ?_) fun _ =>
        .ok ⟨letter.erase_toTree _ _, hnext⟩
      refine (readSpecialBoundary_agrees hnext hz _ _).bind ?_
      rintro _ _ (⟨rfl, rfl⟩ | ⟨kind, s, s', rfl, rfl, hlonger⟩)
      · exact .ok ⟨letter.erase_toTree _ _, hnext⟩
      · exact .ok ⟨rfl, hlonger⟩

/-! ## Openings of groups -/

def GroupStart.erase : GroupStart → GroupStart
  | setting _ items => setting .blank (items.map FlagItem.erase)
  | opened kind _ => opened kind.erase .first

def SameStart (z : List Char) (x y : GroupStart × Reader) : Prop :=
  x.1.erase = y.1.erase ∧ x.2.Longer z y.2

theorem find?_eq_none_of_map {α β : Type} {f : α → β} {l l' : List α} (h : l.map f = l'.map f)
    (q : β → Bool) : l.find? (fun a => q (f a)) = none ↔ l'.find? (fun a => q (f a)) = none := by
  have hmap : ∀ l : List α, l.find? (fun a => q (f a)) = none ↔ (l.map f).find? q = none := by
    intro l
    rw [List.find?_map, Option.map_eq_none_iff]
    rfl
  rw [hmap, hmap, h]

theorem map_flag_of_erase {items items' : List FlagItem}
    (h : items.map FlagItem.erase = items'.map FlagItem.erase) :
    items.map FlagItem.flag = items'.map FlagItem.flag := by
  have hflag : ∀ items : List FlagItem,
      items.map FlagItem.flag = (items.map FlagItem.erase).map FlagItem.flag := by
    intro items
    rw [List.map_map]
    rfl
  exact (hflag items).trans ((congrArg (List.map FlagItem.flag) h).trans (hflag items').symm)

theorem readFlags_agrees {cs : List Char} {p p' : Position} {sign sign' : Option Span}
    {items items' : List FlagItem} (hsign : sign = none → sign' = none)
    (hitems : items.map FlagItem.erase = items'.map FlagItem.erase) :
    Agrees (fun x y => x.1.map FlagItem.erase = y.1.map FlagItem.erase ∧ y.2.1 = x.2.1 ++ z ∧ x.2.1 ≠ [])
      (readFlags cs p sign items) (readFlags (cs ++ z) p' sign' items') := by
  induction cs generalizing p p' sign sign' items items' with
  | nil => exact agrees_fail
  | cons c cs ih =>
    simp only [List.cons_append, readFlags]
    have hflags := map_flag_of_erase hitems
    refine .ite Iff.rfl (fun _ => ?_) fun _ => .ite Iff.rfl (fun _ => ?_) fun _ => ?_
    · cases sign with
      | some s => exact agrees_fail
      | none =>
        rw [hsign rfl]
        exact .ok ⟨by simp [hitems], rfl, List.cons_ne_nil _ _⟩
    · cases hfind : items.find? fun i => i.flag.isNone with
      | some i => exact .error
      | none =>
        rw [(find?_eq_none_of_map hflags Option.isNone).1 hfind]
        exact ih nofun (by simp [hitems, FlagItem.erase])
    · cases flagOfLetter? c with
      | none => exact agrees_fail
      | some f =>
        dsimp only
        cases hfind : items.find? fun i => i.flag = some f with
        | some i => exact .error
        | none =>
          rw [(find?_eq_none_of_map hflags fun g => g = some f).1 hfind]
          exact ih (fun _ => rfl) (by simp [hitems, FlagItem.erase])

theorem readNameChars_agrees {cs : List Char} {p p' : Position} {name : List Char} :
    Agrees (fun x y => x.1 = y.1 ∧ y.2.1 = x.2.1 ++ z ∧ x.2.1 ≠ []) (readNameChars cs p name)
      (readNameChars (cs ++ z) p' name) := by
  induction cs generalizing p p' name with
  | nil => exact agrees_fail
  | cons c cs ih =>
    simp only [List.cons_append, readNameChars]
    exact .ite Iff.rfl (fun _ => .ok ⟨rfl, rfl, List.cons_ne_nil _ _⟩) fun _ =>
      .ite Iff.rfl (fun _ => ih) fun _ => agrees_fail

theorem readCaptureName_agrees (h : r.Longer z r') :
    Agrees (fun x y => x.1 = y.1 ∧ x.2.Longer z y.2) (readCaptureName r) (readCaptureName r') := by
  unfold readCaptureName
  rw [h.rest]
  refine readNameChars_agrees.bind ?_
  rintro ⟨name, rest, stop⟩ ⟨name', rest', stop'⟩ ⟨hname, hrest, hne⟩
  dsimp only at hname hrest hne ⊢
  subst hname hrest
  refine .ite Iff.rfl (fun _ => agrees_fail) fun _ => ?_
  cases hfind : r.names.find? fun n => n.1 = name with
  | some n => exact .error
  | none =>
    rw [(find?_eq_none_of_map h.names.symm fun n => n = name).1 hfind]
    refine .ok ⟨rfl, Longer.bump ⟨rfl, h.extended, h.captures, ?_⟩ hne⟩
    simp [h.names]

theorem readNamedGroup_agrees (h : r.Longer z r') :
    Agrees (SameStart z) (readNamedGroup r) (readNamedGroup r') := by
  have hnext : Longer z { r with captures := r.captures + 1 } { r' with captures := r'.captures + 1 } :=
    ⟨h.rest, h.extended, by rw [h.captures], h.names⟩
  refine (readCaptureName_agrees hnext).bind ?_
  rintro ⟨name, s⟩ ⟨_, s'⟩ ⟨rfl, hlonger⟩
  exact .ok ⟨by rw [h.captures]; rfl, hlonger⟩

theorem readFlagged_agrees (h : r.Longer z r') (start start' mark mark' : Position) :
    Agrees (SameStart z) (readFlagged start mark r) (readFlagged start' mark' r') := by
  unfold readFlagged
  by_cases hne : r.rest = []
  · simp only [hne, List.isEmpty_nil, if_true]
    exact agrees_fail
  · simp only [List.isEmpty_iff, hne, h.rest_ne_nil hne, if_false]
    rw [h.rest]
    refine (readFlags_agrees (fun _ => rfl) rfl).bind ?_
    rintro ⟨items, rest, pos⟩ ⟨items', rest', pos'⟩ ⟨hitems, hrest, hend⟩
    dsimp only at hitems hrest hend ⊢
    subst hrest
    have hbump : Longer z ({ r with rest, pos } : Reader).bump
        ({ r' with rest := rest ++ z, pos := pos' } : Reader).bump :=
      Longer.bump ⟨rfl, h.extended, h.captures, h.names⟩ hend
    have hempty : items = [] ↔ items' = [] := by
      have := congrArg List.length hitems
      simp only [List.length_map] at this
      rw [← List.length_eq_zero_iff, this, List.length_eq_zero_iff]
    refine .ite (by rw [List.head?_append_of_ne_nil _ hend]) (fun _ => ?_) fun _ => ?_
    · exact .ite hempty (fun _ => agrees_fail) fun _ => .ok ⟨by simp [GroupStart.erase, hitems], hbump⟩
    · exact .ok ⟨by simp [GroupStart.erase, GroupKind.erase, hitems], hbump⟩

/-- The opening of a group is read alike in a longer text. -/
theorem readGroupStart_agrees (h : r.Longer z r') (hz : Closing z) (hr : r.rest ≠ []) :
    Agrees (SameStart z) (readGroupStart r) (readGroupStart r') := by
  have hbump := h.bump hr
  have hcapture : Agrees (SameStart z)
      (.ok (.opened (.capture (r.advance.captures + 1)) r.advance.pos,
        { r.bump with captures := r.advance.captures + 1 }) : Except Fault _)
      (.ok (.opened (.capture (r'.advance.captures + 1)) r'.advance.pos,
        { r'.bump with captures := r'.advance.captures + 1 })) := by
    have hcaptures : r'.advance.captures = r.advance.captures := by
      simpa [Reader.advance] using hbump.captures
    rw [hcaptures]
    exact .ok ⟨rfl, hbump.rest, hbump.extended, rfl, hbump.names⟩
  have hpast : ∀ sign ∈ [['?', '='], ['?', '!'], ['?', '<', '='], ['?', '<', '!'], ['?', 'P', '<'],
      ['?', '<'], ['?']], Option.Rel (Longer z) (r.advance.past? sign) (r'.advance.past? sign) := by
    intro sign hsign
    have hinner : sign ≠ [] ∧ Apart sign := by
      revert sign
      decide
    exact h.advance_past? hz hr hinner.2 hinner.1
  unfold readGroupStart
  dsimp only
  rcases Reader.exists_of_rel <| Reader.rel_or (hpast ['?', '='] (by simp)) <|
      Reader.rel_or (hpast ['?', '!'] (by simp)) <|
      Reader.rel_or (hpast ['?', '<', '='] (by simp)) (hpast ['?', '<', '!'] (by simp))
    with ⟨hs, hs'⟩ | ⟨s, s', hs, -, -⟩
  · rw [hs, hs']
    rcases Reader.exists_of_rel <| Reader.rel_or (hpast ['?', 'P', '<'] (by simp))
      (hpast ['?', '<'] (by simp)) with ⟨hs, hs'⟩ | ⟨s, s', hs, hs', hnamed⟩
    · rw [hs, hs']
      rcases Reader.exists_of_rel (hpast ['?'] (by simp)) with ⟨hs, hs'⟩ | ⟨s, s', hs, hs', hflagged⟩
      · rw [hs, hs']
        exact hcapture
      · rw [hs, hs']
        exact readFlagged_agrees hflagged _ _ _ _
    · rw [hs, hs']
      exact readNamedGroup_agrees hnamed
  · rw [hs]
    exact agrees_fail

end TextPattern.Syntax
