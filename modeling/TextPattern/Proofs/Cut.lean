import TextPattern.Proofs.Occurrences

/-!
# Matches cut out of their text

What an expression matches in a text it need not match on its own, since conditions look at what stands on
both sides of a match.

* `OnPart R pre mid post` : the relation leads from one end of the part `mid` of a text to the other;
* `Advances R`, `onPart_comp` : relations that lead forward, and the parts of a part that two of them lead
  over in turn;
* `Expr.startsIn`, `Expr.endsIn` : whatever is matched starts or ends with a character of a set;
* `Expr.keeps` : no condition depends on what is cut off, by the syntax of the expression;
* `onPart_of_keeps`, `covers_of_standsAlone` : what such an expression matches in a text it matches on its own;
* `covers_boundary_iff` : of what stands behind a word boundary, only what starts with a word character is
  matched on its own.
-/

namespace TextPattern

/-! ## Parts of a text -/

/-- The relation leads from the one end of the part `mid` of a text to the other. -/
def OnPart (R : Cursor → Cursor → Prop) (pre mid post : List Char) : Prop :=
  R (.between pre (mid ++ post)) (.between (pre ++ mid) post)

/-- The relation leads forward in a text. -/
def Advances (R : Cursor → Cursor → Prop) : Prop :=
  ∀ pre rest d, R (.between pre rest) d → ∃ mid post, rest = mid ++ post ∧ d = .between (pre ++ mid) post

section Parts

variable {R S : Cursor → Cursor → Prop} {pre mid post : List Char}

theorem advances_eq : Advances fun c d => d = c := by
  intro pre rest d h
  exact ⟨[], rest, rfl, by rw [h, List.append_nil]⟩

theorem Advances.comp (hR : Advances R) (hS : Advances S) : Advances fun c d => ∃ m, R c m ∧ S m d := by
  intro pre rest d h
  obtain ⟨m, hcm, hmd⟩ := h
  obtain ⟨fst, rest, rfl, rfl⟩ := hR pre _ m hcm
  obtain ⟨snd, post, rfl, rfl⟩ := hS (pre ++ fst) _ d hmd
  exact ⟨fst ++ snd, post, by rw [List.append_assoc], by rw [List.append_assoc]⟩

theorem Advances.rounds (hR : Advances R) (n : Nat) : Advances (Rounds R n) := by
  induction n with
  | zero => exact advances_eq
  | succ n ih => exact hR.comp ih

theorem onPart_eq : OnPart (fun c d => d = c) pre mid post ↔ mid = [] := by
  constructor
  · intro h
    have hrest : post = mid ++ post := congrArg Cursor.rest h
    exact List.append_left_eq_self.1 hrest.symm
  · rintro rfl
    show Cursor.between (pre ++ []) post = .between pre post
    rw [List.append_nil]

theorem onPart_comp (hR : Advances R) (hS : Advances S) :
    OnPart (fun c d => ∃ m, R c m ∧ S m d) pre mid post ↔
      ∃ fst snd, mid = fst ++ snd ∧ OnPart R pre fst (snd ++ post) ∧ OnPart S (pre ++ fst) snd post := by
  constructor
  · intro h
    obtain ⟨m, hcm, hmd⟩ := h
    obtain ⟨fst, rest, htext, rfl⟩ := hR pre _ m hcm
    obtain ⟨snd, post', rfl, hstop⟩ := hS (pre ++ fst) _ _ hmd
    obtain rfl : post = post' := congrArg Cursor.rest hstop
    have hmid : mid = fst ++ snd := by
      rw [← List.append_assoc] at htext
      exact List.append_cancel_right htext
    subst hmid
    refine ⟨fst, snd, rfl, ?_, ?_⟩
    · rwa [htext] at hcm
    · rwa [← List.append_assoc] at hmd
  · rintro ⟨fst, snd, rfl, hfst, hsnd⟩
    refine ⟨.between (pre ++ fst) (snd ++ post), ?_, ?_⟩
    · rw [List.append_assoc]
      exact hfst
    · rw [← List.append_assoc]
      exact hsnd

end Parts

namespace Expr

variable {e : Expr} {pre mid post : List Char}

theorem advances_matches (e : Expr) : Advances e.Matches := by
  induction e with
  | empty => exact advances_eq
  | chars set =>
    intro pre rest d h
    obtain ⟨a, hnext, -⟩ := h
    obtain ⟨post, rfl, rfl⟩ := Cursor.eq_of_next?_between hnext
    exact ⟨[a], post, rfl, rfl⟩
  | look cond => exact fun pre rest d h => advances_eq pre rest d h.1
  | cat a b iha ihb => exact iha.comp ihb
  | alt a b iha ihb =>
    intro pre rest d h
    cases h with
    | inl h => exact iha pre rest d h
    | inr h => exact ihb pre rest d h
  | rep e count greedy ih =>
    intro pre rest d h
    obtain ⟨n, -, hn⟩ := h
    exact ih.rounds n pre rest d hn
  | group i e ih => exact ih

theorem onPart_chars {set : CharSet} :
    OnPart (chars set).Matches pre mid post ↔ ∃ a, mid = [a] ∧ set.contains a = true := by
  constructor
  · intro h
    obtain ⟨a, hnext, ha⟩ := h
    obtain ⟨rest, htext, hstop⟩ := Cursor.eq_of_next?_between hnext
    obtain rfl : post = rest := congrArg Cursor.rest hstop
    exact ⟨a, List.append_cancel_right htext, ha⟩
  · rintro ⟨a, rfl, ha⟩
    exact ⟨a, Cursor.next?_between pre post a, ha⟩

theorem onPart_look {cond : Look} :
    OnPart (look cond).Matches pre mid post ↔ mid = [] ∧ cond.holds (.between pre post) = true := by
  constructor
  · intro h
    obtain rfl := onPart_eq.1 h.1
    exact ⟨rfl, h.2⟩
  · rintro ⟨rfl, h⟩
    exact ⟨onPart_eq.2 rfl, h⟩

theorem onPart_cat {a b : Expr} : OnPart (cat a b).Matches pre mid post ↔
    ∃ fst snd, mid = fst ++ snd ∧ OnPart a.Matches pre fst (snd ++ post) ∧
      OnPart b.Matches (pre ++ fst) snd post :=
  onPart_comp a.advances_matches b.advances_matches

theorem onPart_rounds_succ {n : Nat} : OnPart (Rounds e.Matches (n + 1)) pre mid post ↔
    ∃ fst snd, mid = fst ++ snd ∧ OnPart e.Matches pre fst (snd ++ post) ∧
      OnPart (Rounds e.Matches n) (pre ++ fst) snd post :=
  onPart_comp e.advances_matches (e.advances_matches.rounds n)

/-- An expression covers what it matches as a part with nothing around it. -/
theorem covers_iff_onPart : e.Covers mid ↔ OnPart e.Matches [] mid [] := by
  have hplace : Cursor.ofText mid = .between [] (mid ++ []) := by
    rw [List.append_nil]
    rfl
  unfold Covers OnPart
  rw [hplace]
  constructor
  · rintro ⟨d, hd, hend⟩
    obtain ⟨fst, rest, htext, rfl⟩ := e.advances_matches [] _ d hd
    obtain rfl : rest = [] := hend
    rw [List.append_cancel_right htext] at hd ⊢
    exact hd
  · intro h
    exact ⟨_, h, rfl⟩

end Expr

/-! ## First and last characters -/

/-- The text has a first character, which is in the set. -/
def HasFirst (s : CharSet) (text : List Char) : Prop := text.head?.any s.contains = true

/-- The text has a last character, which is in the set. -/
def HasLast (s : CharSet) (text : List Char) : Prop := text.getLast?.any s.contains = true

def CharSet.within (s t : CharSet) : Bool := (s.diff t).isEmpty

theorem CharSet.contains_of_within {s t : CharSet} (h : s.within t = true) {c : Char}
    (hc : s.contains c = true) : t.contains c = true := by
  have hnone : (s.diff t).mem c.toNat = false := by
    have hcuts : (s.diff t).cuts = [] := List.isEmpty_iff.1 h
    rw [mem, hcuts, holds]
  have hmem : (s.mem c.toNat && !t.mem c.toNat) = false := by
    rw [← hnone, diff, mem_combine rfl]
  have hs : s.mem c.toNat = true := hc
  rw [hs, Bool.true_and, Bool.not_eq_false'] at hmem
  exact hmem

section Ends

variable {s : CharSet} {pre mid post : List Char} {a : Char}

theorem hasFirst_cons : HasFirst s (a :: mid) ↔ s.contains a = true := Iff.rfl

theorem hasLast_concat : HasLast s (pre ++ [a]) ↔ s.contains a = true := by
  unfold HasLast
  rw [List.getLast?_concat]
  rfl

end Ends

namespace Expr

variable {s : CharSet} {e : Expr} {pre mid post : List Char}

/-- Whatever is matched, with what stands behind it, starts with a character of the set; `after` tells whether
what stands behind it does. -/
def firstIn (s : CharSet) : (after : Bool) → Expr → Bool
  | after, empty => after
  | _, chars t => t.within s
  | after, look _ => after
  | after, cat a b => a.firstIn s (b.firstIn s after)
  | after, alt a b => a.firstIn s after && b.firstIn s after
  | after, rep e count _ => e.firstIn s after && (after || count.min != 0)
  | after, group _ e => e.firstIn s after

/-- Whatever is matched, with what stands before it, ends with a character of the set; `before` tells whether
what stands before it does. -/
def lastIn (s : CharSet) : (before : Bool) → Expr → Bool
  | before, empty => before
  | _, chars t => t.within s
  | before, look _ => before
  | before, cat a b => b.lastIn s (a.lastIn s before)
  | before, alt a b => a.lastIn s before && b.lastIn s before
  | before, rep e count _ => e.lastIn s before && (before || count.min != 0)
  | before, group _ e => e.lastIn s before

theorem hasFirst_of_rounds {after : Bool} {rest : List Char}
    (he : ∀ {pre mid post rest}, OnPart e.Matches pre mid post → (after = true → HasFirst s rest) →
      HasFirst s (mid ++ rest))
    {n : Nat} (hn : OnPart (Rounds e.Matches n) pre mid post) (hrest : after = true → HasFirst s rest)
    (h : after = true ∨ n ≠ 0) : HasFirst s (mid ++ rest) := by
  induction n generalizing pre mid post with
  | zero =>
    obtain rfl := onPart_eq.1 hn
    exact hrest (h.resolve_right fun hne => hne rfl)
  | succ n ih =>
    obtain ⟨fst, snd, rfl, hfst, hsnd⟩ := onPart_rounds_succ.1 hn
    rw [List.append_assoc]
    exact he hfst fun hafter => ih hsnd (.inl hafter)

theorem hasFirst_of_firstIn {after : Bool} {rest : List Char} (h : e.firstIn s after = true)
    (hm : OnPart e.Matches pre mid post) (hrest : after = true → HasFirst s rest) :
    HasFirst s (mid ++ rest) := by
  induction e generalizing after pre mid post rest with
  | empty =>
    obtain rfl := onPart_eq.1 hm
    exact hrest h
  | chars t =>
    obtain ⟨a, rfl, ha⟩ := onPart_chars.1 hm
    exact hasFirst_cons.2 (CharSet.contains_of_within h ha)
  | look cond =>
    obtain ⟨rfl, -⟩ := onPart_look.1 hm
    exact hrest h
  | cat a b iha ihb =>
    obtain ⟨fst, snd, rfl, hfst, hsnd⟩ := onPart_cat.1 hm
    rw [List.append_assoc]
    exact iha h hfst fun hb => ihb hb hsnd hrest
  | alt a b iha ihb =>
    obtain ⟨ha, hb⟩ := Bool.and_eq_true_iff.1 h
    cases hm with
    | inl hm => exact iha ha hm hrest
    | inr hm => exact ihb hb hm hrest
  | rep e count greedy ih =>
    obtain ⟨he, hcount⟩ := Bool.and_eq_true_iff.1 h
    obtain ⟨n, ⟨hmin, -⟩, hn⟩ := hm
    apply hasFirst_of_rounds (fun hm hrest => ih he hm hrest) hn hrest
    rcases Bool.or_eq_true_iff.1 hcount with hafter | hne
    · exact .inl hafter
    · have : count.min ≠ 0 := by simpa using hne
      exact .inr (by omega)
  | group i e ih => exact ih h hm hrest

theorem hasLast_of_rounds {before : Bool} {front : List Char}
    (he : ∀ {pre mid post front}, OnPart e.Matches pre mid post → (before = true → HasLast s front) →
      HasLast s (front ++ mid))
    {n : Nat} (hn : OnPart (Rounds e.Matches n) pre mid post) (hfront : before = true → HasLast s front)
    (h : HasLast s front ∨ n ≠ 0) : HasLast s (front ++ mid) := by
  induction n generalizing pre mid post front with
  | zero =>
    obtain rfl := onPart_eq.1 hn
    rw [List.append_nil]
    exact h.resolve_right fun hne => hne rfl
  | succ n ih =>
    obtain ⟨fst, snd, rfl, hfst, hsnd⟩ := onPart_rounds_succ.1 hn
    have hlast : HasLast s (front ++ fst) := he hfst hfront
    rw [← List.append_assoc]
    exact ih hsnd (fun _ => hlast) (.inl hlast)

theorem hasLast_of_lastIn {before : Bool} {front : List Char} (h : e.lastIn s before = true)
    (hm : OnPart e.Matches pre mid post) (hfront : before = true → HasLast s front) :
    HasLast s (front ++ mid) := by
  induction e generalizing before pre mid post front with
  | empty =>
    obtain rfl := onPart_eq.1 hm
    rw [List.append_nil]
    exact hfront h
  | chars t =>
    obtain ⟨a, rfl, ha⟩ := onPart_chars.1 hm
    exact hasLast_concat.2 (CharSet.contains_of_within h ha)
  | look cond =>
    obtain ⟨rfl, -⟩ := onPart_look.1 hm
    rw [List.append_nil]
    exact hfront h
  | cat a b iha ihb =>
    obtain ⟨fst, snd, rfl, hfst, hsnd⟩ := onPart_cat.1 hm
    rw [← List.append_assoc]
    exact ihb h hsnd fun ha => iha ha hfst hfront
  | alt a b iha ihb =>
    obtain ⟨ha, hb⟩ := Bool.and_eq_true_iff.1 h
    cases hm with
    | inl hm => exact iha ha hm hfront
    | inr hm => exact ihb hb hm hfront
  | rep e count greedy ih =>
    obtain ⟨he, hcount⟩ := Bool.and_eq_true_iff.1 h
    obtain ⟨n, ⟨hmin, -⟩, hn⟩ := hm
    apply hasLast_of_rounds (fun hm hfront => ih he hm hfront) hn hfront
    rcases Bool.or_eq_true_iff.1 hcount with hbefore | hne
    · exact .inl (hfront hbefore)
    · have : count.min ≠ 0 := by simpa using hne
      exact .inr (by omega)
  | group i e ih => exact ih h hm hfront

end Expr

/-! ## Conditions -/

theorem within_wordChars : Unicode.asciiWordChars.within Unicode.wordChars = true := by decide +kernel

theorem isWordSide_of_ascii (unicode : Bool) {c : Option Char}
    (h : c.any Unicode.asciiWordChars.contains = true) : isWordSide unicode c = true := by
  cases c with
  | none => cases h
  | some c =>
    cases unicode with
    | false => exact h
    | true => exact CharSet.contains_of_within within_wordChars h

/-- Wherever the condition holds in a text it also holds in a part that is cut out, for all that the syntax
tells. `before` and `after` tell whether an ASCII word character of the part stands before and behind the
place. -/
def Look.keeps (before after : Bool) : Look → Bool
  | textStart | textEnd | lineStart | lineEnd | wordStartHalf _ | wordEndHalf _ => true
  | wordBoundary _ => before || after
  | lineStartCrlf | lineEndCrlf | notWordBoundary _ | wordStart _ | wordEnd _ => false

theorem Look.holds_of_keeps {cond : Look} {before after : Bool} {left pre post right : List Char}
    (h : cond.keeps before after = true) (hpre : before = true → HasLast Unicode.asciiWordChars pre)
    (hpost : after = true → HasFirst Unicode.asciiWordChars post)
    (hcond : cond.holds (.between (left ++ pre) (post ++ right)) = true) :
    cond.holds (.between pre post) = true := by
  -- On each side the part has the character that the text has, or none.
  have hbefore : pre.getLast? = none ∨ pre.getLast? = (left ++ pre).getLast? := by
    rcases List.eq_nil_or_concat' pre with rfl | ⟨pre, a, rfl⟩
    · exact .inl rfl
    · right
      rw [← List.append_assoc, List.getLast?_concat, List.getLast?_concat]
  have hafter : post.head? = none ∨ post.head? = (post ++ right).head? := by
    cases post with
    | nil => exact .inl rfl
    | cons a post => exact .inr rfl
  unfold HasLast at hpre
  unfold HasFirst at hpost
  unfold holds Cursor.between at hcond ⊢
  dsimp only at hcond ⊢
  generalize (left ++ pre).getLast? = b, pre.getLast? = b' at *
  generalize (post ++ right).head? = a, post.head? = a' at *
  cases cond with
  | textStart | lineStart | wordStartHalf _ =>
    rcases hbefore with rfl | rfl
    · rfl
    · exact hcond
  | textEnd | lineEnd | wordEndHalf _ =>
    rcases hafter with rfl | rfl
    · rfl
    · exact hcond
  | wordBoundary unicode =>
    have hnone : isWordSide unicode none = false := rfl
    -- The side with a word character is the same, and the other has none in the text.
    rcases Bool.or_eq_true_iff.1 h with hword | hword
    · have hlast : isWordSide unicode b' = true := isWordSide_of_ascii unicode (hpre hword)
      obtain rfl : b' = b := hbefore.resolve_left fun heq => by rw [heq, hnone] at hlast; cases hlast
      rcases hafter with rfl | rfl
      · show (isWordSide unicode b' != isWordSide unicode none) = true
        rw [hlast, hnone]
        rfl
      · exact hcond
    · have hfirst : isWordSide unicode a' = true := isWordSide_of_ascii unicode (hpost hword)
      obtain rfl : a' = a := hafter.resolve_left fun heq => by rw [heq, hnone] at hfirst; cases hfirst
      rcases hbefore with rfl | rfl
      · show (isWordSide unicode none != isWordSide unicode a') = true
        rw [hfirst, hnone]
        rfl
      · exact hcond
  | lineStartCrlf | lineEndCrlf | notWordBoundary _ | wordStart _ | wordEnd _ => cases h

/-! ## Cutting -/

namespace Expr

variable {e : Expr} {pre mid post left right : List Char}

/-- All conditions that are met in a text are met in the part that is matched. `before` and `after` tell whether
the part has an ASCII word character before and behind what the expression matches. -/
def keeps : (before after : Bool) → Expr → Bool
  | _, _, empty => true
  | _, _, chars _ => true
  | before, after, look cond => cond.keeps before after
  | before, after, cat a b =>
    a.keeps before (b.firstIn Unicode.asciiWordChars after) &&
      b.keeps (a.lastIn Unicode.asciiWordChars before) after
  | before, after, alt a b => a.keeps before after && b.keeps before after
  | _, _, rep e _ _ => e.keeps false false
  | before, after, group _ e => e.keeps before after

theorem onPart_rounds_of_keeps
    (he : ∀ {pre mid post}, OnPart e.Matches (left ++ pre) mid (post ++ right) → OnPart e.Matches pre mid post)
    {n : Nat} (hn : OnPart (Rounds e.Matches n) (left ++ pre) mid (post ++ right)) :
    OnPart (Rounds e.Matches n) pre mid post := by
  induction n generalizing pre mid with
  | zero => exact onPart_eq.2 (onPart_eq.1 hn)
  | succ n ih =>
    obtain ⟨fst, snd, rfl, hfst, hsnd⟩ := onPart_rounds_succ.1 hn
    rw [← List.append_assoc] at hfst
    rw [List.append_assoc] at hsnd
    exact onPart_rounds_succ.2 ⟨fst, snd, rfl, he hfst, ih hsnd⟩

/-- What is matched in a text is matched with less of the text around it. -/
theorem onPart_of_keeps {before after : Bool} (h : e.keeps before after = true)
    (hm : OnPart e.Matches (left ++ pre) mid (post ++ right))
    (hpre : before = true → HasLast Unicode.asciiWordChars pre)
    (hpost : after = true → HasFirst Unicode.asciiWordChars post) : OnPart e.Matches pre mid post := by
  induction e generalizing before after pre mid post with
  | empty => exact onPart_eq.2 (onPart_eq.1 hm)
  | chars t => exact onPart_chars.2 (onPart_chars.1 hm)
  | look cond =>
    obtain ⟨rfl, hcond⟩ := onPart_look.1 hm
    exact onPart_look.2 ⟨rfl, Look.holds_of_keeps h hpre hpost hcond⟩
  | cat a b iha ihb =>
    obtain ⟨ha, hb⟩ := Bool.and_eq_true_iff.1 h
    obtain ⟨fst, snd, rfl, hfst, hsnd⟩ := onPart_cat.1 hm
    rw [← List.append_assoc] at hfst
    rw [List.append_assoc] at hsnd
    refine onPart_cat.2 ⟨fst, snd, rfl, ?_, ?_⟩
    · exact iha ha hfst hpre fun hfirst => hasFirst_of_firstIn hfirst hsnd hpost
    · exact ihb hb hsnd (fun hlast => hasLast_of_lastIn hlast hfst hpre) hpost
  | alt a b iha ihb =>
    obtain ⟨ha, hb⟩ := Bool.and_eq_true_iff.1 h
    cases hm with
    | inl hm => exact .inl (iha ha hm hpre hpost)
    | inr hm => exact .inr (ihb hb hm hpre hpost)
  | rep e count greedy ih =>
    obtain ⟨n, hcount, hn⟩ := hm
    exact ⟨n, hcount, onPart_rounds_of_keeps (fun hm => ih h hm nofun nofun) hn⟩
  | group i e ih => exact ih h hm hpre hpost

/-- No condition of the expression depends on what stands around a match. -/
def standsAlone (e : Expr) : Bool := e.keeps false false

/-- Whatever such an expression matches in a text it also matches on its own. -/
theorem covers_of_standsAlone (h : e.standsAlone = true) (hm : OnPart e.Matches pre mid post) :
    e.Covers mid := by
  apply covers_iff_onPart.2
  have hcut : OnPart e.Matches (pre ++ []) mid ([] ++ post) := by
    rw [List.append_nil]
    exact hm
  exact onPart_of_keeps h hcut nofun nofun

/-- Of what is matched behind a word boundary, only what starts with a word character is matched on its own. -/
theorem covers_boundary_iff (h : e.standsAlone = true)
    (hm : OnPart (cat (look (.wordBoundary true)) e).Matches pre mid post) :
    (cat (look (.wordBoundary true)) e).Covers mid ↔ HasFirst Unicode.wordChars mid := by
  obtain ⟨fst, snd, rfl, hfst, hsnd⟩ := onPart_cat.1 hm
  obtain ⟨rfl, -⟩ := onPart_look.1 hfst
  rw [List.append_nil] at hsnd
  rw [List.nil_append]
  have hrest : OnPart e.Matches [] snd [] := covers_iff_onPart.1 (covers_of_standsAlone h hsnd)
  have hboundary : (Look.wordBoundary true).holds (.between [] snd) = true ↔ HasFirst Unicode.wordChars snd := by
    show (false != isWordSide true snd.head?) = true ↔ _
    rw [Bool.false_bne]
    exact Iff.rfl
  rw [covers_iff_onPart, onPart_cat, ← hboundary]
  constructor
  · rintro ⟨fst, snd', rfl, hlook, -⟩
    obtain ⟨rfl, hcond⟩ := onPart_look.1 hlook
    rwa [List.append_nil] at hcond
  · intro hcond
    refine ⟨[], snd, rfl, onPart_look.2 ⟨rfl, ?_⟩, hrest⟩
    rwa [List.append_nil]

end Expr

end TextPattern
