import TextPattern.Proofs.Sample.Drawable
import TextPattern.Proofs.Sample.OnePass
import TextPattern.Proofs.Sample.Places

/-!
# Samples of one plain class

* `expand_classMark` : a class is replaced by what is drawn over its body, and that is expanded;
* `Amount.Keeps`, `IsClosed body a max` : what is drawn for the dots of a text that stands for the class leaves
  such a text;
* `draws_expand_classMark` : then the stages of tokens leave a text that fits the class;
* `canDraw_expand_classMark`, `isClosed_of_draws` : and no others do, since each text for the dots can be drawn;
* `generate_plainClass` : the samples of a class are of its characters and of the right length, and it matches
  them; `samples_fit_iff_isClosed` : for the closed bodies only.
-/

namespace TextPattern.Sample

open TextPattern.Random

variable {σ : Type} [Source σ] {body text : List Char}

/-! ## The stages of classes -/

theorem replaceAll_self {mark : List Char} (hmark : mark ≠ []) (value : List Char) :
    replaceAll mark value mark = value := by
  obtain ⟨m, ms, rfl⟩ := List.exists_cons_of_ne_nil hmark
  have hstarts : (true && (m :: ms).isPrefixOf (m :: ms)) = true := by simp
  have hskip : replaceFrom (fun _ => true) true (m :: ms) value true ms.length (ms ++ [])
      (value.reverseAux []) = replaceFrom (fun _ => true) true (m :: ms) value true 0 [] (value.reverseAux []) :=
    replaceFrom_skip ms
  rw [List.append_nil] at hskip
  rw [replaceAll, replaceFrom, if_pos hstarts, List.length_cons, Nat.add_sub_cancel, hskip]
  simp [replaceFrom]

theorem classBodies_classMark (hne : body ≠ []) (hbody : ∀ c ∈ body, isBodyChar c = true) (a b : Amount) :
    classBodies b.sign (classMark body a.sign) = if b = a ∨ b = .one then [body] else [] := by
  have hmark : classMark body a.sign = classMark body [] ++ a.sign := by simp [classMark]
  have hsign : '[' ∉ a.sign := by cases a <;> decide
  have hend : ∀ found, classBodiesFrom b.sign none a.sign found = found.reverse := by
    intro found
    rw [← List.append_nil a.sign, classBodiesFrom_outside hsign]
    rfl
  rw [classBodies, hmark, classBodiesFrom_class hne hbody, hend]
  cases a <;> cases b <;> rfl

theorem drawClasses_classMark (hne : body ≠ []) (hbody : ∀ c ∈ body, isBodyChar c = true) (a : Amount)
    (max : Nat) : (drawClasses a max (classMark body a.sign) : StateM σ (List Char)) = drawValue body a max := by
  rw [drawClasses, classBodies_classMark hne hbody, if_pos (.inl rfl)]
  have hself : ∀ value, replaceAll (classMark body a.sign) value (classMark body a.sign) = value :=
    replaceAll_self (List.cons_ne_nil _ _)
  simp only [drawBodies, hself, bind_pure]

theorem drawClasses_eq_pure {a : Amount} (h : classBodies a.sign text = []) (max : Nat) :
    (drawClasses a max text : StateM σ (List Char)) = pure text := by
  rw [drawClasses, h, drawBodies]

theorem foldlM_drawClasses_of_over (hbody : ∀ c ∈ body, isBodyChar c = true) (htext : ∀ c ∈ text, c ∈ body)
    (max : Nat) (amounts : List Amount) :
    (amounts.foldlM (fun text a => drawClasses a max text) text : StateM σ _) = pure text := by
  refine foldlM_eq_pure fun a _ => drawClasses_eq_pure (classBodies_of_not_mem fun hmem => ?_) max
  exact ne_of_isBodyChar (by decide) (hbody _ (htext _ hmem)) rfl

theorem foldlM_drawClasses_classMark (hne : body ≠ []) (hbody : ∀ c ∈ body, isBodyChar c = true) (a : Amount)
    (max : Nat) : (Amount.all.foldlM (fun text b => drawClasses b max text) (classMark body a.sign) : StateM σ _) =
      drawValue body a max := by
  have hlater : ∀ amounts : List Amount, (drawValue body a max >>= fun value =>
      amounts.foldlM (fun text b => drawClasses b max text) value : StateM σ _) = drawValue body a max := by
    intro amounts
    have hplain := fun value (hvalue : a.Allows max value.length ∧ ∀ c ∈ value, c ∈ body) =>
      foldlM_drawClasses_of_over (σ := σ) hbody hvalue.2 max amounts
    exact ((draws_drawValue hne a max).bind_congr hplain).trans (bind_pure _)
  have hearlier : ∀ b : Amount, b ≠ a → b ≠ .one →
      (drawClasses b max (classMark body a.sign) : StateM σ (List Char)) = pure (classMark body a.sign) := by
    intro b ha hone
    refine drawClasses_eq_pure ?_ max
    rw [classBodies_classMark hne hbody, if_neg (not_or.2 ⟨ha, hone⟩)]
  -- The stages before that of the amount find no body, those behind it no bracket.
  cases a with
  | any =>
    rw [Amount.all, List.foldlM_cons, drawClasses_classMark hne hbody]
    exact hlater _
  | most =>
    rw [Amount.all, List.foldlM_cons, hearlier .any (by decide) (by decide), pure_bind, List.foldlM_cons,
      drawClasses_classMark hne hbody]
    exact hlater _
  | one =>
    rw [Amount.all, List.foldlM_cons, hearlier .any (by decide) (by decide), pure_bind, List.foldlM_cons,
      hearlier .most (by decide) (by decide), pure_bind, List.foldlM_cons, drawClasses_classMark hne hbody]
    exact hlater _

/-- What is drawn for a class is expanded in turn. -/
theorem expand_classMark (hne : body ≠ []) (hbody : ∀ c ∈ body, isBodyChar c = true) (a : Amount) (max : Nat) :
    (expand max (classMark body a.sign) : StateM σ _) = drawValue body a max >>= expand max := by
  rw [expand, foldlM_drawClasses_classMark hne hbody]
  refine (draws_drawValue hne a max).bind_congr fun value hvalue => ?_
  rw [expand, foldlM_drawClasses_of_over hbody hvalue.2, pure_bind]

/-! ## The stages of tokens -/

/-- A text of a length that `a` allows keeps to it when a dot with `b` in it is replaced: there is no room for the
two, or just for them. -/
def Amount.Keeps (a b : Amount) (max : Nat) : Prop := a = .one ∨ max ≤ 1 ∨ max = 2 ∧ (a = .any ∨ b = .most)

/-- What is drawn for the dots of a text that stands for a class leaves such a text: the body has no dot, or no
dot is drawn, or the body has all that is drawn for a dot, and no sign of an amount that is not kept to. -/
def IsClosed (body : List Char) (a : Amount) (max : Nat) : Prop :=
  '.' ∈ body → a = .any ∧ max = 0 ∨ (∀ c ∈ Token.wordCharacters, c ∈ body) ∧
    ∀ b : Amount, (∀ c ∈ b.sign, c ∈ body) → b = .one ∨ a.Keeps b max

/-- A token that stands in a text over the body is a dot. -/
theorem eq_dot_of_stands (hbody : ∀ c ∈ body, isBodyChar c = true) (htext : ∀ c ∈ text, c ∈ body) {t : Token}
    {b : Amount} (hstands : Stands opens true (t.mark ++ b.sign) text) :
    t = .dot ∧ '.' ∈ body ∧ ∀ c ∈ b.sign, c ∈ body := by
  obtain ⟨left, right, rfl, -⟩ := hstands
  have hmark : ∀ c ∈ t.mark ++ b.sign, c ∈ body := fun c hc =>
    htext c (List.mem_append_left _ (List.mem_append_right _ hc))
  have hback : '\\' ∉ body := fun hmem => ne_of_isBodyChar (by decide) (hbody _ hmem) rfl
  have hdot : t = .dot := by
    cases t with
    | dot => rfl
    | word | digit | blank => exact absurd (hmark '\\' (by simp [Token.mark])) hback
  subst hdot
  exact ⟨rfl, hmark '.' (by simp [Token.mark]), fun c hc => hmark c (List.mem_append_right _ hc)⟩

/-- A text that keeps to its length has room for one dot with a sign at most, and then for nothing else. -/
theorem Amount.Keeps.room {a b : Amount} {max n places : Nat} (h : a.Keeps b max) (hn : a.Allows max n)
    (hroom : places * 2 ≤ n) :
    places = 0 ∨ places = 1 ∧ n = 2 ∧ max = 2 ∧ (a = .any ∨ b = .most) := by
  rcases h with rfl | hmax | ⟨rfl, hab⟩
  · have hn : n = 1 := hn
    omega
  · have hn : n ≤ 1 := by
      cases a with
      | any => exact Nat.le_trans hn hmax
      | most => exact Nat.le_of_eq (hn.trans (Nat.max_eq_right hmax))
      | one => exact Nat.le_of_eq hn
    omega
  · have hn : n ≤ 2 := by
      cases a with
      | any => exact hn
      | most => exact Nat.le_of_eq hn
      | one => exact Nat.le_succ_of_le (Nat.le_of_eq hn)
    have hfew : places = 0 ∨ places = 1 ∧ n = 2 := by omega
    exact hfew.imp_right fun hfew => ⟨hfew.1, hfew.2, rfl, hab⟩

theorem Amount.Allows.replace {a b : Amount} {max n l k places : Nat} (hn : a.Allows max n)
    (hkeeps : b = .one ∨ a.Keeps b max) (hl : b.Allows max l)
    (hroom : places * (Token.dot.mark ++ b.sign).length ≤ n)
    (hk : k + places * (Token.dot.mark ++ b.sign).length = n + places * l) : a.Allows max k := by
  by_cases hone : b = .one
  · subst hone
    obtain rfl : l = 1 := hl
    have hlength : (Token.dot.mark ++ Amount.one.sign).length = 1 := rfl
    rw [hlength] at hk
    obtain rfl : k = n := by omega
    exact hn
  · have hlength : (Token.dot.mark ++ b.sign).length = 2 := by
      cases b with
      | any | most => rfl
      | one => exact absurd rfl hone
    rw [hlength] at hroom hk
    rcases (hkeeps.resolve_left hone).room hn hroom with rfl | ⟨rfl, rfl, rfl, hab⟩
    · obtain rfl : k = n := by omega
      exact hn
    · -- All of the text is replaced.
      obtain rfl : k = l := by omega
      cases a with
      | any =>
        cases b with
        | any => exact hl
        | most => exact Nat.le_of_eq hl
        | one => exact absurd rfl hone
      | most =>
        obtain rfl : b = .most := hab.resolve_left (by decide)
        exact hl
      | one => exact absurd (show 2 = 1 from hn) (by decide)

/-- What may be drawn for the class is left so by the stage of a token. -/
theorem draws_drawToken_fits (hbody : ∀ c ∈ body, isBodyChar c = true) {a : Amount} {max : Nat}
    (hclosed : IsClosed body a max) (t : Token) (b : Amount)
    (htext : Hole.Fits ⟨.plainClass body, a⟩ max text) :
    Draws (drawToken t b max text : StateM σ (List Char)) (Hole.Fits ⟨.plainClass body, a⟩ max) := by
  have hne := tokenMark_ne_nil t b
  unfold drawToken
  simp only
  split
  · next hoccurs =>
    have hstands := (occursFree_iff hne).1 hoccurs
    obtain ⟨rfl, hdot, hsign⟩ := eq_dot_of_stands hbody htext.mem hstands
    rcases hclosed hdot with ⟨rfl, rfl⟩ | ⟨hwords, hkeeps⟩
    · obtain rfl : text = [] := List.eq_nil_of_length_eq_zero (Nat.le_zero.1 htext.length)
      exact absurd hstands (not_stands_nil hne)
    · refine (draws_drawHole (h := ⟨.token .dot, b⟩) trivial max).bind fun value hvalue => Draws.pure ?_
      obtain ⟨places, hreplaced, -⟩ := exhaust_replaced hne value text
      have hother : ∀ c ∈ value, c ∉ Token.dot.mark ++ b.sign := by
        have hall : Token.wordCharacters.all (fun c => !(Token.dot.mark ++ b.sign).contains c) = true := by
          cases b <;> decide
        intro c hc hmem
        have hnot := List.all_eq_true.1 hall c (hvalue.mem c hc)
        rw [List.contains_iff_mem.2 hmem] at hnot
        cases hnot
      refine ⟨htext.length.replace (hkeeps b hsign) hvalue.length (hreplaced.room hother) hreplaced.length, ?_⟩
      exact hreplaced.forall htext.mem fun c hc => hwords c (hvalue.mem c hc)
  · exact Draws.pure htext

/-- What the stages make of a class with a closed body fits it. -/
theorem draws_expand_classMark (hne : body ≠ []) (hbody : ∀ c ∈ body, isBodyChar c = true) {a : Amount}
    {max : Nat} (hclosed : IsClosed body a max) :
    Draws (expand max (classMark body a.sign) : StateM σ (List Char))
      (Hole.Fits ⟨.plainClass body, a⟩ max) := by
  rw [expand, foldlM_drawClasses_classMark hne hbody]
  refine (draws_drawValue hne a max).bind fun value hvalue => ?_
  refine Draws.foldlM (fun text s htext => ?_) tokenStages ⟨hvalue.1, hvalue.2⟩
  exact draws_drawToken_fits hbody hclosed s.1 s.2 htext

theorem draws_expand_opens (hne : body ≠ []) (hbody : ∀ c ∈ body, isBodyChar c = true) (a : Amount) (max : Nat) :
    Draws (expand max (classMark body a.sign) : StateM σ (List Char)) fun text => ∀ c ∈ text, opens c = true := by
  rw [expand, foldlM_drawClasses_classMark hne hbody]
  refine (draws_drawValue hne a max).bind fun value hvalue => ?_
  refine Draws.foldlM (fun text s htext => ?_) tokenStages fun c hc => ?_
  · rw [drawToken]
    split
    · refine (draws_drawHole (h := ⟨.token s.1, s.2⟩) trivial max).bind fun value hvalue => Draws.pure ?_
      obtain ⟨places, hreplaced, -⟩ := exhaust_replaced (tokenMark_ne_nil s.1 s.2) value text
      exact hreplaced.forall htext fun c hc => opens_of_isInert (hvalue.inert (h := ⟨.token s.1, s.2⟩) trivial c hc)
    · exact Draws.pure htext
  · exact bne_iff_ne.2 (ne_of_isBodyChar (by decide) (hbody c (hvalue.2 c hc)))

/-! ## Bodies that are not closed -/

section Converse

variable {a b : Amount} {max : Nat}

/-- A length that is not kept to can be left by replacing a dot with a sign. -/
theorem Amount.exists_of_not_keeps (hone : b ≠ .one) (h : ¬ a.Keeps b max) :
    ∃ n l, a.Allows max (n + 2) ∧ b.Allows max l ∧ ¬ a.Allows max (n + l) := by
  simp only [Keeps, not_or, not_and] at h
  obtain ⟨ha, hmax, htwo⟩ := h
  have hmost : Nat.max max 1 = max := Nat.max_eq_left (by omega)
  cases a with
  | any =>
    have hthree : 1 + 2 ≤ max := by
      have hne : max ≠ 2 := fun heq => (htwo heq).1 rfl
      omega
    have hmore : ¬ 1 + max ≤ max := by omega
    cases b with
    | any => exact ⟨1, max, hthree, Nat.le_refl max, hmore⟩
    | most => exact ⟨1, max, hthree, hmost.symm, hmore⟩
    | one => exact absurd rfl hone
  | most =>
    have hroom : max - 2 + 2 = Nat.max max 1 := by omega
    cases b with
    | any =>
      have hless : max - 2 + 0 ≠ Nat.max max 1 := by omega
      exact ⟨max - 2, 0, hroom, Nat.zero_le max, hless⟩
    | most =>
      have hmore : max - 2 + max ≠ Nat.max max 1 := by
        have hne : max ≠ 2 := fun heq => (htwo heq).2 rfl
        omega
      exact ⟨max - 2, max, hroom, hmost.symm, hmore⟩
    | one => exact absurd rfl hone
  | one => exact absurd rfl ha

/-- If a row of literals and dots stands for the class, each text that may be drawn for the dots can be drawn. -/
theorem canDraw_expand_classMark (hne : body ≠ []) (hbody : ∀ c ∈ body, isBodyChar c = true)
    (hsize : 2 * body.length ≤ wordCount) (hmax : max ≤ 2 ^ 20) {items : List Item}
    (hitems : ∀ i ∈ items, i.Sound) (hholes : ∀ h, .hole h ∈ items ↔ h = ⟨.token .dot, b⟩)
    (htext : Hole.Fits ⟨.plainClass body, a⟩ max (textOf items)) {value : List Char}
    (hvalue : Hole.Fits ⟨.token .dot, b⟩ max value) :
    CanDraw (expand max (classMark body a.sign)) (textOf (fillAll [(⟨.token .dot, b⟩, value)] items)) := by
  have hwords : 2 * (max + 1) ≤ wordCount := by
    have hcount : 2 * (2 ^ 20 + 1) ≤ wordCount := by decide
    omega
  have hstaged : stagedHoles items = [⟨.token .dot, b⟩] := by
    have hnodup := (inStageOrder_stagedHoles items).nodup
    rw [← List.perm_singleton, List.perm_ext_iff_of_nodup hnodup (List.nodup_singleton _)]
    intro h
    rw [mem_stagedHoles, hholes, List.mem_singleton]
  have halphabet : 2 * Token.wordCharacters.length ≤ wordCount := by decide
  have hdot : CanDraw (drawHole ⟨.token .dot, b⟩ max) value :=
    canDraw_drawValue halphabet hwords hvalue.length hvalue.mem
  have hholes : CanDraw (drawHoles max [⟨.token .dot, b⟩]) [(⟨.token .dot, b⟩, value)] := by
    refine hdot.bind ?_
    rw [drawHoles, pure_bind]
    exact CanDraw.pure _
  rw [expand_classMark hne hbody]
  refine (canDraw_drawValue hsize hwords htext.length htext.mem).bind ?_
  rw [expand_textOf max (clear_of_sound hitems), hstaged]
  exact hholes.bind (CanDraw.pure _)

def dots (n : Nat) : List Item := List.replicate n (.hole ⟨.token .dot, .one⟩)

theorem textOf_dots (n : Nat) : textOf (dots n) = List.replicate n '.' := by
  induction n with
  | zero => rfl
  | succ n ih =>
    rw [dots, List.replicate_succ, textOf_cons, ← dots, ih]
    rfl

def dotBehind (text : List Char) (b : Amount) : List Item := text.map .literal ++ [.hole ⟨.token .dot, b⟩]

theorem textOf_dotBehind (text : List Char) (b : Amount) : textOf (dotBehind text b) = text ++ '.' :: b.sign := by
  rw [dotBehind, textOf_append, textOf_literals]
  simp [Item.text, Hole.mark, Choice.mark, Token.mark]

theorem textOf_fillAll_dotBehind (text value : List Char) (b : Amount) :
    textOf (fillAll [(⟨.token .dot, b⟩, value)] (dotBehind text b)) = text ++ value := by
  rw [dotBehind, fillAll_append, fillAll_literals, textOf_append, textOf_literals]
  simp [fillAll, Item.fill]

section Draws

variable (hne : body ≠ []) (hbody : ∀ c ∈ body, isBodyChar c = true) (hsize : 2 * body.length ≤ wordCount)
  (hmax : max ≤ 2 ^ 20)
  (hfits : Draws (expand max (classMark body a.sign) : StateM Tape _) (Hole.Fits ⟨.plainClass body, a⟩ max))
include hne hbody hsize hmax hfits

/-- If nothing but dots is drawn, and then a character for them, that is of the body. -/
theorem wordCharacters_of_draws (hdot : '.' ∈ body) (hsome : ¬ (a = .any ∧ max = 0)) :
    ∀ c ∈ Token.wordCharacters, c ∈ body := by
  intro c hc
  obtain ⟨n, hn⟩ : ∃ n, a.Allows max (n + 1) := by
    cases a with
    | any => exact ⟨0, Nat.one_le_iff_ne_zero.2 fun hzero => hsome ⟨rfl, hzero⟩⟩
    | most => exact ⟨Nat.max max 1 - 1, Nat.sub_add_cancel (Nat.le_max_right max 1)⟩
    | one => exact ⟨0, rfl⟩
  have hitems : ∀ i ∈ dots (n + 1), i.Sound := fun i hi => by
    rw [List.eq_of_mem_replicate hi]
    trivial
  have hholes : ∀ h, .hole h ∈ dots (n + 1) ↔ h = ⟨.token .dot, .one⟩ := by simp [dots]
  have hrow : Hole.Fits ⟨.plainClass body, a⟩ max (textOf (dots (n + 1))) := by
    rw [textOf_dots]
    refine ⟨by rwa [List.length_replicate], fun d hd => ?_⟩
    rwa [List.eq_of_mem_replicate hd]
  have hvalue : Hole.Fits ⟨.token .dot, .one⟩ max [c] := ⟨List.length_singleton, List.forall_mem_singleton.2 hc⟩
  have hdrawn := canDraw_expand_classMark hne hbody hsize hmax hitems hholes hrow hvalue
  refine (hdrawn.of_draws hfits).mem c ?_
  simp [dots, List.replicate_succ, fillAll_cons, Item.fill, Item.text]

/-- If a dot with its sign is drawn behind letters, and then letters for it, they keep to the length. -/
theorem keeps_of_draws (hdot : '.' ∈ body) (hwords : ∀ c ∈ Token.wordCharacters, c ∈ body)
    (hsign : ∀ c ∈ b.sign, c ∈ body) : b = .one ∨ a.Keeps b max := by
  by_contra hnot
  obtain ⟨hone, hkeeps⟩ := not_or.1 hnot
  obtain ⟨n, l, hn, hl, hbad⟩ := Amount.exists_of_not_keeps hone hkeeps
  have hletter : ∀ {k : Nat}, ∀ c ∈ List.replicate k 'a', c = 'a' := fun _ hc => List.eq_of_mem_replicate hc
  have hitems : ∀ i ∈ dotBehind (List.replicate n 'a') b, i.Sound := by
    intro i hi
    rcases List.mem_append.1 hi with hi | hi
    · obtain ⟨c, hc, rfl⟩ := List.mem_map.1 hi
      rw [hletter c hc]
      rfl
    · rw [List.mem_singleton.1 hi]
      trivial
  have hholes : ∀ h, .hole h ∈ dotBehind (List.replicate n 'a') b ↔ h = ⟨.token .dot, b⟩ := by simp [dotBehind]
  have hrow : Hole.Fits ⟨.plainClass body, a⟩ max (textOf (dotBehind (List.replicate n 'a') b)) := by
    rw [textOf_dotBehind]
    constructor
    · cases b with
      | any | most => simpa [Amount.sign] using hn
      | one => exact absurd rfl hone
    · intro c hc
      rcases List.mem_append.1 hc with hc | hc
      · rw [hletter c hc]
        exact hwords 'a' (by decide)
      · exact List.forall_mem_cons.2 ⟨hdot, hsign⟩ c hc
  have hmem : 'a' ∈ Token.wordCharacters := by decide
  have hvalue : Hole.Fits ⟨.token .dot, b⟩ max (List.replicate l 'a') :=
    ⟨by rwa [List.length_replicate], fun c hc => hletter c hc ▸ hmem⟩
  have hdrawn := canDraw_expand_classMark hne hbody hsize hmax hitems hholes hrow hvalue
  rw [textOf_fillAll_dotBehind] at hdrawn
  have hallows := (hdrawn.of_draws hfits).length
  rw [List.length_append, List.length_replicate, List.length_replicate] at hallows
  exact hbad hallows

theorem isClosed_of_draws : IsClosed body a max := by
  intro hdot
  by_cases hnone : a = .any ∧ max = 0
  · exact .inl hnone
  · have hwords := wordCharacters_of_draws hne hbody hsize hmax hfits hdot hnone
    exact .inr ⟨hwords, fun _ hsign => keeps_of_draws hne hbody hsize hmax hfits hdot hwords hsign⟩

end Draws

end Converse

/-! ## Samples -/

/-- A class of single characters with an amount matches the texts over its body that are as long as the amount
allows, unless it is too large between the ends of the text. -/
theorem matchesWhole_classMark (hne : body ≠ []) (hbody : ∀ c ∈ body, isBodyChar c = true) (hops : NoSetOp body)
    {a : Amount} (hvalid : isValid (String.ofList (classMark body a.sign)) = true) {max : Nat} {input : String}
    (hinput : Hole.Fits ⟨.plainClass body, a⟩ max input.toList) :
    matchesWhole (String.ofList (classMark body a.sign)) .none input = .ok true ∨
      ∃ bound, matchesWhole (String.ofList (classMark body a.sign)) .none input =
        .error (.invalidPattern (String.ofList (classMark body a.sign)) (.tooLarge bound)) := by
  obtain ⟨p, hp⟩ := exists_compile_of_isValid hvalid
  obtain ⟨e, hcompile, rfl⟩ := Pattern.compile_eq_ok.1 hp
  rw [String.toList_ofList] at hcompile
  by_cases hwhole : ∃ bound,
      Options.none.compile (Options.none.wholeSource (classMark body a.sign)) = .error (.tooLarge bound)
  · right
    obtain ⟨bound, hbound⟩ := hwhole
    refine ⟨bound, ?_⟩
    rw [matchesWhole, validateAndCompile_none hp, Syntax.ok_bind, Pattern.matchesWhole]
    simp only [String.toList_ofList, hbound]
  · left
    have hsize : ∀ bound, Options.none.compile (classMark body a.sign) ≠ .error (.tooLarge bound) := by
      intro bound hbound
      cases hcompile.symm.trans hbound
    have hoperand := isItem_withAmount (isOperand_class hne hbody hops) a
    have hmark : '[' :: body ++ [']'] ++ a.sign ++ [] = classMark body a.sign := by simp [classMark]
    have hspells : Spells (classMark body a.sign) [a.expr (memberSet body)] := hmark ▸ .cons hoperand .nil
    have hdenotes := hspells.denotes_of_size hsize fun bound hbound => hwhole ⟨bound, hbound⟩
    have htakes := hinput.takes [] []
    rw [List.append_nil] at htakes
    exact matchesWhole_of_denotes hdenotes ⟨_, ⟨_, htakes, rfl⟩, rfl⟩

theorem generate_classMark (hne : body ≠ []) (hbody : ∀ c ∈ body, isBodyChar c = true) (a : Amount)
    (hvalid : isValid (String.ofList (classMark body a.sign)) = true) {limit : Int} (hmin : 0 ≤ limit)
    (hmax : limit ≤ 2 ^ 20) (source : σ) :
    (generate (String.ofList (classMark body a.sign)) limit source).1 =
      .ok (String.ofList ((expand limit.toNat (classMark body a.sign)).run source).1) := by
  obtain ⟨p, hp⟩ := exists_compile_of_isValid hvalid
  have hopens := draws_expand_opens hne hbody a limit.toNat source
  have hpoint : ¬ ['\\', '.'] <:+: ((expand limit.toNat (classMark body a.sign)).run source).1 := by
    intro hpart
    have hback := hopens '\\' (hpart.subset List.mem_cons_self)
    exact absurd hback (by decide)
  rw [generate_eq_ok (validateAndCompile_none hp) (sampleLength_eq_ok hmin hmax), String.toList_ofList,
    unescapeDots_eq_self hpoint]

/-- A valid class of single characters with a closed body has samples for every greatest length up to 2^20. They
are over the body and as long as the amount allows, and the class matches the whole of them, unless it is too
large between the ends of the text. -/
theorem generate_plainClass (hne : body ≠ []) (hbody : ∀ c ∈ body, isBodyChar c = true) (hops : NoSetOp body)
    (a : Amount) (hvalid : isValid (String.ofList (classMark body a.sign)) = true) {limit : Int}
    (hmin : 0 ≤ limit) (hmax : limit ≤ 2 ^ 20) (hclosed : IsClosed body a limit.toNat) (source : σ) :
    ∃ sample, (generate (String.ofList (classMark body a.sign)) limit source).1 = .ok sample ∧
      Hole.Fits ⟨.plainClass body, a⟩ limit.toNat sample.toList ∧
      (matchesWhole (String.ofList (classMark body a.sign)) .none sample = .ok true ∨
        ∃ bound, matchesWhole (String.ofList (classMark body a.sign)) .none sample =
          .error (.invalidPattern (String.ofList (classMark body a.sign)) (.tooLarge bound))) := by
  have hfits := draws_expand_classMark (σ := σ) hne hbody hclosed source
  rw [← String.toList_ofList (l := ((expand _ _).run source).1)] at hfits
  exact ⟨_, generate_classMark hne hbody a hvalid hmin hmax source, hfits,
    matchesWhole_classMark hne hbody hops hvalid hfits⟩

/-- Signs of amounts and halves of operators stand for themselves in `[a*+&]+`. -/
theorem generate_plainClass_signs : ∃ sample,
    (generate "[a*+&]+" 3 (Cycle.mk #[0x9E3779B9, 0x7F4A7C15] 0)).1 = .ok sample ∧
      Hole.Fits ⟨.plainClass ['a', '*', '+', '&'], .most⟩ 3 sample.toList ∧
      (matchesWhole "[a*+&]+" .none sample = .ok true ∨
        ∃ bound, matchesWhole "[a*+&]+" .none sample = .error (.invalidPattern "[a*+&]+" (.tooLarge bound))) := by
  have hbody : ['a', '*', '+', '&'].all isBodyChar = true := by decide
  have hops : NoSetOp ['a', '*', '+', '&'] := ⟨by decide, by decide⟩
  have hclosed : IsClosed ['a', '*', '+', '&'] .most 3 := fun hdot => absurd hdot (by decide)
  have hmax : (3 : Int) ≤ 2 ^ 20 := by decide
  exact generate_plainClass (by decide) (List.all_eq_true.1 hbody) hops .most (by decide +kernel)
    (by decide) hmax hclosed _

/-- The samples of a class are over its body and as long as its amount allows, whatever is drawn, exactly for the
closed bodies. -/
theorem samples_fit_iff_isClosed (hne : body ≠ []) (hbody : ∀ c ∈ body, isBodyChar c = true)
    (hsize : 2 * body.length ≤ wordCount) (a : Amount)
    (hvalid : isValid (String.ofList (classMark body a.sign)) = true) {limit : Int} (hmin : 0 ≤ limit)
    (hmax : limit ≤ 2 ^ 20) :
    (∀ source : Tape, ∃ sample, (generate (String.ofList (classMark body a.sign)) limit source).1 = .ok sample ∧
      Hole.Fits ⟨.plainClass body, a⟩ limit.toNat sample.toList) ↔ IsClosed body a limit.toNat := by
  have hsample := fun source : Tape => generate_classMark hne hbody a hvalid hmin hmax source
  constructor
  · intro h
    have hlimit : limit.toNat ≤ 2 ^ 20 := Int.toNat_le.2 hmax
    refine isClosed_of_draws hne hbody hsize hlimit fun source => ?_
    obtain ⟨sample, hgenerated, hfits⟩ := h source
    rw [hsample source] at hgenerated
    obtain rfl := Except.ok.inj hgenerated
    rwa [String.toList_ofList] at hfits
  · intro h source
    refine ⟨_, hsample source, ?_⟩
    rw [String.toList_ofList]
    exact draws_expand_classMark hne hbody h source

/-- The dot that is drawn from its own class is taken for a token. -/
theorem generate_plainClass_dot : isValid "[.]" = true ∧
    (generate "[.]" 1 (Cycle.mk #[0] 0)).1 = .ok "a" ∧ 'a' ∉ ['.'] ∧
    matchesWhole "[.]" .none "a" = .ok false := by
  refine ⟨by decide +kernel, by decide +kernel, by decide, by decide +kernel⟩

end TextPattern.Sample
