import Mathlib.Data.List.Basic
import Mathlib.Tactic.IntervalCases
import TextPattern.Json.Printer
import TextPattern.Json.Reader

/-!
# Reading what is written

* `Lexes s text tokens s'` : a text leads from a state to another, and is made of the tokens;
* `Reads text tokens` : between tokens a text is made of the tokens, if what follows cannot belong to the last;
* `Layout.IsBlank` : a layout of nothing but blanks;
* `reads_writeAt` : a value is written with its tokens;
* `takes_tokens` : the tokens of a value denote it;
* `read?_write` : a value that is written in a layout of blanks is read again.
-/

namespace TextPattern.Json

/-! ## Texts and tokens -/

/-- Reading a text leads from a state to another and completes the tokens. -/
def Lexes (s : LexState) (text : List Char) (tokens : List Token) (s' : LexState) : Prop :=
  ∀ rest done, Token.ofTextFrom? s (text ++ rest) done = Token.ofTextFrom? s' rest (tokens.reverse ++ done)

/-- No digit and no letter of a word stands at the start of the text. -/
def Stops (text : List Char) : Prop :=
  ∀ c, text.head? = some c → c.isDigit = false ∧ c.isLower = false

/-- Between tokens a text is read as the tokens, if what follows cannot belong to the last of them. -/
def Reads (text : List Char) (tokens : List Token) : Prop :=
  ∀ rest done, Stops rest →
    Token.ofTextFrom? .between (text ++ rest) done = Token.ofTextFrom? .between rest (tokens.reverse ++ done)

section Lexing

variable {s s' s'' : LexState} {text text' rest : List Char} {ts ts' : List Token} {c : Char}

theorem Lexes.nil : Lexes s [] [] s := fun _ _ => rfl

theorem Lexes.append (h : Lexes s text ts s') (h' : Lexes s' text' ts' s'') :
    Lexes s (text ++ text') (ts ++ ts') s'' := by
  intro rest done
  rw [List.append_assoc, h, h', List.reverse_append, List.append_assoc]

theorem lexes_step (h : s.step? c = some (s', ts)) : Lexes s [c] ts s' := by
  intro rest done
  rw [List.singleton_append, Token.ofTextFrom?, h]

theorem Lexes.cons (h : s.step? c = some (s', ts)) (h' : Lexes s' text ts' s'') :
    Lexes s (c :: text) (ts ++ ts') s'' :=
  (lexes_step h).append h'

theorem stops_nil : Stops [] := fun _ h => nomatch h

theorem stops_cons (hdigit : c.isDigit = false) (hlower : c.isLower = false) : Stops (c :: text) := by
  intro d hd
  obtain rfl : c = d := Option.some.inj hd
  exact ⟨hdigit, hlower⟩

theorem Stops.append (h : Stops text) (h' : Stops text') : Stops (text ++ text') := by
  cases text with
  | nil => exact h'
  | cons c text => exact h

theorem Lexes.reads (h : Lexes .between text ts .between) : Reads text ts := fun rest done _ => h rest done

theorem Lexes.append_reads (h : Lexes .between text ts .between) (h' : Reads text' ts') :
    Reads (text ++ text') (ts ++ ts') := by
  intro rest done hrest
  rw [List.append_assoc, h, h' _ _ hrest, List.reverse_append, List.append_assoc]

theorem Reads.append (h : Reads text ts) (h' : Reads text' ts') (hstops : Stops text') :
    Reads (text ++ text') (ts ++ ts') := by
  intro rest done hrest
  rw [List.append_assoc, h _ _ (hstops.append hrest), h' _ _ hrest, List.reverse_append, List.append_assoc]

/-! ### Numbers and words -/

theorem isDigit_digitChar {d : Nat} (hd : d < 10) : (Nat.digitChar d).isDigit = true := by
  have hall : ∀ d, d < 10 → (Nat.digitChar d).isDigit = true := by decide
  exact hall d hd

theorem start?_digitChar {d : Nat} (hd : d < 10) :
    LexState.start? (Nat.digitChar d) = some (.number d, []) := by
  interval_cases d <;> rfl

/-- The digits of a number are read as the number; only zero begins with the digit zero. -/
theorem lexes_toDigits (n : Nat) : Lexes .between (Nat.toDigits 10 n) [] (.number n) := by
  induction n using Nat.strongRecOn with
  | ind n ih =>
    rw [Nat.toDigits_eq_if (by decide)]
    by_cases hsmall : n < 10
    · rw [if_pos hsmall]
      exact lexes_step (start?_digitChar hsmall)
    · rw [if_neg hsmall]
      have hmod : n % 10 < 10 := Nat.mod_lt n (by decide)
      have hpos : n / 10 ≠ 0 := by omega
      have hvalue : 10 * (n / 10) + ((Nat.digitChar (n % 10)).toNat - '0'.toNat) = n := by
        have hdigit := Nat.toNat_digitChar_sub_48_of_lt_ten hmod
        change 10 * (n / 10) + ((Nat.digitChar (n % 10)).toNat - 48) = n
        omega
      have hlast : (LexState.number (n / 10)).step? (Nat.digitChar (n % 10)) = some (.number n, []) := by
        rw [LexState.step?, if_pos (isDigit_digitChar hmod), if_neg hpos, hvalue]
      exact (ih (n / 10) (by omega)).append (lexes_step hlast)

theorem ofTextFrom?_number {n : Nat} (hrest : Stops rest) (done : List Token) :
    Token.ofTextFrom? (.number n) rest done = Token.ofTextFrom? .between rest (.number n :: done) := by
  cases rest with
  | nil => rfl
  | cons c rest =>
    have hdigit : c.isDigit = false := (hrest c rfl).1
    rw [Token.ofTextFrom?, Token.ofTextFrom?, LexState.step?, LexState.step?, hdigit]
    cases LexState.start? c with
    | none => rfl
    | some next => simp

theorem reads_number (n : Nat) : Reads (Nat.toDigits 10 n) [.number n] := by
  intro rest done hrest
  rw [lexes_toDigits, ofTextFrom?_number hrest]
  rfl

theorem ofTextFrom?_word {letters : List Char} {t : Token} (ht : wordToken? letters.reverse = some t)
    (hrest : Stops rest) (done : List Token) :
    Token.ofTextFrom? (.word letters) rest done = Token.ofTextFrom? .between rest (t :: done) := by
  cases rest with
  | nil => simp [Token.ofTextFrom?, LexState.finish?, ht]
  | cons c rest =>
    have hlower : c.isLower = false := (hrest c rfl).2
    rw [Token.ofTextFrom?, Token.ofTextFrom?, LexState.step?, LexState.step?, hlower, ht]
    cases LexState.start? c with
    | none => simp
    | some next => simp

theorem reads_null : Reads ['n', 'u', 'l', 'l'] [.null] := by
  intro rest done hrest
  have hword : wordToken? (['l', 'l', 'u', 'n'] : List Char).reverse = some .null := rfl
  exact ofTextFrom?_word hword hrest done

theorem reads_true : Reads ['t', 'r', 'u', 'e'] [.bool true] := by
  intro rest done hrest
  have hword : wordToken? (['e', 'u', 'r', 't'] : List Char).reverse = some (.bool true) := rfl
  exact ofTextFrom?_word hword hrest done

theorem reads_false : Reads ['f', 'a', 'l', 's', 'e'] [.bool false] := by
  intro rest done hrest
  have hword : wordToken? (['e', 's', 'l', 'a', 'f'] : List Char).reverse = some (.bool false) := rfl
  exact ofTextFrom?_word hword hrest done

/-! ### Texts -/

theorem hexDigit?_digitChar {d : Nat} (hd : d < 16) : hexDigit? (Nat.digitChar d) = some d := by
  interval_cases d <;> rfl

theorem lexes_control (codes : List Nat) {n : Nat} (hn : n < 0x20) :
    Lexes (.text codes) ['\\', 'u', '0', '0', Nat.digitChar (n / 16), Nat.digitChar (n % 16)] []
      (.text (n :: codes)) := by
  have hhigh : hexDigit? (Nat.digitChar (n / 16)) = some (n / 16) := hexDigit?_digitChar (by omega)
  have hlow : hexDigit? (Nat.digitChar (n % 16)) = some (n % 16) := hexDigit?_digitChar (by omega)
  have hthird : (LexState.code codes 2 0).step? (Nat.digitChar (n / 16)) = some (.code codes 1 (n / 16), []) := by
    rw [LexState.step?, hhigh]
    simp
  have hfourth : (LexState.code codes 1 (n / 16)).step? (Nat.digitChar (n % 16)) = some (.text (n :: codes), []) := by
    rw [LexState.step?, hlow]
    simp [Nat.div_add_mod n 16]
  have hbegin : Lexes (.text codes) ['\\', 'u', '0', '0'] [] (.code codes 2 0) := fun _ _ => rfl
  exact hbegin.append (.cons hthird (lexes_step hfourth))

theorem lexes_escapeChar (codes : List Nat) (c : Char) :
    Lexes (.text codes) (escapeChar c) [] (.text (c.toNat :: codes)) := by
  unfold escapeChar
  split
  case h_8 hquote hback _ _ _ _ _ =>
    split
    · next hcontrol => exact lexes_control codes hcontrol
    · next hcontrol =>
      apply lexes_step
      rw [LexState.step?, if_neg hquote, if_neg hback, if_neg hcontrol]
  all_goals exact fun _ _ => rfl

theorem lexes_flatMap_escapeChar (codes : List Nat) (t : List Char) :
    Lexes (.text codes) (t.flatMap escapeChar) [] (.text ((t.map Char.toNat).reverse ++ codes)) := by
  induction t generalizing codes with
  | nil => exact Lexes.nil
  | cons c t ih =>
    have hrest := ih (c.toNat :: codes)
    rw [List.flatMap_cons, List.map_cons, List.reverse_cons, List.append_assoc, List.singleton_append]
    exact (lexes_escapeChar codes c).append hrest

/-- The code of a character is no surrogate. -/
theorem isHighSurrogate_toNat (c : Char) : isHighSurrogate c.toNat = false := by
  have hvalid : c.toNat < 0xD800 ∨ 0xDFFF < c.toNat ∧ c.toNat < 0x110000 := c.valid
  rw [isHighSurrogate, Bool.and_eq_false_iff, decide_eq_false_iff_not, decide_eq_false_iff_not]
  omega

theorem charOf?_toNat (c : Char) : charOf? c.toNat = some c := by
  have hvalid : c.toNat.isValidChar := c.valid
  rw [charOf?, if_pos hvalid, Char.ofNat_toNat]

theorem decodeFrom_nil (done : List Char) : decodeFrom none [] done = some done.reverse := rfl

theorem decodeFrom_cons (c : Char) (codes : List Nat) (done : List Char) :
    decodeFrom none (c.toNat :: codes) done = decodeFrom none codes (c :: done) := by
  change (if isHighSurrogate c.toNat then decodeFrom (some c.toNat) codes done else _) = _
  rw [isHighSurrogate_toNat, charOf?_toNat]
  rfl

theorem decodeFrom_toNat (t done : List Char) :
    decodeFrom none (t.map Char.toNat) done = some (done.reverse ++ t) := by
  induction t generalizing done with
  | nil => rw [List.map_nil, decodeFrom_nil, List.append_nil]
  | cons c t ih => rw [List.map_cons, decodeFrom_cons, ih, List.reverse_cons, List.append_assoc, List.singleton_append]

theorem lexes_escape (t : List Char) : Lexes .between (escape t) [.text t] .between := by
  have hcodes := lexes_flatMap_escapeChar [] t
  rw [List.append_nil] at hcodes
  have hclose : (LexState.text (t.map Char.toNat).reverse).step? '"' = some (.between, [.text t]) := by
    rw [LexState.step?, if_pos rfl, List.reverse_reverse, decodeFrom_toNat]
    rfl
  have hopen : LexState.between.step? '"' = some (.text [], []) := rfl
  exact Lexes.cons hopen (hcodes.append (lexes_step hclose))

end Lexing

/-! ## Written values -/

structure Layout.IsBlank (l : Layout) : Prop where
  gap : ∀ depth, ∀ c ∈ l.gap depth, isGap c = true
  behindColon : ∀ c ∈ l.behindColon, isGap c = true

theorem isBlank_compact : Layout.compact.IsBlank := ⟨fun _ _ h => (nomatch h), fun _ h => (nomatch h)⟩

theorem isBlank_indented : Layout.indented.IsBlank := by
  refine ⟨fun depth c hc => ?_, fun c hc => ?_⟩
  · rcases List.mem_cons.1 hc with rfl | hc
    · rfl
    · rw [List.eq_of_mem_replicate hc]
      rfl
  · rw [List.mem_singleton.1 hc]
    rfl

section Writing

variable {l : Layout}

theorem start?_of_isGap {c : Char} (hc : isGap c = true) : LexState.start? c = some (.between, []) := by
  simp only [isGap, Bool.or_eq_true, decide_eq_true_eq] at hc
  rcases hc with ((rfl | rfl) | rfl) | rfl <;> rfl

theorem lexes_gap {gap : List Char} (hgap : ∀ c ∈ gap, isGap c = true) : Lexes .between gap [] .between := by
  induction gap with
  | nil => exact Lexes.nil
  | cons c gap ih =>
    obtain ⟨hc, hgap⟩ := List.forall_mem_cons.1 hgap
    exact Lexes.cons (s := .between) (start?_of_isGap hc) (ih hgap)

theorem stops_gap {gap : List Char} (hgap : ∀ c ∈ gap, isGap c = true) : Stops gap := by
  intro c hc
  have hisGap := hgap c (List.mem_of_mem_head? hc)
  simp only [isGap, Bool.or_eq_true, decide_eq_true_eq] at hisGap
  rcases hisGap with ((rfl | rfl) | rfl) | rfl <;> decide

theorem stops_writeBehind (depth : Nat) (items : List Json) : Stops (writeBehind l depth items) := by
  cases items with
  | nil => exact stops_nil
  | cons item items => exact stops_cons (by decide) (by decide)

theorem stops_writeFieldsBehind (depth : Nat) (fields : List (List Char × Json)) :
    Stops (writeFieldsBehind l depth fields) := by
  match fields with
  | [] => exact stops_nil
  | (name, value) :: fields => exact stops_cons (by decide) (by decide)

theorem lexes_name (hl : l.IsBlank) (name : List Char) :
    Lexes .between (escape name ++ ':' :: l.behindColon) [.text name, .colon] .between := by
  have hcolon : LexState.between.step? ':' = some (.between, [.colon]) := rfl
  exact (lexes_escape name).append (.cons hcolon (lexes_gap hl.behindColon))

mutual

theorem reads_writeAt (hl : l.IsBlank) (depth : Nat) : ∀ v : Json, Reads (writeAt l depth v) (tokens v)
  | null => reads_null
  | bool true => reads_true
  | bool false => reads_false
  | number n => reads_number n
  | text t => (lexes_escape t).reads
  | list [] => Lexes.reads fun _ _ => rfl
  | list (item :: items) => by
    have hopen : LexState.between.step? '[' = some (.between, [.openList]) := rfl
    have hclose : LexState.between.step? ']' = some (.between, [.closeList]) := rfl
    have hfirst := (Lexes.cons hopen (lexes_gap (hl.gap (depth + 1)))).append_reads
      (reads_writeAt hl (depth + 1) item)
    have hitems := hfirst.append (reads_writeBehind hl (depth + 1) items) (stops_writeBehind _ _)
    have hgap := hitems.append (lexes_gap (hl.gap depth)).reads (stops_gap (hl.gap depth))
    have hall := hgap.append (lexes_step hclose).reads (stops_cons (by decide) (by decide))
    simpa [writeAt, tokens] using hall
  | object [] => Lexes.reads fun _ _ => rfl
  | object ((name, value) :: fields) => by
    have hopen : LexState.between.step? '\x7b' = some (.between, [.openObject]) := rfl
    have hclose : LexState.between.step? '\x7d' = some (.between, [.closeObject]) := rfl
    have hname := (Lexes.cons hopen (lexes_gap (hl.gap (depth + 1)))).append (lexes_name hl name)
    have hfirst := hname.append_reads (reads_writeAt hl (depth + 1) value)
    have hfields := hfirst.append (reads_writeFieldsBehind hl (depth + 1) fields) (stops_writeFieldsBehind _ _)
    have hgap := hfields.append (lexes_gap (hl.gap depth)).reads (stops_gap (hl.gap depth))
    have hall := hgap.append (lexes_step hclose).reads (stops_cons (by decide) (by decide))
    simpa [writeAt, tokens] using hall

theorem reads_writeBehind (hl : l.IsBlank) (depth : Nat) :
    ∀ items : List Json, Reads (writeBehind l depth items) (tokensBehind items)
  | [] => Lexes.nil.reads
  | item :: items => by
    have hcomma : LexState.between.step? ',' = some (.between, [.comma]) := rfl
    have hfirst := (Lexes.cons hcomma (lexes_gap (hl.gap depth))).append_reads (reads_writeAt hl depth item)
    have hall := hfirst.append (reads_writeBehind hl depth items) (stops_writeBehind _ _)
    simpa [writeBehind, tokensBehind] using hall

theorem reads_writeFieldsBehind (hl : l.IsBlank) (depth : Nat) :
    ∀ fields : List (List Char × Json), Reads (writeFieldsBehind l depth fields) (fieldTokensBehind fields)
  | [] => Lexes.nil.reads
  | (name, value) :: fields => by
    have hcomma : LexState.between.step? ',' = some (.between, [.comma]) := rfl
    have hname := (Lexes.cons hcomma (lexes_gap (hl.gap depth))).append (lexes_name hl name)
    have hfirst := hname.append_reads (reads_writeAt hl depth value)
    have hall := hfirst.append (reads_writeFieldsBehind hl depth fields) (stops_writeFieldsBehind _ _)
    simpa [writeFieldsBehind, fieldTokensBehind] using hall

end

theorem ofText?_write (hl : l.IsBlank) (v : Json) {gap : List Char} (hgap : ∀ c ∈ gap, isGap c = true) :
    Token.ofText? (v.write l ++ gap) = some (tokens v) := by
  have hread := (reads_writeAt hl 0 v).append (lexes_gap hgap).reads (stops_gap hgap) [] [] stops_nil
  rw [List.append_nil, List.append_nil, List.append_nil] at hread
  rw [Token.ofText?, write, hread, Token.ofTextFrom?]
  simp [LexState.finish?]

end Writing

/-! ## The value of tokens -/

def Takes (s : ReadState) (ts : List Token) (s' : ReadState) : Prop := ts.foldlM ReadState.step? s = some s'

section Taking

variable {s s' s'' : ReadState} {ts ts' : List Token} {t : Token} {around : List Frame}

theorem Takes.append (h : Takes s ts s') (h' : Takes s' ts' s'') : Takes s (ts ++ ts') s'' := by
  rw [Takes, List.foldlM_append, h]
  exact h'

theorem takes_step (h : s.step? t = some s') : Takes s [t] s' := by
  rw [Takes, List.foldlM_cons, h]
  rfl

theorem Takes.cons (h : s.step? t = some s') (h' : Takes s' ts s'') : Takes s (t :: ts) s'' :=
  (takes_step h).append h'

/-- The first token of a value closes no list, so that a first item is read like any other value. -/
theorem takes_firstItem {v : Json} (h : Takes (.value (.list [] :: around)) (tokens v) s) :
    Takes (.firstItem around) (tokens v) s := by
  match v with
  | null | bool _ | number _ | text _ | list [] | list (_ :: _) | object [] | object ((_, _) :: _) => exact h

mutual

/-- The tokens of a value denote it. -/
theorem takes_tokens (around : List Frame) : ∀ v : Json, Takes (.value around) (tokens v) (.behind v around)
  | null => rfl
  | bool _ => rfl
  | number _ => rfl
  | text _ => rfl
  | list [] => rfl
  | list (item :: items) => by
    have hopen : (ReadState.value around).step? .openList = some (.firstItem around) := rfl
    have hitem := Takes.cons hopen (takes_firstItem (takes_tokens (.list [] :: around) item))
    have hitems := hitem.append (takes_tokensBehind around [item] items)
    have hclose : (ReadState.moreItems (items.reverse ++ [item]) around).step? .closeList =
        some (.behind (.list (item :: items)) around) := by simp [ReadState.step?]
    simpa [tokens] using hitems.append (takes_step hclose)
  | object [] => rfl
  | object ((name, value) :: fields) => by
    have hvalue := takes_tokens (.object [] name :: around) value
    have hname : Takes (.value around) [.openObject, .text name, .colon] (.value (.object [] name :: around)) := rfl
    have hfields := (hname.append hvalue).append (takes_fieldTokensBehind around [(name, value)] fields)
    have hclose : (ReadState.moreFields (fields.reverse ++ [(name, value)]) around).step? .closeObject =
        some (.behind (.object ((name, value) :: fields)) around) := by simp [ReadState.step?]
    simpa [tokens] using hfields.append (takes_step hclose)

theorem takes_tokensBehind (around : List Frame) (done : List Json) :
    ∀ items : List Json,
      Takes (.moreItems done around) (tokensBehind items) (.moreItems (items.reverse ++ done) around)
  | [] => rfl
  | item :: items => by
    have hcomma : (ReadState.moreItems done around).step? .comma = some (.value (.list done :: around)) := rfl
    have hitem := Takes.cons hcomma (takes_tokens (.list done :: around) item)
    have hitems := hitem.append (takes_tokensBehind around (item :: done) items)
    simpa [tokensBehind] using hitems

theorem takes_fieldTokensBehind (around : List Frame) (done : List (List Char × Json)) :
    ∀ fields : List (List Char × Json),
      Takes (.moreFields done around) (fieldTokensBehind fields) (.moreFields (fields.reverse ++ done) around)
  | [] => rfl
  | (name, value) :: fields => by
    have hname : Takes (.moreFields done around) [.comma, .text name, .colon]
        (.value (.object done name :: around)) := rfl
    have hvalue := hname.append (takes_tokens (.object done name :: around) value)
    have hfields := hvalue.append (takes_fieldTokensBehind around ((name, value) :: done) fields)
    simpa [fieldTokensBehind] using hfields

end

theorem ofTokens?_tokens (v : Json) : ofTokens? (tokens v) = some v := by
  have htakes : (tokens v).foldlM ReadState.step? (.value []) = some (.done v) := takes_tokens [] v
  rw [ofTokens?, htakes]
  rfl

end Taking

/-- A value that is written in a layout of blanks, with blanks behind it, is read again. -/
theorem read?_write {l : Layout} (hl : l.IsBlank) (v : Json) {gap : List Char}
    (hgap : ∀ c ∈ gap, isGap c = true) : read? (v.write l ++ gap) = some v := by
  rw [read?, ofText?_write hl v hgap]
  exact ofTokens?_tokens v

end TextPattern.Json
