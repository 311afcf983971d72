import TextPattern.Expr.Basic

/-!
# Programs

* `Inst` : an instruction; every instruction names the addresses that follow it;
* `Expr.size`, `Expr.code` : the instructions of an expression for a given start and exit address;
* `Program`, `Expr.program` : the program that matches an expression;
* `Program.slotless` : the program that matches the same texts and keeps no places.

The code of an expression starts at its start address, is `Expr.size` long, and leaves to its exit
address. Instructions are laid out in order, so that the code of a part is a segment of the whole.
-/

namespace TextPattern

inductive Inst where
  /-- Reads a character of the set. -/
  | take (set : CharSet) (next : Nat)
  /-- Goes on where the condition holds. -/
  | test (cond : Look) (next : Nat)
  /-- Goes on at the first address, or else at the second. -/
  | split (fst snd : Nat)
  /-- Goes on at the address. -/
  | jump (next : Nat)
  /-- Keeps the place in the slot. -/
  | save (slot : Nat) (next : Nat)
  /-- The whole expression is matched. -/
  | accept
deriving Repr

namespace Inst

/-- The choice between going into a repeated part and leaving it. -/
def choice (greedy : Bool) (inside outside : Nat) : Inst :=
  if greedy then split inside outside else split outside inside

end Inst

/-- The code of `n` copies of a part that follow each other: `code` is the code of the part, `size` its
length, `start` the address of the first copy and `exit` the address behind the last. -/
def copies (code : Nat → Nat → List Inst) (size : Nat) : (n start exit : Nat) → List Inst
  | 0, _, _ => []
  | n + 1, start, exit =>
    code start (if n = 0 then exit else start + size) ++ copies code size n (start + size) exit

/-- The code of up to `n` copies of a part, each of which needs the ones before it. -/
def optionalCopies (code : Nat → Nat → List Inst) (size : Nat) (greedy : Bool) :
    (n start exit : Nat) → List Inst
  | 0, _, _ => []
  | n + 1, start, exit =>
    let next := start + 1 + size
    .choice greedy (start + 1) exit ::
      (code (start + 1) (if n = 0 then exit else next) ++
        optionalCopies code size greedy n next exit)

namespace Expr

/-- The number of instructions of an expression. -/
def size : Expr → Nat
  | empty => 1
  | chars _ => 1
  | look _ => 1
  | cat a b => a.size + b.size
  | alt a b => a.size + b.size + 1
  | rep e count _ =>
    match count.min, count.max with
    | 0, none => if e.nullable then e.size + 2 else e.size + 1
    | min, none => min * e.size + 1
    | min, some max =>
      if max = 0 then 1 else min * e.size + (max - min) * (e.size + 1)
  | group _ e => e.size + 2

/-- The instructions of an expression that start at `start` and leave to `exit`.

A part that is repeated without bound is one loop. If it can match the empty text, the way into the
loop is apart from the choice to repeat it, so that the first round may be empty and a later one may
not. -/
def code : Expr → (start exit : Nat) → List Inst
  | empty, _, exit => [.jump exit]
  | chars s, _, exit => [.take s exit]
  | look l, _, exit => [.test l exit]
  | cat a b, start, exit => a.code start (start + a.size) ++ b.code (start + a.size) exit
  | alt a b, start, exit =>
    .split (start + 1) (start + 1 + a.size) ::
      (a.code (start + 1) exit ++ b.code (start + 1 + a.size) exit)
  | rep e count greedy, start, exit =>
    match count.min, count.max with
    | 0, none =>
      if e.nullable then
        .choice greedy (start + 2) exit :: .choice greedy (start + 2) exit ::
          e.code (start + 2) (start + 1)
      else .choice greedy (start + 1) exit :: e.code (start + 1) start
    | min + 1, none =>
      let last := start + min * e.size
      let again := last + e.size
      copies e.code e.size min start last ++ e.code last again ++ [.choice greedy last exit]
    | min, some max =>
      if max = 0 then [.jump exit]
      else
        let optional := start + min * e.size
        copies e.code e.size min start (if max ≤ min then exit else optional) ++
          optionalCopies e.code e.size greedy (max - min) optional exit
  | group i e, start, exit =>
    .save (2 * i) (start + 1) ::
      (e.code (start + 1) (start + 1 + e.size) ++ [.save (2 * i + 1) exit])

end Expr

/-- A program is run from address 0. -/
structure Program where
  code : Array Inst
  /-- The number of capture slots, the whole match among them. -/
  slots : Nat
deriving Repr

def Expr.program (e : Expr) : Program := ⟨(e.code 0 e.size ++ [Inst.accept]).toArray, e.slots⟩

/-- The instruction that goes the same ways and keeps no place. -/
def Inst.slotless : Inst → Inst
  | save _ next => jump next
  | i => i

/-- The program without places to keep: its only slot is the whole match, whose ends are known without. -/
def Program.slotless (p : Program) : Program := ⟨(p.code.toList.map Inst.slotless).toArray, 1⟩

end TextPattern
