import TextPattern.Expr.Basic

/-!
# The cost of an expression

* `CharSet.sequences` : the sequences of byte ranges that the characters of a set are written with;
* `ByteTrie` : sequences of byte ranges that share their starts;
* `CharSet.stateSize`, `wordsSize` : the bytes of the states for a set of characters and for fixed words;
* `Expr.stateSize` : the bytes of the states for an expression;
* `Expr.cost` : the bytes of an automaton for an expression, forwards or backwards, whichever is larger;
* `costLimit` : the greatest cost of a pattern that is accepted.

An automaton reads bytes. A state takes 32 of them, each of its ways out 4 where they are tried in turn,
and 8 where they are told apart by a byte. A counted repetition costs as much as its copies, which are
only made once the cost is known.

States for the ends of characters are shared wherever they are equal. A builder that looks for equal
states among the latest only may find less of them, and so refuse what is accepted here; one that looks
for fixed words without an automaton accepts more.
-/

namespace TextPattern

/-! ## Sequences of bytes -/

/-- A range of bytes, both ends included. -/
structure ByteRange where
  lo : Nat
  hi : Nat
deriving DecidableEq, Repr

/-- The sequences for the code points from `lo` to `hi`, which have `tail` bytes behind the first; to that
`mark` is added. -/
def byteSequences : (tail mark lo hi : Nat) → List (List ByteRange)
  | 0, mark, lo, hi => [[⟨mark + lo, mark + hi⟩]]
  | tail + 1, mark, lo, hi =>
    let span := Nat.pow 64 (tail + 1)
    let behind := fun first lo hi =>
      (byteSequences tail 0x80 lo hi).map (⟨mark + first, mark + first⟩ :: ·)
    if lo / span = hi / span then behind (lo / span) (lo % span) (hi % span)
    else
      -- In between there are first bytes behind which every other may stand.
      let first := if lo % span = 0 then lo / span else lo / span + 1
      let last := if hi % span = span - 1 then hi / span + 1 else hi / span
      (if lo % span = 0 then [] else behind (lo / span) (lo % span) (span - 1)) ++
        (if first < last then
          [⟨mark + first, mark + (last - 1)⟩ :: List.replicate (tail + 1) ⟨0x80, 0xBF⟩] else []) ++
        (if hi % span = span - 1 then [] else behind (hi / span) 0 (hi % span))

/-- The sequences for a closed range, which is cut where the encoded length changes and where there are
no characters. -/
def rangeSequences (r : Nat × Nat) : List (List ByteRange) :=
  let part := fun tail mark lo hi =>
    if max lo r.1 ≤ min hi r.2 then byteSequences tail mark (max lo r.1) (min hi r.2) else []
  part 0 0 0 0x7F ++ part 1 0xC0 0x80 0x7FF ++ part 2 0xE0 0x800 0xD7FF ++ part 2 0xE0 0xE000 0xFFFF ++
    part 3 0xF0 0x10000 0x10FFFF

def CharSet.sequences (s : CharSet) : List (List ByteRange) := s.ranges.flatMap rangeSequences

/-! ## Shared starts -/

/-- Sequences that share their starts. The ways out of a node that were added behind the end of a
sequence are in front of it. -/
inductive ByteTrie where
  | nil
  /-- A sequence ends at the node. -/
  | found (others : ByteTrie)
  /-- A range leads from the node to the one below. -/
  | arc (range : ByteRange) (below others : ByteTrie)
deriving DecidableEq, Repr

namespace ByteTrie

def isLeaf : ByteTrie → Bool
  | nil => true
  | found others => others.isLeaf
  | arc .. => false

def ofSequence : List ByteRange → ByteTrie
  | [] => found nil
  | r :: rs => arc r (ofSequence rs) nil

/-- One more sequence. A way out is only shared if no sequence has ended since it was added. -/
def add : ByteTrie → List ByteRange → ByteTrie
  | nil, rs => ofSequence rs
  | found others, [] => if others.isLeaf then found others else found (found others)
  | found others, r :: rs => arc r (ofSequence rs) (found others)
  | arc range below others, [] => found (arc range below others)
  | arc range below others, r :: rs =>
    if r = range then arc range (below.add rs) others else arc range below (others.add (r :: rs))

def ofSequences (sequences : List (List ByteRange)) : ByteTrie := sequences.foldl add nil

def arcs : ByteTrie → Nat
  | nil => 0
  | found others => others.arcs
  | arc _ below others => below.arcs + others.arcs + 1

/-- The number of ranges that lead from the node. -/
def width : ByteTrie → Nat
  | nil => 0
  | found others => others.width
  | arc _ _ others => others.width + 1

/-- The same, counted between the ends of sequences. -/
def widths : ByteTrie → List Nat
  | nil => [0]
  | found others => 0 :: others.widths
  | arc _ _ others =>
    match others.widths with
    | n :: ns => (n + 1) :: ns
    | [] => [1]

/-- The different nodes below that are no leaves, besides those in `seen`. -/
def nodesBelow : ByteTrie → (seen : List ByteTrie) → List ByteTrie
  | nil, seen => seen
  | found others, seen => others.nodesBelow seen
  | arc _ below others, seen =>
    others.nodesBelow (if below.isLeaf || seen.contains below then seen else below :: below.nodesBelow seen)

/-- The bytes of the states for characters, equal ones being shared. -/
def sharedSize (t : ByteTrie) : Nat :=
  (t :: t.nodesBelow []).foldl (fun size node => size + 32 + 8 * node.width) 32

/-- The bytes of the states for a node of words, which are tried in the order they were added. -/
def nodeSize (t : ByteTrie) : Nat :=
  let taken := t.widths.filter (0 < ·)
  taken.foldl (fun size n => size + if n = 1 then 32 else 32 + 8 * n) (32 + 4 * (t.widths.length - 1 + taken.length))

def belowSize : ByteTrie → Nat
  | nil => 0
  | found others => others.belowSize
  | arc _ below others =>
    (if below.isLeaf then 0 else below.nodeSize + below.belowSize) + others.belowSize

end ByteTrie

/-- The bytes of the states for words of which the first that matches is preferred. -/
def wordsSize (backwards : Bool) (words : List (List ByteRange)) : Nat :=
  let t := ByteTrie.ofSequences (if backwards then words.map List.reverse else words)
  32 + t.nodeSize + t.belowSize

/-- The bytes of the states for a set. Backwards the last bytes of characters come first, so that only
their ends are shared. -/
def CharSet.stateSize (backwards : Bool) (s : CharSet) : Nat :=
  if s.isAscii then 64 + 8 * s.ranges.length
  else
    let t := ByteTrie.ofSequences s.sequences
    if backwards then 64 + 4 * s.sequences.length + 32 * t.arcs else t.sharedSize

/-! ## Expressions -/

namespace Expr

/-- The bytes of an expression of fixed characters. -/
def bytes? : Expr → Option (List ByteRange)
  | chars s => if (chars s).isLiteral then some s.sequences.flatten else none
  | cat a b => do return (← a.bytes?) ++ (← b.bytes?)
  | _ => none

/-- The bytes of the branches of an alternation of fixed words. -/
def words? : Expr → Option (List (List ByteRange))
  | alt a b => do return (← a.bytes?) :: (← b.words?)
  | e => do return [← e.bytes?]

def copiesSize (n size : Nat) : Nat := if n = 0 then 32 else n * size

/-- The bytes of a repetition of states. -/
def repetitionSize (count : Count) (nullable : Bool) (size : Nat) : Nat :=
  match count.min, count.max with
  | 0, some 1 => size + 72
  | 0, none => if nullable then size + 112 else size + 40
  | min, none => min * size + 40
  | min, some max =>
    if min = max then copiesSize min size else copiesSize min size + 32 + (max - min) * (size + 40)

/-- The bytes of the states for an expression. A branch that is `shared` belongs to the alternation in
front of it. -/
def stateSize (backwards : Bool) : (shared : Bool) → Expr → Nat
  | _, empty => 32
  | _, chars s => if (chars s).isLiteral then 32 * s.sequences.flatten.length else s.stateSize backwards
  | _, look _ => 32
  | _, cat a b => a.stateSize backwards false + b.stateSize backwards false
  | shared, alt a b =>
    let branches := a.stateSize backwards false + b.stateSize backwards true
    if shared then branches + 4
    else (((alt a b).words?).map (wordsSize backwards)).getD (branches + 72)
  | _, rep e count _ => repetitionSize count e.nullable (e.stateSize backwards false)
  | _, group _ e => e.stateSize backwards false + if backwards then 0 else 64

/-- Matches only begin at the start of the text, or backwards at its end. -/
def isAnchored (backwards : Bool) : Expr → Bool
  | look cond => cond = if backwards then .textEnd else .textStart
  | cat a b =>
    if backwards then b.isAnchored backwards || (b.zeroWidth && a.isAnchored backwards)
    else a.isAnchored backwards || (a.zeroWidth && b.isAnchored backwards)
  | alt a b => a.isAnchored backwards && b.isAnchored backwards
  | rep e count _ => 0 < count.min && e.isAnchored backwards
  | group _ e => e.isAnchored backwards
  | _ => false

/-- The bytes of an automaton, which passes over what is in front of a match unless that is anchored. The
whole match is only kept forwards. -/
def automatonSize (backwards : Bool) (e : Expr) : Nat :=
  (if e.isAnchored backwards then 32 else 112) + e.stateSize backwards false + if backwards then 32 else 96

def cost (e : Expr) : Nat := max (e.automatonSize false) (e.automatonSize true)

end Expr

def costLimit : Nat := 10 * 0x100000

end TextPattern
