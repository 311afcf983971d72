import TextPattern.Random.Source

/-!
# A source of words from a seed

The words are the key stream of ChaCha with twelve rounds under a key that is expanded from the seed.

* `Block` : sixteen words, `Block.scramble` : the rounds, `keyBlock` : the block of a counter;
* `seedKey` : the key of a seed;
* `KeyStream` : the source.
-/

namespace TextPattern.Random

abbrev Block := Vector UInt32 16

def rotateLeft (w n : UInt32) : UInt32 := (w <<< n) ||| (w >>> (32 - n))

namespace Block

def quarterRound (s : Block) (i j k l : Fin 16) : Block :=
  let a := s[i] + s[j]
  let d := rotateLeft (s[l] ^^^ a) 16
  let c := s[k] + d
  let b := rotateLeft (s[j] ^^^ c) 12
  let a := a + b
  let d := rotateLeft (d ^^^ a) 8
  let c := c + d
  let b := rotateLeft (b ^^^ c) 7
  (((s.set i a).set j b).set k c).set l d

/-- Mixes the columns of a block, then its diagonals. -/
def doubleRound (s : Block) : Block :=
  let s := quarterRound s 0 4 8 12
  let s := quarterRound s 1 5 9 13
  let s := quarterRound s 2 6 10 14
  let s := quarterRound s 3 7 11 15
  let s := quarterRound s 0 5 10 15
  let s := quarterRound s 1 6 11 12
  let s := quarterRound s 2 7 8 13
  quarterRound s 3 4 9 14

def scramble : Nat → Block → Block
  | 0, s => s
  | n + 1, s => scramble n (doubleRound s)

def add (s t : Block) : Block := s.zipWith (· + ·) t

end Block

abbrev Key := Vector UInt32 8

/-- The block that is scrambled for a counter: four constants, the key, the counter and no nonce. -/
def initialBlock (key : Key) (counter : UInt64) : Block := #v[
  0x61707865, 0x3320646E, 0x79622D32, 0x6B206574,
  key[0], key[1], key[2], key[3], key[4], key[5], key[6], key[7],
  counter.toUInt32, (counter >>> 32).toUInt32, 0, 0]

def keyBlock (key : Key) (counter : UInt64) : Block :=
  let start := initialBlock key counter
  (Block.scramble 6 start).add start

def seedStep (state : UInt64) : UInt64 := state * 6364136223846793005 + 11634580027462260723

def seedWord (state : UInt64) : UInt32 :=
  let mixed := (((state >>> 18) ^^^ state) >>> 27).toUInt32
  let turn := (state >>> 59).toUInt32
  (mixed >>> turn) ||| (mixed <<< ((32 - turn) % 32))

def seedKey (seed : UInt64) : Key :=
  Vector.ofFn fun i : Fin 8 => seedWord (Nat.repeat seedStep (i + 1) seed)

/-- A source of the words of a key stream: what is left of the current block, and the counter of the
next one. -/
structure KeyStream where
  key : Key
  counter : UInt64
  pending : List UInt32

namespace KeyStream

def ofSeed (seed : UInt64) : KeyStream := ⟨seedKey seed, 0, []⟩

def next (s : KeyStream) : UInt32 × KeyStream :=
  match s.pending with
  | w :: rest => (w, { s with pending := rest })
  | [] =>
    let block := keyBlock s.key s.counter
    (block[0], { s with counter := s.counter + 1, pending := block.toList.drop 1 })

instance : Source KeyStream := ⟨next⟩

end KeyStream

end TextPattern.Random
