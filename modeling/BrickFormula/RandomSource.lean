import BrickFormula.Binary64

/-!
# Seeded random numbers

The Mersenne twister with words of 32 bits and a state of 624 of them, started from the words of a
seed.  Two words in a row make a number of 53 bits between zero and one:

    RandomSource.draw seed n    the number with index n in the sequence of a seed
-/

namespace BrickFormula.RandomSource

/-! ## State -/

abbrev State := Array UInt32

/-- The number of words in a state. -/
def size : Nat := 624

def word (state : State) (index : Nat) : UInt32 := state.getD index 0

/-- A word combined with its own highest bits. -/
def mix (x : UInt32) : UInt32 := x ^^^ (x >>> 30)

/-- The state that one word spreads out to. -/
def spread (start : UInt32) : State :=
  (List.range (size - 1)).foldl
    (fun state i => state.push (1812433253 * mix (word state i) + UInt32.ofNat (i + 1))) #[start]

/-- Stores the word at an index from one on; behind the last index the state wraps around. -/
def store (state : State) (index : Nat) (x : UInt32) : State × Nat :=
  let state := state.setIfInBounds index x
  if index + 1 < size then (state, index + 1)
  else (state.setIfInBounds 0 x, 1)

/-- Stirs the words of a key into the state; gives the index to go on with. -/
def stirKey (key : Array UInt32) : (rounds keyIndex : Nat) → State × Nat → State × Nat
  | 0, _, result => result
  | rounds + 1, j, (state, i) =>
    let x := (word state i ^^^ (mix (word state (i - 1)) * 1664525)) + key.getD j 0 +
      UInt32.ofNat j
    stirKey key rounds (if j + 1 < key.size then j + 1 else 0) (store state i x)

/-- Stirs the state by itself. -/
def stir : (rounds : Nat) → State × Nat → State
  | 0, (state, _) => state
  | rounds + 1, (state, i) =>
    let x := (word state i ^^^ (mix (word state (i - 1)) * 1566083941)) - UInt32.ofNat i
    stir rounds (store state i x)

/-- The state of a key. -/
def ofKey (key : Array UInt32) : State :=
  let stirred := stirKey key (max size key.size) 0 (spread 19650218, 1)
  (stir (size - 1) stirred).setIfInBounds 0 0x80000000

/-- The words of a number, the lowest first. -/
def wordsOf : (fuel : Nat) → Nat → List UInt32
  | 0, _ => []
  | fuel + 1, n => if n = 0 then [] else UInt32.ofNat n :: wordsOf fuel (n >>> 32)

/-- The key of a seed, whose sign does not count; zero is one word. -/
def keyOf (seed : Int) : Array UInt32 :=
  if seed = 0 then #[0] else (wordsOf (seed.natAbs.log2 / 32 + 1) seed.natAbs).toArray

/-! ## Output -/

/-- The word that replaces the one at an index. -/
def twisted (state : State) (index : Nat) : UInt32 :=
  let y := (word state index &&& 0x80000000) ||| (word state ((index + 1) % size) &&& 0x7FFFFFFF)
  word state ((index + 397) % size) ^^^ (y >>> 1) ^^^ (if y &&& 1 = 1 then 0x9908B0DF else 0)

/-- The next state. -/
def twist (state : State) : State :=
  (List.range size).foldl (fun state i => state.setIfInBounds i (twisted state i)) state

/-- The output for a word of the state. -/
def temper (x : UInt32) : UInt32 :=
  let x := x ^^^ (x >>> 11)
  let x := x ^^^ ((x <<< 7) &&& 0x9D2C5680)
  let x := x ^^^ ((x <<< 15) &&& 0xEFC60000)
  x ^^^ (x >>> 18)

/-- The state after so many more twists. -/
def after : (twists : Nat) → State → State
  | 0, state => state
  | twists + 1, state => after twists (twist state)

/-- An output of 32 bits, where the first state holds the first outputs. -/
def output (first : State) (index : Nat) : UInt32 :=
  temper (word (after (index / size) first) (index % size))

/-- A number from two outputs in a row: 27 bits of the first, 26 bits of the second. -/
def number (first : State) (index : Nat) : Binary64 :=
  let high := (output first (2 * index) >>> 5).toNat
  let low := (output first (2 * index + 1) >>> 6).toNat
  .ofRatio (high <<< 26 + low : Nat) (1 <<< 53)

/-- The numbers of a seed; the first state is computed once. -/
def draw (seed : Int) : Nat → Binary64 :=
  let first := twist (ofKey (keyOf seed))
  fun index => number first index

end BrickFormula.RandomSource
