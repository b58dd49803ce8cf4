namespace TaskSpace.Sampling

-- The words of a block of the stream cipher, row by row.
abbrev Block := Vector UInt32 16

private def rotateLeft (word : UInt32) (count : UInt32) : UInt32 :=
  word <<< count ||| word >>> (32 - count)

private def rotateRight (word : UInt32) (count : UInt32) : UInt32 :=
  word >>> count ||| word <<< (32 - count)

-- Mixes the words at four places.
private def quarterRound (block : Block) (i j k l : Fin 16) : Block :=
  let a := block[i] + block[j]
  let d := rotateLeft (block[l] ^^^ a) 16
  let c := block[k] + d
  let b := rotateLeft (block[j] ^^^ c) 12
  let a := a + b
  let d := rotateLeft (d ^^^ a) 8
  let c := c + d
  let b := rotateLeft (b ^^^ c) 7
  (((block.set i a).set j b).set k c).set l d

-- A round down the columns and one along the diagonals.
private def doubleRound (block : Block) : Block :=
  let columns := [(0, 4, 8, 12), (1, 5, 9, 13), (2, 6, 10, 14), (3, 7, 11, 15)]
  let diagonals := [(0, 5, 10, 15), (1, 6, 11, 12), (2, 7, 8, 13), (3, 4, 9, 14)]
  (columns ++ diagonals).foldl (fun block (i, j, k, l) => quarterRound block i j k l) block

-- The block of the key stream with a number, in eight rounds.
def keyStream (key : Vector UInt32 8) (number : UInt64) : Block :=
  let constants : Vector UInt32 4 := #v[0x61707865, 0x3320646e, 0x79622d32, 0x6b206574]
  let position : Vector UInt32 4 := #v[number.toUInt32, (number >>> 32).toUInt32, 0, 0]
  let start : Block := constants ++ key ++ position
  let mixed := doubleRound (doubleRound (doubleRound (doubleRound start)))
  mixed.zipWith (· + ·) start

-- A random source: a key, and how many numbers of 64 bits have been drawn.
structure Generator where
  key : Vector UInt32 8
  drawn : Nat
deriving DecidableEq

namespace Generator

-- One step of a linear congruential sequence, and the permuted word that it gives out.
private def seedStep (state : UInt64) : UInt32 × UInt64 :=
  let state := state * 6364136223846793005 + 11634580027462260723
  (rotateRight (((state >>> 18) ^^^ state) >>> 27).toUInt32 (state >>> 59).toUInt32, state)

private def seedWords : Nat → UInt64 → List UInt32
  | 0, _ => []
  | count + 1, state =>
    let (word, state) := seedStep state
    word :: seedWords count state

private theorem length_seedWords (count : Nat) (state : UInt64) :
    (seedWords count state).length = count := by
  induction count generalizing state with
  | zero => rfl
  | succ count ih => simp [seedWords, ih]

-- The key is spread out from a seed.
def ofSeed (seed : UInt64) : Generator :=
  ⟨⟨(seedWords 8 seed).toArray, by simp [length_seedWords]⟩, 0⟩

-- Every block holds eight numbers of two words, the low word first.
def next (generator : Generator) : UInt64 × Generator :=
  let block := keyStream generator.key (UInt64.ofNat (generator.drawn / 8))
  let place := generator.drawn % 8
  let low := block.get ⟨2 * place, by omega⟩
  let high := block.get ⟨2 * place + 1, by omega⟩
  (high.toUInt64 <<< 32 ||| low.toUInt64, { generator with drawn := generator.drawn + 1 })

end Generator

end TaskSpace.Sampling
