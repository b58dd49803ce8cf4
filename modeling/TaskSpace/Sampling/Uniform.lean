import TaskSpace.Sampling.ChaCha

namespace TaskSpace.Sampling.Generator

-- A double from zero to below one, in steps of 2 ^ -53.
def unit (generator : Generator) : Float × Generator :=
  let (bits, generator) := generator.next
  ((bits >>> 11).toFloat / 9007199254740992.0, generator)

-- A double from zero to below one, in steps of 2 ^ -52.
def coarseUnit (generator : Generator) : Float × Generator :=
  let (bits, generator) := generator.next
  (Float.ofBits (bits >>> 12 ||| 0x3ff0000000000000) - 1.0, generator)

-- Draws again while rounding leads to the upper end, which happens at most every second time. After
-- all those tries the lower end is taken.
def below (lower upper : Float) : Nat → Generator → Float × Generator
  | 0, generator => (lower, generator)
  | tries + 1, generator =>
    let (share, generator) := generator.coarseUnit
    let value := share * (upper - lower) + lower
    if value < upper then (value, generator) else below lower upper tries generator

-- A double from the lower to below the upper end, if there are such and the width is finite.
def between? (lower upper : Float) : StateT Generator Option Float :=
  fun generator =>
    if lower < upper ∧ (upper - lower).isFinite then some (below lower upper 1024 generator) else none

end TaskSpace.Sampling.Generator
