import TaskSpace.Decimal.Double

namespace TaskSpace.Decimal

-- The numbers that round to significand * 2 ^ exponent, in steps of a quarter of the last bit and
-- brought to one denominator with the multiples of 10 ^ power. The multiples of grid are those of
-- 10 ^ power. The ends round to the number itself if its last bit is zero.
structure RoundingInterval where
  value : Nat
  low : Nat
  high : Nat
  grid : Nat
  closed : Bool

namespace RoundingInterval

-- Below a power of two the doubles lie twice as close as above it.
def ofDouble (significand : Nat) (exponent power : Int) : RoundingInterval :=
  let gapBelow := if significand = powerOfTwo 52 ∧ -1074 < exponent then 1 else 2
  let quarters := exponent - 2
  let scale := powerOfTwo quarters.toNat * powerOfTen (-power).toNat
  ⟨4 * significand * scale, (4 * significand - gapBelow) * scale, (4 * significand + 2) * scale,
    powerOfTwo (-quarters).toNat * powerOfTen power.toNat, significand % 2 = 0⟩

def contains (interval : RoundingInterval) (multiple : Nat) : Bool :=
  let point := multiple * interval.grid
  if interval.closed then interval.low ≤ point && point ≤ interval.high
  else interval.low < point && point < interval.high

-- Of the two multiples next to the value the one in the interval, or the nearer of both; one half
-- goes up.
def nearest? (interval : RoundingInterval) : Option Nat :=
  let below := interval.value / interval.grid
  let above := below + 1
  if interval.contains below then
    if interval.contains above &&
        above * interval.grid - interval.value ≤ interval.value - below * interval.grid then
      some above
    else some below
  else if interval.contains above then some above
  else none

end RoundingInterval

-- The power of ten with 10 ^ power ≤ value < 10 ^ (power + 1) for the value num / den.
-- The lengths in bits leave an error of at most one.
def leadingPower (num den : Nat) : Int :=
  let guess := ((num.log2 : Int) - den.log2) * 30103 / 100000
  let atLeast (power : Int) : Bool := den * powerOfTen power.toNat ≤ num * powerOfTen (-power).toNat
  if !atLeast guess then guess - 1 else if atLeast (guess + 1) then guess + 1 else guess

-- The coarsest grid with a multiple in the rounding interval, from the given power downwards.
def coarsest (significand : Nat) (exponent : Int) : Nat → Int → Nat × Int
  | 0, power => (((RoundingInterval.ofDouble significand exponent power).nearest?).getD 0, power)
  | finer + 1, power =>
    match (RoundingInterval.ofDouble significand exponent power).nearest? with
    | some multiple => (multiple, power)
    | none => coarsest significand exponent finer (power - 1)

-- The digits, as one number, and the power of ten of the last of them, of the shortest decimal
-- that reads back as the nonzero double significand * 2 ^ exponent. Seventeen digits suffice.
def shortest (significand : Nat) (exponent : Int) : Nat × Int :=
  coarsest significand exponent 16
    (leadingPower (significand * powerOfTwo exponent.toNat) (powerOfTwo (-exponent).toNat))

end TaskSpace.Decimal
