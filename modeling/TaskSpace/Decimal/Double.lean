namespace TaskSpace.Decimal

def powerOfTwo (exponent : Nat) : Nat := Nat.pow 2 exponent

def powerOfTen (exponent : Nat) : Nat := Nat.pow 10 exponent

-- What the bits of a double stand for. A finite one is significand * 2 ^ exponent, up to its sign.
inductive Double
  | nan
  | infinite (negative : Bool)
  | finite (negative : Bool) (significand : Nat) (exponent : Int)
deriving DecidableEq

namespace Double

-- A biased exponent of zero has no hidden bit, and the same scale as one.
def ofBits (bits : Nat) : Double :=
  let negative := bits / powerOfTwo 63 % 2 == 1
  let biased : Nat := bits / powerOfTwo 52 % powerOfTwo 11
  let fraction : Nat := bits % powerOfTwo 52
  if biased = 2047 then
    if fraction = 0 then .infinite negative else .nan
  else if biased = 0 then .finite negative fraction (-1074)
  else .finite negative (powerOfTwo 52 + fraction) (biased - 1075)

def ofFloat (value : Float) : Double := ofBits value.toBits.toNat

end Double

private def length (number : Nat) : Int := (Nat.toDigits 10 number).length

-- The double nearest to digits * 10 ^ power. Far outside the range of the doubles the answer is known
-- without the power of ten.
def nearest (digits : Nat) (power : Int) : Float :=
  if digits = 0 || length digits + power < -330 then 0.0
  else if 310 < length digits + power then 1.0 / 0.0
  else Float.ofScientific digits (power < 0) power.natAbs

end TaskSpace.Decimal
