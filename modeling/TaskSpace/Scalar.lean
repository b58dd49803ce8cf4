namespace TaskSpace

-- The numbers in which poses, errors and Jacobians are computed. Only the operations are fixed
-- here, no laws: the same definitions run on doubles and can be read over the real numbers.
class Scalar (α : Type) extends Zero α, One α, Add α, Sub α, Mul α, Div α, Neg α, OfScientific α,
    BEq α, LT α, LE α where
  decidableLT (a b : α) : Decidable (a < b)
  decidableLE (a b : α) : Decidable (a ≤ b)
  sqrt : α → α
  sin : α → α
  cos : α → α
  atan2 : α → α → α
  abs : α → α
  signum : α → α
  pi : α

-- Scalars with an unbounded end and with values that are not numbers.
class ExtendedScalar (α : Type) extends Scalar α where
  infinity : α
  isNaN : α → Bool
  isFinite : α → Bool

namespace Scalar

instance instDecidableLT {α : Type} [Scalar α] (a b : α) : Decidable (a < b) :=
  Scalar.decidableLT a b

instance instDecidableLE {α : Type} [Scalar α] (a b : α) : Decidable (a ≤ b) :=
  Scalar.decidableLE a b

end Scalar

-- The sign of a double is that of its sign bit, also for a zero; what is no number has none.
private def doubleSignum (value : Float) : Float :=
  if value.isNaN then value else if value.toBits >>> 63 == 1 then -1.0 else 1.0

instance : ExtendedScalar Float where
  zero := 0.0
  one := 1.0
  decidableLT a b := inferInstanceAs (Decidable (a < b))
  decidableLE a b := inferInstanceAs (Decidable (a ≤ b))
  sqrt := Float.sqrt
  sin := Float.sin
  cos := Float.cos
  atan2 := Float.atan2
  abs := Float.abs
  signum := doubleSignum
  pi := 3.141592653589793
  infinity := 1.0 / 0.0
  isNaN := Float.isNaN
  isFinite := Float.isFinite

end TaskSpace
