import TaskSpace.Constraints.Error

namespace TaskSpace.Constraints

-- The numbers that every constraint is built with. A residual within the tolerance counts as zero,
-- extents below the equality threshold ask for equality, and the tolerance of a later validity check,
-- where it is known, is the smallest of the three.
structure Settings (α : Type) where
  tolerance : α
  equalityThreshold : α
  checkerTolerance : Option α
  orientationSupported : Bool
deriving BEq, DecidableEq

namespace Settings

variable {α : Type}

def standard [Scalar α] : Settings α := ⟨1e-4, 0.001, none, false⟩

variable [ExtendedScalar α]

def isPositive (value : α) : Bool := ExtendedScalar.isFinite value && (0 : α) < value

def isNonNegative (value : α) : Bool := ExtendedScalar.isFinite value && (0 : α) ≤ value

-- The first fault, in the order of the fields.
def validate (settings : Settings α) : Except (ConfigError α) Unit := do
  if !isPositive settings.tolerance then
    throw (.invalidValue "tolerance" (.notPositive settings.tolerance))
  if !isPositive settings.equalityThreshold then
    throw (.invalidValue "equality_threshold" (.notPositive settings.equalityThreshold))
  if settings.equalityThreshold ≤ settings.tolerance then
    throw (.thresholdOrdering (.equalityThreshold settings.equalityThreshold settings.tolerance))
  match settings.checkerTolerance with
  | none => pure ()
  | some checker =>
    if !isNonNegative checker then
      throw (.invalidValue "checker_tolerance" (.notNonNegative checker))
    if settings.tolerance ≤ checker then
      throw (.thresholdOrdering (.checkerTolerance settings.tolerance checker))

end Settings

end TaskSpace.Constraints
