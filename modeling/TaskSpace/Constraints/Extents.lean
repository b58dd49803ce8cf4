import TaskSpace.Constraints.Event
import TaskSpace.Constraints.Settings

namespace TaskSpace.Constraints

open Rigid

variable {α : Type}

-- Extents and tolerances of -1 leave their axis free.
def isFree [Scalar α] (value : α) : Bool := value == -1

variable [ExtendedScalar α]

-- The extent or tolerance of an axis, without end where the axis is free.
def orInfinite (value : α) : α := if isFree value then ExtendedScalar.infinity else value

-- The rotation of an orientation that has a direction.
def unitRotation (orientation : Quat α) : Except (ConfigError α) (Quat α) :=
  if !ExtendedScalar.isFinite orientation.norm || orientation.norm < 1e-12 then
    .error (.invalidValue "orientation" (.noDirection orientation))
  else .ok orientation.normalize

def Placement.rotation (placement : Placement α) : Except (ConfigError α) (Quat α) :=
  unitRotation placement.orientation

def OrientationEntry.rotation (entry : OrientationEntry α) : Except (ConfigError α) (Quat α) :=
  unitRotation entry.orientation

-- The full extents of the first primitive, which has to be a box.
def PositionEntry.boxExtents (entry : PositionEntry α) : Logged α (ConfigError α) (Vec3 α) := do
  match entry.region.primitives with
  | [] => throw (.missingField "constraint_region.primitives")
  | primitive :: others =>
    if !others.isEmpty then report (.extraPrimitives (others.length + 1))
    if primitive.shape ≠ .box then
      throw (.invalidValue "constraint_region.primitives" (.notABox primitive.shape))
    match primitive.dimensions with
    | x :: y :: z :: _ => return ⟨x, y, z⟩
    | few =>
      throw (.invalidValue "constraint_region.primitives.dimensions" (.tooFewDimensions few.length))

def PositionEntry.bounds (entry : PositionEntry α) : Logged α (ConfigError α) (Vec3 (Bound α)) := do
  let extents := (← entry.boxExtents).map orInfinite
  Vec3.ofAxesM fun axis => Bound.make (-(extents.get axis) / 2.0) (extents.get axis / 2.0)

def OrientationEntry.bounds (entry : OrientationEntry α) :
    Except (ConfigError α) (Vec3 (Bound α)) :=
  Vec3.ofAxesM fun axis => Bound.symmetric (orInfinite (entry.tolerances.get axis))

-- Whether an extent asks for equality on its axis. One below the tolerance could never be met.
def Settings.asksEquality (settings : Settings α) (axis : Axis) (extent : α) :
    Except (ConfigError α) Bool :=
  if isFree extent then .ok false
  else if ExtendedScalar.isNaN extent || extent < 0 then
    .error (.invalidValue "constraint_region.primitives.dimensions" (.badExtent axis.index extent))
  else if extent < settings.equalityThreshold then
    if extent < settings.tolerance then
      .error (.dimensionBelowTolerance axis.index extent settings.tolerance settings.equalityThreshold)
    else .ok true
  else .ok false

-- The axes on which a box asks for equality.
def Settings.equalityMask (settings : Settings α) (extents : Vec3 α) :
    Except (ConfigError α) (Vec3 Bool) :=
  Vec3.ofAxesM fun axis => settings.asksEquality axis (extents.get axis)

end TaskSpace.Constraints
