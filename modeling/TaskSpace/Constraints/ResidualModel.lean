import TaskSpace.Constraints.Extents
import TaskSpace.Rigid.Pose
import TaskSpace.Rigid.RotationLog

namespace TaskSpace.Constraints

open Rigid

-- What a constraint compares the pose of its link with.
inductive ResidualModel (α : Type)
  | boundedPosition (bounds : Vec3 (Bound α)) (target : Vec3 α) (rotation : Quat α)
  | equalityPosition (mask : Vec3 Bool) (target : Vec3 α) (rotation : Quat α)
  | linearSystemPosition (mask : Vec3 Bool) (start finish : Vec3 α) (rotation : Quat α)
  | orientation (bounds : Vec3 (Bound α)) (rotation : Quat α)

-- The value of the constraint function, and its Jacobian by columns.
structure Residual (α : Type) where
  value : Vec3 α
  jacobian : List (Vec3 α)
deriving BEq

namespace ResidualModel

variable {α : Type}

def kind : ResidualModel α → Kind
  | .boundedPosition .. => .boundedPosition
  | .equalityPosition .. => .equalityPosition
  | .linearSystemPosition .. => .linearSystemPosition
  | .orientation .. => .orientation

def bounds? : ResidualModel α → Option (Vec3 (Bound α))
  | .boundedPosition bounds _ _ | .orientation bounds _ => some bounds
  | _ => none

-- The axes that ask for equality.
def mask? : ResidualModel α → Option (Vec3 Bool)
  | .equalityPosition mask _ _ | .linearSystemPosition mask _ _ _ => some mask
  | _ => none

def targetOrientation : ResidualModel α → Quat α
  | .boundedPosition _ _ rotation => rotation
  | .equalityPosition _ _ rotation => rotation
  | .linearSystemPosition _ _ _ rotation => rotation
  | .orientation _ rotation => rotation

-- For a line this is its start.
def targetPosition? : ResidualModel α → Option (Vec3 α)
  | .boundedPosition _ target _ => some target
  | .equalityPosition _ target _ => some target
  | .linearSystemPosition _ start _ _ => some start
  | .orientation _ _ => none

def line? : ResidualModel α → Option (Vec3 α × Vec3 α)
  | .linearSystemPosition _ start finish _ => some (start, finish)
  | _ => none

-- A row of the line residual belongs to the two other axes.
def lineRowActive (mask : Vec3 Bool) (row : Axis) : Bool :=
  mask.get row.next || mask.get row.next.next

def rowActive (model : ResidualModel α) (row : Axis) : Bool :=
  match model with
  | .boundedPosition .. | .orientation .. => true
  | .equalityPosition mask _ _ => mask.get row
  | .linearSystemPosition mask _ _ _ => lineRowActive mask row

section Evaluation

variable [Scalar α]

-- A vector of the base frame, seen from the target.
def inFrame (rotation : Quat α) (v : Vec3 α) : Vec3 α := rotation.conjugate.rotate v

-- The unit direction of a line, seen from the target.
def lineDirection (start finish : Vec3 α) (rotation : Quat α) : Vec3 α :=
  (inFrame rotation (finish - start)).normalize

-- The turn from the rotation of the link to that of the target.
def remainingTurn (pose : Pose α) (rotation : Quat α) : Quat α :=
  pose.rotation.conjugate * rotation

-- The offset from the target in its frame; for a line its direction crossed with the offset from
-- its start, so that the norm is the distance from the line; for an orientation the exponential
-- coordinates of the remaining turn.
def error (model : ResidualModel α) (pose : Pose α) : Vec3 α :=
  match model with
  | .boundedPosition _ target rotation => inFrame rotation (pose.translation - target)
  | .equalityPosition _ target rotation => inFrame rotation (pose.translation - target)
  | .linearSystemPosition _ start finish rotation =>
    (lineDirection start finish rotation).cross (inFrame rotation (pose.translation - start))
  | .orientation _ rotation => (remainingTurn pose rotation).rotationLog

-- The map from the velocity of the link to the rate of change of the error. An angular velocity
-- turns the remaining turn from the left, in the frame of the link and with the other sign.
def errorOperator (model : ResidualModel α) (pose : Pose α) : Mat3 α :=
  match model with
  | .boundedPosition _ _ rotation => rotation.toMatrix.transpose
  | .equalityPosition _ _ rotation => rotation.toMatrix.transpose
  | .linearSystemPosition _ start finish rotation =>
    Mat3.skew (lineDirection start finish rotation) * rotation.toMatrix.transpose
  | .orientation _ rotation =>
    -((remainingTurn pose rotation).logRate * pose.rotation.toMatrix.transpose)

-- The part of the velocity of the link that moves the error.
def relevantVelocity (model : ResidualModel α) (twist : Twist α) : Vec3 α :=
  if model.kind.isPosition then twist.linear else twist.angular

def errorJacobian (model : ResidualModel α) (pose : Pose α) (jacobian : List (Twist α)) :
    List (Vec3 α) :=
  let operator := model.errorOperator pose
  jacobian.map fun twist => operator.apply (model.relevantVelocity twist)

-- The penalties of the bounds; without bounds the error in the active rows and zero elsewhere.
def residual (model : ResidualModel α) (error : Vec3 α) : Vec3 α :=
  match model.bounds? with
  | some bounds => bounds.zipWith Bound.penalty error
  | none => Vec3.ofAxes fun row => if model.rowActive row then error.get row else 0

-- The factor between a row of the error Jacobian and that of the residual.
def rowFactor (model : ResidualModel α) (error : Vec3 α) (row : Axis) : α :=
  match model.bounds? with
  | some bounds => (bounds.get row).slope (error.get row)
  | none => 1

-- A row that does not count is zero whatever stood in it.
def residualJacobian (model : ResidualModel α) (error : Vec3 α) (errorJacobian : List (Vec3 α)) :
    List (Vec3 α) :=
  let factors := Vec3.ofAxes (model.rowFactor error)
  errorJacobian.map fun column => Vec3.ofAxes fun row =>
    if !model.rowActive row || factors.get row == 0 then 0
    else column.get row * factors.get row

end Evaluation

section Reading

variable [ExtendedScalar α]

def firstPlacement (entry : PositionEntry α) :
    Except (ConfigError α) (Vec3 α × Quat α) :=
  match entry.region.placements with
  | [] => .error (.missingField "constraint_region.primitive_poses")
  | placement :: _ => placement.rotation.map (placement.position, ·)

def reportMask (mask : Vec3 Bool) : Logged α (ConfigError α) Unit := do
  Axis.all.forM fun axis => report (.dimensionConstrained axis (mask.get axis))
  if !mask.any id then report .alwaysSatisfied

def readMask (settings : Settings α) (entry : PositionEntry α) :
    Logged α (ConfigError α) (Vec3 Bool) := do
  let mask ← settings.equalityMask (← entry.boxExtents)
  reportMask mask
  return mask

-- A box around the first placement.
def ofBox (entry : PositionEntry α) : Logged α (ConfigError α) (ResidualModel α) := do
  report (.parsing .boundedPosition)
  let bounds ← entry.bounds
  Axis.all.forM fun axis => report (.positionBound axis (bounds.get axis))
  let (target, rotation) ← firstPlacement entry
  return .boundedPosition bounds target rotation

-- The coordinates of the first placement on the thin axes of the box.
def ofThinBox (settings : Settings α) (entry : PositionEntry α) :
    Logged α (ConfigError α) (ResidualModel α) := do
  report (.parsing .equalityPosition)
  let mask ← readMask settings entry
  let (target, rotation) ← firstPlacement entry
  return .equalityPosition mask target rotation

-- The line from the first placement to the second one, in the orientation of the first.
def ofLine (settings : Settings α) (entry : PositionEntry α) :
    Logged α (ConfigError α) (ResidualModel α) := do
  report (.parsing .linearSystemPosition)
  let mask ← readMask settings entry
  let (start, rotation) ← firstPlacement entry
  match entry.region.placements with
  | _ :: second :: _ =>
    let finish := second.position
    if (finish - start).norm < settings.tolerance then throw .degenerateLine
    return .linearSystemPosition mask start finish rotation
  | _ => throw (.missingField "constraint_region.primitive_poses[1]")

-- Tolerances around an orientation.
def ofOrientation (entry : OrientationEntry α) : Logged α (ConfigError α) (ResidualModel α) := do
  report (.parsing .orientation)
  let bounds ← entry.bounds
  Axis.all.forM fun axis => report (.orientationBound axis (bounds.get axis))
  return .orientation bounds (← entry.rotation)

def firstOf {β : Type} (field : String) (entries : List β) : Except (ConfigError α) β :=
  match entries with
  | [] => .error (.missingField field)
  | entry :: _ => .ok entry

-- The link and the model of the first entry for a kind.
def ofDescription (kind : Kind) (settings : Settings α) (description : Description α) :
    Logged α (ConfigError α) (String × ResidualModel α) := do
  match kind with
  | .boundedPosition =>
    let entry ← firstOf (α := α) "position_constraints" description.positions
    return (entry.link, ← ofBox entry)
  | .equalityPosition =>
    let entry ← firstOf (α := α) "position_constraints" description.positions
    return (entry.link, ← ofThinBox settings entry)
  | .linearSystemPosition =>
    let entry ← firstOf (α := α) "position_constraints" description.positions
    return (entry.link, ← ofLine settings entry)
  | .orientation =>
    let entry ← firstOf (α := α) "orientation_constraints" description.orientations
    return (entry.link, ← ofOrientation entry)

end Reading

-- The kind, and after it the bounds or the mask.
def text (model : ResidualModel Float) : String :=
  let bounds := match model.bounds? with
    | some bounds => s!" [{bounds.x.text}; {bounds.y.text}; {bounds.z.text}]"
    | none => ""
  let mask := match model.mask? with
    | some mask => s!" mask [{mask.x}, {mask.y}, {mask.z}]"
    | none => ""
  model.kind.name ++ bounds ++ mask

end ResidualModel

end TaskSpace.Constraints
