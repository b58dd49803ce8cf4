import TaskSpace.Constraints.ResidualModel

namespace TaskSpace.Constraints

open Rigid Kinematics

-- A model applied to one link of a joint group.
structure Constraint (α σ : Type) where
  group : JointGroup α σ
  settings : Settings α
  link : String
  model : ResidualModel α

namespace Constraint

-- The number of rows of every residual.
def coDimension : Nat := 3

variable {α σ : Type}

def kind (constraint : Constraint α σ) : Kind := constraint.model.kind

def ambientDimension (constraint : Constraint α σ) : Nat := constraint.group.dof

def tolerance (constraint : Constraint α σ) : α := constraint.settings.tolerance

-- Orientation constraints have to be enabled.
def isSupported (constraint : Constraint α σ) : Bool :=
  constraint.kind.isPosition || constraint.settings.orientationSupported

-- The number of joints that the group claims is checked before the group is asked.
def pose (constraint : Constraint α σ) (positions : List α) :
    Query σ (ConstraintError α) (Pose α) := do
  let expected := constraint.group.dof
  if positions.length ≠ expected then throw (.jointDimension expected positions.length)
  ExceptT.adapt .kinematics (constraint.group.linkPose positions constraint.link)

def geometricJacobian (constraint : Constraint α σ) (positions : List α) :
    Query σ (ConstraintError α) (List (Twist α)) :=
  ExceptT.adapt .kinematics (constraint.group.geometricJacobian positions constraint.link)

variable [Scalar α]

-- The task error, before penalties and masks.
def error (constraint : Constraint α σ) (positions : List α) :
    Query σ (ConstraintError α) (Vec3 α) := do
  let pose ← constraint.pose positions
  return constraint.model.error pose

def errorJacobian (constraint : Constraint α σ) (positions : List α) :
    Query σ (ConstraintError α) (List (Vec3 α)) := do
  let pose ← constraint.pose positions
  let jacobian ← constraint.geometricJacobian positions
  return constraint.model.errorJacobian pose jacobian

-- The constraint function: zero where the constraint is met.
def residual (constraint : Constraint α σ) (positions : List α) :
    Query σ (ConstraintError α) (Vec3 α) := do
  let error ← constraint.error positions
  return constraint.model.residual error

-- The constraint function and its Jacobian together.
def evaluate (constraint : Constraint α σ) (positions : List α) :
    Query σ (ConstraintError α) (Residual α) := do
  let pose ← constraint.pose positions
  let jacobian ← constraint.geometricJacobian positions
  let error := constraint.model.error pose
  let errorJacobian := constraint.model.errorJacobian pose jacobian
  return ⟨constraint.model.residual error, constraint.model.residualJacobian error errorJacobian⟩

def jacobian (constraint : Constraint α σ) (positions : List α) :
    Query σ (ConstraintError α) (List (Vec3 α)) := do
  return (← constraint.evaluate positions).jacobian

-- Whether no row of the residual exceeds the tolerance.
def isSatisfied (constraint : Constraint α σ) (positions : List α) :
    Query σ (ConstraintError α) Bool := do
  let residual ← constraint.residual positions
  return residual.maxAbs ≤ constraint.settings.tolerance

end Constraint

end TaskSpace.Constraints
