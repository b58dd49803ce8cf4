import Mathlib
import TaskSpace.Constraints.Creation
import TaskSpace.Proofs.Kinematics.Memory

namespace TaskSpace.Constraints

open Rigid Kinematics

-- A joint group whose answers are those of a chain, whatever it claims about itself.
structure AnswersAs {α : Type} [Scalar α] (chain : Chain α) (group : JointGroup α (Scratchpad α)) :
    Prop where
  linkPose : group.linkPose = chain.linkPose
  geometricJacobian : group.geometricJacobian = chain.geometricJacobian

theorem AnswersAs.of_eq {α : Type} [Scalar α] {chain : Chain α}
    {group : JointGroup α (Scratchpad α)} (h : group = chain.jointGroup) : AnswersAs chain group := by
  rw [h]
  exact ⟨rfl, rfl⟩

-- The ways to evaluate a constraint at a joint vector.
inductive Method
  | error
  | errorJacobian
  | residual
  | jacobian
  | evaluate
  | isSatisfied

-- What the questions about a link and the evaluations of a constraint give.
inductive Reply (α : Type)
  | pose (value : Pose α)
  | twists (value : List (Twist α))
  | vector (value : Vec3 α)
  | columns (value : List (Vec3 α))
  | residual (value : Residual α)
  | verdict (value : Bool)

namespace Constraint

variable {α σ : Type} [Scalar α]

def ask (constraint : Constraint α σ) (positions : List α) :
    Method → Query σ (ConstraintError α) (Reply α)
  | .error => do return .vector (← constraint.error positions)
  | .errorJacobian => do return .columns (← constraint.errorJacobian positions)
  | .residual => do return .vector (← constraint.residual positions)
  | .jacobian => do return .columns (← constraint.jacobian positions)
  | .evaluate => do return .residual (← constraint.evaluate positions)
  | .isSatisfied => do return .verdict (← constraint.isSatisfied positions)

-- The residual and its Jacobian from the motion of the link.
def evaluation (constraint : Constraint α σ) (pose : Pose α) (twists : List (Twist α)) : Residual α :=
  let error := constraint.model.error pose
  ⟨constraint.model.residual error,
    constraint.model.residualJacobian error (constraint.model.errorJacobian pose twists)⟩

-- What an evaluation makes of the pose and the geometric Jacobian of the link.
def reply (constraint : Constraint α σ) (pose : Pose α) (twists : List (Twist α)) : Method → Reply α
  | .error => .vector (constraint.model.error pose)
  | .errorJacobian => .columns (constraint.model.errorJacobian pose twists)
  | .residual => .vector (constraint.evaluation pose twists).value
  | .jacobian => .columns (constraint.evaluation pose twists).jacobian
  | .evaluate => .residual (constraint.evaluation pose twists)
  | .isSatisfied =>
    .verdict ((constraint.evaluation pose twists).value.maxAbs ≤ constraint.settings.tolerance)

-- What is checked before a scratchpad is looked at: the number of joints that the group claims, then
-- the number that the chain has, then the link.
def resolve (constraint : Constraint α σ) (chain : Chain α) (positions : List α) :
    Except (ConstraintError α) LinkIndex :=
  if positions.length ≠ constraint.group.dof then
    .error (.jointDimension constraint.group.dof positions.length)
  else (chain.resolve positions constraint.link).mapError .kinematics

section Readings

variable {chain : Chain α} {constraint : Constraint α (Scratchpad α)}

omit [Scalar α] in
theorem resolve_ok (positions : List α) {place : LinkIndex}
    (h : constraint.resolve chain positions = .ok place) :
    chain.resolve positions constraint.link = .ok place := by
  unfold resolve at h
  split at h
  · cases h
  · cases hchain : chain.resolve positions constraint.link with
    | error error => rw [hchain] at h; cases h
    | ok other => rw [hchain] at h; cases h; rfl

omit [Scalar α] in
theorem resolve_eq_ok {positions : List α} {place : LinkIndex}
    (hclaimed : positions.length = constraint.group.dof) (hlength : positions.length = chain.dof)
    (hlink : chain.linkIndex? constraint.link = some place) :
    constraint.resolve chain positions = .ok place := by
  rw [resolve, if_neg (not_not.mpr hclaimed), Chain.resolve_eq_ok hlength hlink]
  rfl

theorem readsAt_pose (hgroup : AnswersAs chain constraint.group) (positions : List α) :
    Query.ReadsAt chain positions (constraint.pose positions)
      ((constraint.resolve chain positions).map fun place pad => pad.linkPose place) := by
  unfold pose resolve
  by_cases hlength : positions.length ≠ constraint.group.dof
  · intro pad
    simp only [if_pos hlength]
    rfl
  · have hpose := (chain.readsAt_linkPose positions constraint.link).adapt
      (ConstraintError.kinematics (α := α))
    rw [hgroup.linkPose]
    intro pad
    simp only [if_neg hlength]
    refine (hpose pad).trans ?_
    cases chain.resolve positions constraint.link <;> rfl

-- Every evaluation reads one state of the scratchpad: both questions that some of them ask of the
-- group are answered from the same frames.
theorem readsAt_poseAndJacobian {β : Type} (hgroup : AnswersAs chain constraint.group)
    (positions : List α) (f : Pose α → List (Twist α) → β) :
    Query.ReadsAt chain positions
      (do
        let pose ← constraint.pose positions
        let twists ← constraint.geometricJacobian positions
        return f pose twists)
      ((constraint.resolve chain positions).map fun place pad =>
        f (pad.linkPose place) (pad.jacobian chain.joints place)) := by
  have hjacobian := (chain.readsAt_geometricJacobian positions constraint.link).adapt
    (ConstraintError.kinematics (α := α))
  rw [← hgroup.geometricJacobian] at hjacobian
  have hboth := (readsAt_pose hgroup positions).both hjacobian (fun read hread => by
    cases hresolve : constraint.resolve chain positions with
    | error error => rw [hresolve] at hread; cases hread
    | ok place =>
        rw [resolve_ok positions hresolve]
        exact ⟨_, rfl⟩) f
  cases hresolve : constraint.resolve chain positions with
  | error error =>
      rw [hresolve] at hboth
      exact hboth
  | ok place =>
      rw [hresolve, resolve_ok positions hresolve] at hboth
      exact hboth

theorem readsAt_error (hgroup : AnswersAs chain constraint.group) (positions : List α) :
    Query.ReadsAt chain positions (constraint.error positions)
      ((constraint.resolve chain positions).map fun place pad =>
        constraint.model.error (pad.linkPose place)) :=
  (readsAt_pose hgroup positions).map constraint.model.error

theorem readsAt_residual (hgroup : AnswersAs chain constraint.group) (positions : List α) :
    Query.ReadsAt chain positions (constraint.residual positions)
      ((constraint.resolve chain positions).map fun place pad =>
        constraint.model.residual (constraint.model.error (pad.linkPose place))) :=
  (readsAt_error hgroup positions).map constraint.model.residual

theorem readsAt_errorJacobian (hgroup : AnswersAs chain constraint.group) (positions : List α) :
    Query.ReadsAt chain positions (constraint.errorJacobian positions)
      ((constraint.resolve chain positions).map fun place pad =>
        constraint.model.errorJacobian (pad.linkPose place) (pad.jacobian chain.joints place)) :=
  readsAt_poseAndJacobian hgroup positions constraint.model.errorJacobian

theorem readsAt_evaluate (hgroup : AnswersAs chain constraint.group) (positions : List α) :
    Query.ReadsAt chain positions (constraint.evaluate positions)
      ((constraint.resolve chain positions).map fun place pad =>
        constraint.evaluation (pad.linkPose place) (pad.jacobian chain.joints place)) :=
  readsAt_poseAndJacobian hgroup positions constraint.evaluation

theorem readsAt_ask (hgroup : AnswersAs chain constraint.group) (positions : List α)
    (method : Method) :
    Query.ReadsAt chain positions (constraint.ask positions method)
      ((constraint.resolve chain positions).map fun place pad =>
        constraint.reply (pad.linkPose place) (pad.jacobian chain.joints place) method) := by
  cases method with
  | error => exact (readsAt_error hgroup positions).map Reply.vector
  | errorJacobian => exact (readsAt_errorJacobian hgroup positions).map Reply.columns
  | residual => exact (readsAt_residual hgroup positions).map Reply.vector
  | jacobian => exact ((readsAt_evaluate hgroup positions).map Residual.jacobian).map Reply.columns
  | evaluate => exact (readsAt_evaluate hgroup positions).map Reply.residual
  | isSatisfied =>
      exact ((readsAt_residual hgroup positions).map fun residual =>
        decide (residual.maxAbs ≤ constraint.settings.tolerance)).map Reply.verdict

end Readings

end Constraint

end TaskSpace.Constraints
