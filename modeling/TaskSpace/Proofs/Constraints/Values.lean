import Mathlib
import TaskSpace.Proofs.Constraints.Jacobians

namespace TaskSpace.Constraints

open Rigid Kinematics
open ExtendedReal (real infinite)

namespace Constraint

variable {σ : Type} {constraint : Constraint ExtendedReal σ} {pose : Pose ℝ}

-- What a constraint makes of a pose of its link, and hence what it answers, at every joint vector and
-- from every storage, where the link has that pose.
structure HasValuesAt (constraint : Constraint ExtendedReal σ) (pose : Pose ℝ) (error residual : Vec3 ℝ) :
    Prop where
  model_error : constraint.model.error pose.extend = error.extend
  model_residual : constraint.model.residual error.extend = residual.extend
  answer_error : ∀ positions storage,
    (constraint.pose positions).answer storage = .ok pose.extend →
      (constraint.error positions).answer storage = .ok error.extend
  answer_residual : ∀ positions storage,
    (constraint.pose positions).answer storage = .ok pose.extend →
      (constraint.residual positions).answer storage = .ok residual.extend

variable {error residual : Vec3 ℝ}

theorem HasValuesAt.of_model (herror : constraint.model.error pose.extend = error.extend)
    (hresidual : constraint.model.residual error.extend = residual.extend) :
    constraint.HasValuesAt pose error residual := by
  have hanswer : ∀ positions storage,
      (constraint.pose positions).answer storage = .ok pose.extend →
        (constraint.error positions).answer storage = .ok error.extend := by
    intro positions storage hpose
    unfold Constraint.error
    rw [Query.answer_bind_of_ok hpose, herror]
    rfl
  refine ⟨herror, hresidual, hanswer, fun positions storage hpose => ?_⟩
  unfold Constraint.residual
  rw [Query.answer_bind_of_ok (hanswer positions storage hpose), hresidual]
  rfl

-- Row by row, from a finite geometry.
theorem hasValuesAt_of_hasGeometry {finite : ResidualModel ℝ} {bounds : Vec3 (Bound ExtendedReal)}
    (hgeometry : constraint.model.HasGeometry finite bounds) (pose : Pose ℝ) :
    constraint.HasValuesAt pose (finite.error pose)
      (.ofAxes fun row => constraint.model.rowHeight row ((finite.error pose).get row)) := by
  refine .of_model ?_ (ResidualModel.residual_extend hgeometry.bounds_allowZero _)
  rw [hgeometry.eq, ← ResidualModel.extend_error bounds hgeometry.regular]

-- The tool of a resting robot is at the identity.
theorem HasValuesAt.answer_residual_rest {constraint : Constraint ExtendedReal (Scratchpad ExtendedReal)}
    (h : constraint.HasValuesAt .identity error residual)
    (hgroup : constraint.group = (Robots.cartesianWrist : Chain ℝ).extend.jointGroup)
    (hlink : (Robots.cartesianWrist : Chain ℝ).extend.linkIndex? constraint.link = some .tip) :
    (constraint.residual (positionsOf fun _ : Fin 6 => 0)).answer constraint.group.newScratchpad =
      .ok residual.extend := by
  have hpose := answer_pose hgroup hlink fun _ => 0
  rw [Robots.cartesianWrist_linkPose_rest] at hpose
  exact h.answer_residual _ _ hpose

end Constraint

end TaskSpace.Constraints
