import Mathlib
import TaskSpace.Proofs.Constraints.ErrorRates
import TaskSpace.Proofs.Kinematics.Extension
import TaskSpace.Proofs.Rigid.Distance

namespace TaskSpace.Constraints

open Rigid Kinematics
open ExtendedReal (real)

namespace ResidualModel

-- A model with finite geometry. Its bounds may be infinite, and take the place of finite ones.
def extend (bounds : Vec3 (Bound ExtendedReal)) : ResidualModel ℝ → ResidualModel ExtendedReal
  | .boundedPosition _ target rotation => .boundedPosition bounds target.extend rotation.extend
  | .equalityPosition mask target rotation => .equalityPosition mask target.extend rotation.extend
  | .linearSystemPosition mask start finish rotation =>
    .linearSystemPosition mask start.extend finish.extend rotation.extend
  | .orientation _ rotation => .orientation bounds rotation.extend

variable {model : ResidualModel ℝ} (bounds : Vec3 (Bound ExtendedReal))

@[simp] theorem extend_kind : (model.extend bounds).kind = model.kind := by
  cases model <;> rfl

theorem extend_inFrame (rotation : Quat ℝ) (v : Vec3 ℝ) :
    (inFrame rotation v).extend = inFrame rotation.extend v.extend := by
  rw [inFrame, Quat.extend_rotate, Quat.extend_conjugate, inFrame]

-- Two points that differ still differ when they are seen from the target.
theorem inFrame_norm_ne_zero {rotation : Quat ℝ} (hrotation : rotation.IsUnit) {start finish : Vec3 ℝ}
    (hne : start ≠ finish) : (inFrame rotation (finish - start)).norm ≠ 0 := by
  intro hzero
  rw [inFrame, hrotation.conjugate.norm_rotate, Vec3.norm_eq_zero_iff, Vec3.sub_eq_zero_iff] at hzero
  exact hne hzero.symm

theorem extend_lineDirection {rotation : Quat ℝ} (hrotation : rotation.IsUnit) {start finish : Vec3 ℝ}
    (hne : start ≠ finish) :
    (lineDirection start finish rotation).extend =
      lineDirection start.extend finish.extend rotation.extend := by
  rw [lineDirection, Vec3.extend_normalize _ (inFrame_norm_ne_zero hrotation hne), extend_inFrame,
    Vec3.extend_sub, lineDirection]

theorem extend_error (hmodel : model.IsRegular) (pose : Pose ℝ) :
    (model.error pose).extend = (model.extend bounds).error pose.extend := by
  cases model with
  | boundedPosition _ target rotation => exact extend_inFrame rotation _
  | equalityPosition mask target rotation => exact extend_inFrame rotation _
  | linearSystemPosition mask start finish rotation =>
      rw [error, Vec3.extend_cross, extend_lineDirection hmodel.1 hmodel.2, extend_inFrame,
        Vec3.extend_sub]
      rfl
  | orientation _ rotation => exact Quat.extend_rotationLog _

theorem extend_errorOperator (hmodel : model.IsRegular) (pose : Pose ℝ) :
    (model.errorOperator pose).extend = (model.extend bounds).errorOperator pose.extend := by
  cases model with
  | boundedPosition _ target rotation =>
      rw [errorOperator, Mat3.extend_transpose, Quat.extend_toMatrix]
      rfl
  | equalityPosition mask target rotation =>
      rw [errorOperator, Mat3.extend_transpose, Quat.extend_toMatrix]
      rfl
  | linearSystemPosition mask start finish rotation =>
      rw [errorOperator, Mat3.extend_mul, Mat3.extend_skew, extend_lineDirection hmodel.1 hmodel.2,
        Mat3.extend_transpose, Quat.extend_toMatrix]
      rfl
  | orientation _ rotation =>
      rw [errorOperator, Mat3.extend_neg, Mat3.extend_mul, Quat.extend_logRate,
        Mat3.extend_transpose, Quat.extend_toMatrix]
      rfl

theorem extend_relevantVelocity (twist : Twist ℝ) :
    (model.relevantVelocity twist).extend =
      (model.extend bounds).relevantVelocity twist.extend := by
  cases model <;> rfl

theorem extend_errorJacobian (hmodel : model.IsRegular) (pose : Pose ℝ) (twists : List (Twist ℝ)) :
    (model.errorJacobian pose twists).map Vec3.extend =
      (model.extend bounds).errorJacobian pose.extend (twists.map Twist.extend) := by
  unfold errorJacobian
  rw [← extend_errorOperator bounds hmodel]
  simp only [List.map_map]
  apply List.map_congr_left
  intro twist _
  simp only [Function.comp_apply, Mat3.extend_apply, extend_relevantVelocity bounds]

end ResidualModel

end TaskSpace.Constraints
