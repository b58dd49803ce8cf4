import Mathlib
import TaskSpace.Constraints.ResidualModel
import TaskSpace.Proofs.Kinematics.Velocity
import TaskSpace.Proofs.Rigid.Logarithm

namespace TaskSpace.Constraints

open Rigid

namespace ResidualModel

-- The rotation is one, and a line has two points.
def IsRegular : ResidualModel ℝ → Prop
  | .boundedPosition _ _ rotation => rotation.IsUnit
  | .equalityPosition _ _ rotation => rotation.IsUnit
  | .linearSystemPosition _ start finish rotation => rotation.IsUnit ∧ start ≠ finish
  | .orientation _ rotation => rotation.IsUnit

-- The angle between a pose and the target orientation.
noncomputable def angleTo (model : ResidualModel ℝ) (pose : Pose ℝ) : ℝ :=
  (pose.rotation.toMatrix.transpose * model.targetOrientation.toMatrix).angle

-- Exponential coordinates change smoothly except at half turns. For tiny angles but zero their operator
-- is taken from a series, and is not their exact rate of change.
def HasExactOperatorAt (model : ResidualModel ℝ) (pose : Pose ℝ) : Prop :=
  model.kind.isPosition = true ∨ model.angleTo pose = 0 ∨
    smallAngle ≤ model.angleTo pose ∧ model.angleTo pose < Real.pi

section Angle

variable {pose : Pose ℝ} {rotation : Quat ℝ}

theorem remainingTurn_isUnit (hpose : pose.rotation.IsUnit) (hrotation : rotation.IsUnit) :
    (remainingTurn pose rotation).IsUnit :=
  hpose.conjugate.mul hrotation

theorem angleAxis_remainingTurn (bounds : Vec3 (Bound ℝ)) (hpose : pose.rotation.IsUnit)
    (hrotation : rotation.IsUnit) :
    (remainingTurn pose rotation).angleAxis.1 = (orientation bounds rotation).angleTo pose := by
  rw [← (remainingTurn_isUnit hpose hrotation).angle_toMatrix, remainingTurn, Quat.toMatrix_mul,
    Quat.toMatrix_conjugate]
  rfl

theorem HasExactOperatorAt.angleAxis {bounds : Vec3 (Bound ℝ)} (hpose : pose.rotation.IsUnit)
    (hrotation : rotation.IsUnit) (h : (orientation bounds rotation).HasExactOperatorAt pose) :
    (remainingTurn pose rotation).w ≠ 0 ∧ ((remainingTurn pose rotation).angleAxis.1 = 0 ∨
      smallAngle ≤ (remainingTurn pose rotation).angleAxis.1) := by
  have hunit := remainingTurn_isUnit hpose hrotation
  unfold HasExactOperatorAt at h
  rw [← angleAxis_remainingTurn bounds hpose hrotation] at h
  rcases h with hposition | hzero | ⟨hsmall, hlt⟩
  · cases hposition
  · exact ⟨hunit.w_ne_zero (hzero ▸ Real.pi_pos), Or.inl hzero⟩
  · exact ⟨hunit.w_ne_zero hlt, Or.inr hsmall⟩

end Angle

theorem inFrame_eq {rotation : Quat ℝ} (hrotation : rotation.IsUnit) (v : Vec3 ℝ) :
    inFrame rotation v = rotation.toMatrix.transpose.apply v := by
  rw [inFrame, hrotation.conjugate.rotate_eq, Quat.toMatrix_conjugate]

section Rates

variable {model : ResidualModel ℝ} {path : ℝ → Pose ℝ} {twist : Twist ℝ} {time : ℝ}

theorem hasRateAt_inFrame {rotation : Quat ℝ} (hrotation : rotation.IsUnit) (target : Vec3 ℝ)
    (hpath : Pose.HasTwistAt path twist time) :
    Vec3.HasRateAt (fun s => inFrame rotation ((path s).translation - target))
      (rotation.toMatrix.transpose.apply twist.linear) time := by
  have hoffset := hpath.linear.sub (Vec3.HasRateAt.const target time)
  simp only [inFrame_eq hrotation]
  simpa using hoffset.apply_const rotation.toMatrix.transpose

theorem hasRateAt_remainingTurn (rotation : Quat ℝ) (hunit : (path time).rotation.IsUnit)
    (hpath : Pose.HasTwistAt path twist time) :
    Quat.HasRateAt (fun s => remainingTurn (path s) rotation)
      (Quat.spin (((path time).rotation.toMatrix.transpose.apply twist.angular).scale (-1))
        (remainingTurn (path time) rotation)) time := by
  have hturn := hpath.angular.conjugate.mul_const rotation
  rwa [hunit.spin_conjugate, Quat.spin_mul] at hturn

-- The operator maps the velocity of the link to the rate of change of the error.
theorem hasRateAt_error (hmodel : model.IsRegular) (hunit : (path time).rotation.IsUnit)
    (hexact : model.HasExactOperatorAt (path time)) (hpath : Pose.HasTwistAt path twist time) :
    Vec3.HasRateAt (fun s => model.error (path s))
      ((model.errorOperator (path time)).apply (model.relevantVelocity twist)) time := by
  cases model with
  | boundedPosition bounds target rotation => exact hasRateAt_inFrame hmodel target hpath
  | equalityPosition mask target rotation => exact hasRateAt_inFrame hmodel target hpath
  | linearSystemPosition mask start finish rotation =>
      have hoffset := hasRateAt_inFrame hmodel.1 start hpath
      have hcross := hoffset.apply_const (Mat3.skew (lineDirection start finish rotation))
      simp only [Mat3.skew_apply] at hcross
      simp only [errorOperator, Mat3.apply_mul, Mat3.skew_apply]
      exact hcross
  | orientation bounds rotation =>
      obtain ⟨hw, hangle⟩ := hexact.angleAxis hunit hmodel
      have hlog := (hasRateAt_remainingTurn rotation hunit hpath).rotationLog
        (remainingTurn_isUnit hunit hmodel) hw hangle
      simp only [errorOperator, Mat3.neg_apply, Mat3.apply_mul]
      rwa [Mat3.apply_scale] at hlog

end Rates

section Smooth

variable {E : Type*} [NormedAddCommGroup E] [NormedSpace ℝ E] {model : ResidualModel ℝ}
  {f : E → Pose ℝ} {point : E}

theorem smoothAt_inFrame (rotation : Quat ℝ) (target : Vec3 ℝ) (hf : Pose.SmoothAt f point) :
    Vec3.SmoothAt (fun y => inFrame rotation ((f y).translation - target)) point :=
  (Quat.smoothAt_const rotation.conjugate).rotate (hf.translation.sub (Vec3.smoothAt_const target))

theorem smoothAt_error (hmodel : model.IsRegular) (hunit : (f point).rotation.IsUnit)
    (hexact : model.HasExactOperatorAt (f point)) (hf : Pose.SmoothAt f point) :
    Vec3.SmoothAt (fun y => model.error (f y)) point := by
  cases model with
  | boundedPosition bounds target rotation => exact smoothAt_inFrame rotation target hf
  | equalityPosition mask target rotation => exact smoothAt_inFrame rotation target hf
  | linearSystemPosition mask start finish rotation =>
      exact (Vec3.smoothAt_const (lineDirection start finish rotation)).cross
        (smoothAt_inFrame rotation start hf)
  | orientation bounds rotation =>
      obtain ⟨hw, _⟩ := hexact.angleAxis hunit hmodel
      exact (hf.rotation.conjugate.mul (Quat.smoothAt_const rotation)).rotationLog hw

end Smooth

end ResidualModel

end TaskSpace.Constraints
