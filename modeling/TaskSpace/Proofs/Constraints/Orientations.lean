import Mathlib
import TaskSpace.Proofs.Constraints.Values
import TaskSpace.Proofs.Rigid.Exponential

namespace TaskSpace.Constraints

open Rigid Kinematics
open ExtendedReal (real infinite)

-- How far a coordinate exceeds its tolerance. One of -1 is never exceeded, and none without end.
noncomputable def excess (tolerance : ExtendedReal) (value : ℝ) : ℝ :=
  match tolerance with
  | real limit => if limit = -1 then 0 else max 0 (|value| - limit)
  | _ => 0

theorem Bound.height_tolerance {tolerance : ExtendedReal} {bound : Bound ExtendedReal}
    (h : symmetric (orInfinite tolerance) = .ok bound) (value : ℝ) :
    bound.height value = excess tolerance value := by
  rw [height_of_make h]
  by_cases hfree : tolerance = real (-1)
  · rw [hfree, orInfinite_free, excess, if_pos rfl]
    rfl
  · rw [orInfinite_of_ne hfree]
    cases tolerance with
    | real limit => rw [excess, if_neg fun h => hfree (congrArg real h), overshoot]
    | infinite negative => rfl
    | nan => rfl

namespace Constraint

variable {σ : Type} {constraint : Constraint ExtendedReal σ}

-- The error is the turn that is left, by exponential coordinates: their length is its angle, so it is
-- never the longer way around.
structure HasTurnErrorAt (target : Quat ℝ) (pose : Pose ℝ) (error : Vec3 ℝ) : Prop where
  turned : pose.rotation.toMatrix * Mat3.exponential error = target.toMatrix
  norm_nonneg : 0 ≤ error.norm
  norm_le_pi : error.norm ≤ Real.pi
  trace : (pose.rotation.toMatrix.transpose * target.toMatrix).trace = 1 + 2.0 * Real.cos error.norm

-- The residual is what exceeds the tolerances. At the target nothing does, by whichever quaternion the
-- link is given.
structure HasTurnResidualAt (tolerances : Vec3 ExtendedReal) (target : Quat ℝ) (pose : Pose ℝ)
    (error residual : Vec3 ℝ) : Prop where
  get_eq : ∀ axis, residual.get axis = excess (tolerances.get axis) (error.get axis)
  eq_zero_iff : residual = .zero ↔
    ∀ axis, tolerances.get axis ≠ real (-1) → real |error.get axis| ≤ tolerances.get axis
  atTarget : pose.rotation.toMatrix = target.toMatrix → residual = .zero

section Turn

variable {pose : Pose ℝ} {target : Quat ℝ} {error : Vec3 ℝ}

theorem hasTurnErrorAt (hpose : pose.rotation.IsUnit) (htarget : target.IsUnit) :
    HasTurnErrorAt target pose (ResidualModel.remainingTurn pose target).rotationLog := by
  have hunit := ResidualModel.remainingTurn_isUnit hpose htarget
  have hturn : (ResidualModel.remainingTurn pose target).toMatrix =
      pose.rotation.toMatrix.transpose * target.toMatrix := by
    rw [ResidualModel.remainingTurn, Quat.toMatrix_mul, Quat.toMatrix_conjugate]
  constructor
  case turned =>
    rw [hunit.exponential_rotationLog, hturn, ← Mat3.mul_assoc, hpose.toMatrix_mul_transpose,
      Mat3.identity_mul]
  case norm_nonneg => exact Vec3.norm_nonneg _
  case norm_le_pi =>
    have hle := Quat.halfAngle_le (q := ResidualModel.remainingTurn pose target)
    rw [Quat.norm_rotationLog]
    linarith
  case trace => rw [← hturn, hunit.trace_toMatrix, Quat.norm_rotationLog, Scalar.real_two]

-- Only no turn at all has the trace of the identity.
theorem HasTurnErrorAt.eq_zero (h : HasTurnErrorAt target pose error) (hpose : pose.rotation.IsUnit)
    (hsame : pose.rotation.toMatrix = target.toMatrix) : error = .zero := by
  have hidentity : pose.rotation.toMatrix.transpose * pose.rotation.toMatrix = .identity := by
    have hinverse := hpose.conjugate.toMatrix_mul_transpose
    rw [Quat.toMatrix_conjugate] at hinverse
    exact hinverse
  have htrace := h.trace
  rw [← hsame, hidentity, Mat3.trace_identity, Scalar.real_two] at htrace
  have hcos : Real.cos error.norm = Real.cos 0 := by
    rw [Real.cos_zero]
    linarith
  have hnorm := Real.injOn_cos ⟨h.norm_nonneg, h.norm_le_pi⟩ ⟨le_rfl, Real.pi_pos.le⟩ hcos
  exact (Vec3.norm_eq_zero_iff error).mp hnorm

theorem hasTurnResidualAt {entry : OrientationEntry ExtendedReal} {bounds : Vec3 (Bound ExtendedReal)}
    (hbounds : entry.bounds = .ok bounds) (hpose : pose.rotation.IsUnit)
    (herror : HasTurnErrorAt target pose error) :
    HasTurnResidualAt entry.tolerances target pose error
      (.ofAxes fun row => (bounds.get row).height (error.get row)) := by
  have hzero := OrientationEntry.bounds_allowZero hbounds
  have hinside : ∀ axis value, (bounds.get axis).contains (real value) = true ↔
      (entry.tolerances.get axis ≠ real (-1) → real |value| ≤ entry.tolerances.get axis) := fun axis =>
    Bound.contains_tolerance_iff (eq_of_ofAxesM hbounds axis)
  have hvanishes : (Vec3.ofAxes fun row => (bounds.get row).height (error.get row)) = .zero ↔
      ∀ axis, entry.tolerances.get axis ≠ real (-1) → real |error.get axis| ≤ entry.tolerances.get axis := by
    simp only [Vec3.ofAxes_eq_zero_iff, Bound.height_eq_zero_iff (hzero _), hinside]
  refine ⟨fun axis => ?_, hvanishes, fun hsame => hvanishes.mpr fun axis => ?_⟩
  · rw [Vec3.get_ofAxes]
    exact Bound.height_tolerance (eq_of_ofAxesM hbounds axis) _
  · have hcoordinate : error.get axis = 0 := by
      rw [herror.eq_zero hpose hsame]
      cases axis <;> rfl
    rw [hcoordinate]
    exact (hinside axis 0).mp (hzero axis)

end Turn

-- What an orientation constraint measures, from every pose of the link with a proper rotation.
theorem orientation_measured {group : JointGroup ExtendedReal σ} {settings : Settings ExtendedReal}
    {description : Description ExtendedReal}
    (hmade : (ofKind .orientation group settings description).outcome.1 = .ok constraint) :
    ∃ (entry : OrientationEntry ExtendedReal) (orientation : Quat ℝ),
      description.orientations.head? = some entry ∧ constraint.link = entry.link ∧
      entry.orientation = orientation.extend ∧ orientation.norm ≠ 0 ∧
      ∀ pose : Pose ℝ, pose.rotation.IsUnit → ∃ error residual,
        constraint.HasValuesAt pose error residual ∧
        HasTurnErrorAt orientation.normalize pose error ∧
        HasTurnResidualAt entry.tolerances orientation.normalize pose error residual := by
  obtain ⟨_, hread⟩ := readFrom_of_ofKind hmade
  obtain ⟨entry, orientation, bounds, hentry, hlink, horientation, hne, hbounds, hgeometry⟩ :=
    hread.exists_orientation
  refine ⟨entry, orientation, hentry, hlink.symm, horientation, hne, fun pose hpose => ?_⟩
  have herror := hasTurnErrorAt hpose (Quat.normalize_isUnit hne)
  refine ⟨_, _, hasValuesAt_of_hasGeometry hgeometry pose, herror, ?_⟩
  rw [hgeometry.eq]
  exact hasTurnResidualAt hbounds hpose herror

-- The rotation that changes nothing, by the other quaternion of it.
noncomputable def oppositeIdentity : Quat ℝ := ⟨0, 0, 0, -1⟩

-- A resting robot holds its tool as asked, without any tolerance.
theorem cartesianWrist_oppositeIdentity_residual :
    ∃ constraint, (ofKind .orientation (Robots.cartesianWrist : Chain ℝ).extend.jointGroup .standard
        (.orientation Robots.toolLink oppositeIdentity.extend (.zero : Vec3 ℝ).extend)).outcome.1 =
          .ok constraint ∧
      (constraint.residual (positionsOf fun _ : Fin 6 => 0)).answer constraint.group.newScratchpad =
        .ok (.zero : Vec3 ℝ).extend := by
  have hnorm : oppositeIdentity.norm = 1 := by
    rw [Quat.norm, Scalar.real_sqrt, Real.sqrt_eq_one]
    norm_num [oppositeIdentity]
  have hmade := ofKind_orientation Settings.validate_standard
    (rfl : (Robots.cartesianWrist : Chain ℝ).extend.jointGroup.hasLink Robots.toolLink = true)
    (by rintro (_ | _ | _) <;> exact le_rfl : ∀ axis, 0 ≤ (.zero : Vec3 ℝ).get axis)
    (by rw [hnorm]; norm_num : (1e-12 : ℝ) ≤ oppositeIdentity.norm)
    (rfl : (Description.orientation Robots.toolLink oppositeIdentity.extend
      (.zero : Vec3 ℝ).extend).orientations = _)
  refine ⟨_, hmade, ?_⟩
  obtain ⟨entry, orientation, hentry, _, horientation, hne, hmeasured⟩ := orientation_measured hmade
  cases hentry
  obtain rfl := Quat.extend_injective horientation
  obtain ⟨error, residual, hvalues, _, hresidual⟩ := hmeasured .identity Quat.isUnit_identity
  have hsame : (Pose.identity : Pose ℝ).rotation.toMatrix = oppositeIdentity.normalize.toMatrix := by
    rw [Quat.toMatrix_normalize hne]
    ext <;> norm_num [oppositeIdentity, Pose.identity, Quat.identity, Quat.toMatrix, Mat3.scale]
  rw [hresidual.atTarget hsame] at hvalues
  exact hvalues.answer_residual_rest rfl rfl

end Constraint

end TaskSpace.Constraints
