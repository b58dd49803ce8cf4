import Mathlib
import TaskSpace.Proofs.Constraints.Lines
import TaskSpace.Proofs.Rigid.Kernels

namespace TaskSpace.Constraints

open Rigid Kinematics
open ExtendedReal (real)

namespace ResidualModel

-- The two points of a line differ. Settings that were not checked let through a line without direction.
def HasDirection (model : ResidualModel ExtendedReal) : Prop :=
  ∀ line ∈ model.line?, line.1 ≠ line.2

-- The velocities of a link that an error of the kind cannot see: those without linear part, along the line,
-- or without angular part.
def Overlooks (model : ResidualModel ExtendedReal) (twist : Twist ℝ) : Prop :=
  match model with
  | .boundedPosition .. | .equalityPosition .. => twist.linear = .zero
  | .linearSystemPosition _ start finish _ =>
    ∃ amount, twist.linear.extend = (finish - start).scale (real amount)
  | .orientation .. => twist.angular = .zero

section Regular

variable {model : ResidualModel ℝ} {pose : Pose ℝ}

-- The operator of the error loses no more of a velocity than what the error cannot see.
theorem errorOperator_apply_eq_zero_iff (bounds : Vec3 (Bound ExtendedReal)) (hmodel : model.IsRegular)
    (hpose : pose.rotation.IsUnit) (twist : Twist ℝ) :
    (model.errorOperator pose).apply (model.relevantVelocity twist) = .zero ↔
      (model.extend bounds).Overlooks twist := by
  cases model with
  | boundedPosition _ target rotation => exact hmodel.transpose_apply_eq_zero_iff twist.linear
  | equalityPosition mask target rotation => exact hmodel.transpose_apply_eq_zero_iff twist.linear
  | linearSystemPosition mask start finish rotation =>
      obtain ⟨hrotation, hne⟩ := hmodel
      have hdirection : finish - start ≠ .zero := fun hzero => hne (Vec3.sub_eq_zero_iff.mp hzero).symm
      calc (Mat3.skew (lineDirection start finish rotation) * rotation.toMatrix.transpose).apply
              twist.linear = .zero
          ↔ (inFrame rotation (finish - start).normalize).cross (inFrame rotation twist.linear) = .zero := by
            rw [Mat3.apply_mul, Mat3.skew_apply, lineDirection_eq hrotation, inFrame_eq hrotation twist.linear]
        _ ↔ (finish - start).normalize.cross twist.linear = .zero := by
            unfold inFrame
            rw [← hrotation.conjugate.rotate_cross, hrotation.conjugate.rotate_eq_zero_iff]
        _ ↔ ∃ amount, twist.linear = (finish - start).scale amount :=
            Vec3.normalize_cross_eq_zero_iff hdirection _
        _ ↔ ∃ amount, twist.linear.extend = (finish.extend - start.extend).scale (real amount) := by
            simp only [← Vec3.extend_sub, ← Vec3.extend_scale, Vec3.extend_injective.eq_iff]
  | orientation _ rotation =>
      calc (-((remainingTurn pose rotation).logRate * pose.rotation.toMatrix.transpose)).apply
              twist.angular = .zero
          ↔ ((remainingTurn pose rotation).logRate.apply
              (pose.rotation.toMatrix.transpose.apply twist.angular)).scale (-1) = .zero := by
            rw [Mat3.neg_apply, Mat3.apply_mul]
        _ ↔ (remainingTurn pose rotation).logRate.apply
              (pose.rotation.toMatrix.transpose.apply twist.angular) = .zero :=
            Vec3.scale_eq_zero_iff (by norm_num)
        _ ↔ pose.rotation.toMatrix.transpose.apply twist.angular = .zero :=
            Quat.logRate_apply_eq_zero_iff _ _
        _ ↔ twist.angular = .zero := hpose.transpose_apply_eq_zero_iff _

theorem relevantVelocity_combine (model : ResidualModel ℝ) (twists : List (Twist ℝ)) (speeds : List ℝ) :
    model.relevantVelocity (Twist.combine twists speeds) =
      Vec3.combine (twists.map model.relevantVelocity) speeds := by
  unfold relevantVelocity
  split <;> rfl

-- The columns of the error Jacobian combine to what the operator makes of the combined velocity.
theorem combine_errorJacobian (model : ResidualModel ℝ) (pose : Pose ℝ) (twists : List (Twist ℝ))
    (speeds : List ℝ) : Vec3.combine (model.errorJacobian pose twists) speeds =
      (model.errorOperator pose).apply (model.relevantVelocity (Twist.combine twists speeds)) := by
  rw [relevantVelocity_combine, Mat3.apply_combine, List.map_map]
  rfl

end Regular

namespace HasGeometry

variable {model : ResidualModel ExtendedReal} {finite : ResidualModel ℝ} {bounds : Vec3 (Bound ExtendedReal)}
  {pose : Pose ℝ}

theorem combine_eq (h : model.HasGeometry finite bounds) (pose : Pose ℝ) (twists : List (Twist ℝ))
    (speeds : List ℝ) :
    Vec3.combine (model.errorJacobian pose.extend (twists.map Twist.extend)) (speeds.map real) =
      (Vec3.combine (finite.errorJacobian pose twists) speeds).extend := by
  rw [h.eq, ← extend_errorJacobian bounds h.regular, Vec3.extend_combine]

theorem eq_zero_iff_overlooks (h : model.HasGeometry finite bounds) (hpose : pose.rotation.IsUnit)
    (twists : List (Twist ℝ)) (speeds : List ℝ) :
    Vec3.combine (finite.errorJacobian pose twists) speeds = .zero ↔
      model.Overlooks (Twist.combine twists speeds) := by
  rw [combine_errorJacobian, errorOperator_apply_eq_zero_iff bounds h.regular hpose, h.eq]

end HasGeometry

section NoDirection

variable (mask : Vec3 Bool) (point : Vec3 ℝ) (rotation : Quat ℝ)

theorem lineDirection_self :
    lineDirection point.extend point.extend rotation.extend = .ofAxes fun _ => .nan := by
  have hzero : point - point = .zero := Vec3.sub_eq_zero_iff.mpr rfl
  have hnorm : (Vec3.zero : Vec3 ℝ).norm = 0 := (Vec3.norm_eq_zero_iff _).mpr rfl
  have hnone : real 0 / real 0 = .nan := (if_pos rfl).trans (if_pos rfl)
  rw [lineDirection, ← Vec3.extend_sub, ← extend_inFrame, hzero, inFrame, Quat.rotate_zero, Vec3.normalize,
    Vec3.extend_norm, hnorm]
  exact Vec3.ext hnone hnone hnone

-- Without a direction no column consists of numbers, not even where the link stands still.
theorem errorJacobian_self (pose : Pose ExtendedReal) (twists : List (Twist ℝ)) :
    (linearSystemPosition mask point.extend point.extend rotation.extend).errorJacobian pose
        (twists.map Twist.extend) = twists.map fun _ => .ofAxes fun _ => .nan := by
  unfold errorJacobian
  rw [List.map_map]
  refine List.map_congr_left fun twist _ => ?_
  simp only [Function.comp_apply, errorOperator, lineDirection_self]
  rfl

theorem combine_errorJacobian_self {pose : Pose ExtendedReal} {twists : List (Twist ℝ)} {speeds : List ℝ}
    {rate : Vec3 ℝ} (h : Vec3.combine ((linearSystemPosition mask point.extend point.extend
      rotation.extend).errorJacobian pose (twists.map Twist.extend)) (speeds.map real) = rate.extend) :
    rate = .zero ∧ Twist.combine twists speeds = ⟨.zero, .zero⟩ := by
  rw [errorJacobian_self] at h
  rcases twists with _ | ⟨twist, twists⟩
  · have hrate : (Vec3.zero : Vec3 ℝ).extend = rate.extend := h
    exact ⟨(Vec3.extend_injective hrate).symm, rfl⟩
  rcases speeds with _ | ⟨speed, speeds⟩
  · have hrate : (Vec3.zero : Vec3 ℝ).extend = rate.extend := h
    exact ⟨(Vec3.extend_injective hrate).symm, rfl⟩
  · obtain ⟨⟨_, hcolumn⟩, _⟩ := ExtendedReal.exists_of_add_eq_real (congrArg Vec3.x h)
    cases hcolumn

end NoDirection

variable {settings : Settings ExtendedReal} {description : Description ExtendedReal} {kind : Kind}
  {link : String} {model : ResidualModel ExtendedReal}

-- A model has a geometry to compute with, or is a line whose points coincide.
theorem ReadFrom.exists_geometry_or_self (hfinite : kind.isPosition = true → description.HasFinitePositions)
    (h : ReadFrom settings description kind link model) :
    (∃ finite bounds, model.HasGeometry finite bounds) ∨ settings.validate ≠ .ok () ∧ ¬model.HasDirection ∧
      ∃ mask point rotation, model =
        .linearSystemPosition mask (Vec3.extend point) (Vec3.extend point) (Quat.extend rotation) := by
  cases kind with
  | boundedPosition =>
      obtain ⟨_, _, _, _, _, _, _, _, _, hgeometry⟩ := h.exists_box (hfinite rfl)
      exact Or.inl ⟨_, _, hgeometry⟩
  | equalityPosition =>
      obtain ⟨_, _, _, _, _, _, _, _, _, hgeometry⟩ := h.exists_thinBox (hfinite rfl)
      exact Or.inl ⟨_, _, hgeometry⟩
  | linearSystemPosition =>
      obtain ⟨_, _, start, finish, _, mask, _, _, hline, _, hfar, rfl⟩ := h.exists_points (hfinite rfl)
      by_cases hne : start = finish
      · subst hne
        exact Or.inr ⟨fun hvalid => settings.ne_of_far hvalid hfar rfl, fun hdirection => hdirection _ rfl rfl,
          mask, start, _, rfl⟩
      · exact Or.inl ⟨.linearSystemPosition mask start finish _, AllowZero.point, rfl,
          ⟨Quat.normalize_isUnit hline.direction, hne⟩, AllowZero.of_point⟩
  | orientation =>
      obtain ⟨_, _, _, _, _, _, _, _, hgeometry⟩ := h.exists_orientation
      exact Or.inl ⟨_, _, hgeometry⟩

-- The error Jacobian takes only those joint speeds to zero whose velocity of the link the error cannot
-- see, whatever the remaining turn is. It has numbers to compute with, but for a line without direction.
theorem errorJacobian_losesNoRank {log : List (Event ExtendedReal)}
    (hfinite : kind.isPosition = true → description.HasFinitePositions)
    (hmade : Query.answer (ofDescription kind settings description) log = .ok (link, model))
    {pose : Pose ℝ} (hpose : pose.rotation.IsUnit) (twists : List (Twist ℝ)) (speeds : List ℝ) :
    (settings.validate = .ok () ∨ model.HasDirection → ∃ rate : Vec3 ℝ,
      Vec3.combine (model.errorJacobian pose.extend (twists.map Twist.extend)) (speeds.map real) =
        rate.extend) ∧
    ∀ rate : Vec3 ℝ,
      Vec3.combine (model.errorJacobian pose.extend (twists.map Twist.extend)) (speeds.map real) =
        rate.extend → (rate = .zero ↔ model.Overlooks (Twist.combine twists speeds)) := by
  obtain ⟨finite, bounds, hgeometry⟩ | ⟨hinvalid, hnone, mask, point, rotation, rfl⟩ :=
    (ReadFrom.of_ofDescription hmade).exists_geometry_or_self hfinite
  · rw [hgeometry.combine_eq]
    refine ⟨fun _ => ⟨_, rfl⟩, fun rate hrate => ?_⟩
    rw [← Vec3.extend_injective hrate]
    exact hgeometry.eq_zero_iff_overlooks hpose twists speeds
  · refine ⟨fun hdirection => (hdirection.elim hinvalid hnone).elim, fun rate hrate => ?_⟩
    obtain ⟨rfl, hstill⟩ := combine_errorJacobian_self mask point rotation hrate
    have hzero : (point - point).scale 0 = .zero := by
      ext <;> simp
    refine iff_of_true rfl ⟨0, ?_⟩
    rw [hstill, ← Vec3.extend_sub, ← Vec3.extend_scale, hzero]

-- Two joints that both move a link across a line, but together along it.
theorem crossingLine_joints_cancel :
    let twists : List (Twist ℝ) := [⟨⟨1, 0, 0⟩, .zero⟩, ⟨⟨1, 0, 1⟩, ⟨0, 0, 1⟩⟩]
    ∃ link model, Query.answer (ofDescription .linearSystemPosition .standard Constraint.crossingLine) [] =
        .ok (link, model) ∧
      Vec3.combine (model.errorJacobian (.identity : Pose ℝ).extend (twists.map Twist.extend))
        ([1, -1].map real) = (.zero : Vec3 ℝ).extend := by
  intro twists
  have hread := readFrom_line Constraint.equalityMask_sample Constraint.sampleTurn_norm.1
    Constraint.crossingLine_far (rfl : Constraint.crossingLine.positions = _)
  have hmade := hread.answer_ofDescription []
  obtain ⟨hnumbers, hlost⟩ := errorJacobian_losesNoRank
    (fun _ => Description.hasFinitePositions_line _ _ _ _ _) hmade Pose.isUnit_identity twists [1, -1]
  obtain ⟨rate, hrate⟩ := hnumbers (Or.inl Settings.validate_standard)
  have halong : (Twist.combine twists [1, -1]).linear = (⟨0, 1, 1⟩ - ⟨0, 1, 0⟩ : Vec3 ℝ).scale (-1) := by
    ext <;> simp [twists, Twist.combine]
  rw [(hlost rate hrate).mpr ⟨-1, congrArg Vec3.extend halong⟩] at hrate
  exact ⟨_, _, hmade, hrate⟩

end ResidualModel

end TaskSpace.Constraints
