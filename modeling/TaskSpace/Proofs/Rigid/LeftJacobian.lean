import Mathlib
import TaskSpace.Proofs.Rigid.Exponential
import TaskSpace.Proofs.Rigid.Kernels

namespace TaskSpace.Rigid

namespace Mat3

theorem ext_apply {m n : Mat3 ℝ} (h : ∀ v, m.apply v = n.apply v) : m = n := by
  have hx := h ⟨1, 0, 0⟩
  have hy := h ⟨0, 1, 0⟩
  have hz := h ⟨0, 0, 1⟩
  simp [apply, Vec3.dot_eq, Vec3.ext_iff] at hx hy hz
  ext <;> simp [hx, hy, hz]

-- The polynomials in the cross product with an axis. For a unit axis its third power is its opposite, so
-- that three coefficients are enough.
noncomputable def axial (axis : Vec3 ℝ) (constant linear quadratic : ℝ) : Mat3 ℝ :=
  identity.scale constant + (skew axis).scale linear + (skew axis * skew axis).scale quadratic

-- The map from the rate of change of exponential coordinates to the angular velocity that turns the
-- rotation from the left.
noncomputable def leftJacobian (angle : ℝ) (axis : Vec3 ℝ) : Mat3 ℝ :=
  let turn := skew (axis.scale angle)
  identity + turn.scale ((1 - Real.cos angle) / angle ^ 2) +
    (turn * turn).scale ((angle - Real.sin angle) / angle ^ 3)

section Axial

variable {axis : Vec3 ℝ}

theorem axial_apply (axis : Vec3 ℝ) (a b c : ℝ) (v : Vec3 ℝ) :
    (axial axis a b c).apply v =
      v.scale a + (axis.cross v).scale b + (axis.cross (axis.cross v)).scale c := by
  unfold axial
  simp only [add_apply, scale_apply, identity_apply, apply_mul, skew_apply]

theorem cross_cross_cross (haxis : axis.IsUnit) (v : Vec3 ℝ) :
    axis.cross (axis.cross (axis.cross v)) = (axis.cross v).scale (-1) := by
  rw [Vec3.cross_cross_self, Vec3.dot_cross_self, (Vec3.isUnit_iff axis).mp haxis]
  ext <;> simp

theorem axial_mul (haxis : axis.IsUnit) (a b c a' b' c' : ℝ) :
    axial axis a b c * axial axis a' b' c' =
      axial axis (a * a') (a * b' + b * a' - b * c' - c * b') (a * c' + b * b' + c * a' - c * c') := by
  refine ext_apply fun v => ?_
  rw [apply_mul, axial_apply axis a' b' c', apply_add, apply_add, apply_scale, apply_scale, apply_scale,
    axial_apply, axial_apply, axial_apply, axial_apply, cross_cross_cross haxis, Vec3.cross_scale]
  ext <;> simp only [Vec3.add_x, Vec3.add_y, Vec3.add_z, Vec3.scale_x, Vec3.scale_y, Vec3.scale_z] <;> ring

theorem axial_mul_comm (haxis : axis.IsUnit) (a b c a' b' c' : ℝ) :
    axial axis a b c * axial axis a' b' c' = axial axis a' b' c' * axial axis a b c := by
  rw [axial_mul haxis, axial_mul haxis]
  congr 1 <;> ring

theorem axial_one (axis : Vec3 ℝ) : axial axis 1 0 0 = identity := by
  refine ext_apply fun v => ?_
  rw [axial_apply, identity_apply]
  ext <;> simp

theorem axial_transpose (axis : Vec3 ℝ) (a b c : ℝ) : (axial axis a b c).transpose = axial axis a (-b) c := by
  ext <;> simp only [axial, transpose, column, scale, identity, skew, add_rows, mul_rows, Vec3.ofAxes_x,
    Vec3.ofAxes_y, Vec3.ofAxes_z, Vec3.map_x, Vec3.map_y, Vec3.map_z, Vec3.zipWith_x, Vec3.zipWith_y,
    Vec3.zipWith_z, Vec3.add_x, Vec3.add_y, Vec3.add_z, Vec3.scale_x, Vec3.scale_y, Vec3.scale_z, Vec3.get_x,
    Vec3.get_y, Vec3.get_z, Vec3.dot_eq] <;> ring

theorem axial_apply_self (axis : Vec3 ℝ) (a b c : ℝ) : (axial axis a b c).apply axis = axis.scale a := by
  rw [axial_apply]
  ext <;> simp <;> ring

-- A polynomial in the cross product with a multiple of the axis.
theorem axial_scale (axis : Vec3 ℝ) (angle a b c : ℝ) :
    axial (axis.scale angle) a b c = axial axis a (b * angle) (c * angle ^ 2) := by
  refine ext_apply fun v => ?_
  rw [axial_apply, axial_apply, Vec3.scale_cross, Vec3.scale_cross, Vec3.cross_scale]
  ext <;> simp only [Vec3.add_x, Vec3.add_y, Vec3.add_z, Vec3.scale_x, Vec3.scale_y, Vec3.scale_z] <;> ring

theorem turnAbout_eq_axial (axis : Vec3 ℝ) (angle : ℝ) :
    turnAbout axis angle = axial axis 1 (Real.sin angle) (1 - Real.cos angle) := by
  refine ext_apply fun v => ?_
  rw [turnAbout, axial_apply]
  simp only [add_apply, scale_apply, identity_apply, apply_mul, skew_apply, Vec3.scale_one]

theorem leftJacobian_eq_axial {angle : ℝ} (hangle : angle ≠ 0) (axis : Vec3 ℝ) :
    leftJacobian angle axis =
      axial axis 1 ((1 - Real.cos angle) / angle) ((angle - Real.sin angle) / angle) := by
  have hscaled : leftJacobian angle axis = axial (axis.scale angle) 1
      ((1 - Real.cos angle) / angle ^ 2) ((angle - Real.sin angle) / angle ^ 3) := by
    refine ext_apply fun v => ?_
    rw [leftJacobian, axial_apply]
    simp only [add_apply, scale_apply, identity_apply, apply_mul, skew_apply, Vec3.scale_one]
  rw [hscaled, axial_scale]
  congr 1 <;> field_simp

theorem axial_mul_leftJacobian (haxis : axis.IsUnit) {angle : ℝ} (hangle : angle ≠ 0)
    (hcos : 1 - Real.cos angle ≠ 0) :
    axial axis 1 (-(angle / 2)) (1 - angle / 2 * (Real.sin angle / (1 - Real.cos angle))) *
      leftJacobian angle axis = identity := by
  have hcircle := Real.sin_sq_add_cos_sq angle
  rw [leftJacobian_eq_axial hangle, axial_mul haxis, ← axial_one axis]
  congr 1
  · ring
  · field_simp
    ring
  · field_simp
    linear_combination -angle * hcircle

theorem leftJacobian_mul_axial (haxis : axis.IsUnit) {angle : ℝ} (hangle : angle ≠ 0) (a b c : ℝ) :
    leftJacobian angle axis * axial axis a b c = axial axis a b c * leftJacobian angle axis := by
  rw [leftJacobian_eq_axial hangle, axial_mul_comm haxis]

theorem leftJacobian_zero (axis : Vec3 ℝ) : leftJacobian 0 axis = identity := by
  refine ext_apply fun v => ?_
  rw [leftJacobian]
  simp only [add_apply, scale_apply, identity_apply, apply_mul, skew_apply, Vec3.scale_cross]
  ext <;> simp

end Axial

end Mat3

section Operator

variable {axis : Vec3 ℝ} {angle : ℝ}

theorem angularVelocityToLogRate_eq_axial (angle : ℝ) (axis : Vec3 ℝ) :
    angularVelocityToLogRate angle axis =
      Mat3.axial axis 1 (-(angle / 2)) (quadraticCoefficient |angle| * angle ^ 2) := by
  have hscaled : angularVelocityToLogRate angle axis =
      Mat3.axial (axis.scale angle) 1 (-(1 / 2)) (quadraticCoefficient |angle|) := by
    refine Mat3.ext_apply fun v => ?_
    rw [angularVelocityToLogRate_apply, Mat3.axial_apply, Scalar.real_half]
    ext <;> simp <;> ring
  rw [hscaled, Mat3.axial_scale]
  congr 1
  ring

theorem ne_zero_of_smallAngle_le (hlarge : smallAngle ≤ |angle|) : angle ≠ 0 :=
  abs_pos.mp (lt_of_lt_of_le smallAngle_pos hlarge)

theorem one_sub_cos_ne_zero (hangle : angle ≠ 0) (hturn : |angle| < 2 * Real.pi) :
    1 - Real.cos angle ≠ 0 := by
  rw [← Real.cos_abs]
  exact (one_sub_cos_pos (abs_pos.mpr hangle) hturn).ne'

-- The closed form does not see the sign of the angle.
theorem abs_mul_sin_abs_div (angle : ℝ) :
    |angle| / 2 * Real.sin |angle| / (1 - Real.cos |angle|) =
      angle / 2 * (Real.sin angle / (1 - Real.cos angle)) := by
  rw [Real.cos_abs]
  rcases abs_choice angle with h | h <;> rw [h]
  · ring
  · rw [Real.sin_neg]
    ring

theorem quadraticCoefficient_mul_sq (hlarge : smallAngle ≤ |angle|) :
    quadraticCoefficient |angle| * angle ^ 2 =
      1 - angle / 2 * (Real.sin angle / (1 - Real.cos angle)) := by
  have hne := ne_zero_of_smallAngle_le hlarge
  rw [quadraticCoefficient, if_neg (not_lt.mpr hlarge), Scalar.real_sin, Scalar.real_cos,
    abs_mul_abs_self, Scalar.real_half, one_div_mul_eq_div, abs_mul_sin_abs_div]
  field_simp

section ClosedForm

variable (hlarge : smallAngle ≤ |angle|) (hturn : |angle| < 2 * Real.pi)

include hlarge hturn

theorem angularVelocityToLogRate_mul_leftJacobian (haxis : axis.IsUnit) :
    angularVelocityToLogRate angle axis * Mat3.leftJacobian angle axis = .identity := by
  have hne := ne_zero_of_smallAngle_le hlarge
  rw [angularVelocityToLogRate_eq_axial, quadraticCoefficient_mul_sq hlarge]
  exact Mat3.axial_mul_leftJacobian haxis hne (one_sub_cos_ne_zero hne hturn)

theorem angularVelocityToLogRate_transpose_eq (haxis : axis.IsUnit) :
    (angularVelocityToLogRate angle axis).transpose =
      angularVelocityToLogRate angle axis * (Quat.ofAxisAngle axis angle).toMatrix := by
  have hcos := one_sub_cos_ne_zero (ne_zero_of_smallAngle_le hlarge) hturn
  have hcircle := Real.sin_sq_add_cos_sq angle
  rw [Quat.toMatrix_ofAxisAngle haxis, Mat3.turnAbout_eq_axial, angularVelocityToLogRate_eq_axial,
    quadraticCoefficient_mul_sq hlarge, Mat3.axial_transpose, Mat3.axial_mul haxis]
  congr 1
  · ring
  · field_simp
    linear_combination -angle * hcircle
  · field_simp
    ring

end ClosedForm

-- The operator keeps its axis and turns around with the angle. As far as it is taken from its closed form
-- it is the inverse of the left Jacobian, and is transposed by the rotation. Only at full turns would it
-- divide by zero.
theorem angularVelocityToLogRate_laws (haxis : axis.IsUnit) (angle : ℝ) :
    (angularVelocityToLogRate angle axis).apply axis = axis ∧
    (angularVelocityToLogRate angle axis).transpose = angularVelocityToLogRate (-angle) axis ∧
    (|angle| < smallAngle ∨ Real.cos angle ≠ 1 →
      (angularVelocityToLogRate angle axis).extend =
        angularVelocityToLogRate (ExtendedReal.real angle) axis.extend) ∧
    (1 / 100 ≤ |angle| → |angle| < 2 * Real.pi →
      angularVelocityToLogRate angle axis * Mat3.leftJacobian angle axis = .identity ∧
      Mat3.leftJacobian angle axis * angularVelocityToLogRate angle axis = .identity ∧
      (angularVelocityToLogRate angle axis).transpose =
        angularVelocityToLogRate angle axis * (Quat.ofAxisAngle axis angle).toMatrix) := by
  refine ⟨?alongAxis, ?opposite, fun hpartial => extend_angularVelocityToLogRate hpartial axis, ?closedForm⟩
  case alongAxis => rw [angularVelocityToLogRate_eq_axial, Mat3.axial_apply_self, Vec3.scale_one]
  case opposite =>
    rw [angularVelocityToLogRate_eq_axial, angularVelocityToLogRate_eq_axial, Mat3.axial_transpose, abs_neg,
      neg_sq, neg_div]
  case closedForm =>
    intro hlow hturn
    have hlarge : smallAngle ≤ |angle| := le_trans (by norm_num [smallAngle]) hlow
    have hproduct := angularVelocityToLogRate_mul_leftJacobian hlarge hturn haxis
    refine ⟨hproduct, ?_, angularVelocityToLogRate_transpose_eq hlarge hturn haxis⟩
    rw [Mat3.leftJacobian_eq_axial (ne_zero_of_smallAngle_le hlarge), angularVelocityToLogRate_eq_axial]
      at hproduct ⊢
    rw [Mat3.axial_mul_comm haxis, hproduct]

-- More than half a turn, about an oblique axis.
theorem angularVelocityToLogRate_laws_reflexTurn :
    let axis : Vec3 ℝ := ⟨2 / 3, -1 / 3, 2 / 3⟩
    (axis.IsUnit ∧ 1 / 100 ≤ |(5 : ℝ)| ∧ |(5 : ℝ)| < 2 * Real.pi) ∧
      (angularVelocityToLogRate 5 axis).apply axis = axis ∧
      angularVelocityToLogRate 5 axis * Mat3.leftJacobian 5 axis = .identity ∧
      (angularVelocityToLogRate 5 axis).transpose =
        angularVelocityToLogRate 5 axis * (Quat.ofAxisAngle axis 5).toMatrix := by
  intro axis
  have haxis : axis.IsUnit := by
    rw [Vec3.isUnit_iff]
    norm_num [Vec3.dot_eq, axis]
  have hlow : 1 / 100 ≤ |(5 : ℝ)| := by norm_num
  have hturn : |(5 : ℝ)| < 2 * Real.pi := by
    rw [abs_of_pos (by norm_num)]
    linarith [Real.pi_gt_three]
  obtain ⟨halong, _, _, hclosed⟩ := angularVelocityToLogRate_laws haxis 5
  obtain ⟨hproduct, _, htranspose⟩ := hclosed hlow hturn
  exact ⟨⟨haxis, hlow, hturn⟩, halong, hproduct, htranspose⟩

end Operator

end TaskSpace.Rigid
