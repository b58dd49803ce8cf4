import Mathlib
import TaskSpace.Proofs.Rigid.Distance
import TaskSpace.Proofs.Rigid.Logarithm

namespace TaskSpace.Rigid

namespace Mat3

-- The rotation by an angle about a unit axis.
noncomputable def turnAbout (axis : Vec3 ℝ) (angle : ℝ) : Mat3 ℝ :=
  identity + (skew axis).scale (Real.sin angle) + (skew axis * skew axis).scale (1 - Real.cos angle)

-- The rotation about a vector by its length.
noncomputable def exponential (v : Vec3 ℝ) : Mat3 ℝ := turnAbout v.normalize v.norm

def trace (m : Mat3 ℝ) : ℝ := m.rows.x.x + m.rows.y.y + m.rows.z.z

theorem trace_identity : (identity : Mat3 ℝ).trace = 3 := by
  norm_num [trace, identity]

@[simp] theorem identity_mul (m : Mat3 ℝ) : identity * m = m := by
  ext <;> simp [column, identity, Vec3.dot_eq]

theorem exponential_zero : exponential .zero = identity := by
  ext <;> simp [exponential, turnAbout, Vec3.normalize, skew, scale, column, Vec3.dot_eq]

-- The same with the vector as a multiple of another one.
theorem exponential_scale (v : Vec3 ℝ) (factor : ℝ) :
    exponential (v.scale factor) = identity +
      (skew v).scale (factor * (Real.sin (v.scale factor).norm / (v.scale factor).norm)) +
      (skew v * skew v).scale
        (factor ^ 2 * ((1 - Real.cos (v.scale factor).norm) / (v.scale factor).norm ^ 2)) := by
  unfold exponential turnAbout Vec3.normalize
  ext <;> simp [skew, scale, column, Vec3.dot_eq] <;> ring

end Mat3

namespace Quat

variable {q : Quat ℝ}

-- The matrix of a unit quaternion, by its imaginary part.
theorem IsUnit.toMatrix_eq (hq : q.IsUnit) :
    q.toMatrix = Mat3.identity + (Mat3.skew q.imaginary).scale (2 * q.w) +
      (Mat3.skew q.imaginary * Mat3.skew q.imaginary).scale 2 := by
  rw [isUnit_iff] at hq
  ext <;> simp only [toMatrix, Mat3.identity, Mat3.skew, Mat3.scale, Mat3.column, imaginary,
    Mat3.add_rows, Mat3.mul_rows, Vec3.zipWith_x, Vec3.zipWith_y, Vec3.zipWith_z, Vec3.map_x, Vec3.map_y,
    Vec3.map_z, Vec3.add_x, Vec3.add_y, Vec3.add_z, Vec3.scale_x, Vec3.scale_y, Vec3.scale_z,
    Vec3.ofAxes_x, Vec3.ofAxes_y, Vec3.ofAxes_z, Vec3.get_x, Vec3.get_y, Vec3.get_z, Vec3.dot_eq,
    Scalar.real_two]
  · linear_combination hq
  · ring
  · ring
  · ring
  · linear_combination hq
  · ring
  · ring
  · ring
  · linear_combination hq

-- The same by the half angle.
theorem toMatrix_ofAxisAngle {v : Vec3 ℝ} (hv : v.IsUnit) (angle : ℝ) :
    (ofAxisAngle v angle).toMatrix = Mat3.turnAbout v angle := by
  have hsin : Real.sin angle = 2 * Real.sin (angle / 2) * Real.cos (angle / 2) := by
    rw [← Real.sin_two_mul, mul_div_cancel₀ angle two_ne_zero]
  have hcos : 1 - Real.cos angle = 2 * Real.sin (angle / 2) ^ 2 := by
    have hdouble := Real.cos_two_mul (angle / 2)
    rw [mul_div_cancel₀ angle two_ne_zero] at hdouble
    linear_combination -hdouble - 2 * Real.sin_sq_add_cos_sq (angle / 2)
  rw [(isUnit_ofAxisAngle hv angle).toMatrix_eq, imaginary_ofAxisAngle, ofAxisAngle_w, Mat3.turnAbout, hsin,
    hcos]
  ext <;> simp only [Mat3.skew, Mat3.scale, Mat3.column, Mat3.add_rows, Mat3.mul_rows, Vec3.zipWith_x,
    Vec3.zipWith_y, Vec3.zipWith_z, Vec3.map_x, Vec3.map_y, Vec3.map_z, Vec3.add_x, Vec3.add_y, Vec3.add_z,
    Vec3.scale_x, Vec3.scale_y, Vec3.scale_z, Vec3.ofAxes_x, Vec3.ofAxes_y, Vec3.ofAxes_z, Vec3.get_x,
    Vec3.get_y, Vec3.get_z, Vec3.dot_eq] <;> ring

theorem IsUnit.trace_toMatrix (hq : q.IsUnit) :
    q.toMatrix.trace = 1 + 2 * Real.cos (2 * q.halfAngle) := by
  have hunit := (isUnit_iff q).mp hq
  rw [Real.cos_two_mul, hq.cos_halfAngle, sq_abs]
  simp only [Mat3.trace, toMatrix]
  linear_combination -hunit

-- The factor from the imaginary part to the exponential coordinates. Without an axis both are zero,
-- whatever the factor is.
theorem rotationLog_eq_scale (q : Quat ℝ) :
    q.rotationLog =
      q.imaginary.scale (Scalar.signum q.w * (2 * q.halfAngle) / q.imaginary.norm) := by
  unfold rotationLog
  by_cases hzero : q.imaginary.norm = 0
  · rw [angleAxis_of_eq_zero hzero, (Vec3.norm_eq_zero_iff _).mp hzero]
    ext <;> simp
  · rw [angleAxis_of_ne_zero hzero]
    ext <;> simp only [Vec3.scale_x, Vec3.scale_y, Vec3.scale_z, Vec3.divide_x, Vec3.divide_y,
      Vec3.divide_z] <;> ring

-- Besides the imaginary part itself, the logarithm only sees its length and the real part.
theorem rotationLog_of_parts {p : Quat ℝ} (hnorm : p.imaginary.norm = q.imaginary.norm) (hw : p.w = q.w) :
    p.rotationLog =
      p.imaginary.scale (Scalar.signum q.w * (2 * q.halfAngle) / q.imaginary.norm) := by
  rw [rotationLog_eq_scale, halfAngle, hnorm, hw, halfAngle]

-- The length of the exponential coordinates is the angle.
theorem norm_rotationLog (q : Quat ℝ) : q.rotationLog.norm = 2 * q.halfAngle := by
  by_cases hzero : q.imaginary.norm = 0
  · have hangle := angleAxis_fst (q := q)
    rw [angleAxis_of_eq_zero hzero] at hangle
    rw [← hangle, rotationLog, angleAxis_of_eq_zero hzero]
    exact (Vec3.norm_eq_zero_iff _).mpr rfl
  · have hsign : |Scalar.signum q.w| = 1 := by
      rw [← sq_eq_sq₀ (abs_nonneg _) zero_le_one, sq_abs, signum_sq, one_pow]
    rw [rotationLog_eq_scale, Vec3.norm_scale, abs_div, abs_mul, hsign,
      abs_of_nonneg (mul_nonneg zero_le_two halfAngle_nonneg), abs_of_nonneg q.imaginary.norm_nonneg]
    field_simp

-- Exponential coordinates are those of the rotation, also for half turns and with either sign.
theorem IsUnit.exponential_rotationLog (hq : q.IsUnit) : Mat3.exponential q.rotationLog = q.toMatrix := by
  by_cases hzero : q.imaginary.norm = 0
  · have himaginary := (Vec3.norm_eq_zero_iff _).mp hzero
    rw [rotationLog, angleAxis_of_eq_zero hzero, hq.toMatrix_eq, himaginary]
    refine Mat3.exponential_zero.trans ?_
    ext <;> simp [Mat3.skew, Mat3.scale, Mat3.column, Vec3.dot_eq]
  · have hhalf : q.halfAngle ≠ 0 := by
      intro h
      have hsin := hq.sin_halfAngle
      rw [h, Real.sin_zero] at hsin
      exact hzero hsin.symm
    have hnorm := norm_rotationLog q
    rw [rotationLog_eq_scale] at hnorm ⊢
    -- The sign of the real part leaves the two coefficients of the quaternion.
    have hlinear : Scalar.signum q.w * (2 * q.halfAngle) / q.imaginary.norm *
        (Real.sin (2 * q.halfAngle) / (2 * q.halfAngle)) = 2 * q.w := by
      rw [hq.sin_two_mul_halfAngle, ← signum_mul_w]
      field_simp
      rw [signum_sq, one_mul]
    have hquadratic : (Scalar.signum q.w * (2 * q.halfAngle) / q.imaginary.norm) ^ 2 *
        ((1 - Real.cos (2 * q.halfAngle)) / (2 * q.halfAngle) ^ 2) = 2 := by
      rw [hq.one_sub_cos_two_mul_halfAngle]
      field_simp
      rw [signum_sq]
    rw [Mat3.exponential_scale, hnorm, hlinear, hquadratic, hq.toMatrix_eq]

end Quat

end TaskSpace.Rigid
