import Mathlib
import TaskSpace.Proofs.Rigid.Exponential
import TaskSpace.Proofs.Rigid.Distance

namespace TaskSpace.Rigid

namespace Quat

def scale {α : Type} [Scalar α] (q : Quat α) (factor : α) : Quat α :=
  ⟨q.x * factor, q.y * factor, q.z * factor, q.w * factor⟩

-- Equal up to the sign: the same rotation, also of a vector by a quaternion that is no unit.
def SameRotation (p q : Quat ℝ) : Prop := p = q ∨ p = q.scale (-1)

variable {p p' q q' : Quat ℝ}

namespace SameRotation

theorem refl (q : Quat ℝ) : SameRotation q q := Or.inl rfl

theorem mul (hp : SameRotation p p') (hq : SameRotation q q') : SameRotation (p * q) (p' * q') := by
  rcases hp with rfl | rfl
  · rcases hq with rfl | rfl
    · exact .refl _
    · right; ext <;> simp [scale] <;> ring
  · rcases hq with rfl | rfl
    · right; ext <;> simp [scale] <;> ring
    · left; ext <;> simp [scale]

theorem conjugate (h : SameRotation p q) : SameRotation p.conjugate q.conjugate := by
  rcases h with rfl | rfl
  · exact .refl _
  · right; ext <;> simp [scale, Quat.conjugate]

theorem rotate_eq (h : SameRotation p q) (v : Vec3 ℝ) : p.rotate v = q.rotate v := by
  rcases h with rfl | rfl
  · rfl
  · ext <;> simp [scale, rotate, imaginary] <;> ring

theorem toMatrix_eq (h : SameRotation p q) : p.toMatrix = q.toMatrix := by
  rcases h with rfl | rfl
  · rfl
  · ext <;> simp [scale, toMatrix]

section Logarithm

theorem imaginary_norm_scale_neg (q : Quat ℝ) : (q.scale (-1)).imaginary.norm = q.imaginary.norm :=
  Vec3.norm_scale_neg q.imaginary

theorem halfAngle_scale_neg (q : Quat ℝ) : (q.scale (-1)).halfAngle = q.halfAngle := by
  have hw : |(q.scale (-1)).w| = |q.w| := by
    simp [scale]
  rw [halfAngle, imaginary_norm_scale_neg, hw, halfAngle]

-- At a half turn the real part has no sign of its own, and the logarithm follows the quaternion.
theorem rotationLog_scale_neg (hw : q.w = 0) :
    (q.scale (-1)).rotationLog = q.rotationLog.scale (-1) := by
  have hw' : (q.scale (-1)).w = q.w := by
    simp [scale, hw]
  rw [rotationLog_of_parts (imaginary_norm_scale_neg q) hw', rotationLog_eq_scale q]
  ext <;> simp [scale, imaginary]

-- The axis is turned around with the quaternion, and back again by the sign of the real part.
theorem angleAxis_eq (h : SameRotation p q) (hw : q.w ≠ 0) : p.angleAxis = q.angleAxis := by
  rcases h with rfl | rfl
  · rfl
  by_cases hzero : q.imaginary.norm = 0
  · rw [angleAxis_of_eq_zero hzero, angleAxis_of_eq_zero (by rwa [imaginary_norm_scale_neg])]
  · have hsign : Scalar.signum (q.scale (-1)).w = -Scalar.signum q.w := by
      simp only [scale, Scalar.real_signum]
      rcases lt_or_gt_of_ne hw with hneg | hpos
      · rw [if_neg (by linarith), if_pos hneg, neg_neg]
      · rw [if_pos (by linarith), if_neg (not_lt.mpr hpos.le)]
    rw [angleAxis_of_ne_zero hzero, angleAxis_of_ne_zero (by rwa [imaginary_norm_scale_neg]),
      halfAngle_scale_neg, imaginary_norm_scale_neg, hsign]
    generalize Scalar.signum q.w = sign
    congr 2
    ext <;> simp only [scale, imaginary, Vec3.scale_x, Vec3.scale_y, Vec3.scale_z, Vec3.divide_x,
      Vec3.divide_y, Vec3.divide_z] <;> ring

theorem rotationLog_eq (h : SameRotation p q) (hw : q.w ≠ 0) : p.rotationLog = q.rotationLog := by
  unfold rotationLog
  rw [h.angleAxis_eq hw]

theorem logRate_eq (h : SameRotation p q) (hw : q.w ≠ 0) : p.logRate = q.logRate := by
  unfold logRate
  rw [h.angleAxis_eq hw]

theorem rotationLog_eq_or (h : SameRotation p q) :
    p.rotationLog = q.rotationLog ∨ p.rotationLog = q.rotationLog.scale (-1) := by
  by_cases hw : q.w = 0
  · rcases h with rfl | rfl
    · exact Or.inl rfl
    · exact Or.inr (rotationLog_scale_neg hw)
  · exact Or.inl (h.rotationLog_eq hw)

end Logarithm

end SameRotation

-- A half turn has no real part.
theorem IsUnit.angle_eq_pi (hq : q.IsUnit) (hw : q.w = 0) : q.toMatrix.angle = Real.pi := by
  have hcos : Real.cos q.halfAngle = Real.cos (Real.pi / 2) := by
    rw [hq.cos_halfAngle, hw, abs_zero, Real.cos_pi_div_two]
  have hhalf : q.halfAngle = Real.pi / 2 :=
    Real.injOn_cos ⟨halfAngle_nonneg, by linarith [halfAngle_le (q := q), Real.pi_pos]⟩
      ⟨by linarith [Real.pi_pos], by linarith [Real.pi_pos]⟩ hcos
  rw [hq.angle_toMatrix, angleAxis_fst, hhalf]
  ring

theorem norm_scale (q : Quat ℝ) (factor : ℝ) : (q.scale factor).norm = |factor| * q.norm := by
  have hsum : (q.x * factor * (q.x * factor) + q.z * factor * (q.z * factor)) +
      (q.y * factor * (q.y * factor) + q.w * factor * (q.w * factor)) =
      factor ^ 2 * ((q.x * q.x + q.z * q.z) + (q.y * q.y + q.w * q.w)) := by
    ring
  simp only [norm, scale, hsum, Scalar.real_sqrt, Real.sqrt_mul (sq_nonneg factor), Real.sqrt_sq_eq_abs]

-- A multiple is brought back to length one, on one side or on the other.
theorem sameRotation_normalize_scale (q : Quat ℝ) {factor : ℝ} (hfactor : factor ≠ 0) :
    SameRotation (q.scale factor).normalize q.normalize := by
  have hentry : ∀ entry : ℝ, entry * factor / (|factor| * q.norm) = factor / |factor| * (entry / q.norm) := by
    intro entry
    rw [mul_comm entry, mul_div_mul_comm]
  rcases lt_or_gt_of_ne hfactor with hneg | hpos
  · right
    have hsign : factor / |factor| = -1 := by
      rw [abs_of_neg hneg, div_neg, div_self hfactor]
    unfold normalize
    rw [norm_scale]
    ext <;> simp only [scale, hentry, hsign] <;> ring
  · left
    have hsign : factor / |factor| = 1 := by
      rw [abs_of_pos hpos, div_self hfactor]
    unfold normalize
    rw [norm_scale]
    ext <;> simp only [scale, hentry, hsign, one_mul]

-- Full turns change the sign at most.
theorem sameRotation_ofAxisAngle_add (v : Vec3 ℝ) (angle : ℝ) (turns : ℤ) :
    SameRotation (ofAxisAngle v (angle + turns * (2.0 * Real.pi))) (ofAxisAngle v angle) := by
  have hangle : (angle + turns * (2.0 * Real.pi)) / 2.0 = angle / 2.0 + turns * Real.pi := by
    rw [Scalar.real_two]
    ring
  unfold ofAxisAngle
  rw [hangle, Scalar.real_sin, Scalar.real_cos, Real.sin_add_int_mul_pi, Real.cos_add_int_mul_pi]
  rcases Int.even_or_odd turns with heven | hodd
  · left
    rw [heven.neg_one_zpow, one_mul, one_mul]
    rfl
  · right
    rw [hodd.neg_one_zpow]
    ext <;> simp [scale, ofParts]

end Quat

end TaskSpace.Rigid
