import Mathlib
import TaskSpace.Proofs.Rigid.CrossProduct
import TaskSpace.Proofs.Rigid.Extension

namespace TaskSpace.Rigid

open ExtendedReal (real)

section Combination

variable {α : Type} [Scalar α]

-- The product of the matrix with these columns and the vector with these entries.
def Vec3.combine (columns : List (Vec3 α)) (entries : List α) : Vec3 α :=
  (List.zipWith scale columns entries).foldr (· + ·) zero

-- The velocity of a link whose joints move at these speeds, from its velocities for single joints.
def Twist.combine (twists : List (Twist α)) (speeds : List α) : Twist α :=
  ⟨Vec3.combine (twists.map linear) speeds, Vec3.combine (twists.map angular) speeds⟩

namespace Vec3

@[simp] theorem combine_nil (entries : List α) : combine [] entries = zero := rfl

@[simp] theorem combine_cons (column : Vec3 α) (columns : List (Vec3 α)) (entry : α) (entries : List α) :
    combine (column :: columns) (entry :: entries) = column.scale entry + combine columns entries := rfl

end Vec3

end Combination

namespace Vec3

theorem extend_combine (columns : List (Vec3 ℝ)) (entries : List ℝ) :
    (combine columns entries).extend = combine (columns.map extend) (entries.map real) := by
  induction columns generalizing entries with
  | nil => exact extend_zero
  | cons column columns ih =>
      cases entries with
      | nil => exact extend_zero
      | cons entry entries =>
          rw [combine_cons, extend_add, extend_scale, ih, List.map_cons, List.map_cons, combine_cons]

theorem dot_self_eq_zero_iff (v : Vec3 ℝ) : v.dot v = 0 ↔ v = zero := by
  rw [← norm_sq, sq_eq_zero_iff, norm_eq_zero_iff]

theorem cross_cross_self (v w : Vec3 ℝ) :
    v.cross (v.cross w) = v.scale (v.dot w) - w.scale (v.dot v) := by
  ext <;> simp only [cross_x, cross_y, cross_z, sub_x, sub_y, sub_z, scale_x, scale_y, scale_z,
    dot_eq] <;> ring

@[simp] theorem cross_zero (v : Vec3 ℝ) : v.cross zero = zero := by
  ext <;> simp

@[simp] theorem zero_scale (factor : ℝ) : (zero : Vec3 ℝ).scale factor = zero := by
  ext <;> simp

theorem scale_eq_zero_iff {factor : ℝ} (hfactor : factor ≠ 0) {v : Vec3 ℝ} :
    v.scale factor = zero ↔ v = zero := by
  simp [Vec3.ext_iff, hfactor]

-- The cross product with a direction only loses what is parallel to it.
theorem normalize_cross_eq_zero_iff {direction : Vec3 ℝ} (hdirection : direction ≠ zero) (v : Vec3 ℝ) :
    direction.normalize.cross v = zero ↔ ∃ amount, v = direction.scale amount := by
  have hscale : direction.normalize = direction.scale direction.norm⁻¹ := by
    ext <;> simp [normalize, div_eq_mul_inv]
  have hunit := (isUnit_iff _).mp (direction.normalize_isUnit hdirection)
  constructor
  · intro hzero
    have htwice := cross_cross_self direction.normalize v
    rw [hzero, cross_zero, hunit, scale_one, eq_comm, sub_eq_zero_iff] at htwice
    have hparallel : direction.scale (direction.norm⁻¹ * direction.normalize.dot v) = v := by
      rw [← scale_scale, ← hscale, htwice]
    exact ⟨_, hparallel.symm⟩
  · rintro ⟨amount, rfl⟩
    rw [hscale, scale_cross, cross_scale]
    ext <;> simp only [scale_x, scale_y, scale_z, cross_x, cross_y, cross_z, zero_x, zero_y, zero_z] <;> ring

end Vec3

namespace Mat3

theorem apply_add (m : Mat3 ℝ) (v w : Vec3 ℝ) : m.apply (v + w) = m.apply v + m.apply w := by
  ext <;> simp [apply, Vec3.dot_eq] <;> ring

@[simp] theorem apply_zero (m : Mat3 ℝ) : m.apply .zero = .zero := by
  ext <;> simp [apply, Vec3.dot_eq]

theorem apply_combine (m : Mat3 ℝ) (columns : List (Vec3 ℝ)) (entries : List ℝ) :
    m.apply (Vec3.combine columns entries) = Vec3.combine (columns.map m.apply) entries := by
  induction columns generalizing entries with
  | nil => exact m.apply_zero
  | cons column columns ih =>
      cases entries with
      | nil => exact m.apply_zero
      | cons entry entries =>
          rw [Vec3.combine_cons, apply_add, apply_scale, ih, List.map_cons, Vec3.combine_cons]

end Mat3

theorem Quat.IsUnit.rotate_eq_zero_iff {q : Quat ℝ} (hq : q.IsUnit) (v : Vec3 ℝ) :
    q.rotate v = .zero ↔ v = .zero := by
  rw [← Vec3.norm_eq_zero_iff, hq.norm_rotate, Vec3.norm_eq_zero_iff]

theorem Quat.IsUnit.transpose_apply_eq_zero_iff {q : Quat ℝ} (hq : q.IsUnit) (v : Vec3 ℝ) :
    q.toMatrix.transpose.apply v = .zero ↔ v = .zero := by
  rw [← toMatrix_conjugate, ← hq.conjugate.rotate_eq, hq.conjugate.rotate_eq_zero_iff]

-- Whatever the coefficient of the quadratic term is: it does not reach along the cross product with the
-- turn, where the linear term leaves half of it.
theorem Vec3.turned_eq_zero_iff (turn v : Vec3 ℝ) (coefficient : ℝ) :
    v - (turn.cross v).scale 0.5 + (turn.cross (turn.cross v)).scale coefficient = zero ↔ v = zero := by
  constructor
  · intro hzero
    have halong : (turn.cross v).dot
        (v - (turn.cross v).scale 0.5 + (turn.cross (turn.cross v)).scale coefficient) =
          -(turn.cross v).dot (turn.cross v) / 2 := by
      simp only [dot_eq, cross_x, cross_y, cross_z, add_x, add_y, add_z, sub_x, sub_y, sub_z, scale_x,
        scale_y, scale_z, Scalar.real_half]
      ring
    have hacross : turn.cross v = zero := by
      rw [← dot_self_eq_zero_iff]
      rw [hzero, dot_eq] at halong
      simp only [zero_x, zero_y, zero_z] at halong
      linarith
    simpa only [hacross, cross_zero, zero_scale, sub_zero, add_zero] using hzero
  · rintro rfl
    simp only [cross_zero, zero_scale, sub_zero, add_zero]

-- No angular velocity keeps the exponential coordinates in place, at any rotation.
theorem Quat.logRate_apply_eq_zero_iff (q : Quat ℝ) (velocity : Vec3 ℝ) :
    q.logRate.apply velocity = .zero ↔ velocity = .zero := by
  unfold logRate
  rcases q.angleAxis with ⟨angle, _ | axis⟩
  · rw [Mat3.identity_apply]
  · rw [angularVelocityToLogRate_apply]
    exact Vec3.turned_eq_zero_iff _ _ _

end TaskSpace.Rigid
