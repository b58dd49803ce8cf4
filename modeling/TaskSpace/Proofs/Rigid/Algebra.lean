import Mathlib
import TaskSpace.Proofs.Reals
import TaskSpace.Rigid.Pose

namespace TaskSpace.Rigid

attribute [ext] Vec3 Mat3 Quat Pose Twist

namespace Vec3

section Entries

variable {α β γ δ : Type} [Scalar α] (v w : Vec3 α) (factor : α)

@[simp] theorem map_x (f : β → γ) (u : Vec3 β) : (u.map f).x = f u.x := rfl
@[simp] theorem map_y (f : β → γ) (u : Vec3 β) : (u.map f).y = f u.y := rfl
@[simp] theorem map_z (f : β → γ) (u : Vec3 β) : (u.map f).z = f u.z := rfl

@[simp] theorem zipWith_x (f : β → γ → δ) (u : Vec3 β) (t : Vec3 γ) : (u.zipWith f t).x = f u.x t.x := rfl
@[simp] theorem zipWith_y (f : β → γ → δ) (u : Vec3 β) (t : Vec3 γ) : (u.zipWith f t).y = f u.y t.y := rfl
@[simp] theorem zipWith_z (f : β → γ → δ) (u : Vec3 β) (t : Vec3 γ) : (u.zipWith f t).z = f u.z t.z := rfl

@[simp] theorem ofAxes_x (entry : Axis → β) : (ofAxes entry).x = entry .x := rfl
@[simp] theorem ofAxes_y (entry : Axis → β) : (ofAxes entry).y = entry .y := rfl
@[simp] theorem ofAxes_z (entry : Axis → β) : (ofAxes entry).z = entry .z := rfl

@[simp] theorem get_x (u : Vec3 β) : u.get .x = u.x := rfl
@[simp] theorem get_y (u : Vec3 β) : u.get .y = u.y := rfl
@[simp] theorem get_z (u : Vec3 β) : u.get .z = u.z := rfl

@[simp] theorem zero_x : (zero : Vec3 α).x = 0 := rfl
@[simp] theorem zero_y : (zero : Vec3 α).y = 0 := rfl
@[simp] theorem zero_z : (zero : Vec3 α).z = 0 := rfl

@[simp] theorem add_x : (v + w).x = v.x + w.x := rfl
@[simp] theorem add_y : (v + w).y = v.y + w.y := rfl
@[simp] theorem add_z : (v + w).z = v.z + w.z := rfl

@[simp] theorem sub_x : (v - w).x = v.x - w.x := rfl
@[simp] theorem sub_y : (v - w).y = v.y - w.y := rfl
@[simp] theorem sub_z : (v - w).z = v.z - w.z := rfl

@[simp] theorem scale_x : (v.scale factor).x = v.x * factor := rfl
@[simp] theorem scale_y : (v.scale factor).y = v.y * factor := rfl
@[simp] theorem scale_z : (v.scale factor).z = v.z * factor := rfl

@[simp] theorem divide_x : (v.divide factor).x = v.x / factor := rfl
@[simp] theorem divide_y : (v.divide factor).y = v.y / factor := rfl
@[simp] theorem divide_z : (v.divide factor).z = v.z / factor := rfl

@[simp] theorem cross_x : (v.cross w).x = v.y * w.z - v.z * w.y := rfl
@[simp] theorem cross_y : (v.cross w).y = v.z * w.x - v.x * w.z := rfl
@[simp] theorem cross_z : (v.cross w).z = v.x * w.y - v.y * w.x := rfl

theorem dot_eq : v.dot w = v.x * w.x + v.y * w.y + v.z * w.z := rfl

end Entries

theorem ext_get {β : Type} {v w : Vec3 β} (h : ∀ axis, v.get axis = w.get axis) : v = w :=
  Vec3.ext (h .x) (h .y) (h .z)

def IsUnit (v : Vec3 ℝ) : Prop := v.norm = 1

theorem dot_self_nonneg (v : Vec3 ℝ) : 0 ≤ v.dot v := by
  have hx := mul_self_nonneg v.x
  have hy := mul_self_nonneg v.y
  have hz := mul_self_nonneg v.z
  rw [dot_eq]
  linarith

theorem norm_sq (v : Vec3 ℝ) : v.norm ^ 2 = v.dot v := Real.sq_sqrt v.dot_self_nonneg

theorem norm_nonneg (v : Vec3 ℝ) : 0 ≤ v.norm := Real.sqrt_nonneg _

theorem isUnit_iff (v : Vec3 ℝ) : v.IsUnit ↔ v.dot v = 1 := Real.sqrt_eq_one

@[simp] theorem add_zero (v : Vec3 ℝ) : v + zero = v := by
  ext <;> simp

@[simp] theorem sub_zero (v : Vec3 ℝ) : v - zero = v := by
  ext <;> simp

theorem add_assoc (u v w : Vec3 ℝ) : u + v + w = u + (v + w) := by
  ext <;> simp <;> ring

theorem scale_scale (v : Vec3 ℝ) (first second : ℝ) :
    (v.scale first).scale second = v.scale (first * second) := by
  ext <;> simp <;> ring

theorem scale_cross (v w : Vec3 ℝ) (factor : ℝ) :
    (v.scale factor).cross w = (v.cross w).scale factor := by
  ext <;> simp <;> ring

theorem cross_scale (v w : Vec3 ℝ) (factor : ℝ) :
    v.cross (w.scale factor) = (v.cross w).scale factor := by
  ext <;> simp <;> ring

theorem norm_eq_zero_iff (v : Vec3 ℝ) : v.norm = 0 ↔ v = zero := by
  constructor
  · intro h
    have hdot : v.x * v.x + v.y * v.y + v.z * v.z = 0 := by
      rw [← dot_eq, ← norm_sq, h]
      ring
    ext
    · simp only [zero_x]; nlinarith
    · simp only [zero_y]; nlinarith
    · simp only [zero_z]; nlinarith
  · rintro rfl
    simp [norm, dot_eq]

-- A direction brought to length one has length one, unless it was zero.
theorem normalize_isUnit (v : Vec3 ℝ) (hv : v ≠ zero) : v.normalize.IsUnit := by
  have hn : v.norm ≠ 0 := fun h => hv (v.norm_eq_zero_iff.mp h)
  have hs : v.x * v.x + v.y * v.y + v.z * v.z = v.norm ^ 2 := v.norm_sq.symm
  rw [isUnit_iff]
  simp only [dot_eq, normalize, divide_x, divide_y, divide_z]
  field_simp
  linear_combination hs

theorem IsUnit.normalize_eq {v : Vec3 ℝ} (hv : v.IsUnit) : v.normalize = v := by
  rw [IsUnit] at hv
  ext <;> simp [normalize, hv]

end Vec3

namespace Mat3

variable (m n : Mat3 ℝ) (v w : Vec3 ℝ) (factor : ℝ)

@[simp] theorem add_rows : (m + n).rows = m.rows.zipWith (· + ·) n.rows := rfl
@[simp] theorem sub_rows : (m - n).rows = m.rows.zipWith (· - ·) n.rows := rfl
@[simp] theorem neg_rows : (-m).rows = m.rows.map (·.map (- ·)) := rfl
@[simp] theorem mul_rows :
    (m * n).rows = m.rows.map fun row => Vec3.ofAxes fun axis => row.dot (n.column axis) := rfl

theorem apply_mul : (m * n).apply v = m.apply (n.apply v) := by
  ext <;> simp [apply, column, Vec3.dot_eq] <;> ring

theorem apply_scale : m.apply (v.scale factor) = (m.apply v).scale factor := by
  ext <;> simp [apply, Vec3.dot_eq] <;> ring

theorem apply_dot : (m.apply v).dot w = v.dot (m.transpose.apply w) := by
  simp [apply, transpose, column, Vec3.dot_eq]
  ring

theorem add_apply : (m + n).apply v = m.apply v + n.apply v := by
  ext <;> simp [apply, Vec3.dot_eq] <;> ring

theorem sub_apply : (m - n).apply v = m.apply v - n.apply v := by
  ext <;> simp [apply, Vec3.dot_eq] <;> ring

theorem scale_apply : (m.scale factor).apply v = (m.apply v).scale factor := by
  ext <;> simp [apply, scale, Vec3.dot_eq] <;> ring

theorem neg_apply : (-m).apply v = (m.apply v).scale (-1) := by
  ext <;> simp [apply, Vec3.dot_eq] <;> ring

@[simp] theorem identity_apply : identity.apply v = v := by
  ext <;> simp [apply, identity, Vec3.dot_eq]

@[simp] theorem skew_apply : (skew v).apply w = v.cross w := by
  ext <;> simp [apply, skew, Vec3.dot_eq] <;> ring

theorem mul_assoc (k : Mat3 ℝ) : m * n * k = m * (n * k) := by
  ext <;> simp [column, Vec3.dot_eq] <;> ring

@[simp] theorem mul_identity : m * identity = m := by
  ext <;> simp [column, identity, Vec3.dot_eq]

theorem skew_injective (h : skew v = skew w) : v = w := by
  simp only [skew, Mat3.mk.injEq, Vec3.mk.injEq] at h
  ext
  · exact h.2.2.2.1
  · exact h.1.2.2
  · exact h.2.1.1

end Mat3

namespace Quat

variable (p q r : Quat ℝ) (v w : Vec3 ℝ)

@[simp] theorem mul_x : (p * q).x = p.w * q.x + p.x * q.w + p.y * q.z - p.z * q.y := rfl
@[simp] theorem mul_y : (p * q).y = p.w * q.y - p.x * q.z + p.y * q.w + p.z * q.x := rfl
@[simp] theorem mul_z : (p * q).z = p.w * q.z + p.x * q.y - p.y * q.x + p.z * q.w := rfl
@[simp] theorem mul_w : (p * q).w = p.w * q.w - p.x * q.x - p.y * q.y - p.z * q.z := rfl

-- A vector as a quaternion without real part.
def pure (v : Vec3 ℝ) : Quat ℝ := ofParts v 0

def IsUnit (q : Quat ℝ) : Prop := q.norm = 1

theorem isUnit_iff : q.IsUnit ↔ q.x ^ 2 + q.y ^ 2 + q.z ^ 2 + q.w ^ 2 = 1 := by
  rw [IsUnit, norm, Scalar.real_sqrt, Real.sqrt_eq_one]
  constructor <;> intro h <;> linear_combination h

variable {p q}

theorem isUnit_identity : (identity : Quat ℝ).IsUnit := by
  simp [isUnit_iff, identity]

theorem sum_mul_self_nonneg (q : Quat ℝ) :
    0 ≤ (q.x * q.x + q.z * q.z) + (q.y * q.y + q.w * q.w) := by
  have hx := mul_self_nonneg q.x
  have hy := mul_self_nonneg q.y
  have hz := mul_self_nonneg q.z
  have hw := mul_self_nonneg q.w
  linarith

theorem normalize_isUnit (hq : q.norm ≠ 0) : q.normalize.IsUnit := by
  have hnorm : q.norm ^ 2 = (q.x * q.x + q.z * q.z) + (q.y * q.y + q.w * q.w) :=
    Real.sq_sqrt q.sum_mul_self_nonneg
  rw [isUnit_iff]
  simp only [normalize]
  field_simp
  linear_combination -hnorm

theorem IsUnit.normalize_eq (hq : q.IsUnit) : q.normalize = q := by
  unfold normalize
  rw [hq]
  ext <;> simp

theorem IsUnit.mul (hp : p.IsUnit) (hq : q.IsUnit) : (p * q).IsUnit := by
  rw [isUnit_iff] at *
  simp only [mul_x, mul_y, mul_z, mul_w]
  linear_combination (q.x ^ 2 + q.y ^ 2 + q.z ^ 2 + q.w ^ 2) * hp + hq

theorem IsUnit.conjugate (hq : q.IsUnit) : q.conjugate.IsUnit := by
  rw [isUnit_iff] at *
  simp only [Quat.conjugate]
  linear_combination hq

theorem mul_assoc : p * q * r = p * (q * r) := by
  ext <;> simp <;> ring

@[simp] theorem identity_mul : identity * q = q := by
  ext <;> simp [identity]

@[simp] theorem mul_identity : q * identity = q := by
  ext <;> simp [identity]

@[simp] theorem conjugate_conjugate : q.conjugate.conjugate = q := by
  ext <;> simp [Quat.conjugate]

@[simp] theorem conjugate_identity : (identity : Quat ℝ).conjugate = identity := by
  ext <;> simp [Quat.conjugate, identity]

theorem conjugate_mul : (p * q).conjugate = q.conjugate * p.conjugate := by
  ext <;> simp [Quat.conjugate] <;> ring

theorem IsUnit.mul_conjugate (hq : q.IsUnit) : q * q.conjugate = identity := by
  rw [isUnit_iff] at hq
  ext <;> simp only [mul_x, mul_y, mul_z, mul_w, Quat.conjugate, identity]
  · ring
  · ring
  · ring
  · linear_combination hq

theorem IsUnit.conjugate_mul_self (hq : q.IsUnit) : q.conjugate * q = identity := by
  have hc := hq.conjugate.mul_conjugate
  rwa [conjugate_conjugate] at hc

theorem toMatrix_mul : (p * q).toMatrix = p.toMatrix * q.toMatrix := by
  ext <;> simp [toMatrix, Mat3.column, Vec3.dot_eq] <;> ring

theorem toMatrix_conjugate : q.conjugate.toMatrix = q.toMatrix.transpose := by
  ext <;> simp [toMatrix, Quat.conjugate, Mat3.transpose, Mat3.column] <;> ring

@[simp] theorem toMatrix_identity : (identity : Quat ℝ).toMatrix = .identity := by
  ext <;> simp [toMatrix, identity, Mat3.identity]

theorem IsUnit.toMatrix_mul_transpose (hq : q.IsUnit) :
    q.toMatrix * q.toMatrix.transpose = .identity := by
  rw [← toMatrix_conjugate, ← toMatrix_mul, hq.mul_conjugate, toMatrix_identity]

theorem IsUnit.mul_toMatrix_cancel (hq : q.IsUnit) {m n : Mat3 ℝ}
    (h : m * q.toMatrix = n * q.toMatrix) : m = n := by
  have hcancel := congrArg (· * q.toMatrix.transpose) h
  simpa only [Mat3.mul_assoc, hq.toMatrix_mul_transpose, Mat3.mul_identity] using hcancel

-- The rotation of vectors is that of the matrix, but only for a unit quaternion.
theorem IsUnit.rotate_eq (hq : q.IsUnit) : q.rotate v = q.toMatrix.apply v := by
  rw [isUnit_iff] at hq
  ext <;> simp [rotate, toMatrix, imaginary, Mat3.apply, Vec3.dot_eq]
  · linear_combination v.x * (-hq)
  · linear_combination v.y * (-hq)
  · linear_combination v.z * (-hq)

theorem rotate_mul (hp : p.IsUnit) (hq : q.IsUnit) : (p * q).rotate v = p.rotate (q.rotate v) := by
  rw [(hp.mul hq).rotate_eq, hp.rotate_eq, hq.rotate_eq, toMatrix_mul, Mat3.apply_mul]

theorem rotate_add : q.rotate (v + w) = q.rotate v + q.rotate w := by
  ext <;> simp [rotate, imaginary] <;> ring

theorem rotate_scale (factor : ℝ) : q.rotate (v.scale factor) = (q.rotate v).scale factor := by
  ext <;> simp [rotate, imaginary] <;> ring

@[simp] theorem rotate_zero : q.rotate .zero = .zero := by
  ext <;> simp [rotate, imaginary]

@[simp] theorem identity_rotate : identity.rotate v = v := by
  ext <;> simp [rotate, imaginary, identity]

theorem IsUnit.conjugate_rotate_rotate (hq : q.IsUnit) : q.conjugate.rotate (q.rotate v) = v := by
  rw [← rotate_mul _ hq.conjugate hq, hq.conjugate_mul_self, identity_rotate]

theorem IsUnit.dot_rotate (hq : q.IsUnit) : (q.rotate v).dot (q.rotate w) = v.dot w := by
  rw [hq.rotate_eq v, Mat3.apply_dot, ← toMatrix_conjugate, ← hq.conjugate.rotate_eq,
    hq.conjugate_rotate_rotate]

theorem IsUnit.rotate_isUnit (hq : q.IsUnit) {v : Vec3 ℝ} (hv : v.IsUnit) : (q.rotate v).IsUnit := by
  rw [Vec3.isUnit_iff] at *
  rw [hq.dot_rotate, hv]

-- Moving a vector past a unit quaternion rotates it.
theorem IsUnit.mul_pure (hq : q.IsUnit) : q * pure v = pure (q.rotate v) * q := by
  rw [hq.rotate_eq]
  rw [isUnit_iff] at hq
  ext <;> simp only [mul_x, mul_y, mul_z, mul_w, pure, ofParts, toMatrix, Mat3.apply, Vec3.dot_eq,
    Vec3.map_x, Vec3.map_y, Vec3.map_z, Scalar.real_two]
  · linear_combination -(q.w * v.x + q.y * v.z - q.z * v.y) * hq
  · linear_combination -(q.w * v.y - q.x * v.z + q.z * v.x) * hq
  · linear_combination -(q.w * v.z + q.x * v.y - q.y * v.x) * hq
  · linear_combination (q.x * v.x + q.y * v.y + q.z * v.z) * hq

end Quat

namespace Pose

variable {p q r : Pose ℝ}

@[simp] theorem mul_rotation : (p * q).rotation = p.rotation * q.rotation := rfl

@[simp] theorem mul_translation :
    (p * q).translation = p.translation + p.rotation.rotate q.translation := rfl

theorem isUnit_identity : (identity : Pose ℝ).rotation.IsUnit := Quat.isUnit_identity

theorem mul_assoc (hp : p.rotation.IsUnit) (hq : q.rotation.IsUnit) : p * q * r = p * (q * r) := by
  ext
  all_goals simp only [mul_rotation, mul_translation, Quat.mul_assoc, Quat.rotate_mul _ hp hq,
    Quat.rotate_add, Vec3.add_x, Vec3.add_y, Vec3.add_z]
  all_goals ring

@[simp] theorem identity_mul : identity * p = p := by
  ext <;> simp [identity]

@[simp] theorem mul_identity : p * identity = p := by
  ext <;> simp [identity]

end Pose

end TaskSpace.Rigid
