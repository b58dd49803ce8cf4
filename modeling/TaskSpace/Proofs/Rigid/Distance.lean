import Mathlib
import TaskSpace.Proofs.Rigid.Algebra

namespace TaskSpace.Rigid

namespace Vec3

variable {v w p start finish direction : Vec3 ℝ} {region : Set (Vec3 ℝ)} {distance : ℝ}

theorem sub_eq_zero_iff : v - w = zero ↔ v = w := by
  constructor
  · intro h
    have hx := congrArg x h
    have hy := congrArg y h
    have hz := congrArg z h
    simp only [sub_x, sub_y, sub_z, zero_x, zero_y, zero_z] at hx hy hz
    exact Vec3.ext (by linarith) (by linarith) (by linarith)
  · rintro rfl
    ext <;> simp

theorem get_sub (v w : Vec3 ℝ) (axis : Axis) : (v - w).get axis = v.get axis - w.get axis :=
  get_zipWith _ _ _ _

theorem ofAxes_eq_zero_iff {entry : Axis → ℝ} : ofAxes entry = zero ↔ ∀ axis, entry axis = 0 := by
  constructor
  · intro h axis
    rw [← get_ofAxes entry axis, h]
    cases axis <;> rfl
  · intro h
    exact Vec3.ext (h .x) (h .y) (h .z)

theorem scale_one (v : Vec3 ℝ) : v.scale 1 = v := by
  ext <;> simp

theorem norm_le_norm_iff : v.norm ≤ w.norm ↔ v.dot v ≤ w.dot w := by
  rw [← norm_sq, ← norm_sq, pow_le_pow_iff_left₀ v.norm_nonneg w.norm_nonneg two_ne_zero]

-- No coordinate is further from zero than that of the other vector.
theorem norm_le_norm_of_abs_le (h : ∀ axis, |v.get axis| ≤ |w.get axis|) : v.norm ≤ w.norm := by
  have hx : v.x ^ 2 ≤ w.x ^ 2 := sq_le_sq.mpr (h .x)
  have hy : v.y ^ 2 ≤ w.y ^ 2 := sq_le_sq.mpr (h .y)
  have hz : v.z ^ 2 ≤ w.z ^ 2 := sq_le_sq.mpr (h .z)
  rw [norm_le_norm_iff, dot_eq, dot_eq]
  linarith

theorem norm_eq_norm_of_abs_eq (h : ∀ axis, |v.get axis| = |w.get axis|) : v.norm = w.norm :=
  le_antisymm (norm_le_norm_of_abs_le fun axis => (h axis).le)
    (norm_le_norm_of_abs_le fun axis => (h axis).ge)

-- The distance of a point from a region: the smallest of its distances from points there.
def IsDistance (p : Vec3 ℝ) (region : Set (Vec3 ℝ)) (distance : ℝ) : Prop :=
  IsLeast ((fun x => (p - x).norm) '' region) distance

theorem IsDistance.eq_zero_iff (h : p.IsDistance region distance) : distance = 0 ↔ p ∈ region := by
  obtain ⟨⟨nearest, hnearest, hdistance⟩, hleast⟩ := h
  constructor
  · intro hzero
    have hsame : p = nearest := by
      rw [← sub_eq_zero_iff, ← norm_eq_zero_iff]
      exact hdistance.trans hzero
    rwa [hsame]
  · intro hmem
    have hself : (p - p).norm = 0 := (norm_eq_zero_iff _).mpr (sub_eq_zero_iff.mpr rfl)
    refine le_antisymm ((hleast ⟨p, hmem, rfl⟩).trans hself.le) ?_
    rw [← hdistance]
    exact norm_nonneg _

section Line

-- The points of the infinite line through two points.
def line (start finish : Vec3 ℝ) : Set (Vec3 ℝ) :=
  {p | ∃ amount : ℝ, p = start + (finish - start).scale amount}

-- The part of a vector across a direction, and what is left of the part along it.
theorem norm_sub_scale_sq (hdirection : direction.IsUnit) (v : Vec3 ℝ) (amount : ℝ) :
    (v - direction.scale amount).norm ^ 2 =
      (direction.cross v).norm ^ 2 + (direction.dot v - amount) ^ 2 := by
  have hunit : direction.x * direction.x + direction.y * direction.y + direction.z * direction.z = 1 :=
    direction.isUnit_iff.mp hdirection
  simp only [norm_sq, dot_eq, sub_x, sub_y, sub_z, scale_x, scale_y, scale_z, cross_x, cross_y, cross_z]
  linear_combination (amount ^ 2 - v.x ^ 2 - v.y ^ 2 - v.z ^ 2) * hunit

theorem scale_norm_normalize (hv : v ≠ zero) : v.normalize.scale v.norm = v := by
  have hne : v.norm ≠ 0 := fun h => hv ((norm_eq_zero_iff v).mp h)
  ext <;> simp only [normalize, scale_x, scale_y, scale_z, divide_x, divide_y, divide_z] <;> field_simp

theorem norm_scale (v : Vec3 ℝ) (factor : ℝ) : (v.scale factor).norm = |factor| * v.norm := by
  rw [← Real.sqrt_sq (mul_nonneg (abs_nonneg factor) v.norm_nonneg), mul_pow, sq_abs, norm_sq, norm,
    Scalar.real_sqrt]
  congr 1
  simp only [dot_eq, scale_x, scale_y, scale_z]
  ring

theorem norm_scale_neg (v : Vec3 ℝ) : (v.scale (-1)).norm = v.norm := by
  rw [norm_scale, abs_neg, abs_one, one_mul]

theorem normalize_scale {factor : ℝ} (hfactor : 0 < factor) (v : Vec3 ℝ) :
    (v.scale factor).normalize = v.normalize := by
  unfold normalize
  rw [norm_scale, abs_of_pos hfactor, mul_comm]
  ext <;> simp only [divide_x, divide_y, divide_z, scale_x, scale_y, scale_z] <;>
    rw [mul_div_mul_right _ _ hfactor.ne']

-- The offset from the start crossed with the direction is as long as the way to the line.
theorem isDistance_line (hne : start ≠ finish) (p : Vec3 ℝ) :
    p.IsDistance (line start finish) ((finish - start).normalize.cross (p - start)).norm := by
  have hdirection : finish - start ≠ zero := fun h => hne (sub_eq_zero_iff.mp h).symm
  have hunit := (finish - start).normalize_isUnit hdirection
  have hlength : (finish - start).norm ≠ 0 := fun h => hdirection ((norm_eq_zero_iff _).mp h)
  have hoffset : ∀ amount, (p - (start + (finish - start).scale amount)).norm ^ 2 =
      ((finish - start).normalize.cross (p - start)).norm ^ 2 +
        ((finish - start).normalize.dot (p - start) - (finish - start).norm * amount) ^ 2 := by
    intro amount
    rw [← norm_sub_scale_sq hunit, ← scale_scale, scale_norm_normalize hdirection]
    congr 2
    ext <;> simp <;> ring
  constructor
  · refine ⟨_, ⟨(finish - start).normalize.dot (p - start) / (finish - start).norm, rfl⟩, ?_⟩
    rw [← pow_left_inj₀ (norm_nonneg _) (norm_nonneg _) two_ne_zero, hoffset]
    field_simp
    ring
  · rintro _ ⟨_, ⟨amount, rfl⟩, rfl⟩
    rw [← pow_le_pow_iff_left₀ (norm_nonneg _) (norm_nonneg _) two_ne_zero, hoffset]
    exact le_add_of_nonneg_right (sq_nonneg _)

end Line

end Vec3

namespace Quat

variable {q : Quat ℝ} (v w : Vec3 ℝ)

theorem rotate_sub : q.rotate (v - w) = q.rotate v - q.rotate w := by
  ext <;> simp [rotate, imaginary] <;> ring

theorem IsUnit.norm_rotate (hq : q.IsUnit) : (q.rotate v).norm = v.norm := by
  rw [Vec3.norm, hq.dot_rotate, Vec3.norm]

theorem IsUnit.rotate_conjugate_rotate (hq : q.IsUnit) : q.rotate (q.conjugate.rotate v) = v := by
  have hback := hq.conjugate.conjugate_rotate_rotate v
  rwa [conjugate_conjugate] at hback

theorem IsUnit.rotate_normalize (hq : q.IsUnit) : q.rotate v.normalize = (q.rotate v).normalize := by
  have hdivide : ∀ (u : Vec3 ℝ) (divisor : ℝ), u.divide divisor = u.scale divisor⁻¹ := by
    intro u divisor
    ext <;> simp [div_eq_mul_inv]
  rw [Vec3.normalize, Vec3.normalize, hq.norm_rotate, hdivide, hdivide, rotate_scale]

theorem norm_sq (q : Quat ℝ) : q.norm ^ 2 = q.x ^ 2 + q.y ^ 2 + q.z ^ 2 + q.w ^ 2 := by
  rw [norm, Scalar.real_sqrt, Real.sq_sqrt q.sum_mul_self_nonneg]
  ring

theorem IsUnit.norm_mul {g : Quat ℝ} (hg : g.IsUnit) (q : Quat ℝ) : (g * q).norm = q.norm := by
  rw [isUnit_iff] at hg
  simp only [norm, mul_x, mul_y, mul_z, mul_w]
  congr 1
  linear_combination (q.x ^ 2 + q.y ^ 2 + q.z ^ 2 + q.w ^ 2) * hg

theorem IsUnit.normalize_mul {g : Quat ℝ} (hg : g.IsUnit) (q : Quat ℝ) :
    (g * q).normalize = g * q.normalize := by
  unfold normalize
  rw [hg.norm_mul]
  ext <;> simp only [mul_x, mul_y, mul_z, mul_w] <;> ring

-- The rotation of a quaternion of any length but zero, without its root.
theorem toMatrix_normalize (hq : q.norm ≠ 0) :
    q.normalize.toMatrix = q.toMatrix.scale (1 / (q.x ^ 2 + q.y ^ 2 + q.z ^ 2 + q.w ^ 2)) := by
  rw [← norm_sq]
  ext <;> simp only [toMatrix, normalize, Mat3.scale, Vec3.map_x, Vec3.map_y, Vec3.map_z, Vec3.scale_x,
    Vec3.scale_y, Vec3.scale_z] <;> field_simp

end Quat

section Frame

variable {position residual : Vec3 ℝ} {rotation : Quat ℝ} {allowed : Axis → Set ℝ}

-- The points with the allowed coordinates in a frame at the position.
def pointsInFrame (position : Vec3 ℝ) (rotation : Quat ℝ) (allowed : Axis → Set ℝ) : Set (Vec3 ℝ) :=
  {p | ∃ coordinates : Vec3 ℝ, (∀ axis, coordinates.get axis ∈ allowed axis) ∧
    p = position + rotation.toMatrix.apply coordinates}

theorem position_mem_pointsInFrame (hzero : ∀ axis, 0 ∈ allowed axis) :
    position ∈ pointsInFrame position rotation allowed := by
  refine ⟨.zero, fun axis => ?_, ?_⟩
  · cases axis <;> exact hzero _
  · ext <;> simp [Mat3.apply, Vec3.dot_eq]

-- Distances can be measured in the frame.
theorem norm_sub_inFrame (hrotation : rotation.IsUnit) (position p coordinates : Vec3 ℝ) :
    (p - (position + rotation.toMatrix.apply coordinates)).norm =
      (rotation.conjugate.rotate (p - position) - coordinates).norm := by
  rw [← hrotation.norm_rotate (_ - coordinates), Quat.rotate_sub, hrotation.rotate_conjugate_rotate,
    hrotation.rotate_eq coordinates]
  congr 1
  ext <;> simp <;> ring

-- The nearest point is found axis by axis.
theorem isDistance_pointsInFrame (hrotation : rotation.IsUnit) (p : Vec3 ℝ)
    (hleast : ∀ axis, IsLeast
      ((fun y => |(rotation.conjugate.rotate (p - position)).get axis - y|) '' allowed axis)
      |residual.get axis|) :
    p.IsDistance (pointsInFrame position rotation allowed) residual.norm := by
  constructor
  · choose nearest hnearest hdistance using fun axis => (hleast axis).1
    refine ⟨_, ⟨.ofAxes nearest, fun axis => ?_, rfl⟩, ?_⟩
    · rw [Vec3.get_ofAxes]
      exact hnearest axis
    · change (p - (position + rotation.toMatrix.apply _)).norm = _
      rw [norm_sub_inFrame hrotation]
      refine Vec3.norm_eq_norm_of_abs_eq fun axis => ?_
      rw [Vec3.get_sub, Vec3.get_ofAxes]
      exact hdistance axis
  · rintro _ ⟨_, ⟨coordinates, hcoordinates, rfl⟩, rfl⟩
    change _ ≤ (p - (position + rotation.toMatrix.apply _)).norm
    rw [norm_sub_inFrame hrotation]
    refine Vec3.norm_le_norm_of_abs_le fun axis => ?_
    rw [Vec3.get_sub]
    exact (hleast axis).2 ⟨_, hcoordinates axis, rfl⟩

end Frame

end TaskSpace.Rigid
