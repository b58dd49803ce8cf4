import Mathlib
import TaskSpace.Proofs.Rigid.Distance

namespace TaskSpace.Rigid

theorem Axis.forall_ne_iff {holds : Axis → Prop} (axis : Axis) :
    (∀ other, other ≠ axis → holds other) ↔ holds axis.next ∧ holds axis.next.next := by
  constructor
  · intro h
    constructor <;> refine h _ ?_ <;> cases axis <;> nofun
  · rintro ⟨hnext, hlast⟩ other hne
    cases axis <;> cases other <;> first | exact absurd rfl hne | exact hnext | exact hlast

theorem Axis.next_next_next (axis : Axis) : axis.next.next.next = axis := by
  cases axis <;> rfl

theorem Axis.forall_of_next {holds : Axis → Prop} (axis : Axis) (h : holds axis) (hnext : holds axis.next)
    (hlast : holds axis.next.next) (other : Axis) : holds other := by
  cases axis <;> cases other <;> first | exact h | exact hnext | exact hlast

namespace Vec3

variable {v w direction : Vec3 ℝ}

theorem get_cross {α : Type} [Scalar α] (v w : Vec3 α) (axis : Axis) : (v.cross w).get axis =
    v.get axis.next * w.get axis.next.next - v.get axis.next.next * w.get axis.next := by
  cases axis <;> rfl

-- The rows of a cross product after the one of an axis.
theorem get_cross_next {α : Type} [Scalar α] (v w : Vec3 α) (axis : Axis) : (v.cross w).get axis.next =
    v.get axis.next.next * w.get axis - v.get axis * w.get axis.next.next := by
  cases axis <;> rfl

theorem get_cross_next_next {α : Type} [Scalar α] (v w : Vec3 α) (axis : Axis) :
    (v.cross w).get axis.next.next = v.get axis * w.get axis.next - v.get axis.next * w.get axis := by
  cases axis <;> rfl

theorem dot_eq_next (v w : Vec3 ℝ) (axis : Axis) : v.dot w = v.get axis * w.get axis +
    v.get axis.next * w.get axis.next + v.get axis.next.next * w.get axis.next.next := by
  cases axis <;> simp only [dot_eq, Axis.next, get_x, get_y, get_z] <;> ring

theorem dot_cross_self (v w : Vec3 ℝ) : v.dot (v.cross w) = 0 := by
  simp only [dot_eq, cross_x, cross_y, cross_z]
  ring

theorem eq_zero_iff_next (v : Vec3 ℝ) (axis : Axis) :
    v = zero ↔ v.get axis = 0 ∧ v.get axis.next = 0 ∧ v.get axis.next.next = 0 := by
  constructor
  · rintro rfl
    cases axis <;> exact ⟨rfl, rfl, rfl⟩
  · rintro ⟨hfirst, hsecond, hthird⟩
    cases axis
    · exact Vec3.ext hfirst hsecond hthird
    · exact Vec3.ext hthird hfirst hsecond
    · exact Vec3.ext hsecond hthird hfirst

-- The unit vector of an axis.
noncomputable def unit (axis : Axis) : Vec3 ℝ := .ofAxes fun row => if row = axis then 1 else 0

theorem unit_isUnit (axis : Axis) : (unit axis).IsUnit := by
  rw [isUnit_iff]
  cases axis <;> simp [unit, dot_eq]

-- Only without a direction two rows always vanish.
theorem eq_zero_of_cross_next (axis : Axis)
    (h : ∀ v, (direction.cross v).get axis.next = 0 ∧ (direction.cross v).get axis.next.next = 0) :
    direction = zero := by
  obtain ⟨hlast, hnext⟩ := h (unit axis)
  obtain ⟨_, haxis⟩ := h (unit axis.next)
  rw [get_cross_next] at hlast
  rw [get_cross_next_next] at hnext haxis
  rw [eq_zero_iff_next _ axis]
  cases axis <;> simp_all [unit, Axis.next]

-- What a line run through the other way makes of a point.
theorem cross_reversed (start finish p : Vec3 ℝ) : (start - finish).normalize.cross (p - finish) =
    ((finish - start).normalize.cross (p - start)).scale (-1) := by
  have hnorm : (start - finish).norm = (finish - start).norm := by
    refine norm_eq_norm_of_abs_eq fun axis => ?_
    rw [get_sub, get_sub, abs_sub_comm]
  unfold normalize
  rw [hnorm]
  ext <;> simp only [cross_x, cross_y, cross_z, divide_x, divide_y, divide_z, sub_x, sub_y, sub_z,
    scale_x, scale_y, scale_z] <;> ring

-- The three rows depend on each other: two of them suffice, unless the direction lies across the third.
theorem cross_eq_zero_of_next {axis : Axis} (hdirection : direction.get axis ≠ 0) :
    (direction.cross v).get axis.next = 0 ∧ (direction.cross v).get axis.next.next = 0 ↔
      direction.cross v = zero := by
  rw [eq_zero_iff_next _ axis]
  refine ⟨fun ⟨hnext, hlast⟩ => ⟨?_, hnext, hlast⟩, fun h => h.2⟩
  have hself := dot_cross_self direction v
  rw [dot_eq_next _ _ axis, hnext, hlast] at hself
  simpa [hdirection] using hself

-- Across a direction the two rows only see the coordinate of the axis.
theorem cross_next_eq_zero_iff (hunit : direction.IsUnit) {axis : Axis} (hdirection : direction.get axis = 0) :
    (direction.cross v).get axis.next = 0 ∧ (direction.cross v).get axis.next.next = 0 ↔
      v.get axis = 0 := by
  have hlength := (isUnit_iff direction).mp hunit
  rw [dot_eq_next _ _ axis, hdirection] at hlength
  rw [get_cross_next, get_cross_next_next, hdirection]
  constructor
  · rintro ⟨hnext, hlast⟩
    linear_combination direction.get axis.next.next * hnext - direction.get axis.next * hlast -
      v.get axis * hlength
  · intro hzero
    simp [hzero]

end Vec3

namespace Quat

variable {q : Quat ℝ} (v w : Vec3 ℝ)

-- Every matrix of a quaternion keeps cross products, up to the square of the length.
theorem toMatrix_cross_toMatrix (q : Quat ℝ) :
    (q.toMatrix.apply v).cross (q.toMatrix.apply w) =
      (q.toMatrix.apply (v.cross w)).scale (q.x ^ 2 + q.y ^ 2 + q.z ^ 2 + q.w ^ 2) := by
  ext <;> simp only [toMatrix, Mat3.apply, Vec3.dot_eq, Vec3.map_x, Vec3.map_y, Vec3.map_z,
    Vec3.cross_x, Vec3.cross_y, Vec3.cross_z, Vec3.scale_x, Vec3.scale_y, Vec3.scale_z,
    Scalar.real_two] <;> ring

theorem IsUnit.rotate_cross (hq : q.IsUnit) :
    q.rotate (v.cross w) = (q.rotate v).cross (q.rotate w) := by
  have hcross := toMatrix_cross_toMatrix v w q
  rw [(isUnit_iff q).mp hq, Vec3.scale_one] at hcross
  rw [hq.rotate_eq, hq.rotate_eq, hq.rotate_eq, hcross]

end Quat

end TaskSpace.Rigid
