import Mathlib
import TaskSpace.Proofs.Rigid.Algebra

namespace TaskSpace.Rigid

-- Rates of change along a path, entry by entry.
def Vec3.HasRateAt (path : ℝ → Vec3 ℝ) (rate : Vec3 ℝ) (time : ℝ) : Prop :=
  ∀ axis, HasDerivAt (fun s => (path s).get axis) (rate.get axis) time

def Mat3.HasRateAt (path : ℝ → Mat3 ℝ) (rate : Mat3 ℝ) (time : ℝ) : Prop :=
  ∀ row column, HasDerivAt (fun s => ((path s).rows.get row).get column)
    ((rate.rows.get row).get column) time

structure Quat.HasRateAt (path : ℝ → Quat ℝ) (rate : Quat ℝ) (time : ℝ) : Prop where
  x : HasDerivAt (fun s => (path s).x) rate.x time
  y : HasDerivAt (fun s => (path s).y) rate.y time
  z : HasDerivAt (fun s => (path s).z) rate.z time
  w : HasDerivAt (fun s => (path s).w) rate.w time

namespace Vec3.HasRateAt

variable {path other : ℝ → Vec3 ℝ} {rate otherRate : Vec3 ℝ} {time : ℝ}

theorem const (v : Vec3 ℝ) (time : ℝ) : HasRateAt (fun _ => v) .zero time := by
  rintro (_ | _ | _) <;> exact hasDerivAt_const time _

theorem add (h : HasRateAt path rate time) (ho : HasRateAt other otherRate time) :
    HasRateAt (fun s => path s + other s) (rate + otherRate) time := by
  rintro (_ | _ | _)
  · exact (h .x).add (ho .x)
  · exact (h .y).add (ho .y)
  · exact (h .z).add (ho .z)

theorem sub (h : HasRateAt path rate time) (ho : HasRateAt other otherRate time) :
    HasRateAt (fun s => path s - other s) (rate - otherRate) time := by
  rintro (_ | _ | _)
  · exact (h .x).sub (ho .x)
  · exact (h .y).sub (ho .y)
  · exact (h .z).sub (ho .z)

theorem apply_const (h : HasRateAt path rate time) (m : Mat3 ℝ) :
    HasRateAt (fun s => m.apply (path s)) (m.apply rate) time := by
  intro axis
  have hrow := (((h .x).const_mul (m.rows.get axis).x).add ((h .y).const_mul (m.rows.get axis).y)).add
    ((h .z).const_mul (m.rows.get axis).z)
  cases axis <;> exact hrow

end Vec3.HasRateAt

namespace Mat3.HasRateAt

variable {path : ℝ → Mat3 ℝ} {rate : Mat3 ℝ} {time : ℝ}

theorem apply (h : HasRateAt path rate time) (v : Vec3 ℝ) :
    Vec3.HasRateAt (fun s => (path s).apply v) (rate.apply v) time := by
  intro axis
  have hrow := (((h axis .x).mul_const v.x).add ((h axis .y).mul_const v.y)).add
    ((h axis .z).mul_const v.z)
  cases axis <;> exact hrow

theorem unique {other : Mat3 ℝ} (h : HasRateAt path rate time) (ho : HasRateAt path other time) :
    rate = other := by
  have hrows : ∀ row, rate.rows.get row = other.rows.get row := fun row =>
    Vec3.ext_get fun column => (h row column).unique (ho row column)
  exact Mat3.ext (Vec3.ext_get hrows)

end Mat3.HasRateAt

namespace Quat

-- How a rotation changes while it turns with an angular velocity.
noncomputable def spin (velocity : Vec3 ℝ) (q : Quat ℝ) : Quat ℝ := pure (velocity.scale 0.5) * q

theorem spin_mul (velocity : Vec3 ℝ) (q r : Quat ℝ) : spin velocity q * r = spin velocity (q * r) :=
  mul_assoc r

-- Seen from the turning frame, the frame outside turns the other way.
theorem IsUnit.spin_conjugate {q : Quat ℝ} (hq : q.IsUnit) (velocity : Vec3 ℝ) :
    (spin velocity q).conjugate =
      spin ((q.toMatrix.transpose.apply velocity).scale (-1)) q.conjugate := by
  have hflip : (pure (velocity.scale (1 / 2))).conjugate = pure (velocity.scale (-1 / 2)) := by
    ext <;> simp [pure, ofParts, Quat.conjugate] <;> ring
  have hscale : q.conjugate.rotate (velocity.scale (-1 / 2)) =
      ((q.conjugate.rotate velocity).scale (-1)).scale (1 / 2) := by
    rw [rotate_scale, Vec3.scale_scale]
    norm_num
  rw [← toMatrix_conjugate, ← hq.conjugate.rotate_eq, spin, spin, Scalar.real_half, conjugate_mul,
    hflip, hq.conjugate.mul_pure, hscale]

-- The product rule for the entries of the rotation matrix.
noncomputable def toMatrixRate (q rate : Quat ℝ) : Mat3 ℝ :=
  let ww := rate.w * q.w + q.w * rate.w
  let xx := rate.x * q.x + q.x * rate.x
  let yy := rate.y * q.y + q.y * rate.y
  let zz := rate.z * q.z + q.z * rate.z
  let xy := (rate.x * q.y + q.x * rate.y) * 2.0
  let xz := (rate.x * q.z + q.x * rate.z) * 2.0
  let yz := (rate.y * q.z + q.y * rate.z) * 2.0
  let wx := (rate.w * q.x + q.w * rate.x) * 2.0
  let wy := (rate.w * q.y + q.w * rate.y) * 2.0
  let wz := (rate.w * q.z + q.w * rate.z) * 2.0
  ⟨⟨ww + xx - yy - zz, xy - wz, wy + xz⟩,
    ⟨wz + xy, ww - xx + yy - zz, yz - wx⟩,
    ⟨xz - wy, wx + yz, ww - xx - yy + zz⟩⟩

-- The matrix of a turning rotation changes by the cross product with the angular velocity.
theorem toMatrixRate_spin (velocity : Vec3 ℝ) (q : Quat ℝ) :
    toMatrixRate q (spin velocity q) = Mat3.skew velocity * q.toMatrix := by
  ext <;> simp [toMatrixRate, spin, pure, ofParts, toMatrix, Mat3.skew, Mat3.column,
    Vec3.dot_eq] <;> ring

namespace HasRateAt

variable {path : ℝ → Quat ℝ} {rate : Quat ℝ} {time : ℝ}

theorem mul_const (h : HasRateAt path rate time) (q : Quat ℝ) :
    HasRateAt (fun s => path s * q) (rate * q) time where
  x := ((((h.w.mul_const q.x).add (h.x.mul_const q.w)).add (h.y.mul_const q.z)).sub
    (h.z.mul_const q.y))
  y := ((((h.w.mul_const q.y).sub (h.x.mul_const q.z)).add (h.y.mul_const q.w)).add
    (h.z.mul_const q.x))
  z := ((((h.w.mul_const q.z).add (h.x.mul_const q.y)).sub (h.y.mul_const q.x)).add
    (h.z.mul_const q.w))
  w := ((((h.w.mul_const q.w).sub (h.x.mul_const q.x)).sub (h.y.mul_const q.y)).sub
    (h.z.mul_const q.z))

theorem conjugate (h : HasRateAt path rate time) :
    HasRateAt (fun s => (path s).conjugate) rate.conjugate time where
  x := h.x.neg
  y := h.y.neg
  z := h.z.neg
  w := h.w

theorem toMatrix (h : HasRateAt path rate time) :
    Mat3.HasRateAt (fun s => (path s).toMatrix) (toMatrixRate (path time) rate) time := by
  have hww := h.w.mul h.w
  have hxx := h.x.mul h.x
  have hyy := h.y.mul h.y
  have hzz := h.z.mul h.z
  have hxy := (h.x.mul h.y).mul_const 2.0
  have hxz := (h.x.mul h.z).mul_const 2.0
  have hyz := (h.y.mul h.z).mul_const 2.0
  have hwx := (h.w.mul h.x).mul_const 2.0
  have hwy := (h.w.mul h.y).mul_const 2.0
  have hwz := (h.w.mul h.z).mul_const 2.0
  rintro (_ | _ | _) (_ | _ | _)
  · exact ((hww.add hxx).sub hyy).sub hzz
  · exact hxy.sub hwz
  · exact hwy.add hxz
  · exact hwz.add hxy
  · exact ((hww.sub hxx).add hyy).sub hzz
  · exact hyz.sub hwx
  · exact hxz.sub hwy
  · exact hwx.add hyz
  · exact ((hww.sub hxx).sub hyy).add hzz

end HasRateAt

variable {q : Quat ℝ} {v : Vec3 ℝ}

theorem isUnit_ofAxisAngle (hv : v.IsUnit) (angle : ℝ) : (ofAxisAngle v angle).IsUnit := by
  have hu : v.x * v.x + v.y * v.y + v.z * v.z = 1 := v.isUnit_iff.mp hv
  rw [isUnit_iff]
  simp only [ofAxisAngle, ofParts, Vec3.scale_x, Vec3.scale_y, Vec3.scale_z, Scalar.real_sin,
    Scalar.real_cos]
  linear_combination Real.sin (angle / 2.0) ^ 2 * hu + Real.sin_sq_add_cos_sq (angle / 2.0)

-- Turns about one axis add up.
theorem ofAxisAngle_add (hv : v.IsUnit) (first second : ℝ) :
    ofAxisAngle v (first + second) = ofAxisAngle v first * ofAxisAngle v second := by
  have hu : v.x * v.x + v.y * v.y + v.z * v.z = 1 := v.isUnit_iff.mp hv
  ext <;> simp only [ofAxisAngle, ofParts, mul_x, mul_y, mul_z, mul_w, Vec3.scale_x, Vec3.scale_y,
    Vec3.scale_z, Scalar.real_sin, Scalar.real_cos, add_div, Real.sin_add, Real.cos_add]
  · ring
  · ring
  · ring
  · linear_combination Real.sin (first / 2.0) * Real.sin (second / 2.0) * hu

-- Seen from outside, a turn about an axis is a turn about the rotated axis.
theorem IsUnit.mul_ofAxisAngle (hq : q.IsUnit) (angle : ℝ) :
    q * ofAxisAngle v angle = ofAxisAngle (q.rotate v) angle * q := by
  have h := hq.mul_pure v
  have hx := congrArg Quat.x h
  have hy := congrArg Quat.y h
  have hz := congrArg Quat.z h
  have hw := congrArg Quat.w h
  simp only [mul_x, mul_y, mul_z, mul_w, pure, ofParts] at hx hy hz hw
  ext <;> simp only [ofAxisAngle, ofParts, mul_x, mul_y, mul_z, mul_w, Vec3.scale_x, Vec3.scale_y,
    Vec3.scale_z]
  · linear_combination Scalar.sin (angle / 2.0) * hx
  · linear_combination Scalar.sin (angle / 2.0) * hy
  · linear_combination Scalar.sin (angle / 2.0) * hz
  · linear_combination Scalar.sin (angle / 2.0) * hw

@[simp] theorem ofAxisAngle_zero : ofAxisAngle v 0 = identity := by
  ext <;> simp [ofAxisAngle, ofParts, identity]

-- A turn that starts at a time has the axis as its angular velocity.
theorem hasRateAt_ofAxisAngle (v : Vec3 ℝ) (time : ℝ) :
    HasRateAt (fun s => ofAxisAngle v (s - time)) (spin v identity) time := by
  have hangle : HasDerivAt (fun s => (s - time) / 2.0) (1 / 2) time :=
    (((hasDerivAt_id time).sub_const time).div_const 2.0).congr_deriv (by norm_num)
  have hsin : HasDerivAt (fun s => Real.sin ((s - time) / 2.0)) (1 / 2) time :=
    hangle.sin.congr_deriv (by simp)
  have hcos : HasDerivAt (fun s => Real.cos ((s - time) / 2.0)) 0 time :=
    hangle.cos.congr_deriv (by simp)
  constructor
  · exact (hsin.const_mul v.x).congr_deriv (by simp [spin, pure, ofParts, identity])
  · exact (hsin.const_mul v.y).congr_deriv (by simp [spin, pure, ofParts, identity])
  · exact (hsin.const_mul v.z).congr_deriv (by simp [spin, pure, ofParts, identity])
  · exact hcos.congr_deriv (by simp [spin, pure, ofParts, identity])

-- It moves a vector by the cross product with the axis.
theorem hasRateAt_rotate_ofAxisAngle (hv : v.IsUnit) (u : Vec3 ℝ) (time : ℝ) :
    Vec3.HasRateAt (fun s => (ofAxisAngle v (s - time)).rotate u) (v.cross u) time := by
  have hstart : ofAxisAngle v (time - time) = identity := by rw [sub_self, ofAxisAngle_zero]
  have hrate := (hasRateAt_ofAxisAngle v time).toMatrix.apply u
  rw [hstart, toMatrixRate_spin, toMatrix_identity, Mat3.mul_identity, Mat3.skew_apply] at hrate
  have hrotate : (fun s => (ofAxisAngle v (s - time)).rotate u) =
      fun s => (ofAxisAngle v (s - time)).toMatrix.apply u := by
    funext s
    exact (isUnit_ofAxisAngle hv (s - time)).rotate_eq u
  rw [hrotate]
  exact hrate

end Quat

end TaskSpace.Rigid
