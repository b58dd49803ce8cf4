import Mathlib
import TaskSpace.Proofs.ExtendedReals
import TaskSpace.Proofs.Rigid.Logarithm

namespace TaskSpace.Rigid

open ExtendedReal (real)

-- The same numbers, among the extended ones.
def Vec3.extend (v : Vec3 ℝ) : Vec3 ExtendedReal := v.map real

def Mat3.extend (m : Mat3 ℝ) : Mat3 ExtendedReal := ⟨m.rows.map Vec3.extend⟩

def Quat.extend (q : Quat ℝ) : Quat ExtendedReal := ⟨real q.x, real q.y, real q.z, real q.w⟩

def Pose.extend (pose : Pose ℝ) : Pose ExtendedReal :=
  ⟨pose.rotation.extend, pose.translation.extend⟩

def Twist.extend (twist : Twist ℝ) : Twist ExtendedReal := ⟨twist.linear.extend, twist.angular.extend⟩

namespace Vec3

variable (v w : Vec3 ℝ)

@[simp] theorem extend_get (axis : Axis) : v.extend.get axis = real (v.get axis) := get_map _ _ _

theorem extend_injective : Function.Injective extend := by
  intro v w h
  exact Vec3.ext (ExtendedReal.real_injective (congrArg Vec3.x h))
    (ExtendedReal.real_injective (congrArg Vec3.y h)) (ExtendedReal.real_injective (congrArg Vec3.z h))

theorem extend_zero : zero.extend = zero := rfl
theorem extend_add : (v + w).extend = v.extend + w.extend := rfl
theorem extend_sub : (v - w).extend = v.extend - w.extend := rfl
theorem extend_scale (factor : ℝ) : (v.scale factor).extend = v.extend.scale (real factor) := rfl
theorem extend_cross : (v.cross w).extend = v.extend.cross w.extend := rfl
theorem extend_dot : v.extend.dot w.extend = real (v.dot w) := rfl

theorem extend_norm : v.extend.norm = real v.norm := by
  unfold norm
  rw [extend_dot, ExtendedReal.sqrt_real v.dot_self_nonneg, Scalar.real_sqrt]

theorem extend_divide {divisor : ℝ} (hdivisor : divisor ≠ 0) :
    (v.divide divisor).extend = v.extend.divide (real divisor) := by
  apply ext_get
  intro axis
  simp only [divide, extend_get, get_map, ExtendedReal.div_real hdivisor]

theorem extend_normalize (hv : v.norm ≠ 0) : v.normalize.extend = v.extend.normalize := by
  unfold normalize
  rw [extend_divide v hv, extend_norm]

end Vec3

namespace Mat3

variable (m n : Mat3 ℝ)

theorem extend_identity : identity.extend = identity := rfl
theorem extend_skew (v : Vec3 ℝ) : (skew v).extend = skew v.extend := rfl
theorem extend_transpose : m.transpose.extend = m.extend.transpose := rfl
theorem extend_add : (m + n).extend = m.extend + n.extend := rfl
theorem extend_sub : (m - n).extend = m.extend - n.extend := rfl
theorem extend_neg : (-m).extend = -m.extend := rfl
theorem extend_scale (factor : ℝ) : (m.scale factor).extend = m.extend.scale (real factor) := rfl
theorem extend_mul : (m * n).extend = m.extend * n.extend := rfl
theorem extend_apply (v : Vec3 ℝ) : (m.apply v).extend = m.extend.apply v.extend := rfl

end Mat3

namespace Quat

variable (p q : Quat ℝ)

theorem extend_identity : identity.extend = identity := rfl
theorem extend_injective : Function.Injective extend := by
  intro p q h
  exact Quat.ext (ExtendedReal.real_injective (congrArg Quat.x h))
    (ExtendedReal.real_injective (congrArg Quat.y h)) (ExtendedReal.real_injective (congrArg Quat.z h))
    (ExtendedReal.real_injective (congrArg Quat.w h))

theorem extend_imaginary : q.extend.imaginary = q.imaginary.extend := rfl
theorem extend_conjugate : q.conjugate.extend = q.extend.conjugate := rfl
theorem extend_mul : (p * q).extend = p.extend * q.extend := rfl
theorem extend_rotate (v : Vec3 ℝ) : (q.rotate v).extend = q.extend.rotate v.extend := rfl
theorem extend_toMatrix : q.toMatrix.extend = q.extend.toMatrix := rfl

theorem extend_norm : q.extend.norm = real q.norm := ExtendedReal.sqrt_real q.sum_mul_self_nonneg

theorem extend_normalize (hq : q.norm ≠ 0) : q.normalize.extend = q.extend.normalize := by
  unfold normalize
  simp only [extend_norm]
  simp only [extend, ExtendedReal.div_real hq]

-- Only finite entries have a finite norm.
theorem exists_extend_of_norm {q : Quat ExtendedReal} {length : ℝ} (h : q.norm = real length) :
    ∃ finite : Quat ℝ, q = finite.extend := by
  obtain ⟨sum, hsum⟩ := ExtendedReal.exists_of_sqrt_eq_real h
  obtain ⟨⟨first, hfirst⟩, second, hsecond⟩ := ExtendedReal.exists_of_add_eq_real hsum
  obtain ⟨⟨_, hx⟩, _, hz⟩ := ExtendedReal.exists_of_add_eq_real hfirst
  obtain ⟨⟨_, hy⟩, _, hw⟩ := ExtendedReal.exists_of_add_eq_real hsecond
  obtain ⟨⟨x, hx⟩, _⟩ := ExtendedReal.exists_of_mul_eq_real hx
  obtain ⟨⟨y, hy⟩, _⟩ := ExtendedReal.exists_of_mul_eq_real hy
  obtain ⟨⟨z, hz⟩, _⟩ := ExtendedReal.exists_of_mul_eq_real hz
  obtain ⟨⟨w, hw⟩, _⟩ := ExtendedReal.exists_of_mul_eq_real hw
  exact ⟨⟨x, y, z, w⟩, Quat.ext hx hy hz hw⟩

theorem extend_ofAxisAngle (axis : Vec3 ℝ) (angle : ℝ) :
    (ofAxisAngle axis angle).extend = ofAxisAngle axis.extend (real angle) := by
  have htwo : (2.0 : ℝ) ≠ 0 := by norm_num
  unfold ofAxisAngle
  rw [ExtendedReal.ofScientific_eq, ExtendedReal.div_real htwo]
  rfl

theorem extend_angleAxis : q.extend.angleAxis =
    (real q.angleAxis.1, q.angleAxis.2.map Vec3.extend) := by
  unfold angleAxis
  simp only [extend_imaginary, Vec3.extend_norm, ExtendedReal.zero_eq, ExtendedReal.beq_real,
    Scalar.real_beq_iff, decide_eq_true_eq]
  by_cases hzero : q.imaginary.norm = 0
  · simp only [if_pos hzero]
    rfl
  · simp only [if_neg hzero, ← Vec3.extend_divide _ hzero]
    rfl

theorem extend_rotationLog : q.rotationLog.extend = q.extend.rotationLog := by
  unfold rotationLog
  rw [extend_angleAxis]
  rcases q.angleAxis with ⟨angle, _ | axis⟩
  · exact Vec3.extend_zero
  · exact Vec3.extend_scale axis angle

end Quat

theorem smallAngle_pos : (0 : ℝ) < smallAngle := by norm_num [smallAngle]

-- The cosine only comes back to one after a full turn.
theorem one_sub_cos_pos {t : ℝ} (hpos : 0 < t) (hlt : t < 2 * Real.pi) : 0 < 1 - Real.cos t := by
  have hne : Real.cos t ≠ 1 := fun h =>
    hpos.ne' ((Real.cos_eq_one_iff_of_lt_of_lt (by linarith) hlt).mp h)
  exact sub_pos.mpr (lt_of_le_of_ne (Real.cos_le_one t) hne)

-- The closed form is taken at angles where its denominators do not vanish, but for full turns.
theorem extend_quadraticCoefficient {t : ℝ} (hpartial : t < smallAngle ∨ Real.cos t ≠ 1) :
    quadraticCoefficient (real t) = real (quadraticCoefficient t) := by
  have htwelve : (12.0 : ℝ) ≠ 0 := by norm_num
  have hseries : (720.0 : ℝ) ≠ 0 := by norm_num
  have hsmall : (smallAngle : ExtendedReal) = real smallAngle := rfl
  unfold quadraticCoefficient
  simp only [hsmall, ExtendedReal.lt_real]
  by_cases ht : t < smallAngle
  · simp only [if_pos ht, ExtendedReal.one_eq, ExtendedReal.ofScientific_eq, ExtendedReal.mul_real,
      ExtendedReal.div_real htwelve, ExtendedReal.div_real hseries, ExtendedReal.add_real]
  · have hpos : 0 < t := lt_of_lt_of_le smallAngle_pos (not_lt.mp ht)
    have hsquare : t * t ≠ 0 := (mul_pos hpos hpos).ne'
    have hcos : 1 - Real.cos t ≠ 0 := sub_ne_zero.mpr (hpartial.resolve_left ht).symm
    simp only [if_neg ht, ExtendedReal.one_eq, ExtendedReal.ofScientific_eq, ExtendedReal.mul_real,
      ExtendedReal.sin_real, ExtendedReal.cos_real, ExtendedReal.sub_real,
      ExtendedReal.div_real hcos, ExtendedReal.div_real hsquare]
    rfl

theorem extend_angularVelocityToLogRate {angle : ℝ}
    (hpartial : |angle| < smallAngle ∨ Real.cos angle ≠ 1) (axis : Vec3 ℝ) :
    (angularVelocityToLogRate angle axis).extend =
      angularVelocityToLogRate (real angle) axis.extend := by
  rw [← Real.cos_abs] at hpartial
  unfold angularVelocityToLogRate
  rw [ExtendedReal.abs_real, extend_quadraticCoefficient hpartial]
  rfl

-- No answer is a full turn, not even by a quaternion of another length than one.
theorem Quat.angleAxis_partial (q : Quat ℝ) :
    |q.angleAxis.1| < smallAngle ∨ Real.cos q.angleAxis.1 ≠ 1 := by
  refine or_iff_not_imp_left.mpr fun hlarge hcos => ?_
  have hle := halfAngle_le (q := q)
  rw [angleAxis_fst] at hlarge hcos
  rw [abs_of_nonneg (mul_nonneg zero_le_two halfAngle_nonneg), not_lt] at hlarge
  have hpos := one_sub_cos_pos (lt_of_lt_of_le smallAngle_pos hlarge) (by linarith [Real.pi_pos])
  rw [hcos, sub_self] at hpos
  exact hpos.false

theorem Quat.extend_logRate (q : Quat ℝ) : q.logRate.extend = q.extend.logRate := by
  have hpartial := q.angleAxis_partial
  unfold logRate
  rw [extend_angleAxis]
  rcases hq : q.angleAxis with ⟨angle, _ | axis⟩
  · exact Mat3.extend_identity
  · rw [hq] at hpartial
    exact extend_angularVelocityToLogRate hpartial axis

namespace Pose

variable (p q : Pose ℝ)

theorem extend_identity : identity.extend = identity := rfl
theorem extend_mul : (p * q).extend = p.extend * q.extend := rfl
theorem extend_ofTranslation (v : Vec3 ℝ) : (ofTranslation v).extend = ofTranslation v.extend := rfl

end Pose

end TaskSpace.Rigid
