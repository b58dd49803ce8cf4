import Mathlib
import TaskSpace.Proofs.Rigid.Extension

namespace TaskSpace

namespace ExtendedReal

open Classical in
-- The quotient, but for a divisor of zero whatever is put in its place.
noncomputable def divideOr (byZero : ExtendedReal → ExtendedReal) (a b : ExtendedReal) : ExtendedReal :=
  if b = real 0 then byZero a else a / b

-- The same numbers with another division by zero. A result that stays the same with all of them does
-- not rest on any such quotient.
@[reducible]
noncomputable def dividingOr (byZero : ExtendedReal → ExtendedReal) : ExtendedScalar ExtendedReal where
  toScalar := { (inferInstance : Scalar ExtendedReal) with div := divideOr byZero }
  infinity := ExtendedScalar.infinity
  isNaN := ExtendedScalar.isNaN
  isFinite := ExtendedScalar.isFinite

variable (byZero : ExtendedReal → ExtendedReal)

theorem divideOr_eq {b : ExtendedReal} (hb : b ≠ real 0) (a : ExtendedReal) : divideOr byZero a b = a / b :=
  if_neg hb

theorem divideOr_real {b : ℝ} (hb : b ≠ 0) (a : ExtendedReal) :
    divideOr byZero a (real b) = a / real b :=
  divideOr_eq byZero (fun h => hb (real.inj h)) a

end ExtendedReal

namespace Rigid

open ExtendedReal (real dividingOr divideOr divideOr_eq divideOr_real)

variable (byZero : ExtendedReal → ExtendedReal)

theorem Vec3.divide_dividingOr {divisor : ExtendedReal} (hdivisor : divisor ≠ real 0)
    (v : Vec3 ExtendedReal) : @divide ExtendedReal (dividingOr byZero).toScalar v divisor = v.divide divisor :=
  Vec3.ext (divideOr_eq byZero hdivisor _) (divideOr_eq byZero hdivisor _)
    (divideOr_eq byZero hdivisor _)

theorem Vec3.normalize_dividingOr {v : Vec3 ExtendedReal} (hv : v.norm ≠ real 0) :
    @normalize ExtendedReal (dividingOr byZero).toScalar v = v.normalize :=
  divide_dividingOr byZero hv v

namespace Quat

theorem normalize_dividingOr {q : Quat ExtendedReal} (hq : q.norm ≠ real 0) :
    @normalize ExtendedReal (dividingOr byZero).toScalar q = q.normalize :=
  Quat.ext (divideOr_eq byZero hq _) (divideOr_eq byZero hq _) (divideOr_eq byZero hq _)
    (divideOr_eq byZero hq _)

theorem ofAxisAngle_dividingOr (axis : Vec3 ExtendedReal) (angle : ExtendedReal) :
    @ofAxisAngle ExtendedReal (dividingOr byZero).toScalar axis angle = ofAxisAngle axis angle := by
  have htwo : (2.0 : ℝ) ≠ 0 := by norm_num
  have hhalf : divideOr byZero angle (real 2.0) = angle / 2.0 := divideOr_real byZero htwo angle
  exact congrArg (fun half => ofParts (axis.scale (Scalar.sin half)) (Scalar.cos half)) hhalf

-- The norm of the imaginary part is compared with zero before it divides.
theorem angleAxis_dividingOr (q : Quat ExtendedReal) :
    @angleAxis ExtendedReal (dividingOr byZero).toScalar q = q.angleAxis := by
  by_cases hzero : (q.imaginary.norm == 0) = true
  · exact (if_pos hzero).trans (if_pos hzero).symm
  · have hne : q.imaginary.norm ≠ real 0 := by
      intro h
      rw [h, ExtendedReal.zero_eq, ExtendedReal.beq_real, decide_eq_true_eq] at hzero
      exact hzero rfl
    refine (if_neg hzero).trans (Eq.trans ?_ (if_neg hzero).symm)
    exact congrArg (fun direction : Vec3 ExtendedReal =>
      (2.0 * Scalar.atan2 q.imaginary.norm (Scalar.abs q.w),
        some (direction.scale (Scalar.signum q.w)))) (Vec3.divide_dividingOr byZero hne q.imaginary)

theorem rotationLog_dividingOr (q : Quat ExtendedReal) :
    @rotationLog ExtendedReal (dividingOr byZero).toScalar q = q.rotationLog := by
  unfold rotationLog
  rw [angleAxis_dividingOr]
  rfl

end Quat

-- The angles at which the quadratic coefficient divides by nothing that is zero.
theorem quadraticCoefficient_dividingOr {t : ℝ} (hpartial : t < smallAngle ∨ Real.cos t ≠ 1) :
    @quadraticCoefficient ExtendedReal (dividingOr byZero).toScalar (real t) =
      quadraticCoefficient (real t) := by
  have htwelve : (12.0 : ℝ) ≠ 0 := by norm_num
  have hseries : (720.0 : ℝ) ≠ 0 := by norm_num
  by_cases ht : t < smallAngle
  · refine (if_pos ht).trans (Eq.trans ?_ (if_pos ht).symm)
    exact congrArg₂ (· + ·) (divideOr_real byZero htwelve _) (divideOr_real byZero hseries _)
  · have hpos : 0 < t := lt_of_lt_of_le smallAngle_pos (not_lt.mp ht)
    have hsquare : t * t ≠ 0 := (mul_pos hpos hpos).ne'
    have hcos : 1 - Real.cos t ≠ 0 := sub_ne_zero.mpr (hpartial.resolve_left ht).symm
    refine (if_neg ht).trans (Eq.trans ?_ (if_neg ht).symm)
    refine (divideOr_real byZero hsquare _).trans ?_
    exact congrArg (fun quotient : ExtendedReal => (1 - quotient) / real (t * t))
      (divideOr_real byZero hcos _)

theorem angularVelocityToLogRate_dividingOr {angle : ℝ}
    (hpartial : |angle| < smallAngle ∨ Real.cos angle ≠ 1) (axis : Vec3 ExtendedReal) :
    @angularVelocityToLogRate ExtendedReal (dividingOr byZero).toScalar (real angle) axis =
      angularVelocityToLogRate (real angle) axis := by
  rw [← Real.cos_abs] at hpartial
  exact congrArg (fun coefficient =>
    let turn := Mat3.skew (axis.scale (real angle))
    Mat3.identity - turn.scale 0.5 + (turn * turn).scale coefficient)
    (quadraticCoefficient_dividingOr byZero hpartial)

namespace Quat

variable (q : Quat ℝ)

theorem logRate_dividingOr :
    @logRate ExtendedReal (dividingOr byZero).toScalar q.extend = q.extend.logRate := by
  have hpartial := q.angleAxis_partial
  unfold logRate
  rw [angleAxis_dividingOr, extend_angleAxis]
  rcases hq : q.angleAxis with ⟨angle, _ | axis⟩
  · rfl
  · rw [hq] at hpartial
    exact angularVelocityToLogRate_dividingOr byZero hpartial axis.extend

-- What an angle with an axis stands on, and what is divided by when the rate of change of the
-- exponential coordinates is taken in closed form.
structure HasSafeAngle (angle : ℝ) : Prop where
  norm_pos : 0 < q.imaginary.norm
  pos : 0 < angle
  le_pi : angle ≤ Real.pi
  closedForm : ¬|angle| < smallAngle → 0 < 1 - Real.cos |angle| ∧ 0 < |angle| * |angle|

variable {q}

theorem hasSafeAngle {angle : ℝ} {axis : Vec3 ℝ} (h : q.angleAxis = (angle, some axis)) :
    q.HasSafeAngle angle := by
  have hnorm : q.imaginary.norm ≠ 0 := by
    intro hzero
    rw [angleAxis_of_eq_zero hzero] at h
    cases h
  have hangle : angle = 2 * q.halfAngle := by
    rw [← angleAxis_fst, h]
  -- The argument of a point that is not on the real line is not zero.
  have hhalf : q.halfAngle ≠ 0 := fun hzero => hnorm (Complex.arg_eq_zero_iff.mp hzero).2
  have hpos : 0 < angle := by
    rw [hangle]
    exact mul_pos two_pos (lt_of_le_of_ne halfAngle_nonneg hhalf.symm)
  have hle : angle ≤ Real.pi := by
    have hbound := halfAngle_le (q := q)
    linarith
  refine ⟨lt_of_le_of_ne q.imaginary.norm_nonneg hnorm.symm, hpos, hle, fun _ => ?_⟩
  rw [abs_of_pos hpos]
  exact ⟨one_sub_cos_pos hpos (by linarith [Real.pi_pos]), mul_pos hpos hpos⟩

end Quat

end Rigid

end TaskSpace
