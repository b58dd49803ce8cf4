import Mathlib
import TaskSpace.Proofs.Rigid.Smooth
import TaskSpace.Rigid.RotationLog

namespace TaskSpace.Rigid

open Asymptotics Filter

-- A factor that vanishes at the point needs no more of the other one than continuity there.
theorem hasFDerivAt_mul_of_eq_zero {E : Type*} [NormedAddCommGroup E] [NormedSpace ℝ E] {f g : E → ℝ}
    {slope : E →L[ℝ] ℝ} {point : E} (hf : HasFDerivAt f slope point) (hzero : f point = 0)
    (hg : ContinuousAt g point) : HasFDerivAt (fun y => f y * g y) (g point • slope) point := by
  have hconst : HasFDerivAt (fun y => f y * g point) (g point • slope) point := hf.mul_const (g point)
  have hrest : HasFDerivAt (fun y => f y * (g y - g point)) (0 : E →L[ℝ] ℝ) point := by
    have hbig : f =O[nhds point] fun y => y - point := by
      simpa only [hzero, sub_zero] using hf.isBigO_sub
    have hlittle : (fun y => g y - g point) =o[nhds point] fun _ => (1 : ℝ) := by
      rw [isLittleO_one_iff]
      simpa only [sub_self] using hg.tendsto.sub_const (g point)
    have hproduct := hbig.norm_right.mul_isLittleO hlittle
    refine .of_isLittleO ?_
    simpa only [hzero, zero_mul, sub_zero, zero_apply, mul_one,
      isLittleO_norm_right] using hproduct
  have hsum := hconst.add hrest
  rw [add_zero] at hsum
  refine hsum.congr_of_eventuallyEq (Filter.Eventually.of_forall fun y => ?_)
  simp only [Pi.add_apply]
  ring

theorem differentiableAt_div {E : Type*} [NormedAddCommGroup E] [NormedSpace ℝ E] {f g : E → ℝ}
    {point : E} (hf : DifferentiableAt ℝ f point) (hg : DifferentiableAt ℝ g point)
    (hne : g point ≠ 0) : DifferentiableAt ℝ (fun y => f y / g y) point := by
  simp only [div_eq_mul_inv]
  exact hf.mul (hg.inv hne)

-- The angle of a rotation matrix, from its trace.
noncomputable def Mat3.angle (m : Mat3 ℝ) : ℝ :=
  Real.arccos ((m.rows.x.x + m.rows.y.y + m.rows.z.z - 1) / 2.0)

theorem angularVelocityToLogRate_apply (angle : ℝ) (axis velocity : Vec3 ℝ) :
    (angularVelocityToLogRate angle axis).apply velocity =
      velocity - ((axis.scale angle).cross velocity).scale 0.5 +
        ((axis.scale angle).cross ((axis.scale angle).cross velocity)).scale (quadraticCoefficient |angle|) := by
  unfold angularVelocityToLogRate
  rw [Mat3.add_apply, Mat3.sub_apply, Mat3.scale_apply, Mat3.scale_apply, Mat3.apply_mul, Mat3.skew_apply,
    Mat3.skew_apply, Mat3.identity_apply]
  rfl

namespace Quat

variable {q : Quat ℝ}

-- Half of the angle of a rotation, between zero and a right angle.
noncomputable def halfAngle (q : Quat ℝ) : ℝ := Scalar.atan2 q.imaginary.norm |q.w|

theorem halfAngle_nonneg : 0 ≤ q.halfAngle :=
  Complex.arg_nonneg_iff.mpr q.imaginary.norm_nonneg

theorem halfAngle_le : q.halfAngle ≤ Real.pi / 2 :=
  (abs_le.mp (Complex.abs_arg_le_pi_div_two_iff.mpr (abs_nonneg q.w))).2

theorem halfAngle_eq_arctan (hw : q.w ≠ 0) :
    q.halfAngle = Real.arctan (q.imaginary.norm / |q.w|) := by
  have hlt := abs_lt.mp (Complex.abs_arg_lt_pi_div_two_iff.mpr (Or.inl (abs_pos.mpr hw)) :
    |Complex.arg ⟨|q.w|, q.imaginary.norm⟩| < Real.pi / 2)
  have htan := Complex.tan_arg ⟨|q.w|, q.imaginary.norm⟩
  exact (Real.arctan_eq_of_tan_eq htan ⟨hlt.1, hlt.2⟩).symm

theorem IsUnit.imaginary_norm_sq (hq : q.IsUnit) : q.imaginary.norm ^ 2 + q.w ^ 2 = 1 := by
  have hunit := (isUnit_iff q).mp hq
  rw [Vec3.norm_sq, Vec3.dot_eq]
  simp only [imaginary]
  linear_combination hunit

theorem IsUnit.norm_complex (hq : q.IsUnit) : ‖(⟨|q.w|, q.imaginary.norm⟩ : ℂ)‖ = 1 := by
  have hsq := hq.imaginary_norm_sq
  rw [Complex.norm_def, Complex.normSq_mk, Real.sqrt_eq_one, abs_mul_abs_self]
  linear_combination hsq

theorem IsUnit.sin_halfAngle (hq : q.IsUnit) : Real.sin q.halfAngle = q.imaginary.norm := by
  have hsin := Complex.sin_arg ⟨|q.w|, q.imaginary.norm⟩
  rwa [hq.norm_complex, div_one] at hsin

theorem IsUnit.cos_halfAngle (hq : q.IsUnit) : Real.cos q.halfAngle = |q.w| := by
  have hcos := Complex.norm_mul_cos_arg ⟨|q.w|, q.imaginary.norm⟩
  rwa [hq.norm_complex, one_mul] at hcos

theorem IsUnit.sin_two_mul_halfAngle (hq : q.IsUnit) :
    Real.sin (2 * q.halfAngle) = 2 * q.imaginary.norm * |q.w| := by
  rw [Real.sin_two_mul, hq.sin_halfAngle, hq.cos_halfAngle]

theorem IsUnit.one_sub_cos_two_mul_halfAngle (hq : q.IsUnit) :
    1 - Real.cos (2 * q.halfAngle) = 2 * q.imaginary.norm ^ 2 := by
  rw [Real.cos_two_mul', hq.sin_halfAngle, hq.cos_halfAngle, sq_abs]
  linear_combination -hq.imaginary_norm_sq

theorem angleAxis_of_eq_zero (hzero : q.imaginary.norm = 0) : q.angleAxis = (0, none) := by
  unfold angleAxis
  exact if_pos (Scalar.real_beq_iff _ _ |>.mpr hzero)

theorem angleAxis_of_ne_zero (hne : q.imaginary.norm ≠ 0) :
    q.angleAxis = (2 * q.halfAngle,
      some ((q.imaginary.divide q.imaginary.norm).scale (Scalar.signum q.w))) := by
  unfold angleAxis
  rw [if_neg fun h => hne (Scalar.real_beq_iff _ _ |>.mp h), Scalar.real_two]
  rfl

theorem angleAxis_fst : q.angleAxis.1 = 2 * q.halfAngle := by
  by_cases hzero : q.imaginary.norm = 0
  · rw [angleAxis_of_eq_zero hzero, halfAngle, hzero]
    have harg : Complex.arg ⟨|q.w|, 0⟩ = 0 := Complex.arg_ofReal_of_nonneg (abs_nonneg q.w)
    change 0 = 2 * Complex.arg ⟨|q.w|, 0⟩
    rw [harg, mul_zero]
  · rw [angleAxis_of_ne_zero hzero]

theorem IsUnit.angle_toMatrix (hq : q.IsUnit) : q.toMatrix.angle = q.angleAxis.1 := by
  have htrace : (q.toMatrix.rows.x.x + q.toMatrix.rows.y.y + q.toMatrix.rows.z.z - 1) / 2 =
      Real.cos (2 * q.halfAngle) := by
    have hunit := (isUnit_iff q).mp hq
    rw [Real.cos_two_mul, hq.cos_halfAngle, sq_abs]
    simp only [toMatrix]
    linear_combination -hunit / 2
  have hle := halfAngle_le (q := q)
  rw [Mat3.angle, Scalar.real_two, htrace, angleAxis_fst,
    Real.arccos_cos (mul_nonneg zero_le_two halfAngle_nonneg) (by linarith)]

-- Only half turns have no real part.
theorem IsUnit.w_ne_zero (hq : q.IsUnit) (hangle : q.angleAxis.1 < Real.pi) : q.w ≠ 0 := by
  rw [angleAxis_fst] at hangle
  have hnonneg := halfAngle_nonneg (q := q)
  have hpos : 0 < Real.cos q.halfAngle :=
    Real.cos_pos_of_mem_Ioo ⟨by linarith [Real.pi_pos], by linarith⟩
  rw [hq.cos_halfAngle] at hpos
  exact abs_pos.mp hpos

section AxisAngle

variable {v : Vec3 ℝ} {angle : ℝ}

theorem imaginary_ofAxisAngle (v : Vec3 ℝ) (angle : ℝ) :
    (ofAxisAngle v angle).imaginary = v.scale (Real.sin (angle / 2)) := by
  rw [← Scalar.real_two]
  rfl

theorem imaginary_norm_ofAxisAngle (hv : v.IsUnit) (angle : ℝ) :
    (ofAxisAngle v angle).imaginary.norm = |Real.sin (angle / 2)| := by
  have hunit : v.x * v.x + v.y * v.y + v.z * v.z = 1 := v.isUnit_iff.mp hv
  rw [← Real.sqrt_sq_eq_abs, Vec3.norm, Vec3.dot_eq, Scalar.real_sqrt]
  congr 1
  simp only [ofAxisAngle, ofParts, imaginary, Vec3.scale_x, Vec3.scale_y, Vec3.scale_z, Scalar.real_sin,
    Scalar.real_two]
  linear_combination Real.sin (angle / 2) ^ 2 * hunit

theorem ofAxisAngle_w (v : Vec3 ℝ) (angle : ℝ) : (ofAxisAngle v angle).w = Real.cos (angle / 2) := by
  simp [ofAxisAngle, ofParts]

theorem halfAngle_ofAxisAngle (hv : v.IsUnit) (hangle : |angle| ≤ Real.pi) :
    (ofAxisAngle v angle).halfAngle = |angle| / 2 := by
  have hpi := Real.pi_pos
  have hcos := (isUnit_ofAxisAngle hv angle).cos_halfAngle
  have hhalf : Real.cos (angle / 2) = Real.cos (|angle| / 2) := by
    rw [← Real.cos_abs, abs_div, abs_two]
  have hnonneg : 0 ≤ Real.cos (|angle| / 2) :=
    Real.cos_nonneg_of_neg_pi_div_two_le_of_le (by linarith [abs_nonneg angle]) (by linarith)
  rw [ofAxisAngle_w, hhalf, abs_of_nonneg hnonneg] at hcos
  have hle := halfAngle_le (q := ofAxisAngle v angle)
  exact Real.injOn_cos ⟨halfAngle_nonneg, by linarith⟩
    ⟨by linarith [abs_nonneg angle], by linarith⟩ hcos

-- The logarithm undoes turns by less than half a turn.
theorem angle_toMatrix_ofAxisAngle (hv : v.IsUnit) (hangle : |angle| ≤ Real.pi) :
    (ofAxisAngle v angle).toMatrix.angle = |angle| := by
  rw [(isUnit_ofAxisAngle hv angle).angle_toMatrix, angleAxis_fst, halfAngle_ofAxisAngle hv hangle]
  ring

-- Half a turn is never reached, and the sine of half the angle has the sign of the angle.
theorem sin_half_ne_zero (hangle : |angle| < Real.pi) (hne : angle ≠ 0) : Real.sin (angle / 2) ≠ 0 := by
  have hbounds := abs_lt.mp hangle
  intro h
  have hhalf := (Real.sin_eq_zero_iff_of_lt_of_lt (by linarith) (by linarith)).mp h
  exact hne (by linarith)

theorem sin_half_div_abs (hangle : |angle| < Real.pi) (hne : angle ≠ 0) :
    Real.sin (angle / 2) / |Real.sin (angle / 2)| * |angle| = angle := by
  have hbounds := abs_lt.mp hangle
  have hsin := sin_half_ne_zero hangle hne
  rcases lt_or_gt_of_ne hne with hneg | hpos
  · have hlt : Real.sin (angle / 2) < 0 :=
      Real.sin_neg_of_neg_of_neg_pi_lt (by linarith) (by linarith)
    rw [abs_of_neg hlt, abs_of_neg hneg, div_neg, div_self hsin]
    ring
  · have hgt : 0 < Real.sin (angle / 2) :=
      Real.sin_pos_of_pos_of_lt_pi (by linarith) (by linarith)
    rw [abs_of_pos hgt, abs_of_pos hpos, div_self hsin, one_mul]

theorem rotationLog_ofAxisAngle (hv : v.IsUnit) (hangle : |angle| < Real.pi) :
    (ofAxisAngle v angle).rotationLog = v.scale angle := by
  have hbounds := abs_lt.mp hangle
  have hpi := Real.pi_pos
  by_cases hzero : angle = 0
  · have hnorm := imaginary_norm_ofAxisAngle hv angle
    rw [hzero, zero_div, Real.sin_zero, abs_zero] at hnorm
    rw [hzero, rotationLog, angleAxis_of_eq_zero hnorm]
    ext <;> simp
  · have hne : (ofAxisAngle v angle).imaginary.norm ≠ 0 := by
      rw [imaginary_norm_ofAxisAngle hv]
      exact abs_ne_zero.mpr (sin_half_ne_zero hangle hzero)
    have hsignum : Scalar.signum (ofAxisAngle v angle).w = 1 := by
      have hpos : 0 < Real.cos (angle / 2) :=
        Real.cos_pos_of_mem_Ioo ⟨by linarith, by linarith⟩
      rw [ofAxisAngle_w, Scalar.real_signum, if_neg (not_lt.mpr hpos.le)]
    have hsign := sin_half_div_abs hangle hzero
    rw [rotationLog, angleAxis_of_ne_zero hne, hsignum, halfAngle_ofAxisAngle hv hangle.le,
      imaginary_norm_ofAxisAngle hv, imaginary_ofAxisAngle]
    ext <;> simp only [Vec3.scale_x, Vec3.scale_y, Vec3.scale_z, Vec3.divide_x, Vec3.divide_y,
      Vec3.divide_z]
    · linear_combination v.x * hsign
    · linear_combination v.y * hsign
    · linear_combination v.z * hsign

end AxisAngle

-- The factor between the imaginary part and the exponential coordinates, for all rotations but half
-- turns.
noncomputable def logFactor (q : Quat ℝ) : ℝ :=
  2.0 * dslope Real.arctan 0 (q.imaginary.norm / q.w) / q.w

theorem logFactor_of_eq_zero (hzero : q.imaginary.norm = 0) : q.logFactor = 2 / q.w := by
  rw [logFactor, Scalar.real_two, hzero, zero_div, dslope_same, Real.deriv_arctan]
  norm_num

theorem logFactor_of_ne_zero (hne : q.imaginary.norm ≠ 0) (hw : q.w ≠ 0) :
    q.logFactor = 2 * Real.arctan (q.imaginary.norm / q.w) / q.imaginary.norm := by
  rw [logFactor, Scalar.real_two, dslope_of_ne _ (div_ne_zero hne hw), slope_def_field, Real.arctan_zero,
    sub_zero, sub_zero]
  field_simp

-- The axis carries the sign of the real part.
theorem signum_mul_halfAngle (hw : q.w ≠ 0) :
    Scalar.signum q.w * q.halfAngle = Real.arctan (q.imaginary.norm / q.w) := by
  rw [halfAngle_eq_arctan hw, Scalar.real_signum]
  split_ifs with hneg
  · rw [abs_of_neg hneg, div_neg, Real.arctan_neg]
    ring
  · rw [abs_of_nonneg (not_lt.mp hneg), one_mul]

theorem signum_mul_w : Scalar.signum q.w * q.w = |q.w| := by
  rw [Scalar.real_signum]
  split_ifs with hneg
  · rw [abs_of_neg hneg, neg_one_mul]
  · rw [abs_of_nonneg (not_lt.mp hneg), one_mul]

theorem signum_sq : Scalar.signum q.w ^ 2 = 1 := by
  rw [Scalar.real_signum]
  split_ifs <;> norm_num

theorem rotationLog_eq (hw : q.w ≠ 0) : q.rotationLog = q.imaginary.scale q.logFactor := by
  unfold rotationLog
  by_cases hzero : q.imaginary.norm = 0
  · rw [angleAxis_of_eq_zero hzero, (Vec3.norm_eq_zero_iff _).mp hzero]
    ext <;> simp
  · have hsign := signum_mul_halfAngle hw
    rw [angleAxis_of_ne_zero hzero, logFactor_of_ne_zero hzero hw, ← hsign]
    ext <;> simp only [Vec3.scale_x, Vec3.scale_y, Vec3.scale_z, Vec3.divide_x, Vec3.divide_y,
      Vec3.divide_z] <;> ring

section Smooth

variable {E : Type*} [NormedAddCommGroup E] [NormedSpace ℝ E] {f : E → Quat ℝ} {point : E}

theorem SmoothAt.eventually_rotationLog_eq (hf : SmoothAt f point) (hw : (f point).w ≠ 0)
    (axis : Axis) :
    (fun y => (f y).rotationLog.get axis) =ᶠ[nhds point]
      fun y => (f y).imaginary.get axis * (f y).logFactor := by
  filter_upwards [hf.w.continuousAt.eventually_ne hw] with y hy
  rw [rotationLog_eq hy]
  exact Vec3.get_map _ _ _

-- The factor is continuous also where there is no axis.
theorem SmoothAt.continuousAt_logFactor (hf : SmoothAt f point) (hw : (f point).w ≠ 0) :
    ContinuousAt (fun y => (f y).logFactor) point := by
  have hratio : ContinuousAt (fun y => (f y).imaginary.norm / (f y).w) point :=
    hf.imaginary.continuousAt_norm.div hf.w.continuousAt hw
  have hquotient : ContinuousAt (dslope Real.arctan 0) ((f point).imaginary.norm / (f point).w) := by
    by_cases hzero : (f point).imaginary.norm / (f point).w = 0
    · rw [hzero, continuousAt_dslope_same]
      exact Real.differentiableAt_arctan 0
    · rw [continuousAt_dslope_of_ne hzero]
      exact Real.continuous_arctan.continuousAt
  have hcomp : ContinuousAt
      (fun y => dslope Real.arctan 0 ((f y).imaginary.norm / (f y).w)) point :=
    ContinuousAt.comp (f := fun y => (f y).imaginary.norm / (f y).w) hquotient hratio
  exact (hcomp.const_mul 2.0).div hf.w.continuousAt hw

theorem SmoothAt.rotationLog (hf : SmoothAt f point) (hw : (f point).w ≠ 0) :
    Vec3.SmoothAt (fun y => (f y).rotationLog) point := by
  intro axis
  have hentry : DifferentiableAt ℝ
      (fun y => (f y).imaginary.get axis * (f y).logFactor) point := by
    by_cases hzero : (f point).imaginary.norm = 0
    · have hget : (f point).imaginary.get axis = 0 := by
        rw [(Vec3.norm_eq_zero_iff _).mp hzero]
        cases axis <;> rfl
      exact (hasFDerivAt_mul_of_eq_zero (hf.imaginary axis).hasFDerivAt hget
        (hf.continuousAt_logFactor hw)).differentiableAt
    · have hratio : DifferentiableAt ℝ (fun y => (f y).imaginary.norm / (f y).w) point :=
        differentiableAt_div (hf.imaginary.norm hzero) hf.w hw
      have hquotient : DifferentiableAt ℝ (dslope Real.arctan 0)
          ((f point).imaginary.norm / (f point).w) :=
        (differentiableAt_dslope_of_ne (div_ne_zero hzero hw)).mpr (Real.differentiableAt_arctan _)
      have hcomp : DifferentiableAt ℝ
          (fun y => dslope Real.arctan 0 ((f y).imaginary.norm / (f y).w)) point :=
        DifferentiableAt.comp point hquotient hratio
      have hfactor : DifferentiableAt ℝ (fun y => (f y).logFactor) point :=
        differentiableAt_div (hcomp.const_mul 2.0) hf.w hw
      exact (hf.imaginary axis).mul hfactor
  exact hentry.congr_of_eventuallyEq (hf.eventually_rotationLog_eq hw axis)

end Smooth

section Rate

variable {path : ℝ → Quat ℝ} {rate : Quat ℝ} {velocity : Vec3 ℝ} {time : ℝ}

theorem HasRateAt.smoothAt (h : HasRateAt path rate time) : SmoothAt path time :=
  ⟨h.x.differentiableAt, h.y.differentiableAt, h.z.differentiableAt, h.w.differentiableAt⟩

theorem HasRateAt.imaginary (h : HasRateAt path rate time) :
    Vec3.HasRateAt (fun s => (path s).imaginary) rate.imaginary time := by
  rintro (_ | _ | _)
  · exact h.x
  · exact h.y
  · exact h.z

theorem spin_imaginary (velocity : Vec3 ℝ) (q : Quat ℝ) :
    (spin velocity q).imaginary =
      (velocity.scale q.w + velocity.cross q.imaginary).scale (1 / 2) := by
  ext <;> simp only [spin, Scalar.real_half, pure, ofParts, imaginary, mul_x, mul_y, mul_z,
    Vec3.scale_x, Vec3.scale_y, Vec3.scale_z, Vec3.add_x, Vec3.add_y, Vec3.add_z, Vec3.cross_x,
    Vec3.cross_y, Vec3.cross_z] <;> ring

theorem spin_w (velocity : Vec3 ℝ) (q : Quat ℝ) :
    (spin velocity q).w = -(velocity.dot q.imaginary / 2) := by
  simp only [spin, Scalar.real_half, pure, ofParts, imaginary, mul_w, Vec3.scale_x, Vec3.scale_y,
    Vec3.scale_z, Vec3.dot_eq]
  ring

-- The sine of half the angle grows with the part of the angular velocity along the axis.
theorem HasRateAt.norm_imaginary (h : HasRateAt path (spin velocity (path time)) time)
    (hne : (path time).imaginary.norm ≠ 0) :
    HasDerivAt (fun s => (path s).imaginary.norm)
      ((path time).w * velocity.dot (path time).imaginary / (2 * (path time).imaginary.norm)) time := by
  have hrate := h.imaginary
  rw [spin_imaginary] at hrate
  have hdot := (((hrate .x).mul (hrate .x)).add ((hrate .y).mul (hrate .y))).add
    ((hrate .z).mul (hrate .z))
  have hpos : (path time).imaginary.dot (path time).imaginary ≠ 0 := by
    rw [← Vec3.norm_sq]
    exact pow_ne_zero 2 hne
  refine (hdot.sqrt hpos).congr_deriv ?_
  change _ / (2 * (path time).imaginary.norm) = _
  congr 1
  simp only [Vec3.get_x, Vec3.get_y, Vec3.get_z, Vec3.scale_x, Vec3.scale_y, Vec3.scale_z, Vec3.add_x,
    Vec3.add_y, Vec3.add_z, Vec3.cross_x, Vec3.cross_y, Vec3.cross_z, Vec3.dot_eq]
  ring

-- Half the angle, with the sign of the real part, and only that part of the angular velocity.
theorem HasRateAt.arctan (h : HasRateAt path (spin velocity (path time)) time)
    (hne : (path time).imaginary.norm ≠ 0) (hw : (path time).w ≠ 0) :
    HasDerivAt (fun s => Real.arctan ((path s).imaginary.norm / (path s).w))
      (velocity.dot (path time).imaginary / (2 * (path time).imaginary.norm)) time := by
  have hreal := h.w
  rw [spin_w] at hreal
  refine ((h.norm_imaginary hne).fun_div hreal hw).arctan.congr_deriv ?_
  have hsum : (path time).imaginary.norm ^ 2 + (path time).w ^ 2 ≠ 0 := by positivity
  field_simp
  ring

theorem HasRateAt.logFactor (h : HasRateAt path (spin velocity (path time)) time)
    (hne : (path time).imaginary.norm ≠ 0) (hw : (path time).w ≠ 0) :
    HasDerivAt (fun s => (path s).logFactor)
      (velocity.dot (path time).imaginary *
        (1 - Real.arctan ((path time).imaginary.norm / (path time).w) * (path time).w /
          (path time).imaginary.norm) / (path time).imaginary.norm ^ 2) time := by
  have hquotient := ((h.arctan hne hw).const_mul 2).fun_div (h.norm_imaginary hne) hne
  have heq : (fun s => (path s).logFactor) =ᶠ[nhds time] fun s =>
      2 * Real.arctan ((path s).imaginary.norm / (path s).w) / (path s).imaginary.norm := by
    filter_upwards [h.smoothAt.imaginary.continuousAt_norm.eventually_ne hne,
      h.smoothAt.w.continuousAt.eventually_ne hw] with s hs hws
    exact logFactor_of_ne_zero hs hws
  refine (hquotient.congr_of_eventuallyEq heq).congr_deriv ?_
  field_simp

-- Near a rotation by zero the factor does not have to be differentiated.
theorem HasRateAt.rotationLog_of_eq_zero (h : HasRateAt path (spin velocity (path time)) time)
    (hzero : (path time).imaginary.norm = 0) (hw : (path time).w ≠ 0) :
    Vec3.HasRateAt (fun s => (path s).rotationLog) velocity time := by
  intro axis
  have himaginary : (path time).imaginary = .zero := (Vec3.norm_eq_zero_iff _).mp hzero
  have hget : (path time).imaginary.get axis = 0 := by
    rw [himaginary]
    cases axis <;> rfl
  have hspin : (spin velocity (path time)).imaginary.get axis =
      velocity.get axis * (path time).w / 2 := by
    rw [spin_imaginary, himaginary]
    cases axis <;> simp <;> ring
  have hproduct := (hasFDerivAt_mul_of_eq_zero (h.imaginary axis).hasFDerivAt hget
    (h.smoothAt.continuousAt_logFactor hw)).hasDerivAt
  refine (hproduct.congr_of_eventuallyEq
    (h.smoothAt.eventually_rotationLog_eq hw axis)).congr_deriv ?_
  rw [logFactor_of_eq_zero hzero, hspin]
  simp only [smul_apply, ContinuousLinearMap.toSpanSingleton_apply, smul_eq_mul,
    one_mul]
  field_simp

end Rate

-- The quadratic coefficient of the closed form, from the half angle with the sign of the real part.
theorem IsUnit.quadraticCoefficient_eq (hq : q.IsUnit) (hne : q.imaginary.norm ≠ 0) (hw : q.w ≠ 0)
    (hangle : smallAngle ≤ q.angleAxis.1) :
    quadraticCoefficient |q.angleAxis.1| =
      (1 - Real.arctan (q.imaginary.norm / q.w) * q.w / q.imaginary.norm) /
        (2 * Real.arctan (q.imaginary.norm / q.w)) ^ 2 := by
  have hnumerator : Scalar.signum q.w * q.halfAngle * q.w = q.halfAngle * |q.w| := by
    rw [← signum_mul_w]
    ring
  have hdenominator : (2 * (Scalar.signum q.w * q.halfAngle)) ^ 2 = (2 * q.halfAngle) ^ 2 := by
    linear_combination 4 * q.halfAngle ^ 2 * signum_sq
  rw [angleAxis_fst] at hangle ⊢
  have hsmall : (0 : ℝ) < smallAngle := by norm_num [smallAngle]
  have hpos : q.halfAngle ≠ 0 := by
    intro hzero
    rw [hzero] at hangle
    linarith
  rw [abs_of_nonneg (mul_nonneg zero_le_two halfAngle_nonneg), quadraticCoefficient,
    if_neg (not_lt.mpr hangle), Scalar.real_sin, Scalar.real_cos, hq.one_sub_cos_two_mul_halfAngle,
    hq.sin_two_mul_halfAngle, Scalar.real_half,
    ← signum_mul_halfAngle hw, hnumerator, hdenominator]
  field_simp

-- The operator on an angular velocity, by cross products with the imaginary part.
theorem IsUnit.logRate_apply (hq : q.IsUnit) (hne : q.imaginary.norm ≠ 0) (hw : q.w ≠ 0)
    (hangle : smallAngle ≤ q.angleAxis.1) (velocity : Vec3 ℝ) :
    q.logRate.apply velocity =
      velocity - (q.imaginary.cross velocity).scale (q.logFactor / 2) +
        (q.imaginary.cross (q.imaginary.cross velocity)).scale
          ((1 - Real.arctan (q.imaginary.norm / q.w) * q.w / q.imaginary.norm) /
            q.imaginary.norm ^ 2) := by
  have hrate : q.logRate.apply velocity = velocity - (q.rotationLog.cross velocity).scale 0.5 +
      (q.rotationLog.cross (q.rotationLog.cross velocity)).scale (quadraticCoefficient |q.angleAxis.1|) := by
    unfold logRate rotationLog
    rw [angleAxis_of_ne_zero hne]
    exact angularVelocityToLogRate_apply _ _ _
  have hhalf : q.logFactor * 0.5 = q.logFactor / 2 := by
    rw [Scalar.real_half]
    ring
  have hsquare : q.logFactor * (q.logFactor * quadraticCoefficient |q.angleAxis.1|) =
      (1 - Real.arctan (q.imaginary.norm / q.w) * q.w / q.imaginary.norm) /
        q.imaginary.norm ^ 2 := by
    have harctan : Real.arctan (q.imaginary.norm / q.w) ≠ 0 := fun h =>
      div_ne_zero hne hw (Real.arctan_eq_zero_iff.mp h)
    rw [hq.quadraticCoefficient_eq hne hw hangle, logFactor_of_ne_zero hne hw]
    field_simp
  rw [hrate, rotationLog_eq hw, Vec3.scale_cross, Vec3.scale_cross, Vec3.cross_scale, Vec3.scale_scale,
    Vec3.scale_scale, Vec3.scale_scale, hhalf, hsquare]

section Rate

variable {path : ℝ → Quat ℝ} {velocity : Vec3 ℝ} {time : ℝ}

-- The exponential coordinates of a turning rotation change by its operator, away from half turns and
-- from the tiny angles for which the operator takes a series.
theorem HasRateAt.rotationLog (h : HasRateAt path (spin velocity (path time)) time)
    (hq : (path time).IsUnit) (hw : (path time).w ≠ 0)
    (hangle : (path time).angleAxis.1 = 0 ∨ smallAngle ≤ (path time).angleAxis.1) :
    Vec3.HasRateAt (fun s => (path s).rotationLog) ((path time).logRate.apply velocity) time := by
  by_cases hzero : (path time).imaginary.norm = 0
  · have hrate : (path time).logRate = .identity := by
      unfold logRate
      rw [angleAxis_of_eq_zero hzero]
    rw [hrate, Mat3.identity_apply]
    exact h.rotationLog_of_eq_zero hzero hw
  · have hsmall : smallAngle ≤ (path time).angleAxis.1 := by
      rcases hangle with hnone | hsmall
      · rw [angleAxis_fst] at hnone
        have hhalf : (path time).halfAngle = 0 := by linarith
        have hsin := hq.sin_halfAngle
        rw [hhalf, Real.sin_zero] at hsin
        exact absurd hsin.symm hzero
      · exact hsmall
    -- The two coefficients that are left make up one.
    have hcoefficients : (path time).logFactor * (path time).w / 2 +
        (path time).imaginary.dot (path time).imaginary *
          ((1 - Real.arctan ((path time).imaginary.norm / (path time).w) * (path time).w /
            (path time).imaginary.norm) / (path time).imaginary.norm ^ 2) = 1 := by
      rw [logFactor_of_ne_zero hzero hw, ← Vec3.norm_sq]
      field_simp
      ring
    rw [hq.logRate_apply hzero hw hsmall]
    intro axis
    have hproduct := (h.imaginary axis).mul (h.logFactor hzero hw)
    refine (hproduct.congr_of_eventuallyEq
      (h.smoothAt.eventually_rotationLog_eq hw axis)).congr_deriv ?_
    rw [spin_imaginary, mul_div_assoc]
    rw [Vec3.dot_eq] at hcoefficients ⊢
    cases axis <;> simp only [Vec3.get_x, Vec3.get_y, Vec3.get_z, Vec3.scale_x, Vec3.scale_y,
      Vec3.scale_z, Vec3.add_x, Vec3.add_y, Vec3.add_z, Vec3.sub_x, Vec3.sub_y, Vec3.sub_z,
      Vec3.cross_x, Vec3.cross_y, Vec3.cross_z]
    · linear_combination velocity.x * hcoefficients
    · linear_combination velocity.y * hcoefficients
    · linear_combination velocity.z * hcoefficients

end Rate

end Quat

end TaskSpace.Rigid
