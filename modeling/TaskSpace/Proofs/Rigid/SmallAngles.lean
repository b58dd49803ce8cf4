import Mathlib
import TaskSpace.Proofs.Rigid.LeftJacobian

namespace TaskSpace.Rigid

section Series

-- The first terms of the series of cosine and sine.
noncomputable def cosineSum (count : ℕ) (t : ℝ) : ℝ :=
  ∑ k ∈ Finset.range count, (-1) ^ k * (t ^ (2 * k) / (2 * k).factorial)

noncomputable def sineSum (count : ℕ) (t : ℝ) : ℝ :=
  ∑ k ∈ Finset.range count, (-1) ^ k * (t ^ (2 * k + 1) / (2 * k + 1).factorial)

theorem cosineSum_succ (count : ℕ) (t : ℝ) : cosineSum (count + 1) t =
    cosineSum count t + (-1) ^ count * (t ^ (2 * count) / (2 * count).factorial) :=
  Finset.sum_range_succ _ _

theorem sineSum_succ (count : ℕ) (t : ℝ) : sineSum (count + 1) t =
    sineSum count t + (-1) ^ count * (t ^ (2 * count + 1) / (2 * count + 1).factorial) :=
  Finset.sum_range_succ _ _

theorem cosineSum_one (t : ℝ) : cosineSum 1 t = 1 := by simp [cosineSum]

theorem cosineSum_at_zero (count : ℕ) : cosineSum (count + 1) 0 = 1 := by
  induction count with
  | zero => exact cosineSum_one 0
  | succ count ih => rw [cosineSum_succ, ih]; simp

theorem sineSum_at_zero (count : ℕ) : sineSum count 0 = 0 := by simp [sineSum]

-- A power over its factorial changes like the power before it.
theorem hasDerivAt_pow_div_factorial (power : ℕ) (t : ℝ) :
    HasDerivAt (fun s : ℝ => s ^ (power + 1) / (power + 1).factorial) (t ^ power / power.factorial) t := by
  refine ((hasDerivAt_pow (power + 1) t).div_const _).congr_deriv ?_
  rw [Nat.factorial_succ, Nat.cast_mul, Nat.add_sub_cancel]
  field_simp

theorem hasDerivAt_sineSum (count : ℕ) (t : ℝ) : HasDerivAt (sineSum count) (cosineSum count t) t := by
  unfold sineSum cosineSum
  exact HasDerivAt.fun_sum fun k _ => (hasDerivAt_pow_div_factorial (2 * k) t).const_mul _

theorem hasDerivAt_cosineSum (count : ℕ) (t : ℝ) :
    HasDerivAt (cosineSum (count + 1)) (-sineSum count t) t := by
  induction count with
  | zero =>
      rw [funext cosineSum_one]
      simpa [sineSum] using hasDerivAt_const t (1 : ℝ)
  | succ count ih =>
      have hterm := (hasDerivAt_pow_div_factorial (2 * count + 1) t).const_mul ((-1) ^ (count + 1))
      rw [funext (cosineSum_succ (count + 1)), sineSum_succ]
      refine (ih.fun_add hterm).congr_deriv ?_
      ring

-- What starts at zero and does not fall is not negative.
theorem nonneg_of_hasDerivAt {f f' : ℝ → ℝ} (hf : ∀ t, HasDerivAt f (f' t) t) (hzero : f 0 = 0)
    (hf' : ∀ t, 0 ≤ t → 0 ≤ f' t) {t : ℝ} (ht : 0 ≤ t) : 0 ≤ f t := by
  have hmono : MonotoneOn f (Set.Ici 0) :=
    monotoneOn_of_hasDerivWithinAt_nonneg (convex_Ici 0)
      (fun s _ => (hf s).continuousAt.continuousWithinAt) (fun s _ => (hf s).hasDerivWithinAt)
      fun s hs => hf' s (interior_subset hs)
  exact hzero ▸ hmono Set.self_mem_Ici ht ht

section Remainders

variable {count : ℕ} {t : ℝ}

theorem sineRemainder_nonneg
    (hcosine : ∀ s, 0 ≤ s → 0 ≤ (-1) ^ count * (Real.cos s - cosineSum count s)) (ht : 0 ≤ t) :
    0 ≤ (-1) ^ count * (Real.sin t - sineSum count t) := by
  refine nonneg_of_hasDerivAt (fun s =>
    ((Real.hasDerivAt_sin s).fun_sub (hasDerivAt_sineSum count s)).const_mul _) ?_ hcosine ht
  rw [Real.sin_zero, sineSum_at_zero, sub_zero, mul_zero]

theorem cosineRemainder_nonneg
    (hsine : ∀ s, 0 ≤ s → 0 ≤ (-1) ^ count * (Real.sin s - sineSum count s)) (ht : 0 ≤ t) :
    0 ≤ (-1) ^ (count + 1) * (Real.cos t - cosineSum (count + 1) t) := by
  refine nonneg_of_hasDerivAt (fun s =>
    ((Real.hasDerivAt_cos s).fun_sub (hasDerivAt_cosineSum count s)).const_mul _) ?_ (fun s hs => ?_) ht
  · rw [Real.cos_zero, cosineSum_at_zero, sub_self, mul_zero]
  · have hnonneg := hsine s hs
    rw [pow_succ]
    linarith

end Remainders

-- Each function is on one side of its sums after an odd count, and on the other after an even one: what
-- remains of one changes by what remained of the other before.
theorem remainders_alternate (count : ℕ) :
    (∀ t, 0 ≤ t → 0 ≤ (-1) ^ (count + 1) * (Real.cos t - cosineSum (count + 1) t)) ∧
      ∀ t, 0 ≤ t → 0 ≤ (-1) ^ (count + 1) * (Real.sin t - sineSum (count + 1) t) := by
  induction count with
  | zero =>
      have hcosine : ∀ t : ℝ, 0 ≤ t → 0 ≤ (-1) ^ (0 + 1) * (Real.cos t - cosineSum (0 + 1) t) := by
        intro t _
        rw [cosineSum_one, zero_add, pow_one, neg_one_mul, neg_sub]
        exact sub_nonneg.mpr (Real.cos_le_one t)
      exact ⟨hcosine, fun _ => sineRemainder_nonneg hcosine⟩
  | succ count ih =>
      have hcosine := fun t => cosineRemainder_nonneg (t := t) ih.2
      exact ⟨hcosine, fun _ => sineRemainder_nonneg hcosine⟩

end Series

section Coefficient

variable {t : ℝ}

theorem cos_between (ht : 0 ≤ t) :
    1 - t ^ 2 / 2 + t ^ 4 / 24 - t ^ 6 / 720 + t ^ 8 / 40320 - t ^ 10 / 3628800 ≤ Real.cos t ∧
      Real.cos t ≤ 1 - t ^ 2 / 2 + t ^ 4 / 24 - t ^ 6 / 720 + t ^ 8 / 40320 := by
  have hfive : cosineSum 5 t = 1 - t ^ 2 / 2 + t ^ 4 / 24 - t ^ 6 / 720 + t ^ 8 / 40320 := by
    norm_num [cosineSum, Finset.sum_range_succ, Nat.factorial]
    ring
  have hsix : cosineSum 6 t = cosineSum 5 t - t ^ 10 / 3628800 := by
    norm_num [cosineSum_succ 5, Nat.factorial]
    ring
  have hupper := (remainders_alternate 4).1 t ht
  have hlower := (remainders_alternate 5).1 t ht
  rw [hsix] at hlower
  rw [hfive] at hlower hupper
  constructor <;> linarith

theorem sin_between (ht : 0 ≤ t) :
    t - t ^ 3 / 6 + t ^ 5 / 120 - t ^ 7 / 5040 ≤ Real.sin t ∧
      Real.sin t ≤ t - t ^ 3 / 6 + t ^ 5 / 120 - t ^ 7 / 5040 + t ^ 9 / 362880 := by
  have hfour : sineSum 4 t = t - t ^ 3 / 6 + t ^ 5 / 120 - t ^ 7 / 5040 := by
    norm_num [sineSum, Finset.sum_range_succ, Nat.factorial]
    ring
  have hfive : sineSum 5 t = sineSum 4 t + t ^ 9 / 362880 := by
    norm_num [sineSum_succ 4, Nat.factorial]
  have hlower := (remainders_alternate 3).2 t ht
  have hupper := (remainders_alternate 4).2 t ht
  rw [hfive] at hupper
  rw [hfour] at hlower hupper
  constructor <;> linarith

-- The sums on both sides agree up to the eighth power. There the two differ, and the powers behind it are
-- too small to change that.
theorem closedForm_between (hpos : 0 < t) (hsmall : t < 1 / 100) :
    (1 - Real.cos t) * (t ^ 2 / 12 + t ^ 4 / 720) ≤ 1 - Real.cos t - t / 2 * Real.sin t ∧
      1 - Real.cos t - t / 2 * Real.sin t ≤
        (1 - Real.cos t) * (t ^ 2 / 12 + t ^ 4 / 720 + t ^ 6 / 30000) := by
  obtain ⟨hcosLow, hcosHigh⟩ := cos_between hpos.le
  obtain ⟨hsinLow, hsinHigh⟩ := sin_between hpos.le
  have hhalf : 0 ≤ t / 2 := by positivity
  have hsquare : t ^ 2 ≤ 1 / 10000 := by nlinarith
  have hfourth : t ^ 4 ≤ 1 := pow_le_one₀ hpos.le (by linarith)
  have hsixth : t ^ 6 ≤ 1 := pow_le_one₀ hpos.le (by linarith)
  have hfourthNonneg : 0 ≤ t ^ 4 := by positivity
  have heighthNonneg : 0 ≤ t ^ 8 := by positivity
  constructor
  · have hcos : (t ^ 2 / 2 - t ^ 4 / 24 + t ^ 6 / 720 - t ^ 8 / 40320) * (1 - t ^ 2 / 12 - t ^ 4 / 720) ≤
        (1 - Real.cos t) * (1 - t ^ 2 / 12 - t ^ 4 / 720) :=
      mul_le_mul_of_nonneg_right (by linarith) (by linarith)
    have hsin := mul_le_mul_of_nonneg_left hsinHigh hhalf
    have hrest : 0 ≤ t ^ 8 * (1 / 60480 - t ^ 2 / 806400 + t ^ 4 / 29030400) :=
      mul_nonneg heighthNonneg (by linarith)
    linarith
  · have hcos : (1 - Real.cos t) * (1 - t ^ 2 / 12 - t ^ 4 / 720 - t ^ 6 / 30000) ≤
        (t ^ 2 / 2 - t ^ 4 / 24 + t ^ 6 / 720 - t ^ 8 / 40320 + t ^ 10 / 3628800) *
          (1 - t ^ 2 / 12 - t ^ 4 / 720 - t ^ 6 / 30000) :=
      mul_le_mul_of_nonneg_right (by linarith) (by linarith)
    have hsin := mul_le_mul_of_nonneg_left hsinLow hhalf
    have hrest : 0 ≤ t ^ 8 * (1 / 7560000 - 109 * t ^ 2 / 60480000 + 379 * t ^ 4 / 10886400000 -
        29 * t ^ 6 / 65318400000 + t ^ 8 / 108864000000) :=
      mul_nonneg heighthNonneg (by linarith)
    linarith

theorem quadraticCoefficient_of_small (hsmall : t < 1 / 100) :
    quadraticCoefficient t = 1 / 12 + t ^ 2 / 720 := by
  have hbelow : t < smallAngle := lt_of_lt_of_eq hsmall (by norm_num [smallAngle])
  rw [quadraticCoefficient, if_pos hbelow]
  norm_num
  ring

-- The series stays below the closed form, and near to it.
theorem closedForm_sub_quadraticCoefficient (hpos : 0 < t) (hsmall : t < 1 / 100) :
    (1 - t / 2 * Real.sin t / (1 - Real.cos t)) / t ^ 2 - quadraticCoefficient t ∈
      Set.Icc 0 (t ^ 4 / 30000) := by
  have hcos : 0 < 1 - Real.cos t := one_sub_cos_pos hpos (by linarith [Real.pi_gt_three])
  have hdenominator : 0 < (1 - Real.cos t) * t ^ 2 := by positivity
  have hquotient : (1 - t / 2 * Real.sin t / (1 - Real.cos t)) / t ^ 2 =
      (1 - Real.cos t - t / 2 * Real.sin t) / ((1 - Real.cos t) * t ^ 2) := by
    field_simp
  obtain ⟨hlow, hhigh⟩ := closedForm_between hpos hsmall
  rw [quadraticCoefficient_of_small hsmall, hquotient]
  constructor
  · rw [sub_nonneg, le_div_iff₀ hdenominator]
    linarith
  · rw [sub_le_iff_le_add, div_le_iff₀ hdenominator]
    linarith

end Coefficient

theorem Vec3.IsUnit.abs_get_le {v : Vec3 ℝ} (hv : v.IsUnit) (axis : Axis) : |v.get axis| ≤ 1 := by
  rw [Vec3.isUnit_iff, Vec3.dot_eq] at hv
  rw [← sq_le_one_iff_abs_le_one]
  cases axis with
  | x => rw [Vec3.get_x]; nlinarith [mul_self_nonneg v.y, mul_self_nonneg v.z]
  | y => rw [Vec3.get_y]; nlinarith [mul_self_nonneg v.x, mul_self_nonneg v.z]
  | z => rw [Vec3.get_z]; nlinarith [mul_self_nonneg v.x, mul_self_nonneg v.y]

namespace Mat3

-- Matrices that differ in no entry by more than an error.
def IsNear (m n : Mat3 ℝ) (error : ℝ) : Prop :=
  ∀ row column, |(m.rows.get row).get column - (n.rows.get row).get column| ≤ error

variable {axis : Vec3 ℝ}

theorem get_axial (axis : Vec3 ℝ) (a b c : ℝ) (row column : Axis) :
    ((axial axis a b c).rows.get row).get column =
      (identity.rows.get row).get column * a + ((skew axis).rows.get row).get column * b +
        ((skew axis * skew axis).rows.get row).get column * c := by
  cases row <;> cases column <;> rfl

theorem get_identity (row column : Axis) :
    ((identity : Mat3 ℝ).rows.get row).get column = if row = column then 1 else 0 := by
  cases row <;> cases column <;> simp [identity]

theorem get_skew_mul_skew (haxis : axis.IsUnit) (row column : Axis) :
    ((skew axis * skew axis).rows.get row).get column =
      axis.get row * axis.get column - (identity.rows.get row).get column := by
  rw [Vec3.isUnit_iff, Vec3.dot_eq] at haxis
  cases row <;> cases column <;> simp [skew, identity, Mat3.column, Vec3.dot_eq] <;> linarith

theorem abs_get_skew_mul_skew_le (haxis : axis.IsUnit) (row column : Axis) :
    |((skew axis * skew axis).rows.get row).get column| ≤ 1 := by
  have hproduct : |axis.get row * axis.get column| ≤ 1 := by
    rw [abs_mul]
    exact mul_le_one₀ (haxis.abs_get_le row) (abs_nonneg _) (haxis.abs_get_le column)
  rw [get_skew_mul_skew haxis, get_identity]
  split_ifs with hsame
  · rw [hsame] at hproduct ⊢
    have hsquare := mul_self_nonneg (axis.get column)
    rw [abs_le] at hproduct ⊢
    constructor <;> linarith
  · rwa [sub_zero]

theorem axial_isNear (haxis : axis.IsUnit) (a b c c' : ℝ) :
    (axial axis a b c).IsNear (axial axis a b c') |c - c'| := by
  intro row column
  have hentry := abs_get_skew_mul_skew_le haxis row column
  rw [get_axial, get_axial, add_sub_add_left_eq_sub, ← mul_sub, abs_mul]
  exact mul_le_of_le_one_left (abs_nonneg _) hentry

end Mat3

section Operator

variable {axis : Vec3 ℝ} {angle : ℝ}

theorem angularVelocityToLogRate_zero (axis : Vec3 ℝ) : angularVelocityToLogRate 0 axis = .identity := by
  rw [angularVelocityToLogRate_eq_axial, ← Mat3.axial_one axis]
  congr 1
  · norm_num
  · ring

-- The two agree but for their quadratic coefficients.
theorem angularVelocityToLogRate_isNear (haxis : axis.IsUnit) (hne : angle ≠ 0) (hsmall : |angle| < 1 / 100) :
    (angularVelocityToLogRate angle axis).IsNear
      (Mat3.axial axis 1 (-(angle / 2)) (1 - angle / 2 * (Real.sin angle / (1 - Real.cos angle))))
      (|angle| ^ 6 / 30000) := by
  obtain ⟨hlow, hhigh⟩ := closedForm_sub_quadraticCoefficient (abs_pos.mpr hne) hsmall
  have hdifference : 1 - angle / 2 * (Real.sin angle / (1 - Real.cos angle)) -
      quadraticCoefficient |angle| * angle ^ 2 =
        ((1 - |angle| / 2 * Real.sin |angle| / (1 - Real.cos |angle|)) / |angle| ^ 2 -
          quadraticCoefficient |angle|) * |angle| ^ 2 := by
    rw [abs_mul_sin_abs_div, sq_abs]
    field_simp
  intro row column
  rw [angularVelocityToLogRate_eq_axial]
  calc _ ≤ _ := Mat3.axial_isNear haxis _ _ _ _ row column
    _ = |1 - angle / 2 * (Real.sin angle / (1 - Real.cos angle)) -
          quadraticCoefficient |angle| * angle ^ 2| := abs_sub_comm _ _
    _ = ((1 - |angle| / 2 * Real.sin |angle| / (1 - Real.cos |angle|)) / |angle| ^ 2 -
          quadraticCoefficient |angle|) * |angle| ^ 2 := by
        rw [hdifference, abs_of_nonneg (mul_nonneg hlow (sq_nonneg _))]
    _ ≤ |angle| ^ 4 / 30000 * |angle| ^ 2 := mul_le_mul_of_nonneg_right hhigh (sq_nonneg _)
    _ = |angle| ^ 6 / 30000 := by ring

-- Below the small angle the coefficient is taken from its series. It falls short of the closed form by a
-- fourth power at most, and the operator differs from the inverse of the left Jacobian by a sixth one.
theorem angularVelocityToLogRate_nearInverse :
    (∀ t : ℝ, 0 < t → t < 1 / 100 →
      quadraticCoefficient t = 1 / 12 + t ^ 2 / 720 ∧
      (1 - t / 2 * Real.sin t / (1 - Real.cos t)) / t ^ 2 - quadraticCoefficient t ∈
        Set.Icc 0 (t ^ 4 / 30000)) ∧
    ∀ (axis : Vec3 ℝ) (angle : ℝ), axis.IsUnit → |angle| < 1 / 100 →
      ∃ inverse : Mat3 ℝ, inverse * Mat3.leftJacobian angle axis = .identity ∧
        Mat3.leftJacobian angle axis * inverse = .identity ∧
        (angularVelocityToLogRate angle axis).IsNear inverse (|angle| ^ 6 / 30000) := by
  constructor
  · intro t hpos hsmall
    exact ⟨quadraticCoefficient_of_small hsmall, closedForm_sub_quadraticCoefficient hpos hsmall⟩
  · intro axis angle haxis hsmall
    by_cases hzero : angle = 0
    · rw [hzero, Mat3.leftJacobian_zero, angularVelocityToLogRate_zero]
      refine ⟨.identity, Mat3.mul_identity _, Mat3.mul_identity _, fun row column => ?_⟩
      simp
    · have hcos := one_sub_cos_ne_zero hzero (by linarith [Real.pi_gt_three])
      have hproduct := Mat3.axial_mul_leftJacobian haxis hzero hcos
      exact ⟨_, hproduct, (Mat3.leftJacobian_mul_axial haxis hzero _ _ _).trans hproduct,
        angularVelocityToLogRate_isNear haxis hzero hsmall⟩

-- Less than half a degree, about an oblique axis.
theorem angularVelocityToLogRate_nearInverse_obliqueTurn :
    let axis : Vec3 ℝ := ⟨2 / 3, -1 / 3, 2 / 3⟩
    let angle : ℝ := -1 / 125
    (axis.IsUnit ∧ 0 < |angle| ∧ |angle| < 1 / 100) ∧
      (1 - |angle| / 2 * Real.sin |angle| / (1 - Real.cos |angle|)) / |angle| ^ 2 -
        quadraticCoefficient |angle| ∈ Set.Icc 0 (|angle| ^ 4 / 30000) ∧
      ∃ inverse : Mat3 ℝ, inverse * Mat3.leftJacobian angle axis = .identity ∧
        Mat3.leftJacobian angle axis * inverse = .identity ∧
        (angularVelocityToLogRate angle axis).IsNear inverse (|angle| ^ 6 / 30000) := by
  intro axis angle
  have haxis : axis.IsUnit := by
    rw [Vec3.isUnit_iff]
    norm_num [Vec3.dot_eq, axis]
  have hpos : 0 < |angle| := abs_pos.mpr (by norm_num [angle])
  have hsmall : |angle| < 1 / 100 := abs_lt.mpr (by norm_num [angle])
  obtain ⟨hcoefficient, hinverse⟩ := angularVelocityToLogRate_nearInverse
  exact ⟨⟨haxis, hpos, hsmall⟩, (hcoefficient |angle| hpos hsmall).2, hinverse axis angle haxis hsmall⟩

end Operator

end TaskSpace.Rigid
