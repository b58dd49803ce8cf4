import Mathlib
import TaskSpace.Constraints.Bound
import TaskSpace.Proofs.Comparison

namespace TaskSpace.Constraints

open ExtendedReal (real infinite)
open Filter

namespace Bound

variable {bound : Bound ExtendedReal} {inside : ℝ}

-- Around a number each end is infinite or a number on its side.
theorem ends_of_contains (hinside : bound.contains (real inside) = true) :
    (bound.lower = infinite true ∨ ∃ lower ≤ inside, bound.lower = real lower) ∧
      (bound.upper = infinite false ∨ ∃ upper ≥ inside, bound.upper = real upper) := by
  obtain ⟨hlower, hupper⟩ := contains_iff.mp hinside
  constructor
  · cases hends : bound.lower with
    | real lower => rw [hends] at hlower; exact Or.inr ⟨lower, hlower, rfl⟩
    | infinite negative => rw [hends] at hlower; exact Or.inl (congrArg infinite hlower)
    | nan => rw [hends] at hlower; cases hlower
  · cases hends : bound.upper with
    | real upper => rw [hends] at hupper; exact Or.inr ⟨upper, hupper, rfl⟩
    | infinite negative => rw [hends] at hupper; exact Or.inl (congrArg infinite hupper)
    | nan => rw [hends] at hupper; cases hupper

theorem le_of_contains {lower : ℝ} (hlower : bound.lower = real lower)
    (hinside : bound.contains (real inside) = true) : lower ≤ inside := by
  rw [contains_iff, hlower] at hinside
  exact hinside.1

theorem ge_of_contains {upper : ℝ} (hupper : bound.upper = real upper)
    (hinside : bound.contains (real inside) = true) : inside ≤ upper := by
  rw [contains_iff, hupper] at hinside
  exact hinside.2

-- The penalty of a number and its slope, as numbers.
noncomputable def height (bound : Bound ExtendedReal) (value : ℝ) : ℝ :=
  match bound.penalty (real value) with
  | real height => height
  | _ => 0

noncomputable def tilt (bound : Bound ExtendedReal) (value : ℝ) : ℝ :=
  match bound.slope (real value) with
  | real tilt => tilt
  | _ => 0

variable {value : ℝ}

theorem penalty_of_contains (h : bound.contains (real value) = true) :
    bound.penalty (real value) = real 0 ∧ bound.slope (real value) = real 0 := by
  simp [penalty, slope, h]

theorem penalty_of_below {lower : ℝ} (hlower : bound.lower = real lower) (h : value < lower) :
    bound.penalty (real value) = real (lower - value) ∧ bound.slope (real value) = real (-1) := by
  have hout : ¬bound.contains (real value) = true := fun hin => (le_of_contains hlower hin).not_gt h
  simp [penalty, slope, hout, hlower, h]

theorem penalty_of_above (hinside : bound.contains (real inside) = true) {upper : ℝ}
    (hupper : bound.upper = real upper) (h : upper < value) :
    bound.penalty (real value) = real (value - upper) ∧ bound.slope (real value) = real 1 := by
  have hlower : ¬real value < bound.lower := by
    intro hbelow
    rcases (ends_of_contains hinside).1 with hinfinite | ⟨lower, hle, hlower⟩
    · rw [hinfinite] at hbelow
      cases hbelow
    · rw [hlower, ExtendedReal.lt_real] at hbelow
      have hge := ge_of_contains hupper hinside
      linarith
  have hout : ¬bound.contains (real value) = true := fun hin => (ge_of_contains hupper hin).not_gt h
  simp [penalty, slope, hout, hupper, hlower]

-- Below the lower end, above the upper one, or between them.
theorem below_or_above_or_contains (hinside : bound.contains (real inside) = true) (value : ℝ) :
    (∃ lower, bound.lower = real lower ∧ value < lower) ∨
      (∃ upper, bound.upper = real upper ∧ upper < value) ∨
      bound.contains (real value) = true := by
  obtain ⟨hlower, hupper⟩ := ends_of_contains hinside
  by_cases hbelow : real value < bound.lower
  · rcases hlower with hinfinite | ⟨lower, _, hlower⟩
    · rw [hinfinite] at hbelow
      cases hbelow
    · rw [hlower] at hbelow
      exact Or.inl ⟨lower, hlower, hbelow⟩
  by_cases habove : bound.upper < real value
  · rcases hupper with hinfinite | ⟨upper, _, hupper⟩
    · rw [hinfinite] at habove
      cases habove
    · rw [hupper] at habove
      exact Or.inr (Or.inl ⟨upper, hupper, habove⟩)
  -- Both ends are numbers, since something compares with them.
  obtain ⟨hle, hge⟩ := contains_iff.mp hinside
  have hlowerNumber := (LawfulComparison.numbers_of_le hle).1
  have hupperNumber := (LawfulComparison.numbers_of_le hge).2
  exact Or.inr (Or.inr (contains_iff.mpr
    ⟨ExtendedReal.le_of_not_lt hlowerNumber rfl hbelow,
      ExtendedReal.le_of_not_lt rfl hupperNumber habove⟩))

theorem penalty_real (hinside : bound.contains (real inside) = true) (value : ℝ) :
    bound.penalty (real value) = real (bound.height value) ∧
      bound.slope (real value) = real (bound.tilt value) := by
  unfold height tilt
  rcases below_or_above_or_contains hinside value with
    ⟨lower, hlower, h⟩ | ⟨upper, hupper, h⟩ | h
  · obtain ⟨hpenalty, hslope⟩ := penalty_of_below hlower h
    rw [hpenalty, hslope]
    exact ⟨rfl, rfl⟩
  · obtain ⟨hpenalty, hslope⟩ := penalty_of_above hinside hupper h
    rw [hpenalty, hslope]
    exact ⟨rfl, rfl⟩
  · obtain ⟨hpenalty, hslope⟩ := penalty_of_contains h
    rw [hpenalty, hslope]
    exact ⟨rfl, rfl⟩

theorem height_of_contains (h : bound.contains (real value) = true) : bound.height value = 0 := by
  rw [height, (penalty_of_contains h).1]

theorem height_of_below {lower : ℝ} (hlower : bound.lower = real lower) (h : value < lower) :
    bound.height value = lower - value := by
  rw [height, (penalty_of_below hlower h).1]

theorem height_of_above (hinside : bound.contains (real inside) = true) {upper : ℝ}
    (hupper : bound.upper = real upper) (h : upper < value) : bound.height value = value - upper := by
  rw [height, (penalty_of_above hinside hupper h).1]

theorem tilt_of_contains (h : bound.contains (real value) = true) : bound.tilt value = 0 := by
  rw [tilt, (penalty_of_contains h).2]

theorem tilt_of_below {lower : ℝ} (hlower : bound.lower = real lower) (h : value < lower) :
    bound.tilt value = -1 := by
  rw [tilt, (penalty_of_below hlower h).2]

theorem tilt_of_above (hinside : bound.contains (real inside) = true) {upper : ℝ}
    (hupper : bound.upper = real upper) (h : upper < value) : bound.tilt value = 1 := by
  rw [tilt, (penalty_of_above hinside hupper h).2]

-- Around zero the side on which a value is outside is that of its sign.
theorem tilt_of_not_contains (hzero : bound.contains (real 0) = true)
    (hout : ¬bound.contains (real value) = true) : bound.tilt value = if value < 0 then -1 else 1 := by
  rcases below_or_above_or_contains hzero value with ⟨lower, hlower, h⟩ | ⟨upper, hupper, h⟩ | h
  · rw [tilt_of_below hlower h, if_pos (h.trans_le (le_of_contains hlower hzero))]
  · rw [tilt_of_above hzero hupper h, if_neg ((ge_of_contains hupper hzero).trans_lt h).not_gt]
  · exact absurd h hout

-- The values of a bound that reaches equally far to both sides.
theorem contains_symmetric_iff (width : ExtendedReal) (value : ℝ) :
    (⟨-width, width⟩ : Bound ExtendedReal).contains (real value) = true ↔ real |value| ≤ width := by
  rw [contains_iff]
  cases width with
  | real a => simp only [ExtendedReal.neg_real, ExtendedReal.le_real, abs_le]
  | infinite negative =>
      change (!negative) = true ∧ negative = false ↔ negative = false
      cases negative <;> simp
  | nan => exact ⟨fun h => h.2, fun h => h.elim⟩

-- A finite end is a value of the bound.
theorem contains_ends (hinside : bound.contains (real inside) = true) :
    (∀ lower, bound.lower = real lower → bound.contains (real lower) = true) ∧
      ∀ upper, bound.upper = real upper → bound.contains (real upper) = true := by
  obtain ⟨hlower, hupper⟩ := contains_iff.mp hinside
  constructor
  · intro lower hends
    rw [contains_iff]
    rw [hends] at hlower ⊢
    exact ⟨(ExtendedReal.le_real lower lower).mpr le_rfl, LawfulComparison.trans hlower hupper⟩
  · intro upper hends
    rw [contains_iff]
    rw [hends] at hupper ⊢
    exact ⟨LawfulComparison.trans hlower hupper, (ExtendedReal.le_real upper upper).mpr le_rfl⟩

-- The penalty is the distance from the values that the bound contains.
theorem isLeast_height (hinside : bound.contains (real inside) = true) (value : ℝ) :
    IsLeast ((fun near => |value - near|) '' {near | bound.contains (real near) = true})
      (bound.height value) := by
  rcases below_or_above_or_contains hinside value with ⟨lower, hends, h⟩ | ⟨upper, hends, h⟩ | h
  · rw [height_of_below hends h, ← neg_sub, ← abs_of_neg (sub_neg.mpr h)]
    refine ⟨⟨lower, (contains_ends hinside).1 lower hends, rfl⟩, ?_⟩
    rintro _ ⟨near, hnear, rfl⟩
    have hle := le_of_contains hends hnear
    have hway := neg_le_abs (value - near)
    rw [abs_of_neg (sub_neg.mpr h)]
    linarith
  · rw [height_of_above hinside hends h, ← abs_of_pos (sub_pos.mpr h)]
    refine ⟨⟨upper, (contains_ends hinside).2 upper hends, rfl⟩, ?_⟩
    rintro _ ⟨near, hnear, rfl⟩
    have hle := ge_of_contains hends hnear
    have hway := le_abs_self (value - near)
    rw [abs_of_pos (sub_pos.mpr h)]
    linarith
  · rw [height_of_contains h, ← abs_zero, ← sub_self value]
    refine ⟨⟨value, h, rfl⟩, ?_⟩
    rintro _ ⟨near, _, rfl⟩
    rw [sub_self, abs_zero]
    exact abs_nonneg _

theorem height_nonneg (hinside : bound.contains (real inside) = true) (value : ℝ) :
    0 ≤ bound.height value := by
  obtain ⟨near, _, hnear⟩ := (isLeast_height hinside value).1
  rw [← hnear]
  exact abs_nonneg _

theorem height_eq_zero_iff (hinside : bound.contains (real inside) = true) (value : ℝ) :
    bound.height value = 0 ↔ bound.contains (real value) = true := by
  constructor
  · intro h
    obtain ⟨near, hnear, hway⟩ := (isLeast_height hinside value).1
    rw [h, abs_eq_zero, sub_eq_zero] at hway
    rw [hway]
    exact hnear
  · exact height_of_contains

theorem height_symmetric {width : ℝ} (hwidth : 0 ≤ width) (value : ℝ) :
    (⟨-real width, real width⟩ : Bound ExtendedReal).height value = max 0 (|value| - width) := by
  have hzero : (⟨-real width, real width⟩ : Bound ExtendedReal).contains (real 0) = true := by
    rwa [contains_symmetric_iff, abs_zero, ExtendedReal.le_real]
  by_cases hinside : |value| ≤ width
  · rw [height_of_contains ((contains_symmetric_iff _ _).mpr hinside),
      max_eq_left (sub_nonpos.mpr hinside)]
  · rw [not_le] at hinside
    rw [max_eq_right (sub_nonneg.mpr hinside.le)]
    rcases lt_abs.mp hinside with habove | hbelow
    · rw [height_of_above hzero rfl habove, abs_of_pos (hwidth.trans_lt habove)]
    · rw [height_of_below rfl (lt_neg.mp hbelow), abs_of_neg (by linarith)]
      ring

-- Between the ends there is room on both sides.
theorem eventually_contains (h : bound.contains (real value) = true)
    (hlower : bound.lower ≠ real value) (hupper : bound.upper ≠ real value) :
    ∀ᶠ near in nhds value, bound.contains (real near) = true := by
  obtain ⟨hle, hge⟩ := contains_iff.mp h
  simp only [contains_iff]
  refine Eventually.and ?_ ?_
  · cases hends : bound.lower with
    | real lower =>
        rw [hends] at hle hlower
        have hlt : lower < value := lt_of_le_of_ne hle fun heq => hlower (congrArg real heq)
        exact (eventually_gt_nhds hlt).mono fun near hnear => le_of_lt hnear
    | infinite negative =>
        rw [hends] at hle
        exact Eventually.of_forall fun _ => hle
    | nan =>
        rw [hends] at hle
        cases hle
  · cases hends : bound.upper with
    | real upper =>
        rw [hends] at hge hupper
        have hlt : value < upper := lt_of_le_of_ne hge fun heq => hupper (congrArg real heq.symm)
        exact (eventually_lt_nhds hlt).mono fun near hnear => le_of_lt hnear
    | infinite negative =>
        rw [hends] at hge
        exact Eventually.of_forall fun _ => hge
    | nan =>
        rw [hends] at hge
        cases hge

-- Away from the ends the penalty is linear, with the slope that is given for it.
theorem hasDerivAt_height (hinside : bound.contains (real inside) = true) (hlower : bound.lower ≠ real value)
    (hupper : bound.upper ≠ real value) : HasDerivAt bound.height (bound.tilt value) value := by
  rcases below_or_above_or_contains hinside value with
    ⟨lower, hends, h⟩ | ⟨upper, hends, h⟩ | h
  · have heq : bound.height =ᶠ[nhds value] fun near => lower - near := by
      filter_upwards [eventually_lt_nhds h] with near hnear
      exact height_of_below hends hnear
    rw [tilt_of_below hends h]
    exact ((hasDerivAt_id value).const_sub lower).congr_of_eventuallyEq heq
  · have heq : bound.height =ᶠ[nhds value] fun near => near - upper := by
      filter_upwards [eventually_gt_nhds h] with near hnear
      exact height_of_above hinside hends hnear
    rw [tilt_of_above hinside hends h]
    exact ((hasDerivAt_id value).sub_const upper).congr_of_eventuallyEq heq
  · have heq : bound.height =ᶠ[nhds value] fun _ => 0 := by
      filter_upwards [eventually_contains h hlower hupper] with near hnear
      exact height_of_contains hnear
    rw [tilt_of_contains h]
    exact (hasDerivAt_const value 0).congr_of_eventuallyEq heq

end Bound

end TaskSpace.Constraints
