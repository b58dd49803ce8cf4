import Mathlib
import TaskSpace.Proofs.Constraints.Acceptance

namespace TaskSpace.Constraints

open Rigid Kinematics
open ExtendedReal (real infinite)

namespace Bound

-- The penalty is the distance from what is inside, so that it changes no faster than the value does. Its
-- slope supports it from below, also at the ends, and a step by the penalty against the slope lands inside.
structure PenalizesDistance (bound : Bound ExtendedReal) : Prop where
  areNumbers (value : ℝ) : bound.penalty (real value) = real (bound.height value) ∧
    bound.slope (real value) = real (bound.tilt value)
  isDistance (value : ℝ) :
    IsLeast ((fun near => |value - near|) '' {near | bound.contains (real near) = true}) (bound.height value)
  eq_zero_iff (value : ℝ) : bound.height value = 0 ↔ bound.contains (real value) = true
  nonexpansive (value other : ℝ) : |bound.height value - bound.height other| ≤ |value - other|
  supports (value other : ℝ) : bound.height value + bound.tilt value * (other - value) ≤ bound.height other
  lands (value : ℝ) :
    bound.contains (real value - bound.penalty (real value) * bound.slope (real value)) = true

-- A bound that reaches equally far to both sides of zero.
def ReachesEvenly (bound : Bound ExtendedReal) (width : ExtendedReal) : Prop :=
  bound = ⟨-width, width⟩ ∧ bound.contains (real 0) = true

-- One that reaches as far as a width where a description gives one, and without end where it gives -1.
structure ReachesAsGiven (bound : Bound ExtendedReal) (given width : ExtendedReal) : Prop where
  free : given = real (-1) → bound.ReachesEvenly (infinite false)
  held : given ≠ real (-1) → bound.ReachesEvenly width

section Distance

variable {bound : Bound ExtendedReal} {inside : ℝ} (hinside : bound.contains (real inside) = true)

include hinside

theorem height_le (value other : ℝ) : bound.height value ≤ |value - other| + bound.height other := by
  obtain ⟨near, hnear, hway⟩ := (isLeast_height hinside other).1
  calc bound.height value ≤ |value - near| := (isLeast_height hinside value).2 ⟨near, hnear, rfl⟩
    _ ≤ |value - other| + |other - near| := abs_sub_le value other near
    _ = |value - other| + bound.height other := by rw [← hway]

theorem abs_height_sub_le (value other : ℝ) :
    |bound.height value - bound.height other| ≤ |value - other| := by
  have hforth := height_le hinside value other
  have hback := height_le hinside other value
  rw [abs_sub_comm other value] at hback
  exact abs_sub_le_iff.mpr ⟨by linarith, by linarith⟩

-- An end stays between an outer value and whatever is inside.
theorem sub_le_height (other : ℝ) :
    (∀ lower, bound.lower = real lower → lower - other ≤ bound.height other) ∧
      ∀ upper, bound.upper = real upper → other - upper ≤ bound.height other := by
  obtain ⟨near, hnear, hway⟩ := (isLeast_height hinside other).1
  rw [← hway]
  constructor
  · intro lower hends
    have hle := le_of_contains hends hnear
    have habs := neg_le_abs (other - near)
    linarith
  · intro upper hends
    have hle := ge_of_contains hends hnear
    have habs := le_abs_self (other - near)
    linarith

theorem height_add_tilt_mul_le (value other : ℝ) :
    bound.height value + bound.tilt value * (other - value) ≤ bound.height other := by
  rcases below_or_above_or_contains hinside value with ⟨lower, hends, h⟩ | ⟨upper, hends, h⟩ | h
  · rw [height_of_below hends h, tilt_of_below hends h]
    linarith [(sub_le_height hinside other).1 lower hends]
  · rw [height_of_above hinside hends h, tilt_of_above hinside hends h]
    linarith [(sub_le_height hinside other).2 upper hends]
  · rw [height_of_contains h, tilt_of_contains h, zero_mul, add_zero]
    exact height_nonneg hinside other

-- From outside the step ends on the nearer end, and from inside it goes nowhere.
theorem contains_step (value : ℝ) :
    bound.contains (real (value - bound.height value * bound.tilt value)) = true := by
  rcases below_or_above_or_contains hinside value with ⟨lower, hends, h⟩ | ⟨upper, hends, h⟩ | h
  · have hstep : value - bound.height value * bound.tilt value = lower := by
      rw [height_of_below hends h, tilt_of_below hends h]
      ring
    rw [hstep]
    exact (contains_ends hinside).1 lower hends
  · have hstep : value - bound.height value * bound.tilt value = upper := by
      rw [height_of_above hinside hends h, tilt_of_above hinside hends h]
      ring
    rw [hstep]
    exact (contains_ends hinside).2 upper hends
  · rw [height_of_contains h, zero_mul, sub_zero]
    exact h

theorem penalizesDistance : bound.PenalizesDistance where
  areNumbers := penalty_real hinside
  isDistance := isLeast_height hinside
  eq_zero_iff := height_eq_zero_iff hinside
  nonexpansive := abs_height_sub_le hinside
  supports := height_add_tilt_mul_le hinside
  lands value := by
    obtain ⟨hpenalty, hslope⟩ := penalty_real hinside value
    rw [hpenalty, hslope, ExtendedReal.mul_real, ExtendedReal.sub_real]
    exact contains_step hinside value

end Distance

variable {bound : Bound ExtendedReal} {lower upper width : ExtendedReal}

-- Two ends in their order leave room for a number unless both are the same infinity.
theorem exists_contains_iff (h : make lower upper = .ok bound) :
    (∃ inside : ℝ, bound.contains (real inside) = true) ↔ lower ≠ infinite false ∧ upper ≠ infinite true := by
  obtain ⟨rfl, hordered⟩ := make_eq_ok h
  simp only [contains_iff]
  constructor
  · rintro ⟨inside, hlower, hupper⟩
    constructor
    · rintro rfl
      cases hlower
    · rintro rfl
      cases hupper
  · rintro ⟨hlower, hupper⟩
    cases lower with
    | real a => exact ⟨a, (ExtendedReal.le_real a a).mpr le_rfl, hordered⟩
    | infinite negative =>
        cases negative with
        | false => exact absurd rfl hlower
        | true =>
            cases upper with
            | real b => exact ⟨b, rfl, (ExtendedReal.le_real b b).mpr le_rfl⟩
            | infinite other =>
                cases other with
                | true => exact absurd rfl hupper
                | false => exact ⟨0, rfl, rfl⟩
            | nan => exact hordered.elim
    | nan => cases upper <;> exact hordered.elim

theorem reachesEvenly_of_make (h : make (-width) width = .ok bound) : bound.ReachesEvenly width :=
  ⟨(make_eq_ok h).1, symmetric_contains_zero h⟩

theorem reachesEvenly_unbounded : (unbounded : Bound ExtendedReal).ReachesEvenly (infinite false) :=
  ⟨rfl, (contains_symmetric_iff (infinite false) 0).mpr rfl⟩

theorem symmetric_infinite : symmetric (infinite false) = .ok (unbounded : Bound ExtendedReal) := by
  rw [symmetric, make, if_neg (by simp)]
  rfl

theorem reachesAsGiven_of_extent {extent : ExtendedReal}
    (h : make (-orInfinite extent / 2.0) (orInfinite extent / 2.0) = .ok bound) :
    bound.ReachesAsGiven extent (extent / 2.0) := by
  rw [ExtendedReal.neg_half] at h
  have hreaches := reachesEvenly_of_make h
  constructor
  · rintro rfl
    rwa [orInfinite_free, ExtendedReal.half_infinite] at hreaches
  · intro hne
    rwa [orInfinite_of_ne hne] at hreaches

theorem reachesAsGiven_of_tolerance {tolerance : ExtendedReal}
    (h : symmetric (orInfinite tolerance) = .ok bound) : bound.ReachesAsGiven tolerance tolerance := by
  have hreaches := reachesEvenly_of_make h
  constructor
  · rintro rfl
    rwa [orInfinite_free] at hreaches
  · intro hne
    rwa [orInfinite_of_ne hne] at hreaches

-- A bound is the interval between its ends, and with a number inside it penalizes by the distance from that
-- interval, however it was made. Of those that can be made only the ones at an infinity have no number inside,
-- and what descriptions ask for lies around zero.
theorem penalty_laws :
    (∀ (bound : Bound ExtendedReal) (value : ExtendedReal),
      bound.contains value = true ↔ bound.lower ≤ value ∧ value ≤ bound.upper) ∧
    (∀ bound : Bound ExtendedReal, (∃ inside : ℝ, bound.contains (real inside) = true) →
      bound.PenalizesDistance) ∧
    (∀ (lower upper : ExtendedReal) (bound : Bound ExtendedReal), make lower upper = .ok bound →
      bound = ⟨lower, upper⟩ ∧
        ((∃ inside : ℝ, bound.contains (real inside) = true) ↔
          lower ≠ infinite false ∧ upper ≠ infinite true)) ∧
    (∀ (width : ExtendedReal) (bound : Bound ExtendedReal), symmetric width = .ok bound →
      bound.ReachesEvenly width) ∧
    (unbounded : Bound ExtendedReal).ReachesEvenly (infinite false) ∧
    (∀ (entry : PositionEntry ExtendedReal) (log : List (Event ExtendedReal))
        (bounds : Vec3 (Bound ExtendedReal)), Query.answer entry.bounds log = .ok bounds →
      ∃ extents, entry.HasExtents extents ∧
        ∀ axis, (bounds.get axis).ReachesAsGiven (extents.get axis) (extents.get axis / 2.0)) ∧
    ∀ (entry : OrientationEntry ExtendedReal) (bounds : Vec3 (Bound ExtendedReal)),
      entry.bounds = .ok bounds →
        ∀ axis, (bounds.get axis).ReachesAsGiven (entry.tolerances.get axis) (entry.tolerances.get axis) := by
  refine ⟨fun _ _ => contains_iff, ?distance, ?ends, fun _ _ => reachesEvenly_of_make,
    reachesEvenly_unbounded, ?position, ?orientation⟩
  case distance =>
    rintro bound ⟨inside, hinside⟩
    exact penalizesDistance hinside
  case ends =>
    intro lower upper bound h
    exact ⟨(make_eq_ok h).1, exists_contains_iff h⟩
  case position =>
    intro entry log bounds h
    obtain ⟨extents, hextents, hmake⟩ := PositionEntry.exists_of_bounds h
    exact ⟨extents, hextents, fun axis => reachesAsGiven_of_extent (hmake axis)⟩
  case orientation =>
    intro entry bounds h axis
    exact reachesAsGiven_of_tolerance (eq_of_ofAxesM h axis)

-- All from three on, and half of the sides of a plate that is free along one axis.
theorem penalty_laws_plate :
    let ray : Bound ExtendedReal := ⟨real 3, infinite false⟩
    let plate : PositionEntry ExtendedReal := .box "tool" ⟨real (-1), real 2, real 2⟩ ⟨.zero, .identity⟩
    let turn : OrientationEntry ExtendedReal := ⟨"tool", .identity, ⟨real (-1), real 2, real 2⟩⟩
    let bounds : Vec3 (Bound ExtendedReal) := ⟨unbounded, ⟨real (-1), real 1⟩, ⟨real (-1), real 1⟩⟩
    let turnBounds : Vec3 (Bound ExtendedReal) := ⟨unbounded, ⟨real (-2), real 2⟩, ⟨real (-2), real 2⟩⟩
    (make (real 3) (infinite false) = .ok ray ∧ symmetric (real 2) = .ok turnBounds.y ∧
        Query.answer plate.bounds [] = .ok bounds ∧ turn.bounds = .ok turnBounds) ∧
      (∀ value : ℝ, ray.contains (real value) = true ↔ 3 ≤ value) ∧
      (∃ inside : ℝ, ray.contains (real inside) = true) ∧ ray.PenalizesDistance ∧
      turnBounds.y.ReachesEvenly (real 2) ∧
      (∃ extents, plate.HasExtents extents ∧
        ∀ axis, (bounds.get axis).ReachesAsGiven (extents.get axis) (extents.get axis / 2.0)) ∧
      ∀ axis, (turnBounds.get axis).ReachesAsGiven (turn.tolerances.get axis) (turn.tolerances.get axis) := by
  intro ray plate turn bounds turnBounds
  have hray : make (real 3) (infinite false) = .ok ray := by
    simp [make, ray]
  have hsymmetric : symmetric (real 2) = .ok turnBounds.y := make_real (by norm_num)
  have hplate : Query.answer plate.bounds [] = .ok bounds := by
    refine PositionEntry.HasExtents.answer_bounds ⟨[], rfl⟩ ?_ []
    have hheld : make (-orInfinite (real 2) / 2.0) (orInfinite (real 2) / 2.0) =
        .ok (⟨real (-1), real 1⟩ : Bound ExtendedReal) := by
      rw [make_halves zero_le_two]
      norm_num
    rintro (_ | _ | _)
    · rw [Vec3.get_x, orInfinite_free, ExtendedReal.neg_half, ExtendedReal.half_infinite]
      exact symmetric_infinite
    · exact hheld
    · exact hheld
  have hturn : turn.bounds = .ok turnBounds := by
    have hheld : symmetric (orInfinite (real 2)) = .ok (⟨real (-2), real 2⟩ : Bound ExtendedReal) := by
      rw [orInfinite_real zero_le_two]
      exact hsymmetric
    refine ofAxesM_eq_ok ?_
    rintro (_ | _ | _)
    · rw [Vec3.get_x, orInfinite_free]
      exact symmetric_infinite
    · exact hheld
    · exact hheld
  obtain ⟨hcontains, hdistance, hends, heven, _, hposition, horientation⟩ := penalty_laws
  have hfrom : ∀ value : ℝ, ray.contains (real value) = true ↔ 3 ≤ value := fun value => by
    rw [hcontains]
    exact and_iff_left rfl
  have hinside := (hends _ _ ray hray).2.mpr ⟨by simp, by simp⟩
  exact ⟨⟨hray, hsymmetric, hplate, hturn⟩, hfrom, hinside, hdistance ray hinside, heven _ _ hsymmetric,
    hposition plate [] bounds hplate, horientation turn turnBounds hturn⟩

end Bound

end TaskSpace.Constraints
