import Mathlib
import TaskSpace.Proofs.Constraints.Finite

namespace TaskSpace.Constraints

open Rigid Kinematics
open ExtendedReal (real infinite)

theorem Settings.validate_standard : (standard : Settings ExtendedReal).validate = .ok () := by
  have htolerance : isPositive (standard : Settings ExtendedReal).tolerance = true := by
    simp [standard, isPositive]
    norm_num
  have hthreshold : isPositive (standard : Settings ExtendedReal).equalityThreshold = true := by
    simp [standard, isPositive]
    norm_num
  have hordered : ¬(standard : Settings ExtendedReal).equalityThreshold ≤ standard.tolerance := by
    simp [standard]
    norm_num
  unfold validate
  simp only [htolerance, hthreshold, if_neg hordered]
  rfl

-- The extents that the standard settings accept, free, thick or thin.
theorem Settings.asksEquality_standard (axis : Axis) {extent : ℝ} {asked : Bool}
    (h : asked = false ∧ (extent = -1 ∨ 1 / 1000 ≤ extent) ∨
      asked = true ∧ 1 / 10000 ≤ extent ∧ extent < 1 / 1000) :
    (standard : Settings ExtendedReal).asksEquality axis (real extent) = .ok asked := by
  have htolerance : (1e-4 : ℝ) = 1 / 10000 := by norm_num
  have hthreshold : (0.001 : ℝ) = 1 / 1000 := by norm_num
  simp only [asksEquality, isFree_iff, standard, ExtendedReal.real.injEq, ExtendedReal.isNaN_real,
    ExtendedReal.zero_eq, ExtendedReal.ofScientific_eq, ExtendedReal.lt_real, htolerance, hthreshold,
    Bool.false_or, decide_eq_true_eq]
  rcases h with ⟨rfl, rfl | hthick⟩ | ⟨rfl, hreaches, hthin⟩
  · rw [if_pos rfl]
  · rw [if_neg (by linarith), if_neg (by linarith), if_neg (by linarith)]
  · rw [if_neg (by linarith), if_neg (by linarith), if_pos hthin, if_neg (by linarith)]

-- Points at a distance of one or more are far enough apart for a line.
theorem Settings.far_standard {start finish : Vec3 ℝ} (h : 1 ≤ (finish - start).dot (finish - start)) :
    ¬(finish.extend - start.extend).norm < (standard : Settings ExtendedReal).tolerance := by
  have hlong : 1 ≤ (finish - start).norm := (Real.le_sqrt' one_pos).mpr (by rwa [one_pow])
  rw [← Vec3.extend_sub, Vec3.extend_norm, standard, ExtendedReal.ofScientific_eq, ExtendedReal.lt_real,
    not_lt]
  exact le_trans (by norm_num) hlong

theorem Bound.make_real {lower upper : ℝ} (h : lower ≤ upper) :
    make (real lower) (real upper) = .ok ⟨real lower, real upper⟩ := by
  have hordered : ¬real upper < real lower := not_lt.mpr h
  simp [make, not_lt.mpr h]

theorem orInfinite_real {value : ℝ} (h : 0 ≤ value) : orInfinite (real value) = real value := by
  have hfree : ¬value = -1 := by linarith
  simp [orInfinite, isFree, hfree]

theorem unitRotation_extend {q : Quat ℝ} (hq : 1e-12 ≤ q.norm) :
    unitRotation q.extend = .ok q.normalize.extend := by
  have hne : q.norm ≠ 0 := by
    intro hzero
    rw [hzero] at hq
    norm_num at hq
  unfold unitRotation
  rw [Quat.extend_norm, q.extend_normalize hne]
  simp [hq]

variable {σ : Type} {group : JointGroup ExtendedReal σ} {settings : Settings ExtendedReal} {link : String}

-- The bounds of a box lie half an extent around the target.
theorem Bound.make_halves {extent : ℝ} (hextent : 0 ≤ extent) :
    make (-orInfinite (real extent) / 2.0) (orInfinite (real extent) / 2.0) =
      .ok ⟨real (-extent / 2.0), real (extent / 2.0)⟩ := by
  have htwo : (2.0 : ℝ) ≠ 0 := by norm_num
  have hle : -extent / 2.0 ≤ extent / 2.0 := by
    rw [Scalar.real_two]
    linarith
  rw [orInfinite_real hextent, ExtendedReal.ofScientific_eq, ExtendedReal.neg_real,
    ExtendedReal.div_real htwo, ExtendedReal.div_real htwo, make_real hle]

theorem OrientationEntry.bounds_extend {tolerances : Vec3 ℝ}
    (htolerances : ∀ axis, 0 ≤ tolerances.get axis) (target : Quat ExtendedReal) :
    (OrientationEntry.mk link target tolerances.extend).bounds =
      .ok (tolerances.map fun tolerance => ⟨real (-tolerance), real tolerance⟩) := by
  refine ofAxesM_eq_ok fun axis => ?_
  have hle : -tolerances.get axis ≤ tolerances.get axis := by
    have hnonneg := htolerances axis
    linarith
  rw [Vec3.get_map, Vec3.extend_get, orInfinite_real (htolerances axis)]
  exact Bound.make_real hle

namespace ResidualModel

theorem firstPlacement_extend {entry : PositionEntry ExtendedReal} {position : Vec3 ExtendedReal}
    {q : Quat ℝ} {others : List (Placement ExtendedReal)} (hq : 1e-12 ≤ q.norm)
    (hfirst : entry.region.placements = ⟨position, q.extend⟩ :: others) :
    firstPlacement entry = .ok (position, q.normalize.extend) := by
  simp only [firstPlacement, hfirst, Placement.rotation, unitRotation_extend hq]
  rfl

theorem readFrom_line {description : Description ExtendedReal} {extents : Vec3 ExtendedReal} {mask : Vec3 Bool}
    {q : Quat ℝ} {others : List (PositionEntry ExtendedReal)}
    (hmask : settings.equalityMask extents = .ok mask) (hq : 1e-12 ≤ q.norm)
    {start finish : Vec3 ExtendedReal} (hfar : ¬(finish - start).norm < settings.tolerance)
    (hfirst : description.positions = .line link extents start finish q.extend :: others) :
    ReadFrom settings description .linearSystemPosition link
      (.linearSystemPosition mask start finish q.normalize.extend) := by
  let entry := PositionEntry.line link extents start finish q.extend
  have hplacement : firstPlacement entry = .ok (start, q.normalize.extend) := firstPlacement_extend hq rfl
  have hsecond : entry.region.placements[1]? = some ⟨finish, q.extend⟩ := rfl
  exact .line (by rw [hfirst]; rfl) ⟨[], rfl⟩ hmask hplacement hsecond hfar

theorem hasGeometry_box {extents : Vec3 ℝ} (hextents : ∀ axis, 0 ≤ extents.get axis)
    (position : Vec3 ℝ) {rotation : Quat ℝ} (hrotation : rotation.IsUnit) :
    (boundedPosition (extents.map fun extent => ⟨real (-extent / 2.0), real (extent / 2.0)⟩)
      position.extend rotation.extend).HasGeometry
        (.boundedPosition (.ofAxes fun _ => ⟨0, 0⟩) position rotation)
        (extents.map fun extent => ⟨real (-extent / 2.0), real (extent / 2.0)⟩) where
  eq := rfl
  regular := hrotation
  allowZero axis := by
    rw [Vec3.get_map]
    exact Bound.halves_contain_zero (Bound.make_halves (hextents axis))

theorem hasGeometry_orientation {tolerances : Vec3 ℝ} (htolerances : ∀ axis, 0 ≤ tolerances.get axis)
    {rotation : Quat ℝ} (hrotation : rotation.IsUnit) :
    (orientation (tolerances.map fun tolerance => ⟨real (-tolerance), real tolerance⟩)
      rotation.extend).HasGeometry (.orientation (.ofAxes fun _ => ⟨0, 0⟩) rotation)
        (tolerances.map fun tolerance => ⟨real (-tolerance), real tolerance⟩) where
  eq := rfl
  regular := hrotation
  allowZero := by
    have hbounds : (OrientationEntry.mk "" .identity tolerances.extend).bounds = _ :=
      OrientationEntry.bounds_extend htolerances _
    exact OrientationEntry.bounds_allowZero hbounds

end ResidualModel

namespace Constraint

variable {description : Description ExtendedReal}

-- Every box of numbers is accepted.
theorem ofKind_boundedPosition (hvalid : settings.validate = .ok ()) (hlink : group.hasLink link = true)
    {extents : Vec3 ℝ} (hextents : ∀ axis, 0 ≤ extents.get axis) {q : Quat ℝ} (hq : 1e-12 ≤ q.norm)
    {position : Vec3 ExtendedReal} {others : List (PositionEntry ExtendedReal)}
    (hfirst : description.positions = .box link extents.extend ⟨position, q.extend⟩ :: others) :
    (ofKind .boundedPosition group settings description).outcome.1 =
      .ok ⟨group, settings, link, .boundedPosition
        (extents.map fun extent => ⟨real (-extent / 2.0), real (extent / 2.0)⟩)
        position q.normalize.extend⟩ := by
  refine ofKind_of_readFrom hvalid hlink (.box (by rw [hfirst]; rfl) ⟨[], rfl⟩ (fun axis => ?_)
    (ResidualModel.firstPlacement_extend hq rfl))
  rw [Vec3.extend_get, Vec3.get_map]
  exact Bound.make_halves (hextents axis)

section Masks

variable {extents : Vec3 ExtendedReal} {mask : Vec3 Bool} {q : Quat ℝ}
  {others : List (PositionEntry ExtendedReal)}

-- Thin boxes and lines are accepted if their extents are.
theorem ofKind_equalityPosition (hvalid : settings.validate = .ok ()) (hlink : group.hasLink link = true)
    (hmask : settings.equalityMask extents = .ok mask) (hq : 1e-12 ≤ q.norm)
    {position : Vec3 ExtendedReal}
    (hfirst : description.positions = .box link extents ⟨position, q.extend⟩ :: others) :
    (ofKind .equalityPosition group settings description).outcome.1 =
      .ok ⟨group, settings, link, .equalityPosition mask position q.normalize.extend⟩ :=
  ofKind_of_readFrom hvalid hlink (.thinBox (by rw [hfirst]; rfl) ⟨[], rfl⟩ hmask
    (ResidualModel.firstPlacement_extend hq rfl))

theorem ofKind_linearSystemPosition (hvalid : settings.validate = .ok ())
    (hlink : group.hasLink link = true) (hmask : settings.equalityMask extents = .ok mask)
    (hq : 1e-12 ≤ q.norm) {start finish : Vec3 ExtendedReal}
    (hfar : ¬(finish - start).norm < settings.tolerance)
    (hfirst : description.positions = .line link extents start finish q.extend :: others) :
    (ofKind .linearSystemPosition group settings description).outcome.1 =
      .ok ⟨group, settings, link, .linearSystemPosition mask start finish q.normalize.extend⟩ :=
  ofKind_of_readFrom hvalid hlink (ResidualModel.readFrom_line hmask hq hfar hfirst)

end Masks

-- Tolerances around every orientation with a direction are accepted.
theorem ofKind_orientation (hvalid : settings.validate = .ok ()) (hlink : group.hasLink link = true)
    {tolerances : Vec3 ℝ} (htolerances : ∀ axis, 0 ≤ tolerances.get axis) {q : Quat ℝ}
    (hq : 1e-12 ≤ q.norm) {others : List (OrientationEntry ExtendedReal)}
    (hfirst : description.orientations = ⟨link, q.extend, tolerances.extend⟩ :: others) :
    (ofKind .orientation group settings description).outcome.1 =
      .ok ⟨group, settings, link, .orientation
        (tolerances.map fun tolerance => ⟨real (-tolerance), real tolerance⟩) q.normalize.extend⟩ :=
  ofKind_of_readFrom hvalid hlink (.orientation (by rw [hfirst]; rfl)
    (OrientationEntry.bounds_extend htolerances _) (unitRotation_extend hq))

-- A box of extent one around the origin, and the orientation of the base without any tolerance.
theorem exists_unitBox (hlink : group.hasLink link = true) :
    ∃ constraint, (ofKind .boundedPosition group .standard
        (.boundedBox link (⟨1, 1, 1⟩ : Vec3 ℝ).extend (.zero : Vec3 ℝ).extend)).outcome.1 = .ok constraint ∧
      constraint.link = link := by
  have hunit := Quat.isUnit_identity
  have hextents : ∀ axis, 0 ≤ (⟨1, 1, 1⟩ : Vec3 ℝ).get axis := by
    rintro (_ | _ | _) <;> exact zero_le_one
  exact ⟨_, ofKind_boundedPosition Settings.validate_standard hlink hextents (by rw [hunit]; norm_num) rfl,
    rfl⟩

theorem exists_baseOrientation (hlink : group.hasLink link = true) :
    ∃ constraint, (ofKind .orientation group .standard
        (.orientation link (.identity : Quat ℝ).extend (.zero : Vec3 ℝ).extend)).outcome.1 = .ok constraint ∧
      constraint.link = link ∧ constraint.model.targetOrientation = (.identity : Quat ℝ).extend := by
  have hunit := Quat.isUnit_identity
  have htolerances : ∀ axis, 0 ≤ (.zero : Vec3 ℝ).get axis := by
    rintro (_ | _ | _) <;> exact le_rfl
  refine ⟨_, ofKind_orientation Settings.validate_standard hlink htolerances
    (by rw [hunit]; norm_num) rfl, rfl, ?_⟩
  exact congrArg Quat.extend hunit.normalize_eq

end Constraint

end TaskSpace.Constraints
