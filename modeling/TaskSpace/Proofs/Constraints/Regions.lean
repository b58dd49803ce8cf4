import Mathlib
import TaskSpace.Proofs.Constraints.Values
import TaskSpace.Proofs.Rigid.Distance

namespace TaskSpace.Constraints

open Rigid Kinematics
open ExtendedReal (real infinite)

-- The coordinates that a full extent allows. An extent of -1 leaves its axis free.
def insideExtent (extent : ExtendedReal) : Set ℝ :=
  {y | extent ≠ real (-1) → real |y| ≤ extent / 2.0}

-- An oriented box with its center at a position.
def orientedBox (extents : Vec3 ExtendedReal) (position : Vec3 ℝ) (orientation : Quat ℝ) : Set (Vec3 ℝ) :=
  pointsInFrame position orientation.normalize fun axis => insideExtent (extents.get axis)

-- The coordinates of a flat: an extent between the tolerance and the equality threshold holds its axis.
def flatAcross (settings : Settings ExtendedReal) (extent : ExtendedReal) : Set ℝ :=
  {y | settings.tolerance ≤ extent ∧ extent < settings.equalityThreshold → y = 0}

-- The flat through a position across the thin axes of a box.
def orientedFlat (settings : Settings ExtendedReal) (extents : Vec3 ExtendedReal) (position : Vec3 ℝ)
    (orientation : Quat ℝ) : Set (Vec3 ℝ) :=
  pointsInFrame position orientation.normalize fun axis => flatAcross settings (extents.get axis)

section Axes

variable {extent : ExtendedReal} {bound : Bound ExtendedReal} {settings : Settings ExtendedReal}

theorem isLeast_insideExtent
    (hbound : Bound.make (-orInfinite extent / 2.0) (orInfinite extent / 2.0) = .ok bound) (value : ℝ) :
    IsLeast ((fun y => |value - y|) '' insideExtent extent) |bound.height value| := by
  have hzero := Bound.halves_contain_zero hbound
  have hset : insideExtent extent = {near | bound.contains (real near) = true} :=
    Set.ext fun y => (Bound.contains_halves_iff hbound y).symm
  rw [hset, abs_of_nonneg (Bound.height_nonneg hzero value)]
  exact Bound.isLeast_height hzero value

theorem isLeast_flatAcross {held : Bool} (hheld : held = true ↔ settings.Constrains extent) (value : ℝ) :
    IsLeast ((fun y => |value - y|) '' flatAcross settings extent) |if held then value else 0| := by
  by_cases hextent : held = true
  · rw [if_pos hextent]
    refine ⟨⟨0, fun _ => rfl, by simp only [sub_zero]⟩, ?_⟩
    rintro _ ⟨y, hy, rfl⟩
    rw [hy (hheld.mp hextent)]
    exact (congrArg abs (sub_zero value)).ge
  · rw [if_neg hextent, abs_zero]
    refine ⟨⟨value, fun hthin => absurd (hheld.mpr hthin) hextent, by simp only [sub_self, abs_zero]⟩, ?_⟩
    rintro _ ⟨y, _, rfl⟩
    exact abs_nonneg _

end Axes

-- The residual is as long as the way from the origin of the link to a region, so that it vanishes in the
-- region and nowhere else.
structure MeasuresWayTo (region : Set (Vec3 ℝ)) (pose : Pose ℝ) (residual : Vec3 ℝ) : Prop where
  isDistance : pose.translation.IsDistance region residual.norm
  eq_zero_iff : residual = .zero ↔ pose.translation ∈ region

theorem MeasuresWayTo.of_isDistance {region : Set (Vec3 ℝ)} {pose : Pose ℝ} {residual : Vec3 ℝ}
    (h : pose.translation.IsDistance region residual.norm) : MeasuresWayTo region pose residual :=
  ⟨h, by rw [← Vec3.norm_eq_zero_iff, h.eq_zero_iff]⟩

namespace Constraint

variable {σ : Type} {constraint : Constraint ExtendedReal σ}

-- A constraint whose rows measure how far the coordinates are from the allowed ones.
theorem exists_measuresWayTo {finite : ResidualModel ℝ} {bounds : Vec3 (Bound ExtendedReal)}
    {position : Vec3 ℝ} {rotation : Quat ℝ} {allowed : Axis → Set ℝ}
    (hgeometry : constraint.model.HasGeometry finite bounds) (hrotation : rotation.IsUnit)
    (herror : ∀ pose, finite.error pose = rotation.conjugate.rotate (pose.translation - position))
    (hrows : ∀ axis value,
      IsLeast ((fun y => |value - y|) '' allowed axis) |constraint.model.rowHeight axis value|)
    (hzero : ∀ axis, 0 ∈ allowed axis) (pose : Pose ℝ) :
    ∃ error residual, constraint.HasValuesAt pose error residual ∧
      MeasuresWayTo (pointsInFrame position rotation allowed) pose residual ∧
      (pose.translation = position → residual = .zero) := by
  have hmeasures : MeasuresWayTo (pointsInFrame position rotation allowed) pose
      (.ofAxes fun row => constraint.model.rowHeight row ((finite.error pose).get row)) := by
    refine .of_isDistance (isDistance_pointsInFrame hrotation _ fun axis => ?_)
    rw [← herror, Vec3.get_ofAxes]
    exact hrows axis _
  refine ⟨_, _, hasValuesAt_of_hasGeometry hgeometry pose, hmeasures, fun hposition => ?_⟩
  rw [hmeasures.eq_zero_iff, hposition]
  exact position_mem_pointsInFrame hzero

theorem measuresWayTo_box {extents : Vec3 ExtendedReal} {bounds : Vec3 (Bound ExtendedReal)}
    {position : Vec3 ℝ} {orientation : Quat ℝ} (horientation : orientation.norm ≠ 0)
    (hbounds : ∀ axis, Bound.make (-orInfinite (extents.get axis) / 2.0)
      (orInfinite (extents.get axis) / 2.0) = .ok (bounds.get axis))
    (hgeometry : constraint.model.HasGeometry
      (.boundedPosition (.ofAxes fun _ => ⟨0, 0⟩) position orientation.normalize) bounds)
    (pose : Pose ℝ) :
    ∃ error residual, constraint.HasValuesAt pose error residual ∧
      MeasuresWayTo (orientedBox extents position orientation) pose residual ∧
      (pose.translation = position → residual = .zero) := by
  refine exists_measuresWayTo hgeometry (Quat.normalize_isUnit horientation) (fun _ => rfl)
    (fun axis value => ?_) (fun axis => ?_) pose
  · rw [hgeometry.eq]
    exact isLeast_insideExtent (hbounds axis) value
  · exact (Bound.contains_halves_iff (hbounds axis) 0).mp (hgeometry.allowZero axis)

theorem measuresWayTo_flat {settings : Settings ExtendedReal} (hvalid : settings.validate = .ok ())
    {extents : Vec3 ExtendedReal} {mask : Vec3 Bool} {position : Vec3 ℝ} {orientation : Quat ℝ}
    (horientation : orientation.norm ≠ 0) (hmask : settings.equalityMask extents = .ok mask)
    (hgeometry : constraint.model.HasGeometry
      (.equalityPosition mask position orientation.normalize) AllowZero.point)
    (pose : Pose ℝ) :
    ∃ error residual, constraint.HasValuesAt pose error residual ∧
      MeasuresWayTo (orientedFlat settings extents position orientation) pose residual ∧
      (pose.translation = position → residual = .zero) := by
  refine exists_measuresWayTo hgeometry (Quat.normalize_isUnit horientation) (fun _ => rfl)
    (fun axis value => ?_) (fun axis => ?_) pose
  · rw [hgeometry.eq]
    exact isLeast_flatAcross (settings.equalityMask_iff hvalid hmask axis) value
  · exact fun _ => rfl

-- The way to the region that a description gives, from every pose of the link.
theorem residual_measuresWayTo {kind : Kind} (hkind : kind = .boundedPosition ∨ kind = .equalityPosition)
    {group : JointGroup ExtendedReal σ} {settings : Settings ExtendedReal}
    {description : Description ExtendedReal} (hfinite : description.HasFinitePositions)
    (hmade : (ofKind kind group settings description).outcome.1 = .ok constraint) :
    ∃ entry extents position orientation, description.positions.head? = some entry ∧
      constraint.link = entry.link ∧ entry.Describes extents position orientation ∧
      ∀ pose : Pose ℝ, ∃ error residual, constraint.HasValuesAt pose error residual ∧
        (kind = .boundedPosition →
          MeasuresWayTo (orientedBox extents position orientation) pose residual) ∧
        (kind = .equalityPosition →
          MeasuresWayTo (orientedFlat settings extents position orientation) pose residual) ∧
        (pose.translation = position → residual = .zero) := by
  obtain ⟨hvalid, hread⟩ := readFrom_of_ofKind hmade
  rcases hkind with rfl | rfl
  · obtain ⟨entry, extents, position, orientation, bounds, hentry, hlink, hdescribes, hbounds,
      hgeometry⟩ := hread.exists_box hfinite
    refine ⟨entry, extents, position, orientation, hentry, hlink.symm, hdescribes, fun pose => ?_⟩
    obtain ⟨error, residual, hvalues, hmeasures, hposition⟩ :=
      measuresWayTo_box hdescribes.direction hbounds hgeometry pose
    exact ⟨error, residual, hvalues, fun _ => hmeasures, nofun, hposition⟩
  · obtain ⟨entry, extents, position, orientation, mask, hentry, hlink, hdescribes, hmask,
      hgeometry⟩ := hread.exists_thinBox hfinite
    refine ⟨entry, extents, position, orientation, hentry, hlink.symm, hdescribes, fun pose => ?_⟩
    obtain ⟨error, residual, hvalues, hmeasures, hposition⟩ :=
      measuresWayTo_flat hvalid hdescribes.direction hmask hgeometry pose
    exact ⟨error, residual, hvalues, nofun, fun _ => hmeasures, hposition⟩

-- A quarter turn about the third axis, not of length one.
noncomputable def sampleTurn : Quat ℝ := ⟨0, 0, 1, 1⟩

theorem sampleTurn_norm : 1e-12 ≤ sampleTurn.norm ∧ sampleTurn.norm ≠ 0 := by
  have hnorm : (1 : ℝ) ≤ sampleTurn.norm := by
    refine (Real.le_sqrt' one_pos).mpr ?_
    norm_num [sampleTurn]
  constructor
  · exact le_trans (by norm_num) hnorm
  · exact (one_pos.trans_le hnorm).ne'

theorem sampleTurn_toMatrix : sampleTurn.normalize.toMatrix = ⟨⟨⟨0, -1, 0⟩, ⟨1, 0, 0⟩, ⟨0, 0, 1⟩⟩⟩ := by
  rw [Quat.toMatrix_normalize sampleTurn_norm.2]
  ext <;> norm_num [sampleTurn, Quat.toMatrix, Mat3.scale]

-- One extent is thick, one thin, and one leaves its axis free.
theorem equalityMask_sample : (Settings.standard : Settings ExtendedReal).equalityMask
    (⟨1, 5e-4, -1⟩ : Vec3 ℝ).extend = .ok ⟨false, true, false⟩ := by
  refine ofAxesM_eq_ok fun axis => ?_
  rw [Vec3.extend_get]
  cases axis
  · exact Settings.asksEquality_standard _ (Or.inl ⟨rfl, Or.inr (by norm_num)⟩)
  · exact Settings.asksEquality_standard _ (Or.inr ⟨rfl, by norm_num, by norm_num⟩)
  · exact Settings.asksEquality_standard _ (Or.inl ⟨rfl, Or.inl rfl⟩)

-- A turned plate: thin along its second axis and free along its third one.
noncomputable def turnedPlate : Description ExtendedReal :=
  .equalityBox Robots.toolLink (⟨1, 5e-4, -1⟩ : Vec3 ℝ).extend
    ⟨(⟨0, 1, 0⟩ : Vec3 ℝ).extend, sampleTurn.extend⟩

-- The tool of a resting robot lies in the plane of the plate, outside of the plate itself.
theorem cartesianWrist_plate_residual :
    ∃ constraint, (ofKind .equalityPosition (Robots.cartesianWrist : Chain ℝ).extend.jointGroup .standard
        turnedPlate).outcome.1 = .ok constraint ∧
      (constraint.residual (positionsOf fun _ : Fin 6 => 0)).answer constraint.group.newScratchpad =
        .ok (.zero : Vec3 ℝ).extend := by
  have hmade := ofKind_equalityPosition Settings.validate_standard
    (rfl : (Robots.cartesianWrist : Chain ℝ).extend.jointGroup.hasLink Robots.toolLink = true)
    equalityMask_sample sampleTurn_norm.1 (rfl : turnedPlate.positions = _)
  refine ⟨_, hmade, ?_⟩
  obtain ⟨entry, extents, position, orientation, hentry, _, hdescribes, hway⟩ :=
    residual_measuresWayTo (Or.inr rfl) (Description.hasFinitePositions_equalityBox _ _ _ _) hmade
  obtain ⟨error, residual, hvalues, _, hflat, _⟩ := hway .identity
  cases hentry
  obtain ⟨rfl, rfl, rfl⟩ := hdescribes.unique (PositionEntry.describes_box _ _ _ sampleTurn_norm.2)
  have hmem : (Pose.identity : Pose ℝ).translation ∈ orientedFlat .standard
      (⟨1, 5e-4, -1⟩ : Vec3 ℝ).extend ⟨0, 1, 0⟩ sampleTurn := by
    refine ⟨⟨-1, 0, 0⟩, fun axis => ?_, ?_⟩
    · rintro ⟨hreaches, hthin⟩
      cases axis
      · norm_num [Settings.standard, Vec3.extend] at hthin
      · rfl
      · rfl
    · rw [sampleTurn_toMatrix]
      ext <;> simp [Pose.identity, Mat3.apply, Vec3.dot_eq]
  rw [← (hflat rfl).eq_zero_iff.mpr hmem]
  exact hvalues.answer_residual_rest rfl rfl

end Constraint

end TaskSpace.Constraints
