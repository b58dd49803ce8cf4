import Mathlib
import TaskSpace.Proofs.Constraints.Jacobians
import TaskSpace.Proofs.Constraints.Targets
import TaskSpace.Proofs.Kinematics.Wrist

namespace TaskSpace.Constraints

open Rigid Kinematics Requirement
open ExtendedReal (real infinite)

-- How far a coordinate lies past the nearer of two faces around zero. An extent of -1 leaves the axis free,
-- and the faces of an extent without end are never reached.
noncomputable def pastFace (extent : ExtendedReal) (value : ℝ) : ℝ :=
  match extent with
  | real width => if width = -1 then 0 else max 0 (|value| - width / 2.0)
  | _ => 0

namespace Bound

variable {extent : ExtendedReal} {bound : Bound ExtendedReal}
  (h : make (-orInfinite extent / 2.0) (orInfinite extent / 2.0) = .ok bound) (value : ℝ)

include h

theorem height_pastFace : bound.height value = pastFace extent value := by
  rw [ExtendedReal.neg_half] at h
  rw [height_of_make h]
  by_cases hfree : extent = real (-1)
  · rw [hfree, orInfinite_free, ExtendedReal.half_infinite, pastFace, if_pos rfl]
    rfl
  · rw [orInfinite_of_ne hfree]
    cases extent with
    | real width =>
        rw [pastFace, if_neg fun h => hfree (congrArg real h), ExtendedReal.half_real, overshoot]
    | infinite negative => rw [ExtendedReal.half_infinite]; rfl
    | nan => rfl

-- Past a face the slope is the sign of the coordinate.
theorem tilt_pastFace : bound.tilt value = if 0 < pastFace extent value then Real.sign value else 0 := by
  have hzero := halves_contain_zero h
  have hnonneg := height_nonneg hzero value
  rw [← height_pastFace h]
  by_cases hinside : bound.contains (real value) = true
  · rw [tilt_of_contains hinside, height_of_contains hinside, if_neg (lt_irrefl 0)]
  · have hpast : 0 < bound.height value :=
      lt_of_le_of_ne hnonneg fun h => hinside ((height_eq_zero_iff hzero value).mp h.symm)
    have hne : value ≠ 0 := by
      rintro rfl
      exact hinside hzero
    rw [tilt_of_not_contains hzero hinside, if_pos hpast]
    rcases lt_or_gt_of_ne hne with hneg | hpos
    · rw [if_pos hneg, Real.sign_of_neg hneg]
    · rw [if_neg hpos.not_gt, Real.sign_of_pos hpos]

end Bound

namespace Constraint

section Boxes

variable {σ : Type} {group : JointGroup ExtendedReal σ} {settings : Settings ExtendedReal} {link : String}
  {extents : Vec3 ExtendedReal} {position : Vec3 ℝ}

-- What is made for a box.
theorem exists_of_create_boundedBox {constraint : Constraint ExtendedReal σ}
    (hmade : (create group (.boundedBox link extents position.extend) settings).outcome.1 =
      .ok constraint) :
    ∃ bounds, constraint.group = group ∧ constraint.link = link ∧
      (∀ axis, Bound.make (-orInfinite (extents.get axis) / 2.0) (orInfinite (extents.get axis) / 2.0) =
        .ok (bounds.get axis)) ∧
      constraint.model.HasGeometry (.boundedPosition (.ofAxes fun _ => ⟨0, 0⟩) position .identity) bounds := by
  have hunit := Quat.isUnit_identity
  have htag : Kind.ofPositionTag "" = .boundedPosition := Kind.ofPositionTag_of_ne (by decide) (by decide)
  have hkind : ∀ log, Query.answer (Description.boundedBox link extents position.extend).selectKind log =
      .ok .boundedPosition := fun log =>
    (Description.answer_selectKind _ log).trans (congrArg Except.ok htag)
  obtain ⟨log, hcreate⟩ := answer_create group settings _ hkind []
  change Query.answer (create group _ settings) [] = _ at hmade
  rw [hcreate] at hmade
  obtain ⟨_, _, _, rfl, _, _, hmodel⟩ := exists_of_answer_ofKind hmade
  obtain ⟨entry, extents', position', orientation, bounds, hentry, hlink, hdescribes, hbounds, hgeometry⟩ :=
    (ResidualModel.ReadFrom.of_ofDescription hmodel).exists_box
      (Description.hasFinitePositions_boundedBox link extents position)
  cases hentry
  obtain ⟨rfl, rfl, rfl⟩ := (PositionEntry.describes_box link extents position
    (by rw [hunit]; exact one_ne_zero : (Quat.identity : Quat ℝ).norm ≠ 0)).unique hdescribes
  rw [hunit.normalize_eq] at hgeometry
  exact ⟨bounds, rfl, hlink.symm, hbounds, hgeometry⟩

-- Every box of free or non-negative extents is accepted.
theorem exists_boundedBox (hvalid : settings.validate = .ok ()) (hlink : group.hasLink link = true)
    (hextents : ∀ axis, IsFreeOrNonNegative (extents.get axis)) (position : Vec3 ExtendedReal) :
    ∃ constraint,
      (create group (.boundedBox link extents position) settings).outcome.1 = .ok constraint := by
  have hsettings : AllMet settings.requirements := settings.judges_validate.ok_iff.mp ⟨(), hvalid⟩
  have hextents : AllMet (onAxes fun axis => extentRequirements (extents.get axis)) := by
    intro requirement hrequirement
    obtain ⟨axis, _, haxis⟩ := List.mem_flatMap.mp hrequirement
    rw [List.mem_singleton.mp haxis]
    exact hextents axis
  have hentry : AllMet ((PositionEntry.box link extents ⟨position, .identity⟩).requirements settings "") := by
    rw [PositionEntry.requirements, if_neg (by decide), if_neg (by decide)]
    exact allMet_append_iff.mpr ⟨allMet_cons_iff.mpr ⟨rfl, hextents⟩, allMet_direction_identity⟩
  refine (judges_create group settings _ []).ok_iff.mpr ?_
  refine allMet_append_iff.mpr ⟨?_, (allMet_map_iff _).mpr (allMet_append_iff.mpr ⟨hsettings, ?_⟩)⟩
  · exact allMet_cons_iff.mpr ⟨Or.inl (List.cons_ne_nil _ _), allMet_cons_iff.mpr ⟨Or.inr rfl, allMet_nil⟩⟩
  · exact allMet_append_iff.mpr ⟨hentry, allMet_cons_iff.mpr ⟨hlink, allMet_nil⟩⟩

end Boxes

-- The residual of a box around a position, by the extents and the offset of the tool from the position.
noncomputable def facePenalties (extents : Vec3 ExtendedReal) (offset : Vec3 ℝ) : Vec3 ℝ :=
  .ofAxes fun axis => pastFace (extents.get axis) (offset.get axis)

-- Its derivative along an axis: the side of the box on which the tool is, if it is past a face.
noncomputable def faceColumn (extents : Vec3 ExtendedReal) (offset : Vec3 ℝ) (axis : Axis) : Vec3 ℝ :=
  .ofAxes fun row => if row = axis ∧ 0 < (facePenalties extents offset).get axis then
    Real.sign (offset.get axis) else 0

-- One column for each of the three slides, and one for each of the three turns.
noncomputable def faceJacobian (extents : Vec3 ExtendedReal) (offset : Vec3 ℝ) : List (Vec3 ℝ) :=
  Axis.all.map (faceColumn extents offset) ++ List.replicate 3 .zero

-- What a box seen from the frame of the base makes of an offset, and of the velocities of the link.
section Aligned

variable {σ : Type} {extents : Vec3 ExtendedReal} {position : Vec3 ℝ} {constraint : Constraint ExtendedReal σ}
  {bounds : Vec3 (Bound ExtendedReal)}
  (hbounds : ∀ axis, Bound.make (-orInfinite (extents.get axis) / 2.0)
    (orInfinite (extents.get axis) / 2.0) = .ok (bounds.get axis))
  (hgeometry : constraint.model.HasGeometry
    (.boundedPosition (.ofAxes fun _ => ⟨0, 0⟩) position .identity) bounds)

include hbounds hgeometry

theorem residual_aligned (offset : Vec3 ℝ) :
    constraint.model.residual offset.extend = (facePenalties extents offset).extend := by
  rw [ResidualModel.residual_extend hgeometry.bounds_allowZero]
  refine congrArg Vec3.extend (congrArg Vec3.ofAxes (funext fun row => ?_))
  rw [← Bound.height_pastFace (hbounds row), hgeometry.eq]
  rfl

theorem residualJacobian_aligned (offset : Vec3 ℝ) :
    constraint.model.residualJacobian offset.extend
        ((Axis.all.map Vec3.unit ++ List.replicate 3 Vec3.zero).map Vec3.extend) =
      (faceJacobian extents offset).map Vec3.extend := by
  have htilt : ∀ row, constraint.model.rowTilt row (offset.get row) =
      if 0 < (facePenalties extents offset).get row then Real.sign (offset.get row) else 0 := by
    intro row
    rw [facePenalties, Vec3.get_ofAxes, ← Bound.tilt_pastFace (hbounds row), hgeometry.eq]
    rfl
  rw [ResidualModel.residualJacobian_extend hgeometry.bounds_allowZero, faceJacobian]
  have hslide : ∀ axis, (Vec3.ofAxes fun row =>
      (if 0 < (facePenalties extents offset).get row then Real.sign (offset.get row) else 0) *
        (Vec3.unit axis).get row) = faceColumn extents offset axis := by
    intro axis
    refine congrArg Vec3.ofAxes (funext fun row => ?_)
    rw [Vec3.unit, Vec3.get_ofAxes]
    by_cases hrow : row = axis
    · simp [hrow]
    · simp [hrow]
  have hturn : (Vec3.ofAxes fun row =>
      (if 0 < (facePenalties extents offset).get row then Real.sign (offset.get row) else 0) *
        (Vec3.zero : Vec3 ℝ).get row) = .zero := by
    rw [Vec3.ofAxes_eq_zero_iff]
    rintro (_ | _ | _) <;> exact mul_zero _
  simp only [htilt, List.map_append, List.map_map, List.map_replicate, hturn, Function.comp_def, hslide]

end Aligned

theorem error_aligned (bounds : Vec3 (Bound ℝ)) (position : Vec3 ℝ) (pose : Pose ℝ) :
    (ResidualModel.boundedPosition bounds position .identity).error pose = pose.translation - position := by
  rw [ResidualModel.error, ResidualModel.inFrame, Quat.conjugate_identity, Quat.identity_rotate]

theorem errorJacobian_aligned (bounds : Vec3 (Bound ℝ)) (position : Vec3 ℝ) (pose : Pose ℝ)
    (twists : List (Twist ℝ)) :
    (ResidualModel.boundedPosition bounds position .identity).errorJacobian pose twists =
      twists.map Twist.linear := by
  have hoperator : (ResidualModel.boundedPosition bounds position .identity).errorOperator pose = .identity := by
    rw [ResidualModel.errorOperator, Quat.toMatrix_identity]
    rfl
  unfold ResidualModel.errorJacobian
  simp only [hoperator, Mat3.identity_apply]
  rfl

section Wrist

open Robots

-- The reference robot from its joints to the answers of a constraint: the tool is where the slides put it, as
-- the turns turn it. The slides move it along the axes of the box, and the turns do not count.
theorem cartesianWrist_closedForm (q : Fin 6 → ℝ) :
    (∃ pose : Pose ℝ,
      ((cartesianWrist : Chain ExtendedReal).jointGroup.linkPose (positionsOf q) toolLink).answer
        (cartesianWrist : Chain ExtendedReal).jointGroup.newScratchpad = .ok pose.extend ∧
      pose.translation = ⟨q 0, q 1, q 2⟩ ∧
      pose.rotation.toMatrix = Mat3.turn (q 3) .z * Mat3.turn (q 4) .y * Mat3.turn (q 5) .x) ∧
    ∀ (settings : Settings ExtendedReal) (extents : Vec3 ExtendedReal) (position : Vec3 ℝ)
      (constraint : Constraint ExtendedReal (Scratchpad ExtendedReal)),
      (create cartesianWrist.jointGroup (.boundedBox toolLink extents position.extend) settings).outcome.1 =
          .ok constraint →
        (constraint.residual (positionsOf q)).answer constraint.group.newScratchpad =
          .ok (facePenalties extents ((⟨q 0, q 1, q 2⟩ : Vec3 ℝ) - position)).extend ∧
        (constraint.jacobian (positionsOf q)).answer constraint.group.newScratchpad =
          .ok ((faceJacobian extents ((⟨q 0, q 1, q 2⟩ : Vec3 ℝ) - position)).map Vec3.extend) := by
  have hlink : (cartesianWrist : Chain ExtendedReal).linkIndex? toolLink = some .tip := rfl
  obtain ⟨hpose, hlinear⟩ := cartesianWrist_tool q
  refine ⟨⟨wristPose ⟨q 0, q 1, q 2⟩ (q 3) (q 4) (q 5), ?_, rfl, wristPose_toMatrix _ _ _ _⟩, ?_⟩
  · have hlength : (positionsOf q).length = (cartesianWrist : Chain ExtendedReal).dof := rfl
    rw [Chain.answer_linkPose_fresh hlength hlink, ← cartesianWrist_extend,
      positionsOf, ← Scratchpad.extend_fill, ← Scratchpad.extend_linkPose, hpose]
  · intro settings extents position constraint hmade
    obtain ⟨bounds, hgroup, hname, hbounds, hgeometry⟩ := exists_of_create_boundedBox hmade
    rw [← hname, ← cartesianWrist_extend] at hlink
    rw [← cartesianWrist_extend] at hgroup
    have hresidual : (constraint.residual (positionsOf q)).answer constraint.group.newScratchpad =
        .ok (constraint.model.residual (ResidualModel.error _
          ((Scratchpad.fill cartesianWrist (List.ofFn q)).linkPose .tip)).extend) :=
      answer_residual hgroup hlink hgeometry q
    have hjacobian : (constraint.jacobian (positionsOf q)).answer constraint.group.newScratchpad =
        .ok (constraint.model.residualJacobian
          (ResidualModel.error _ ((Scratchpad.fill cartesianWrist (List.ofFn q)).linkPose .tip)).extend
          ((ResidualModel.errorJacobian _ ((Scratchpad.fill cartesianWrist (List.ofFn q)).linkPose .tip)
            ((Scratchpad.fill cartesianWrist (List.ofFn q)).jacobian cartesianWrist.joints .tip)).map
              Vec3.extend)) :=
      answer_jacobian hgroup hlink hgeometry q
    rw [error_aligned, hpose, residual_aligned hbounds hgeometry] at hresidual
    rw [error_aligned, errorJacobian_aligned, hpose, hlinear,
      residualJacobian_aligned hbounds hgeometry] at hjacobian
    exact ⟨hresidual, hjacobian⟩

-- The tool is past a face of the box along two of its axes; the other one is free.
theorem cartesianWrist_closedForm_pastEdge :
    ∃ constraint : Constraint ExtendedReal (Scratchpad ExtendedReal),
      (create cartesianWrist.jointGroup (.boundedBox toolLink (⟨1, -1, 1⟩ : Vec3 ℝ).extend
        (.zero : Vec3 ℝ).extend) .standard).outcome.1 = .ok constraint ∧
      (constraint.residual (positionsOf fun _ : Fin 6 => 2)).answer constraint.group.newScratchpad =
        .ok (⟨3 / 2, 0, 3 / 2⟩ : Vec3 ℝ).extend := by
  have hextents : ∀ axis, IsFreeOrNonNegative ((⟨1, -1, 1⟩ : Vec3 ℝ).extend.get axis)
    | .x | .z => Or.inr (zero_le_one : (0 : ℝ) ≤ 1)
    | .y => Or.inl rfl
  obtain ⟨constraint, hmade⟩ := exists_boundedBox Settings.validate_standard
    (rfl : cartesianWrist.jointGroup.hasLink toolLink = true) hextents (.zero : Vec3 ℝ).extend
  refine ⟨constraint, hmade, ?_⟩
  rw [((cartesianWrist_closedForm fun _ => 2).2 _ _ _ constraint hmade).1]
  refine congrArg (fun residual : Vec3 ℝ => Except.ok residual.extend) ?_
  ext <;> norm_num [facePenalties, pastFace, Vec3.extend]

end Wrist

end Constraint

end TaskSpace.Constraints
