import Mathlib
import TaskSpace.Proofs.Constraints.Regions
import TaskSpace.Proofs.Rigid.CrossProduct

namespace TaskSpace.Constraints

open Rigid Kinematics
open ExtendedReal (real infinite)

namespace ResidualModel

variable {mask : Vec3 Bool} {start finish : Vec3 ℝ} {rotation : Quat ℝ} {pose : Pose ℝ}

theorem lineDirection_eq (hrotation : rotation.IsUnit) (start finish : Vec3 ℝ) :
    lineDirection start finish rotation = inFrame rotation (finish - start).normalize :=
  (hrotation.conjugate.rotate_normalize _).symm

theorem lineDirection_isUnit (hrotation : rotation.IsUnit) (hne : start ≠ finish) :
    (lineDirection start finish rotation).IsUnit :=
  Vec3.normalize_isUnit _ fun h => inFrame_norm_ne_zero hrotation hne ((Vec3.norm_eq_zero_iff _).mpr h)

-- The error is what the unit direction and the offset give in the base frame, seen from the target.
theorem error_line (hrotation : rotation.IsUnit) :
    (linearSystemPosition mask start finish rotation).error pose =
      inFrame rotation ((finish - start).normalize.cross (pose.translation - start)) := by
  rw [error, lineDirection_eq hrotation]
  exact (hrotation.conjugate.rotate_cross _ _).symm

theorem lineRowActive_of_two {first second : Axis} (hne : first ≠ second) (hfirst : mask.get first = true)
    (hsecond : mask.get second = true) (row : Axis) : lineRowActive mask row = true := by
  unfold lineRowActive
  rw [Bool.or_eq_true]
  cases row <;> cases first <;> cases second <;> simp_all [Axis.next]

theorem lineRowActive_iff_of_one {axis : Axis} (hone : ∀ other, mask.get other = true ↔ other = axis)
    (row : Axis) : lineRowActive mask row = true ↔ row ≠ axis := by
  unfold lineRowActive
  rw [Bool.or_eq_true, hone, hone]
  cases row <;> cases axis <;> simp [Axis.next]

-- What the active rows of a line have to be for the residual to vanish.
theorem residual_line_eq_zero_iff (mask : Vec3 Bool) (error : Vec3 ℝ) :
    (Vec3.ofAxes fun row => if lineRowActive mask row then error.get row else 0) = .zero ↔
      ∀ row, lineRowActive mask row = true → error.get row = 0 := by
  rw [Vec3.ofAxes_eq_zero_iff]
  simp only [ite_eq_right_iff]

end ResidualModel

namespace Constraint

variable {σ : Type} {constraint : Constraint ExtendedReal σ}

-- A constraint to the line between two points, seen from an orientation, as some description asks for it.
def IsLine (constraint : Constraint ExtendedReal σ) (start finish : Vec3 ℝ) (orientation : Quat ℝ) : Prop :=
  ∃ group settings description entry extents, description.HasFinitePositions ∧
    (ofKind .linearSystemPosition group settings description).outcome.1 = .ok constraint ∧
    description.positions.head? = some entry ∧
    entry.DescribesLine extents start finish orientation

-- The error is the offset from the start crossed with the direction of the line. It only depends on the
-- line itself, and on which way it is run through.
structure HasLineErrorAt (start finish : Vec3 ℝ) (orientation : Quat ℝ) (pose : Pose ℝ)
    (error : Vec3 ℝ) : Prop where
  turned : orientation.normalize.toMatrix.apply error =
    (finish - start).normalize.cross (pose.translation - start)
  isDistance : pose.translation.IsDistance (Vec3.line start finish) error.norm
  otherOrientation : ∀ {τ : Type} (other : Constraint ExtendedReal τ) (view : Quat ℝ),
    other.IsLine start finish view →
      ∃ seen : Vec3 ℝ, other.model.error pose.extend = seen.extend ∧ seen.norm = error.norm
  otherFinish : ∀ {τ : Type} (other : Constraint ExtendedReal τ) (amount : ℝ), 0 < amount →
    other.IsLine start (start + (finish - start).scale amount) orientation →
      other.model.error pose.extend = error.extend
  reversed : ∀ {τ : Type} (other : Constraint ExtendedReal τ),
    other.IsLine finish start orientation →
      other.model.error pose.extend = (error.scale (-1)).extend

-- The residual by the axes that the extents hold. With one of them it only asks for the line if the line
-- does not run across that axis, else for the plane through the line that the axis is normal to.
structure HasLineResidualAt (held : Axis → Prop) (start finish : Vec3 ℝ) (orientation : Quat ℝ)
    (pose : Pose ℝ) (residual : Vec3 ℝ) : Prop where
  two : ∀ first second, first ≠ second → held first → held second →
    MeasuresWayTo (Vec3.line start finish) pose residual
  oneAlong : ∀ axis, (∀ other, held other ↔ other = axis) →
    (orientation.normalize.toMatrix.transpose.apply (finish - start)).normalize.get axis ≠ 0 →
      (residual = .zero ↔ pose.translation ∈ Vec3.line start finish)
  oneAcross : ∀ axis, (∀ other, held other ↔ other = axis) →
    (orientation.normalize.toMatrix.transpose.apply (finish - start)).normalize.get axis = 0 →
      (residual = .zero ↔
        (orientation.normalize.toMatrix.transpose.apply (pose.translation - start)).get axis = 0)
  none : (∀ axis, ¬held axis) → residual = .zero

section Geometry

variable {start finish : Vec3 ℝ} {orientation : Quat ℝ} {mask : Vec3 Bool} {pose : Pose ℝ}

-- What a constraint to a line is built of does not depend on the description it came from.
theorem IsLine.exists_geometry (h : constraint.IsLine start finish orientation) :
    ∃ mask, constraint.model.HasGeometry
      (.linearSystemPosition mask start finish orientation.normalize) AllowZero.point := by
  obtain ⟨group, settings, description, entry, extents, hfinite, hmade, hentry, hline⟩ := h
  obtain ⟨hvalid, hread⟩ := readFrom_of_ofKind hmade
  obtain ⟨entry', extents', start', finish', orientation', mask, hentry', _, hline', _, hgeometry⟩ :=
    hread.exists_line hfinite hvalid
  rw [hentry, Option.some.injEq] at hentry'
  subst hentry'
  obtain ⟨rfl, rfl, rfl, rfl⟩ := hline.unique_line hline'
  exact ⟨mask, hgeometry⟩

theorem IsLine.error_eq (h : constraint.IsLine start finish orientation) (pose : Pose ℝ) :
    constraint.model.error pose.extend = (ResidualModel.inFrame orientation.normalize
      ((finish - start).normalize.cross (pose.translation - start))).extend := by
  obtain ⟨mask, hgeometry⟩ := h.exists_geometry
  rw [hgeometry.eq, ← ResidualModel.extend_error _ hgeometry.regular,
    ResidualModel.error_line hgeometry.regular.1]

theorem IsLine.hasLineErrorAt (h : constraint.IsLine start finish orientation) (pose : Pose ℝ) :
    HasLineErrorAt start finish orientation pose (ResidualModel.inFrame orientation.normalize
      ((finish - start).normalize.cross (pose.translation - start))) := by
  obtain ⟨mask, hgeometry⟩ := h.exists_geometry
  obtain ⟨hrotation, hne⟩ := hgeometry.regular
  constructor
  case turned =>
    rw [← hrotation.rotate_eq]
    exact hrotation.rotate_conjugate_rotate _
  case isDistance =>
    rw [ResidualModel.inFrame, hrotation.conjugate.norm_rotate]
    exact Vec3.isDistance_line hne _
  case otherOrientation =>
    intro τ other view hother
    obtain ⟨mask, hview⟩ := hother.exists_geometry
    refine ⟨_, hother.error_eq pose, ?_⟩
    rw [ResidualModel.inFrame, ResidualModel.inFrame, hrotation.conjugate.norm_rotate,
      hview.regular.1.conjugate.norm_rotate]
  case otherFinish =>
    intro τ other amount hamount hother
    have hoffset : start + (finish - start).scale amount - start = (finish - start).scale amount := by
      ext <;> simp
    rw [hother.error_eq, hoffset, Vec3.normalize_scale hamount]
  case reversed =>
    intro τ other hother
    rw [hother.error_eq, Vec3.cross_reversed, ResidualModel.inFrame, Quat.rotate_scale]
    rfl

theorem hasLineResidualAt {held : Axis → Prop} (hmask : ∀ axis, mask.get axis = true ↔ held axis)
    (hrotation : orientation.normalize.IsUnit) (hne : start ≠ finish) (pose : Pose ℝ) :
    HasLineResidualAt held start finish orientation pose (.ofAxes fun row =>
      if ResidualModel.lineRowActive mask row then
        ((ResidualModel.linearSystemPosition mask start finish orientation.normalize).error pose).get row
      else 0) := by
  have hdistance : pose.translation.IsDistance (Vec3.line start finish)
      ((ResidualModel.linearSystemPosition mask start finish orientation.normalize).error pose).norm := by
    rw [ResidualModel.error_line hrotation, ResidualModel.inFrame, hrotation.conjugate.norm_rotate]
    exact Vec3.isDistance_line hne _
  have hone : ∀ axis, (∀ other, held other ↔ other = axis) → ∀ row,
      ResidualModel.lineRowActive mask row = true ↔ row ≠ axis := fun axis haxis =>
    ResidualModel.lineRowActive_iff_of_one fun other => (hmask other).trans (haxis other)
  constructor
  case two =>
    intro first second hdifferent hfirst hsecond
    have hactive := ResidualModel.lineRowActive_of_two hdifferent ((hmask first).mpr hfirst)
      ((hmask second).mpr hsecond)
    simp only [hactive, if_true, Vec3.ofAxes_get]
    exact .of_isDistance hdistance
  case oneAlong =>
    intro axis haxis hdirection
    rw [ResidualModel.residual_line_eq_zero_iff, ← hdistance.eq_zero_iff, Vec3.norm_eq_zero_iff]
    simp only [hone axis haxis, Axis.forall_ne_iff]
    rw [← ResidualModel.inFrame_eq hrotation] at hdirection
    exact Vec3.cross_eq_zero_of_next hdirection
  case oneAcross =>
    intro axis haxis hdirection
    rw [ResidualModel.residual_line_eq_zero_iff, ← ResidualModel.inFrame_eq hrotation]
    simp only [hone axis haxis, Axis.forall_ne_iff]
    rw [← ResidualModel.inFrame_eq hrotation] at hdirection
    exact Vec3.cross_next_eq_zero_iff (ResidualModel.lineDirection_isUnit hrotation hne) hdirection
  case none =>
    intro hnone
    rw [ResidualModel.residual_line_eq_zero_iff]
    intro row hactive
    rw [ResidualModel.lineRowActive, Bool.or_eq_true, hmask, hmask] at hactive
    exact absurd hactive (not_or.mpr ⟨hnone _, hnone _⟩)

end Geometry

-- What a constraint to a line measures, from every pose of the link.
theorem line_measured {group : JointGroup ExtendedReal σ} {settings : Settings ExtendedReal}
    {description : Description ExtendedReal} (hfinite : description.HasFinitePositions)
    (hmade : (ofKind .linearSystemPosition group settings description).outcome.1 = .ok constraint) :
    ∃ entry extents start finish orientation, description.positions.head? = some entry ∧
      constraint.link = entry.link ∧ entry.DescribesLine extents start finish orientation ∧
      ∀ pose : Pose ℝ, ∃ error residual, constraint.HasValuesAt pose error residual ∧
        HasLineErrorAt start finish orientation pose error ∧
        HasLineResidualAt (fun axis => settings.Constrains (extents.get axis)) start finish orientation pose
          residual := by
  obtain ⟨hvalid, hread⟩ := readFrom_of_ofKind hmade
  obtain ⟨entry, extents, start, finish, orientation, mask, hentry, hlink, hline, hmask, hgeometry⟩ :=
    hread.exists_line hfinite hvalid
  refine ⟨entry, extents, start, finish, orientation, hentry, hlink.symm, hline, fun pose => ?_⟩
  have hvalues := hasValuesAt_of_hasGeometry hgeometry pose
  have hself : constraint.IsLine start finish orientation :=
    ⟨group, settings, description, entry, extents, hfinite, hmade, hentry, hline⟩
  have herror := hself.hasLineErrorAt pose
  have hresidual := hasLineResidualAt (settings.equalityMask_iff hvalid hmask) hgeometry.regular.1
    hgeometry.regular.2 pose
  rw [← ResidualModel.error_line hgeometry.regular.1] at herror
  refine ⟨_, _, hvalues, herror, ?_⟩
  rw [hgeometry.eq]
  exact hresidual

-- A line that runs across the only axis that it holds.
noncomputable def crossingLine : Description ExtendedReal :=
  .line Robots.toolLink (⟨1, 5e-4, -1⟩ : Vec3 ℝ).extend (⟨0, 1, 0⟩ : Vec3 ℝ).extend
    (⟨0, 1, 1⟩ : Vec3 ℝ).extend sampleTurn.extend

theorem crossingLine_far : ¬((⟨0, 1, 1⟩ : Vec3 ℝ).extend - (⟨0, 1, 0⟩ : Vec3 ℝ).extend).norm <
    (Settings.standard : Settings ExtendedReal).tolerance :=
  Settings.far_standard (by norm_num [Vec3.dot_eq])

-- The tool of a resting robot is not on the line, but in the plane that is asked for instead.
theorem cartesianWrist_crossingLine_residual :
    ∃ constraint, (ofKind .linearSystemPosition (Robots.cartesianWrist : Chain ℝ).extend.jointGroup
        .standard crossingLine).outcome.1 = .ok constraint ∧
      (constraint.residual (positionsOf fun _ : Fin 6 => 0)).answer constraint.group.newScratchpad =
        .ok (.zero : Vec3 ℝ).extend ∧
      (Pose.identity : Pose ℝ).translation ∉ Vec3.line ⟨0, 1, 0⟩ ⟨0, 1, 1⟩ := by
  have hmade := ofKind_linearSystemPosition Settings.validate_standard
    (rfl : (Robots.cartesianWrist : Chain ℝ).extend.jointGroup.hasLink Robots.toolLink = true)
    equalityMask_sample sampleTurn_norm.1 crossingLine_far (rfl : crossingLine.positions = _)
  refine ⟨_, hmade, ?_, ?_⟩
  · obtain ⟨entry, extents, start, finish, orientation, hentry, _, hline, hmeasured⟩ :=
      line_measured (Description.hasFinitePositions_line _ _ _ _ _) hmade
    obtain ⟨error, residual, hvalues, _, hresidual⟩ := hmeasured .identity
    cases hentry
    obtain ⟨rfl, rfl, rfl, rfl⟩ := hline.unique_line
      (PositionEntry.describesLine_line _ _ ⟨0, 1, 0⟩ ⟨0, 1, 1⟩ sampleTurn_norm.2)
    have hheld : ∀ axis, Settings.standard.Constrains ((⟨1, 5e-4, -1⟩ : Vec3 ℝ).extend.get axis) ↔
        axis = .y := fun axis =>
      (Settings.equalityMask_iff Settings.validate_standard equalityMask_sample axis).symm.trans
        (by cases axis <;> simp)
    have hseen : ∀ v : Vec3 ℝ, v.x = 0 →
        (sampleTurn.normalize.toMatrix.transpose.apply v).get .y = 0 := by
      intro v hv
      simp [sampleTurn_toMatrix, Mat3.transpose, Mat3.column, Mat3.apply, Vec3.dot_eq, hv]
    have hacross : (sampleTurn.normalize.toMatrix.transpose.apply
        (⟨0, 1, 1⟩ - ⟨0, 1, 0⟩)).normalize.get .y = 0 := by
      rw [Vec3.normalize, Vec3.divide, Vec3.get_map, hseen _ (by norm_num), zero_div]
    rw [← (hresidual.oneAcross .y hheld hacross).mpr (hseen _ (by norm_num [Pose.identity]))]
    exact hvalues.answer_residual_rest rfl rfl
  · rintro ⟨amount, hamount⟩
    have hy := congrArg Vec3.y hamount
    norm_num [Pose.identity] at hy

end Constraint

end TaskSpace.Constraints
