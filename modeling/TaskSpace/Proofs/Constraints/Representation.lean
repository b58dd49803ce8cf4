import Mathlib
import TaskSpace.Proofs.Constraints.Rescaling
import TaskSpace.Proofs.Kinematics.FullTurns

namespace TaskSpace.Constraints

open Rigid Kinematics
open ExtendedReal (real)

namespace ResidualModel

section Evaluation

variable {finite : ResidualModel ℝ} {rotation rotation' : Quat ℝ} {pose pose' : Pose ℝ}

theorem inFrame_eq_of_sameRotation (h : rotation'.SameRotation rotation) (v : Vec3 ℝ) :
    inFrame rotation' v = inFrame rotation v := h.conjugate.rotate_eq v

theorem offset_eq_of_isSame (h : rotation'.SameRotation rotation) (hpose : pose'.IsSame pose)
    (target : Vec3 ℝ) :
    inFrame rotation' (pose'.translation - target) = inFrame rotation (pose.translation - target) := by
  rw [hpose.translation, inFrame_eq_of_sameRotation h]

theorem lineDirection_eq_of_sameRotation (h : rotation'.SameRotation rotation) (start finish : Vec3 ℝ) :
    lineDirection start finish rotation' = lineDirection start finish rotation := by
  rw [lineDirection, inFrame_eq_of_sameRotation h, lineDirection]

theorem sameRotation_remainingTurn (h : rotation'.SameRotation rotation) (hpose : pose'.IsSame pose) :
    (remainingTurn pose' rotation').SameRotation (remainingTurn pose rotation) :=
  hpose.rotation.conjugate.mul h

variable (hrotation : rotation.SameRotation finite.targetOrientation) (hpose : pose'.IsSame pose)

include hrotation hpose

-- Errors and their operators depend on rotations only. But a half turn has two logarithms.
theorem error_withOrientation (hturn : finite.kind = .orientation →
      (remainingTurn pose finite.targetOrientation).w ≠ 0) :
    (finite.withOrientation rotation).error pose' = finite.error pose ∧
      (finite.withOrientation rotation).errorOperator pose' = finite.errorOperator pose := by
  cases finite with
  | boundedPosition _ target _ =>
      exact ⟨offset_eq_of_isSame hrotation hpose target, congrArg Mat3.transpose hrotation.toMatrix_eq⟩
  | equalityPosition _ target _ =>
      exact ⟨offset_eq_of_isSame hrotation hpose target, congrArg Mat3.transpose hrotation.toMatrix_eq⟩
  | linearSystemPosition _ start finish _ =>
      have hdirection := lineDirection_eq_of_sameRotation hrotation start finish
      constructor
      · exact congrArg₂ Vec3.cross hdirection (offset_eq_of_isSame hrotation hpose start)
      · exact congrArg₂ (fun direction matrix => Mat3.skew direction * Mat3.transpose matrix) hdirection
          hrotation.toMatrix_eq
  | orientation _ _ =>
      have hremaining := sameRotation_remainingTurn hrotation hpose
      constructor
      · exact hremaining.rotationLog_eq (hturn rfl)
      · exact congrArg₂ (fun rate matrix => -(rate * Mat3.transpose matrix)) (hremaining.logRate_eq (hturn rfl))
          hpose.rotation.toMatrix_eq

theorem error_withOrientation_or : (finite.withOrientation rotation).error pose' = finite.error pose ∨
    finite.kind = .orientation ∧
      (finite.withOrientation rotation).error pose' = (finite.error pose).scale (-1) := by
  by_cases hkind : finite.kind = .orientation
  · cases finite with
    | boundedPosition _ target _ => cases hkind
    | equalityPosition _ target _ => cases hkind
    | linearSystemPosition _ start finish _ => cases hkind
    | orientation _ _ =>
        rcases (sameRotation_remainingTurn hrotation hpose).rotationLog_eq_or with hsame | hopposite
        · exact Or.inl hsame
        · exact Or.inr ⟨rfl, hopposite⟩
  · exact Or.inl (error_withOrientation hrotation hpose fun h => absurd h hkind).1

end Evaluation

-- So the residual is the same for both logarithms.
theorem residual_scale_neg {model : ResidualModel ExtendedReal} {finite : ResidualModel ℝ}
    {bounds : Vec3 (Bound ExtendedReal)} (h : model.HasGeometry finite bounds)
    (hkind : finite.kind = .orientation) (heven : EvenBounds bounds) (error : Vec3 ℝ) :
    model.residual (error.scale (-1)).extend = model.residual error.extend := by
  rw [residual_extend h.bounds_allowZero, residual_extend h.bounds_allowZero]
  congr 2
  funext row
  have hrow : (error.scale (-1)).get row = -error.get row := by
    cases row <;> simp
  have hbounds : model.bounds? = some bounds := by
    rw [h.eq]
    cases finite with
    | boundedPosition _ target _ => rfl
    | equalityPosition _ target _ => cases hkind
    | linearSystemPosition _ start finish _ => cases hkind
    | orientation _ _ => rfl
  rw [hrow, rowHeight, rowHeight, hbounds]
  exact heven row _

end ResidualModel

namespace Constraint

variable {chain : Chain ℝ}

section Replies

variable {constraint other : Constraint ExtendedReal (Scratchpad ExtendedReal)} {finite : ResidualModel ℝ}
  {rotation : Quat ℝ} {bounds : Vec3 (Bound ExtendedReal)}
  (h : ResidualModel.SameButSign constraint.link other.link constraint.model other.model finite rotation bounds)
  {q q' : Fin chain.dof → ℝ} (hturns : ∀ j, Joint.FullTurnsApart chain.joints[j] (q j) (q' j)) (place : LinkIndex)

include h hturns

theorem replyAt_eq_of_sameButSign (hsettings : other.settings = constraint.settings)
    (hturn : finite.kind = .orientation → (ResidualModel.remainingTurn
      ((Scratchpad.fill chain (List.ofFn q)).linkPose place) finite.targetOrientation).w ≠ 0)
    (method : Method) :
    other.replyAt chain (List.ofFn q') place method =
      constraint.replyAt chain (List.ofFn q) place method := by
  obtain ⟨hpose, htwists⟩ := fullTurns_eq hturns place
  obtain ⟨herror, hoperator⟩ := ResidualModel.error_withOrientation h.rotation hpose hturn
  have hvelocity : (finite.withOrientation rotation).relevantVelocity = finite.relevantVelocity := by
    cases finite <;> rfl
  refine replyAt_congr h.geometry h.geometry' hsettings (h.geometry.hasRowsOf h.geometry') herror ?_ method
  simp only [ResidualModel.errorJacobian, hoperator, hvelocity, htwists]

theorem replyAt_residual_eq_of_sameButSign :
    other.replyAt chain (List.ofFn q') place .residual =
      constraint.replyAt chain (List.ofFn q) place .residual := by
  obtain ⟨hpose, _⟩ := fullTurns_eq hturns place
  rw [replyAt_residual h.geometry, replyAt_residual h.geometry',
    (h.geometry.hasRowsOf h.geometry').residual_eq]
  rcases ResidualModel.error_withOrientation_or h.rotation hpose with hsame | ⟨hkind, hopposite⟩
  · rw [hsame]
  · rw [hopposite, ResidualModel.residual_scale_neg h.geometry hkind (h.even hkind)]

end Replies

-- Only a half turn leaves no real part of the remaining turn.
theorem w_ne_zero_of_not_hasTurnAt {constraint : Constraint ExtendedReal (Scratchpad ExtendedReal)}
    {finite : ResidualModel ℝ} {bounds : Vec3 (Bound ExtendedReal)} {place : LinkIndex}
    (hgeometry : constraint.model.HasGeometry finite bounds)
    (hgroup : constraint.group = chain.extend.jointGroup)
    (hlink : chain.extend.linkIndex? constraint.link = some place) (hchain : chain.IsRigid)
    {q : Fin chain.dof → ℝ}
    (hturn : ¬constraint.HasTurnAt (positionsOf q) Real.pi) :
    (ResidualModel.remainingTurn ((Scratchpad.fill chain (List.ofFn q)).linkPose place)
      finite.targetOrientation).w ≠ 0 := by
  intro hw
  have hunit := ResidualModel.remainingTurn_isUnit (hchain.linkPose_isUnit (List.ofFn q) place)
    hgeometry.targetOrientation_isUnit
  refine hturn ⟨_, finite.targetOrientation, answer_pose hgroup hlink q, hgeometry.targetOrientation_eq, ?_⟩
  rw [← hunit.angle_eq_pi hw, ResidualModel.remainingTurn, Quat.toMatrix_mul, Quat.toMatrix_conjugate]

-- Full turns of revolute joints, and multiples of the quaternions of a description, do not change the
-- residual. Nor do they change anything else, but where an orientation is a half turn away.
theorem answers_of_sameRotations (chain : Chain ℝ) (hchain : chain.IsRigid) {kind : Kind}
    {settings : Settings ExtendedReal} {description description' : Description ExtendedReal}
    {constraint other : Constraint ExtendedReal (Scratchpad ExtendedReal)}
    (hmade : (ofKind kind chain.extend.jointGroup settings description).outcome.1 = .ok constraint)
    (hother : (ofKind kind chain.extend.jointGroup settings description').outcome.1 = .ok other)
    (hrescaled : description.IsRescaled description')
    (hfinite : kind.isPosition = true → description.HasFinitePositions) {n : Nat} (q q' : Fin n → ℝ)
    (hturns : ∀ (j : Fin n) joint, chain.joints[(j : Nat)]? = some joint →
      joint.FullTurnsApart (q j) (q' j)) :
    other.freshAnswer (positionsOf q') .residual = constraint.freshAnswer (positionsOf q) .residual ∧
      ((kind = .orientation → ¬constraint.HasTurnAt (positionsOf q) Real.pi) →
        ∀ method, other.freshAnswer (positionsOf q') method = constraint.freshAnswer (positionsOf q) method) := by
  obtain ⟨link, model, _, rfl, hvalid, _, hmodel⟩ := exists_of_ofKind hmade
  obtain ⟨link', model', _, rfl, _, _, hmodel'⟩ := exists_of_ofKind hother
  obtain ⟨finite, rotation, bounds, rfl, hsame⟩ := ResidualModel.ReadFrom.sameButSign hvalid hfinite
    hrescaled (.of_ofDescription hmodel) (.of_ofDescription hmodel')
  have hlengths : (List.ofFn q').length = (List.ofFn q).length := by
    rw [List.length_ofFn, List.length_ofFn]
  have hjoints : ∀ hdof : n = chain.dof, ∀ j : Fin chain.dof,
      Joint.FullTurnsApart chain.joints[j] (q (j.cast hdof.symm)) (q' (j.cast hdof.symm)) :=
    fun hdof j => hturns (j.cast hdof.symm) _ (List.getElem?_eq_getElem j.isLt)
  constructor
  · refine freshAnswer_congr rfl rfl hsame.link rfl rfl hlengths fun place hdimension _ => ?_
    obtain rfl : n = chain.dof := by rwa [List.length_ofFn] at hdimension
    exact replyAt_residual_eq_of_sameButSign hsame (hjoints rfl) place
  · intro hturn method
    refine freshAnswer_congr rfl rfl hsame.link rfl rfl hlengths fun place hdimension hplace => ?_
    obtain rfl : n = chain.dof := by rwa [List.length_ofFn] at hdimension
    refine replyAt_eq_of_sameButSign hsame (hjoints rfl) place (by rfl) (fun hkind => ?_) method
    refine w_ne_zero_of_not_hasTurnAt hsame.geometry rfl ?_ hchain (hturn hkind)
    rwa [chain.extend_linkIndex?]

-- The tool of a resting robot has no turn left to the orientation of the base.
theorem cartesianWrist_not_hasTurnAt {constraint : Constraint ExtendedReal (Scratchpad ExtendedReal)}
    (hgroup : constraint.group = (Robots.cartesianWrist : Chain ℝ).extend.jointGroup)
    (hlink : constraint.link = Robots.toolLink)
    (htarget : constraint.model.targetOrientation = (.identity : Quat ℝ).extend) :
    ¬constraint.HasTurnAt (positionsOf fun _ : Fin 6 => 0) Real.pi := by
  rintro ⟨pose, target, hpose, hother, hangle⟩
  have hplace : (Robots.cartesianWrist : Chain ℝ).extend.linkIndex? constraint.link = some .tip := by
    rw [hlink]
    rfl
  have hrest := answer_pose hgroup hplace fun _ => 0
  rw [Robots.cartesianWrist_linkPose_rest] at hrest
  have hrotation : pose.rotation = .identity :=
    Quat.extend_injective (congrArg Pose.rotation (Except.ok.inj (hpose.symm.trans hrest)))
  obtain rfl : target = .identity := Quat.extend_injective (hother.symm.trans htarget)
  have hnone : (Quat.identity : Quat ℝ).angleAxis.1 = 0 := by
    rw [Quat.angleAxis_of_eq_zero ((Vec3.norm_eq_zero_iff _).mpr rfl)]
  rw [hrotation, ← Quat.toMatrix_conjugate, ← Quat.toMatrix_mul, Quat.conjugate_identity,
    Quat.identity_mul, Quat.isUnit_identity.angle_toMatrix, hnone] at hangle
  exact Real.pi_pos.ne hangle

-- A robot at rest but for one full turn.
noncomputable def yawTurned : Fin 6 → ℝ := Function.update (fun _ => 0) 3 (2.0 * Real.pi)

-- The tool of a resting robot is held as asked. A full turn of the yaw joint, and a quaternion of length
-- two on the other side, leave it so.
theorem cartesianWrist_answers_of_sameRotations :
    ∃ constraint other, (ofKind .orientation (Robots.cartesianWrist : Chain ℝ).extend.jointGroup .standard
        (.orientation Robots.toolLink (.identity : Quat ℝ).extend (.zero : Vec3 ℝ).extend)).outcome.1 =
          .ok constraint ∧
      (ofKind .orientation (Robots.cartesianWrist : Chain ℝ).extend.jointGroup .standard
        (.orientation Robots.toolLink (Quat.identity.scale (-2) : Quat ℝ).extend
          (.zero : Vec3 ℝ).extend)).outcome.1 = .ok other ∧
      ∀ method,
        constraint.freshAnswer (positionsOf yawTurned) method =
            constraint.freshAnswer (positionsOf fun _ : Fin 6 => 0) method ∧
          other.freshAnswer (positionsOf yawTurned) method =
            constraint.freshAnswer (positionsOf fun _ : Fin 6 => 0) method := by
  have hlink : (Robots.cartesianWrist : Chain ℝ).extend.jointGroup.hasLink Robots.toolLink = true := rfl
  obtain ⟨constraint, hmade, htool, htarget⟩ := exists_baseOrientation hlink
  have htolerances : ∀ axis, 0 ≤ (.zero : Vec3 ℝ).get axis := by
    rintro (_ | _ | _) <;> exact le_rfl
  have hnorm : (Quat.identity.scale (-2) : Quat ℝ).norm = 2 := by
    rw [Quat.norm_scale, Quat.isUnit_identity]
    norm_num
  have hother := ofKind_orientation Settings.validate_standard hlink htolerances
    (by rw [hnorm]; norm_num : (1e-12 : ℝ) ≤ (Quat.identity.scale (-2) : Quat ℝ).norm)
    (rfl : (Description.orientation Robots.toolLink (Quat.identity.scale (-2) : Quat ℝ).extend
      (.zero : Vec3 ℝ).extend).orientations = _)
  have hrescaled : (Description.orientation Robots.toolLink (.identity : Quat ℝ).extend
      (.zero : Vec3 ℝ).extend).IsRescaled (.orientation Robots.toolLink
        (Quat.identity.scale (-2) : Quat ℝ).extend (.zero : Vec3 ℝ).extend) :=
    ⟨rfl, .nil, .cons ⟨rfl, ⟨-2, neg_ne_zero.mpr two_ne_zero, rfl⟩, rfl⟩ .nil⟩
  have hturns : ∀ (j : Fin 6) joint, (Robots.cartesianWrist : Chain ℝ).joints[(j : Nat)]? = some joint →
      joint.FullTurnsApart 0 (yawTurned j) := by
    intro j joint hjoint
    by_cases hyaw : j = 3
    · subst hyaw
      cases hjoint
      refine Or.inr ⟨rfl, 1, ?_⟩
      rw [yawTurned, Function.update_self, Int.cast_one, one_mul, zero_add]
    · exact Or.inl (Function.update_of_ne hyaw _ _)
  have hturn := cartesianWrist_not_hasTurnAt (IsMadeFor.group_eq ⟨_, _, _, hmade⟩) htool htarget
  have hitself := (answers_of_sameRotations Robots.cartesianWrist Robots.cartesianWrist_isRigid hmade hmade
    (.refl _) nofun _ _ hturns).2 fun _ => hturn
  have hmultiple := (answers_of_sameRotations Robots.cartesianWrist Robots.cartesianWrist_isRigid hmade hother
    hrescaled nofun _ _ hturns).2 fun _ => hturn
  exact ⟨constraint, _, hmade, hother, fun method => ⟨hitself method, hmultiple method⟩⟩

end Constraint

end TaskSpace.Constraints
