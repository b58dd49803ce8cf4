import Mathlib
import TaskSpace.Proofs.Constraints.Acceptance
import TaskSpace.Proofs.Constraints.Penalty
import TaskSpace.Proofs.Constraints.Reading
import TaskSpace.Proofs.Kinematics.Smoothness

namespace TaskSpace.Constraints

open Rigid Kinematics
open ExtendedReal (real)

-- Functions whose values are vectors of numbers, and columns that are the derivative at a point: each
-- row holds the slopes of that entry.
def HasJacobianAt {ε : Type} {n : Nat} (f : (Fin n → ℝ) → Except ε (Vec3 ExtendedReal))
    (columns : Except ε (List (Vec3 ExtendedReal))) (q : Fin n → ℝ) : Prop :=
  ∃ (value : (Fin n → ℝ) → Vec3 ℝ) (slopes : Fin n → Vec3 ℝ),
    (∀ x, f x = .ok (value x).extend) ∧
    columns = .ok ((List.ofFn slopes).map Vec3.extend) ∧
    ∀ row, HasFDerivAt (fun x => (value x).get row)
      (∑ j, (slopes j).get row • (ContinuousLinearMap.proj j : (Fin n → ℝ) →L[ℝ] ℝ)) q

namespace ResidualModel

variable {model : ResidualModel ExtendedReal} {finite : ResidualModel ℝ}
  {bounds : Vec3 (Bound ExtendedReal)}

-- The operator and the velocities of a link along the joints give the derivative of the error.
theorem hasFDerivAt_error {n : Nat} {pose : (Fin n → ℝ) → Pose ℝ} {twists : Fin n → Twist ℝ}
    {q : Fin n → ℝ} (hfinite : finite.IsRegular) (hsmooth : Pose.SmoothAt pose q)
    (hvelocity : ∀ j, Pose.HasTwistAt (fun t => pose (Function.update q j t)) (twists j) (q j))
    (hunit : (pose q).rotation.IsUnit) (hexact : finite.HasExactOperatorAt (pose q)) (row : Axis) :
    HasFDerivAt (fun x => (finite.error (pose x)).get row)
      (∑ j, ((finite.errorOperator (pose q)).apply (finite.relevantVelocity (twists j))).get row •
        (ContinuousLinearMap.proj j : (Fin n → ℝ) →L[ℝ] ℝ)) q := by
  refine hasFDerivAt_of_partials (smoothAt_error hfinite hunit hexact hsmooth row) fun j => ?_
  have hself : Function.update q j (q j) = q := Function.update_eq_self j q
  have hrate := hasRateAt_error hfinite (by rwa [hself]) (by rwa [hself]) (hvelocity j) row
  rwa [hself] at hrate

section Rows

-- How a row of the residual depends on its row of the error, and the slope of that.
noncomputable def rowHeight (model : ResidualModel ExtendedReal) (row : Axis) (value : ℝ) : ℝ :=
  match model.bounds? with
  | some bounds => (bounds.get row).height value
  | none => if model.rowActive row then value else 0

noncomputable def rowTilt (model : ResidualModel ExtendedReal) (row : Axis) (value : ℝ) : ℝ :=
  match model.bounds? with
  | some bounds => (bounds.get row).tilt value
  | none => if model.rowActive row then 1 else 0

-- A row that sits on an end of its bound is at a corner of the penalty.
def AwayFromEnds (model : ResidualModel ExtendedReal) (error : Vec3 ExtendedReal) : Prop :=
  ∀ bounds ∈ model.bounds?, ∀ row,
    error.get row ≠ (bounds.get row).lower ∧ error.get row ≠ (bounds.get row).upper

theorem hasDerivAt_rowHeight (hbounds : ∀ bounds ∈ model.bounds?, AllowZero bounds) {error : Vec3 ℝ}
    (haway : model.AwayFromEnds error.extend) (row : Axis) :
    HasDerivAt (model.rowHeight row) (model.rowTilt row (error.get row)) (error.get row) := by
  unfold rowHeight rowTilt
  cases hends : model.bounds? with
  | some bounds =>
      obtain ⟨hlower, hupper⟩ := haway bounds hends row
      rw [Vec3.extend_get] at hlower hupper
      exact Bound.hasDerivAt_height (hbounds bounds hends row) hlower.symm hupper.symm
  | none =>
      by_cases hactive : model.rowActive row = true
      · simp only [if_pos hactive]
        exact hasDerivAt_id _
      · simp only [if_neg hactive]
        exact hasDerivAt_const _ _

theorem residual_extend (hbounds : ∀ bounds ∈ model.bounds?, AllowZero bounds) (error : Vec3 ℝ) :
    model.residual error.extend =
      (Vec3.ofAxes fun row => model.rowHeight row (error.get row)).extend := by
  apply Vec3.ext_get
  intro row
  unfold residual rowHeight
  rw [Vec3.extend_get, Vec3.get_ofAxes]
  cases hends : model.bounds? with
  | some bounds =>
      simp only [Vec3.get_zipWith, Vec3.extend_get]
      exact (Bound.penalty_real (hbounds bounds hends row) _).1
  | none =>
      simp only [Vec3.get_ofAxes, Vec3.extend_get]
      by_cases hactive : model.rowActive row = true
      · simp only [if_pos hactive]
      · simp only [if_neg hactive]
        rfl

theorem rowFactor_extend (hbounds : ∀ bounds ∈ model.bounds?, AllowZero bounds) (error : Vec3 ℝ)
    {row : Axis} (hactive : model.rowActive row = true) :
    model.rowFactor error.extend row = real (model.rowTilt row (error.get row)) := by
  unfold rowFactor rowTilt
  cases hends : model.bounds? with
  | some bounds =>
      simp only [Vec3.extend_get]
      exact (Bound.penalty_real (hbounds bounds hends row) _).2
  | none => simp only [if_pos hactive]; rfl

theorem rowTilt_of_inactive {row : Axis} (hinactive : ¬model.rowActive row = true) (value : ℝ) :
    model.rowTilt row value = 0 := by
  cases model with
  | boundedPosition bounds target rotation => exact absurd rfl hinactive
  | equalityPosition mask target rotation => exact if_neg hinactive
  | linearSystemPosition mask start finish rotation => exact if_neg hinactive
  | orientation bounds rotation => exact absurd rfl hinactive

theorem residualJacobian_extend (hbounds : ∀ bounds ∈ model.bounds?, AllowZero bounds) (error : Vec3 ℝ)
    (columns : List (Vec3 ℝ)) :
    model.residualJacobian error.extend (columns.map Vec3.extend) =
      (columns.map fun column => Vec3.ofAxes fun row =>
        model.rowTilt row (error.get row) * column.get row).map Vec3.extend := by
  unfold residualJacobian
  rw [List.map_map, List.map_map]
  apply List.map_congr_left
  intro column _
  apply Vec3.ext_get
  intro row
  simp only [Function.comp_apply, Vec3.get_ofAxes, Vec3.extend_get]
  by_cases hactive : model.rowActive row = true
  · simp only [rowFactor_extend hbounds error hactive, hactive, Bool.not_true, Bool.false_or,
      ExtendedReal.zero_eq, ExtendedReal.beq_real, decide_eq_true_eq, ExtendedReal.mul_real]
    by_cases hzero : model.rowTilt row (error.get row) = 0
    · rw [if_pos hzero, hzero, zero_mul]
    · rw [if_neg hzero, mul_comm]
  · rw [rowTilt_of_inactive hactive]
    simp [hactive]

end Rows

theorem HasGeometry.bounds_allowZero (h : model.HasGeometry finite bounds) :
    ∀ ends ∈ model.bounds?, AllowZero ends := by
  intro ends hends
  rw [h.eq] at hends
  cases finite with
  | boundedPosition _ target rotation => cases hends; exact h.allowZero
  | equalityPosition mask target rotation => cases hends
  | linearSystemPosition mask start finish rotation => cases hends
  | orientation _ rotation => cases hends; exact h.allowZero

end ResidualModel

namespace Constraint

variable {chain : Chain ℝ}

-- A joint vector of numbers.
def positionsOf {n : Nat} (x : Fin n → ℝ) : List ExtendedReal := (List.ofFn x).map real

-- The Jacobian that a fresh scratchpad answers is the derivative of the error that it answers.
def HasErrorJacobianAt {n : Nat} {σ : Type} (constraint : Constraint ExtendedReal σ) (q : Fin n → ℝ) :
    Prop :=
  HasJacobianAt (fun x => (constraint.error (positionsOf x)).answer constraint.group.newScratchpad)
    ((constraint.errorJacobian (positionsOf q)).answer constraint.group.newScratchpad) q

-- The same for the residual.
def HasResidualJacobianAt {n : Nat} {σ : Type} (constraint : Constraint ExtendedReal σ)
    (q : Fin n → ℝ) : Prop :=
  HasJacobianAt (fun x => (constraint.residual (positionsOf x)).answer constraint.group.newScratchpad)
    ((constraint.jacobian (positionsOf q)).answer constraint.group.newScratchpad) q

-- No row of the error sits on an end of its bound.
def AwayFromEnds {σ : Type} (constraint : Constraint ExtendedReal σ) (positions : List ExtendedReal) :
    Prop :=
  ∃ error, (constraint.error positions).answer constraint.group.newScratchpad = .ok error ∧
    constraint.model.AwayFromEnds error

-- The rotation from the link to the target, and its angle.
def HasTurnAt {σ : Type} (constraint : Constraint ExtendedReal σ) (positions : List ExtendedReal)
    (angle : ℝ) : Prop :=
  ∃ (pose : Pose ℝ) (target : Quat ℝ),
    (constraint.pose positions).answer constraint.group.newScratchpad = .ok pose.extend ∧
    constraint.model.targetOrientation = target.extend ∧
    (pose.rotation.toMatrix.transpose * target.toMatrix).angle = angle

section Answers

variable {constraint : Constraint ExtendedReal (Scratchpad ExtendedReal)} {place : LinkIndex}
  (hgroup : constraint.group = chain.extend.jointGroup)
  (hlink : chain.extend.linkIndex? constraint.link = some place)

include hgroup hlink

-- What a fresh scratchpad answers is read from the link at the given joint vector.
theorem answer_fresh {β : Type} {query : Query (Scratchpad ExtendedReal) (ConstraintError ExtendedReal) β}
    {read : LinkIndex → Scratchpad ExtendedReal → β} (x : Fin chain.dof → ℝ)
    (h : Query.ReadsAt chain.extend (positionsOf x) query
      ((constraint.resolve chain.extend (positionsOf x)).map read)) :
    query.answer constraint.group.newScratchpad =
      .ok (read place (Scratchpad.fill chain (List.ofFn x)).extend) := by
  have hlength : (positionsOf x).length = chain.extend.dof := by
    simp [positionsOf]
  have hresolve : constraint.resolve chain.extend (positionsOf x) = .ok place :=
    resolve_eq_ok (by rwa [hgroup]) hlength hlink
  rw [h.answer_eq, hresolve, hgroup, Scratchpad.extend_fill]
  change Except.ok (read place (((Scratchpad.fresh chain.extend.dof).update chain.extend
    (positionsOf x)))) = _
  rw [Scratchpad.update_fresh]
  rfl

end Answers

section Derivative

variable {constraint : Constraint ExtendedReal (Scratchpad ExtendedReal)} {place : LinkIndex}
  {finite : ResidualModel ℝ} {bounds : Vec3 (Bound ExtendedReal)}
  (hgroup : constraint.group = chain.extend.jointGroup)
  (hlink : chain.extend.linkIndex? constraint.link = some place)
  (hgeometry : constraint.model.HasGeometry finite bounds)

include hgroup hlink

theorem answer_pose (x : Fin chain.dof → ℝ) :
    (constraint.pose (positionsOf x)).answer constraint.group.newScratchpad =
      .ok ((Scratchpad.fill chain (List.ofFn x)).linkPose place).extend := by
  rw [answer_fresh hgroup hlink x (readsAt_pose (.of_eq hgroup) _), Scratchpad.extend_linkPose]

include hgeometry

theorem answer_error (x : Fin chain.dof → ℝ) :
    (constraint.error (positionsOf x)).answer constraint.group.newScratchpad =
      .ok (finite.error ((Scratchpad.fill chain (List.ofFn x)).linkPose place)).extend := by
  have hreads := (readsAt_pose (.of_eq hgroup) (positionsOf x)).map constraint.model.error
  refine (answer_fresh hgroup hlink x hreads).trans ?_
  rw [← Scratchpad.extend_linkPose, hgeometry.eq,
    ← ResidualModel.extend_error bounds hgeometry.regular]

theorem answer_residual (x : Fin chain.dof → ℝ) :
    (constraint.residual (positionsOf x)).answer constraint.group.newScratchpad =
      .ok (constraint.model.residual
        (finite.error ((Scratchpad.fill chain (List.ofFn x)).linkPose place)).extend) := by
  have hreads := ((readsAt_pose (.of_eq hgroup) (positionsOf x)).map constraint.model.error).map
    constraint.model.residual
  refine (answer_fresh hgroup hlink x hreads).trans ?_
  rw [← Scratchpad.extend_linkPose]
  congr 2
  rw [hgeometry.eq, ← ResidualModel.extend_error bounds hgeometry.regular]

theorem answer_errorJacobian (x : Fin chain.dof → ℝ) :
    (constraint.errorJacobian (positionsOf x)).answer constraint.group.newScratchpad =
      .ok ((finite.errorJacobian ((Scratchpad.fill chain (List.ofFn x)).linkPose place)
        ((Scratchpad.fill chain (List.ofFn x)).jacobian chain.joints place)).map Vec3.extend) := by
  have hreads := readsAt_poseAndJacobian (.of_eq hgroup) (positionsOf x)
    constraint.model.errorJacobian
  refine (answer_fresh hgroup hlink x hreads).trans ?_
  rw [← Scratchpad.extend_linkPose, hgeometry.eq]
  change Except.ok (ResidualModel.errorJacobian _ _
    ((Scratchpad.fill chain (List.ofFn x)).extend.jacobian (chain.joints.map Joint.extend) place)) = _
  rw [← Scratchpad.extend_jacobian, ← ResidualModel.extend_errorJacobian bounds hgeometry.regular]

theorem answer_jacobian (x : Fin chain.dof → ℝ) :
    (constraint.jacobian (positionsOf x)).answer constraint.group.newScratchpad =
      .ok (constraint.model.residualJacobian
        (finite.error ((Scratchpad.fill chain (List.ofFn x)).linkPose place)).extend
        ((finite.errorJacobian ((Scratchpad.fill chain (List.ofFn x)).linkPose place)
          ((Scratchpad.fill chain (List.ofFn x)).jacobian chain.joints place)).map Vec3.extend)) := by
  have hreads := (readsAt_poseAndJacobian (.of_eq hgroup) (positionsOf x)
    constraint.evaluation).map Residual.jacobian
  refine (answer_fresh hgroup hlink x hreads).trans ?_
  change Except.ok (ResidualModel.residualJacobian _ _ (ResidualModel.errorJacobian _ _
    ((Scratchpad.fill chain (List.ofFn x)).extend.jacobian (chain.joints.map Joint.extend) place))) = _
  rw [← Scratchpad.extend_linkPose, ← Scratchpad.extend_jacobian]
  congr 2
  · rw [hgeometry.eq, ← ResidualModel.extend_error bounds hgeometry.regular]
  · rw [hgeometry.eq, ← ResidualModel.extend_errorJacobian bounds hgeometry.regular]

-- Both Jacobians are derivatives wherever the operator of the error is exact, that of the residual
-- only away from the ends of the bounds.
theorem hasJacobianAt_of_exact (hchain : chain.IsRigid) (q : Fin chain.dof → ℝ)
    (hexact : finite.HasExactOperatorAt ((Scratchpad.fill chain (List.ofFn q)).linkPose place)) :
    constraint.HasErrorJacobianAt q ∧
      (constraint.AwayFromEnds (positionsOf q) → constraint.HasResidualJacobianAt q) := by
  let pose := fun x : Fin chain.dof → ℝ => (Scratchpad.fill chain (List.ofFn x)).linkPose place
  have hplace : chain.HasPlace place := by
    rw [chain.extend_linkIndex?] at hlink
    exact chain.hasPlace_of_linkIndex? hlink
  obtain ⟨twists, htwists, hvelocity⟩ := hchain.exists_twists hplace q
  let slopes := fun j => (finite.errorOperator (pose q)).apply (finite.relevantVelocity (twists j))
  have hcolumns : finite.errorJacobian (pose q)
      ((Scratchpad.fill chain (List.ofFn q)).jacobian chain.joints place) = List.ofFn slopes := by
    rw [htwists, ResidualModel.errorJacobian, List.map_ofFn]
    rfl
  have hderivative := ResidualModel.hasFDerivAt_error hgeometry.regular
    (chain.smoothAt_linkPose place q) hvelocity (hchain.linkPose_isUnit (List.ofFn q) place) hexact
  constructor
  · refine ⟨fun x => finite.error (pose x), slopes, answer_error hgroup hlink hgeometry, ?_,
      hderivative⟩
    rw [answer_errorJacobian hgroup hlink hgeometry, hcolumns]
  · rintro ⟨error, herror, haway⟩
    rw [answer_error hgroup hlink hgeometry] at herror
    cases herror
    have hbounds := hgeometry.bounds_allowZero
    refine ⟨fun x => .ofAxes fun row => constraint.model.rowHeight row ((finite.error (pose x)).get row),
      fun j => .ofAxes fun row =>
        constraint.model.rowTilt row ((finite.error (pose q)).get row) * (slopes j).get row,
      fun x => ?_, ?_, fun row => ?_⟩
    · refine (answer_residual hgroup hlink hgeometry x).trans ?_
      rw [ResidualModel.residual_extend hbounds]
    · rw [answer_jacobian hgroup hlink hgeometry, hcolumns,
        ResidualModel.residualJacobian_extend hbounds]
      congr 2
      rw [List.map_ofFn]
      rfl
    · have hrow := (ResidualModel.hasDerivAt_rowHeight hbounds haway row).comp_hasFDerivAt q
        (hderivative row)
      simp only [Finset.smul_sum, smul_smul] at hrow
      simp only [Vec3.get_ofAxes]
      exact hrow

end Derivative

-- For the position kinds.
theorem jacobian_hasJacobianAt_position (chain : Chain ℝ) (hchain : chain.IsRigid) {kind : Kind}
    (hkind : kind.isPosition = true) {settings : Settings ExtendedReal}
    {description : Description ExtendedReal} (hfinite : description.HasFinitePositions)
    {constraint : Constraint ExtendedReal (Scratchpad ExtendedReal)}
    (hmade : (ofKind kind chain.extend.jointGroup settings description).outcome.1 = .ok constraint)
    (q : Fin chain.dof → ℝ) :
    constraint.HasErrorJacobianAt q ∧
      ((kind = .boundedPosition → constraint.AwayFromEnds (positionsOf q)) →
        constraint.HasResidualJacobianAt q) := by
  obtain ⟨finite, bounds, place, hgroup, hlink, hgeometry, rfl⟩ :=
    exists_geometry hmade fun _ => hfinite
  obtain ⟨herror, hresidual⟩ :=
    hasJacobianAt_of_exact hgroup hlink hgeometry hchain q (Or.inl hkind)
  refine ⟨herror, fun haway => hresidual ?_⟩
  by_cases hbox : finite.kind = .boundedPosition
  · exact haway hbox
  · refine ⟨_, answer_error hgroup hlink hgeometry q, ?_⟩
    intro ends hends
    rw [hgeometry.eq] at hends
    cases finite with
    | boundedPosition _ target rotation => exact absurd rfl hbox
    | equalityPosition mask target rotation => cases hends
    | linearSystemPosition mask start finish rotation => cases hends
    | orientation _ rotation => cases hkind

-- The tool of a resting robot lies outside of the box, on one side of it.
theorem cartesianWrist_box_hasJacobianAt :
    ∃ constraint, (ofKind .boundedPosition (Robots.cartesianWrist : Chain ℝ).extend.jointGroup .standard
        (.boundedBox Robots.toolLink (⟨1, 1, 1⟩ : Vec3 ℝ).extend (⟨2, 0, 0⟩ : Vec3 ℝ).extend)).outcome.1 =
          .ok constraint ∧
      constraint.HasErrorJacobianAt (fun _ : Fin 6 => 0) ∧
      constraint.HasResidualJacobianAt (fun _ : Fin 6 => 0) := by
  have hunit := Quat.isUnit_identity
  have hextents : ∀ axis, 0 ≤ (⟨1, 1, 1⟩ : Vec3 ℝ).get axis := by
    rintro (_ | _ | _) <;> exact zero_le_one
  have hmade := ofKind_boundedPosition Settings.validate_standard
    (rfl : (Robots.cartesianWrist : Chain ℝ).extend.jointGroup.hasLink Robots.toolLink = true)
    hextents (by rw [hunit]; norm_num : (1e-12 : ℝ) ≤ Quat.identity.norm)
    (rfl : (Description.boundedBox Robots.toolLink (⟨1, 1, 1⟩ : Vec3 ℝ).extend
      (⟨2, 0, 0⟩ : Vec3 ℝ).extend).positions = _)
  have hfinite : (Description.boundedBox Robots.toolLink (⟨1, 1, 1⟩ : Vec3 ℝ).extend
      (⟨2, 0, 0⟩ : Vec3 ℝ).extend).HasFinitePositions := by
    intro entry hentry placement hplacement
    rw [List.mem_singleton.mp hentry] at hplacement
    rw [List.mem_singleton.mp hplacement]
    exact ⟨_, rfl⟩
  obtain ⟨herror, hresidual⟩ := jacobian_hasJacobianAt_position Robots.cartesianWrist
    Robots.cartesianWrist_isRigid rfl hfinite hmade fun _ => 0
  refine ⟨_, hmade, herror, hresidual fun _ => ?_⟩
  have hgeometry := ResidualModel.hasGeometry_box hextents ⟨2, 0, 0⟩ (Quat.normalize_isUnit
    (by rw [hunit]; exact one_ne_zero : (Quat.identity : Quat ℝ).norm ≠ 0))
  refine ⟨_, answer_error rfl rfl hgeometry _, ?_⟩
  rw [Robots.cartesianWrist_linkPose_rest]
  intro ends hends
  cases hends
  intro row
  have hoffset : (Quat.identity : Quat ℝ).conjugate.rotate
      (Pose.identity.translation - (⟨2, 0, 0⟩ : Vec3 ℝ)) = ⟨-2, 0, 0⟩ := by
    ext <;> simp [Quat.rotate, Quat.conjugate, Quat.identity, Quat.imaginary, Pose.identity]
  simp only [ResidualModel.error, ResidualModel.inFrame, hunit.normalize_eq, hoffset, Vec3.extend_get,
    Vec3.get_map, ne_eq, ExtendedReal.real.injEq]
  cases row <;> norm_num

-- For orientations, at the turns for which the operator is exact.
theorem jacobian_hasJacobianAt_orientation (chain : Chain ℝ) (hchain : chain.IsRigid)
    {settings : Settings ExtendedReal} {description : Description ExtendedReal}
    {constraint : Constraint ExtendedReal (Scratchpad ExtendedReal)}
    (hmade : (ofKind .orientation chain.extend.jointGroup settings description).outcome.1 =
      .ok constraint)
    (q : Fin chain.dof → ℝ) {angle : ℝ} (hturn : constraint.HasTurnAt (positionsOf q) angle)
    (hangle : angle = 0 ∨ 1 / 100 ≤ angle ∧ angle < Real.pi) :
    constraint.HasErrorJacobianAt q ∧
      (constraint.AwayFromEnds (positionsOf q) → constraint.HasResidualJacobianAt q) := by
  obtain ⟨finite, bounds, place, hgroup, hlink, hgeometry, hkind⟩ :=
    exists_geometry hmade fun h => by cases h
  refine hasJacobianAt_of_exact hgroup hlink hgeometry hchain q (Or.inr ?_)
  obtain ⟨pose, target, hpose, htarget, rfl⟩ := hturn
  rw [answer_pose hgroup hlink, Except.ok.injEq] at hpose
  rw [hgeometry.eq] at htarget
  cases finite with
  | boundedPosition _ target rotation => cases hkind
  | equalityPosition mask target rotation => cases hkind
  | linearSystemPosition mask start finish rotation => cases hkind
  | orientation _ rotation =>
      obtain rfl := Quat.extend_injective htarget
      have hrotation := Quat.extend_injective (congrArg Pose.rotation hpose)
      have hsmall : (smallAngle : ℝ) = 1 / 100 := by norm_num [smallAngle]
      rw [hsmall, ResidualModel.angleTo, hrotation]
      exact hangle

-- The tool of a resting robot still has to make a turn, further than the tolerance about its axis.
theorem cartesianWrist_orientation_hasJacobianAt :
    ∃ constraint, (ofKind .orientation (Robots.cartesianWrist : Chain ℝ).extend.jointGroup .standard
        (.orientation Robots.toolLink (Quat.ofAxisAngle (⟨0, 0, 1⟩ : Vec3 ℝ) 1).extend
          (⟨1 / 2, 1 / 2, 1 / 2⟩ : Vec3 ℝ).extend)).outcome.1 = .ok constraint ∧
      constraint.HasTurnAt (positionsOf fun _ : Fin 6 => 0) 1 ∧
      constraint.HasErrorJacobianAt (fun _ : Fin 6 => 0) ∧
      constraint.HasResidualJacobianAt (fun _ : Fin 6 => 0) := by
  have haxis : (⟨0, 0, 1⟩ : Vec3 ℝ).IsUnit := by
    rw [Vec3.isUnit_iff]
    simp [Vec3.dot_eq]
  have hpi : |(1 : ℝ)| < Real.pi := by
    rw [abs_one]
    linarith [Real.two_le_pi]
  have hunit := Quat.isUnit_ofAxisAngle haxis 1
  have htolerances : ∀ axis, 0 ≤ (⟨1 / 2, 1 / 2, 1 / 2⟩ : Vec3 ℝ).get axis := by
    rintro (_ | _ | _) <;> exact one_half_pos.le
  have hmade := ofKind_orientation Settings.validate_standard
    (rfl : (Robots.cartesianWrist : Chain ℝ).extend.jointGroup.hasLink Robots.toolLink = true)
    htolerances (by rw [hunit]; norm_num :
      (1e-12 : ℝ) ≤ (Quat.ofAxisAngle (⟨0, 0, 1⟩ : Vec3 ℝ) 1).norm)
    (rfl : (Description.orientation Robots.toolLink (Quat.ofAxisAngle (⟨0, 0, 1⟩ : Vec3 ℝ) 1).extend
      (⟨1 / 2, 1 / 2, 1 / 2⟩ : Vec3 ℝ).extend).orientations = _)
  rw [hunit.normalize_eq] at hmade
  obtain ⟨constraint, hmade, hgroup, hlink, hgeometry⟩ :
      ∃ constraint : Constraint ExtendedReal (Scratchpad ExtendedReal), _ = Except.ok constraint ∧
        constraint.group = (Robots.cartesianWrist : Chain ℝ).extend.jointGroup ∧
        (Robots.cartesianWrist : Chain ℝ).extend.linkIndex? constraint.link = some .tip ∧
        constraint.model.HasGeometry (.orientation _ _) _ :=
    ⟨_, hmade, rfl, rfl, ResidualModel.hasGeometry_orientation htolerances hunit⟩
  have hconjugate : (Pose.identity : Pose ℝ).rotation.conjugate = .identity :=
    Quat.conjugate_identity
  have hturn : constraint.HasTurnAt (positionsOf fun _ : Fin 6 => 0) 1 := by
    refine ⟨.identity, Quat.ofAxisAngle ⟨0, 0, 1⟩ 1, ?_, by rw [hgeometry.eq]; rfl, ?_⟩
    · exact (answer_pose hgroup hlink _).trans
        (congrArg (fun pose => Except.ok pose.extend) Robots.cartesianWrist_linkPose_rest)
    · rw [← Quat.toMatrix_conjugate, ← Quat.toMatrix_mul, hconjugate, Quat.identity_mul,
        Quat.angle_toMatrix_ofAxisAngle haxis hpi.le, abs_one]
  obtain ⟨herror, hresidual⟩ := jacobian_hasJacobianAt_orientation Robots.cartesianWrist
    Robots.cartesianWrist_isRigid hmade (fun _ => 0) hturn (Or.inr ⟨by norm_num, (abs_lt.mp hpi).2⟩)
  refine ⟨_, hmade, hturn, herror, hresidual ⟨_, answer_error hgroup hlink hgeometry _, ?_⟩⟩
  rw [Robots.cartesianWrist_linkPose_rest, hgeometry.eq]
  intro ends hends
  cases hends
  intro row
  have hcoordinates : (Pose.identity.rotation.conjugate *
      Quat.ofAxisAngle (⟨0, 0, 1⟩ : Vec3 ℝ) 1).rotationLog = (⟨0, 0, 1⟩ : Vec3 ℝ).scale 1 := by
    rw [hconjugate, Quat.identity_mul, Quat.rotationLog_ofAxisAngle haxis hpi]
  simp only [ResidualModel.error, ResidualModel.remainingTurn, hcoordinates, Vec3.scale,
    Vec3.extend_get, Vec3.get_map, ne_eq, ExtendedReal.real.injEq]
  cases row <;> norm_num

end Constraint

end TaskSpace.Constraints
