import Mathlib
import TaskSpace.Proofs.Constraints.Lines
import TaskSpace.Proofs.Constraints.Reading
import TaskSpace.Proofs.Constraints.Targets
import TaskSpace.Proofs.Kinematics.Divisors

namespace TaskSpace.Constraints

open Rigid Kinematics
open ExtendedReal (real dividingOr divideOr divideOr_eq divideOr_real)

variable (byZero : ExtendedReal → ExtendedReal)

section Making

-- Only an orientation whose norm is not too small is divided by it.
theorem unitRotation_dividingOr (orientation : Quat ExtendedReal) :
    @unitRotation ExtendedReal (dividingOr byZero) orientation = unitRotation orientation := by
  unfold unitRotation
  by_cases hrefused : (!ExtendedScalar.isFinite orientation.norm || decide (orientation.norm < 1e-12)) = true
  · exact (if_pos hrefused).trans (if_pos hrefused).symm
  · refine (if_neg hrefused).trans (Eq.trans ?_ (if_neg hrefused).symm)
    have hne : orientation.norm ≠ real 0 := by
      intro h
      rw [h] at hrefused
      refine hrefused ?_
      simp
      norm_num
    exact congrArg Except.ok (Quat.normalize_dividingOr byZero hne)

theorem PositionEntry.bounds_dividingOr (entry : PositionEntry ExtendedReal) :
    @bounds ExtendedReal (dividingOr byZero) entry = entry.bounds := by
  have htwo : (2.0 : ℝ) ≠ 0 := by norm_num
  have hhalf : ∀ a, divideOr byZero a (real 2.0) = a / 2.0 := divideOr_real byZero htwo
  unfold bounds
  refine congrArg (entry.boxExtents >>= ·) (funext fun extents => ?_)
  refine congrArg Vec3.ofAxesM (funext fun axis => ?_)
  exact congrArg liftM (congrArg₂ (@Bound.make ExtendedReal (dividingOr byZero)) (hhalf _) (hhalf _))

namespace ResidualModel

theorem firstPlacement_dividingOr (entry : PositionEntry ExtendedReal) :
    @firstPlacement ExtendedReal (dividingOr byZero) entry = firstPlacement entry := by
  unfold firstPlacement Placement.rotation
  simp only [unitRotation_dividingOr]

theorem ofDescription_dividingOr (kind : Kind) (settings : Settings ExtendedReal)
    (description : Description ExtendedReal) :
    @ofDescription ExtendedReal (dividingOr byZero) kind settings description =
      ofDescription kind settings description := by
  unfold ofDescription ofBox ofThinBox ofLine ofOrientation OrientationEntry.rotation
  simp only [PositionEntry.bounds_dividingOr, firstPlacement_dividingOr, unitRotation_dividingOr]
  rfl

end ResidualModel

theorem Constraint.ofKind_dividingOr {σ : Type} (kind : Kind) (group : JointGroup ExtendedReal σ)
    (settings : Settings ExtendedReal) (description : Description ExtendedReal) :
    @ofKind ExtendedReal σ (dividingOr byZero) kind group settings description =
      ofKind kind group settings description := by
  unfold ofKind
  rw [ResidualModel.ofDescription_dividingOr]
  rfl

end Making

section Evaluating

namespace ResidualModel

variable {start finish : Vec3 ℝ} {rotation : Quat ℝ}

theorem lineDirection_dividingOr (hrotation : rotation.IsUnit) (hne : start ≠ finish) :
    @lineDirection ExtendedReal (dividingOr byZero).toScalar start.extend finish.extend rotation.extend =
      lineDirection start.extend finish.extend rotation.extend := by
  have hnorm : (inFrame rotation.extend (finish.extend - start.extend)).norm ≠ real 0 := by
    rw [← Vec3.extend_sub, ← extend_inFrame, Vec3.extend_norm]
    exact fun h => inFrame_norm_ne_zero hrotation hne (real.inj h)
  exact Vec3.normalize_dividingOr byZero hnorm

variable {finite : ResidualModel ℝ} (hmodel : finite.IsRegular) (bounds : Vec3 (Bound ExtendedReal))
  (pose : Pose ℝ)

include hmodel

theorem error_dividingOr :
    @error ExtendedReal (dividingOr byZero).toScalar (finite.extend bounds) pose.extend =
      (finite.extend bounds).error pose.extend := by
  cases finite with
  | boundedPosition => rfl
  | equalityPosition => rfl
  | linearSystemPosition mask start finish rotation =>
      exact congrArg (·.cross (inFrame rotation.extend (pose.extend.translation - start.extend)))
        (lineDirection_dividingOr byZero hmodel.1 hmodel.2)
  | orientation _ rotation => exact Quat.rotationLog_dividingOr byZero _

theorem errorOperator_dividingOr :
    @errorOperator ExtendedReal (dividingOr byZero).toScalar (finite.extend bounds) pose.extend =
      (finite.extend bounds).errorOperator pose.extend := by
  cases finite with
  | boundedPosition => rfl
  | equalityPosition => rfl
  | linearSystemPosition mask start finish rotation =>
      exact congrArg (fun direction => Mat3.skew direction * rotation.extend.toMatrix.transpose)
        (lineDirection_dividingOr byZero hmodel.1 hmodel.2)
  | orientation _ rotation =>
      exact congrArg (fun operator : Mat3 ExtendedReal =>
        -(operator * pose.extend.rotation.toMatrix.transpose))
        (Quat.logRate_dividingOr byZero (remainingTurn pose rotation))

end ResidualModel

namespace Constraint

variable {finite : ResidualModel ℝ} {bounds : Vec3 (Bound ExtendedReal)}

theorem reply_dividingOr {σ : Type} {constraint : Constraint ExtendedReal σ}
    (hgeometry : constraint.model.HasGeometry finite bounds) (pose : Pose ℝ)
    (twists : List (Twist ExtendedReal)) (method : Method) :
    @reply ExtendedReal σ (dividingOr byZero).toScalar constraint pose.extend twists method =
      constraint.reply pose.extend twists method := by
  have herror := ResidualModel.error_dividingOr byZero hgeometry.regular bounds pose
  have hoperator := ResidualModel.errorOperator_dividingOr byZero hgeometry.regular bounds pose
  have herrorJacobian :
      @ResidualModel.errorJacobian ExtendedReal (dividingOr byZero).toScalar (finite.extend bounds)
        pose.extend twists = (finite.extend bounds).errorJacobian pose.extend twists :=
    congrArg (fun operator : Mat3 ExtendedReal =>
      twists.map fun twist => operator.apply ((finite.extend bounds).relevantVelocity twist)) hoperator
  cases method <;> simp only [reply, evaluation, hgeometry.eq, herror, herrorJacobian] <;> rfl

-- From a scratchpad that no other chain has used.
theorem ask_dividingOr {chain : Chain ℝ}
    {constraint : Constraint ExtendedReal (Scratchpad ExtendedReal)}
    (hgroup : constraint.group = chain.extend.jointGroup)
    (hgeometry : constraint.model.HasGeometry finite bounds) (positions : List ℝ)
    {pad : Scratchpad ExtendedReal} (hpad : pad.Remembers chain.extend) (method : Method) :
    (@ask ExtendedReal (Scratchpad ExtendedReal) (dividingOr byZero).toScalar constraint
        (positions.map real) method).exec pad =
      (constraint.ask (positions.map real) method).exec pad := by
  have hreads := readsAt_ask (AnswersAs.of_eq hgroup) (positions.map real) method pad
  have hgroup' := hgroup.trans (chain.extend.jointGroup_dividingOr byZero).symm
  have hreads' := @readsAt_ask ExtendedReal (dividingOr byZero).toScalar chain.extend constraint
    (@AnswersAs.of_eq ExtendedReal (dividingOr byZero).toScalar chain.extend constraint.group hgroup')
    (positions.map real) method pad
  rw [hreads, hreads']
  cases constraint.resolve chain.extend (positions.map real) with
  | error error => rfl
  | ok place =>
      have hfill : pad.update chain.extend (positions.map real) =
          (Scratchpad.fill chain positions).extend := by
        rw [Scratchpad.extend_fill]
        exact Scratchpad.update_eq_fill _ _ (fun _ _ => ExtendedReal.eq_of_beq) fun _ => hpad
      simp only [Except.map, Scratchpad.update_dividingOr, hfill]
      have hreply := reply_dividingOr byZero hgeometry ((Scratchpad.fill chain positions).linkPose place)
        ((Scratchpad.fill chain positions).extend.jacobian chain.extend.joints place) method
      rw [Scratchpad.extend_linkPose] at hreply
      exact Prod.ext (congrArg Except.ok hreply) rfl

end Constraint

end Evaluating

-- The orientation that a description gives for a kind: that of the first placement of the first entry, or
-- the target orientation itself.
def Description.givenOrientation? {α : Type} (description : Description α) : Kind → Option (Quat α)
  | .orientation => description.orientations.head?.map OrientationEntry.orientation
  | _ => (description.positions.head?.bind fun entry => entry.region.placements.head?).map
    Placement.orientation

theorem exists_norm_of_unitRotation {orientation rotation : Quat ExtendedReal}
    (h : unitRotation orientation = .ok rotation) :
    ∃ q : Quat ℝ, orientation = q.extend ∧ 1e-12 ≤ q.norm ∧ rotation = q.normalize.extend := by
  obtain ⟨q, rfl, hne, rfl⟩ := exists_of_unitRotation h
  refine ⟨q, rfl, ?_, rfl⟩
  by_contra hshort
  have hrefused : (!ExtendedScalar.isFinite q.extend.norm || decide (q.extend.norm < 1e-12)) = true := by
    rw [Quat.extend_norm, ExtendedReal.ofScientific_eq, Bool.or_eq_true, decide_eq_true_eq]
    exact Or.inr (not_le.mp hshort)
  rw [unitRotation, if_pos hrefused] at h
  cases h

namespace ResidualModel.ReadFrom

variable {settings : Settings ExtendedReal} {description : Description ExtendedReal} {kind : Kind}
  {link : String} {model : ResidualModel ExtendedReal}

theorem exists_givenOrientation (h : ReadFrom settings description kind link model) :
    ∃ orientation : Quat ℝ, description.givenOrientation? kind = some orientation.extend ∧
      1e-12 ≤ orientation.norm ∧ model.targetOrientation = orientation.normalize.extend := by
  have hplaced : ∀ {entry : PositionEntry ExtendedReal} {target : Vec3 ExtendedReal}
      {rotation : Quat ExtendedReal}, description.positions.head? = some entry →
      firstPlacement entry = .ok (target, rotation) → ∃ orientation : Quat ℝ,
        (description.positions.head?.bind fun entry => entry.region.placements.head?).map
          Placement.orientation = some orientation.extend ∧
        1e-12 ≤ orientation.norm ∧ rotation = orientation.normalize.extend := by
    intro entry target rotation hentry hplacement
    obtain ⟨placement, others, hplacements, _, hrotation⟩ := exists_placement hplacement
    obtain ⟨orientation, horientation, hnorm, rfl⟩ := exists_norm_of_unitRotation hrotation
    refine ⟨orientation, ?_, hnorm, rfl⟩
    rw [hentry, Option.bind_some, hplacements, ← horientation]
    rfl
  cases h with
  | box hentry _ _ hplacement => exact hplaced hentry hplacement
  | thinBox hentry _ _ hplacement => exact hplaced hentry hplacement
  | line hentry _ _ hplacement => exact hplaced hentry hplacement
  | orientation hentry _ hrotation =>
      obtain ⟨orientation, horientation, hnorm, rfl⟩ := exists_norm_of_unitRotation hrotation
      refine ⟨orientation, ?_, hnorm, rfl⟩
      rw [Description.givenOrientation?, hentry, Option.map_some, horientation]

-- The points of a line are as far apart in every frame as they are in that of the base.
theorem tolerance_le_norm (h : ReadFrom settings description kind link model)
    (hvalid : settings.validate = .ok ()) (hfinite : kind.isPosition = true → description.HasFinitePositions)
    {start finish : Vec3 ExtendedReal} (hline : model.line? = some (start, finish)) {rotation : Quat ℝ}
    (hrotation : rotation.IsUnit) :
    settings.tolerance ≤ (inFrame rotation.extend (finish - start)).norm := by
  have hfar := h.line_not_short hline
  obtain ⟨finite, bounds, hgeometry, hkind⟩ := h.exists_geometry hvalid hfinite
  obtain ⟨tolerance, _, htolerance⟩ := settings.exists_tolerance hvalid
  rw [hgeometry.eq] at hline
  cases finite with
  | linearSystemPosition mask first last target =>
      cases hline
      rw [htolerance, ← Vec3.extend_sub, Vec3.extend_norm, ExtendedReal.lt_real, not_lt] at hfar
      rw [htolerance, ← Vec3.extend_sub, ← extend_inFrame, Vec3.extend_norm, inFrame,
        hrotation.conjugate.norm_rotate, ExtendedReal.le_real]
      exact hfar
  | boundedPosition => cases hline
  | equalityPosition => cases hline
  | orientation => cases hline

end ResidualModel.ReadFrom

namespace Constraint

-- What keeps every divisor away from zero that a constraint on a link of a chain meets, when it is made
-- from an orientation and when it is evaluated: the divisors themselves, and that no answer is one that
-- rests on a division by zero.
structure DividesSafely (constraint : Constraint ExtendedReal (Scratchpad ExtendedReal)) (chain : Chain ℝ)
    (orientation : Quat ℝ) : Prop where
  norm_orientation : 1e-12 ≤ orientation.norm
  targetOrientation : constraint.model.targetOrientation = orientation.normalize.extend
  tolerance : ∃ tolerance : ℝ, 0 < tolerance ∧ constraint.settings.tolerance = real tolerance
  line : ∀ start finish, constraint.model.line? = some (start, finish) →
    ∀ rotation : Quat ℝ, rotation.IsUnit →
      constraint.settings.tolerance ≤ (ResidualModel.inFrame rotation.extend (finish - start)).norm
  angle : ∀ (pose : Pose ℝ) angle axis,
    (ResidualModel.remainingTurn pose orientation.normalize).angleAxis = (angle, some axis) →
      (ResidualModel.remainingTurn pose orientation.normalize).HasSafeAngle angle
  jointGroup : ∀ byZero,
    @Chain.jointGroup ExtendedReal (dividingOr byZero).toScalar chain.extend = chain.extend.jointGroup
  ask : ∀ byZero (positions : List ℝ) (pad : Scratchpad ExtendedReal) method, pad.Remembers chain.extend →
    (@Constraint.ask ExtendedReal (Scratchpad ExtendedReal) (dividingOr byZero).toScalar constraint
        (positions.map real) method).exec pad =
      (constraint.ask (positions.map real) method).exec pad

-- No division by zero is reachable: neither when a description is read, nor at any joint vector.
theorem ofKind_dividesSafely {chain : Chain ℝ} {kind : Kind} {settings : Settings ExtendedReal}
    {description : Description ExtendedReal}
    {constraint : Constraint ExtendedReal (Scratchpad ExtendedReal)}
    (hfinite : kind.isPosition = true → description.HasFinitePositions)
    (hmade : (ofKind kind chain.extend.jointGroup settings description).outcome.1 = .ok constraint) :
    (∀ byZero,
      @ofKind ExtendedReal _ (dividingOr byZero) kind chain.extend.jointGroup settings description =
        ofKind kind chain.extend.jointGroup settings description) ∧
      ∃ orientation : Quat ℝ, description.givenOrientation? kind = some orientation.extend ∧
        constraint.DividesSafely chain orientation := by
  refine ⟨fun byZero => ofKind_dividingOr byZero _ _ _ _, ?_⟩
  obtain ⟨finite, bounds, place, hgroup, _, hgeometry, _⟩ := exists_geometry hmade hfinite
  obtain ⟨hvalid, hread⟩ := readFrom_of_ofKind hmade
  obtain ⟨link, model, _, rfl, _⟩ := exists_of_ofKind hmade
  obtain ⟨orientation, hgiven, hnorm, htarget⟩ := hread.exists_givenOrientation
  exact ⟨orientation, hgiven,
    { norm_orientation := hnorm
      targetOrientation := htarget
      tolerance := settings.exists_tolerance hvalid
      line := fun _ _ hline _ hrotation => hread.tolerance_le_norm hvalid hfinite hline hrotation
      angle := fun _ _ _ h => Quat.hasSafeAngle h
      jointGroup := fun byZero => Chain.jointGroup_dividingOr byZero _
      ask := fun byZero positions _ method hpad =>
        ask_dividingOr byZero hgroup hgeometry positions hpad method }⟩

-- A line in the frame of a quarter turn, whose quaternion has not length one.
theorem cartesianWrist_crossingLine_dividesSafely :
    ∃ constraint, (ofKind .linearSystemPosition (Robots.cartesianWrist : Chain ℝ).extend.jointGroup
        .standard crossingLine).outcome.1 = .ok constraint ∧
      ∃ orientation, constraint.DividesSafely Robots.cartesianWrist orientation := by
  have hmade := ofKind_linearSystemPosition Settings.validate_standard
    (rfl : (Robots.cartesianWrist : Chain ℝ).extend.jointGroup.hasLink Robots.toolLink = true)
    equalityMask_sample sampleTurn_norm.1 crossingLine_far (rfl : crossingLine.positions = _)
  obtain ⟨_, orientation, _, hsafe⟩ := ofKind_dividesSafely
    (fun _ => Description.hasFinitePositions_line _ _ _ _ _) hmade
  exact ⟨_, hmade, orientation, hsafe⟩

end Constraint

end TaskSpace.Constraints
