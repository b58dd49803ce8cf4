import Mathlib
import TaskSpace.Proofs.Constraints.Answers
import TaskSpace.Proofs.Kinematics.Locality

namespace TaskSpace.Constraints

open Rigid Kinematics
open ExtendedReal (real)

namespace ResidualModel

variable {model : ResidualModel ℝ} {pose pose' : Pose ℝ} {twists twists' : List (Twist ℝ)} {j : Nat}

-- Of the velocities only the part that moves the error counts.
theorem errorJacobian_eq (model : ResidualModel ℝ) (pose : Pose ℝ) (twists : List (Twist ℝ)) :
    model.errorJacobian pose twists =
      (twists.map model.relevantVelocity).map (model.errorOperator pose).apply := by
  simp only [errorJacobian, List.map_map]
  rfl

theorem apply_errorOperator_zero (model : ResidualModel ℝ) (pose : Pose ℝ) :
    (model.errorOperator pose).apply .zero = .zero := by
  ext <;> simp [Mat3.apply, Vec3.dot_eq]

theorem errorJacobian_getElem?_eq_zero (pose : Pose ℝ)
    (h : (twists.map model.relevantVelocity)[j]? = some .zero) :
    (model.errorJacobian pose twists)[j]? = some .zero := by
  rw [errorJacobian_eq, List.getElem?_map, h, Option.map_some, apply_errorOperator_zero]

section Rows

variable {model : ResidualModel ExtendedReal} (hbounds : ∀ bounds ∈ model.bounds?, AllowZero bounds)
  {columns : List (Vec3 ℝ)} (error : Vec3 ℝ)

include hbounds

-- Where no velocity moves the error, no row of the residual moves either.
theorem exists_residualJacobian_extend : ∃ f : Vec3 ℝ → Vec3 ℝ, f .zero = .zero ∧
    ∀ columns : List (Vec3 ℝ), model.residualJacobian error.extend (columns.map Vec3.extend) =
      (columns.map f).map Vec3.extend := by
  refine ⟨_, ?_, residualJacobian_extend hbounds error⟩
  ext <;> simp

theorem residualJacobian_getElem?_eq_zero (h : columns[j]? = some .zero) :
    (model.residualJacobian error.extend (columns.map Vec3.extend))[j]? = some .zero := by
  obtain ⟨f, hzero, hcolumns⟩ := exists_residualJacobian_extend hbounds error
  rw [hcolumns, List.getElem?_map, List.getElem?_map, h, Option.map_some, hzero]
  rfl

theorem residualJacobian_replicate (count : Nat) :
    model.residualJacobian error.extend ((List.replicate count Vec3.zero).map Vec3.extend) =
      List.replicate count .zero := by
  obtain ⟨f, hzero, hcolumns⟩ := exists_residualJacobian_extend hbounds error
  rw [hcolumns, List.map_replicate, List.map_replicate, hzero]
  rfl

end Rows

-- An orientation only sees how a link is turned.
theorem orientation_congr (bounds : Vec3 (Bound ℝ)) (rotation : Quat ℝ)
    (hrotation : pose'.rotation = pose.rotation)
    (hangular : twists'.map Twist.angular = twists.map Twist.angular) :
    (orientation bounds rotation).error pose' = (orientation bounds rotation).error pose ∧
      (orientation bounds rotation).errorJacobian pose' twists' =
        (orientation bounds rotation).errorJacobian pose twists := by
  have hturn : remainingTurn pose' rotation = remainingTurn pose rotation := by
    rw [remainingTurn, hrotation, remainingTurn]
  have hoperator : (orientation bounds rotation).errorOperator pose' =
      (orientation bounds rotation).errorOperator pose := by
    simp only [errorOperator, hturn, hrotation]
  refine ⟨congrArg Quat.rotationLog hturn, ?_⟩
  rw [errorJacobian_eq, errorJacobian_eq, hoperator]
  exact congrArg (List.map _) hangular

end ResidualModel

namespace Constraint

variable {constraint : Constraint ExtendedReal (Scratchpad ExtendedReal)} {chain : Chain ℝ}

-- A joint that no evaluation notices: it is behind the link, or it only shifts a link whose turn is all
-- that counts.
def Ignores (constraint : Constraint ExtendedReal (Scratchpad ExtendedReal)) (chain : Chain ℝ)
    (j : Fin chain.dof) : Prop :=
  (∃ place, chain.linkIndex? constraint.link = some place ∧ place.IsBefore j) ∨
    constraint.kind = .orientation ∧ chain.joints[j].kind = .prismatic

-- The column of a joint in both Jacobians.
def HasZeroColumnAt {σ : Type} (constraint : Constraint ExtendedReal σ) (positions : List ExtendedReal)
    (j : Nat) : Prop :=
  (∃ columns, (constraint.errorJacobian positions).answer constraint.group.newScratchpad = .ok columns ∧
      columns[j]? = some .zero) ∧
    ∃ columns, (constraint.jacobian positions).answer constraint.group.newScratchpad = .ok columns ∧
      columns[j]? = some .zero

section Columns

variable {place : LinkIndex} {finite : ResidualModel ℝ} {bounds : Vec3 (Bound ExtendedReal)}
  (hgeometry : constraint.model.HasGeometry finite bounds)

include hgeometry

theorem hasZeroColumnAt (hgroup : constraint.group = chain.extend.jointGroup)
    (hlink : chain.extend.linkIndex? constraint.link = some place) (q : Fin chain.dof → ℝ) {j : Nat}
    (hvelocity : (((Scratchpad.fill chain (List.ofFn q)).jacobian chain.joints place).map
      finite.relevantVelocity)[j]? = some .zero) : constraint.HasZeroColumnAt (positionsOf q) j := by
  have hcolumn := ResidualModel.errorJacobian_getElem?_eq_zero
    ((Scratchpad.fill chain (List.ofFn q)).linkPose place) hvelocity
  refine ⟨⟨_, answer_errorJacobian hgroup hlink hgeometry q, ?_⟩,
    ⟨_, answer_jacobian hgroup hlink hgeometry q, ?_⟩⟩
  · rw [List.getElem?_map, hcolumn]
    rfl
  · exact ResidualModel.residualJacobian_getElem?_eq_zero hgeometry.bounds_allowZero _ hcolumn

variable (hplace : chain.linkIndex? constraint.link = some place) {q q' : Fin chain.dof → ℝ}

-- Positions that agree on all revolute joints are the same to an orientation.
theorem replyAt_eq_of_keepsTurn (hkind : constraint.kind = .orientation)
    (hkeeps : ∀ j, Joint.KeepsTurn chain.joints[j] (q j) (q' j)) (method : Method) :
    constraint.replyAt chain (List.ofFn q') place method =
      constraint.replyAt chain (List.ofFn q) place method := by
  obtain ⟨hrotation, hangular⟩ := turns_eq hkeeps place
  rw [kind, hgeometry.eq, ResidualModel.extend_kind] at hkind
  cases finite with
  | boundedPosition _ target rotation => cases hkind
  | equalityPosition mask target rotation => cases hkind
  | linearSystemPosition mask start finish rotation => cases hkind
  | orientation ends rotation =>
      obtain ⟨herror, hcolumns⟩ := ResidualModel.orientation_congr ends rotation hrotation hangular
      exact replyAt_congr hgeometry hgeometry rfl ⟨rfl, rfl⟩ herror hcolumns method

omit hgeometry in
theorem relevantVelocity_eq (hgeometry : constraint.model.HasGeometry finite bounds)
    (hkind : constraint.kind = .orientation) : finite.relevantVelocity = Twist.angular := by
  rw [kind, hgeometry.eq, ResidualModel.extend_kind] at hkind
  funext twist
  rw [ResidualModel.relevantVelocity, hkind]
  rfl

include hplace

theorem Ignores.replyAt_eq {j : Fin chain.dof} (h : constraint.Ignores chain j)
    (hsame : ∀ i, i ≠ j → q' i = q i) (method : Method) :
    constraint.replyAt chain (List.ofFn q') place method =
      constraint.replyAt chain (List.ofFn q) place method := by
  rcases h with ⟨other, hother, hbefore⟩ | ⟨hkind, hprismatic⟩
  · rw [hplace, Option.some.injEq] at hother
    subst hother
    have htake : (List.ofFn q').take j = (List.ofFn q).take j :=
      take_ofFn_congr fun i hi => hsame i (Fin.ne_of_lt hi)
    obtain ⟨hpose, htwists⟩ := hbefore.fill_eq chain htake
    exact replyAt_congr hgeometry hgeometry rfl ⟨rfl, rfl⟩ (by rw [hpose]) (by rw [hpose, htwists]) method
  · refine replyAt_eq_of_keepsTurn hgeometry hkind (fun i hrevolute => hsame i ?_) method
    rintro rfl
    rw [hprismatic] at hrevolute
    cases hrevolute

theorem Ignores.velocity_eq_zero {j : Fin chain.dof} (h : constraint.Ignores chain j) :
    (((Scratchpad.fill chain (List.ofFn q)).jacobian chain.joints place).map
      finite.relevantVelocity)[(j : Nat)]? = some .zero := by
  rcases h with ⟨other, hother, hbefore⟩ | ⟨hkind, hprismatic⟩
  · rw [hplace, Option.some.injEq] at hother
    subst hother
    rw [List.getElem?_map, hbefore.twist_eq_zero List.length_ofFn j.isLt]
    cases finite <;> rfl
  · rw [relevantVelocity_eq hgeometry hkind]
    exact angular_eq_zero place List.length_ofFn j.isLt hprismatic

end Columns

-- A joint that a constraint ignores changes no answer, and its columns are zero.
structure IsLocalAt (constraint : Constraint ExtendedReal (Scratchpad ExtendedReal)) {n : Nat}
    (q q' : Fin n → ℝ) (j : Fin n) : Prop where
  answers : ∀ method,
    constraint.freshAnswer (positionsOf q') method = constraint.freshAnswer (positionsOf q) method
  column : constraint.HasZeroColumnAt (positionsOf q) j
  column' : constraint.HasZeroColumnAt (positionsOf q') j

-- What no joint can turn is constant, as far as its orientation counts.
structure IsConstant (constraint : Constraint ExtendedReal (Scratchpad ExtendedReal)) (n : Nat) : Prop where
  residual : ∀ q q' : Fin n → ℝ,
    constraint.freshAnswer (positionsOf q') .residual = constraint.freshAnswer (positionsOf q) .residual
  jacobian : ∀ q : Fin n → ℝ, (constraint.jacobian (positionsOf q)).answer constraint.group.newScratchpad =
    .ok (List.replicate n .zero)

-- A joint that a constraint ignores leaves no trace in its answers, and an orientation that no joint turns
-- is the same everywhere.
theorem evaluations_local (chain : Chain ℝ) {kind : Kind} {settings : Settings ExtendedReal}
    {description : Description ExtendedReal}
    {constraint : Constraint ExtendedReal (Scratchpad ExtendedReal)}
    (hmade : (ofKind kind chain.extend.jointGroup settings description).outcome.1 = .ok constraint)
    (hfinite : kind.isPosition = true → description.HasFinitePositions) :
    (∀ (q q' : Fin chain.dof → ℝ) (j : Fin chain.dof), (∀ i, i ≠ j → q' i = q i) →
        constraint.Ignores chain j → constraint.IsLocalAt q q' j) ∧
      (kind = .orientation → (∀ joint ∈ chain.joints, joint.kind = .prismatic) →
        constraint.IsConstant chain.dof) := by
  obtain ⟨finite, bounds, place, hgroup, hlink, hgeometry, rfl⟩ := exists_geometry hmade hfinite
  have hplace : chain.linkIndex? constraint.link = some place := by
    rwa [chain.extend_linkIndex?] at hlink
  have hanswer : ∀ (q q' : Fin chain.dof → ℝ) method,
      constraint.replyAt chain (List.ofFn q') place method =
        constraint.replyAt chain (List.ofFn q) place method →
      constraint.freshAnswer (positionsOf q') method = constraint.freshAnswer (positionsOf q) method := by
    intro q q' method hreply
    refine freshAnswer_congr hgroup hgroup rfl rfl rfl (by simp) fun other _ hother => ?_
    rw [hplace, Option.some.injEq] at hother
    rwa [← hother]
  constructor
  · intro q q' j hsame hignores
    refine ⟨fun method => hanswer q q' method (hignores.replyAt_eq hgeometry hplace hsame method), ?_, ?_⟩
    · exact hasZeroColumnAt hgeometry hgroup hlink q (hignores.velocity_eq_zero hgeometry hplace)
    · exact hasZeroColumnAt hgeometry hgroup hlink q' (hignores.velocity_eq_zero hgeometry hplace)
  · intro hkind hprismatic
    have horientation : constraint.kind = .orientation := by
      rw [Constraint.kind, hgeometry.eq, ResidualModel.extend_kind, hkind]
    constructor
    · intro q q'
      refine hanswer q q' .residual
        (replyAt_eq_of_keepsTurn hgeometry horientation (fun j hrevolute => ?_) .residual)
      have hslide : chain.joints[j].kind = .prismatic := hprismatic _ (List.getElem_mem j.isLt)
      rw [hslide] at hrevolute
      cases hrevolute
    · intro q
      rw [answer_jacobian hgroup hlink hgeometry, ResidualModel.errorJacobian_eq,
        relevantVelocity_eq hgeometry horientation,
        angular_eq_replicate List.length_ofFn (chain.hasPlace_of_linkIndex? hplace) hprismatic,
        List.map_replicate, ResidualModel.apply_errorOperator_zero,
        ResidualModel.residualJacobian_replicate hgeometry.bounds_allowZero]

-- One joint, which moves its link along the first axis.
noncomputable def singleSlide : Chain ℝ := ⟨"base", [.prismatic "slide" "carriage" .identity ⟨1, 0, 0⟩], none⟩

-- The last turn of a wrist is behind the link of the turn before it, and a slide does not turn anything.
theorem cartesianWrist_evaluations_local :
    (∃ constraint, (ofKind .boundedPosition (Robots.cartesianWrist : Chain ℝ).extend.jointGroup .standard
        (.boundedBox "pitch_link" (⟨1, 1, 1⟩ : Vec3 ℝ).extend (.zero : Vec3 ℝ).extend)).outcome.1 =
          .ok constraint ∧
      constraint.IsLocalAt (fun _ : Fin 6 => 0) (Function.update (fun _ => 0) 5 1) 5) ∧
    ∃ constraint, (ofKind .orientation singleSlide.extend.jointGroup .standard
        (.orientation "carriage" (.identity : Quat ℝ).extend (.zero : Vec3 ℝ).extend)).outcome.1 =
          .ok constraint ∧
      constraint.IsConstant 1 := by
  constructor
  · obtain ⟨constraint, hmade, hlink⟩ := exists_unitBox
      (rfl : (Robots.cartesianWrist : Chain ℝ).extend.jointGroup.hasLink "pitch_link" = true)
    have hlocal := evaluations_local Robots.cartesianWrist hmade fun _ =>
      Description.hasFinitePositions_boundedBox _ _ _
    refine ⟨constraint, hmade, hlocal.1 _ _ (5 : Fin 6) (fun i hi => Function.update_of_ne hi _ _) (Or.inl ?_)⟩
    rw [hlink]
    exact ⟨.joint 4, rfl, Nat.lt_succ_self 4⟩
  · obtain ⟨constraint, hmade, _⟩ := exists_baseOrientation
      (rfl : singleSlide.extend.jointGroup.hasLink "carriage" = true)
    have hslides : ∀ joint ∈ singleSlide.joints, joint.kind = .prismatic := by
      intro joint hjoint
      rw [List.mem_singleton.mp hjoint]
      rfl
    exact ⟨constraint, hmade, (evaluations_local singleSlide hmade nofun).2 rfl hslides⟩

end Constraint

end TaskSpace.Constraints
