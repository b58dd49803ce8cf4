import Mathlib
import TaskSpace.Proofs.Constraints.Acceptance
import TaskSpace.Proofs.Constraints.Reading
import TaskSpace.Proofs.Kinematics.Arrays

namespace TaskSpace.Kinematics.Chain

variable {α : Type} (chain : Chain α) {positions : List α} {link : String} {place : LinkIndex}

-- The names of the links of a chain. One name may stand for several links.
def HasLinkNamed (link : String) : Prop :=
  (∃ tip, chain.tip = some tip ∧ tip.name = link) ∨ chain.baseLink = link ∨
    ∃ joint ∈ chain.joints, joint.childLink = link

theorem linkIndex?_eq_none_iff : chain.linkIndex? link = none ↔ ¬chain.HasLinkNamed link := by
  have htip : chain.tip.any (·.name == link) = true ↔ ∃ tip, chain.tip = some tip ∧ tip.name = link := by
    simp [Option.any_eq_true]
  have hbase : (link == chain.baseLink) = true ↔ chain.baseLink = link := beq_iff_eq.trans eq_comm
  have hjoints : (chain.joints.findIdx? (·.childLink == link)).map LinkIndex.joint = none ↔
      ¬∃ joint ∈ chain.joints, joint.childLink = link := by
    simp [List.findIdx?_eq_none_iff]
  unfold linkIndex? HasLinkNamed
  by_cases h : ∃ tip, chain.tip = some tip ∧ tip.name = link
  · rw [if_pos (htip.mpr h)]
    exact iff_of_false nofun (not_not.mpr (Or.inl h))
  · rw [if_neg fun hnamed => h (htip.mp hnamed), or_iff_right h]
    by_cases h' : chain.baseLink = link
    · rw [if_pos (hbase.mpr h')]
      exact iff_of_false nofun (not_not.mpr (Or.inl h'))
    · rw [if_neg fun hnamed => h' (hbase.mp hnamed), or_iff_right h']
      exact hjoints

theorem exists_linkIndex? (h : chain.HasLinkNamed link) :
    ∃ place, chain.linkIndex? link = some place :=
  Option.ne_none_iff_exists'.mp fun hnone => chain.linkIndex?_eq_none_iff.mp hnone h

-- A link of the chain has one twist for each joint, whatever the scratchpad held before.
theorem length_jacobian_update [Scalar α] (pad : Scratchpad α) (hlength : positions.length = chain.dof)
    (hplace : chain.linkIndex? link = some place) :
    ((pad.update chain positions).jacobian chain.joints place).length = chain.dof :=
  have hroom := pad.length_update_joints chain hlength
  Scratchpad.length_jacobian hroom (Scratchpad.movingJoints_le hroom (chain.hasPlace_of_linkIndex? hplace))

end TaskSpace.Kinematics.Chain

namespace TaskSpace.Constraints

open Rigid Kinematics

variable {α : Type}

-- What a reply says of the rates has one column for each of that many joints.
def Reply.HasColumns (count : Nat) : Reply α → Prop
  | .twists entries => entries.length = count
  | .columns entries => entries.length = count
  | .residual value => value.jacobian.length = count
  | .pose _ => True
  | .vector _ => True
  | .verdict _ => True

variable [ExtendedScalar α]

theorem AnswersAs.claiming (chain : Chain α) (dof : Option Nat) (anyLink : Bool) :
    AnswersAs chain (chain.jointGroup.claiming dof anyLink) := ⟨rfl, rfl⟩

namespace Constraint

variable (constraint : Constraint α (Scratchpad α)) (chain : Chain α) (pad : Scratchpad α)
  (positions : List α) (method : Method)

theorem hasColumns_reply (pose : Pose α) (twists : List (Twist α)) :
    (constraint.reply pose twists method).HasColumns twists.length := by
  cases method with
  | error => trivial
  | errorJacobian => exact List.length_map _
  | residual => trivial
  | jacobian => exact (List.length_map _).trans (List.length_map _)
  | evaluate => exact (List.length_map _).trans (List.length_map _)
  | isSatisfied => trivial

-- What the group claims is checked first, then what the chain behind it has. A failure comes with the
-- scratchpad as it was.
structure FailsAsPredicted : Prop where
  claimedDimension : positions.length ≠ constraint.group.dof →
    (constraint.ask positions method).exec pad =
      (.error (.jointDimension constraint.group.dof positions.length), pad)
  dimension : positions.length = constraint.group.dof → positions.length ≠ chain.dof →
    (constraint.ask positions method).exec pad =
      (.error (.kinematics (.jointDimension chain.dof positions.length)), pad)
  link : positions.length = constraint.group.dof → positions.length = chain.dof →
    ¬chain.HasLinkNamed constraint.link →
    (constraint.ask positions method).exec pad =
      (.error (.kinematics (.unknownLink constraint.link)), pad)
  success : positions.length = constraint.group.dof → positions.length = chain.dof →
    chain.HasLinkNamed constraint.link →
    ∃ reply, (constraint.ask positions method).answer pad = .ok reply ∧ reply.HasColumns chain.dof

-- Only the number of positions can be wrong.
structure FailsOnDimension : Prop where
  fails_iff : (∃ error, (constraint.ask positions method).answer pad = .error error) ↔
    positions.length ≠ chain.dof
  failure : ∀ error, (constraint.ask positions method).answer pad = .error error →
    error = .jointDimension chain.dof positions.length ∧
      (constraint.ask positions method).after pad = pad
  columns : ∀ reply, (constraint.ask positions method).answer pad = .ok reply → reply.HasColumns chain.dof

variable {constraint chain}

theorem exec_of_error (hgroup : AnswersAs chain constraint.group) {error : ConstraintError α}
    (h : constraint.resolve chain positions = .error error) :
    (constraint.ask positions method).exec pad = (.error error, pad) := by
  rw [readsAt_ask hgroup positions method pad, h]
  rfl

theorem failsAsPredicted (hgroup : AnswersAs chain constraint.group) :
    constraint.FailsAsPredicted chain pad positions method where
  claimedDimension hclaimed := exec_of_error pad positions method hgroup (if_pos hclaimed)
  dimension hclaimed hdimension := by
    refine exec_of_error pad positions method hgroup ?_
    rw [resolve, if_neg (not_not.mpr hclaimed), Chain.resolve, if_pos hdimension]
    rfl
  link hclaimed hdimension hlink := by
    refine exec_of_error pad positions method hgroup ?_
    rw [resolve, if_neg (not_not.mpr hclaimed), Chain.resolve, if_neg (not_not.mpr hdimension),
      chain.linkIndex?_eq_none_iff.mpr hlink]
    rfl
  success hclaimed hdimension hlink := by
    obtain ⟨place, hplace⟩ := chain.exists_linkIndex? hlink
    have hanswer := (readsAt_ask hgroup positions method).answer_eq pad
    rw [resolve_eq_ok hclaimed hdimension hplace] at hanswer
    refine ⟨_, hanswer, ?_⟩
    rw [← chain.length_jacobian_update pad hdimension hplace]
    exact constraint.hasColumns_reply method _ _

theorem IsMadeFor.hasLinkNamed (hmade : constraint.IsMadeFor chain.jointGroup) :
    chain.HasLinkNamed constraint.link := by
  obtain ⟨kind, settings, description, hmade⟩ := hmade
  obtain ⟨link, model, log, rfl, _, hlink, _⟩ := exists_of_ofKind hmade
  by_contra habsent
  have hnone : chain.linkIndex? link = none := chain.linkIndex?_eq_none_iff.mpr habsent
  change (chain.linkIndex? link).isSome = true at hlink
  rw [hnone] at hlink
  cases hlink

-- The group of the chain tells the truth, and the link was looked up when the constraint was made.
theorem failsOnDimension (hmade : constraint.IsMadeFor chain.jointGroup) :
    constraint.FailsOnDimension chain pad positions method := by
  have hgroup := hmade.group_eq
  have hpredicted := failsAsPredicted pad positions method (AnswersAs.of_eq hgroup)
  have hdof : constraint.group.dof = chain.dof := by
    rw [hgroup]
    rfl
  by_cases hlength : positions.length = chain.dof
  · obtain ⟨reply, hanswer, hcolumns⟩ :=
      hpredicted.success (hlength.trans hdof.symm) hlength hmade.hasLinkNamed
    constructor
    · simp [hanswer, hlength]
    · simp [hanswer]
    · simp [hanswer, hcolumns]
  · have hexec := hpredicted.claimedDimension (by rwa [hdof])
    rw [hdof] at hexec
    constructor
    · simp [Query.answer, hexec, hlength]
    · simp [Query.answer, Query.after, hexec]
    · simp [Query.answer, hexec]

-- Every failure of an evaluation is known beforehand, whatever the scratchpad holds, and costs nothing.
theorem failures_predicted (chain : Chain α) (constraint : Constraint α (Scratchpad α))
    (hgroup : AnswersAs chain constraint.group) (pad : Scratchpad α) (positions : List α)
    (method : Method) :
    constraint.FailsAsPredicted chain pad positions method ∧
      (constraint.IsMadeFor chain.jointGroup → constraint.FailsOnDimension chain pad positions method) :=
  ⟨failsAsPredicted pad positions method hgroup, failsOnDimension pad positions method⟩

-- A group that claims one joint too many is found out by the chain; the chain itself asks for its own
-- number of joints and is content with values that are no numbers.
theorem cartesianWrist_failures :
    ∃ claiming made : Constraint ExtendedReal (Scratchpad ExtendedReal),
      (claiming.ask (.replicate 7 .nan) .evaluate).exec (.fresh 2) =
        (.error (.kinematics (.jointDimension 6 7)), .fresh 2) ∧
      made.IsMadeFor (Robots.cartesianWrist (α := ExtendedReal)).jointGroup ∧
      (¬∃ error, (made.ask (.replicate 6 .nan) .evaluate).answer (.fresh 2) = .error error) ∧
      ∃ error, (made.ask [] .evaluate).answer (.fresh 2) = .error error := by
  let chain : Chain ExtendedReal := Robots.cartesianWrist
  have hunit := Quat.isUnit_identity
  have hextents : ∀ axis, 0 ≤ (⟨1, 1, 1⟩ : Vec3 ℝ).get axis := by
    rintro (_ | _ | _) <;> exact zero_le_one
  have hmake : ∀ group : JointGroup ExtendedReal (Scratchpad ExtendedReal),
      group.hasLink Robots.toolLink = true →
      ∃ constraint : Constraint ExtendedReal (Scratchpad ExtendedReal), constraint.IsMadeFor group := by
    intro group hlink
    exact ⟨_, .boundedPosition, .standard,
      .boundedBox Robots.toolLink (⟨1, 1, 1⟩ : Vec3 ℝ).extend .zero,
      ofKind_boundedPosition Settings.validate_standard hlink hextents (by rw [hunit]; norm_num) rfl⟩
  obtain ⟨claiming, hclaiming⟩ := hmake (chain.jointGroup.claiming (some 7) true) rfl
  obtain ⟨made, hmade⟩ := hmake chain.jointGroup rfl
  have hfound := (failures_predicted chain claiming (by rw [hclaiming.group_eq]; exact .claiming ..)
    (.fresh 2) (.replicate 7 .nan) .evaluate).1
  have hpredicted := fun positions => (failures_predicted chain made (.of_eq hmade.group_eq) (.fresh 2)
    positions .evaluate).2 hmade
  refine ⟨claiming, made, hfound.dimension ?_ (by decide), hmade, ?_, ?_⟩
  · rw [hclaiming.group_eq]
    rfl
  · rw [(hpredicted _).fails_iff]
    exact not_not.mpr rfl
  · rw [(hpredicted _).fails_iff]
    decide

end Constraint

end TaskSpace.Constraints
