import Mathlib
import TaskSpace.Proofs.Constraints.Failures

namespace TaskSpace.Constraints

open Rigid Kinematics

namespace Constraint

section Agreement

variable {α : Type} [Scalar α] {chain : Chain α} {constraint : Constraint α (Scratchpad α)}

-- What the single questions answer is what the evaluation of both together answers, from the same
-- scratchpad. They also fail together, and leave the same scratchpad behind.
structure EvaluationsAgree (constraint : Constraint α (Scratchpad α)) (pad : Scratchpad α)
    (positions : List α) : Prop where
  value : ((constraint.evaluate positions).answer pad).map Residual.value =
    (constraint.residual positions).answer pad
  residual : (constraint.residual positions).answer pad =
    ((constraint.error positions).answer pad).map constraint.model.residual
  jacobian : ((constraint.evaluate positions).answer pad).map Residual.jacobian =
    (constraint.jacobian positions).answer pad
  residualJacobian : (constraint.jacobian positions).answer pad = do
    let error ← (constraint.error positions).answer pad
    let columns ← (constraint.errorJacobian positions).answer pad
    return constraint.model.residualJacobian error columns
  failure : ∀ (method other : Method) error, (constraint.ask positions method).answer pad = .error error →
    (constraint.ask positions other).answer pad = .error error
  after : ∀ method other : Method,
    (constraint.ask positions method).after pad = (constraint.ask positions other).after pad

-- The second question of an evaluation finds the scratchpad up to date, so it reads the frames that the
-- first one read, whether or not they are those of the chain.
theorem evaluations_agree (hgroup : AnswersAs chain constraint.group) (pad : Scratchpad α)
    (positions : List α) : constraint.EvaluationsAgree pad positions := by
  have hreads := fun method => readsAt_ask hgroup positions method pad
  have hjacobian : (constraint.jacobian positions).answer pad =
      ((constraint.evaluate positions).answer pad).map Residual.jacobian := Query.answer_map _ _ _
  constructor
  case residual => exact Query.answer_map _ _ _
  case jacobian => exact hjacobian.symm
  case value =>
    rw [(readsAt_evaluate hgroup positions).answer_eq, (readsAt_residual hgroup positions).answer_eq]
    cases constraint.resolve chain positions <;> rfl
  case residualJacobian =>
    rw [hjacobian, (readsAt_evaluate hgroup positions).answer_eq,
      (readsAt_error hgroup positions).answer_eq, (readsAt_errorJacobian hgroup positions).answer_eq]
    cases constraint.resolve chain positions <;> rfl
  case failure =>
    intro method other error herror
    unfold Query.answer at *
    rw [hreads method] at herror
    rw [hreads other]
    cases hresolve : constraint.resolve chain positions with
    | error fault => rw [hresolve] at herror; exact herror
    | ok place => rw [hresolve] at herror; cases herror
  case after =>
    intro method other
    unfold Query.after
    rw [hreads method, hreads other]
    cases constraint.resolve chain positions <;> rfl

end Agreement

-- A resting robot behind a group that claims every link. The scratchpad was filled by another robot at
-- the same positions, so the frames of that one are read, and kept.
theorem cartesianWrist_evaluations_agree :
    ∃ (constraint : Constraint ExtendedReal (Scratchpad ExtendedReal)) (pad : Scratchpad ExtendedReal)
      (residual : Residual ExtendedReal),
      constraint.IsMadeFor ((Robots.cartesianWrist (α := ExtendedReal)).jointGroup.claiming none true) ∧
      pad = .fill Robots.sixDofArm (.replicate 6 0) ∧
      (constraint.evaluate (.replicate 6 0)).exec pad = (.ok residual, pad) ∧
      constraint.EvaluationsAgree pad (.replicate 6 0) := by
  let chain : Chain ExtendedReal := Robots.cartesianWrist
  let pad : Scratchpad ExtendedReal := .fill Robots.sixDofArm (.replicate 6 0)
  obtain ⟨constraint, hconstraint, hlink⟩ := exists_unitBox
    (rfl : (chain.jointGroup.claiming none true).hasLink Robots.toolLink = true)
  have hmade : constraint.IsMadeFor (chain.jointGroup.claiming none true) := ⟨_, _, _, hconstraint⟩
  have hgroup : AnswersAs chain constraint.group := hmade.group_eq ▸ .claiming chain none true
  have hholds : pad.holds chain.dof (.replicate 6 0) = true := by
    have hlength : pad.joints.length = chain.dof :=
      Scratchpad.length_fill_joints Robots.sixDofArm rfl
    have hpositions : (List.replicate 6 0 == List.replicate 6 (0 : ExtendedReal)) = true := by
      simp [List.replicate_succ]
    rw [Scratchpad.holds, hlength, beq_self_eq_true]
    exact hpositions
  have hupdate : pad.update chain (.replicate 6 0) = pad := if_pos hholds
  have hresolve : constraint.resolve chain (.replicate 6 0) = .ok .tip :=
    resolve_eq_ok (by rw [hmade.group_eq]; rfl) rfl (by rw [hlink]; rfl)
  have hexec := readsAt_evaluate hgroup (.replicate 6 0) pad
  rw [hresolve, hupdate] at hexec
  exact ⟨constraint, pad, _, hmade, rfl, hexec, evaluations_agree hgroup pad _⟩

end Constraint

end TaskSpace.Constraints
