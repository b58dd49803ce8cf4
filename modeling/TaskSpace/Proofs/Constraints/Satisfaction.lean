import Mathlib
import TaskSpace.Proofs.Comparison
import TaskSpace.Proofs.Constraints.Failures

namespace TaskSpace.Rigid.Vec3

open LawfulComparison

variable {α : Type} [ExtendedScalar α] (v : Vec3 α) (limit : α)

-- Every entry is a number of at most that size.
def IsWithin : Prop :=
  ∀ axis, ExtendedScalar.isNaN (v.get axis) = false ∧ Scalar.abs (v.get axis) ≤ limit

-- The last entry is within the limit, and what is no number stands before it: in the second place, where
-- it hides whatever comes first, or in the first place itself.
def PassesOver : Prop :=
  Scalar.abs v.z ≤ limit ∧
    (ExtendedScalar.isNaN v.y = true ∨ Scalar.abs v.y ≤ limit ∧ ExtendedScalar.isNaN v.x = true)

variable {v limit}

theorem IsWithin.not_passesOver (h : v.IsWithin limit) : ¬v.PassesOver limit := by
  rintro ⟨_, hy | ⟨_, hx⟩⟩
  · exact Bool.false_ne_true ((h .y).1.symm.trans hy)
  · exact Bool.false_ne_true ((h .x).1.symm.trans hx)

variable [LawfulComparison α]

theorem isWithin_iff : v.IsWithin limit ↔ ∀ axis, Scalar.abs (v.get axis) ≤ limit := by
  refine ⟨fun h axis => (h axis).2, fun h axis => ⟨?_, h axis⟩⟩
  rw [← isNaN_abs]
  exact (numbers_of_le (h axis)).1

-- The fold compares each entry with what came before it.
theorem maxAbs_le_iff : v.maxAbs ≤ limit ↔ v.IsWithin limit ∨ v.PassesOver limit := by
  change larger (larger (Scalar.abs v.x) (Scalar.abs v.y)) (Scalar.abs v.z) ≤ limit ↔ _
  rw [larger_le_iff, larger_le_iff, isNaN_larger, isNaN_abs, isNaN_abs, isWithin_iff]
  constructor
  · rintro ⟨hz, hy | ⟨hy, hx | hx⟩⟩
    · exact Or.inr ⟨hz, Or.inl hy⟩
    · exact Or.inr ⟨hz, Or.inr ⟨hy, hx⟩⟩
    · exact Or.inl fun | .x => hx | .y => hy | .z => hz
  · rintro (h | ⟨hz, hy | ⟨hy, hx⟩⟩)
    · exact ⟨h .z, Or.inr ⟨h .y, Or.inr (h .x)⟩⟩
    · exact ⟨hz, Or.inl hy⟩
    · exact ⟨hz, Or.inr ⟨hy, Or.inl hx⟩⟩

end TaskSpace.Rigid.Vec3

namespace TaskSpace.Constraints

open Rigid Kinematics

namespace Constraint

variable {α : Type} [ExtendedScalar α] {chain : Chain α} {constraint : Constraint α (Scratchpad α)}

-- The verdict is about the residual that the same scratchpad gives.
theorem exists_answers (hmade : constraint.IsMadeFor chain.jointGroup) (pad : Scratchpad α)
    {positions : List α} (hlength : positions.length = chain.dof) :
    ∃ residual, (constraint.residual positions).answer pad = .ok residual ∧
      (constraint.isSatisfied positions).answer pad =
        .ok (residual.maxAbs ≤ constraint.tolerance) := by
  have hgroup := hmade.group_eq
  obtain ⟨place, hplace⟩ := chain.exists_linkIndex? hmade.hasLinkNamed
  have hresolve : constraint.resolve chain positions = .ok place :=
    resolve_eq_ok (by rwa [hgroup]) hlength hplace
  have hresidual := ((readsAt_pose (.of_eq hgroup) positions).map constraint.model.error).map
    constraint.model.residual
  have hverdict := hresidual.map fun residual => decide (residual.maxAbs ≤ constraint.tolerance)
  rw [hresolve] at hresidual hverdict
  exact ⟨_, hresidual.answer_eq pad, hverdict.answer_eq pad⟩

-- The verdict is that of the entries, unless the fold passes over what is no number.
theorem isSatisfied_iff [LawfulComparison α] (chain : Chain α)
    {constraint : Constraint α (Scratchpad α)} (hmade : constraint.IsMadeFor chain.jointGroup)
    (pad : Scratchpad α) {positions : List α} (hlength : positions.length = chain.dof) :
    ∃ residual verdict, (constraint.residual positions).answer pad = .ok residual ∧
      (constraint.isSatisfied positions).answer pad = .ok verdict ∧
      (verdict = true ↔
        residual.IsWithin constraint.tolerance ∨ residual.PassesOver constraint.tolerance) ∧
      ¬(residual.IsWithin constraint.tolerance ∧ residual.PassesOver constraint.tolerance) := by
  obtain ⟨residual, hresidual, hverdict⟩ := exists_answers hmade pad hlength
  refine ⟨residual, _, hresidual, hverdict, ?_, fun h => h.1.not_passesOver h.2⟩
  rw [decide_eq_true_iff, Vec3.maxAbs_le_iff]

end Constraint

section Slide

-- One joint, which moves its link along the first axis, and a plate across its way.
def slide : Chain Float := ⟨"base", [.prismatic "slide" "carriage" .identity ⟨1, 0, 0⟩], none⟩

def slidePlate : Description Float := .equalityBox "carriage" ⟨0.0005, -1, -1⟩ ⟨.zero, .identity⟩

def notANumber : Float := 0.0 / 0.0

theorem exists_of_test {ε β : Type} {outcome : Except ε β} {test : β → Bool}
    (h : outcome.toOption.any test = true) : ∃ value, outcome = .ok value ∧ test value = true := by
  cases outcome with
  | error error => cases h
  | ok value => exact ⟨value, rfl, h⟩

-- The rows after the first one are zero: the plate counts only there.
theorem slidePlate_made : ∃ constraint : Constraint Float (Scratchpad Float),
    (Constraint.ofKind .equalityPosition slide.jointGroup .standard slidePlate).outcome.1 =
        .ok constraint ∧
      (((constraint.residual [notANumber]).answer (.fresh 1)).toOption.any
          (fun residual => ExtendedScalar.isNaN residual.x) &&
        ((constraint.isSatisfied [notANumber]).answer (.fresh 1)).toOption.any id) = true :=
  exists_of_test (by decide +kernel)

theorem Constraint.slidePlate_isSatisfied_iff :
    ∃ constraint : Constraint Float (Scratchpad Float), constraint.IsMadeFor slide.jointGroup ∧
      ∃ residual verdict, (constraint.residual [notANumber]).answer (.fresh 1) = .ok residual ∧
        (constraint.isSatisfied [notANumber]).answer (.fresh 1) = .ok verdict ∧
        (verdict = true ↔
          residual.IsWithin constraint.tolerance ∨ residual.PassesOver constraint.tolerance) := by
  obtain ⟨constraint, hmade, _⟩ := slidePlate_made
  have hmadeFor : constraint.IsMadeFor slide.jointGroup := ⟨_, _, _, hmade⟩
  obtain ⟨residual, verdict, hresidual, hverdict, hiff, _⟩ := isSatisfied_iff slide hmadeFor (.fresh 1)
    (show [notANumber].length = slide.dof from rfl)
  exact ⟨constraint, hmadeFor, residual, verdict, hresidual, hverdict, hiff⟩

-- At a position that is no number the plate counts as met, though the residual is no number either.
theorem Constraint.slidePlate_satisfied_not_within :
    ∃ constraint : Constraint Float (Scratchpad Float), constraint.IsMadeFor slide.jointGroup ∧
      [notANumber].length = slide.dof ∧
      ∃ residual, (constraint.residual [notANumber]).answer (.fresh 1) = .ok residual ∧
        (constraint.isSatisfied [notANumber]).answer (.fresh 1) = .ok true ∧
        ¬residual.IsWithin constraint.tolerance := by
  obtain ⟨constraint, hmade, hanswers⟩ := slidePlate_made
  rw [Bool.and_eq_true] at hanswers
  obtain ⟨residual, hresidual, hx⟩ := exists_of_test hanswers.1
  obtain ⟨verdict, hverdict, htrue⟩ := exists_of_test hanswers.2
  obtain rfl : verdict = true := htrue
  refine ⟨constraint, ⟨_, _, _, hmade⟩, rfl, residual, hresidual, hverdict, fun hwithin => ?_⟩
  exact Bool.false_ne_true ((hwithin .x).1.symm.trans hx)

end Slide

end TaskSpace.Constraints
