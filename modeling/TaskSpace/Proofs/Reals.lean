import Mathlib
import TaskSpace.Scalar

namespace TaskSpace

-- Exact arithmetic. A zero has no sign of its own and counts as positive.
noncomputable instance : Scalar ℝ where
  beq first second := decide (first = second)
  decidableLT := inferInstance
  decidableLE := inferInstance
  sqrt := Real.sqrt
  sin := Real.sin
  cos := Real.cos
  atan2 opposite adjacent := Complex.arg ⟨adjacent, opposite⟩
  abs value := |value|
  signum value := if value < 0 then -1 else 1
  pi := Real.pi

namespace Scalar

variable (first second : ℝ)

@[simp] theorem real_beq_iff : Scalar.toBEq.beq first second = true ↔ first = second :=
  decide_eq_true_iff

@[simp] theorem real_sqrt : Scalar.sqrt first = √first := rfl

@[simp] theorem real_sin : Scalar.sin first = Real.sin first := rfl

@[simp] theorem real_cos : Scalar.cos first = Real.cos first := rfl

@[simp] theorem real_abs : Scalar.abs first = |first| := rfl

@[simp] theorem real_signum : Scalar.signum first = if first < 0 then -1 else 1 := rfl

@[simp] theorem real_two : (2.0 : ℝ) = 2 := by norm_num

@[simp] theorem real_half : (0.5 : ℝ) = 1 / 2 := by norm_num

end Scalar

end TaskSpace
