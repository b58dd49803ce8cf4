import Mathlib
import TaskSpace.Proofs.Halves

namespace TaskSpace.Double

open Float.Model (Format UnpackedFloat)
open Float.Model.UnpackedFloat

-- Numbers that differ at most in the sign of a zero.
inductive SameUpToZero : UnpackedFloat → UnpackedFloat → Prop
  | same (value : UnpackedFloat) : SameUpToZero value value
  | zero (sign sign' : Sign) : SameUpToZero (.zero sign) (.zero sign')

-- Comparing does not tell two zeros apart, but everything else that is a number.
theorem beq_iff (a b : UnpackedFloat) : a.beq b = true ↔ a.isNaN = false ∧ SameUpToZero a b := by
  constructor
  · intro h
    unfold UnpackedFloat.beq at h
    rcases a with (_ | _) | _ | _ | ⟨_ | _, m, e, hm⟩ <;>
      rcases b with (_ | _) | _ | _ | ⟨_ | _, n, f, hn⟩ <;>
        simp [UnpackedFloat.compare] at h
    case infinity.negative.infinity.negative => exact ⟨rfl, .same _⟩
    case infinity.positive.infinity.positive => exact ⟨rfl, .same _⟩
    case zero.zero => exact ⟨rfl, .zero _ _⟩
    case finite.negative.finite.negative | finite.positive.finite.positive =>
      obtain ⟨rfl, rfl⟩ := h
      exact ⟨rfl, .same _⟩
  · rintro ⟨hnumber, h⟩
    cases h with
    | zero => rfl
    | same =>
        unfold UnpackedFloat.beq
        rcases a with (_ | _) | _ | _ | ⟨_ | _, m, e, hm⟩ <;>
          simp [UnpackedFloat.compare, UnpackedFloat.isNaN] at hnumber ⊢ <;> rfl

namespace SameUpToZero

variable {a a' b b' : UnpackedFloat}

theorem symm (h : SameUpToZero a b) : SameUpToZero b a := by
  cases h with
  | same => exact .same _
  | zero => exact .zero _ _

theorem isNaN_eq (h : SameUpToZero a b) : a.isNaN = b.isNaN := by
  cases h <;> rfl

theorem sub_zeros (first second first' second' : Sign) :
    SameUpToZero (UnpackedFloat.sub Format.binary64 (.zero first) (.zero second))
      (UnpackedFloat.sub Format.binary64 (.zero first') (.zero second')) := by
  have hzero : ∀ first second, ∃ sign,
      UnpackedFloat.sub Format.binary64 (.zero first) (.zero second) = .zero sign := by
    rintro (_ | _) (_ | _) <;> exact ⟨_, rfl⟩
  obtain ⟨sign, hsign⟩ := hzero first second
  obtain ⟨sign', hsign'⟩ := hzero first' second'
  rw [hsign, hsign']
  exact .zero sign sign'

-- Beside any other number the sign of a zero gets lost.
theorem sub (h : SameUpToZero a a') (h' : SameUpToZero b b') :
    SameUpToZero (UnpackedFloat.sub Format.binary64 a b) (UnpackedFloat.sub Format.binary64 a' b') := by
  cases h with
  | same =>
      cases h' with
      | same => exact .same _
      | zero =>
          cases a with
          | zero => exact sub_zeros _ _ _ _
          | notANumber | infinity | finite => exact .same _
  | zero =>
      cases h' with
      | zero => exact sub_zeros _ _ _ _
      | same =>
          cases b with
          | zero => exact sub_zeros _ _ _ _
          | notANumber | infinity | finite => exact .same _

theorem mul_self (h : SameUpToZero a b) :
    UnpackedFloat.mul Format.binary64 a a = UnpackedFloat.mul Format.binary64 b b := by
  cases h with
  | same => rfl
  | zero sign sign' => cases sign <;> cases sign' <;> rfl

theorem unpack_pack (h : SameUpToZero a b) :
    SameUpToZero (Float.Model.pack a).unpack (Float.Model.pack b).unpack := by
  have hunpack : ∀ sign, (Float.Model.pack (.zero sign)).unpack = .zero sign := fun _ => unpack_packedZero
  cases h with
  | same => exact .same _
  | zero sign sign' =>
      rw [hunpack, hunpack]
      exact .zero sign sign'

end SameUpToZero

section Doubles

variable {a a' b b' : Float}

theorem sameUpToZero_of_beq (h : (a == b) = true) : SameUpToZero a.toModel.unpack b.toModel.unpack :=
  ((beq_iff _ _).mp h).2

theorem beq_self (h : ExtendedScalar.isNaN a = false) : (a == a) = true := (beq_iff _ _).mpr ⟨h, .same _⟩

theorem beq_symm (h : (a == b) = true) : (b == a) = true := by
  obtain ⟨hnumber, hsame⟩ := (beq_iff _ _).mp h
  exact (beq_iff _ _).mpr ⟨hsame.isNaN_eq ▸ hnumber, hsame.symm⟩

theorem mul_self_eq (h : SameUpToZero a.toModel.unpack b.toModel.unpack) : a * a = b * b :=
  congrArg (fun product => Float.ofModel (.pack product)) h.mul_self

theorem sub_same (h : SameUpToZero a.toModel.unpack a'.toModel.unpack)
    (h' : SameUpToZero b.toModel.unpack b'.toModel.unpack) :
    SameUpToZero (a - b).toModel.unpack (a' - b').toModel.unpack :=
  (h.sub h').unpack_pack

end Doubles

end TaskSpace.Double
