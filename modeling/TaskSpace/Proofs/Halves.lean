import Mathlib
import TaskSpace.Proofs.Comparison

namespace TaskSpace

-- What halving says of a number that is not negative: its halves lie on the two sides of zero, also
-- where they are rounded. There is such a number without end.
class LawfulHalving (α : Type) [ExtendedScalar α] : Prop where
  isNaN_neg_half {a : α} : ExtendedScalar.isNaN a = false → ¬a < 0 → ExtendedScalar.isNaN (-a / 2.0) = false
  isNaN_half {a : α} : ExtendedScalar.isNaN a = false → ¬a < 0 → ExtendedScalar.isNaN (a / 2.0) = false
  halves_ordered {a : α} : ExtendedScalar.isNaN a = false → ¬a < 0 → ¬a / 2.0 < -a / 2.0
  isNaN_infinity : ExtendedScalar.isNaN (ExtendedScalar.infinity : α) = false
  infinity_nonneg : ¬(ExtendedScalar.infinity : α) < 0

namespace ExtendedReal

instance : LawfulHalving ExtendedReal where
  isNaN_neg_half {a} hnumber _ := by
    rw [neg_half]
    cases a with
    | real number => rw [half_real]; rfl
    | infinite negative => rw [half_infinite]; rfl
    | nan => cases hnumber
  isNaN_half {a} hnumber _ := by
    cases a with
    | real number => rw [half_real]; rfl
    | infinite negative => rw [half_infinite]; rfl
    | nan => cases hnumber
  halves_ordered {a} hnumber hnonneg := by
    rw [neg_half]
    cases a with
    | real number =>
        rw [zero_eq, lt_real, not_lt] at hnonneg
        rw [half_real, neg_real, lt_real, not_lt, Scalar.real_two]
        linarith
    | infinite negative =>
        rw [half_infinite, neg_infinite, infinite_lt_infinite]
        rintro ⟨hnegative, _⟩
        exact hnonneg hnegative
    | nan => cases hnumber
  isNaN_infinity := rfl
  infinity_nonneg := Bool.false_ne_true

end ExtendedReal

namespace Double

open Float.Model (Format UnpackedFloat)
open Float.Model.UnpackedFloat

-- The numbers with a sign, and both zeros.
def OnSide (sign : Sign) : UnpackedFloat → Prop
  | .notANumber => False
  | .infinity other => other = sign
  | .finite other _ _ _ => other = sign
  | .zero _ => True

namespace OnSide

variable {sign : Sign} {value : UnpackedFloat}

theorem isNaN (h : OnSide sign value) : value.isNaN = false := by
  cases value with
  | notANumber => exact h.elim
  | infinity | finite | zero => rfl

theorem neg (h : OnSide sign value) : OnSide (-sign) value.neg := by
  cases value with
  | notANumber => exact h
  | infinity | finite => exact congrArg Neg.neg h
  | zero => trivial

theorem roundWithAccuracy (format : Format) (mantissa : Nat) (exponent : Int) (accuracy : Accuracy) :
    OnSide sign (roundWithAccuracy format sign mantissa exponent accuracy) := by
  unfold UnpackedFloat.roundWithAccuracy
  simp only
  split
  · trivial
  · rfl

-- A quotient by a positive number may vanish, but it does not change sides.
theorem div (h : OnSide sign value) (format : Format) (mantissa : Nat) (exponent : Int)
    (hmantissa : 0 < mantissa) :
    OnSide sign (div format value (.finite .positive mantissa exponent hmantissa)) := by
  have hsign : ∀ other : Sign, other / .positive = other := fun other => by cases other <;> rfl
  cases value with
  | notANumber => exact h
  | zero => trivial
  | infinity other => exact (hsign other).trans h
  | finite other m e hm =>
      obtain rfl : other = sign := h
      simp only [UnpackedFloat.div, hsign]
      exact roundWithAccuracy format _ _ _

theorem unpack {bits : BitVec Format.binary64.numBits}
    (hnumber : (UnpackedFloat.unpack Format.binary64 bits).isNaN = false)
    (hsign : Sign.ofBitVec (unpackSign bits) = sign) :
    OnSide sign (UnpackedFloat.unpack Format.binary64 bits) := by
  revert hnumber
  unfold UnpackedFloat.unpack
  simp only [hsign]
  split
  · split
    · exact fun _ => rfl
    · exact nofun
  · split
    · split
      · exact fun _ => trivial
      · exact fun _ => rfl
    · exact fun _ => rfl

-- Packing keeps the sign, if not the size.
theorem unpack_pack (h : OnSide sign value) :
    OnSide sign (UnpackedFloat.unpack Format.binary64 (UnpackedFloat.pack Format.binary64 value)) := by
  have hnumber := (isNaN_unpack_pack value).trans h.isNaN
  revert hnumber
  fun_cases UnpackedFloat.pack with
  | case1 => exact h.elim
  | case2 other =>
      obtain rfl : other = sign := h
      exact fun hnumber => .unpack hnumber (by simp [packedInfinity])
  | case3 other =>
      rw [unpack_packedZero]
      exact fun _ => trivial
  | case4 other mantissa exponent hpos biased hlarge =>
      obtain rfl : other = sign := h
      exact fun hnumber => .unpack hnumber (by simp [packedInfinity])
  | case5 other mantissa exponent hpos digits biased hsmall hnormal =>
      obtain rfl : other = sign := h
      exact fun hnumber => .unpack hnumber (by simp)
  | case6 other mantissa exponent hpos digits biased hsmall hnormal =>
      obtain rfl : other = sign := h
      exact fun hnumber => .unpack hnumber (by simp)

theorem not_lt {other : UnpackedFloat} (h : OnSide .positive value) (hother : OnSide .negative other) :
    value.lt other = false := by
  cases value with
  | notANumber => exact h.elim
  | infinity sign | finite sign =>
      obtain rfl : sign = .positive := h
      cases other with
      | notANumber => exact hother.elim
      | infinity sign | finite sign => obtain rfl : sign = .negative := hother; rfl
      | zero => rfl
  | zero =>
      cases other with
      | notANumber => exact hother.elim
      | infinity sign | finite sign => obtain rfl : sign = .negative := hother; rfl
      | zero => rfl

theorem of_not_lt (hnumber : value.isNaN = false) (hnonneg : value.lt (.zero sign) = false) :
    OnSide .positive value := by
  cases value with
  | notANumber => cases hnumber
  | zero => trivial
  | infinity other | finite other =>
      cases other with
      | positive => rfl
      | negative => cases hnonneg

end OnSide

theorem unpack_two : (2.0 : Float).toModel.unpack = .finite .positive (2 ^ 52) (-51) (by decide) := rfl

theorem unpack_div (a b : Float) : (a / b).toModel.unpack =
    UnpackedFloat.unpack Format.binary64 (UnpackedFloat.pack Format.binary64
      (UnpackedFloat.div Format.binary64 a.toModel.unpack b.toModel.unpack)) := rfl

theorem lt_iff (a b : Float) : a < b ↔ a.toModel.unpack.lt b.toModel.unpack = true := decide_eq_true_iff

theorem onSide_half {a : Float} {sign : Sign} (h : OnSide sign a.toModel.unpack) :
    OnSide sign (a / 2.0).toModel.unpack := by
  rw [unpack_div, unpack_two]
  exact (h.div Format.binary64 _ _ _).unpack_pack

theorem onSide_neg {a : Float} (h : OnSide .positive a.toModel.unpack) :
    OnSide .negative (-a).toModel.unpack :=
  h.neg.unpack_pack

theorem onSide_of_nonneg {a : Float} (hnumber : ExtendedScalar.isNaN a = false) (hnonneg : ¬a < 0) :
    OnSide .positive a.toModel.unpack :=
  .of_not_lt hnumber (Bool.eq_false_iff.mpr fun h => hnonneg ((lt_iff a 0).mpr h))

instance : LawfulHalving Float where
  isNaN_neg_half hnumber hnonneg := (onSide_half (onSide_neg (onSide_of_nonneg hnumber hnonneg))).isNaN
  isNaN_half hnumber hnonneg := (onSide_half (onSide_of_nonneg hnumber hnonneg)).isNaN
  halves_ordered hnumber hnonneg := by
    have hside := onSide_of_nonneg hnumber hnonneg
    rw [lt_iff, (onSide_half hside).not_lt (onSide_half (onSide_neg hside))]
    exact Bool.false_ne_true
  isNaN_infinity := by decide +kernel
  infinity_nonneg := by decide +kernel

end Double

end TaskSpace
