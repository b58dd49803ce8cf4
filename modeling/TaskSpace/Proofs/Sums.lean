import Mathlib
import TaskSpace.Proofs.Halves
import TaskSpace.Proofs.Rounding

namespace TaskSpace.Double

open Float.Model (Format UnpackedFloat)
open Float.Model.UnpackedFloat

-- The exponents up to which a regular number is not too large for a double.
def InRange : UnpackedFloat → Prop
  | .finite _ _ e _ => e ≤ 971
  | _ => True

theorem toNat_implicit (mantissa : BitVec 52) : (1#1 ++ mantissa).toNat = 2 ^ 52 + mantissa.toNat := by
  rw [BitVec.toNat_append, ← Nat.shiftLeft_add_eq_or_of_lt mantissa.isLt]
  rfl

-- What is unpacked is regular or has no size.
theorem isRegular_unpack {bits : BitVec Format.binary64.numBits}
    (hfinite : (unpack Format.binary64 bits).isFinite = true) :
    IsRegular (unpack Format.binary64 bits) ∧ InRange (unpack Format.binary64 bits) := by
  have hbias : (Format.binary64.exponentBias : Int) + Format.binary64.mantissaBitsWithoutImplicit = 1075 :=
    rfl
  have hexponent : (unpackExponent bits).toNat < 2048 := (unpackExponent bits).isLt
  have hmantissa : (unpackMantissa bits).toNat < 2 ^ 52 := (unpackMantissa bits).isLt
  revert hfinite
  unfold unpack
  simp only [hbias]
  split
  · split <;> exact nofun
  · rename_i hlarge
    have hlarge' : (unpackExponent bits).toNat ≠ 2047 := fun h => hlarge (BitVec.eq_of_toNat_eq h)
    split
    · rename_i hsubnormal
      split
      · exact fun _ => ⟨.zero _, trivial⟩
      · have hleast : ((unpackExponent bits).toNat : Int) - 1075 + 1 = -1074 := by rw [hsubnormal]; rfl
        refine fun _ => ⟨.finite _ _ ⟨by omega, hleast.ge, fun h => ?_⟩, ?_⟩
        · exact absurd hleast h.ne'
        · exact hleast.le.trans (by decide)
    · rename_i hnormal
      have hnormal' : (unpackExponent bits).toNat ≠ 0 := fun h => hnormal (BitVec.eq_of_toNat_eq h)
      have himplicit := toNat_implicit (unpackMantissa bits)
      refine fun _ => ⟨.finite _ _ ⟨?_, by omega, fun _ => ?_⟩, ?_⟩
      · rw [himplicit]
        omega
      · rw [himplicit]
        omega
      · change ((unpackExponent bits).toNat : Int) - 1075 ≤ 971
        omega

theorem finite_congr {sign : Sign} {m n : Nat} {e f : Int} (hm : 0 < m) (hn : 0 < n) (hmn : m = n)
    (hef : e = f) : UnpackedFloat.finite sign m e hm = .finite sign n f hn := by
  subst hmn hef
  rfl

theorem ofBitVec_toBitVec (sign : Sign) : Sign.ofBitVec sign.toBitVec = sign := by
  cases sign <;> rfl

section Components

variable (sign : Sign)

theorem unpack_normal {exponent : BitVec 11} (mantissa : BitVec 52) (hzero : exponent ≠ 0#11)
    (hlarge : exponent ≠ -1#11) :
    unpack Format.binary64 (packComponents Format.binary64 sign exponent mantissa) =
      .finite sign (2 ^ 52 + mantissa.toNat) (exponent.toNat - 1075) (by positivity) := by
  unfold unpack
  simp only [unpackExponent_packComponents, unpackMantissa_packComponents, unpackSign_packComponents,
    ofBitVec_toBitVec, if_neg hzero, if_neg hlarge]
  exact finite_congr _ _ (toNat_implicit mantissa) rfl

theorem unpack_subnormal {mantissa : BitVec 52} (hpos : 0 < mantissa.toNat) :
    unpack Format.binary64 (packComponents Format.binary64 sign 0#11 mantissa) =
      .finite sign mantissa.toNat (-1074) hpos := by
  have hzero : mantissa ≠ 0#52 := by
    rintro rfl
    exact absurd hpos (by decide)
  have hlarge : ¬0#11 = -1#11 := by decide
  unfold unpack
  simp only [unpackExponent_packComponents, unpackMantissa_packComponents, unpackSign_packComponents,
    ofBitVec_toBitVec, dif_neg hzero, if_neg hlarge, if_true]
  exact finite_congr _ _ rfl rfl

theorem unpack_infinite : unpack Format.binary64 (packedInfinity Format.binary64 sign) = .infinity sign := by
  unfold unpack packedInfinity
  simp

-- A significand of 53 digits is packed without its first one.
theorem unpack_pack_normal {m : Nat} {e : Int} (hpos : 0 < m) (hlarge : 2 ^ 52 ≤ m) (hdigits : m < 2 ^ 53)
    (hleast : -1074 ≤ e) (hmost : e ≤ 971) :
    unpack Format.binary64 (UnpackedFloat.pack Format.binary64 (.finite sign m e hpos)) =
      .finite sign m e hpos := by
  have hbiased : ((e + Format.binary64.exponentBias +
      Format.binary64.mantissaBitsWithoutImplicit).toNat : Int) = e + 1075 := by
    change ((e + 1023 + 52).toNat : Int) = e + 1075
    omega
  have hbits : m.log2 + 1 = Format.binary64.mantissaBits := by
    have hlog : m.log2 = 52 := (Nat.log2_eq_iff hpos.ne').mpr ⟨hlarge, hdigits⟩
    exact congrArg (· + 1) hlog
  unfold UnpackedFloat.pack
  generalize (e + Format.binary64.exponentBias + Format.binary64.mantissaBitsWithoutImplicit).toNat =
    biased at hbiased
  have hfits : ¬2 ^ Format.binary64.exponentBits ≤ biased + 1 := by
    change ¬2 ^ 11 ≤ biased + 1
    omega
  have hexponent : (BitVec.ofNat 11 biased).toNat = biased := Nat.mod_eq_of_lt (by omega)
  have hzero : BitVec.ofNat 11 biased ≠ 0#11 := by
    intro heq
    rw [heq] at hexponent
    change 0 = biased at hexponent
    omega
  have hone : BitVec.ofNat 11 biased ≠ -1#11 := by
    intro heq
    rw [heq] at hexponent
    change 2047 = biased at hexponent
    omega
  simp only [if_neg hfits, if_pos hbits]
  refine (unpack_normal sign (BitVec.ofNat 52 m) hzero hone).trans (finite_congr _ _ ?_ ?_)
  · change 2 ^ 52 + m % 2 ^ 52 = m
    omega
  · rw [hexponent]
    omega

-- A shorter one is packed as it is.
theorem unpack_pack_subnormal {m : Nat} (hpos : 0 < m) (hsmall : m < 2 ^ 52) :
    unpack Format.binary64 (UnpackedFloat.pack Format.binary64 (.finite sign m (-1074) hpos)) =
      .finite sign m (-1074) hpos := by
  have hfits : ¬2 ^ Format.binary64.exponentBits ≤ ((-1074 : Int) + Format.binary64.exponentBias +
      Format.binary64.mantissaBitsWithoutImplicit).toNat + 1 := by decide
  have hbits : ¬m.log2 + 1 = Format.binary64.mantissaBits := by
    have hlog : m.log2 < 52 := (Nat.log2_lt hpos.ne').mpr hsmall
    change ¬m.log2 + 1 = 53
    omega
  have hmantissa : (BitVec.ofNat 52 m).toNat = m := Nat.mod_eq_of_lt hsmall
  unfold UnpackedFloat.pack
  simp only [if_neg hfits, if_neg hbits]
  exact (unpack_subnormal sign (hmantissa.symm ▸ hpos)).trans (finite_congr _ _ hmantissa rfl)

theorem unpack_pack_infinity :
    unpack Format.binary64 (UnpackedFloat.pack Format.binary64 (.infinity sign)) = .infinity sign :=
  unpack_infinite sign

end Components

-- A regular number in range is packed without a loss.
theorem unpack_pack_regular {value : UnpackedFloat} (h : IsRegular value) (hrange : InRange value) :
    unpack Format.binary64 (UnpackedFloat.pack Format.binary64 value) = value := by
  cases h with
  | zero sign => exact unpack_packedZero
  | @finite m e sign hpos hcanonical =>
      by_cases hlarge : 2 ^ 52 ≤ m
      · exact unpack_pack_normal sign hpos hlarge hcanonical.digits hcanonical.least hrange
      · obtain rfl : e = -1074 := by
          by_contra hne
          exact hlarge (hcanonical.normal (lt_of_le_of_ne hcanonical.least (Ne.symm hne)))
        exact unpack_pack_subnormal sign hpos (not_le.mp hlarge)

-- What is too large becomes infinite.
theorem unpack_pack_large (sign : Sign) {m : Nat} {e : Int} (hpos : 0 < m) (he : 971 < e) :
    unpack Format.binary64 (UnpackedFloat.pack Format.binary64 (.finite sign m e hpos)) = .infinity sign := by
  have hlarge : 2 ^ Format.binary64.exponentBits ≤
      (e + Format.binary64.exponentBias + Format.binary64.mantissaBitsWithoutImplicit).toNat + 1 := by
    change 2 ^ 11 ≤ (e + 1023 + 52).toNat + 1
    omega
  unfold UnpackedFloat.pack
  simp only [if_pos hlarge]
  exact unpack_infinite sign

section Sums

variable {bound result : UnpackedFloat}

theorem le_infinite (h : IsRegular bound) :
    bound.le (unpack Format.binary64 (UnpackedFloat.pack Format.binary64 (.infinity .positive))) = true := by
  rw [unpack_pack_infinity]
  cases h with
  | zero => rfl
  | finite sign => cases sign <;> rfl

theorem OnSide.signedSize_nonneg (h : OnSide .positive bound) : 0 ≤ signedSize bound := by
  cases bound with
  | finite sign m e hpos =>
      obtain rfl : sign = .positive := h
      exact (size_pos hpos e).le
  | notANumber | infinity | zero => exact le_rfl

theorem le_unpack_pack (hbound : IsRegular bound) (hrange : InRange bound) (hresult : IsRegular result)
    (h : signedSize bound ≤ signedSize result) :
    bound.le (unpack Format.binary64 (UnpackedFloat.pack Format.binary64 result)) = true := by
  by_cases hfits : InRange result
  · rw [unpack_pack_regular hresult hfits, le_iff_signedSize hbound hresult]
    exact h
  · cases hresult with
    | zero => exact absurd trivial hfits
    | @finite m e sign hpos hcanonical =>
        rw [unpack_pack_large sign hpos (not_le.mp hfits)]
        cases sign with
        | positive =>
            cases hbound with
            | zero => rfl
            | finite sign => cases sign <;> rfl
        | negative =>
            have hsize := size_pos hpos e
            change signedSize bound ≤ -size m e at h
            cases hbound with
            | zero => exact absurd h (not_le.mpr (neg_neg_of_pos hsize))
            | @finite n f sign' hn hcanonical' =>
                cases sign' with
                | positive => exact absurd h (not_le.mpr ((neg_neg_of_pos hsize).trans (size_pos hn f)))
                | negative =>
                    have hle := (hcanonical.size_le_iff hcanonical').mp (neg_le_neg_iff.mp h)
                    have hf : f ≤ 971 := hrange
                    exact absurd (show e ≤ 971 by omega) hfits

end Sums

theorem signedSize_decreaseExponent (sign : Sign) {m : Nat} {e least : Int} (hpos : 0 < m)
    (hle : least ≤ e) :
    (sign.apply (decreaseExponent m e least).1 : Int) * 2 ^ least = signedSize (.finite sign m e hpos) := by
  have hshift : size (m <<< (e - least).toNat) least = size m e := by
    have hleast : e - ((e - least).toNat : Int) = least := by omega
    rw [← size_shiftLeft m (e - least).toNat, hleast]
  change ((sign.apply (m <<< (e - least).toNat : Nat) : Int) : ℚ) * 2 ^ least = _
  generalize m <<< (e - least).toNat = n at hshift ⊢
  cases sign with
  | positive => simpa [signedSize, Sign.apply, size] using hshift
  | negative => simpa [signedSize, Sign.apply, size] using hshift

-- The sum of two regular numbers is their exact sum, rounded.
theorem signedSize_le_add {a b : UnpackedFloat} (ha : IsRegular a) (hb : IsRegular b)
    (h : 0 ≤ signedSize a) :
    IsRegular (UnpackedFloat.add Format.binary64 a b) ∧
      signedSize b ≤ signedSize (UnpackedFloat.add Format.binary64 a b) := by
  cases ha with
  | zero sign =>
      cases hb with
      | zero sign' => cases sign <;> cases sign' <;> exact ⟨.zero _, le_rfl⟩
      | finite sign' hn hcanonical => exact ⟨.finite sign' hn hcanonical, le_rfl⟩
  | @finite m e sign hm hcanonical =>
      cases hb with
      | zero sign' => exact ⟨.finite sign hm hcanonical, h⟩
      | @finite n f sign' hn hcanonical' =>
          refine IsRegular.le_normalize (.finite sign' hn hcanonical') _ _ _ ?_
          rw [← signedSize_decreaseExponent sign hm (min_le_left e f)] at h
          rw [← signedSize_decreaseExponent sign' hn (min_le_right e f)]
          push_cast
          rw [add_mul]
          exact le_add_of_nonneg_left h

section Doubles

variable {a b : Float}

theorem unpack_add (a b : Float) : (a + b).toModel.unpack =
    UnpackedFloat.unpack Format.binary64 (UnpackedFloat.pack Format.binary64
      (UnpackedFloat.add Format.binary64 a.toModel.unpack b.toModel.unpack)) := rfl

theorem unpack_sub (a b : Float) : (a - b).toModel.unpack =
    UnpackedFloat.unpack Format.binary64 (UnpackedFloat.pack Format.binary64
      (UnpackedFloat.sub Format.binary64 a.toModel.unpack b.toModel.unpack)) := rfl

theorem unpack_mul (a b : Float) : (a * b).toModel.unpack =
    UnpackedFloat.unpack Format.binary64 (UnpackedFloat.pack Format.binary64
      (UnpackedFloat.mul Format.binary64 a.toModel.unpack b.toModel.unpack)) := rfl

theorem isNaN_add : ExtendedScalar.isNaN (a + b) =
    (UnpackedFloat.add Format.binary64 a.toModel.unpack b.toModel.unpack).isNaN := isNaN_unpack_pack _

theorem isNaN_sub : ExtendedScalar.isNaN (a - b) =
    (UnpackedFloat.sub Format.binary64 a.toModel.unpack b.toModel.unpack).isNaN := isNaN_unpack_pack _

theorem isNaN_mul : ExtendedScalar.isNaN (a * b) =
    (UnpackedFloat.mul Format.binary64 a.toModel.unpack b.toModel.unpack).isNaN := isNaN_unpack_pack _

theorem regular_of_isFinite (a : Float) (h : a.toModel.unpack.isFinite = true) :
    IsRegular a.toModel.unpack ∧ InRange a.toModel.unpack := isRegular_unpack h

theorem le_iff_unpack (a b : Float) : a ≤ b ↔ a.toModel.unpack.le b.toModel.unpack = true :=
  decide_eq_true_iff

theorem le_of_lt (h : a < b) : a ≤ b := by
  have hcompare : a.toModel.unpack.compare b.toModel.unpack = some .lt := eq_of_beq ((lt_iff a b).mp h)
  rw [le_iff_unpack, UnpackedFloat.le, hcompare]
  rfl

-- A result that is a number comes from numbers.
theorem isNaN_of_isNaN_add (h : ExtendedScalar.isNaN (a + b) = false) : ExtendedScalar.isNaN a = false := by
  rw [isNaN_add] at h
  change a.toModel.unpack.isNaN = false
  cases ha : a.toModel.unpack with
  | notANumber => rw [ha] at h; exact h
  | infinity | zero | finite => rfl

theorem isNaN_of_isNaN_mul (h : ExtendedScalar.isNaN (a * b) = false) : ExtendedScalar.isNaN b = false := by
  rw [isNaN_mul] at h
  change b.toModel.unpack.isNaN = false
  cases hb : b.toModel.unpack with
  | notANumber =>
      rw [hb] at h
      cases ha : a.toModel.unpack <;> rw [ha] at h <;> exact h
  | infinity | zero | finite => rfl

-- A sum with what is not negative does not fall below the other number, also where it is rounded.
theorem le_add (ha : OnSide .positive a.toModel.unpack) (hnumber : ExtendedScalar.isNaN (a + b) = false) :
    b ≤ a + b := by
  rw [isNaN_add] at hnumber
  rw [le_iff_unpack, unpack_add]
  have hregular := regular_of_isFinite a
  have hregular' := regular_of_isFinite b
  generalize a.toModel.unpack = first, b.toModel.unpack = second at *
  by_cases hfinite : second.isFinite = true
  · obtain ⟨hsecond, hrange⟩ := hregular' hfinite
    cases first with
    | notANumber => exact ha.elim
    | infinity sign =>
        obtain rfl : sign = .positive := ha
        have hsum : UnpackedFloat.add Format.binary64 (.infinity .positive) second = .infinity .positive := by
          cases hsecond <;> rfl
        rw [hsum]
        exact le_infinite hsecond
    | zero | finite =>
        obtain ⟨hsum, hle⟩ := signedSize_le_add (hregular rfl).1 hsecond ha.signedSize_nonneg
        exact le_unpack_pack hsecond hrange hsum hle
  · cases second with
    | zero | finite => exact absurd rfl hfinite
    | notANumber => cases first <;> cases hnumber
    | infinity sign =>
        have hsum : UnpackedFloat.add Format.binary64 first (.infinity sign) = .infinity sign := by
          cases first with
          | notANumber => exact ha.elim
          | zero | finite => rfl
          | infinity other =>
              obtain rfl : other = .positive := ha
              cases sign with
              | positive => rfl
              | negative => cases hnumber
        rw [hsum, unpack_pack_infinity]
        cases sign <;> rfl

theorem onSide_normalize {mantissa : Int} (h : 0 ≤ mantissa) (e : Int) (zeroSign : Sign) :
    OnSide .positive (UnpackedFloat.normalize Format.binary64 mantissa e zeroSign) := by
  unfold UnpackedFloat.normalize
  rcases h.eq_or_lt with rfl | hpos
  · trivial
  · rw [compare_gt_iff_gt.mpr hpos]
    exact OnSide.roundWithAccuracy _ _ _ _

theorem onSide_sub_regular {first second : UnpackedFloat} (hfirst : IsRegular first)
    (hsecond : IsRegular second) (h : signedSize second ≤ signedSize first) :
    OnSide .positive (UnpackedFloat.sub Format.binary64 first second) := by
  cases hfirst with
  | zero sign =>
      cases hsecond with
      | zero sign' => cases sign <;> cases sign' <;> trivial
      | @finite n f sign' hn hcanonical =>
          cases sign' with
          | negative => rfl
          | positive => exact absurd h (not_le.mpr (size_pos hn f))
  | @finite m e sign hm hcanonical =>
      cases hsecond with
      | zero sign' =>
          cases sign with
          | positive => rfl
          | negative => exact absurd h (not_le.mpr (neg_neg_of_pos (size_pos hm e)))
      | @finite n f sign' hn hcanonical' =>
          refine onSide_normalize ?_ _ _
          rw [← signedSize_decreaseExponent sign hm (min_le_left e f),
            ← signedSize_decreaseExponent sign' hn (min_le_right e f)] at h
          have hmantissa := le_of_mul_le_mul_right h (zpow_pos two_pos _)
          exact sub_nonneg.mpr (Int.cast_le.mp hmantissa)

theorem onSide_sub (h : b ≤ a) (hnumber : ExtendedScalar.isNaN (a - b) = false) :
    OnSide .positive (a - b).toModel.unpack := by
  rw [le_iff_unpack] at h
  rw [isNaN_sub] at hnumber
  rw [unpack_sub]
  refine OnSide.unpack_pack ?_
  have hregular := regular_of_isFinite a
  have hregular' := regular_of_isFinite b
  generalize a.toModel.unpack = first, b.toModel.unpack = second at *
  by_cases hfinite : first.isFinite = true ∧ second.isFinite = true
  · have hfirst := (hregular hfinite.1).1
    have hsecond := (hregular' hfinite.2).1
    exact onSide_sub_regular hfirst hsecond ((le_iff_signedSize hsecond hfirst).mp h)
  · rcases first with (_ | _) | _ | _ | ⟨_ | _, m, e, hm⟩ <;>
      rcases second with (_ | _) | _ | _ | ⟨_ | _, n, f, hn⟩ <;>
        first | exact absurd ⟨rfl, rfl⟩ hfinite | rfl |
          exact absurd h Bool.false_ne_true | exact absurd hnumber (by decide)

-- Products of what is not negative are not negative.
theorem onSide_mul (ha : OnSide .positive a.toModel.unpack) (hb : OnSide .positive b.toModel.unpack)
    (hnumber : ExtendedScalar.isNaN (a * b) = false) : OnSide .positive (a * b).toModel.unpack := by
  rw [isNaN_mul] at hnumber
  rw [unpack_mul]
  refine OnSide.unpack_pack ?_
  generalize a.toModel.unpack = first, b.toModel.unpack = second at *
  cases first with
  | notANumber => exact ha.elim
  | infinity sign =>
      obtain rfl : sign = .positive := ha
      cases second with
      | notANumber => exact hb.elim
      | zero => exact nomatch hnumber
      | infinity sign | finite sign => obtain rfl : sign = .positive := hb; rfl
  | zero sign =>
      cases second with
      | notANumber => exact hb.elim
      | infinity => exact nomatch hnumber
      | zero | finite => trivial
  | finite sign m e hpos =>
      obtain rfl : sign = .positive := ha
      cases second with
      | notANumber => exact hb.elim
      | zero => trivial
      | infinity sign => obtain rfl : sign = .positive := hb; rfl
      | finite sign n f hn =>
          obtain rfl : sign = .positive := hb
          exact OnSide.roundWithAccuracy _ _ _ _

end Doubles

end TaskSpace.Double
