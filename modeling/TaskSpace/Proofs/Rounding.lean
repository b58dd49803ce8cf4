import Mathlib
import TaskSpace.Proofs.Comparison

namespace TaskSpace.Double

open Float.Model (Format UnpackedFloat)
open Float.Model.UnpackedFloat

-- Dropping binary digits, with the two bits that remember what was dropped.
section Shift

variable {mantissa k : Nat}

theorem shiftRight_succ (em : ExtendedMantissa) (k : Nat) :
    em >>> (k + 1) = (em >>> k).shiftRightOne := rfl

theorem mantissa_shiftRight (em : ExtendedMantissa) (k : Nat) :
    (em >>> k).mantissa = em.mantissa / 2 ^ k := by
  induction k with
  | zero => exact (Nat.div_one _).symm
  | succ k ih =>
      rw [shiftRight_succ, Nat.pow_succ, ← Nat.div_div_eq_div_mul, ← ih]
      rfl

-- Nothing is remembered where all digits that are dropped are zeros.
theorem bits_shiftRight (h : 2 ^ k ∣ mantissa) :
    ((⟨mantissa, false, false⟩ : ExtendedMantissa) >>> k).roundBit = false ∧
      ((⟨mantissa, false, false⟩ : ExtendedMantissa) >>> k).stickyBit = false := by
  induction k with
  | zero => exact ⟨rfl, rfl⟩
  | succ k ih =>
      have hdvd : 2 ^ k ∣ mantissa := (pow_dvd_pow 2 k.le_succ).trans h
      obtain ⟨hround, hsticky⟩ := ih hdvd
      have heven : ((⟨mantissa, false, false⟩ : ExtendedMantissa) >>> k).mantissa % 2 = 0 := by
        rw [mantissa_shiftRight]
        exact Nat.mod_eq_zero_of_dvd ((Nat.dvd_div_iff_mul_dvd hdvd).mpr (by rwa [← Nat.pow_succ]))
      rw [shiftRight_succ]
      simp [ExtendedMantissa.shiftRightOne, heven, hround, hsticky]

theorem accuracy_shiftRight (h : 2 ^ k ∣ mantissa) :
    ((⟨mantissa, false, false⟩ : ExtendedMantissa) >>> k).accuracy = .exact := by
  have hbits := bits_shiftRight h
  generalize (⟨mantissa, false, false⟩ : ExtendedMantissa) >>> k = em at hbits ⊢
  obtain ⟨mantissa, _, _⟩ := em
  obtain ⟨rfl, rfl⟩ := hbits
  rfl

theorem roundedMantissa_bounds (em : ExtendedMantissa) :
    em.mantissa ≤ em.roundedMantissa ∧ em.roundedMantissa ≤ em.mantissa + 1 := by
  have heven : em.mantissa % 2 ≤ 1 := by omega
  obtain ⟨mantissa, _ | _, _ | _⟩ := em <;>
    simp [ExtendedMantissa.roundedMantissa, ExtendedMantissa.accuracy, Accuracy.roundToNearestEven, heven]

-- What is left of a significand without some of its digits, rounded.
def shifted (mantissa k : Nat) : Nat :=
  ((⟨mantissa, false, false⟩ : ExtendedMantissa) >>> k).roundedMantissa

theorem le_shifted {n : Nat} (h : n * 2 ^ k ≤ mantissa) : n ≤ shifted mantissa k := by
  have hfloor : n ≤ mantissa / 2 ^ k := (Nat.le_div_iff_mul_le (Nat.two_pow_pos k)).mpr h
  have hbounds := roundedMantissa_bounds ((⟨mantissa, false, false⟩ : ExtendedMantissa) >>> k)
  rw [mantissa_shiftRight] at hbounds
  exact hfloor.trans hbounds.1

theorem shifted_le {n : Nat} (h : mantissa ≤ n * 2 ^ k) : shifted mantissa k ≤ n := by
  unfold shifted
  by_cases hdvd : 2 ^ k ∣ mantissa
  · rw [ExtendedMantissa.roundedMantissa, accuracy_shiftRight hdvd, Accuracy.roundToNearestEven,
      mantissa_shiftRight]
    exact Nat.div_le_of_le_mul (by rwa [Nat.mul_comm])
  · have hne : mantissa ≠ n * 2 ^ k := fun heq => hdvd (heq ▸ Nat.dvd_mul_left _ _)
    have hfloor : mantissa / 2 ^ k < n :=
      (Nat.div_lt_iff_lt_mul (Nat.two_pow_pos k)).mpr (lt_of_le_of_ne h hne)
    have hbounds := roundedMantissa_bounds ((⟨mantissa, false, false⟩ : ExtendedMantissa) >>> k)
    rw [mantissa_shiftRight] at hbounds
    exact hbounds.2.trans hfloor

end Shift

-- The exponent that a number is rounded to.
def roundedExponent (m : Nat) (e : Int) : Int := max (m.log2 + 1 + e - 53) (-1074)

-- The result of rounding: a digit that is carried over the top is shifted out again.
inductive Rounds (sign : Sign) (r : Nat) (t : Int) : UnpackedFloat → Prop
  | zero (h : r = 0) : Rounds sign r t (.zero sign)
  | finite (hpos : 0 < r) (hlt : r < 2 ^ 53) : Rounds sign r t (.finite sign r t hpos)
  | carried (h : r = 2 ^ 53) : Rounds sign r t (.finite sign (2 ^ 52) (t + 1) (by decide))

theorem shiftToTargetExponent_eq {m : Nat} {e : Int} (t : Int) (ht : max e (roundedExponent m e) = t) :
    shiftToTargetExponent Format.binary64 m e .exact =
      ((⟨m, false, false⟩ : ExtendedMantissa) >>> (t - e).toNat, t) := by
  have hamount : (roundedExponent m e - e).toNat = (t - e).toNat := by omega
  refine Prod.ext ?_ ?_
  · change (⟨m, false, false⟩ : ExtendedMantissa) >>> (roundedExponent m e - e).toNat = _
    rw [hamount]
  · change e + ((roundedExponent m e - e).toNat : Int) = t
    omega

-- The last step of rounding, where a digit may have been carried.
def settle (sign : Sign) (r : Nat) (t : Int) : UnpackedFloat :=
  let (em, e) := shiftToTargetExponent Format.binary64 r t .exact
  if h : em.mantissa = 0 then .zero sign else .finite sign em.mantissa e (Nat.pos_of_ne_zero h)

theorem rounds_settle (sign : Sign) {r : Nat} {t : Int} (hr : r ≤ 2 ^ 53) (ht : -1074 ≤ t) :
    Rounds sign r t (settle sign r t) := by
  unfold settle
  by_cases hcarried : r = 2 ^ 53
  · subst hcarried
    have hlog : Nat.log2 (2 ^ 53) = 53 := by decide
    rw [shiftToTargetExponent_eq (t + 1) (by rw [roundedExponent, hlog]; omega)]
    have hone : (t + 1 - t).toNat = 1 := by omega
    rw [hone]
    exact .carried rfl
  · have hlog : r.log2 < 53 := by
      rcases Nat.eq_zero_or_pos r with rfl | hpos
      · decide
      · exact (Nat.log2_lt hpos.ne').mpr (by omega)
    rw [shiftToTargetExponent_eq t (by rw [roundedExponent]; omega)]
    have hzero : (t - t).toNat = 0 := by omega
    rw [hzero]
    change Rounds sign r t (if h : r = 0 then _ else _)
    split
    · exact .zero ‹_›
    · exact .finite _ (by omega)

theorem rounds_roundWithAccuracy (sign : Sign) {m : Nat} {e : Int} (he : e ≤ roundedExponent m e)
    (hr : shifted m (roundedExponent m e - e).toNat ≤ 2 ^ 53) :
    Rounds sign (shifted m (roundedExponent m e - e).toNat) (roundedExponent m e)
      (roundWithAccuracy Format.binary64 sign m e .exact) := by
  have hsettle : roundWithAccuracy Format.binary64 sign m e .exact =
      settle sign (shiftToTargetExponent Format.binary64 m e .exact).1.roundedMantissa
        (shiftToTargetExponent Format.binary64 m e .exact).2 := rfl
  rw [hsettle, shiftToTargetExponent_eq _ (max_eq_right he)]
  exact rounds_settle sign hr (le_max_right _ _)

theorem log2_shiftLeft {m : Nat} (hm : 0 < m) (j : Nat) : (m <<< j).log2 = m.log2 + j := by
  have hshift : m <<< j ≠ 0 := by
    rw [Nat.shiftLeft_eq]
    positivity
  rw [Nat.log2_eq_iff hshift, Nat.shiftLeft_eq]
  obtain ⟨hle, hlt⟩ := (Nat.log2_eq_iff hm.ne').mp rfl
  refine ⟨?_, ?_⟩
  · rw [Nat.pow_add]
    exact Nat.mul_le_mul_right _ hle
  · rw [Nat.add_right_comm, Nat.pow_add]
    exact Nat.mul_lt_mul_of_pos_right hlt (Nat.two_pow_pos j)

-- The size of a number with a significand and an exponent.
def size (m : Nat) (e : Int) : ℚ := m * 2 ^ e

theorem size_le_size_iff {m n : Nat} {e : Int} : size m e ≤ size n e ↔ m ≤ n := by
  unfold size
  rw [mul_le_mul_iff_left₀ (zpow_pos two_pos e), Nat.cast_le]

theorem size_shiftLeft (m j : Nat) (e : Int) : size (m <<< j) (e - j) = size m e := by
  rw [size, size, Nat.shiftLeft_eq, Nat.cast_mul, Nat.cast_pow, Nat.cast_ofNat, mul_assoc, ← zpow_natCast,
    ← zpow_add₀ two_ne_zero, add_sub_cancel]

theorem size_mul_two_pow (m k : Nat) (e : Int) : size (m * 2 ^ k) e = size m (e + k) := by
  rw [← Nat.shiftLeft_eq, ← size_shiftLeft m k (e + k), add_sub_cancel_right]

theorem size_two_pow (k : Nat) (e : Int) : size (2 ^ k) e = 2 ^ (k + e) := by
  rw [size, Nat.cast_pow, Nat.cast_ofNat, ← zpow_natCast, ← zpow_add₀ two_ne_zero]

theorem size_lt_two_pow {m k : Nat} (h : m < 2 ^ k) (e : Int) : size m e < 2 ^ (k + e) := by
  rw [← size_two_pow, lt_iff_not_ge, size_le_size_iff]
  exact not_le.mpr h

theorem two_pow_le_size {m k : Nat} (h : 2 ^ k ≤ m) (e : Int) : 2 ^ (k + e) ≤ size m e := by
  rw [← size_two_pow, size_le_size_iff]
  exact h

theorem two_zpow_le {a b : Int} (h : a ≤ b) : (2 : ℚ) ^ a ≤ 2 ^ b := zpow_le_zpow_right₀ one_le_two h

-- The significands and exponents that doubles have, but for the largest exponents.
structure IsCanonical (m : Nat) (e : Int) : Prop where
  digits : m < 2 ^ 53
  least : -1074 ≤ e
  normal : -1074 < e → 2 ^ 52 ≤ m

namespace IsCanonical

variable {m n : Nat} {e f t : Int}

theorem size_lt_of_lt (hm : IsCanonical m e) (h : e < t) : size m e < size (2 ^ 52) t := by
  have hbelow := size_lt_two_pow hm.digits e
  have hexponent : (53 : Nat) + e ≤ (52 : Nat) + t := by omega
  rw [size_two_pow]
  exact hbelow.trans_le (two_zpow_le hexponent)

-- The exponents come first in the order of sizes, and then the significands.
theorem size_le_iff (hm : IsCanonical m e) (hn : IsCanonical n f) :
    size m e ≤ size n f ↔ e < f ∨ e = f ∧ m ≤ n := by
  have hlt : ∀ {m n : Nat} {e f : Int}, IsCanonical m e → IsCanonical n f → e < f → size m e < size n f :=
    fun hm hn h => (hm.size_lt_of_lt h).trans_le (size_le_size_iff.mpr (hn.normal (hm.least.trans_lt h)))
  rcases lt_trichotomy e f with h | rfl | h
  · simp [h, (hlt hm hn h).le]
  · simp [size_le_size_iff]
  · simp [h.not_gt, h.ne', hlt hn hm h]

end IsCanonical

-- The multiple of a unit that a number is rounded to. It does not pass any other multiple, and the unit is
-- the largest one that leaves all digits, if there is one.
structure Nearest (m : Nat) (e : Int) (r : Nat) (t : Int) : Prop where
  least : -1074 ≤ t
  normal : -1074 < t → size (2 ^ 52) t ≤ size m e
  above : ∀ n, size n t ≤ size m e → n ≤ r
  below : ∀ n, size m e ≤ size n t → r ≤ n

theorem roundedExponent_shiftLeft {m : Nat} (hm : 0 < m) (j : Nat) (e : Int) :
    roundedExponent (m <<< j) (e - j) = roundedExponent m e := by
  simp only [roundedExponent, log2_shiftLeft hm]
  omega

-- At the exponent that it is rounded to, a number has no more than 53 digits, and no fewer than that above
-- the least exponent.
theorem size_lt_roundedExponent (m : Nat) (e : Int) : size m e < size (2 ^ 53) (roundedExponent m e) := by
  have hexponent : (m.log2 + 1 : Nat) + e ≤ (53 : Nat) + roundedExponent m e := by
    rw [roundedExponent]
    omega
  rw [size_two_pow]
  exact (size_lt_two_pow Nat.lt_log2_self e).trans_le (two_zpow_le hexponent)

theorem roundedExponent_le_size {m : Nat} {e : Int} (hm : 0 < m) (hlarge : -1074 < roundedExponent m e) :
    size (2 ^ 52) (roundedExponent m e) ≤ size m e := by
  have hexponent : (52 : Nat) + roundedExponent m e = m.log2 + e := by
    rw [roundedExponent] at hlarge ⊢
    omega
  rw [size_two_pow, hexponent]
  exact two_pow_le_size (Nat.log2_self_le hm.ne') e

theorem exists_rounds (sign : Sign) {m : Nat} (hm : 0 < m) (e : Int) :
    ∃ r t, Rounds sign r t (round Format.binary64 sign m e) ∧ Nearest m e r t := by
  -- The significand gets as many zeros first as its exponent is above the one that it is rounded to.
  let t := roundedExponent m e
  let j := (e - t).toNat
  let k := (t - (e - j)).toNat
  have ht : roundedExponent (m <<< j) (e - j) = t := roundedExponent_shiftLeft hm j e
  have hle : e - j ≤ t := by omega
  have hk : t = (e - j) + k := by omega
  have habove : ∀ n, size n t ≤ size m e → n ≤ shifted (m <<< j) k := by
    intro n hn
    rw [hk, ← size_mul_two_pow, ← size_shiftLeft m j, size_le_size_iff] at hn
    exact le_shifted hn
  have hbelow : ∀ n, size m e ≤ size n t → shifted (m <<< j) k ≤ n := by
    intro n hn
    rw [hk, ← size_mul_two_pow, ← size_shiftLeft m j, size_le_size_iff] at hn
    exact shifted_le hn
  have hdigits : shifted (m <<< j) k ≤ 2 ^ 53 := hbelow _ (size_lt_roundedExponent m e).le
  have hrounds := rounds_roundWithAccuracy sign (ht.symm ▸ hle) (ht.symm ▸ hdigits)
  rw [ht] at hrounds
  exact ⟨shifted (m <<< j) k, t, hrounds, le_max_right _ _, roundedExponent_le_size hm, habove, hbelow⟩

theorem exists_multiple (n : Nat) {f t : Int} (ht : t ≤ f) : ∃ multiple, size n f = size multiple t := by
  obtain ⟨k, hk⟩ := Int.eq_ofNat_of_zero_le (sub_nonneg.mpr ht)
  have hf : f = t + k := by omega
  exact ⟨n * 2 ^ k, by rw [size_mul_two_pow, hf]⟩

namespace Nearest

variable {m n r : Nat} {e f t : Int} (h : Nearest m e r t) (hn : IsCanonical n f)

include h hn

-- Nothing that a double can be lies between a number and what it is rounded to.
theorem le_size (hle : size n f ≤ size m e) : size n f ≤ size r t := by
  rcases le_or_gt t f with ht | ht
  · obtain ⟨multiple, hmultiple⟩ := exists_multiple n ht
    rw [hmultiple] at hle ⊢
    exact size_le_size_iff.mpr (h.above multiple hle)
  · have hdigits := h.above _ (h.normal (hn.least.trans_lt ht))
    exact (hn.size_lt_of_lt ht).le.trans (size_le_size_iff.mpr hdigits)

theorem size_le (hle : size m e ≤ size n f) : size r t ≤ size n f := by
  rcases le_or_gt t f with ht | ht
  · obtain ⟨multiple, hmultiple⟩ := exists_multiple n ht
    rw [hmultiple] at hle ⊢
    exact size_le_size_iff.mpr (h.below multiple hle)
  · have hlarge := h.normal (hn.least.trans_lt ht)
    exact absurd (hle.trans_lt (hn.size_lt_of_lt ht)) (not_lt.mpr hlarge)

end Nearest

-- Zeros and the numbers with a canonical form.
inductive IsRegular : UnpackedFloat → Prop
  | zero (sign : Sign) : IsRegular (.zero sign)
  | finite {m : Nat} {e : Int} (sign : Sign) (hpos : 0 < m) (hcanonical : IsCanonical m e) :
      IsRegular (.finite sign m e hpos)

def signedSize : UnpackedFloat → ℚ
  | .finite .positive m e _ => size m e
  | .finite .negative m e _ => -size m e
  | _ => 0

theorem size_pos {m : Nat} (hpos : 0 < m) (e : Int) : 0 < size m e :=
  mul_pos (Nat.cast_pos.mpr hpos) (zpow_pos two_pos e)

theorem le_iff_signedSize {a b : UnpackedFloat} (ha : IsRegular a) (hb : IsRegular b) :
    a.le b = true ↔ signedSize a ≤ signedSize b := by
  unfold UnpackedFloat.le
  cases ha with
  | zero sign =>
      cases hb with
      | zero sign' => simp [UnpackedFloat.compare, signedSize]
      | @finite n f sign' hn _ =>
          have hsize := size_pos hn f
          cases sign' <;> simp [UnpackedFloat.compare, signedSize, hsize, hsize.le]
  | @finite m e sign hm hcanonical =>
      have hsize := size_pos hm e
      cases hb with
      | zero sign' => cases sign <;> simp [UnpackedFloat.compare, signedSize, hsize, hsize.le]
      | @finite n f sign' hn hcanonical' =>
          have hsize' := size_pos hn f
          have hdown : ¬size m e ≤ -size n f := by linarith
          have hup : -size m e ≤ size n f := by linarith
          cases sign <;> cases sign' <;>
            simp [UnpackedFloat.compare, signedSize, hdown, hup, isLE_then_iff, isGE_then_iff,
              hcanonical.size_le_iff hcanonical', hcanonical'.size_le_iff hcanonical, @eq_comm _ f e]

theorem signedSize_finite (sign : Sign) {m : Nat} (e : Int) (hpos : 0 < m) :
    signedSize (.finite sign m e hpos) = (sign.apply m : Int) * 2 ^ e := by
  cases sign <;> simp [signedSize, Sign.apply, size]

theorem Rounds.isRegular {sign : Sign} {m r : Nat} {e t : Int} {result : UnpackedFloat}
    (h : Rounds sign r t result) (hnearest : Nearest m e r t) : IsRegular result := by
  have hnormal : -1074 < t → 2 ^ 52 ≤ r := fun ht => hnearest.above _ (hnearest.normal ht)
  have hleast := hnearest.least
  cases h with
  | zero => exact .zero sign
  | finite hpos hlt => exact .finite sign hpos ⟨hlt, hleast, hnormal⟩
  | carried => exact .finite sign _ ⟨by decide, by omega, fun _ => le_rfl⟩

theorem Rounds.signedSize_eq {sign : Sign} {r : Nat} {t : Int} {result : UnpackedFloat}
    (h : Rounds sign r t result) : signedSize result = (sign.apply r : Int) * 2 ^ t := by
  cases h with
  | zero hr => subst hr; cases sign <;> simp [signedSize, Sign.apply]
  | finite hpos => exact signedSize_finite sign t hpos
  | carried hr =>
      subst hr
      have hcarried : size (2 ^ 52) (t + 1) = size (2 ^ 53) t := by
        rw [size_two_pow, size_two_pow]
        exact congrArg _ (by push_cast; ring)
      cases sign
      · simpa [signedSize, Sign.apply, size] using hcarried
      · simpa [signedSize, Sign.apply, size] using hcarried

namespace IsRegular

variable {bound : UnpackedFloat} (h : IsRegular bound)

include h

theorem nonpos_or : signedSize bound ≤ 0 ∨ ∃ n f, IsCanonical n f ∧ signedSize bound = size n f := by
  cases h with
  | zero sign => exact .inl le_rfl
  | @finite n f sign hn hcanonical =>
      cases sign with
      | negative => exact .inl (neg_nonpos.mpr (size_pos hn f).le)
      | positive => exact .inr ⟨n, f, hcanonical, rfl⟩

theorem nonneg_or : 0 ≤ signedSize bound ∨ ∃ n f, IsCanonical n f ∧ signedSize bound = -size n f := by
  cases h with
  | zero sign => exact .inl le_rfl
  | @finite n f sign hn hcanonical =>
      cases sign with
      | positive => exact .inl (size_pos hn f).le
      | negative => exact .inr ⟨n, f, hcanonical, rfl⟩

-- Rounding keeps a number on its side of everything that a double can be.
theorem le_round (sign : Sign) {m : Nat} (hm : 0 < m) (e : Int)
    (hle : signedSize bound ≤ (sign.apply m : Int) * 2 ^ e) :
    IsRegular (round Format.binary64 sign m e) ∧
      signedSize bound ≤ signedSize (round Format.binary64 sign m e) := by
  obtain ⟨r, t, hrounds, hnearest⟩ := exists_rounds sign hm e
  refine ⟨hrounds.isRegular hnearest, ?_⟩
  rw [hrounds.signedSize_eq]
  cases sign with
  | positive =>
      have happly : ∀ (n : Nat) (f : Int), ((Sign.positive.apply n : Int) : ℚ) * 2 ^ f = size n f :=
        fun n f => by simp [Sign.apply, size]
      rw [happly] at hle ⊢
      rcases h.nonpos_or with hnonpos | ⟨n, f, hcanonical, hbound⟩
      · exact hnonpos.trans (mul_nonneg r.cast_nonneg (zpow_pos two_pos t).le)
      · rw [hbound] at hle ⊢
        exact hnearest.le_size hcanonical hle
  | negative =>
      have happly : ∀ (n : Nat) (f : Int), ((Sign.negative.apply n : Int) : ℚ) * 2 ^ f = -size n f :=
        fun n f => by simp [Sign.apply, size]
      rw [happly] at hle ⊢
      rcases h.nonneg_or with hnonneg | ⟨n, f, hcanonical, hbound⟩
      · linarith [size_pos hm e]
      · rw [hbound, neg_le_neg_iff] at hle ⊢
        exact hnearest.size_le hcanonical hle

-- The sign of an exact result is split off before it is rounded.
theorem le_normalize (mantissa e : Int) (zeroSign : Sign) (hle : signedSize bound ≤ mantissa * 2 ^ e) :
    IsRegular (UnpackedFloat.normalize Format.binary64 mantissa e zeroSign) ∧
      signedSize bound ≤ signedSize (UnpackedFloat.normalize Format.binary64 mantissa e zeroSign) := by
  unfold UnpackedFloat.normalize
  rcases lt_trichotomy mantissa 0 with hlt | rfl | hgt
  · rw [compare_lt_iff_lt.mpr hlt]
    have hmantissa : mantissa = Sign.negative.apply (-mantissa).toNat := by
      change mantissa = -((-mantissa).toNat : Int)
      omega
    rw [hmantissa] at hle
    exact h.le_round .negative (by omega) e hle
  · rw [compare_eq_iff_eq.mpr rfl]
    exact ⟨.zero zeroSign, by simpa [signedSize] using hle⟩
  · rw [compare_gt_iff_gt.mpr hgt]
    have hmantissa : mantissa = Sign.positive.apply mantissa.toNat := (Int.toNat_of_nonneg hgt.le).symm
    rw [hmantissa] at hle
    exact h.le_round .positive (by omega) e hle

end IsRegular

end TaskSpace.Double
