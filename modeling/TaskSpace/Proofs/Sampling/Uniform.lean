import Mathlib
import TaskSpace.Proofs.Sampling.Draws
import TaskSpace.Proofs.Sums
import TaskSpace.Sampling.Uniform

namespace TaskSpace.Sampling

open Double
open Float.Model (Format UnpackedFloat)
open Float.Model.UnpackedFloat

-- The first 52 bits of a number of 64 bits, as the fraction of a double from one to below two.
theorem fraction_bits (bits : BitVec 64) : bits >>> 12 ||| 0x3ff0000000000000#64 =
    packComponents Format.binary64 .positive 1023#11 ((bits >>> 12).setWidth 52) := by
  have hlow : ∀ i < 52, (0x3ff0000000000000#64).getLsbD i = false := by decide
  have hhigh : ∀ i < 12, (0x3ff0000000000000#64).getLsbD (52 + i) = (0#1 ++ 1023#11).getLsbD i := by decide
  apply BitVec.eq_of_getLsbD_eq
  intro i hi
  change _ = ((0#1 ++ 1023#11) ++ (bits >>> 12).setWidth 52 : BitVec 64).getLsbD i
  rw [BitVec.getLsbD_or, BitVec.getLsbD_append, BitVec.getLsbD_ushiftRight]
  by_cases hsmall : i < 52
  · simp [hsmall, hlow i hsmall]
  · obtain ⟨j, rfl⟩ := Nat.exists_eq_add_of_le (not_lt.mp hsmall)
    rw [hhigh j (by omega), BitVec.getLsbD_of_ge bits _ (by omega)]
    simp

theorem exists_unpack_fraction (bits : UInt64) : ∃ m hpos, IsCanonical m (-52) ∧ 2 ^ 52 ≤ m ∧
    (Float.ofBits (bits >>> 12 ||| 0x3ff0000000000000)).toModel.unpack = .finite .positive m (-52) hpos := by
  let fraction := (bits.toBitVec >>> 12).setWidth 52
  have hfraction := fraction.isLt
  have hcanonical : IsCanonical (2 ^ 52 + fraction.toNat) (-52) := ⟨by omega, by decide, fun _ => by omega⟩
  have hpos : 0 < 2 ^ 52 + fraction.toNat := by omega
  have hbits : unpack Format.binary64 (bits >>> 12 ||| 0x3ff0000000000000).toBitVec =
      .finite .positive (2 ^ 52 + fraction.toNat) (-52) hpos := by
    have hword : (bits >>> 12 ||| 0x3ff0000000000000).toBitVec =
        bits.toBitVec >>> 12 ||| 0x3ff0000000000000#64 := by simp
    rw [hword, fraction_bits]
    exact unpack_normal .positive fraction (by decide) (by decide)
  refine ⟨_, hpos, hcanonical, by omega, ?_⟩
  change unpack Format.binary64 (UnpackedFloat.pack Format.binary64 (unpack Format.binary64 _)) = _
  rw [hbits]
  exact unpack_pack_regular (.finite .positive hpos hcanonical) (by decide : (-52 : Int) ≤ 971)

namespace Generator

theorem coarseUnit_nonneg (generator : Generator) :
    OnSide .positive generator.coarseUnit.1.toModel.unpack := by
  obtain ⟨m, hpos, hcanonical, hle, hunpack⟩ := exists_unpack_fraction generator.next.1
  have hone : (1.0 : Float).toModel.unpack = .finite .positive (2 ^ 52) (-52) (by decide) := rfl
  have hregular : IsRegular (1.0 : Float).toModel.unpack := (regular_of_isFinite 1.0 rfl).1
  change OnSide .positive (Float.ofBits (generator.next.1 >>> 12 ||| 0x3ff0000000000000) - 1.0).toModel.unpack
  rw [unpack_sub, hunpack]
  refine (onSide_sub_regular (.finite .positive hpos hcanonical) hregular ?_).unpack_pack
  rw [hone]
  exact size_le_size_iff.mpr hle

-- Whatever is drawn again or rounded, what is taken lies between the ends.
theorem below_within {lower upper : Float} (hlt : lower < upper) (tries : Nat) (generator : Generator) :
    lower ≤ (below lower upper tries generator).1 ∧ (below lower upper tries generator).1 < upper := by
  have hle := Double.le_of_lt hlt
  obtain ⟨hlower, _⟩ := LawfulComparison.numbers_of_le hle
  induction tries generalizing generator with
  | zero => exact ⟨(LawfulComparison.total hlower hlower).elim id id, hlt⟩
  | succ tries ih =>
      rcases hdraw : generator.coarseUnit with ⟨share, next⟩
      have hshare : OnSide .positive share.toModel.unpack := by
        have hnonneg := generator.coarseUnit_nonneg
        rwa [hdraw] at hnonneg
      unfold below
      simp only [hdraw]
      split
      · rename_i hbelow
        refine ⟨?_, hbelow⟩
        obtain ⟨hsum, _⟩ := LawfulComparison.numbers_of_le (Double.le_of_lt hbelow)
        have hproduct := isNaN_of_isNaN_add hsum
        have hwidth := onSide_sub hle (isNaN_of_isNaN_mul hproduct)
        exact le_add (onSide_mul hshare hwidth hproduct) hsum
      · exact ih next

end Generator

theorem between?_keepsRange : Draw.KeepsRange Generator.between? where
  fails_iff lower upper source := by
    change (if lower < upper ∧ (upper - lower).isFinite = true then _ else none) = none ↔ _
    split
    · rename_i h
      exact ⟨nofun, fun hnot => absurd h hnot⟩
    · rename_i h
      exact ⟨fun _ => h, fun _ => rfl⟩
  within := by
    intro lower upper source value next h
    change (if lower < upper ∧ (upper - lower).isFinite = true then
      some (Generator.below lower upper 1024 source) else none) = some (value, next) at h
    split at h
    · rename_i hrange
      have hwithin := Generator.below_within hrange.1 1024 source
      rwa [Option.some.inj h] at hwithin
    · cases h

end TaskSpace.Sampling
