import Mathlib
import TaskSpace.Proofs.ExtendedReals

namespace TaskSpace

-- What comparing says of numbers, and that it says nothing of what is no number. More does not hold of
-- doubles: two zeros compare alike, and what is no number does not even compare with itself.
class LawfulComparison (α : Type) [ExtendedScalar α] : Prop where
  isNaN_abs (a : α) : ExtendedScalar.isNaN (Scalar.abs a) = ExtendedScalar.isNaN a
  numbers_of_le {a b : α} : a ≤ b → ExtendedScalar.isNaN a = false ∧ ExtendedScalar.isNaN b = false
  total {a b : α} : ExtendedScalar.isNaN a = false → ExtendedScalar.isNaN b = false → a ≤ b ∨ b ≤ a
  trans {a b c : α} : a ≤ b → b ≤ c → a ≤ c

namespace LawfulComparison

variable {α : Type} [ExtendedScalar α]

section Larger

variable [LawfulComparison α] (largest entry limit : α)

-- The larger one of two, as a fold sees it: the entry takes the place of what it is not below.
def larger : α := if entry ≤ largest then largest else entry

theorem isNaN_larger : ExtendedScalar.isNaN (larger largest entry) = ExtendedScalar.isNaN entry := by
  unfold larger
  split
  · rename_i hle
    obtain ⟨hentry, hlargest⟩ := numbers_of_le hle
    rw [hentry, hlargest]
  · rfl

-- The entry always counts, and what came before it only if it is a number.
theorem larger_le_iff : larger largest entry ≤ limit ↔
    entry ≤ limit ∧ (ExtendedScalar.isNaN largest = true ∨ largest ≤ limit) := by
  unfold larger
  split
  · rename_i hle
    have hnumber : ¬ExtendedScalar.isNaN largest = true := by
      rw [(numbers_of_le hle).2]
      exact Bool.false_ne_true
    rw [or_iff_right hnumber]
    exact ⟨fun hlimit => ⟨trans hle hlimit, hlimit⟩, And.right⟩
  · rename_i hnot
    refine ⟨fun hlimit => ⟨hlimit, ?_⟩, And.left⟩
    cases hlargest : ExtendedScalar.isNaN largest with
    | true => exact Or.inl rfl
    | false =>
        have hbelow := (total (numbers_of_le hlimit).1 hlargest).resolve_left hnot
        exact Or.inr (trans hbelow hlimit)

end Larger

-- Scalars whose numbers have places in a linear order.
theorem of_place {β : Type} [LinearOrder β] (place : α → Option β)
    (habs : ∀ a : α, ExtendedScalar.isNaN (Scalar.abs a) = ExtendedScalar.isNaN a)
    (hnumber : ∀ a : α, ExtendedScalar.isNaN a = false ↔ ∃ x, place a = some x)
    (hle : ∀ a b : α, a ≤ b ↔ ∃ x y, place a = some x ∧ place b = some y ∧ x ≤ y) :
    LawfulComparison α where
  isNaN_abs := habs
  numbers_of_le {a b} h := by
    obtain ⟨x, y, hx, hy, _⟩ := (hle a b).mp h
    exact ⟨(hnumber a).mpr ⟨x, hx⟩, (hnumber b).mpr ⟨y, hy⟩⟩
  total {a b} ha hb := by
    obtain ⟨x, hx⟩ := (hnumber a).mp ha
    obtain ⟨y, hy⟩ := (hnumber b).mp hb
    rcases le_total x y with h | h
    · exact Or.inl ((hle a b).mpr ⟨x, y, hx, hy, h⟩)
    · exact Or.inr ((hle b a).mpr ⟨y, x, hy, hx, h⟩)
  trans {a b c} hab hbc := by
    obtain ⟨x, y, hx, hy, hxy⟩ := (hle a b).mp hab
    obtain ⟨y', z, hy', hz, hyz⟩ := (hle b c).mp hbc
    obtain rfl : y = y' := Option.some.inj (hy.symm.trans hy')
    exact (hle a c).mpr ⟨x, z, hx, hz, hxy.trans hyz⟩

end LawfulComparison

namespace ExtendedReal

noncomputable def place : ExtendedReal → Option EReal
  | real a => some a
  | infinite negative => some (if negative then ⊥ else ⊤)
  | nan => none

theorem le_iff (first second : ExtendedReal) :
    first ≤ second ↔ ∃ x y, first.place = some x ∧ second.place = some y ∧ x ≤ y := by
  change le first second ↔ _
  rcases first with a | (_ | _) | _ <;> rcases second with b | (_ | _) | _ <;> simp [le, place]

instance : LawfulComparison ExtendedReal :=
  .of_place place (fun a => by cases a <;> rfl) (fun a => by cases a <;> simp [place]) le_iff

end ExtendedReal

namespace Double

open Float.Model (Format UnpackedFloat)
open Float.Model.UnpackedFloat

theorem isLE_then_iff (e f : Int) (m n : Nat) :
    ((compare e f).then (compare m n)).isLE = true ↔ e < f ∨ e = f ∧ m ≤ n := by
  rcases lt_trichotomy e f with h | rfl | h
  · simp [compare_lt_iff_lt.mpr h, h]
  · simp [Ordering.then, Nat.isLE_compare]
  · simp [compare_gt_iff_gt.mpr h, h.not_gt, h.ne']

theorem isGE_then_iff (e f : Int) (m n : Nat) :
    ((compare e f).then (compare m n)).isGE = true ↔ f < e ∨ e = f ∧ n ≤ m := by
  rcases lt_trichotomy e f with h | rfl | h
  · simp [compare_lt_iff_lt.mpr h, h.not_gt, h.ne]
  · simp [Ordering.then, Nat.isGE_compare]
  · simp [compare_gt_iff_gt.mpr h, h]

-- The place of a number in their order: first its sign and size, then exponent and significand, which
-- count the other way below zero.
def place : UnpackedFloat → Option (Int ×ₗ Int ×ₗ Int)
  | .notANumber => none
  | .infinity .negative => some (toLex (-2, toLex (0, 0)))
  | .finite .negative m e _ => some (toLex (-1, toLex (-e, -m)))
  | .zero _ => some (toLex (0, toLex (0, 0)))
  | .finite .positive m e _ => some (toLex (1, toLex (e, m)))
  | .infinity .positive => some (toLex (2, toLex (0, 0)))

theorem le_iff (a b : UnpackedFloat) :
    a.le b = true ↔ ∃ x y, place a = some x ∧ place b = some y ∧ x ≤ y := by
  unfold UnpackedFloat.le
  rcases a with (_ | _) | _ | _ | ⟨_ | _, m, e, hm⟩ <;>
    rcases b with (_ | _) | _ | _ | ⟨_ | _, n, f, hn⟩ <;>
      simp [UnpackedFloat.compare, place, Prod.Lex.le_iff, isLE_then_iff, isGE_then_iff] <;> rfl

theorem place_eq_none_iff (a : UnpackedFloat) : place a = none ↔ a.isNaN = true := by
  rcases a with (_ | _) | _ | _ | ⟨_ | _, m, e, hm⟩ <;> simp [place, UnpackedFloat.isNaN]

-- What is no number is told by its exponent and its significand, and packing keeps it apart: a result
-- that is too large becomes infinite.
theorem isNaN_unpack {format : Format} (bits : BitVec format.numBits) :
    (unpack format bits).isNaN = true ↔ unpackExponent bits = -1#_ ∧ unpackMantissa bits ≠ 0#_ := by
  by_cases hexponent : unpackExponent bits = -1#_
  · by_cases hmantissa : unpackMantissa bits = 0#_ <;>
      simp [unpack, hexponent, hmantissa, UnpackedFloat.isNaN]
  · have hnumber : (unpack format bits).isNaN = false := by
      unfold unpack
      simp only [if_neg hexponent]
      split
      · split <;> rfl
      · rfl
    simp [hnumber, hexponent]

theorem isNaN_unpack_pack (value : UnpackedFloat) :
    (unpack Format.binary64 (pack Format.binary64 value)).isNaN = value.isNaN := by
  rw [Bool.eq_iff_iff, isNaN_unpack]
  fun_cases pack with
  | case1 => simp [packedNaN, UnpackedFloat.isNaN]
  | case2 sign => simp [packedInfinity, UnpackedFloat.isNaN]
  | case3 sign => simp [packedZero, UnpackedFloat.isNaN]
  | case4 sign mantissa exponent hpos biased hlarge => simp [packedInfinity, UnpackedFloat.isNaN]
  | case5 sign mantissa exponent hpos digits biased hsmall hnormal =>
      have hfits : biased % 2048 ≠ 2047 := by
        have hlt : biased + 1 < 2048 := not_le.mp hsmall
        omega
      simp [UnpackedFloat.isNaN, ← BitVec.toNat_inj, hfits]
  | case6 sign mantissa exponent hpos digits biased hsmall hnormal => simp [UnpackedFloat.isNaN]

theorem le_iff_exists_place (a b : Float) : a ≤ b ↔
    ∃ x y, place a.toModel.unpack = some x ∧ place b.toModel.unpack = some y ∧ x ≤ y :=
  decide_eq_true_iff.trans (le_iff _ _)

theorem isNaN_eq_false_iff (a : Float) :
    ExtendedScalar.isNaN a = false ↔ ∃ x, place a.toModel.unpack = some x := by
  rw [← Option.isSome_iff_exists, Option.isSome_iff_ne_none, Ne, place_eq_none_iff, Bool.not_eq_true]
  rfl

theorem isNaN_abs (a : Float) : ExtendedScalar.isNaN (Scalar.abs a) = ExtendedScalar.isNaN a := by
  have hpacked := isNaN_unpack_pack a.toModel.unpack.abs
  refine hpacked.trans ?_
  change _ = a.toModel.unpack.isNaN
  cases a.toModel.unpack <;> rfl

instance : LawfulComparison Float :=
  .of_place (fun a => place a.toModel.unpack) isNaN_abs isNaN_eq_false_iff le_iff_exists_place

end Double

end TaskSpace
