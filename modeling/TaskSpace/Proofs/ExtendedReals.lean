import Mathlib
import TaskSpace.Proofs.Reals

namespace TaskSpace

-- Exact arithmetic with the two infinities and with a value that is not a number, by the rules of
-- floating-point numbers but without rounding. There is one zero, and it counts as positive.
inductive ExtendedReal
  | real (value : ℝ)
  | infinite (negative : Bool)
  | nan

namespace ExtendedReal

noncomputable section

def neg : ExtendedReal → ExtendedReal
  | real a => real (-a)
  | infinite negative => infinite !negative
  | nan => nan

def add : ExtendedReal → ExtendedReal → ExtendedReal
  | real a, real b => real (a + b)
  | infinite first, infinite second => if first = second then infinite first else nan
  | infinite negative, real _ => infinite negative
  | real _, infinite negative => infinite negative
  | _, _ => nan

def sub : ExtendedReal → ExtendedReal → ExtendedReal
  | real a, real b => real (a - b)
  | first, second => add first (neg second)

-- An infinity times a number: zero leaves nothing to say.
def infiniteTimes (negative : Bool) (a : ℝ) : ExtendedReal :=
  if a = 0 then nan else infinite (negative != decide (a < 0))

def mul : ExtendedReal → ExtendedReal → ExtendedReal
  | real a, real b => real (a * b)
  | infinite first, infinite second => infinite (first != second)
  | infinite negative, real a => infiniteTimes negative a
  | real a, infinite negative => infiniteTimes negative a
  | _, _ => nan

def div : ExtendedReal → ExtendedReal → ExtendedReal
  | real a, real b => if b = 0 then infiniteTimes false a else real (a / b)
  | infinite negative, real b => infinite (negative != decide (b < 0))
  | real _, infinite _ => real 0
  | _, _ => nan

def sqrt : ExtendedReal → ExtendedReal
  | real a => if a < 0 then nan else real √a
  | infinite false => infinite false
  | _ => nan

-- A function of finite numbers that has no limits.
def onReals (f : ℝ → ℝ) : ExtendedReal → ExtendedReal
  | real a => real (f a)
  | _ => nan

-- An infinite coordinate outweighs a finite one, and two infinite ones weigh the same.
def atan2 : ExtendedReal → ExtendedReal → ExtendedReal
  | real y, real x => real (Scalar.atan2 y x)
  | real _, infinite false => real 0
  | real y, infinite true => real (if y < 0 then -Real.pi else Real.pi)
  | infinite negative, real _ => real (Scalar.atan2 (if negative then -1 else 1) 0)
  | infinite first, infinite second =>
    real (Scalar.atan2 (if first then -1 else 1) (if second then -1 else 1))
  | _, _ => nan

def abs : ExtendedReal → ExtendedReal
  | real a => real |a|
  | infinite _ => infinite false
  | nan => nan

def signum : ExtendedReal → ExtendedReal
  | real a => real (Scalar.signum a)
  | infinite negative => real (if negative then -1 else 1)
  | nan => nan

def beq : ExtendedReal → ExtendedReal → Bool
  | real a, real b => decide (a = b)
  | infinite first, infinite second => first == second
  | _, _ => false

def lt : ExtendedReal → ExtendedReal → Prop
  | real a, real b => a < b
  | infinite first, infinite second => first = true ∧ second = false
  | infinite negative, real _ => negative = true
  | real _, infinite negative => negative = false
  | _, _ => False

def le : ExtendedReal → ExtendedReal → Prop
  | real a, real b => a ≤ b
  | infinite first, infinite second => first = true ∨ second = false
  | infinite negative, real _ => negative = true
  | real _, infinite negative => negative = false
  | _, _ => False

instance : ExtendedScalar ExtendedReal where
  zero := real 0
  one := real 1
  add := add
  sub := sub
  mul := mul
  div := div
  neg := neg
  ofScientific mantissa negative exponent := real (OfScientific.ofScientific mantissa negative exponent)
  beq := beq
  lt := lt
  le := le
  decidableLT _ _ := Classical.propDecidable _
  decidableLE _ _ := Classical.propDecidable _
  sqrt := sqrt
  sin := onReals Real.sin
  cos := onReals Real.cos
  atan2 := atan2
  abs := abs
  signum := signum
  pi := real Real.pi
  infinity := infinite false
  isNaN
    | nan => true
    | _ => false
  isFinite
    | real _ => true
    | _ => false

end

-- Finite numbers are computed with as over the real numbers, as long as no root of a negative number
-- is taken and nothing is divided by zero.
section Finite

variable (a b : ℝ)

theorem real_injective : Function.Injective real := fun _ _ h => real.inj h

@[simp] theorem zero_eq : (0 : ExtendedReal) = real 0 := rfl
@[simp] theorem one_eq : (1 : ExtendedReal) = real 1 := rfl
@[simp] theorem ofScientific_eq (mantissa : Nat) (negative : Bool) (exponent : Nat) :
    (OfScientific.ofScientific mantissa negative exponent : ExtendedReal) =
      real (OfScientific.ofScientific mantissa negative exponent) :=
  rfl

@[simp] theorem add_real : real a + real b = real (a + b) := rfl
@[simp] theorem sub_real : real a - real b = real (a - b) := rfl
@[simp] theorem mul_real : real a * real b = real (a * b) := rfl
@[simp] theorem neg_real : -real a = real (-a) := rfl

variable {a b} in
theorem div_real (hb : b ≠ 0) : real a / real b = real (a / b) := if_neg hb

variable {a} in
theorem sqrt_real (ha : 0 ≤ a) : Scalar.sqrt (real a) = real √a := if_neg (not_lt.mpr ha)

@[simp] theorem sin_real : Scalar.sin (real a) = real (Real.sin a) := rfl
@[simp] theorem cos_real : Scalar.cos (real a) = real (Real.cos a) := rfl
@[simp] theorem atan2_real : Scalar.atan2 (real a) (real b) = real (Scalar.atan2 a b) := rfl
@[simp] theorem abs_real : Scalar.abs (real a) = real |a| := rfl
@[simp] theorem signum_real : Scalar.signum (real a) = real (Scalar.signum a) := rfl

@[simp] theorem beq_real : (real a == real b) = decide (a = b) := rfl
@[simp] theorem lt_real : real a < real b ↔ a < b := Iff.rfl
@[simp] theorem le_real : real a ≤ real b ↔ a ≤ b := Iff.rfl

@[simp] theorem isNaN_real : ExtendedScalar.isNaN (real a) = false := rfl
@[simp] theorem isFinite_real : ExtendedScalar.isFinite (real a) = true := rfl

theorem isFinite_iff (value : ExtendedReal) :
    ExtendedScalar.isFinite value = true ↔ ∃ a, value = real a := by
  cases value with
  | real a => exact ⟨fun _ => ⟨a, rfl⟩, fun _ => rfl⟩
  | infinite negative => exact ⟨nofun, nofun⟩
  | nan => exact ⟨nofun, nofun⟩

end Finite

section Infinite

variable (a : ℝ) (negative : Bool)

@[simp] theorem neg_infinite : -infinite negative = infinite !negative := rfl
@[simp] theorem isNaN_infinite : ExtendedScalar.isNaN (infinite negative) = false := rfl
@[simp] theorem isNaN_nan : ExtendedScalar.isNaN nan = true := rfl
@[simp] theorem isFinite_infinite : ExtendedScalar.isFinite (infinite negative) = false := rfl
@[simp] theorem isFinite_nan : ExtendedScalar.isFinite nan = false := rfl
@[simp] theorem infinite_lt_real : infinite negative < real a ↔ negative = true := Iff.rfl
@[simp] theorem real_le_infinite : real a ≤ infinite negative ↔ negative = false := Iff.rfl

variable (first second : Bool) in
@[simp] theorem infinite_lt_infinite :
    infinite first < infinite second ↔ first = true ∧ second = false := Iff.rfl

theorem not_real_le_nan : ¬real a ≤ nan := nofun

theorem lt_of_le_of_lt_real {a : ExtendedReal} {b c : ℝ} (h : a ≤ real b) (h' : b < c) : a < real c := by
  cases a with
  | real number => exact lt_of_le_of_lt (le_real number b |>.mp h) h'
  | infinite negative => exact h
  | nan => exact h

-- Numbers that are not in one order are in the other.
theorem le_of_not_lt {first second : ExtendedReal} (hfirst : ExtendedScalar.isNaN first = false)
    (hsecond : ExtendedScalar.isNaN second = false) (h : ¬second < first) : first ≤ second := by
  cases first with
  | real a =>
      cases second with
      | real b => rwa [lt_real, not_lt, ← le_real] at h
      | infinite negative =>
          cases negative with
          | true => exact absurd rfl h
          | false => rfl
      | nan => cases hsecond
  | infinite negative =>
      cases negative with
      | true => cases second with
        | real b => rfl
        | infinite other => exact Or.inl rfl
        | nan => cases hsecond
      | false => cases second with
        | real b => exact absurd rfl h
        | infinite other =>
            cases other with
            | true => exact absurd ⟨rfl, rfl⟩ h
            | false => exact Or.inr rfl
        | nan => cases hsecond
  | nan => cases hfirst

end Infinite

section Halves

theorem half_real (a : ℝ) : real a / 2.0 = real (a / 2.0) := by
  rw [ofScientific_eq, div_real (by norm_num)]

theorem half_infinite (negative : Bool) : infinite negative / 2.0 = infinite negative := by
  change infinite (negative != decide ((2.0 : ℝ) < 0)) = infinite negative
  norm_num

theorem neg_half (a : ExtendedReal) : -a / 2.0 = -(a / 2.0) := by
  cases a with
  | real number => rw [neg_real, half_real, half_real, neg_real, neg_div]
  | infinite negative => rw [neg_infinite, half_infinite, half_infinite, neg_infinite]
  | nan => rfl

theorem half_le_half {a b : ExtendedReal} (h : a ≤ b) : a / 2.0 ≤ b / 2.0 := by
  cases a with
  | real first =>
      cases b with
      | real second =>
          rw [half_real, half_real, le_real, Scalar.real_two]
          rw [le_real] at h
          linarith
      | infinite negative =>
          rw [half_real, half_infinite]
          exact h
      | nan => exact False.elim h
  | infinite negative =>
      cases b with
      | real second =>
          rw [half_real, half_infinite]
          exact h
      | infinite other =>
          rw [half_infinite, half_infinite]
          exact h
      | nan => exact False.elim h
  | nan => cases b <;> exact False.elim h

end Halves

section Inversion

variable {first second : ExtendedReal} {a : ℝ}

-- A finite result shows that the operands were finite.
theorem exists_of_add_eq_real (h : first + second = real a) :
    (∃ b, first = real b) ∧ ∃ c, second = real c := by
  change add first second = real a at h
  cases first with
  | real b =>
      cases second with
      | real c => exact ⟨⟨b, rfl⟩, c, rfl⟩
      | infinite negative => cases h
      | nan => cases h
  | infinite negative =>
      cases second with
      | real c => cases h
      | infinite other =>
          by_cases hsame : negative = other
          · rw [add, if_pos hsame] at h
            cases h
          · rw [add, if_neg hsame] at h
            cases h
      | nan => cases h
  | nan => cases second <;> cases h

theorem exists_of_sub_eq_real (h : first - second = real a) :
    (∃ b, first = real b) ∧ ∃ c, second = real c := by
  cases second with
  | real c =>
      cases first with
      | real b => exact ⟨⟨b, rfl⟩, c, rfl⟩
      | infinite negative => cases h
      | nan => cases h
  | infinite negative =>
      have hadd : first + infinite (!negative) = real a := by
        cases first <;> exact h
      obtain ⟨_, _, habsurd⟩ := exists_of_add_eq_real hadd
      cases habsurd
  | nan => cases first <;> cases h

-- Not even zero makes an infinity finite.
theorem infiniteTimes_ne_real (negative : Bool) (b : ℝ) : infiniteTimes negative b ≠ real a := by
  unfold infiniteTimes
  split <;> exact nofun

theorem exists_of_mul_eq_real (h : first * second = real a) :
    (∃ b, first = real b) ∧ ∃ c, second = real c := by
  cases first with
  | real b =>
      cases second with
      | real c => exact ⟨⟨b, rfl⟩, c, rfl⟩
      | infinite negative => exact absurd h (infiniteTimes_ne_real negative b)
      | nan => cases h
  | infinite negative =>
      cases second with
      | real c => exact absurd h (infiniteTimes_ne_real negative c)
      | infinite other => cases h
      | nan => cases h
  | nan => cases second <;> cases h

-- Only the dividend: an infinite divisor leaves zero.
theorem exists_of_div_eq_real (h : first / second = real a) : ∃ b, first = real b := by
  cases first with
  | real b => exact ⟨b, rfl⟩
  | infinite negative => cases second <;> cases h
  | nan => cases second <;> cases h

theorem exists_of_sqrt_eq_real (h : Scalar.sqrt first = real a) : ∃ b, first = real b := by
  cases first with
  | real b => exact ⟨b, rfl⟩
  | infinite negative => cases negative <;> cases h
  | nan => cases h

end Inversion

-- What compares equal is one value: there is one zero.
theorem eq_of_beq {first second : ExtendedReal} (h : (first == second) = true) : first = second := by
  cases first with
  | real a =>
      cases second with
      | real b => exact congrArg real (of_decide_eq_true h)
      | infinite negative => cases h
      | nan => cases h
  | infinite negative =>
      cases second with
      | real b => cases h
      | infinite other => exact congrArg infinite (beq_iff_eq.mp h)
      | nan => cases h
  | nan => cases second <;> cases h

end ExtendedReal

end TaskSpace
