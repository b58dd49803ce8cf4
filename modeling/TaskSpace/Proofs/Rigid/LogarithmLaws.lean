import Mathlib
import TaskSpace.Proofs.Rigid.DoubleCover

namespace TaskSpace.Rigid

namespace Quat

variable {g : Quat ℝ} {v : Vec3 ℝ}

-- The quaternion of the rotation about a vector by its length.
noncomputable def exponential (v : Vec3 ℝ) : Quat ℝ := ofAxisAngle v.normalize v.norm

theorem exponential_zero : exponential .zero = identity := by
  rw [exponential, (Vec3.norm_eq_zero_iff _).mpr rfl, ofAxisAngle_zero]

theorem rotationLog_exponential (hv : v.norm < Real.pi) : (exponential v).rotationLog = v := by
  by_cases hzero : v = .zero
  · rw [hzero, exponential_zero, rotationLog_eq_scale]
    ext <;> simp [imaginary, identity]
  · have hangle : |v.norm| < Real.pi := by
      rwa [abs_of_nonneg v.norm_nonneg]
    rw [exponential, rotationLog_ofAxisAngle (v.normalize_isUnit hzero) hangle,
      Vec3.scale_norm_normalize hzero]

-- A turn by less than half a turn has a positive real part.
theorem exponential_w_ne_zero (hv : v.norm < Real.pi) : (exponential v).w ≠ 0 := by
  have hpos : 0 < Real.cos (v.norm / 2) :=
    Real.cos_pos_of_mem_Ioo ⟨by linarith [v.norm_nonneg, Real.pi_pos], by linarith⟩
  rw [exponential, ofAxisAngle_w]
  exact hpos.ne'

theorem rotationLog_conjugate (q : Quat ℝ) : q.conjugate.rotationLog = q.rotationLog.scale (-1) := by
  have himaginary : q.conjugate.imaginary = q.imaginary.scale (-1) := by
    ext <;> simp [imaginary, Quat.conjugate]
  have hnorm : q.conjugate.imaginary.norm = q.imaginary.norm := by
    rw [himaginary, Vec3.norm_scale_neg]
  rw [rotationLog_of_parts hnorm rfl, rotationLog_eq_scale q, himaginary, Vec3.scale_scale,
    Vec3.scale_scale, mul_comm]

theorem IsUnit.imaginary_conjugation (hg : g.IsUnit) (q : Quat ℝ) :
    (g * q * g.conjugate).imaginary = g.rotate q.imaginary := by
  rw [hg.rotate_eq]
  ext <;> simp only [imaginary, mul_x, mul_y, mul_z, mul_w, Quat.conjugate, toMatrix, Mat3.apply,
    Vec3.dot_eq, Vec3.map_x, Vec3.map_y, Vec3.map_z, Scalar.real_two] <;> ring

theorem IsUnit.w_conjugation (hg : g.IsUnit) (q : Quat ℝ) : (g * q * g.conjugate).w = q.w := by
  rw [isUnit_iff] at hg
  simp only [mul_x, mul_y, mul_z, mul_w, Quat.conjugate]
  linear_combination q.w * hg

-- Seen from a turned frame, the same turn is about the turned axis.
theorem IsUnit.rotationLog_conjugation (hg : g.IsUnit) (q : Quat ℝ) :
    (g * q * g.conjugate).rotationLog = g.rotate q.rotationLog := by
  have himaginary := hg.imaginary_conjugation q
  have hnorm : (g * q * g.conjugate).imaginary.norm = q.imaginary.norm := by
    rw [himaginary, hg.norm_rotate]
  rw [rotationLog_of_parts hnorm (hg.w_conjugation q), himaginary, ← rotate_scale, ← rotationLog_eq_scale]

-- The logarithm undoes the exponential on both sides of the sphere, and goes along with inverses and
-- with a change of the frame. Only half turns have two logarithms.
theorem rotationLog_laws :
    (∀ v : Vec3 ℝ, v.norm < Real.pi →
      (exponential v).rotationLog = v ∧ ((exponential v).scale (-1)).rotationLog = v) ∧
    ∀ q g : Quat ℝ, g.IsUnit →
      q.conjugate.rotationLog = q.rotationLog.scale (-1) ∧
      (g * q * g.conjugate).rotationLog = g.rotate q.rotationLog ∧
      (q.scale (-1)).rotationLog = if q.w = 0 then q.rotationLog.scale (-1) else q.rotationLog := by
  constructor
  · intro v hv
    have hlog := rotationLog_exponential hv
    have hopposite : ((exponential v).scale (-1)).SameRotation (exponential v) := Or.inr rfl
    exact ⟨hlog, (hopposite.rotationLog_eq (exponential_w_ne_zero hv)).trans hlog⟩
  · intro q g hg
    refine ⟨rotationLog_conjugate q, hg.rotationLog_conjugation q, ?_⟩
    split_ifs with hw
    · exact SameRotation.rotationLog_scale_neg hw
    · exact SameRotation.rotationLog_eq (Or.inr rfl) hw

-- A turn by three, and a half turn seen from a frame that is turned by a third about the diagonal.
theorem rotationLog_halfTurn :
    let turn : Vec3 ℝ := ⟨1, 2, 2⟩
    let halfTurn : Quat ℝ := ⟨1, 0, 0, 0⟩
    let frame : Quat ℝ := ⟨0.5, 0.5, 0.5, 0.5⟩
    (turn.norm < Real.pi ∧ ((exponential turn).scale (-1)).rotationLog = turn) ∧
      frame.IsUnit ∧
      (frame * halfTurn * frame.conjugate).rotationLog = frame.rotate halfTurn.rotationLog ∧
      (halfTurn.scale (-1)).rotationLog = halfTurn.rotationLog.scale (-1) := by
  intro turn halfTurn frame
  have hturn : turn.norm < Real.pi := by
    have hnorm : turn.norm = 3 := by
      rw [Vec3.norm, Vec3.dot_eq, Scalar.real_sqrt, Real.sqrt_eq_iff_mul_self_eq] <;> norm_num [turn]
    rw [hnorm]
    exact Real.pi_gt_three
  have hframe : frame.IsUnit := by
    norm_num [isUnit_iff, frame]
  obtain ⟨_, hconjugation, hnegation⟩ := rotationLog_laws.2 halfTurn frame hframe
  rw [if_pos rfl] at hnegation
  exact ⟨⟨hturn, (rotationLog_laws.1 turn hturn).2⟩, hframe, hconjugation, hnegation⟩

end Quat

end TaskSpace.Rigid
