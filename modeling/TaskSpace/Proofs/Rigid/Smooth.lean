import Mathlib
import TaskSpace.Proofs.Rigid.Turning

namespace TaskSpace.Rigid

variable {E : Type*} [NormedAddCommGroup E] [NormedSpace ℝ E]

-- Vectors, rotations and poses that depend differentiably on a parameter, entry by entry.
def Vec3.SmoothAt (f : E → Vec3 ℝ) (point : E) : Prop :=
  ∀ axis, DifferentiableAt ℝ (fun y => (f y).get axis) point

structure Quat.SmoothAt (f : E → Quat ℝ) (point : E) : Prop where
  x : DifferentiableAt ℝ (fun y => (f y).x) point
  y : DifferentiableAt ℝ (fun y => (f y).y) point
  z : DifferentiableAt ℝ (fun y => (f y).z) point
  w : DifferentiableAt ℝ (fun y => (f y).w) point

structure Pose.SmoothAt (f : E → Pose ℝ) (point : E) : Prop where
  rotation : Quat.SmoothAt (fun y => (f y).rotation) point
  translation : Vec3.SmoothAt (fun y => (f y).translation) point

variable {point : E}

namespace Vec3

variable {f g : E → Vec3 ℝ}

theorem smoothAt_const (v : Vec3 ℝ) : SmoothAt (fun _ : E => v) point :=
  fun _ => differentiableAt_const _

theorem SmoothAt.add (hf : SmoothAt f point) (hg : SmoothAt g point) :
    SmoothAt (fun y => f y + g y) point := by
  rintro (_ | _ | _)
  · exact (hf .x).add (hg .x)
  · exact (hf .y).add (hg .y)
  · exact (hf .z).add (hg .z)

theorem SmoothAt.sub (hf : SmoothAt f point) (hg : SmoothAt g point) :
    SmoothAt (fun y => f y - g y) point := by
  rintro (_ | _ | _)
  · exact (hf .x).sub (hg .x)
  · exact (hf .y).sub (hg .y)
  · exact (hf .z).sub (hg .z)

theorem SmoothAt.scale (hf : SmoothAt f point) {factor : E → ℝ}
    (hfactor : DifferentiableAt ℝ factor point) :
    SmoothAt (fun y => (f y).scale (factor y)) point := by
  rintro (_ | _ | _)
  · exact (hf .x).mul hfactor
  · exact (hf .y).mul hfactor
  · exact (hf .z).mul hfactor

theorem SmoothAt.cross (hf : SmoothAt f point) (hg : SmoothAt g point) :
    SmoothAt (fun y => (f y).cross (g y)) point := by
  rintro (_ | _ | _)
  · exact ((hf .y).mul (hg .z)).sub ((hf .z).mul (hg .y))
  · exact ((hf .z).mul (hg .x)).sub ((hf .x).mul (hg .z))
  · exact ((hf .x).mul (hg .y)).sub ((hf .y).mul (hg .x))

theorem SmoothAt.dot (hf : SmoothAt f point) (hg : SmoothAt g point) :
    DifferentiableAt ℝ (fun y => (f y).dot (g y)) point :=
  (((hf .x).mul (hg .x)).add ((hf .y).mul (hg .y))).add ((hf .z).mul (hg .z))

theorem SmoothAt.norm (hf : SmoothAt f point) (hne : (f point).norm ≠ 0) :
    DifferentiableAt ℝ (fun y => (f y).norm) point := by
  refine (hf.dot hf).sqrt ?_
  rw [← norm_sq]
  exact pow_ne_zero 2 hne

theorem SmoothAt.continuousAt_norm (hf : SmoothAt f point) :
    ContinuousAt (fun y => (f y).norm) point :=
  (hf.dot hf).continuousAt.sqrt

end Vec3

namespace Quat

variable {f g : E → Quat ℝ}

theorem smoothAt_const (q : Quat ℝ) : SmoothAt (fun _ : E => q) point := by
  constructor <;> exact differentiableAt_const _

theorem SmoothAt.imaginary (hf : SmoothAt f point) :
    Vec3.SmoothAt (fun y => (f y).imaginary) point := by
  rintro (_ | _ | _)
  · exact hf.x
  · exact hf.y
  · exact hf.z

theorem SmoothAt.conjugate (hf : SmoothAt f point) :
    SmoothAt (fun y => (f y).conjugate) point where
  x := hf.x.neg
  y := hf.y.neg
  z := hf.z.neg
  w := hf.w

theorem SmoothAt.mul (hf : SmoothAt f point) (hg : SmoothAt g point) :
    SmoothAt (fun y => f y * g y) point where
  x := (((hf.w.mul hg.x).add (hf.x.mul hg.w)).add (hf.y.mul hg.z)).sub (hf.z.mul hg.y)
  y := (((hf.w.mul hg.y).sub (hf.x.mul hg.z)).add (hf.y.mul hg.w)).add (hf.z.mul hg.x)
  z := (((hf.w.mul hg.z).add (hf.x.mul hg.y)).sub (hf.y.mul hg.x)).add (hf.z.mul hg.w)
  w := (((hf.w.mul hg.w).sub (hf.x.mul hg.x)).sub (hf.y.mul hg.y)).sub (hf.z.mul hg.z)

theorem SmoothAt.rotate (hf : SmoothAt f point) {g : E → Vec3 ℝ} (hg : Vec3.SmoothAt g point) :
    Vec3.SmoothAt (fun y => (f y).rotate (g y)) point := by
  have htwice := (hf.imaginary.cross hg).scale (differentiableAt_const (2.0 : ℝ))
  exact ((htwice.scale hf.w).add (hf.imaginary.cross htwice)).add hg

theorem SmoothAt.ofAxisAngle (axis : Vec3 ℝ) {angle : E → ℝ}
    (hangle : DifferentiableAt ℝ angle point) :
    SmoothAt (fun y => Quat.ofAxisAngle axis (angle y)) point := by
  have hhalf : DifferentiableAt ℝ (fun y => angle y / 2.0) point := by
    simpa only [div_eq_mul_inv] using hangle.mul_const (2.0 : ℝ)⁻¹
  constructor
  · exact hhalf.sin.const_mul axis.x
  · exact hhalf.sin.const_mul axis.y
  · exact hhalf.sin.const_mul axis.z
  · exact hhalf.cos

end Quat

namespace Pose

variable {f g : E → Pose ℝ}

theorem smoothAt_const (pose : Pose ℝ) : SmoothAt (fun _ : E => pose) point :=
  ⟨Quat.smoothAt_const _, Vec3.smoothAt_const _⟩

theorem SmoothAt.mul (hf : SmoothAt f point) (hg : SmoothAt g point) :
    SmoothAt (fun y => f y * g y) point :=
  ⟨hf.rotation.mul hg.rotation, hf.translation.add (hf.rotation.rotate hg.translation)⟩

end Pose

end TaskSpace.Rigid
