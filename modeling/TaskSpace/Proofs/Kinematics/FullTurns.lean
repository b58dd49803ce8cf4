import Mathlib
import TaskSpace.Proofs.Kinematics.PairedRuns
import TaskSpace.Proofs.Rigid.DoubleCover

namespace TaskSpace.Rigid

-- Poses that place every point alike.
structure Pose.IsSame (p q : Pose ℝ) : Prop where
  rotation : p.rotation.SameRotation q.rotation
  translation : p.translation = q.translation

namespace Pose.IsSame

variable {p p' q q' : Pose ℝ}

theorem refl (p : Pose ℝ) : p.IsSame p := ⟨.refl _, rfl⟩

theorem mul (hp : p.IsSame p') (hq : q.IsSame q') : (p * q).IsSame (p' * q') where
  rotation := hp.rotation.mul hq.rotation
  translation := by
    rw [mul_translation, mul_translation, hp.translation, hq.translation, hp.rotation.rotate_eq]

end Pose.IsSame

end TaskSpace.Rigid

namespace TaskSpace.Kinematics

open Rigid

-- Positions of a joint that put its link in one place.
def Joint.FullTurnsApart (joint : Joint ℝ) (position position' : ℝ) : Prop :=
  position' = position ∨
    joint.kind = .revolute ∧ ∃ turns : ℤ, position' = position + turns * (2.0 * Real.pi)

theorem Joint.FullTurnsApart.motion {joint : Joint ℝ} {position position' : ℝ}
    (h : joint.FullTurnsApart position position') :
    (joint.motion position').IsSame (joint.motion position) := by
  rcases h with rfl | ⟨hkind, turns, rfl⟩
  · exact .refl _
  · unfold Joint.motion
    rw [hkind]
    exact ⟨Quat.sameRotation_ofAxisAngle_add joint.axis position turns, rfl⟩

-- A full turn of one joint changes the sign of all rotations behind it, and nothing else.
theorem carries_fullTurns : Carries Joint.FullTurnsApart (fun pose pose' => pose'.IsSame pose)
    (fun frame frame' => frame'.origin = frame.origin ∧ frame'.axis = frame.axis ∧
      frame'.link.IsSame frame.link) where
  base := .refl _
  step := by
    intro joint position position' start start' hturns hstart
    have hresting : (start' * joint.origin).IsSame (start * joint.origin) := hstart.mul (.refl _)
    exact ⟨hresting.translation, hresting.rotation.rotate_eq joint.axis, hresting.mul hturns.motion⟩
  link := fun h => h.2.2
  offset := fun offset h => h.mul (.refl offset)

-- So the links are in one place, and have the same twists.
theorem fullTurns_eq {chain : Chain ℝ} {q q' : Fin chain.dof → ℝ}
    (hturns : ∀ j, Joint.FullTurnsApart chain.joints[j] (q j) (q' j)) (place : LinkIndex) :
    ((Scratchpad.fill chain (List.ofFn q')).linkPose place).IsSame
        ((Scratchpad.fill chain (List.ofFn q)).linkPose place) ∧
      (Scratchpad.fill chain (List.ofFn q')).jacobian chain.joints place =
        (Scratchpad.fill chain (List.ofFn q)).jacobian chain.joints place := by
  have hpaired : Paired Joint.FullTurnsApart chain.joints (List.ofFn q) (List.ofFn q') :=
    paired_ofFn chain.joints hturns
  have hpose := carries_fullTurns.linkPose hpaired place
  refine ⟨hpose, ?_⟩
  have htwists := Scratchpad.map_jacobian_congr (carries_fullTurns.fill_joints hpaired) place id
    (fun kind frame frame' halike => by
      unfold Scratchpad.jointTwist
      rw [halike.1, halike.2.1, hpose.translation])
    chain.joints
  rw [List.map_id, List.map_id] at htwists
  exact htwists.symm

end TaskSpace.Kinematics
