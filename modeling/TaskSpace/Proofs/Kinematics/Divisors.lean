import Mathlib
import TaskSpace.Proofs.Kinematics.Extension
import TaskSpace.Proofs.Kinematics.Memory
import TaskSpace.Proofs.Rigid.Divisors

namespace TaskSpace.Kinematics

open Rigid
open ExtendedReal (dividingOr)

variable (byZero : ExtendedReal → ExtendedReal)

-- A chain only halves angles: no other division is met on the way to the pose of a link.
theorem Joint.motion_dividingOr (joint : Joint ExtendedReal) (position : ExtendedReal) :
    @motion ExtendedReal (dividingOr byZero).toScalar joint position = joint.motion position := by
  unfold motion
  cases joint.kind with
  | prismatic => rfl
  | revolute => exact congrArg (Pose.mk · .zero) (Quat.ofAxisAngle_dividingOr byZero _ _)

theorem Chain.jointFrames_dividingOr (start : Pose ExtendedReal) (joints : List (Joint ExtendedReal))
    (positions : List ExtendedReal) :
    @jointFrames ExtendedReal (dividingOr byZero).toScalar start joints positions =
      jointFrames start joints positions := by
  induction joints generalizing start positions with
  | nil => cases positions <;> rfl
  | cons joint joints ih =>
      cases positions with
      | nil => rfl
      | cons position positions =>
          simp only [jointFrames, joint.motion_dividingOr byZero, ih]
          rfl

theorem Scratchpad.fill_dividingOr (chain : Chain ExtendedReal) (positions : List ExtendedReal) :
    @fill ExtendedReal (dividingOr byZero).toScalar chain positions = fill chain positions := by
  unfold fill
  rw [← Chain.jointFrames_dividingOr byZero]
  rfl

theorem Scratchpad.update_dividingOr (pad : Scratchpad ExtendedReal) (chain : Chain ExtendedReal)
    (positions : List ExtendedReal) :
    @update ExtendedReal (dividingOr byZero).toScalar pad chain positions = pad.update chain positions := by
  unfold update
  rw [fill_dividingOr]
  rfl

theorem Chain.locate_dividingOr (chain : Chain ExtendedReal) (positions : List ExtendedReal) (link : String) :
    @locate ExtendedReal (dividingOr byZero).toScalar chain positions link =
      chain.locate positions link := by
  unfold locate
  simp only [Scratchpad.update_dividingOr]

theorem Chain.jointGroup_dividingOr (chain : Chain ExtendedReal) :
    @jointGroup ExtendedReal (dividingOr byZero).toScalar chain = chain.jointGroup := by
  unfold jointGroup linkPose geometricJacobian
  simp only [locate_dividingOr]
  rfl

end TaskSpace.Kinematics
