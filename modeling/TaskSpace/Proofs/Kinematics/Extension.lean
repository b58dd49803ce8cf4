import Mathlib
import TaskSpace.Kinematics.JointGroup
import TaskSpace.Proofs.Rigid.Extension

namespace TaskSpace.Kinematics

open Rigid
open ExtendedReal (real)

def Joint.extend (joint : Joint ℝ) : Joint ExtendedReal :=
  ⟨joint.name, joint.childLink, joint.origin.extend, joint.axis.extend, joint.kind,
    real joint.lowerLimit, real joint.upperLimit⟩

def Tip.extend (tip : Tip ℝ) : Tip ExtendedReal := ⟨tip.name, tip.offset.extend⟩

def JointFrame.extend (frame : JointFrame ℝ) : JointFrame ExtendedReal :=
  ⟨frame.origin.extend, frame.axis.extend, frame.link.extend⟩

def Chain.extend (chain : Chain ℝ) : Chain ExtendedReal :=
  ⟨chain.baseLink, chain.joints.map Joint.extend, chain.tip.map Tip.extend⟩

def Scratchpad.extend (pad : Scratchpad ℝ) : Scratchpad ExtendedReal :=
  ⟨pad.positions.map real, pad.filled, pad.joints.map JointFrame.extend, pad.tip.extend⟩

theorem Joint.extend_motion (joint : Joint ℝ) (position : ℝ) :
    (joint.motion position).extend = joint.extend.motion (real position) := by
  unfold motion extend
  cases joint.kind with
  | prismatic => exact Pose.extend_ofTranslation _
  | revolute =>
      simp only [← Quat.extend_ofAxisAngle]
      rfl

namespace Chain

variable (chain : Chain ℝ)

@[simp] theorem extend_dof : chain.extend.dof = chain.dof := List.length_map _

theorem extend_linkIndex? (link : String) : chain.extend.linkIndex? link = chain.linkIndex? link := by
  have htip : chain.extend.tip.any (·.name == link) = chain.tip.any (·.name == link) := by
    unfold extend
    cases chain.tip <;> rfl
  have hjoints : chain.extend.joints.findIdx? (·.childLink == link) =
      chain.joints.findIdx? (·.childLink == link) := by
    simp only [extend, List.findIdx?_map]
    rfl
  unfold linkIndex?
  rw [htip, hjoints]
  rfl

theorem extend_tipOffset : chain.tipOffset.extend = chain.extend.tipOffset := by
  unfold tipOffset extend
  cases chain.tip <;> rfl

theorem extend_jointFrames (start : Pose ℝ) (joints : List (Joint ℝ)) (positions : List ℝ) :
    jointFrames start.extend (joints.map Joint.extend) (positions.map real) =
      ((jointFrames start joints positions).1.map JointFrame.extend,
        (jointFrames start joints positions).2.extend) := by
  induction joints generalizing start positions with
  | nil => cases positions <;> rfl
  | cons joint joints ih =>
      cases positions with
      | nil => rfl
      | cons position positions =>
          have hmoved : start.extend * joint.extend.origin * joint.extend.motion (real position) =
              (start * joint.origin * joint.motion position).extend := by
            rw [Pose.extend_mul, Pose.extend_mul, joint.extend_motion]
            rfl
          simp only [List.map_cons, jointFrames, hmoved, ih]
          rfl

end Chain

namespace Scratchpad

variable (chain : Chain ℝ) (positions : List ℝ)

theorem extend_fill : (fill chain positions).extend = fill chain.extend (positions.map real) := by
  have hframes := Chain.extend_jointFrames Pose.identity chain.joints positions
  rw [Pose.extend_identity] at hframes
  unfold fill
  simp only [Chain.extend] at *
  rw [hframes]
  simp only [extend, Pose.extend_mul, Chain.extend_tipOffset]
  rfl

theorem extend_linkPose (pad : Scratchpad ℝ) (place : LinkIndex) :
    (pad.linkPose place).extend = pad.extend.linkPose place := by
  cases place with
  | base => rfl
  | joint index =>
      simp only [linkPose, extend, List.getElem?_map]
      cases pad.joints[index]? <;> rfl
  | tip => rfl

theorem extend_jointTwist (kind : JointKind) (frame : JointFrame ℝ) (point : Vec3 ℝ) :
    (jointTwist kind frame point).extend = jointTwist kind frame.extend point.extend := by
  cases kind <;> rfl

theorem extend_jacobian (pad : Scratchpad ℝ) (joints : List (Joint ℝ)) (place : LinkIndex) :
    (pad.jacobian joints place).map Twist.extend =
      pad.extend.jacobian (joints.map Joint.extend) place := by
  have hmoving : pad.extend.movingJoints place = pad.movingJoints place := by
    cases place <;> simp [movingJoints, extend]
  have hpoint : (pad.extend.linkPose place).translation = (pad.linkPose place).translation.extend := by
    rw [← extend_linkPose]
    rfl
  unfold jacobian
  simp only [hmoving, hpoint, List.map_append, List.map_map, List.map_replicate, List.length_map]
  simp only [extend, List.zip_map, List.map_take, List.map_map]
  congr 3
  funext ⟨joint, frame⟩
  exact extend_jointTwist joint.kind frame _

end Scratchpad

end TaskSpace.Kinematics
