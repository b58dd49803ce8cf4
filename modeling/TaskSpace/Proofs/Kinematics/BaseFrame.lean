import Mathlib
import TaskSpace.Proofs.Kinematics.Velocity
import TaskSpace.Proofs.Rigid.CrossProduct

namespace TaskSpace.Rigid

-- The point that a motion brings a point to.
def Pose.apply {α : Type} [Scalar α] (motion : Pose α) (point : Vec3 α) : Vec3 α :=
  motion.translation + motion.rotation.rotate point

theorem Pose.apply_sub_apply (motion : Pose ℝ) (p q : Vec3 ℝ) :
    motion.apply p - motion.apply q = motion.rotation.rotate (p - q) := by
  rw [apply, apply, Quat.rotate_sub]
  ext <;> simp

theorem Pose.norm_apply_sub_apply {motion : Pose ℝ} (hmotion : motion.rotation.IsUnit) (p q : Vec3 ℝ) :
    (motion.apply p - motion.apply q).norm = (p - q).norm := by
  rw [apply_sub_apply, hmotion.norm_rotate]

theorem Pose.apply_injective {motion : Pose ℝ} (hmotion : motion.rotation.IsUnit) :
    Function.Injective motion.apply := by
  intro p q h
  rw [← Vec3.sub_eq_zero_iff, ← Vec3.norm_eq_zero_iff, norm_apply_sub_apply hmotion] at h
  exact Vec3.sub_eq_zero_iff.mp ((Vec3.norm_eq_zero_iff _).mp h)

-- The same velocity in a frame that was turned.
noncomputable def Twist.rotate (rotation : Quat ℝ) (twist : Twist ℝ) : Twist ℝ :=
  ⟨rotation.rotate twist.linear, rotation.rotate twist.angular⟩

end TaskSpace.Rigid

namespace TaskSpace.Kinematics

open Rigid

section Rebase

variable {α : Type} [Scalar α]

def Joint.rebase (motion : Pose α) (joint : Joint α) : Joint α :=
  { joint with origin := motion * joint.origin }

-- The same chain on a base that was moved. Only the first joint is placed in the frame of the base.
def Chain.rebase (motion : Pose α) (chain : Chain α) : Chain α :=
  { chain with joints := chain.joints.modifyHead (Joint.rebase motion) }

variable (motion : Pose α) (chain : Chain α)

@[simp] theorem Chain.rebase_dof : (chain.rebase motion).dof = chain.dof := List.length_modifyHead

theorem Chain.rebase_linkIndex? (link : String) :
    (chain.rebase motion).linkIndex? link = chain.linkIndex? link := by
  have hjoints : (chain.rebase motion).joints.findIdx? (·.childLink == link) =
      chain.joints.findIdx? (·.childLink == link) := by
    unfold rebase
    cases chain.joints <;> rfl
  unfold linkIndex?
  rw [hjoints]
  rfl

-- Twists are made of the kinds of the joints only, and of what is recorded of them.
theorem Scratchpad.jacobian_rebase (pad : Scratchpad α) (place : LinkIndex) :
    pad.jacobian (chain.rebase motion).joints place = pad.jacobian chain.joints place := by
  unfold jacobian Chain.rebase
  cases chain.joints with
  | nil => rfl
  | cons joint joints => cases pad.joints <;> cases pad.movingJoints place <;> rfl

end Rebase

-- What a scratchpad holds after the base was moved.
noncomputable def Scratchpad.move (motion : Pose ℝ) (pad : Scratchpad ℝ) : Scratchpad ℝ :=
  { pad with joints := pad.joints.map (JointFrame.move motion), tip := motion * pad.tip }

variable {motion : Pose ℝ}

theorem Scratchpad.jointTwist_move (hmotion : motion.rotation.IsUnit) (kind : JointKind)
    (frame : JointFrame ℝ) (point : Vec3 ℝ) :
    jointTwist kind (frame.move motion) (motion.apply point) =
      (jointTwist kind frame point).rotate motion.rotation := by
  cases kind with
  | prismatic => simp only [jointTwist, JointFrame.move, Twist.rotate, Quat.rotate_zero]
  | revolute =>
      have harm : motion.apply point - (frame.move motion).origin =
          motion.rotation.rotate (point - frame.origin) := motion.apply_sub_apply point frame.origin
      simp only [jointTwist, harm, Twist.rotate, hmotion.rotate_cross]
      rfl

-- Every link but the base is carried along.
theorem Scratchpad.linkPose_move (pad : Scratchpad ℝ) {place : LinkIndex} (hbase : place ≠ .base)
    (hmoving : pad.movingJoints place ≤ pad.joints.length) :
    (pad.move motion).linkPose place = motion * pad.linkPose place := by
  cases place with
  | base => exact absurd rfl hbase
  | joint index =>
      have hindex : index < pad.joints.length := hmoving
      simp [linkPose, move, JointFrame.move, hindex]
  | tip => rfl

theorem Scratchpad.jacobian_move (hmotion : motion.rotation.IsUnit) (pad : Scratchpad ℝ)
    {place : LinkIndex} (hbase : place ≠ .base) (hmoving : pad.movingJoints place ≤ pad.joints.length)
    (joints : List (Joint ℝ)) :
    (pad.move motion).jacobian joints place =
      (pad.jacobian joints place).map (Twist.rotate motion.rotation) := by
  have hcount : (pad.move motion).movingJoints place = pad.movingJoints place := by
    cases place <;> simp [movingJoints, move]
  have hpoint : ((pad.move motion).linkPose place).translation =
      motion.apply (pad.linkPose place).translation := by
    rw [pad.linkPose_move hbase hmoving]
    rfl
  have hstill : Twist.rotate motion.rotation ⟨.zero, .zero⟩ = ⟨.zero, .zero⟩ := by
    rw [Twist.rotate, Quat.rotate_zero]
  simp only [jacobian, hcount, hpoint, List.map_append, List.map_replicate, hstill, List.map_map]
  simp only [move, List.zip_map_right, List.map_take, List.map_map]
  congr 3
  funext pair
  exact jointTwist_move hmotion pair.1.kind pair.2 _

variable {chain : Chain ℝ} {positions : List ℝ}

-- To run from a moved first joint is to run from a moved start.
theorem Chain.jointFrames_rebase {joints : List (Joint ℝ)} (hjoints : joints ≠ [])
    (hlength : positions.length = joints.length) :
    jointFrames .identity (joints.modifyHead (Joint.rebase motion)) positions =
      jointFrames motion joints positions := by
  cases joints with
  | nil => exact absurd rfl hjoints
  | cons joint joints =>
      cases positions with
      | nil => simp at hlength
      | cons position positions =>
          have hstart : .identity * (joint.rebase motion).origin = motion * joint.origin :=
            Pose.identity_mul
          rw [List.modifyHead_cons, jointFrames_cons, jointFrames_cons, hstart]
          rfl

theorem Scratchpad.fill_rebase (hmotion : motion.rotation.IsUnit) (hchain : chain.IsRigid)
    (hjoints : chain.joints ≠ []) (hlength : positions.length = chain.dof) :
    fill (chain.rebase motion) positions = (fill chain positions).move motion := by
  have hframes := Chain.jointFrames_mul hmotion Pose.isUnit_identity hchain.joints positions
  rw [Pose.mul_identity, ← Chain.jointFrames_rebase hjoints hlength] at hframes
  have htip : (chain.rebase motion).tipOffset = chain.tipOffset := rfl
  unfold fill
  simp only [Chain.rebase, hframes, move] at htip ⊢
  rw [htip, Pose.mul_assoc hmotion (Chain.jointFrames_isUnit Pose.isUnit_identity hchain.joints positions)]

-- On a moved base every other link is moved, and its twists are turned.
theorem fill_rebase_eq (hmotion : motion.rotation.IsUnit) (hchain : chain.IsRigid)
    (hjoints : chain.joints ≠ []) (hlength : positions.length = chain.dof) {place : LinkIndex}
    (hplace : chain.HasPlace place) (hbase : place ≠ .base) :
    (Scratchpad.fill (chain.rebase motion) positions).linkPose place =
        motion * (Scratchpad.fill chain positions).linkPose place ∧
      (Scratchpad.fill (chain.rebase motion) positions).jacobian (chain.rebase motion).joints place =
        ((Scratchpad.fill chain positions).jacobian chain.joints place).map
          (Twist.rotate motion.rotation) := by
  have hroom := Scratchpad.length_fill_joints chain hlength
  have hmoving := Scratchpad.movingJoints_le hroom hplace
  rw [← hroom] at hmoving
  rw [Scratchpad.jacobian_rebase, Scratchpad.fill_rebase hmotion hchain hjoints hlength]
  exact ⟨Scratchpad.linkPose_move _ hbase hmoving, Scratchpad.jacobian_move hmotion _ hbase hmoving _⟩

end TaskSpace.Kinematics
