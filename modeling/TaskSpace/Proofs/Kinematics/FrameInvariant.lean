import Mathlib
import TaskSpace.Proofs.Kinematics.PairedRuns
import TaskSpace.Proofs.Kinematics.Velocity
import TaskSpace.Proofs.Rigid.Distance

namespace TaskSpace.Rigid

-- A turn leaves its own axis where it is.
theorem Quat.ofAxisAngle_rotate_self (v : Vec3 ℝ) (angle : ℝ) : (ofAxisAngle v angle).rotate v = v := by
  ext <;> simp [rotate, imaginary, ofAxisAngle, ofParts] <;> ring

end TaskSpace.Rigid

namespace TaskSpace.Kinematics

open Rigid

-- A joint is recorded behind the last link of the joints before it.
theorem Chain.jointFrames_getElem? {α : Type} [Scalar α] (start : Pose α) {joints : List (Joint α)}
    {positions : List α} {j : Nat} (hlength : positions.length = joints.length)
    (hj : j < joints.length) :
    (jointFrames start joints positions).1[j]? =
      some (joints[j].frame (jointFrames start (joints.take j) (positions.take j)).2 positions[j]) := by
  -- The joints behind the first one run from its link, so the start has to be a variable.
  induction joints generalizing start positions j with
  | nil => simp at hj
  | cons joint joints ih =>
      obtain ⟨position, positions, rfl⟩ := List.exists_cons_of_length_eq_add_one hlength
      cases j with
      | zero => rfl
      | succ j => exact ih _ (Nat.succ.inj hlength) (Nat.lt_of_succ_lt_succ hj)

-- What a joint at a position records, wherever in the chain it sits. The axis is the same before and after
-- the motion, and the link only leaves the origin along the axis.
structure JointFrame.IsRecordOf (joint : Joint ℝ) (position : ℝ) (frame : JointFrame ℝ) : Prop where
  link : frame.link.rotation.IsUnit
  axis : frame.axis.IsUnit
  rotate_axis : frame.link.rotation.rotate joint.axis = frame.axis
  translation : frame.link.translation =
    match joint.kind with
    | .revolute => frame.origin
    | .prismatic => frame.origin + frame.axis.scale position

namespace Joint

variable {joint : Joint ℝ}

theorem motion_rotate_axis (joint : Joint ℝ) (position : ℝ) :
    (joint.motion position).rotation.rotate joint.axis = joint.axis := by
  unfold motion
  cases joint.kind with
  | prismatic => exact Quat.identity_rotate _
  | revolute => exact Quat.ofAxisAngle_rotate_self _ _

theorem IsRigid.isRecordOf_frame (hj : joint.IsRigid) {start : Pose ℝ} (hstart : start.rotation.IsUnit)
    (position : ℝ) : (joint.frame start position).IsRecordOf joint position := by
  have hresting : (start * joint.origin).rotation.IsUnit := hstart.mul hj.origin
  have hmotion := hj.motion_isUnit position
  refine ⟨hresting.mul hmotion, hresting.rotate_isUnit hj.axis, ?_, ?_⟩
  · change ((start * joint.origin).rotation * (joint.motion position).rotation).rotate joint.axis = _
    rw [Quat.rotate_mul _ hresting hmotion, joint.motion_rotate_axis]
    rfl
  · change (start * joint.origin).translation +
      (start * joint.origin).rotation.rotate (joint.motion position).translation = _
    unfold motion
    cases joint.kind with
    | revolute => rw [Quat.rotate_zero, Vec3.add_zero]; rfl
    | prismatic => rw [Pose.ofTranslation, Quat.rotate_scale]; rfl

end Joint

-- A joint turns its own link on the spot, or shifts it without a turn.
def JointKind.IsPure (kind : JointKind) (twist : Twist ℝ) : Prop :=
  match kind with
  | .revolute => twist.linear = .zero
  | .prismatic => twist.angular = .zero

theorem JointFrame.IsRecordOf.isPure_jointTwist {joint : Joint ℝ} {position : ℝ} {frame : JointFrame ℝ}
    (h : frame.IsRecordOf joint position) :
    joint.kind.IsPure (Scratchpad.jointTwist joint.kind frame frame.link.translation) := by
  have htranslation := h.translation
  cases hkind : joint.kind with
  | prismatic => rfl
  | revolute =>
      rw [hkind] at htranslation
      have harm : frame.link.translation - frame.origin = .zero := Vec3.sub_eq_zero_iff.mpr htranslation
      change frame.axis.cross (frame.link.translation - frame.origin) = .zero
      rw [harm]
      ext <;> simp

namespace Scratchpad

-- What a scratchpad that is up to date holds of the joints, and of the tip.
structure IsPlaced (chain : Chain ℝ) (q : Fin chain.dof → ℝ) (pad : Scratchpad ℝ) : Prop where
  size : pad.joints.length = chain.dof
  tip : pad.tip.rotation.IsUnit
  frame : ∀ j : Fin chain.dof, ∃ frame, pad.joints[(j : Nat)]? = some frame ∧
    frame.IsRecordOf chain.joints[j] (q j)
  column : ∀ j : Fin chain.dof, ∃ twist, (pad.jacobian chain.joints (.joint j))[(j : Nat)]? = some twist ∧
    chain.joints[j].kind.IsPure twist

variable {chain : Chain ℝ}

theorem exists_isRecordOf (hjoints : ∀ joint ∈ chain.joints, joint.IsRigid) (q : Fin chain.dof → ℝ)
    (j : Fin chain.dof) : ∃ frame, (fill chain (List.ofFn q)).joints[(j : Nat)]? = some frame ∧
      frame.IsRecordOf chain.joints[j] (q j) := by
  have hframe := Chain.jointFrames_getElem? Pose.identity (List.length_ofFn (f := q)) j.isLt
  rw [List.getElem_ofFn] at hframe
  have hbefore : ∀ joint ∈ chain.joints.take j, joint.IsRigid := fun joint hjoint =>
    hjoints joint (List.mem_of_mem_take hjoint)
  have hstart := Chain.jointFrames_isUnit Pose.isUnit_identity hbefore ((List.ofFn q).take j)
  exact ⟨_, hframe, (hjoints _ (List.getElem_mem j.isLt)).isRecordOf_frame hstart (q j)⟩

-- However long the chain is: its links stay rigidly placed, and so do its joints.
theorem update_isPlaced (hchain : chain.IsRigid) (q : Fin chain.dof → ℝ) {pad : Scratchpad ℝ}
    (hpad : pad.holds chain.dof (List.ofFn q) = true → pad.Remembers chain) :
    (pad.update chain (List.ofFn q)).IsPlaced chain q := by
  rw [update_eq_fill chain _ (fun _ _ => (Scalar.real_beq_iff _ _).mp) hpad]
  refine ⟨length_fill_joints chain List.length_ofFn, hchain.linkPose_isUnit _ .tip,
    exists_isRecordOf hchain.joints q, fun j => ?_⟩
  obtain ⟨frame, hframe, hrecord⟩ := exists_isRecordOf hchain.joints q j
  have hlink : (fill chain (List.ofFn q)).linkPose (.joint j) = frame.link := by
    rw [linkPose, hframe]
    rfl
  have hmoving : (j : Nat) < (fill chain (List.ofFn q)).movingJoints (.joint j) := Nat.lt_succ_self j
  refine ⟨_, ?_, hrecord.isPure_jointTwist⟩
  rw [jacobian_getElem? j.isLt hframe, if_pos hmoving, hlink]
  rfl

-- A scratchpad that another robot of the same size has used is filled anew.
theorem cartesianWrist_update_isPlaced :
    let pad : Scratchpad ℝ := fill Robots.sixDofArm (List.replicate 6 0)
    (Robots.cartesianWrist : Chain ℝ).IsRigid ∧ pad.holds 6 (List.ofFn fun _ : Fin 6 => 1) = false ∧
      (pad.update Robots.cartesianWrist (List.ofFn fun _ : Fin 6 => 1)).IsPlaced Robots.cartesianWrist
        fun _ => 1 := by
  intro pad
  have hstale : pad.holds 6 (List.ofFn fun _ : Fin 6 => 1) = false := by
    rw [Bool.eq_false_iff]
    intro hholds
    simp only [holds, Bool.and_eq_true, List.ofFn_const] at hholds
    cases forall₂_of_beq hholds.2 with
    | cons hfirst _ => exact zero_ne_one ((Scalar.real_beq_iff _ _).mp hfirst)
  refine ⟨Robots.cartesianWrist_isRigid, hstale, ?_⟩
  exact update_isPlaced Robots.cartesianWrist_isRigid (fun _ => 1) fun hholds =>
    absurd hholds (Bool.eq_false_iff.mp hstale)

end Scratchpad

end TaskSpace.Kinematics
