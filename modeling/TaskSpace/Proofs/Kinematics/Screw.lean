import Mathlib
import TaskSpace.Kinematics.Scratchpad
import TaskSpace.Proofs.Rigid.Turning

namespace TaskSpace.Kinematics

open Rigid

-- A joint moves rigidly if its origin turns by a unit quaternion and its axis has length one.
structure Joint.IsRigid (joint : Joint ℝ) : Prop where
  origin : joint.origin.rotation.IsUnit
  axis : joint.axis.IsUnit

structure Chain.IsRigid (chain : Chain ℝ) : Prop where
  joints : ∀ joint ∈ chain.joints, joint.IsRigid
  tip : ∀ tip ∈ chain.tip, tip.offset.rotation.IsUnit

namespace Joint

variable {joint : Joint ℝ}

theorem isRigid_revolute (name childLink : String) {origin : Pose ℝ} {direction : Vec3 ℝ}
    (horigin : origin.rotation.IsUnit) (hdirection : direction ≠ .zero) :
    (revolute name childLink origin direction).IsRigid :=
  ⟨horigin, direction.normalize_isUnit hdirection⟩

theorem isRigid_prismatic (name childLink : String) {origin : Pose ℝ} {direction : Vec3 ℝ}
    (horigin : origin.rotation.IsUnit) (hdirection : direction ≠ .zero) :
    (prismatic name childLink origin direction).IsRigid :=
  ⟨horigin, direction.normalize_isUnit hdirection⟩

theorem IsRigid.motion_isUnit (hj : joint.IsRigid) (position : ℝ) :
    (joint.motion position).rotation.IsUnit := by
  unfold motion
  split
  · exact Quat.isUnit_identity
  · exact Quat.isUnit_ofAxisAngle hj.axis position

theorem motion_zero (joint : Joint ℝ) : joint.motion 0 = .identity := by
  unfold motion
  cases joint.kind with
  | prismatic =>
      have hzero : joint.axis.scale 0 = .zero := by
        ext <;> simp
      rw [hzero]
      rfl
  | revolute =>
      rw [Quat.ofAxisAngle_zero]
      rfl

end Joint

namespace JointFrame

-- The motion that a joint makes from its recorded place on: along its axis, or about the line through
-- its origin.
noncomputable def screw (kind : JointKind) (frame : JointFrame ℝ) (amount : ℝ) : Pose ℝ :=
  match kind with
  | .prismatic => .ofTranslation (frame.axis.scale amount)
  | .revolute =>
    let turn := Quat.ofAxisAngle frame.axis amount
    ⟨turn, frame.origin - turn.rotate frame.origin⟩

theorem screw_isUnit (frame : JointFrame ℝ) (haxis : frame.axis.IsUnit) (kind : JointKind)
    (amount : ℝ) : (frame.screw kind amount).rotation.IsUnit := by
  cases kind with
  | prismatic => exact Quat.isUnit_identity
  | revolute => exact Quat.isUnit_ofAxisAngle haxis amount

-- What is recorded of a joint when everything before it is moved.
noncomputable def move (motion : Pose ℝ) (frame : JointFrame ℝ) : JointFrame ℝ :=
  ⟨motion.translation + motion.rotation.rotate frame.origin, motion.rotation.rotate frame.axis,
    motion * frame.link⟩

end JointFrame

namespace Chain

section Frames

variable {α : Type} [Scalar α]

theorem jointFrames_cons (start : Pose α) (joint : Joint α) (joints : List (Joint α))
    (position : α) (positions : List α) :
    jointFrames start (joint :: joints) (position :: positions) =
      (⟨(start * joint.origin).translation, (start * joint.origin).rotation.rotate joint.axis,
          start * joint.origin * joint.motion position⟩ ::
        (jointFrames (start * joint.origin * joint.motion position) joints positions).1,
      (jointFrames (start * joint.origin * joint.motion position) joints positions).2) :=
  rfl

theorem length_jointFrames (start : Pose α) (joints : List (Joint α)) (positions : List α)
    (hlength : positions.length = joints.length) :
    (jointFrames start joints positions).1.length = joints.length := by
  induction joints generalizing start positions with
  | nil => cases positions <;> rfl
  | cons joint joints ih =>
      cases positions with
      | nil => simp at hlength
      | cons position positions =>
          simp only [jointFrames_cons, List.length_cons, Nat.add_right_cancel_iff] at hlength ⊢
          exact ih _ positions hlength

-- Joints in series: the later ones stand behind the last link of the earlier ones.
theorem jointFrames_append (start : Pose α) (first second : List (Joint α)) (before after : List α)
    (hlength : before.length = first.length) :
    jointFrames start (first ++ second) (before ++ after) =
      ((jointFrames start first before).1 ++
        (jointFrames (jointFrames start first before).2 second after).1,
      (jointFrames (jointFrames start first before).2 second after).2) := by
  induction first generalizing start before with
  | nil =>
      cases before with
      | nil => rfl
      | cons position before => simp at hlength
  | cons joint first ih =>
      cases before with
      | nil => simp at hlength
      | cons position before =>
          simp only [List.length_cons, Nat.add_right_cancel_iff] at hlength
          simp only [List.cons_append, jointFrames_cons, ih _ before hlength]

end Frames

variable {start motion : Pose ℝ} {joints : List (Joint ℝ)}

theorem jointFrames_isUnit (hstart : start.rotation.IsUnit) (hjoints : ∀ joint ∈ joints, joint.IsRigid)
    (positions : List ℝ) : (jointFrames start joints positions).2.rotation.IsUnit := by
  induction joints generalizing start positions with
  | nil => cases positions <;> exact hstart
  | cons joint joints ih =>
      cases positions with
      | nil => exact hstart
      | cons position positions =>
          have hj := hjoints joint List.mem_cons_self
          rw [jointFrames_cons]
          exact ih ((hstart.mul hj.origin).mul (hj.motion_isUnit position))
            (fun other hother => hjoints other (List.mem_cons_of_mem _ hother)) positions

theorem jointFrames_link_isUnit (hstart : start.rotation.IsUnit)
    (hjoints : ∀ joint ∈ joints, joint.IsRigid) (positions : List ℝ) :
    ∀ frame ∈ (jointFrames start joints positions).1, frame.link.rotation.IsUnit := by
  induction joints generalizing start positions with
  | nil => cases positions <;> simp [jointFrames]
  | cons joint joints ih =>
      cases positions with
      | nil => simp [jointFrames]
      | cons position positions =>
          have hj := hjoints joint List.mem_cons_self
          have hmoved : (start * joint.origin * joint.motion position).rotation.IsUnit :=
            (hstart.mul hj.origin).mul (hj.motion_isUnit position)
          rw [jointFrames_cons, List.forall_mem_cons]
          exact ⟨hmoved, ih hmoved
            (fun other hother => hjoints other (List.mem_cons_of_mem _ hother)) positions⟩

-- Joints that all sit in one point leave the start where it is until they move.
theorem jointFrames_rest (hjoints : ∀ joint ∈ joints, joint.origin = .identity) (count : Nat) :
    (jointFrames start joints (List.replicate count 0)).2 = start := by
  induction joints generalizing count with
  | nil => cases count <;> rfl
  | cons joint joints ih =>
      cases count with
      | zero => rfl
      | succ count =>
          rw [List.replicate_succ, jointFrames_cons, hjoints joint List.mem_cons_self,
            joint.motion_zero, Pose.mul_identity, Pose.mul_identity]
          exact ih (fun other hother => hjoints other (List.mem_cons_of_mem _ hother)) count

-- Moving the start moves all that is recorded along with it.
theorem jointFrames_mul (hmotion : motion.rotation.IsUnit) (hstart : start.rotation.IsUnit)
    (hjoints : ∀ joint ∈ joints, joint.IsRigid) (positions : List ℝ) :
    jointFrames (motion * start) joints positions =
      ((jointFrames start joints positions).1.map (JointFrame.move motion),
        motion * (jointFrames start joints positions).2) := by
  induction joints generalizing start positions with
  | nil => cases positions <;> rfl
  | cons joint joints ih =>
      cases positions with
      | nil => rfl
      | cons position positions =>
          have hj := hjoints joint List.mem_cons_self
          have hresting : (start * joint.origin).rotation.IsUnit := hstart.mul hj.origin
          have hmoved : (start * joint.origin * joint.motion position).rotation.IsUnit :=
            hresting.mul (hj.motion_isUnit position)
          have htail := ih hmoved
            (fun other hother => hjoints other (List.mem_cons_of_mem _ hother)) positions
          have haxis : (motion * (start * joint.origin)).rotation.rotate joint.axis =
              motion.rotation.rotate ((start * joint.origin).rotation.rotate joint.axis) :=
            Quat.rotate_mul _ hmotion hresting
          rw [jointFrames_cons, jointFrames_cons, Pose.mul_assoc hmotion hstart,
            Pose.mul_assoc hmotion hresting, htail, haxis]
          rfl

end Chain

namespace Joint

-- Moving a joint further is the screw at its recorded place, whatever its position is.
theorem IsRigid.motion_add {joint : Joint ℝ} (hj : joint.IsRigid) {resting : Pose ℝ}
    (hresting : resting.rotation.IsUnit) (link : Pose ℝ) (position amount : ℝ) :
    resting * joint.motion (position + amount) =
      JointFrame.screw joint.kind
          ⟨resting.translation, resting.rotation.rotate joint.axis, link⟩ amount *
        (resting * joint.motion position) := by
  unfold JointFrame.screw motion
  cases joint.kind with
  | prismatic =>
      have hshift : joint.axis.scale (position + amount) =
          joint.axis.scale amount + joint.axis.scale position := by
        ext <;> simp only [Vec3.scale_x, Vec3.scale_y, Vec3.scale_z, Vec3.add_x, Vec3.add_y,
          Vec3.add_z] <;> ring
      have hcomm : ∀ u v w : Vec3 ℝ, u + (v + w) = v + (u + w) := by
        intro u v w
        ext <;> simp only [Vec3.add_x, Vec3.add_y, Vec3.add_z] <;> ring
      apply Pose.ext
      · simp [Pose.ofTranslation]
      · simp only [Pose.mul_translation, Pose.ofTranslation, Quat.identity_rotate, hshift,
          Quat.rotate_add, Quat.rotate_scale, hcomm]
  | revolute =>
      have hsum := (Quat.ofAxisAngle_add hj.axis amount position)
      have hcancel : ∀ u v : Vec3 ℝ, u - v + v = u := by
        intro u v
        ext <;> simp only [Vec3.add_x, Vec3.add_y, Vec3.add_z, Vec3.sub_x, Vec3.sub_y,
          Vec3.sub_z] <;> ring
      apply Pose.ext
      · simp only [Pose.mul_rotation]
        rw [add_comm position, hsum, ← Quat.mul_assoc, hresting.mul_ofAxisAngle, Quat.mul_assoc]
      · simp only [Pose.mul_translation, Quat.rotate_zero, Vec3.add_zero, hcancel]

end Joint

namespace Chain

-- When one joint moves on, its own record stays but for its link, what comes before it stays, and its
-- link and everything behind it follow its screw.
theorem jointFrames_screw {start : Pose ℝ} (hstart : start.rotation.IsUnit)
    {before after : List (Joint ℝ)} {joint : Joint ℝ}
    (hjoints : ∀ other ∈ before ++ joint :: after, other.IsRigid) {earlier : List ℝ}
    (hlength : earlier.length = before.length) (position : ℝ) (later : List ℝ) :
    ∃ (fixed moved : List (JointFrame ℝ)) (frame : JointFrame ℝ) (last : Pose ℝ),
      fixed.length = before.length ∧ frame.axis.IsUnit ∧
      jointFrames start (before ++ joint :: after) (earlier ++ position :: later) =
        (fixed ++ frame :: moved, last) ∧
      ∀ amount,
        jointFrames start (before ++ joint :: after) (earlier ++ (position + amount) :: later) =
          (fixed ++ { frame with link := frame.screw joint.kind amount * frame.link } ::
              moved.map (JointFrame.move (frame.screw joint.kind amount)),
            frame.screw joint.kind amount * last) := by
  have hj := hjoints joint (by simp)
  have hbefore : ∀ other ∈ before, other.IsRigid := fun other hother =>
    hjoints other (List.mem_append_left _ hother)
  have hafter : ∀ other ∈ after, other.IsRigid := fun other hother =>
    hjoints other (List.mem_append_right _ (List.mem_cons_of_mem _ hother))
  let resting := (jointFrames start before earlier).2 * joint.origin
  have hresting : resting.rotation.IsUnit :=
    (jointFrames_isUnit hstart hbefore earlier).mul hj.origin
  let link := resting * joint.motion position
  have hlink : link.rotation.IsUnit := hresting.mul (hj.motion_isUnit position)
  let frame : JointFrame ℝ := ⟨resting.translation, resting.rotation.rotate joint.axis, link⟩
  have haxis : frame.axis.IsUnit := hresting.rotate_isUnit hj.axis
  refine ⟨(jointFrames start before earlier).1, (jointFrames link after later).1, frame,
    (jointFrames link after later).2, length_jointFrames start before earlier hlength, haxis, ?_, ?_⟩
  · rw [jointFrames_append _ _ _ _ _ hlength, jointFrames_cons]
  · intro amount
    have hmoved : resting * joint.motion (position + amount) =
        frame.screw joint.kind amount * link :=
      hj.motion_add hresting link position amount
    rw [jointFrames_append _ _ _ _ _ hlength, jointFrames_cons, hmoved,
      jointFrames_mul (frame.screw_isUnit haxis joint.kind amount) hlink hafter]

end Chain

end TaskSpace.Kinematics
