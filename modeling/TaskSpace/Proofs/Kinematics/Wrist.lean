import Mathlib
import TaskSpace.Proofs.Kinematics.Extension
import TaskSpace.Proofs.Kinematics.Velocity
import TaskSpace.Proofs.Rigid.CrossProduct
import TaskSpace.Proofs.Rigid.Exponential
import TaskSpace.Proofs.Rigid.Kernels

namespace TaskSpace.Rigid

-- The rotation by an angle about an axis of a frame.
noncomputable def Mat3.turn (angle : ℝ) : Axis → Mat3 ℝ
  | .x => ⟨⟨1, 0, 0⟩, ⟨0, Real.cos angle, -Real.sin angle⟩, ⟨0, Real.sin angle, Real.cos angle⟩⟩
  | .y => ⟨⟨Real.cos angle, 0, Real.sin angle⟩, ⟨0, 1, 0⟩, ⟨-Real.sin angle, 0, Real.cos angle⟩⟩
  | .z => ⟨⟨Real.cos angle, -Real.sin angle, 0⟩, ⟨Real.sin angle, Real.cos angle, 0⟩, ⟨0, 0, 1⟩⟩

theorem Quat.toMatrix_ofAxisAngle_unit (axis : Axis) (angle : ℝ) :
    (ofAxisAngle (Vec3.unit axis) angle).toMatrix = Mat3.turn angle axis := by
  rw [toMatrix_ofAxisAngle (Vec3.unit_isUnit axis)]
  cases axis <;> ext <;> simp [Mat3.turnAbout, Mat3.turn, Vec3.unit, Mat3.skew, Mat3.scale, Mat3.column,
    Mat3.identity, Vec3.dot_eq]

end TaskSpace.Rigid

namespace TaskSpace.Kinematics

open Rigid

namespace Joint

-- Joints that rest where the link before them is.
structure IsSlide (joint : Joint ℝ) : Prop where
  kind : joint.kind = .prismatic
  origin : joint.origin = .identity

structure IsTurn (joint : Joint ℝ) : Prop where
  kind : joint.kind = .revolute
  origin : joint.origin = .identity

variable {joint : Joint ℝ} {start : Pose ℝ} {position : ℝ}

theorem IsSlide.moved (h : joint.IsSlide) (start : Vec3 ℝ) (position : ℝ) :
    Pose.ofTranslation start * joint.origin * joint.motion position =
      .ofTranslation (start + joint.axis.scale position) := by
  rw [h.origin, Pose.mul_identity, motion, h.kind]
  apply Pose.ext
  · exact Quat.identity_mul
  · exact congrArg (start + ·) (Quat.identity_rotate _)

theorem IsTurn.moved (h : joint.IsTurn) (start : Pose ℝ) (position : ℝ) :
    start * joint.origin * joint.motion position =
      ⟨start.rotation * .ofAxisAngle joint.axis position, start.translation⟩ := by
  rw [h.origin, Pose.mul_identity, motion, h.kind]
  apply Pose.ext
  · rfl
  · simp only [Pose.mul_translation, Quat.rotate_zero, Vec3.add_zero]

end Joint

namespace Chain

variable {joints : List (Joint ℝ)} {positions : List ℝ}

-- Slides only shift the start, each along its own axis, which none of them turns.
theorem jointFrames_slides (hjoints : ∀ joint ∈ joints, joint.IsSlide)
    (hlength : positions.length = joints.length) (start : Vec3 ℝ) :
    (jointFrames (.ofTranslation start) joints positions).1.map JointFrame.axis = joints.map Joint.axis ∧
      (jointFrames (.ofTranslation start) joints positions).2 =
        .ofTranslation (start + Vec3.combine (joints.map Joint.axis) positions) := by
  induction joints generalizing start positions with
  | nil =>
      cases positions with
      | nil => exact ⟨rfl, congrArg Pose.ofTranslation (Vec3.add_zero start).symm⟩
      | cons position positions => simp at hlength
  | cons joint joints ih =>
      cases positions with
      | nil => simp at hlength
      | cons position positions =>
          have hjoint := hjoints joint List.mem_cons_self
          obtain ⟨haxes, hlast⟩ := ih (fun other hother => hjoints other (List.mem_cons_of_mem _ hother))
            (Nat.succ.inj hlength) (start + joint.axis.scale position)
          rw [jointFrames_cons, hjoint.moved]
          constructor
          · rw [List.map_cons, haxes, hjoint.origin, Pose.mul_identity]
            exact congrArg (· :: _) (Quat.identity_rotate _)
          · rw [List.map_cons, Vec3.combine_cons, ← Vec3.add_assoc]
            exact hlast

-- Turns leave the start in its place, whatever their axes are.
theorem jointFrames_turns (hjoints : ∀ joint ∈ joints, joint.IsTurn)
    (hlength : positions.length = joints.length) (start : Pose ℝ) :
    (∀ frame ∈ (jointFrames start joints positions).1, frame.origin = start.translation) ∧
      (jointFrames start joints positions).2 =
        ⟨((joints.map Joint.axis).zip positions).foldl
            (fun rotation turn => rotation * .ofAxisAngle turn.1 turn.2) start.rotation,
          start.translation⟩ := by
  induction joints generalizing start positions with
  | nil =>
      cases positions with
      | nil => exact ⟨nofun, rfl⟩
      | cons position positions => simp at hlength
  | cons joint joints ih =>
      cases positions with
      | nil => simp at hlength
      | cons position positions =>
          have hjoint := hjoints joint List.mem_cons_self
          obtain ⟨horigins, hlast⟩ := ih (fun other hother => hjoints other (List.mem_cons_of_mem _ hother))
            (Nat.succ.inj hlength) ⟨start.rotation * .ofAxisAngle joint.axis position, start.translation⟩
          rw [jointFrames_cons, hjoint.moved]
          refine ⟨List.forall_mem_cons.mpr ⟨?_, horigins⟩, hlast⟩
          rw [hjoint.origin, Pose.mul_identity]

end Chain

namespace Scratchpad

variable {joints : List (Joint ℝ)} {frames : List (JointFrame ℝ)}

-- All joints move the tip.
theorem linear_jacobian_tip {pad : Scratchpad ℝ} (hlength : pad.joints.length = joints.length) :
    (pad.jacobian joints .tip).map Twist.linear =
      (joints.zip pad.joints).map fun (joint, frame) =>
        (jointTwist joint.kind frame (pad.linkPose .tip).translation).linear := by
  have hmoving : pad.movingJoints .tip = joints.length := hlength
  have hzip : (joints.zip pad.joints).length = joints.length := by
    rw [List.length_zip, hlength, Nat.min_self]
  simp only [jacobian, hmoving, List.take_of_length_le hzip.le, Nat.sub_self, List.replicate_zero,
    List.append_nil, List.map_map]
  rfl

-- A slide carries every point along its axis.
theorem linear_jointTwist_slides (hjoints : ∀ joint ∈ joints, joint.IsSlide)
    (hlength : frames.length = joints.length) (point : Vec3 ℝ) :
    (joints.zip frames).map (fun (joint, frame) => (jointTwist joint.kind frame point).linear) =
      frames.map JointFrame.axis := by
  induction joints generalizing frames with
  | nil => rw [List.length_eq_zero_iff.mp hlength]; rfl
  | cons joint joints ih =>
      cases frames with
      | nil => simp at hlength
      | cons frame frames =>
          rw [List.zip_cons_cons, List.map_cons, List.map_cons,
            ih (fun other hother => hjoints other (List.mem_cons_of_mem _ hother)) (Nat.succ.inj hlength)]
          simp only [(hjoints joint List.mem_cons_self).kind, jointTwist]

-- A turn does not move a point on its axis.
theorem linear_jointTwist_turns (hjoints : ∀ joint ∈ joints, joint.IsTurn)
    (hlength : frames.length = joints.length) {point : Vec3 ℝ}
    (hframes : ∀ frame ∈ frames, frame.origin = point) :
    (joints.zip frames).map (fun (joint, frame) => (jointTwist joint.kind frame point).linear) =
      List.replicate joints.length .zero := by
  induction joints generalizing frames with
  | nil => rfl
  | cons joint joints ih =>
      cases frames with
      | nil => simp at hlength
      | cons frame frames =>
          have hstill : frame.axis.cross (point - frame.origin) = .zero := by
            rw [hframes frame List.mem_cons_self]
            ext <;> simp
          rw [List.zip_cons_cons, List.map_cons, List.length_cons, List.replicate_succ,
            ih (fun other hother => hjoints other (List.mem_cons_of_mem _ hother)) (Nat.succ.inj hlength)
              fun other hother => hframes other (List.mem_cons_of_mem _ hother)]
          simp only [(hjoints joint List.mem_cons_self).kind, jointTwist, hstill]

end Scratchpad

-- The joints of a robot are those of its reading over the extended numbers.
namespace Joint

variable (name childLink : String) (origin : Pose ℝ) {direction : Vec3 ℝ}

theorem extend_prismatic (hdirection : direction.norm ≠ 0) :
    (prismatic name childLink origin direction).extend =
      prismatic name childLink origin.extend direction.extend := by
  unfold prismatic extend
  simp only [direction.extend_normalize hdirection]
  rfl

theorem extend_revolute (hdirection : direction.norm ≠ 0) :
    (revolute name childLink origin direction).extend =
      revolute name childLink origin.extend direction.extend := by
  unfold revolute extend
  simp only [direction.extend_normalize hdirection]
  rfl

end Joint

namespace Robots

open Vec3 (unit)

-- All directions of the robot have length one, so that nothing but them is left of the divisions.
theorem cartesianWrist_extend : (cartesianWrist : Chain ℝ).extend = cartesianWrist := by
  have hnorm : ∀ axis, (unit axis).norm ≠ 0 := fun axis => Vec3.unit_isUnit axis ▸ one_ne_zero
  have hjoints : (cartesianWrist : Chain ℝ).joints.map Joint.extend = cartesianWrist.joints := by
    change [(Joint.prismatic "slide_x" "carriage_x" .identity (unit .x)).extend,
      (Joint.prismatic "slide_y" "carriage_y" .identity (unit .y)).extend,
      (Joint.prismatic "slide_z" "carriage_z" .identity (unit .z)).extend,
      (Joint.revolute "wrist_yaw" "yaw_link" .identity (unit .z)).extend,
      (Joint.revolute "wrist_pitch" "pitch_link" .identity (unit .y)).extend,
      (Joint.revolute "wrist_roll" "roll_link" .identity (unit .x)).extend] = _
    simp only [Joint.extend_prismatic _ _ _ (hnorm _), Joint.extend_revolute _ _ _ (hnorm _)]
    rfl
  unfold Chain.extend
  rw [hjoints]
  rfl

-- The slides and the turns of the robot.
noncomputable def wristSlides : List (Joint ℝ) := cartesianWrist.joints.take 3

noncomputable def wristTurns : List (Joint ℝ) := cartesianWrist.joints.drop 3

theorem cartesianWrist_joints : (cartesianWrist : Chain ℝ).joints = wristSlides ++ wristTurns :=
  (List.take_append_drop 3 _).symm

theorem wristSlides_isSlide : ∀ joint ∈ wristSlides, joint.IsSlide := by
  intro joint hjoint
  simp only [wristSlides, cartesianWrist, List.take_succ_cons, List.take_zero, List.mem_cons,
    List.not_mem_nil, or_false] at hjoint
  rcases hjoint with rfl | rfl | rfl <;> exact ⟨rfl, rfl⟩

theorem wristTurns_isTurn : ∀ joint ∈ wristTurns, joint.IsTurn := by
  intro joint hjoint
  simp only [wristTurns, cartesianWrist, List.drop_succ_cons, List.drop_zero, List.mem_cons,
    List.not_mem_nil, or_false] at hjoint
  rcases hjoint with rfl | rfl | rfl <;> exact ⟨rfl, rfl⟩

theorem wristSlides_axes : wristSlides.map Joint.axis = Axis.all.map unit := by
  change Axis.all.map (fun axis => (unit axis).normalize) = _
  simp only [(Vec3.unit_isUnit _).normalize_eq]

theorem wristTurns_axes : wristTurns.map Joint.axis = Axis.all.reverse.map unit := by
  change Axis.all.reverse.map (fun axis => (unit axis).normalize) = _
  simp only [(Vec3.unit_isUnit _).normalize_eq]

-- The pose of the tool in closed form, by what the slides and what the turns make of it.
noncomputable def wristPose (place : Vec3 ℝ) (yaw pitch roll : ℝ) : Pose ℝ :=
  ⟨.ofAxisAngle (unit .z) yaw * .ofAxisAngle (unit .y) pitch * .ofAxisAngle (unit .x) roll, place⟩

theorem wristPose_toMatrix (place : Vec3 ℝ) (yaw pitch roll : ℝ) :
    (wristPose place yaw pitch roll).rotation.toMatrix =
      Mat3.turn yaw .z * Mat3.turn pitch .y * Mat3.turn roll .x := by
  rw [wristPose, Quat.toMatrix_mul, Quat.toMatrix_mul, Quat.toMatrix_ofAxisAngle_unit,
    Quat.toMatrix_ofAxisAngle_unit, Quat.toMatrix_ofAxisAngle_unit]

-- The slides bring the tool to its place, and the turns leave it there.
theorem cartesianWrist_jointFrames (q : Fin 6 → ℝ) :
    ∃ slides turns : List (JointFrame ℝ),
      Chain.jointFrames .identity cartesianWrist.joints (List.ofFn q) =
        (slides ++ turns, wristPose ⟨q 0, q 1, q 2⟩ (q 3) (q 4) (q 5)) ∧
      slides.length = wristSlides.length ∧ turns.length = wristTurns.length ∧
      slides.map JointFrame.axis = Axis.all.map unit ∧
      ∀ frame ∈ turns,
        frame.origin = (wristPose ⟨q 0, q 1, q 2⟩ (q 3) (q 4) (q 5)).translation := by
  have hpositions : List.ofFn q = [q 0, q 1, q 2] ++ [q 3, q 4, q 5] := rfl
  obtain ⟨haxes, hshifted⟩ := Chain.jointFrames_slides wristSlides_isSlide
    (rfl : [q 0, q 1, q 2].length = _) .zero
  obtain ⟨horigins, hturned⟩ := Chain.jointFrames_turns wristTurns_isTurn
    (rfl : [q 3, q 4, q 5].length = _) (.ofTranslation ⟨q 0, q 1, q 2⟩)
  have hplace : Vec3.zero + Vec3.combine (wristSlides.map Joint.axis) [q 0, q 1, q 2] =
      ⟨q 0, q 1, q 2⟩ := by
    rw [wristSlides_axes]
    ext <;> simp [Axis.all, unit]
  have hslid : (Chain.jointFrames .identity wristSlides [q 0, q 1, q 2]).2 =
      .ofTranslation ⟨q 0, q 1, q 2⟩ :=
    hshifted.trans (congrArg Pose.ofTranslation hplace)
  have hturned : (Chain.jointFrames (.ofTranslation ⟨q 0, q 1, q 2⟩) wristTurns [q 3, q 4, q 5]).2 =
      wristPose ⟨q 0, q 1, q 2⟩ (q 3) (q 4) (q 5) := by
    rw [hturned, wristTurns_axes, wristPose]
    exact congrArg (Pose.mk · _) (by simp [Axis.all, Pose.ofTranslation])
  refine ⟨_, _, ?_, Chain.length_jointFrames _ _ _ rfl, Chain.length_jointFrames _ _ _ rfl,
    haxes.trans wristSlides_axes, horigins⟩
  rw [cartesianWrist_joints, hpositions, Chain.jointFrames_append _ _ _ _ _ rfl, hslid, hturned]
  rfl

-- The tool, and how its origin moves along the joints.
theorem cartesianWrist_tool (q : Fin 6 → ℝ) :
    (Scratchpad.fill cartesianWrist (List.ofFn q)).linkPose .tip =
        wristPose ⟨q 0, q 1, q 2⟩ (q 3) (q 4) (q 5) ∧
      ((Scratchpad.fill cartesianWrist (List.ofFn q)).jacobian cartesianWrist.joints .tip).map
        Twist.linear = Axis.all.map unit ++ List.replicate 3 .zero := by
  obtain ⟨slides, turns, hframes, hslides, hturns, haxes, horigins⟩ := cartesianWrist_jointFrames q
  have hpose : (Scratchpad.fill cartesianWrist (List.ofFn q)).linkPose .tip =
      wristPose ⟨q 0, q 1, q 2⟩ (q 3) (q 4) (q 5) := by
    rw [Scratchpad.linkPose, Scratchpad.fill_tip, hframes]
    exact Pose.mul_identity
  have hroom := Scratchpad.length_fill_joints (cartesianWrist : Chain ℝ) (rfl : (List.ofFn q).length = 6)
  refine ⟨hpose, ?_⟩
  rw [Scratchpad.linear_jacobian_tip hroom, hpose, Scratchpad.fill_joints, hframes, cartesianWrist_joints,
    List.zip_append hslides.symm, List.map_append,
    Scratchpad.linear_jointTwist_slides wristSlides_isSlide hslides,
    Scratchpad.linear_jointTwist_turns wristTurns_isTurn hturns horigins, haxes]
  rfl

end Robots

end TaskSpace.Kinematics
