import Mathlib
import TaskSpace.Kinematics.Robots
import TaskSpace.Proofs.Kinematics.Memory
import TaskSpace.Proofs.Kinematics.Screw

namespace TaskSpace.Rigid

namespace Pose

-- The velocity of a frame along a path: that of its origin, and the angular velocity of its rotation.
structure HasTwistAt (path : ℝ → Pose ℝ) (twist : Twist ℝ) (time : ℝ) : Prop where
  linear : Vec3.HasRateAt (fun s => (path s).translation) twist.linear time
  angular : Quat.HasRateAt (fun s => (path s).rotation)
    (Quat.spin twist.angular (path time).rotation) time

theorem hasTwistAt_const (pose : Pose ℝ) (time : ℝ) :
    HasTwistAt (fun _ => pose) ⟨.zero, .zero⟩ time := by
  have hspin : Quat.spin .zero pose.rotation = ⟨0, 0, 0, 0⟩ := by
    ext <;> simp [Quat.spin, Quat.pure, Quat.ofParts]
  constructor
  · intro axis
    refine (hasDerivAt_const time _).congr_deriv ?_
    cases axis <;> rfl
  · rw [hspin]
    constructor <;> exact hasDerivAt_const time _

theorem HasTwistAt.toMatrix {path : ℝ → Pose ℝ} {twist : Twist ℝ} {time : ℝ}
    (h : HasTwistAt path twist time) :
    Mat3.HasRateAt (fun s => (path s).rotation.toMatrix)
      (Mat3.skew twist.angular * (path time).rotation.toMatrix) time := by
  have hmatrix := h.angular.toMatrix
  rwa [Quat.toMatrixRate_spin] at hmatrix

end Pose

end TaskSpace.Rigid

namespace TaskSpace.Kinematics

open Rigid

-- A screw that starts at a time gives every frame the velocity that its joint contributes.
theorem JointFrame.hasTwistAt_screw (frame : JointFrame ℝ) (haxis : frame.axis.IsUnit)
    (kind : JointKind) (pose : Pose ℝ) (time : ℝ) :
    Pose.HasTwistAt (fun s => frame.screw kind (s - time) * pose)
      (Scratchpad.jointTwist kind frame pose.translation) time := by
  cases kind with
  | prismatic =>
      have hfixed := Pose.hasTwistAt_const pose time
      have hshift : Vec3.HasRateAt (fun s => frame.axis.scale (s - time)) frame.axis time := by
        have hid : HasDerivAt (fun s => s - time) 1 time := (hasDerivAt_id time).sub_const time
        rintro (_ | _ | _) <;> exact (hid.const_mul _).congr_deriv (mul_one _)
      constructor
      · have hmoved := hshift.add hfixed.linear
        simp only [Vec3.add_zero] at hmoved
        simpa [JointFrame.screw, Pose.ofTranslation, Scratchpad.jointTwist] using hmoved
      · simpa [JointFrame.screw, Pose.ofTranslation, Scratchpad.jointTwist] using hfixed.angular
  | revolute =>
      have hturn := Quat.hasRateAt_ofAxisAngle frame.axis time
      constructor
      · have horigin := (Vec3.HasRateAt.const frame.origin time).sub
          (Quat.hasRateAt_rotate_ofAxisAngle haxis frame.origin time)
        have hmoved := horigin.add (Quat.hasRateAt_rotate_ofAxisAngle haxis pose.translation time)
        have hlever : Vec3.zero - frame.axis.cross frame.origin +
            frame.axis.cross pose.translation = frame.axis.cross (pose.translation - frame.origin) := by
          ext <;> simp <;> ring
        rwa [hlever] at hmoved
      · have hrate := hturn.mul_const pose.rotation
        simpa [JointFrame.screw, Scratchpad.jointTwist, Quat.spin, Quat.mul_assoc] using hrate

namespace Chain

-- The places that a chain has.
def HasPlace {α : Type} (chain : Chain α) : LinkIndex → Prop
  | .joint index => index < chain.dof
  | _ => True

theorem hasPlace_of_linkIndex? {α : Type} (chain : Chain α) {link : String} {place : LinkIndex}
    (h : chain.linkIndex? link = some place) : chain.HasPlace place := by
  unfold linkIndex? at h
  split at h
  · cases h; trivial
  · split at h
    · cases h; trivial
    · obtain ⟨index, hindex, rfl⟩ := Option.map_eq_some_iff.mp h
      obtain ⟨hlt, _⟩ := List.findIdx?_eq_some_iff_getElem.mp hindex
      exact hlt

end Chain

namespace Scratchpad

variable {α : Type} [Scalar α] {pad : Scratchpad α}

-- Joints behind the link do not move it.
theorem jacobian_getElem? {joints : List (Joint α)} {place : LinkIndex} {j : Nat}
    (hj : j < joints.length) {frame : JointFrame α} (hframe : pad.joints[j]? = some frame) :
    (pad.jacobian joints place)[j]? =
      some (if j < pad.movingJoints place then
          jointTwist joints[j].kind frame (pad.linkPose place).translation
        else ⟨.zero, .zero⟩) := by
  obtain ⟨hlt, hget⟩ := List.getElem?_eq_some_iff.mp hframe
  have hzip : (joints.zip pad.joints)[j]? = some (joints[j], frame) := by
    rw [List.getElem?_eq_getElem (by simp [hj, hlt]), List.getElem_zip, hget]
  simp only [jacobian]
  split_ifs with hmove
  · rw [List.getElem?_append_left (by simp; omega), List.getElem?_map, List.getElem?_take_of_lt hmove,
      hzip]
    rfl
  · have hlength : ((joints.zip pad.joints).take (pad.movingJoints place)).length =
        pad.movingJoints place := by
      simp only [List.length_take, List.length_zip]
      omega
    rw [List.getElem?_append_right (by simp only [List.length_map, hlength]; omega), List.length_map,
      hlength, List.getElem?_replicate_of_lt (by omega)]

theorem length_jacobian {joints : List (Joint α)} {place : LinkIndex}
    (hlength : pad.joints.length = joints.length)
    (hmoving : pad.movingJoints place ≤ joints.length) :
    (pad.jacobian joints place).length = joints.length := by
  simp only [jacobian, List.length_append, List.length_map, List.length_take, List.length_zip,
    List.length_replicate]
  omega

theorem length_fill_joints (chain : Chain α) {positions : List α}
    (hlength : positions.length = chain.dof) : (fill chain positions).joints.length = chain.dof :=
  Chain.length_jointFrames .identity chain.joints positions hlength

omit [Scalar α] in
theorem movingJoints_le {chain : Chain α} (hlength : pad.joints.length = chain.dof) {place : LinkIndex}
    (hplace : chain.HasPlace place) : pad.movingJoints place ≤ chain.dof := by
  cases place with
  | base => exact Nat.zero_le _
  | joint index => exact hplace
  | tip => exact Nat.le_of_eq hlength

end Scratchpad

theorem ofFn_update {β : Type} {n : Nat} (q : Fin n → β) (j : Fin n) (value : β) :
    List.ofFn (Function.update q j value) = (List.ofFn q).set j value := by
  apply List.ext_getElem (by simp)
  intro index hindex _
  simp only [List.getElem_ofFn, List.getElem_set, Function.update_apply, Fin.ext_iff, eq_comm]

namespace Scratchpad

-- The second scratchpad differs from the first one by a motion of all that comes with a joint and behind
-- it. The record of the joint itself is made before it moves.
structure IsMovedFrom (j : Nat) (motion : Pose ℝ) (pad moved : Scratchpad ℝ) : Prop where
  before : ∀ index, index < j → moved.joints[index]? = pad.joints[index]?
  own : moved.joints[j]? = pad.joints[j]?.map fun frame => { frame with link := motion * frame.link }
  behind : ∀ index, j < index → moved.joints[index]? = pad.joints[index]?.map (JointFrame.move motion)
  tip : moved.tip = motion * pad.tip

-- A motion of one joint carries its own link and those behind it.
theorem IsMovedFrom.linkPose_eq {chain : Chain ℝ} {positions : List ℝ} {j : Nat} {motion : Pose ℝ}
    {moved : Scratchpad ℝ} (h : IsMovedFrom j motion (fill chain positions) moved)
    (hlength : positions.length = chain.dof) (hj : j < chain.dof) {place : LinkIndex}
    (hplace : chain.HasPlace place) :
    moved.linkPose place =
      if j < (fill chain positions).movingJoints place then motion * (fill chain positions).linkPose place
      else (fill chain positions).linkPose place := by
  have hroom := length_fill_joints chain hlength
  cases place with
  | base => simp [linkPose, movingJoints]
  | joint index =>
      have hindex : index < (fill chain positions).joints.length := hroom.symm ▸ hplace
      have hmoving : (fill chain positions).movingJoints (.joint index) = index + 1 := rfl
      rw [hmoving, linkPose, linkPose]
      rcases Nat.lt_trichotomy index j with hbefore | rfl | hbehind
      · rw [h.before index hbefore, if_neg (by omega)]
      · rw [h.own, List.getElem?_eq_getElem hindex, if_pos (by omega)]
        rfl
      · rw [h.behind index hbehind, List.getElem?_eq_getElem hindex, if_pos (by omega)]
        rfl
  | tip =>
      have hmoving : j < (fill chain positions).movingJoints .tip := by
        rwa [movingJoints, hroom]
      rw [if_pos hmoving]
      exact h.tip

end Scratchpad

namespace Chain

variable {chain : Chain ℝ} {positions : List ℝ} {j : Nat}

-- Moving one joint on, by its screw. The run is cut at the joint: what is before it does not change, and what
-- is behind it is run again from the moved link.
theorem fill_set (hjoints : ∀ joint ∈ chain.joints, joint.IsRigid)
    (hlength : positions.length = chain.dof) (hj : j < chain.dof) :
    ∃ frame : JointFrame ℝ, (Scratchpad.fill chain positions).joints[j]? = some frame ∧
      frame.axis.IsUnit ∧ ∀ amount,
        Scratchpad.IsMovedFrom j (frame.screw chain.joints[j].kind amount)
          (Scratchpad.fill chain positions)
          (Scratchpad.fill chain (positions.set j (positions[j] + amount))) := by
  have hsplit : chain.joints = chain.joints.take j ++ chain.joints[j] :: chain.joints.drop (j + 1) := by
    rw [← List.drop_eq_getElem_cons hj, List.take_append_drop]
  have hpositions : positions = positions.take j ++ positions[j] :: positions.drop (j + 1) := by
    rw [← List.drop_eq_getElem_cons (by omega), List.take_append_drop]
  have hset : ∀ amount, positions.set j (positions[j] + amount) =
      positions.take j ++ (positions[j] + amount) :: positions.drop (j + 1) := by
    intro amount
    rw [List.set_eq_take_append_cons_drop, if_pos (by omega)]
  have hbefore : (positions.take j).length = (chain.joints.take j).length := by
    simp only [List.length_take, hlength, dof]
  obtain ⟨fixed, moved, frame, last, hfixed, haxis, hframes, hscrew⟩ :=
    jointFrames_screw Pose.isUnit_identity (hsplit ▸ hjoints) hbefore positions[j]
      (positions.drop (j + 1))
  rw [← hsplit, ← hpositions] at hframes
  simp only [← hset, ← hsplit] at hscrew
  have hcount : fixed.length = j := by
    rw [hfixed, List.length_take]
    exact Nat.min_eq_left (Nat.le_of_lt hj)
  have hlast : last.rotation.IsUnit := by
    have h := jointFrames_isUnit Pose.isUnit_identity hjoints positions
    rwa [hframes] at h
  subst hcount
  have hframe : (Scratchpad.fill chain positions).joints[fixed.length]? = some frame := by
    simp [Scratchpad.fill_joints, hframes]
  refine ⟨frame, hframe, haxis, fun amount => ⟨?before, ?own, ?behind, ?tip⟩⟩
  case before =>
    intro index hindex
    rw [Scratchpad.fill_joints, Scratchpad.fill_joints, hframes, hscrew,
      List.getElem?_append_left hindex, List.getElem?_append_left hindex]
  case own =>
    rw [hframe]
    simp [Scratchpad.fill_joints, hscrew]
  case behind =>
    intro index hindex
    have hright : fixed.length ≤ index := Nat.le_of_lt hindex
    obtain ⟨offset, hoffset⟩ : ∃ offset, index - fixed.length = offset + 1 :=
      ⟨index - fixed.length - 1, by omega⟩
    rw [Scratchpad.fill_joints, Scratchpad.fill_joints, hframes, hscrew,
      List.getElem?_append_right hright, List.getElem?_append_right hright, hoffset,
      List.getElem?_cons_succ, List.getElem?_cons_succ, List.getElem?_map]
  case tip =>
    simp only [Scratchpad.fill_tip, hframes, hscrew]
    exact Pose.mul_assoc (frame.screw_isUnit haxis _ amount) hlast

end Chain

namespace Chain.IsRigid

variable {chain : Chain ℝ} {positions : List ℝ} {place : LinkIndex} {j : Nat}

theorem tipOffset_isUnit (hchain : chain.IsRigid) : chain.tipOffset.rotation.IsUnit := by
  have htip := hchain.tip
  unfold tipOffset
  cases ht : chain.tip with
  | none => exact Quat.isUnit_identity
  | some tip => exact htip tip ht

theorem linkPose_isUnit (hchain : chain.IsRigid) (positions : List ℝ) (place : LinkIndex) :
    ((Scratchpad.fill chain positions).linkPose place).rotation.IsUnit := by
  cases place with
  | base => exact Quat.isUnit_identity
  | joint index =>
      have hlinks := jointFrames_link_isUnit Pose.isUnit_identity hchain.joints positions
      rw [← Scratchpad.fill_joints] at hlinks
      simp only [Scratchpad.linkPose]
      cases hget : (Scratchpad.fill chain positions).joints[index]? with
      | none => exact Quat.isUnit_identity
      | some frame => exact hlinks frame (List.mem_of_getElem? hget)
  | tip =>
      exact (jointFrames_isUnit Pose.isUnit_identity hchain.joints positions).mul
        hchain.tipOffset_isUnit

-- Each column of the geometric Jacobian is the velocity of the link along its joint.
theorem hasTwistAt_linkPose (hchain : chain.IsRigid) (hlength : positions.length = chain.dof)
    (hj : j < chain.dof) (hplace : chain.HasPlace place) :
    ∃ twist, ((Scratchpad.fill chain positions).jacobian chain.joints place)[j]? = some twist ∧
      Pose.HasTwistAt (fun t => (Scratchpad.fill chain (positions.set j t)).linkPose place) twist
        positions[j] := by
  obtain ⟨frame, hframe, haxis, hmoved⟩ := fill_set hchain.joints hlength hj
  refine ⟨_, Scratchpad.jacobian_getElem? hj hframe, ?_⟩
  have hpath : (fun t => (Scratchpad.fill chain (positions.set j t)).linkPose place) = fun t =>
      if j < (Scratchpad.fill chain positions).movingJoints place then
        frame.screw chain.joints[j].kind (t - positions[j]) *
          (Scratchpad.fill chain positions).linkPose place
      else (Scratchpad.fill chain positions).linkPose place := by
    funext t
    rw [← (hmoved (t - positions[j])).linkPose_eq hlength hj hplace, add_sub_cancel]
  rw [hpath]
  split_ifs
  · exact frame.hasTwistAt_screw haxis _ _ _
  · exact Pose.hasTwistAt_const _ _

-- All columns together.
theorem exists_twists (hchain : chain.IsRigid) (hplace : chain.HasPlace place)
    (q : Fin chain.dof → ℝ) :
    ∃ twists : Fin chain.dof → Twist ℝ,
      (Scratchpad.fill chain (List.ofFn q)).jacobian chain.joints place = List.ofFn twists ∧
      ∀ j, Pose.HasTwistAt
        (fun t => (Scratchpad.fill chain (List.ofFn (Function.update q j t))).linkPose place)
        (twists j) (q j) := by
  have hlength : (List.ofFn q).length = chain.dof := List.length_ofFn
  have htwist := fun j : Fin chain.dof => hchain.hasTwistAt_linkPose hlength j.isLt hplace
  choose twists htwists hvelocity using htwist
  refine ⟨twists, ?_, fun j => ?_⟩
  · apply List.ext_getElem
    · rw [List.length_ofFn]
      exact Scratchpad.length_jacobian (Scratchpad.length_fill_joints chain hlength)
        (Scratchpad.movingJoints_le (Scratchpad.length_fill_joints chain hlength) hplace)
    · intro index hindex hofFn
      have hcolumn := htwists ⟨index, by simpa using hofFn⟩
      rw [List.getElem?_eq_getElem hindex] at hcolumn
      rw [List.getElem_ofFn]
      exact Option.some.inj hcolumn
  · simpa only [ofFn_update, List.getElem_ofFn] using hvelocity j

end Chain.IsRigid

namespace Chain

-- The columns are the partial derivatives of the pose that the chain answers for a link: of the origin
-- of the link, and of its rotation matrix, for which no other angular velocity would do.
def HasGeometricJacobianAt (chain : Chain ℝ) (link : String) (q : Fin chain.dof → ℝ)
    (columns : Fin chain.dof → Twist ℝ) : Prop :=
  ∃ pose : (Fin chain.dof → ℝ) → Pose ℝ,
    (∀ x, (chain.jointGroup.linkPose (List.ofFn x) link).answer chain.jointGroup.newScratchpad =
      .ok (pose x)) ∧
    ∀ j, Vec3.HasRateAt (fun t => (pose (Function.update q j t)).translation) (columns j).linear (q j) ∧
      ∀ velocity, Mat3.HasRateAt (fun t => (pose (Function.update q j t)).rotation.toMatrix)
        (Mat3.skew velocity * (pose q).rotation.toMatrix) (q j) ↔ velocity = (columns j).angular

-- The geometric Jacobian that a chain answers is that of the link.
theorem geometricJacobian_hasGeometricJacobianAt (chain : Chain ℝ) (hchain : chain.IsRigid)
    (link : String) (hlink : chain.jointGroup.hasLink link = true) (q : Fin chain.dof → ℝ) :
    ∃ columns : Fin chain.dof → Twist ℝ,
      (chain.jointGroup.geometricJacobian (List.ofFn q) link).answer chain.jointGroup.newScratchpad =
        .ok (List.ofFn columns) ∧
      chain.HasGeometricJacobianAt link q columns := by
  obtain ⟨place, hplace⟩ := Option.isSome_iff_exists.mp hlink
  have hlength : ∀ x : Fin chain.dof → ℝ, (List.ofFn x).length = chain.dof :=
    fun x => List.length_ofFn
  obtain ⟨columns, hcolumns, hvelocity⟩ :=
    hchain.exists_twists (chain.hasPlace_of_linkIndex? hplace) q
  let pose := fun x : Fin chain.dof → ℝ => (Scratchpad.fill chain (List.ofFn x)).linkPose place
  refine ⟨columns, ?_, pose, fun x => answer_linkPose_fresh (hlength x) hplace, ?_⟩
  · rw [answer_geometricJacobian_fresh (hlength q) hplace, hcolumns]
  · intro j
    have hpath : Pose.HasTwistAt (fun t => pose (Function.update q j t)) (columns j) (q j) :=
      hvelocity j
    have hmatrix := hpath.toMatrix
    rw [Function.update_eq_self] at hmatrix
    refine ⟨hpath.linear, fun velocity => ⟨fun hother => ?_, fun heq => heq ▸ hmatrix⟩⟩
    have hunit := hchain.linkPose_isUnit (List.ofFn q) place
    exact Mat3.skew_injective _ _ (hunit.mul_toMatrix_cancel (hother.unique hmatrix))

end Chain

namespace Robots

theorem cartesianWrist_isRigid : (cartesianWrist : Chain ℝ).IsRigid := by
  constructor
  · intro joint hjoint
    simp only [cartesianWrist, List.mem_cons, List.not_mem_nil, or_false] at hjoint
    rcases hjoint with rfl | rfl | rfl | rfl | rfl | rfl
    · exact Joint.isRigid_prismatic _ _ Pose.isUnit_identity (by simp [Vec3.zero])
    · exact Joint.isRigid_prismatic _ _ Pose.isUnit_identity (by simp [Vec3.zero])
    · exact Joint.isRigid_prismatic _ _ Pose.isUnit_identity (by simp [Vec3.zero])
    · exact Joint.isRigid_revolute _ _ Pose.isUnit_identity (by simp [Vec3.zero])
    · exact Joint.isRigid_revolute _ _ Pose.isUnit_identity (by simp [Vec3.zero])
    · exact Joint.isRigid_revolute _ _ Pose.isUnit_identity (by simp [Vec3.zero])
  · intro tip htip
    obtain rfl := Option.mem_some_iff.mp htip
    exact Pose.isUnit_identity

theorem cartesianWrist_linkPose_rest :
    (Scratchpad.fill cartesianWrist
      (List.ofFn fun _ : Fin (cartesianWrist : Chain ℝ).dof => (0 : ℝ))).linkPose .tip = .identity := by
  have hrest : (Chain.jointFrames .identity (cartesianWrist : Chain ℝ).joints
      (List.replicate 6 0)).2 = .identity :=
    Chain.jointFrames_rest (by simp [cartesianWrist, Joint.prismatic, Joint.revolute]) 6
  change (Scratchpad.fill cartesianWrist (List.replicate 6 (0 : ℝ))).linkPose .tip = _
  rw [Scratchpad.linkPose, Scratchpad.fill_tip, hrest, Pose.identity_mul]
  rfl

-- Slides and turns in one chain, and a link in its middle.
theorem cartesianWrist_hasGeometricJacobianAt :
    (cartesianWrist : Chain ℝ).IsRigid ∧
    (cartesianWrist : Chain ℝ).jointGroup.hasLink "pitch_link" = true ∧
    ∃ columns : Fin 6 → Twist ℝ,
      ((cartesianWrist : Chain ℝ).jointGroup.geometricJacobian (List.ofFn fun _ : Fin 6 => 1)
          "pitch_link").answer (.fresh 6) = .ok (List.ofFn columns) ∧
      (cartesianWrist : Chain ℝ).HasGeometricJacobianAt "pitch_link" (fun _ => 1) columns :=
  ⟨cartesianWrist_isRigid, rfl,
    Chain.geometricJacobian_hasGeometricJacobianAt cartesianWrist cartesianWrist_isRigid "pitch_link"
      rfl fun _ => 1⟩

end Robots

end TaskSpace.Kinematics
