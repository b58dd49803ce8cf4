import Mathlib
import TaskSpace.Proofs.Kinematics.BaseFrame

namespace TaskSpace.Rigid

-- The velocity of a point that is carried along at an offset.
def Twist.shift {α : Type} [Scalar α] (offset : Vec3 α) (twist : Twist α) : Twist α :=
  ⟨twist.linear + twist.angular.cross offset, twist.angular⟩

end TaskSpace.Rigid

namespace TaskSpace.Kinematics

open Rigid

section Append

variable {α : Type}

-- The second chain stands on the last link of the first one.
def Chain.followedBy (first second : Chain α) : Chain α :=
  ⟨first.baseLink, first.joints ++ second.joints, second.tip⟩

def Chain.lastLink (chain : Chain α) : LinkIndex :=
  if chain.dof = 0 then .base else .joint (chain.dof - 1)

-- The place of a link, when that many joints are put before all others.
def LinkIndex.behind (count : Nat) : LinkIndex → LinkIndex
  | .joint index => .joint (count + index)
  | place => place

variable [Scalar α]

namespace Chain

theorem getLast?_jointFrames (start : Pose α) (joints : List (Joint α)) (positions : List α) :
    ((jointFrames start joints positions).1.getLast?.map JointFrame.link).getD start =
      (jointFrames start joints positions).2 := by
  induction joints generalizing start positions with
  | nil => rfl
  | cons joint joints ih =>
      cases positions with
      | nil => rfl
      | cons position positions =>
          -- Without joints behind it the first joint has the last link, from which those would start.
          rw [jointFrames_cons, List.getLast?_cons, ← ih]
          cases (jointFrames _ joints positions).1.getLast? <;> rfl

theorem linkPose_lastLink (chain : Chain α) {positions : List α} (hlength : positions.length = chain.dof) :
    (Scratchpad.fill chain positions).linkPose chain.lastLink =
      (jointFrames .identity chain.joints positions).2 := by
  have hroom := Scratchpad.length_fill_joints chain hlength
  rw [← getLast?_jointFrames, ← Scratchpad.fill_joints, List.getLast?_eq_getElem?, hroom]
  unfold lastLink
  split_ifs with hnone
  · rw [List.getElem?_eq_none (by omega)]
    rfl
  · rfl

end Chain

namespace Scratchpad

-- The frames of two chains, the second ones as they stand behind the first ones.
def append (pad behind : Scratchpad α) : Scratchpad α :=
  ⟨pad.positions ++ behind.positions, true, pad.joints ++ behind.joints, behind.tip⟩

variable {pad behind : Scratchpad α} {joints joints' : List (Joint α)} {place : LinkIndex}

theorem linkPose_append_behind (hbase : place ≠ .base) :
    (pad.append behind).linkPose (place.behind pad.joints.length) = behind.linkPose place := by
  cases place with
  | base => exact absurd rfl hbase
  | joint index =>
      simp only [linkPose, append, LinkIndex.behind]
      rw [List.getElem?_append_right (Nat.le_add_right _ _), Nat.add_sub_cancel_left]
  | tip => rfl

theorem linkPose_append_before (htip : place ≠ .tip) (hplace : pad.movingJoints place ≤ pad.joints.length) :
    (pad.append behind).linkPose place = pad.linkPose place := by
  cases place with
  | base => rfl
  | joint index =>
      simp only [linkPose, append]
      rw [List.getElem?_append_left hplace]
  | tip => exact absurd rfl htip

-- All joints of the first chain move a link of the second one.
theorem jacobian_append_behind (hlength : joints.length = pad.joints.length) (hbase : place ≠ .base) :
    (pad.append behind).jacobian (joints ++ joints') (place.behind pad.joints.length) =
      (joints.zip pad.joints).map (fun (joint, frame) =>
        jointTwist joint.kind frame (behind.linkPose place).translation) ++
      behind.jacobian joints' place := by
  have hmoving : (pad.append behind).movingJoints (place.behind pad.joints.length) =
      pad.joints.length + behind.movingJoints place := by
    cases place with
    | base => exact absurd rfl hbase
    | joint index => exact Nat.add_assoc _ _ _
    | tip => exact List.length_append
  have hzip : (joints.zip pad.joints).length = pad.joints.length := by
    rw [List.length_zip, hlength, Nat.min_self]
  have hrest : joints.length + joints'.length - (pad.joints.length + behind.movingJoints place) =
      joints'.length - behind.movingJoints place := by
    omega
  simp only [jacobian, linkPose_append_behind hbase, hmoving, List.length_append, hrest]
  rw [append, List.zip_append hlength, List.take_append, hzip, Nat.add_sub_cancel_left,
    List.take_of_length_le (by omega), List.map_append, List.append_assoc]

-- The joints of the second chain do not move a link of the first one.
theorem jacobian_append_before (hlength : joints.length = pad.joints.length) (htip : place ≠ .tip)
    (hplace : pad.movingJoints place ≤ pad.joints.length) :
    (pad.append behind).jacobian (joints ++ joints') place =
      pad.jacobian joints place ++ List.replicate joints'.length ⟨.zero, .zero⟩ := by
  have hmoving : (pad.append behind).movingJoints place = pad.movingJoints place := by
    cases place with
    | base => rfl
    | joint index => rfl
    | tip => exact absurd rfl htip
  have hrest : joints.length + joints'.length - pad.movingJoints place =
      (joints.length - pad.movingJoints place) + joints'.length := by
    omega
  simp only [jacobian, linkPose_append_before htip hplace, hmoving, List.length_append, hrest]
  rw [append, List.zip_append hlength, List.take_append_of_le_length (by simp; omega),
    List.append_assoc, List.replicate_add]

theorem jacobian_lastLink (chain : Chain α) (hroom : pad.joints.length = chain.dof) :
    pad.jacobian chain.joints chain.lastLink =
      (chain.joints.zip pad.joints).map fun (joint, frame) =>
        jointTwist joint.kind frame (pad.linkPose chain.lastLink).translation := by
  have hmoving : pad.movingJoints chain.lastLink = chain.dof := by
    unfold Chain.lastLink
    split_ifs with hnone
    · exact hnone.symm
    · exact Nat.succ_pred hnone
  have hall : chain.joints.length - chain.dof = 0 := Nat.sub_self _
  rw [jacobian, hmoving, hall, List.take_of_length_le (by simp [hroom, Chain.dof]), List.replicate_zero,
    List.append_nil]

end Scratchpad

end Append

-- A turning joint gives a point further out the velocity of the lever besides.
theorem Scratchpad.jointTwist_add (kind : JointKind) (frame : JointFrame ℝ) (point offset : Vec3 ℝ) :
    jointTwist kind frame (point + offset) = (jointTwist kind frame point).shift offset := by
  cases kind with
  | prismatic =>
      simp only [jointTwist, Twist.shift]
      congr 1
      ext <;> simp
  | revolute =>
      simp only [jointTwist, Twist.shift]
      congr 1
      ext <;> simp <;> ring

namespace Chain

variable {first second : Chain ℝ} {positions positions' : List ℝ}

-- Seen from the base, all of the second chain is moved by the last link of the first one.
theorem fill_followedBy (hfirst : ∀ joint ∈ first.joints, joint.IsRigid)
    (hsecond : ∀ joint ∈ second.joints, joint.IsRigid) (hlength : positions.length = first.dof) :
    Scratchpad.fill (first.followedBy second) (positions ++ positions') =
      (Scratchpad.fill first positions).append ((Scratchpad.fill second positions').move
        ((Scratchpad.fill first positions).linkPose first.lastLink)) := by
  have hlast := jointFrames_isUnit Pose.isUnit_identity hfirst positions
  have hmoved := jointFrames_mul hlast Pose.isUnit_identity hsecond positions'
  rw [Pose.mul_identity] at hmoved
  have hbehind := jointFrames_isUnit Pose.isUnit_identity hsecond positions'
  have htip : (first.followedBy second).tipOffset = second.tipOffset := rfl
  rw [linkPose_lastLink first hlength]
  unfold Scratchpad.fill
  rw [htip]
  simp only [followedBy, jointFrames_append _ _ _ _ _ hlength, hmoved, Pose.mul_assoc hlast hbehind]
  rfl

-- What two chains record alone, and what they record in series.
structure ComposeTo (first second : Chain ℝ) (pad behind series : Scratchpad ℝ) : Prop where
  linkPose_behind : ∀ place, second.HasPlace place → place ≠ .base →
    series.linkPose (place.behind first.dof) = pad.linkPose first.lastLink * behind.linkPose place
  jacobian_behind : ∀ place, second.HasPlace place → place ≠ .base →
    series.jacobian (first.followedBy second).joints (place.behind first.dof) =
      (pad.jacobian first.joints first.lastLink).map (Twist.shift
        ((pad.linkPose first.lastLink).rotation.rotate (behind.linkPose place).translation)) ++
      (behind.jacobian second.joints place).map (Twist.rotate (pad.linkPose first.lastLink).rotation)
  linkPose_before : ∀ place, first.HasPlace place → place ≠ .tip →
    series.linkPose place = pad.linkPose place
  jacobian_before : ∀ place, first.HasPlace place → place ≠ .tip →
    series.jacobian (first.followedBy second).joints place =
      pad.jacobian first.joints place ++ List.replicate second.dof ⟨.zero, .zero⟩

-- Poses and Jacobians of chains in series are composed of those of the single chains.
theorem fill_composeTo (first second : Chain ℝ) (hfirst : ∀ joint ∈ first.joints, joint.IsRigid)
    (hsecond : ∀ joint ∈ second.joints, joint.IsRigid) (q : Fin first.dof → ℝ) (r : Fin second.dof → ℝ) :
    first.ComposeTo second (Scratchpad.fill first (List.ofFn q)) (Scratchpad.fill second (List.ofFn r))
      (Scratchpad.fill (first.followedBy second) (List.ofFn q ++ List.ofFn r)) := by
  have hroom := Scratchpad.length_fill_joints first (List.length_ofFn (f := q))
  have hroom' := Scratchpad.length_fill_joints second (List.length_ofFn (f := r))
  have hlast : ((Scratchpad.fill first (List.ofFn q)).linkPose first.lastLink).rotation.IsUnit := by
    rw [linkPose_lastLink first List.length_ofFn]
    exact jointFrames_isUnit Pose.isUnit_identity hfirst _
  rw [fill_followedBy hfirst hsecond List.length_ofFn]
  generalize Scratchpad.fill first (List.ofFn q) = pad at *
  generalize Scratchpad.fill second (List.ofFn r) = behind at *
  constructor
  case linkPose_behind =>
    intro place hplace hbase
    have hmoving := Scratchpad.movingJoints_le hroom' hplace
    rw [← hroom, Scratchpad.linkPose_append_behind hbase, behind.linkPose_move hbase (hroom' ▸ hmoving)]
  case jacobian_behind =>
    intro place hplace hbase
    have hmoving := Scratchpad.movingJoints_le hroom' hplace
    rw [← hroom'] at hmoving
    rw [← hroom, followedBy, Scratchpad.jacobian_append_behind hroom.symm hbase,
      behind.jacobian_move hlast hbase hmoving, behind.linkPose_move hbase hmoving,
      Scratchpad.jacobian_lastLink first hroom, List.map_map]
    congr 2
    funext pair
    exact Scratchpad.jointTwist_add pair.1.kind pair.2 _ _
  case linkPose_before =>
    intro place hplace htip
    have hmoving := Scratchpad.movingJoints_le hroom hplace
    exact Scratchpad.linkPose_append_before htip (hroom ▸ hmoving)
  case jacobian_before =>
    intro place hplace htip
    have hmoving := Scratchpad.movingJoints_le hroom hplace
    exact Scratchpad.jacobian_append_before hroom.symm htip (hroom ▸ hmoving)

-- A robot without a tool, which carries a robot of its kind with one.
theorem cartesianWrist_composeTo :
    let carrier : Chain ℝ := { Robots.cartesianWrist with tip := none }
    (∀ joint ∈ carrier.joints, joint.IsRigid) ∧
      (∀ joint ∈ (Robots.cartesianWrist : Chain ℝ).joints, joint.IsRigid) ∧
      carrier.ComposeTo Robots.cartesianWrist (Scratchpad.fill carrier (List.ofFn fun _ : Fin 6 => 1))
        (Scratchpad.fill Robots.cartesianWrist (List.ofFn fun _ : Fin 6 => 2))
        (Scratchpad.fill (carrier.followedBy Robots.cartesianWrist)
          ((List.ofFn fun _ : Fin 6 => 1) ++ List.ofFn fun _ : Fin 6 => 2)) := by
  intro carrier
  have hrigid := Robots.cartesianWrist_isRigid.joints
  exact ⟨hrigid, hrigid,
    fill_composeTo carrier Robots.cartesianWrist hrigid hrigid (fun _ => 1) fun _ => 2⟩

end Chain

end TaskSpace.Kinematics
