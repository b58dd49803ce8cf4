import Mathlib
import TaskSpace.Proofs.Kinematics.PairedRuns
import TaskSpace.Proofs.Kinematics.Velocity

namespace TaskSpace.Kinematics

open Rigid

-- The place of a link comes before a joint, so that the joint does not carry the link.
def LinkIndex.IsBefore (place : LinkIndex) (j : Nat) : Prop :=
  match place with
  | .base => True
  | .joint index => index < j
  | .tip => False

section Behind

variable {α : Type} {place : LinkIndex} {j : Nat}

theorem LinkIndex.IsBefore.movingJoints_le (h : place.IsBefore j) (pad : Scratchpad α) :
    pad.movingJoints place ≤ j := by
  cases place with
  | base => exact Nat.zero_le j
  | joint index => exact h
  | tip => exact h.elim

theorem LinkIndex.IsBefore.movingJoints_eq (h : place.IsBefore j) (pad pad' : Scratchpad α) :
    pad'.movingJoints place = pad.movingJoints place := by
  cases place with
  | base => rfl
  | joint index => rfl
  | tip => exact h.elim

variable [Scalar α]

-- The frames of the first joints only depend on the positions of these joints.
theorem Chain.take_jointFrames (start : Pose α) (joints : List (Joint α)) (positions : List α)
    (count : Nat) :
    (jointFrames start joints positions).1.take count =
      (jointFrames start (joints.take count) (positions.take count)).1 := by
  induction joints generalizing start positions count with
  | nil => simp [jointFrames]
  | cons joint joints ih =>
      cases positions with
      | nil => simp [jointFrames]
      | cons position positions =>
          cases count with
          | zero => rfl
          | succ count => simp only [jointFrames_cons, List.take_succ_cons, ih]

namespace LinkIndex.IsBefore

variable (h : place.IsBefore j) {pad pad' : Scratchpad α} (hframes : pad'.joints.take j = pad.joints.take j)

include h hframes

theorem linkPose_eq : pad'.linkPose place = pad.linkPose place := by
  cases place with
  | base => rfl
  | joint index =>
      have hframe := congrArg (·[index]?) hframes
      simp only [List.getElem?_take_of_lt h] at hframe
      simp only [Scratchpad.linkPose, hframe]
  | tip => exact h.elim

theorem jacobian_eq (joints : List (Joint α)) :
    pad'.jacobian joints place = pad.jacobian joints place := by
  have htake : (joints.zip pad'.joints).take j = (joints.zip pad.joints).take j := by
    simp only [List.zip, List.take_zipWith, hframes]
  have hmoving := congrArg (List.take (pad.movingJoints place)) htake
  rw [List.take_take, List.take_take, Nat.min_eq_left (h.movingJoints_le pad)] at hmoving
  simp only [Scratchpad.jacobian, h.linkPose_eq hframes, h.movingJoints_eq pad pad', hmoving]

end LinkIndex.IsBefore

theorem take_ofFn_congr {β : Type} {n : Nat} {x x' : Fin n → β} {count : Nat}
    (h : ∀ i : Fin n, i < count → x' i = x i) : (List.ofFn x').take count = (List.ofFn x).take count := by
  apply List.ext_getElem (by simp)
  intro index hindex _
  rw [List.length_take] at hindex
  simp only [List.getElem_take, List.getElem_ofFn]
  exact h _ (lt_min_iff.mp hindex).1

-- A link and its twists do not depend on the positions of the joints behind it.
theorem LinkIndex.IsBefore.fill_eq (h : place.IsBefore j) (chain : Chain α) {positions positions' : List α}
    (hsame : positions'.take j = positions.take j) :
    (Scratchpad.fill chain positions').linkPose place = (Scratchpad.fill chain positions).linkPose place ∧
      (Scratchpad.fill chain positions').jacobian chain.joints place =
        (Scratchpad.fill chain positions).jacobian chain.joints place := by
  have hframes : (Scratchpad.fill chain positions').joints.take j =
      (Scratchpad.fill chain positions).joints.take j := by
    rw [Scratchpad.fill_joints, Scratchpad.fill_joints, Chain.take_jointFrames, Chain.take_jointFrames, hsame]
  exact ⟨h.linkPose_eq hframes, h.jacobian_eq hframes chain.joints⟩

end Behind

section Slides

variable {α : Type} [Scalar α]

-- Positions of prismatic joints may differ, those of the others not.
def Joint.KeepsTurn (joint : Joint α) (position position' : α) : Prop :=
  joint.kind = .revolute → position' = position

-- Rotations and axes only see the positions of the revolute joints.
theorem carries_turns : Carries (α := α) Joint.KeepsTurn (fun pose pose' => pose'.rotation = pose.rotation)
    (fun frame frame' => frame'.axis = frame.axis ∧ frame'.link.rotation = frame.link.rotation) where
  base := rfl
  step := by
    intro joint position position' start start' hkeeps hstart
    have hresting : (start' * joint.origin).rotation = (start * joint.origin).rotation :=
      congrArg (· * joint.origin.rotation) hstart
    have hmotion : (joint.motion position').rotation = (joint.motion position).rotation := by
      unfold Joint.KeepsTurn at hkeeps
      unfold Joint.motion
      cases hkind : joint.kind with
      | prismatic => rfl
      | revolute => rw [hkeeps hkind]
    exact ⟨congrArg (·.rotate joint.axis) hresting, congrArg₂ (· * ·) hresting hmotion⟩
  link := And.right
  offset := by
    intro pose pose' offset hpose
    exact congrArg (· * offset.rotation) hpose

variable {chain : Chain α} {place : LinkIndex}

theorem angular_jointTwist_congr (kind : JointKind) {frame frame' : JointFrame α}
    (haxis : frame'.axis = frame.axis) (point point' : Vec3 α) :
    (Scratchpad.jointTwist kind frame' point').angular = (Scratchpad.jointTwist kind frame point).angular := by
  cases kind with
  | prismatic => rfl
  | revolute => exact haxis

-- So does the rotation of a link, and the angular part of its twists.
theorem turns_eq {q q' : Fin chain.dof → α} (hkeeps : ∀ j, Joint.KeepsTurn chain.joints[j] (q j) (q' j))
    (place : LinkIndex) :
    ((Scratchpad.fill chain (List.ofFn q')).linkPose place).rotation =
        ((Scratchpad.fill chain (List.ofFn q)).linkPose place).rotation ∧
      ((Scratchpad.fill chain (List.ofFn q')).jacobian chain.joints place).map Twist.angular =
        ((Scratchpad.fill chain (List.ofFn q)).jacobian chain.joints place).map Twist.angular := by
  have hpaired : Paired Joint.KeepsTurn chain.joints (List.ofFn q) (List.ofFn q') :=
    paired_ofFn chain.joints hkeeps
  refine ⟨carries_turns.linkPose hpaired place, Eq.symm ?_⟩
  exact Scratchpad.map_jacobian_congr (carries_turns.fill_joints hpaired) place Twist.angular
    (fun kind _ _ halike => (angular_jointTwist_congr kind halike.1 _ _).symm) chain.joints

end Slides

section Twists

variable {α : Type} [Scalar α] {chain : Chain α} {positions : List α} {place : LinkIndex} {j : Nat}

theorem exists_twist (place : LinkIndex) (hlength : positions.length = chain.dof) (hj : j < chain.dof) :
    ∃ frame, ((Scratchpad.fill chain positions).jacobian chain.joints place)[j]? =
      some (if j < (Scratchpad.fill chain positions).movingJoints place then
          Scratchpad.jointTwist chain.joints[j].kind frame
            ((Scratchpad.fill chain positions).linkPose place).translation
        else ⟨.zero, .zero⟩) := by
  have hroom := Scratchpad.length_fill_joints chain hlength
  exact ⟨_, Scratchpad.jacobian_getElem? hj (List.getElem?_eq_getElem (hroom ▸ hj))⟩

theorem LinkIndex.IsBefore.twist_eq_zero (h : place.IsBefore j) (hlength : positions.length = chain.dof)
    (hj : j < chain.dof) :
    ((Scratchpad.fill chain positions).jacobian chain.joints place)[j]? = some ⟨.zero, .zero⟩ := by
  obtain ⟨frame, htwist⟩ := exists_twist place hlength hj
  rw [htwist, if_neg (not_lt.mpr (h.movingJoints_le _))]

-- A prismatic joint does not turn any link.
theorem angular_eq_zero (place : LinkIndex) (hlength : positions.length = chain.dof) (hj : j < chain.dof)
    (hkind : chain.joints[j].kind = .prismatic) :
    (((Scratchpad.fill chain positions).jacobian chain.joints place).map Twist.angular)[j]? =
      some .zero := by
  obtain ⟨frame, htwist⟩ := exists_twist place hlength hj
  rw [List.getElem?_map, htwist, hkind]
  split <;> rfl

theorem angular_eq_replicate (hlength : positions.length = chain.dof) (hplace : chain.HasPlace place)
    (hprismatic : ∀ joint ∈ chain.joints, joint.kind = .prismatic) :
    ((Scratchpad.fill chain positions).jacobian chain.joints place).map Twist.angular =
      List.replicate chain.dof .zero := by
  have hroom := Scratchpad.length_fill_joints chain hlength
  have hcount := Scratchpad.length_jacobian hroom (Scratchpad.movingJoints_le hroom hplace)
  apply List.ext_getElem
  · rw [List.length_map, hcount, List.length_replicate]
    rfl
  · intro j hindex hj
    rw [List.length_replicate] at hj
    have hzero := angular_eq_zero place hlength hj (hprismatic _ (List.getElem_mem hj))
    rw [List.getElem?_eq_getElem hindex, Option.some.injEq] at hzero
    rw [hzero, List.getElem_replicate]

end Twists

end TaskSpace.Kinematics
