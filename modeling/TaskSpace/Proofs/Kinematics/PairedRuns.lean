import Mathlib
import TaskSpace.Proofs.Kinematics.Screw
import TaskSpace.Proofs.Kinematics.Memory

namespace TaskSpace.Kinematics

open Rigid

variable {α : Type} [Scalar α]

-- What is recorded of one joint behind a pose.
def Joint.frame (joint : Joint α) (start : Pose α) (position : α) : JointFrame α :=
  ⟨(start * joint.origin).translation, (start * joint.origin).rotation.rotate joint.axis,
    start * joint.origin * joint.motion position⟩

-- Two joint vectors for the same joints, with what a relation allows at each joint.
inductive Paired (allowed : Joint α → α → α → Prop) : List (Joint α) → List α → List α → Prop
  | nil : Paired allowed [] [] []
  | cons {joint joints position position' positions positions'} :
      allowed joint position position' → Paired allowed joints positions positions' →
      Paired allowed (joint :: joints) (position :: positions) (position' :: positions')

-- A relation on poses that is kept from joint to joint, and what it says of the frames.
structure Carries (allowed : Joint α → α → α → Prop) (near : Pose α → Pose α → Prop)
    (alike : JointFrame α → JointFrame α → Prop) : Prop where
  base : near .identity .identity
  step : ∀ {joint : Joint α} {position position' start start'}, allowed joint position position' →
    near start start' → alike (joint.frame start position) (joint.frame start' position')
  link : ∀ {frame frame'}, alike frame frame' → near frame.link frame'.link
  offset : ∀ {pose pose'} (offset : Pose α), near pose pose' → near (pose * offset) (pose' * offset)

omit [Scalar α] in
theorem paired_ofFn {allowed : Joint α → α → α → Prop} (joints : List (Joint α))
    {x x' : Fin joints.length → α} (h : ∀ j, allowed joints[j] (x j) (x' j)) :
    Paired allowed joints (List.ofFn x) (List.ofFn x') := by
  induction joints with
  | nil =>
      simp only [List.length_nil, List.ofFn_zero]
      exact .nil
  | cons joint joints ih =>
      simp only [List.length_cons, List.ofFn_succ]
      exact .cons (h 0) (ih fun j => h j.succ)

namespace Carries

variable {allowed : Joint α → α → α → Prop} {near : Pose α → Pose α → Prop}
  {alike : JointFrame α → JointFrame α → Prop} {positions positions' : List α}

theorem jointFrames (h : Carries allowed near alike) {joints : List (Joint α)}
    (hpositions : Paired allowed joints positions positions') {start start' : Pose α}
    (hstart : near start start') :
    List.Forall₂ alike (Chain.jointFrames start joints positions).1
        (Chain.jointFrames start' joints positions').1 ∧
      near (Chain.jointFrames start joints positions).2 (Chain.jointFrames start' joints positions').2 := by
  induction hpositions generalizing start start' with
  | nil => exact ⟨.nil, hstart⟩
  | cons hallowed _ ih =>
      have hframe := h.step hallowed hstart
      obtain ⟨hframes, hlast⟩ := ih (h.link hframe)
      exact ⟨.cons hframe hframes, hlast⟩

theorem link_getElem? (h : Carries allowed near alike) {frames frames' : List (JointFrame α)}
    (hframes : List.Forall₂ alike frames frames') (index : Nat) :
    near ((frames[index]?.map JointFrame.link).getD .identity)
      ((frames'[index]?.map JointFrame.link).getD .identity) := by
  induction hframes generalizing index with
  | nil => exact h.base
  | cons hframe _ ih =>
      cases index with
      | zero => exact h.link hframe
      | succ index => exact ih index

variable {chain : Chain α} (h : Carries allowed near alike)
  (hpositions : Paired allowed chain.joints positions positions')

include h hpositions

theorem fill_joints : List.Forall₂ alike (Scratchpad.fill chain positions).joints
    (Scratchpad.fill chain positions').joints :=
  (h.jointFrames hpositions h.base).1

theorem linkPose (place : LinkIndex) : near ((Scratchpad.fill chain positions).linkPose place)
    ((Scratchpad.fill chain positions').linkPose place) := by
  cases place with
  | base => exact h.base
  | joint index => exact h.link_getElem? (h.fill_joints hpositions) index
  | tip => exact h.offset chain.tipOffset (h.jointFrames hpositions h.base).2

end Carries

namespace Scratchpad

omit [Scalar α] in
theorem map_zip_congr {β : Type} {alike : JointFrame α → JointFrame α → Prop}
    {frames frames' : List (JointFrame α)} (hframes : List.Forall₂ alike frames frames')
    (f f' : Joint α × JointFrame α → β)
    (hf : ∀ joint frame frame', alike frame frame' → f (joint, frame) = f' (joint, frame'))
    (joints : List (Joint α)) : (joints.zip frames).map f = (joints.zip frames').map f' := by
  induction hframes generalizing joints with
  | nil => simp
  | cons hframe _ ih =>
      cases joints with
      | nil => rfl
      | cons joint joints => simp only [List.zip_cons_cons, List.map_cons, hf joint _ _ hframe, ih joints]

-- Twists of frames that are alike have in common what does not tell such frames apart.
theorem map_jacobian_congr {β : Type} {alike : JointFrame α → JointFrame α → Prop} {pad pad' : Scratchpad α}
    (hjoints : List.Forall₂ alike pad.joints pad'.joints) (place : LinkIndex) (f : Twist α → β)
    (hf : ∀ kind {frame frame'}, alike frame frame' →
      f (jointTwist kind frame (pad.linkPose place).translation) =
        f (jointTwist kind frame' (pad'.linkPose place).translation))
    (joints : List (Joint α)) :
    (pad.jacobian joints place).map f = (pad'.jacobian joints place).map f := by
  have hmoving : pad.movingJoints place = pad'.movingJoints place := by
    cases place <;> simp [movingJoints, hjoints.length_eq]
  have htwists := congrArg (List.take (pad.movingJoints place)) (map_zip_congr hjoints
    (fun pair => f (jointTwist pair.1.kind pair.2 (pad.linkPose place).translation))
    (fun pair => f (jointTwist pair.1.kind pair.2 (pad'.linkPose place).translation))
    (fun joint _ _ halike => hf joint.kind halike) joints)
  simp only [← List.map_take] at htwists
  simp only [jacobian, List.map_append, List.map_map, List.map_replicate, ← hmoving]
  exact congrArg (· ++ _) htwists

end Scratchpad

end TaskSpace.Kinematics
