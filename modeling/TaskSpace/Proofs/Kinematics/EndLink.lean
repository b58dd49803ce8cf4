import Mathlib
import TaskSpace.Proofs.Kinematics.Series
import TaskSpace.Proofs.Kinematics.Sharing

namespace TaskSpace.Kinematics

open Rigid

-- Whatever its calls were, a scratchpad that only one chain has used holds frames of that chain.
theorem Call.padAfter_remembers {α : Type} [Scalar α] {chain : Chain α} (size : Nat)
    {calls : List (Call α)} (hcalls : ∀ call ∈ calls, call.chain = chain) :
    (padAfter size calls).Remembers chain := by
  induction calls using List.reverseRecOn with
  | nil => exact Scratchpad.remembers_fresh chain size
  | append_singleton calls call ih =>
      obtain ⟨hearlier, hcall⟩ := List.forall_mem_append.mp hcalls
      obtain rfl := List.forall_mem_singleton.mp hcall
      rw [padAfter_concat]
      exact call.readsAt_query.after_remembers (ih hearlier)

namespace Chain

section Names

variable {α : Type} (chain : Chain α)

-- The name of the link at the end. The child link of the last joint can be asked for by its name if it is
-- the first link of that name, the base included.
inductive EndsIn : String → Prop
  | tip {tip : Tip α} (htip : chain.tip = some tip) : EndsIn tip.name
  | joint {earlier : List (Joint α)} {last : Joint α} (htip : chain.tip = none)
      (hjoints : chain.joints = earlier ++ [last]) (hbase : last.childLink ≠ chain.baseLink)
      (hearlier : ∀ joint ∈ earlier, joint.childLink ≠ last.childLink) : EndsIn last.childLink
  | base (htip : chain.tip = none) (hjoints : chain.joints = []) : EndsIn chain.baseLink

def endLink : LinkIndex := if chain.tip.isSome then .tip else chain.lastLink

variable {chain} {link : String}

theorem EndsIn.linkIndex?_eq (h : chain.EndsIn link) : chain.linkIndex? link = some chain.endLink := by
  unfold linkIndex? endLink
  cases h with
  | tip htip => simp [htip]
  | @joint earlier last htip hjoints hbase hearlier =>
      have hnone : earlier.findIdx? (·.childLink == last.childLink) = none :=
        List.findIdx?_eq_none_iff.mpr fun joint hjoint => by simpa using hearlier joint hjoint
      simp [htip, hjoints, hbase, List.findIdx?_append, hnone, lastLink, dof]
  | base htip hjoints => simp [htip, hjoints, lastLink, dof]

end Names

-- A chain without a tip ends in its last link, since a tip that is not there is not put anywhere else.
theorem linkPose_endLink (chain : Chain ℝ) {positions : List ℝ} (hlength : positions.length = chain.dof) :
    (Scratchpad.fill chain positions).linkPose chain.endLink = (Scratchpad.fill chain positions).tip := by
  unfold endLink
  cases htip : chain.tip with
  | some tip => rfl
  | none =>
      have hoffset : chain.tipOffset = .identity := by rw [tipOffset, htip]
      rw [Scratchpad.fill_tip, hoffset, Pose.mul_identity]
      exact chain.linkPose_lastLink hlength

theorem hasLink_of_answer {α : Type} [Scalar α] {chain : Chain α} {positions : List α} {link : String}
    {pose : Pose α} {pad : Scratchpad α}
    (h : (chain.jointGroup.linkPose positions link).answer pad = .ok pose) :
    chain.jointGroup.hasLink link = true := by
  have hanswer := ((chain.readsAt_linkPose positions link).answer_eq pad).symm.trans h
  cases hresolve : chain.resolve positions link with
  | error error => rw [hresolve] at hanswer; cases hanswer
  | ok place => exact Option.isSome_iff_exists.mpr ⟨place, (of_resolve_eq_ok hresolve).2⟩

-- The pose at the end is that of the link at the end, whatever a scratchpad of the chain was used for, and
-- the links that a chain claims are those that it answers for.
theorem forwardKinematics_agrees :
    (∀ (chain : Chain ℝ) (size : Nat) (history : List (Call ℝ)),
      (∀ call ∈ history, call.chain = chain) → ∀ positions, positions.length = chain.dof →
        ∀ link, chain.EndsIn link →
          ∃ pose, chain.forwardKinematics? positions = some pose ∧
            (chain.jointGroup.linkPose positions link).answer (Call.padAfter size history) = .ok pose ∧
            (chain.tip = none → chain.joints = [] → pose = .identity)) ∧
    ∀ {α : Type} [Scalar α] (chain : Chain α) (link : String) (pad : Scratchpad α),
      chain.jointGroup.hasLink link = true ↔ ∀ positions, positions.length = chain.dof →
        (∃ pose, (chain.jointGroup.linkPose positions link).answer pad = .ok pose) ∧
          ∃ twists, (chain.jointGroup.geometricJacobian positions link).answer pad = .ok twists := by
  constructor
  · intro chain size history hhistory positions hlength link hlink
    have hpad := Call.padAfter_remembers size hhistory
    have hupdate : (Call.padAfter size history).update chain positions = .fill chain positions :=
      Scratchpad.update_eq_fill chain positions (fun _ _ => (Scalar.real_beq_iff _ _).mp) fun _ => hpad
    refine ⟨(Scratchpad.fill chain positions).tip, if_pos hlength, ?_, ?_⟩
    · rw [answer_linkPose hlength hlink.linkIndex?_eq, hupdate, chain.linkPose_endLink hlength]
    · intro htip hjoints
      rw [Scratchpad.fill_tip, hjoints, tipOffset, htip]
      exact Pose.mul_identity
  · intro α _ chain link pad
    constructor
    · intro hlink positions hlength
      obtain ⟨place, hplace⟩ := Option.isSome_iff_exists.mp hlink
      exact ⟨⟨_, answer_linkPose hlength hplace pad⟩, _, answer_geometricJacobian hlength hplace pad⟩
    · intro hanswers
      have hrest : (List.replicate chain.dof (0 : α)).length = chain.dof := List.length_replicate
      obtain ⟨⟨pose, hpose⟩, _⟩ := hanswers _ hrest
      exact hasLink_of_answer hpose

-- Without its tip the robot ends in the last link of its wrist. The scratchpad was too small and has been
-- asked for a link that is not there, and for another one at other positions.
theorem cartesianWrist_roll_agrees :
    let chain : Chain ℝ := { Robots.cartesianWrist with tip := none }
    let history : List (Call ℝ) := [⟨chain, .replicate 6 0, Robots.toolLink, .linkPose⟩,
      ⟨chain, .replicate 6 0, "yaw_link", .geometricJacobian⟩]
    (∀ call ∈ history, call.chain = chain) ∧ chain.EndsIn "roll_link" ∧
      chain.jointGroup.hasLink Robots.toolLink = false ∧
      ∃ pose, chain.forwardKinematics? (.replicate 6 1) = some pose ∧
        (chain.jointGroup.linkPose (.replicate 6 1) "roll_link").answer (Call.padAfter 2 history) =
          .ok pose ∧
        (chain.tip = none → chain.joints = [] → pose = .identity) := by
  intro chain history
  have hhistory : ∀ call ∈ history, call.chain = chain := by simp [history]
  have hend : chain.EndsIn "roll_link" := by
    have hjoints : chain.joints =
        chain.joints.dropLast ++ [.revolute "wrist_roll" "roll_link" .identity ⟨1, 0, 0⟩] := rfl
    refine .joint rfl hjoints (by decide) ?_
    simp [chain, Robots.cartesianWrist, Joint.revolute, Joint.prismatic]
  exact ⟨hhistory, hend, rfl, forwardKinematics_agrees.1 chain 2 history hhistory _ rfl _ hend⟩

end Chain

end TaskSpace.Kinematics
