import Mathlib
import TaskSpace.Kinematics.Scratchpad
import TaskSpace.Proofs.Kinematics.Screw
import TaskSpace.Proofs.Rigid.Smooth

namespace TaskSpace.Kinematics

open Rigid

-- A function of several numbers has the derivative that its slopes along them make up, if it has one.
theorem hasFDerivAt_of_partials {n : Nat} {f : (Fin n → ℝ) → ℝ} {slopes : Fin n → ℝ} {q : Fin n → ℝ}
    (hf : DifferentiableAt ℝ f q)
    (hslopes : ∀ j, HasDerivAt (fun t => f (Function.update q j t)) (slopes j) (q j)) :
    HasFDerivAt f (∑ j, slopes j • (ContinuousLinearMap.proj j : (Fin n → ℝ) →L[ℝ] ℝ)) q := by
  have hsingle : ∀ j, fderiv ℝ f q (Pi.single j 1) = slopes j := by
    intro j
    have hupdate := hf.hasFDerivAt
    rw [← Function.update_eq_self j q] at hupdate
    have hcomp := hupdate.comp_hasDerivAt (q j) (hasDerivAt_update q j (q j))
    rw [Function.update_eq_self] at hcomp
    exact hcomp.unique (hslopes j)
  refine hf.hasFDerivAt.congr_fderiv ?_
  refine ContinuousLinearMap.coe_injective (LinearMap.pi_ext' fun j => LinearMap.ext_ring ?_)
  simp [hsingle, Pi.single_apply]

section Smooth

variable {E : Type*} [NormedAddCommGroup E] [NormedSpace ℝ E] {point : E}

theorem Joint.smoothAt_motion (joint : Joint ℝ) {position : E → ℝ}
    (hposition : DifferentiableAt ℝ position point) :
    Pose.SmoothAt (fun y => joint.motion (position y)) point := by
  unfold Joint.motion
  cases joint.kind with
  | prismatic =>
      exact ⟨Quat.smoothAt_const _, (Vec3.smoothAt_const joint.axis).scale hposition⟩
  | revolute =>
      exact ⟨Quat.SmoothAt.ofAxisAngle joint.axis hposition, Vec3.smoothAt_const _⟩

namespace Chain

-- All links move smoothly, those that are recorded and the last one.
theorem smoothAt_jointFrames {start : E → Pose ℝ} (hstart : Pose.SmoothAt start point)
    (joints : List (Joint ℝ)) {positions : List (E → ℝ)}
    (hpositions : ∀ position ∈ positions, DifferentiableAt ℝ position point) :
    Pose.SmoothAt (fun y => (jointFrames (start y) joints (positions.map (· y))).2) point ∧
      ∀ index : Nat, Pose.SmoothAt (fun y =>
        ((jointFrames (start y) joints (positions.map (· y))).1[index]?.map JointFrame.link).getD
          .identity) point := by
  induction joints generalizing start positions with
  | nil =>
      cases positions <;> exact ⟨hstart, fun _ => Pose.smoothAt_const _⟩
  | cons joint joints ih =>
      cases positions with
      | nil => exact ⟨hstart, fun _ => Pose.smoothAt_const _⟩
      | cons position positions =>
          have hmoved : Pose.SmoothAt
              (fun y => start y * joint.origin * joint.motion (position y)) point :=
            (hstart.mul (Pose.smoothAt_const _)).mul
              (joint.smoothAt_motion (hpositions position List.mem_cons_self))
          obtain ⟨hlast, hlinks⟩ := ih hmoved fun other hother =>
            hpositions other (List.mem_cons_of_mem _ hother)
          refine ⟨hlast, fun index => ?_⟩
          cases index with
          | zero => exact hmoved
          | succ index => exact hlinks index

theorem smoothAt_linkPose (chain : Chain ℝ) {n : Nat} (place : LinkIndex) (q : Fin n → ℝ) :
    Pose.SmoothAt (fun x : Fin n → ℝ => (Scratchpad.fill chain (List.ofFn x)).linkPose place) q := by
  have hpositions : ∀ position ∈ List.ofFn fun (j : Fin n) (x : Fin n → ℝ) => x j,
      DifferentiableAt ℝ position q := by
    intro position hposition
    obtain ⟨j, rfl⟩ := List.mem_ofFn.mp hposition
    exact differentiableAt_apply j q
  have hmap : ∀ x : Fin n → ℝ,
      (List.ofFn fun (j : Fin n) (x : Fin n → ℝ) => x j).map (· x) = List.ofFn x := by
    intro x
    rw [List.map_ofFn]
    rfl
  obtain ⟨hlast, hlinks⟩ := smoothAt_jointFrames (Pose.smoothAt_const Pose.identity) chain.joints hpositions
  simp only [hmap] at hlast hlinks
  cases place with
  | base => exact Pose.smoothAt_const _
  | joint index => exact hlinks index
  | tip => exact hlast.mul (Pose.smoothAt_const chain.tipOffset)

end Chain

end Smooth

end TaskSpace.Kinematics
