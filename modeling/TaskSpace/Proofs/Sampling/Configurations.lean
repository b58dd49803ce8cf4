import Mathlib
import TaskSpace.Kinematics.Robots
import TaskSpace.Proofs.Sampling.Uniform

namespace TaskSpace.Kinematics.Joint

variable {α : Type} [ExtendedScalar α] (joint : Joint α) (margin : α)

-- Whether there are positions of the joint that keep a margin from both limits, not too far apart.
def HasRange : Prop :=
  joint.lowerLimit + margin < joint.upperLimit - margin ∧
    ExtendedScalar.isFinite ((joint.upperLimit - margin) - (joint.lowerLimit + margin)) = true

instance : Decidable (joint.HasRange margin) := inferInstanceAs (Decidable (_ ∧ _))

def IsInRange (position : α) : Prop :=
  joint.lowerLimit + margin ≤ position ∧ position < joint.upperLimit - margin

end TaskSpace.Kinematics.Joint

namespace TaskSpace.Sampling

open Kinematics

variable {α γ : Type}

theorem configurations?_eq_mapM [Scalar α] (draw : Draw γ α) (chain : Chain α) (margin : α) (count : Nat) :
    configurations? draw chain margin count =
      (List.replicate count ()).mapM fun _ => configuration? draw chain margin := by
  induction count with
  | zero => rfl
  | succ count ih => rw [configurations?, ih, List.replicate_succ, List.mapM_cons]

section Series

variable [Scalar α] {draw : Draw γ α} {chain : Chain α} {margin : α} {source : γ} {count : Nat}
  {configurations : List (List α)}

theorem draws_of_configurations?
    (h : (configurations? draw chain margin count).run' source = some configurations) :
    ∃ last, Draws (fun _ : Unit => configuration? draw chain margin) source (List.replicate count ())
      configurations last := by
  obtain ⟨⟨_, last⟩, hrun, rfl⟩ := Option.map_eq_some_iff.mp h
  rw [configurations?_eq_mapM] at hrun
  exact ⟨last, run_mapM_eq_some_iff.mp hrun⟩

-- All the positions come out of the source in one series, joint after joint.
theorem draws_joints {last : γ}
    (h : Draws (fun _ : Unit => configuration? draw chain margin) source (List.replicate count ())
      configurations last) :
    Draws (fun joint : Joint α => draw (joint.lowerLimit + margin) (joint.upperLimit - margin)) source
      (List.replicate count chain.joints).flatten configurations.flatten last := by
  have hjoints : List.replicate count chain.joints =
      (List.replicate count ()).map fun _ => chain.joints := by
    rw [List.map_replicate]
  rw [hjoints]
  exact h.flatten run_mapM_eq_some_iff.mp

end Series

variable [ExtendedScalar α] {draw : Draw γ α} {chain : Chain α} {margin : α}

namespace Draw.KeepsRange

variable (hdraw : draw.KeepsRange)

include hdraw

theorem configuration?_eq_none_iff (chain : Chain α) (margin : α) (source : γ) :
    (configuration? draw chain margin).run source = none ↔
      ∃ joint ∈ chain.joints, ¬joint.HasRange margin :=
  run_mapM_eq_none_iff (fun _ source => hdraw.fails_iff _ _ source) chain.joints source

-- The positions of a configuration are drawn in the order of the joints.
theorem inRange_of_configuration? {source next : γ} {positions : List α}
    (h : (configuration? draw chain margin).run source = some (positions, next)) :
    List.Forall₂ (fun joint position => joint.IsInRange margin position) chain.joints positions :=
  (run_mapM_eq_some_iff.mp h).forall₂ hdraw.within

theorem configurations?_eq_none_iff (chain : Chain α) (margin : α) (count : Nat) (source : γ) :
    (configurations? draw chain margin count).run source = none ↔
      0 < count ∧ ∃ joint ∈ chain.joints, ¬joint.HasRange margin := by
  have hone : ∀ (question : Unit) source, (configuration? draw chain margin).run source = none ↔
      ¬¬∃ joint ∈ chain.joints, ¬joint.HasRange margin := fun _ source => by
    rw [not_not]
    exact hdraw.configuration?_eq_none_iff chain margin source
  rw [configurations?_eq_mapM, run_mapM_eq_none_iff hone]
  simp [List.mem_replicate, Nat.pos_iff_ne_zero]

end Draw.KeepsRange

-- Configurations that are drawn from a source, one after the other and each of them joint after joint.
structure IsSample (draw : Draw γ α) (chain : Chain α) (margin : α) (source : γ) (count : Nat)
    (configurations : List (List α)) : Prop where
  length : configurations.length = count
  inRange : ∀ positions ∈ configurations, positions.length = chain.dof ∧
    List.Forall₂ (fun joint position => joint.IsInRange margin position) chain.joints positions
  successive : ∃ last, Draws (fun _ : Unit => configuration? draw chain margin) source
    (List.replicate count ()) configurations last
  jointByJoint : ∃ last,
    Draws (fun joint : Joint α => draw (joint.lowerLimit + margin) (joint.upperLimit - margin)) source
      (List.replicate count chain.joints).flatten configurations.flatten last

namespace Draw.KeepsRange

variable {source : γ} {count : Nat} {configurations : List (List α)}

theorem isSample (hdraw : draw.KeepsRange)
    (h : (configurations? draw chain margin count).run' source = some configurations) :
    IsSample draw chain margin source count configurations := by
  obtain ⟨last, hdraws⟩ := draws_of_configurations? h
  refine ⟨by rw [hdraws.length_eq, List.length_replicate], fun positions hpositions => ?_,
    ⟨last, hdraws⟩, last, draws_joints hdraws⟩
  obtain ⟨_, _, _, _, hrun⟩ := hdraws.exists_of_mem hpositions
  have hinRange := hdraw.inRange_of_configuration? hrun
  exact ⟨hinRange.length_eq.symm, hinRange⟩

end Draw.KeepsRange

theorem take_of_configurations? {source : γ} {count more : Nat} {few many : List (List α)}
    (hle : count ≤ more) (hfew : (configurations? draw chain margin count).run' source = some few)
    (hmany : (configurations? draw chain margin more).run' source = some many) : few = many.take count := by
  obtain ⟨_, hfew⟩ := draws_of_configurations? hfew
  obtain ⟨_, hmany⟩ := draws_of_configurations? hmany
  obtain ⟨_, htake⟩ := hmany.take count
  rw [List.take_replicate, min_eq_left hle] at htake
  exact hfew.values_eq htake

-- Seeds give samples unless the limits of a joint leave no range, and a longer sample begins with a shorter
-- one of the same seed.
theorem configurations_laws (hdraw : draw.KeepsRange) (ofSeed : UInt64 → γ) (chain : Chain α) (seed : UInt64)
    {count more : Nat} (hle : count ≤ more) :
    let sampled? := fun count => (configurations? draw chain standardMargin count).run' (ofSeed seed)
    (sampled? count = none ↔ 0 < count ∧ ∃ joint ∈ chain.joints, ¬joint.HasRange standardMargin) ∧
    ∀ few, sampled? count = some few →
      IsSample draw chain standardMargin (ofSeed seed) count few ∧
      ∀ many, sampled? more = some many → few = many.take count := by
  intro sampled?
  constructor
  · exact Option.map_eq_none_iff.trans
      (hdraw.configurations?_eq_none_iff chain standardMargin count (ofSeed seed))
  · exact fun few hfew =>
      ⟨hdraw.isSample hfew, fun many hmany => take_of_configurations? hle hfew hmany⟩

-- A sample from the generator, and a longer one.
theorem planarArm_sampled :
    let sampled? := fun count =>
      (configurations? Generator.between? Robots.planarArm standardMargin count).run' (Generator.ofSeed 7)
    (1 : Nat) ≤ 2 ∧ Draw.KeepsRange Generator.between? ∧ ∃ few many,
      sampled? 1 = some few ∧ sampled? 2 = some many ∧
      IsSample Generator.between? Robots.planarArm standardMargin (Generator.ofSeed 7) 1 few ∧
      few = many.take 1 := by
  intro sampled?
  have hranges : ¬∃ joint ∈ (Robots.planarArm : Chain Float).joints, ¬joint.HasRange standardMargin := by
    decide +kernel
  have hle : (1 : Nat) ≤ 2 := by decide
  obtain ⟨hnone, hsome⟩ := configurations_laws between?_keepsRange Generator.ofSeed Robots.planarArm 7 hle
  obtain ⟨hnone', _⟩ :=
    configurations_laws between?_keepsRange Generator.ofSeed Robots.planarArm 7 (le_refl 2)
  obtain ⟨few, hfew⟩ := Option.ne_none_iff_exists'.mp fun h => hranges (hnone.mp h).2
  obtain ⟨many, hmany⟩ := Option.ne_none_iff_exists'.mp fun h => hranges (hnone'.mp h).2
  obtain ⟨hsample, htake⟩ := hsome few hfew
  exact ⟨hle, between?_keepsRange, few, many, hfew, hmany, hsample, htake many hmany⟩

end TaskSpace.Sampling
