import TaskSpace.Kinematics.Chain

namespace TaskSpace.Sampling

open Kinematics

-- Draws a number between two ends from a random source of type γ, if there is one.
abbrev Draw (γ α : Type) := α → α → StateT γ Option α

variable {α γ : Type} [Scalar α]

-- The distance that sampled positions keep from their limits.
def standardMargin : α := 0.05

-- A position for each joint within its limits, a margin away from both.
def configuration? (draw : Draw γ α) (chain : Chain α) (margin : α) : StateT γ Option (List α) :=
  chain.joints.mapM fun joint => draw (joint.lowerLimit + margin) (joint.upperLimit - margin)

-- So many configurations, one after the other from the same source.
def configurations? (draw : Draw γ α) (chain : Chain α) (margin : α) :
    Nat → StateT γ Option (List (List α))
  | 0 => return []
  | count + 1 => do
    let first ← configuration? draw chain margin
    let others ← configurations? draw chain margin count
    return first :: others

end TaskSpace.Sampling
