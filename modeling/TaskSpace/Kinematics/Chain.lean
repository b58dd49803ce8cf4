import TaskSpace.Kinematics.Joint

namespace TaskSpace.Kinematics

open Rigid

-- A link attached rigidly behind the last joint.
structure Tip (α : Type) where
  name : String
  offset : Pose α

-- Joints in series from the base link on, and possibly a tip.
structure Chain (α : Type) where
  baseLink : String
  joints : List (Joint α)
  tip : Option (Tip α)

-- Where a link sits: the base, the child link of a joint, or the tip.
inductive LinkIndex
  | base
  | joint (index : Nat)
  | tip
deriving DecidableEq

-- What a joint vector makes of one joint: its origin and axis before it moves, and the pose of its
-- child link, all in the base frame.
structure JointFrame (α : Type) where
  origin : Vec3 α
  axis : Vec3 α
  link : Pose α
deriving BEq

namespace Chain

variable {α : Type}

def dof (chain : Chain α) : Nat := chain.joints.length

-- The tip hides a base of its name, the base hides child links, and the first child link counts.
def linkIndex? (chain : Chain α) (link : String) : Option LinkIndex :=
  if chain.tip.any (·.name == link) then some .tip
  else if link == chain.baseLink then some .base
  else (chain.joints.findIdx? (·.childLink == link)).map .joint

variable [Scalar α]

def tipOffset (chain : Chain α) : Pose α :=
  match chain.tip with
  | some tip => tip.offset
  | none => .identity

-- The frames of joints in series behind a start pose, and the pose of the last link.
def jointFrames (start : Pose α) : List (Joint α) → List α → List (JointFrame α) × Pose α
  | joint :: joints, position :: positions =>
    let resting := start * joint.origin
    let moved := resting * joint.motion position
    let (frames, last) := jointFrames moved joints positions
    (⟨resting.translation, resting.rotation.rotate joint.axis, moved⟩ :: frames, last)
  | _, _ => ([], start)

end Chain

end TaskSpace.Kinematics
