import TaskSpace.Kinematics.Chain

namespace TaskSpace.Kinematics

open Rigid

-- Working storage of one caller: the frames of the last joint vector. It does not know which chain
-- filled it.
structure Scratchpad (α : Type) where
  positions : List α
  filled : Bool
  joints : List (JointFrame α)
  tip : Pose α
deriving BEq

namespace Scratchpad

variable {α : Type} [Scalar α]

-- Room for a number of joints, holding nothing yet.
def fresh (size : Nat) : Scratchpad α :=
  ⟨List.replicate size 0, false, List.replicate size ⟨.zero, .zero, .identity⟩, .identity⟩

-- Whether the frames can be read for a chain of that many joints at these positions.
def holds (pad : Scratchpad α) (dof : Nat) (positions : List α) : Bool :=
  pad.joints.length == dof && pad.filled && pad.positions == positions

def fill (chain : Chain α) (positions : List α) : Scratchpad α :=
  let (frames, last) := Chain.jointFrames .identity chain.joints positions
  ⟨positions, true, frames, last * chain.tipOffset⟩

def update (pad : Scratchpad α) (chain : Chain α) (positions : List α) : Scratchpad α :=
  if pad.holds chain.dof positions then pad else fill chain positions

-- The frames of every joint are there when the chain has been brought up to date.
def linkPose (pad : Scratchpad α) : LinkIndex → Pose α
  | .base => .identity
  | .joint index => (pad.joints[index]?.map JointFrame.link).getD .identity
  | .tip => pad.tip

-- How many joints, from the base on, move the link.
def movingJoints (pad : Scratchpad α) : LinkIndex → Nat
  | .base => 0
  | .joint index => index + 1
  | .tip => pad.joints.length

-- The velocity that one joint at unit speed gives to a point.
def jointTwist (kind : JointKind) (frame : JointFrame α) (point : Vec3 α) : Twist α :=
  match kind with
  | .prismatic => ⟨frame.axis, .zero⟩
  | .revolute => ⟨frame.axis.cross (point - frame.origin), frame.axis⟩

-- One twist per joint: the velocity that the joint at unit speed gives to the link.
def jacobian (pad : Scratchpad α) (joints : List (Joint α)) (index : LinkIndex) : List (Twist α) :=
  let point := (pad.linkPose index).translation
  let moving := pad.movingJoints index
  ((joints.zip pad.joints).take moving).map (fun (joint, frame) => jointTwist joint.kind frame point) ++
    List.replicate (joints.length - moving) ⟨.zero, .zero⟩

end Scratchpad

-- The pose of the last link, or of the tip, at a joint vector of the right length.
def Chain.forwardKinematics? {α : Type} [Scalar α] (chain : Chain α) (positions : List α) :
    Option (Pose α) :=
  if positions.length = chain.dof then some (Scratchpad.fill chain positions).tip else none

end TaskSpace.Kinematics
