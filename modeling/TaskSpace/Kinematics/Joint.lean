import TaskSpace.Rigid.Pose

namespace TaskSpace.Kinematics

open Rigid

inductive JointKind
  | revolute
  | prismatic
deriving DecidableEq

-- An actuated joint. The origin is its resting pose in the frame of the link before it, the axis
-- is given in its own frame, and it moves its child link.
structure Joint (α : Type) where
  name : String
  childLink : String
  origin : Pose α
  axis : Vec3 α
  kind : JointKind
  lowerLimit : α
  upperLimit : α

namespace Joint

variable {α : Type} [Scalar α]

-- The direction is brought to length one.
def revolute (name childLink : String) (origin : Pose α) (direction : Vec3 α) : Joint α :=
  ⟨name, childLink, origin, direction.normalize, .revolute, -Scalar.pi, Scalar.pi⟩

def prismatic (name childLink : String) (origin : Pose α) (direction : Vec3 α) : Joint α :=
  ⟨name, childLink, origin, direction.normalize, .prismatic, -1, 1⟩

def withLimits (joint : Joint α) (lower upper : α) : Joint α :=
  { joint with lowerLimit := lower, upperLimit := upper }

-- The motion of the child link from its resting pose.
def motion (joint : Joint α) (position : α) : Pose α :=
  match joint.kind with
  | .prismatic => .ofTranslation (joint.axis.scale position)
  | .revolute => ⟨.ofAxisAngle joint.axis position, .zero⟩

end Joint

end TaskSpace.Kinematics
