import Mathlib
import TaskSpace.Proofs.Kinematics.BaseFrame
import TaskSpace.Proofs.Kinematics.FrameInvariant
import TaskSpace.Proofs.Kinematics.Locality
import TaskSpace.Proofs.Rigid.Exponential

namespace TaskSpace.Kinematics

open Rigid

namespace Chain

end Chain

end TaskSpace.Kinematics
