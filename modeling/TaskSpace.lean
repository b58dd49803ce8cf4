import TaskSpace.Constraints.Creation
import TaskSpace.Constraints.Inspection
import TaskSpace.Constraints.Loading
import TaskSpace.Kinematics.CentralDifference
import TaskSpace.Kinematics.Robots
import TaskSpace.Sampling.Configurations
import TaskSpace.Sampling.Uniform
import TaskSpace.Proofs.Reals
import TaskSpace.Proofs.Rigid.Algebra
import TaskSpace.Proofs.Kinematics.Screw
import TaskSpace.Proofs.Kinematics.Memory
import TaskSpace.Proofs.Kinematics.Velocity
import TaskSpace.Proofs.ExtendedReals
import TaskSpace.Proofs.Constraints.Reading
import TaskSpace.Proofs.Constraints.Making
import TaskSpace.Proofs.Constraints.Session
import TaskSpace.Proofs.Rigid.Extension
import TaskSpace.Proofs.Rigid.Logarithm
import TaskSpace.Proofs.Constraints.ErrorRates
import TaskSpace.Proofs.Kinematics.Extension
import TaskSpace.Proofs.Kinematics.Smoothness
import TaskSpace.Proofs.Constraints.Extension
import TaskSpace.Proofs.Constraints.Finite
import TaskSpace.Proofs.Constraints.Penalty
import TaskSpace.Proofs.Constraints.Jacobians
import TaskSpace.Proofs.Constraints.Acceptance
import TaskSpace.Proofs.Kinematics.Sharing
import TaskSpace.Proofs.Rigid.Distance
import TaskSpace.Proofs.Constraints.Values
import TaskSpace.Proofs.Constraints.Regions
import TaskSpace.Proofs.Constraints.Lines
import TaskSpace.Proofs.Rigid.Exponential
import TaskSpace.Proofs.Constraints.Orientations
import TaskSpace.Proofs.Constraints.Requirement
import TaskSpace.Proofs.Constraints.Refusal
import TaskSpace.Proofs.Comparison
import TaskSpace.Proofs.Constraints.Failures
import TaskSpace.Proofs.Constraints.Satisfaction
import TaskSpace.Proofs.Constraints.Targets
import TaskSpace.Proofs.Constraints.Evaluation
import TaskSpace.Proofs.Constraints.Answers
import TaskSpace.Proofs.Kinematics.Locality
import TaskSpace.Proofs.Constraints.Locality
import TaskSpace.Proofs.Kinematics.FullTurns
import TaskSpace.Proofs.Constraints.Representation
import TaskSpace.Proofs.Kinematics.BaseFrame
import TaskSpace.Proofs.Constraints.BaseFrame
import TaskSpace.Proofs.Halves
import TaskSpace.Proofs.Constraints.Relevance
import TaskSpace.Proofs.Constraints.PositionKinds
import TaskSpace.Proofs.Constraints.Relaxation
import TaskSpace.Proofs.Rigid.Kernels
import TaskSpace.Proofs.Constraints.Rank
import TaskSpace.Proofs.Kinematics.FrameInvariant
import TaskSpace.Proofs.Kinematics.FiniteMotion
import TaskSpace.Proofs.Kinematics.Series
import TaskSpace.Proofs.Rigid.LogarithmLaws
import TaskSpace.Proofs.Rigid.LeftJacobian
import TaskSpace.Proofs.Kinematics.Divisors
import TaskSpace.Proofs.Constraints.Divisors
import TaskSpace.Proofs.Rigid.Finiteness
import TaskSpace.Proofs.Constraints.Vacuity
import TaskSpace.Proofs.Kinematics.Wrist
import TaskSpace.Proofs.Constraints.WristBox
import TaskSpace.Proofs.Kinematics.Differences
import TaskSpace.Proofs.Kinematics.EndLink
import TaskSpace.Proofs.Constraints.Omission
import TaskSpace.Proofs.Sampling.Configurations
import TaskSpace.Proofs.Constraints.Intervals
import TaskSpace.Proofs.Rigid.SmallAngles
