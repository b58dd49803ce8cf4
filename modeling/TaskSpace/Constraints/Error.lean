import TaskSpace.Constraints.Description
import TaskSpace.Decimal.Layout
import TaskSpace.Kinematics.JointGroup

namespace TaskSpace.Constraints

open Rigid Kinematics

-- Why the value of a field is refused.
inductive ValueFault (α : Type)
  | notPositive (value : α)
  | notNonNegative (value : α)
  | noDirection (orientation : Quat α)
  | notABox (shape : Shape)
  | tooFewDimensions (count : Nat)
  | badExtent (dimension : Nat) (value : α)
  | stated (text : String)

-- Which two thresholds are not in order.
inductive OrderFault (α : Type)
  | equalityThreshold (threshold tolerance : α)
  | checkerTolerance (tolerance checker : α)
  | stated (text : String)

-- What is wrong with settings or with a description.
inductive ConfigError (α : Type)
  | unreadable
  | malformed
  | invalidBound (lower upper : α)
  | missingField (path : String)
  | invalidValue (field : String) (fault : ValueFault α)
  | dimensionBelowTolerance (dimension : Nat) (value tolerance threshold : α)
  | thresholdOrdering (fault : OrderFault α)
  | degenerateLine
  | unknownLink (link : String)

-- What is wrong when a constraint is made or evaluated.
inductive ConstraintError (α : Type)
  | config (error : ConfigError α)
  | kinematics (error : KinematicsError)
  | unsupported (what : String)
  | noConstraints
  | jointDimension (expected got : Nat)

open Decimal

def ValueFault.message : ValueFault Float → String
  | .notPositive value => s!"{plain value} (must be positive and finite)"
  | .notNonNegative value => s!"{plain value} (must be non-negative and finite)"
  | .noDirection orientation =>
    let entries := ", ".intercalate (orientation.toList.map fraction)
    s!"quaternion [{entries}] cannot be normalized"
  | .notABox shape => s!"{shape.name} primitives are not supported, use a box"
  | .tooFewDimensions count => s!"expected 3 box dimensions, got {count}"
  | .badExtent dimension value => s!"dimension {dimension} is {plain value}"
  | .stated text => text

def OrderFault.message : OrderFault Float → String
  | .equalityThreshold threshold tolerance =>
    s!"equality_threshold ({plain threshold}) must be greater than tolerance ({plain tolerance})"
  | .checkerTolerance tolerance checker =>
    s!"tolerance ({plain tolerance}) must be greater than checker_tolerance ({plain checker})"
  | .stated text => text

def ConfigError.message : ConfigError Float → String
  | .unreadable => "IO error: the text cannot be read"
  | .malformed => "TOML parse error: the text has another form"
  | .invalidBound lower upper => s!"Invalid bound: lower {plain lower} > upper {plain upper}"
  | .missingField path => s!"Missing required field: {path}"
  | .invalidValue field fault => s!"Invalid value for {field}: {fault.message}"
  | .dimensionBelowTolerance dimension value tolerance threshold =>
    s!"Dimension {dimension} ({plain value}) is below the evaluation tolerance {plain tolerance}; " ++
      s!"use a value between {plain tolerance} and {plain threshold}"
  | .thresholdOrdering fault => s!"Threshold ordering violated: {fault.message}"
  | .degenerateLine => "Line start and end positions coincide"
  | .unknownLink link => s!"Unknown link: {link}"

def ConstraintError.message : ConstraintError Float → String
  | .config error => s!"Configuration error: {error.message}"
  | .kinematics error => s!"Kinematics error: {error.message}"
  | .unsupported what => s!"Not supported: {what}"
  | .noConstraints => "No path constraints found in the constraint description"
  | .jointDimension expected got => s!"Joint dimension mismatch: expected {expected}, got {got}"

end TaskSpace.Constraints
