import TaskSpace.Constraints.Constraint
import TaskSpace.Text.Invisible

namespace TaskSpace.Constraints

open Decimal

-- What a developer is shown of a constraint: how the text begins, the form of its model, and how the
-- text ends. The numbers of the model itself stand between the last two.
structure Inspection where
  opening : String
  form : String
  closing : String

def Kind.form : Kind → String
  | .boundedPosition => "BoundedPosition"
  | .equalityPosition => "EqualityPosition"
  | .linearSystemPosition => "LinearSystemPosition"
  | .orientation => "Orientation"

def Settings.inspect (settings : Settings Float) : String :=
  let checker := match settings.checkerTolerance with
    | some checker => s!"Some({fraction checker})"
    | none => "None"
  s!"ConstraintConfig \x7b tolerance: {fraction settings.tolerance}, " ++
    s!"equality_threshold: {fraction settings.equalityThreshold}, " ++
    s!"checker_tolerance: {checker}, " ++
    s!"orientation_supported: {settings.orientationSupported} \x7d"

def Constraint.inspect {σ : Type} (constraint : Constraint Float σ) : Inspection where
  opening := s!"Constraint \x7b link_name: {Text.quoted constraint.link}"
  form := constraint.kind.form
  closing := s!"config: {constraint.settings.inspect}, .. \x7d"

end TaskSpace.Constraints
