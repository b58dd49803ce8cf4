import TaskSpace.Constraints.Bound

namespace TaskSpace.Constraints

open Rigid

inductive Level
  | info
  | warning
  | error
deriving DecidableEq

-- What is reported while a description is read.
inductive Event (α : Type)
  | parsing (kind : Kind)
  | positionBound (axis : Axis) (bound : Bound α)
  | orientationBound (axis : Axis) (bound : Bound α)
  | dimensionConstrained (axis : Axis) (constrained : Bool)
  | alwaysSatisfied
  | extraPrimitives (count : Nat)
  | extraPositions (count : Nat)
  | extraOrientations (count : Nat)
  | creating (kind : Kind) (name : String)
  | orientationEnabled
  | orientationUnsupported
  | applied (link : String) (kind : Kind)

namespace Event

def level {α : Type} : Event α → Level
  | .alwaysSatisfied | .extraPrimitives _ | .extraPositions _ | .extraOrientations _ => .warning
  | .orientationUnsupported => .error
  | _ => .info

private def turnName : Axis → String
  | .x => "rx / roll"
  | .y => "ry / pitch"
  | .z => "rz / yaw"

-- The message, and after it the named values.
def message : Event Float → String
  | .parsing .boundedPosition => "Parsing position constraint"
  | .parsing .equalityPosition => "Parsing equality position constraint"
  | .parsing .linearSystemPosition => "Parsing linear system position constraint"
  | .parsing .orientation => "Parsing orientation constraint"
  | .positionBound axis bound => s!"Parsed {axis.name} constraints {bound.text}"
  | .orientationBound axis bound => s!"Parsed {turnName axis} constraints {bound.text}"
  | .dimensionConstrained axis constrained => s!"{axis.name} dimension constrained? {constrained}"
  | .alwaysSatisfied =>
    "No dimension is below the equality threshold; the constraint is always satisfied"
  | .extraPrimitives count =>
    "Only a single primitive per position constraint is supported. Using the first one. " ++
      s!"count={count}"
  | .extraPositions count =>
    s!"Only a single position constraint is supported. Using the first one. count={count}"
  | .extraOrientations count =>
    s!"Only a single orientation constraint is supported. Using the first one. count={count}"
  | .creating kind name => s!"Creating path constraint kind={kind.name} name={name}"
  | .orientationEnabled => "Orientation constraints enabled by configuration"
  | .orientationUnsupported =>
    "Orientation constraints are not fully supported by the planner integration"
  | .applied link kind => s!"Constraints applied to link: {link} kind={kind.name}"

def line (event : Event Float) : String :=
  let level := match event.level with
    | .info => "INFO"
    | .warning => "WARN"
    | .error => "ERROR"
  s!"{level} {event.message}"

end Event

-- A computation that may fail and that reports; a failure keeps what was reported before it.
abbrev Logged (α ε : Type) := ExceptT ε (StateM (List (Event α)))

def report {α ε : Type} (event : Event α) : Logged α ε Unit := modify (· ++ [event])

-- The outcome, and the reports in their order.
def Logged.outcome {α ε β : Type} (computation : Logged α ε β) : Except ε β × List (Event α) :=
  (ExceptT.run computation).run []

end TaskSpace.Constraints
