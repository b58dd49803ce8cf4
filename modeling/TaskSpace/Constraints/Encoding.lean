import TaskSpace.Constraints.Settings
import TaskSpace.Toml.Value

namespace TaskSpace.Constraints

open Rigid Toml

def numberArray (entries : List Float) : Value := .array (entries.map .float)

-- The first three items of an array; more do not count.
def vec3? : Value → Option (Vec3 Float)
  | .array (x :: y :: z :: _) => return ⟨← x.number?, ← y.number?, ← z.number?⟩
  | _ => none

def quat? : Value → Option (Quat Float)
  | .array (x :: y :: z :: w :: _) => return ⟨← x.number?, ← y.number?, ← z.number?, ← w.number?⟩
  | _ => none

namespace Placement

def encode (placement : Placement Float) : Value :=
  .table [("position", numberArray placement.position.toList),
    ("orientation", numberArray placement.orientation.toList)]

def decode? (value : Value) : Option (Placement Float) := do
  let fields ← value.fields? ["position", "orientation"]
  let position ← optional fields "position" .zero vec3?
  let orientation ← optional fields "orientation" .identity quat?
  return ⟨position, orientation⟩

end Placement

namespace Shape

def key : Shape → String
  | .box => "box"
  | .sphere => "sphere"
  | .cylinder => "cylinder"
  | .cone => "cone"

def ofKey? (key : String) : Option Shape :=
  [box, sphere, cylinder, cone].find? (·.key == key)

def encode (shape : Shape) : Value := .string shape.key

-- The name alone, or the name with nothing in it.
def decode? : Value → Option Shape
  | .string key => ofKey? key
  | .table [(key, .table [])] => ofKey? key
  | .table [(key, .array [])] => ofKey? key
  | _ => none

end Shape

namespace Primitive

def encode (primitive : Primitive Float) : Value :=
  .table [("kind", primitive.shape.encode), ("dimensions", numberArray primitive.dimensions)]

def decode? (value : Value) : Option (Primitive Float) := do
  let fields ← value.fields? ["kind", "dimensions"]
  let shape ← optional fields "kind" .box Shape.decode?
  let dimensions ← required fields "dimensions" (Value.list? Value.number?)
  return ⟨shape, dimensions⟩

end Primitive

namespace Region

def encode (region : Region Float) : Value :=
  .table [("primitives", .array (region.primitives.map Primitive.encode)),
    ("primitive_poses", .array (region.placements.map Placement.encode))]

def decode? (value : Value) : Option (Region Float) := do
  let fields ← value.fields? ["primitives", "primitive_poses"]
  let primitives ← optional fields "primitives" [] (Value.list? Primitive.decode?)
  let placements ← optional fields "primitive_poses" [] (Value.list? Placement.decode?)
  return ⟨primitives, placements⟩

end Region

namespace PositionEntry

def encode (entry : PositionEntry Float) : Value :=
  .table [("link_name", .string entry.link), ("constraint_region", entry.region.encode)]

def decode? (value : Value) : Option (PositionEntry Float) := do
  let fields ← value.fields? ["link_name", "constraint_region"]
  let link ← required fields "link_name" Value.text?
  let region ← required fields "constraint_region" Region.decode?
  return ⟨link, region⟩

end PositionEntry

namespace OrientationEntry

def toleranceKey (axis : Axis) : String := s!"absolute_{axis.name}_axis_tolerance"

def encode (entry : OrientationEntry Float) : Value :=
  .table ([("link_name", .string entry.link),
      ("orientation", numberArray entry.orientation.toList)] ++
    Axis.all.map fun axis => (toleranceKey axis, .float (entry.tolerances.get axis)))

def decode? (value : Value) : Option (OrientationEntry Float) := do
  let fields ← value.fields? (["link_name", "orientation"] ++ Axis.all.map toleranceKey)
  let link ← required fields "link_name" Value.text?
  let orientation ← optional fields "orientation" .identity quat?
  let tolerances ← Vec3.ofAxesM fun axis => required fields (toleranceKey axis) Value.number?
  return ⟨link, orientation, tolerances⟩

end OrientationEntry

namespace Description

def encode (description : Description Float) : Value :=
  .table [("name", .string description.name),
    ("position_constraints", .array (description.positions.map PositionEntry.encode)),
    ("orientation_constraints", .array (description.orientations.map OrientationEntry.encode))]

def decode? (value : Value) : Option (Description Float) := do
  let fields ← value.fields? ["name", "position_constraints", "orientation_constraints"]
  let name ← optional fields "name" "" Value.text?
  let positions ← optional fields "position_constraints" [] (Value.list? PositionEntry.decode?)
  let orientations ← optional fields "orientation_constraints" []
    (Value.list? OrientationEntry.decode?)
  return ⟨name, positions, orientations⟩

-- Whether writing and reading the description again gives an equal one.
def roundTrips (description : Description Float) : Bool :=
  match decode? description.encode with
  | some decoded => decoded == description
  | none => false

end Description

namespace Settings

def decode? (value : Value) : Option (Settings Float) := do
  let fields ← value.fields?
    ["tolerance", "equality_threshold", "checker_tolerance", "orientation_supported"]
  let tolerance ← optional fields "tolerance" standard.tolerance Value.number?
  let equalityThreshold ← optional fields "equality_threshold" standard.equalityThreshold Value.number?
  let checkerTolerance ← optional fields "checker_tolerance" none fun value => value.number?.map some
  let orientationSupported ← optional fields "orientation_supported" false Value.flag?
  return ⟨tolerance, equalityThreshold, checkerTolerance, orientationSupported⟩

end Settings

end TaskSpace.Constraints
