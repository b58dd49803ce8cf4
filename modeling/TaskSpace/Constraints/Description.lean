import TaskSpace.Constraints.Kind
import TaskSpace.Rigid.Quat

namespace TaskSpace.Constraints

open Rigid

-- A place in the base frame. The orientation need not have length one.
structure Placement (α : Type) where
  position : Vec3 α
  orientation : Quat α
deriving BEq

inductive Shape
  | box
  | sphere
  | cylinder
  | cone
deriving DecidableEq

def Shape.name : Shape → String
  | .box => "Box"
  | .sphere => "Sphere"
  | .cylinder => "Cylinder"
  | .cone => "Cone"

-- The dimensions of a box are its full extents; -1 leaves an axis free.
structure Primitive (α : Type) where
  shape : Shape
  dimensions : List α
deriving BEq

-- Primitives, each at the placement of its index.
structure Region (α : Type) where
  primitives : List (Primitive α)
  placements : List (Placement α)
deriving BEq

structure PositionEntry (α : Type) where
  link : String
  region : Region α
deriving BEq

-- The tolerances are about the axes of the target; -1 leaves an axis free.
structure OrientationEntry (α : Type) where
  link : String
  orientation : Quat α
  tolerances : Vec3 α
deriving BEq

-- What a planning request asks for. The name selects among the position kinds.
structure Description (α : Type) where
  name : String
  positions : List (PositionEntry α)
  orientations : List (OrientationEntry α)
deriving BEq

namespace PositionEntry

variable {α : Type}

def box (link : String) (extents : Vec3 α) (placement : Placement α) : PositionEntry α :=
  ⟨link, [⟨.box, extents.toList⟩], [placement]⟩

-- The box says which axes are constrained; the residual is expressed in the orientation.
def line (link : String) (extents start finish : Vec3 α) (orientation : Quat α) :
    PositionEntry α :=
  ⟨link, [⟨.box, extents.toList⟩], [⟨start, orientation⟩, ⟨finish, orientation⟩]⟩

end PositionEntry

namespace Description

variable {α : Type}

def isEmpty (description : Description α) : Bool :=
  description.positions.isEmpty && description.orientations.isEmpty

def boundedBox [Scalar α] (link : String) (extents position : Vec3 α) : Description α :=
  ⟨"", [.box link extents ⟨position, .identity⟩], []⟩

def equalityBox (link : String) (extents : Vec3 α) (placement : Placement α) : Description α :=
  ⟨Kind.equalityTag, [.box link extents placement], []⟩

def line (link : String) (extents start finish : Vec3 α) (orientation : Quat α) :
    Description α :=
  ⟨Kind.linearSystemTag, [.line link extents start finish orientation], []⟩

def orientation (link : String) (target : Quat α) (tolerances : Vec3 α) : Description α :=
  ⟨"", [], [⟨link, target, tolerances⟩]⟩

end Description

end TaskSpace.Constraints
