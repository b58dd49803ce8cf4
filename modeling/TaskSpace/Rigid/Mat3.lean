import TaskSpace.Rigid.Vec3

namespace TaskSpace.Rigid

structure Mat3 (α : Type) where
  rows : Vec3 (Vec3 α)
deriving BEq, DecidableEq

namespace Mat3

variable {α : Type}

def column (m : Mat3 α) (axis : Axis) : Vec3 α := m.rows.map (·.get axis)

def transpose (m : Mat3 α) : Mat3 α := ⟨Vec3.ofAxes m.column⟩

variable [Scalar α]

def identity : Mat3 α := ⟨⟨1, 0, 0⟩, ⟨0, 1, 0⟩, ⟨0, 0, 1⟩⟩

-- The matrix of the map that takes a vector w to the cross product of v with w.
def skew (v : Vec3 α) : Mat3 α := ⟨⟨0, -v.z, v.y⟩, ⟨v.z, 0, -v.x⟩, ⟨-v.y, v.x, 0⟩⟩

instance : Add (Mat3 α) := ⟨fun m n => ⟨m.rows.zipWith (· + ·) n.rows⟩⟩

instance : Sub (Mat3 α) := ⟨fun m n => ⟨m.rows.zipWith (· - ·) n.rows⟩⟩

instance : Neg (Mat3 α) := ⟨fun m => ⟨m.rows.map (·.map (- ·))⟩⟩

def scale (m : Mat3 α) (factor : α) : Mat3 α := ⟨m.rows.map (·.scale factor)⟩

def apply (m : Mat3 α) (v : Vec3 α) : Vec3 α := m.rows.map (·.dot v)

instance : Mul (Mat3 α) :=
  ⟨fun m n => ⟨m.rows.map fun row => Vec3.ofAxes fun axis => row.dot (n.column axis)⟩⟩

end Mat3

end TaskSpace.Rigid
