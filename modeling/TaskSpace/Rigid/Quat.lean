import TaskSpace.Rigid.Mat3

namespace TaskSpace.Rigid

-- The number x i + y j + z k + w. Rotations are unit quaternions; a quaternion and its negation
-- are one rotation.
structure Quat (α : Type) where
  x : α
  y : α
  z : α
  w : α
deriving BEq, DecidableEq

namespace Quat

variable {α : Type}

def toList (q : Quat α) : List α := [q.x, q.y, q.z, q.w]

def imaginary (q : Quat α) : Vec3 α := ⟨q.x, q.y, q.z⟩

def ofParts (imaginary : Vec3 α) (w : α) : Quat α := ⟨imaginary.x, imaginary.y, imaginary.z, w⟩

variable [Scalar α]

def identity : Quat α := ⟨0, 0, 0, 1⟩

def norm (q : Quat α) : α := Scalar.sqrt ((q.x * q.x + q.z * q.z) + (q.y * q.y + q.w * q.w))

def normalize (q : Quat α) : Quat α :=
  let length := q.norm
  ⟨q.x / length, q.y / length, q.z / length, q.w / length⟩

-- The inverse of a unit quaternion.
def conjugate (q : Quat α) : Quat α := ⟨-q.x, -q.y, -q.z, q.w⟩

instance : Mul (Quat α) :=
  ⟨fun p q =>
    ⟨p.w * q.x + p.x * q.w + p.y * q.z - p.z * q.y,
      p.w * q.y - p.x * q.z + p.y * q.w + p.z * q.x,
      p.w * q.z + p.x * q.y - p.y * q.x + p.z * q.w,
      p.w * q.w - p.x * q.x - p.y * q.y - p.z * q.z⟩⟩

-- For a unit quaternion this is the product of q, the vector and the inverse of q.
def rotate (q : Quat α) (v : Vec3 α) : Vec3 α :=
  let twice := (q.imaginary.cross v).scale 2.0
  twice.scale q.w + q.imaginary.cross twice + v

def toMatrix (q : Quat α) : Mat3 α :=
  let ww := q.w * q.w
  let xx := q.x * q.x
  let yy := q.y * q.y
  let zz := q.z * q.z
  let xy := q.x * q.y * 2.0
  let xz := q.x * q.z * 2.0
  let yz := q.y * q.z * 2.0
  let wx := q.w * q.x * 2.0
  let wy := q.w * q.y * 2.0
  let wz := q.w * q.z * 2.0
  ⟨⟨ww + xx - yy - zz, xy - wz, wy + xz⟩,
    ⟨wz + xy, ww - xx + yy - zz, yz - wx⟩,
    ⟨xz - wy, wx + yz, ww - xx - yy + zz⟩⟩

-- The rotation by an angle about a unit axis.
def ofAxisAngle (axis : Vec3 α) (angle : α) : Quat α :=
  ofParts (axis.scale (Scalar.sin (angle / 2.0))) (Scalar.cos (angle / 2.0))

end Quat

end TaskSpace.Rigid
