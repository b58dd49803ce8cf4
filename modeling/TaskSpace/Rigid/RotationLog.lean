import TaskSpace.Rigid.Quat

namespace TaskSpace.Rigid

variable {α : Type} [Scalar α]

namespace Quat

-- Angle between 0 and pi, and unit axis. A quaternion without imaginary part has no axis.
-- The arc tangent keeps the digits of a tiny angle, where the arc cosine of w would lose them.
def angleAxis (q : Quat α) : α × Option (Vec3 α) :=
  let sinHalf := q.imaginary.norm
  if sinHalf == 0 then (0, none)
  else
    (2.0 * Scalar.atan2 sinHalf (Scalar.abs q.w),
      some ((q.imaginary.divide sinHalf).scale (Scalar.signum q.w)))

-- Exponential coordinates: the axis times the angle.
def rotationLog (q : Quat α) : Vec3 α :=
  match q.angleAxis with
  | (angle, some axis) => axis.scale angle
  | (_, none) => .zero

end Quat

-- Below this angle the coefficient of the quadratic term is taken from its series.
def smallAngle : α := 1e-2

-- The factor C / t², with C = 1 - (t / 2) sin t / (1 - cos t).
def quadraticCoefficient (t : α) : α :=
  if t < smallAngle then 1 / 12.0 + t * t / 720.0
  else (1 - 0.5 * t * Scalar.sin t / (1 - Scalar.cos t)) / (t * t)

-- The map from an angular velocity that turns a rotation from the left to the rate of change
-- of its exponential coordinates.
def angularVelocityToLogRate (angle : α) (axis : Vec3 α) : Mat3 α :=
  let turn := Mat3.skew (axis.scale angle)
  Mat3.identity - turn.scale 0.5 + (turn * turn).scale (quadraticCoefficient (Scalar.abs angle))

-- That map at a rotation, where it has an axis, and the identity elsewhere.
def Quat.logRate (q : Quat α) : Mat3 α :=
  match q.angleAxis with
  | (angle, some axis) => angularVelocityToLogRate angle axis
  | (_, none) => .identity

end TaskSpace.Rigid
