import TaskSpace.Rigid.Quat

namespace TaskSpace.Rigid

-- A rigid motion: first the rotation, then the translation.
structure Pose (α : Type) where
  rotation : Quat α
  translation : Vec3 α
deriving BEq, DecidableEq

namespace Pose

variable {α : Type} [Scalar α]

def identity : Pose α := ⟨.identity, .zero⟩

def ofTranslation (translation : Vec3 α) : Pose α := ⟨.identity, translation⟩

instance : Mul (Pose α) :=
  ⟨fun p q => ⟨p.rotation * q.rotation, p.translation + p.rotation.rotate q.translation⟩⟩

end Pose

-- Velocity of a frame: that of its origin, and the angular velocity.
structure Twist (α : Type) where
  linear : Vec3 α
  angular : Vec3 α
deriving BEq, DecidableEq

end TaskSpace.Rigid
