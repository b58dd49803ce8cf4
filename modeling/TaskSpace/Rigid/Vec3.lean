import TaskSpace.Scalar

namespace TaskSpace.Rigid

inductive Axis
  | x | y | z
deriving DecidableEq

namespace Axis

def all : List Axis := [.x, .y, .z]

-- The axis that follows in the cyclic order x, y, z.
def next : Axis → Axis
  | .x => .y
  | .y => .z
  | .z => .x

def index : Axis → Nat
  | .x => 0
  | .y => 1
  | .z => 2

def name : Axis → String
  | .x => "x"
  | .y => "y"
  | .z => "z"

end Axis

-- One entry per axis: coordinates, but also flags or bounds.
structure Vec3 (β : Type) where
  x : β
  y : β
  z : β
deriving BEq, DecidableEq

namespace Vec3

variable {α β γ δ : Type}

def get (v : Vec3 β) : Axis → β
  | .x => v.x
  | .y => v.y
  | .z => v.z

def ofAxes (entry : Axis → β) : Vec3 β := ⟨entry .x, entry .y, entry .z⟩

-- The axes in their order.
def ofAxesM {m : Type → Type} [Monad m] (entry : Axis → m β) : m (Vec3 β) := do
  let x ← entry .x
  let y ← entry .y
  let z ← entry .z
  return ⟨x, y, z⟩

def map (f : β → γ) (v : Vec3 β) : Vec3 γ := ⟨f v.x, f v.y, f v.z⟩

def zipWith (f : β → γ → δ) (v : Vec3 β) (w : Vec3 γ) : Vec3 δ := ⟨f v.x w.x, f v.y w.y, f v.z w.z⟩

def toList (v : Vec3 β) : List β := [v.x, v.y, v.z]

def all (holds : β → Bool) (v : Vec3 β) : Bool := holds v.x && holds v.y && holds v.z

def any (holds : β → Bool) (v : Vec3 β) : Bool := holds v.x || holds v.y || holds v.z

@[simp] theorem get_ofAxes (entry : Axis → β) (axis : Axis) : (ofAxes entry).get axis = entry axis := by
  cases axis <;> rfl

@[simp] theorem ofAxes_get (v : Vec3 β) : ofAxes v.get = v := rfl

@[simp] theorem get_map (f : β → γ) (v : Vec3 β) (axis : Axis) : (v.map f).get axis = f (v.get axis) := by
  cases axis <;> rfl

@[simp] theorem get_zipWith (f : β → γ → δ) (v : Vec3 β) (w : Vec3 γ) (axis : Axis) :
    (v.zipWith f w).get axis = f (v.get axis) (w.get axis) := by
  cases axis <;> rfl

variable [Scalar α]

def zero : Vec3 α := ⟨0, 0, 0⟩

instance : Add (Vec3 α) := ⟨zipWith (· + ·)⟩

instance : Sub (Vec3 α) := ⟨zipWith (· - ·)⟩

def scale (v : Vec3 α) (factor : α) : Vec3 α := v.map (· * factor)

def divide (v : Vec3 α) (divisor : α) : Vec3 α := v.map (· / divisor)

def dot (v w : Vec3 α) : α := v.x * w.x + v.y * w.y + v.z * w.z

def cross (v w : Vec3 α) : Vec3 α :=
  ⟨v.y * w.z - v.z * w.y, v.z * w.x - v.x * w.z, v.x * w.y - v.y * w.x⟩

def norm (v : Vec3 α) : α := Scalar.sqrt (v.dot v)

def normalize (v : Vec3 α) : Vec3 α := v.divide v.norm

-- The largest absolute entry, folded from the first one on. An entry that is not comparable gives
-- way to the next one, so that only a last one stays.
def maxAbs (v : Vec3 α) : α :=
  let larger (largest entry : α) : α := if Scalar.abs entry ≤ largest then largest else Scalar.abs entry
  larger (larger (Scalar.abs v.x) v.y) v.z

end Vec3

end TaskSpace.Rigid
