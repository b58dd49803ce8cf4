import TaskSpace.Rigid.Vec3

namespace TaskSpace.Kinematics

open Rigid

variable {α : Type} [Scalar α] {m : Type → Type} [Monad m]

-- The slope between the two neighbours of a point along one entry, the upper neighbour first. Both are
-- written over the point, which gets its entry back.
def differenceColumn (f : List α → m (Vec3 α)) (step entry : α) (index : Nat) :
    StateT (List α) m (Vec3 α) := do
  modify (·.set index (entry + step))
  let above ← f (← get)
  modify (·.set index (entry - step))
  let below ← f (← get)
  modify (·.set index entry)
  return (above - below).divide (2.0 * step)

-- Columns of the slopes between the two neighbours at distance step, one entry after the other.
def centralDifference (f : List α → m (Vec3 α)) (point : List α) (step : α) : m (List (Vec3 α)) :=
  StateT.run' (point.zipIdx.mapM fun (entry, index) => differenceColumn f step entry index) point

end TaskSpace.Kinematics
