import TaskSpace.Constraints.Error

namespace TaskSpace.Constraints

-- The values from the lower to the upper end, both included.
structure Bound (α : Type) where
  lower : α
  upper : α
deriving BEq, DecidableEq

namespace Bound

variable {α : Type}

def make [ExtendedScalar α] (lower upper : α) : Except (ConfigError α) (Bound α) :=
  if ExtendedScalar.isNaN lower || ExtendedScalar.isNaN upper || upper < lower then
    .error (.invalidBound lower upper)
  else .ok ⟨lower, upper⟩

def symmetric [ExtendedScalar α] (halfWidth : α) : Except (ConfigError α) (Bound α) :=
  make (-halfWidth) halfWidth

def unbounded [ExtendedScalar α] : Bound α := ⟨-ExtendedScalar.infinity, ExtendedScalar.infinity⟩

def isUnbounded [ExtendedScalar α] (bound : Bound α) : Bool :=
  bound.lower == -ExtendedScalar.infinity && bound.upper == ExtendedScalar.infinity

variable [Scalar α]

def contains (bound : Bound α) (value : α) : Bool := bound.lower ≤ value && value ≤ bound.upper

theorem contains_iff {bound : Bound α} {value : α} :
    bound.contains value = true ↔ bound.lower ≤ value ∧ value ≤ bound.upper := by
  simp only [contains, Bool.and_eq_true, decide_eq_true_eq]

-- How far a value lies outside. What is not comparable counts as above.
def penalty (bound : Bound α) (value : α) : α :=
  if bound.contains value then 0
  else if value < bound.lower then bound.lower - value
  else value - bound.upper

-- The slope of the penalty, and zero at both ends, where it has none.
def slope (bound : Bound α) (value : α) : α :=
  if bound.contains value then 0
  else if value < bound.lower then -1
  else 1

end Bound

def Bound.text (bound : Bound Float) : String :=
  s!"Bounds: ({Decimal.plain bound.lower}, {Decimal.plain bound.upper})"

end TaskSpace.Constraints
