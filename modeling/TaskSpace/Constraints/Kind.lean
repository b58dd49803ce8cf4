namespace TaskSpace.Constraints

-- What a constraint asks of its link: its origin inside a box, on chosen target coordinates, or on a
-- line, or its orientation near a target.
inductive Kind
  | boundedPosition
  | equalityPosition
  | linearSystemPosition
  | orientation
deriving DecidableEq

namespace Kind

def equalityTag : String := "use_equality_constraints"

def linearSystemTag : String := "linear_system_constraints"

-- The position kind that a description asks for by its name. Any other name asks for a box.
def ofPositionTag (tag : String) : Kind :=
  if tag == equalityTag then .equalityPosition
  else if tag == linearSystemTag then .linearSystemPosition
  else .boundedPosition

def name : Kind → String
  | .boundedPosition => "bounded_position"
  | .equalityPosition => "equality_position"
  | .linearSystemPosition => "linear_system_position"
  | .orientation => "orientation"

def isPosition (kind : Kind) : Bool := kind != .orientation

end Kind

end TaskSpace.Constraints
