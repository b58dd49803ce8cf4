import TaskSpace.Constraints.Constraint

namespace TaskSpace.Constraints

open Kinematics

variable {α σ : Type}

-- The kind that a description asks for. Surplus entries are reported first.
def Description.selectKind (description : Description α) : Logged α (ConstraintError α) Kind := do
  let positions := description.positions.length
  let orientations := description.orientations.length
  if 1 < positions then report (.extraPositions positions)
  if 1 < orientations then report (.extraOrientations orientations)
  if description.isEmpty then throw .noConstraints
  if 0 < positions ∧ 0 < orientations then
    throw (.unsupported "combined position and orientation constraints")
  if 0 < positions then return .ofPositionTag description.name
  return .orientation

namespace Constraint

variable [ExtendedScalar α]

-- The constraint of a given kind. The link is looked up last.
def ofKind (kind : Kind) (group : JointGroup α σ) (settings : Settings α)
    (description : Description α) : Logged α (ConstraintError α) (Constraint α σ) :=
  ExceptT.adapt .config do
    settings.validate
    let (link, model) ← ResidualModel.ofDescription kind settings description
    if !group.hasLink link then throw (.unknownLink link)
    report (.applied link kind)
    return ⟨group, settings, link, model⟩

-- The constraint that a description asks for. One on the orientation is made even if it is not
-- enabled, but that is reported.
def create (group : JointGroup α σ) (description : Description α) (settings : Settings α) :
    Logged α (ConstraintError α) (Constraint α σ) := do
  let kind ← description.selectKind
  report (.creating kind description.name)
  if kind = .orientation then
    report (if settings.orientationSupported then .orientationEnabled else .orientationUnsupported)
  ofKind kind group settings description

end Constraint

end TaskSpace.Constraints
