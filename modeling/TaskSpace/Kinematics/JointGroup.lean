import TaskSpace.Kinematics.Scratchpad

namespace TaskSpace.Kinematics

open Rigid

inductive KinematicsError
  | unknownLink (link : String)
  | jointDimension (expected got : Nat)
deriving DecidableEq

def KinematicsError.message : KinematicsError → String
  | .unknownLink link => s!"unknown link: {link}"
  | .jointDimension expected got => s!"joint dimension mismatch: expected {expected}, got {got}"

-- A question to working storage of type σ, which may change it whether or not it is answered.
abbrev Query (σ ε : Type) := ExceptT ε (StateM σ)

-- Joints that move links, as their user sees them. The answers about poses come from working
-- storage that the caller owns.
structure JointGroup (α σ : Type) where
  dof : Nat
  hasLink : String → Bool
  newScratchpad : σ
  linkPose : List α → String → Query σ KinematicsError (Pose α)
  geometricJacobian : List α → String → Query σ KinematicsError (List (Twist α))

namespace Chain

variable {α : Type} [Scalar α]

-- The number of positions is checked first, then the link; only then the scratchpad is touched.
def locate (chain : Chain α) (positions : List α) (link : String) :
    Query (Scratchpad α) KinematicsError LinkIndex := do
  if positions.length ≠ chain.dof then throw (.jointDimension chain.dof positions.length)
  match chain.linkIndex? link with
  | none => throw (.unknownLink link)
  | some index =>
    modify (·.update chain positions)
    return index

def linkPose (chain : Chain α) (positions : List α) (link : String) :
    Query (Scratchpad α) KinematicsError (Pose α) := do
  let index ← chain.locate positions link
  return (← get).linkPose index

def geometricJacobian (chain : Chain α) (positions : List α) (link : String) :
    Query (Scratchpad α) KinematicsError (List (Twist α)) := do
  let index ← chain.locate positions link
  return (← get).jacobian chain.joints index

def jointGroup (chain : Chain α) : JointGroup α (Scratchpad α) where
  dof := chain.dof
  hasLink link := (chain.linkIndex? link).isSome
  newScratchpad := .fresh chain.dof
  linkPose := chain.linkPose
  geometricJacobian := chain.geometricJacobian

end Chain

namespace JointGroup

variable {α σ : Type}

-- A group may claim another number of joints or more links than the chain behind it has; its
-- answers stay those of the chain.
def claiming (group : JointGroup α σ) (dof : Option Nat) (anyLink : Bool) : JointGroup α σ :=
  { group with dof := dof.getD group.dof, hasLink := fun link => anyLink || group.hasLink link }

end JointGroup

end TaskSpace.Kinematics
