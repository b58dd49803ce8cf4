import Mathlib
import TaskSpace.Proofs.Constraints.Jacobians

namespace TaskSpace.Constraints

open Rigid Kinematics
open ExtendedReal (real)

namespace ResidualModel

-- Models that make the same of an error, whatever they compare a pose with.
structure HasRowsOf {α : Type} (other model : ResidualModel α) : Prop where
  bounds : other.bounds? = model.bounds?
  active : other.rowActive = model.rowActive

section Rows

variable {α : Type} [Scalar α] {model other : ResidualModel α}

theorem HasRowsOf.residual_eq (h : other.HasRowsOf model) : other.residual = model.residual := by
  funext error
  unfold residual
  rw [h.bounds, h.active]

theorem HasRowsOf.residualJacobian_eq (h : other.HasRowsOf model) :
    other.residualJacobian = model.residualJacobian := by
  funext error columns
  have hfactor : other.rowFactor error = model.rowFactor error := by
    funext row
    unfold rowFactor
    rw [h.bounds]
  unfold residualJacobian
  rw [hfactor, h.active]

end Rows

end ResidualModel

namespace Constraint

section Replies

variable {α σ : Type} [Scalar α]

-- What a fresh scratchpad answers.
def freshAnswer (constraint : Constraint α σ) (positions : List α) (method : Method) :
    Except (ConstraintError α) (Reply α) :=
  (constraint.ask positions method).answer constraint.group.newScratchpad

variable {constraint other : Constraint α σ}

-- A reply only depends on the error and on its Jacobian.
theorem reply_congr (hsettings : other.settings = constraint.settings)
    (hrows : other.model.HasRowsOf constraint.model) {pose pose' : Pose α} {twists twists' : List (Twist α)}
    (herror : other.model.error pose' = constraint.model.error pose)
    (hcolumns : other.model.errorJacobian pose' twists' = constraint.model.errorJacobian pose twists)
    (method : Method) : other.reply pose' twists' method = constraint.reply pose twists method := by
  have hevaluation : other.evaluation pose' twists' = constraint.evaluation pose twists := by
    simp only [evaluation, herror, hcolumns, hrows.residual_eq, hrows.residualJacobian_eq]
  cases method <;> simp only [reply, hevaluation, herror, hcolumns, hsettings]

theorem freshAnswer_eq {constraint : Constraint α (Scratchpad α)} {chain : Chain α}
    (hgroup : constraint.group = chain.jointGroup) (positions : List α) (method : Method) :
    constraint.freshAnswer positions method =
      (constraint.resolve chain positions).map fun place =>
        constraint.reply ((Scratchpad.fill chain positions).linkPose place)
          ((Scratchpad.fill chain positions).jacobian chain.joints place) method := by
  have hfresh : constraint.group.newScratchpad.update chain positions = .fill chain positions := by
    rw [hgroup]
    exact Scratchpad.update_fresh chain positions chain.dof
  rw [freshAnswer, (readsAt_ask (.of_eq hgroup) positions method).answer_eq, hfresh]
  cases constraint.resolve chain positions <;> rfl

end Replies

section Finite

variable {constraint other : Constraint ExtendedReal (Scratchpad ExtendedReal)} {chain chain' : Chain ℝ}

-- What a constraint replies at a link of a chain of numbers.
noncomputable def replyAt (constraint : Constraint ExtendedReal (Scratchpad ExtendedReal))
    (chain : Chain ℝ) (positions : List ℝ) (place : LinkIndex) (method : Method) : Reply ExtendedReal :=
  constraint.reply ((Scratchpad.fill chain positions).linkPose place).extend
    (((Scratchpad.fill chain positions).jacobian chain.joints place).map Twist.extend) method

theorem freshAnswer_extend (hgroup : constraint.group = chain.extend.jointGroup) (positions : List ℝ)
    (method : Method) :
    constraint.freshAnswer (positions.map real) method =
      (constraint.resolve chain.extend (positions.map real)).map fun place =>
        constraint.replyAt chain positions place method := by
  rw [freshAnswer_eq hgroup, ← Scratchpad.extend_fill]
  simp only [replyAt, Scratchpad.extend_linkPose, Scratchpad.extend_jacobian]
  rfl

theorem replyAt_residual {finite : ResidualModel ℝ} {bounds : Vec3 (Bound ExtendedReal)}
    (hgeometry : constraint.model.HasGeometry finite bounds) (positions : List ℝ) (place : LinkIndex) :
    constraint.replyAt chain positions place .residual = .vector (constraint.model.residual
      (finite.error ((Scratchpad.fill chain positions).linkPose place)).extend) := by
  rw [ResidualModel.extend_error bounds hgeometry.regular, ← hgeometry.eq]
  rfl

theorem replyAt_congr {finite finite' : ResidualModel ℝ} {bounds bounds' : Vec3 (Bound ExtendedReal)}
    (hgeometry : constraint.model.HasGeometry finite bounds)
    (hgeometry' : other.model.HasGeometry finite' bounds') (hsettings : other.settings = constraint.settings)
    (hrows : other.model.HasRowsOf constraint.model) {positions positions' : List ℝ} {place : LinkIndex}
    (herror : finite'.error ((Scratchpad.fill chain' positions').linkPose place) =
      finite.error ((Scratchpad.fill chain positions).linkPose place))
    (hcolumns : finite'.errorJacobian ((Scratchpad.fill chain' positions').linkPose place)
        ((Scratchpad.fill chain' positions').jacobian chain'.joints place) =
      finite.errorJacobian ((Scratchpad.fill chain positions).linkPose place)
        ((Scratchpad.fill chain positions).jacobian chain.joints place)) (method : Method) :
    other.replyAt chain' positions' place method = constraint.replyAt chain positions place method := by
  refine reply_congr hsettings hrows ?_ ?_ method
  · rw [hgeometry.eq, hgeometry'.eq, ← ResidualModel.extend_error bounds hgeometry.regular,
      ← ResidualModel.extend_error bounds' hgeometry'.regular, herror]
  · rw [hgeometry.eq, hgeometry'.eq, ← ResidualModel.extend_errorJacobian bounds hgeometry.regular,
      ← ResidualModel.extend_errorJacobian bounds' hgeometry'.regular, hcolumns]

-- To compare the answers of two constraints, at two joint vectors, it suffices to compare what they
-- reply at the place of their link. Elsewhere both fail alike.
theorem freshAnswer_congr (hgroup : constraint.group = chain.extend.jointGroup)
    (hgroup' : other.group = chain'.extend.jointGroup) (hlink : other.link = constraint.link)
    (hdof : chain'.dof = chain.dof)
    (hplace : chain'.linkIndex? constraint.link = chain.linkIndex? constraint.link)
    {positions positions' : List ℝ} (hlength : positions'.length = positions.length) {method : Method}
    (hreply : ∀ place, positions.length = chain.dof → chain.linkIndex? constraint.link = some place →
      other.replyAt chain' positions' place method = constraint.replyAt chain positions place method) :
    other.freshAnswer (positions'.map real) method =
      constraint.freshAnswer (positions.map real) method := by
  have hresolve : other.resolve chain'.extend (positions'.map real) =
      constraint.resolve chain.extend (positions.map real) := by
    simp only [resolve, Chain.resolve, hgroup, hgroup', hlink, Chain.jointGroup, Chain.extend_dof, hdof,
      Chain.extend_linkIndex?, hplace, List.length_map, hlength]
  rw [freshAnswer_extend hgroup, freshAnswer_extend hgroup', hresolve]
  cases hok : constraint.resolve chain.extend (positions.map real) with
  | error error => rfl
  | ok place =>
      obtain ⟨hdimension, hfound⟩ := Chain.of_resolve_eq_ok (resolve_ok _ hok)
      rw [List.length_map, Chain.extend_dof] at hdimension
      rw [Chain.extend_linkIndex?] at hfound
      exact congrArg Except.ok (hreply place hdimension hfound)

end Finite

end Constraint

end TaskSpace.Constraints
