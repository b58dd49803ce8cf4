import Mathlib
import TaskSpace.Proofs.Constraints.Acceptance
import TaskSpace.Proofs.Constraints.Answers
import TaskSpace.Proofs.Kinematics.BaseFrame

namespace TaskSpace.Constraints

open Rigid Kinematics
open ExtendedReal (real)

section Moves

variable {α : Type} [Scalar α] (motion : Pose α)

def Placement.move (placement : Placement α) : Placement α :=
  ⟨motion.apply placement.position, motion.rotation * placement.orientation⟩

def PositionEntry.move (entry : PositionEntry α) : PositionEntry α :=
  ⟨entry.link, entry.region.primitives, entry.region.placements.map (Placement.move motion)⟩

def OrientationEntry.move (entry : OrientationEntry α) : OrientationEntry α :=
  { entry with orientation := motion.rotation * entry.orientation }

-- The same request after the base was moved.
def Description.move (description : Description α) : Description α :=
  ⟨description.name, description.positions.map (PositionEntry.move motion),
    description.orientations.map (OrientationEntry.move motion)⟩

def ResidualModel.move : ResidualModel α → ResidualModel α
  | .boundedPosition bounds target rotation =>
    .boundedPosition bounds (motion.apply target) (motion.rotation * rotation)
  | .equalityPosition mask target rotation =>
    .equalityPosition mask (motion.apply target) (motion.rotation * rotation)
  | .linearSystemPosition mask start finish rotation =>
    .linearSystemPosition mask (motion.apply start) (motion.apply finish) (motion.rotation * rotation)
  | .orientation bounds rotation => .orientation bounds (motion.rotation * rotation)

theorem ResidualModel.hasRowsOf_move (model : ResidualModel α) : (model.move motion).HasRowsOf model := by
  cases model <;> exact ⟨rfl, rfl⟩

end Moves

section Moving

variable {motion : Pose ℝ} (hmotion : motion.rotation.IsUnit)

namespace ResidualModel

-- Finite geometry stays finite when it is moved.
theorem extend_move (model : ResidualModel ℝ) (bounds : Vec3 (Bound ExtendedReal)) :
    (model.extend bounds).move motion.extend = (model.move motion).extend bounds := by
  cases model <;> rfl

include hmotion

section Frames

variable {rotation : Quat ℝ} (hrotation : rotation.IsUnit)

include hrotation

-- A frame that is moved along with a vector sees no difference.
theorem inFrame_move (v : Vec3 ℝ) :
    inFrame (motion.rotation * rotation) (motion.rotation.rotate v) = inFrame rotation v := by
  rw [inFrame, Quat.conjugate_mul, Quat.rotate_mul _ hrotation.conjugate hmotion.conjugate,
    hmotion.conjugate_rotate_rotate, inFrame]

theorem inFrame_apply_sub_apply (p target : Vec3 ℝ) :
    inFrame (motion.rotation * rotation) (motion.apply p - motion.apply target) =
      inFrame rotation (p - target) := by
  rw [Pose.apply_sub_apply, inFrame_move hmotion hrotation]

theorem lineDirection_move (start finish : Vec3 ℝ) :
    lineDirection (motion.apply start) (motion.apply finish) (motion.rotation * rotation) =
      lineDirection start finish rotation := by
  rw [lineDirection, inFrame_apply_sub_apply hmotion hrotation, lineDirection]

theorem transpose_move_apply (v : Vec3 ℝ) :
    (motion.rotation * rotation).toMatrix.transpose.apply (motion.rotation.rotate v) =
      rotation.toMatrix.transpose.apply v := by
  rw [← inFrame_eq (hmotion.mul hrotation), inFrame_move hmotion hrotation, inFrame_eq hrotation]

end Frames

theorem remainingTurn_move (pose : Pose ℝ) (rotation : Quat ℝ) :
    remainingTurn (motion * pose) (motion.rotation * rotation) = remainingTurn pose rotation := by
  rw [remainingTurn, Pose.mul_rotation, Quat.conjugate_mul, Quat.mul_assoc, ← @Quat.mul_assoc _ motion.rotation,
    hmotion.conjugate_mul_self, Quat.identity_mul, remainingTurn]

variable {model : ResidualModel ℝ}

theorem IsRegular.move (h : model.IsRegular) : (model.move motion).IsRegular := by
  cases model with
  | boundedPosition _ target rotation => exact hmotion.mul h
  | equalityPosition _ target rotation => exact hmotion.mul h
  | linearSystemPosition _ start finish rotation =>
      exact ⟨hmotion.mul h.1, (Pose.apply_injective hmotion).ne h.2⟩
  | orientation _ rotation => exact hmotion.mul h

variable (hmodel : model.IsRegular) (pose : Pose ℝ)

include hmodel

-- The error is what is left between the link and its target, wherever both are.
theorem error_move : (model.move motion).error (motion * pose) = model.error pose := by
  cases model with
  | boundedPosition _ target rotation => exact inFrame_apply_sub_apply hmotion hmodel _ _
  | equalityPosition _ target rotation => exact inFrame_apply_sub_apply hmotion hmodel _ _
  | linearSystemPosition _ start finish rotation =>
      exact congrArg₂ Vec3.cross (lineDirection_move hmotion hmodel.1 start finish)
        (inFrame_apply_sub_apply hmotion hmodel.1 _ _)
  | orientation _ rotation => exact congrArg Quat.rotationLog (remainingTurn_move hmotion pose rotation)

theorem errorOperator_move (hpose : pose.rotation.IsUnit) (v : Vec3 ℝ) :
    ((model.move motion).errorOperator (motion * pose)).apply (motion.rotation.rotate v) =
      (model.errorOperator pose).apply v := by
  cases model with
  | boundedPosition _ target rotation => exact transpose_move_apply hmotion hmodel v
  | equalityPosition _ target rotation => exact transpose_move_apply hmotion hmodel v
  | linearSystemPosition _ start finish rotation =>
      simp only [move, errorOperator, Mat3.apply_mul, lineDirection_move hmotion hmodel.1,
        transpose_move_apply hmotion hmodel.1]
  | orientation _ rotation =>
      simp only [move, errorOperator, Mat3.neg_apply, Mat3.apply_mul, remainingTurn_move hmotion,
        Pose.mul_rotation, transpose_move_apply hmotion hpose]

theorem errorJacobian_move (hpose : pose.rotation.IsUnit) (twists : List (Twist ℝ)) :
    (model.move motion).errorJacobian (motion * pose) (twists.map (Twist.rotate motion.rotation)) =
      model.errorJacobian pose twists := by
  have hvelocity : ∀ twist : Twist ℝ, (model.move motion).relevantVelocity (twist.rotate motion.rotation) =
      motion.rotation.rotate (model.relevantVelocity twist) := by
    intro twist
    cases model <;> rfl
  simp only [errorJacobian, List.map_map]
  refine List.map_congr_left fun twist _ => ?_
  rw [Function.comp_apply, hvelocity, errorOperator_move hmotion hmodel pose hpose]

end ResidualModel

include hmotion

-- A turned orientation is as long as it was, so it is accepted if it was.
theorem unitRotation_mul {orientation rotation : Quat ExtendedReal}
    (h : unitRotation orientation = .ok rotation) :
    unitRotation (motion.rotation.extend * orientation) = .ok (motion.rotation.extend * rotation) := by
  obtain ⟨q, rfl, hne, rfl⟩ := exists_of_unitRotation h
  have hne' : (motion.rotation * q).norm ≠ 0 := by rwa [hmotion.norm_mul]
  unfold unitRotation at h ⊢
  rw [← Quat.extend_mul, Quat.extend_norm, hmotion.norm_mul, ← Quat.extend_norm]
  split at h
  · cases h
  · rename_i hvalid
    rw [if_neg hvalid, ← Quat.extend_normalize _ hne', hmotion.normalize_mul, Quat.extend_mul]

namespace ResidualModel

theorem firstPlacement_move {entry : PositionEntry ExtendedReal} {target : Vec3 ExtendedReal}
    {rotation : Quat ExtendedReal} (h : firstPlacement entry = .ok (target, rotation)) :
    firstPlacement (entry.move motion.extend) =
      .ok (motion.extend.apply target, motion.rotation.extend * rotation) := by
  obtain ⟨placement, others, hplacements, rfl, hrotation⟩ := exists_placement h
  have hmoved : (placement.move motion.extend).rotation = .ok (motion.rotation.extend * rotation) :=
    unitRotation_mul hmotion hrotation
  simp only [firstPlacement, PositionEntry.move, hplacements, List.map_cons, hmoved]
  rfl

-- A moved description is read as the moved model.
theorem ReadFrom.move {settings : Settings ExtendedReal} {description : Description ExtendedReal}
    {kind : Kind} {link : String} {model : ResidualModel ExtendedReal}
    (hfinite : kind.isPosition = true → description.HasFinitePositions)
    (h : ReadFrom settings description kind link model) :
    ReadFrom settings (description.move motion.extend) kind link (model.move motion.extend) := by
  have hpositions : ∀ {entry}, description.positions.head? = some entry →
      (description.move motion.extend).positions.head? = some (entry.move motion.extend) := by
    intro entry hentry
    rw [Description.move, List.head?_map, hentry, Option.map_some]
  cases h with
  | box hentry hextents hbounds hplacement =>
      have hread : ReadFrom settings _ _ _ _ := .box (hpositions hentry) hextents hbounds
        (firstPlacement_move hmotion hplacement)
      exact hread
  | thinBox hentry hextents hmask hplacement =>
      have hread : ReadFrom settings _ _ _ _ := .thinBox (hpositions hentry) hextents hmask
        (firstPlacement_move hmotion hplacement)
      exact hread
  | @line entry extents mask start rotation second hentry hextents hmask hplacement hsecond hfar =>
      have hplaces := hfinite rfl entry (List.mem_of_head? hentry)
      obtain ⟨start, _, _, rfl, _⟩ := exists_of_firstPlacement hplaces hextents hplacement
      obtain ⟨finish, hfinish⟩ := hplaces second (List.mem_of_getElem? hsecond)
      have hother : (entry.move motion.extend).region.placements[1]? = some (second.move motion.extend) := by
        rw [PositionEntry.move, List.getElem?_map, hsecond, Option.map_some]
      have hlength : ((second.move motion.extend).position - motion.extend.apply start.extend).norm =
          (second.position - start.extend).norm := by
        rw [Placement.move, hfinish, ← Vec3.extend_sub, Vec3.extend_norm,
          ← Pose.norm_apply_sub_apply hmotion, ← Vec3.extend_norm]
        rfl
      have hread : ReadFrom settings _ _ _ _ := .line (hpositions hentry) hextents hmask
        (firstPlacement_move hmotion hplacement) hother (by rwa [hlength])
      exact hread
  | @orientation entry _ _ hentry hbounds hrotation =>
      have hmoved : (description.move motion.extend).orientations.head? = some (entry.move motion.extend) := by
        rw [Description.move, List.head?_map, hentry, Option.map_some]
      have hread : ReadFrom settings _ _ _ _ := .orientation hmoved hbounds
        (unitRotation_mul hmotion hrotation)
      exact hread

end ResidualModel

namespace Constraint

variable {chain : Chain ℝ} {kind : Kind} {settings : Settings ExtendedReal}
  {description : Description ExtendedReal} {constraint : Constraint ExtendedReal (Scratchpad ExtendedReal)}

-- The moved request is accepted for the chain on the moved base.
theorem exists_moved
    (hmade : (ofKind kind chain.extend.jointGroup settings description).outcome.1 = .ok constraint)
    (hfinite : kind.isPosition = true → description.HasFinitePositions) :
    ∃ moved, (ofKind kind (chain.rebase motion).extend.jointGroup settings
        (description.move motion.extend)).outcome.1 = .ok moved ∧
      moved.group = (chain.rebase motion).extend.jointGroup ∧ moved.settings = constraint.settings ∧
      moved.link = constraint.link ∧ moved.model = constraint.model.move motion.extend := by
  obtain ⟨link, model, _, rfl, hvalid, hlink, hmodel⟩ := exists_of_ofKind hmade
  have hread := ResidualModel.ReadFrom.of_ofDescription hmodel
  refine ⟨_, ofKind_of_readFrom hvalid ?_ (hread.move hmotion hfinite), rfl, rfl, rfl, rfl⟩
  change ((chain.rebase motion).extend.linkIndex? link).isSome = true
  rw [Chain.extend_linkIndex?, chain.rebase_linkIndex?, ← Chain.extend_linkIndex?]
  exact hlink

end Constraint

end Moving

namespace Constraint

-- A request and a chain that are moved together are answered as before, but for the base itself.
theorem answers_rebase (chain : Chain ℝ) (hchain : chain.IsRigid) (hjoints : chain.joints ≠ [])
    {motion : Pose ℝ} (hmotion : motion.rotation.IsUnit) {kind : Kind} {settings : Settings ExtendedReal}
    {description : Description ExtendedReal}
    {constraint : Constraint ExtendedReal (Scratchpad ExtendedReal)}
    (hmade : (ofKind kind chain.extend.jointGroup settings description).outcome.1 = .ok constraint)
    (hfinite : kind.isPosition = true → description.HasFinitePositions)
    (hlink : chain.linkIndex? constraint.link ≠ some .base) :
    ∃ moved, (ofKind kind (chain.rebase motion).extend.jointGroup settings
        (description.move motion.extend)).outcome.1 = .ok moved ∧
      ∀ (positions : List ℝ) method,
        moved.freshAnswer (positions.map real) method =
          constraint.freshAnswer (positions.map real) method := by
  obtain ⟨finite, bounds, _, hgroup, _, hgeometry, _⟩ := exists_geometry hmade hfinite
  obtain ⟨moved, hmoved, hgroup', hsettings, hsame, hmodel⟩ := exists_moved hmotion hmade hfinite
  have hgeometry' : moved.model.HasGeometry (finite.move motion) bounds := by
    refine ⟨?_, hgeometry.regular.move hmotion, hgeometry.allowZero⟩
    rw [hmodel, hgeometry.eq, ResidualModel.extend_move]
  have hrows : moved.model.HasRowsOf constraint.model := by
    rw [hmodel]
    exact ResidualModel.hasRowsOf_move motion.extend constraint.model
  refine ⟨moved, hmoved, fun positions method => ?_⟩
  refine freshAnswer_congr hgroup hgroup' hsame (chain.rebase_dof motion)
    (chain.rebase_linkIndex? motion constraint.link) rfl fun place hlength hplace => ?_
  obtain ⟨hpose, htwists⟩ := fill_rebase_eq hmotion hchain hjoints hlength
    (chain.hasPlace_of_linkIndex? hplace) fun hbase => hlink (hbase ▸ hplace)
  have hunit := hchain.linkPose_isUnit positions place
  refine replyAt_congr hgeometry hgeometry' hsettings hrows ?_ ?_ method
  · rw [hpose, ResidualModel.error_move hmotion hgeometry.regular]
  · rw [hpose, htwists, ResidualModel.errorJacobian_move hmotion hgeometry.regular _ hunit]

-- A base that is set down elsewhere and tilted.
noncomputable def tiltedMount : Pose ℝ := ⟨.ofAxisAngle ⟨1, 0, 0⟩ 1, ⟨1, 2, 3⟩⟩

-- A box around the origin, for the tool of a robot on this mount.
theorem cartesianWrist_answers_rebase :
    ∃ constraint moved,
      (ofKind .boundedPosition (Robots.cartesianWrist : Chain ℝ).extend.jointGroup .standard
        (.boundedBox Robots.toolLink (⟨1, 1, 1⟩ : Vec3 ℝ).extend
          (.zero : Vec3 ℝ).extend)).outcome.1 = .ok constraint ∧
      (ofKind .boundedPosition (Robots.cartesianWrist.rebase tiltedMount).extend.jointGroup .standard
        ((Description.boundedBox Robots.toolLink (⟨1, 1, 1⟩ : Vec3 ℝ).extend
          (.zero : Vec3 ℝ).extend).move tiltedMount.extend)).outcome.1 = .ok moved ∧
      ∀ (positions : List ℝ) method,
        moved.freshAnswer (positions.map real) method =
          constraint.freshAnswer (positions.map real) method := by
  have hmount : tiltedMount.rotation.IsUnit :=
    Quat.isUnit_ofAxisAngle ((Vec3.isUnit_iff _).mpr (by simp [Vec3.dot_eq])) 1
  obtain ⟨constraint, hmade, htool⟩ := exists_unitBox
    (rfl : (Robots.cartesianWrist : Chain ℝ).extend.jointGroup.hasLink Robots.toolLink = true)
  have hlink : (Robots.cartesianWrist : Chain ℝ).linkIndex? constraint.link ≠ some .base := by
    rw [htool]
    decide
  obtain ⟨moved, hmoved, hanswers⟩ := answers_rebase Robots.cartesianWrist Robots.cartesianWrist_isRigid
    (List.cons_ne_nil _ _) hmount hmade (fun _ => Description.hasFinitePositions_boundedBox _ _ _) hlink
  exact ⟨constraint, moved, hmade, hmoved, hanswers⟩

end Constraint

end TaskSpace.Constraints
