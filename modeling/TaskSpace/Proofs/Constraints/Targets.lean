import Mathlib
import TaskSpace.Proofs.Constraints.Refusal

namespace TaskSpace.Constraints

open Rigid Kinematics Requirement
open ExtendedReal (real infinite)

-- Everything that the link is compared with is a finite number, and a line is long enough.
structure ResidualModel.HasFiniteTargets (model : ResidualModel ExtendedReal) (tolerance : ExtendedReal) :
    Prop where
  orientation : ∃ rotation : Quat ℝ, model.targetOrientation = rotation.extend
  position : ∀ target, model.targetPosition? = some target → ∃ position : Vec3 ℝ, target = position.extend
  line : ∀ start finish, model.line? = some (start, finish) →
    (∃ position : Vec3 ℝ, start = position.extend) ∧ (∃ position : Vec3 ℝ, finish = position.extend) ∧
      ∃ length : ℝ, (finish - start).norm = real length ∧ tolerance ≤ real length

-- The positions that are read from a description: those of the first placements of its first entry, two
-- for a line.
def Kind.positionCount : Kind → Nat
  | .boundedPosition => 1
  | .equalityPosition => 1
  | .linearSystemPosition => 2
  | .orientation => 0

def Description.targetPositions {α : Type} (description : Description α) : List (Vec3 α) :=
  match description.positions with
  | [] => []
  | entry :: _ =>
    (entry.region.placements.take (Kind.ofPositionTag description.name).positionCount).map
      Placement.position

def Description.HasFiniteTargetPositions (description : Description ExtendedReal) : Prop :=
  ∀ target ∈ description.targetPositions, ∃ position : Vec3 ℝ, target = position.extend

variable {settings : Settings ExtendedReal} {description : Description ExtendedReal} {kind : Kind}
  {link : String} {model : ResidualModel ExtendedReal}

def ResidualModel.targetPositions {α : Type} : ResidualModel α → List (Vec3 α)
  | .boundedPosition _ target _ => [target]
  | .equalityPosition _ target _ => [target]
  | .linearSystemPosition _ start finish _ => [start, finish]
  | .orientation _ _ => []

-- The kind that is chosen for a description.
def Description.IsReadAs (description : Description ExtendedReal) (kind : Kind) : Prop :=
  ∃ log, Query.answer description.selectKind log = .ok kind

namespace Description.IsReadAs

theorem targetPositions_of_first (h : description.IsReadAs kind) {entry : PositionEntry ExtendedReal}
    (hentry : description.positions.head? = some entry) :
    description.targetPositions =
      (entry.region.placements.take kind.positionCount).map Placement.position := by
  obtain ⟨log, h⟩ := h
  rw [answer_selectKind] at h
  unfold targetPositions
  rcases hpositions : description.positions with _ | ⟨first, others⟩
  · rw [hpositions] at hentry
    cases hentry
  · rw [hpositions] at hentry
    cases hentry
    rcases horientations : description.orientations with _ | ⟨orientation, others'⟩
    · rw [hpositions, horientations] at h
      cases h
      rfl
    · rw [hpositions, horientations] at h
      cases h

theorem targetPositions_of_orientation (h : description.IsReadAs .orientation) :
    description.targetPositions = [] := by
  obtain ⟨log, h⟩ := h
  rw [answer_selectKind] at h
  unfold targetPositions
  rcases hpositions : description.positions with _ | ⟨first, others⟩
  · rfl
  · rcases horientations : description.orientations with _ | ⟨orientation, others'⟩
    · rw [hpositions, horientations] at h
      exact absurd (Except.ok.inj h) (Kind.ofPositionTag_ne_orientation _)
    · rw [hpositions, horientations] at h
      cases h

end Description.IsReadAs

theorem unitRotation_isUnit {orientation rotation : Quat ExtendedReal}
    (h : unitRotation orientation = .ok rotation) :
    ∃ unit : Quat ℝ, unit.IsUnit ∧ rotation = unit.extend := by
  obtain ⟨q, _, hne, rfl⟩ := exists_of_unitRotation h
  exact ⟨q.normalize, Quat.normalize_isUnit hne, rfl⟩

namespace ResidualModel

theorem firstPlacement_isUnit {entry : PositionEntry ExtendedReal} {target : Vec3 ExtendedReal}
    {rotation : Quat ExtendedReal} (h : firstPlacement entry = .ok (target, rotation)) :
    ∃ unit : Quat ℝ, unit.IsUnit ∧ rotation = unit.extend := by
  obtain ⟨_, _, _, _, hrotation⟩ := exists_placement h
  exact unitRotation_isUnit hrotation

theorem mem_targetPositions {target : Vec3 ExtendedReal} (h : model.targetPosition? = some target) :
    target ∈ model.targetPositions := by
  cases model with
  | boundedPosition => cases h; exact List.mem_cons_self
  | equalityPosition => cases h; exact List.mem_cons_self
  | linearSystemPosition => cases h; exact List.mem_cons_self
  | orientation => cases h

theorem targetPositions_line {start finish : Vec3 ExtendedReal} (h : model.line? = some (start, finish)) :
    model.targetPositions = [start, finish] := by
  cases model with
  | linearSystemPosition => cases h; rfl
  | boundedPosition => cases h
  | equalityPosition => cases h
  | orientation => cases h

theorem HasFiniteTargets.targetPositions {tolerance : ExtendedReal} (h : model.HasFiniteTargets tolerance) :
    ∀ target ∈ model.targetPositions, ∃ position : Vec3 ℝ, target = position.extend := by
  intro target htarget
  cases model with
  | boundedPosition =>
      rw [List.mem_singleton.mp htarget]
      exact h.position _ rfl
  | equalityPosition =>
      rw [List.mem_singleton.mp htarget]
      exact h.position _ rfl
  | linearSystemPosition =>
      obtain ⟨hstart, hfinish, _⟩ := h.line _ _ rfl
      rcases List.mem_pair.mp htarget with rfl | rfl
      · exact hstart
      · exact hfinish
  | orientation => cases htarget

namespace ReadFrom

-- The orientation is checked in each kind.
theorem targetOrientation_isUnit (h : ReadFrom settings description kind link model) :
    ∃ rotation : Quat ℝ, rotation.IsUnit ∧ model.targetOrientation = rotation.extend := by
  cases h with
  | box _ _ _ hplacement => exact firstPlacement_isUnit hplacement
  | thinBox _ _ _ hplacement => exact firstPlacement_isUnit hplacement
  | line _ _ _ hplacement => exact firstPlacement_isUnit hplacement
  | orientation _ _ hrotation => exact unitRotation_isUnit hrotation

-- The points of a line are compared with the tolerance, but not looked at one by one.
theorem line_not_short (h : ReadFrom settings description kind link model) {start finish : Vec3 ExtendedReal}
    (hline : model.line? = some (start, finish)) : ¬(finish - start).norm < settings.tolerance := by
  cases h with
  | line _ _ _ _ _ hfar =>
      cases hline
      exact hfar
  | box => cases hline
  | thinBox => cases hline
  | orientation => cases hline

-- What is read goes into the model as it is.
theorem targetPositions_eq (h : ReadFrom settings description kind link model)
    (hkind : description.IsReadAs kind) : description.targetPositions = model.targetPositions := by
  cases h with
  | box hentry _ _ hplacement =>
      obtain ⟨placement, others, hplacements, rfl, _⟩ := exists_placement hplacement
      rw [hkind.targetPositions_of_first hentry, hplacements]
      rfl
  | thinBox hentry _ _ hplacement =>
      obtain ⟨placement, others, hplacements, rfl, _⟩ := exists_placement hplacement
      rw [hkind.targetPositions_of_first hentry, hplacements]
      rfl
  | line hentry _ _ hplacement hsecond =>
      obtain ⟨placement, others, hplacements, rfl, _⟩ := exists_placement hplacement
      rw [hplacements, List.getElem?_cons_succ] at hsecond
      cases others with
      | nil => cases hsecond
      | cons second further =>
          cases hsecond
          rw [hkind.targetPositions_of_first hentry, hplacements]
          rfl
  | orientation => rw [hkind.targetPositions_of_orientation]; rfl

-- Nothing but the positions can keep the targets of a model from being finite.
theorem hasFiniteTargets_iff (h : ReadFrom settings description kind link model)
    (hvalid : settings.validate = .ok ()) : model.HasFiniteTargets settings.tolerance ↔
      ∀ target ∈ model.targetPositions, ∃ position : Vec3 ℝ, target = position.extend := by
  refine ⟨HasFiniteTargets.targetPositions, fun hpositions => ⟨?_, fun _ htarget => ?_, ?_⟩⟩
  · obtain ⟨rotation, _, hrotation⟩ := h.targetOrientation_isUnit
    exact ⟨rotation, hrotation⟩
  · exact hpositions _ (mem_targetPositions htarget)
  · intro start finish hline
    have hfar := h.line_not_short hline
    rw [targetPositions_line hline] at hpositions
    obtain ⟨first, rfl⟩ := hpositions start List.mem_cons_self
    obtain ⟨last, rfl⟩ := hpositions finish (List.mem_cons_of_mem _ List.mem_cons_self)
    obtain ⟨tolerance, _, htolerance⟩ := settings.exists_tolerance hvalid
    rw [← Vec3.extend_sub, Vec3.extend_norm] at hfar ⊢
    rw [htolerance, ExtendedReal.lt_real, not_lt] at hfar
    rw [htolerance]
    exact ⟨⟨first, rfl⟩, ⟨last, rfl⟩, _, rfl, hfar⟩

end ReadFrom

end ResidualModel

namespace Constraint

variable {σ : Type} {group : JointGroup ExtendedReal σ} {constraint : Constraint ExtendedReal σ}

theorem exists_of_create (h : (create group description settings).outcome.1 = .ok constraint) :
    ∃ kind, description.IsReadAs kind ∧ constraint.settings = settings ∧ settings.validate = .ok () ∧
      ResidualModel.ReadFrom settings description kind constraint.link constraint.model := by
  change Query.answer (create group description settings) [] = .ok constraint at h
  unfold create at h
  obtain ⟨kind, hkind, h⟩ := Query.exists_of_answer_bind h
  obtain ⟨_, _, h⟩ := Query.exists_of_answer_bind h
  obtain ⟨_, h⟩ := exists_of_answer_ite h
  obtain ⟨link, model, _, rfl, hvalid, _, hmodel⟩ := exists_of_answer_ofKind h
  exact ⟨kind, ⟨_, hkind⟩, rfl, hvalid, .of_ofDescription hmodel⟩

-- The targets of what is made are finite exactly if the positions are that it was made from. These are
-- not checked; the orientation is, and of a line that it is not found to be too short.
theorem create_hasFiniteTargets_iff
    (hmade : (create group description settings).outcome.1 = .ok constraint) :
    (constraint.model.HasFiniteTargets constraint.tolerance ↔ description.HasFiniteTargetPositions) ∧
      constraint.model.targetPositions = description.targetPositions ∧
      (∃ rotation : Quat ℝ, rotation.IsUnit ∧ constraint.model.targetOrientation = rotation.extend) ∧
      ∀ start finish, constraint.model.line? = some (start, finish) →
        ¬(finish - start).norm < constraint.tolerance := by
  obtain ⟨kind, hkind, hsettings, hvalid, hread⟩ := exists_of_create hmade
  have hpositions := hread.targetPositions_eq hkind
  rw [tolerance, hsettings]
  refine ⟨?_, hpositions.symm, hread.targetOrientation_isUnit, fun _ _ => hread.line_not_short⟩
  rw [hread.hasFiniteTargets_iff hvalid, Description.HasFiniteTargetPositions, hpositions]

-- Extents that leave every axis free.
def freeExtents : Vec3 ExtendedReal := ⟨real (-1), real (-1), real (-1)⟩

theorem allMet_freeExtents :
    AllMet (onAxes fun axis => settings.thinExtentRequirements axis (freeExtents.get axis)) := by
  intro requirement hrequirement
  obtain ⟨axis, _, haxis⟩ := List.mem_flatMap.mp hrequirement
  have hextent : freeExtents.get axis = real (-1) := by
    cases axis <;> rfl
  rw [hextent, Settings.thinExtentRequirements] at haxis
  rcases List.mem_pair.mp haxis with rfl | rfl
  · exact Or.inl rfl
  · exact Or.inl rfl

theorem allMet_direction_identity : AllMet (directionRequirements (.identity : Quat ExtendedReal)) := by
  have hunit := Quat.isUnit_identity
  refine allMet_cons_iff.mpr ⟨⟨1, by norm_num, ?_⟩, allMet_nil⟩
  rw [← Quat.extend_identity, Quat.extend_norm, hunit]

-- Lines with free axes are accepted unless they are found to be too short.
theorem exists_line (group : JointGroup ExtendedReal σ) (hvalid : settings.validate = .ok ()) (link : String)
    (hlink : group.hasLink link = true) {start finish : Vec3 ExtendedReal}
    (hfar : ¬(finish - start).norm < settings.tolerance) :
    ∃ constraint, (create group (.line link freeExtents start finish .identity) settings).outcome.1 =
      .ok constraint := by
  have hsettings : AllMet settings.requirements := settings.judges_validate.ok_iff.mp ⟨(), hvalid⟩
  have hentry : AllMet ((PositionEntry.line link freeExtents start finish .identity).requirements settings
      Kind.linearSystemTag) := by
    have htag : ¬Kind.linearSystemTag = Kind.equalityTag := by decide
    rw [PositionEntry.requirements, if_neg htag, if_pos rfl]
    refine allMet_append_iff.mpr ⟨allMet_append_iff.mpr ⟨?_, allMet_direction_identity⟩, ?_⟩
    · exact allMet_cons_iff.mpr ⟨rfl, allMet_freeExtents⟩
    · exact allMet_cons_iff.mpr ⟨hfar, allMet_nil⟩
  refine (judges_create group settings _ []).ok_iff.mpr ?_
  refine allMet_append_iff.mpr ⟨?_, (allMet_map_iff _).mpr (allMet_append_iff.mpr ⟨hsettings, ?_⟩)⟩
  · exact allMet_cons_iff.mpr ⟨Or.inl nofun, allMet_cons_iff.mpr ⟨Or.inr rfl, allMet_nil⟩⟩
  · exact allMet_append_iff.mpr ⟨hentry, allMet_cons_iff.mpr ⟨hlink, allMet_nil⟩⟩

-- A line of length one, and one that ends nowhere.
theorem cartesianWrist_line_hasFiniteTargets :
    ∃ constraint, (create Robots.cartesianWrist.jointGroup
      (.line Robots.toolLink freeExtents .zero (⟨1, 0, 0⟩ : Vec3 ℝ).extend .identity)
        (.standard : Settings ExtendedReal)).outcome.1 = .ok constraint ∧
      constraint.model.HasFiniteTargets constraint.tolerance := by
  have hfar : ¬((⟨1, 0, 0⟩ : Vec3 ℝ).extend - (.zero : Vec3 ℝ).extend).norm <
      (Settings.standard : Settings ExtendedReal).tolerance :=
    Settings.far_standard (by simp [Vec3.dot_eq])
  obtain ⟨constraint, hmade⟩ := exists_line Robots.cartesianWrist.jointGroup Settings.validate_standard
    Robots.toolLink rfl hfar
  refine ⟨constraint, hmade, (create_hasFiniteTargets_iff hmade).1.mpr ?_⟩
  intro target htarget
  rcases List.mem_pair.mp htarget with rfl | rfl
  · exact ⟨.zero, rfl⟩
  · exact ⟨_, rfl⟩

theorem cartesianWrist_line_nowhere :
    ∃ constraint, (create Robots.cartesianWrist.jointGroup
      (.line Robots.toolLink freeExtents .zero ⟨.nan, real 0, real 0⟩ .identity)
        (.standard : Settings ExtendedReal)).outcome.1 = .ok constraint ∧
      ¬constraint.model.HasFiniteTargets constraint.tolerance := by
  have hnan : ((⟨.nan, real 0, real 0⟩ : Vec3 ExtendedReal) - .zero).norm = .nan := rfl
  have hfar : ¬((⟨.nan, real 0, real 0⟩ : Vec3 ExtendedReal) - .zero).norm <
      (Settings.standard : Settings ExtendedReal).tolerance := by
    rw [hnan]
    exact nofun
  obtain ⟨constraint, hmade⟩ := exists_line Robots.cartesianWrist.jointGroup Settings.validate_standard
    Robots.toolLink rfl hfar
  obtain ⟨kind, hkind, hsettings, hvalid, hread⟩ := exists_of_create hmade
  refine ⟨constraint, hmade, fun hfinite => ?_⟩
  rw [tolerance, hsettings, hread.hasFiniteTargets_iff hvalid, ← hread.targetPositions_eq hkind] at hfinite
  obtain ⟨position, hposition⟩ :=
    hfinite ⟨.nan, real 0, real 0⟩ (List.mem_cons_of_mem _ List.mem_cons_self)
  cases congrArg Vec3.x hposition

end Constraint

end TaskSpace.Constraints
