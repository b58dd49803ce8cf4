import Mathlib
import TaskSpace.Proofs.Constraints.Answers
import TaskSpace.Proofs.Constraints.Orientations
import TaskSpace.Proofs.Rigid.DoubleCover

namespace TaskSpace.Constraints

open Rigid Kinematics
open ExtendedReal (real)

section Rescaling

-- Multiples of a quaternion, of either sign.
def IsMultiple (q q' : Quat ExtendedReal) : Prop := ∃ factor : ℝ, factor ≠ 0 ∧ q' = q.scale (real factor)

structure Placement.IsRescaled (placement placement' : Placement ExtendedReal) : Prop where
  position : placement'.position = placement.position
  orientation : IsMultiple placement.orientation placement'.orientation

structure PositionEntry.IsRescaled (entry entry' : PositionEntry ExtendedReal) : Prop where
  link : entry'.link = entry.link
  primitives : entry'.region.primitives = entry.region.primitives
  placements : List.Forall₂ Placement.IsRescaled entry.region.placements entry'.region.placements

structure OrientationEntry.IsRescaled (entry entry' : OrientationEntry ExtendedReal) : Prop where
  link : entry'.link = entry.link
  orientation : IsMultiple entry.orientation entry'.orientation
  tolerances : entry'.tolerances = entry.tolerances

-- Descriptions that differ in the lengths and in the signs of their quaternions, each by a factor of its
-- own.
structure Description.IsRescaled (description description' : Description ExtendedReal) : Prop where
  name : description'.name = description.name
  positions : List.Forall₂ PositionEntry.IsRescaled description.positions description'.positions
  orientations : List.Forall₂ OrientationEntry.IsRescaled description.orientations description'.orientations

theorem IsMultiple.refl (q : Quat ExtendedReal) : IsMultiple q q := by
  have hone : ∀ value : ExtendedReal, value * real 1 = value := by
    intro value
    cases value with
    | real number => rw [ExtendedReal.mul_real, mul_one]
    | infinite negative =>
        change ExtendedReal.infiniteTimes negative 1 = _
        norm_num [ExtendedReal.infiniteTimes]
    | nan => rfl
  exact ⟨1, one_ne_zero, by simp only [Quat.scale, hone]⟩

theorem Description.IsRescaled.refl (description : Description ExtendedReal) :
    description.IsRescaled description where
  name := rfl
  positions := List.forall₂_same.mpr fun _ _ =>
    ⟨rfl, rfl, List.forall₂_same.mpr fun _ _ => ⟨rfl, .refl _⟩⟩
  orientations := List.forall₂_same.mpr fun _ _ => ⟨rfl, .refl _, rfl⟩

-- Two unit quaternions of one rotation.
structure AreUnitsOf (rotation rotation' : Quat ExtendedReal) (unit unit' : Quat ℝ) : Prop where
  first : rotation = unit.extend
  second : rotation' = unit'.extend
  isUnit : unit'.IsUnit
  same : unit'.SameRotation unit

theorem IsMultiple.exists_units {orientation orientation' rotation rotation' : Quat ExtendedReal}
    (h : IsMultiple orientation orientation') (hrotation : unitRotation orientation = .ok rotation)
    (hrotation' : unitRotation orientation' = .ok rotation') :
    ∃ unit unit', AreUnitsOf rotation rotation' unit unit' := by
  obtain ⟨factor, hfactor, rfl⟩ := h
  obtain ⟨q, rfl, _, rfl⟩ := exists_of_unitRotation hrotation
  obtain ⟨q', hmultiple, hne, rfl⟩ := exists_of_unitRotation hrotation'
  obtain rfl : q.scale factor = q' := Quat.extend_injective hmultiple
  exact ⟨_, _, rfl, rfl, Quat.normalize_isUnit hne, Quat.sameRotation_normalize_scale q hfactor⟩

namespace PositionEntry.IsRescaled

variable {entry entry' : PositionEntry ExtendedReal} (h : entry.IsRescaled entry')

include h

theorem extents_eq {extents extents' : Vec3 ExtendedReal} (hextents : entry.HasExtents extents)
    (hextents' : entry'.HasExtents extents') : extents' = extents := by
  rw [HasExtents, h.primitives] at hextents'
  exact HasExtents.unique hextents' hextents

theorem firstPlacement {target target' : Vec3 ExtendedReal} {rotation rotation' : Quat ExtendedReal}
    (hplacement : ResidualModel.firstPlacement entry = .ok (target, rotation))
    (hplacement' : ResidualModel.firstPlacement entry' = .ok (target', rotation')) :
    target' = target ∧ ∃ unit unit', AreUnitsOf rotation rotation' unit unit' := by
  obtain ⟨placement, _, hplacements, rfl, hrotation⟩ := ResidualModel.exists_placement hplacement
  obtain ⟨placement', _, hplacements', rfl, hrotation'⟩ := ResidualModel.exists_placement hplacement'
  have hscaled := h.placements
  rw [hplacements, hplacements'] at hscaled
  cases hscaled with
  | cons hfirst _ => exact ⟨hfirst.position, hfirst.orientation.exists_units hrotation hrotation'⟩

theorem second {placement placement' : Placement ExtendedReal}
    (hsecond : entry.region.placements[1]? = some placement)
    (hsecond' : entry'.region.placements[1]? = some placement') : placement'.position = placement.position := by
  have hpositions : List.Forall₂ (· = ·) (entry.region.placements.map Placement.position)
      (entry'.region.placements.map Placement.position) :=
    List.forall₂_map_left_iff.mpr
      (List.forall₂_map_right_iff.mpr (h.placements.imp fun _ _ hplacement => hplacement.position.symm))
  rw [List.forall₂_eq_eq_eq] at hpositions
  have hposition := congrArg (·[1]?) hpositions
  simp only [List.getElem?_map, hsecond, hsecond', Option.map_some, Option.some.injEq] at hposition
  exact hposition.symm

end PositionEntry.IsRescaled

end Rescaling

namespace ResidualModel

-- The same model in another orientation.
def withOrientation {α : Type} (model : ResidualModel α) (rotation : Quat α) : ResidualModel α :=
  match model with
  | .boundedPosition bounds target _ => .boundedPosition bounds target rotation
  | .equalityPosition mask target _ => .equalityPosition mask target rotation
  | .linearSystemPosition mask start finish _ => .linearSystemPosition mask start finish rotation
  | .orientation bounds _ => .orientation bounds rotation

theorem HasGeometry.hasRowsOf {model other : ResidualModel ExtendedReal} {finite : ResidualModel ℝ}
    {rotation : Quat ℝ} {bounds : Vec3 (Bound ExtendedReal)} (h : model.HasGeometry finite bounds)
    (h' : other.HasGeometry (finite.withOrientation rotation) bounds) : other.HasRowsOf model := by
  rw [h.eq, h'.eq]
  cases finite <;> exact ⟨rfl, rfl⟩

namespace HasGeometry

variable {model : ResidualModel ExtendedReal} {finite : ResidualModel ℝ}
  {bounds : Vec3 (Bound ExtendedReal)} (h : model.HasGeometry finite bounds)

include h

theorem targetOrientation_eq : model.targetOrientation = finite.targetOrientation.extend := by
  rw [h.eq]
  cases finite <;> rfl

theorem targetOrientation_isUnit : finite.targetOrientation.IsUnit := by
  have hregular := h.regular
  cases finite with
  | boundedPosition _ target _ => exact hregular
  | equalityPosition _ target _ => exact hregular
  | linearSystemPosition _ start finish _ => exact hregular.1
  | orientation _ _ => exact hregular

theorem withOrientation {rotation : Quat ℝ} (hrotation : rotation.IsUnit) :
    (model.withOrientation rotation.extend).HasGeometry (finite.withOrientation rotation) bounds := by
  refine ⟨?_, ?_, h.allowZero⟩
  · rw [h.eq]
    cases finite <;> rfl
  · have hregular := h.regular
    cases finite with
    | boundedPosition _ target _ => exact hrotation
    | equalityPosition _ target _ => exact hrotation
    | linearSystemPosition _ start finish _ => exact ⟨hrotation, hregular.2⟩
    | orientation _ _ => exact hrotation

end HasGeometry

-- Bounds that do not see the sign of a coordinate.
def EvenBounds (bounds : Vec3 (Bound ExtendedReal)) : Prop :=
  ∀ axis value, (bounds.get axis).height (-value) = (bounds.get axis).height value

theorem evenBounds_of_tolerances {entry : OrientationEntry ExtendedReal} {bounds : Vec3 (Bound ExtendedReal)}
    (h : entry.bounds = .ok bounds) : EvenBounds bounds := by
  intro axis value
  have hheight := Bound.height_tolerance (eq_of_ofAxesM h axis)
  simp only [hheight, excess, abs_neg]

section Reading

variable {settings : Settings ExtendedReal} {description description' : Description ExtendedReal}
  {link link' : String} {model model' : ResidualModel ExtendedReal}

-- What is read from two such descriptions: one geometry, in two quaternions of one rotation.
structure SameButSign (link link' : String) (model model' : ResidualModel ExtendedReal)
    (finite : ResidualModel ℝ) (rotation : Quat ℝ) (bounds : Vec3 (Bound ExtendedReal)) : Prop where
  link : link' = link
  geometry : model.HasGeometry finite bounds
  geometry' : model'.HasGeometry (finite.withOrientation rotation) bounds
  rotation : rotation.SameRotation finite.targetOrientation
  even : finite.kind = .orientation → EvenBounds bounds

-- Only the orientation of the model depends on the multiples.
theorem ReadFrom.exists_withOrientation {kind : Kind} (hrescaled : description.IsRescaled description')
    (h : ReadFrom settings description kind link model)
    (h' : ReadFrom settings description' kind link' model') :
    link' = link ∧ ∃ unit unit', AreUnitsOf model.targetOrientation model'.targetOrientation unit unit' ∧
      model' = model.withOrientation model'.targetOrientation := by
  cases h with
  | @box entry extents bounds _ _ hentry hextents hbounds hplacement =>
      cases h' with
      | @box entry' extents' bounds' _ _ hentry' hextents' hbounds' hplacement' =>
          have hscaled := head?_of_forall₂ hrescaled.positions hentry hentry'
          obtain ⟨rfl, unit, unit', hunits⟩ := hscaled.firstPlacement hplacement hplacement'
          obtain rfl := hscaled.extents_eq hextents hextents'
          obtain rfl : bounds' = bounds :=
            Vec3.ext_get fun axis => Except.ok.inj ((hbounds' axis).symm.trans (hbounds axis))
          exact ⟨hscaled.link, unit, unit', hunits, rfl⟩
  | thinBox hentry hextents hmask hplacement =>
      cases h' with
      | thinBox hentry' hextents' hmask' hplacement' =>
          have hscaled := head?_of_forall₂ hrescaled.positions hentry hentry'
          obtain ⟨rfl, unit, unit', hunits⟩ := hscaled.firstPlacement hplacement hplacement'
          obtain rfl := hscaled.extents_eq hextents hextents'
          cases hmask.symm.trans hmask'
          exact ⟨hscaled.link, unit, unit', hunits, rfl⟩
  | line hentry hextents hmask hplacement hsecond hfar =>
      cases h' with
      | line hentry' hextents' hmask' hplacement' hsecond' hfar' =>
          have hscaled := head?_of_forall₂ hrescaled.positions hentry hentry'
          obtain ⟨rfl, unit, unit', hunits⟩ := hscaled.firstPlacement hplacement hplacement'
          obtain rfl := hscaled.extents_eq hextents hextents'
          cases hmask.symm.trans hmask'
          refine ⟨hscaled.link, unit, unit', hunits, ?_⟩
          rw [hscaled.second hsecond hsecond']
          rfl
  | orientation hentry hbounds hrotation =>
      cases h' with
      | orientation hentry' hbounds' hrotation' =>
          have hscaled := head?_of_forall₂ hrescaled.orientations hentry hentry'
          obtain ⟨unit, unit', hunits⟩ := hscaled.orientation.exists_units hrotation hrotation'
          rw [OrientationEntry.bounds, hscaled.tolerances, ← OrientationEntry.bounds] at hbounds'
          cases hbounds.symm.trans hbounds'
          exact ⟨hscaled.link, unit, unit', hunits, rfl⟩

theorem ReadFrom.evenBounds {finite : ResidualModel ℝ} {bounds : Vec3 (Bound ExtendedReal)}
    (h : ReadFrom settings description .orientation link model) (hgeometry : model.HasGeometry finite bounds) :
    EvenBounds bounds := by
  cases h with
  | orientation hentry hbounds hrotation =>
      have hmodel := hgeometry.eq
      cases finite with
      | boundedPosition _ target _ => cases hmodel
      | equalityPosition _ target _ => cases hmodel
      | linearSystemPosition _ start finish _ => cases hmodel
      | orientation _ _ =>
          cases hmodel
          exact evenBounds_of_tolerances hbounds

theorem ReadFrom.sameButSign {kind : Kind} (hvalid : settings.validate = .ok ())
    (hfinite : kind.isPosition = true → description.HasFinitePositions)
    (hrescaled : description.IsRescaled description') (h : ReadFrom settings description kind link model)
    (h' : ReadFrom settings description' kind link' model') :
    ∃ finite rotation bounds, finite.kind = kind ∧
      SameButSign link link' model model' finite rotation bounds := by
  obtain ⟨finite, bounds, hgeometry, rfl⟩ := h.exists_geometry hvalid hfinite
  obtain ⟨hlink, unit, unit', hunits, hmodel⟩ := h.exists_withOrientation hrescaled h'
  obtain rfl : unit = finite.targetOrientation :=
    Quat.extend_injective (hunits.first.symm.trans hgeometry.targetOrientation_eq)
  rw [hunits.second] at hmodel
  refine ⟨finite, unit', bounds, rfl, hlink, hgeometry, ?_, hunits.same, fun hkind => ?_⟩
  · rw [hmodel]
    exact hgeometry.withOrientation hunits.isUnit
  · rw [hkind] at h
    exact h.evenBounds hgeometry

end Reading

end ResidualModel

end TaskSpace.Constraints
