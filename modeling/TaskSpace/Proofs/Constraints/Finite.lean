import Mathlib
import TaskSpace.Proofs.Constraints.Extension
import TaskSpace.Proofs.Constraints.Parts
import TaskSpace.Proofs.Constraints.Penalty

namespace TaskSpace.Constraints

open Rigid Kinematics
open ExtendedReal (real infinite)

-- The positions that a description gives are numbers. Its other numbers are checked when it is read, or
-- may be infinite.
def Description.HasFinitePositions (description : Description ExtendedReal) : Prop :=
  ∀ entry ∈ description.positions, ∀ placement ∈ entry.region.placements,
    ∃ position : Vec3 ℝ, placement.position = position.extend

theorem Description.hasFinitePositions_equalityBox (link : String) (extents : Vec3 ExtendedReal)
    (position : Vec3 ℝ) (orientation : Quat ExtendedReal) :
    (Description.equalityBox link extents ⟨position.extend, orientation⟩).HasFinitePositions := by
  intro entry hentry placement hplacement
  rw [List.mem_singleton.mp hentry] at hplacement
  rw [List.mem_singleton.mp hplacement]
  exact ⟨position, rfl⟩

theorem Description.hasFinitePositions_boundedBox (link : String) (extents : Vec3 ExtendedReal)
    (position : Vec3 ℝ) : (Description.boundedBox link extents position.extend).HasFinitePositions := by
  intro entry hentry placement hplacement
  rw [List.mem_singleton.mp hentry] at hplacement
  rw [List.mem_singleton.mp hplacement]
  exact ⟨position, rfl⟩

theorem Description.hasFinitePositions_line (link : String) (extents : Vec3 ExtendedReal)
    (start finish : Vec3 ℝ) (orientation : Quat ExtendedReal) :
    (Description.line link extents start.extend finish.extend orientation).HasFinitePositions := by
  intro entry hentry placement hplacement
  rw [List.mem_singleton.mp hentry] at hplacement
  rcases List.mem_pair.mp hplacement with rfl | rfl
  · exact ⟨start, rfl⟩
  · exact ⟨finish, rfl⟩

theorem isFree_iff (value : ExtendedReal) : isFree value = true ↔ value = real (-1) := by
  constructor
  · exact ExtendedReal.eq_of_beq
  · rintro rfl
    simp [isFree]

theorem orInfinite_free : orInfinite (real (-1)) = infinite false := if_pos ((isFree_iff _).mpr rfl)

theorem orInfinite_of_ne {value : ExtendedReal} (h : value ≠ real (-1)) : orInfinite value = value :=
  if_neg fun hfree => h ((isFree_iff value).mp hfree)

namespace Bound

variable {bound : Bound ExtendedReal} {width : ExtendedReal}

theorem make_eq_ok {lower upper : ExtendedReal} (h : make lower upper = .ok bound) :
    bound = ⟨lower, upper⟩ ∧ lower ≤ upper := by
  unfold make at h
  split at h
  · cases h
  · rename_i hvalid
    simp only [Bool.or_eq_true, decide_eq_true_eq, not_or, Bool.not_eq_true] at hvalid
    cases h
    exact ⟨rfl, ExtendedReal.le_of_not_lt hvalid.1.1 hvalid.1.2 hvalid.2⟩

-- What lies around zero has no negative width.
theorem symmetric_contains_zero (h : make (-width) width = .ok bound) :
    bound.contains (real 0) = true := by
  obtain ⟨rfl, hordered⟩ := make_eq_ok h
  rw [contains_symmetric_iff, abs_zero]
  cases width with
  | real a =>
      rw [ExtendedReal.neg_real, ExtendedReal.le_real] at hordered
      exact (ExtendedReal.le_real 0 a).mpr (by linarith)
  | infinite negative =>
      cases negative with
      | true => exact hordered.elim nofun nofun
      | false => rfl
  | nan => exact hordered

-- How far a value lies outside of a bound that reaches equally far to both sides.
noncomputable def overshoot (width : ExtendedReal) (value : ℝ) : ℝ :=
  match width with
  | real number => max 0 (|value| - number)
  | _ => 0

theorem height_of_make (h : make (-width) width = .ok bound) (value : ℝ) :
    bound.height value = overshoot width value := by
  have hzero := symmetric_contains_zero h
  obtain ⟨rfl, _⟩ := make_eq_ok h
  rw [contains_symmetric_iff, abs_zero] at hzero
  cases width with
  | real number => exact height_symmetric hzero value
  | infinite negative => exact height_of_contains ((contains_symmetric_iff _ value).mpr hzero)
  | nan => exact hzero.elim

theorem halves_contain_zero (h : make (-width / 2.0) (width / 2.0) = .ok bound) :
    bound.contains (real 0) = true := by
  rw [ExtendedReal.neg_half] at h
  exact symmetric_contains_zero h

-- The values that an extent allows: up to half of it, and all of them where it leaves the axis free.
theorem contains_halves_iff {extent : ExtendedReal}
    (h : make (-orInfinite extent / 2.0) (orInfinite extent / 2.0) = .ok bound) (value : ℝ) :
    bound.contains (real value) = true ↔ (extent ≠ real (-1) → real |value| ≤ extent / 2.0) := by
  rw [ExtendedReal.neg_half] at h
  obtain ⟨rfl, _⟩ := make_eq_ok h
  rw [contains_symmetric_iff]
  by_cases hfree : extent = real (-1)
  · rw [hfree, orInfinite_free, ExtendedReal.half_infinite]
    exact ⟨fun _ hother => absurd rfl hother, fun _ => rfl⟩
  · rw [orInfinite_of_ne hfree]
    exact ⟨fun hle _ => hle, fun hle => hle hfree⟩

-- The same for a tolerance, which counts in full.
theorem contains_tolerance_iff {tolerance : ExtendedReal}
    (h : symmetric (orInfinite tolerance) = .ok bound) (value : ℝ) :
    bound.contains (real value) = true ↔ (tolerance ≠ real (-1) → real |value| ≤ tolerance) := by
  obtain ⟨rfl, _⟩ := make_eq_ok h
  rw [contains_symmetric_iff]
  by_cases hfree : tolerance = real (-1)
  · rw [hfree, orInfinite_free]
    exact ⟨fun _ hother => absurd rfl hother, fun _ => rfl⟩
  · rw [orInfinite_of_ne hfree]
    exact ⟨fun hle _ => hle, fun hle => hle hfree⟩

end Bound

-- A rotation that is accepted comes from finite numbers that are not all zero.
theorem exists_of_unitRotation {orientation rotation : Quat ExtendedReal}
    (h : unitRotation orientation = .ok rotation) :
    ∃ q : Quat ℝ, orientation = q.extend ∧ q.norm ≠ 0 ∧ rotation = q.normalize.extend := by
  unfold unitRotation at h
  split at h
  · cases h
  · rename_i hvalid
    simp only [Bool.or_eq_true, Bool.not_eq_true', decide_eq_true_eq, not_or, Bool.not_eq_false] at hvalid
    obtain ⟨length, hlength⟩ := (ExtendedReal.isFinite_iff _).mp hvalid.1
    obtain ⟨q, rfl⟩ := Quat.exists_extend_of_norm hlength
    have hne : q.norm ≠ 0 := by
      intro hzero
      refine hvalid.2 ?_
      rw [Quat.extend_norm, hzero, ExtendedReal.ofScientific_eq, ExtendedReal.lt_real]
      norm_num
    cases h
    exact ⟨q, rfl, hne, (q.extend_normalize hne).symm⟩

theorem Settings.exists_tolerance {settings : Settings ExtendedReal}
    (h : settings.validate = .ok ()) :
    ∃ tolerance : ℝ, 0 < tolerance ∧ settings.tolerance = real tolerance := by
  by_cases hpositive : isPositive settings.tolerance = true
  · simp only [isPositive, Bool.and_eq_true, decide_eq_true_eq] at hpositive
    obtain ⟨tolerance, htolerance⟩ := (ExtendedReal.isFinite_iff _).mp hpositive.1
    rw [htolerance, ExtendedReal.zero_eq, ExtendedReal.lt_real] at hpositive
    exact ⟨tolerance, hpositive.2, htolerance⟩
  · unfold validate at h
    simp only [hpositive] at h
    cases h

-- The extents that ask for equality on their axis.
def Settings.Constrains (settings : Settings ExtendedReal) (extent : ExtendedReal) : Prop :=
  settings.tolerance ≤ extent ∧ extent < settings.equalityThreshold

theorem Settings.asksEquality_iff {settings : Settings ExtendedReal} (hvalid : settings.validate = .ok ())
    {axis : Axis} {extent : ExtendedReal} {asked : Bool}
    (h : settings.asksEquality axis extent = .ok asked) : asked = true ↔ settings.Constrains extent := by
  obtain ⟨tolerance, hpos, htolerance⟩ := settings.exists_tolerance hvalid
  unfold asksEquality at h
  unfold Constrains
  rw [htolerance] at h ⊢
  by_cases hfree : isFree extent = true
  · rw [if_pos hfree] at h
    cases h
    rw [(isFree_iff extent).mp hfree, ExtendedReal.le_real]
    simp only [Bool.false_eq_true, false_iff, not_and]
    intro hle
    linarith
  · rw [if_neg hfree] at h
    split at h
    · cases h
    · rename_i hnumber
      simp only [Bool.or_eq_true, decide_eq_true_eq, not_or, Bool.not_eq_true] at hnumber
      split at h
      · rename_i hthin
        split at h
        · cases h
        · rename_i hreaches
          cases h
          simp only [hthin, and_true, true_iff]
          cases extent with
          | real value => rwa [ExtendedReal.lt_real, not_lt] at hreaches
          | infinite negative => exact Bool.eq_false_iff.mpr hreaches
          | nan => cases hnumber.1
      · rename_i hthick
        cases h
        simp [hthick]

theorem Settings.equalityMask_iff {settings : Settings ExtendedReal} (hvalid : settings.validate = .ok ())
    {extents : Vec3 ExtendedReal} {mask : Vec3 Bool} (h : settings.equalityMask extents = .ok mask)
    (axis : Axis) : mask.get axis = true ↔ settings.Constrains (extents.get axis) :=
  settings.asksEquality_iff hvalid (eq_of_ofAxesM h axis)

-- The points of a line differ, since their distance is at least the tolerance.
theorem Settings.ne_of_far {settings : Settings ExtendedReal} (hvalid : settings.validate = .ok ())
    {start finish : Vec3 ℝ} (hfar : ¬(finish.extend - start.extend).norm < settings.tolerance) :
    start ≠ finish := by
  rintro rfl
  obtain ⟨tolerance, hpos, htolerance⟩ := settings.exists_tolerance hvalid
  refine hfar ?_
  rw [htolerance, ← Vec3.extend_sub, Vec3.extend_norm, ExtendedReal.lt_real]
  have hzero : start - start = .zero := by
    ext <;> simp
  rwa [hzero, (Vec3.norm_eq_zero_iff _).mpr rfl]

-- The box and the first placement of an entry, with the numbers of the placement. Its orientation need
-- not have length one, but is not zero.
structure PositionEntry.Describes (entry : PositionEntry ExtendedReal) (extents : Vec3 ExtendedReal)
    (position : Vec3 ℝ) (orientation : Quat ℝ) : Prop where
  extents : entry.HasExtents extents
  placement : entry.region.placements.head? = some ⟨position.extend, orientation.extend⟩
  direction : orientation.norm ≠ 0

-- A second placement, of which only the position counts.
structure PositionEntry.DescribesLine (entry : PositionEntry ExtendedReal) (extents : Vec3 ExtendedReal)
    (start finish : Vec3 ℝ) (orientation : Quat ℝ) : Prop
    extends entry.Describes extents start orientation where
  second : (entry.region.placements[1]?).map Placement.position = some finish.extend

theorem PositionEntry.describes_box (link : String) (extents : Vec3 ExtendedReal) (position : Vec3 ℝ)
    {orientation : Quat ℝ} (horientation : orientation.norm ≠ 0) :
    (PositionEntry.box link extents ⟨position.extend, orientation.extend⟩).Describes extents position
      orientation :=
  ⟨⟨[], rfl⟩, rfl, horientation⟩

theorem PositionEntry.describesLine_line (link : String) (extents : Vec3 ExtendedReal)
    (start finish : Vec3 ℝ) {orientation : Quat ℝ} (horientation : orientation.norm ≠ 0) :
    (PositionEntry.line link extents start.extend finish.extend orientation.extend).DescribesLine extents
      start finish orientation :=
  ⟨⟨⟨[], rfl⟩, rfl, horientation⟩, rfl⟩

theorem PositionEntry.HasExtents.unique {entry : PositionEntry ExtendedReal}
    {extents extents' : Vec3 ExtendedReal} (h : entry.HasExtents extents) (h' : entry.HasExtents extents') :
    extents = extents' := by
  obtain ⟨further, hbox⟩ := h
  obtain ⟨further', hbox'⟩ := h'
  rw [hbox, Option.some.injEq, Primitive.mk.injEq] at hbox'
  simp only [Vec3.toList, List.cons_append, List.cons.injEq] at hbox'
  exact Vec3.ext hbox'.2.1 hbox'.2.2.1 hbox'.2.2.2.1

theorem PositionEntry.Describes.unique {entry : PositionEntry ExtendedReal}
    {extents extents' : Vec3 ExtendedReal} {position position' : Vec3 ℝ} {orientation orientation' : Quat ℝ}
    (h : entry.Describes extents position orientation)
    (h' : entry.Describes extents' position' orientation') :
    extents = extents' ∧ position = position' ∧ orientation = orientation' := by
  have hplacement := h.placement
  rw [h'.placement, Option.some.injEq, Placement.mk.injEq] at hplacement
  exact ⟨h.extents.unique h'.extents, Vec3.extend_injective hplacement.1.symm,
    Quat.extend_injective hplacement.2.symm⟩

theorem PositionEntry.DescribesLine.unique_line {entry : PositionEntry ExtendedReal}
    {extents extents' : Vec3 ExtendedReal} {start start' finish finish' : Vec3 ℝ}
    {orientation orientation' : Quat ℝ} (h : entry.DescribesLine extents start finish orientation)
    (h' : entry.DescribesLine extents' start' finish' orientation') :
    extents = extents' ∧ start = start' ∧ finish = finish' ∧ orientation = orientation' := by
  obtain ⟨hextents, hstart, horientation⟩ := h.toDescribes.unique h'.toDescribes
  have hfinish := h'.second
  rw [h.second, Option.some.injEq] at hfinish
  exact ⟨hextents, hstart, Vec3.extend_injective hfinish, horientation⟩

-- Every axis allows the target itself.
def AllowZero (bounds : Vec3 (Bound ExtendedReal)) : Prop :=
  ∀ axis, (bounds.get axis).contains (real 0) = true

theorem OrientationEntry.bounds_allowZero {entry : OrientationEntry ExtendedReal}
    {bounds : Vec3 (Bound ExtendedReal)} (h : entry.bounds = .ok bounds) : AllowZero bounds :=
  fun axis => Bound.symmetric_contains_zero (eq_of_ofAxesM h axis)

-- Bounds for a model that does not look at them.
def AllowZero.point : Vec3 (Bound ExtendedReal) := .ofAxes fun _ => ⟨real 0, real 0⟩

theorem AllowZero.of_point : AllowZero point := by
  intro axis
  simp [point, Bound.contains_iff]

namespace ResidualModel

-- A model whose geometry is finite and can be computed with.
structure HasGeometry (model : ResidualModel ExtendedReal) (finite : ResidualModel ℝ)
    (bounds : Vec3 (Bound ExtendedReal)) : Prop where
  eq : model = finite.extend bounds
  regular : finite.IsRegular
  allowZero : AllowZero bounds

theorem exists_of_firstPlacement {entry : PositionEntry ExtendedReal}
    (hfinite : ∀ placement ∈ entry.region.placements,
      ∃ position : Vec3 ℝ, placement.position = position.extend)
    {extents target : Vec3 ExtendedReal} {rotation : Quat ExtendedReal}
    (hextents : entry.HasExtents extents) (h : firstPlacement entry = .ok (target, rotation)) :
    ∃ (position : Vec3 ℝ) (orientation : Quat ℝ), entry.Describes extents position orientation ∧
      target = position.extend ∧ rotation = orientation.normalize.extend := by
  obtain ⟨placement, others, hplacements, rfl, hrotation⟩ := exists_placement h
  obtain ⟨position, hposition⟩ := hfinite placement (by rw [hplacements]; exact List.mem_cons_self)
  obtain ⟨orientation, horientation, hne, rfl⟩ := exists_of_unitRotation hrotation
  refine ⟨position, orientation, ⟨hextents, ?_, hne⟩, hposition, rfl⟩
  rw [hplacements, ← hposition, ← horientation]
  rfl

namespace ReadFrom

variable {settings : Settings ExtendedReal} {description : Description ExtendedReal} {link : String}
  {model : ResidualModel ExtendedReal}

section Positions

variable (hfinite : description.HasFinitePositions)

include hfinite

-- What can be computed with in a model of each kind.
theorem exists_box (h : ReadFrom settings description .boundedPosition link model) :
    ∃ entry extents position orientation bounds, description.positions.head? = some entry ∧
      entry.link = link ∧ entry.Describes extents position orientation ∧
      (∀ axis, Bound.make (-orInfinite (extents.get axis) / 2.0)
        (orInfinite (extents.get axis) / 2.0) = .ok (bounds.get axis)) ∧
      model.HasGeometry (.boundedPosition (.ofAxes fun _ => ⟨0, 0⟩) position orientation.normalize)
        bounds := by
  cases h with
  | box hentry hextents hbounds hplacement =>
      obtain ⟨position, orientation, hdescribes, rfl, rfl⟩ :=
        exists_of_firstPlacement (hfinite _ (List.mem_of_head? hentry)) hextents hplacement
      exact ⟨_, _, position, orientation, _, hentry, rfl, hdescribes, hbounds, rfl,
        Quat.normalize_isUnit hdescribes.direction, fun axis => Bound.halves_contain_zero (hbounds axis)⟩

theorem exists_thinBox (h : ReadFrom settings description .equalityPosition link model) :
    ∃ entry extents position orientation mask, description.positions.head? = some entry ∧
      entry.link = link ∧ entry.Describes extents position orientation ∧
      settings.equalityMask extents = .ok mask ∧
      model.HasGeometry (.equalityPosition mask position orientation.normalize) AllowZero.point := by
  cases h with
  | thinBox hentry hextents hmask hplacement =>
      obtain ⟨position, orientation, hdescribes, rfl, rfl⟩ :=
        exists_of_firstPlacement (hfinite _ (List.mem_of_head? hentry)) hextents hplacement
      exact ⟨_, _, position, orientation, _, hentry, rfl, hdescribes, hmask, rfl,
        Quat.normalize_isUnit hdescribes.direction, AllowZero.of_point⟩

-- The points of a line are far apart by the measure of the settings, whatever that is.
theorem exists_points (h : ReadFrom settings description .linearSystemPosition link model) :
    ∃ entry extents start finish orientation mask, description.positions.head? = some entry ∧
      entry.link = link ∧ entry.DescribesLine extents start finish orientation ∧
      settings.equalityMask extents = .ok mask ∧
      ¬(finish.extend - start.extend).norm < settings.tolerance ∧
      model = .linearSystemPosition mask start.extend finish.extend orientation.normalize.extend := by
  cases h with
  | @line entry extents mask start rotation second hentry hextents hmask hplacement hsecond hfar =>
      have hpositions := hfinite _ (List.mem_of_head? hentry)
      obtain ⟨start, orientation, hdescribes, rfl, rfl⟩ :=
        exists_of_firstPlacement hpositions hextents hplacement
      obtain ⟨finish, hfinish⟩ := hpositions second (List.mem_of_getElem? hsecond)
      rw [hfinish] at hfar ⊢
      refine ⟨_, _, start, finish, orientation, _, hentry, rfl, ⟨hdescribes, ?_⟩, hmask, hfar, rfl⟩
      rw [hsecond, Option.map_some, hfinish]

theorem exists_line (hvalid : settings.validate = .ok ())
    (h : ReadFrom settings description .linearSystemPosition link model) :
    ∃ entry extents start finish orientation mask, description.positions.head? = some entry ∧
      entry.link = link ∧ entry.DescribesLine extents start finish orientation ∧
      settings.equalityMask extents = .ok mask ∧
      model.HasGeometry (.linearSystemPosition mask start finish orientation.normalize)
        AllowZero.point := by
  obtain ⟨entry, extents, start, finish, orientation, mask, hentry, hlink, hline, hmask, hfar, hmodel⟩ :=
    h.exists_points hfinite
  exact ⟨entry, extents, start, finish, orientation, mask, hentry, hlink, hline, hmask, hmodel,
    ⟨Quat.normalize_isUnit hline.direction, settings.ne_of_far hvalid hfar⟩, AllowZero.of_point⟩

end Positions

theorem exists_orientation (h : ReadFrom settings description .orientation link model) :
    ∃ (entry : OrientationEntry ExtendedReal) (orientation : Quat ℝ) (bounds : Vec3 (Bound ExtendedReal)),
      description.orientations.head? = some entry ∧ entry.link = link ∧
      entry.orientation = orientation.extend ∧ orientation.norm ≠ 0 ∧ entry.bounds = .ok bounds ∧
      model.HasGeometry (.orientation (.ofAxes fun _ => ⟨0, 0⟩) orientation.normalize) bounds := by
  cases h with
  | orientation hentry hbounds hrotation =>
      obtain ⟨orientation, horientation, hne, rfl⟩ := exists_of_unitRotation hrotation
      exact ⟨_, orientation, _, hentry, rfl, horientation, hne, hbounds, rfl,
        Quat.normalize_isUnit hne, OrientationEntry.bounds_allowZero hbounds⟩

-- What is made can be computed with, whatever kind it is of.
theorem exists_geometry {kind : Kind} (hvalid : settings.validate = .ok ())
    (hfinite : kind.isPosition = true → description.HasFinitePositions)
    (h : ReadFrom settings description kind link model) :
    ∃ finite bounds, model.HasGeometry finite bounds ∧ finite.kind = kind := by
  cases kind with
  | boundedPosition =>
      obtain ⟨_, _, _, _, _, _, _, _, _, hgeometry⟩ := h.exists_box (hfinite rfl)
      exact ⟨_, _, hgeometry, rfl⟩
  | equalityPosition =>
      obtain ⟨_, _, _, _, _, _, _, _, _, hgeometry⟩ := h.exists_thinBox (hfinite rfl)
      exact ⟨_, _, hgeometry, rfl⟩
  | linearSystemPosition =>
      obtain ⟨_, _, _, _, _, _, _, _, _, _, hgeometry⟩ := h.exists_line (hfinite rfl) hvalid
      exact ⟨_, _, hgeometry, rfl⟩
  | orientation =>
      obtain ⟨_, _, _, _, _, _, _, _, hgeometry⟩ := h.exists_orientation
      exact ⟨_, _, hgeometry, rfl⟩

end ReadFrom

end ResidualModel

-- The same of a constraint on a link of a chain.
theorem Constraint.exists_geometry {chain : Chain ExtendedReal} {kind : Kind}
    {settings : Settings ExtendedReal} {description : Description ExtendedReal}
    {constraint : Constraint ExtendedReal (Scratchpad ExtendedReal)}
    (hmade : (ofKind kind chain.jointGroup settings description).outcome.1 = .ok constraint)
    (hfinite : kind.isPosition = true → description.HasFinitePositions) :
    ∃ finite bounds place, constraint.group = chain.jointGroup ∧
      chain.linkIndex? constraint.link = some place ∧
      constraint.model.HasGeometry finite bounds ∧ finite.kind = kind := by
  obtain ⟨link, model, log, rfl, hvalid, hlink, hmodel⟩ := exists_of_ofKind hmade
  obtain ⟨finite, bounds, hgeometry, hkind⟩ :=
    (ResidualModel.ReadFrom.of_ofDescription hmodel).exists_geometry hvalid hfinite
  obtain ⟨place, hplace⟩ := Option.isSome_iff_exists.mp hlink
  exact ⟨finite, bounds, place, rfl, hplace, hgeometry, hkind⟩

end TaskSpace.Constraints
