import Mathlib
import TaskSpace.Proofs.Comparison
import TaskSpace.Proofs.Constraints.Jacobians
import TaskSpace.Proofs.Constraints.Refusal

namespace TaskSpace.Constraints

open Rigid Kinematics
open ExtendedReal (real infinite)

-- An extent or a tolerance that is at least as large, where -1 counts as larger than every number.
def IsLoosened (value value' : ExtendedReal) : Prop :=
  value' = value ∨ value' = real (-1) ∨ value ≠ real (-1) ∧ value ≤ value'

structure Primitive.IsLoosened (primitive primitive' : Primitive ExtendedReal) : Prop where
  shape : primitive'.shape = primitive.shape
  dimensions : List.Forall₂ Constraints.IsLoosened primitive.dimensions primitive'.dimensions

structure PositionEntry.IsLoosened (entry entry' : PositionEntry ExtendedReal) : Prop where
  link : entry'.link = entry.link
  primitives : List.Forall₂ Primitive.IsLoosened entry.region.primitives entry'.region.primitives
  placements : entry'.region.placements = entry.region.placements

structure OrientationEntry.IsLoosened (entry entry' : OrientationEntry ExtendedReal) : Prop where
  link : entry'.link = entry.link
  orientation : entry'.orientation = entry.orientation
  tolerances : ∀ axis, Constraints.IsLoosened (entry.tolerances.get axis) (entry'.tolerances.get axis)

-- Descriptions that are the same but for their extents and tolerances, none of which gets smaller.
structure Description.IsLoosened (description description' : Description ExtendedReal) : Prop where
  name : description'.name = description.name
  positions : List.Forall₂ PositionEntry.IsLoosened description.positions description'.positions
  orientations :
    List.Forall₂ OrientationEntry.IsLoosened description.orientations description'.orientations

-- The axes that a box or the tolerances around an orientation leave free.
def Description.Frees (description : Description ExtendedReal) (kind : Kind) (axis : Axis) : Prop :=
  match kind with
  | .boundedPosition => ∃ entry extents, description.positions.head? = some entry ∧
      entry.HasExtents extents ∧ extents.get axis = real (-1)
  | .orientation => ∃ entry, description.orientations.head? = some entry ∧
      entry.tolerances.get axis = real (-1)
  | .equalityPosition | .linearSystemPosition => False

section Reading

theorem PositionEntry.IsLoosened.extents {entry entry' : PositionEntry ExtendedReal}
    (h : entry.IsLoosened entry') {extents extents' : Vec3 ExtendedReal} (hextents : entry.HasExtents extents)
    (hextents' : entry'.HasExtents extents') (axis : Axis) :
    Constraints.IsLoosened (extents.get axis) (extents'.get axis) := by
  obtain ⟨further, hbox⟩ := hextents
  obtain ⟨further', hbox'⟩ := hextents'
  have hdimensions := (head?_of_forall₂ h.primitives hbox hbox').dimensions
  simp only [Vec3.toList, List.cons_append, List.forall₂_cons] at hdimensions
  obtain ⟨hx, hy, hz, _⟩ := hdimensions
  cases axis
  · exact hx
  · exact hy
  · exact hz

theorem PositionEntry.IsLoosened.firstPlacement {entry entry' : PositionEntry ExtendedReal}
    (h : entry.IsLoosened entry') :
    ResidualModel.firstPlacement entry' = ResidualModel.firstPlacement entry := by
  rw [ResidualModel.firstPlacement, h.placements, ← ResidualModel.firstPlacement]

theorem Description.IsLoosened.hasFinitePositions {description description' : Description ExtendedReal}
    (h : description.IsLoosened description') (hfinite : description.HasFinitePositions) :
    description'.HasFinitePositions := by
  have hplacements : List.Forall₂ (· = ·) (description.positions.map (·.region.placements))
      (description'.positions.map (·.region.placements)) :=
    List.forall₂_map_left_iff.mpr
      (List.forall₂_map_right_iff.mpr (h.positions.imp fun _ _ hentry => hentry.placements.symm))
  rw [List.forall₂_eq_eq_eq] at hplacements
  intro entry' hentry' placement hplacement
  have hmem : entry'.region.placements ∈ description.positions.map (·.region.placements) :=
    hplacements ▸ List.mem_map_of_mem hentry'
  obtain ⟨entry, hentry, hsame⟩ := List.mem_map.mp hmem
  exact hfinite entry hentry placement (hsame ▸ hplacement)

end Reading

namespace Bound

-- Bounds of which the second one allows whatever the first one does.
structure IsLoosened (bound bound' : Bound ExtendedReal) : Prop where
  allowsZero : bound.contains (real 0) = true
  allowsMore : ∀ value, bound.contains (real value) = true → bound'.contains (real value) = true

variable {bound bound' : Bound ExtendedReal}

theorem IsLoosened.of_halves {extent extent' : ExtendedReal} (h : Constraints.IsLoosened extent extent')
    (hbound : make (-orInfinite extent / 2.0) (orInfinite extent / 2.0) = .ok bound)
    (hbound' : make (-orInfinite extent' / 2.0) (orInfinite extent' / 2.0) = .ok bound') :
    bound.IsLoosened bound' := by
  refine ⟨halves_contain_zero hbound, fun value hvalue => ?_⟩
  rw [contains_halves_iff hbound] at hvalue
  rw [contains_halves_iff hbound']
  intro hne
  obtain rfl | hfree | ⟨hnumber, hle⟩ := h
  · exact hvalue hne
  · exact absurd hfree hne
  · exact LawfulComparison.trans (hvalue hnumber) (ExtendedReal.half_le_half hle)

theorem IsLoosened.of_tolerances {tolerance tolerance' : ExtendedReal}
    (h : Constraints.IsLoosened tolerance tolerance')
    (hbound : symmetric (orInfinite tolerance) = .ok bound)
    (hbound' : symmetric (orInfinite tolerance') = .ok bound') : bound.IsLoosened bound' := by
  refine ⟨symmetric_contains_zero hbound, fun value hvalue => ?_⟩
  rw [contains_tolerance_iff hbound] at hvalue
  rw [contains_tolerance_iff hbound']
  intro hne
  obtain rfl | hfree | ⟨hnumber, hle⟩ := h
  · exact hvalue hne
  · exact absurd hfree hne
  · exact LawfulComparison.trans (hvalue hnumber) hle

theorem IsLoosened.height_le (h : bound.IsLoosened bound') (value : ℝ) :
    bound'.height value ≤ bound.height value := by
  obtain ⟨near, hnear, hway⟩ := (isLeast_height h.allowsZero value).1
  rw [← hway]
  exact (isLeast_height (h.allowsMore 0 h.allowsZero) value).2 ⟨near, h.allowsMore near hnear, rfl⟩

-- What is still outside is outside on the same side.
theorem IsLoosened.tilt_eq (h : bound.IsLoosened bound') (value : ℝ) :
    bound'.tilt value = bound.tilt value ∨ bound'.tilt value = 0 := by
  by_cases hinside : bound'.contains (real value) = true
  · exact Or.inr (tilt_of_contains hinside)
  · have hout : ¬bound.contains (real value) = true := fun hvalue => hinside (h.allowsMore value hvalue)
    rw [tilt_of_not_contains (h.allowsMore 0 h.allowsZero) hinside, tilt_of_not_contains h.allowsZero hout]
    exact Or.inl rfl

theorem IsLoosened.row (h : bound.IsLoosened bound') (value : ℝ) :
    |bound'.height value| ≤ |bound.height value| ∧
      (bound'.tilt value = bound.tilt value ∨ bound'.tilt value = 0) := by
  rw [abs_of_nonneg (height_nonneg h.allowsZero value),
    abs_of_nonneg (height_nonneg (h.allowsMore 0 h.allowsZero) value)]
  exact ⟨h.height_le value, h.tilt_eq value⟩

end Bound

section Masks

variable {settings : Settings ExtendedReal} {extents extents' : Vec3 ExtendedReal} {mask mask' : Vec3 Bool}

-- A larger extent holds its axis only if the smaller one did: the smaller one is not too thin either.
theorem Settings.equalityMask_of_isLoosened (hvalid : settings.validate = .ok ()) {axis : Axis}
    (h : IsLoosened (extents.get axis) (extents'.get axis)) (hmask : settings.equalityMask extents = .ok mask)
    (hmask' : settings.equalityMask extents' = .ok mask') (hheld : mask'.get axis = true) :
    mask.get axis = true := by
  rw [settings.equalityMask_iff hvalid hmask' axis] at hheld
  rw [settings.equalityMask_iff hvalid hmask axis]
  obtain ⟨tolerance, number, htolerance, hnumber, hpos, hreaches⟩ := hheld.exists_real hvalid
  obtain hsame | hfree | ⟨hne, hle⟩ := h
  · rwa [← hsame]
  · rw [hfree, ExtendedReal.real.injEq] at hnumber
    linarith
  · have hmet := (settings.judges_asksEquality hvalid axis _).ok_iff.mp ⟨_, eq_of_ofAxesM hmask axis⟩
    have hthick := (hmet _ (List.mem_cons_of_mem _ List.mem_cons_self)).resolve_left hne
    obtain ⟨_, threshold, _, _, _, hthreshold⟩ := settings.exists_of_validate hvalid
    have hthin := hheld.2
    rw [hnumber, hthreshold, ExtendedReal.lt_real] at hthin
    rw [hnumber] at hle
    refine ⟨hthick, ?_⟩
    rw [hthreshold]
    exact ExtendedReal.lt_of_le_of_lt_real hle hthin

end Masks

namespace ResidualModel

-- Models of which the second one looks at the same error, but holds less of it.
inductive IsLoosened : ResidualModel ExtendedReal → ResidualModel ExtendedReal → Prop
  | box {bounds bounds' : Vec3 (Bound ExtendedReal)} {target : Vec3 ExtendedReal} {rotation : Quat ExtendedReal}
      (h : ∀ axis, (bounds.get axis).IsLoosened (bounds'.get axis)) :
      IsLoosened (.boundedPosition bounds target rotation) (.boundedPosition bounds' target rotation)
  | thinBox {mask mask' : Vec3 Bool} {target : Vec3 ExtendedReal} {rotation : Quat ExtendedReal}
      (h : ∀ axis, mask'.get axis = true → mask.get axis = true) :
      IsLoosened (.equalityPosition mask target rotation) (.equalityPosition mask' target rotation)
  | line {mask mask' : Vec3 Bool} {start finish : Vec3 ExtendedReal} {rotation : Quat ExtendedReal}
      (h : ∀ axis, mask'.get axis = true → mask.get axis = true) :
      IsLoosened (.linearSystemPosition mask start finish rotation)
        (.linearSystemPosition mask' start finish rotation)
  | orientation {bounds bounds' : Vec3 (Bound ExtendedReal)} {rotation : Quat ExtendedReal}
      (h : ∀ axis, (bounds.get axis).IsLoosened (bounds'.get axis)) :
      IsLoosened (.orientation bounds rotation) (.orientation bounds' rotation)

theorem lineRowActive_of_mask {mask mask' : Vec3 Bool} (h : ∀ axis, mask'.get axis = true → mask.get axis = true)
    {row : Axis} (hactive : lineRowActive mask' row = true) : lineRowActive mask row = true := by
  unfold lineRowActive at *
  rw [Bool.or_eq_true] at *
  exact hactive.imp (h _) (h _)

theorem row_of_active {active active' : Bool} (h : active' = true → active = true) (value : ℝ) :
    |if active' then value else 0| ≤ |if active then value else 0| ∧
      ((if active' then (1 : ℝ) else 0) = (if active then 1 else 0) ∨ (if active' then (1 : ℝ) else 0) = 0) := by
  by_cases hactive : active' = true
  · rw [if_pos hactive, if_pos hactive, if_pos (h hactive), if_pos (h hactive)]
    exact ⟨le_rfl, Or.inl rfl⟩
  · rw [if_neg hactive, if_neg hactive, abs_zero]
    exact ⟨abs_nonneg _, Or.inr rfl⟩

namespace IsLoosened

variable {model model' : ResidualModel ExtendedReal} (h : model.IsLoosened model')

include h

theorem error_eq (pose : Pose ExtendedReal) : model'.error pose = model.error pose := by
  cases h <;> rfl

theorem errorJacobian_eq (pose : Pose ExtendedReal) (twists : List (Twist ExtendedReal)) :
    model'.errorJacobian pose twists = model.errorJacobian pose twists := by
  cases h <;> rfl

theorem row (row : Axis) (value : ℝ) : |model'.rowHeight row value| ≤ |model.rowHeight row value| ∧
    (model'.rowTilt row value = model.rowTilt row value ∨ model'.rowTilt row value = 0) := by
  cases h with
  | box h => exact (h row).row value
  | thinBox h => exact row_of_active (h row) value
  | line h => exact row_of_active (lineRowActive_of_mask h) value
  | orientation h => exact (h row).row value

end IsLoosened

namespace ReadFrom

variable {settings : Settings ExtendedReal} {description description' : Description ExtendedReal}
  {kind : Kind} {link link' : String} {model model' : ResidualModel ExtendedReal}

theorem isLoosened (hvalid : settings.validate = .ok ()) (hloosened : description.IsLoosened description')
    (h : ReadFrom settings description kind link model)
    (h' : ReadFrom settings description' kind link' model') : model.IsLoosened model' := by
  cases h with
  | box hentry hextents hbounds hplacement =>
      cases h' with
      | box hentry' hextents' hbounds' hplacement' =>
          have hsame := head?_of_forall₂ hloosened.positions hentry hentry'
          cases (hsame.firstPlacement ▸ hplacement').symm.trans hplacement
          exact .box fun axis =>
            .of_halves (hsame.extents hextents hextents' axis) (hbounds axis) (hbounds' axis)
  | thinBox hentry hextents hmask hplacement =>
      cases h' with
      | thinBox hentry' hextents' hmask' hplacement' =>
          have hsame := head?_of_forall₂ hloosened.positions hentry hentry'
          cases (hsame.firstPlacement ▸ hplacement').symm.trans hplacement
          exact .thinBox fun axis =>
            settings.equalityMask_of_isLoosened hvalid (hsame.extents hextents hextents' axis) hmask hmask'
  | line hentry hextents hmask hplacement hsecond =>
      cases h' with
      | line hentry' hextents' hmask' hplacement' hsecond' =>
          have hsame := head?_of_forall₂ hloosened.positions hentry hentry'
          cases (hsame.firstPlacement ▸ hplacement').symm.trans hplacement
          cases (hsame.placements ▸ hsecond').symm.trans hsecond
          exact .line fun axis =>
            settings.equalityMask_of_isLoosened hvalid (hsame.extents hextents hextents' axis) hmask hmask'
  | orientation hentry hbounds hrotation =>
      cases h' with
      | orientation hentry' hbounds' hrotation' =>
          have hsame := head?_of_forall₂ hloosened.orientations hentry hentry'
          rw [OrientationEntry.rotation, hsame.orientation] at hrotation'
          cases hrotation'.symm.trans hrotation
          exact .orientation fun axis =>
            .of_tolerances (hsame.tolerances axis) (eq_of_ofAxesM hbounds axis) (eq_of_ofAxesM hbounds' axis)

-- On a free axis every value is allowed.
theorem row_of_frees (h : ReadFrom settings description kind link model) {axis : Axis}
    (hfrees : description.Frees kind axis) (value : ℝ) :
    model.rowHeight axis value = 0 ∧ model.rowTilt axis value = 0 := by
  cases h with
  | box hentry hextents hbounds _ =>
      obtain ⟨entry, extents, hfirst, hfirstExtents, hfree⟩ := hfrees
      cases hfirst.symm.trans hentry
      cases hfirstExtents.unique hextents
      have hinside := (Bound.contains_halves_iff (hbounds axis) value).mpr fun hne => absurd hfree hne
      exact ⟨Bound.height_of_contains hinside, Bound.tilt_of_contains hinside⟩
  | orientation hentry hbounds _ =>
      obtain ⟨entry, hfirst, hfree⟩ := hfrees
      cases hfirst.symm.trans hentry
      have hinside := (Bound.contains_tolerance_iff (eq_of_ofAxesM hbounds axis) value).mpr
        fun hne => absurd hfree hne
      exact ⟨Bound.height_of_contains hinside, Bound.tilt_of_contains hinside⟩
  | thinBox | line => exact hfrees.elim

end ReadFrom

end ResidualModel

namespace Constraint

variable {σ : Type} {group : JointGroup ExtendedReal σ} {settings : Settings ExtendedReal}
  {description description' : Description ExtendedReal} {kind : Kind}
  {constraint constraint' : Constraint ExtendedReal σ}

-- The residual and its Jacobian row by row, from an error and its Jacobian that are numbers.
theorem evaluation_eq (hbounds : ∀ bounds ∈ constraint.model.bounds?, AllowZero bounds)
    {pose : Pose ExtendedReal} {twists : List (Twist ExtendedReal)} {error : Vec3 ℝ} {columns : List (Vec3 ℝ)}
    (herror : constraint.model.error pose = error.extend)
    (hcolumns : constraint.model.errorJacobian pose twists = columns.map Vec3.extend) :
    constraint.evaluation pose twists =
      ⟨(Vec3.ofAxes fun row => constraint.model.rowHeight row (error.get row)).extend,
        (columns.map fun column => Vec3.ofAxes fun row =>
          constraint.model.rowTilt row (error.get row) * column.get row).map Vec3.extend⟩ := by
  rw [evaluation, herror, hcolumns, ResidualModel.residual_extend hbounds,
    ResidualModel.residualJacobian_extend hbounds]

-- Where extents and tolerances grow, no row of the residual does, and no row of its Jacobian is changed
-- but to zero. The rows of an axis that is left free are zero.
theorem loosened_never_tightens (hloosened : description.IsLoosened description')
    (hfinite : kind.isPosition = true → description.HasFinitePositions)
    (hmade : (ofKind kind group settings description).outcome.1 = .ok constraint)
    (hmade' : (ofKind kind group settings description').outcome.1 = .ok constraint')
    (pose : Pose ℝ) (twists : List (Twist ℝ)) :
    ∃ (residual residual' : Vec3 ℝ) (columns columns' : List (Vec3 ℝ)),
      constraint.evaluation pose.extend (twists.map Twist.extend) =
        ⟨residual.extend, columns.map Vec3.extend⟩ ∧
      constraint'.evaluation pose.extend (twists.map Twist.extend) =
        ⟨residual'.extend, columns'.map Vec3.extend⟩ ∧
      ∀ row, |residual'.get row| ≤ |residual.get row| ∧
        (columns'.map (·.get row) = columns.map (·.get row) ∨ ∀ column ∈ columns', column.get row = 0) ∧
        (description'.Frees kind row →
          residual'.get row = 0 ∧ ∀ column ∈ columns', column.get row = 0) := by
  obtain ⟨hvalid, hread⟩ := readFrom_of_ofKind hmade
  obtain ⟨_, hread'⟩ := readFrom_of_ofKind hmade'
  obtain ⟨finite, bounds, hgeometry, _⟩ := hread.exists_geometry hvalid hfinite
  obtain ⟨_, _, hgeometry', _⟩ := hread'.exists_geometry hvalid fun hposition =>
    hloosened.hasFinitePositions (hfinite hposition)
  have hmodels := hread.isLoosened hvalid hloosened hread'
  have herror : constraint.model.error pose.extend = (finite.error pose).extend := by
    rw [hgeometry.eq, ← ResidualModel.extend_error bounds hgeometry.regular]
  have hcolumns : constraint.model.errorJacobian pose.extend (twists.map Twist.extend) =
      (finite.errorJacobian pose twists).map Vec3.extend := by
    rw [hgeometry.eq, ← ResidualModel.extend_errorJacobian bounds hgeometry.regular]
  refine ⟨_, _, _, _, evaluation_eq hgeometry.bounds_allowZero herror hcolumns,
    evaluation_eq hgeometry'.bounds_allowZero ((hmodels.error_eq _).trans herror)
      ((hmodels.errorJacobian_eq _ _).trans hcolumns), fun row => ?_⟩
  obtain ⟨hheight, htilt⟩ := hmodels.row row ((finite.error pose).get row)
  simp only [List.map_map, List.forall_mem_map, Function.comp_def, Vec3.get_ofAxes]
  refine ⟨hheight, ?_, fun hfrees => ?_⟩
  · rcases htilt with hsame | hzero
    · rw [hsame]
      exact Or.inl rfl
    · rw [hzero]
      exact Or.inr fun column _ => zero_mul _
  · obtain ⟨hfreeHeight, hfreeTilt⟩ := hread'.row_of_frees hfrees ((finite.error pose).get row)
    rw [hfreeTilt]
    exact ⟨hfreeHeight, fun column _ => zero_mul _⟩

-- Boxes with free axes are accepted too.
theorem exists_openBox (hlink : group.hasLink Robots.toolLink = true) {extents : Vec3 ℝ}
    (hextents : ∀ axis, extents.get axis = -1 ∨ 0 ≤ extents.get axis) :
    ∃ constraint, (ofKind .boundedPosition group .standard
      (.boundedBox Robots.toolLink extents.extend (.zero : Vec3 ℝ).extend)).outcome.1 = .ok constraint := by
  have hunit := Quat.isUnit_identity
  have hbounds : ∀ axis, ∃ bound, Bound.make (-orInfinite (extents.extend.get axis) / 2.0)
      (orInfinite (extents.extend.get axis) / 2.0) = .ok bound := by
    intro axis
    rw [Vec3.extend_get]
    exact (judges_extent _).ok_iff.mpr
      (Requirement.allMet_cons_iff.mpr ⟨(hextents axis).imp (congrArg real) id, Requirement.allMet_nil⟩)
  choose bound hbound using hbounds
  have hentry : (Description.boundedBox Robots.toolLink extents.extend (.zero : Vec3 ℝ).extend).positions.head? =
      some (.box Robots.toolLink extents.extend ⟨(.zero : Vec3 ℝ).extend, (.identity : Quat ℝ).extend⟩) := rfl
  exact ⟨_, ofKind_of_readFrom Settings.validate_standard hlink (.box hentry ⟨[], rfl⟩
    (fun axis => (hbound axis).trans (by rw [Vec3.get_ofAxes]))
    (ResidualModel.firstPlacement_extend (by rw [hunit]; norm_num) rfl))⟩

-- A cube, and a box that is wider along the first axis and open along the third one.
theorem cartesianWrist_openBox_looser :
    let group := (Robots.cartesianWrist : Chain ℝ).extend.jointGroup
    let pose := Pose.ofTranslation (⟨3, 0, 5⟩ : Vec3 ℝ)
    let twists : List (Twist ℝ) := [⟨⟨1, 0, 1⟩, .zero⟩]
    ∃ cube box, (ofKind .boundedPosition group .standard (.boundedBox Robots.toolLink
        (⟨1, 1, 1⟩ : Vec3 ℝ).extend (.zero : Vec3 ℝ).extend)).outcome.1 = .ok cube ∧
      (ofKind .boundedPosition group .standard (.boundedBox Robots.toolLink
        (⟨2, 1, -1⟩ : Vec3 ℝ).extend (.zero : Vec3 ℝ).extend)).outcome.1 = .ok box ∧
      ∃ (residual residual' : Vec3 ℝ) (columns columns' : List (Vec3 ℝ)),
        cube.evaluation pose.extend (twists.map Twist.extend) =
          ⟨residual.extend, columns.map Vec3.extend⟩ ∧
        box.evaluation pose.extend (twists.map Twist.extend) =
          ⟨residual'.extend, columns'.map Vec3.extend⟩ ∧
        |residual'.x| ≤ |residual.x| ∧ residual'.z = 0 ∧ ∀ column ∈ columns', column.z = 0 := by
  intro group pose twists
  have hclosed : ∀ axis, (⟨1, 1, 1⟩ : Vec3 ℝ).get axis = -1 ∨ 0 ≤ (⟨1, 1, 1⟩ : Vec3 ℝ).get axis
    | .x | .y | .z => Or.inr zero_le_one
  have hopen : ∀ axis, (⟨2, 1, -1⟩ : Vec3 ℝ).get axis = -1 ∨ 0 ≤ (⟨2, 1, -1⟩ : Vec3 ℝ).get axis
    | .x => Or.inr zero_le_two
    | .y => Or.inr zero_le_one
    | .z => Or.inl rfl
  obtain ⟨cube, hcube⟩ := exists_openBox (rfl : group.hasLink Robots.toolLink = true) hclosed
  obtain ⟨box, hbox⟩ := exists_openBox (rfl : group.hasLink Robots.toolLink = true) hopen
  have hdimensions : List.Forall₂ Constraints.IsLoosened (⟨1, 1, 1⟩ : Vec3 ℝ).extend.toList
      (⟨2, 1, -1⟩ : Vec3 ℝ).extend.toList := by
    refine .cons (Or.inr (Or.inr ⟨?_, ?_⟩)) (.cons (Or.inl rfl) (.cons (Or.inr (Or.inl rfl)) .nil))
    · norm_num [Vec3.extend]
    · exact (one_le_two : (1 : ℝ) ≤ 2)
  have hloosened : (Description.boundedBox Robots.toolLink (⟨1, 1, 1⟩ : Vec3 ℝ).extend
      (.zero : Vec3 ℝ).extend).IsLoosened (.boundedBox Robots.toolLink (⟨2, 1, -1⟩ : Vec3 ℝ).extend
      (.zero : Vec3 ℝ).extend) :=
    ⟨rfl, .cons ⟨rfl, .cons ⟨rfl, hdimensions⟩ .nil, rfl⟩ .nil, .nil⟩
  obtain ⟨residual, residual', columns, columns', hcolumns, hcolumns', hrows⟩ := loosened_never_tightens
    hloosened (fun _ => Description.hasFinitePositions_boundedBox _ _ _) hcube hbox pose twists
  obtain ⟨hz, hzs⟩ := (hrows .z).2.2 ⟨_, _, rfl, ⟨[], rfl⟩, rfl⟩
  exact ⟨cube, box, hcube, hbox, residual, residual', columns, columns', hcolumns, hcolumns', (hrows .x).1,
    hz, hzs⟩

end Constraint

end TaskSpace.Constraints
