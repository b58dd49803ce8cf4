import Mathlib
import TaskSpace.Proofs.Constraints.Acceptance
import TaskSpace.Proofs.Constraints.Requirement

namespace TaskSpace.Constraints

open Rigid Kinematics Requirement
open ExtendedReal (real infinite)

noncomputable section

def Settings.requirements (settings : Settings ExtendedReal) :
    List (Requirement (ConfigError ExtendedReal)) :=
  [⟨∃ number : ℝ, 0 < number ∧ settings.tolerance = real number,
      .invalidValue "tolerance" (.notPositive settings.tolerance)⟩,
    ⟨∃ number : ℝ, 0 < number ∧ settings.equalityThreshold = real number,
      .invalidValue "equality_threshold" (.notPositive settings.equalityThreshold)⟩,
    ⟨settings.tolerance < settings.equalityThreshold,
      .thresholdOrdering (.equalityThreshold settings.equalityThreshold settings.tolerance)⟩] ++
  match settings.checkerTolerance with
  | none => []
  | some checker =>
    [⟨∃ number : ℝ, 0 ≤ number ∧ checker = real number,
        .invalidValue "checker_tolerance" (.notNonNegative checker)⟩,
      ⟨checker < settings.tolerance, .thresholdOrdering (.checkerTolerance settings.tolerance checker)⟩]

-- An extent or a tolerance leaves its axis free or is a number that is not negative, if without end.
def IsFreeOrNonNegative (value : ExtendedReal) : Prop := value = real (-1) ∨ real 0 ≤ value

def extentRequirements (extent : ExtendedReal) : List (Requirement (ConfigError ExtendedReal)) :=
  [⟨IsFreeOrNonNegative extent, .invalidBound (-extent / 2.0) (extent / 2.0)⟩]

def toleranceRequirements (tolerance : ExtendedReal) : List (Requirement (ConfigError ExtendedReal)) :=
  [⟨IsFreeOrNonNegative tolerance, .invalidBound (-tolerance) tolerance⟩]

-- Where equality can be asked for, an extent that is too thin to be met is a fault of its own.
def Settings.thinExtentRequirements (settings : Settings ExtendedReal) (axis : Axis)
    (extent : ExtendedReal) : List (Requirement (ConfigError ExtendedReal)) :=
  [⟨IsFreeOrNonNegative extent,
      .invalidValue "constraint_region.primitives.dimensions" (.badExtent axis.index extent)⟩,
    ⟨extent = real (-1) ∨ settings.tolerance ≤ extent,
      .dimensionBelowTolerance axis.index extent settings.tolerance settings.equalityThreshold⟩]

-- The requirements on the extents are those on three numbers, once these are there.
def PositionEntry.boxRequirements (entry : PositionEntry ExtendedReal)
    (ofExtent : Axis → ExtendedReal → List (Requirement (ConfigError ExtendedReal))) :
    List (Requirement (ConfigError ExtendedReal)) :=
  match entry.region.primitives with
  | [] => [⟨False, .missingField "constraint_region.primitives"⟩]
  | primitive :: _ =>
    ⟨primitive.shape = .box, .invalidValue "constraint_region.primitives" (.notABox primitive.shape)⟩ ::
      match primitive.dimensions with
      | x :: y :: z :: _ => onAxes fun axis => ofExtent axis ((⟨x, y, z⟩ : Vec3 ExtendedReal).get axis)
      | few =>
        [⟨False, .invalidValue "constraint_region.primitives.dimensions" (.tooFewDimensions few.length)⟩]

def directionRequirements (orientation : Quat ExtendedReal) :
    List (Requirement (ConfigError ExtendedReal)) :=
  [⟨∃ length : ℝ, 1e-12 ≤ length ∧ orientation.norm = real length,
    .invalidValue "orientation" (.noDirection orientation)⟩]

def PositionEntry.placementRequirements (entry : PositionEntry ExtendedReal) :
    List (Requirement (ConfigError ExtendedReal)) :=
  match entry.region.placements with
  | [] => [⟨False, .missingField "constraint_region.primitive_poses"⟩]
  | placement :: _ => directionRequirements placement.orientation

def PositionEntry.lineRequirements (settings : Settings ExtendedReal) (entry : PositionEntry ExtendedReal) :
    List (Requirement (ConfigError ExtendedReal)) :=
  match entry.region.placements with
  | start :: finish :: _ =>
    [⟨¬(finish.position - start.position).norm < settings.tolerance, .degenerateLine⟩]
  | _ => [⟨False, .missingField "constraint_region.primitive_poses[1]"⟩]

-- The name says what a position entry is read as.
def PositionEntry.requirements (settings : Settings ExtendedReal) (name : String)
    (entry : PositionEntry ExtendedReal) : List (Requirement (ConfigError ExtendedReal)) :=
  if name = Kind.equalityTag then
    entry.boxRequirements settings.thinExtentRequirements ++ entry.placementRequirements
  else if name = Kind.linearSystemTag then
    entry.boxRequirements settings.thinExtentRequirements ++ entry.placementRequirements ++
      entry.lineRequirements settings
  else entry.boxRequirements (fun _ extent => extentRequirements extent) ++ entry.placementRequirements

def OrientationEntry.requirements (entry : OrientationEntry ExtendedReal) :
    List (Requirement (ConfigError ExtendedReal)) :=
  onAxes (fun axis => toleranceRequirements (entry.tolerances.get axis)) ++
    directionRequirements entry.orientation

variable {σ : Type}

def linkRequirements (group : JointGroup ExtendedReal σ) (link : String) :
    List (Requirement (ConfigError ExtendedReal)) :=
  [⟨group.hasLink link = true, .unknownLink link⟩]

-- The first entry counts.
def Description.entryRequirements (group : JointGroup ExtendedReal σ) (settings : Settings ExtendedReal)
    (description : Description ExtendedReal) : List (Requirement (ConfigError ExtendedReal)) :=
  match description.positions, description.orientations with
  | entry :: _, _ => entry.requirements settings description.name ++ linkRequirements group entry.link
  | [], entry :: _ => entry.requirements ++ linkRequirements group entry.link
  | [], [] => []

-- What is asked of a description and of the settings, in the order in which it is checked.
def Description.requirements (group : JointGroup ExtendedReal σ) (settings : Settings ExtendedReal)
    (description : Description ExtendedReal) : List (Requirement (ConstraintError ExtendedReal)) :=
  [⟨description.positions ≠ [] ∨ description.orientations ≠ [], .noConstraints⟩,
    ⟨description.positions = [] ∨ description.orientations = [],
      .unsupported "combined position and orientation constraints"⟩] ++
    (settings.requirements ++ description.entryRequirements group settings).map
      (mapFault ConstraintError.config)

end

section Values

variable {value : ExtendedReal}

theorem Settings.not_isPositive_iff :
    (!isPositive value) = true ↔ ¬∃ number : ℝ, 0 < number ∧ value = real number := by
  cases value with
  | real number => simp [isPositive]
  | infinite negative => simp [isPositive]
  | nan => simp [isPositive]

theorem Settings.not_isNonNegative_iff :
    (!isNonNegative value) = true ↔ ¬∃ number : ℝ, 0 ≤ number ∧ value = real number := by
  cases value with
  | real number => simp [isNonNegative]
  | infinite negative => simp [isNonNegative]
  | nan => simp [isNonNegative]

-- What is refused of the ends of a bound around zero: a width that is negative or no number.
theorem Bound.judges_make_neg {width : ExtendedReal} {met : Prop} {fault : ConfigError ExtendedReal}
    (hmet : met ↔ real 0 ≤ width) (hfault : ¬met → fault = .invalidBound (-width) width) :
    Judges [⟨met, fault⟩] (make (-width) width) := by
  have hrefused : (ExtendedScalar.isNaN (-width) || ExtendedScalar.isNaN width ||
      decide (width < -width)) = true ↔ ¬met := by
    rw [hmet]
    cases width with
    | real number => simp
    | infinite negative => simp
    | nan => simp [ExtendedReal.not_real_le_nan]
  refine .cons (fun hunmet => ?_) fun h => ?_
  · rw [hfault hunmet]
    exact if_pos (hrefused.mpr hunmet)
  · rw [make, if_neg fun hother => hrefused.mp hother h]
    exact .ok

theorem Bound.half_nonneg_iff (width : ExtendedReal) : real 0 ≤ width / 2.0 ↔ real 0 ≤ width := by
  cases width with
  | real number =>
      rw [ExtendedReal.half_real, ExtendedReal.le_real, ExtendedReal.le_real, Scalar.real_two]
      constructor <;> intro h <;> linarith
  | infinite negative => rw [ExtendedReal.half_infinite]
  | nan => exact Iff.rfl

theorem judges_extent (extent : ExtendedReal) : Judges (extentRequirements extent)
    (Bound.make (-orInfinite extent / 2.0) (orInfinite extent / 2.0)) := by
  rw [ExtendedReal.neg_half]
  by_cases hfree : extent = real (-1)
  · refine Bound.judges_make_neg ?_ fun h => absurd (Or.inl hfree) h
    rw [hfree, orInfinite_free, ExtendedReal.half_infinite]
    exact iff_of_true (Or.inl rfl) rfl
  · rw [orInfinite_of_ne hfree]
    refine Bound.judges_make_neg ?_ fun _ => by rw [ExtendedReal.neg_half]
    rw [IsFreeOrNonNegative, or_iff_right hfree, Bound.half_nonneg_iff]

theorem judges_tolerance (tolerance : ExtendedReal) :
    Judges (toleranceRequirements tolerance) (Bound.symmetric (orInfinite tolerance)) := by
  by_cases hfree : tolerance = real (-1)
  · refine Bound.judges_make_neg ?_ fun h => absurd (Or.inl hfree) h
    rw [hfree, orInfinite_free]
    exact iff_of_true (Or.inl rfl) rfl
  · rw [orInfinite_of_ne hfree]
    exact Bound.judges_make_neg (or_iff_right hfree) fun _ => rfl

end Values

theorem Settings.judges_validate (settings : Settings ExtendedReal) :
    Judges settings.requirements settings.validate := by
  unfold requirements validate
  refine .guard not_isPositive_iff fun htolerance => ?_
  refine .guard not_isPositive_iff fun hthreshold => ?_
  obtain ⟨tolerance, _, htolerance⟩ := htolerance
  obtain ⟨threshold, _, hthreshold⟩ := hthreshold
  refine .guard (by simp [htolerance, hthreshold]) fun _ => ?_
  cases settings.checkerTolerance with
  | none => exact .ok
  | some checker =>
      refine .guard not_isNonNegative_iff fun hchecker => ?_
      obtain ⟨number, _, rfl⟩ := hchecker
      rw [htolerance]
      exact .guard_last (by simp)

theorem Settings.exists_of_validate {settings : Settings ExtendedReal} (h : settings.validate = .ok ()) :
    ∃ tolerance threshold : ℝ, 0 < tolerance ∧ tolerance < threshold ∧
      settings.tolerance = real tolerance ∧ settings.equalityThreshold = real threshold := by
  have hmet := (settings.judges_validate.ok_iff).mp ⟨(), h⟩
  simp only [requirements, List.cons_append, allMet_cons_iff] at hmet
  obtain ⟨⟨tolerance, hpos, htolerance⟩, ⟨threshold, _, hthreshold⟩, hordered, _⟩ := hmet
  rw [htolerance, hthreshold, ExtendedReal.lt_real] at hordered
  exact ⟨tolerance, threshold, hpos, hordered, htolerance, hthreshold⟩

-- An extent that asks for equality is a number that reaches the tolerance.
theorem Settings.Constrains.exists_real {settings : Settings ExtendedReal} {extent : ExtendedReal}
    (hvalid : settings.validate = .ok ()) (h : settings.Constrains extent) :
    ∃ tolerance number : ℝ, settings.tolerance = real tolerance ∧ extent = real number ∧
      0 < tolerance ∧ tolerance ≤ number := by
  obtain ⟨tolerance, threshold, hpos, _, htolerance, hthreshold⟩ := settings.exists_of_validate hvalid
  obtain ⟨hreaches, hthin⟩ := h
  rw [htolerance] at hreaches
  rw [hthreshold] at hthin
  cases extent with
  | real number => exact ⟨tolerance, number, htolerance, rfl, hpos, hreaches⟩
  | infinite negative =>
      rw [ExtendedReal.real_le_infinite] at hreaches
      rw [ExtendedReal.infinite_lt_real, hreaches] at hthin
      cases hthin
  | nan => exact (ExtendedReal.not_real_le_nan _ hreaches).elim

section Entries

variable {settings : Settings ExtendedReal} {log : List (Event ExtendedReal)}

theorem Settings.judges_asksEquality (hvalid : settings.validate = .ok ()) (axis : Axis)
    (extent : ExtendedReal) :
    Judges (settings.thinExtentRequirements axis extent) (settings.asksEquality axis extent) := by
  obtain ⟨tolerance, threshold, hpos, hordered, htolerance, hthreshold⟩ := exists_of_validate hvalid
  unfold thinExtentRequirements asksEquality
  by_cases hfree : extent = real (-1)
  · rw [if_pos ((isFree_iff extent).mpr hfree)]
    refine .cons (fun hunmet => absurd (Or.inl hfree) hunmet) fun _ => ?_
    exact .cons (fun hunmet => absurd (Or.inl hfree) hunmet) fun _ => .ok
  · rw [if_neg fun h => hfree ((isFree_iff extent).mp h), IsFreeOrNonNegative, or_iff_right hfree,
      or_iff_right hfree, htolerance, hthreshold]
    cases extent with
    | real number =>
        simp only [ExtendedReal.isNaN_real, ExtendedReal.zero_eq, ExtendedReal.lt_real, ExtendedReal.le_real,
          Bool.false_or, decide_eq_true_eq]
        refine .cons (fun hunmet => if_pos (not_le.mp hunmet)) fun hnonneg => ?_
        rw [if_neg (not_lt.mpr hnonneg)]
        refine .cons (fun hunmet => ?_) fun hreaches => ?_
        · have hthin := not_le.mp hunmet
          rw [if_pos (hthin.trans hordered), if_pos hthin]
        · rw [if_neg (not_lt.mpr hreaches)]
          split <;> exact .ok
    | infinite negative =>
        simp only [ExtendedReal.isNaN_infinite, ExtendedReal.zero_eq, ExtendedReal.infinite_lt_real,
          ExtendedReal.real_le_infinite, Bool.false_or, decide_eq_true_eq]
        cases negative with
        | true => exact .cons (fun _ => if_pos rfl) fun hmet => absurd hmet.symm Bool.false_ne_true
        | false => exact .cons (absurd rfl) fun _ => .cons (absurd rfl) fun _ => .ok
    | nan => exact .cons (fun _ => if_pos rfl) fun hmet => absurd hmet (ExtendedReal.not_real_le_nan 0)

theorem PositionEntry.judges_boxExtents {β : Type} {entry : PositionEntry ExtendedReal}
    {ofExtent : Axis → ExtendedReal → List (Requirement (ConfigError ExtendedReal))}
    {next : Vec3 ExtendedReal → Logged ExtendedReal (ConfigError ExtendedReal) β}
    (hnext : ∀ extents log, Judges (onAxes fun axis => ofExtent axis (extents.get axis))
      (Query.answer (next extents) log)) :
    Judges (entry.boxRequirements ofExtent) (Query.answer (entry.boxExtents >>= next) log) := by
  rw [Query.answer_bind, answer_boxExtents]
  unfold boxRequirements
  cases entry.region.primitives with
  | nil => exact .cons (fun _ => rfl) False.elim
  | cons primitive others =>
      refine .cons (fun hshape => ?_) fun hshape => ?_
      · simp only [if_pos hshape]
        rfl
      · simp only [if_neg (not_not.mpr hshape)]
        rcases primitive.dimensions with _ | ⟨x, _ | ⟨y, _ | ⟨z, rest⟩⟩⟩
        · exact .cons (fun _ => rfl) False.elim
        · exact .cons (fun _ => rfl) False.elim
        · exact .cons (fun _ => rfl) False.elim
        · exact hnext _ _

theorem PositionEntry.judges_bounds (entry : PositionEntry ExtendedReal) :
    Judges (entry.boxRequirements fun _ extent => extentRequirements extent)
      (Query.answer entry.bounds log) := by
  unfold bounds
  refine judges_boxExtents fun extents log => .query_ofAxesM (fun axis storage => ?_) log
  rw [Query.answer_lift, Vec3.get_map]
  exact judges_extent _

theorem OrientationEntry.judges_bounds (entry : OrientationEntry ExtendedReal) :
    Judges (onAxes fun axis => toleranceRequirements (entry.tolerances.get axis)) entry.bounds :=
  .ofAxesM fun _ => judges_tolerance _

theorem judges_unitRotation (orientation : Quat ExtendedReal) :
    Judges (directionRequirements orientation) (unitRotation orientation) := by
  refine .guard_last ?_
  cases orientation.norm with
  | real length => simp
  | infinite negative => simp
  | nan => simp

namespace ResidualModel

theorem judges_firstPlacement (entry : PositionEntry ExtendedReal) :
    Judges entry.placementRequirements (firstPlacement entry) := by
  unfold PositionEntry.placementRequirements firstPlacement
  cases entry.region.placements with
  | nil => exact .cons (fun _ => rfl) False.elim
  | cons placement others => exact (judges_unitRotation placement.orientation).map _

theorem judges_readMask (hvalid : settings.validate = .ok ()) (entry : PositionEntry ExtendedReal) :
    Judges (entry.boxRequirements settings.thinExtentRequirements)
      (Query.answer (readMask settings entry) log) := by
  refine PositionEntry.judges_boxExtents fun extents log => .query_then ?_ fun mask log => ⟨mask, ?_⟩
  · rw [Query.answer_lift]
    exact .ofAxesM fun axis => settings.judges_asksEquality hvalid axis _
  · rw [Query.answer_bind_of_ok (answer_reportMask mask log)]
    rfl

theorem judges_ofBox (entry : PositionEntry ExtendedReal) :
    Judges (entry.boxRequirements (fun _ extent => extentRequirements extent) ++
      entry.placementRequirements) (Query.answer (ofBox entry) log) := by
  unfold ofBox
  rw [Query.answer_bind_of_ok (answer_report _ _)]
  refine entry.judges_bounds.query_bind fun bounds log _ => ?_
  rw [Query.answer_bind_of_ok (answer_reports _ _)]
  refine .query_then ?_ fun _ _ => ⟨_, rfl⟩
  rw [Query.answer_lift]
  exact judges_firstPlacement entry

theorem judges_ofThinBox (hvalid : settings.validate = .ok ()) (entry : PositionEntry ExtendedReal) :
    Judges (entry.boxRequirements settings.thinExtentRequirements ++ entry.placementRequirements)
      (Query.answer (ofThinBox settings entry) log) := by
  unfold ofThinBox
  rw [Query.answer_bind_of_ok (answer_report _ _)]
  refine (judges_readMask hvalid entry).query_bind fun mask log _ => ?_
  refine .query_then ?_ fun _ _ => ⟨_, rfl⟩
  rw [Query.answer_lift]
  exact judges_firstPlacement entry

theorem judges_ofLine (hvalid : settings.validate = .ok ()) (entry : PositionEntry ExtendedReal) :
    Judges (entry.boxRequirements settings.thinExtentRequirements ++ entry.placementRequirements ++
      entry.lineRequirements settings) (Query.answer (ofLine settings entry) log) := by
  have hplacement : ∀ log : List (Event ExtendedReal), Judges entry.placementRequirements
      (Query.answer (liftM (firstPlacement entry) : Logged ExtendedReal (ConfigError ExtendedReal) _) log) := by
    intro log
    rw [Query.answer_lift]
    exact judges_firstPlacement entry
  unfold ofLine
  rw [Query.answer_bind_of_ok (answer_report _ _), List.append_assoc]
  refine (judges_readMask hvalid entry).query_bind fun mask log _ => ?_
  refine (hplacement log).query_bind fun (start, rotation) log hfirst => ?_
  rw [Query.answer_lift] at hfirst
  obtain ⟨first, others, hplacements, rfl, _⟩ := exists_placement hfirst
  unfold PositionEntry.lineRequirements
  rw [hplacements]
  cases others with
  | nil => exact .cons (fun _ => rfl) False.elim
  | cons second further => exact .query_guard not_not.symm fun _ => .ok

theorem judges_ofOrientation (entry : OrientationEntry ExtendedReal) :
    Judges entry.requirements (Query.answer (ofOrientation entry) log) := by
  unfold ofOrientation
  rw [Query.answer_bind_of_ok (answer_report _ _)]
  refine Judges.query_bind ?_ fun bounds log _ => ?_
  · rw [Query.answer_lift]
    exact entry.judges_bounds
  · rw [Query.answer_bind_of_ok (answer_reports _ _)]
    refine .query_then ?_ fun _ _ => ⟨_, rfl⟩
    rw [Query.answer_lift]
    exact judges_unitRotation entry.orientation

variable {description : Description ExtendedReal}

-- The link of the first entry goes with its model.
theorem judges_ofDescription_position (hvalid : settings.validate = .ok ())
    {entry : PositionEntry ExtendedReal} {others : List (PositionEntry ExtendedReal)}
    (hfirst : description.positions = entry :: others) :
    Judges (entry.requirements settings description.name)
      (Query.answer (ofDescription (.ofPositionTag description.name) settings description) log) := by
  unfold PositionEntry.requirements
  by_cases hequality : description.name = Kind.equalityTag
  · rw [if_pos hequality, hequality, Kind.ofPositionTag_equalityTag, ofDescription,
      Query.answer_bind_of_ok (answer_firstOf hfirst _)]
    exact (judges_ofThinBox hvalid entry).query_then fun _ _ => ⟨_, rfl⟩
  · rw [if_neg hequality]
    by_cases hline : description.name = Kind.linearSystemTag
    · rw [if_pos hline, hline, Kind.ofPositionTag_linearSystemTag, ofDescription,
        Query.answer_bind_of_ok (answer_firstOf hfirst _)]
      exact (judges_ofLine hvalid entry).query_then fun _ _ => ⟨_, rfl⟩
    · rw [if_neg hline, Kind.ofPositionTag_of_ne hequality hline, ofDescription,
        Query.answer_bind_of_ok (answer_firstOf hfirst _)]
      exact (judges_ofBox entry).query_then fun _ _ => ⟨_, rfl⟩

theorem judges_ofDescription_orientation {entry : OrientationEntry ExtendedReal}
    {others : List (OrientationEntry ExtendedReal)} (hfirst : description.orientations = entry :: others) :
    Judges entry.requirements (Query.answer (ofDescription .orientation settings description) log) := by
  rw [ofDescription, Query.answer_bind_of_ok (answer_firstOf hfirst _)]
  exact (judges_ofOrientation entry).query_then fun _ _ => ⟨_, rfl⟩

variable {kind : Kind} {link : String} {model : ResidualModel ExtendedReal}

omit log in
theorem ReadFrom.link_position (h : ReadFrom settings description kind link model)
    (hkind : kind ≠ .orientation) {entry : PositionEntry ExtendedReal}
    {others : List (PositionEntry ExtendedReal)} (hfirst : description.positions = entry :: others) :
    link = entry.link := by
  have hlink : ∀ {other : PositionEntry ExtendedReal},
      description.positions.head? = some other → other.link = entry.link := by
    intro other hentry
    rw [hfirst, List.head?_cons, Option.some.injEq] at hentry
    rw [hentry]
  cases h with
  | box hentry => exact hlink hentry
  | thinBox hentry => exact hlink hentry
  | line hentry => exact hlink hentry
  | orientation => exact absurd rfl hkind

omit log in
theorem ReadFrom.link_orientation (h : ReadFrom settings description .orientation link model)
    {entry : OrientationEntry ExtendedReal} {others : List (OrientationEntry ExtendedReal)}
    (hfirst : description.orientations = entry :: others) : link = entry.link := by
  cases h with
  | orientation hentry =>
      rw [hfirst, List.head?_cons, Option.some.injEq] at hentry
      rw [hentry]

end ResidualModel

end Entries

namespace Constraint

variable {σ : Type} (group : JointGroup ExtendedReal σ) (settings : Settings ExtendedReal)
  (description : Description ExtendedReal)

-- The settings come before the description, and the link after it.
theorem judges_ofKind {kind : Kind} {link : String}
    {requirements : List (Requirement (ConfigError ExtendedReal))}
    (hmodel : settings.validate = .ok () → ∀ log, Judges requirements
      (Query.answer (ResidualModel.ofDescription kind settings description) log))
    (hlink : ∀ {other model log}, Query.answer
      (ResidualModel.ofDescription kind settings description) log = .ok (other, model) → other = link)
    (log : List (Event ExtendedReal)) :
    Judges ((settings.requirements ++ (requirements ++ linkRequirements group link)).map
      (mapFault ConstraintError.config)) (Query.answer (ofKind kind group settings description) log) := by
  unfold ofKind
  rw [Query.answer_adapt]
  refine Judges.mapError (Judges.query_bind ?_ fun _ log hvalid => ?_) _
  · rw [Query.answer_lift]
    exact settings.judges_validate
  · rw [Query.answer_lift] at hvalid
    refine (hmodel hvalid log).query_bind fun (other, model) log hread => ?_
    rw [hlink hread]
    refine .query_guard (by simp) fun _ => ?_
    rw [Query.answer_bind_of_ok (answer_report _ _)]
    exact .ok

theorem judges_create (log : List (Event ExtendedReal)) :
    Judges (description.requirements group settings)
      (Query.answer (create group description settings) log) := by
  have hselect := description.answer_selectKind
  unfold Description.requirements Description.entryRequirements
  rcases hpositions : description.positions with _ | ⟨entry, others⟩
  · rcases horientations : description.orientations with _ | ⟨entry, others⟩
    · simp only [hpositions, horientations] at hselect
      refine .cons (fun _ => ?_) (by simp)
      rw [create, Query.answer_bind, hselect]
      rfl
    · simp only [hpositions, horientations] at hselect
      obtain ⟨log', hcreate⟩ := answer_create group settings description hselect log
      rw [hcreate]
      refine .cons (by simp) fun _ => .cons (by simp) fun _ => ?_
      exact judges_ofKind group settings description
        (fun _ log => ResidualModel.judges_ofDescription_orientation horientations)
        (fun hread => (ResidualModel.ReadFrom.of_ofDescription hread).link_orientation horientations) log'
  · rcases horientations : description.orientations with _ | ⟨orientation, others'⟩
    · simp only [hpositions, horientations] at hselect
      obtain ⟨log', hcreate⟩ := answer_create group settings description hselect log
      rw [hcreate]
      refine .cons (by simp) fun _ => .cons (by simp) fun _ => ?_
      exact judges_ofKind group settings description
        (fun hvalid log => ResidualModel.judges_ofDescription_position hvalid hpositions)
        (fun hread => (ResidualModel.ReadFrom.of_ofDescription hread).link_position
          (Kind.ofPositionTag_ne_orientation _) hpositions) log'
    · simp only [hpositions, horientations] at hselect
      refine .cons (by simp) fun _ => .cons (fun _ => ?_) (by simp)
      rw [create, Query.answer_bind, hselect]
      rfl

-- A constraint is made exactly if everything that is asked for holds; otherwise the first thing that
-- does not is what is said to be wrong.
theorem create_judged :
    ((∃ constraint, (create group description settings).outcome.1 = .ok constraint) ↔
      AllMet (description.requirements group settings)) ∧
    ∀ error, (create group description settings).outcome.1 = .error error ↔
      FirstFault (description.requirements group settings) error :=
  have hjudges := judges_create group settings description []
  ⟨hjudges.ok_iff, hjudges.error_iff⟩

end Constraint

end TaskSpace.Constraints
