import Mathlib
import TaskSpace.Proofs.Halves
import TaskSpace.Proofs.Constraints.Relevance
import TaskSpace.Proofs.Constraints.Refusal
import TaskSpace.Proofs.Constraints.Satisfaction

namespace TaskSpace.Constraints

open Rigid Kinematics
open ExtendedReal (real infinite)

-- The same request under another name.
def Description.named {α : Type} (description : Description α) (name : String) : Description α :=
  { description with name := name }

-- Two constraints on one link and with one target.
structure Constraint.SharesTarget {α σ : Type} (first second : Constraint α σ) : Prop where
  link : first.link = second.link
  position : first.model.targetPosition? = second.model.targetPosition?
  orientation : first.model.targetOrientation = second.model.targetOrientation

section Acceptance

variable {α σ : Type} [ExtendedScalar α]

-- What is free, or a number that is not negative, has a half on each side of zero.
theorem Bound.exists_halves [LawfulHalving α] {extent : α}
    (h : isFree extent = true ∨ ExtendedScalar.isNaN extent = false ∧ ¬extent < 0) :
    ∃ bound, make (-orInfinite extent / 2.0) (orInfinite extent / 2.0) = .ok bound := by
  have hwidth : ExtendedScalar.isNaN (orInfinite extent) = false ∧ ¬orInfinite extent < 0 := by
    unfold orInfinite
    split
    · exact ⟨LawfulHalving.isNaN_infinity, LawfulHalving.infinity_nonneg⟩
    · rename_i hfree
      exact h.resolve_left hfree
  obtain ⟨hnumber, hnonneg⟩ := hwidth
  have hvalid : ¬(ExtendedScalar.isNaN (-orInfinite extent / 2.0) ||
      ExtendedScalar.isNaN (orInfinite extent / 2.0) ||
      decide (orInfinite extent / 2.0 < -orInfinite extent / 2.0)) = true := by
    rw [LawfulHalving.isNaN_neg_half hnumber hnonneg, LawfulHalving.isNaN_half hnumber hnonneg,
      decide_eq_false (LawfulHalving.halves_ordered hnumber hnonneg)]
    exact Bool.false_ne_true
  exact ⟨_, if_neg hvalid⟩

-- What an extent is that passes where equality can be asked for.
theorem Settings.extent_of_asksEquality {settings : Settings α} {axis : Axis} {extent : α} {asked : Bool}
    (h : settings.asksEquality axis extent = .ok asked) :
    isFree extent = true ∨ ExtendedScalar.isNaN extent = false ∧ ¬extent < 0 := by
  unfold asksEquality at h
  split at h
  · rename_i hfree
    exact Or.inl hfree
  · split at h
    · cases h
    · rename_i hnumber
      simp only [Bool.or_eq_true, decide_eq_true_eq, not_or, Bool.not_eq_true] at hnumber
      exact Or.inr hnumber

namespace ResidualModel.ReadFrom

variable {settings : Settings α} {description : Description α} {link : String} {model : ResidualModel α}

-- A line is read from the parts of a thin box and one position more.
theorem exists_thinBox_of_line (h : ReadFrom settings description .linearSystemPosition link model) :
    ∃ flat, ReadFrom settings description .equalityPosition link flat ∧ flat.mask? = model.mask? ∧
      flat.targetPosition? = model.targetPosition? ∧
      flat.targetOrientation = model.targetOrientation := by
  cases h with
  | line hentry hextents hmask hplacement => exact ⟨_, .thinBox hentry hextents hmask hplacement, rfl, rfl, rfl⟩

-- The extents of a thin box are also those of a box.
theorem exists_box_of_thinBox [LawfulHalving α]
    (h : ReadFrom settings description .equalityPosition link model) :
    ∃ thick, ReadFrom settings description .boundedPosition link thick ∧
      thick.targetPosition? = model.targetPosition? ∧
      thick.targetOrientation = model.targetOrientation := by
  cases h with
  | @thinBox entry extents mask target rotation hentry hextents hmask hplacement =>
      have hbounds : ∀ axis, ∃ bound, Bound.make (-orInfinite (extents.get axis) / 2.0)
          (orInfinite (extents.get axis) / 2.0) = .ok bound := fun axis =>
        Bound.exists_halves (Settings.extent_of_asksEquality (eq_of_ofAxesM hmask axis))
      choose bound hbound using hbounds
      refine ⟨.boundedPosition (.ofAxes bound) target rotation, ?_, rfl, rfl⟩
      exact .box hentry hextents (fun axis => by rw [hbound, Vec3.get_ofAxes]) hplacement

end ResidualModel.ReadFrom

theorem ResidualModel.ReadFrom.kind_eq {settings : Settings α} {description : Description α} {kind : Kind}
    {link : String} {model : ResidualModel α} (h : ReadFrom settings description kind link model) :
    model.kind = kind := by
  cases h <;> rfl

namespace Constraint

variable {group : JointGroup α σ} {settings : Settings α} {description : Description α}

-- Without orientation entries the name alone says which kind is made.
theorem create_named {name : String} (horientations : description.orientations = [])
    (hpositions : description.positions ≠ []) :
    (create group (description.named name) settings).outcome.1 =
      (ofKind (.ofPositionTag name) group settings description).outcome.1 := by
  have hkind : ∀ log, Query.answer (description.named name).selectKind log = .ok (.ofPositionTag name) := by
    intro log
    obtain ⟨entry, others, hentries⟩ := List.exists_cons_of_ne_nil hpositions
    rw [Description.answer_selectKind]
    simp only [Description.named, hentries, horientations]
  obtain ⟨log, hcreate⟩ := answer_create group settings (description.named name) hkind []
  exact hcreate.trans (answeredAlike_ofKind rfl group settings log [])

theorem positions_ne_nil_of_create {constraint : Constraint α σ} {name : String}
    (horientations : description.orientations = [])
    (h : (create group (description.named name) settings).outcome.1 = .ok constraint) :
    description.positions ≠ [] := by
  intro hpositions
  have hselect : Query.answer (description.named name).selectKind [] = .error .noConstraints := by
    rw [Description.answer_selectKind]
    simp only [Description.named, hpositions, horientations]
  change Query.answer (create group (description.named name) settings) [] = _ at h
  rw [create, Query.answer_bind, hselect] at h
  cases h

-- What is accepted as a line is accepted as a thin box.
theorem exists_flat_of_line {line : Constraint α σ}
    (h : (ofKind .linearSystemPosition group settings description).outcome.1 = .ok line) :
    ∃ flat, (ofKind .equalityPosition group settings description).outcome.1 = .ok flat ∧
      flat.kind = .equalityPosition ∧ flat.SharesTarget line ∧ flat.model.mask? = line.model.mask? := by
  obtain ⟨link, model, _, rfl, hvalid, hlink, hmodel⟩ := exists_of_ofKind h
  obtain ⟨flat, hflat, hmask, hposition, horientation⟩ :=
    (ResidualModel.ReadFrom.of_ofDescription hmodel).exists_thinBox_of_line
  exact ⟨_, ofKind_of_readFrom hvalid hlink hflat, hflat.kind_eq, ⟨rfl, hposition, horientation⟩, hmask⟩

-- And what is accepted as a thin box is accepted as a thick one.
theorem exists_thick_of_flat [LawfulHalving α] {flat : Constraint α σ}
    (h : (ofKind .equalityPosition group settings description).outcome.1 = .ok flat) :
    ∃ thick, (ofKind .boundedPosition group settings description).outcome.1 = .ok thick ∧
      thick.kind = .boundedPosition ∧ thick.SharesTarget flat := by
  obtain ⟨link, model, _, rfl, hvalid, hlink, hmodel⟩ := exists_of_ofKind h
  obtain ⟨thick, hthick, hposition, horientation⟩ :=
    (ResidualModel.ReadFrom.of_ofDescription hmodel).exists_box_of_thinBox
  exact ⟨_, ofKind_of_readFrom hvalid hlink hthick, hthick.kind_eq, ⟨rfl, hposition, horientation⟩⟩

end Constraint

end Acceptance

section Thickness

-- The penalty of a box of a given extent, which lies to one half on each side.
theorem Bound.height_halves {extent : ℝ} (hextent : 0 ≤ extent) {bound : Bound ExtendedReal}
    (h : make (-orInfinite (real extent) / 2.0) (orInfinite (real extent) / 2.0) = .ok bound) (value : ℝ) :
    bound.height value = max 0 (|value| - extent / 2.0) := by
  rw [ExtendedReal.neg_half, orInfinite_real hextent, ExtendedReal.half_real] at h
  exact height_of_make h value

-- A row of a thick box beside that of the thin box with the same parts.
theorem ResidualModel.rowHeight_thick {settings : Settings ExtendedReal} (hvalid : settings.validate = .ok ())
    {extents : Vec3 ExtendedReal} {mask : Vec3 Bool} (hmask : settings.equalityMask extents = .ok mask)
    {bounds : Vec3 (Bound ExtendedReal)}
    (hbounds : ∀ axis, Bound.make (-orInfinite (extents.get axis) / 2.0)
      (orInfinite (extents.get axis) / 2.0) = .ok (bounds.get axis))
    {flat thick : ResidualModel ExtendedReal} {position : Vec3 ℝ} {rotation : Quat ℝ}
    {point : Vec3 (Bound ExtendedReal)} {zeros : Vec3 (Bound ℝ)}
    (hflat : flat.HasGeometry (.equalityPosition mask position rotation) point)
    (hthick : thick.HasGeometry (.boundedPosition zeros position rotation) bounds) {axis : Axis}
    (hheld : mask.get axis = true) (pose : Pose ℝ) :
    ∃ tolerance extent : ℝ, settings.tolerance = real tolerance ∧ extents.get axis = real extent ∧
      tolerance ≤ extent ∧
      thick.rowHeight axis ((boundedPosition zeros position rotation).error pose |>.get axis) =
        max 0 (|flat.rowHeight axis ((equalityPosition mask position rotation).error pose |>.get axis)| -
          extent / 2.0) := by
  obtain ⟨tolerance, extent, htolerance, hextent, hpos, hreaches⟩ :=
    ((settings.equalityMask_iff hvalid hmask axis).mp hheld).exists_real hvalid
  have hbound := hbounds axis
  rw [hextent] at hbound
  refine ⟨tolerance, extent, htolerance, hextent, hreaches, ?_⟩
  rw [hflat.eq, hthick.eq]
  change (bounds.get axis).height _ = max 0 (|if mask.get axis then _ else 0| - extent / 2.0)
  rw [if_pos hheld, Bound.height_halves (hpos.le.trans hreaches) hbound]
  rfl

namespace Constraint

variable {chain : Chain ℝ} {settings : Settings ExtendedReal} {description : Description ExtendedReal}
  {flat thick : Constraint ExtendedReal (Scratchpad ExtendedReal)}

-- A verdict that holds says of every row that it is within the tolerance.
theorem abs_le_of_isSatisfied {constraint : Constraint ExtendedReal (Scratchpad ExtendedReal)}
    {chain : Chain ExtendedReal} (hmade : constraint.IsMadeFor chain.jointGroup)
    {pad : Scratchpad ExtendedReal} {positions : List ExtendedReal} (hlength : positions.length = chain.dof)
    {residual : Vec3 ℝ} (hresidual : (constraint.residual positions).answer pad = .ok residual.extend)
    (h : (constraint.isSatisfied positions).answer pad = .ok true) {tolerance : ℝ}
    (htolerance : constraint.tolerance = real tolerance) (axis : Axis) :
    |residual.get axis| ≤ tolerance := by
  obtain ⟨other, hother, hverdict⟩ := exists_answers hmade pad hlength
  rw [hresidual] at hother
  cases hother
  rw [h, Except.ok.injEq, eq_comm, decide_eq_true_iff, htolerance, Vec3.maxAbs_le_iff] at hverdict
  rcases hverdict with hwithin | ⟨_, hy | ⟨_, hx⟩⟩
  · have hrow := (hwithin axis).2
    rwa [Vec3.extend_get, ExtendedReal.abs_real, ExtendedReal.le_real] at hrow
  · cases hy
  · cases hx

-- On an axis that both kinds look at, the thick box leaves half of its extent on each side.
theorem exists_thickness (hfinite : description.HasFinitePositions)
    (hflat : (ofKind .equalityPosition chain.extend.jointGroup settings description).outcome.1 = .ok flat)
    (hthick : (ofKind .boundedPosition chain.extend.jointGroup settings description).outcome.1 =
      .ok thick) :
    ∃ entry extents mask, description.positions.head? = some entry ∧ entry.HasExtents extents ∧
      flat.model.mask? = some mask ∧
      ∀ q : Fin chain.dof → ℝ, ∃ offset thickness : Vec3 ℝ,
        (flat.residual (positionsOf q)).answer flat.group.newScratchpad = .ok offset.extend ∧
        (thick.residual (positionsOf q)).answer thick.group.newScratchpad = .ok thickness.extend ∧
        (∀ axis, mask.get axis = true → ∃ extent : ℝ, extents.get axis = real extent ∧
          thickness.get axis = max 0 (|offset.get axis| - extent / 2.0)) ∧
        ((flat.isSatisfied (positionsOf q)).answer flat.group.newScratchpad = .ok true →
          ∃ tolerance : ℝ, settings.tolerance = real tolerance ∧
            ∀ axis, mask.get axis = true → thickness.get axis ≤ tolerance / 2.0) := by
  have hmade : flat.IsMadeFor chain.extend.jointGroup := ⟨_, _, _, hflat⟩
  have hsettings : flat.settings = settings := by
    obtain ⟨_, _, _, rfl, _⟩ := exists_of_ofKind hflat
    rfl
  have hgroup : thick.group = chain.extend.jointGroup := IsMadeFor.group_eq ⟨_, _, _, hthick⟩
  obtain ⟨hvalid, hread⟩ := readFrom_of_ofKind hflat
  obtain ⟨entry, extents, position, orientation, mask, hentry, hlink, hdescribes, hmask, hgeometry⟩ :=
    hread.exists_thinBox hfinite
  obtain ⟨entry', extents', position', orientation', bounds, hentry', hlink', hdescribes', hbounds,
    hgeometry'⟩ := (readFrom_of_ofKind hthick).2.exists_box hfinite
  obtain rfl : entry = entry' := Option.some.inj (hentry.symm.trans hentry')
  obtain ⟨rfl, rfl, rfl⟩ := hdescribes.unique hdescribes'
  obtain ⟨place, hplace⟩ := chain.extend.exists_linkIndex? hmade.hasLinkNamed
  have hplace' : chain.extend.linkIndex? thick.link = some place := by
    rw [← hlink', hlink, hplace]
  refine ⟨entry, extents, mask, hentry, hdescribes.extents, by rw [hgeometry.eq]; rfl, fun q => ?_⟩
  have hoffset := (hasValuesAt_of_hasGeometry hgeometry _).answer_residual _ _
    (answer_pose hmade.group_eq hplace q)
  have hthickness := (hasValuesAt_of_hasGeometry hgeometry' _).answer_residual _ _
    (answer_pose hgroup hplace' q)
  refine ⟨_, _, hoffset, hthickness, fun axis hheld => ?_, fun hsatisfied => ?_⟩
  · obtain ⟨_, extent, _, hextent, _, hheight⟩ :=
      ResidualModel.rowHeight_thick hvalid hmask hbounds hgeometry hgeometry' hheld _
    refine ⟨extent, hextent, ?_⟩
    rw [Vec3.get_ofAxes, Vec3.get_ofAxes]
    exact hheight
  · obtain ⟨tolerance, hpos, htolerance⟩ := settings.exists_tolerance hvalid
    refine ⟨tolerance, htolerance, fun axis hheld => ?_⟩
    obtain ⟨tolerance', extent, htolerance', _, hreaches, hheight⟩ :=
      ResidualModel.rowHeight_thick hvalid hmask hbounds hgeometry hgeometry' hheld
        ((Scratchpad.fill chain (List.ofFn q)).linkPose place)
    obtain rfl : tolerance = tolerance' := ExtendedReal.real_injective (htolerance.symm.trans htolerance')
    have hrow := abs_le_of_isSatisfied hmade (by simp [positionsOf]) hoffset hsatisfied
      (show flat.tolerance = real tolerance by rw [Constraint.tolerance, hsettings, htolerance]) axis
    rw [Vec3.get_ofAxes] at hrow
    rw [Vec3.get_ofAxes, hheight, Scalar.real_two]
    exact max_le (by linarith) (by linarith)

-- Under the three names the same position entries give constraints that are each weaker than the one
-- before: a line is accepted as a thin box, and a thin box as a thick one. What the thick box measures on
-- the axes of the thin one is how far these are outside of the extent.
theorem positionKinds_consistent :
    (∀ {α σ : Type} [ExtendedScalar α] [LawfulHalving α] (group : JointGroup α σ) (settings : Settings α)
      (description : Description α), description.orientations = [] →
      (∀ line, (create group (description.named Kind.linearSystemTag) settings).outcome.1 = .ok line →
        ∃ flat, (create group (description.named Kind.equalityTag) settings).outcome.1 = .ok flat ∧
          flat.kind = .equalityPosition ∧ flat.SharesTarget line ∧ flat.model.mask? = line.model.mask?) ∧
      ∀ flat, (create group (description.named Kind.equalityTag) settings).outcome.1 = .ok flat →
        ∀ name, name ≠ Kind.equalityTag → name ≠ Kind.linearSystemTag →
          ∃ thick, (create group (description.named name) settings).outcome.1 = .ok thick ∧
            thick.kind = .boundedPosition ∧ thick.SharesTarget flat) ∧
    ∀ (chain : Chain ℝ) (settings : Settings ExtendedReal) (description : Description ExtendedReal),
      description.orientations = [] → description.HasFinitePositions →
      ∀ flat thick name, name ≠ Kind.equalityTag → name ≠ Kind.linearSystemTag →
        (create chain.extend.jointGroup (description.named Kind.equalityTag) settings).outcome.1 =
          .ok flat →
        (create chain.extend.jointGroup (description.named name) settings).outcome.1 = .ok thick →
        ∃ entry extents mask, description.positions.head? = some entry ∧ entry.HasExtents extents ∧
          flat.model.mask? = some mask ∧
          ∀ q : Fin chain.dof → ℝ, ∃ offset thickness : Vec3 ℝ,
            (flat.residual (positionsOf q)).answer flat.group.newScratchpad = .ok offset.extend ∧
            (thick.residual (positionsOf q)).answer thick.group.newScratchpad = .ok thickness.extend ∧
            (∀ axis, mask.get axis = true → ∃ extent : ℝ, extents.get axis = real extent ∧
              thickness.get axis = max 0 (|offset.get axis| - extent / 2.0)) ∧
            ((flat.isSatisfied (positionsOf q)).answer flat.group.newScratchpad = .ok true →
              ∃ tolerance : ℝ, settings.tolerance = real tolerance ∧
                ∀ axis, mask.get axis = true → thickness.get axis ≤ tolerance / 2.0) := by
  refine ⟨fun group settings description horientations => ⟨fun line h => ?_, fun flat h name hne hne' => ?_⟩,
    fun chain settings description horientations hfinite flat thick name hne hne' hflat hthick => ?_⟩
  · have hpositions := positions_ne_nil_of_create horientations h
    rw [create_named horientations hpositions, Kind.ofPositionTag_linearSystemTag] at h
    rw [create_named horientations hpositions, Kind.ofPositionTag_equalityTag]
    exact exists_flat_of_line h
  · have hpositions := positions_ne_nil_of_create horientations h
    rw [create_named horientations hpositions, Kind.ofPositionTag_equalityTag] at h
    rw [create_named horientations hpositions, Kind.ofPositionTag_of_ne hne hne']
    exact exists_thick_of_flat h
  · have hpositions := positions_ne_nil_of_create horientations hflat
    rw [create_named horientations hpositions, Kind.ofPositionTag_equalityTag] at hflat
    rw [create_named horientations hpositions, Kind.ofPositionTag_of_ne hne hne'] at hthick
    exact exists_thickness hfinite hflat hthick

-- A rail along the first axis, in a box that is thin along the second one.
noncomputable def rail : Description ExtendedReal :=
  .line Robots.toolLink (⟨1, 5e-4, -1⟩ : Vec3 ℝ).extend (.zero : Vec3 ℝ).extend
    (⟨1, 0, 0⟩ : Vec3 ℝ).extend (.identity : Quat ℝ).extend

-- A resting robot has its tool at the start of the rail.
theorem rail_isSatisfied {flat : Constraint ExtendedReal (Scratchpad ExtendedReal)}
    (hgroup : flat.group = (Robots.cartesianWrist : Chain ℝ).extend.jointGroup)
    (hmade : flat.IsMadeFor (Robots.cartesianWrist : Chain ℝ).extend.jointGroup)
    (hlink : flat.link = Robots.toolLink) (hsettings : flat.settings = .standard)
    (hmodel : flat.model = .equalityPosition ⟨false, true, false⟩ (.zero : Vec3 ℝ).extend
      (.identity : Quat ℝ).normalize.extend) :
    (flat.isSatisfied (positionsOf fun _ : Fin 6 => 0)).answer flat.group.newScratchpad = .ok true := by
  have hgeometry : flat.model.HasGeometry
      (.equalityPosition ⟨false, true, false⟩ .zero (.normalize .identity)) AllowZero.point :=
    ⟨hmodel, Quat.normalize_isUnit (by rw [Quat.isUnit_identity]; exact one_ne_zero), AllowZero.of_point⟩
  have hresidual := (hasValuesAt_of_hasGeometry hgeometry .identity).answer_residual_rest hgroup
    (by rw [hlink]; rfl)
  have herror : (ResidualModel.equalityPosition ⟨false, true, false⟩ .zero (.normalize .identity)).error
      (.identity : Pose ℝ) = .zero := by
    have hoffset : (Pose.identity : Pose ℝ).translation - .zero = .zero := by
      ext <;> simp [Pose.identity]
    rw [ResidualModel.error, hoffset, ResidualModel.inFrame, Quat.rotate_zero]
  rw [herror] at hresidual
  obtain ⟨other, hother, hverdict⟩ := exists_answers hmade flat.group.newScratchpad
    (show (positionsOf fun _ : Fin 6 => 0).length = Robots.cartesianWrist.extend.dof from rfl)
  rw [hresidual] at hother
  cases hother
  rw [hverdict, Except.ok.injEq, decide_eq_true_iff, Vec3.maxAbs_le_iff, tolerance, hsettings]
  refine Or.inl fun axis => ?_
  have hrow : flat.model.rowHeight axis ((.zero : Vec3 ℝ).get axis) = 0 := by
    have hzero : (.zero : Vec3 ℝ).get axis = 0 := by cases axis <;> rfl
    rw [hmodel, hzero]
    exact ite_self 0
  rw [Vec3.extend_get, Vec3.get_ofAxes, hrow]
  simp [Settings.standard]
  norm_num

theorem cartesianWrist_rail_consistent :
    let group := (Robots.cartesianWrist : Chain ℝ).extend.jointGroup
    ∃ line flat thick,
      (create group (rail.named Kind.linearSystemTag) .standard).outcome.1 = .ok line ∧
      (create group (rail.named Kind.equalityTag) .standard).outcome.1 = .ok flat ∧
      (create group (rail.named "") .standard).outcome.1 = .ok thick ∧
      flat.SharesTarget line ∧ thick.SharesTarget flat ∧
      (flat.isSatisfied (positionsOf fun _ : Fin 6 => 0)).answer flat.group.newScratchpad = .ok true ∧
      ∃ thickness : Vec3 ℝ, (thick.residual (positionsOf fun _ : Fin 6 => 0)).answer
          thick.group.newScratchpad = .ok thickness.extend ∧ thickness.get .y ≤ 1e-4 / 2.0 := by
  intro group
  have hunit := Quat.isUnit_identity
  have hpositions : rail.positions ≠ [] := List.cons_ne_nil _ _
  have hline := ofKind_linearSystemPosition Settings.validate_standard
    (rfl : group.hasLink Robots.toolLink = true) equalityMask_sample (q := .identity)
    (by rw [hunit]; norm_num) (Settings.far_standard (by simp [Vec3.dot_eq])) (rfl : rail.positions = _)
  rw [← Kind.ofPositionTag_linearSystemTag, ← create_named rfl hpositions] at hline
  have hbox : (ofKind .equalityPosition group .standard rail).outcome.1 = .ok _ :=
    ofKind_of_readFrom Settings.validate_standard rfl (.thinBox rfl ⟨[], rfl⟩ equalityMask_sample
      (ResidualModel.firstPlacement_extend (by rw [hunit]; norm_num) rfl))
  have hmade : ∃ kind settings description,
      (ofKind kind group settings description).outcome.1 = .ok _ := ⟨_, _, _, hbox⟩
  rw [← Kind.ofPositionTag_equalityTag, ← create_named rfl hpositions] at hbox
  obtain ⟨haccepted, hmeasured⟩ := positionKinds_consistent
  obtain ⟨hthin, hthick⟩ := haccepted group .standard rail rfl
  obtain ⟨flat, hflat, _, hshares, _⟩ := hthin _ hline
  obtain rfl := Except.ok.inj (hflat.symm.trans hbox)
  obtain ⟨thick, hthick, _, hshares'⟩ := hthick _ hflat "" (by decide) (by decide)
  obtain ⟨_, _, mask, _, _, hmask, hrows⟩ := hmeasured Robots.cartesianWrist .standard rail rfl
    (Description.hasFinitePositions_line _ _ _ _ _) _ thick "" (by decide) (by decide) hflat hthick
  cases hmask
  have hsatisfied := rail_isSatisfied rfl hmade rfl rfl rfl
  obtain ⟨offset, thickness, _, hthickness, _, hwithin⟩ := hrows fun _ => 0
  obtain ⟨tolerance, htolerance, hrow⟩ := hwithin hsatisfied
  cases htolerance
  exact ⟨_, _, thick, hline, hflat, hthick, hshares, hshares', hsatisfied, thickness, hthickness,
    hrow .y rfl⟩

end Constraint

end Thickness

end TaskSpace.Constraints
