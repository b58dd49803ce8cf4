import Mathlib
import TaskSpace.Proofs.Constraints.Lines
import TaskSpace.Proofs.Constraints.Targets
import TaskSpace.Proofs.Rigid.Finiteness

namespace TaskSpace.Constraints

open Rigid Kinematics
open ExtendedReal (real)

-- A computation that succeeds from every log and only adds to it. Among what it adds is the report that
-- a constraint is always satisfied exactly in a given case.
def Warns {α ε β : Type} (computation : Logged α ε β) (value : β) (vacuous : Prop) : Prop :=
  ∃ events, (∀ log, Query.exec computation log = (.ok value, log ++ events)) ∧
    (Event.alwaysSatisfied ∈ events ↔ vacuous)

namespace Warns

variable {α ε δ β γ : Type} {first last : Prop}

theorem of_pure (value : β) : Warns (pure value : Logged α ε β) value False :=
  ⟨[], fun log => by rw [List.append_nil]; rfl, by simp⟩

theorem of_lift {outcome : Except ε β} {value : β} (h : outcome = .ok value) :
    Warns (liftM outcome : Logged α ε β) value False := by
  rw [h]
  exact of_pure value

theorem of_other (event : Event α) (h : event ≠ .alwaysSatisfied) :
    Warns (report event : Logged α ε Unit) () False :=
  ⟨[event], fun _ => rfl, by simpa using h.symm⟩

theorem of_alwaysSatisfied : Warns (report .alwaysSatisfied : Logged α ε Unit) () True :=
  ⟨[.alwaysSatisfied], fun _ => rfl, by simp⟩

theorem congr {computation : Logged α ε β} {value : β} (h : Warns computation value first)
    (hsame : first ↔ last) : Warns computation value last := by
  obtain ⟨events, hexec, hmem⟩ := h
  exact ⟨events, hexec, hmem.trans hsame⟩

theorem bind {computation : Logged α ε β} {value : β} {next : β → Logged α ε γ} {result : γ}
    (h : Warns computation value first) (hnext : Warns (next value) result last) :
    Warns (computation >>= next) result (first ∨ last) := by
  obtain ⟨events, hexec, hmem⟩ := h
  obtain ⟨further, hexecNext, hmemNext⟩ := hnext
  refine ⟨events ++ further, fun log => ?_, by rw [List.mem_append, hmem, hmemNext]⟩
  rw [Query.exec_bind, hexec]
  exact (hexecNext _).trans (by rw [List.append_assoc])

-- What reports other things does not change what the rest reports.
theorem after {computation : Logged α ε β} {value : β} {next : β → Logged α ε γ} {result : γ}
    (h : Warns computation value False) (hnext : Warns (next value) result last) :
    Warns (computation >>= next) result last :=
  (h.bind hnext).congr (by rw [false_or])

theorem before {computation : Logged α ε β} {value : β} {next : β → Logged α ε γ} {result : γ}
    (h : Warns computation value first) (hnext : Warns (next value) result False) :
    Warns (computation >>= next) result first :=
  (h.bind hnext).congr (by rw [or_false])

theorem forM {entries : List γ} {next : γ → Logged α ε Unit} (h : ∀ entry, Warns (next entry) () False) :
    Warns (entries.forM next) () False := by
  induction entries with
  | nil => exact of_pure ()
  | cons entry entries ih => exact (h entry).after ih

theorem adapt {computation : Logged α ε β} {value : β} (h : Warns computation value first) (f : ε → δ) :
    Warns (ExceptT.adapt f computation) value first := by
  obtain ⟨events, hexec, hmem⟩ := h
  refine ⟨events, fun log => ?_, hmem⟩
  rw [Query.exec_adapt, hexec]
  rfl

theorem mem_iff {computation : Logged α ε β} {value other : β} {log : List (Event α)}
    (h : Warns computation value first) (houtcome : computation.outcome = (.ok other, log)) :
    Event.alwaysSatisfied ∈ log ↔ first := by
  obtain ⟨events, hexec, hmem⟩ := h
  change Query.exec computation [] = _ at houtcome
  rw [hexec, List.nil_append, Prod.mk.injEq] at houtcome
  rw [← houtcome.2, hmem]

end Warns

section Reading

variable {α : Type}

theorem PositionEntry.HasExtents.warns {entry : PositionEntry α} {extents : Vec3 α}
    (h : entry.HasExtents extents) : Warns entry.boxExtents extents False := by
  obtain ⟨further, hfirst⟩ := h
  obtain ⟨others, hprimitives⟩ := List.head?_eq_some_iff.mp hfirst
  unfold boxExtents
  rw [hprimitives]
  cases others with
  | nil => exact .of_pure extents
  | cons second others =>
      exact (Warns.of_other (.extraPrimitives _) nofun).after (.of_pure extents)

namespace ResidualModel

-- Each axis is reported, and then that none of them is held.
theorem warns_reportMask (mask : Vec3 Bool) :
    Warns (reportMask mask : Logged α (ConfigError α) Unit) () (∀ axis, mask.get axis = false) := by
  refine Warns.after (.forM fun axis => .of_other (.dimensionConstrained axis _) nofun) ?_
  have hany : mask.any id = false ↔ ∀ axis, mask.get axis = false := by
    rw [Vec3.any, Bool.or_eq_false_iff, Bool.or_eq_false_iff, and_assoc]
    exact ⟨fun h => Axis.x.forall_of_next h.1 h.2.1 h.2.2, fun h => ⟨h .x, h .y, h .z⟩⟩
  rw [← hany]
  cases mask.any id with
  | true => exact (Warns.of_pure ()).congr (by simp)
  | false => exact Warns.of_alwaysSatisfied.congr (by simp)

variable [ExtendedScalar α] {settings : Settings α} {description : Description α} {link : String}
  {entry : PositionEntry α} {extents target : Vec3 α} {rotation : Quat α} {mask : Vec3 Bool}

section Masks

variable (hextents : entry.HasExtents extents) (hmask : settings.equalityMask extents = .ok mask)

include hextents hmask

theorem warns_readMask : Warns (readMask settings entry) mask (∀ axis, mask.get axis = false) :=
  hextents.warns.after ((Warns.of_lift hmask).after ((warns_reportMask mask).before (.of_pure mask)))

variable (hplacement : firstPlacement entry = .ok (target, rotation))

include hplacement

theorem warns_ofThinBox : Warns (ofThinBox settings entry) (.equalityPosition mask target rotation)
    (∀ axis, mask.get axis = false) := by
  refine (Warns.of_other (.parsing .equalityPosition) nofun).after ?_
  exact (warns_readMask hextents hmask).before ((Warns.of_lift hplacement).after (.of_pure _))

theorem warns_ofLine {second : Placement α} (hsecond : entry.region.placements[1]? = some second)
    (hfar : ¬(second.position - target).norm < settings.tolerance) :
    Warns (ofLine settings entry) (.linearSystemPosition mask target second.position rotation)
      (∀ axis, mask.get axis = false) := by
  refine (Warns.of_other (.parsing .linearSystemPosition) nofun).after ?_
  refine (warns_readMask hextents hmask).before ((Warns.of_lift hplacement).after ?_)
  obtain ⟨first, further, hplacements⟩ := exists_two_of_getElem? hsecond
  simp only [hplacements, if_neg hfar]
  exact .of_pure _

end Masks

omit [ExtendedScalar α] in
theorem warns_first {β : Type} (name : β → String) {field : String} {entries : List β} {first : β}
    (hfirst : entries.head? = some first) {next : β → Logged α (ConfigError α) (ResidualModel α)}
    {model : ResidualModel α} {vacuous : Prop} (hnext : Warns (next first) model vacuous) :
    Warns (do
      let entry ← (liftM (firstOf (α := α) field entries) : Logged α (ConfigError α) β)
      let model ← next entry
      return (name entry, model)) (name first, model) vacuous := by
  obtain ⟨others, rfl⟩ := List.head?_eq_some_iff.mp hfirst
  exact (Warns.of_lift rfl).after (hnext.before (.of_pure _))

theorem ReadFrom.warns_ofDescription {kind : Kind} {model : ResidualModel α}
    (h : ReadFrom settings description kind link model) (hheld : model.mask? = some mask) :
    Warns (ofDescription kind settings description) (link, model) (∀ axis, mask.get axis = false) := by
  unfold ofDescription
  cases h with
  | thinBox hentry hextents hmask hplacement =>
      cases hheld
      exact warns_first PositionEntry.link hentry (warns_ofThinBox hextents hmask hplacement)
  | line hentry hextents hmask hplacement hsecond hfar =>
      cases hheld
      exact warns_first PositionEntry.link hentry (warns_ofLine hextents hmask hplacement hsecond hfar)
  | box => cases hheld
  | orientation => cases hheld

end ResidualModel

theorem Constraint.warns_ofKind [ExtendedScalar α] {σ : Type} {kind : Kind} {group : JointGroup α σ}
    {settings : Settings α} {description : Description α} {link : String} {model : ResidualModel α}
    {mask : Vec3 Bool} (hvalid : settings.validate = .ok ()) (hlink : group.hasLink link = true)
    (h : ResidualModel.ReadFrom settings description kind link model) (hheld : model.mask? = some mask) :
    Warns (ofKind kind group settings description) ⟨group, settings, link, model⟩
      (∀ axis, mask.get axis = false) := by
  refine Warns.adapt ((Warns.of_lift hvalid).after ?_) _
  refine (h.warns_ofDescription hheld).before ?_
  simp only [hlink]
  exact (Warns.of_other (.applied link kind) nofun).after (.of_pure _)

end Reading

namespace ResidualModel

section Rows

variable {α : Type} [Scalar α] {model : ResidualModel α} {mask : Vec3 Bool}

omit [Scalar α] in
theorem bounds?_of_mask? (hmask : model.mask? = some mask) : model.bounds? = none := by
  cases model <;> first | rfl | cases hmask

omit [Scalar α] in
theorem rowActive_of_noneHeld (hmask : model.mask? = some mask) (hnone : ∀ axis, mask.get axis = false)
    (row : Axis) : model.rowActive row = false := by
  cases model with
  | equalityPosition =>
      cases hmask
      exact hnone row
  | linearSystemPosition =>
      cases hmask
      rw [rowActive, lineRowActive, hnone, hnone, Bool.or_false]
  | boundedPosition => cases hmask
  | orientation => cases hmask

theorem residual_of_noneHeld (hmask : model.mask? = some mask) (hnone : ∀ axis, mask.get axis = false)
    (error : Vec3 α) : model.residual error = .zero := by
  unfold residual
  simp only [bounds?_of_mask? hmask, rowActive_of_noneHeld hmask hnone]
  rfl

theorem residualJacobian_of_noneHeld (hmask : model.mask? = some mask) (hnone : ∀ axis, mask.get axis = false)
    (error : Vec3 α) (columns : List (Vec3 α)) :
    model.residualJacobian error columns = List.replicate columns.length .zero := by
  unfold residualJacobian
  simp only [rowActive_of_noneHeld hmask hnone, Bool.not_false, Bool.true_or, if_true]
  exact List.map_const' ..

theorem get_error_of_residual_eq_zero {error : Vec3 α} (h : model.residual error = .zero)
    (hmask : model.mask? = some mask) {row : Axis} (hactive : model.rowActive row = true) :
    error.get row = 0 := by
  have hrow := congrArg (·.get row) h
  unfold residual at hrow
  simp only [bounds?_of_mask? hmask, Vec3.get_ofAxes, hactive, if_true] at hrow
  rw [hrow]
  cases row <;> rfl

end Rows

variable {mask : Vec3 Bool} {rotation : Quat ℝ} {axis : Axis}

-- The pose from which a position is seen at a given offset.
theorem inFrame_at (hrotation : rotation.IsUnit) (position offset : Vec3 ℝ) :
    inFrame rotation (position + rotation.rotate offset - position) = offset := by
  have hoffset : position + rotation.rotate offset - position = rotation.rotate offset := by
    ext <;> simp
  rw [hoffset, inFrame, hrotation.conjugate_rotate_rotate]

-- A held axis is left by moving along it.
theorem exists_residual_ne_zero_flat (hrotation : rotation.IsUnit) (target : Vec3 ExtendedReal)
    (hheld : mask.get axis = true) : ∃ pose : Pose ℝ, pose.rotation.IsUnit ∧
      (equalityPosition mask target rotation.extend).residual
        ((equalityPosition mask target rotation.extend).error pose.extend) ≠ .zero := by
  by_contra! hzero
  have hrow : ∀ position : Vec3 ℝ,
      (inFrame rotation.extend (position.extend - target)).get axis = real 0 := by
    intro position
    exact get_error_of_residual_eq_zero (hzero ⟨.identity, position⟩ Quat.isUnit_identity) rfl hheld
  obtain ⟨difference, hdifference⟩ := Quat.exists_extend_of_rotate (hrow .zero)
  obtain ⟨_, target, rfl⟩ := Vec3.exists_extend_of_sub hdifference
  have hmoved := hrow (target + rotation.rotate (.ofAxes fun _ => 1))
  rw [← Vec3.extend_sub, ← extend_inFrame, inFrame_at hrotation, Vec3.extend_get, Vec3.get_ofAxes] at hmoved
  exact one_ne_zero (ExtendedReal.real.inj hmoved)

-- So is a line, whichever axis is held: the rows of two other axes cannot both vanish everywhere.
theorem exists_residual_ne_zero_line (hrotation : rotation.IsUnit) (start finish : Vec3 ExtendedReal)
    (hne : ∀ first last : Vec3 ℝ, start = first.extend → finish = last.extend → first ≠ last)
    (hheld : mask.get axis = true) : ∃ pose : Pose ℝ, pose.rotation.IsUnit ∧
      (linearSystemPosition mask start finish rotation.extend).residual
        ((linearSystemPosition mask start finish rotation.extend).error pose.extend) ≠ .zero := by
  by_contra! hzero
  have hrow : ∀ position : Vec3 ℝ,
      ((lineDirection start finish rotation.extend).cross
        (inFrame rotation.extend (position.extend - start))).get axis.next = real 0 ∧
      ((lineDirection start finish rotation.extend).cross
        (inFrame rotation.extend (position.extend - start))).get axis.next.next = real 0 := by
    intro position
    have hresidual := hzero ⟨.identity, position⟩ Quat.isUnit_identity
    have hactive : lineRowActive mask axis.next = true ∧ lineRowActive mask axis.next.next = true := by
      simp only [lineRowActive, axis.next_next_next, hheld, Bool.or_true, Bool.true_or, and_self]
    exact ⟨get_error_of_residual_eq_zero hresidual rfl hactive.1,
      get_error_of_residual_eq_zero hresidual rfl hactive.2⟩
  obtain ⟨⟨⟨_, hdirection⟩, _⟩, ⟨_, hoffset⟩, _⟩ := Vec3.exists_of_get_cross (hrow .zero).1
  obtain ⟨difference, hdifference⟩ := Quat.exists_extend_of_rotate hoffset
  obtain ⟨_, start, rfl⟩ := Vec3.exists_extend_of_sub hdifference
  obtain ⟨_, hentry⟩ := Vec3.exists_of_get_normalize hdirection
  obtain ⟨difference, hdifference⟩ := Quat.exists_extend_of_rotate hentry
  obtain ⟨⟨finish, rfl⟩, _⟩ := Vec3.exists_extend_of_sub hdifference
  have hpoints := hne start finish rfl rfl
  have hnone : lineDirection start finish rotation = .zero := by
    refine Vec3.eq_zero_of_cross_next axis fun offset => ?_
    have hmoved := hrow (start + rotation.rotate offset)
    rw [← Vec3.extend_sub, ← extend_inFrame, ← extend_lineDirection hrotation hpoints,
      inFrame_at hrotation, ← Vec3.extend_cross, Vec3.extend_get, Vec3.extend_get] at hmoved
    exact ⟨ExtendedReal.real.inj hmoved.1, ExtendedReal.real.inj hmoved.2⟩
  have hunit := lineDirection_isUnit hrotation hpoints
  rw [hnone, Vec3.IsUnit, (Vec3.norm_eq_zero_iff _).mpr rfl] at hunit
  exact zero_ne_one hunit

-- Where an axis is held, the residual differs from zero at some pose, even if the positions of the
-- description are not finite.
theorem ReadFrom.exists_residual_ne_zero {settings : Settings ExtendedReal}
    {description : Description ExtendedReal} {kind : Kind} {link : String}
    {model : ResidualModel ExtendedReal} (h : ReadFrom settings description kind link model)
    (hvalid : settings.validate = .ok ()) (hmask : model.mask? = some mask) (hheld : mask.get axis = true) :
    ∃ pose : Pose ℝ, pose.rotation.IsUnit ∧ model.residual (model.error pose.extend) ≠ .zero := by
  cases h with
  | thinBox _ _ _ hplacement =>
      cases hmask
      obtain ⟨rotation, hrotation, rfl⟩ := firstPlacement_isUnit hplacement
      exact exists_residual_ne_zero_flat hrotation _ hheld
  | line _ _ _ hplacement _ hfar =>
      cases hmask
      obtain ⟨rotation, hrotation, rfl⟩ := firstPlacement_isUnit hplacement
      refine exists_residual_ne_zero_line hrotation _ _ (fun first last hfirst hlast => ?_) hheld
      rw [hfirst, hlast] at hfar
      exact settings.ne_of_far hvalid hfar
  | box => cases hmask
  | orientation => cases hmask

theorem ReadFrom.exists_mask {settings : Settings ExtendedReal} {description : Description ExtendedReal}
    {kind : Kind} (hkind : kind = .equalityPosition ∨ kind = .linearSystemPosition) {link : String}
    {model : ResidualModel ExtendedReal} (h : ReadFrom settings description kind link model) :
    ∃ mask, model.mask? = some mask := by
  cases h with
  | thinBox => exact ⟨_, rfl⟩
  | line => exact ⟨_, rfl⟩
  | box => exact absurd hkind (by decide)
  | orientation => exact absurd hkind (by decide)

end ResidualModel

namespace Constraint

variable {σ : Type} {group : JointGroup ExtendedReal σ} {settings : Settings ExtendedReal}
  {description : Description ExtendedReal} {kind : Kind} {constraint : Constraint ExtendedReal σ}
  {log : List (Event ExtendedReal)}

-- The warning is exact: it stands in the log if the residual vanishes at every pose of the link, and then
-- also its Jacobian does, whatever the error is and that of the joints.
theorem alwaysSatisfied_mem_iff (hkind : kind = .equalityPosition ∨ kind = .linearSystemPosition)
    (hmade : (ofKind kind group settings description).outcome = (.ok constraint, log)) :
    (.alwaysSatisfied ∈ log ↔ ∀ pose : Pose ℝ, pose.rotation.IsUnit →
      constraint.model.residual (constraint.model.error pose.extend) = .zero) ∧
    (.alwaysSatisfied ∈ log → ∀ (error : Vec3 ExtendedReal) (columns : List (Vec3 ExtendedReal)),
      constraint.model.residual error = .zero ∧
        constraint.model.residualJacobian error columns = List.replicate columns.length .zero) := by
  have hok := congrArg Prod.fst hmade
  obtain ⟨hvalid, hread⟩ := readFrom_of_ofKind hok
  obtain ⟨link, model, _, rfl, _, hlink, _⟩ := exists_of_ofKind hok
  obtain ⟨mask, hmask⟩ := hread.exists_mask hkind
  have hreported : .alwaysSatisfied ∈ log ↔ ∀ axis, mask.get axis = false :=
    (warns_ofKind hvalid hlink hread hmask).mem_iff hmade
  rw [hreported]
  refine ⟨⟨fun hnone _ _ => ResidualModel.residual_of_noneHeld hmask hnone _, fun hzero axis => ?_⟩,
    fun hnone error columns => ⟨ResidualModel.residual_of_noneHeld hmask hnone error,
      ResidualModel.residualJacobian_of_noneHeld hmask hnone error columns⟩⟩
  by_contra hheld
  obtain ⟨pose, hpose, hne⟩ :=
    hread.exists_residual_ne_zero hvalid hmask (Bool.not_eq_false _ ▸ hheld : mask.get axis = true)
  exact hne (hzero pose hpose)

theorem equalityMask_freeExtents :
    (Settings.standard : Settings ExtendedReal).equalityMask freeExtents = .ok ⟨false, false, false⟩ := by
  refine ofAxesM_eq_ok fun axis => ?_
  cases axis <;> exact Settings.asksEquality_standard _ (Or.inl ⟨rfl, Or.inl rfl⟩)

-- A box that leaves every axis free holds nothing, and that is reported.
theorem cartesianWrist_freeBox_reported :
    ∃ constraint log, (ofKind .equalityPosition (Robots.cartesianWrist : Chain ExtendedReal).jointGroup
        .standard (.equalityBox Robots.toolLink freeExtents ⟨.zero, (.identity : Quat ℝ).extend⟩)).outcome =
          (.ok constraint, log) ∧
      .alwaysSatisfied ∈ log := by
  have hunit := Quat.isUnit_identity
  have hmade := ofKind_equalityPosition Settings.validate_standard
    (rfl : (Robots.cartesianWrist : Chain ExtendedReal).jointGroup.hasLink Robots.toolLink = true)
    equalityMask_freeExtents (by rw [hunit]; norm_num)
    (rfl : (Description.equalityBox Robots.toolLink freeExtents
      ⟨.zero, (.identity : Quat ℝ).extend⟩).positions = _)
  have houtcome : Logged.outcome _ = (.ok _, _) := Prod.ext hmade rfl
  refine ⟨_, _, houtcome, (alwaysSatisfied_mem_iff (Or.inl rfl) houtcome).1.mpr fun _ _ => ?_⟩
  exact ResidualModel.residual_of_noneHeld rfl (by rintro (_ | _ | _) <;> rfl) _

end Constraint

end TaskSpace.Constraints
