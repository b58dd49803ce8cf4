import Mathlib
import TaskSpace.Constraints.Creation
import TaskSpace.Proofs.Kinematics.Memory

namespace TaskSpace.Constraints

open Rigid Kinematics

variable {α σ : Type}

theorem answer_report {ε : Type} (event : Event α) (log : List (Event α)) :
    Query.answer (report event : Logged α ε Unit) log = .ok () := rfl

theorem answer_reports {ε : Type} (event : Axis → Event α) (log : List (Event α)) :
    Query.answer (Axis.all.forM fun axis => (report (event axis) : Logged α ε Unit)) log = .ok () := rfl

theorem answer_reportMask (mask : Vec3 Bool) (log : List (Event α)) :
    Query.answer (ResidualModel.reportMask mask) log = .ok () := by
  unfold ResidualModel.reportMask
  rw [Query.answer_bind_of_ok (answer_reports _ _)]
  split <;> rfl

variable [ExtendedScalar α]

section Axes

variable {ε β τ : Type} {v : Vec3 β}

-- What is asked for each axis in turn was answered for each of them.
theorem exists_of_ofAxesM {entry : Axis → Query τ ε β} {storage : τ}
    (h : Query.answer (Vec3.ofAxesM entry) storage = .ok v) (axis : Axis) :
    ∃ storage, (entry axis).answer storage = .ok (v.get axis) := by
  unfold Vec3.ofAxesM at h
  obtain ⟨x, hx, h⟩ := Query.exists_of_answer_bind h
  obtain ⟨y, hy, h⟩ := Query.exists_of_answer_bind h
  obtain ⟨z, hz, h⟩ := Query.exists_of_answer_bind h
  cases h
  cases axis with
  | x => exact ⟨_, hx⟩
  | y => exact ⟨_, hy⟩
  | z => exact ⟨_, hz⟩

theorem eq_of_ofAxesM {entry : Axis → Except ε β} (h : Vec3.ofAxesM entry = .ok v) (axis : Axis) :
    entry axis = .ok (v.get axis) := by
  unfold Vec3.ofAxesM at h
  cases hx : entry .x with
  | error error => rw [hx] at h; cases h
  | ok x =>
      cases hy : entry .y with
      | error error => rw [hx, hy] at h; cases h
      | ok y =>
          cases hz : entry .z with
          | error error => rw [hx, hy, hz] at h; cases h
          | ok z =>
              rw [hx, hy, hz] at h
              cases h
              cases axis with
              | x => exact hx
              | y => exact hy
              | z => exact hz

theorem answer_ofAxesM {entry : Axis → Query τ ε β}
    (h : ∀ axis storage, (entry axis).answer storage = .ok (v.get axis)) (storage : τ) :
    Query.answer (Vec3.ofAxesM entry) storage = .ok v := by
  unfold Vec3.ofAxesM
  rw [Query.answer_bind_of_ok (h .x _), Query.answer_bind_of_ok (h .y _),
    Query.answer_bind_of_ok (h .z _)]
  rfl

theorem ofAxesM_eq_ok {entry : Axis → Except ε β} (h : ∀ axis, entry axis = .ok (v.get axis)) :
    Vec3.ofAxesM entry = .ok v := by
  unfold Vec3.ofAxesM
  rw [h .x, h .y, h .z]
  rfl

end Axes

theorem Kind.ofPositionTag_ne_orientation (tag : String) : ofPositionTag tag ≠ .orientation := by
  unfold ofPositionTag
  split
  · exact nofun
  · split <;> exact nofun

theorem Kind.ofPositionTag_equalityTag : ofPositionTag equalityTag = .equalityPosition :=
  if_pos (beq_self_eq_true _)

theorem Kind.ofPositionTag_linearSystemTag : ofPositionTag linearSystemTag = .linearSystemPosition := by
  have hother : ¬(linearSystemTag == equalityTag) = true := by decide
  rw [ofPositionTag, if_neg hother, if_pos (beq_self_eq_true _)]

theorem Kind.ofPositionTag_of_ne {name : String} (hequality : name ≠ equalityTag)
    (hline : name ≠ linearSystemTag) : ofPositionTag name = .boundedPosition := by
  rw [ofPositionTag, if_neg fun h => hequality (beq_iff_eq.mp h), if_neg fun h => hline (beq_iff_eq.mp h)]

omit [ExtendedScalar α] in
-- The kind is that of the entries, of which there may be more than one but not of both sorts.
theorem Description.answer_selectKind (description : Description α) (log : List (Event α)) :
    Query.answer description.selectKind log =
      match description.positions, description.orientations with
      | [], [] => .error .noConstraints
      | _ :: _, _ :: _ => .error (.unsupported "combined position and orientation constraints")
      | _ :: _, [] => .ok (.ofPositionTag description.name)
      | [], _ :: _ => .ok .orientation := by
  obtain ⟨name, positions, orientations⟩ := description
  rcases positions with _ | ⟨position, _ | ⟨second, positions⟩⟩ <;>
    rcases orientations with _ | ⟨orientation, _ | ⟨next, orientations⟩⟩ <;>
      simp [selectKind, isEmpty] <;> rfl

namespace Constraint

-- The constraints that some description asks for.
def IsMadeFor (group : JointGroup α σ) (constraint : Constraint α σ) : Prop :=
  ∃ kind settings description,
    (ofKind kind group settings description).outcome.1 = .ok constraint

-- What is made has a link of the group, and its model comes from the description.
theorem exists_of_answer_ofKind {kind : Kind} {group : JointGroup α σ} {settings : Settings α}
    {description : Description α} {constraint : Constraint α σ} {log : List (Event α)}
    (h : Query.answer (ofKind kind group settings description) log = .ok constraint) :
    ∃ link model log, constraint = ⟨group, settings, link, model⟩ ∧ settings.validate = .ok () ∧
      group.hasLink link = true ∧
      Query.answer (ResidualModel.ofDescription kind settings description) log = .ok (link, model) := by
  unfold ofKind at h
  rw [Query.answer_adapt_eq_ok] at h
  obtain ⟨_, hvalid, h⟩ := Query.exists_of_answer_bind h
  rw [Query.answer_lift] at hvalid
  obtain ⟨⟨link, model⟩, hmodel, h⟩ := Query.exists_of_answer_bind h
  by_cases hlink : group.hasLink link = true
  · simp only [hlink] at h
    obtain ⟨_, _, h⟩ := Query.exists_of_answer_bind h
    cases h
    exact ⟨link, model, _, rfl, hvalid, hlink, hmodel⟩
  · simp only [hlink] at h
    obtain ⟨_, habsurd, h⟩ := Query.exists_of_answer_bind h
    cases habsurd

theorem exists_of_ofKind {kind : Kind} {group : JointGroup α σ} {settings : Settings α}
    {description : Description α} {constraint : Constraint α σ}
    (h : (ofKind kind group settings description).outcome.1 = .ok constraint) :
    ∃ link model log, constraint = ⟨group, settings, link, model⟩ ∧ settings.validate = .ok () ∧
      group.hasLink link = true ∧
      Query.answer (ResidualModel.ofDescription kind settings description) log = .ok (link, model) :=
  exists_of_answer_ofKind h

theorem ofKind_eq_ok {kind : Kind} {group : JointGroup α σ} {settings : Settings α}
    {description : Description α} {link : String} {model : ResidualModel α}
    (hvalid : settings.validate = .ok ()) (hlink : group.hasLink link = true)
    (hmodel : ∀ log,
      Query.answer (ResidualModel.ofDescription kind settings description) log = .ok (link, model)) :
    (ofKind kind group settings description).outcome.1 = .ok ⟨group, settings, link, model⟩ := by
  change Query.answer (ofKind kind group settings description) [] = _
  have hlift : ∀ log : List (Event α),
      Query.answer (liftM settings.validate : Logged α (ConfigError α) Unit) log = .ok () := by
    intro log
    rw [Query.answer_lift, hvalid]
  unfold ofKind
  rw [Query.answer_adapt_eq_ok, Query.answer_bind_of_ok (hlift _), Query.answer_bind_of_ok (hmodel _)]
  simp only [hlink]
  rfl

theorem answer_create (group : JointGroup α σ) (settings : Settings α) (description : Description α)
    {kind : Kind} (hkind : ∀ log, Query.answer description.selectKind log = .ok kind)
    (log : List (Event α)) : ∃ log', Query.answer (create group description settings) log =
      Query.answer (ofKind kind group settings description) log' := by
  unfold create
  rw [Query.answer_bind_of_ok (hkind log), Query.answer_bind_of_ok (answer_report _ _)]
  split
  · rw [Query.answer_bind_of_ok (answer_report _ _)]
    exact ⟨_, rfl⟩
  · exact ⟨_, rfl⟩

theorem IsMadeFor.group_eq {group : JointGroup α σ} {constraint : Constraint α σ}
    (h : constraint.IsMadeFor group) : constraint.group = group := by
  obtain ⟨kind, settings, description, hmade⟩ := h
  obtain ⟨link, model, log, rfl, _⟩ := exists_of_ofKind hmade
  rfl

end Constraint

end TaskSpace.Constraints
