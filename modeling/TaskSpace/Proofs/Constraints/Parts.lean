import Mathlib
import TaskSpace.Proofs.Constraints.Making

namespace TaskSpace.Constraints

open Rigid Kinematics

variable {α : Type}

-- The first primitive of an entry is a box of these extents.
def PositionEntry.HasExtents (entry : PositionEntry α) (extents : Vec3 α) : Prop :=
  ∃ further, entry.region.primitives.head? = some ⟨.box, extents.toList ++ further⟩

theorem head?_of_forall₂ {β γ : Type} {related : β → γ → Prop} {first : List β} {second : List γ}
    (h : List.Forall₂ related first second) {entry : β} {entry' : γ} (hhead : first.head? = some entry)
    (hhead' : second.head? = some entry') : related entry entry' := by
  cases h with
  | nil => cases hhead
  | cons hrelated _ =>
      cases hhead
      cases hhead'
      exact hrelated

theorem exists_two_of_getElem? {β : Type} {entries : List β} {second : β} (h : entries[1]? = some second) :
    ∃ first further, entries = first :: second :: further := by
  rcases entries with _ | ⟨first, _ | ⟨other, further⟩⟩
  · cases h
  · cases h
  · obtain rfl : other = second := Option.some.inj h
    exact ⟨first, further, rfl⟩

-- What is only done in one case leaves the rest to be answered.
theorem exists_of_answer_ite {ε τ β : Type} {condition : Prop} [Decidable condition]
    {first : Query τ ε Unit} {rest : Unit → Query τ ε β} {storage : τ} {value : β}
    (h : Query.answer (if condition then first >>= rest else rest ()) storage = .ok value) :
    ∃ storage, (rest ()).answer storage = .ok value := by
  split at h
  · obtain ⟨_, _, h⟩ := Query.exists_of_answer_bind h
    exact ⟨_, h⟩
  · exact ⟨storage, h⟩

variable [ExtendedScalar α]

omit [ExtendedScalar α] in
theorem PositionEntry.answer_boxExtents (entry : PositionEntry α) {log : List (Event α)} :
    Query.answer entry.boxExtents log =
      match entry.region.primitives with
      | [] => .error (.missingField "constraint_region.primitives")
      | primitive :: _ =>
        if primitive.shape ≠ .box then
          .error (.invalidValue "constraint_region.primitives" (.notABox primitive.shape))
        else
          match primitive.dimensions with
          | x :: y :: z :: _ => .ok ⟨x, y, z⟩
          | few =>
            .error (.invalidValue "constraint_region.primitives.dimensions" (.tooFewDimensions few.length)) := by
  unfold boxExtents
  cases entry.region.primitives with
  | nil => rfl
  | cons primitive others =>
      by_cases hshape : primitive.shape ≠ .box
      · simp only [if_pos hshape]
        cases others <;> rfl
      · simp only [if_neg hshape]
        rcases primitive.dimensions with _ | ⟨x, _ | ⟨y, _ | ⟨z, rest⟩⟩⟩ <;> cases others <;> rfl

omit [ExtendedScalar α] in
theorem PositionEntry.hasExtents_of_boxExtents {entry : PositionEntry α} {extents : Vec3 α}
    {log : List (Event α)} (h : Query.answer entry.boxExtents log = .ok extents) :
    entry.HasExtents extents := by
  rw [answer_boxExtents] at h
  unfold HasExtents
  generalize entry.region.primitives = primitives at h ⊢
  rcases primitives with _ | ⟨⟨shape, dimensions⟩, others⟩
  · cases h
  · by_cases hshape : shape = .box
    · simp only [if_neg (not_not.mpr hshape)] at h
      rcases dimensions with _ | ⟨x, _ | ⟨y, _ | ⟨z, rest⟩⟩⟩
      · cases h
      · cases h
      · cases h
      · cases h
        exact ⟨rest, by rw [hshape]; rfl⟩
    · simp only [if_pos hshape] at h
      cases h

omit [ExtendedScalar α] in
theorem PositionEntry.HasExtents.answer_boxExtents {entry : PositionEntry α} {extents : Vec3 α}
    (h : entry.HasExtents extents) (log : List (Event α)) :
    Query.answer entry.boxExtents log = .ok extents := by
  obtain ⟨further, hfirst⟩ := h
  obtain ⟨others, hprimitives⟩ := List.head?_eq_some_iff.mp hfirst
  unfold boxExtents
  rw [hprimitives]
  cases others <;> rfl

theorem PositionEntry.HasExtents.answer_bounds {entry : PositionEntry α} {extents : Vec3 α}
    {bounds : Vec3 (Bound α)} (h : entry.HasExtents extents)
    (hbounds : ∀ axis, Bound.make (-orInfinite (extents.get axis) / 2.0)
      (orInfinite (extents.get axis) / 2.0) = .ok (bounds.get axis)) (log : List (Event α)) :
    Query.answer entry.bounds log = .ok bounds := by
  unfold PositionEntry.bounds
  rw [Query.answer_bind_of_ok (h.answer_boxExtents log)]
  refine answer_ofAxesM (fun axis storage => ?_) _
  rw [Query.answer_lift, Vec3.get_map, hbounds]

-- What the bounds of a box are made of.
theorem PositionEntry.exists_of_bounds {entry : PositionEntry α} {bounds : Vec3 (Bound α)}
    {log : List (Event α)} (h : Query.answer entry.bounds log = .ok bounds) :
    ∃ extents, entry.HasExtents extents ∧ ∀ axis,
      Bound.make (-orInfinite (extents.get axis) / 2.0) (orInfinite (extents.get axis) / 2.0) =
        .ok (bounds.get axis) := by
  unfold PositionEntry.bounds at h
  obtain ⟨extents, hextents, h⟩ := Query.exists_of_answer_bind h
  refine ⟨extents, hasExtents_of_boxExtents hextents, fun axis => ?_⟩
  obtain ⟨_, hmake⟩ := exists_of_ofAxesM h axis
  rw [Query.answer_lift, Vec3.get_map] at hmake
  exact hmake

namespace ResidualModel

theorem exists_placement {entry : PositionEntry α} {target : Vec3 α} {rotation : Quat α}
    (h : firstPlacement entry = .ok (target, rotation)) :
    ∃ placement others, entry.region.placements = placement :: others ∧ placement.position = target ∧
      placement.rotation = .ok rotation := by
  unfold firstPlacement at h
  cases hplacements : entry.region.placements with
  | nil =>
      rw [hplacements] at h
      cases h
  | cons placement others =>
      rw [hplacements] at h
      cases hrotation : placement.rotation with
      | error error =>
          simp only [hrotation] at h
          cases h
      | ok unit =>
          simp only [hrotation] at h
          cases h
          exact ⟨placement, others, rfl, rfl, hrotation⟩

theorem exists_of_readMask {settings : Settings α} {entry : PositionEntry α} {mask : Vec3 Bool}
    {log : List (Event α)} (h : Query.answer (readMask settings entry) log = .ok mask) :
    ∃ extents, entry.HasExtents extents ∧ settings.equalityMask extents = .ok mask := by
  unfold readMask at h
  obtain ⟨extents, hextents, h⟩ := Query.exists_of_answer_bind h
  obtain ⟨_, hmask, h⟩ := Query.exists_of_answer_bind h
  obtain ⟨_, _, h⟩ := Query.exists_of_answer_bind h
  cases h
  rw [Query.answer_lift] at hmask
  exact ⟨extents, PositionEntry.hasExtents_of_boxExtents hextents, hmask⟩

-- The parts of the model of each kind, and where they stand in a description.
inductive ReadFrom (settings : Settings α) (description : Description α) :
    Kind → String → ResidualModel α → Prop
  | box {entry : PositionEntry α} {extents : Vec3 α}
      {bounds : Vec3 (Bound α)} {target : Vec3 α} {rotation : Quat α}
      (hentry : description.positions.head? = some entry) (hextents : entry.HasExtents extents)
      (hbounds : ∀ axis, Bound.make (-orInfinite (extents.get axis) / 2.0)
        (orInfinite (extents.get axis) / 2.0) = .ok (bounds.get axis))
      (hplacement : firstPlacement entry = .ok (target, rotation)) :
      ReadFrom settings description .boundedPosition entry.link (.boundedPosition bounds target rotation)
  | thinBox {entry : PositionEntry α} {extents : Vec3 α}
      {mask : Vec3 Bool} {target : Vec3 α} {rotation : Quat α}
      (hentry : description.positions.head? = some entry) (hextents : entry.HasExtents extents)
      (hmask : settings.equalityMask extents = .ok mask)
      (hplacement : firstPlacement entry = .ok (target, rotation)) :
      ReadFrom settings description .equalityPosition entry.link (.equalityPosition mask target rotation)
  | line {entry : PositionEntry α} {extents : Vec3 α}
      {mask : Vec3 Bool} {start : Vec3 α} {rotation : Quat α} {second : Placement α}
      (hentry : description.positions.head? = some entry) (hextents : entry.HasExtents extents)
      (hmask : settings.equalityMask extents = .ok mask)
      (hplacement : firstPlacement entry = .ok (start, rotation))
      (hsecond : entry.region.placements[1]? = some second)
      (hfar : ¬(second.position - start).norm < settings.tolerance) :
      ReadFrom settings description .linearSystemPosition entry.link
        (.linearSystemPosition mask start second.position rotation)
  | orientation {entry : OrientationEntry α} {bounds : Vec3 (Bound α)} {rotation : Quat α}
      (hentry : description.orientations.head? = some entry) (hbounds : entry.bounds = .ok bounds)
      (hrotation : entry.rotation = .ok rotation) :
      ReadFrom settings description .orientation entry.link (.orientation bounds rotation)

omit [ExtendedScalar α] in
-- A model comes from the first entry, and so does its link.
theorem exists_first_of_answer {β : Type} (name : β → String) {field : String} {entries : List β}
    {next : β → Logged α (ConfigError α) (ResidualModel α)} {link : String} {model : ResidualModel α}
    {log : List (Event α)}
    (h : Query.answer (do
      let entry ← (liftM (firstOf (α := α) field entries) : Logged α (ConfigError α) β)
      let model ← next entry
      return (name entry, model)) log = .ok (link, model)) :
    ∃ entry log, entries.head? = some entry ∧ name entry = link ∧
      Query.answer (next entry) log = .ok model := by
  obtain ⟨entry, hentry, h⟩ := Query.exists_of_answer_bind h
  rw [Query.answer_lift] at hentry
  obtain ⟨_, hmodel, h⟩ := Query.exists_of_answer_bind h
  cases h
  cases entries with
  | nil => cases hentry
  | cons first others => cases hentry; exact ⟨entry, _, rfl, rfl, hmodel⟩

namespace ReadFrom

variable {settings : Settings α} {description : Description α} {model : ResidualModel α}
  {log : List (Event α)}

section Positions

variable {entry : PositionEntry α} (hentry : description.positions.head? = some entry)

include hentry

theorem of_ofBox (h : Query.answer (ofBox entry) log = .ok model) :
    ReadFrom settings description .boundedPosition entry.link model := by
  unfold ofBox at h
  obtain ⟨_, _, h⟩ := Query.exists_of_answer_bind h
  obtain ⟨bounds, hbounds, h⟩ := Query.exists_of_answer_bind h
  obtain ⟨_, _, h⟩ := Query.exists_of_answer_bind h
  obtain ⟨⟨target, rotation⟩, hplacement, h⟩ := Query.exists_of_answer_bind h
  rw [Query.answer_lift] at hplacement
  cases h
  obtain ⟨extents, hextents, hbounds⟩ := PositionEntry.exists_of_bounds hbounds
  exact .box hentry hextents hbounds hplacement

theorem of_ofThinBox (h : Query.answer (ofThinBox settings entry) log = .ok model) :
    ReadFrom settings description .equalityPosition entry.link model := by
  unfold ofThinBox at h
  obtain ⟨_, _, h⟩ := Query.exists_of_answer_bind h
  obtain ⟨mask, hmask, h⟩ := Query.exists_of_answer_bind h
  obtain ⟨⟨target, rotation⟩, hplacement, h⟩ := Query.exists_of_answer_bind h
  rw [Query.answer_lift] at hplacement
  cases h
  obtain ⟨extents, hextents, hmask⟩ := exists_of_readMask hmask
  exact .thinBox hentry hextents hmask hplacement

theorem of_ofLine (h : Query.answer (ofLine settings entry) log = .ok model) :
    ReadFrom settings description .linearSystemPosition entry.link model := by
  unfold ofLine at h
  obtain ⟨_, _, h⟩ := Query.exists_of_answer_bind h
  obtain ⟨mask, hmask, h⟩ := Query.exists_of_answer_bind h
  obtain ⟨⟨start, rotation⟩, hplacement, h⟩ := Query.exists_of_answer_bind h
  rw [Query.answer_lift] at hplacement
  obtain ⟨extents, hextents, hmask⟩ := exists_of_readMask hmask
  rcases hplacements : entry.region.placements with _ | ⟨first, _ | ⟨second, further⟩⟩
  · rw [hplacements] at h
    cases h
  · rw [hplacements] at h
    cases h
  · rw [hplacements] at h
    simp only at h
    split at h
    · cases h
    · rename_i hfar
      cases h
      exact .line hentry hextents hmask hplacement (by rw [hplacements]; rfl) hfar

end Positions

theorem of_ofOrientation {entry : OrientationEntry α}
    (hentry : description.orientations.head? = some entry)
    (h : Query.answer (ofOrientation entry) log = .ok model) :
    ReadFrom settings description .orientation entry.link model := by
  unfold ofOrientation at h
  obtain ⟨_, _, h⟩ := Query.exists_of_answer_bind h
  obtain ⟨bounds, hbounds, h⟩ := Query.exists_of_answer_bind h
  rw [Query.answer_lift] at hbounds
  obtain ⟨_, _, h⟩ := Query.exists_of_answer_bind h
  obtain ⟨rotation, hrotation, h⟩ := Query.exists_of_answer_bind h
  rw [Query.answer_lift] at hrotation
  cases h
  exact .orientation hentry hbounds hrotation

theorem of_ofDescription {kind : Kind} {link : String}
    (h : Query.answer (ofDescription kind settings description) log = .ok (link, model)) :
    ReadFrom settings description kind link model := by
  unfold ofDescription at h
  cases kind with
  | boundedPosition =>
      obtain ⟨entry, _, hentry, rfl, hmodel⟩ := exists_first_of_answer PositionEntry.link h
      exact of_ofBox hentry hmodel
  | equalityPosition =>
      obtain ⟨entry, _, hentry, rfl, hmodel⟩ := exists_first_of_answer PositionEntry.link h
      exact of_ofThinBox hentry hmodel
  | linearSystemPosition =>
      obtain ⟨entry, _, hentry, rfl, hmodel⟩ := exists_first_of_answer PositionEntry.link h
      exact of_ofLine hentry hmodel
  | orientation =>
      obtain ⟨entry, _, hentry, rfl, hmodel⟩ := exists_first_of_answer OrientationEntry.link h
      exact of_ofOrientation hentry hmodel

end ReadFrom

section Answers

variable {settings : Settings α} {description : Description α} {model : ResidualModel α}

omit [ExtendedScalar α] in
theorem answer_firstOf {β : Type} {field : String} {entries others : List β} {entry : β}
    (hfirst : entries = entry :: others) (log : List (Event α)) :
    Query.answer (liftM (firstOf (α := α) field entries) : Logged α (ConfigError α) β) log = .ok entry := by
  rw [Query.answer_lift, hfirst]
  rfl

omit [ExtendedScalar α] in
theorem answer_ok {β : Type} {outcome : Except (ConfigError α) β} {value : β} (h : outcome = .ok value)
    (log : List (Event α)) : Query.answer (liftM outcome : Logged α (ConfigError α) β) log = .ok value :=
  (Query.answer_lift outcome log).trans h

variable {entry : PositionEntry α} {extents target : Vec3 α} {rotation : Quat α}

theorem answer_ofBox (hextents : entry.HasExtents extents) {bounds : Vec3 (Bound α)}
    (hbounds : ∀ axis, Bound.make (-orInfinite (extents.get axis) / 2.0)
      (orInfinite (extents.get axis) / 2.0) = .ok (bounds.get axis))
    (hplacement : firstPlacement entry = .ok (target, rotation)) (log : List (Event α)) :
    Query.answer (ofBox entry) log = .ok (.boundedPosition bounds target rotation) := by
  unfold ofBox
  rw [Query.answer_bind_of_ok (answer_report _ _),
    Query.answer_bind_of_ok (hextents.answer_bounds hbounds _),
    Query.answer_bind_of_ok (answer_reports _ _), Query.answer_bind_of_ok (answer_ok hplacement _)]
  rfl

section Masks

variable {mask : Vec3 Bool} (hextents : entry.HasExtents extents)
  (hmask : settings.equalityMask extents = .ok mask)
  (hplacement : firstPlacement entry = .ok (target, rotation))

include hextents hmask

theorem answer_readMask (log : List (Event α)) : Query.answer (readMask settings entry) log = .ok mask := by
  unfold readMask
  rw [Query.answer_bind_of_ok (hextents.answer_boxExtents log), Query.answer_bind_of_ok (answer_ok hmask _),
    Query.answer_bind_of_ok (answer_reportMask _ _)]
  rfl

include hplacement

theorem answer_ofThinBox (log : List (Event α)) :
    Query.answer (ofThinBox settings entry) log = .ok (.equalityPosition mask target rotation) := by
  unfold ofThinBox
  rw [Query.answer_bind_of_ok (answer_report _ _),
    Query.answer_bind_of_ok (answer_readMask hextents hmask _),
    Query.answer_bind_of_ok (answer_ok hplacement _)]
  rfl

theorem answer_ofLine {second : Placement α} (hsecond : entry.region.placements[1]? = some second)
    (hfar : ¬(second.position - target).norm < settings.tolerance) (log : List (Event α)) :
    Query.answer (ofLine settings entry) log =
      .ok (.linearSystemPosition mask target second.position rotation) := by
  unfold ofLine
  rw [Query.answer_bind_of_ok (answer_report _ _),
    Query.answer_bind_of_ok (answer_readMask hextents hmask _),
    Query.answer_bind_of_ok (answer_ok hplacement _)]
  obtain ⟨first, further, hplacements⟩ := exists_two_of_getElem? hsecond
  simp only [hplacements, if_neg hfar]
  rfl

end Masks

theorem answer_ofOrientation {entry : OrientationEntry α} {bounds : Vec3 (Bound α)}
    (hbounds : entry.bounds = .ok bounds) (hrotation : entry.rotation = .ok rotation) (log : List (Event α)) :
    Query.answer (ofOrientation entry) log = .ok (.orientation bounds rotation) := by
  unfold ofOrientation
  rw [Query.answer_bind_of_ok (answer_report _ _), Query.answer_bind_of_ok (answer_ok hbounds _),
    Query.answer_bind_of_ok (answer_reports _ _), Query.answer_bind_of_ok (answer_ok hrotation _)]
  rfl

omit [ExtendedScalar α] in
theorem answer_first {β : Type} (name : β → String) {field : String} {entries : List β} {entry : β}
    (hentry : entries.head? = some entry) {next : β → Logged α (ConfigError α) (ResidualModel α)}
    (hnext : ∀ log, Query.answer (next entry) log = .ok model) (log : List (Event α)) :
    Query.answer (do
      let entry ← (liftM (firstOf (α := α) field entries) : Logged α (ConfigError α) β)
      let model ← next entry
      return (name entry, model)) log = .ok (name entry, model) := by
  obtain ⟨others, hfirst⟩ := List.head?_eq_some_iff.mp hentry
  rw [Query.answer_bind_of_ok (answer_firstOf hfirst _), Query.answer_bind_of_ok (hnext _)]
  rfl

-- Where all parts stand in a description, the model is made of them.
theorem ReadFrom.answer_ofDescription {kind : Kind} {link : String}
    (h : ReadFrom settings description kind link model)
    (log : List (Event α)) :
    Query.answer (ofDescription kind settings description) log = .ok (link, model) := by
  unfold ofDescription
  cases h with
  | box hentry hextents hbounds hplacement =>
      exact answer_first PositionEntry.link hentry (answer_ofBox hextents hbounds hplacement) log
  | thinBox hentry hextents hmask hplacement =>
      exact answer_first PositionEntry.link hentry (answer_ofThinBox hextents hmask hplacement) log
  | line hentry hextents hmask hplacement hsecond hfar =>
      exact answer_first PositionEntry.link hentry (answer_ofLine hextents hmask hplacement hsecond hfar) log
  | orientation hentry hbounds hrotation =>
      exact answer_first OrientationEntry.link hentry (answer_ofOrientation hbounds hrotation) log

end Answers

end ResidualModel

theorem Constraint.ofKind_of_readFrom {σ : Type} {kind : Kind} {group : Kinematics.JointGroup α σ}
    {settings : Settings α} {description : Description α} {link : String} {model : ResidualModel α}
    (hvalid : settings.validate = .ok ()) (hlink : group.hasLink link = true)
    (h : ResidualModel.ReadFrom settings description kind link model) :
    (ofKind kind group settings description).outcome.1 = .ok ⟨group, settings, link, model⟩ :=
  ofKind_eq_ok hvalid hlink h.answer_ofDescription

theorem Constraint.readFrom_of_ofKind {σ : Type} {kind : Kind} {group : Kinematics.JointGroup α σ}
    {settings : Settings α} {description : Description α} {constraint : Constraint α σ}
    (h : (ofKind kind group settings description).outcome.1 = .ok constraint) :
    settings.validate = .ok () ∧
      ResidualModel.ReadFrom settings description kind constraint.link constraint.model := by
  obtain ⟨link, model, log, rfl, hvalid, _, hmodel⟩ := exists_of_ofKind h
  exact ⟨hvalid, .of_ofDescription hmodel⟩

end TaskSpace.Constraints
