import Mathlib
import TaskSpace.Proofs.Constraints.Regions

namespace TaskSpace.Kinematics.Query

open Rigid

variable {σ ε δ β γ : Type}

-- Two queries with one answer, whatever each of them finds in the storage.
def AnsweredAlike (first second : Query σ ε β) : Prop :=
  ∀ storage storage', first.answer storage = second.answer storage'

namespace AnsweredAlike

variable {first second : Query σ ε β}

theorem pure (value : β) : AnsweredAlike (Pure.pure value : Query σ ε β) (Pure.pure value) :=
  fun _ _ => rfl

theorem lift (outcome : Except ε β) :
    AnsweredAlike (liftM outcome : Query σ ε β) (liftM outcome) := by
  intro storage storage'
  rw [answer_lift, answer_lift]

theorem bind {next next' : β → Query σ ε γ} (h : AnsweredAlike first second)
    (hnext : ∀ value, AnsweredAlike (next value) (next' value)) :
    AnsweredAlike (first >>= next) (second >>= next') := by
  intro storage storage'
  rw [answer_bind, answer_bind, h storage storage']
  cases second.answer storage' with
  | error error => rfl
  | ok value => exact hnext value _ _

theorem adapt (h : AnsweredAlike first second) (f : ε → δ) :
    AnsweredAlike (ExceptT.adapt f first) (ExceptT.adapt f second) := by
  intro storage storage'
  rw [answer_adapt, answer_adapt, h storage storage']

theorem ofAxesM {entry entry' : Axis → Query σ ε β} (h : ∀ axis, AnsweredAlike (entry axis) (entry' axis)) :
    AnsweredAlike (Vec3.ofAxesM entry) (Vec3.ofAxesM entry') :=
  (h .x).bind fun _ => (h .y).bind fun _ => (h .z).bind fun _ => .pure _

-- A check that either fails or goes on with the rest.
theorem guard {condition : Prop} [Decidable condition] {fault : ε} {rest rest' : Unit → Query σ ε β}
    (h : AnsweredAlike (rest ()) (rest' ())) :
    AnsweredAlike (if condition then throw fault >>= rest else rest ())
      (if condition then throw fault >>= rest' else rest' ()) := by
  split
  · exact fun _ _ => rfl
  · exact h

end AnsweredAlike

end TaskSpace.Kinematics.Query

namespace TaskSpace.Constraints

open Rigid Kinematics
open Query (AnsweredAlike)

variable {α : Type}

-- What counts of the dimensions of a primitive: the first three, or of fewer than three their number.
def Primitive.leading (primitive : Primitive α) : Vec3 α ⊕ Nat :=
  match primitive.dimensions with
  | x :: y :: z :: _ => .inl ⟨x, y, z⟩
  | few => .inr few.length

-- What counts of a position entry.
structure PositionView (α : Type) where
  link : String
  primitive? : Option (Shape × (Vec3 α ⊕ Nat))
  placement? : Option (Placement α)
  finish? : Option (Vec3 α)

-- The second placement counts for a line only, and only by its position.
def PositionEntry.view (kind : Kind) (entry : PositionEntry α) : PositionView α where
  link := entry.link
  primitive? := entry.region.primitives.head?.map fun primitive => (primitive.shape, primitive.leading)
  placement? := entry.region.placements.head?
  finish? :=
    if kind = .linearSystemPosition then entry.region.placements[1]?.map Placement.position else none

-- What counts of a description.
structure DescriptionView (α : Type) where
  position? : Option (PositionView α)
  orientation? : Option (OrientationEntry α)

-- The first entry of the list that belongs to the kind.
def Description.view (kind : Kind) (description : Description α) : DescriptionView α :=
  if kind = .orientation then ⟨none, description.orientations.head?⟩
  else ⟨description.positions.head?.map (·.view kind), none⟩

-- Which lists have entries and which tag the name is, if any.
structure Description.SameForm (first second : Description α) : Prop where
  positions : first.positions = [] ↔ second.positions = []
  orientations : first.orientations = [] ↔ second.orientations = []
  equalityTag : first.name = Kind.equalityTag ↔ second.name = Kind.equalityTag
  linearSystemTag : first.name = Kind.linearSystemTag ↔ second.name = Kind.linearSystemTag

section Views

variable {kind : Kind} {first second : Description α}

theorem Description.view_position (kind : Kind) (hkind : kind ≠ .orientation)
    (h : first.view kind = second.view kind) :
    first.positions.head?.map (·.view kind) = second.positions.head?.map (·.view kind) := by
  unfold view at h
  rw [if_neg hkind, if_neg hkind] at h
  exact congrArg DescriptionView.position? h

theorem Description.view_orientation (h : first.view .orientation = second.view .orientation) :
    first.orientations.head? = second.orientations.head? :=
  congrArg DescriptionView.orientation? h

theorem answeredAlike_report {ε : Type} (event event' : Event α) :
    AnsweredAlike (report event : Logged α ε Unit) (report event') := fun _ _ => rfl

theorem answeredAlike_reports {ε : Type} (event : Axis → Event α) :
    AnsweredAlike (Axis.all.forM fun axis => (report (event axis) : Logged α ε Unit))
      (Axis.all.forM fun axis => report (event axis)) := fun _ _ => rfl

theorem Description.SameForm.answeredAlike_selectKind (h : first.SameForm second) :
    AnsweredAlike first.selectKind second.selectKind := by
  have htag : Kind.ofPositionTag first.name = Kind.ofPositionTag second.name := by
    simp only [Kind.ofPositionTag, beq_iff_eq, h.equalityTag, h.linearSystemTag]
  have hpositions := h.positions
  have horientations := h.orientations
  intro log log'
  rw [answer_selectKind, answer_selectKind, htag]
  cases hfirst : first.positions <;> cases hsecond : second.positions <;>
    cases hfirst' : first.orientations <;> cases hsecond' : second.orientations <;>
      simp_all

end Views

namespace PositionEntry

variable {kind : Kind} {first second : PositionEntry α} (h : first.view kind = second.view kind)

theorem answer_boxExtents_view (kind : Kind) (entry : PositionEntry α) (log : List (Event α)) :
    Query.answer entry.boxExtents log =
      match (entry.view kind).primitive? with
      | none => .error (.missingField "constraint_region.primitives")
      | some (shape, leading) =>
        if shape ≠ .box then .error (.invalidValue "constraint_region.primitives" (.notABox shape))
        else
          match leading with
          | .inl extents => .ok extents
          | .inr few =>
            .error (.invalidValue "constraint_region.primitives.dimensions" (.tooFewDimensions few)) := by
  rw [answer_boxExtents]
  unfold view
  cases entry.region.primitives with
  | nil => rfl
  | cons primitive others =>
      obtain ⟨shape, _ | ⟨x, _ | ⟨y, _ | ⟨z, rest⟩⟩⟩⟩ := primitive <;> rfl

include h

theorem answeredAlike_boxExtents : AnsweredAlike first.boxExtents second.boxExtents := by
  intro log log'
  rw [answer_boxExtents_view kind, answer_boxExtents_view kind, h]

variable [ExtendedScalar α]

theorem answeredAlike_bounds : AnsweredAlike first.bounds second.bounds :=
  (answeredAlike_boxExtents h).bind fun _ => .ofAxesM fun _ => .lift _

end PositionEntry

namespace ResidualModel

variable [ExtendedScalar α]

section Entries

variable {kind : Kind} {first second : PositionEntry α} (h : first.view kind = second.view kind)

include h

theorem firstPlacement_eq_of_view : firstPlacement first = firstPlacement second := by
  have hhead : first.region.placements.head? = second.region.placements.head? :=
    congrArg PositionView.placement? h
  unfold firstPlacement
  rcases hfirst : first.region.placements with _ | ⟨placement, others⟩ <;>
    rcases hsecond : second.region.placements with _ | ⟨placement', others'⟩ <;>
      simp_all

theorem answeredAlike_readMask (settings : Settings α) :
    AnsweredAlike (readMask settings first) (readMask settings second) := by
  refine (PositionEntry.answeredAlike_boxExtents h).bind fun extents => ?_
  refine (AnsweredAlike.lift _).bind fun mask => ?_
  refine .bind (fun log log' => ?_) fun _ => .pure _
  rw [answer_reportMask, answer_reportMask]

theorem answeredAlike_ofBox : AnsweredAlike (ofBox first) (ofBox second) := by
  refine (answeredAlike_report _ _).bind fun _ => ?_
  refine (PositionEntry.answeredAlike_bounds h).bind fun bounds => ?_
  refine (answeredAlike_reports _).bind fun _ => ?_
  rw [firstPlacement_eq_of_view h]
  exact (AnsweredAlike.lift _).bind fun _ => .pure _

theorem answeredAlike_ofThinBox (settings : Settings α) :
    AnsweredAlike (ofThinBox settings first) (ofThinBox settings second) := by
  refine (answeredAlike_report _ _).bind fun _ => ?_
  refine (answeredAlike_readMask h settings).bind fun mask => ?_
  rw [firstPlacement_eq_of_view h]
  exact (AnsweredAlike.lift _).bind fun _ => .pure _

end Entries

theorem answeredAlike_ofLine {first second : PositionEntry α}
    (h : first.view .linearSystemPosition = second.view .linearSystemPosition) (settings : Settings α) :
    AnsweredAlike (ofLine settings first) (ofLine settings second) := by
  have hfinish : first.region.placements[1]?.map Placement.position =
      second.region.placements[1]?.map Placement.position := congrArg PositionView.finish? h
  refine (answeredAlike_report _ _).bind fun _ => ?_
  refine (answeredAlike_readMask h settings).bind fun mask => ?_
  rw [firstPlacement_eq_of_view h]
  refine (AnsweredAlike.lift _).bind fun (start, rotation) => ?_
  generalize first.region.placements = placements, second.region.placements = placements' at hfinish ⊢
  rcases placements with _ | ⟨_, _ | ⟨finish, _⟩⟩ <;>
    rcases placements' with _ | ⟨_, _ | ⟨finish', _⟩⟩ <;>
      simp at hfinish
  case cons.cons.cons.cons =>
    simp only [hfinish]
    exact .guard (.pure _)
  all_goals exact fun _ _ => rfl

theorem answeredAlike_ofOrientation (entry : OrientationEntry α) :
    AnsweredAlike (ofOrientation entry) (ofOrientation entry) := by
  refine (answeredAlike_report _ _).bind fun _ => (AnsweredAlike.lift _).bind fun bounds => ?_
  exact (answeredAlike_reports _).bind fun _ => (AnsweredAlike.lift _).bind fun _ => .pure _

omit [ExtendedScalar α] in
-- The first entry of a list, and what is read from it.
theorem answeredAlike_first {β γ : Type} {field : String} {first second : List β} {view : β → γ}
    {next : β → Logged α (ConfigError α) (ResidualModel α)} {name : β → String}
    (h : first.head?.map view = second.head?.map view)
    (hname : ∀ entry entry', view entry = view entry' → name entry = name entry')
    (hnext : ∀ entry entry', view entry = view entry' → AnsweredAlike (next entry) (next entry')) :
    AnsweredAlike
      (do
        let entry ← (liftM (firstOf (α := α) field first) : Logged α (ConfigError α) β)
        let model ← next entry
        return (name entry, model))
      (do
        let entry ← (liftM (firstOf (α := α) field second) : Logged α (ConfigError α) β)
        let model ← next entry
        return (name entry, model)) := by
  rcases first with _ | ⟨entry, others⟩ <;> rcases second with _ | ⟨entry', others'⟩
  · exact fun _ _ => rfl
  · cases h
  · cases h
  · have hview : view entry = view entry' := Option.some.inj h
    intro log log'
    rw [Query.answer_bind_of_ok (answer_firstOf rfl log), Query.answer_bind_of_ok (answer_firstOf rfl log'),
      hname _ _ hview]
    exact (hnext _ _ hview).bind (fun model => .pure (name entry', model)) _ _

theorem answeredAlike_ofDescription {kind : Kind} {first second : Description α}
    (h : first.view kind = second.view kind) (settings : Settings α) :
    AnsweredAlike (ofDescription kind settings first) (ofDescription kind settings second) := by
  unfold ofDescription
  have hlink : ∀ entry entry' : PositionEntry α, entry.view kind = entry'.view kind →
      entry.link = entry'.link := fun _ _ hview => congrArg PositionView.link hview
  cases kind with
  | boundedPosition =>
      exact answeredAlike_first (Description.view_position .boundedPosition nofun h) hlink
        fun _ _ hview => answeredAlike_ofBox hview
  | equalityPosition =>
      exact answeredAlike_first (Description.view_position .equalityPosition nofun h) hlink
        fun _ _ hview => answeredAlike_ofThinBox hview settings
  | linearSystemPosition =>
      exact answeredAlike_first (Description.view_position .linearSystemPosition nofun h) hlink
        fun _ _ hview => answeredAlike_ofLine hview settings
  | orientation =>
      refine answeredAlike_first (congrArg (Option.map id) (Description.view_orientation h)) ?_ ?_
      · exact fun _ _ hview => congrArg OrientationEntry.link hview
      · rintro entry _ rfl
        exact answeredAlike_ofOrientation entry

end ResidualModel

namespace Constraint

variable {σ : Type} [ExtendedScalar α]

theorem answeredAlike_ofKind {kind : Kind} {first second : Description α}
    (h : first.view kind = second.view kind) (group : JointGroup α σ) (settings : Settings α) :
    AnsweredAlike (ofKind kind group settings first) (ofKind kind group settings second) := by
  refine .adapt ((AnsweredAlike.lift _).bind fun _ => ?_) _
  refine (ResidualModel.answeredAlike_ofDescription h settings).bind fun (link, model) => ?_
  exact .guard ((answeredAlike_report _ _).bind fun _ => .pure _)

-- Two descriptions that agree in what counts for a kind give the same constraint of that kind, or the
-- same error. For the kind that is chosen by the description it counts too which lists have entries and
-- which tag the name is.
theorem made_eq_of_view_eq (group : JointGroup α σ) (settings : Settings α)
    (first second : Description α) :
    (∀ kind, first.view kind = second.view kind →
      (ofKind kind group settings first).outcome.1 = (ofKind kind group settings second).outcome.1) ∧
    (first.SameForm second →
      (∀ kind, first.selectKind.outcome.1 = .ok kind → first.view kind = second.view kind) →
      (create group first settings).outcome.1 = (create group second settings).outcome.1) := by
  refine ⟨fun kind h => answeredAlike_ofKind h group settings [] [], fun hform hview => ?_⟩
  have hselect := hform.answeredAlike_selectKind
  change Query.answer (create group first settings) [] = Query.answer (create group second settings) []
  cases hkind : Query.answer first.selectKind [] with
  | error error =>
      rw [create, create, Query.answer_bind, Query.answer_bind, ← hselect [] [], hkind]
      rfl
  | ok kind =>
      have hfirst : ∀ log, Query.answer first.selectKind log = .ok kind := fun log =>
        (hselect log []).trans ((hselect [] []).symm.trans hkind)
      have hsecond : ∀ log, Query.answer second.selectKind log = .ok kind := fun log =>
        (hselect [] log).symm.trans hkind
      obtain ⟨log, hcreate⟩ := answer_create group settings first hfirst []
      obtain ⟨log', hcreate'⟩ := answer_create group settings second hsecond []
      rw [hcreate, hcreate']
      exact answeredAlike_ofKind (hview kind hkind) group settings log log'

-- The turned plate once more, beside a fourth dimension, a sphere, a placement without a direction and
-- an entry without a box.
noncomputable def crowdedPlate (name : String) (orientations : List (OrientationEntry ExtendedReal)) :
    Description ExtendedReal :=
  ⟨name,
    [⟨Robots.toolLink,
      [⟨.box, (⟨1, 5e-4, -1⟩ : Vec3 ℝ).extend.toList ++ [.nan]⟩, ⟨.sphere, []⟩],
      [⟨(⟨0, 1, 0⟩ : Vec3 ℝ).extend, sampleTurn.extend⟩, ⟨.zero, ⟨0, 0, 0, 0⟩⟩]⟩,
      ⟨"", [], []⟩],
    orientations⟩

theorem cartesianWrist_crowdedPlate :
    let group := (Robots.cartesianWrist : Chain ℝ).extend.jointGroup
    ∃ constraint, (ofKind .equalityPosition group .standard turnedPlate).outcome.1 = .ok constraint ∧
      (ofKind .equalityPosition group .standard
        (crowdedPlate "" [⟨"", ⟨0, 0, 0, 0⟩, .zero⟩])).outcome.1 = .ok constraint ∧
      (create group turnedPlate .standard).outcome.1 = .ok constraint ∧
      (create group (crowdedPlate Kind.equalityTag []) .standard).outcome.1 = .ok constraint := by
  intro group
  have hmade := ofKind_equalityPosition Settings.validate_standard
    (rfl : group.hasLink Robots.toolLink = true) equalityMask_sample sampleTurn_norm.1
    (rfl : turnedPlate.positions = _)
  have hkind : ∀ log, Query.answer turnedPlate.selectKind log = .ok .equalityPosition :=
    fun log => turnedPlate.answer_selectKind log
  have hcreate : (create group turnedPlate .standard).outcome.1 =
      (ofKind .equalityPosition group .standard turnedPlate).outcome.1 := by
    obtain ⟨log, hlog⟩ := answer_create group .standard turnedPlate hkind []
    exact hlog.trans (answeredAlike_ofKind rfl group .standard log [])
  have hother := made_eq_of_view_eq group .standard turnedPlate
    (crowdedPlate "" [⟨"", ⟨0, 0, 0, 0⟩, .zero⟩])
  have hsame := made_eq_of_view_eq group .standard turnedPlate (crowdedPlate Kind.equalityTag [])
  refine ⟨_, hmade, ?_, hcreate.trans hmade, ?_⟩
  · exact (hother.1 .equalityPosition rfl).symm.trans hmade
  · refine (hsame.2 ?_ fun kind h => ?_).symm.trans (hcreate.trans hmade)
    · exact ⟨Iff.intro nofun nofun, iff_of_true rfl rfl, Iff.rfl, Iff.rfl⟩
    · cases (hkind []).symm.trans h
      rfl

end Constraint

end TaskSpace.Constraints
