import Mathlib
import TaskSpace.Constraints.Creation
import TaskSpace.Proofs.Constraints.Making
import TaskSpace.Proofs.Constraints.RoundTrip

namespace TaskSpace.Kinematics.Query

variable {σ ε δ β β' γ γ' : Type}

-- Two outcomes that are related values or one error.
inductive OutcomesAlike (related : β → β' → Prop) : Except ε β → Except ε β' → Prop
  | ok {value : β} {value' : β'} (h : related value value') : OutcomesAlike related (.ok value) (.ok value')
  | error (fault : ε) : OutcomesAlike related (.error fault) (.error fault)

-- Two queries that start from one storage have outcomes alike and leave one storage.
def RunsAlike (related : β → β' → Prop) (first : Query σ ε β) (second : Query σ ε β') : Prop :=
  ∀ storage, OutcomesAlike related (first.exec storage).1 (second.exec storage).1 ∧
    (first.exec storage).2 = (second.exec storage).2

theorem OutcomesAlike.exists_ok_iff {related : β → β' → Prop} {first : Except ε β} {second : Except ε β'}
    (h : OutcomesAlike related first second) :
    (∃ value, first = .ok value) ↔ ∃ value, second = .ok value := by
  cases h with
  | ok => exact ⟨fun _ => ⟨_, rfl⟩, fun _ => ⟨_, rfl⟩⟩
  | error => exact ⟨nofun, nofun⟩

theorem OutcomesAlike.error_iff {related : β → β' → Prop} {first : Except ε β} {second : Except ε β'}
    (h : OutcomesAlike related first second) (fault : ε) : first = .error fault ↔ second = .error fault := by
  cases h with
  | ok => exact ⟨nofun, nofun⟩
  | error => simp

theorem OutcomesAlike.refl (outcome : Except ε β) : OutcomesAlike Eq outcome outcome := by
  cases outcome with
  | ok value => exact .ok rfl
  | error fault => exact .error fault

theorem OutcomesAlike.map {related : β → β' → Prop} {further : γ → γ' → Prop} {first : Except ε β}
    {second : Except ε β'} (h : OutcomesAlike related first second) {f : β → γ} {f' : β' → γ'}
    (hf : ∀ {value value'}, related value value' → further (f value) (f' value')) :
    OutcomesAlike further (first.map f) (second.map f') := by
  cases h with
  | ok hvalue => exact .ok (hf hvalue)
  | error fault => exact .error fault

namespace RunsAlike

variable {related : β → β' → Prop} {first : Query σ ε β} {second : Query σ ε β'}

theorem refl (query : Query σ ε β) : RunsAlike Eq query query := fun _ => ⟨.refl _, rfl⟩

theorem pure {value : β} {value' : β'} (h : related value value') :
    RunsAlike related (Pure.pure value : Query σ ε β) (Pure.pure value') := fun _ => ⟨.ok h, rfl⟩

theorem throw (fault : ε) :
    RunsAlike related (MonadExcept.throw fault : Query σ ε β) (MonadExcept.throw fault) :=
  fun _ => ⟨.error fault, rfl⟩

theorem lift {outcome : Except ε β} {outcome' : Except ε β'} (h : OutcomesAlike related outcome outcome') :
    RunsAlike related (liftM outcome : Query σ ε β) (liftM outcome' : Query σ ε β') := by
  cases h with
  | ok hvalue => exact .pure hvalue
  | error fault => exact .throw fault

theorem bind {further : γ → γ' → Prop} {next : β → Query σ ε γ} {next' : β' → Query σ ε γ'}
    (h : RunsAlike related first second)
    (hnext : ∀ {value value'}, related value value' → RunsAlike further (next value) (next' value')) :
    RunsAlike further (first >>= next) (second >>= next') := by
  intro storage
  have hruns := h storage
  rw [exec_bind, exec_bind]
  generalize first.exec storage = run, second.exec storage = run' at hruns ⊢
  obtain ⟨outcome, later⟩ := run
  obtain ⟨outcome', later'⟩ := run'
  obtain ⟨houtcome, rfl : later = later'⟩ := hruns
  cases houtcome with
  | ok hvalue => exact hnext hvalue later
  | error fault => exact ⟨.error fault, rfl⟩

-- What both do first, and go on from.
theorem after (query : Query σ ε δ) {next : δ → Query σ ε β} {next' : δ → Query σ ε β'}
    (hnext : ∀ value, RunsAlike related (next value) (next' value)) :
    RunsAlike related (query >>= next) (query >>= next') := by
  refine (refl query).bind ?_
  rintro value _ rfl
  exact hnext value

theorem adapt (h : RunsAlike related first second) (f : ε → δ) :
    RunsAlike related (ExceptT.adapt f first) (ExceptT.adapt f second) := by
  intro storage
  obtain ⟨houtcome, hleft⟩ := h storage
  rw [exec_adapt, exec_adapt]
  refine ⟨?_, hleft⟩
  generalize (first.exec storage).1 = outcome, (second.exec storage).1 = outcome' at houtcome
  cases houtcome with
  | ok hvalue => exact .ok hvalue
  | error fault => exact .error (f fault)

end RunsAlike

end TaskSpace.Kinematics.Query

namespace TaskSpace.Constraints

open Rigid Kinematics
open Query (OutcomesAlike RunsAlike)

-- Vectors that differ at most in the signs of zeros.
def SameSpot (v w : Vec3 Float) : Prop :=
  ∀ axis, Double.SameUpToZero (v.get axis).toModel.unpack (w.get axis).toModel.unpack

theorem SameSpot.norm_sub {v v' w w' : Vec3 Float} (h : SameSpot v v') (h' : SameSpot w w') :
    (v - w).norm = (v' - w').norm := by
  have hsquare : ∀ axis, (v.get axis - w.get axis) * (v.get axis - w.get axis) =
      (v'.get axis - w'.get axis) * (v'.get axis - w'.get axis) :=
    fun axis => Double.mul_self_eq (Double.sub_same (h axis) (h' axis))
  exact congrArg Scalar.sqrt (congrArg₂ (· + ·) (congrArg₂ (· + ·) (hsquare .x) (hsquare .y)) (hsquare .z))

theorem Restores.sameSpot {default original result : Vec3 Float}
    (h : Restores EqualNumbers Vec3.toList default original result) : SameSpot original result := by
  rcases h with rfl | ⟨rfl, hequal⟩
  · exact fun _ => .same _
  · simp only [Vec3.toList, List.forall₂_cons] at hequal
    obtain ⟨hx, hy, hz, -⟩ := hequal
    intro axis
    cases axis with
    | x => exact Double.sameUpToZero_of_beq hx
    | y => exact Double.sameUpToZero_of_beq hy
    | z => exact Double.sameUpToZero_of_beq hz

theorem norm_eq_of_equalNumbers {p q : Quat Float} (h : List.Forall₂ EqualNumbers p.toList q.toList) :
    p.norm = q.norm := by
  have hsquare : ∀ {a b : Float}, EqualNumbers a b → a * a = b * b :=
    fun h => Double.mul_self_eq (Double.sameUpToZero_of_beq h)
  simp only [Quat.toList, List.forall₂_cons] at h
  obtain ⟨hx, hy, hz, hw, -⟩ := h
  exact congrArg Scalar.sqrt (congrArg₂ (· + ·) (congrArg₂ (· + ·) (hsquare hx) (hsquare hz))
    (congrArg₂ (· + ·) (hsquare hy) (hsquare hw)))

theorem unitRotation_of_norm {q : Quat Float} (h : q.norm = (Quat.identity : Quat Float).norm) :
    unitRotation q = .ok q.normalize := by
  have hlong : ¬(!ExtendedScalar.isFinite (Quat.identity : Quat Float).norm ||
      (Quat.identity : Quat Float).norm < 1e-12) = true := by decide +kernel
  rw [unitRotation, h, if_neg hlong]

-- What equals the identity has a direction, whatever the signs of its zeros are.
theorem Restores.unitRotation_alike {original result : Quat Float}
    (h : Restores EqualNumbers Quat.toList .identity original result) :
    OutcomesAlike (fun _ _ => True) (unitRotation original) (unitRotation result) := by
  rcases h with rfl | ⟨rfl, hequal⟩
  · cases unitRotation result with
    | ok rotation => exact .ok trivial
    | error fault => exact .error fault
  · rw [unitRotation_of_norm (norm_eq_of_equalNumbers hequal), unitRotation_of_norm rfl]
    exact .ok trivial

namespace PositionEntry.Restored

variable {original result : PositionEntry Float} (h : original.Restored EqualNumbers result)

include h

theorem boxExtents_eq : result.boxExtents = original.boxExtents := by
  unfold boxExtents
  rw [h.region.primitives]

theorem bounds_eq : result.bounds = original.bounds := by
  unfold bounds
  rw [h.boxExtents_eq]

theorem readMask_eq (settings : Settings Float) :
    ResidualModel.readMask settings result = ResidualModel.readMask settings original := by
  unfold ResidualModel.readMask
  rw [h.boxExtents_eq]

theorem firstPlacement_alike : OutcomesAlike (fun first second => SameSpot first.1 second.1)
    (ResidualModel.firstPlacement original) (ResidualModel.firstPlacement result) := by
  have hplacements := h.region.placements
  unfold ResidualModel.firstPlacement
  generalize original.region.placements = placements, result.region.placements = placements' at hplacements
  cases hplacements with
  | nil => exact .error _
  | cons hplacement _ =>
      exact hplacement.orientation.unitRotation_alike.map fun _ => hplacement.position.sameSpot

end PositionEntry.Restored

namespace ResidualModel

section Positions

variable {original result : PositionEntry Float} (h : original.Restored EqualNumbers result)

include h

theorem ofBox_alike : RunsAlike (fun _ _ => True) (ofBox original) (ofBox result) := by
  unfold ofBox
  rw [h.bounds_eq]
  refine .after _ fun _ => .after _ fun bounds => .after _ fun _ => ?_
  exact (RunsAlike.lift h.firstPlacement_alike).bind fun _ => .pure trivial

theorem ofThinBox_alike (settings : Settings Float) :
    RunsAlike (fun _ _ => True) (ofThinBox settings original) (ofThinBox settings result) := by
  unfold ofThinBox
  rw [h.readMask_eq]
  refine .after _ fun _ => .after _ fun mask => ?_
  exact (RunsAlike.lift h.firstPlacement_alike).bind fun _ => .pure trivial

theorem ofLine_alike (settings : Settings Float) :
    RunsAlike (fun _ _ => True) (ofLine settings original) (ofLine settings result) := by
  unfold ofLine
  rw [h.readMask_eq]
  refine .after _ fun _ => .after _ fun mask => ?_
  refine (RunsAlike.lift h.firstPlacement_alike).bind ?_
  rintro ⟨start, rotation⟩ ⟨start', rotation'⟩ (hstart : SameSpot start start')
  have hplacements := h.region.placements
  generalize original.region.placements = placements, result.region.placements = placements' at hplacements
  rcases hplacements with _ | ⟨_, _ | ⟨hsecond, _⟩⟩
  · exact .throw _
  · exact .throw _
  · simp only [hsecond.position.sameSpot.norm_sub hstart]
    split
    · exact .throw _
    · exact .pure trivial

end Positions

theorem ofOrientation_alike {original result : OrientationEntry Float}
    (h : original.Restored EqualNumbers result) :
    RunsAlike (fun _ _ => True) (ofOrientation original) (ofOrientation result) := by
  have hbounds : result.bounds = original.bounds := by
    unfold OrientationEntry.bounds
    rw [h.tolerances]
  unfold ofOrientation
  rw [hbounds]
  refine .after _ fun _ => .after _ fun bounds => .after _ fun _ => ?_
  exact (RunsAlike.lift h.orientation.unitRotation_alike).bind fun _ => .pure trivial

-- The first entries, and what is made of them.
theorem first_alike {β : Type} {restored : β → β → Prop} {originals results : List β}
    (h : List.Forall₂ restored originals results) (field : String) {name : β → String}
    {next : β → Logged Float (ConfigError Float) (ResidualModel Float)}
    (hname : ∀ {original result}, restored original result → name result = name original)
    (hnext : ∀ {original result}, restored original result →
      RunsAlike (fun _ _ => True) (next original) (next result)) :
    RunsAlike (fun first second => first.1 = second.1)
      (do
        let entry ← (liftM (firstOf (α := Float) field originals) : Logged Float (ConfigError Float) β)
        let model ← next entry
        return (name entry, model))
      (do
        let entry ← (liftM (firstOf (α := Float) field results) : Logged Float (ConfigError Float) β)
        let model ← next entry
        return (name entry, model)) := by
  cases h with
  | nil => exact .throw _
  | cons hfirst _ => exact (hnext hfirst).bind fun _ => .pure (hname hfirst).symm

theorem ofDescription_alike {original result : Description Float} (h : original.Restored EqualNumbers result)
    (kind : Kind) (settings : Settings Float) :
    RunsAlike (fun first second => first.1 = second.1) (ofDescription kind settings original)
      (ofDescription kind settings result) := by
  unfold ofDescription
  cases kind with
  | boundedPosition => exact first_alike h.positions _ PositionEntry.Restored.link ofBox_alike
  | equalityPosition =>
      exact first_alike h.positions _ PositionEntry.Restored.link fun hentry =>
        ofThinBox_alike hentry settings
  | linearSystemPosition =>
      exact first_alike h.positions _ PositionEntry.Restored.link fun hentry => ofLine_alike hentry settings
  | orientation => exact first_alike h.orientations _ OrientationEntry.Restored.link ofOrientation_alike

end ResidualModel

theorem Description.Restored.selectKind_eq {original result : Description Float}
    (h : original.Restored EqualNumbers result) : result.selectKind = original.selectKind := by
  obtain ⟨name, positions, orientations⟩ := original
  obtain ⟨name', positions', orientations'⟩ := result
  obtain ⟨rfl, hpositions, horientations⟩ := h
  have hlength := hpositions.length_eq
  have hlength' := horientations.length_eq
  unfold selectKind isEmpty
  cases hpositions <;> cases horientations <;> simp_all

namespace Constraint

variable {σ : Type} {original result : Description Float}

theorem ofKind_alike (h : original.Restored EqualNumbers result) (kind : Kind) (group : JointGroup Float σ)
    (settings : Settings Float) :
    RunsAlike (fun _ _ => True) (ofKind kind group settings original)
      (ofKind kind group settings result) := by
  refine .adapt (.after _ fun _ => ?_) _
  refine (ResidualModel.ofDescription_alike h kind settings).bind ?_
  rintro ⟨link, model⟩ ⟨_, model'⟩ rfl
  dsimp only
  split
  · exact .after _ fun _ => .after _ fun _ => .pure trivial
  · exact .after _ fun _ => .pure trivial

-- Numbers that stand for defaults do not count when a constraint is made.
theorem create_alike (h : original.Restored EqualNumbers result) (group : JointGroup Float σ)
    (settings : Settings Float) :
    RunsAlike (fun _ _ => True) (create group original settings) (create group result settings) := by
  unfold create
  rw [h.selectKind_eq, h.name]
  refine .after _ fun kind => .after _ fun _ => ?_
  split
  · exact .after _ fun _ => ofKind_alike h kind group settings
  · exact ofKind_alike h kind group settings

end Constraint

namespace Description

open Toml (Omits Value)

-- Two descriptions that ask for the same kind and are accepted or refused together, for the same reason
-- and with the same reports.
structure TreatedAlike (first second : Description Float) : Prop where
  kind : second.selectKind.outcome = first.selectKind.outcome
  accepted : ∀ {σ : Type} (group : JointGroup Float σ) (settings : Settings Float),
    (∃ constraint, (Constraint.create group second settings).outcome.1 = .ok constraint) ↔
      ∃ constraint, (Constraint.create group first settings).outcome.1 = .ok constraint
  refused : ∀ {σ : Type} (group : JointGroup Float σ) (settings : Settings Float)
    (error : ConstraintError Float),
    (Constraint.create group second settings).outcome.1 = .error error ↔
      (Constraint.create group first settings).outcome.1 = .error error
  reports : ∀ {σ : Type} (group : JointGroup Float σ) (settings : Settings Float),
    (Constraint.create group second settings).outcome.2 = (Constraint.create group first settings).outcome.2

theorem Restored.treatedAlike {original result : Description Float}
    (h : original.Restored EqualNumbers result) : original.TreatedAlike result where
  kind := by rw [h.selectKind_eq]
  accepted group settings := (Constraint.create_alike h group settings []).1.exists_ok_iff.symm
  refused group settings error := ((Constraint.create_alike h group settings []).1.error_iff error).symm
  reports group settings := (Constraint.create_alike h group settings []).2.symm

theorem decode?_eq_of_omits {description : Description Float} {tree : Value}
    (h : Omits (IsDefault Eq) description.encode tree) : decode? tree = some description := by
  obtain ⟨result, hresult, hrestored⟩ := description.readsAs tree h
  rw [hresult, hrestored.eq]

-- A description without NaN is read from what it is written as, also where defaults are left out: as it
-- was if the very numbers of a default stood there, and else as an equal one that is treated alike.
theorem decode?_laws (description : Description Float) (hnumbers : AreNumbers description.numbers) :
    decode? description.encode = some description ∧ description.roundTrips = true ∧
    (∀ tree, Omits (IsDefault EqualNumbers) description.encode tree → ∃ decoded,
      decode? tree = some decoded ∧ (decoded == description) = true ∧ description.TreatedAlike decoded) ∧
    ∀ tree, Omits (IsDefault Eq) description.encode tree → decode? tree = some description := by
  have hdecode : decode? description.encode = some description := decode?_eq_of_omits (.same _)
  have hequal : ∀ tree, Omits (IsDefault EqualNumbers) description.encode tree → ∃ decoded,
      decode? tree = some decoded ∧ (decoded == description) = true ∧ description.TreatedAlike decoded := by
    intro tree htree
    obtain ⟨decoded, hdecoded, hrestored⟩ := description.readsAs tree htree
    exact ⟨decoded, hdecoded, hrestored.beq hnumbers, hrestored.treatedAlike⟩
  refine ⟨hdecode, ?_, hequal, fun _ => decode?_eq_of_omits⟩
  obtain ⟨decoded, hdecoded, hbeq, _⟩ := hequal description.encode (.same _)
  rw [roundTrips, hdecoded]
  exact hbeq

-- A thin plate without end on one axis, turned by what is the identity up to the sign of a zero.
def plate : Description Float :=
  ⟨"", [⟨"tool", ⟨[⟨.box, [1.0 / 0.0, 5e-4, -1.0]⟩], [⟨⟨0.0, 0.0, 0.0⟩, ⟨-0.0, 0.0, 0.0, 1.0⟩⟩]⟩⟩], []⟩

def trimmedPlate : Value :=
  .table [("position_constraints", .array [.table [("link_name", .string "tool"),
    ("constraint_region", .table [
      ("primitives", .array [.table [("dimensions", numberArray [1.0 / 0.0, 5e-4, -1.0])]]),
      ("primitive_poses", .array [.table []])])]])]

theorem omits_trimmedPlate : Omits (IsDefault EqualNumbers) plate.encode trimmedPlate := by
  have hzero : EqualNumbers 0.0 0.0 := by decide +kernel
  have hnegated : EqualNumbers (-0.0) 0.0 := by decide +kernel
  have hone : EqualNumbers 1.0 1.0 := by decide +kernel
  have hposition : IsDefault EqualNumbers "position" (numberArray [0.0, 0.0, 0.0]) :=
    ⟨_, rfl, .array (.cons (.number hzero) (.cons (.number hzero) (.cons (.number hzero) .nil)))⟩
  have horientation : IsDefault EqualNumbers "orientation" (numberArray [-0.0, 0.0, 0.0, 1.0]) :=
    ⟨_, rfl, .array (.cons (.number hnegated) (.cons (.number hzero) (.cons (.number hzero)
      (.cons (.number hone) .nil))))⟩
  have hplacement : Omits (IsDefault EqualNumbers) (Placement.encode ⟨⟨0.0, 0.0, 0.0⟩, ⟨-0.0, 0.0, 0.0, 1.0⟩⟩)
      (.table []) := .table (.leave hposition (.leave horientation .nil))
  have hprimitive : Omits (IsDefault EqualNumbers) (Primitive.encode ⟨.box, [1.0 / 0.0, 5e-4, -1.0]⟩)
      (.table [("dimensions", numberArray [1.0 / 0.0, 5e-4, -1.0])]) :=
    .table (.leave ⟨_, rfl, .text "box"⟩ (.keep (.same _) .nil))
  refine .table (.leave ⟨_, rfl, .text ""⟩
    (.keep (.array (.cons ?_ .nil)) (.leave ⟨_, rfl, .array .nil⟩ .nil)))
  refine .table (.keep (.same _) (.keep (.table ?_) .nil))
  exact .keep (.array (.cons hprimitive .nil)) (.keep (.array (.cons hplacement .nil)) .nil)

theorem decode?_trimmedPlate : AreNumbers plate.numbers ∧ ∃ decoded, decode? trimmedPlate = some decoded ∧
    (decoded == plate) = true ∧ plate.TreatedAlike decoded := by
  have hnumbers : AreNumbers plate.numbers := by decide +kernel
  exact ⟨hnumbers, (decode?_laws plate hnumbers).2.2.1 trimmedPlate omits_trimmedPlate⟩

end Description

end TaskSpace.Constraints
