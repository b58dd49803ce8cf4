import Mathlib
import TaskSpace.Proofs.Constraints.Making

namespace TaskSpace.Constraints

open Rigid Kinematics

-- Something that is asked of an input, and the fault of an input that does not have it.
structure Requirement (ε : Type) where
  met : Prop
  fault : ε

namespace Requirement

variable {ε δ β γ σ : Type}

def mapFault (f : ε → δ) (requirement : Requirement ε) : Requirement δ :=
  ⟨requirement.met, f requirement.fault⟩

def onAxes (requirements : Axis → List (Requirement ε)) : List (Requirement ε) :=
  Axis.all.flatMap requirements

def AllMet (requirements : List (Requirement ε)) : Prop :=
  ∀ requirement ∈ requirements, requirement.met

-- Requirements are gone through in their order. The first that is not met counts.
inductive FirstFault : List (Requirement ε) → ε → Prop
  | here {requirement : Requirement ε} {others : List (Requirement ε)} (hunmet : ¬requirement.met) :
      FirstFault (requirement :: others) requirement.fault
  | later {requirement : Requirement ε} {others : List (Requirement ε)} {fault : ε}
      (hmet : requirement.met) (hothers : FirstFault others fault) :
      FirstFault (requirement :: others) fault

-- An outcome that says whether all requirements are met, and which fault comes first if they are not.
def Judges (requirements : List (Requirement ε)) : Except ε β → Prop
  | .ok _ => AllMet requirements
  | .error fault => FirstFault requirements fault

theorem allMet_nil : AllMet ([] : List (Requirement ε)) := fun _ h => absurd h List.not_mem_nil

theorem allMet_cons_iff {requirement : Requirement ε} {others : List (Requirement ε)} :
    AllMet (requirement :: others) ↔ requirement.met ∧ AllMet others := List.forall_mem_cons

theorem allMet_append_iff {first second : List (Requirement ε)} :
    AllMet (first ++ second) ↔ AllMet first ∧ AllMet second := List.forall_mem_append

theorem allMet_map_iff {requirements : List (Requirement ε)} (f : ε → δ) :
    AllMet (requirements.map (mapFault f)) ↔ AllMet requirements := List.forall_mem_map

namespace FirstFault

variable {requirements first second : List (Requirement ε)} {fault : ε}

theorem not_allMet (h : FirstFault requirements fault) : ¬AllMet requirements := by
  induction h with
  | here hunmet => exact fun hall => hunmet (allMet_cons_iff.mp hall).1
  | later _ _ ih => exact fun hall => ih (allMet_cons_iff.mp hall).2

theorem unique {other : ε} (h : FirstFault requirements fault) (hother : FirstFault requirements other) :
    fault = other := by
  induction h with
  | here hunmet =>
      cases hother with
      | here => rfl
      | later hmet => exact absurd hmet hunmet
  | later hmet _ ih =>
      cases hother with
      | here hunmet => exact absurd hmet hunmet
      | later _ hothers => exact ih hothers

theorem append_right (h : FirstFault first fault) (second : List (Requirement ε)) :
    FirstFault (first ++ second) fault := by
  induction h with
  | here hunmet => exact .here hunmet
  | later hmet _ ih => exact .later hmet ih

theorem append_left (hfirst : AllMet first) (h : FirstFault second fault) :
    FirstFault (first ++ second) fault := by
  induction first with
  | nil => exact h
  | cons requirement others ih =>
      obtain ⟨hmet, hothers⟩ := allMet_cons_iff.mp hfirst
      exact .later hmet (ih hothers)

theorem map (f : ε → δ) (h : FirstFault requirements fault) :
    FirstFault (requirements.map (mapFault f)) (f fault) := by
  induction h with
  | here hunmet => exact .here hunmet
  | later hmet _ ih => exact .later hmet ih

end FirstFault

namespace Judges

variable {requirements first second : List (Requirement ε)} {outcome : Except ε β}

-- Success and every failure are decided by the requirements alone.
theorem ok_iff (h : Judges requirements outcome) : (∃ value, outcome = .ok value) ↔ AllMet requirements := by
  cases outcome with
  | ok value => exact ⟨fun _ => h, fun _ => ⟨value, rfl⟩⟩
  | error fault => exact ⟨nofun, fun hall => absurd hall h.not_allMet⟩

theorem error_iff (h : Judges requirements outcome) (fault : ε) :
    outcome = .error fault ↔ FirstFault requirements fault := by
  cases outcome with
  | ok value => exact ⟨nofun, fun hfault => absurd h hfault.not_allMet⟩
  | error other =>
      refine ⟨?_, fun hfault => ?_⟩
      · rintro ⟨⟩
        exact h
      · rw [FirstFault.unique h hfault]

theorem ok {value : β} : Judges ([] : List (Requirement ε)) (.ok value) := allMet_nil

-- A check, and what follows it where it is passed.
theorem cons {met : Prop} {fault : ε} (hunmet : ¬met → outcome = .error fault)
    (hmet : met → Judges requirements outcome) : Judges (⟨met, fault⟩ :: requirements) outcome := by
  by_cases h : met
  · have hrest := hmet h
    cases outcome with
    | ok value => exact allMet_cons_iff.mpr ⟨h, hrest⟩
    | error other => exact .later h hrest
  · rw [hunmet h]
    exact .here h

theorem ite {met condition : Prop} [Decidable condition] {fault : ε} {refusal rest : Except ε β}
    (hcondition : condition ↔ ¬met) (hrefusal : refusal = .error fault)
    (hrest : met → Judges requirements rest) :
    Judges (⟨met, fault⟩ :: requirements) (if condition then refusal else rest) := by
  refine cons (fun hunmet => ?_) fun hmet => ?_
  · rw [if_pos (hcondition.mpr hunmet), hrefusal]
  · rw [if_neg fun h => hcondition.mp h hmet]
    exact hrest hmet

-- The check as it is written in a sequence, and at its end.
theorem guard {met condition : Prop} [Decidable condition] {fault : ε} {rest : Unit → Except ε β}
    (hcondition : condition ↔ ¬met) (hrest : met → Judges requirements (rest ())) :
    Judges (⟨met, fault⟩ :: requirements) (if condition then throw fault >>= rest else rest ()) :=
  ite hcondition rfl hrest

theorem guard_last {met condition : Prop} [Decidable condition] {fault : ε} {value : β}
    (hcondition : condition ↔ ¬met) :
    Judges [⟨met, fault⟩] (if condition then throw fault else pure value) :=
  ite hcondition rfl fun _ => ok

theorem bind {next : β → Except ε γ} (h : Judges first outcome)
    (hnext : ∀ value, outcome = .ok value → Judges second (next value)) :
    Judges (first ++ second) (outcome >>= next) := by
  cases outcome with
  | error fault => exact h.append_right second
  | ok value =>
      have hsecond : Judges second (next value) := hnext value rfl
      change Judges (first ++ second) (next value)
      cases hvalue : next value with
      | ok result =>
          rw [hvalue] at hsecond
          exact allMet_append_iff.mpr ⟨h, hsecond⟩
      | error fault =>
          rw [hvalue] at hsecond
          exact .append_left h hsecond

theorem map (h : Judges requirements outcome) (f : β → γ) : Judges requirements (outcome.map f) := by
  cases outcome <;> exact h

theorem mapError (h : Judges requirements outcome) (f : ε → δ) :
    Judges (requirements.map (mapFault f)) (outcome.mapError f) := by
  cases outcome with
  | ok value => exact (allMet_map_iff f).mpr h
  | error fault => exact FirstFault.map f h

theorem ofAxesM {requirements : Axis → List (Requirement ε)} {entry : Axis → Except ε β}
    (h : ∀ axis, Judges (requirements axis) (entry axis)) :
    Judges (onAxes requirements) (Vec3.ofAxesM entry) := by
  unfold onAxes Vec3.ofAxesM
  refine (h .x).bind fun x _ => (h .y).bind fun y _ => (h .z).bind fun z _ => ok

section Queries

variable {query : Query σ ε β} {next : β → Query σ ε γ} {storage : σ}

theorem query_guard {met condition : Prop} [Decidable condition] {fault : ε} {rest : Unit → Query σ ε β}
    (hcondition : condition ↔ ¬met) (hrest : met → Judges requirements ((rest ()).answer storage)) :
    Judges (⟨met, fault⟩ :: requirements)
      (Query.answer (if condition then throw fault >>= rest else rest ()) storage) := by
  rw [apply_ite (Query.answer · storage)]
  exact ite hcondition rfl hrest

theorem query_bind (h : Judges first (query.answer storage))
    (hnext : ∀ value later, query.answer storage = .ok value → Judges second ((next value).answer later)) :
    Judges (first ++ second) ((query >>= next).answer storage) := by
  rw [Query.answer_bind]
  exact h.bind fun value hvalue => hnext value _ hvalue

-- What comes last may ask for nothing more.
theorem query_then (h : Judges first (query.answer storage))
    (hnext : ∀ value later, ∃ result, (next value).answer later = .ok result) :
    Judges first ((query >>= next).answer storage) := by
  have hbind := h.query_bind fun value later _ => by
    obtain ⟨result, hresult⟩ := hnext value later
    rw [hresult]
    exact ok
  rwa [List.append_nil] at hbind

theorem query_ofAxesM {requirements : Axis → List (Requirement ε)} {entry : Axis → Query σ ε β}
    (h : ∀ axis storage, Judges (requirements axis) ((entry axis).answer storage)) (storage : σ) :
    Judges (onAxes requirements) (Query.answer (Vec3.ofAxesM entry) storage) := by
  unfold onAxes Vec3.ofAxesM
  exact (h .x _).query_bind fun x _ _ => (h .y _).query_bind fun y _ _ => (h .z _).query_bind fun z _ _ => ok

end Queries

end Judges

end Requirement

end TaskSpace.Constraints
