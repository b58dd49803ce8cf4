import Mathlib
import TaskSpace.Kinematics.Robots
import TaskSpace.Proofs.Constraints.Acceptance
import TaskSpace.Proofs.Constraints.Reading

namespace TaskSpace.Constraints

open Rigid Kinematics

-- A chain, and constraints made for it.
structure Session (ι α : Type) [ExtendedScalar α] where
  chain : Chain α
  constraints : ι → Constraint α (Scratchpad α)
  made : ∀ index, (constraints index).IsMadeFor chain.jointGroup

inductive Request (ι : Type)
  | linkPose (link : String)
  | geometricJacobian (link : String)
  | evaluation (index : ι) (method : Method)

-- Scratchpads are numbered in the order in which they come up. A copy is made of one as it is then.
inductive Step (ι α : Type)
  | create
  | copy (pad : Nat)
  | ask (pad : Nat) (request : Request ι) (positions : List α)

structure Entry (ι α : Type) where
  request : Request ι
  positions : List α
  outcome : Except (ConstraintError α) (Reply α)

namespace Session

variable {ι α : Type} [ExtendedScalar α] (session : Session ι α)

def ask (positions : List α) : Request ι → Query (Scratchpad α) (ConstraintError α) (Reply α)
  | .linkPose link => do
    return .pose (← ExceptT.adapt .kinematics (session.chain.jointGroup.linkPose positions link))
  | .geometricJacobian link => do
    return .twists
      (← ExceptT.adapt .kinematics (session.chain.jointGroup.geometricJacobian positions link))
  | .evaluation index method => (session.constraints index).ask positions method

-- What a question is answered by a scratchpad that holds nothing.
def freshAnswer (request : Request ι) (positions : List α) : Except (ConstraintError α) (Reply α) :=
  (session.ask positions request).answer session.chain.jointGroup.newScratchpad

-- The scratchpads after a step, and the answer if it asks for one.
def perform (pads : List (Scratchpad α)) : Step ι α → List (Scratchpad α) × List (Entry ι α)
  | .create => (pads ++ [session.chain.jointGroup.newScratchpad], [])
  | .copy index =>
    match pads[index]? with
    | none => (pads, [])
    | some pad => (pads ++ [pad], [])
  | .ask index request positions =>
    match pads[index]? with
    | none => (pads, [])
    | some pad =>
      let query := session.ask positions request
      (pads.set index (query.after pad), [⟨request, positions, query.answer pad⟩])

def transcript (pads : List (Scratchpad α)) : List (Step ι α) → List (Entry ι α)
  | [] => []
  | step :: steps =>
    let (pads, entries) := session.perform pads step
    entries ++ transcript pads steps

-- What a question reads from the frames once it has passed the checks.
def verdict (positions : List α) : Request ι → Except (ConstraintError α) (Scratchpad α → Reply α)
  | .linkPose link => ((session.chain.resolve positions link).mapError .kinematics).map
      fun place pad => .pose (pad.linkPose place)
  | .geometricJacobian link => ((session.chain.resolve positions link).mapError .kinematics).map
      fun place pad => .twists (pad.jacobian session.chain.joints place)
  | .evaluation index method => ((session.constraints index).resolve session.chain positions).map
      fun place pad => (session.constraints index).reply (pad.linkPose place)
        (pad.jacobian session.chain.joints place) method

-- Of the positions the checks see their number only.
theorem verdict_congr {first second : List α} (hlength : first.length = second.length)
    (request : Request ι) : session.verdict first request = session.verdict second request := by
  cases request <;> simp only [verdict, Constraint.resolve, Chain.resolve, hlength]

theorem answersAs (index : ι) : AnswersAs session.chain (session.constraints index).group :=
  .of_eq (session.made index).group_eq

theorem readsAt_ask (positions : List α) (request : Request ι) :
    Query.ReadsAt session.chain positions (session.ask positions request)
      (session.verdict positions request) := by
  cases request with
  | linkPose link =>
      have hpose := session.chain.readsAt_linkPose positions link
      exact (hpose.adapt (ConstraintError.kinematics (α := α))).map Reply.pose
  | geometricJacobian link =>
      have hjacobian := session.chain.readsAt_geometricJacobian positions link
      exact (hjacobian.adapt (ConstraintError.kinematics (α := α))).map Reply.twists
  | evaluation index method =>
      exact Constraint.readsAt_ask (session.answersAs index) positions method

-- An answer that a scratchpad without history gives to the same question. What such a scratchpad keeps
-- it keeps for all positions that compare equal, so that in a number system where different numbers may
-- compare equal the question can be one of those.
structure AnsweredAsFresh (entry : Entry ι α) : Prop where
  known : ∃ known, (known = entry.positions ∨ (known == entry.positions) = true) ∧
    entry.outcome = session.freshAnswer entry.request known
  exact : (∀ a b : α, (a == b) = true → a = b) →
    entry.outcome = session.freshAnswer entry.request entry.positions

variable {session}

theorem answeredAsFresh {pad : Scratchpad α} (hpad : pad.Remembers session.chain)
    (request : Request ι) (positions : List α) :
    session.AnsweredAsFresh
      ⟨request, positions, (session.ask positions request).answer pad⟩ := by
  obtain ⟨known, hknown, hupdate⟩ := hpad.update_eq session.chain positions
  have hlength : known.length = positions.length := by
    rcases hknown with rfl | hbeq
    · rfl
    · exact (forall₂_of_beq hbeq).length_eq
  have hanswer : (session.ask positions request).answer pad = session.freshAnswer request known := by
    rw [freshAnswer, (session.readsAt_ask positions request).answer_eq, hupdate,
      (session.readsAt_ask known request).answer_eq, session.verdict_congr hlength]
    rw [Chain.jointGroup, Scratchpad.update_fresh]
  constructor
  · exact ⟨known, hknown, hanswer⟩
  · intro heq
    rcases hknown with rfl | hbeq
    · exact hanswer
    · have hsame : List.Forall₂ Eq known positions := (forall₂_of_beq hbeq).imp heq
      rw [List.forall₂_eq_eq_eq] at hsame
      rw [hanswer, hsame]

-- One step keeps what the scratchpads remember, and its answer is not changed by their history.
theorem perform_remembers {pads : List (Scratchpad α)}
    (hpads : ∀ pad ∈ pads, pad.Remembers session.chain) (step : Step ι α) :
    (∀ pad ∈ (session.perform pads step).1, pad.Remembers session.chain) ∧
      ∀ entry ∈ (session.perform pads step).2, session.AnsweredAsFresh entry := by
  cases step with
  | create =>
      have hfresh := Scratchpad.remembers_fresh session.chain session.chain.dof
      exact ⟨List.forall_mem_append.mpr ⟨hpads, List.forall_mem_singleton.mpr hfresh⟩, by simp [perform]⟩
  | copy index =>
      cases hget : pads[index]? with
      | none =>
          have hperform : session.perform pads (.copy index) = (pads, []) := by
            simp only [perform, hget]
          rw [hperform]
          exact ⟨hpads, by simp⟩
      | some original =>
          have hperform : session.perform pads (.copy index) = (pads ++ [original], []) := by
            simp only [perform, hget]
          have hcopied := hpads original (List.mem_of_getElem? hget)
          rw [hperform]
          exact ⟨List.forall_mem_append.mpr ⟨hpads, List.forall_mem_singleton.mpr hcopied⟩, by simp⟩
  | ask index request positions =>
      cases hget : pads[index]? with
      | none =>
          have hperform : session.perform pads (.ask index request positions) = (pads, []) := by
            simp only [perform, hget]
          rw [hperform]
          exact ⟨hpads, by simp⟩
      | some asked =>
          have hasked := hpads asked (List.mem_of_getElem? hget)
          have hperform : session.perform pads (.ask index request positions) =
              (pads.set index ((session.ask positions request).after asked),
                [⟨request, positions, (session.ask positions request).answer asked⟩]) := by
            simp only [perform, hget]
          rw [hperform]
          constructor
          · intro pad hpad
            rcases List.mem_or_eq_of_mem_set hpad with hold | rfl
            · exact hpads pad hold
            · exact (session.readsAt_ask positions request).after_remembers hasked
          · intro entry hentry
            rw [List.mem_singleton.mp hentry]
            exact answeredAsFresh hasked request positions

theorem transcript_remembers {pads : List (Scratchpad α)}
    (hpads : ∀ pad ∈ pads, pad.Remembers session.chain) (steps : List (Step ι α)) :
    ∀ entry ∈ session.transcript pads steps, session.AnsweredAsFresh entry := by
  induction steps generalizing pads with
  | nil => simp [transcript]
  | cons step steps ih =>
      obtain ⟨hafter, hentries⟩ := perform_remembers hpads step
      intro entry hentry
      rcases List.mem_append.mp hentry with hnow | hlater
      · exact hentries entry hnow
      · exact ih hafter entry hlater

-- Whatever was asked before, of whichever scratchpad and with whichever outcome, a question is answered
-- as by a fresh scratchpad.
theorem transcript_answeredAsFresh (session : Session ι α) (steps : List (Step ι α)) :
    ∀ entry ∈ session.transcript [] steps, session.AnsweredAsFresh entry :=
  transcript_remembers (by simp) steps

-- One constraint, evaluated at positions that equal nothing, and a copy that is asked with too few
-- positions.
theorem cartesianWrist_answeredAsFresh :
    ∃ session : Session Unit ExtendedReal, session.chain = Robots.cartesianWrist ∧
      (session.transcript [] [.create, .ask 0 (.evaluation () .evaluate) (.replicate 6 .nan), .copy 0,
        .ask 1 (.linkPose Robots.toolLink) []]).length = 2 ∧
      ∀ entry ∈ session.transcript [] [.create, .ask 0 (.evaluation () .evaluate) (.replicate 6 .nan),
        .copy 0, .ask 1 (.linkPose Robots.toolLink) []],
        entry.outcome = session.freshAnswer entry.request entry.positions := by
  have hunit := Quat.isUnit_identity
  have hextents : ∀ axis, 0 ≤ (⟨1, 1, 1⟩ : Vec3 ℝ).get axis := by
    rintro (_ | _ | _) <;> exact zero_le_one
  obtain ⟨constraint, hmade⟩ : ∃ constraint,
      (Constraint.ofKind .boundedPosition Robots.cartesianWrist.jointGroup .standard
        (.boundedBox Robots.toolLink (⟨1, 1, 1⟩ : Vec3 ℝ).extend .zero)).outcome.1 = .ok constraint :=
    ⟨_, Constraint.ofKind_boundedPosition Settings.validate_standard rfl hextents
      (by rw [hunit]; norm_num) rfl⟩
  let session : Session Unit ExtendedReal :=
    { chain := Robots.cartesianWrist
      constraints := fun _ => constraint
      made := fun _ => ⟨_, _, _, hmade⟩ }
  refine ⟨session, rfl, rfl, fun entry hentry => ?_⟩
  exact (session.transcript_answeredAsFresh _ entry hentry).exact fun _ _ => ExtendedReal.eq_of_beq

end Session

end TaskSpace.Constraints
