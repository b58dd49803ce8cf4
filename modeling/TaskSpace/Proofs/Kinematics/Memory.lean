import Mathlib
import TaskSpace.Kinematics.JointGroup

namespace TaskSpace.Kinematics

open Rigid

namespace Query

variable {σ ε δ β γ : Type}

-- What a query answers to a storage, together with the storage it leaves.
def exec (query : Query σ ε β) (storage : σ) : Except ε β × σ := (ExceptT.run query).run storage

def answer (query : Query σ ε β) (storage : σ) : Except ε β := (query.exec storage).1

def after (query : Query σ ε β) (storage : σ) : σ := (query.exec storage).2

theorem exec_bind (query : Query σ ε β) (next : β → Query σ ε γ) (storage : σ) :
    (query >>= next).exec storage =
      match query.exec storage with
      | (.error error, storage) => (.error error, storage)
      | (.ok value, storage) => (next value).exec storage := by
  change (match query.exec storage with
    | (outcome, storage) => (ExceptT.bindCont next outcome).run storage) = _
  rcases query.exec storage with ⟨_ | _, _⟩ <;> rfl

theorem answer_bind (query : Query σ ε β) (next : β → Query σ ε γ) (storage : σ) :
    (query >>= next).answer storage =
      query.answer storage >>= fun value => (next value).answer (query.after storage) := by
  unfold answer after
  rw [exec_bind]
  rcases query.exec storage with ⟨_ | _, _⟩ <;> rfl

theorem exists_of_answer_bind {query : Query σ ε β} {next : β → Query σ ε γ} {storage : σ} {result : γ}
    (h : (query >>= next).answer storage = .ok result) :
    ∃ value, query.answer storage = .ok value ∧
      (next value).answer (query.after storage) = .ok result := by
  unfold answer after at *
  rw [exec_bind] at h
  rcases hquery : query.exec storage with ⟨error | value, storage'⟩
  · rw [hquery] at h
    cases h
  · rw [hquery] at h
    exact ⟨value, rfl, h⟩

theorem answer_bind_of_ok {query : Query σ ε β} {storage : σ} {value : β}
    (h : query.answer storage = .ok value) (next : β → Query σ ε γ) :
    (query >>= next).answer storage = (next value).answer (query.after storage) := by
  unfold answer after at *
  rw [exec_bind]
  rcases hquery : query.exec storage with ⟨error | other, storage'⟩
  · rw [hquery] at h
    cases h
  · rw [hquery] at h
    cases h
    rfl

theorem exec_adapt (query : Query σ ε β) (f : ε → δ) (storage : σ) :
    Query.exec (ExceptT.adapt f query) storage =
      ((query.exec storage).1.mapError f, (query.exec storage).2) := rfl

theorem answer_adapt (query : Query σ ε β) (f : ε → δ) (storage : σ) :
    Query.answer (ExceptT.adapt f query) storage = (query.answer storage).mapError f := rfl

theorem answer_adapt_eq_ok {query : Query σ ε β} {f : ε → δ} {storage : σ} {value : β} :
    Query.answer (ExceptT.adapt f query) storage = .ok value ↔ query.answer storage = .ok value := by
  unfold answer
  rw [exec_adapt]
  cases (query.exec storage).1 <;> simp [Except.mapError]

theorem answer_lift (outcome : Except ε β) (storage : σ) :
    (liftM outcome : Query σ ε β).answer storage = outcome := by
  cases outcome <;> rfl

theorem answer_map (query : Query σ ε β) (f : β → γ) (storage : σ) :
    Query.answer (do return f (← query)) storage = (query.answer storage).map f := by
  rw [answer_bind]
  cases query.answer storage <;> rfl

end Query

variable {α : Type} [Scalar α]

-- Lists that compare equal do so entry by entry, whatever the comparison of their entries is.
theorem forall₂_of_beq {β : Type} [BEq β] {first second : List β} (h : (first == second) = true) :
    List.Forall₂ (fun a b => (a == b) = true) first second := by
  induction first generalizing second with
  | nil =>
      cases second with
      | nil => exact .nil
      | cons other second => cases h
  | cons entry first ih =>
      cases second with
      | nil => cases h
      | cons other second =>
          rw [List.cons_beq_cons, Bool.and_eq_true] at h
          exact .cons h.1 (ih h.2)

namespace Scratchpad

variable (pad : Scratchpad α) (chain : Chain α) (positions : List α)

@[simp] theorem fill_positions : (fill chain positions).positions = positions := rfl

@[simp] theorem fill_filled : (fill chain positions).filled = true := rfl

theorem fill_joints :
    (fill chain positions).joints = (Chain.jointFrames .identity chain.joints positions).1 := rfl

theorem fill_tip : (fill chain positions).tip =
    (Chain.jointFrames .identity chain.joints positions).2 * chain.tipOffset := rfl

-- Bringing a scratchpad up to date twice is bringing it up to date once, also where the positions
-- are not equal to themselves.
theorem update_update : (pad.update chain positions).update chain positions = pad.update chain positions := by
  unfold update
  by_cases hholds : pad.holds chain.dof positions <;> simp [hholds]

-- A scratchpad that only one chain has used: once filled, it holds the frames of its positions.
def Remembers (chain : Chain α) (pad : Scratchpad α) : Prop :=
  pad.filled = true → pad = fill chain pad.positions

theorem remembers_fresh (size : Nat) : (fresh size : Scratchpad α).Remembers chain := by
  intro h
  simp [fresh] at h

theorem remembers_fill : (fill chain positions).Remembers chain := fun _ => rfl

theorem Remembers.update {pad : Scratchpad α} (h : pad.Remembers chain) :
    (pad.update chain positions).Remembers chain := by
  unfold Scratchpad.update
  split
  · exact h
  · exact remembers_fill chain positions

-- What is read from such a scratchpad belongs to the positions asked for, or to positions that
-- compare equal to them.
theorem Remembers.update_eq {pad : Scratchpad α} (h : pad.Remembers chain) :
    ∃ known, (known = positions ∨ (known == positions) = true) ∧
      pad.update chain positions = fill chain known := by
  unfold Scratchpad.update
  split
  · rename_i hholds
    simp only [holds, Bool.and_eq_true] at hholds
    exact ⟨pad.positions, Or.inr hholds.2, h hholds.1.2⟩
  · exact ⟨positions, Or.inl rfl, rfl⟩

-- Frames that have to be recomputed are those of the positions asked for, whoever used the scratchpad
-- before. So are those that the chain finds, where only equal numbers compare equal.
theorem update_eq_fill {pad : Scratchpad α} (heq : ∀ a b : α, (a == b) = true → a = b)
    (hpad : pad.holds chain.dof positions = true → pad.Remembers chain) :
    pad.update chain positions = fill chain positions := by
  unfold update
  split
  · rename_i hholds
    have hremembers := hpad hholds
    simp only [holds, Bool.and_eq_true] at hholds
    have hsame : List.Forall₂ Eq pad.positions positions := (forall₂_of_beq hholds.2).imp heq
    rw [List.forall₂_eq_eq_eq] at hsame
    rw [← hsame]
    exact hremembers hholds.1.2
  · rfl

theorem update_fresh (size : Nat) : (fresh size).update chain positions = fill chain positions := by
  simp [update, holds, fresh]

end Scratchpad

namespace Query

-- A query that reads the frames of a joint vector: it either fails at once and leaves the scratchpad
-- alone, or brings it up to date and reads the answer from it. The verdict does not see the scratchpad.
def ReadsAt {ε β : Type} (chain : Chain α) (positions : List α) (query : Query (Scratchpad α) ε β)
    (verdict : Except ε (Scratchpad α → β)) : Prop :=
  ∀ pad, query.exec pad =
    match verdict with
    | .error error => (.error error, pad)
    | .ok read => (.ok (read (pad.update chain positions)), pad.update chain positions)

namespace ReadsAt

variable {ε δ β γ ζ : Type} {chain : Chain α} {positions : List α}
  {query : Query (Scratchpad α) ε β} {verdict : Except ε (Scratchpad α → β)}
  {other : Query (Scratchpad α) ε γ} {otherVerdict : Except ε (Scratchpad α → γ)}

theorem answer_eq (h : ReadsAt chain positions query verdict) (pad : Scratchpad α) :
    query.answer pad = verdict.map (· (pad.update chain positions)) := by
  unfold answer
  rw [h pad]
  cases verdict <;> rfl

theorem after_remembers (h : ReadsAt chain positions query verdict) {pad : Scratchpad α}
    (hpad : pad.Remembers chain) : (query.after pad).Remembers chain := by
  unfold after
  rw [h pad]
  cases verdict with
  | error error => exact hpad
  | ok read => exact hpad.update chain positions

theorem map {ι : Type} {resolved : Except ε ι} {read : ι → Scratchpad α → β}
    (h : ReadsAt chain positions query (resolved.map read)) (f : β → γ) :
    ReadsAt chain positions (do return f (← query))
      (resolved.map fun index pad => f (read index pad)) := by
  intro pad
  rw [exec_bind, h pad]
  cases resolved <;> rfl

theorem adapt {ι : Type} {resolved : Except ε ι} {read : ι → Scratchpad α → β}
    (h : ReadsAt chain positions query (resolved.map read)) (f : ε → δ) :
    ReadsAt chain positions (ExceptT.adapt f query) ((resolved.mapError f).map read) := by
  intro pad
  rw [exec_adapt, h pad]
  cases resolved <;> rfl

-- The second of two queries finds the scratchpad up to date. It must not fail after the first one:
-- a failure would leave the updated scratchpad behind.
theorem both (h : ReadsAt chain positions query verdict)
    (ho : ReadsAt chain positions other otherVerdict)
    (hok : ∀ read, verdict = .ok read → ∃ readOther, otherVerdict = .ok readOther)
    (f : β → γ → ζ) :
    ReadsAt chain positions (do let first ← query; let second ← other; return f first second)
      (do
        let read ← verdict
        let readOther ← otherVerdict
        return fun pad => f (read pad) (readOther pad)) := by
  intro pad
  rw [exec_bind, h pad]
  cases verdict with
  | error error => rfl
  | ok read =>
      obtain ⟨readOther, rfl⟩ := hok read rfl
      change Query.exec (do let second ← other; return f _ second) (pad.update chain positions) = _
      rw [exec_bind, ho (pad.update chain positions), Scratchpad.update_update]
      rfl

end ReadsAt

end Query

namespace Chain

variable (chain : Chain α) (positions : List α) (link : String)

-- What the chain checks before it looks at a scratchpad.
def resolve : Except KinematicsError LinkIndex :=
  if positions.length ≠ chain.dof then .error (.jointDimension chain.dof positions.length)
  else
    match chain.linkIndex? link with
    | none => .error (.unknownLink link)
    | some index => .ok index

theorem exec_locate (pad : Scratchpad α) :
    (chain.locate positions link).exec pad =
      match chain.resolve positions link with
      | .error error => (.error error, pad)
      | .ok index => (.ok index, pad.update chain positions) := by
  unfold locate resolve
  by_cases hlength : positions.length ≠ chain.dof
  · simp only [if_pos hlength]
    rfl
  · simp only [if_neg hlength]
    cases chain.linkIndex? link <;> rfl

theorem readsAt_linkPose : Query.ReadsAt chain positions (chain.linkPose positions link)
    ((chain.resolve positions link).map fun index pad => pad.linkPose index) := by
  intro pad
  unfold linkPose
  rw [Query.exec_bind, exec_locate]
  cases chain.resolve positions link <;> rfl

theorem readsAt_geometricJacobian :
    Query.ReadsAt chain positions (chain.geometricJacobian positions link)
      ((chain.resolve positions link).map fun index pad => pad.jacobian chain.joints index) := by
  intro pad
  unfold geometricJacobian
  rw [Query.exec_bind, exec_locate]
  cases chain.resolve positions link <;> rfl

variable {chain positions link} {place : LinkIndex}

omit [Scalar α] in
theorem resolve_eq_ok (hlength : positions.length = chain.dof)
    (hlink : chain.linkIndex? link = some place) : chain.resolve positions link = .ok place := by
  simp [resolve, hlength, hlink]

omit [Scalar α] in
theorem of_resolve_eq_ok (h : chain.resolve positions link = .ok place) :
    positions.length = chain.dof ∧ chain.linkIndex? link = some place := by
  unfold resolve at h
  split at h
  · cases h
  · rename_i hlength
    cases hlink : chain.linkIndex? link with
    | none => rw [hlink] at h; cases h
    | some index => rw [hlink] at h; cases h; exact ⟨not_not.mp hlength, rfl⟩

theorem answer_linkPose (hlength : positions.length = chain.dof)
    (hlink : chain.linkIndex? link = some place) (pad : Scratchpad α) :
    (chain.jointGroup.linkPose positions link).answer pad =
      .ok ((pad.update chain positions).linkPose place) := by
  refine ((chain.readsAt_linkPose positions link).answer_eq pad).trans ?_
  rw [resolve_eq_ok hlength hlink]
  rfl

theorem answer_geometricJacobian (hlength : positions.length = chain.dof)
    (hlink : chain.linkIndex? link = some place) (pad : Scratchpad α) :
    (chain.jointGroup.geometricJacobian positions link).answer pad =
      .ok ((pad.update chain positions).jacobian chain.joints place) := by
  refine ((chain.readsAt_geometricJacobian positions link).answer_eq pad).trans ?_
  rw [resolve_eq_ok hlength hlink]
  rfl

theorem answer_linkPose_fresh (hlength : positions.length = chain.dof)
    (hlink : chain.linkIndex? link = some place) :
    (chain.jointGroup.linkPose positions link).answer chain.jointGroup.newScratchpad =
      .ok ((Scratchpad.fill chain positions).linkPose place) := by
  rw [answer_linkPose hlength hlink, jointGroup, Scratchpad.update_fresh]

theorem answer_geometricJacobian_fresh (hlength : positions.length = chain.dof)
    (hlink : chain.linkIndex? link = some place) :
    (chain.jointGroup.geometricJacobian positions link).answer chain.jointGroup.newScratchpad =
      .ok ((Scratchpad.fill chain positions).jacobian chain.joints place) := by
  rw [answer_geometricJacobian hlength hlink, jointGroup, Scratchpad.update_fresh]

end Chain

end TaskSpace.Kinematics
