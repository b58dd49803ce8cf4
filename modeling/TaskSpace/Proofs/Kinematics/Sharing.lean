import Mathlib
import TaskSpace.Kinematics.Robots
import TaskSpace.Proofs.Kinematics.Arrays

namespace TaskSpace.Kinematics

open Rigid

inductive Question
  | linkPose
  | geometricJacobian

-- A question about a link of some chain. Calls of different chains may go to one scratchpad.
structure Call (α : Type) where
  chain : Chain α
  positions : List α
  link : String
  question : Question

inductive Reading (α : Type)
  | pose (value : Pose α)
  | twists (value : List (Twist α))

namespace Call

section Single

variable {α : Type} [Scalar α] (call : Call α) (pad : Scratchpad α)

def query : Query (Scratchpad α) KinematicsError (Reading α) :=
  match call.question with
  | .linkPose => do return .pose (← call.chain.linkPose call.positions call.link)
  | .geometricJacobian => do return .twists (← call.chain.geometricJacobian call.positions call.link)

-- What a call reads from a scratchpad: it brings the place of its link and the kinds of its joints.
def read (place : LinkIndex) : Reading α :=
  match call.question with
  | .linkPose => .pose (pad.linkPose place)
  | .geometricJacobian => .twists (pad.jacobian call.chain.joints place)

def resolve : Except KinematicsError LinkIndex := call.chain.resolve call.positions call.link

def freshAnswer : Except KinematicsError (Reading α) :=
  call.query.answer call.chain.jointGroup.newScratchpad

-- The same call on the arrays.
def perform? (arrays : Arrays α) : Option (Except KinematicsError (Reading α) × Arrays α) :=
  match call.resolve with
  | .error error => some (.error error, arrays)
  | .ok place => do
    let arrays ← arrays.update? call.chain call.positions
    let reading ← match call.question with
      | .linkPose => (arrays.linkPose? place).map Reading.pose
      | .geometricJacobian => (arrays.jacobian? call.chain.joints place).map Reading.twists
    return (.ok reading, arrays)

def Succeeds : Prop := ∃ reading, call.query.answer pad = .ok reading

-- A call that succeeds fills the scratchpad anew, unless that holds what it looks for.
def Recomputes : Prop := call.Succeeds pad ∧ pad.holds call.chain.dof call.positions = false

theorem readsAt_query : Query.ReadsAt call.chain call.positions call.query
    (call.resolve.map fun place pad => call.read pad place) := by
  unfold query read
  cases call.question with
  | linkPose => exact (call.chain.readsAt_linkPose call.positions call.link).map Reading.pose
  | geometricJacobian =>
      exact (call.chain.readsAt_geometricJacobian call.positions call.link).map Reading.twists

variable {call} {place : LinkIndex}

theorem exec_of_error {error : KinematicsError} (h : call.resolve = .error error) :
    call.query.exec pad = (.error error, pad) := by
  rw [call.readsAt_query pad, h]
  rfl

theorem exec_of_ok (h : call.resolve = .ok place) :
    call.query.exec pad = (.ok (call.read (pad.update call.chain call.positions) place),
      pad.update call.chain call.positions) := by
  rw [call.readsAt_query pad, h]
  rfl

omit [Scalar α] in
theorem of_resolve_ok (h : call.resolve = .ok place) :
    call.positions.length = call.chain.dof ∧ call.chain.linkIndex? call.link = some place :=
  Chain.of_resolve_eq_ok h

theorem succeeds_iff : call.Succeeds pad ↔ ∃ place, call.resolve = .ok place := by
  unfold Succeeds Query.answer
  cases h : call.resolve with
  | error error => simp [exec_of_error pad h]
  | ok place => simp [exec_of_ok pad h]

variable (call) in
-- On arrays that hold the frames of a scratchpad, no access is outside, and the call does what it does
-- on the scratchpad.
theorem perform?_layOut :
    call.perform? pad.layOut = some (call.query.answer pad, (call.query.after pad).layOut) := by
  unfold perform? Query.answer Query.after
  cases h : call.resolve with
  | error error => rw [exec_of_error pad h]
  | ok place =>
      obtain ⟨hlength, hlink⟩ := of_resolve_ok h
      have hroom := pad.length_update_joints call.chain hlength
      have hplace := Scratchpad.movingJoints_le hroom (call.chain.hasPlace_of_linkIndex? hlink)
      rw [← hroom] at hplace
      rw [exec_of_ok pad h]
      simp only [Arrays.update?_layOut pad call.chain hlength, Option.bind_eq_bind, Option.bind_some, read]
      cases call.question with
      | linkPose => simp only [Arrays.linkPose?_layOut hplace]; rfl
      | geometricJacobian => simp only [Arrays.jacobian?_layOut hroom hplace]; rfl

end Single

section Runs

variable {α : Type} [Scalar α]

-- What a run of calls leaves of a new scratchpad.
def padAfter (size : Nat) (calls : List (Call α)) : Scratchpad α :=
  calls.foldl (fun pad call => call.query.after pad) (.fresh size)

def arraysAfter? (size : Nat) (calls : List (Call α)) : Option (Arrays α) :=
  calls.foldlM (fun arrays call => (call.perform? arrays).map Prod.snd) (.fresh size)

theorem padAfter_concat (size : Nat) (calls : List (Call α)) (call : Call α) :
    padAfter size (calls ++ [call]) = call.query.after (padAfter size calls) := by
  simp only [padAfter, List.foldl_append, List.foldl_cons, List.foldl_nil]

theorem arraysAfter?_eq (size : Nat) (calls : List (Call α)) :
    arraysAfter? size calls = some (padAfter size calls).layOut := by
  unfold arraysAfter? padAfter
  rw [← Arrays.layOut_fresh]
  generalize (Scratchpad.fresh size : Scratchpad α) = pad
  induction calls generalizing pad with
  | nil => rfl
  | cons call calls ih =>
      rw [List.foldlM_cons, perform?_layOut]
      exact ih (call.query.after pad)

-- The last call of a run that filled the scratchpad, where no chain of another size was answered since.
inductive LeftBy (size : Nat) : List (Call α) → Call α → Prop
  | fills (history : List (Call α)) (call : Call α) (hfills : call.Recomputes (padAfter size history)) :
      LeftBy size (history ++ [call]) call
  | stays (history : List (Call α)) (call writer : Call α) (hleft : LeftBy size history writer)
      (hstays : ¬call.Recomputes (padAfter size history))
      (hsize : call.Succeeds (padAfter size history) → call.chain.dof = writer.chain.dof) :
      LeftBy size (history ++ [call]) writer

-- A call is served with the frames that another one left, if these are as many as it wants and belong
-- to positions that compare equal to its own.
structure Reuses (size : Nat) (history : List (Call α)) (call writer : Call α) : Prop where
  left : LeftBy size history writer
  dof : writer.chain.dof = call.chain.dof
  positions : (writer.positions == call.positions) = true

end Runs

end Call

-- A memory of one cell: the call that filled it.
abbrev Cell (α : Type) := Option (Call α)

namespace Cell

variable {α : Type} [Scalar α]

def serves (writer call : Call α) : Bool :=
  writer.chain.dof == call.chain.dof && writer.positions == call.positions

-- The call whose frames are read: the one in the cell, if that serves, or the call itself.
def source (cell : Cell α) (call : Call α) : Call α := (cell.filter (serves · call)).getD call

def answer (cell : Cell α) (call : Call α) : Except KinematicsError (Reading α) :=
  call.resolve.map fun place =>
    call.read (.fill (cell.source call).chain (cell.source call).positions) place

def after (cell : Cell α) (call : Call α) : Cell α :=
  match call.resolve with
  | .error _ => cell
  | .ok _ => some (cell.source call)

def afterAll (calls : List (Call α)) : Cell α := calls.foldl after none

-- What the scratchpad holds is what the cell says.
def Describes (pad : Scratchpad α) : Cell α → Prop
  | none => pad.filled = false
  | some writer => pad = .fill writer.chain writer.positions ∧
      writer.positions.length = writer.chain.dof

variable {pad : Scratchpad α} {cell : Cell α}

theorem Describes.holds_eq (h : cell.Describes pad) (call : Call α) :
    pad.holds call.chain.dof call.positions = cell.any (serves · call) := by
  cases cell with
  | none =>
      have hempty : pad.filled = false := h
      simp [Scratchpad.holds, hempty]
  | some writer =>
      obtain ⟨rfl, hlength⟩ := h
      simp [Scratchpad.holds, serves, Scratchpad.length_fill_joints writer.chain hlength]

theorem Describes.update (h : cell.Describes pad) {call : Call α}
    (hlength : call.positions.length = call.chain.dof) :
    Describes (pad.update call.chain call.positions) (some (cell.source call)) := by
  unfold Scratchpad.update source
  rw [h.holds_eq call]
  cases cell with
  | none => exact ⟨rfl, hlength⟩
  | some writer =>
      by_cases hserves : serves writer call = true
      · simpa [hserves, Option.filter] using h
      · have hfilled : Describes (.fill call.chain call.positions) (some call) := ⟨rfl, hlength⟩
        simpa [hserves, Option.filter] using hfilled

-- A call gets from the scratchpad what it gets from the cell, and leaves them alike.
theorem Describes.step (h : cell.Describes pad) (call : Call α) :
    call.query.answer pad = cell.answer call ∧ (cell.after call).Describes (call.query.after pad) := by
  unfold Query.answer Query.after answer after
  cases hresolve : call.resolve with
  | error error =>
      rw [Call.exec_of_error pad hresolve]
      exact ⟨rfl, h⟩
  | ok place =>
      have hupdate := h.update (Call.of_resolve_ok hresolve).1
      rw [Call.exec_of_ok pad hresolve, hupdate.1]
      exact ⟨rfl, rfl, hupdate.2⟩

theorem afterAll_concat (calls : List (Call α)) (call : Call α) :
    afterAll (calls ++ [call]) = (afterAll calls).after call := by
  simp only [afterAll, List.foldl_append, List.foldl_cons, List.foldl_nil]

theorem describes_padAfter (size : Nat) (history : List (Call α)) :
    (afterAll history).Describes (Call.padAfter size history) := by
  induction history using List.reverseRecOn with
  | nil => rfl
  | append_singleton history call ih =>
      rw [afterAll_concat, Call.padAfter_concat]
      exact (ih.step call).2

-- What a call that succeeds finds in the cell decides whether it fills the scratchpad.
theorem Describes.recomputes_iff (h : cell.Describes pad) (call : Call α) :
    call.Recomputes pad ↔ call.Succeeds pad ∧ cell.any (serves · call) = false := by
  rw [Call.Recomputes, h.holds_eq]

theorem Describes.after_of_recomputes (h : cell.Describes pad) {call : Call α}
    (hcall : call.Recomputes pad) : cell.after call = some call := by
  obtain ⟨hsucceeds, hserves⟩ := (h.recomputes_iff call).mp hcall
  obtain ⟨place, hresolve⟩ := (Call.succeeds_iff pad).mp hsucceeds
  unfold after source
  rw [hresolve]
  cases cell with
  | none => rfl
  | some writer => simp_all [Option.filter]

theorem Describes.after_of_not_recomputes (h : cell.Describes pad) {call : Call α}
    (hcall : ¬call.Recomputes pad) : cell.after call = cell := by
  rw [h.recomputes_iff, not_and, Bool.not_eq_false, Call.succeeds_iff] at hcall
  unfold after source
  cases hresolve : call.resolve with
  | error error => rfl
  | ok place =>
      have hserves := hcall ⟨place, hresolve⟩
      cases cell with
      | none => cases hserves
      | some writer => simp_all [Option.filter]

-- After an answer the frames are those of a chain of the same size.
theorem exists_after_of_ok (cell : Cell α) {call : Call α} {place : LinkIndex}
    (h : call.resolve = .ok place) :
    ∃ writer, cell.after call = some writer ∧ writer.chain.dof = call.chain.dof := by
  refine ⟨cell.source call, by rw [after, h], ?_⟩
  cases cell with
  | none => rfl
  | some writer =>
      cases hserves : serves writer call with
      | false => simp [source, hserves, Option.filter]
      | true =>
          have hboth := hserves
          simp only [serves, Bool.and_eq_true, beq_iff_eq] at hboth
          simp [source, hserves, Option.filter, hboth.1]

theorem foldl_after_of_fails (cell : Cell α) {calls : List (Call α)}
    (h : ∀ call ∈ calls, ∀ pad, ¬call.Succeeds pad) : calls.foldl after cell = cell := by
  induction calls with
  | nil => rfl
  | cons call calls ih =>
      have hfails := h call List.mem_cons_self (.fresh 0)
      have hkeeps : cell.after call = cell := by
        unfold after
        cases hresolve : call.resolve with
        | error error => rfl
        | ok place => exact absurd ((Call.succeeds_iff _).mpr ⟨place, hresolve⟩) hfails
      rw [List.foldl_cons, hkeeps]
      exact ih fun late hlate => h late (List.mem_cons_of_mem _ hlate)

-- The cell holds the call that the history of the scratchpad tells.
theorem leftBy_iff (size : Nat) (history : List (Call α)) (writer : Call α) :
    Call.LeftBy size history writer ↔ afterAll history = some writer := by
  constructor
  · intro hleft
    induction hleft with
    | fills history call hfills =>
        rw [afterAll_concat, (describes_padAfter size history).after_of_recomputes hfills]
    | stays history call writer hleft hstays hsize ih =>
        rw [afterAll_concat, (describes_padAfter size history).after_of_not_recomputes hstays, ih]
  · intro hcell
    induction history using List.reverseRecOn with
    | nil => cases hcell
    | append_singleton history call ih =>
        have hdescribes := describes_padAfter size history
        rw [afterAll_concat] at hcell
        by_cases hcall : call.Recomputes (Call.padAfter size history)
        · rw [hdescribes.after_of_recomputes hcall, Option.some.injEq] at hcell
          rw [← hcell]
          exact .fills history call hcall
        · rw [hdescribes.after_of_not_recomputes hcall] at hcell
          refine .stays history call writer (ih hcell) hcall fun hsucceeds => ?_
          rw [hdescribes.recomputes_iff, hcell, not_and, Bool.not_eq_false] at hcall
          have hserves := hcall hsucceeds
          simp only [Option.any_some, serves, Bool.and_eq_true, beq_iff_eq] at hserves
          exact hserves.1.symm

end Cell

namespace Call

variable {α : Type} [Scalar α] {size : Nat} {history : List (Call α)} {call : Call α}

theorem reuses_iff (writer : Call α) : Reuses size history call writer ↔
    Cell.afterAll history = some writer ∧ Cell.serves writer call = true := by
  simp only [Cell.serves, Bool.and_eq_true, beq_iff_eq]
  constructor
  · intro h
    exact ⟨(Cell.leftBy_iff size history writer).mp h.left, h.dof, h.positions⟩
  · intro h
    exact ⟨(Cell.leftBy_iff size history writer).mpr h.1, h.2.1, h.2.2⟩

theorem answer_of_succeeds {pad : Scratchpad α} (h : call.Succeeds pad) :
    ∃ place, call.chain.linkIndex? call.link = some place ∧ call.resolve = .ok place := by
  obtain ⟨place, hresolve⟩ := (succeeds_iff pad).mp h
  exact ⟨place, (of_resolve_ok hresolve).2, hresolve⟩

theorem freshAnswer_eq {place : LinkIndex} (h : call.resolve = .ok place) :
    call.freshAnswer = .ok (call.read (.fill call.chain call.positions) place) := by
  unfold freshAnswer Query.answer
  rw [exec_of_ok _ h, Chain.jointGroup, Scratchpad.update_fresh]

-- A chain that finds the frames of another size has to compute its own.
theorem recomputes_of_other_size {earlier failing : List (Call α)} {other : Call α}
    (hother : other.Succeeds (padAfter size earlier)) (hfailing : ∀ late ∈ failing, ∀ pad, ¬late.Succeeds pad)
    (hsize : other.chain.dof ≠ call.chain.dof)
    (hcall : call.Succeeds (padAfter size (earlier ++ other :: failing))) :
    call.Recomputes (padAfter size (earlier ++ other :: failing)) := by
  obtain ⟨place, hresolve⟩ := (succeeds_iff _).mp hother
  obtain ⟨writer, hwriter, hdof⟩ := (Cell.afterAll earlier).exists_after_of_ok hresolve
  have hcell : Cell.afterAll (earlier ++ other :: failing) = some writer := by
    rw [← hwriter, Cell.afterAll, List.foldl_append, List.foldl_cons]
    exact Cell.foldl_after_of_fails _ hfailing
  rw [(Cell.describes_padAfter size _).recomputes_iff, hcell]
  refine ⟨hcall, ?_⟩
  simp [Cell.serves, hdof, hsize]

-- What can be said of a call on a scratchpad that calls of arbitrary chains have used.
structure AnswersFromOneCell (size : Nat) (history : List (Call α)) (call : Call α) : Prop where
  -- No call of the run, nor this one, accesses an array outside.
  inside : ∃ arrays later, arraysAfter? size history = some arrays ∧ arrays.HaveEqualLengths ∧
    call.perform? arrays = some (call.query.answer (padAfter size history), later) ∧
    later.HaveEqualLengths
  cell : call.query.answer (padAfter size history) = (Cell.afterAll history).answer call
  -- It is served with stale frames exactly if another call left some that look like its own.
  stale : call.Succeeds (padAfter size history) → ∀ writer, Reuses size history call writer →
    ∃ place, call.chain.linkIndex? call.link = some place ∧
      call.query.answer (padAfter size history) =
        .ok (call.read (.fill writer.chain writer.positions) place)
  fresh : call.Succeeds (padAfter size history) → (¬∃ writer, Reuses size history call writer) →
    call.Recomputes (padAfter size history) ∧
      call.query.answer (padAfter size history) = call.freshAnswer
  otherSize : call.Succeeds (padAfter size history) → ∀ earlier other failing,
    history = earlier ++ other :: failing → other.Succeeds (padAfter size earlier) →
      (∀ late ∈ failing, ∀ pad, ¬late.Succeeds pad) → other.chain.dof ≠ call.chain.dof →
        call.Recomputes (padAfter size history)

-- From a new scratchpad of any size, after any run of calls of any chains.
theorem answersFromOneCell (size : Nat) (history : List (Call α)) (call : Call α) :
    AnswersFromOneCell size history call := by
  have hdescribes := Cell.describes_padAfter size history
  have hcell := (hdescribes.step call).1
  constructor
  case inside =>
    exact ⟨(padAfter size history).layOut, _, arraysAfter?_eq size history,
      Arrays.haveEqualLengths_layOut _, perform?_layOut call _, Arrays.haveEqualLengths_layOut _⟩
  case cell => exact hcell
  case stale =>
    intro hsucceeds writer hreuses
    obtain ⟨place, hlink, hresolve⟩ := answer_of_succeeds hsucceeds
    obtain ⟨hwriter, hserves⟩ := (reuses_iff writer).mp hreuses
    refine ⟨place, hlink, ?_⟩
    rw [hcell, hwriter, Cell.answer, hresolve, Cell.source, Option.filter_some, if_pos hserves]
    rfl
  case fresh =>
    intro hsucceeds hnone
    obtain ⟨place, hlink, hresolve⟩ := answer_of_succeeds hsucceeds
    have hcall : call.Recomputes (padAfter size history) := by
      refine (hdescribes.recomputes_iff call).mpr ⟨hsucceeds, ?_⟩
      cases hwriter : Cell.afterAll history with
      | none => rfl
      | some writer =>
          rw [Option.any_some]
          by_contra hserves
          exact hnone ⟨writer, (reuses_iff writer).mpr ⟨hwriter, by simpa using hserves⟩⟩
    refine ⟨hcall, ?_⟩
    have hupdate : (padAfter size history).update call.chain call.positions =
        .fill call.chain call.positions := by
      rw [Scratchpad.update, hcall.2]
      rfl
    rw [freshAnswer_eq hresolve, Query.answer, exec_of_ok _ hresolve, hupdate]
  case otherSize =>
    rintro hsucceeds earlier other failing rfl hother hfailing hsize
    exact recomputes_of_other_size hother hfailing hsize hsucceeds

-- Where the tool of a robot is at rest, as its chain is asked.
noncomputable def toolAtRest (chain : Chain ℝ) : Call ℝ :=
  ⟨chain, List.replicate chain.dof 0, Robots.toolLink, .linkPose⟩

-- Two robots with six joints: the second one is told where the tool of the first one is.
theorem sixDofArm_answersAs_cartesianWrist :
    (toolAtRest Robots.sixDofArm).query.answer (padAfter 2 [toolAtRest Robots.cartesianWrist]) =
        .ok (.pose .identity) ∧
      (toolAtRest Robots.sixDofArm).freshAnswer ≠ .ok (.pose .identity) := by
  have hwrist : (toolAtRest Robots.cartesianWrist).resolve = .ok .tip := rfl
  have harm : (toolAtRest Robots.sixDofArm).resolve = .ok .tip := rfl
  have hreuses : Reuses 2 [toolAtRest Robots.cartesianWrist] (toolAtRest Robots.sixDofArm)
      (toolAtRest Robots.cartesianWrist) :=
    { left := .fills [] _ ⟨(succeeds_iff _).mpr ⟨_, hwrist⟩, rfl⟩
      dof := rfl
      positions := by simp [toolAtRest, Chain.dof, Robots.cartesianWrist, Robots.sixDofArm] }
  constructor
  · obtain ⟨place, hplace, hanswer⟩ := (answersFromOneCell 2 _ _).stale
      ((succeeds_iff _).mpr ⟨_, harm⟩) _ hreuses
    cases hplace
    rw [hanswer]
    exact congrArg (fun pose => Except.ok (Reading.pose pose)) Robots.cartesianWrist_linkPose_rest
  · rw [freshAnswer_eq harm]
    intro h
    have hpose : (Scratchpad.fill Robots.sixDofArm (List.replicate 6 (0 : ℝ))).tip = .identity :=
      Reading.pose.inj (Except.ok.inj h)
    have hreach : (Scratchpad.fill Robots.sixDofArm (List.replicate 6 (0 : ℝ))).tip.translation.x =
        0.93 := by
      norm_num [Scratchpad.fill_tip, Robots.sixDofArm, Joint.revolute, Joint.withLimits,
        Chain.jointFrames, Joint.motion_zero, Robots.along, Pose.ofTranslation, Chain.tipOffset,
        List.replicate, Pose.identity]
    rw [hpose] at hreach
    norm_num [Pose.identity] at hreach

end Call

end TaskSpace.Kinematics
