import Mathlib
import TaskSpace.Proofs.Kinematics.Memory
import TaskSpace.Proofs.Kinematics.Velocity

namespace TaskSpace.Kinematics

open Rigid

-- A scratchpad as it lies in memory: the origins, the axes and the links of the joints in an array each.
-- Every access names an index, and has no result outside of its array.
structure Arrays (α : Type) where
  positions : List α
  filled : Bool
  origins : List (Vec3 α)
  axes : List (Vec3 α)
  links : List (Pose α)
  tip : Pose α

namespace Arrays

section Accesses

variable {β γ : Type}

def write? (entries : List β) (index : Nat) (entry : β) : Option (List β) :=
  if index < entries.length then some (entries.set index entry) else none

-- Old entries stay where there is room for them.
def resize (entries : List β) (size : Nat) (filler : β) : List β :=
  entries.take size ++ List.replicate (size - entries.length) filler

theorem write?_append (done rest : List β) (old entry : β) :
    write? (done ++ old :: rest) done.length entry = some (done ++ entry :: rest) := by
  unfold write?
  rw [if_pos (by simp), List.set_append_right _ _ (Nat.le_refl _), Nat.sub_self, List.set_cons_zero]

theorem length_resize (entries : List β) (size : Nat) (filler : β) :
    (resize entries size filler).length = size := by
  simp only [resize, List.length_append, List.length_take, List.length_replicate]
  omega

theorem resize_map (f : β → γ) (entries : List β) (size : Nat) (filler : β) :
    resize (entries.map f) size (f filler) = (resize entries size filler).map f := by
  simp only [resize, List.map_append, List.map_take, List.map_replicate, List.length_map]

end Accesses

variable {α : Type} [Scalar α]

def fresh (size : Nat) : Arrays α :=
  ⟨List.replicate size 0, false, List.replicate size .zero, List.replicate size .zero,
    List.replicate size .identity, .identity⟩

-- The positions and the tip are left as they were.
def resized (arrays : Arrays α) (size : Nat) : Arrays α :=
  { arrays with
    filled := false
    origins := resize arrays.origins size .zero
    axes := resize arrays.axes size .zero
    links := resize arrays.links size .identity }

-- Goes from joint to joint and writes the frame of each at its index. Ends with the pose of the last
-- link.
def writeFrames? (link : Pose α) (index : Nat) :
    List (Joint α) → List α → Arrays α → Option (Arrays α × Pose α)
  | joint :: joints, position :: positions, arrays => do
    let resting := link * joint.origin
    let origins ← write? arrays.origins index resting.translation
    let axes ← write? arrays.axes index (resting.rotation.rotate joint.axis)
    let moved := resting * joint.motion position
    let links ← write? arrays.links index moved
    writeFrames? moved (index + 1) joints positions { arrays with origins, axes, links }
  | _, _, arrays => some (arrays, link)

def update? (arrays : Arrays α) (chain : Chain α) (positions : List α) : Option (Arrays α) := do
  let arrays := if arrays.links.length ≠ chain.dof then arrays.resized chain.dof else arrays
  if arrays.filled && arrays.positions == positions then return arrays
  let (arrays, last) ← writeFrames? .identity 0 chain.joints positions arrays
  return { arrays with positions, filled := true, tip := last * chain.tipOffset }

def linkPose? (arrays : Arrays α) : LinkIndex → Option (Pose α)
  | .base => some .identity
  | .joint index => arrays.links[index]?
  | .tip => some arrays.tip

def readTwists? (arrays : Arrays α) (point : Vec3 α) (index : Nat) :
    List (Joint α) → Option (List (Twist α))
  | [] => some []
  | joint :: joints => do
    let axis ← arrays.axes[index]?
    let origin ← arrays.origins[index]?
    let twist : Twist α := match joint.kind with
      | .prismatic => ⟨axis, .zero⟩
      | .revolute => ⟨axis.cross (point - origin), axis⟩
    let twists ← readTwists? arrays point (index + 1) joints
    return twist :: twists

-- How many joints of a chain of that many joints move a link.
def movingJoints (dof : Nat) : LinkIndex → Nat
  | .base => 0
  | .joint index => index + 1
  | .tip => dof

def jacobian? (arrays : Arrays α) (joints : List (Joint α)) (place : LinkIndex) :
    Option (List (Twist α)) := do
  let moving := movingJoints joints.length place
  let point := (← arrays.linkPose? place).translation
  let twists ← arrays.readTwists? point 0 (joints.take moving)
  return twists ++ List.replicate (joints.length - moving) ⟨.zero, .zero⟩

structure HaveEqualLengths (arrays : Arrays α) : Prop where
  origins : arrays.origins.length = arrays.links.length
  axes : arrays.axes.length = arrays.links.length

end Arrays

namespace Scratchpad

variable {α : Type} [Scalar α]

-- The frames of the joints, taken apart.
def layOut (pad : Scratchpad α) : Arrays α :=
  ⟨pad.positions, pad.filled, pad.joints.map JointFrame.origin, pad.joints.map JointFrame.axis,
    pad.joints.map JointFrame.link, pad.tip⟩

-- Frames that are held are as many as the joints, like those that are filled in.
theorem length_update_joints (pad : Scratchpad α) (chain : Chain α) {positions : List α}
    (hlength : positions.length = chain.dof) : (pad.update chain positions).joints.length = chain.dof := by
  unfold update
  split
  · rename_i hholds
    simp only [holds, Bool.and_eq_true, beq_iff_eq] at hholds
    exact hholds.1.1
  · exact length_fill_joints chain hlength

end Scratchpad

namespace Arrays

variable {α : Type} [Scalar α] (pad : Scratchpad α)

omit [Scalar α] in
theorem haveEqualLengths_layOut : pad.layOut.HaveEqualLengths where
  origins := by simp [Scratchpad.layOut]
  axes := by simp [Scratchpad.layOut]

theorem layOut_fresh (size : Nat) : (Scratchpad.fresh size : Scratchpad α).layOut = fresh size := by
  simp [Scratchpad.layOut, Scratchpad.fresh, fresh]

theorem layOut_resized (size : Nat) : pad.layOut.resized size =
    { pad with
      filled := false
      joints := resize pad.joints size ⟨.zero, .zero, .identity⟩ : Scratchpad α }.layOut := by
  simp only [resized, Scratchpad.layOut, ← resize_map]

-- Whatever stood there, every joint ends up with its own frame, and no frame before it is touched.
theorem writeFrames?_layOut (link : Pose α) (joints : List (Joint α)) (positions : List α)
    (done old : List (JointFrame α)) (hpositions : positions.length = joints.length)
    (hold : old.length = joints.length) :
    writeFrames? link done.length joints positions { pad with joints := done ++ old }.layOut =
      some ({ pad with joints := done ++ (Chain.jointFrames link joints positions).1 }.layOut,
        (Chain.jointFrames link joints positions).2) := by
  induction joints generalizing link positions done old with
  | nil =>
      obtain rfl := List.length_eq_zero_iff.mp hold
      obtain rfl := List.length_eq_zero_iff.mp hpositions
      rfl
  | cons joint joints ih =>
      obtain ⟨position, positions, rfl⟩ := List.exists_cons_of_length_eq_add_one hpositions
      obtain ⟨stale, old, rfl⟩ := List.exists_cons_of_length_eq_add_one hold
      let frame : JointFrame α := ⟨(link * joint.origin).translation,
        (link * joint.origin).rotation.rotate joint.axis, link * joint.origin * joint.motion position⟩
      have hnext := ih frame.link positions (done ++ [frame]) old (by simpa using hpositions)
        (by simpa using hold)
      have horigin := write?_append (done.map JointFrame.origin) (old.map JointFrame.origin)
        stale.origin frame.origin
      have haxis := write?_append (done.map JointFrame.axis) (old.map JointFrame.axis) stale.axis frame.axis
      have hlink := write?_append (done.map JointFrame.link) (old.map JointFrame.link) stale.link frame.link
      rw [List.length_map] at horigin haxis hlink
      rw [List.length_append, List.length_singleton] at hnext
      simp only [writeFrames?, Scratchpad.layOut, List.map_append, List.map_cons, List.append_assoc,
        Chain.jointFrames] at horigin haxis hlink hnext ⊢
      simp only [frame] at horigin haxis hlink hnext
      simp only [horigin, haxis, hlink, Option.bind_eq_bind, Option.bind_some]
      exact hnext

-- Either the scratchpad holds the frames already, or all of them are written.
theorem update?_layOut (chain : Chain α) {positions : List α} (hlength : positions.length = chain.dof) :
    pad.layOut.update? chain positions = some (pad.update chain positions).layOut := by
  have hroom : pad.layOut.links.length = pad.joints.length := List.length_map _
  have hwritten : ∀ (room : Scratchpad α), room.joints.length = chain.dof →
      (do
        let (arrays, last) ← writeFrames? .identity 0 chain.joints positions room.layOut
        return { arrays with positions, filled := true, tip := last * chain.tipOffset }) =
          some (Scratchpad.fill chain positions).layOut := by
    intro room hroom
    have hwrite := writeFrames?_layOut room .identity chain.joints positions [] room.joints hlength hroom
    simp only [List.nil_append, List.length_nil] at hwrite
    rw [hwrite]
    rfl
  unfold update? Scratchpad.update Scratchpad.holds
  by_cases hsize : pad.joints.length = chain.dof
  · rw [hroom, if_neg (not_not.mpr hsize)]
    by_cases hheld : (pad.filled && pad.positions == positions) = true
    · simp only [Scratchpad.layOut, hsize, hheld, beq_self_eq_true, Bool.true_and, if_true]
      rfl
    · simp only [Scratchpad.layOut, hsize, hheld, beq_self_eq_true, Bool.true_and]
      exact hwritten pad hsize
  · rw [hroom, if_pos hsize, layOut_resized]
    have hother : (pad.joints.length == chain.dof) = false := beq_eq_false_iff_ne.mpr hsize
    simp only [hother, Bool.false_and]
    exact hwritten _ (length_resize _ _ _)

-- The joints that are read lie between those that are left behind and the end of the arrays.
theorem readTwists?_layOut (point : Vec3 α) (joints : List (Joint α))
    (before frames : List (JointFrame α)) (hframes : joints.length ≤ frames.length) :
    { pad with joints := before ++ frames }.layOut.readTwists? point before.length joints =
      some ((joints.zip frames).map fun (joint, frame) =>
        Scratchpad.jointTwist joint.kind frame point) := by
  induction joints generalizing before frames with
  | nil => rfl
  | cons joint joints ih =>
      cases frames with
      | nil => simp at hframes
      | cons frame frames =>
          have hnext := ih (before ++ [frame]) frames (by simpa using hframes)
          rw [List.append_assoc, List.length_append, List.length_singleton] at hnext
          simp only [List.cons_append, List.nil_append] at hnext
          have haxis : (List.map JointFrame.axis (before ++ frame :: frames))[before.length]? =
              some frame.axis := by
            simp
          have horigin : (List.map JointFrame.origin (before ++ frame :: frames))[before.length]? =
              some frame.origin := by
            simp
          unfold readTwists?
          rw [hnext]
          simp only [Scratchpad.layOut] at *
          rw [haxis, horigin]
          cases hkind : joint.kind <;> simp [Scratchpad.jointTwist, hkind]

variable {pad}

theorem linkPose?_layOut {place : LinkIndex} (hplace : pad.movingJoints place ≤ pad.joints.length) :
    pad.layOut.linkPose? place = some (pad.linkPose place) := by
  cases place with
  | base => rfl
  | joint index =>
      have hindex : index < pad.joints.length := hplace
      simp [linkPose?, Scratchpad.layOut, Scratchpad.linkPose, List.getElem?_eq_getElem hindex]
  | tip => rfl

theorem jacobian?_layOut {joints : List (Joint α)} {place : LinkIndex}
    (hlength : pad.joints.length = joints.length)
    (hplace : pad.movingJoints place ≤ pad.joints.length) :
    pad.layOut.jacobian? joints place = some (pad.jacobian joints place) := by
  have hmoving : movingJoints joints.length place = pad.movingJoints place := by
    cases place with
    | base => rfl
    | joint index => rfl
    | tip => exact hlength.symm
  have htwists := readTwists?_layOut pad (pad.linkPose place).translation
    (joints.take (pad.movingJoints place)) [] pad.joints (by rw [List.length_take]; omega)
  have hzip : (joints.take (pad.movingJoints place)).zip pad.joints =
      (joints.zip pad.joints).take (pad.movingJoints place) := by
    apply List.ext_getElem
    · simp only [List.length_zip, List.length_take]
      omega
    · intro index _ _
      simp only [List.getElem_zip, List.getElem_take]
  rw [hzip, List.nil_append, List.length_nil] at htwists
  unfold jacobian? Scratchpad.jacobian
  rw [linkPose?_layOut hplace, hmoving]
  simp only [Option.bind_eq_bind, Option.bind_some]
  rw [htwists]
  rfl

end Arrays

end TaskSpace.Kinematics
