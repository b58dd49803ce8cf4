import TaskSpace.Kinematics.Chain

namespace TaskSpace.Kinematics.Robots

open Rigid

variable {α : Type} [Scalar α]

-- All these robots end in a tip of this name.
def toolLink : String := "tool"

def along (x y z : α) : Pose α := .ofTranslation ⟨x, y, z⟩

-- Three slides along x, y and z, then turns about z, y and x, all in one point: the tool lies at the
-- first three positions.
def cartesianWrist : Chain α where
  baseLink := "base"
  joints :=
    [.prismatic "slide_x" "carriage_x" .identity ⟨1, 0, 0⟩,
      .prismatic "slide_y" "carriage_y" .identity ⟨0, 1, 0⟩,
      .prismatic "slide_z" "carriage_z" .identity ⟨0, 0, 1⟩,
      .revolute "wrist_yaw" "yaw_link" .identity ⟨0, 0, 1⟩,
      .revolute "wrist_pitch" "pitch_link" .identity ⟨0, 1, 0⟩,
      .revolute "wrist_roll" "roll_link" .identity ⟨1, 0, 0⟩]
  tip := some ⟨toolLink, .identity⟩

-- Two turns about z.
def planarArm : Chain α where
  baseLink := "base"
  joints :=
    [(Joint.revolute "shoulder" "upper_arm" (along 0 0 0.05) ⟨0, 0, 1⟩).withLimits (-2.617) 2.617,
      (Joint.revolute "elbow" "forearm" (along 0.3 0 0) ⟨0, 0, 1⟩).withLimits (-2.094) 2.094]
  tip := some ⟨toolLink, along 0.25 0 0⟩

-- Six turns in the proportions of a small industrial arm.
def sixDofArm : Chain α where
  baseLink := "base_link"
  joints :=
    [.revolute "shoulder_pan" "shoulder_link" (along 0 0 0.1) ⟨0, 0, 1⟩,
      (Joint.revolute "shoulder_lift" "upper_arm_link" (along 0 0 0.1) ⟨0, 1, 0⟩).withLimits
        (-2.0) 2.0,
      (Joint.revolute "elbow" "forearm_link" (along 0.4 0 0) ⟨0, 1, 0⟩).withLimits (-2.5) 2.5,
      .revolute "wrist_1" "wrist_1_link" (along 0.35 0 0) ⟨0, 1, 0⟩,
      .revolute "wrist_2" "wrist_2_link" (along 0 0 (-0.1)) ⟨0, 0, 1⟩,
      .revolute "wrist_3" "wrist_3_link" (along 0.08 0 0) ⟨1, 0, 0⟩]
  tip := some ⟨toolLink, along 0.1 0 0⟩

end TaskSpace.Kinematics.Robots
