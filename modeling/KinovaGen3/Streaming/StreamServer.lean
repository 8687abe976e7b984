import KinovaGen3.Core.Messages
import KinovaGen3.Library.LatchedTopic

/-! `stream_server.cpp`: the registry of controllers and what `/stream_status` says. -/

namespace KinovaGen3
open Transition

inductive SetpointKind where
  | jointPosition | jointVelocity | jointTorque | eePose | eeTwist
  deriving DecidableEq

structure StreamStatus where
  isOpen : Bool
  timeoutS : Double
  rejectedCount : UInt64
  deriving DecidableEq

structure StreamStatusMsg where
  stamp : Time
  isOpen : Bool
  controller : String := ""
  channels : List String := []
  timeoutS : Double
  rejectedCount : UInt64
  deriving DecidableEq

namespace StreamServer

structure ControllerRow where
  name : String
  channels : List String
  coreBacked : Bool
  kind : SetpointKind
  mode : ControlModeKind
  deriving DecidableEq

def registry : List ControllerRow :=
  [⟨"joint_position", ["joint_position"], true, .jointPosition, .position⟩,
    ⟨"joint_impedance", ["joint_position"], true, .jointPosition, .impedance⟩,
    ⟨"ee_pose_impedance", ["pose"], true, .eePose, .impedance⟩,
    ⟨"ee_pose_position", ["pose"], true, .eePose, .position⟩,
    ⟨"joint_torque", ["joint_torque"], true, .jointTorque, .torque⟩,
    ⟨"joint_velocity", ["joint_velocity"], true, .jointVelocity, .velocity⟩,
    ⟨"joint_velocity_impedance", ["joint_velocity"], true, .jointVelocity, .impedance⟩,
    ⟨"ee_twist", ["twist"], true, .eeTwist, .velocity⟩,
    ⟨"ee_twist_impedance", ["twist"], true, .eeTwist, .impedance⟩,
    ⟨"cartesian_impedance", ["pose", "wrench"], false, .eePose, .impedance⟩]

def same (a b : StreamStatusMsg) : Bool :=
  a.isOpen = b.isOpen && a.controller = b.controller && a.channels = b.channels &&
    a.timeoutS.eq b.timeoutS && a.rejectedCount = b.rejectedCount

def channelsOf (controller : String) : List String :=
  ((registry.find? (·.name = controller)).map (·.channels)).getD []

def message (now : Time) (s : StreamStatus) (openController : String) : StreamStatusMsg where
  stamp := now
  isOpen := s.isOpen
  controller := openController
  channels := channelsOf openController
  timeoutS := s.timeoutS
  rejectedCount := s.rejectedCount

end StreamServer

/-- The payload is what core's status says. The label is `open_controller_`. -/
def streamStatusTopic : LatchedTopic Time StreamStatus String StreamStatusMsg StreamStatusMsg where
  relabel s openController := if s.isOpen then openController else ""
  message := StreamServer.message
  same := StreamServer.same
  payload m := { m with stamp := {}, controller := "", channels := [] }
  content s := { stamp := {}, isOpen := s.isOpen, timeoutS := s.timeoutS, rejectedCount := s.rejectedCount }
  payload_message _ _ _ := rfl
  payload_same a b h := by
    simp only [StreamServer.same, Bool.and_eq_true, decide_eq_true_eq] at h
    obtain ⟨⟨⟨⟨isOpen, controller⟩, channels⟩, timeoutS⟩, rejectedCount⟩ := h
    simp only [isOpen, Double.eq_sound timeoutS, rejectedCount]

end KinovaGen3
