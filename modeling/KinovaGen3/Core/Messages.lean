import Mathlib.Data.Fintype.Pi
import KinovaGen3.Core.Double

/-! The ROS messages and the driver's value types, with the fields this node reads or writes. -/

namespace KinovaGen3

def kNumJoints : Nat := 7

/-- `kinova::JointVec`; also a ROS `float64[7]`. -/
abbrev JointVec := Fin kNumJoints → Double

def JointVec.constant (value : Double) : JointVec := fun _ => value

/-- `kinova::interface::Token`, which is the ROS `uint8[16]`. All zero means no token. -/
abbrev Token := Fin 16 → UInt8

def Token.zero : Token := fun _ => 0

/-! ### ROS messages -/

structure Duration where
  sec : Int := 0
  nanosec : Nat := 0
  deriving DecidableEq

structure Time where
  sec : Int := 0
  nanosec : Nat := 0
  deriving DecidableEq

structure JointTrajectoryPoint where
  positions : List Double := []
  velocities : List Double := []
  accelerations : List Double := []
  timeFromStart : Duration := {}
  deriving DecidableEq

structure JointTrajectory where
  frameId : String := ""
  jointNames : List String := []
  points : List JointTrajectoryPoint := []
  deriving DecidableEq

structure JointTolerance where
  name : String := ""
  position : Double := .finite 0
  deriving DecidableEq

structure CustomGains where
  kq : JointVec := .constant (.finite 0)
  torqueLimit : JointVec := .constant (.finite 0)
  zeta : Double := .finite 0
  deriving DecidableEq

namespace ImpedanceGainsMsg
def PROFILE_SESSION_DEFAULT : UInt8 := 0
def PROFILE_SOFT : UInt8 := 1
def PROFILE_MEDIUM : UInt8 := 2
def PROFILE_STIFF : UInt8 := 3
def PROFILE_CUSTOM : UInt8 := 4
end ImpedanceGainsMsg

structure ImpedanceGainsMsg where
  profile : UInt8 := ImpedanceGainsMsg.PROFILE_SESSION_DEFAULT
  custom : CustomGains := {}
  deriving DecidableEq

structure Point where
  x : Double := .finite 0
  y : Double := .finite 0
  z : Double := .finite 0
  deriving DecidableEq

structure Quaternion where
  x : Double := .finite 0
  y : Double := .finite 0
  z : Double := .finite 0
  w : Double := .finite 1
  deriving DecidableEq

structure Pose where
  position : Point := {}
  orientation : Quaternion := {}
  deriving DecidableEq

structure PoseStamped where
  frameId : String := ""
  pose : Pose := {}
  deriving DecidableEq

def HOLD_NONE : UInt8 := 0
def HOLD_LEVEL : UInt8 := 1
def HOLD_FIXED : UInt8 := 2

structure ExecuteJointTrajectory.Goal where
  trajectory : JointTrajectory := {}
  pathTolerance : List JointTolerance := []
  goalTolerance : List JointTolerance := []
  goalTimeTolerance : Duration := {}
  controlMode : UInt8 := 0
  preemption : UInt8 := 0
  gains : ImpedanceGainsMsg := {}
  speedScale : Double := .finite 1
  senderId : String := ""
  token : Token := .zero
  deriving DecidableEq

structure GoToEEPose.Goal where
  target : PoseStamped := {}
  speedScale : Double := .finite 1
  orientationHold : UInt8 := HOLD_NONE
  controlMode : UInt8 := 0
  gains : ImpedanceGainsMsg := {}
  senderId : String := ""
  token : Token := .zero
  deriving DecidableEq

structure GoToJointConfig.Goal where
  targetJoints : JointVec := .constant (.finite 0)
  speedScale : Double := .finite 1
  controlMode : UInt8 := 0
  gains : ImpedanceGainsMsg := {}
  senderId : String := ""
  token : Token := .zero
  deriving DecidableEq

structure GoToPreset.Goal where
  presetName : String := ""
  speedScale : Double := .finite 1
  controlMode : UInt8 := 0
  gains : ImpedanceGainsMsg := {}
  senderId : String := ""
  token : Token := .zero
  deriving DecidableEq

structure EEPoseTarget where
  pose : PoseStamped := {}
  speedScale : Double := .finite 1
  orientationHold : UInt8 := HOLD_NONE
  blendRadius : Double := .finite 0
  deriving DecidableEq, Inhabited

structure GoToEEPoses.Goal where
  targets : List EEPoseTarget := []
  controlMode : UInt8 := 0
  gains : ImpedanceGainsMsg := {}
  senderId : String := ""
  token : Token := .zero
  deriving DecidableEq

structure JointConfigTarget where
  targetJoints : JointVec := .constant (.finite 0)
  speedScale : Double := .finite 1
  blendRadius : Double := .finite 0
  deriving DecidableEq, Inhabited

structure GoToJointConfigs.Goal where
  targets : List JointConfigTarget := []
  controlMode : UInt8 := 0
  gains : ImpedanceGainsMsg := {}
  senderId : String := ""
  token : Token := .zero
  deriving DecidableEq

/-! ### The driver's value types -/

inductive ControlModeKind where
  | position | impedance | torque | velocity
  deriving DecidableEq

inductive GainsProfile where
  | sessionDefault | soft | medium | stiff | custom
  deriving DecidableEq

structure ImpedanceGains where
  profile : GainsProfile
  custom : CustomGains
  deriving DecidableEq

inductive Preemption where
  | queue | latestWins
  deriving DecidableEq

structure JointWaypoint where
  q : JointVec := .constant (.finite 0)
  tS : Double := .finite 0
  qd : JointVec := .constant (.finite 0)
  qdd : JointVec := .constant (.finite 0)
  deriving DecidableEq

structure Trajectory where
  points : List JointWaypoint := []
  hasVelocities : Bool := false
  hasAccelerations : Bool := false
  deriving DecidableEq

structure TrajectoryGoal where
  trajectory : Trajectory
  pathTolerance : JointVec
  goalTolerance : JointVec
  goalTimeToleranceS : Double
  controlMode : ControlModeKind
  preemption : Preemption
  gains : ImpedanceGains
  senderId : String
  token : Token
  speedScale : Double
  deriving DecidableEq

structure TrajectoryResult where
  errorCode : Int
  errorString : String := ""
  finalError : JointVec := .constant (.finite 0)
  deriving DecidableEq

/-! `kinova::interface::result_code`. -/
namespace ResultCode
def kSuccessful : Int := 0
def kInvalidGoal : Int := -1
def kPreempted : Int := -6
def kPlanningFailed : Int := -7
def kStreamRejected : Int := -10
def kContactStop : Int := -11
end ResultCode

inductive GoalResponse where
  | accept | reject
  deriving DecidableEq

inductive CancelResponse where
  | accept | reject
  deriving DecidableEq

inductive DiagnosticLevel where
  | ok | warn | error | stale
  deriving DecidableEq

inductive ContactPhase where
  | settling | armed | latched
  deriving DecidableEq

/-- `ContactState`: what the contact monitor reports. `joint` is the last trip's, counted from 0. -/
structure ContactState where
  enabled : Bool := false
  phase : ContactPhase := .settling
  hasTrip : Bool := false
  joint : Nat := 0
  deriving DecidableEq

/-- The measured arm: `stamp_s` is zero until the first feedback. -/
structure ArmState where
  q : JointVec := .constant (.finite 0)
  stampS : Double := .finite 0
  deriving DecidableEq

structure ArmJointNames where
  names : List String
  width : names.length = kNumJoints
  distinct : names.Nodup

/-- What the driver library, which is not part of this repository, supplies to the mapping. -/
structure Driver where
  trajectoryGoal : TrajectoryGoal
  customGains : CustomGains
  kMinSpeedScale : Double
  /-- `validate_custom`: why these gains are out of bounds. -/
  validateCustom : CustomGains → Option String

end KinovaGen3
