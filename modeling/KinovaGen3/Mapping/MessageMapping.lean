import KinovaGen3.Core.Messages

/-! `message_mapping.cpp`: ROS messages to the driver's values, and the reasons to refuse them. -/

namespace KinovaGen3

def tolToVec (t : List JointTolerance) : JointVec :=
  if t.isEmpty then .constant (.finite (-1))
  else fun i => match t[i.val]? with
    | some tolerance => tolerance.position
    | none => .finite (-1)

def Duration.seconds (d : Duration) : Double := .finite (d.sec + d.nanosec / 10 ^ 9)

def Duration.nanoseconds (d : Duration) : Int := d.sec * 10 ^ 9 + d.nanosec

theorem Duration.seconds_eq_iff {d : Duration} {q : Rat} :
    d.seconds = .finite q ↔ q * 10 ^ 9 = d.nanoseconds := by
  have scaled : ((d.sec : Rat) + d.nanosec / 10 ^ 9) * 10 ^ 9 = d.nanoseconds := by
    simp only [nanoseconds, Int.cast_add, Int.cast_mul, Int.cast_pow, Int.cast_ofNat, Int.cast_natCast]
    ring
  rw [seconds, Double.finite.injEq, ← scaled]
  constructor
  · rintro rfl
    rfl
  · intro same
    exact (mul_right_cancel₀ (by norm_num) same).symm

/-- Where `nanosec` is below a second, the rounding of the source keeps this order. -/
theorem Duration.seconds_le {a b : Duration} (sooner : a.nanoseconds ≤ b.nanoseconds) :
    a.seconds.le b.seconds = true := by
  have first := (seconds_eq_iff (d := a)).mp rfl
  have second := (seconds_eq_iff (d := b)).mp rfl
  have sooner : (a.nanoseconds : Rat) ≤ b.nanoseconds := by exact_mod_cast sooner
  rw [← first, ← second] at sooner
  exact decide_eq_true (le_of_mul_le_mul_right sooner (by norm_num))

/-- The flags are over the whole list, so one point without a profile drops it at every point. -/
def fillTrajectory (points : List JointTrajectoryPoint) : Trajectory :=
  let allVel := !points.isEmpty && points.all fun p => p.velocities.length == kNumJoints
  let allAcc := !points.isEmpty && points.all fun p => p.accelerations.length == kNumJoints
  { points := points.map fun p =>
      { q := fun i => p.positions.getD i (.finite 0)
        qd := fun i => if allVel then p.velocities.getD i (.finite 0) else .finite 0
        qdd := fun i => if allAcc then p.accelerations.getD i (.finite 0) else .finite 0
        tS := p.timeFromStart.seconds }
    hasVelocities := allVel
    hasAccelerations := allVel && allAcc }

def toControlMode (m : UInt8) : ControlModeKind := if m = 1 then .impedance else .position

open ImpedanceGainsMsg in
/-- Only `PROFILE_CUSTOM` reads the custom fields. -/
def toImpedanceGains (d : Driver) (m : ImpedanceGainsMsg) : ImpedanceGains :=
  if m.profile = PROFILE_SOFT then ⟨.soft, d.customGains⟩
  else if m.profile = PROFILE_MEDIUM then ⟨.medium, d.customGains⟩
  else if m.profile = PROFILE_STIFF then ⟨.stiff, d.customGains⟩
  else if m.profile = PROFILE_CUSTOM then ⟨.custom, m.custom⟩
  else ⟨.sessionDefault, d.customGains⟩

def toTrajectoryGoal (d : Driver) (g : ExecuteJointTrajectory.Goal) : TrajectoryGoal where
  trajectory := fillTrajectory g.trajectory.points
  pathTolerance := tolToVec g.pathTolerance
  goalTolerance := tolToVec g.goalTolerance
  goalTimeToleranceS := g.goalTimeTolerance.seconds
  controlMode := toControlMode g.controlMode
  preemption := if g.preemption = 1 then .latestWins else .queue
  gains := toImpedanceGains d g.gains
  senderId := g.senderId
  token := g.token
  speedScale := g.speedScale

def planTrajectoryGoal (d : Driver) (traj : JointTrajectory) (speedScale : Double)
    (controlMode : ControlModeKind) (gains : ImpedanceGains) : TrajectoryGoal :=
  { d.trajectoryGoal with
    trajectory := fillTrajectory traj.points
    controlMode, gains, speedScale
    preemption := .latestWins }

/-! ### Reasons to refuse -/

open ImpedanceGainsMsg in
def modeGainsRejection (d : Driver) (controlMode : UInt8) (g : ImpedanceGainsMsg) : Option String :=
  if controlMode > 1 then
    some ("control_mode " ++ toString controlMode ++
      " is not CONTROL_MODE_POSITION (0) or CONTROL_MODE_IMPEDANCE (1)")
  else if g.profile > PROFILE_CUSTOM then
    some ("unknown gains profile " ++ toString g.profile ++
      " (expected PROFILE_SESSION_DEFAULT=0 .. PROFILE_CUSTOM=4)")
  else if controlMode ≠ 1 ∧ g.profile ≠ PROFILE_SESSION_DEFAULT then
    some ("gains (profile " ++ toString g.profile ++ ") supplied for a non-impedance command")
  else if g.profile = PROFILE_CUSTOM then d.validateCustom (toImpedanceGains d g).custom
  else none

/-- A contact stop is in force: the state `contact_rejection` refuses new work in. -/
def ContactState.stopped (s : ContactState) : Bool := s.enabled && s.phase == .latched

def contactRejection (s : ContactState) : Option String :=
  if s.stopped then
    some ("stopped on unexpected contact" ++
      (if s.hasTrip then " (joint " ++ toString (s.joint + 1) ++ ")" else "") ++
      "; call /clear_faults")
  else none

def bracketed (names : List String) : String :=
  "[" ++ names.foldl (fun s n => s ++ (if s.isEmpty then "" else ", ") ++ n) "" ++ "]"

/-- Positions are mapped by index, so the names must be the arm's in chain order. -/
def jointNamesRejection (got arm : List String) : Option String :=
  if got = arm then none
  else some ("got " ++ bracketed got ++ ", expected " ++ bracketed arm ++ " in that order")

/-- One tolerance list of a goal: an empty one disables its guard. -/
def toleranceNamesRejection (field : String) (tol : List JointTolerance) (arm : List String) :
    Option String :=
  if tol.isEmpty then none
  else (jointNamesRejection (tol.map (·.name)) arm).map fun why => field ++ " names: " ++ why

def goalJointNamesRejection (g : ExecuteJointTrajectory.Goal) (arm : List String) : Option String :=
  ((jointNamesRejection g.trajectory.jointNames arm).map fun why =>
      "trajectory joint_names: " ++ why).or
    ((toleranceNamesRejection "path_tolerance" g.pathTolerance arm).or
      (toleranceNamesRejection "goal_tolerance" g.goalTolerance arm))

def speedScaleRejection (d : Driver) (s : Double) : Option String :=
  if !s.isFinite then some "speed_scale must be finite"
  else if s.lt d.kMinSpeedScale || Double.lt (.finite 1) s then
    some ("speed_scale must be in [" ++ d.kMinSpeedScale.toGeneral ++ ", 1]; got " ++ s.toGeneral)
  else none

def eePoseFrameRejection (frameId : String) : Option String :=
  if frameId = "arm_mount" then none
  else if frameId = "base_link" then
    some ("frame_id 'base_link' is no longer accepted: Cartesian goals are in 'arm_mount' " ++
      "(gravity-aligned), which differs from the arm's base on a tilted mount")
  else some ("frame_id '" ++ frameId ++ "' != arm_mount")

def posePlanFrameRejection (planFrame : String) : Option String :=
  if planFrame = "arm_mount" then none
  else some ("the planner's trajectory is in frame '" ++
    (if planFrame.isEmpty then "(unset)" else planFrame) ++ "', not arm_mount. Deploy a cuRobo " ++
    "that plans in arm_mount (it reads /arm/robot_description and stamps header.frame_id); " ++
    "joint-space goals are unaffected")

end KinovaGen3
