import KinovaGen3.Mapping.MessageMapping
import KinovaGen3.Planning.PlannerClient

/-!
The five GoTo action servers: what they refuse, how they plan an accepted goal and what
`PlannedMoveServer::on_plan_done` makes of the plan. Their lifecycle is in `Lifecycle`.
-/

namespace KinovaGen3
open Interaction

/-- `GoToPresetServer::Registry`. -/
abbrev Registry := String → Option (List Double)

structure Node where
  driver : Driver
  arm : ArmJointNames
  presets : Registry

def Node.armJointNames (node : Node) : List String := node.arm.names

inductive MoveGoal where
  | eePose (goal : GoToEEPose.Goal)
  | jointConfig (goal : GoToJointConfig.Goal)
  | preset (goal : GoToPreset.Goal)
  | eePoses (goal : GoToEEPoses.Goal)
  | jointConfigs (goal : GoToJointConfigs.Goal)
  deriving DecidableEq

inductive MoveServer where
  | goToEEPose | goToJointConfig | goToPreset | goToEEPoses | goToJointConfigs
  deriving DecidableEq

namespace MoveGoal

def server : MoveGoal → MoveServer
  | eePose _ => .goToEEPose
  | jointConfig _ => .goToJointConfig
  | preset _ => .goToPreset
  | eePoses _ => .goToEEPoses
  | jointConfigs _ => .goToJointConfigs

def controlMode : MoveGoal → UInt8
  | eePose g => g.controlMode
  | jointConfig g => g.controlMode
  | preset g => g.controlMode
  | eePoses g => g.controlMode
  | jointConfigs g => g.controlMode

def gains : MoveGoal → ImpedanceGainsMsg
  | eePose g => g.gains
  | jointConfig g => g.gains
  | preset g => g.gains
  | eePoses g => g.gains
  | jointConfigs g => g.gains

def senderId : MoveGoal → String
  | eePose g => g.senderId
  | jointConfig g => g.senderId
  | preset g => g.senderId
  | eePoses g => g.senderId
  | jointConfigs g => g.senderId

def token : MoveGoal → Token
  | eePose g => g.token
  | jointConfig g => g.token
  | preset g => g.token
  | eePoses g => g.token
  | jointConfigs g => g.token

/-- `execution_speed_scale`: the blend of several targets already carries their speeds. -/
def executionSpeedScale : MoveGoal → Double
  | eePose g => g.speedScale
  | jointConfig g => g.speedScale
  | preset g => g.speedScale
  | eePoses _ | jointConfigs _ => .finite 1

end MoveGoal

/-! ### Checks on the targets -/

def orientationHoldRejection (what : String) (hold : UInt8) : Option String :=
  if hold = HOLD_NONE ∨ hold = HOLD_LEVEL ∨ hold = HOLD_FIXED then none
  else some (what ++ ": unknown orientation_hold " ++ toString hold ++ " (expected HOLD_NONE=" ++
    toString HOLD_NONE ++ ", HOLD_LEVEL=" ++ toString HOLD_LEVEL ++ " or HOLD_FIXED=" ++
    toString HOLD_FIXED ++ ")")

def targetJointsRejection (what : String) (q : JointVec) : Option String :=
  (List.finRange kNumJoints).findSome? fun i =>
    if (q i).isFinite then none
    else some (what ++ "target_joints[" ++ toString i.val ++ "] is not finite")

def poseRejection (p : Pose) : Option String :=
  let q := p.orientation
  if [p.position.x, p.position.y, p.position.z, q.x, q.y, q.z, q.w].any (!·.isFinite) then
    some "pose is not finite"
  else
    let square (v : Double) := v.mul v
    let norm := (((square q.x).add (square q.y)).add (square q.z)).add (square q.w) |>.sqrt
    if (norm.add (.finite (-1))).abs.lt (.finite (1 / 1000)) then none
    else some ("pose orientation is not a unit quaternion (norm " ++ norm.toFixed ++ ")")

def startConfig : Planning (List Double) :=
  (Prog.request PlanRequest.queryState).bind fun s => .done (List.ofFn s.q)

/-- `canceling`: a goal no longer tracked counts as canceled. -/
def canceling : Planning Bool :=
  (Prog.request PlanRequest.tracked).bind fun found =>
    if found then Prog.request PlanRequest.isCanceling else .done true

/-! ### The servers -/

namespace GoToEEPoseServer

def checkPlan (o : Outcome) : Option String :=
  (posePlanFrameRejection o.trajectory.frameId).map ("GoToEEPose: " ++ ·)

def validate (d : Driver) (goal : GoToEEPose.Goal) : Option String :=
  ((eePoseFrameRejection goal.target.frameId).map ("GoToEEPose: " ++ ·)).or <|
  ((speedScaleRejection d goal.speedScale).map ("GoToEEPose: " ++ ·)).or <|
  orientationHoldRejection "GoToEEPose" goal.orientationHold

def startPlan (goal : GoToEEPose.Goal) : Planning Outcome :=
  startConfig.bind fun start =>
    CuroboPlanClient.plan goal.target.pose start goal.orientationHold ""

end GoToEEPoseServer

namespace GoToJointConfigServer

def validate (d : Driver) (goal : GoToJointConfig.Goal) : Option String :=
  ((speedScaleRejection d goal.speedScale).map ("GoToJointConfig: " ++ ·)).or <|
  targetJointsRejection "GoToJointConfig: " goal.targetJoints

def startPlan (goal : GoToJointConfig.Goal) : Planning Outcome :=
  startConfig.bind fun start =>
    CuroboPlanClient.planToJoints (List.ofFn goal.targetJoints) start ""

end GoToJointConfigServer

namespace GoToPresetServer

def validate (node : Node) (goal : GoToPreset.Goal) : Option String :=
  ((speedScaleRejection node.driver goal.speedScale).map ("GoToPreset: " ++ ·)).or <|
  if (node.presets goal.presetName).isSome then none
  else some ("GoToPreset: unknown preset '" ++ goal.presetName ++ "'")

/-- `none` where `registry_.at` throws. -/
def startPlan (node : Node) (goal : GoToPreset.Goal) : Option (Planning Outcome) :=
  (node.presets goal.presetName).map fun q =>
    startConfig.bind fun start => CuroboPlanClient.planToJoints q start ""

end GoToPresetServer

/-- What the loop of `start_plan` over several targets collects for the blend. -/
structure BlendArrays where
  scales : List Double := []
  radii : List Double := []
  holds : List UInt8 := []
  orientations : List Quaternion := []

/-- The loop, with what it reads of a target. The last target's radius is not used: the motion stops
there. -/
def blendArrays {T : Type} [Inhabited T] (speedScale blendRadius : T → Double)
    (hold : T → Option (UInt8 × Quaternion)) (targets : List T) : BlendArrays :=
  (List.range targets.length).foldl (fun acc k =>
    let t := targets.getD k default
    { scales := acc.scales ++ [speedScale t]
      holds := acc.holds ++ ((hold t).map Prod.fst).toList
      orientations := acc.orientations ++ ((hold t).map Prod.snd).toList
      radii := if k + 1 < targets.length then acc.radii ++ [blendRadius t] else acc.radii }) {}

namespace GoToEEPosesServer

def checkPlan (o : Outcome) : Option String :=
  (posePlanFrameRejection o.trajectory.frameId).map ("GoToEEPoses: " ++ ·)

def targetRejection (d : Driver) (t : EEPoseTarget) (k : Nat) : Option String :=
  let what := "GoToEEPoses: targets[" ++ toString k ++ "]"
  ((eePoseFrameRejection t.pose.frameId).map (what ++ ": " ++ ·)).or <|
  ((poseRejection t.pose.pose).map (what ++ ": " ++ ·)).or <|
  ((speedScaleRejection d t.speedScale).map (what ++ ": " ++ ·)).or <|
  (orientationHoldRejection what t.orientationHold).or <|
  (blendRadiusRejection t.blendRadius).map (what ++ ": " ++ ·)

def validate (d : Driver) (goal : GoToEEPoses.Goal) : Option String :=
  if goal.targets.isEmpty then some "GoToEEPoses: no targets (at least one is needed)"
  else goal.targets.zipIdx.findSome? fun (t, k) => targetRejection d t k

def arrays (goal : GoToEEPoses.Goal) : BlendArrays :=
  blendArrays EEPoseTarget.speedScale EEPoseTarget.blendRadius
    (fun t => some (t.orientationHold, t.pose.pose.orientation)) goal.targets

/-- The callbacks `start_plan` hands to `plan_legs`. -/
def legChain (goal : GoToEEPoses.Goal) : LegChain PlanRequest.Answer Outcome where
  n := goal.targets.length
  planLeg k start name :=
    let t := goal.targets.getD k default
    CuroboPlanClient.plan t.pose.pose start t.orientationHold name
  blend legs name :=
    CuroboPlanClient.blend legs (arrays goal).radii (arrays goal).scales (arrays goal).holds
      (arrays goal).orientations name
  canceling := canceling
  onDone := .done

def startPlan (goal : GoToEEPoses.Goal) : Planning Outcome :=
  startConfig.bind fun start => planLegs (legChain goal) start

end GoToEEPosesServer

namespace GoToJointConfigsServer

def targetRejection (d : Driver) (t : JointConfigTarget) (k : Nat) : Option String :=
  let what := "GoToJointConfigs: targets[" ++ toString k ++ "]"
  (targetJointsRejection (what ++ ".") t.targetJoints).or <|
  ((speedScaleRejection d t.speedScale).map (what ++ ": " ++ ·)).or <|
  (blendRadiusRejection t.blendRadius).map (what ++ ": " ++ ·)

def validate (d : Driver) (goal : GoToJointConfigs.Goal) : Option String :=
  if goal.targets.isEmpty then some "GoToJointConfigs: no targets (at least one is needed)"
  else goal.targets.zipIdx.findSome? fun (t, k) => targetRejection d t k

def arrays (goal : GoToJointConfigs.Goal) : BlendArrays :=
  blendArrays JointConfigTarget.speedScale JointConfigTarget.blendRadius (fun _ => none) goal.targets

def legChain (goal : GoToJointConfigs.Goal) : LegChain PlanRequest.Answer Outcome where
  n := goal.targets.length
  planLeg k start name :=
    CuroboPlanClient.planToJoints (List.ofFn (goal.targets.getD k default).targetJoints) start name
  -- These legs are planned in joint space, so the blend has no holds.
  blend legs name := CuroboPlanClient.blend legs (arrays goal).radii (arrays goal).scales [] [] name
  canceling := canceling
  onDone := .done

def startPlan (goal : GoToJointConfigs.Goal) : Planning Outcome :=
  startConfig.bind fun start => planLegs (legChain goal) start

end GoToJointConfigsServer

/-! ### The parts of `PlannedMoveServer` that decide without a lock -/

def validate (node : Node) : MoveGoal → Option String
  | .eePose g => GoToEEPoseServer.validate node.driver g
  | .jointConfig g => GoToJointConfigServer.validate node.driver g
  | .preset g => GoToPresetServer.validate node g
  | .eePoses g => GoToEEPosesServer.validate node.driver g
  | .jointConfigs g => GoToJointConfigsServer.validate node.driver g

def startPlan (node : Node) : MoveGoal → Option (Planning Outcome)
  | .eePose g => some (GoToEEPoseServer.startPlan g)
  | .jointConfig g => some (GoToJointConfigServer.startPlan g)
  | .preset g => GoToPresetServer.startPlan node g
  | .eePoses g => some (GoToEEPosesServer.startPlan g)
  | .jointConfigs g => some (GoToJointConfigsServer.startPlan g)

def checkPlan (goal : MoveGoal) (o : Outcome) : Option String :=
  match goal with
  | .eePose _ => GoToEEPoseServer.checkPlan o
  | .eePoses _ => GoToEEPosesServer.checkPlan o
  | _ => none

structure SinkState where
  arm : ArmState
  contact : ContactState

namespace PlannedMoveServer

def handleGoal (node : Node) (sink : Option SinkState) (goal : MoveGoal) : GoalResponse :=
  match sink with
  | none => .reject
  | some s =>
    if s.arm.stampS.le (.finite 0) then .reject
    else if (modeGainsRejection node.driver goal.controlMode goal.gains).isSome then .reject
    else if (contactRejection s.contact).isSome then .reject
    else if (validate node goal).isSome then .reject
    else .accept

theorem handleGoal_accept {node : Node} {sink : Option SinkState} {goal : MoveGoal}
    (h : handleGoal node sink goal = .accept) :
    modeGainsRejection node.driver goal.controlMode goal.gains = none ∧ validate node goal = none := by
  unfold handleGoal at h
  split at h
  · cases h
  · split at h
    · cases h
    · split at h
      · cases h
      · split at h
        · cases h
        · split at h
          · cases h
          · simp_all

def kGotoPathTolRad : Double := .finite (35 / 100)

/-- `kGotoPathTolImpedanceRad`: above the largest leash of a compliant profile. -/
def kGotoPathTolImpedanceRad : Double := .finite (60 / 100)

def widthRejection (points : List JointTrajectoryPoint) : Option String :=
  points.findSome? fun p =>
    if p.positions.length = kNumJoints then none
    else some ("planner returned malformed trajectory: point has " ++
      toString p.positions.length ++ " positions, expected " ++ toString kNumJoints)

/-- Why `on_plan_done` settles a successful plan `PLANNING_FAILED`. -/
def planRejection (node : Node) (goal : MoveGoal) (o : Outcome) : Option String :=
  (checkPlan goal o).or <|
  (if o.trajectory.points.isEmpty then some "planner returned an empty trajectory" else none).or <|
  (widthRejection o.trajectory.points).or <|
  (jointNamesRejection o.trajectory.jointNames node.armJointNames).map
    ("planner returned malformed trajectory: joint_names: " ++ ·)

/-- The goal `on_plan_done` submits for a plan it does not reject. -/
def submission (node : Node) (goal : MoveGoal) (o : Outcome) : TrajectoryGoal :=
  let tg := planTrajectoryGoal node.driver o.trajectory goal.executionSpeedScale
    (toControlMode goal.controlMode) (toImpedanceGains node.driver goal.gains)
  { tg with
    pathTolerance := .constant
      (if tg.controlMode = .impedance then kGotoPathTolImpedanceRad else kGotoPathTolRad)
    senderId := goal.senderId
    token := goal.token }

end PlannedMoveServer

/-! ### A node to run the servers on -/

def benchNode : Node where
  driver :=
    { trajectoryGoal :=
        { trajectory := {}
          pathTolerance := .constant (.finite (-1))
          goalTolerance := .constant (.finite (-1))
          goalTimeToleranceS := .finite 0
          controlMode := .position
          preemption := .queue
          gains := ⟨.sessionDefault, {}⟩
          senderId := ""
          token := .zero
          speedScale := .finite 1 }
      customGains := {}
      kMinSpeedScale := .finite (1 / 20)
      validateCustom := fun _ => none }
  arm :=
    { names := ["joint_1", "joint_2", "joint_3", "joint_4", "joint_5", "joint_6", "joint_7"]
      width := rfl
      distinct := by decide }
  presets _ := none

end KinovaGen3
