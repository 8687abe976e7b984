import KinovaGen3.GoTo.Servers

/-! `ros2_backend.cpp`: which `ExecuteJointTrajectory` goals reach the driver, and as what. -/

namespace KinovaGen3.Ros2Backend

def widthRejection (points : List JointTrajectoryPoint) : Option String :=
  points.zipIdx.findSome? fun (p, i) =>
    if p.positions.length = kNumJoints then none
    else some ("point " ++ toString i ++ " has " ++ toString p.positions.length ++
      " positions, expected " ++ toString kNumJoints)

def goalRejection (node : Node) (goal : ExecuteJointTrajectory.Goal) : Option String :=
  (if goal.trajectory.points.isEmpty then some "trajectory has no points" else none).or <|
  (widthRejection goal.trajectory.points).or <|
  (goalJointNamesRejection goal node.armJointNames).or <|
  (speedScaleRejection node.driver goal.speedScale).or <|
  modeGainsRejection node.driver goal.controlMode goal.gains

/-- `handle_goal` up to its call of `on_trajectory_goal`: what it submits, unless it refuses. -/
def handleGoal (node : Node) (sink : Option SinkState) (goal : ExecuteJointTrajectory.Goal) :
    Option TrajectoryGoal :=
  match sink with
  | none => none
  | some s =>
    match (goalRejection node goal).or (contactRejection s.contact) with
    | some _ => none
    | none => some (toTrajectoryGoal node.driver goal)

end KinovaGen3.Ros2Backend
