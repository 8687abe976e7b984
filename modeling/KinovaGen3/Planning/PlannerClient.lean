import KinovaGen3.Planning.PlanLegs

/-! `curobo_plan_client.cpp`: what is sent to the planner, and the outcome its reply becomes. -/

namespace KinovaGen3
open Interaction

inductive PlannerHold where
  | none | level | fixed
  deriving DecidableEq

def toPlanner (hold : UInt8) : Except String PlannerHold :=
  if hold = HOLD_NONE then .ok .none
  else if hold = HOLD_LEVEL then .ok .level
  else if hold = HOLD_FIXED then .ok .fixed
  else .error ("unknown orientation hold mode " ++ toString hold)

inductive PlannerGoal where
  | planToPose (target : Pose) (startJoints : List Double) (hold : PlannerHold)
  | planToJoints (targetJoints startJoints : List Double)
  | blend (legs : List JointTrajectory) (blendRadius speedScale : List Double)
      (hold : List PlannerHold) (holdOrientation : List Quaternion)
  deriving DecidableEq

/-- A planner action's result. Only `plan_to_joints` has a mismatch to report. -/
structure PlannerResult where
  success : Bool := false
  message : String := ""
  trajectory : JointTrajectory := {}
  goalMismatchRad : Double := .finite 0

inductive PlannerReply where
  | unavailable
  | rejected
  | result (succeeded : Bool) (result : Option PlannerResult)

def mismatchOf (goal : PlannerGoal) (result : PlannerResult) : Double :=
  match goal with
  | .planToJoints .. => result.goalMismatchRad
  | _ => .finite 0

/-- The outcome `dispatch_plan` fires for a reply. -/
def PlannerReply.outcome (goal : PlannerGoal) : PlannerReply → Outcome
  | unavailable => { message := "cuRobo action server unavailable" }
  | rejected => { message := "cuRobo rejected plan goal" }
  | result succeeded r =>
    match r with
    | none => { message := "cuRobo plan failed" }
    | some r =>
      if succeeded && r.success then
        { ok := true
          message := r.message
          trajectory := r.trajectory
          goalMismatchRad := mismatchOf goal r }
      else { message := if r.message.isEmpty then "cuRobo plan failed" else r.message }

inductive PlanRequest where
  | queryState
  /-- A dispatch to the planner, whose feedback is relayed under a prefix. -/
  | planner (goal : PlannerGoal) (feedbackPrefix : String)
  /-- The locked search of `canceling()`: whether the goal is still in `goals_`. -/
  | tracked
  | isCanceling
  deriving DecidableEq

@[reducible] def PlanRequest.Answer : PlanRequest → Type
  | queryState => ArmState
  | planner .. => PlannerReply
  | tracked => Bool
  | isCanceling => Bool

/-- A callback-taking call, as the program that returns what the callback is given. -/
abbrev Planning (α : Type) := Prog PlanRequest.Answer α

namespace CuroboPlanClient

def dispatchPlan (goal : PlannerGoal) (feedbackPrefix : String) : Planning Outcome :=
  (Prog.request (PlanRequest.planner goal feedbackPrefix)).bind fun reply => .done (reply.outcome goal)

def plan (target : Pose) (startJoints : List Double) (hold : UInt8) (feedbackPrefix : String) :
    Planning Outcome :=
  match toPlanner hold with
  | .ok mode => dispatchPlan (.planToPose target startJoints mode) feedbackPrefix
  | .error why => .done { message := why }

def planToJoints (targetJoints startJoints : List Double) (feedbackPrefix : String) :
    Planning Outcome :=
  dispatchPlan (.planToJoints targetJoints startJoints) feedbackPrefix

def blend (legs : List JointTrajectory) (blendRadius speedScale : List Double) (hold : List UInt8)
    (holdOrientation : List Quaternion) (feedbackPrefix : String) : Planning Outcome :=
  match hold.mapM toPlanner with
  | .ok modes =>
    dispatchPlan (.blend legs blendRadius speedScale modes holdOrientation) feedbackPrefix
  | .error why => .done { message := why }

theorem runs_dispatchPlan {goal : PlannerGoal} {feedbackPrefix : String}
    {trace : List (Exchange PlanRequest.Answer)} {o : Outcome} :
    Runs (dispatchPlan goal feedbackPrefix) trace o ↔
      ∃ reply, trace = [⟨.planner goal feedbackPrefix, reply⟩] ∧ o = reply.outcome goal := by
  simp only [dispatchPlan, runs_bind, runs_request, runs_done]
  constructor
  · rintro ⟨_, reply, _, rfl, rfl, rfl, rfl⟩
    exact ⟨reply, rfl, rfl⟩
  · rintro ⟨reply, rfl, rfl⟩
    exact ⟨_, reply, [], rfl, rfl, rfl, rfl⟩

end CuroboPlanClient
end KinovaGen3
