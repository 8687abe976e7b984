import KinovaGen3.Lifecycle.System

/-!
The feedback of a goal. The planner's callback looks the goal up under the server's lock and
publishes after it has let go of the lock, and so does a sample of the Supervisor's, which the router
has sent there. Any number of both can be under way, next to the threads that move the goal.
-/

namespace KinovaGen3
open Interaction Transition

/-- `kinova::interface::TrajectoryFeedback`. -/
structure TrajectoryFeedback where
  desired : JointVec
  actual : JointVec
  error : JointVec
  fractionComplete : Double

def vecToPoint (v : JointVec) : JointTrajectoryPoint := { positions := List.ofFn v }

structure ExecuteJointTrajectory.Feedback where
  desired : JointTrajectoryPoint
  actual : JointTrajectoryPoint
  error : JointTrajectoryPoint
  fractionComplete : Double
  deriving DecidableEq

def toFeedbackMsg (fb : TrajectoryFeedback) : ExecuteJointTrajectory.Feedback where
  desired := vecToPoint fb.desired
  actual := vecToPoint fb.actual
  error := vecToPoint fb.error
  fractionComplete := fb.fractionComplete.toFloat

/-- The GoTo actions have the same feedback. -/
structure MoveFeedback where
  phase : String := ""
  plannerState : String := ""
  fractionComplete : Double := .finite 0
  actual : JointTrajectoryPoint := {}
  deriving DecidableEq

inductive ActionFeedback where
  | move (msg : MoveFeedback)
  | execute (msg : ExecuteJointTrajectory.Feedback)
  deriving DecidableEq

namespace ActionFeedback

/-- `ExecuteJointTrajectory` has no phases and no planner. -/
def phase : ActionFeedback → String
  | move msg => msg.phase
  | execute _ => ""

def plannerState : ActionFeedback → String
  | move msg => msg.plannerState
  | execute _ => ""

end ActionFeedback

/-- What `handle_accepted` publishes before it starts the plan. -/
def planningFeedback : ActionFeedback := .move { phase := "planning" }

def plannerFeedback (state : String) : ActionFeedback :=
  .move { phase := "planning", plannerState := state }

/-- The message of the port's `publish_feedback`. -/
def Port.feedback (fb : TrajectoryFeedback) : Port → ActionFeedback
  | move _ =>
    .move
      { phase := "executing"
        fractionComplete := fb.fractionComplete.toFloat
        actual := vecToPoint fb.actual }
  | backend => .execute (toFeedbackMsg fb)

/-- Who publishes: the feedback callback of the `k`-th plan the goal asked for, or the Supervisor. -/
inductive FeedbackSource where
  | plan (k : Nat)
  | execution
  deriving DecidableEq

/-- A run of the planner's feedback callback, or of `GoalRouter::publish_feedback`. -/
inductive FeedbackCall where
  /-- The callback has the state, with its prefix; it has not looked the goal up. -/
  | heard (k : Nat) (state : String)
  | relaying (k : Nat) (state : String)
  | sampled (fb : TrajectoryFeedback)
  | routed (port : Port) (fb : TrajectoryFeedback)
  | executing (port : Port) (fb : TrajectoryFeedback)
  | published (source : FeedbackSource)
  /-- It has not found the goal. -/
  | dropped

/-- A plan whose result has been taken. `ran` is whether the planner accepted it, so that there is
feedback of it. -/
structure EndedPlan where
  feedbackPrefix : String
  ran : Bool

structure Feed where
  plans : List EndedPlan := []
  calls : List FeedbackCall := []
  /-- What has been published on the goal's handle. -/
  published : List ActionFeedback := []

inductive FeedbackAction where
  /-- The planner has a state of the `k`-th plan. -/
  | planner (k : Nat) (state : String)
  | sample (fb : TrajectoryFeedback)
  | step (i : Nat)

def PlannerReply.ran : PlannerReply → Bool
  | result .. => true
  | _ => false

/-- The prefix of the plan in flight. -/
def Main.asking? : Main → Option String
  | planning (.ask (.planner _ feedbackPrefix) _) => some feedbackPrefix
  | _ => none

/-- The request the goal waits for the planner to answer. -/
def Main.request? : Main → Option PlannerGoal
  | planning (.ask (.planner goal _) _) => some goal
  | _ => none

namespace Feed

/-- What a step of the goal's own threads does besides: `handle_accepted` publishes, and a plan ends
with its answer. -/
def after (f : Feed) (s : GoalState) (act : GoalAction) : Feed :=
  match act, s.main, s.handle with
  | .main, .recorded, some ⟨.move _, _⟩ => { f with published := f.published ++ [planningFeedback] }
  | .planner reply, .planning (.ask (.planner _ feedbackPrefix) _), _ =>
    { f with plans := f.plans ++ [⟨feedbackPrefix, reply.ran⟩] }
  | _, _, _ => f

/-- The prefix of the `k`-th plan, while the planner can have feedback of it. -/
def prefixOf (f : Feed) (s : GoalState) (k : Nat) : Option String :=
  if k = f.plans.length then s.main.asking?
  else (f.plans[k]?).bind fun plan => if plan.ran then some plan.feedbackPrefix else none

def set (f : Feed) (i : Nat) (call : FeedbackCall) : Feed := { f with calls := f.calls.set i call }

def publish (f : Feed) (i : Nat) (source : FeedbackSource) (msg : ActionFeedback) : Feed :=
  { f.set i (.published source) with published := f.published ++ [msg] }

def callStep (f : Feed) (s : GoalState) (i : Nat) : FeedbackCall → Option Feed
  | .heard k state =>
    match s.handle with
    | some ⟨.move g, _⟩ =>
      some (f.set i (if s.holds (.move g.server) then .relaying k state else .dropped))
    | _ => none
  | .relaying k state => some (f.publish i (.plan k) (plannerFeedback state))
  | .sampled fb => some (f.set i (.routed (s.owner.getD .backend) fb))
  | .routed port fb => some (f.set i (if s.holds port then .executing port fb else .dropped))
  | .executing port fb => some (f.publish i .execution (port.feedback fb))
  | _ => none

def step (f : Feed) (s : GoalState) : FeedbackAction → Option Feed
  | .planner k state =>
    (f.prefixOf s k).map fun name => { f with calls := f.calls ++ [.heard k (name ++ state)] }
  -- The Supervisor samples a goal once it has been handed over.
  | .sample fb => if s.handed then some { f with calls := f.calls ++ [.sampled fb] } else none
  | .step i => (f.calls[i]?).bind (f.callStep s i)

end Feed

/-- The node, and the feedback of each of its goals. -/
structure Relay where
  system : System
  feed : GoalId → Feed

inductive RelayAction where
  | node (act : Action)
  | feedback (id : GoalId) (act : FeedbackAction)

namespace Relay

def init : Relay := ⟨System.init, fun _ => {}⟩

def goal (s : Relay) (id : GoalId) : GoalState := s.system.goal id

def setFeed (s : Relay) (id : GoalId) (f : Feed) : Relay :=
  { s with feed := Function.update s.feed id f }

/-- The feeds after a step of the node. -/
def after (s : Relay) : Action → GoalId → Feed
  | .goal id act => Function.update s.feed id ((s.feed id).after (s.goal id) act)
  | .contact _ => s.feed

variable (node : Node)

def step (s : Relay) : RelayAction → Option Relay
  | .node act => (s.system.step node act).map fun t => ⟨t, s.after act⟩
  | .feedback id act => ((s.feed id).step (s.goal id) act).map (s.setFeed id)

end Relay

/-! ### One goal of a run -/

namespace Relay
variable {node : Node} {s t : Relay}

/-- What a step of the node with its feeds is for the goal under an id. -/
theorem feed_step {act : RelayAction} (id : GoalId) (taken : s.step node act = some t) :
    (∃ own, act = .node (.goal id own) ∧
      (s.goal id).step node s.system.contact own = some (t.goal id) ∧
      t.feed id = (s.feed id).after (s.goal id) own) ∨
    (∃ own, act = .feedback id own ∧ t.goal id = s.goal id ∧
      (s.feed id).step (s.goal id) own = some (t.feed id)) ∨
    t.goal id = s.goal id ∧ t.feed id = s.feed id ∧ ∀ own, act ≠ .feedback id own := by
  cases act with
  | node act =>
    obtain ⟨u, moved, rfl⟩ := Option.map_eq_some_iff.mp taken
    cases act with
    | goal other own =>
      by_cases same : id = other
      · subst same
        refine Or.inl ⟨own, rfl, System.own_step moved, ?_⟩
        simp [after]
      · rcases System.goal_step id moved with ⟨own', shown, -⟩ | kept
        · cases shown
          exact (same rfl).elim
        · exact Or.inr (Or.inr ⟨kept, by simp [after, same], fun _ => RelayAction.noConfusion⟩)
    | contact c =>
      rcases System.goal_step id moved with ⟨own, shown, -⟩ | kept
      · cases shown
      · exact Or.inr (Or.inr ⟨kept, rfl, fun _ => RelayAction.noConfusion⟩)
  | feedback other own =>
    obtain ⟨f, moved, rfl⟩ := Option.map_eq_some_iff.mp taken
    by_cases same : id = other
    · subst same
      exact Or.inr (Or.inl ⟨own, rfl, rfl, by simpa [setFeed] using moved⟩)
    · refine Or.inr (Or.inr ⟨rfl, by simp [setFeed, same], fun own' shown => ?_⟩)
      cases shown
      exact same rfl

/-- Without the feeds, the steps are steps of the node. -/
theorem system_step {act : RelayAction} (taken : s.step node act = some t) :
    ∃ acts, run (System.step node) s.system acts = some t.system := by
  cases act with
  | node act =>
    obtain ⟨u, moved, rfl⟩ := Option.map_eq_some_iff.mp taken
    exact ⟨[act], run_single.mpr moved⟩
  | feedback id act =>
    obtain ⟨f, -, rfl⟩ := Option.map_eq_some_iff.mp taken
    exact ⟨[], rfl⟩

end Relay
end KinovaGen3
