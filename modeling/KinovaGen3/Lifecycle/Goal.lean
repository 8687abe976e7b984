import KinovaGen3.Backend.Ros2Backend

/-!
One goal of the node, as every thread that works on it sees it: its entries in the servers' maps
and in the router's, its rclcpp handle, the threads of `handle_accepted` and `on_plan_done`, of each
`handle_cancel` and of the Supervisor's `settle`. Each section locked by a mutex, each sink call and
each call on the handle is one step.
-/

namespace KinovaGen3
open Interaction

/-- The action servers a goal can belong to, as `GoalRouter` tells them apart. -/
inductive Port where
  | move (server : MoveServer)
  | backend
  deriving DecidableEq

inductive ActionGoal where
  | move (goal : MoveGoal)
  | execute (goal : ExecuteJointTrajectory.Goal)
  deriving DecidableEq

def ActionGoal.port : ActionGoal → Port
  | move g => .move g.server
  | execute _ => .backend

def ActionGoal.token : ActionGoal → Token
  | move g => g.token
  | execute g => g.token

inductive HandleStatus where
  | executing | canceling | ended
  deriving DecidableEq

structure GoalHandle where
  goal : ActionGoal
  status : HandleStatus

def GoalHandle.isCanceling (h : GoalHandle) : Bool := h.status = .canceling

/-- `PlannedMoveServer::Goal`. Its `gh` is the handle under the same id. -/
structure Goal where
  executing : Bool
  cancelRequested : Bool
  token : Token
  deriving DecidableEq

inductive TerminalCall where
  | canceled | succeed | abort
  deriving DecidableEq

/-- What becomes visible outside the node, in order. -/
inductive Event where
  | planned (o : Outcome)
  /-- `on_trajectory_goal` for a goal, and its answer. -/
  | submitted (goal : ActionGoal) (tg : TrajectoryGoal) (answer : GoalResponse)
  /-- `on_trajectory_accepted`. -/
  | handedOver (tg : TrajectoryGoal)
  /-- `on_trajectory_cancel`. -/
  | cancelSent (token : Token)
  | cancelAnswered (answer : CancelResponse)
  /-- The handle gets its terminal transition, which rclcpp may drop. -/
  | terminal (port : Port) (call : TerminalCall) (result : TrajectoryResult) (dropped : Bool)
  deriving DecidableEq

def Event.isHandOver : Event → Bool
  | handedOver _ => true
  | _ => false

/-- Where the executor is with the goal. `unseen` ids are those no goal has come with. -/
inductive Main where
  | unseen
  | rejected
  | admitted (goal : ActionGoal)
  | accepted
  | recorded
  | planning (rest : Planning Outcome)
  | begun (o : Outcome)
  | found (o : Outcome)
  | submitting (tg : TrajectoryGoal)
  | refused
  | settling (result : TrajectoryResult)
  | moving (canceling : Bool) (result : TrajectoryResult)
  | erasing
  | validated (tg : TrajectoryGoal)
  | registering (tg : TrajectoryGoal)
  | handing (tg : TrajectoryGoal)
  | rereading
  | recanceling (token : Token)
  | finished

def Main.isFinished : Main → Bool
  | finished => true
  | _ => false

theorem Main.eq_finished {m : Main} (h : m.isFinished = true) : m = .finished := by
  cases m with
  | finished => rfl
  | _ => cases h

/-- One run of `handle_cancel` and the handle's transition after it. `found` is what the locked
lookup of the goal's entry gave. -/
inductive CancelCall where
  | delivered
  | looked (found executing : Bool) (token : Token)
  | answered (found : Bool) (answer : CancelResponse)
  | ended (found : Bool) (answer : CancelResponse)
  deriving DecidableEq

inductive Settle where
  | waiting
  | routed (port : Port) (result : TrajectoryResult)
  | taken (port : Port) (result : TrajectoryResult)
  | moving (port : Port) (canceling : Bool) (result : TrajectoryResult)
  | ended
  deriving DecidableEq

structure GoalState where
  goals : MoveServer → Option Goal := fun _ => none
  /-- The token in `Ros2Backend::handles_`. -/
  handles : Option Token := none
  /-- The override in `GoalRouter::owners_`. -/
  owner : Option Port := none
  handle : Option GoalHandle := none
  main : Main := .unseen
  cancels : List CancelCall := []
  settle : Settle := .waiting
  log : List Event := []

/-- The steps of the threads. A step that hears from outside carries what it hears. -/
inductive GoalAction where
  | goal (goal : ActionGoal) (arm : ArmState) (answer : GoalResponse)
  /-- rclcpp creates the handle. -/
  | accept
  | main
  | armState (s : ArmState)
  | planner (reply : PlannerReply)
  | submit (answer : GoalResponse)
  | transition (dropped : Bool)
  | cancel
  | cancelStep (i : Nat) (answer : CancelResponse)
  | settle (result : TrajectoryResult)
  | settleStep (dropped : Bool)

def GoalAction.aside : GoalAction → Bool
  | cancel | cancelStep .. | settle _ | settleStep _ => true
  | _ => false

def GoalAction.plans : GoalAction → Bool
  | main | armState _ | planner _ => true
  | _ => false

namespace GoalState
variable (node : Node) (contact : ContactState)

def record (s : GoalState) (event : Event) : GoalState := { s with log := s.log ++ [event] }

def storeGoal (s : GoalState) (server : MoveServer) (entry : Option Goal) : GoalState :=
  { s with goals := Function.update s.goals server entry }

def holds (s : GoalState) : Port → Bool
  | .move server => (s.goals server).isSome
  | .backend => s.handles.isSome

def erase (s : GoalState) : Port → GoalState
  | .move server => s.storeGoal server none
  | .backend => { s with handles := none }

/-- `on_trajectory_accepted` has been called, so the Supervisor may settle. -/
def handed (s : GoalState) : Bool := s.log.any (·.isHandOver)

/-- `canceled`, `succeed` or `abort`; a transition rclcpp refuses is caught and dropped. -/
def terminate (s : GoalState) (port : Port) (canceling : Bool) (result : TrajectoryResult)
    (dropped : Bool) : GoalState :=
  let call : TerminalCall :=
    if canceling then .canceled
    else if result.errorCode = ResultCode.kSuccessful then .succeed else .abort
  { s with
    handle := if dropped then s.handle else s.handle.map ({ · with status := .ended })
    log := s.log ++ [.terminal port call result dropped] }

def localResult (code : Int) (message : String) : TrajectoryResult :=
  { errorCode := code, errorString := message }

def handleGoal (s : GoalState) (goal : ActionGoal) (arm : ArmState) (answer : GoalResponse) :
    GoalState :=
  match goal with
  | .move g =>
    match PlannedMoveServer.handleGoal node (some ⟨arm, contact⟩) g with
    | .accept => { s with main := .admitted goal }
    | .reject => { s with main := .rejected }
  | .execute g =>
    match Ros2Backend.handleGoal node (some ⟨arm, contact⟩) g with
    | none => { s with main := .rejected }
    | some tg =>
      { s.record (.submitted goal tg answer) with
        main := match answer with | .accept => .admitted goal | .reject => .rejected }

/-- `Ros2Backend::handle_accepted`. -/
def backendStep (s : GoalState) (g : ExecuteJointTrajectory.Goal) : Option GoalState :=
  match s.main with
  | .accepted => some { s with handles := some g.token, main := .recorded }
  | .recorded =>
    some { s.record (.handedOver (toTrajectoryGoal node.driver g)) with main := .finished }
  | _ => none

/-- What `on_plan_done` does once it has asked whether the goal is being canceled. -/
def planDecision (g : MoveGoal) (o : Outcome) (canceled : Bool) : Main :=
  if !o.ok then
    .settling (if canceled then localResult ResultCode.kPreempted "canceled during planning"
      else localResult ResultCode.kPlanningFailed o.message)
  else if canceled then .settling (localResult ResultCode.kPreempted "canceled during planning")
  else match PlannedMoveServer.planRejection node g o with
    | some why => .settling (localResult ResultCode.kPlanningFailed why)
    | none => .submitting (PlannedMoveServer.submission node g o)

/-- `PlannedMoveServer::handle_accepted` and `on_plan_done`, where they hear nothing. -/
def moveStep (s : GoalState) (g : MoveGoal) (isCanceling : Bool) : Option GoalState :=
  match s.main with
  | .accepted => some { s.storeGoal g.server (some ⟨false, false, g.token⟩) with main := .recorded }
  | .recorded => (startPlan node g).map fun p => { s with main := .planning p }
  | .planning (.ask .tracked next) =>
    some { s with main := .planning (next (s.goals g.server).isSome) }
  | .planning (.ask .isCanceling next) => some { s with main := .planning (next isCanceling) }
  | .planning (.done o) => some { s.record (.planned o) with main := .begun o }
  | .begun o =>
    some { s with main := if (s.goals g.server).isSome then .found o else .finished }
  | .found o => some { s with main := planDecision node g o isCanceling }
  | .refused =>
    some { s with
      main := .settling <| match contactRejection contact with
        | some why => localResult ResultCode.kContactStop why
        | none => localResult ResultCode.kInvalidGoal "supervisor rejected planned trajectory" }
  | .settling result => some { s with main := .moving isCanceling result }
  | .erasing => some { s.storeGoal g.server none with main := .finished }
  | .validated tg =>
    some { s.storeGoal g.server ((s.goals g.server).map ({ · with executing := true })) with
      main := .registering tg }
  | .registering tg => some { s with owner := some (.move g.server), main := .handing tg }
  -- The Supervisor may settle before `on_trajectory_accepted` returns.
  | .handing tg => some { s.record (.handedOver tg) with main := .rereading }
  | .rereading =>
    some { s with
      main := match s.goals g.server with
        | some entry => if entry.cancelRequested then .recanceling entry.token else .finished
        | none => .finished }
  | .recanceling token => some { s.record (.cancelSent token) with main := .finished }
  | _ => none

def mainStep (s : GoalState) : Option GoalState :=
  match s.handle with
  | none => none
  | some h =>
    match h.goal with
    | .move g => moveStep node contact s g h.isCanceling
    | .execute g => backendStep node s g

/-- The locked section of `handle_cancel`: what it reads, and the entry it leaves. -/
def cancelLookup (s : GoalState) : ActionGoal → GoalState × CancelCall
  | .move g =>
    match s.goals g.server with
    | none => (s, .looked false false Token.zero)
    | some entry =>
      (s.storeGoal g.server (some { entry with cancelRequested := true }),
        .looked true entry.executing entry.token)
  | .execute _ => (s, .looked s.handles.isSome false (s.handles.getD Token.zero))

/-- The call after it: `on_trajectory_cancel`, or `planner_.cancel()` while still planning. -/
def cancelCall (s : GoalState) (goal : ActionGoal) (executing : Bool) (token : Token)
    (answer : CancelResponse) : GoalState × CancelResponse :=
  match goal with
  | .move _ => (if executing then s.record (.cancelSent token) else s, .accept)
  | .execute _ => (s.record (.cancelSent token), answer)

def cancelStep (s : GoalState) (i : Nat) (answer : CancelResponse) : Option GoalState :=
  match s.handle, s.cancels[i]? with
  | some h, some .delivered =>
    let (t, call) := s.cancelLookup h.goal
    some { t with cancels := s.cancels.set i call }
  | some h, some (.looked found executing token) =>
    let (t, reply) := s.cancelCall h.goal executing token answer
    some { t.record (.cancelAnswered reply) with cancels := s.cancels.set i (.answered found reply) }
  | some h, some (.answered found reply) =>
    -- Only a goal that is still executing can become canceling.
    let status := if reply = .accept ∧ h.status = .executing then .canceling else h.status
    some { s with
      handle := some { h with status := status }
      cancels := s.cancels.set i (.ended found reply) }
  | _, _ => none

/-- `GoalRouter::settle` and the owner's `settle`. -/
def settleStep (s : GoalState) (dropped : Bool) : Option GoalState :=
  match s.settle with
  | .routed port result =>
    some (if s.holds port then { s.erase port with settle := .taken port result }
      else { s with settle := .ended })
  | .taken port result =>
    s.handle.map fun h => { s with settle := .moving port h.isCanceling result }
  | .moving port canceling result =>
    some { s.terminate port canceling result dropped with settle := .ended }
  | _ => none

def step (s : GoalState) : GoalAction → Option GoalState
  | .goal goal arm answer =>
    match s.main with
    | .unseen => some (s.handleGoal node contact goal arm answer)
    | _ => none
  | .accept =>
    match s.main with
    | .admitted goal => some { s with handle := some ⟨goal, .executing⟩, main := .accepted }
    | _ => none
  | .main => s.mainStep node contact
  | .armState arm =>
    match s.main with
    | .planning (.ask .queryState next) => some { s with main := .planning (next arm) }
    | _ => none
  | .planner reply =>
    match s.main with
    | .planning (.ask (.planner _ _) next) => some { s with main := .planning (next reply) }
    | _ => none
  | .submit answer =>
    match s.handle, s.main with
    | some h, .submitting tg =>
      some { s.record (.submitted h.goal tg answer) with
        main := match answer with | .accept => .validated tg | .reject => .refused }
    | _, _ => none
  | .transition dropped =>
    match s.handle, s.main with
    | some h, .moving canceling result =>
      some { s.terminate h.goal.port canceling result dropped with main := .erasing }
    | _, _ => none
  | .cancel =>
    if s.handle.isSome then some { s with cancels := s.cancels ++ [.delivered] } else none
  | .cancelStep i answer => s.cancelStep i answer
  | .settle result =>
    match s.settle with
    | .waiting =>
      if s.handed then
        some { s with owner := none, settle := .routed (s.owner.getD .backend) result }
      else none
    | _ => none
  | .settleStep dropped => s.settleStep dropped

end GoalState
end KinovaGen3
