import KinovaGen3.GoTo.Prefixes

/-!
The plans that can be executed. A program ends with a successful outcome only where the requests it
sent are for every target of the goal in turn, each leg from the end of the one before it.
-/

namespace KinovaGen3
open Interaction

/-- What a goal's program hears from outside the node: where the arm is, and the planner's reply to each
request it sends. -/
inductive Heard where
  | armState (s : ArmState)
  | planner (request : PlannerGoal) (reply : PlannerReply)

def heard? : Exchange PlanRequest.Answer → Option Heard
  | ⟨.queryState, s⟩ => some (.armState s)
  | ⟨.planner request _, reply⟩ => some (.planner request reply)
  | _ => none

def heard (trace : PlanTrace) : List Heard := trace.filterMap heard?

/-- The one request of a goal with a single target. -/
def MoveGoal.request? (node : Node) : MoveGoal → Option (List Double → PlannerGoal)
  | .eePose g => some fun start => .planToPose g.target.pose start (plannerHold g.orientationHold)
  | .jointConfig g => some fun start => .planToJoints (List.ofFn g.targetJoints) start
  | .preset g => (node.presets g.presetName).map fun q start => .planToJoints q start
  | _ => none

/-- Every target is asked for, from the end of the leg before it, and has a leg. -/
inductive LegsPlanned :
    List LegTarget → List Double → List Heard → List JointTrajectory → Prop where
  | nil : LegsPlanned [] start [] []
  | cons (planned : o.Planned) (answered : o = reply.outcome (t.request start))
      (rest : LegsPlanned ts o.trajectory.lastPositions later legs) :
      LegsPlanned (t :: ts) start (.planner (t.request start) reply :: later) (o.trajectory :: legs)

/-- The requests are for the whole goal, from where the arm was measured, and the outcome is what the
planner made of the last of them. -/
inductive Requested (node : Node) (goal : MoveGoal) : List Heard → Outcome → Prop where
  | single (aims : goal.request? node = some request) :
      Requested node goal [.armState s, .planner (request (List.ofFn s.q)) reply]
        (reply.outcome (request (List.ofFn s.q)))
  | several (aims : goal.legTargets = some ts)
      (legs : LegsPlanned ts (List.ofFn s.q) asked planned) :
      Requested node goal (.armState s :: asked ++ [.planner (blendGoal ts planned) reply])
        (reply.outcome (blendGoal ts planned))

@[simp] theorem heard_append (front back : PlanTrace) : heard (front ++ back) = heard front ++ heard back :=
  List.filterMap_append

/-- A call that has asked for one plan has heard one reply. -/
theorem heard_dispatches {goal : PlannerGoal} {name : String} {p : Planning Outcome}
    {trace : PlanTrace} {o : Outcome} (dispatches : Dispatches name p) (h : Runs p trace o)
    (asked : sent trace = [(goal, o)]) :
    ∃ reply, heard trace = [.planner goal reply] ∧ o = reply.outcome goal := by
  rcases dispatches with ⟨goal', rfl⟩ | ⟨o', rfl, -⟩
  · obtain ⟨reply, rfl, rfl⟩ := CuroboPlanClient.runs_dispatchPlan.mp h
    obtain rfl : goal' = goal := (Prod.mk.inj (List.cons.inj asked).1).1
    exact ⟨reply, rfl, rfl⟩
  · obtain ⟨rfl, -⟩ := runs_done.mp h
    cases asked

theorem heard_canceling {trace : PlanTrace} {canceled : Bool} (h : Runs canceling trace canceled) :
    heard trace = [] := by
  obtain ⟨front, found, back, rfl, asked, rest⟩ := runs_bind.mp h
  rw [runs_request.mp asked]
  cases found with
  | true =>
    rw [runs_request.mp rest]
    rfl
  | false =>
    obtain ⟨rfl, -⟩ := runs_done.mp rest
    rfl

/-! ### Chains -/

/-- A chain that asks the planner for each target and then for the blend of the legs. -/
structure AsksFor (c : LegChain PlanRequest.Answer Outcome) (ts : List LegTarget) (unasked : LegTarget) :
    Prop where
  count : c.n = ts.length
  plans : PlansUnder c
  sends : SendsLegs c (fun k start => (ts.getD k unasked).request start) (blendGoal ts)

theorem AsksFor.done {c : LegChain PlanRequest.Answer Outcome} {ts : List LegTarget} {unasked : LegTarget}
    (asks : AsksFor c ts unasked) {given o : Outcome} {last : PlanTrace} (ended : Runs (c.onDone given) last o) :
    o = given ∧ heard last = [] := by
  rw [asks.plans.onDone] at ended
  obtain ⟨rfl, rfl⟩ := runs_done.mp ended
  exact ⟨rfl, rfl⟩

theorem AsksFor.leg {c : LegChain PlanRequest.Answer Outcome} {ts : List LegTarget} {unasked : LegTarget}
    (asks : AsksFor c ts unasked) {k : Nat} {start : List Double} {name : String} {part : PlanTrace}
    {o : Outcome} (inside : k < ts.length) (h : Runs (c.planLeg k start name) part o) :
    ∃ reply, heard part = [.planner (ts[k].request start) reply] ∧
      o = reply.outcome (ts[k].request start) := by
  have sent := asks.sends.leg k start name part o h
  rw [List.getD_eq_getElem _ _ inside] at sent
  exact heard_dispatches (asks.plans.leg k start name) h sent

theorem blendOutcome_ok {b : Outcome} (ok : (blendOutcome b).ok = true) : blendOutcome b = b := by
  unfold blendOutcome at ok ⊢
  split at ok
  · exact if_pos ‹_›
  · exact absurd ok ‹_›

/-- From leg `k` on, a chain ends well only with all the legs that are left and their blend. -/
theorem heard_execution {c : LegChain PlanRequest.Answer Outcome} {ts : List LegTarget}
    {unasked : LegTarget} (asks : AsksFor c ts unasked) {k : Nat} {start : List Double} {legs : List JointTrajectory}
    {trace : PlanTrace} {o : Outcome} (h : c.Execution k start legs trace o) (inside : k < ts.length)
    (ok : o.ok = true) :
    ∃ told later reply, heard trace = told ++ [.planner (blendGoal ts (legs ++ later)) reply] ∧
      LegsPlanned (ts.drop k) start told later ∧ o = reply.outcome (blendGoal ts (legs ++ later)) := by
  have silent : ∀ {check : PlanTrace} {canceled}, Runs c.canceling check canceled → heard check = [] :=
    fun asked => heard_canceling (asks.plans.canceling ▸ asked)
  induction h with
  | canceled asked ended | canceledBeforeBlend _ _ _ _ _ ended =>
    obtain ⟨rfl, -⟩ := asks.done ended
    cases ok
  | legFailed _ _ _ ended =>
    obtain ⟨rfl, -⟩ := asks.done ended
    cases ok
  | @nextLeg _ k first _ o _ _ _ asked leg planned more _ ih =>
    obtain ⟨reply, told, answered⟩ := asks.leg inside leg
    obtain ⟨later, legs', last, rest, remaining, ended⟩ := ih (by rw [← asks.count]; exact more) ok
    refine ⟨.planner (ts[k].request first) reply :: later, o.trajectory :: legs', last, ?_, ?_, ?_⟩
    · simp only [heard_append, silent asked, told, rest, List.append_assoc]
      rfl
    · rw [List.drop_eq_getElem_cons inside]
      exact .cons planned answered remaining
    · rw [ended, List.append_assoc]
      rfl
  | @blended _ k first _ o _ _ _ _ _ _ asked leg planned final again joined ended =>
    obtain ⟨reply, told, answered⟩ := asks.leg inside leg
    obtain ⟨last, blend, given⟩ :=
      heard_dispatches (asks.plans.blend _ _) joined (asks.sends.blend _ _ _ _ joined)
    obtain ⟨rfl, quiet⟩ := asks.done ended
    refine ⟨[.planner (ts[k].request first) reply], [o.trajectory], last, ?_, ?_, ?_⟩
    · simp only [heard_append, silent asked, silent again, told, blend, quiet]
      rfl
    · rw [List.drop_eq_getElem_cons inside, List.drop_of_length_le (by rw [← asks.count]; omega)]
      exact .cons planned answered .nil
    · rw [blendOutcome_ok ok]
      exact given

theorem requested_chain {node : Node} {goal : MoveGoal} {c : LegChain PlanRequest.Answer Outcome}
    {ts : List LegTarget} {unasked : LegTarget} (aims : goal.legTargets = some ts)
    (asks : AsksFor c ts unasked)
    (some_target : 1 ≤ ts.length) {trace : PlanTrace} {o : Outcome}
    (h : Runs (startConfig.bind fun start => planLegs c start) trace o) (ok : o.ok = true) :
    Requested node goal (heard trace) o := by
  obtain ⟨front, start, back, rfl, asked, rest⟩ := runs_bind.mp h
  obtain ⟨s, rfl, rfl⟩ := runs_startConfig asked
  obtain ⟨asked, legs, reply, told, planned, rfl⟩ :=
    heard_execution asks (LegChain.execution_of_runs rest) some_target ok
  rw [heard_append, told]
  exact .several aims planned

/-! ### Every goal -/

theorem requested_single {node : Node} {goal : MoveGoal} {request : List Double → PlannerGoal}
    {p : List Double → Planning Outcome} {name : String} (aims : goal.request? node = some request)
    (dispatches : ∀ start, Dispatches name (p start))
    (asks : ∀ start trace o, Runs (p start) trace o → o.ok = true → sent trace = [(request start, o)])
    {trace : PlanTrace} {o : Outcome} (h : Runs (startConfig.bind p) trace o) (ok : o.ok = true) :
    Requested node goal (heard trace) o := by
  obtain ⟨front, start, back, rfl, asked, rest⟩ := runs_bind.mp h
  obtain ⟨s, rfl, rfl⟩ := runs_startConfig asked
  obtain ⟨reply, told, rfl⟩ := heard_dispatches (dispatches _) rest (asks _ _ _ rest ok)
  rw [heard_append, told]
  exact .single aims

/-- What an accepted goal's program ends with, where it ends well. -/
theorem requested_of_runs {node : Node} {goal : MoveGoal} {p : Planning Outcome} {trace : PlanTrace}
    {o : Outcome} (valid : validate node goal = none) (started : startPlan node goal = some p)
    (h : Runs p trace o) (ok : o.ok = true) : Requested node goal (heard trace) o := by
  cases goal with
  | eePose g =>
    cases started
    refine requested_single rfl (fun _ => dispatches_plan) (fun start trace o h ok => ?_) h ok
    unfold CuroboPlanClient.plan at h
    split at h
    · rename_i mode known
      rw [sent_dispatchPlan h]
      have same := toPlanner_eq ⟨mode, known⟩
      rw [known] at same
      rw [Except.ok.inj same]
    · obtain ⟨-, rfl⟩ := runs_done.mp h
      cases ok
  | jointConfig g =>
    cases started
    exact requested_single rfl (fun _ => Or.inl ⟨_, rfl⟩) (fun _ _ _ h _ => sent_dispatchPlan h) h ok
  | preset g =>
    obtain ⟨q, known, rfl⟩ := Option.map_eq_some_iff.mp started
    have aims : MoveGoal.request? node (.preset g) = some fun start => .planToJoints q start :=
      Option.map_eq_some_iff.mpr ⟨q, known, rfl⟩
    exact requested_single aims (fun _ => Or.inl ⟨_, rfl⟩) (fun _ _ _ h _ => sent_dispatchPlan h) h ok
  | eePoses g =>
    cases started
    have plans : PlansUnder (GoToEEPosesServer.legChain g) :=
      ⟨fun _ _ _ => dispatches_plan, fun _ _ => dispatches_blend, rfl, rfl⟩
    have some_target : 1 ≤ (g.targets.map EEPoseTarget.leg).length := by
      rw [List.length_map]
      exact validate_some_target valid
    exact requested_chain rfl ⟨(List.length_map _).symm, plans, GoToEEPosesServer.sendsLegs valid⟩
      some_target h ok
  | jointConfigs g =>
    cases started
    have plans : PlansUnder (GoToJointConfigsServer.legChain g) :=
      ⟨fun _ _ _ => Or.inl ⟨_, rfl⟩, fun _ _ => Or.inl ⟨_, rfl⟩, rfl, rfl⟩
    have some_target : 1 ≤ (g.targets.map JointConfigTarget.leg).length := by
      rw [List.length_map]
      exact validate_some_target valid
    exact requested_chain rfl ⟨(List.length_map _).symm, plans, GoToJointConfigsServer.sendsLegs g⟩
      some_target h ok

end KinovaGen3
