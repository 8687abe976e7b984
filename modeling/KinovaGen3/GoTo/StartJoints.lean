import KinovaGen3.GoTo.Servers
import KinovaGen3.Planning.PlanLegsSpec

/-!
Where the planner is asked to start from. The first plan of a goal starts at the measured
configuration; a later leg starts at the last point of the leg before it, which is checked for
nothing but being there.
-/

namespace KinovaGen3
open Interaction

def PlannerGoal.startJoints? : PlannerGoal → Option (List Double)
  | planToPose _ start _ | planToJoints _ start => some start
  | blend .. => none

structure Plan where
  start : List Double
  answer : Outcome

abbrev PlanTrace := List (Exchange PlanRequest.Answer)

def plan? : Exchange PlanRequest.Answer → Option Plan
  | ⟨.planner goal _, reply⟩ => goal.startJoints?.map (⟨·, reply.outcome goal⟩)
  | _ => none

def plans (trace : PlanTrace) : List Plan := trace.filterMap plan?

/-- Each plan starts at seven joints in the arm's order. -/
structure WellFormedStarts (node : Node) (trace : PlanTrace) : Prop where
  width : ∀ plan ∈ plans trace, plan.start.length = kNumJoints
  measured : ∀ plan ∈ (plans trace).head?,
    ∃ s, trace.head? = some ⟨.queryState, s⟩ ∧ plan.start = List.ofFn s.q
  chained : (plans trace).IsChain fun leg next =>
    next.start = leg.answer.trajectory.lastPositions ∧
      leg.answer.trajectory.jointNames = node.armJointNames

/-- A leg after which another one is planned ends at seven joints in the arm's order. -/
def WellFormedLegs (node : Node) (trace : PlanTrace) : Prop :=
  (plans trace).IsChain fun leg _ => leg.answer.trajectory.lastPositions.length = kNumJoints ∧
    leg.answer.trajectory.jointNames = node.armJointNames

structure ChainedStarts (trace : PlanTrace) : Prop where
  measured : ∀ plan ∈ (plans trace).head?,
    ∃ s, trace.head? = some ⟨.queryState, s⟩ ∧ plan.start = List.ofFn s.q
  chained : (plans trace).IsChain fun leg next => next.start = leg.answer.trajectory.lastPositions

theorem isChain_and {α : Type} {R S : α → α → Prop} {l : List α} :
    l.IsChain (fun a b => R a b ∧ S a b) ↔ l.IsChain R ∧ l.IsChain S := by
  induction l with
  | nil => simp
  | cons a l ih =>
    simp only [List.isChain_cons, ih]
    constructor
    · intro ⟨both, left, right⟩
      exact ⟨⟨fun b first => (both b first).1, left⟩, fun b first => (both b first).2, right⟩
    · intro ⟨⟨left, lefts⟩, right, rights⟩
      exact ⟨fun b first => ⟨left b first, right b first⟩, lefts, rights⟩

theorem width_of_chain {l : List Plan} (first : ∀ plan ∈ l.head?, plan.start.length = kNumJoints)
    (later : l.IsChain fun _ next => next.start.length = kNumJoints) :
    ∀ plan ∈ l, plan.start.length = kNumJoints := by
  induction l with
  | nil => simp
  | cons a l ih =>
    rw [List.isChain_cons] at later
    intro plan member
    rcases List.mem_cons.mp member with rfl | member
    · exact first _ rfl
    · exact ih later.1 later.2 plan member

theorem ChainedStarts.wellFormed {node : Node} {trace : PlanTrace} (h : ChainedStarts trace) :
    WellFormedStarts node trace ↔ WellFormedLegs node trace := by
  constructor
  · intro fine
    refine fine.chained.imp_of_mem_imp fun leg next _ member linked => ⟨?_, linked.2⟩
    rw [← linked.1]
    exact fine.width next member
  · intro legs
    have linked := isChain_and.mpr ⟨h.chained, legs⟩
    refine ⟨width_of_chain ?_ ?_, h.measured, ?_⟩
    · intro plan first
      obtain ⟨s, -, measured⟩ := h.measured plan first
      rw [measured, List.length_ofFn]
    · refine linked.imp fun leg next ⟨start, wide, _⟩ => ?_
      rw [start, wide]
    · exact linked.imp fun leg next ⟨start, _, names⟩ => ⟨start, names⟩

/-! ### What the planner's client asks -/

@[simp] theorem plans_append (front back : PlanTrace) : plans (front ++ back) = plans front ++ plans back :=
  List.filterMap_append

theorem plans_dispatchPlan {goal : PlannerGoal} {name : String} {trace : PlanTrace} {o : Outcome}
    (h : Runs (CuroboPlanClient.dispatchPlan goal name) trace o) :
    plans trace = (goal.startJoints?.map (⟨·, o⟩)).toList := by
  obtain ⟨reply, rfl, rfl⟩ := CuroboPlanClient.runs_dispatchPlan.mp h
  cases shown : goal.startJoints? <;> simp [plans, plan?, shown]

theorem plans_canceling {trace : PlanTrace} {canceled : Bool} (h : Runs canceling trace canceled) :
    plans trace = [] := by
  obtain ⟨front, found, back, rfl, asked, rest⟩ := runs_bind.mp h
  rw [runs_request.mp asked]
  cases found with
  | true =>
    rw [runs_request.mp rest]
    rfl
  | false =>
    obtain ⟨rfl, -⟩ := runs_done.mp rest
    rfl

theorem runs_startConfig {trace : PlanTrace} {start : List Double} (h : Runs startConfig trace start) :
    ∃ s, trace = [⟨.queryState, s⟩] ∧ start = List.ofFn s.q := by
  obtain ⟨front, s, back, rfl, asked, rest⟩ := runs_bind.mp h
  obtain ⟨rfl, rfl⟩ := runs_done.mp rest
  rw [runs_request.mp asked]
  exact ⟨s, rfl, rfl⟩

/-! ### One target -/

theorem chainedStarts_single {f : List Double → Planning Outcome} {trace : PlanTrace} {o : Outcome}
    (one : ∀ start part o, Runs (f start) part o → plans part = [] ∨ plans part = [⟨start, o⟩])
    (h : Runs (startConfig.bind f) trace o) : ChainedStarts trace := by
  obtain ⟨front, start, back, rfl, asked, rest⟩ := runs_bind.mp h
  obtain ⟨s, rfl, rfl⟩ := runs_startConfig asked
  have planned : plans ([⟨.queryState, s⟩] ++ back) = plans back := rfl
  rcases one _ _ _ rest with none | once
  · constructor
    · rw [planned, none]
      exact nofun
    · rw [planned, none]
      exact .nil
  · constructor
    · rw [planned, once]
      rintro plan ⟨⟩
      exact ⟨s, rfl, rfl⟩
    · rw [planned, once]
      exact .singleton _

theorem plans_planToJoints {target start : List Double} {name : String} {trace : PlanTrace}
    {o : Outcome} (h : Runs (CuroboPlanClient.planToJoints target start name) trace o) :
    plans trace = [⟨start, o⟩] :=
  plans_dispatchPlan h

theorem plans_plan {target : Pose} {start : List Double} {hold : UInt8} {name : String}
    {trace : PlanTrace} {o : Outcome} (h : Runs (CuroboPlanClient.plan target start hold name) trace o) :
    plans trace = [] ∨ plans trace = [⟨start, o⟩] := by
  unfold CuroboPlanClient.plan at h
  split at h
  · exact Or.inr (plans_dispatchPlan h)
  · obtain ⟨rfl, -⟩ := runs_done.mp h
    exact Or.inl rfl

/-! ### Several targets -/

structure PlansLegs (c : LegChain PlanRequest.Answer Outcome) : Prop where
  leg : ∀ k start name part o, Runs (c.planLeg k start name) part o → plans part = [⟨start, o⟩]
  blend : ∀ legs name part b, Runs (c.blend legs name) part b → plans part = []
  canceling : c.canceling = canceling
  onDone : c.onDone = .done

open ChainEvent

theorem plans_played {c : LegChain PlanRequest.Answer Outcome} (fine : PlansLegs c)
    {events : List ChainEvent} {trace : PlanTrace} {o : Outcome} (h : Played c events trace o) :
    plans trace = (events.filterMap leg?).map fun leg => ⟨leg.start, leg.answer⟩ := by
  induction h with
  | ended last =>
    rw [fine.onDone] at last
    obtain ⟨rfl, -⟩ := runs_done.mp last
    rfl
  | event plays later ih =>
    rw [plans_append, ih]
    cases plays with
    | canceling asked =>
      rw [fine.canceling] at asked
      rw [plans_canceling asked]
      rfl
    | planLeg leg =>
      rw [fine.leg _ _ _ _ _ leg]
      rfl
    | blend joined =>
      rw [fine.blend _ _ _ _ joined]
      rfl

theorem chainedStarts_planLegs {c : LegChain PlanRequest.Answer Outcome} (fine : PlansLegs c)
    {trace : PlanTrace} {o : Outcome} (h : Runs (startConfig.bind fun start => planLegs c start) trace o) :
    ChainedStarts trace := by
  obtain ⟨front, start, back, rfl, asked, rest⟩ := runs_bind.mp h
  obtain ⟨s, rfl, rfl⟩ := runs_startConfig asked
  obtain ⟨events, steps, played⟩ := steps_of_execution (LegChain.execution_of_runs rest)
  have planned : plans ([⟨.queryState, s⟩] ++ back) =
      (events.filterMap leg?).map fun leg => ⟨leg.start, leg.answer⟩ := by
    show plans back = _
    exact plans_played fine played
  constructor
  · intro plan first
    rw [planned, List.head?_map] at first
    obtain ⟨leg, found, rfl⟩ := Option.map_eq_some_iff.mp first
    exact ⟨s, rfl, (steps_first steps leg found).2⟩
  · rw [planned, List.isChain_map]
    exact (steps_chained steps).imp fun leg next linked => linked.2.2

theorem orientationHoldRejection_none {what : String} {hold : UInt8}
    (known : orientationHoldRejection what hold = none) : ∃ mode, toPlanner hold = .ok mode := by
  unfold orientationHoldRejection at known
  split at known
  · rename_i listed
    rcases listed with rfl | rfl | rfl
    · exact ⟨.none, rfl⟩
    · exact ⟨.level, rfl⟩
    · exact ⟨.fixed, rfl⟩
  · cases known

/-- A goal with several targets is checked target by target. -/
theorem target_checked {T : Type} {targets : List T} {why : String} {reject : T × Nat → Option String}
    (fine : (if targets.isEmpty then some why else targets.zipIdx.findSome? reject) = none)
    {k : Nat} (inside : k < targets.length) : reject (targets[k], k) = none := by
  split at fine
  · cases fine
  · exact List.findSome?_eq_none_iff.mp fine (targets[k], k)
      (List.mk_mem_zipIdx_iff_getElem?.mpr (List.getElem?_eq_getElem inside))

namespace GoToEEPosesServer

theorem known_holds {d : Driver} {goal : GoToEEPoses.Goal} (fine : validate d goal = none) (k : Nat) :
    ∃ mode, toPlanner (goal.targets.getD k default).orientationHold = .ok mode := by
  by_cases inside : k < goal.targets.length
  · have accepted := target_checked fine inside
    simp only [targetRejection, Option.or_eq_none_iff] at accepted
    rw [List.getD_eq_getElem?_getD, List.getElem?_eq_getElem inside]
    exact orientationHoldRejection_none accepted.2.2.2.1
  · rw [List.getD_eq_getElem?_getD, List.getElem?_eq_none (not_lt.mp inside)]
    exact ⟨.none, rfl⟩

theorem plansLegs {d : Driver} {goal : GoToEEPoses.Goal} (fine : validate d goal = none) :
    PlansLegs (legChain goal) where
  leg k _ _ _ _ h := by
    obtain ⟨mode, known⟩ := known_holds fine k
    simp only [legChain, CuroboPlanClient.plan, known] at h
    exact plans_dispatchPlan h
  blend _ _ _ _ h := by
    simp only [legChain, CuroboPlanClient.blend] at h
    split at h
    · exact plans_dispatchPlan h
    · obtain ⟨rfl, -⟩ := runs_done.mp h
      rfl
  canceling := rfl
  onDone := rfl

end GoToEEPosesServer

theorem GoToJointConfigsServer.plansLegs (goal : GoToJointConfigs.Goal) :
    PlansLegs (legChain goal) where
  leg _ _ _ _ _ := plans_planToJoints
  blend _ _ _ _ := plans_dispatchPlan
  canceling := rfl
  onDone := rfl

/-! ### Every server -/

theorem chainedStarts_startPlan {node : Node} {goal : MoveGoal} {p : Planning Outcome}
    {trace : PlanTrace} {o : Outcome} (fine : validate node goal = none)
    (started : startPlan node goal = some p) (h : Runs p trace o) : ChainedStarts trace := by
  cases goal with
  | eePose g =>
    cases started
    exact chainedStarts_single (fun _ _ _ => plans_plan) h
  | jointConfig g =>
    cases started
    exact chainedStarts_single (fun _ _ _ planned => Or.inr (plans_planToJoints planned)) h
  | preset g =>
    obtain ⟨q, -, rfl⟩ := Option.map_eq_some_iff.mp started
    exact chainedStarts_single (fun _ _ _ planned => Or.inr (plans_planToJoints planned)) h
  | eePoses g =>
    cases started
    exact chainedStarts_planLegs (GoToEEPosesServer.plansLegs fine) h
  | jointConfigs g =>
    cases started
    exact chainedStarts_planLegs (GoToJointConfigsServer.plansLegs g) h

/-- The planner is asked for well formed starts alone just when each leg it returns, that another
leg follows, ends at one. -/
theorem plan_starts_wellFormed (node : Node) (sink : Option SinkState) (goal : MoveGoal)
    (p : Planning Outcome) (trace : PlanTrace) (o : Outcome)
    (accepted : PlannedMoveServer.handleGoal node sink goal = .accept)
    (started : startPlan node goal = some p) (h : Runs p trace o) :
    WellFormedStarts node trace ↔ WellFormedLegs node trace :=
  (chainedStarts_startPlan (PlannedMoveServer.handleGoal_accept accepted).2 started h).wellFormed

def benchLeg (positions : List Double) : JointTrajectory where
  jointNames := benchNode.armJointNames
  points := [{ positions := positions }]

def benchAnswers (positions : List Double) : Env PlanRequest.Answer := fun _ q =>
  match q with
  | .queryState => ({} : ArmState)
  | .planner .. => .result true (some { success := true, trajectory := benchLeg positions })
  | .tracked => true
  | .isCanceling => false

def benchTwoConfigs : GoToJointConfigs.Goal where
  targets :=
    [{ targetJoints := .constant (.finite (1 / 2))
       speedScale := .finite (1 / 2)
       blendRadius := .finite (1 / 10) },
      { targetJoints := .constant (.finite (1 / 4)) }]

def benchStart : Planning Outcome := GoToJointConfigsServer.startPlan benchTwoConfigs

theorem benchStart_plans (positions : List Double) :
    plans (benchStart.run (benchAnswers positions) []).1 =
      [⟨List.ofFn ({} : ArmState).q, { ok := true, trajectory := benchLeg positions }⟩,
        ⟨positions, { ok := true, trajectory := benchLeg positions }⟩] := by
  simp [plans, plan?, benchStart, GoToJointConfigsServer.startPlan, startConfig, canceling, Prog.request,
    Prog.bind, Prog.run, planLegs, LegChain.legFrom, LegChain.stopIfCanceled,
    GoToJointConfigsServer.legChain, CuroboPlanClient.planToJoints, CuroboPlanClient.blend,
    CuroboPlanClient.dispatchPlan, benchAnswers, benchLeg, benchTwoConfigs, PlannerReply.outcome,
    LegChain.checkEmpty, PlannerGoal.startJoints?, pure, Except.pure]
  rfl

theorem benchTwoConfigs_accepted : PlannedMoveServer.handleGoal benchNode
    (some ⟨{ stampS := .finite 1 }, {}⟩) (.jointConfigs benchTwoConfigs) = .accept := by
  decide +kernel

theorem plan_starts_wellFormed_benchTwoConfigs : WellFormedStarts benchNode
    (benchStart.run (benchAnswers (List.replicate kNumJoints (.finite 0))) []).1 := by
  refine (plan_starts_wellFormed benchNode _ (.jointConfigs benchTwoConfigs) benchStart _ _
    benchTwoConfigs_accepted rfl (runs_run _ _ [])).mpr ?_
  unfold WellFormedLegs
  rw [benchStart_plans]
  simp [JointTrajectory.lastPositions, benchLeg]

/-- The first leg's one point has no positions, so the second leg starts nowhere. -/
theorem plan_start_empty : ¬ ∀ (node : Node) (sink : Option SinkState) (goal : MoveGoal)
    (p : Planning Outcome) (trace : PlanTrace) (o : Outcome),
    PlannedMoveServer.handleGoal node sink goal = .accept → startPlan node goal = some p →
    Runs p trace o → WellFormedStarts node trace := by
  intro chained
  have fine := chained benchNode _ (.jointConfigs benchTwoConfigs) benchStart _ _ benchTwoConfigs_accepted
    rfl (runs_run (benchAnswers []) _ [])
  have width := fine.width
  rw [benchStart_plans] at width
  have nowhere := width ⟨[], _⟩ (List.mem_cons_of_mem _ (List.mem_singleton_self _))
  cases nowhere

end KinovaGen3
