import KinovaGen3.Lifecycle.Executed

/-!
The targets of a goal with several of them, up to the trajectory that is handed over: what each
execution of its planning program asks for, and that a run of the node hands over the blend of one.
-/

namespace KinovaGen3
open Interaction Transition

/-- What a goal with several targets hands over is the blend of an execution of its program, that of
the goal's own exchanges, at speed scale 1. -/
structure BlendExecuted (node : Node) (goal : MoveGoal) (ts : List LegTarget) (p : Planning Outcome)
    (told : List Heard) (tg : TrajectoryGoal) (trace : PlanTrace) (o : Outcome) : Prop where
  runs : Runs p trace o
  exchanges : heard trace = told
  requested : Requested node goal told o
  reaches : TargetsReach ts trace o
  points : tg.trajectory = fillTrajectory o.trajectory.points
  speedScale : tg.speedScale = .finite 1

theorem submission_several (node : Node) {goal : MoveGoal} {ts : List LegTarget}
    (several : goal.legTargets = some ts) (o : Outcome) :
    (PlannedMoveServer.submission node goal o).speedScale = .finite 1 ∧
      (PlannedMoveServer.submission node goal o).trajectory = fillTrajectory o.trajectory.points := by
  cases goal with
  | eePoses | jointConfigs => exact ⟨rfl, rfl⟩
  | _ => cases several

theorem blend_executed {node : Node} {goal : MoveGoal} {ts : List LegTarget} {p : Planning Outcome}
    (several : goal.legTargets = some ts) (started : startPlan node goal = some p) {acts : List Action}
    {s : System} {id : GoalId} {status : HandleStatus} {tg : TrajectoryGoal}
    (h : run (System.step node) System.init acts = some s)
    (accepted : s.handle id = some ⟨.move goal, status⟩) (handed : .handedOver tg ∈ s.log id) :
    ∃ trace o, BlendExecuted node goal ts p
      (labels (System.step node) (System.labelsOf id GoalState.hears?) System.init acts) tg trace o := by
  obtain ⟨p', trace, o, valid, started', runs, ok, told, -, rfl⟩ := System.handed_runs h accepted handed
  obtain rfl := Option.some.inj (started.symm.trans started')
  obtain ⟨some_target, c, unasked, rfl, plansLegs, sends, count⟩ := chain_of_several several valid started
  obtain ⟨speedScale, points⟩ := submission_several node several o
  have reaches := targetsReach_planLegs plansLegs sends count some_target runs
    (planned_of_ok plansLegs runs ok)
  have requested := requested_of_runs valid started runs ok
  exact ⟨trace, o, runs, told, told ▸ requested, reaches, points, speedScale⟩

/-- Each target's fields reach its own leg and junction: for an accepted goal with several targets,
whose legs all succeed, leg `k` is planned to target `k`, the blend has the fields of each target at
its own place unless the goal is canceled first, and the blended trajectory is executed at speed
scale 1; and what a run hands over for the goal is such a blend. -/
theorem targets_reach_legs_and_blend (node : Node) (sink : Option SinkState) (goal : MoveGoal)
    (ts : List LegTarget) (several : goal.legTargets = some ts) (p : Planning Outcome)
    (trace : PlanTrace) (o : Outcome)
    (accepted : PlannedMoveServer.handleGoal node sink goal = .accept)
    (started : startPlan node goal = some p) (h : Runs p trace o)
    (succeed : ∀ plan ∈ plans trace, plan.answer.Planned) :
    1 ≤ ts.length ∧ TargetsReach ts trace o ∧
      (PlannedMoveServer.submission node goal o).speedScale = .finite 1 ∧
      (PlannedMoveServer.submission node goal o).trajectory = fillTrajectory o.trajectory.points ∧
      ∀ acts s id status tg, run (System.step node) System.init acts = some s →
        s.handle id = some ⟨.move goal, status⟩ → .handedOver tg ∈ s.log id →
        ∃ trace o, BlendExecuted node goal ts p
          (labels (System.step node) (System.labelsOf id GoalState.hears?) System.init acts) tg trace o := by
  have valid := (PlannedMoveServer.handleGoal_accept accepted).2
  obtain ⟨some_target, c, unasked, rfl, plansLegs, sends, count⟩ := chain_of_several several valid started
  obtain ⟨speedScale, points⟩ := submission_several node several o
  refine ⟨some_target, ?_, speedScale, points, ?_⟩
  · exact targetsReach_planLegs plansLegs sends count some_target h succeed
  · intro acts s id status tg ran owned handed
    exact blend_executed several started ran owned handed

def benchHome : List Double := List.replicate kNumJoints (.finite 0)

theorem targets_reach_legs_and_blend_benchChained :
    TargetsReach (benchTwoConfigs.targets.map JointConfigTarget.leg)
      (benchStart.run (benchAnswers benchHome) []).1 (benchStart.run (benchAnswers benchHome) []).2 ∧
    ∃ s tg trace o, run (System.step benchNode) System.init (bench benchChained) = some s ∧
      .handedOver tg ∈ s.log benchId ∧
      BlendExecuted benchNode (.jointConfigs benchTwoConfigs)
        (benchTwoConfigs.targets.map JointConfigTarget.leg) benchStart
        (labels (System.step benchNode) (System.labelsOf benchId GoalState.hears?) System.init
          (bench benchChained)) tg trace o := by
  have succeed : ∀ plan ∈ plans (benchStart.run (benchAnswers benchHome) []).1, plan.answer.Planned := by
    rw [benchStart_plans]
    intro plan member
    simp only [List.mem_cons, List.not_mem_nil, or_false] at member
    rcases member with rfl | rfl <;> simp [Outcome.Planned, benchLeg]
  have reached := targets_reach_legs_and_blend benchNode _ (.jointConfigs benchTwoConfigs) _ rfl benchStart
    _ _ benchTwoConfigs_accepted rfl (runs_run _ _ []) succeed
  obtain ⟨s, status, tg, ran, owned, handed⟩ := benchChained_handed
  obtain ⟨trace, o, blended⟩ := reached.2.2.2.2 _ s benchId status tg ran owned handed
  exact ⟨reached.2.1, s, tg, trace, o, ran, handed, blended⟩

end KinovaGen3
