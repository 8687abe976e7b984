import KinovaGen3.GoTo.Requested
import KinovaGen3.Lifecycle.FeedbackSteps
import KinovaGen3.Lifecycle.Progress
import KinovaGen3.Lifecycle.Submission

/-!
What the arm is given to execute for a goal. The steps of the goal's threads, among those of all the
others, are an execution of its planning program, which hears what has been told to the goal.
-/

namespace KinovaGen3
open Interaction Transition

/-- What the goal is told of the arm, and of the request it has with the planner. -/
def GoalState.hears? (s : GoalState) : GoalAction → Option Heard
  | .armState arm => some (.armState arm)
  | .planner reply => s.main.request?.map fun request => .planner request reply
  | _ => none

def Event.aside : Event → Bool
  | planned _ | submitted (.move _) .. => false
  | _ => true

/-- What `on_plan_done` submits of a plan. -/
structure Fits (node : Node) (g : MoveGoal) (o : Outcome) (tg : TrajectoryGoal) : Prop where
  ok : o.ok = true
  fine : PlannedMoveServer.planRejection node g o = none
  image : tg = PlannedMoveServer.submission node g o

namespace GoalState

/-- The goal is one the server found nothing wrong with, and it owns this handle. -/
def OwnedMove (g : MoveGoal) (s : GoalState) : Prop := ∃ h ∈ s.handle, h.goal = .move g

/-- The goal plans as its program does, having heard `past`. -/
structure Follows (node : Node) (past : List Heard) (s : GoalState) : Prop where
  admitted : ∀ g, s.main = .admitted (.move g) → validate node g = none
  valid : ∀ g, OwnedMove g s → validate node g = none
  fresh : s.main.unplanned = true → past = []
  planning : ∀ rest, s.main.plan? = some rest → ∃ g p trace, OwnedMove g s ∧
    startPlan node g = some p ∧ Leads p trace rest ∧ heard trace = past
  planned : ∀ o, .planned o ∈ s.log → ∃ g p trace, OwnedMove g s ∧
    startPlan node g = some p ∧ Runs p trace o ∧ heard trace = past
  quiet : s.main.unplanned = true ∨ s.main.plan?.isSome → ∀ o, .planned o ∉ s.log
  submitting : ∀ tg, s.main = .submitting tg → ∃ g o, OwnedMove g s ∧ .planned o ∈ s.log ∧
    Fits node g o tg
  submitted : ∀ g tg answer, .submitted (.move g) tg answer ∈ s.log → ∃ o, .planned o ∈ s.log ∧
    Fits node g o tg

variable {node : Node} {contact : ContactState} {s t : GoalState} {act : GoalAction}
  {past : List Heard}

theorem OwnedMove.same {g : MoveGoal} (h : OwnedMove g s)
    (goal : t.handle.map (·.goal) = s.handle.map (·.goal)) : OwnedMove g t := by
  obtain ⟨handle, held, is⟩ := h
  obtain ⟨handle', held', same⟩ := same_goal goal.symm held
  exact ⟨handle', held', same.trans is⟩

theorem planDecision_submits {g : MoveGoal} {o : Outcome} {canceled : Bool} {tg : TrajectoryGoal}
    (h : planDecision node g o canceled = .submitting tg) : Fits node g o tg := by
  unfold planDecision at h
  split at h
  · cases h
  · rename_i ok
    split at h
    · cases h
    · split at h
      · cases h
      · cases h
        exact ⟨by simpa using ok, ‹_›, rfl⟩

/-! ### One step of a plan -/

/-- A step of a goal that is asking is the answer it waits for, or another thread's. -/
theorem ask_cases {q : PlanRequest} {next : q.Answer → Planning Outcome}
    (reached : s.main = .planning (.ask q next)) (own : act.plans = true)
    (h : s.step node contact act = some t) :
    ∃ answer, t = { s with main := .planning (next answer) } ∧ heard? ⟨q, answer⟩ = s.hears? act := by
  cases act with
  | main =>
    simp only [step, mainStep] at h
    split at h
    · cases h
    · split at h
      · unfold moveStep at h
        rw [reached] at h
        cases q with
        | tracked | isCanceling =>
          cases h
          exact ⟨_, rfl, rfl⟩
        | _ => cases h
      · unfold backendStep at h
        rw [reached] at h
        cases h
  | armState arm =>
    simp only [step, reached] at h
    cases q with
    | queryState =>
      cases h
      exact ⟨arm, rfl, rfl⟩
    | _ => cases h
  | planner reply =>
    simp only [step, reached] at h
    cases q with
    | planner goal name =>
      cases h
      refine ⟨reply, rfl, ?_⟩
      simp only [GoalState.hears?, reached]
      rfl
    | _ => cases h
  | _ => cases own

/-- Nothing is told to a goal that is not asking. -/
theorem heard_asking (h : s.step node contact act = some t)
    (idle : ∀ q next, s.main = .planning (.ask q next) → act.plans = false) : s.hears? act = none := by
  cases act with
  | armState arm =>
    simp only [step] at h
    split at h
    · cases idle _ _ ‹_›
    · cases h
  | planner reply =>
    simp only [step] at h
    split at h
    · cases idle _ _ ‹_›
    · cases h
  | _ => rfl

/-! ### Every step -/

theorem Follows.frame (h : Follows node past s) {more : List Event} (log : t.log = s.log ++ more)
    (aside : more.all Event.aside = true)
    (goal : t.handle.map (·.goal) = s.handle.map (·.goal))
    (admitted : ∀ g, t.main = .admitted (.move g) → validate node g = none)
    (unplanned : t.main.unplanned = true → s.main.unplanned = true)
    (program : ∀ rest, t.main.plan? = some rest → s.main.plan? = some rest)
    (submitting : ∀ tg, t.main = .submitting tg → s.main = .submitting tg) :
    Follows node past t := by
  have kept : ∀ {e : Event}, e ∈ s.log → e ∈ t.log := fun member =>
    log ▸ List.mem_append_left _ member
  have only : ∀ {e : Event}, e ∈ t.log → e.aside = false → e ∈ s.log := by
    intro e member other
    rw [log] at member
    refine (List.mem_append.mp member).resolve_right fun new => ?_
    exact Bool.false_ne_true (other.symm.trans (List.all_eq_true.mp aside e new))
  refine ⟨admitted, fun g owns => h.valid g (owns.same goal.symm), fun early => h.fresh (unplanned early),
    ?_, ?_, ?_, ?_, ?_⟩
  · intro rest here
    obtain ⟨g, p, trace, owns, started⟩ := h.planning rest (program rest here)
    exact ⟨g, p, trace, owns.same goal, started⟩
  · intro o member
    obtain ⟨g, p, trace, owns, started⟩ := h.planned o (only member rfl)
    exact ⟨g, p, trace, owns.same goal, started⟩
  · intro early o member
    refine h.quiet ?_ o (only member rfl)
    rcases early with early | asking
    · exact Or.inl (unplanned early)
    · obtain ⟨rest, here⟩ := Option.isSome_iff_exists.mp asking
      exact Or.inr (Option.isSome_iff_exists.mpr ⟨rest, program rest here⟩)
  · intro tg here
    obtain ⟨g, o, owns, planned, fits⟩ := h.submitting tg (submitting tg here)
    exact ⟨g, o, owns.same goal, kept planned, fits⟩
  · intro g tg answer member
    obtain ⟨o, planned, fits⟩ := h.submitted g tg answer (only member rfl)
    exact ⟨o, kept planned, fits⟩

/-- A step to where a goal is once it has a plan, or where it has none yet. -/
theorem Follows.move (h : Follows node past s) {more : List Event} (log : t.log = s.log ++ more)
    (aside : more.all Event.aside = true) (goal : t.handle.map (·.goal) = s.handle.map (·.goal))
    (later : t.main.unplanned = false ∨ s.main.unplanned = true)
    (plain : ∀ g, t.main ≠ .admitted (.move g)) (program : t.main.plan? = none)
    (submitting : ∀ tg, t.main ≠ .submitting tg) : Follows node past t := by
  refine h.frame log aside goal (fun g here => (plain g here).elim) (fun early => ?_) ?_
    (fun tg here => (submitting tg here).elim)
  · exact later.resolve_left fun planned => Bool.false_ne_true (planned.symm.trans early)
  · intro rest here
    rw [program] at here
    cases here

/-- A step of another thread. -/
theorem Follows.other (h : Follows node past s) {more : List Event} (log : t.log = s.log ++ more)
    (aside : more.all Event.aside = true) (goal : t.handle.map (·.goal) = s.handle.map (·.goal))
    (main : t.main = s.main) : Follows node past t := by
  refine h.frame log aside goal ?_ ?_ ?_ ?_
  · rw [main]
    exact h.admitted
  · rw [main]
    exact fun early => early
  · rw [main]
    exact fun _ here => here
  · rw [main]
    exact fun _ here => here

theorem OwnedMove.of {g : MoveGoal} {status : HandleStatus} (owns : s.handle = some ⟨.move g, status⟩) :
    OwnedMove g s := ⟨_, owns, rfl⟩

theorem follows_start {g : MoveGoal} {status : HandleStatus} {p : Planning Outcome}
    (h : Follows node past s) (owns : s.handle = some ⟨.move g, status⟩) (reached : s.main = .recorded)
    (started : startPlan node g = some p) : Follows node past { s with main := .planning p } := by
  have early : s.main.unplanned = true := by rw [reached]; rfl
  have nothing := h.fresh early
  refine ⟨fun _ => nofun, h.valid, nofun, fun rest here => ?_, fun o member => ?_, fun _ => ?_,
    fun _ => nofun, h.submitted⟩
  · obtain rfl := Option.some.inj here
    exact ⟨g, p, [], .of owns, started, .here p, nothing.symm⟩
  · exact (h.quiet (Or.inl early) o member).elim
  · exact h.quiet (Or.inl early)

theorem follows_answer {q : PlanRequest} {next : q.Answer → Planning Outcome} {answer : q.Answer}
    (h : Follows node past s) (reached : s.main = .planning (.ask q next)) :
    Follows node (past ++ (heard? ⟨q, answer⟩).toList) { s with main := .planning (next answer) } := by
  have asking : s.main.plan? = some (.ask q next) := by rw [reached]; rfl
  have quiet := h.quiet (Or.inr (Option.isSome_iff_exists.mpr ⟨_, asking⟩))
  refine ⟨fun _ => nofun, h.valid, nofun, fun rest here => ?_, fun o member => (quiet o member).elim,
    fun _ => quiet, fun _ => nofun, h.submitted⟩
  obtain rfl := Option.some.inj here
  obtain ⟨g, p, trace, owns, started, leads, told⟩ := h.planning _ asking
  refine ⟨g, p, _, owns, started, leads.answer answer, ?_⟩
  rw [heard_append, told]
  cases shown : heard? ⟨q, answer⟩ <;> simp [heard, shown]

theorem follows_planned {o : Outcome} (h : Follows node past s) (reached : s.main = .planning (.done o)) :
    Follows node past { s.record (.planned o) with main := .begun o } := by
  have asking : s.main.plan? = some (.done o) := by rw [reached]; rfl
  have quiet := h.quiet (Or.inr (Option.isSome_iff_exists.mpr ⟨_, asking⟩))
  refine ⟨fun _ => nofun, h.valid, nofun, fun _ => nofun, fun o' member => ?_, nofun, fun _ => nofun, ?_⟩
  · have same : o' = o := by
      rcases List.mem_append.mp member with old | new
      · exact (quiet o' old).elim
      · exact Event.planned.inj (List.mem_singleton.mp new)
    subst same
    obtain ⟨g', p, trace, owned, started, leads, told⟩ := h.planning _ asking
    refine ⟨g', p, trace, owned, started, ?_, told⟩
    have runs := leads.runs (.done o')
    rwa [List.append_nil] at runs
  · intro g tg answer member
    rcases List.mem_append.mp member with old | new
    · obtain ⟨o', planned, fits⟩ := h.submitted g tg answer old
      exact ⟨o', List.mem_append_left _ planned, fits⟩
    · cases List.mem_singleton.mp new

theorem follows_decide {g : MoveGoal} {handle : GoalHandle} {o : Outcome} (h : Follows node past s)
    (owns : s.handle = some handle) (goal : handle.goal = .move g) (looked : .planned o ∈ s.log) :
    Follows node past { s with main := planDecision node g o handle.isCanceling } := by
  have here : s.log = s.log ++ [] := (List.append_nil _).symm
  rcases planDecision_cases node g o handle.isCanceling with ⟨-, -, submits⟩ | ⟨result, ends, -⟩
  · have fits := planDecision_submits submits
    rw [submits]
    refine ⟨fun _ => nofun, h.valid, nofun, fun _ => nofun, h.planned, nofun, fun tg here => ?_,
      h.submitted⟩
    obtain rfl := Main.submitting.inj here
    exact ⟨g, o, ⟨handle, owns, goal⟩, looked, fits⟩
  · rw [ends]
    exact h.move here rfl rfl (Or.inl rfl) (fun _ => nofun) rfl
      (fun _ => nofun)

/-- `on_trajectory_goal`, whatever it answers. -/
theorem follows_submit {handle : GoalHandle} {tg : TrajectoryGoal} {answer : GoalResponse} {m : Main}
    (h : Follows node past s) (owns : s.handle = some handle) (reached : s.main = .submitting tg)
    (later : m.unplanned = false) (plan : m.plan? = none) (further : ∀ tg, m ≠ .submitting tg)
    (plain : ∀ goal, m ≠ .admitted goal) :
    Follows node past { s.record (.submitted handle.goal tg answer) with main := m } := by
  obtain ⟨g, o, ⟨handle', owned, goal⟩, planned, fits⟩ := h.submitting tg reached
  obtain rfl := Option.some.inj (owns.symm.trans owned)
  have only : ∀ {o}, .planned o ∈ s.log ++ [.submitted handle.goal tg answer] → .planned o ∈ s.log :=
    fun member => (List.mem_append.mp member).resolve_right fun new => by
      cases List.mem_singleton.mp new
  refine ⟨fun _ here => (plain _ here).elim, h.valid, fun early => ?_, fun rest here => ?_,
    fun o member => h.planned o (only member), fun either => ?_, fun _ here => (further _ here).elim, ?_⟩
  · exact (Bool.false_ne_true (later.symm.trans early)).elim
  · cases plan.symm.trans here
  · rcases either with early | asking
    · exact (Bool.false_ne_true (later.symm.trans early)).elim
    · rw [plan] at asking
      cases asking
  · intro g' tg' answer' member
    rcases List.mem_append.mp member with old | new
    · obtain ⟨o', planned, fits⟩ := h.submitted g' tg' answer' old
      exact ⟨o', List.mem_append_left _ planned, fits⟩
    · obtain ⟨mine, rfl, -⟩ := Event.submitted.inj (List.mem_singleton.mp new)
      obtain rfl := ActionGoal.move.inj (mine.trans goal)
      exact ⟨o, List.mem_append_left _ planned, fits⟩

theorem follows_other (step : GoalStep node contact s act t)
    (idle : ∀ q next, s.main = .planning (.ask q next) → act.plans = false)
    (looked : ∀ o ∈ s.main.outcome?, .planned o ∈ s.log) (h : Follows node past s) :
    Follows node past t := by
  have here : s.log = s.log ++ [] := (List.append_nil _).symm
  cases step with
  | plan reached own => cases own.symm.trans (idle _ _ reached)
  | start owns reached started => exact follows_start h owns reached started
  | planned _ reached => exact follows_planned h reached
  | decide owns goal reached => exact follows_decide h owns goal (looked _ (by rw [reached]; rfl))
  | submitAccept owns reached | submitReject owns reached =>
    exact follows_submit h owns reached rfl rfl (fun _ => nofun) (fun _ => nofun)
  | accept reached =>
    have early : s.main.unplanned = true := by rw [reached]; rfl
    have quiet := h.quiet (Or.inl early)
    refine ⟨fun _ => nofun, ?_, fun _ => h.fresh early, fun _ => nofun,
      fun o member => (quiet o member).elim, fun _ => quiet, fun _ => nofun, h.submitted⟩
    rintro g ⟨handle, held, goal⟩
    obtain rfl := Option.some.inj held
    exact h.admitted g (goal ▸ reached)
  | admitMove new decided =>
    refine h.frame here rfl rfl ?_ (fun _ => by rw [new]; rfl) (fun _ => nofun) (fun _ => nofun)
    intro g admitted
    obtain rfl := ActionGoal.move.inj (Main.admitted.inj admitted)
    exact (PlannedMoveServer.handleGoal_accept decided).2
  | rejectMove new | rejectExecute new =>
    exact h.move here rfl rfl (Or.inr (by rw [new]; rfl)) (fun _ => nofun) rfl (fun _ => nofun)
  | refuseExecute new | admitExecute new =>
    exact h.move rfl rfl rfl (Or.inr (by rw [new]; rfl)) (fun _ => nofun) rfl (fun _ => nofun)
  | backendRecord _ reached | record _ reached =>
    exact h.move here rfl rfl (Or.inr (by rw [reached]; rfl)) (fun _ => nofun) rfl (fun _ => nofun)
  | backendHand | hand | recancel =>
    exact h.move rfl rfl rfl (Or.inl rfl) (fun _ => nofun) rfl (fun _ => nofun)
  | find | lose | contactStop | invalid | settleLocal | erase | execute | register | rereadLatched
  | rereadClear => exact h.move here rfl rfl (Or.inl rfl) (fun _ => nofun) rfl (fun _ => nofun)
  | @transition handle asked result dropped =>
    have kept := terminate_handle_goal s handle.goal.port asked result dropped
    exact h.move rfl rfl kept (Or.inl rfl) (fun _ => nofun) rfl (fun _ => nofun)
  | cancel | cancelMiss | cancelLatch | backendCancelLook | settle | settleMiss | settleAsk =>
    exact h.other here rfl rfl rfl
  | cancelPlan => exact h.other rfl rfl rfl rfl
  | cancelSend | backendCancelSend => exact h.other (List.append_assoc _ _ _) rfl rfl rfl
  | mark owns => exact h.other here rfl (by rw [owns]; rfl) rfl
  | settleTake =>
    obtain ⟨-, handle, main, log⟩ := erase_rest (s := s) _
    exact h.other (log.trans here) rfl (congrArg (Option.map _) handle) main
  | @settleMove port asked result dropped =>
    exact h.other rfl rfl (terminate_handle_goal s port asked result dropped) rfl

theorem follows_step (taken : s.step node contact act = some t) (submissions : Submissions node s)
    (h : Follows node past s) : Follows node (past ++ (s.hears? act).toList) t := by
  by_cases asking : ∃ q next, s.main = .planning (.ask q next) ∧ act.plans = true
  · obtain ⟨q, next, reached, own⟩ := asking
    obtain ⟨answer, rfl, told⟩ := ask_cases reached own taken
    rw [← told]
    exact follows_answer h reached
  · have idle : ∀ q next, s.main = .planning (.ask q next) → act.plans = false := fun q next reached =>
      Bool.eq_false_iff.mpr fun own => asking ⟨q, next, reached, own⟩
    rw [heard_asking taken idle, Option.toList_none, List.append_nil]
    exact follows_other (step_cases taken) idle submissions.planned h

theorem follows_new : Follows node [] {} where
  admitted _ := nofun
  valid _ := fun ⟨_, held, _⟩ => by cases held
  fresh _ := rfl
  planning _ := nofun
  planned _ := nofun
  quiet _ _ := nofun
  submitting _ := nofun
  submitted _ _ _ := nofun

end GoalState

theorem System.follows {node : Node} {acts : List Action} {s : System}
    (h : run (System.step node) System.init acts = some s) (id : GoalId) :
    (s.goal id).Follows node
      (labels (System.step node) (System.labelsOf id GoalState.hears?) System.init acts) := by
  have kept : ∀ past contact s act t, (s.Settling ∧ s.Submissions node) ∧ s.Follows node past →
      GoalState.step node contact s act = some t →
      (t.Settling ∧ t.Submissions node) ∧ t.Follows node (past ++ (s.hears? act).toList) := by
    intro past contact s act t ⟨⟨settling, submissions⟩, follows⟩ taken
    have step := GoalState.step_cases taken
    exact ⟨⟨GoalState.settling_step step settling,
      GoalState.submissions_step step settling.early submissions⟩,
      GoalState.follows_step taken submissions follows⟩
  have start : (({} : GoalState).Settling ∧ ({} : GoalState).Submissions node) ∧
      ({} : GoalState).Follows node [] :=
    ⟨⟨GoalState.settling_new, GoalState.submissions_new⟩, GoalState.follows_new⟩
  exact (System.goal_labels kept id start h).2

/-- What is handed over for a GoTo goal is the outcome of an execution of its program. -/
theorem System.handed_runs {node : Node} {acts : List Action} {s : System} {id : GoalId} {g : MoveGoal}
    {status : HandleStatus} {tg : TrajectoryGoal} (h : run (System.step node) System.init acts = some s)
    (accepted : s.handle id = some ⟨.move g, status⟩) (handed : .handedOver tg ∈ s.log id) :
    ∃ p trace o, validate node g = none ∧ startPlan node g = some p ∧ Runs p trace o ∧ o.ok = true ∧
      heard trace = labels (System.step node) (System.labelsOf id GoalState.hears?) System.init acts ∧
      PlannedMoveServer.planRejection node g o = none ∧ tg = PlannedMoveServer.submission node g o := by
  have follows := System.follows h id
  obtain ⟨handle, held, submitted⟩ := (System.submissions h id).handed tg handed
  obtain rfl := Option.some.inj (accepted.symm.trans held)
  obtain ⟨o, planned, ok, fine, image⟩ := follows.submitted g tg .accept submitted
  obtain ⟨g', p, trace, owned, started, runs, told⟩ := follows.planned o planned
  obtain ⟨handle, held, goal⟩ := owned
  obtain rfl := Option.some.inj (accepted.symm.trans held)
  obtain rfl := ActionGoal.move.inj goal
  exact ⟨p, trace, o, follows.valid g ⟨_, accepted, rfl⟩, started, runs, ok, told, fine, image⟩

/-- The arm only moves for a goal on a plan of all of it: what is handed over for a GoTo goal is what
`on_plan_done` makes of the planner's reply to the last of the requests that were sent for this goal, and
these ask for each of its targets in turn, from where the arm was measured and then from where the leg
before ended, and for the blend of the legs. -/
theorem executed_as_requested (node : Node) (acts : List Action) (s : System) (id : GoalId) (g : MoveGoal)
    (status : HandleStatus) (tg : TrajectoryGoal)
    (h : run (System.step node) System.init acts = some s)
    (accepted : s.handle id = some ⟨.move g, status⟩) (handed : .handedOver tg ∈ s.log id) :
    ∃ o, Requested node g
        (labels (System.step node) (System.labelsOf id GoalState.hears?) System.init acts) o ∧
      PlannedMoveServer.planRejection node g o = none ∧
      tg = PlannedMoveServer.submission node g o := by
  obtain ⟨p, trace, o, valid, started, runs, ok, told, fine, image⟩ := System.handed_runs h accepted handed
  refine ⟨o, ?_, fine, image⟩
  rw [← told]
  exact requested_of_runs valid started runs ok

def benchLegReply (target : Double) : PlannerReply :=
  .result true (some { success := true, trajectory := benchLeg (List.replicate kNumJoints target) })

/-- A goal with two targets, up to its hand-over: two legs that end at the targets, and their blend. -/
def benchChained : List GoalAction :=
  [.goal (.move (.jointConfigs benchTwoConfigs)) { stampS := .finite 1 } .accept, .accept, .main, .main,
    .armState {}, .main, .main, .planner (benchLegReply (.finite (1 / 2))), .main, .main,
    .planner (benchLegReply (.finite (1 / 4))), .main, .main, .planner (benchLegReply (.finite (1 / 4))),
    .main, .main, .main, .submit .accept, .main, .main, .main]

theorem benchChained_handed : ∃ s status tg,
    run (System.step benchNode) System.init (bench benchChained) = some s ∧
      s.handle benchId = some ⟨.move (.jointConfigs benchTwoConfigs), status⟩ ∧
      .handedOver tg ∈ s.log benchId := by
  obtain ⟨s, ran, reached⟩ := run_reaches (System.step benchNode) System.init (bench benchChained)
    (fun s => (s.goal benchId).handed &&
      (s.handle benchId).any fun h => h.goal = .move (.jointConfigs benchTwoConfigs)) (by decide +kernel)
  obtain ⟨handed, owned⟩ := Bool.and_eq_true_iff.mp reached
  obtain ⟨tg, handed⟩ := GoalState.exists_handedOver handed
  obtain ⟨⟨goal, status⟩, held, same⟩ := (Option.any_eq_true _ _).mp owned
  obtain rfl : goal = .move (.jointConfigs benchTwoConfigs) := of_decide_eq_true same
  exact ⟨s, status, tg, ran, held, handed⟩

theorem executed_as_requested_benchChained : ∃ s o,
    run (System.step benchNode) System.init (bench benchChained) = some s ∧
      Requested benchNode (.jointConfigs benchTwoConfigs)
        (labels (System.step benchNode) (System.labelsOf benchId GoalState.hears?) System.init
          (bench benchChained)) o ∧
      .handedOver (PlannedMoveServer.submission benchNode (.jointConfigs benchTwoConfigs) o) ∈
        s.log benchId := by
  obtain ⟨s, status, tg, ran, owned, handed⟩ := benchChained_handed
  obtain ⟨o, requested, -, rfl⟩ := executed_as_requested benchNode _ s benchId _ status tg ran owned handed
  exact ⟨s, o, ran, requested, handed⟩

end KinovaGen3
