import Mathlib.Order.GameAdd
import KinovaGen3.Lifecycle.Settlement

/-!
No accepted goal is stuck: until it is through, a thread can go on with it whatever its planner,
its sink and the Supervisor answer, and there is only so far for them to go.
-/

namespace KinovaGen3
open Interaction Transition

theorem startPlan_isSome {node : Node} {goal : MoveGoal} (valid : validate node goal = none) :
    (startPlan node goal).isSome := by
  cases goal with
  | preset g =>
    unfold validate GoToPresetServer.validate at valid
    have known := (Option.or_eq_none_iff.mp valid).2
    simp only [ite_eq_left_iff, reduceCtorEq, imp_false, Decidable.not_not] at known
    simpa [startPlan, GoToPresetServer.startPlan] using known
  | _ => rfl

def ActionGoal.plannable (node : Node) : ActionGoal → Bool
  | move g => (startPlan node g).isSome
  | execute _ => true

/-- Where `Ros2Backend::handle_accepted` can be. -/
def Main.direct : Main → Bool
  | accepted | recorded | finished => true
  | _ => false

/-- Every step but those of `handle_cancel`, which may be called any number of times. -/
def GoalAction.advances : GoalAction → Bool
  | cancel | cancelStep .. => false
  | _ => true

namespace GoalState
variable {node : Node} {contact : ContactState} {s t : GoalState} {act : GoalAction}

/-! ### What a goal's threads rely on -/

structure Startable (node : Node) (s : GoalState) : Prop where
  admitted : ∀ goal, s.main = .admitted goal → goal.plannable node = true
  plannable : ∀ h ∈ s.handle, h.goal.plannable node = true
  direct : ∀ h ∈ s.handle, ∀ g, h.goal = .execute g → s.main.direct = true

theorem Startable.frame (h : Startable node s) (goal : t.handle.map (·.goal) = s.handle.map (·.goal))
    (admitted : ∀ goal, t.main = .admitted goal → goal.plannable node = true)
    (direct : s.main.direct = true → t.main.direct = true ∨
      ∃ g status, s.handle = some ⟨.move g, status⟩) : Startable node t := by
  refine ⟨admitted, fun g owns => ?_, fun g owns e execute => ?_⟩
  · obtain ⟨g', owned, same⟩ := same_goal goal owns
    rw [← same]
    exact h.plannable g' owned
  · obtain ⟨g', owned, same⟩ := same_goal goal owns
    rcases direct (h.direct g' owned e (same.trans execute)) with further | ⟨m, status, moves⟩
    · exact further
    · obtain rfl := Option.some.inj (moves.symm.trans owned)
      exact ActionGoal.noConfusion (same.trans execute)

/-- The goal a server admits is one it has found nothing wrong with. -/
theorem admitted_step (step : GoalStep node contact s act t) {goal : ActionGoal}
    (admitted : t.main = .admitted goal) :
    s.main = .admitted goal ∨ ∀ g, goal = .move g → validate node g = none := by
  cases step with
  | admitMove new decided =>
    obtain rfl := Main.admitted.inj admitted
    refine Or.inr fun g same => ?_
    obtain rfl := ActionGoal.move.inj same
    exact (PlannedMoveServer.handleGoal_accept decided).2
  | admitExecute =>
    obtain rfl := Main.admitted.inj admitted
    exact Or.inr fun g same => ActionGoal.noConfusion same
  | decide =>
    have late := congrArg Main.early admitted
    rw [planDecision_early] at late
    cases late
  | settleTake => exact Or.inl ((erase_rest _).2.2.1 ▸ admitted)
  | cancel | cancelMiss | cancelLatch | backendCancelLook | cancelSend | cancelPlan
  | backendCancelSend | mark | settle | settleMiss | settleAsk | settleMove => exact Or.inl admitted
  | _ => cases admitted

theorem admitted_plannable (step : GoalStep node contact s act t) (h : Startable node s) :
    ∀ goal, t.main = .admitted goal → goal.plannable node = true := by
  intro goal admitted
  rcases admitted_step step admitted with before | valid
  · exact h.admitted goal before
  · cases goal with
    | move g => exact startPlan_isSome (valid g rfl)
    | execute g => rfl

theorem direct_step (step : GoalStep node contact s act t) (direct : s.main.direct = true) :
    t.main.direct = true ∨ ∃ g status, s.handle = some ⟨.move g, status⟩ := by
  cases step with
  | accept | backendRecord | backendHand => exact Or.inl rfl
  | rejectMove reached | admitMove reached | rejectExecute reached | refuseExecute reached
  | admitExecute reached | plan reached | submitAccept _ reached | submitReject _ reached
  | transition _ reached | decide _ _ reached | settleLocal _ _ reached =>
    rw [reached] at direct
    cases direct
  | record owns | start owns | planned owns | find owns | lose owns | contactStop owns | invalid owns
  | erase owns | execute owns | register owns | hand owns | rereadLatched owns | rereadClear owns
  | recancel owns => exact Or.inr ⟨_, _, owns⟩
  | settleTake => exact Or.inl ((congrArg Main.direct (erase_rest _).2.2.1).trans direct)
  | _ => exact Or.inl direct

theorem startable_step (step : GoalStep node contact s act t) (h : Startable node s) :
    Startable node t := by
  rcases step_goal step with ⟨goal, reached, rfl⟩ | same
  · refine ⟨by rintro _ ⟨⟩, fun g owns => ?_, fun _ _ _ _ => rfl⟩
    obtain rfl := Option.some.inj owns
    exact h.admitted goal reached
  · exact h.frame same (admitted_plannable step h) (direct_step step)

/-! ### Some thread can go on -/

theorem mainStep_enabled (h : Startable node s) {handle : GoalHandle} (owns : s.handle = some handle)
    (created : s.main.early = false) (unfinished : s.main.isFinished = false) :
    ∃ act, act.advances = true ∧ (s.step node contact act).isSome := by
  obtain ⟨goal, status⟩ := handle
  cases goal with
  | execute g =>
    have direct := h.direct _ owns g rfl
    refine ⟨.main, rfl, ?_⟩
    cases reached : s.main with
    | accepted | recorded => simp [step, mainStep, backendStep, owns, reached]
    | finished => simp [reached, Main.isFinished] at unfinished
    | _ => simp [reached, Main.direct] at direct
  | move g =>
    have started : (startPlan node g).isSome := h.plannable _ owns
    cases reached : s.main with
    | unseen | rejected | admitted => simp [reached, Main.early] at created
    | finished => simp [reached, Main.isFinished] at unfinished
    | submitting tg => exact ⟨.submit .accept, rfl, by simp [step, owns, reached]⟩
    | moving asked result => exact ⟨.transition false, rfl, by simp [step, owns, reached]⟩
    | planning rest =>
      cases rest with
      | done o => exact ⟨.main, rfl, by simp [step, mainStep, moveStep, owns, reached]⟩
      | ask q next =>
        cases q with
        | queryState => exact ⟨.armState {}, rfl, by simp [step, reached]⟩
        | planner goal name => exact ⟨.planner .unavailable, rfl, by simp [step, reached]⟩
        | tracked | isCanceling =>
          exact ⟨.main, rfl, by simp [step, mainStep, moveStep, owns, reached]⟩
    | _ => exact ⟨.main, rfl, by simp [step, mainStep, moveStep, owns, reached, started]⟩

theorem settleStep_enabled {handle : GoalHandle} (owns : s.handle = some handle)
    (handed : s.handed = true) (unsettled : s.settle ≠ .ended) :
    ∃ act, act.advances = true ∧ (s.step node contact act).isSome := by
  cases reached : s.settle with
  | waiting =>
    exact ⟨.settle (localResult ResultCode.kSuccessful ""), rfl, by simp [step, reached, handed]⟩
  | routed | taken | moving =>
    exact ⟨.settleStep false, rfl, by simp [step, settleStep, reached, owns]⟩
  | ended => exact (unsettled reached).elim

theorem step_enabled (settling : Settling s) (startable : Startable node s) {handle : GoalHandle}
    (owns : s.handle = some handle) (incomplete : s.completed = false) :
    ∃ act, act.advances = true ∧ (s.step node contact act).isSome := by
  unfold completed at incomplete
  split at incomplete
  · rename_i handed
    exact settleStep_enabled owns handed (of_decide_eq_false incomplete)
  · refine mainStep_enabled startable owns ?_ incomplete
    rw [settling.early, owns]
    rfl

/-! ### Every advance brings the end nearer -/

end GoalState

/-- How far the executor has to go, and the rest of a plan it is waiting for. -/
def Main.ahead : Main → Nat × Planning Outcome
  | unseen => (16, .done default)
  | admitted _ => (15, .done default)
  | accepted => (14, .done default)
  | recorded => (13, .done default)
  | planning rest => (12, rest)
  | begun _ => (11, .done default)
  | found _ => (10, .done default)
  | submitting _ => (9, .done default)
  | validated _ | refused => (8, .done default)
  | registering _ | settling _ => (7, .done default)
  | handing _ | moving .. => (6, .done default)
  | rereading | erasing => (5, .done default)
  | recanceling _ => (4, .done default)
  | rejected | finished => (0, .done default)

def Settle.ahead : Settle → Nat
  | waiting => 4
  | routed .. => 3
  | taken .. => 2
  | moving .. => 1
  | ended => 0

namespace GoalState
variable {node : Node} {contact : ContactState} {s t : GoalState} {act : GoalAction}

def ahead (s : GoalState) : (Nat × Planning Outcome) × Nat := (s.main.ahead, s.settle.ahead)

def Nearer : (Nat × Planning Outcome) × Nat → (Nat × Planning Outcome) × Nat → Prop :=
  Prod.GameAdd (Prod.Lex (· < ·) Prog.Rest) (· < ·)

theorem nearer_wellFounded : WellFounded Nearer :=
  (WellFounded.prod_lex Nat.lt_wfRel.wf Prog.rest_wellFounded).prod_gameAdd Nat.lt_wfRel.wf

theorem nearer_main (main : t.main.ahead.1 < s.main.ahead.1) (settle : t.settle = s.settle) :
    Nearer t.ahead s.ahead := by
  unfold ahead
  rw [settle]
  exact .fst (Prod.Lex.left _ _ main)

theorem nearer_settle (main : t.main = s.main) (settle : t.settle.ahead < s.settle.ahead) :
    Nearer t.ahead s.ahead := by
  unfold ahead
  rw [main]
  exact .snd settle

theorem planDecision_ahead {g : MoveGoal} {o : Outcome} {canceled : Bool} :
    (planDecision node g o canceled).ahead.1 < (Main.found o).ahead.1 := by
  rcases planDecision_cases node g o canceled with ⟨-, -, submits⟩ | ⟨result, ends, -⟩
  · rw [submits]
    show 9 < 10
    omega
  · rw [ends]
    show 7 < 10
    omega

theorem advance_nearer (step : GoalStep node contact s act t) (advances : act.advances = true) :
    Nearer t.ahead s.ahead := by
  cases step with
  | plan reached =>
    refine .fst ?_
    rw [reached]
    exact Prod.Lex.right _ ⟨_, _, _, rfl, rfl⟩
  | decide owns goal reached =>
    refine nearer_main ?_ rfl
    rw [reached]
    exact planDecision_ahead
  | settleTake reached =>
    exact nearer_settle (erase_rest _).2.2.1 (by rw [reached]; simp [Settle.ahead])
  | settle reached | settleMiss reached | settleAsk _ reached | settleMove reached =>
    exact nearer_settle rfl (by rw [reached]; simp [Settle.ahead])
  | cancel | cancelMiss | cancelLatch | backendCancelLook | cancelSend | cancelPlan
  | backendCancelSend | mark => cases advances
  | rejectMove reached | admitMove reached | rejectExecute reached | refuseExecute reached
  | admitExecute reached | accept reached | backendRecord _ reached | backendHand _ reached
  | record _ reached | start _ reached | planned _ reached | find _ reached | lose _ reached
  | contactStop _ reached | invalid _ reached | settleLocal _ _ reached | erase _ reached
  | execute _ reached | register _ reached | hand _ reached | rereadLatched _ reached
  | rereadClear _ reached | recancel _ reached | submitAccept _ reached | submitReject _ reached
  | transition _ reached =>
    exact nearer_main (by rw [reached]; simp [Main.ahead]) rfl

theorem aside_ahead (step : GoalStep node contact s act t) (aside : act.advances = false) :
    t.ahead = s.ahead := by
  cases step with
  | plan _ own =>
    cases act with
    | cancel | cancelStep => cases own
    | _ => cases aside
  | cancel | cancelMiss | cancelLatch | backendCancelLook | cancelSend | cancelPlan
  | backendCancelSend | mark => rfl
  | _ => cases aside

end GoalState

/-! ### Goals of the node -/

theorem System.startable {node : Node} {acts : List Action} {s : System}
    (h : run (System.step node) System.init acts = some s) (id : GoalId) :
    (s.goal id).Startable node := by
  refine System.goal_invariant ?_ id ?_ h
  · exact fun _ _ _ _ startable taken => GoalState.startable_step (GoalState.step_cases taken) startable
  · exact ⟨by rintro _ ⟨⟩, by rintro _ ⟨⟩, by rintro _ ⟨⟩⟩

theorem System.step_enabled {node : Node} {acts : List Action} {s : System} {id : GoalId}
    {handle : GoalHandle} (h : run (System.step node) System.init acts = some s)
    (accepted : s.handle id = some handle) (incomplete : (s.goal id).completed = false) :
    ∃ act, act.advances = true ∧ (s.step node (.goal id act)).isSome := by
  obtain ⟨act, advances, enabled⟩ := @GoalState.step_enabled node s.contact _ (System.settling h id)
    (System.startable h id) handle accepted incomplete
  exact ⟨act, advances, by rw [System.step, Option.isSome_map]; exact enabled⟩

/-- A goal that is through has had its terminal transition, and is in no map. -/
theorem System.terminal_of_completed {node : Node} {acts : List Action} {s : System} {id : GoalId}
    {handle : GoalHandle} (h : run (System.step node) System.init acts = some s)
    (accepted : s.handle id = some handle) (completed : (s.goal id).completed = true) :
    (s.goal id).terminalPorts = [handle.goal.port] ∧
      (∀ server, s.goals server id = none) ∧ s.handles id = none ∧ s.owners id = none := by
  have settlement : (s.goal id).Settlement handle.goal.port := (System.settling h id).owned accepted
  have through := GoalState.completed_through completed
  have empty : ∀ p, (s.goal id).holds p = false := fun p => by
    rw [settlement.entry, through]
    rfl
  refine ⟨?_, fun server => ?_, ?_, ?_⟩
  · rw [settlement.given, through]
    rfl
  · exact Option.isSome_eq_false_iff.mp (empty (.move server)) |> Option.isNone_iff_eq_none.mp
  · exact Option.isSome_eq_false_iff.mp (empty .backend) |> Option.isNone_iff_eq_none.mp
  · refine settlement.owner.trans ?_
    rw [through]
    rfl

/-- Each accepted goal gets at most one terminal transition, from the server that accepted it; once
it is through it has got exactly one, and no map has an entry for it; until then it is not stuck. -/
theorem terminal_exactly_once (node : Node) (acts : List Action) (s : System) (id : GoalId)
    (handle : GoalHandle) (h : run (System.step node) System.init acts = some s)
    (accepted : s.handle id = some handle) :
    (s.goal id).terminalPorts.length ≤ 1 ∧
    (∀ port ∈ (s.goal id).terminalPorts, port = handle.goal.port) ∧
    ((s.goal id).completed = true → (s.goal id).terminalPorts = [handle.goal.port] ∧
      (∀ server, s.goals server id = none) ∧ s.handles id = none ∧ s.owners id = none) ∧
    ((s.goal id).completed = false →
      ∃ act, act.advances = true ∧ (s.step node (.goal id act)).isSome) := by
  have settlement : (s.goal id).Settlement handle.goal.port := (System.settling h id).owned accepted
  refine ⟨?_, ?_, System.terminal_of_completed h accepted, System.step_enabled h accepted⟩
  · rw [settlement.given, List.length_replicate]
    cases (s.goal id).stage <;> decide
  · intro port given
    rw [settlement.given] at given
    exact List.eq_of_mem_replicate given

/-- The planner is unavailable, and `on_plan_done` ends the goal. -/
def benchUnplanned : List GoalAction :=
  benchAccept ++ benchPlanning ++
    [.planner .unavailable, .main, .main, .main, .main, .transition false, .main]

/-- The plan is handed over, and the Supervisor settles it. -/
def benchSettled : List GoalAction :=
  benchAccept ++ benchPlanning ++ [.planner benchReply, .main, .main, .main, .submit .accept, .main, .main,
    .main, .main, .settle { errorCode := ResultCode.kSuccessful }, .settleStep false, .settleStep false,
    .settleStep false]

/-- The bench goal ends with one terminal transition, and in no map. -/
def BenchEndsOnce (own : List GoalAction) : Prop :=
  ∃ s handle, run (System.step benchNode) System.init (bench own) = some s ∧
    s.handle benchId = some handle ∧ (s.goal benchId).terminalPorts = [handle.goal.port] ∧
    (∀ server, s.goals server benchId = none) ∧ s.handles benchId = none ∧ s.owners benchId = none

theorem terminal_exactly_once_benchSettled : BenchEndsOnce benchUnplanned ∧ BenchEndsOnce benchSettled := by
  have endsOnce : ∀ own, (run (System.step benchNode) System.init (bench own)).any (fun s =>
      (s.handle benchId).isSome && (s.goal benchId).completed) = true → BenchEndsOnce own := by
    intro own through
    obtain ⟨s, ran, reached⟩ := run_reaches _ _ _ _ through
    obtain ⟨accepted, completed⟩ := Bool.and_eq_true_iff.mp reached
    obtain ⟨handle, accepted⟩ := Option.isSome_iff_exists.mp accepted
    exact ⟨s, handle, ran, accepted, (terminal_exactly_once _ _ _ _ handle ran accepted).2.2.1 completed⟩
  exact ⟨endsOnce _ (by decide +kernel), endsOnce _ (by decide +kernel)⟩

/-! ### Every goal gets there -/

/-- Some thread goes on with a goal at some time, when there is always a thread that could. -/
def Served (node : Node) (states : Nat → System) (acts : Nat → Action) (id : GoalId) : Prop :=
  ∀ n, (∀ m, n ≤ m → ∃ act, act.advances = true ∧ ((states m).step node (.goal id act)).isSome) →
    ∃ m, n ≤ m ∧ ∃ act, act.advances = true ∧ acts m = .goal id act

section
variable {node : Node} {states : Nat → System} {acts : Nat → Action} {id : GoalId}

theorem handle_kept (endless : Endless (System.step node) states acts)
    (start : states 0 = System.init) {n m : Nat} (later : n ≤ m) {handle : GoalHandle}
    (accepted : (states n).handle id = some handle) :
    ∃ handle', (states m).handle id = some handle' ∧ handle'.goal = handle.goal := by
  obtain ⟨before, front⟩ := endless_run endless (Nat.zero_le n)
  obtain ⟨after, back⟩ := endless_run endless later
  rw [start] at front
  let kept (s : GoalState) : Prop :=
    s.Settling ∧ ∃ handle', s.handle = some handle' ∧ handle'.goal = handle.goal
  have preserve : ∀ contact s act t, kept s → GoalState.step node contact s act = some t → kept t := by
    intro contact s act t ⟨settling, owned, owns, same⟩ taken
    have step := GoalState.step_cases taken
    obtain ⟨owned', owns', same'⟩ := GoalState.handle_goal step settling.early owned owns
    exact ⟨GoalState.settling_step step settling, owned', owns', same'.trans same⟩
  exact (@System.goal_invariant node kept preserve after _ _ id
    ⟨System.settling front id, handle, accepted, rfl⟩ back).2

theorem advances_end (endless : Endless (System.step node) states acts) :
    ∃ last, ∀ m, last ≤ m → ∀ act, act.advances = true → acts m ≠ .goal id act := by
  have falls : ∀ s act t, (∃ own, GoalAction.advances own = true ∧ act = .goal id own) →
      System.step node s act = some t → GoalState.Nearer (t.goal id).ahead (s.goal id).ahead := by
    rintro s _ t ⟨own, advances, rfl⟩ taken
    exact GoalState.advance_nearer (GoalState.step_cases (System.own_step taken)) advances
  have stays : ∀ s act t, ¬ (∃ own, GoalAction.advances own = true ∧ act = .goal id own) →
      System.step node s act = some t → (t.goal id).ahead = (s.goal id).ahead := by
    intro s act t aside taken
    rcases System.goal_step id taken with ⟨own, rfl, moved⟩ | same
    · refine GoalState.aside_ahead (GoalState.step_cases moved) (Bool.eq_false_iff.mpr ?_)
      exact fun advances => aside ⟨own, advances, rfl⟩
    · exact congrArg GoalState.ahead same
  obtain ⟨last, idle⟩ := endless_settles (fun s : System => (s.goal id).ahead) _
    GoalState.nearer_wellFounded falls stays endless
  exact ⟨last, fun m later act advances taken => idle m later ⟨act, advances, taken⟩⟩

/-- In a run that never ends and in which the goal is served, each accepted goal gets through: it has
its one terminal transition, from the server that accepted it, and is in no map. -/
theorem accepted_completes (endless : Endless (System.step node) states acts)
    (start : states 0 = System.init)
    (served : Served node states acts id) {n : Nat} {handle : GoalHandle}
    (accepted : (states n).handle id = some handle) :
    ∃ m, n ≤ m ∧ ((states m).goal id).completed = true ∧
      ((states m).goal id).terminalPorts = [handle.goal.port] ∧
      (∀ server, (states m).goals server id = none) ∧ (states m).handles id = none ∧
      (states m).owners id = none := by
  have reached : ∀ m, ∃ path, run (System.step node) System.init path = some (states m) := by
    intro m
    rw [← start]
    exact endless_run endless (Nat.zero_le m)
  suffices completes : ∃ m, n ≤ m ∧ ((states m).goal id).completed = true by
    obtain ⟨m, later, completed⟩ := completes
    obtain ⟨path, ran⟩ := reached m
    obtain ⟨handle', owns, same⟩ := handle_kept endless start later accepted
    rw [← same]
    exact ⟨m, later, completed, System.terminal_of_completed ran owns completed⟩
  by_contra never
  have enabled : ∀ m, n ≤ m →
      ∃ act, act.advances = true ∧ ((states m).step node (.goal id act)).isSome := by
    intro m later
    obtain ⟨path, ran⟩ := reached m
    obtain ⟨g, owns, -⟩ := handle_kept endless start later accepted
    refine System.step_enabled ran owns (Bool.eq_false_iff.mpr fun completed => ?_)
    exact never ⟨m, later, completed⟩
  obtain ⟨last, idle⟩ := @advances_end _ _ _ id endless
  obtain ⟨m, later, act, advances, taken⟩ := served (max n last) fun m later =>
    enabled m ((Nat.le_max_left n last).trans later)
  exact idle m ((Nat.le_max_right n last).trans later) act advances taken

end

/-- No thread goes on with a goal that ended without being handed over. -/
theorem GoalState.finished_idle {node : Node} {contact : ContactState} {s : GoalState} {act : GoalAction}
    (finished : s.main = .finished) (unhanded : s.handed = false) (waiting : s.settle = .waiting)
    (advances : act.advances = true) : s.step node contact act = none := by
  cases act with
  | cancel | cancelStep => cases advances
  | main =>
    simp only [step, mainStep]
    split
    · rfl
    · split
      · simp [moveStep, finished]
      · simp [backendStep, finished]
  | submit | transition => simp [step, finished]
  | settle | settleStep => simp [step, settleStep, waiting, unhanded]
  | _ => simp [step, finished]

theorem accepted_completes_unplanned : ∃ (states : Nat → System) (acts : Nat → Action),
    Endless (System.step benchNode) states acts ∧ states 0 = System.init ∧
      Served benchNode states acts benchId ∧ ∃ m port, ((states m).goal benchId).completed = true ∧
        ((states m).goal benchId).terminalPorts = [port] := by
  obtain ⟨s, ran, reached⟩ := run_reaches (System.step benchNode) System.init
    (bench benchUnplanned ++ [.contact {}])
    (fun s => (s.handle benchId).isSome && (s.main benchId).isFinished && !(s.goal benchId).handed &&
      decide (s.settle benchId = .waiting)) (by decide +kernel)
  simp only [Bool.and_eq_true, Bool.not_eq_true', decide_eq_true_eq] at reached
  obtain ⟨⟨⟨accepted, finished⟩, unhanded⟩, waiting⟩ := reached
  obtain ⟨before, -, there⟩ := run_append.mp ran
  have idle : System.step benchNode s (.contact {}) = some s := by
    obtain rfl := Option.some.inj (run_single.mp there)
    rfl
  obtain ⟨states, acts, endless, start, last⟩ := endless_of_idle ran idle
  generalize (bench benchUnplanned ++ [Action.contact {}]).length = long at last
  obtain ⟨handle, accepted⟩ := Option.isSome_iff_exists.mp accepted
  have served : Served benchNode states acts benchId := by
    intro n enabled
    obtain ⟨act, advances, taken⟩ := enabled (max n long) (Nat.le_max_left n long)
    rw [(last _ (Nat.le_max_right n long)).1, System.step, Option.isSome_map,
      GoalState.finished_idle (Main.eq_finished finished) unhanded waiting advances] at taken
    cases taken
  have there : (states long).handle benchId = some handle := by rw [(last long (Nat.le_refl long)).1, accepted]
  obtain ⟨m, -, completed, given, -⟩ := accepted_completes endless start served there
  exact ⟨states, acts, endless, start, served, m, _, completed, given⟩

end KinovaGen3
