import KinovaGen3.Lifecycle.Settlement

/-!
What rclcpp makes of a terminal call. `terminal` reads `is_canceling` before the call, and a cancel can
come between the two; but the state machine of a goal only ever turns an executing goal into a canceling
one, and takes from there every call that it takes from the other.
-/

namespace KinovaGen3
open Transition

/-- The state machine of a goal as ROS 2 documents it for an action server: `EXECUTING` has the events
`cancel_goal`, `succeed` and `abort`, `CANCELING` has `succeed`, `abort` and `canceled`, and an ended goal
has none; rclcpp throws when it is asked for an event that the state does not have. -/
def HandleStatus.takes : HandleStatus → TerminalCall → Bool
  | executing, .canceled => false
  | executing, _ | canceling, _ => true
  | ended, _ => false

def Event.isDropped : Event → Bool
  | terminal _ _ _ dropped => dropped
  | _ => false

namespace GoalState
variable {node : Node} {contact : ContactState} {s t : GoalState} {act : GoalAction} {h : GoalHandle}

def terminalCall (canceling : Bool) (result : TrajectoryResult) : TerminalCall :=
  if canceling then .canceled
  else if result.errorCode = ResultCode.kSuccessful then .succeed else .abort

/-- The terminal call that a step makes, and whether rclcpp drops it. -/
def calls? (s : GoalState) : GoalAction → Option (TerminalCall × Bool)
  | .transition dropped =>
    match s.main with
    | .moving canceling result => some (terminalCall canceling result, dropped)
    | _ => none
  | .settleStep dropped =>
    match s.settle with
    | .moving _ canceling result => some (terminalCall canceling result, dropped)
    | _ => none
  | _ => none

/-- rclcpp drops no terminal call that the goal's status takes. -/
def dropsFairly (s : GoalState) (act : GoalAction) : Bool :=
  match s.calls? act, s.handle with
  | some (call, true), some h => !h.status.takes call
  | _, _ => true

/-- Until its terminal call a goal has not ended, and a thread that has read that it is being canceled
is right. -/
structure Open (s : GoalState) : Prop where
  status : s.terminalPorts = [] → ∀ h ∈ s.handle, h.status ≠ .ended
  main : s.terminalPorts = [] → ∀ result, s.main = .moving true result →
    ∀ h ∈ s.handle, h.status = .canceling
  settle : s.terminalPorts = [] → ∀ port result, s.settle = .moving port true result →
    ∀ h ∈ s.handle, h.status = .canceling

theorem takes_of_open {canceling : Bool} {result : TrajectoryResult} (unended : h.status ≠ .ended)
    (right : canceling = true → h.status = .canceling) :
    h.status.takes (terminalCall canceling result) = true := by
  cases canceling with
  | true =>
    rw [right rfl]
    rfl
  | false =>
    rw [terminalCall, if_neg Bool.false_ne_true]
    cases reached : h.status with
    | ended => exact (unended reached).elim
    | executing => split <;> rfl
    | canceling => rfl

theorem Open.frame (before : Open s) (handle : t.handle = s.handle)
    (given : t.terminalPorts = [] → s.terminalPorts = [])
    (main : ∀ result, t.main = .moving true result → s.main = .moving true result)
    (settle : ∀ port result, t.settle = .moving port true result → s.settle = .moving port true result) :
    Open t := by
  refine ⟨fun none h held => ?_, fun none result moving h held => ?_, fun none port result moving h held => ?_⟩
  · exact before.status (given none) h (handle ▸ held)
  · exact before.main (given none) result (main result moving) h (handle ▸ held)
  · exact before.settle (given none) port result (settle port result moving) h (handle ▸ held)

theorem given_record {e : Event} (none : (s.record e).terminalPorts = []) : s.terminalPorts = [] := by
  rw [record_terminalPorts] at none
  exact (List.append_eq_nil_iff.mp none).1

theorem given_terminate {port : Port} {canceling dropped : Bool} {result : TrajectoryResult} :
    (s.terminate port canceling result dropped).terminalPorts ≠ [] := by
  rw [terminate_terminalPorts]
  exact List.append_ne_nil_of_right_ne_nil _ (List.cons_ne_nil _ _)

theorem open_of_given (given : s.terminalPorts ≠ []) : Open s :=
  ⟨fun none => (given none).elim, fun none => (given none).elim, fun none => (given none).elim⟩

theorem isCanceling_status {h' : GoalHandle} (owns : s.handle = some h) (canceling : h.isCanceling = true)
    (held : h' ∈ s.handle) : h'.status = .canceling := by
  obtain rfl := Option.some.inj (owns.symm.trans held)
  exact of_decide_eq_true canceling

/-- Nothing is settled before the goal has its handle. -/
theorem waiting_of_early (settling : s.Settling) (early : s.main.early = true) : s.settle = .waiting := by
  have none : s.handle = none := by
    rw [settling.early] at early
    exact Option.isNone_iff_eq_none.mp early
  have settlement : Settlement .backend s := settling.settlement .backend fun h held => by
    cases none.symm.trans held
  have fresh : s.main.stage = .fresh := by
    cases reached : s.main with
    | unseen | rejected | admitted => rfl
    | _ =>
      rw [reached] at early
      cases early
  exact settlement.waiting (settlement.unhanded .fresh fresh).1

theorem open_step (step : GoalStep node contact s act t) (settling : s.Settling) (before : Open s) :
    Open t := by
  cases step with
  | @accept goal reached =>
    have waiting : s.settle = .waiting := waiting_of_early settling (by rw [reached]; rfl)
    refine ⟨fun _ h held => ?_, fun _ _ => Main.noConfusion, fun _ port result moving => ?_⟩
    · obtain rfl := Option.some.inj held
      exact HandleStatus.noConfusion
    · cases waiting.symm.trans moving
  | @settleLocal h g result owns _ reached =>
    refine ⟨before.status, fun _ result' moving h' held => ?_, before.settle⟩
    obtain ⟨canceling, -⟩ := Main.moving.inj moving
    exact isCanceling_status owns canceling held
  | @settleAsk h port result _ owns reached =>
    refine ⟨before.status, before.main, fun _ port' result' moving h' held => ?_⟩
    obtain ⟨-, canceling, -⟩ := Settle.moving.inj moving
    exact isCanceling_status owns canceling held
  | @mark h i reply _ found owns _ status becomes =>
    -- An executing goal may begin to be canceled here, but no goal ceases to be.
    have kept : h.status ≠ .ended → status ≠ .ended := by
      rw [becomes]
      split
      · exact fun _ => HandleStatus.noConfusion
      · exact id
    have still : h.status = .canceling → status = .canceling := by
      intro canceling
      rw [becomes, canceling, ite_self]
    refine ⟨fun none h' held => ?_, fun none result moving h' held => ?_,
      fun none port result moving h' held => ?_⟩
    all_goals obtain rfl := Option.some.inj held
    · exact kept (before.status none h owns)
    · exact still (before.main none result moving h owns)
    · exact still (before.settle none port result moving h owns)
  | transition | settleMove => exact open_of_given given_terminate
  | @decide h g o =>
    refine before.frame rfl id (fun result moving => ?_) fun _ _ => id
    rcases planDecision_cases node g o h.isCanceling with ⟨-, -, submits⟩ | ⟨result', ends, -⟩
    · cases submits.symm.trans moving
    · cases ends.symm.trans moving
  | @settleTake port =>
    obtain ⟨-, handle, main, log⟩ := erase_rest (s := s) port
    refine before.frame handle (fun none => ?_) (fun _ moving => main ▸ moving) fun _ _ => Settle.noConfusion
    rw [terminalPorts, ← log]
    exact none
  | planned | hand | backendHand | submitAccept | submitReject | recancel | refuseExecute | admitExecute =>
    exact before.frame rfl given_record (fun _ => Main.noConfusion) fun _ _ => id
  | cancelPlan => exact before.frame rfl given_record (fun _ => id) fun _ _ => id
  | cancelSend | backendCancelSend =>
    exact before.frame rfl (fun none => given_record (given_record none)) (fun _ => id) fun _ _ => id
  | cancel | cancelMiss | cancelLatch | backendCancelLook =>
    exact before.frame rfl id (fun _ => id) fun _ _ => id
  | settle | settleMiss => exact before.frame rfl id (fun _ => id) fun _ _ => Settle.noConfusion
  | _ => exact before.frame rfl id (fun _ => Main.noConfusion) fun _ _ => id

theorem open_new : Open {} :=
  ⟨fun _ _ held => (Option.not_mem_none _ held).elim, fun _ _ => Main.noConfusion, fun _ _ _ => Settle.noConfusion⟩

theorem owned_of_settle (settling : s.Settling) {port : Port} {canceling : Bool} {result : TrajectoryResult}
    (reached : s.settle = .moving port canceling result) : ∃ h, s.handle = some h := by
  cases held : s.handle with
  | some h => exact ⟨h, rfl⟩
  | none =>
    have early : s.main.early = true := by rw [settling.early, held]; rfl
    cases (waiting_of_early settling early).symm.trans reached

/-- A terminal call comes to a goal that has got none, with a status that takes it. -/
theorem call_taken (step : GoalStep node contact s act t) (settling : s.Settling) (before : Open s)
    {call : TerminalCall} {dropped : Bool} (makes : s.calls? act = some (call, dropped)) :
    ∃ h, s.handle = some h ∧ h.status.takes call = true := by
  cases step with
  | @transition h canceling result _ owns reached =>
    simp only [calls?, reached, Option.some.injEq, Prod.mk.injEq] at makes
    obtain ⟨rfl, -⟩ := makes
    have settlement := settling.owned owns
    have given : s.terminalPorts = [] := by
      rw [settlement.given, (settlement.unhanded .held (by rw [reached]; rfl)).2]
      rfl
    refine ⟨h, owns, takes_of_open (before.status given h owns) fun asked => ?_⟩
    exact before.main given result (asked ▸ reached) h owns
  | @settleMove port canceling result _ reached =>
    simp only [calls?, reached, Option.some.injEq, Prod.mk.injEq] at makes
    obtain ⟨rfl, -⟩ := makes
    obtain ⟨h, owns⟩ := owned_of_settle settling reached
    have settlement := settling.owned owns
    have given : s.terminalPorts = [] := by
      rw [settlement.given, (settlement.settling reached rfl).2.1]
      rfl
    refine ⟨h, owns, takes_of_open (before.status given h owns) fun asked => ?_⟩
    exact before.settle given port result (asked ▸ reached) h owns
  | settleTake reached | settleMiss reached | settleAsk _ reached => simp [calls?, reached] at makes
  | plan _ own =>
    cases act with
    | main | armState | planner => cases makes
    | _ => cases own
  | _ => cases makes

/-! ### Calls that land -/

/-- No terminal call has been dropped, so a goal that has got one has ended. -/
structure Landed (s : GoalState) : Prop where
  kept : ∀ e ∈ s.log, e.isDropped = false
  status : s.terminalPorts ≠ [] → ∀ h ∈ s.handle, h.status = .ended

theorem given_of_mem {e : Event} {port : Port} (member : e ∈ s.log) (ends : e.terminalPort? = some port) :
    s.terminalPorts ≠ [] :=
  List.ne_nil_of_mem (List.mem_filterMap.mpr ⟨e, member, ends⟩)

theorem Landed.frame (before : Landed s) (handle : t.handle = s.handle)
    (log : ∀ e ∈ t.log, e ∈ s.log ∨ e.terminalPort? = none) : Landed t := by
  refine ⟨fun e member => ?_, fun given h held => ?_⟩
  · rcases log e member with old | quiet
    · exact before.kept e old
    · cases e with
      | terminal => cases quiet
      | _ => rfl
  · obtain ⟨port, member⟩ := List.exists_mem_of_ne_nil _ given
    obtain ⟨e, member, ends⟩ := List.mem_filterMap.mp member
    have old : e ∈ s.log := (log e member).resolve_right fun quiet => by cases quiet.symm.trans ends
    exact before.status (given_of_mem old ends) h (handle ▸ held)

theorem mem_record {e e' : Event} (quiet : e.terminalPort? = none) (member : e' ∈ (s.record e).log) :
    e' ∈ s.log ∨ e'.terminalPort? = none := by
  rcases List.mem_append.mp member with old | new
  · exact Or.inl old
  · obtain rfl := List.mem_singleton.mp new
    exact Or.inr quiet

theorem landed_terminate {port : Port} {canceling : Bool} {result : TrajectoryResult} (before : Landed s) :
    Landed (s.terminate port canceling result false) := by
  refine ⟨fun e member => ?_, fun _ h held => ?_⟩
  · rcases List.mem_append.mp member with old | new
    · exact before.kept e old
    · obtain rfl := List.mem_singleton.mp new
      rfl
  · obtain ⟨h', -, rfl⟩ := Option.map_eq_some_iff.mp held
    rfl

/-- While rclcpp drops no call that the goal's status takes, all of them land. -/
theorem landed_step (step : GoalStep node contact s act t) (settling : s.Settling) (opened : Open s)
    (fair : s.dropsFairly act = true) (before : Landed s) : Landed t := by
  have lands : ∀ call dropped, s.calls? act = some (call, dropped) → dropped = false := by
    intro call dropped makes
    refine Bool.eq_false_iff.mpr fun yes => ?_
    obtain ⟨h, owns, taken⟩ := call_taken step settling opened makes
    simp [dropsFairly, makes, yes, owns, taken] at fair
  cases step with
  | @transition h canceling result dropped owns reached =>
    obtain rfl : dropped = false := lands (terminalCall canceling result) dropped (by simp [calls?, reached])
    exact (landed_terminate before).frame rfl fun _ => Or.inl
  | @settleMove port canceling result dropped reached =>
    obtain rfl : dropped = false := lands (terminalCall canceling result) dropped (by simp [calls?, reached])
    exact (landed_terminate before).frame rfl fun _ => Or.inl
  | @accept goal reached =>
    refine ⟨before.kept, fun given => ?_⟩
    have fresh : Settlement .backend s := settling.settlement .backend fun h held => by
      have early := settling.early
      rw [reached, Option.mem_def.mp held] at early
      cases early
    refine (given (fresh.given.trans ?_)).elim
    rw [(fresh.unhanded .fresh (by rw [reached]; rfl)).2]
    rfl
  | @mark h i reply _ found owns _ status becomes =>
    refine ⟨before.kept, fun given h' held => ?_⟩
    obtain rfl := Option.some.inj held
    have ended := before.status given h owns
    rw [becomes, ended]
    simp
  | @settleTake port =>
    obtain ⟨-, handle, -, log⟩ := erase_rest (s := s) port
    exact before.frame handle fun e member => Or.inl (log ▸ member)
  | planned | hand | backendHand | submitAccept | submitReject | recancel | refuseExecute | admitExecute
  | cancelPlan =>
    exact before.frame rfl fun _ => mem_record rfl
  | cancelSend | backendCancelSend =>
    refine before.frame rfl fun e member => ?_
    rcases mem_record rfl member with sent | quiet
    · exact mem_record rfl sent
    · exact Or.inr quiet
  | _ => exact before.frame rfl fun _ => Or.inl

theorem landed_new : Landed {} := ⟨fun _ member => (List.not_mem_nil member).elim, fun given => (given rfl).elim⟩

end GoalState

/-! ### The node -/

namespace System
variable {node : Node} {acts : List Action} {s : System}

theorem opened (h : run (System.step node) System.init acts = some s) (id : GoalId) : (s.goal id).Open := by
  have start : (System.init.goal id).Settling ∧ (System.init.goal id).Open :=
    ⟨GoalState.settling_new, GoalState.open_new⟩
  have both : (s.goal id).Settling ∧ (s.goal id).Open := by
    refine @goal_invariant node (fun s => s.Settling ∧ s.Open) (fun _ _ _ _ before taken => ?_) acts _ s id
      start h
    have step := GoalState.step_cases taken
    exact ⟨GoalState.settling_step step before.1, GoalState.open_step step before.1 before.2⟩
  exact both.2

theorem landed (h : run (System.step node) System.init acts = some s) (id : GoalId)
    (fair : Meets (System.step node) (OnGoal id fun _ s act => s.dropsFairly act) System.init acts) :
    (s.goal id).Landed := by
  have start : ((System.init.goal id).Settling ∧ (System.init.goal id).Open) ∧ (System.init.goal id).Landed :=
    ⟨⟨GoalState.settling_new, GoalState.open_new⟩, GoalState.landed_new⟩
  have all : ((s.goal id).Settling ∧ (s.goal id).Open) ∧ (s.goal id).Landed := by
    refine @goal_invariant_of_meets node (fun s => (s.Settling ∧ s.Open) ∧ s.Landed) id _
      (fun _ _ _ _ before fair taken => ?_) acts _ s start fair h
    obtain ⟨⟨settling, opened⟩, landed⟩ := before
    have step := GoalState.step_cases taken
    exact ⟨⟨GoalState.settling_step step settling, GoalState.open_step step settling opened⟩,
      GoalState.landed_step step settling opened fair landed⟩
  exact all.2

end System

/-- A goal's terminal call comes with a status that takes it, whatever cancels come between, so `terminal`
has nothing to catch: while rclcpp drops no call that the status takes it drops none, and a goal that is
through has ended for its client. -/
theorem terminal_calls_taken (node : Node) (acts : List Action) (s : System) (id : GoalId)
    (ran : run (System.step node) System.init acts = some s) :
    (∀ act t call dropped, s.step node (.goal id act) = some t →
      (s.goal id).calls? act = some (call, dropped) →
        ∃ h, s.handle id = some h ∧ h.status.takes call = true) ∧
    (Meets (System.step node) (System.OnGoal id fun _ s act => s.dropsFairly act) System.init acts →
      (∀ e ∈ s.log id, e.isDropped = false) ∧
        ∀ h, s.handle id = some h → (s.goal id).completed = true → h.status = .ended) := by
  have settling : (s.goal id).Settling := System.settling ran id
  constructor
  · intro act t call dropped taken makes
    exact GoalState.call_taken (GoalState.step_cases (System.own_step taken)) settling (System.opened ran id) makes
  · intro fair
    have landed := System.landed ran id fair
    refine ⟨landed.kept, fun h owns completed => landed.status ?_ h owns⟩
    have mine : (s.goal id).handle = some h := owns
    have given := (settling.owned mine).given
    rw [GoalState.completed_through completed] at given
    rw [given]
    exact List.cons_ne_nil _ _

/-- The Supervisor's `settle` has read that the goal is not being canceled when a cancel is accepted. -/
def benchCanceledLate : List GoalAction :=
  benchAccept ++ benchPlanning ++
  [.planner benchReply, .main, .main, .main, .submit .accept, .main, .main, .main,
    .settle { errorCode := ResultCode.kSuccessful }, .settleStep false, .settleStep false, .cancel,
    .cancelStep 0 .accept, .cancelStep 0 .accept, .cancelStep 0 .accept]

theorem terminal_calls_taken_benchCanceledLate : ∃ s t,
    run (System.step benchNode) System.init (bench benchCanceledLate) = some s ∧
      s.step benchNode (.goal benchId (.settleStep false)) = some t ∧
      (s.handle benchId).map (·.status) = some .canceling ∧
      (t.handle benchId).map (·.status) = some .ended := by
  obtain ⟨s, ran, reached⟩ := run_reaches (System.step benchNode) System.init (bench benchCanceledLate)
    (fun s => decide ((s.handle benchId).map (·.status) = some .canceling) &&
      (s.step benchNode (.goal benchId (.settleStep false))).any fun t =>
        (t.goal benchId).completed && (t.handle benchId).isSome)
    (by decide +kernel)
  simp only [Bool.and_eq_true, decide_eq_true_eq] at reached
  obtain ⟨canceling, through⟩ := reached
  obtain ⟨t, taken, ended⟩ := (Option.any_eq_true _ _).mp through
  obtain ⟨completed, owned⟩ := Bool.and_eq_true_iff.mp ended
  obtain ⟨h, owns⟩ := Option.isSome_iff_exists.mp owned
  have whole : run (System.step benchNode) System.init
      (bench (benchCanceledLate ++ [.settleStep false])) = some t := by
    rw [bench, List.map_append]
    exact run_append.mpr ⟨s, ran, run_single.mpr taken⟩
  have ended := ((terminal_calls_taken benchNode _ t benchId whole).2 (by decide +kernel)).2 h owns completed
  exact ⟨s, t, ran, taken, canceling, by rw [owns, Option.map_some, ended]⟩

end KinovaGen3
