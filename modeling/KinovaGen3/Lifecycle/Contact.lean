import KinovaGen3.Lifecycle.Ending

/-!
A contact stop that latches while a goal is planning. The node looks at the contact state when it
admits a goal and again after the sink has refused its plan, so a stop that is cleared before the plan
is submitted is not seen at all.
-/

namespace KinovaGen3
open Transition

/-- The goal is accepted and its plan has not reached `on_plan_done`. -/
def Main.preparing : Main → Bool
  | accepted | recorded | planning _ => true
  | _ => false

theorem contactRejection_isSome (c : ContactState) : (contactRejection c).isSome = c.stopped := by
  unfold contactRejection
  cases c.stopped <;> rfl

namespace GoalState

def refusesStopped (contact : ContactState) (_ : GoalState) (act : GoalAction) : Bool :=
  match act with
  | .submit answer => !contact.stopped || answer = .reject
  | _ => true

def acceptsCleared (contact : ContactState) (_ : GoalState) (act : GoalAction) : Bool :=
  match act with
  | .submit answer => contact.stopped || answer = .accept
  | _ => true

/-- The steps at which the node notices a contact stop: the stop is still latched when the goal's
plan is submitted and when the node asks why it was refused. -/
def stopLasts (contact : ContactState) (s : GoalState) (act : GoalAction) : Bool :=
  match act, s.main with
  | .submit _, _ => contact.stopped
  | .main, .refused => contact.stopped
  | _, _ => true

structure Undecided (g : MoveGoal) (s : GoalState) : Prop where
  goal : ∃ status, s.handle = some ⟨.move g, status⟩
  main : s.main = .accepted ∨ s.main.pending = true

def StopCode (result : TrajectoryResult) : Prop :=
  result.errorCode = ResultCode.kContactStop ∨ result.errorCode = ResultCode.kPreempted ∨
    result.errorCode = ResultCode.kPlanningFailed

def StoppedHere (s : GoalState) : Prop :=
  s.handed = false ∧ ∃ result, s.terminalResults = [result] ∧ StopCode result

variable {node : Node} {contact : ContactState} {s t : GoalState} {g : MoveGoal} {act : GoalAction}

theorem undecided_step (step : GoalStep node contact s act t) (settling : Settling s)
    (h : Undecided g s) :
    Undecided g t ∨ Submitted t ∨ ∃ result, Ends result t ∧ StopCode result := by
  obtain ⟨status, owns⟩ := h.goal
  rcases h.main with accepted | pending
  · have settlement : Settlement (.move g.server) s := settling.owned owns
    obtain ⟨handed, -⟩ := settlement.unhanded .fresh (by rw [accepted]; rfl)
    cases other : act.aside with
    | true =>
      have aside := aside_step step handed (settlement.waiting handed) other
      exact Or.inl ⟨aside.goal g status owns, Or.inl (aside.main.trans accepted)⟩
    | false =>
      cases step with
      | record => exact Or.inl ⟨h.goal, Or.inr rfl⟩
      | backendRecord handle => cases owns.symm.trans handle
      | cancel | cancelMiss | cancelLatch | backendCancelLook | cancelPlan | cancelSend
      | backendCancelSend | mark | settle | settleTake | settleMiss | settleAsk | settleMove =>
        cases other
      | _ => simp_all
  · obtain ⟨here, found⟩ := settling.pending owns pending
    obtain ⟨entry, found⟩ := Option.isSome_iff_exists.mp found
    rcases pending_step step here found with ⟨later, -⟩ | ⟨o, status, -, -, -, rfl⟩
    · exact Or.inl ⟨later.goal, Or.inr later.main⟩
    · obtain ⟨-, submitted⟩ | ⟨result, ends, code⟩ := planDecision_ends node o
        (GoalHandle.isCanceling ⟨.move g, status⟩) here
      · exact Or.inr (Or.inl submitted)
      · refine Or.inr (Or.inr ⟨result, ends, Or.inr ?_⟩)
        rw [code]
        split
        · exact Or.inl rfl
        · exact Or.inr rfl

theorem submitted_stopped (step : GoalStep node contact s act t) (h : Submitted s)
    (refuses : s.refusesStopped contact act = true) (lasts : s.stopLasts contact act = true) :
    Submitted t ∨ ∃ result, Ends result t ∧ StopCode result := by
  rcases submitted_step step h with ⟨submitted, -⟩ | ⟨rfl, -⟩ | ⟨rfl, reached, result, ends, code⟩
  · exact Or.inl submitted
  · rw [show s.stopLasts contact (.submit .accept) = contact.stopped from rfl] at lasts
    simp [refusesStopped, lasts] at refuses
  · refine Or.inr ⟨result, ends, Or.inl ?_⟩
    have stopped : contact.stopped = true := by simpa [stopLasts, reached] using lasts
    rw [code, contactRejection_isSome, stopped, if_pos rfl]

/-- Where the stop does not last the goal moves, or ends as an invalid one. -/
theorem stopLasts_broken (step : GoalStep node contact s act t) (settling : Settling s)
    {status : HandleStatus} (owns : s.handle = some ⟨.move g, status⟩)
    (accepts : s.acceptsCleared contact act = true) (broken : s.stopLasts contact act = false) :
    Handing t ∨ ∃ result, Ends result t ∧ result.errorCode = ResultCode.kInvalidGoal := by
  unfold stopLasts at broken
  split at broken
  · rename_i answer
    have accepted : answer = .accept := by simpa [acceptsCleared, broken] using accepts
    subst accepted
    cases step with
    | submitAccept _ reached =>
      have submitted := settling.submitted owns (by rw [reached]; rfl)
      exact Or.inl ⟨fun _ => rfl, fun _ => submitted.settle⟩
    | plan _ own => cases own
  · rename_i refused
    have submitted := settling.submitted owns (by rw [refused]; rfl)
    rcases submitted_step step submitted with ⟨-, stays⟩ | ⟨⟨⟩, -⟩ | ⟨-, -, result, ends, code⟩
    · exact (stays rfl refused).elim
    · refine Or.inr ⟨result, ends, ?_⟩
      rw [code, contactRejection_isSome, broken]
      rfl
  · cases broken

/-- The goal has gone no other way than the stop leaves it. -/
def StopBound (g : MoveGoal) (s : GoalState) : Prop :=
  Undecided g s ∨ Submitted s ∨ ∃ result, Ends result s ∧ StopCode result

theorem stopBound_step (step : GoalStep node contact s act t) (settling : Settling s)
    (h : StopBound g s) (refuses : s.refusesStopped contact act = true)
    (lasts : s.stopLasts contact act = true) : StopBound g t := by
  rcases h with undecided | submitted | ⟨result, ends, code⟩
  · exact undecided_step step settling undecided
  · exact Or.inr (submitted_stopped step submitted refuses lasts)
  · exact Or.inr (Or.inr ⟨result, ends_step step ends, code⟩)

theorem Undecided.quiet (h : Undecided g s) (settling : Settling s) :
    s.handed = false ∧ s.terminalResults = [] ∧ s.completed = false := by
  obtain ⟨status, owns⟩ := h.goal
  rcases h.main with accepted | pending
  · have settlement : Settlement (.move g.server) s := settling.owned owns
    obtain ⟨handed, fresh⟩ := settlement.unhanded .fresh (by rw [accepted]; rfl)
    refine ⟨handed, terminalResults_nil ?_, ?_⟩
    · rw [settlement.given, fresh]
      rfl
    · simp [completed, handed, accepted, Main.isFinished]
  · obtain ⟨pending, -⟩ := settling.pending owns pending
    exact ⟨pending.handed, pending.results, pending.not_completed⟩

theorem StopBound.unmoved (h : StopBound g s) (settling : Settling s) :
    s.handed = false ∧ ∀ result ∈ s.terminalResults, StopCode result := by
  rcases h with undecided | submitted | ⟨result, ends, code⟩
  · obtain ⟨handed, results, -⟩ := undecided.quiet settling
    exact ⟨handed, by rw [results]; exact nofun⟩
  · exact ⟨submitted.handed, by rw [submitted.results]; exact nofun⟩
  · exact ⟨ends.handed, fun r given => by rwa [ends.results r given]⟩

theorem StopBound.stoppedHere (h : StopBound g s) (settling : Settling s)
    (completed : s.completed = true) : StoppedHere s := by
  rcases h with undecided | submitted | ⟨result, ends, code⟩
  · cases (undecided.quiet settling).2.2.symm.trans completed
  · cases submitted.not_completed.symm.trans completed
  · exact ⟨ends.handed, result, ends.completed completed, code⟩

def StopMissed (s : GoalState) : Prop :=
  Handing s ∨ ∃ result, Ends result s ∧ result.errorCode = ResultCode.kInvalidGoal

theorem stopMissed_step (step : GoalStep node contact s act t) (h : StopMissed s) : StopMissed t := by
  rcases h with handing | ⟨result, ends, code⟩
  · exact Or.inl (handing_step step handing)
  · exact Or.inr ⟨result, ends_step step ends, code⟩

theorem StopMissed.not_stoppedHere (h : StopMissed s) (completed : s.completed = true) :
    ¬ StoppedHere s := by
  intro ⟨unhanded, result, given, code⟩
  rcases h with handing | ⟨other, ends, invalid⟩
  · cases unhanded.symm.trans (handing.completed completed)
  · rw [ends.completed completed] at given
    obtain rfl := List.singleton_inj.mp given
    rw [StopCode, invalid] at code
    revert code
    decide

/-- The goal under its handle is the move goal, and has gone no other way than the stop leaves it. -/
structure StopKept (g : MoveGoal) (s : GoalState) : Prop where
  settling : Settling s
  goal : ∃ handle ∈ s.handle, handle.goal = .move g
  bound : StopBound g s

theorem stopKept_step (step : GoalStep node contact s act t) (h : StopKept g s)
    (refuses : s.refusesStopped contact act = true) (lasts : s.stopLasts contact act = true) :
    StopKept g t := by
  obtain ⟨handle, owns, goal⟩ := h.goal
  obtain ⟨later, owned, same⟩ := handle_goal step h.settling.early handle owns
  exact ⟨settling_step step h.settling, ⟨later, owned, same.trans goal⟩,
    stopBound_step step h.settling h.bound refuses lasts⟩

theorem stopKept_missed (step : GoalStep node contact s act t) (h : StopKept g s)
    (accepts : s.acceptsCleared contact act = true) (broken : s.stopLasts contact act = false) :
    StopMissed t := by
  obtain ⟨⟨goal, status⟩, owns, rfl⟩ := h.goal
  exact stopLasts_broken step h.settling owns accepts broken

end GoalState

/-- A goal that is still planning, as when a contact stop latches, does not survive the stop in the
runs in which the stop lasts until its plan is submitted and refused, and in no others. -/
theorem contact_stop_ends (node : Node) (before acts : List Action) (s t : System) (id : GoalId)
    (g : MoveGoal) (status : HandleStatus) (front : run (System.step node) System.init before = some s)
    (accepted : s.handle id = some ⟨.move g, status⟩) (preparing : (s.main id).preparing = true)
    (refuses : Meets (System.step node) (System.OnGoal id GoalState.refusesStopped) s acts)
    (h : run (System.step node) s acts = some t) :
    (Meets (System.step node) (System.OnGoal id GoalState.stopLasts) s acts →
      (t.goal id).handed = false ∧ ∀ result ∈ (t.goal id).terminalResults, GoalState.StopCode result) ∧
    ((t.goal id).completed = true →
      Meets (System.step node) (System.OnGoal id GoalState.acceptsCleared) s acts →
      ((t.goal id).StoppedHere ↔
        Meets (System.step node) (System.OnGoal id GoalState.stopLasts) s acts)) := by
  have start : (s.goal id).StopKept g := by
    refine ⟨System.settling front id, ⟨_, accepted, rfl⟩, Or.inl ⟨⟨status, accepted⟩, ?_⟩⟩
    rw [show (s.goal id).main = s.main id from rfl]
    cases shown : s.main id with
    | accepted => exact Or.inl rfl
    | recorded | planning => exact Or.inr rfl
    | _ => rw [shown] at preparing; cases preparing
  have kept : Meets (System.step node) (System.OnGoal id GoalState.stopLasts) s acts →
      (t.goal id).StopKept g := by
    intro lasts
    refine System.goal_invariant_of_meets (fun _ _ _ _ held allowed taken => ?_) start
      (System.meets_onGoal_and.mpr ⟨refuses, lasts⟩) h
    obtain ⟨refuses, lasts⟩ := Bool.and_eq_true_iff.mp allowed
    exact GoalState.stopKept_step (GoalState.step_cases taken) held refuses lasts
  refine ⟨fun lasts => (kept lasts).bound.unmoved (kept lasts).settling, fun completed accepts =>
    ⟨fun stopped => ?_, fun lasts => (kept lasts).bound.stoppedHere (kept lasts).settling completed⟩⟩
  have ways := @System.goal_dichotomy node (GoalState.StopKept g) GoalState.StopMissed id
    (fun contact s act => s.refusesStopped contact act && s.acceptsCleared contact act)
    GoalState.stopLasts
    (fun _ _ _ _ held guarded lasts taken => GoalState.stopKept_step (GoalState.step_cases taken) held
      (Bool.and_eq_true_iff.mp guarded).1 lasts)
    (fun _ _ _ _ held guarded broken taken => GoalState.stopKept_missed (GoalState.step_cases taken)
      held (Bool.and_eq_true_iff.mp guarded).2 broken)
    (fun _ _ _ _ missed taken => GoalState.stopMissed_step (GoalState.step_cases taken) missed)
    acts s t start (System.meets_onGoal_and.mpr ⟨refuses, accepts⟩) h
  rcases ways with ⟨lasts, -⟩ | ⟨-, missed⟩
  · exact lasts
  · exact (missed.not_stoppedHere completed stopped).elim

/-! ### At the bench -/

def benchStop : ContactState := { enabled := true, phase := .latched }

def benchStopped (s : System) : Bool :=
  (match s.handle benchId with
    | some ⟨.move (.jointConfig _), _⟩ => true
    | _ => false) &&
  (s.main benchId).preparing && s.contact.stopped

theorem benchStopped_spec {s : System} (h : benchStopped s = true) :
    ∃ g status, s.handle benchId = some ⟨.move (.jointConfig g), status⟩ ∧
      (s.main benchId).preparing = true ∧ s.contact.stopped = true := by
  simp only [benchStopped, Bool.and_eq_true] at h
  obtain ⟨⟨goal, preparing⟩, stopped⟩ := h
  split at goal
  · exact ⟨_, _, ‹_›, preparing, stopped⟩
  · cases goal

def benchTrip : List Action := bench (benchAccept ++ benchPlanning) ++ [.contact benchStop]

def benchStopLasts : List Action :=
  bench [.planner benchReply, .main, .main, .main, .submit .reject, .main, .main, .transition false,
    .main]

theorem contact_stop_ends_benchStopLasts : ∃ s t,
    run (System.step benchNode) System.init benchTrip = some s ∧ s.contact.stopped = true ∧
      run (System.step benchNode) s benchStopLasts = some t ∧ (t.goal benchId).StoppedHere := by
  obtain ⟨s, front, reached⟩ := run_reaches (System.step benchNode) System.init benchTrip
    (fun s => benchStopped s &&
      (run (System.step benchNode) s benchStopLasts).any (fun t => (t.goal benchId).completed) &&
      decide (Meets (System.step benchNode) (System.OnGoal benchId GoalState.refusesStopped) s
        benchStopLasts) &&
      decide (Meets (System.step benchNode) (System.OnGoal benchId GoalState.acceptsCleared) s
        benchStopLasts) &&
      decide (Meets (System.step benchNode) (System.OnGoal benchId GoalState.stopLasts) s
        benchStopLasts)) (by decide +kernel)
  simp only [Bool.and_eq_true, decide_eq_true_eq] at reached
  obtain ⟨⟨⟨⟨stopped, ends⟩, refuses⟩, accepts⟩, lasts⟩ := reached
  obtain ⟨g, status, accepted, preparing, stopped⟩ := benchStopped_spec stopped
  obtain ⟨t, back, completed⟩ := run_reaches _ _ _ _ ends
  exact ⟨s, t, front, stopped, back, ((contact_stop_ends benchNode _ _ s t benchId (.jointConfig g)
    status front accepted preparing refuses back).2 completed accepts).mpr lasts⟩

/-- The stop is cleared before the plan comes back. -/
def benchStopCleared : List Action :=
  .contact {} :: bench [.planner benchReply, .main, .main, .main, .submit .accept, .main, .main, .main]

theorem contact_stop_survived : ¬ ∀ (node : Node) (before acts : List Action) (s t : System)
    (id : GoalId) (g : MoveGoal) (status : HandleStatus),
    run (System.step node) System.init before = some s → s.handle id = some ⟨.move g, status⟩ →
    (s.main id).preparing = true → s.contact.stopped = true →
    Meets (System.step node) (System.OnGoal id GoalState.refusesStopped) s acts →
    run (System.step node) s acts = some t → (t.goal id).handed = false := by
  intro unhandedAfterStop
  obtain ⟨s, front, reached⟩ := run_reaches (System.step benchNode) System.init benchTrip
    (fun s => benchStopped s &&
      (run (System.step benchNode) s benchStopCleared).any (fun t => (t.goal benchId).handed) &&
      decide (Meets (System.step benchNode) (System.OnGoal benchId GoalState.refusesStopped) s
        benchStopCleared)) (by decide +kernel)
  simp only [Bool.and_eq_true, decide_eq_true_eq] at reached
  obtain ⟨⟨stopped, moves⟩, refuses⟩ := reached
  obtain ⟨g, status, accepted, preparing, stopped⟩ := benchStopped_spec stopped
  obtain ⟨t, back, handed⟩ := run_reaches _ _ _ _ moves
  have unhanded := unhandedAfterStop benchNode _ _ s t benchId (.jointConfig g) status front accepted preparing
    stopped refuses back
  exact Bool.false_ne_true (unhanded.symm.trans handed)

end KinovaGen3
