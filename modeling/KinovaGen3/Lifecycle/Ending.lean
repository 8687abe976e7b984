import KinovaGen3.Lifecycle.Settlement

/-!
How a move goal leaves planning: it stays pending until `on_plan_done` decides, and then it is ended
by this node with one result, or it is on its way to the Supervisor.
-/

namespace KinovaGen3
open Transition

/-- The goal is recorded and `on_plan_done` has not decided about it. -/
def Main.pending : Main → Bool
  | recorded | planning _ | begun _ | found _ => true
  | _ => false

/-- With the executor here and these results given so far, `result` is the goal's only one. -/
def Main.ends (result : TrajectoryResult) : Main → List TrajectoryResult → Prop
  | settling r, given | moving _ r, given => r = result ∧ given = []
  | erasing, given | finished, given => given = [result]
  | _, _ => False

def Main.submitted : Main → Bool
  | submitting _ | refused => true
  | _ => false

def Main.handing? : Main → Bool
  | validated _ | registering _ | handing _ => true
  | _ => false

def Event.terminalResult? : Event → Option TrajectoryResult
  | terminal _ _ result _ => some result
  | _ => none

namespace GoalState

def terminalResults (s : GoalState) : List TrajectoryResult := s.log.filterMap Event.terminalResult?

structure Pending (g : MoveGoal) (s : GoalState) : Prop where
  main : s.main.pending = true
  goal : ∃ status, s.handle = some ⟨.move g, status⟩
  handed : s.handed = false
  settle : s.settle = .waiting
  results : s.terminalResults = []

/-- `settle_local` was called with the result. -/
structure Ends (result : TrajectoryResult) (s : GoalState) : Prop where
  handed : s.handed = false
  settle : s.settle = .waiting
  main : s.main.ends result s.terminalResults

structure Submitted (s : GoalState) : Prop where
  main : s.main.submitted = true
  handed : s.handed = false
  settle : s.settle = .waiting
  results : s.terminalResults = []

structure Handing (s : GoalState) : Prop where
  main : s.handed = false → s.main.handing? = true
  settle : s.handed = false → s.settle = .waiting

variable {node : Node} {contact : ContactState} {s t : GoalState} {g : MoveGoal}
  {result : TrajectoryResult} {act : GoalAction}

@[simp] theorem record_terminalResults (e : Event) :
    (s.record e).terminalResults = s.terminalResults ++ e.terminalResult?.toList := by
  cases shown : e.terminalResult? <;> simp [record, terminalResults, shown]

@[simp] theorem terminate_terminalResults {port : Port} {asked dropped : Bool} :
    (s.terminate port asked result dropped).terminalResults = s.terminalResults ++ [result] := by
  simp [terminate, terminalResults, Event.terminalResult?]

/-- A step of `handle_cancel` or of the Supervisor before the goal is handed over. -/
structure Aside (s t : GoalState) : Prop where
  main : t.main = s.main
  handed : t.handed = false
  settle : t.settle = .waiting
  results : t.terminalResults = s.terminalResults
  goal : ∀ g status, s.handle = some ⟨.move g, status⟩ → ∃ status', t.handle = some ⟨.move g, status'⟩
  entry : ∀ server entry, s.goals server = some entry → ∃ entry', t.goals server = some entry' ∧
    (entry.cancelRequested = true → entry'.cancelRequested = true)

theorem aside_step (step : GoalStep node contact s act t) (handed : s.handed = false)
    (settle : s.settle = .waiting)
    (other : act.aside = true) : Aside s t := by
  have same : ∀ server entry, s.goals server = some entry → ∃ entry', s.goals server = some entry' ∧
      (entry.cancelRequested = true → entry'.cancelRequested = true) :=
    fun _ entry found => ⟨entry, found, id⟩
  cases step with
  | cancel | cancelMiss | backendCancelLook =>
    exact ⟨rfl, handed, settle, rfl, fun _ status owns => ⟨status, owns⟩, same⟩
  | cancelLatch owns reached found =>
    rename_i g status i entry answer
    refine ⟨rfl, handed, settle, rfl, fun _ status owns => ⟨status, owns⟩, fun server e held => ?_⟩
    by_cases mine : server = g.server
    · subst mine
      exact ⟨{ entry with cancelRequested := true }, by simp [storeGoal], fun _ => rfl⟩
    · exact ⟨e, by simpa [storeGoal, mine] using held, id⟩
  | cancelPlan =>
    refine ⟨rfl, ?_, settle, ?_, fun _ status owns => ⟨status, owns⟩, same⟩
    · exact (record_handed _).trans (by rw [handed]; rfl)
    · exact (record_terminalResults _).trans (List.append_nil _)
  | cancelSend | backendCancelSend =>
    refine ⟨rfl, ?_, settle, ?_, fun _ status owns => ⟨status, owns⟩, same⟩
    · exact (record_handed _).trans (by simp [handed, Event.isHandOver])
    · exact (record_terminalResults _).trans (by simp [Event.terminalResult?])
  | mark owns =>
    refine ⟨rfl, handed, settle, rfl, fun g status held => ?_, same⟩
    obtain rfl := Option.some.inj (owns.symm.trans held)
    exact ⟨_, rfl⟩
  | settle reached yes => cases handed.symm.trans yes
  | settleTake reached | settleMiss reached | settleAsk _ reached | settleMove reached =>
    cases settle.symm.trans reached
  | plan _ own => cases act <;> simp_all [GoalAction.plans, GoalAction.aside]
  | _ => cases other

theorem Pending.aside (h : Pending g s) (aside : Aside s t) : Pending g t where
  main := by rw [aside.main, h.main]
  goal := by
    obtain ⟨status, owns⟩ := h.goal
    exact aside.goal g status owns
  handed := aside.handed
  settle := aside.settle
  results := aside.results.trans h.results

theorem pending_step (step : GoalStep node contact s act t) (h : Pending g s) {entry : Goal}
    (found : s.goals g.server = some entry) :
    (Pending g t ∧ (∃ entry', t.goals g.server = some entry' ∧
        (entry.cancelRequested = true → entry'.cancelRequested = true)) ∧
      (act = .main → ∀ o, s.main ≠ .found o)) ∨
    ∃ o status, act = .main ∧ s.main = .found o ∧ s.handle = some ⟨.move g, status⟩ ∧
      t = { s with main := planDecision node g o (GoalHandle.isCanceling ⟨.move g, status⟩) } := by
  cases other : act.aside with
  | true =>
    have aside := aside_step step h.handed h.settle other
    refine Or.inl ⟨h.aside aside, aside.entry _ entry found, ?_⟩
    rintro rfl
    cases other
  | false =>
    obtain ⟨status, owns⟩ := h.goal
    have kept := h.main
    cases step with
    | start _ reached | plan reached | find _ reached =>
      refine Or.inl ⟨⟨rfl, h.goal, h.handed, h.settle, h.results⟩, ⟨entry, found, id⟩, fun _ o => ?_⟩
      rw [reached]
      exact Main.noConfusion
    | planned _ reached =>
      refine Or.inl ⟨⟨rfl, h.goal, ?_, h.settle, ?_⟩, ⟨entry, found, id⟩, fun _ o => by
        rw [reached]; exact Main.noConfusion⟩
      · exact (record_handed _).trans (by rw [h.handed]; rfl)
      · exact (record_terminalResults _).trans (by rw [h.results]; rfl)
    | lose handle reached absent =>
      cases owns.symm.trans handle
      cases absent.symm.trans found
    | decide handle goal reached =>
      cases owns.symm.trans handle
      cases goal
      exact Or.inr ⟨_, status, rfl, reached, owns, rfl⟩
    | backendHand handle => cases owns.symm.trans handle
    | cancel | cancelMiss | cancelLatch | backendCancelLook | cancelPlan | cancelSend
    | backendCancelSend | mark | settle | settleTake | settleMiss | settleAsk | settleMove =>
      cases other
    | _ => simp_all [Main.pending]

theorem planDecision_ends (node : Node) (o : Outcome) (canceled : Bool) (h : Pending g s) :
    canceled = false ∧ Submitted { s with main := planDecision node g o canceled } ∨
      ∃ result, Ends result { s with main := planDecision node g o canceled } ∧
        result.errorCode = if canceled then ResultCode.kPreempted else ResultCode.kPlanningFailed := by
  rcases planDecision_cases node g o canceled with ⟨uncanceled, -, submits⟩ | ⟨result, ends, code⟩
  · rw [submits]
    exact Or.inl ⟨uncanceled, rfl, h.handed, h.settle, h.results⟩
  · rw [ends]
    exact Or.inr ⟨result, ⟨h.handed, h.settle, rfl, h.results⟩, code⟩

theorem ends_step (step : GoalStep node contact s act t) (h : Ends result s) : Ends result t := by
  cases other : act.aside with
  | true =>
    have aside := aside_step step h.handed h.settle other
    refine ⟨aside.handed, aside.settle, ?_⟩
    rw [aside.main, aside.results]
    exact h.main
  | false =>
    have place := h.main
    cases step with
    | settleLocal _ _ reached =>
      rw [reached] at place
      exact ⟨h.handed, h.settle, place⟩
    | transition _ reached =>
      rw [reached] at place
      obtain ⟨rfl, results⟩ := place
      refine ⟨terminate_handed.trans h.handed, h.settle, ?_⟩
      exact terminate_terminalResults.trans (by rw [results]; rfl)
    | erase _ reached =>
      rw [reached] at place
      exact ⟨h.handed, h.settle, place⟩
    | cancel | cancelMiss | cancelLatch | backendCancelLook | cancelPlan | cancelSend
    | backendCancelSend | mark | settle | settleTake | settleMiss | settleAsk | settleMove =>
      cases other
    | decide _ _ reached =>
      rw [reached] at place
      exact place.elim
    | _ => simp_all [Main.ends]

/-- A submitted plan stays so, is accepted, or ends the goal with the reason it was refused for. -/
theorem submitted_step (step : GoalStep node contact s act t) (h : Submitted s) :
    Submitted t ∧ (act = .main → s.main ≠ .refused) ∨ act = .submit .accept ∧ Handing t ∨
    act = .main ∧ s.main = .refused ∧ ∃ result, Ends result t ∧ result.errorCode =
      if (contactRejection contact).isSome then ResultCode.kContactStop
      else ResultCode.kInvalidGoal := by
  cases other : act.aside with
  | true =>
    have aside := aside_step step h.handed h.settle other
    refine Or.inl ⟨⟨aside.main ▸ h.main, aside.handed, aside.settle, aside.results.trans h.results⟩, ?_⟩
    rintro rfl
    cases other
  | false =>
    have place := h.main
    cases step with
    | submitAccept =>
      exact Or.inr (Or.inl ⟨rfl, fun _ => rfl, fun _ => h.settle⟩)
    | submitReject =>
      refine Or.inl ⟨⟨rfl, ?_, h.settle, ?_⟩, nofun⟩
      · exact (record_handed _).trans (by rw [h.handed]; rfl)
      · exact (record_terminalResults _).trans (by rw [h.results]; rfl)
    | contactStop _ reached why =>
      refine Or.inr (Or.inr ⟨rfl, reached, _, ⟨h.handed, h.settle, rfl, h.results⟩, ?_⟩)
      rw [why]
      rfl
    | invalid _ reached clear =>
      refine Or.inr (Or.inr ⟨rfl, reached, _, ⟨h.handed, h.settle, rfl, h.results⟩, ?_⟩)
      rw [clear]
      rfl
    | cancel | cancelMiss | cancelLatch | backendCancelLook | cancelPlan | cancelSend
    | backendCancelSend | mark | settle | settleTake | settleMiss | settleAsk | settleMove =>
      cases other
    | _ => simp_all [Main.submitted]

theorem log_step (step : GoalStep node contact s act t) : ∃ more, t.log = s.log ++ more := by
  cases step with
  | settleTake =>
    rename_i port result reached held dropped
    exact ⟨[], (erase_rest port).2.2.2.trans (List.append_nil _).symm⟩
  | cancelSend | backendCancelSend => exact ⟨_, List.append_assoc _ [_] [_]⟩
  | transition | settleMove | refuseExecute | admitExecute | backendHand | planned | hand | recancel
  | submitAccept | submitReject | cancelPlan => exact ⟨_, rfl⟩
  | _ => exact ⟨[], (List.append_nil _).symm⟩

theorem handed_step (step : GoalStep node contact s act t) (yes : s.handed = true) :
    t.handed = true := by
  obtain ⟨more, log⟩ := log_step step
  unfold handed at yes ⊢
  rw [log, List.any_append, yes, Bool.true_or]

theorem handing_step (step : GoalStep node contact s act t) (h : Handing s) : Handing t := by
  cases handed : s.handed with
  | true =>
    have later := handed_step step handed
    exact ⟨fun no => (Bool.false_ne_true (no.symm.trans later)).elim,
      fun no => (Bool.false_ne_true (no.symm.trans later)).elim⟩
  | false =>
    have main := h.main handed
    have settle := h.settle handed
    cases other : act.aside with
    | true =>
      have aside := aside_step step handed settle other
      exact ⟨fun _ => aside.main ▸ main, fun _ => aside.settle⟩
    | false =>
      cases step with
      | execute | register => exact ⟨fun _ => rfl, fun _ => settle⟩
      | hand handle reached =>
        rename_i g status tg
        have yes : (s.record (.handedOver tg)).handed = true :=
          (record_handed _).trans (Bool.or_true _)
        exact ⟨fun no => (Bool.false_ne_true (no.symm.trans yes)).elim,
          fun no => (Bool.false_ne_true (no.symm.trans yes)).elim⟩
      | cancel | cancelMiss | cancelLatch | backendCancelLook | cancelPlan | cancelSend
      | backendCancelSend | mark | settle | settleTake | settleMiss | settleAsk | settleMove =>
        cases other
      | _ => simp_all [Main.handing?]

/-! ### What a goal that is through went through -/

theorem Ends.completed (h : Ends result s) (completed : s.completed = true) :
    s.terminalResults = [result] := by
  unfold GoalState.completed at completed
  rw [h.handed, if_neg Bool.false_ne_true] at completed
  have main := h.main
  rw [Main.eq_finished completed] at main
  exact main

theorem Ends.results (h : Ends result s) : ∀ r ∈ s.terminalResults, r = result := by
  intro r given
  have main := h.main
  unfold Main.ends at main
  split at main
  · rw [main.2] at given
    cases given
  · rw [main.2] at given
    cases given
  · rw [main] at given
    exact List.mem_singleton.mp given
  · rw [main] at given
    exact List.mem_singleton.mp given
  · exact main.elim

theorem Handing.completed (h : Handing s) (completed : s.completed = true) : s.handed = true := by
  cases handed : s.handed with
  | true => rfl
  | false =>
    unfold GoalState.completed at completed
    rw [handed, if_neg Bool.false_ne_true] at completed
    have main := h.main handed
    rw [Main.eq_finished completed] at main
    cases main

theorem Submitted.not_completed (h : Submitted s) : s.completed = false := by
  have main := h.main
  unfold GoalState.completed
  rw [h.handed, if_neg Bool.false_ne_true]
  cases shown : s.main with
  | finished => rw [shown] at main; cases main
  | _ => rfl

theorem Pending.not_completed (h : Pending g s) : s.completed = false := by
  have main := h.main
  unfold GoalState.completed
  rw [h.handed, if_neg Bool.false_ne_true]
  cases shown : s.main with
  | finished => rw [shown] at main; cases main
  | _ => rfl

theorem terminalResults_nil (h : s.terminalPorts = []) : s.terminalResults = [] := by
  refine List.filterMap_eq_nil_iff.mpr fun e member => ?_
  have quiet := List.filterMap_eq_nil_iff.mp h e member
  cases e with
  | terminal => cases quiet
  | _ => rfl

/-- What is true of a goal on the executor's way from its record to the Supervisor. -/
theorem Settling.held {status : HandleStatus} (h : Settling s)
    (owns : s.handle = some ⟨.move g, status⟩) (held : s.main.stage = .held) :
    s.handed = false ∧ s.settle = .waiting ∧ s.terminalResults = [] ∧
      (s.goals g.server).isSome = true := by
  have settlement : Settlement (.move g.server) s := h.owned owns
  obtain ⟨handed, stage⟩ := settlement.unhanded .held held
  refine ⟨handed, settlement.waiting handed, terminalResults_nil ?_, ?_⟩
  · rw [settlement.given, stage]
    rfl
  · exact (settlement.entry (.move g.server)).trans (by rw [stage]; simp [Stage.tracked])

theorem Settling.pending {status : HandleStatus} (h : Settling s)
    (owns : s.handle = some ⟨.move g, status⟩) (main : s.main.pending = true) :
    Pending g s ∧ (s.goals g.server).isSome = true := by
  have held : s.main.stage = .held := by
    cases shown : s.main with
    | recorded | planning | begun | found => rfl
    | _ => rw [shown] at main; cases main
  obtain ⟨handed, settle, results, found⟩ := h.held owns held
  exact ⟨⟨main, ⟨status, owns⟩, handed, settle, results⟩, found⟩

theorem Settling.submitted {status : HandleStatus} (h : Settling s)
    (owns : s.handle = some ⟨.move g, status⟩) (main : s.main.submitted = true) : Submitted s := by
  have held : s.main.stage = .held := by
    cases shown : s.main with
    | submitting | refused => rfl
    | _ => rw [shown] at main; cases main
  obtain ⟨handed, settle, results, -⟩ := h.held owns held
  exact ⟨main, handed, settle, results⟩

end GoalState
end KinovaGen3
