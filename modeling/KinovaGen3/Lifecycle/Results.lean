import KinovaGen3.Library.OrderedLog
import KinovaGen3.Lifecycle.Cancel
import KinovaGen3.Lifecycle.PlanningCancel

/-!
What a client is told of its goal. The Supervisor's result is passed on as it is, a goal that never
reached the Supervisor ends with a code of this node's own, and only a cancel that was accepted ends a
goal canceled.
-/

namespace KinovaGen3
open Transition OrderedLog

/-- What `settle_local` is called with: the arm has not moved for the goal. -/
structure Unmoved (result : TrajectoryResult) : Prop where
  code : result.errorCode ∈ [ResultCode.kPreempted, ResultCode.kPlanningFailed,
    ResultCode.kInvalidGoal, ResultCode.kContactStop]
  error : result.finalError = .constant (.finite 0)

def Main.local? : Main → Option TrajectoryResult
  | settling result | moving _ result => some result
  | _ => none

def Main.asked : Main → Bool
  | moving asked _ => asked
  | _ => false

def Settle.result? : Settle → Option TrajectoryResult
  | routed _ result | taken _ result | moving _ _ result => some result
  | _ => none

def Settle.asked : Settle → Bool
  | moving _ asked _ => asked
  | _ => false

def Event.call? : Event → Option (TerminalCall × TrajectoryResult)
  | terminal _ call result _ => some (call, result)
  | _ => none

def Event.accepts : Event → Bool
  | cancelAnswered reply => reply = .accept
  | _ => false

def Event.cancels : Event → Bool
  | terminal _ call _ _ => call = .canceled
  | _ => false

/-- What the Supervisor settles a goal with. -/
def GoalAction.settled? : GoalAction → Option TrajectoryResult
  | settle result => some result
  | _ => none

namespace GoalState

def calls (s : GoalState) : List (TerminalCall × TrajectoryResult) := s.log.filterMap Event.call?

/-- Something of the goal takes it to be canceled. -/
def asked (s : GoalState) : Bool :=
  s.cancels.any (·.accepted) || s.handle.any (·.isCanceling) || s.main.asked || s.settle.asked ||
    s.log.any (·.cancels)

/-- `handle_cancel` has returned `ACCEPT`. -/
def cancelAccepted (s : GoalState) : Bool := s.log.any (·.accepts)

/-- A terminal call that says what happened, with the Supervisor's results so far. -/
structure Honest (past : List TrajectoryResult) (handed : Bool) (call : TerminalCall)
    (result : TrajectoryResult) : Prop where
  succeeded : call = .succeed → result.errorCode = ResultCode.kSuccessful
  aborted : call = .abort → result.errorCode ≠ ResultCode.kSuccessful
  supervised : handed = true → result ∈ past
  unmoved : handed = false → Unmoved result

structure Told (past : List TrajectoryResult) (s : GoalState) : Prop where
  accepted : s.asked = true → s.cancelAccepted = true
  ending : ∀ result ∈ s.main.local?, Unmoved result
  settled : ∀ result ∈ s.settle.result?, result ∈ past
  calls : ∀ call result, (call, result) ∈ s.calls → Honest past s.handed call result

variable {node : Node} {contact : ContactState} {s t : GoalState} {act : GoalAction}
  {past : List TrajectoryResult}

/-! ### What asks for a cancel -/

theorem asked_iff : s.asked = true ↔ (∃ call ∈ s.cancels, call.accepted = true) ∨
    (∃ h ∈ s.handle, h.isCanceling = true) ∨ s.main.asked = true ∨ s.settle.asked = true ∨
    ∃ e ∈ s.log, e.cancels = true := by
  simp only [asked, Bool.or_eq_true, List.any_eq_true, Option.any_eq_true, or_assoc]
  rfl

theorem asked_handle {h : GoalHandle} (owns : s.handle = some h) (canceling : h.isCanceling = true) :
    s.asked = true :=
  asked_iff.mpr (Or.inr (Or.inl ⟨h, owns, canceling⟩))

/-- Where the calls to cancel are as before, each of the other parts has to have been asked. -/
theorem asked_frame (h : t.asked = true) (cancels : t.cancels = s.cancels)
    (handle : ∀ h ∈ t.handle, h.isCanceling = true → s.asked = true)
    (main : t.main.asked = true → s.asked = true) (settle : t.settle.asked = true → s.asked = true)
    (log : ∀ e ∈ t.log, e.cancels = true → s.asked = true) : s.asked = true := by
  rcases asked_iff.mp h with ⟨call, member, accepted⟩ | ⟨h, held, canceling⟩ | h | h | ⟨e, member, cancels⟩
  · exact asked_iff.mpr (Or.inl ⟨call, cancels ▸ member, accepted⟩)
  · exact handle h held canceling
  · exact main h
  · exact settle h
  · exact log e member cancels

theorem asked_parts (s : GoalState) : (∀ h ∈ s.handle, h.isCanceling = true → s.asked = true) ∧
    (s.main.asked = true → s.asked = true) ∧ (s.settle.asked = true → s.asked = true) ∧
    ∀ e ∈ s.log, e.cancels = true → s.asked = true :=
  ⟨fun _ => asked_handle, fun h => asked_iff.mpr (Or.inr (Or.inr (Or.inl h))),
    fun h => asked_iff.mpr (Or.inr (Or.inr (Or.inr (Or.inl h)))),
    fun e member h => asked_iff.mpr (Or.inr (Or.inr (Or.inr (Or.inr ⟨e, member, h⟩))))⟩

theorem asked_record {e : Event} (quiet : e.cancels = false) :
    ∀ e' ∈ (s.record e).log, e'.cancels = true → s.asked = true := by
  intro e' member cancels
  rcases List.mem_append.mp member with old | new
  · exact (asked_parts s).2.2.2 e' old cancels
  · obtain rfl := List.mem_singleton.mp new
    exact (Bool.false_ne_true (quiet.symm.trans cancels)).elim

/-- A call to cancel asks once it is accepted. -/
theorem asked_call (h : t.asked = true) {i : Nat} {new : CancelCall}
    (cancels : t.cancels = s.cancels.set i new) (handle : t.handle = s.handle) (main : t.main = s.main)
    (settle : t.settle = s.settle) (log : ∀ e ∈ t.log, e.cancels = true → e ∈ s.log) :
    s.asked = true ∨ new.accepted = true := by
  obtain ⟨handles, mains, settles, logs⟩ := asked_parts s
  rw [asked_iff, cancels, handle, main, settle] at h
  rcases h with ⟨call, member, accepted⟩ | ⟨h, held, canceling⟩ | h | h | ⟨e, member, cancels⟩
  · rcases List.mem_or_eq_of_mem_set member with old | rfl
    · exact Or.inl (asked_iff.mpr (Or.inl ⟨call, old, accepted⟩))
    · exact Or.inr accepted
  · exact Or.inl (handles h held canceling)
  · exact Or.inl (mains h)
  · exact Or.inl (settles h)
  · exact Or.inl (logs e (log e member cancels) cancels)

/-- A terminal transition asks for nothing that was not asked before. -/
theorem asked_terminate {port : Port} {canceling dropped : Bool} {result : TrajectoryResult}
    (asks : canceling = true → s.asked = true) :
    (∀ h ∈ (s.terminate port canceling result dropped).handle, h.isCanceling = true → s.asked = true) ∧
      ∀ e ∈ (s.terminate port canceling result dropped).log, e.cancels = true → s.asked = true := by
  obtain ⟨handles, -, -, logs⟩ := asked_parts s
  constructor
  · cases dropped with
    | true => exact handles
    | false =>
      intro h held canceling
      obtain ⟨before, -, rfl⟩ := Option.map_eq_some_iff.mp held
      cases canceling
  · intro e member cancels
    rcases List.mem_append.mp member with old | new
    · exact logs e old cancels
    · obtain rfl := List.mem_singleton.mp new
      apply asks
      by_contra no
      rw [Bool.eq_false_iff.mpr no] at cancels
      simp only [Event.cancels, Bool.false_eq_true, if_false] at cancels
      split at cancels <;> cases cancels

theorem asked_step (step : GoalStep node contact s act t) (h : t.asked = true) :
    s.asked = true ∨ t.cancelAccepted = true := by
  obtain ⟨handles, mains, settles, logs⟩ := asked_parts s
  have idle : false = true → s.asked = true := fun asks => (Bool.false_ne_true asks).elim
  cases step with
  | cancel =>
    rw [asked_iff] at h
    rcases h with ⟨call, member, accepted⟩ | h
    · rcases List.mem_append.mp member with old | new
      · exact Or.inl (asked_iff.mpr (Or.inl ⟨call, old, accepted⟩))
      · obtain rfl := List.mem_singleton.mp new
        cases accepted
    · exact Or.inl (asked_iff.mpr (Or.inr h))
  | cancelMiss | cancelLatch | backendCancelLook =>
    rcases asked_call h rfl rfl rfl rfl (fun _ member _ => member) with asked | accepted
    · exact Or.inl asked
    · cases accepted
  | cancelPlan | cancelSend => exact Or.inr (by simp [cancelAccepted, record, Event.accepts])
  | @backendCancelSend _ _ _ answer token =>
    cases answer with
    | accept => exact Or.inr (by simp [cancelAccepted, record, Event.accepts])
    | reject =>
      have log : ∀ e ∈ ((s.record (.cancelSent token)).record (.cancelAnswered .reject)).log,
          e.cancels = true → e ∈ s.log := by
        intro e member cancels
        simp only [record, List.append_assoc, List.mem_append, List.mem_singleton] at member
        rcases member with old | rfl | rfl
        · exact old
        · cases cancels
        · cases cancels
      rcases asked_call h rfl rfl rfl rfl log with asked | accepted
      · exact Or.inl asked
      · cases accepted
  | @mark handle i reply _ found owns there status becomes =>
    left
    have calls : reply = .accept → s.asked = true := fun accepted =>
      asked_iff.mpr (Or.inl ⟨_, List.mem_of_getElem? there, decide_eq_true accepted⟩)
    rcases asked_iff.mp h with ⟨call, member, accepted⟩ | ⟨held, marked, canceling⟩ | h
    · rcases List.mem_or_eq_of_mem_set member with old | rfl
      · exact asked_iff.mpr (Or.inl ⟨call, old, accepted⟩)
      · exact calls (of_decide_eq_true accepted)
    · cases marked
      by_cases accepted : reply = .accept
      · exact calls accepted
      · rw [if_neg fun both => accepted both.1] at becomes
        subst becomes
        exact asked_handle owns canceling
    · exact asked_iff.mpr (Or.inr (Or.inr h))
  | settleLocal owns goal reached =>
    exact Or.inl (asked_frame h rfl handles (asked_handle owns) settles logs)
  | settleAsk owns reached =>
    exact Or.inl (asked_frame h rfl handles mains (asked_handle owns) logs)
  | @transition g asks result dropped owns reached =>
    obtain ⟨handle, log⟩ := @asked_terminate s g.goal.port asks dropped result
      (fun asking : asks = true => mains (by rw [reached]; exact asking))
    exact Or.inl (asked_frame h rfl handle idle settles log)
  | @settleMove port asks result dropped reached =>
    obtain ⟨handle, log⟩ := @asked_terminate s port asks dropped result
      (fun asking : asks = true => settles (by rw [reached]; exact asking))
    exact Or.inl (asked_frame h rfl handle mains idle log)
  | @settleTake port =>
    obtain ⟨-, handle, main, log⟩ := erase_rest (s := s) port
    have cancels : (s.erase port).cancels = s.cancels := by cases port <;> rfl
    refine Or.inl (asked_frame h cancels ?_ ?_ idle ?_)
    · exact handle.symm ▸ handles
    · exact main.symm ▸ mains
    · exact log.symm ▸ logs
  | settle | settleMiss => exact Or.inl (asked_frame h rfl handles mains idle logs)
  | accept => exact Or.inl (asked_frame h rfl (by rintro _ ⟨⟩ ⟨⟩) idle settles logs)
  | @decide handle g o =>
    refine Or.inl (asked_frame h rfl handles ?_ settles logs)
    rcases planDecision_cases node g o handle.isCanceling with ⟨-, -, submits⟩ | ⟨result, ends, -⟩
    · exact submits ▸ idle
    · exact ends ▸ idle
  | refuseExecute | admitExecute | backendHand | planned | hand | recancel | submitAccept
  | submitReject => exact Or.inl (asked_frame h rfl handles idle settles (asked_record rfl))
  | _ => exact Or.inl (asked_frame h rfl handles idle settles logs)

/-! ### What is told -/

theorem unmoved_local {code : Int} {message : String} (own : code ∈ [ResultCode.kPreempted,
    ResultCode.kPlanningFailed, ResultCode.kInvalidGoal, ResultCode.kContactStop]) :
    Unmoved (localResult code message) := ⟨own, rfl⟩

theorem planDecision_unmoved {g : MoveGoal} {o : Outcome} {canceled : Bool} :
    ∀ result ∈ (planDecision node g o canceled).local?, Unmoved result := by
  intro result ends
  unfold planDecision at ends
  split at ends
  · obtain rfl := Option.some.inj ends
    cases canceled with
    | true => exact unmoved_local (by decide)
    | false => exact unmoved_local (by decide)
  · split at ends
    · obtain rfl := Option.some.inj ends
      exact unmoved_local (by decide)
    · split at ends
      · obtain rfl := Option.some.inj ends
        exact unmoved_local (by decide)
      · cases ends

theorem ending_step (step : GoalStep node contact s act t)
    (h : ∀ result ∈ s.main.local?, Unmoved result) : ∀ result ∈ t.main.local?, Unmoved result := by
  cases step with
  | decide => exact planDecision_unmoved
  | contactStop | invalid =>
    intro result ends
    obtain rfl := Option.some.inj ends
    exact unmoved_local (by decide)
  | settleLocal _ _ reached => exact fun result ends => h result (by rw [reached]; exact ends)
  | settleTake => exact (erase_rest _).2.2.1.symm ▸ h
  | cancel | cancelMiss | cancelLatch | backendCancelLook | cancelSend | cancelPlan | backendCancelSend
  | mark | settle | settleMiss | settleAsk | settleMove => exact h
  | _ => exact nofun

theorem settled_step (step : GoalStep node contact s act t)
    (h : ∀ result ∈ s.settle.result?, result ∈ past) :
    ∀ result ∈ t.settle.result?, result ∈ past ++ act.settled?.toList := by
  have kept : ∀ result ∈ s.settle.result?, result ∈ past ++ act.settled?.toList :=
    fun result settles => List.mem_append_left _ (h result settles)
  cases step with
  | settle =>
    intro result settles
    obtain rfl := Option.some.inj settles
    exact List.mem_append_right _ (List.mem_singleton_self _)
  | settleTake reached | settleAsk _ reached =>
    exact fun result settles => kept result (by rw [reached]; exact settles)
  | settleMiss | settleMove => exact nofun
  | _ => exact kept

/-! ### The terminal calls -/

@[simp] theorem record_calls (e : Event) : (s.record e).calls = s.calls ++ e.call?.toList := by
  cases shown : e.call? <;> simp [record, calls, shown]

theorem terminate_calls {port : Port} {canceling dropped : Bool} {result : TrajectoryResult} :
    ∃ call, (s.terminate port canceling result dropped).calls = s.calls ++ [(call, result)] ∧
      (call = .succeed → result.errorCode = ResultCode.kSuccessful) ∧
      (call = .abort → result.errorCode ≠ ResultCode.kSuccessful) := by
  refine ⟨_, by simp only [terminate, calls, List.filterMap_append]; rfl, ?_⟩
  cases canceling with
  | true => simp
  | false =>
    simp only [Bool.false_eq_true, if_false]
    split
    · simp [*]
    · simp [*]

theorem calls_nil (none : s.terminalPorts = []) : s.calls = [] := by
  refine List.filterMap_eq_nil_iff.mpr fun e member => ?_
  have quiet := List.filterMap_eq_nil_iff.mp none e member
  cases e with
  | terminal => cases quiet
  | _ => rfl

theorem Settling.exists_settlement (settling : Settling s) : ∃ port, Settlement port s := by
  cases owns : s.handle with
  | none => exact ⟨.backend, settling.settlement .backend (by simp [owns])⟩
  | some handle => exact ⟨_, settling.owned owns⟩

/-- A step makes no terminal call, or hands over a goal that has got none, or makes one. -/
theorem calls_step (step : GoalStep node contact s act t) (settling : Settling s) :
    (t.calls = s.calls ∧ (t.handed = s.handed ∨ s.calls = [])) ∨
    ∃ call result, t.calls = s.calls ++ [(call, result)] ∧ t.handed = s.handed ∧
      (call = .succeed → result.errorCode = ResultCode.kSuccessful) ∧
      (call = .abort → result.errorCode ≠ ResultCode.kSuccessful) ∧
      (s.handed = false ∧ result ∈ s.main.local? ∨ s.handed = true ∧ result ∈ s.settle.result?) := by
  cases step with
  | @transition g asked result dropped owns reached =>
    right
    obtain ⟨call, given, succeeded, aborted⟩ :=
      @terminate_calls s g.goal.port asked dropped result
    have unhanded := ((settling.owned owns).unhanded .held (by rw [reached]; rfl)).1
    exact ⟨call, result, given, terminate_handed, succeeded, aborted,
      Or.inl ⟨unhanded, by rw [reached]; rfl⟩⟩
  | @settleMove port asked result dropped reached =>
    right
    obtain ⟨call, given, succeeded, aborted⟩ := @terminate_calls s port asked dropped result
    obtain ⟨port', settlement⟩ := settling.exists_settlement
    have handed : s.handed = true := by
      by_contra unhanded
      have waiting := settlement.waiting (Bool.eq_false_iff.mpr unhanded)
      rw [reached] at waiting
      cases waiting
    exact ⟨call, result, given, terminate_handed, succeeded, aborted,
      Or.inr ⟨handed, by rw [reached]; rfl⟩⟩
  | hand owns reached =>
    have settlement := settling.owned owns
    have given := settlement.given
    rw [(settlement.unhanded .owned (by rw [reached]; rfl)).2] at given
    exact Or.inl ⟨(record_calls _).trans (List.append_nil _), Or.inr (calls_nil given)⟩
  | backendHand owns reached =>
    have settlement := settling.owned owns
    have given := settlement.given
    rw [(settlement.unhanded .held (by rw [reached]; rfl)).2] at given
    exact Or.inl ⟨(record_calls _).trans (List.append_nil _), Or.inr (calls_nil given)⟩
  | @settleTake port =>
    obtain ⟨-, -, -, log⟩ := @erase_rest s port
    exact Or.inl ⟨congrArg (List.filterMap _) log, Or.inl (congrArg (List.any · _) log)⟩
  | refuseExecute | admitExecute | planned | recancel | submitAccept | submitReject | cancelPlan =>
    exact Or.inl ⟨(record_calls _).trans (List.append_nil _),
      Or.inl ((record_handed _).trans (Bool.or_false _))⟩
  | cancelSend | backendCancelSend =>
    refine Or.inl ⟨?_, Or.inl ?_⟩
    · exact (record_calls _).trans (by simp [Event.call?])
    · exact (record_handed _).trans (by simp [Event.isHandOver])
  | _ => exact Or.inl ⟨rfl, Or.inl rfl⟩

theorem Honest.more {later : List TrajectoryResult} {handed : Bool} {call : TerminalCall}
    {result : TrajectoryResult} (h : Honest past handed call result) :
    Honest (past ++ later) handed call result :=
  { h with supervised := fun yes => List.mem_append_left _ (h.supervised yes) }

theorem Told.more {later : List TrajectoryResult} (h : Told past s) : Told (past ++ later) s where
  accepted := h.accepted
  ending := h.ending
  settled result settles := List.mem_append_left _ (h.settled result settles)
  calls call result given := (h.calls call result given).more

theorem told_step (step : GoalStep node contact s act t) (settling : Settling s) (h : Told past s) :
    Told (past ++ act.settled?.toList) t where
  accepted asks := by
    rcases asked_step step asks with before | accepted
    · obtain ⟨more, log⟩ := log_step step
      unfold cancelAccepted
      rw [log, List.any_append, Bool.or_eq_true]
      exact Or.inl (h.accepted before)
    · exact accepted
  ending := ending_step step h.ending
  settled := settled_step step h.settled
  calls call result given := by
    have kept : ∀ {call result}, (call, result) ∈ s.calls → t.handed = s.handed →
        Honest (past ++ act.settled?.toList) t.handed call result := by
      intro call result given handed
      rw [handed]
      exact (h.calls call result given).more
    rcases calls_step step settling with ⟨same, handed⟩ | ⟨call', result', added, handed, succeeded, aborted, source⟩
    · rw [same] at given
      rcases handed with handed | none
      · exact kept given handed
      · rw [none] at given
        cases given
    · rw [added] at given
      rcases List.mem_append.mp given with old | new
      · exact kept old handed
      · obtain ⟨rfl, rfl⟩ := Prod.mk.inj (List.mem_singleton.mp new)
        rw [handed]
        refine ⟨succeeded, aborted, fun yes => ?_, fun no => ?_⟩
        · rcases source with ⟨no, -⟩ | ⟨-, settles⟩
          · exact (Bool.false_ne_true (no.symm.trans yes)).elim
          · exact List.mem_append_left _ (h.settled _ settles)
        · rcases source with ⟨-, ends⟩ | ⟨yes, -⟩
          · exact h.ending _ ends
          · exact (Bool.false_ne_true (no.symm.trans yes)).elim

/-- A terminal transition is recorded alone. -/
theorem cancels_alone (step : GoalStep node contact s act t) :
    ∃ more, t.log = s.log ++ more ∧ ((∀ e ∈ more, e.cancels = false) ∨ ∃ e, more = [e]) := by
  cases step with
  | settleTake =>
    exact ⟨[], (erase_rest _).2.2.2.trans (List.append_nil _).symm, Or.inl (List.forall_mem_nil _)⟩
  | cancelSend | backendCancelSend =>
    refine ⟨_, List.append_assoc _ [_] [_], Or.inl fun e member => ?_⟩
    rcases List.mem_cons.mp member with rfl | last
    · rfl
    · obtain rfl := List.mem_singleton.mp last
      rfl
  | transition | settleMove | refuseExecute | admitExecute | backendHand | planned | hand | recancel
  | submitAccept | submitReject | cancelPlan => exact ⟨_, rfl, Or.inr ⟨_, rfl⟩⟩
  | _ => exact ⟨[], (List.append_nil _).symm, Or.inl (List.forall_mem_nil _)⟩

theorem accepts_iff {e : Event} : e.accepts = true ↔ e = .cancelAnswered .accept := by
  cases e <;> simp [Event.accepts]

/-- A goal ends canceled only after a cancel of it was accepted. -/
theorem canceled_after (step : GoalStep node contact s act t) (told : Told past s)
    (h : Preceded (·.cancels = true) (· = .cancelAnswered .accept) s.log) :
    Preceded (·.cancels = true) (· = .cancelAnswered .accept) t.log := by
  obtain ⟨more, log, alone⟩ := cancels_alone step
  rw [log]
  refine h.append fun e member cancels => ?_
  have here : e ∈ t.log := log ▸ List.mem_append_right _ member
  have asked : t.asked = true := (asked_parts t).2.2.2 e here cancels
  have accepted : s.cancelAccepted = true := by
    rcases asked_step step asked with before | accepted
    · exact told.accepted before
    · rcases alone with none | ⟨e', rfl⟩
      · exact (Bool.false_ne_true ((none e member).symm.trans cancels)).elim
      · obtain rfl := List.mem_singleton.mp member
        rw [cancelAccepted, log, List.any_append] at accepted
        cases e with
        | terminal => simpa [cancelAccepted, Event.accepts] using accepted
        | _ => cases cancels
  obtain ⟨e', before, accepts⟩ := List.any_eq_true.mp accepted
  exact ⟨e', before, accepts_iff.mp accepts⟩

theorem told_new : Told past {} where
  accepted := nofun
  ending := nofun
  settled := nofun
  calls _ _ := nofun

end GoalState

theorem System.told {node : Node} {acts : List Action} {s : System}
    (h : run (System.step node) System.init acts = some s) (id : GoalId) :
    (s.goal id).Told (acts.filterMap (System.labelOf id GoalAction.settled?)) ∧
      Preceded (·.cancels = true) (· = .cancelAnswered .accept) (s.log id) := by
  have kept : ∀ past contact s act t, s.Settling ∧ GoalState.Told past s ∧
      Preceded (·.cancels = true) (· = .cancelAnswered .accept) s.log →
      GoalState.step node contact s act = some t →
      t.Settling ∧ GoalState.Told (past ++ (act.settled?).toList) t ∧
        Preceded (·.cancels = true) (· = .cancelAnswered .accept) t.log := by
    intro past contact s act t ⟨settling, told, canceled⟩ taken
    have step := GoalState.step_cases taken
    exact ⟨GoalState.settling_step step settling, GoalState.told_step step settling told,
      GoalState.canceled_after step told canceled⟩
  have nothing : Preceded (·.cancels = true) (· = .cancelAnswered .accept) ([] : List Event) := by
    intro before e after same
    cases before <;> cases same
  exact (System.goal_history kept id ⟨GoalState.settling_new, GoalState.told_new, nothing⟩ h).2

theorem mem_settled {id : GoalId} {acts : List Action} {result : TrajectoryResult}
    (h : result ∈ acts.filterMap (System.labelOf id GoalAction.settled?)) :
    .goal id (.settle result) ∈ acts := by
  obtain ⟨act, member, shown⟩ := List.mem_filterMap.mp h
  obtain ⟨own, rfl, settles⟩ := System.labelOf_eq_some shown
  cases own with
  | settle given =>
    obtain rfl := Option.some.inj settles
    exact member
  | _ => cases settles

/-- A goal's terminal call says what became of it. `succeed` and `abort` go by the result's code,
`canceled` comes after a cancel that was accepted; the result of a goal that was handed over is one the
Supervisor has settled it with, and any other goal ends with a code of this node, the arm unmoved. -/
theorem terminal_truthful (node : Node) (acts : List Action) (s : System) (id : GoalId)
    (before after : List Event) (port : Port) (call : TerminalCall) (result : TrajectoryResult)
    (dropped : Bool) (h : run (System.step node) System.init acts = some s)
    (told : s.log id = before ++ .terminal port call result dropped :: after) :
    (call = .succeed → result.errorCode = ResultCode.kSuccessful ∧ (s.goal id).handed = true) ∧
    (call = .abort → result.errorCode ≠ ResultCode.kSuccessful) ∧
    (call = .canceled → .cancelAnswered .accept ∈ before) ∧
    if (s.goal id).handed then .goal id (.settle result) ∈ acts else Unmoved result := by
  obtain ⟨all, canceled⟩ := System.told h id
  have given : (call, result) ∈ (s.goal id).calls := by
    refine List.mem_filterMap.mpr ⟨.terminal port call result dropped, ?_, rfl⟩
    show _ ∈ s.log id
    rw [told]
    exact List.mem_append_right _ List.mem_cons_self
  have honest := all.calls call result given
  refine ⟨fun succeeds => ?_, honest.aborted, fun cancels => ?_, ?_⟩
  · have succeeded := honest.succeeded succeeds
    refine ⟨succeeded, ?_⟩
    by_contra unhanded
    have own := (honest.unmoved (Bool.eq_false_iff.mpr unhanded)).code
    rw [succeeded] at own
    exact absurd own (by decide)
  · obtain ⟨e, member, rfl⟩ := canceled before _ after told (decide_eq_true cancels)
    exact member
  · split
    · exact mem_settled (honest.supervised ‹_›)
    · exact honest.unmoved (Bool.eq_false_iff.mpr ‹_›)

theorem terminal_truthful_benchMarkedInTime : ∃ s before after result,
    run (System.step benchNode) System.init (bench (benchLatching ++ benchMarkedInTime)) = some s ∧
      s.log benchId =
        before ++ .terminal (.move .goToJointConfig) .canceled result false :: after ∧
      .cancelAnswered .accept ∈ before := by
  obtain ⟨s, ran, ends⟩ := run_reaches (System.step benchNode) System.init
    (bench (benchLatching ++ benchMarkedInTime))
    (fun s => .terminal (.move .goToJointConfig) .canceled
      (GoalState.localResult ResultCode.kPreempted "canceled during planning") false ∈ s.log benchId)
    (by decide +kernel)
  obtain ⟨before, after, told⟩ := List.append_of_mem (of_decide_eq_true ends)
  exact ⟨s, before, after, _, ran, told,
    (terminal_truthful benchNode _ s benchId before after _ _ _ _ ran told).2.2.1 rfl⟩

end KinovaGen3
