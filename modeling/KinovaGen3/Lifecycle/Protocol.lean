import KinovaGen3.Library.ActionProtocol
import KinovaGen3.Lifecycle.Results

/-!
Every goal of the node keeps to the action protocol, whatever the threads that work on it do. Most of
their steps are nothing to the client.
-/

namespace KinovaGen3
open Transition OrderedLog

abbrev GoalAct := ActionProtocol.Act TrajectoryGoal TrajectoryResult

instance (result : TrajectoryResult) : Decidable (Unmoved result) :=
  decidable_of_iff (result.errorCode ∈ [ResultCode.kPreempted, ResultCode.kPlanningFailed,
      ResultCode.kInvalidGoal, ResultCode.kContactStop] ∧ result.finalError = .constant (.finite 0))
    ⟨fun h => ⟨h.1, h.2⟩, fun h => ⟨h.code, h.error⟩⟩

theorem Unmoved.unsuccessful {result : TrajectoryResult} (h : Unmoved result) :
    result.errorCode ≠ ResultCode.kSuccessful := by
  intro succeeded
  have own := h.code
  rw [succeeded] at own
  exact absurd own (by decide)

/-- A goal that no Supervisor has seen ends with the arm unmoved. -/
def goalRules : ActionProtocol.Rules TrajectoryResult where
  succeeded result := result.errorCode = ResultCode.kSuccessful
  own result := Unmoved result
  own_failed _ unmoved := decide_eq_false (of_decide_eq_true unmoved).unsuccessful

def TerminalCall.ending : TerminalCall → ActionProtocol.Ending
  | canceled => .canceled
  | succeed => .succeeded
  | abort => .aborted

def Event.act? : Event → Option GoalAct
  | handedOver tg => some (.hand tg)
  | cancelAnswered .accept => some .cancel
  | terminal _ call result _ => some (.finish call.ending result)
  | _ => none

def Event.handOver? : Event → Option TrajectoryGoal
  | handedOver tg => some tg
  | _ => none

/-- The goal's log has it. -/
def GoalAct.logged (act : GoalAct) : Bool :=
  match act with
  | .hand _ | .cancel | .finish .. => true
  | _ => false

def GoalAct.settled? (act : GoalAct) : Option TrajectoryResult :=
  match act with
  | .settle result => some result
  | _ => none

namespace GoalState

def acts (s : GoalState) : List GoalAct := s.log.filterMap Event.act?

/-- The goal as its client may think of it. -/
def phase (s : GoalState) : ActionProtocol.Phase TrajectoryGoal :=
  match s.main with
  | .unseen | .admitted _ => .unseen
  | .rejected => .refused
  | _ =>
    if s.terminalPorts = [] then
      match s.log.findSome? Event.handOver? with
      | some tg => .executing tg
      | none => .accepted
    else .ended

def view (s : GoalState) : ActionProtocol.Goal TrajectoryGoal TrajectoryResult where
  phase := s.phase
  cancelAccepted := s.cancelAccepted
  settled := s.settle.result?

end GoalState

namespace GoalState

/-- The protocol has come to the same goal, by what its log has and what the Supervisor has settled. -/
def Lives (past : List TrajectoryResult) (s : GoalState) : Prop :=
  ∃ deeds : List GoalAct, run goalRules.step {} deeds = some s.view ∧
    deeds.filter GoalAct.logged = s.acts ∧ deeds.filterMap GoalAct.settled? = past

variable {node : Node} {contact : ContactState} {s t : GoalState} {act : GoalAction}
  {past : List TrajectoryResult} {port : Port}

/-! ### The phases -/

theorem phase_late (late : s.main.early = false) : s.phase =
    if s.terminalPorts = [] then
      match s.log.findSome? Event.handOver? with
      | some tg => .executing tg
      | none => .accepted
    else .ended := by
  unfold phase
  cases reached : s.main with
  | unseen | rejected | admitted => rw [reached] at late; cases late
  | _ => rfl

theorem handed_eq_isSome : s.handed = (s.log.findSome? Event.handOver?).isSome := by
  rw [handed, Bool.eq_iff_iff, List.any_eq_true, List.findSome?_isSome_iff]
  refine exists_congr fun e => and_congr_right fun _ => ?_
  cases e <;> simp [Event.isHandOver, Event.handOver?]

theorem phase_accepted (late : s.main.early = false) (unhanded : s.handed = false)
    (ongoing : s.terminalPorts = []) : s.phase = .accepted := by
  rw [handed_eq_isSome, Option.isSome_eq_false_iff, Option.isNone_iff_eq_none] at unhanded
  rw [phase_late late, if_pos ongoing, unhanded]

theorem phase_executing (late : s.main.early = false) {tg : TrajectoryGoal}
    (handed : s.log.findSome? Event.handOver? = some tg) (ongoing : s.terminalPorts = []) :
    s.phase = .executing tg := by
  rw [phase_late late, if_pos ongoing, handed]

theorem phase_ended (late : s.main.early = false) (given : s.terminalPorts ≠ []) : s.phase = .ended := by
  rw [phase_late late, if_neg given]

theorem phase_unseen (new : s.main = .unseen) : s.phase = .unseen := by
  rw [phase, new]

/-- Events that are nothing to the phase of a goal. -/
theorem phase_append (late : s.main.early = false) (late' : t.main.early = false) {more : List Event}
    (log : t.log = s.log ++ more)
    (quiet : ∀ e ∈ more, e.terminalPort? = none ∧ e.handOver? = none) : t.phase = s.phase := by
  have ports : t.terminalPorts = s.terminalPorts := by
    have none : more.filterMap Event.terminalPort? = [] :=
      List.filterMap_eq_nil_iff.mpr fun e member => (quiet e member).1
    rw [terminalPorts, log, List.filterMap_append, none, List.append_nil, terminalPorts]
  have handed : t.log.findSome? Event.handOver? = s.log.findSome? Event.handOver? := by
    have none : more.findSome? Event.handOver? = none :=
      List.findSome?_eq_none_iff.mpr fun e member => (quiet e member).2
    rw [log, List.findSome?_append, none, Option.or_none]
  rw [phase_late late, phase_late late', ports, handed]

@[simp] theorem record_acts (e : Event) : (s.record e).acts = s.acts ++ e.act?.toList := by
  cases shown : e.act? <;> simp [record, acts, shown]

@[simp] theorem record_cancelAccepted (e : Event) :
    (s.record e).cancelAccepted = (s.cancelAccepted || e.accepts) := by
  simp [record, cancelAccepted]

/-! ### The steps of the protocol -/

theorem Lives.quiet (h : Lives past s) (view : t.view = s.view) (acts : t.acts = s.acts) :
    Lives past t := by
  obtain ⟨deeds, went, logged, settled⟩ := h
  exact ⟨deeds, by rw [view]; exact went, by rw [acts]; exact logged, settled⟩

theorem Lives.move {deed : GoalAct} (h : Lives past s)
    (moved : goalRules.step s.view deed = some t.view)
    (acts : t.acts = s.acts ++ [deed].filter GoalAct.logged) :
    Lives (past ++ (GoalAct.settled? deed).toList) t := by
  obtain ⟨deeds, went, logged, settled⟩ := h
  refine ⟨deeds ++ [deed], run_append.mpr ⟨_, went, run_single.mpr moved⟩, ?_, ?_⟩
  · rw [List.filter_append, logged, acts]
  · rw [List.filterMap_append, settled]
    cases shown : GoalAct.settled? deed <;> simp [shown]

theorem act?_eq_none {e : Event} (quiet : e.act? = none) :
    e.terminalPort? = none ∧ e.handOver? = none ∧ e.accepts = false := by
  cases e with
  | handedOver | terminal => cases quiet
  | cancelAnswered reply =>
    cases reply with
    | accept => cases quiet
    | reject => exact ⟨rfl, rfl, rfl⟩
  | _ => exact ⟨rfl, rfl, rfl⟩

theorem Lives.deed {deed : GoalAct} (h : Lives past s) (moved : goalRules.step s.view deed = some t.view)
    (acts : t.acts = s.acts ++ [deed].filter GoalAct.logged)
    (other : GoalAct.settled? deed = none := by rfl) : Lives past t := by
  have went := h.move moved acts
  rwa [other, Option.toList_none, List.append_nil] at went

/-- A thread moves on, and what it records is nothing to the client. -/
theorem Lives.silent (h : Lives past s) (late : s.main.early = false) (late' : t.main.early = false)
    {more : List Event} (log : t.log = s.log ++ more) (quiet : ∀ e ∈ more, e.act? = none)
    (settle : t.settle.result? = s.settle.result?) : Lives past t := by
  have phase : t.phase = s.phase := by
    refine phase_append late late' log fun e member => ?_
    obtain ⟨port, handed, -⟩ := act?_eq_none (quiet e member)
    exact ⟨port, handed⟩
  have accepted : more.any (·.accepts) = false :=
    List.any_eq_false.mpr fun e member => Bool.eq_false_iff.mp (act?_eq_none (quiet e member)).2.2
  refine h.quiet ?_ ?_
  · rw [view, view, phase, settle, cancelAccepted, log, List.any_append, accepted, Bool.or_false]
    rfl
  · rw [acts, log, List.filterMap_append, List.filterMap_eq_nil_iff.mpr quiet, List.append_nil, acts]

theorem Lives.frame (h : Lives past s) (late : s.main.early = false) (late' : t.main.early = false)
    (log : t.log = s.log) (settle : t.settle.result? = s.settle.result?) : Lives past t :=
  h.silent late late' (log.trans (List.append_nil _).symm) (List.forall_mem_nil _) settle

/-- `handle_cancel` returns `ACCEPT`. -/
theorem Lives.cancel (h : Lives past s) (late : s.main.early = false) (late' : t.main.early = false)
    {more : List Event} (log : t.log = s.log ++ more) (acts : more.filterMap Event.act? = [.cancel])
    (settle : t.settle = s.settle)
    (quiet : ∀ e ∈ more, e.terminalPort? = none ∧ e.handOver? = none) (accepted : more.any (·.accepts)) :
    Lives past t := by
  have phase := phase_append late late' log quiet
  have ongoing : s.phase ≠ .unseen ∧ s.phase ≠ .refused := by
    rw [phase_late late]
    split
    · split <;> simp
    · simp
  have shown : t.view = { s.view with cancelAccepted := true } := by
    rw [view, phase, settle, cancelAccepted, log, List.any_append, accepted, Bool.or_true]
    rfl
  have moved : goalRules.step s.view .cancel = some t.view := by
    rw [shown]
    exact ActionProtocol.Rules.step_cancel ongoing
  have all : t.acts = s.acts ++ [.cancel] := by
    rw [GoalState.acts, log, List.filterMap_append, acts]
    rfl
  exact h.deed moved all

/-- The goal goes to the Supervisor. -/
theorem Lives.hand (h : Lives past s) {tg : TrajectoryGoal} (late : s.main.early = false)
    (late' : t.main.early = false) (unhanded : s.handed = false) (ongoing : s.terminalPorts = [])
    (log : t.log = (s.record (.handedOver tg)).log) (settle : t.settle = s.settle) : Lives past t := by
  have before : s.phase = .accepted := phase_accepted late unhanded ongoing
  have after : t.phase = .executing tg := by
    refine phase_executing late' ?_ ?_
    · rw [handed_eq_isSome, Option.isSome_eq_false_iff, Option.isNone_iff_eq_none] at unhanded
      rw [log, GoalState.record, List.findSome?_append, unhanded]
      rfl
    · rw [terminalPorts, log]
      exact (record_terminalPorts _).trans (by rw [ongoing]; rfl)
  have shown : t.view = { s.view with phase := .executing tg } := by
    rw [view, after, settle, cancelAccepted, log]
    simp [view, GoalState.record, cancelAccepted, Event.accepts]
  have moved : goalRules.step s.view (.hand tg) = some t.view := by
    rw [shown]
    exact ActionProtocol.Rules.step_hand before
  have all : t.acts = s.acts ++ [.hand tg] := by
    rw [acts, log]
    exact record_acts _
  exact h.deed moved all

/-- The handle gets its terminal transition. -/
theorem Lives.finish (h : Lives past s) {port : Port} {asked dropped : Bool} {result : TrajectoryResult}
    (late' : t.main.early = false)
    (log : t.log = (s.terminate port asked result dropped).log) (settle : t.settle.result? = none)
    (accepted : asked = true → s.cancelAccepted = true)
    (due : goalRules.due s.view result = true) : Lives past t := by
  let call : TerminalCall :=
    if asked then .canceled
    else if result.errorCode = ResultCode.kSuccessful then .succeed else .abort
  have shown : t.view = { s.view with phase := .ended, settled := none } := by
    have ended : t.phase = .ended := by
      refine phase_ended late' ?_
      rw [terminalPorts, log]
      show (s.terminate port asked result dropped).terminalPorts ≠ []
      simp
    rw [view, ended, settle, cancelAccepted, log]
    simp [view, cancelAccepted, terminate, Event.accepts]
  have fits : goalRules.fits s.cancelAccepted call.ending result = true := by
    cases asked with
    | true => exact accepted rfl
    | false =>
      by_cases succeeded : result.errorCode = ResultCode.kSuccessful
      · simp [call, succeeded, TerminalCall.ending, ActionProtocol.Rules.fits, goalRules]
      · simp [call, succeeded, TerminalCall.ending, ActionProtocol.Rules.fits, goalRules]
  have moved : goalRules.step s.view (.finish call.ending result) = some t.view := by
    rw [ActionProtocol.Rules.step, due, shown]
    exact if_pos fits
  have all : t.acts = s.acts ++ [.finish call.ending result] := by
    rw [acts, log]
    simp [terminate, acts, Event.act?, call]
  exact h.deed moved all

/-- The first step, and the answer of the goal's server. -/
theorem Lives.answer (h : Lives past s) {deed : GoalAct} (new : s.phase = .unseen)
    (cancels : t.cancelAccepted = s.cancelAccepted) (settle : t.settle = s.settle)
    (acts : t.acts = s.acts)
    (answers : deed = .refuse ∧ t.phase = .refused ∨ deed = .accept ∧ t.phase = .accepted) :
    Lives past t := by
  have moved : goalRules.step s.view deed = some t.view := by
    rw [view, view, cancels, settle]
    rcases answers with ⟨rfl, phase⟩ | ⟨rfl, phase⟩
    · rw [phase, new]
      rfl
    · rw [phase, new]
      rfl
  have quiet : GoalAct.logged deed = false ∧ GoalAct.settled? deed = none := by
    rcases answers with ⟨rfl, -⟩ | ⟨rfl, -⟩
    · exact ⟨rfl, rfl⟩
    · exact ⟨rfl, rfl⟩
  refine h.deed moved ?_ quiet.2
  rw [acts, List.filter_singleton, quiet.1]
  simp

/-! ### Every step -/

theorem late_of_stage {m : Main} (begun : m.stage = .running ∨ m.stage = .through) : m.early = false := by
  cases m with
  | unseen | rejected | admitted => rcases begun with begun | begun <;> cases begun
  | _ => rfl

theorem lives_others (step : GoalStep node contact s act t) (other : act.settled? = none)
    (settling : Settling s) (told : Told past s) (h : Lives past s) : Lives past t := by
  have owned : ∀ {handle}, s.handle = some handle → s.main.early = false := by
    intro handle owns
    rw [settling.early, owns]
    rfl
  obtain ⟨port, settlement⟩ := settling.exists_settlement
  have fresh : s.main.stage = .fresh → s.handed = false ∧ s.terminalPorts = [] := by
    intro reached
    obtain ⟨unhanded, here⟩ := settlement.unhanded _ reached
    refine ⟨unhanded, ?_⟩
    rw [settlement.given, here]
    rfl
  cases step with
  | rejectMove new | rejectExecute new =>
    exact h.answer (phase_unseen new) rfl rfl rfl (Or.inl ⟨rfl, rfl⟩)
  | refuseExecute new =>
    refine h.answer (phase_unseen new) ?_ rfl ?_ (Or.inl ⟨rfl, rfl⟩)
    · exact (record_cancelAccepted _).trans (Bool.or_false _)
    · exact (record_acts _).trans (List.append_nil _)
  | admitMove new =>
    refine h.quiet ?_ rfl
    show ActionProtocol.Goal.mk .unseen _ _ = ActionProtocol.Goal.mk s.phase _ _
    rw [phase_unseen new]
    rfl
  | admitExecute new =>
    refine h.quiet ?_ ((record_acts _).trans (List.append_nil _))
    show ActionProtocol.Goal.mk .unseen (s.record _).cancelAccepted _ = ActionProtocol.Goal.mk s.phase _ _
    rw [phase_unseen new, record_cancelAccepted]
    exact congrArg (ActionProtocol.Goal.mk _ · _) (Bool.or_false _)
  | accept reached =>
    obtain ⟨unhanded, ongoing⟩ := fresh (by rw [reached]; rfl)
    have before : s.phase = .unseen := by simp [phase, reached]
    exact h.answer before rfl rfl rfl (Or.inr ⟨rfl, phase_accepted rfl unhanded ongoing⟩)
  | @hand g status tg owns reached =>
    obtain ⟨unhanded, here⟩ := settlement.unhanded .owned (by rw [reached]; rfl)
    have given := settlement.given
    rw [here] at given
    exact h.hand (owned owns) rfl unhanded given rfl rfl
  | @backendHand g status owns reached =>
    obtain ⟨unhanded, here⟩ := settlement.unhanded .held (by rw [reached]; rfl)
    have given := settlement.given
    rw [here] at given
    exact h.hand (owned owns) rfl unhanded given rfl rfl
  | cancelPlan owns =>
    refine h.cancel (owned owns) (owned owns) rfl rfl rfl ?_ rfl
    simp [Event.terminalPort?, Event.handOver?]
  | cancelSend owns =>
    refine h.cancel (owned owns) (owned owns) (List.append_assoc _ [_] [_]) rfl rfl ?_ rfl
    simp [Event.terminalPort?, Event.handOver?]
  | @backendCancelSend _ _ _ answer _ _ _ owns =>
    cases answer with
    | accept =>
      refine h.cancel (owned owns) (owned owns) (List.append_assoc _ [_] [_]) rfl rfl ?_ rfl
      simp [Event.terminalPort?, Event.handOver?]
    | reject =>
      refine h.silent (owned owns) (owned owns) (List.append_assoc _ [_] [_]) ?_ rfl
      simp [Event.act?]
  | @transition handle asked result dropped owns reached =>
    have late := owned owns
    obtain ⟨unhanded, here⟩ := settlement.unhanded .held (by rw [reached]; rfl)
    have given := settlement.given
    rw [here] at given
    have waiting := settlement.waiting unhanded
    refine h.finish rfl rfl ?_ ?_ ?_
    · show s.settle.result? = none
      rw [waiting]
      rfl
    · intro yes
      exact told.accepted ((asked_parts s).2.1 (by rw [reached]; exact yes))
    · have accepted : s.view.phase = .accepted := phase_accepted late unhanded given
      rw [ActionProtocol.Rules.due, accepted]
      exact decide_eq_true (told.ending result (by rw [reached]; rfl))
  | @settleMove port' asked result dropped reached =>
    obtain ⟨handed, here, -⟩ := settlement.settling reached rfl
    have late := late_of_stage (settlement.late handed)
    have given := settlement.given
    rw [here] at given
    refine h.finish ?_ rfl rfl ?_ ?_
    · exact late
    · intro yes
      exact told.accepted ((asked_parts s).2.2.1 (by rw [reached]; exact yes))
    · rw [handed_eq_isSome] at handed
      obtain ⟨tg, handed⟩ := Option.isSome_iff_exists.mp handed
      have executing : s.view.phase = .executing tg := phase_executing late handed given
      rw [ActionProtocol.Rules.due, executing]
      exact decide_eq_true (by rw [view, reached]; rfl)
  | settle => cases other
  | @settleTake port' result dropped reached =>
    obtain ⟨handed, -, -⟩ := settlement.settling reached rfl
    have late := late_of_stage (settlement.late handed)
    obtain ⟨-, -, main, log⟩ := @erase_rest s port'
    refine h.frame late ?_ log ?_
    · show (s.erase port').main.early = false
      rw [main]
      exact late
    · rw [reached]
      rfl
  | settleMiss reached absent =>
    rename_i p result dropped
    obtain ⟨-, routed, rfl⟩ := settlement.settling reached rfl
    have entry := settlement.entry p
    rw [routed, absent] at entry
    simp [Settle.stage, Stage.tracked] at entry
  | settleAsk owns reached =>
    exact h.frame (owned owns) (owned owns) rfl (by rw [reached]; rfl)
  | cancel created =>
    obtain ⟨handle, owns⟩ := Option.isSome_iff_exists.mp created
    exact h.frame (owned owns) (owned owns) rfl rfl
  | cancelMiss owns | cancelLatch owns | backendCancelLook owns | mark owns =>
    exact h.frame (owned owns) (owned owns) rfl rfl
  | decide owns => exact h.frame (owned owns) planDecision_early rfl rfl
  | plan reached => exact h.frame (by rw [reached]; rfl) rfl rfl rfl
  | planned owns | recancel owns | submitAccept owns | submitReject owns =>
    refine h.silent (owned owns) rfl rfl (fun e member => ?_) rfl
    obtain rfl := List.mem_singleton.mp member
    rfl
  | backendRecord owns | record owns | start owns | find owns | lose owns | contactStop owns | invalid owns
  | settleLocal owns | erase owns | execute owns | register owns | rereadLatched owns | rereadClear owns =>
    exact h.frame (owned owns) rfl rfl rfl

/-- What the Supervisor settles a goal with is the next result of the protocol, and nothing else is. -/
theorem lives_step (step : GoalStep node contact s act t) (settling : Settling s) (told : Told past s)
    (h : Lives past s) : Lives (past ++ act.settled?.toList) t := by
  cases heard : act.settled? with
  | none =>
    rw [Option.toList_none, List.append_nil]
    exact lives_others step heard settling told h
  | some result =>
    cases step with
    | @settle outcome reached handed =>
      obtain rfl : outcome = result := Option.some.inj heard
      obtain ⟨port, settlement⟩ := settling.exists_settlement
      have given := settlement.given
      rw [stage, if_pos handed, reached] at given
      have late := late_of_stage (settlement.late handed)
      rw [handed_eq_isSome] at handed
      obtain ⟨tg, handed⟩ := Option.isSome_iff_exists.mp handed
      have executing : s.view.phase = .executing tg := phase_executing late handed given
      have waiting : s.view.settled = none := by rw [view, reached]; rfl
      refine @Lives.move _ _ _ (.settle outcome) h ?_ (List.append_nil _).symm
      exact ActionProtocol.Rules.step_settle executing waiting
    | plan _ own =>
      cases act with
      | settle => cases own
      | _ => cases heard
    | _ => cases heard

theorem lives_new : Lives [] {} := ⟨[], rfl, rfl, rfl⟩

end GoalState

/-- Every goal lives by the action protocol. What the Supervisor and the client hear of it, in their order,
is what the protocol has done with it, and it ends in one of the protocol's ways. -/
theorem goals_follow_protocol (node : Node) (acts : List Action) (s : System) (id : GoalId)
    (h : run (System.step node) System.init acts = some s) :
    ∃ deeds : List GoalAct, run goalRules.step {} deeds = some (s.goal id).view ∧
      deeds.filter GoalAct.logged = (s.log id).filterMap Event.act? ∧
      deeds.filterMap GoalAct.settled? = acts.filterMap (System.labelOf id GoalAction.settled?) ∧
      ActionProtocol.Lived goalRules deeds (s.goal id).view := by
  have kept : ∀ past contact s act t, s.Settling ∧ GoalState.Told past s ∧ GoalState.Lives past s →
      GoalState.step node contact s act = some t →
      t.Settling ∧ GoalState.Told (past ++ act.settled?.toList) t ∧
        GoalState.Lives (past ++ act.settled?.toList) t := by
    intro past contact s act t ⟨settling, told, lives⟩ taken
    have step := GoalState.step_cases taken
    exact ⟨GoalState.settling_step step settling, GoalState.told_step step settling told,
      GoalState.lives_step step settling told lives⟩
  obtain ⟨-, -, deeds, went, logged, settled⟩ :=
    System.goal_history kept id ⟨GoalState.settling_new, GoalState.told_new, GoalState.lives_new⟩ h
  exact ⟨deeds, went, logged, settled, ActionProtocol.lived went⟩

theorem goals_follow_protocol_benchMarkedInTime : ∃ s,
    run (System.step benchNode) System.init (bench (benchLatching ++ benchMarkedInTime)) = some s ∧
      (s.goal benchId).terminalPorts ≠ [] ∧
      ∃ deeds : List GoalAct, run goalRules.step {} deeds = some (s.goal benchId).view ∧
        deeds.filter GoalAct.logged = (s.log benchId).filterMap Event.act? := by
  obtain ⟨s, ran, ends⟩ := run_reaches (System.step benchNode) System.init
    (bench (benchLatching ++ benchMarkedInTime)) (fun s => (s.goal benchId).terminalPorts ≠ [])
    (by decide +kernel)
  obtain ⟨deeds, went, logged, -, -⟩ := goals_follow_protocol benchNode _ s benchId ran
  exact ⟨s, ran, of_decide_eq_true ends, deeds, went, logged⟩

end KinovaGen3
