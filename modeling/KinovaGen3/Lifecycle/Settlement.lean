import KinovaGen3.Lifecycle.Steps
import KinovaGen3.Lifecycle.System

/-!
Every accepted goal is settled once, by the server that accepted it. An entry in that server's map
is the right to give the goal's handle its terminal transition: `on_plan_done` uses it before it
erases the entry, `settle` erases it first.
-/

namespace KinovaGen3
open Transition

/-- How far a goal has come towards its terminal transition. -/
inductive Stage where
  | fresh
  | held
  | given
  /-- The router sends settlements to the goal's server. -/
  | owned
  | running
  | routed
  | taken
  | through
  deriving DecidableEq

namespace Stage

def tracked : Stage → Bool
  | held | given | owned | running | routed => true
  | fresh | taken | through => false

/-- The router has an override for it, unless the default port is its server. -/
def overridden : Stage → Bool
  | owned | running => true
  | _ => false

def terminals : Stage → Nat
  | given | through => 1
  | _ => 0

end Stage

def Main.stage : Main → Stage
  | unseen | rejected | admitted _ | accepted => .fresh
  | erasing => .given
  | handing _ => .owned
  | rereading | recanceling _ => .running
  | finished => .through
  | _ => .held

/-- No handle exists yet. -/
def Main.early : Main → Bool
  | unseen | rejected | admitted _ => true
  | _ => false

def Settle.stage : Settle → Stage
  | waiting => .running
  | routed .. => .routed
  | taken .. | moving .. => .taken
  | ended => .through

def Settle.port? : Settle → Option Port
  | routed port _ | taken port _ | moving port _ _ => some port
  | _ => none

def Event.terminalPort? : Event → Option Port
  | terminal port _ _ _ => some port
  | _ => none

namespace GoalState

def terminalPorts (s : GoalState) : List Port := s.log.filterMap Event.terminalPort?

def stage (s : GoalState) : Stage := if s.handed then s.settle.stage else s.main.stage

/-- The maps and the log agree with the goal's stage at its server. -/
structure Settlement (port : Port) (s : GoalState) : Prop where
  entry : ∀ p, s.holds p = (s.stage.tracked && decide (p = port))
  owner : s.owner = if s.stage.overridden ∧ port ≠ .backend then some port else none
  given : s.terminalPorts = List.replicate s.stage.terminals port
  waiting : s.handed = false → s.settle = .waiting
  late : s.handed = true → s.main.stage = .running ∨ s.main.stage = .through
  reading : s.main.stage = .running → s.handed = true
  port : ∀ p ∈ s.settle.port?, p = port

structure Settling (s : GoalState) : Prop where
  early : s.main.early = s.handle.isNone
  settlement : ∀ port, (∀ h ∈ s.handle, h.goal.port = port) → Settlement port s

variable {node : Node} {contact : ContactState} {s t : GoalState} {port : Port}

/-! ### Frames -/

@[simp] theorem record_handed (e : Event) :
    (s.record e).handed = (s.handed || e.isHandOver) := by
  simp [record, handed]

@[simp] theorem record_terminalPorts (e : Event) :
    (s.record e).terminalPorts = s.terminalPorts ++ e.terminalPort?.toList := by
  cases shown : e.terminalPort? <;> simp [record, terminalPorts, shown]

@[simp] theorem storeGoal_holds (server : MoveServer) (entry : Option Goal) (p : Port) :
    (s.storeGoal server entry).holds p = if p = .move server then entry.isSome else s.holds p := by
  cases p with
  | backend => simp [storeGoal, holds]
  | move other =>
    by_cases same : other = server
    · subst same
      simp [storeGoal, holds]
    · simp [storeGoal, holds, same]

theorem erase_holds (p q : Port) : (s.erase p).holds q = (s.holds q && decide (q ≠ p)) := by
  cases p with
  | move server =>
    rw [erase, storeGoal_holds]
    by_cases same : q = .move server <;> simp [same]
  | backend => cases q <;> simp [erase, holds]

section
variable {asked dropped : Bool} {result : TrajectoryResult}

@[simp] theorem terminate_handed :
    (s.terminate port asked result dropped).handed = s.handed := by
  simp [terminate, handed, Event.isHandOver]

@[simp] theorem terminate_terminalPorts :
    (s.terminate port asked result dropped).terminalPorts = s.terminalPorts ++ [port] := by
  simp [terminate, terminalPorts, Event.terminalPort?]

end

theorem Settlement.frame (h : Settlement port s) (entry : ∀ p, t.holds p = s.holds p)
    (owner : t.owner = s.owner) (given : t.terminalPorts = s.terminalPorts)
    (handed : t.handed = s.handed) (settle : t.settle = s.settle)
    (stage : t.main.stage = s.main.stage ∨ s.handed = true ∧ t.main.stage = .through) :
    Settlement port t := by
  have same : t.stage = s.stage := by
    unfold GoalState.stage
    rcases stage with same | ⟨late, -⟩
    · rw [handed, settle, same]
    · simp only [handed, settle, late, if_true]
  refine ⟨fun p => ?_, ?_, ?_, ?_, ?_, ?_, ?_⟩
  · rw [entry, same, h.entry]
  · rw [owner, same, h.owner]
  · rw [given, same, h.given]
  · rw [handed, settle]
    exact h.waiting
  · intro late
    rcases stage with same | ⟨-, through⟩
    · rw [same]
      exact h.late (handed ▸ late)
    · exact Or.inr through
  · intro running
    rcases stage with same | ⟨late, -⟩
    · rw [handed]
      exact h.reading (same ▸ running)
    · exact handed.trans late
  · rw [settle]
    exact h.port

theorem Settlement.move {m : Main} (h : Settlement port s) (stage : m.stage = s.main.stage) :
    Settlement port { s with main := m } :=
  h.frame (fun _ => rfl) rfl rfl rfl rfl (Or.inl stage)

theorem Settlement.moveRecord {m : Main} {e : Event} (h : Settlement port s)
    (stage : m.stage = s.main.stage) (quiet : e.terminalPort? = none := by rfl)
    (within : e.isHandOver = false := by rfl) : Settlement port { s.record e with main := m } := by
  refine h.frame (fun _ => rfl) rfl ?_ ?_ rfl (Or.inl stage)
  · exact (record_terminalPorts e).trans (by simp [quiet])
  · exact (record_handed e).trans (by simp [within])

theorem Settlement.unhanded (h : Settlement port s) (stage : Stage) (there : s.main.stage = stage)
    (running : stage ≠ .running := by decide) (through : stage ≠ .through := by decide) :
    s.handed = false ∧ s.stage = stage := by
  have no : s.handed = false := by
    cases shown : s.handed with
    | false => rfl
    | true => exact ((h.late shown).elim (there ▸ running) (there ▸ through)).elim
  exact ⟨no, by rw [GoalState.stage, no, if_neg Bool.false_ne_true, there]⟩

theorem Settlement.advance (h : Settlement port s) (stage : Stage) (there : t.main.stage = stage)
    (no : s.handed = false) (handed : t.handed = s.handed) (settle : t.settle = s.settle)
    (entry : ∀ p, t.holds p = (stage.tracked && decide (p = port)))
    (owner : t.owner = if stage.overridden ∧ port ≠ .backend then some port else none)
    (given : t.terminalPorts = List.replicate stage.terminals port)
    (running : stage ≠ .running := by decide) : Settlement port t := by
  rw [no] at handed
  have same : t.stage = stage := by rw [GoalState.stage, handed, if_neg Bool.false_ne_true, there]
  refine ⟨fun p => ?_, ?_, ?_, fun _ => ?_, ?_, ?_, ?_⟩
  · rw [same, entry]
  · rw [same, owner]
  · rw [same, given]
  · rw [settle, h.waiting no]
  · rw [handed]
    exact fun yes => (Bool.false_ne_true yes).elim
  · rw [there]
    exact fun yes => (running yes).elim
  · rw [settle]
    exact h.port

/-! ### Every step -/

theorem planDecision_stage {g : MoveGoal} {o : Outcome} {canceled : Bool} :
    (planDecision node g o canceled).stage = .held := by
  rcases planDecision_cases node g o canceled with ⟨-, -, submits⟩ | ⟨result, ends, -⟩
  · rw [submits]
    rfl
  · rw [ends]
    rfl

theorem settlement_record (h : Settlement port s) (reached : s.main = .accepted)
    (entry : ∀ p, t.holds p = if p = port then true else s.holds p)
    (owner : t.owner = s.owner) (log : t.log = s.log) (settle : t.settle = s.settle)
    (main : t.main = .recorded) : Settlement port t := by
  obtain ⟨no, fresh⟩ := h.unhanded .fresh (by rw [reached]; rfl)
  refine h.advance .held (by rw [main]; rfl) no (by rw [handed, log, handed]) settle
    (fun p => ?_) ?_ ?_
  · rw [entry, h.entry, fresh]
    by_cases mine : p = port <;> simp [mine, Stage.tracked]
  · rw [owner, h.owner, fresh]
    simp [Stage.overridden]
  · rw [terminalPorts, log]
    exact h.given.trans (by rw [fresh]; rfl)

theorem settlement_hand (h : Settlement port s) {stage : Stage} (reached : s.main.stage = stage)
    (tracked : stage.tracked = true) (terminals : stage.terminals = 0)
    (owner : s.owner = if port ≠ .backend then some port else none) {m : Main}
    (late : m.stage = .running ∨ m.stage = .through)
    (running : stage ≠ .running := by decide) (through : stage ≠ .through := by decide) :
    Settlement port { s.record (.handedOver tg) with main := m } := by
  obtain ⟨no, here⟩ := h.unhanded _ reached running through
  have yes : GoalState.handed { s.record (.handedOver tg) with main := m } = true :=
    (record_handed _).trans (Bool.or_true _)
  have now : GoalState.stage { s.record (.handedOver tg) with main := m } = .running := by
    rw [GoalState.stage, yes, if_pos rfl]
    exact congrArg Settle.stage (h.waiting no)
  refine ⟨fun p => ?_, ?_, ?_, ?_, fun _ => late, fun _ => yes, h.port⟩
  · rw [now]
    exact (h.entry p).trans (by rw [here, tracked]; rfl)
  · rw [now]
    exact owner.trans (by simp [Stage.overridden])
  · rw [now]
    refine (record_terminalPorts _).trans ?_
    rw [h.given, here, terminals]
    rfl
  · rw [yes]
    exact fun no => (Bool.false_ne_true no.symm).elim

theorem Settlement.settle (h : Settlement port s) (stage : Stage) (yes : s.handed = true)
    (handed : t.handed = s.handed) (main : t.main = s.main) (there : t.settle.stage = stage)
    (mine : ∀ p ∈ t.settle.port?, p = port)
    (entry : ∀ p, t.holds p = (stage.tracked && decide (p = port)))
    (owner : t.owner = if stage.overridden ∧ port ≠ .backend then some port else none)
    (given : t.terminalPorts = List.replicate stage.terminals port) : Settlement port t := by
  rw [yes] at handed
  have same : t.stage = stage := by rw [GoalState.stage, handed, if_pos rfl, there]
  refine ⟨fun p => ?_, ?_, ?_, ?_, fun _ => ?_, fun _ => handed, mine⟩
  · rw [same, entry]
  · rw [same, owner]
  · rw [same, given]
  · rw [handed]
    exact fun no => (Bool.false_ne_true no.symm).elim
  · rw [main]
    exact h.late yes

theorem Settlement.settling (h : Settlement port s) {now : Settle} {p : Port}
    (reached : s.settle = now) (under : now.port? = some p) :
    s.handed = true ∧ s.stage = now.stage ∧ p = port := by
  have yes : s.handed = true := by
    cases shown : s.handed with
    | true => rfl
    | false =>
      rw [← reached, h.waiting shown] at under
      cases under
  exact ⟨yes, by rw [GoalState.stage, yes, if_pos rfl, reached], h.port p (by rw [reached, under]; rfl)⟩

theorem settlement_step (step : GoalStep node contact s act t) (h : Settlement port s)
    (owns : ∀ g ∈ t.handle, g.goal.port = port) : Settlement port t := by
  cases step with
  | rejectMove new | admitMove new | rejectExecute new => exact h.move (by rw [new]; rfl)
  | refuseExecute new | admitExecute new => exact h.moveRecord (by rw [new]; rfl)
  | accept reached =>
    exact h.frame (fun _ => rfl) rfl rfl rfl rfl (Or.inl (by rw [reached]; rfl))
  | backendRecord handle reached =>
    obtain rfl : Port.backend = port := owns _ handle
    exact settlement_record h reached (fun p => by cases p <;> simp [holds]) rfl rfl rfl rfl
  | record handle reached =>
    rename_i g status
    obtain rfl : Port.move g.server = port := owns _ handle
    exact settlement_record h reached (fun p => storeGoal_holds _ _ p) rfl rfl rfl rfl
  | start _ reached | plan reached | find _ reached | contactStop _ reached | invalid _ reached
  | settleLocal _ _ reached | rereadLatched _ reached => exact h.move (by rw [reached]; rfl)
  | decide _ _ reached => exact h.move (by rw [reached, planDecision_stage]; rfl)
  | planned _ reached | submitAccept _ reached | submitReject _ reached =>
    exact h.moveRecord (by rw [reached]; rfl)
  | rereadClear _ reached =>
    exact h.frame (fun _ => rfl) rfl rfl rfl rfl (Or.inr ⟨h.reading (by rw [reached]; rfl), rfl⟩)
  | recancel _ reached =>
    refine h.frame (fun _ => rfl) rfl ?_ ?_ rfl (Or.inr ⟨h.reading (by rw [reached]; rfl), rfl⟩)
    · exact (record_terminalPorts _).trans (List.append_nil _)
    · exact (record_handed _).trans (Bool.or_false _)
  | lose handle reached absent =>
    rename_i g status o
    obtain rfl : Port.move g.server = port := owns _ handle
    obtain ⟨no, held⟩ := h.unhanded .held (by rw [reached]; rfl)
    have entry := h.entry (.move g.server)
    rw [held] at entry
    simp [holds, absent, Stage.tracked] at entry
  | execute handle reached =>
    rename_i g status tg
    refine h.frame (fun p => ?_) rfl rfl rfl rfl (Or.inl (by rw [reached]; rfl))
    refine (storeGoal_holds _ _ p).trans ?_
    by_cases mine : p = .move g.server <;> simp [mine, holds]
  | register handle reached =>
    rename_i g status tg
    obtain rfl : Port.move g.server = port := owns _ handle
    obtain ⟨no, held⟩ := h.unhanded .held (by rw [reached]; rfl)
    refine h.advance .owned rfl no rfl rfl (fun p => ?_) rfl ?_
    · exact (h.entry p).trans (by rw [held]; rfl)
    · exact h.given.trans (by rw [held]; rfl)
  | hand handle reached =>
    rename_i g status tg
    obtain rfl : Port.move g.server = port := owns _ handle
    have there : s.main.stage = .owned := by rw [reached]; rfl
    obtain ⟨no, owned⟩ := h.unhanded _ there
    exact settlement_hand h there rfl rfl (h.owner.trans (by simp [owned, Stage.overridden]))
      (Or.inl rfl)
  | backendHand handle reached =>
    obtain rfl : Port.backend = port := owns _ handle
    have there : s.main.stage = .held := by rw [reached]; rfl
    obtain ⟨no, held⟩ := h.unhanded _ there
    exact settlement_hand h there rfl rfl (h.owner.trans (by simp [held, Stage.overridden]))
      (Or.inr rfl)
  | transition handle reached =>
    rename_i g asked result dropped
    obtain ⟨no, held⟩ := h.unhanded .held (by rw [reached]; rfl)
    have mine : g.goal.port = port := by
      obtain ⟨g', owned, same⟩ :=
        same_goal (terminate_handle_goal s g.goal.port asked result dropped).symm handle
      rw [← same]
      exact owns g' owned
    refine h.advance .given rfl no terminate_handed rfl (fun p => ?_) ?_ ?_
    · exact (h.entry p).trans (by rw [held]; rfl)
    · exact h.owner.trans (by simp [held, Stage.overridden])
    · refine terminate_terminalPorts.trans ?_
      rw [h.given, held, mine]
      rfl
  | erase handle reached =>
    rename_i g status
    obtain rfl : Port.move g.server = port := owns _ handle
    obtain ⟨no, given⟩ := h.unhanded .given (by rw [reached]; rfl)
    refine h.advance .through rfl no rfl rfl (fun p => ?_) ?_ ?_
    · refine (storeGoal_holds _ _ p).trans ?_
      by_cases mine : p = .move g.server <;> simp [mine, h.entry, given, Stage.tracked]
    · exact h.owner.trans (by simp [given, Stage.overridden])
    · exact h.given.trans (by rw [given]; rfl)
  | cancel | cancelMiss | backendCancelLook =>
    exact h.frame (fun _ => rfl) rfl rfl rfl rfl (Or.inl rfl)
  | cancelPlan =>
    refine h.frame (fun _ => rfl) rfl ?_ ?_ rfl (Or.inl rfl)
    · exact (record_terminalPorts _).trans (List.append_nil _)
    · exact (record_handed _).trans (Bool.or_false _)
  | cancelSend | backendCancelSend =>
    refine h.frame (fun _ => rfl) rfl ?_ ?_ rfl (Or.inl rfl)
    · exact (record_terminalPorts _).trans (by simp [Event.terminalPort?])
    · exact (record_handed _).trans (by simp [Event.isHandOver])
  | cancelLatch handle reached found =>
    rename_i g status i entry answer
    refine h.frame (fun p => ?_) rfl rfl rfl rfl (Or.inl rfl)
    refine (storeGoal_holds _ _ p).trans ?_
    by_cases mine : p = .move g.server <;> simp [mine, holds, found]
  | mark => exact h.frame (fun _ => rfl) rfl rfl rfl rfl (Or.inl rfl)
  | settle reached yes =>
    have running : s.stage = .running := by rw [stage, yes, if_pos rfl, reached]; rfl
    refine h.settle .routed yes rfl rfl rfl ?_ (fun p => ?_) rfl ?_
    · rintro p ⟨⟩
      rw [h.owner, running]
      cases port <;> simp [Stage.overridden]
    · exact (h.entry p).trans (by rw [running]; rfl)
    · exact h.given.trans (by rw [running]; rfl)
  | settleTake reached held =>
    rename_i p result dropped
    obtain ⟨yes, routed, rfl⟩ := h.settling reached rfl
    obtain ⟨owner, -, main, log⟩ := erase_rest (s := s) p
    refine h.settle .taken yes ?_ main rfl (by rintro q ⟨⟩; rfl) (fun q => ?_) ?_ ?_
    · exact congrArg (List.any · _) log
    · refine (erase_holds p q).trans ?_
      rw [h.entry, routed]
      by_cases mine : q = p <;> simp [mine, Stage.tracked, Settle.stage]
    · exact owner.trans (h.owner.trans (by rw [routed]; rfl))
    · refine (congrArg (List.filterMap _) log).trans (h.given.trans ?_)
      rw [routed]
      rfl
  | settleMiss reached absent =>
    rename_i p result dropped
    obtain ⟨yes, routed, rfl⟩ := h.settling reached rfl
    have entry := h.entry p
    rw [routed, absent] at entry
    simp [Settle.stage, Stage.tracked] at entry
  | settleAsk handle reached =>
    obtain ⟨yes, taken, rfl⟩ := h.settling reached rfl
    refine h.settle .taken yes rfl rfl rfl ?_ (fun p => ?_) ?_ ?_
    · rintro p ⟨⟩
      rfl
    · exact (h.entry p).trans (by rw [taken]; rfl)
    · exact h.owner.trans (by rw [taken]; rfl)
    · exact h.given.trans (by rw [taken]; rfl)
  | settleMove reached =>
    rename_i p asked result dropped
    obtain ⟨yes, taken, rfl⟩ := h.settling reached rfl
    refine h.settle .through yes terminate_handed rfl rfl (by rintro q ⟨⟩) (fun q => ?_) ?_ ?_
    · exact (h.entry q).trans (by rw [taken]; rfl)
    · exact h.owner.trans (by rw [taken]; rfl)
    · refine terminate_terminalPorts.trans ?_
      rw [h.given, taken]
      rfl

theorem handle_goal (step : GoalStep node contact s act t) (early : s.main.early = s.handle.isNone) :
    ∀ g ∈ s.handle, ∃ g' ∈ t.handle, g'.goal = g.goal := by
  intro g owns
  rcases step_goal step with ⟨goal, reached, -⟩ | same
  · rw [reached, Option.mem_def.mp owns] at early
    cases early
  · exact same_goal same.symm owns

theorem planDecision_early {g : MoveGoal} {o : Outcome} {canceled : Bool} :
    (planDecision node g o canceled).early = false := by
  rcases planDecision_cases node g o canceled with ⟨-, -, submits⟩ | ⟨result, ends, -⟩
  · rw [submits]
    rfl
  · rw [ends]
    rfl

theorem early_step (step : GoalStep node contact s act t) (early : s.main.early = s.handle.isNone) :
    t.main.early = t.handle.isNone := by
  cases step with
  | decide owns => simp [planDecision_early, owns]
  | settleTake => simpa [erase_rest] using early
  | @transition _ _ _ dropped owns => cases dropped <;> simp [terminate, owns, Main.early]
  | @settleMove _ _ _ dropped => cases dropped <;> simpa [terminate] using early
  | mark owns => simpa [owns] using early
  | plan reached => simpa [reached, Main.early] using early
  | accept => rfl
  | rejectMove new | admitMove new | rejectExecute new | refuseExecute new | admitExecute new =>
    simpa [new, Main.early, GoalState.record] using early
  | submitAccept _ reached | submitReject _ reached =>
    simpa [reached, Main.early, GoalState.record] using early
  | cancel | cancelMiss | cancelLatch | backendCancelLook | cancelSend | cancelPlan
  | backendCancelSend | settle | settleMiss | settleAsk => exact early
  | backendRecord owns | backendHand owns | record owns | start owns | planned owns | find owns
  | lose owns | contactStop owns | invalid owns | settleLocal owns | erase owns | execute owns
  | register owns | hand owns | rereadLatched owns | rereadClear owns | recancel owns =>
    simp [owns, Main.early, GoalState.record, storeGoal]

theorem settling_step (step : GoalStep node contact s act t) (h : Settling s) : Settling t := by
  refine ⟨early_step step h.early, fun port owns => ?_⟩
  refine settlement_step step (h.settlement port fun g handle => ?_) owns
  obtain ⟨g', handle', same⟩ := handle_goal step h.early g handle
  exact same ▸ owns g' handle'

theorem Settling.owned (h : Settling s) {handle : GoalHandle} (owns : s.handle = some handle) :
    Settlement handle.goal.port s := by
  refine h.settlement _ fun other held => ?_
  rw [Option.some.inj (owns.symm.trans held)]

theorem settling_new : Settling {} where
  early := rfl
  settlement port _ := by
    refine ⟨fun p => ?_, rfl, rfl, fun _ => rfl, ?_, ?_, ?_⟩
    · cases p <;> rfl
    · rintro ⟨⟩
    · rintro ⟨⟩
    · rintro p ⟨⟩

/-- The Supervisor has settled the goal, or it ended without being handed over. -/
def completed (s : GoalState) : Bool :=
  if s.handed then s.settle = .ended else s.main.isFinished

theorem completed_through (h : s.completed = true) : s.stage = .through := by
  unfold completed at h
  unfold stage
  split at h
  · rw [if_pos ‹_›, of_decide_eq_true h]
    rfl
  · rw [if_neg ‹_›, Main.eq_finished h]
    rfl

end GoalState

theorem System.settling {node : Node} {acts : List Action} {s : System}
    (h : run (System.step node) System.init acts = some s) (id : GoalId) : (s.goal id).Settling :=
  System.goal_invariant
    (fun _ _ _ _ settling taken => GoalState.settling_step (GoalState.step_cases taken) settling)
    id (show (System.init.goal id).Settling from GoalState.settling_new) h

end KinovaGen3
