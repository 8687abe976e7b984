import Mathlib.Data.List.TakeWhile
import KinovaGen3.Lifecycle.Settlement

/-!
Cancels of a `PlannedMoveServer` goal. A cancel that finds the goal's entry latches
`cancel_requested` in it, and `on_plan_done` re-reads the latch after it has handed the goal over.
A cancel delivered before `handle_accepted` has recorded the goal finds no entry and latches
nothing.
-/

namespace KinovaGen3
open Transition

namespace CancelCall

def found : CancelCall → Bool
  | delivered => false
  | looked found _ _ | answered found _ | ended found _ => found

def missed : CancelCall → Bool
  | delivered => false
  | looked found _ _ | answered found _ | ended found _ => !found

/-- `handle_cancel` has returned `ACCEPT`. -/
def accepted : CancelCall → Bool
  | answered _ reply | ended _ reply => reply = .accept
  | _ => false

end CancelCall

def sinceHandOver (log : List Event) : List Event := log.dropWhile (!·.isHandOver)

def Main.executes : Main → Bool
  | registering _ | handing _ | rereading | recanceling _ | finished => true
  | _ => false

def Main.between : Main → Bool
  | accepted | recanceling _ | finished => false
  | _ => true

theorem mem_sinceHandOver_append {log more : List Event} {e : Event} (h : e ∈ sinceHandOver log) :
    e ∈ sinceHandOver (log ++ more) := by
  unfold sinceHandOver at h ⊢
  rw [List.dropWhile_append]
  split
  · rename_i empty
    rw [List.isEmpty_iff.mp empty] at h
    cases h
  · exact List.mem_append_left _ h

theorem mem_sinceHandOver_last {s : GoalState} {e : Event} (handed : s.handed = true) :
    e ∈ sinceHandOver (s.log ++ [e]) := by
  unfold sinceHandOver
  rw [List.dropWhile_append]
  split
  · rename_i empty
    obtain ⟨first, member, hands⟩ := List.any_eq_true.mp handed
    have all := List.dropWhile_eq_nil_iff.mp (List.isEmpty_iff.mp empty) first member
    simp [hands] at all
  · exact List.mem_append_right _ (List.mem_singleton_self e)

namespace GoalState

def canceledSince (token : Token) (s : GoalState) : Prop := .cancelSent token ∈ sinceHandOver s.log

/-- The call is still to find the entry, is about to send its cancel, or one was sent since. -/
def Served (g : MoveGoal) (s : GoalState) (call : CancelCall) : Prop :=
  call = .delivered ∨ call = .looked true true g.token ∨ s.canceledSince g.token

/-- What keeps the cancels of a move goal from being lost. -/
structure CancelKept (g : MoveGoal) (s : GoalState) : Prop where
  token : ∀ entry ∈ s.goals g.server, entry.token = g.token
  looked : ∀ executing token, .looked true executing token ∈ s.cancels → token = g.token
  again : ∀ token, s.main = .recanceling token → token = g.token
  unrecorded : s.main = .accepted → ∀ call ∈ s.cancels, call.found = false
  latched : ∀ entry ∈ s.goals g.server, ∀ call ∈ s.cancels, call.found = true →
    entry.cancelRequested = true
  executing : s.main.executes = true → ∀ entry ∈ s.goals g.server, entry.executing = true
  served : s.main = .finished → (s.goals g.server).isSome → ∀ call ∈ s.cancels, s.Served g call

variable {node : Node} {contact : ContactState} {s t : GoalState} {g : MoveGoal}

theorem Served.mono {call : CancelCall} {more : List Event} (h : s.Served g call)
    (log : t.log = s.log ++ more) : t.Served g call := by
  rcases h with rfl | rfl | sent
  · exact Or.inl rfl
  · exact Or.inr (Or.inl rfl)
  · refine Or.inr (Or.inr ?_)
    unfold canceledSince at sent ⊢
    rw [log]
    exact mem_sinceHandOver_append sent

/-- A step of other threads: entries are only ever taken away. -/
theorem CancelKept.frame (h : CancelKept g s) {more : List Event} (log : t.log = s.log ++ more)
    (goals : ∀ entry ∈ t.goals g.server, entry ∈ s.goals g.server) (cancels : t.cancels = s.cancels)
    (main : t.main = s.main ∨
      t.main.between = true ∧ (t.main.executes = true → s.main.executes = true)) :
    CancelKept g t := by
  refine ⟨fun entry found => h.token entry (goals entry found), ?_, ?_, ?_, ?_, ?_, ?_⟩
  · rw [cancels]
    exact h.looked
  · intro token here
    rcases main with same | ⟨between, -⟩
    · exact h.again token (same ▸ here)
    · simp [here, Main.between] at between
  · intro here
    rcases main with same | ⟨between, -⟩
    · rw [cancels]
      exact h.unrecorded (same ▸ here)
    · simp [here, Main.between] at between
  · rw [cancels]
    exact fun entry found => h.latched entry (goals entry found)
  · intro executes entry found
    rcases main with same | ⟨-, before⟩
    · exact h.executing (same ▸ executes) entry (goals entry found)
    · exact h.executing (before executes) entry (goals entry found)
  · intro here found call member
    rcases main with same | ⟨between, -⟩
    · obtain ⟨entry, found⟩ := Option.isSome_iff_exists.mp found
      rw [cancels] at member
      exact (h.served (same ▸ here) (by rw [goals entry found]; rfl) call member).mono log
    · simp [here, Main.between] at between

theorem CancelKept.move {m : Main} (h : CancelKept g s) (between : m.between = true)
    (executes : m.executes = true → s.main.executes = true) : CancelKept g { s with main := m } :=
  h.frame (List.append_nil _).symm (fun _ => id) rfl (Or.inr ⟨between, executes⟩)

theorem CancelKept.moveRecord {m : Main} {e : Event} (h : CancelKept g s)
    (between : m.between = true) (executes : m.executes = true → s.main.executes = true) :
    CancelKept g { s.record e with main := m } :=
  h.frame rfl (fun _ => id) rfl (Or.inr ⟨between, executes⟩)

theorem CancelKept.finish (h : CancelKept g s)
    (goals : ∀ entry ∈ t.goals g.server, entry ∈ s.goals g.server) (cancels : t.cancels = s.cancels)
    (main : t.main = .finished) (executing : ∀ entry ∈ t.goals g.server, entry.executing = true)
    (served : (t.goals g.server).isSome → ∀ call ∈ s.cancels, t.Served g call) :
    CancelKept g t := by
  refine ⟨fun entry found => h.token entry (goals entry found), ?_, ?_, ?_, ?_, fun _ => executing, ?_⟩
  · rw [cancels]
    exact h.looked
  · rw [main]
    exact fun _ => nofun
  · rw [main]
    exact nofun
  · rw [cancels]
    exact fun entry found => h.latched entry (goals entry found)
  · rw [cancels]
    exact fun _ => served

/-- One `handle_cancel` moves, and the entry it may change keeps what the others rely on. -/
theorem CancelKept.call (h : CancelKept g s) {more : List Event} (log : t.log = s.log ++ more)
    (main : t.main = s.main) (call : CancelCall)
    (calls : ∀ c ∈ t.cancels, c ∈ s.cancels ∨ c = call)
    (goals : ∀ entry ∈ t.goals g.server, ∃ before ∈ s.goals g.server,
      entry.token = before.token ∧ entry.executing = before.executing ∧
      (before.cancelRequested = true → entry.cancelRequested = true))
    (token : ∀ executing token, call = .looked true executing token → token = g.token)
    (unrecorded : s.main = .accepted → call.found = false)
    (latched : call.found = true → ∀ entry ∈ t.goals g.server, entry.cancelRequested = true)
    (served : s.main = .finished → (s.goals g.server).isSome → t.Served g call) :
    CancelKept g t := by
  refine ⟨?_, ?_, ?_, ?_, ?_, ?_, ?_⟩
  · intro entry found
    obtain ⟨before, held, same, -⟩ := goals entry found
    rw [same, h.token before held]
  · intro executing key member
    rcases calls _ member with old | new
    · exact h.looked executing key old
    · exact token _ _ new.symm
  · rw [main]
    exact h.again
  · intro here c member
    rcases calls c member with old | rfl
    · exact h.unrecorded (main ▸ here) c old
    · exact unrecorded (main ▸ here)
  · intro entry found c member hit
    obtain ⟨before, held, -, -, keeps⟩ := goals entry found
    rcases calls c member with old | rfl
    · exact keeps (h.latched before held c old hit)
    · exact latched hit entry found
  · intro executes entry found
    obtain ⟨before, held, -, same, -⟩ := goals entry found
    rw [same, h.executing (main ▸ executes) before held]
  · intro here found c member
    obtain ⟨entry, found⟩ := Option.isSome_iff_exists.mp found
    obtain ⟨before, held, -⟩ := goals entry found
    have present : (s.goals g.server).isSome := by rw [Option.mem_def.mp held]; rfl
    rcases calls c member with old | rfl
    · exact (h.served (main ▸ here) present c old).mono log
    · exact served (main ▸ here) present

/-- A `handle_cancel` that has looked goes on: its entry is latched already, if it found one. -/
theorem CancelKept.callOn (h : CancelKept g s) {i : Nat} {old new : CancelCall} {more : List Event}
    (reached : s.cancels[i]? = some old) (calls : t.cancels = s.cancels.set i new)
    (same : new.found = old.found) (past : ∀ executing token, new ≠ .looked true executing token)
    (log : t.log = s.log ++ more) (main : t.main = s.main) (goals : t.goals = s.goals)
    (served : s.main = .finished → (s.goals g.server).isSome → s.Served g old → t.Served g new) :
    CancelKept g t := by
  have member := List.mem_of_getElem? reached
  refine h.call log main new (fun c set => List.mem_or_eq_of_mem_set (calls ▸ set))
    (fun entry found => ⟨entry, goals ▸ found, rfl, rfl, id⟩)
    (fun executing token looked => (past executing token looked).elim) (fun accepted => ?_)
    (fun hit entry found => ?_)
    (fun finished present => served finished present (h.served finished present old member))
  · rw [same]
    exact h.unrecorded accepted old member
  · rw [same] at hit
    exact h.latched entry (goals ▸ found) old member hit

/-! ### Every step -/

theorem planDecision_between {o : Outcome} {canceled : Bool} :
    (planDecision node g o canceled).between = true ∧
      (planDecision node g o canceled).executes = false := by
  rcases planDecision_cases node g o canceled with ⟨-, -, submits⟩ | ⟨result, ends, -⟩
  · rw [submits]
    exact ⟨rfl, rfl⟩
  · rw [ends]
    exact ⟨rfl, rfl⟩

theorem erase_goals (p : Port) (server : MoveServer) :
    ∀ entry ∈ (s.erase p).goals server, entry ∈ s.goals server := by
  intro entry found
  cases p with
  | backend => exact found
  | move other =>
    by_cases same : server = other
    · subst same
      simp [erase, storeGoal] at found
    · simpa [erase, storeGoal, same] using found

theorem Settlement.finished (h : Settlement (.move g.server) s) (main : s.main = .finished)
    (found : (s.goals g.server).isSome) : s.handed = true := by
  cases shown : s.handed with
  | true => rfl
  | false =>
    have through : s.stage = .through := by rw [stage, shown, if_neg Bool.false_ne_true, main]; rfl
    have entry := h.entry (.move g.server)
    rw [through] at entry
    exact (Bool.false_ne_true (entry.symm.trans found)).elim

theorem Settlement.unrecorded (h : Settlement (.move g.server) s) (main : s.main = .accepted) :
    s.goals g.server = none := by
  obtain ⟨-, fresh⟩ := h.unhanded .fresh (by rw [main]; rfl)
  have entry := h.entry (.move g.server)
  rw [fresh] at entry
  exact Option.isNone_iff_eq_none.mp (Option.isSome_eq_false_iff.mp entry)

/-- The steps at which no cancel of the goal is lost: each re-read of its entry finds the entry
latched or gone, unless every cancel so far found the entry. -/
def rereadsLatched (_ : ContactState) (s : GoalState) (act : GoalAction) : Bool :=
  match act, s.main, s.handle with
  | .main, .rereading, some ⟨.move g, _⟩ =>
    !s.cancels.any (·.missed) || (s.goals g.server).all (·.cancelRequested)
  | _, _, _ => true

theorem cancelKept_record (h : CancelKept g s) (reached : s.main = .accepted) :
    CancelKept g { s.storeGoal g.server (some ⟨false, false, g.token⟩) with main := .recorded } := by
  have fresh : ∀ entry ∈ (s.storeGoal g.server (some ⟨false, false, g.token⟩)).goals g.server,
      entry = ⟨false, false, g.token⟩ := by
    intro entry found
    simpa [storeGoal, eq_comm] using found
  refine ⟨fun entry found => ?_, h.looked, ?_, ?_, fun entry _ call member hit => ?_, ?_, ?_⟩
  · rw [fresh entry found]
  · rintro token ⟨⟩
  · rintro ⟨⟩
  · rw [h.unrecorded reached call member] at hit
    cases hit
  · rintro ⟨⟩
  · rintro ⟨⟩

theorem cancelKept_execute {tg : TrajectoryGoal} (h : CancelKept g s) :
    CancelKept g { s.storeGoal g.server ((s.goals g.server).map ({ · with executing := true })) with
      main := .registering tg } := by
  have stored : ∀ entry ∈ (s.storeGoal g.server
      ((s.goals g.server).map ({ · with executing := true }))).goals g.server,
      ∃ before ∈ s.goals g.server, entry = { before with executing := true } := by
    intro entry found
    simp only [storeGoal, Function.update_self, Option.mem_def, Option.map_eq_some_iff] at found
    obtain ⟨before, held, rfl⟩ := found
    exact ⟨before, held, rfl⟩
  refine ⟨fun entry found => ?_, h.looked, ?_, ?_, fun entry found => ?_, ?_, ?_⟩
  · obtain ⟨before, held, rfl⟩ := stored entry found
    exact h.token before held
  · rintro token ⟨⟩
  · rintro ⟨⟩
  · obtain ⟨before, held, rfl⟩ := stored entry found
    exact h.latched before held
  · intro _ entry found
    obtain ⟨before, held, rfl⟩ := stored entry found
    rfl
  · rintro ⟨⟩

theorem cancelKept_latch (h : CancelKept g s) (settlement : Settlement (.move g.server) s)
    {entry : Goal} (found : s.goals g.server = some entry) (i : Nat) :
    CancelKept g { s.storeGoal g.server (some { entry with cancelRequested := true }) with
      cancels := s.cancels.set i (.looked true entry.executing entry.token) } := by
  have stored : (s.storeGoal g.server (some { entry with cancelRequested := true })).goals g.server =
      some { entry with cancelRequested := true } := by simp [storeGoal]
  refine h.call (List.append_nil _).symm rfl _ (fun _ => List.mem_or_eq_of_mem_set)
    (fun after held => ?_) ?_ (fun accepted => ?_) (fun _ after held => ?_) (fun finished _ => ?_)
  · obtain rfl := Option.some.inj (stored.symm.trans held)
    exact ⟨entry, found, rfl, rfl, fun _ => rfl⟩
  · rintro executing token ⟨⟩
    exact h.token entry found
  · cases (settlement.unrecorded accepted).symm.trans found
  · obtain rfl := Option.some.inj (stored.symm.trans held)
    rfl
  · refine Or.inr (Or.inl ?_)
    rw [h.executing (by rw [finished]; rfl) entry found, h.token entry found]

/-- Behind an unlatched entry there is neither a cancel that found it nor, where the step is allowed,
one that missed it. -/
theorem CancelKept.delivered {status : HandleStatus} {entry : Goal} {call : CancelCall}
    (h : CancelKept g s) (handle : s.handle = some ⟨.move g, status⟩) (reached : s.main = .rereading)
    (found : s.goals g.server = some entry) (unlatched : entry.cancelRequested = false)
    (allowed : s.rereadsLatched contact .main = true) (member : call ∈ s.cancels) :
    call = .delivered := by
  cases kind : call.found with
  | true =>
    have latched := h.latched entry found call member kind
    exact (Bool.false_ne_true (unlatched.symm.trans latched)).elim
  | false =>
    cases call with
    | delivered => rfl
    | looked | answered | ended =>
      have missed : s.cancels.any (·.missed) = true :=
        List.any_eq_true.mpr ⟨_, member, by simpa [CancelCall.missed, CancelCall.found] using kind⟩
      simp [rereadsLatched, reached, handle, missed, found, unlatched] at allowed

theorem cancelKept_step {act : GoalAction} (step : GoalStep node contact s act t)
    (settlement : Settlement (.move g.server) s) (uncalled : s.handle = none → s.cancels = [])
    (early : s.main.early = s.handle.isNone) (h : CancelKept g s)
    (allowed : s.rereadsLatched contact act = true)
    (owns : ∀ handle ∈ t.handle, handle.goal = .move g) : CancelKept g t := by
  -- The steps that matter: the record, the latch, the re-read and the cancels that are sent.
  cases step with
  | rejectMove | admitMove | rejectExecute => exact h.move rfl (by rintro ⟨⟩)
  | refuseExecute | admitExecute => exact h.moveRecord rfl (by rintro ⟨⟩)
  | accept reached =>
    have calls : s.cancels = [] := by
      apply uncalled
      rw [reached] at early
      exact Option.isNone_iff_eq_none.mp early.symm
    refine ⟨h.token, h.looked, ?_, fun _ call member => ?_, h.latched, ?_, ?_⟩
    · rintro token ⟨⟩
    · rw [show _ = s.cancels from rfl, calls] at member
      cases member
    · rintro ⟨⟩
    · rintro ⟨⟩
  | backendRecord handle | backendHand handle => cases owns _ handle
  | backendCancelLook handle | backendCancelSend handle => cases owns _ handle
  | record handle reached =>
    obtain rfl := (ActionGoal.move.inj (owns _ handle)).symm
    exact cancelKept_record h reached
  | start | plan | find | contactStop | invalid | settleLocal => exact h.move rfl (by rintro ⟨⟩)
  | decide =>
    obtain ⟨between, plans⟩ := planDecision_between
    exact h.move between (fun executes => (Bool.false_ne_true (plans.symm.trans executes)).elim)
  | planned | submitAccept | submitReject => exact h.moveRecord rfl (by rintro ⟨⟩)
  | lose handle reached absent =>
    obtain rfl := (ActionGoal.move.inj (owns _ handle)).symm
    refine h.finish (fun _ => id) rfl rfl (fun entry found => ?_) (fun found => ?_)
    · cases absent.symm.trans found
    · rw [show _ = s.goals g.server from rfl, absent] at found
      cases found
  | erase handle reached =>
    obtain rfl := (ActionGoal.move.inj (owns _ handle)).symm
    have gone : (s.storeGoal g.server none).goals g.server = none := by simp [storeGoal]
    refine h.finish (fun entry found => ?_) rfl rfl (fun entry found => ?_) (fun found => ?_)
    · cases gone.symm.trans found
    · cases gone.symm.trans found
    · cases found.symm.trans (congrArg Option.isSome gone)
  | execute handle reached =>
    obtain rfl := (ActionGoal.move.inj (owns _ handle)).symm
    exact cancelKept_execute h
  | register handle reached =>
    exact h.frame (List.append_nil _).symm (fun _ => id) rfl (Or.inr ⟨rfl, by rw [reached]; exact id⟩)
  | hand handle reached => exact h.moveRecord rfl (by rw [reached]; exact id)
  | rereadLatched handle reached found =>
    obtain rfl := (ActionGoal.move.inj (owns _ handle)).symm
    refine ⟨h.token, h.looked, ?_, ?_, h.latched, fun _ => ?_, ?_⟩
    · rintro token ⟨⟩
      exact h.token _ found
    · rintro ⟨⟩
    · exact h.executing (by rw [reached]; rfl)
    · rintro ⟨⟩
  | rereadClear handle reached clear =>
    obtain rfl := (ActionGoal.move.inj (owns _ handle)).symm
    refine h.finish (fun _ => id) rfl rfl (h.executing (by rw [reached]; rfl)) fun found call member => ?_
    obtain ⟨entry, found⟩ := Option.isSome_iff_exists.mp found
    exact Or.inl (h.delivered handle reached found (clear entry found) allowed member)
  | recancel handle reached =>
    obtain rfl := h.again _ reached
    refine h.finish (fun _ => id) rfl rfl (h.executing (by rw [reached]; rfl)) fun _ call _ => ?_
    have handed := settlement.reading (by rw [reached]; rfl)
    exact Or.inr (Or.inr (mem_sinceHandOver_last handed))
  | transition => exact h.frame rfl (fun _ => id) rfl (Or.inr ⟨rfl, by rintro ⟨⟩⟩)
  | cancel =>
    refine h.call (List.append_nil _).symm rfl .delivered (fun c member => ?_) (fun entry found => ?_)
      (by rintro _ _ ⟨⟩) (fun _ => rfl) (by rintro ⟨⟩) (fun _ _ => Or.inl rfl)
    · exact (List.mem_append.mp member).imp_right List.mem_singleton.mp
    · exact ⟨entry, found, rfl, rfl, id⟩
  | cancelMiss handle reached absent =>
    obtain rfl := (ActionGoal.move.inj (owns _ handle)).symm
    refine h.call (List.append_nil _).symm rfl _ (fun _ => List.mem_or_eq_of_mem_set)
      (fun entry found => ⟨entry, found, rfl, rfl, id⟩) (by rintro _ _ ⟨⟩) (fun _ => rfl) (by rintro ⟨⟩)
      (fun _ found => ?_)
    rw [absent] at found
    cases found
  | cancelLatch handle reached found =>
    obtain rfl := (ActionGoal.move.inj (owns _ handle)).symm
    exact cancelKept_latch h settlement found _
  | cancelSend handle reached =>
    refine h.callOn reached rfl rfl (by rintro _ _ ⟨⟩) (List.append_assoc _ [_] [_]) rfl rfl
      fun finished present kept => Or.inr (Or.inr ?_)
    rcases kept with waiting | pending | sent
    · cases waiting
    · cases pending
      exact mem_sinceHandOver_append (mem_sinceHandOver_last (settlement.finished finished present))
    · exact mem_sinceHandOver_append (mem_sinceHandOver_append sent)
  | cancelPlan handle reached =>
    refine h.callOn reached rfl rfl (by rintro _ _ ⟨⟩) rfl rfl rfl fun _ _ kept => ?_
    rcases kept with waiting | pending | sent
    · cases waiting
    · cases pending
    · exact Or.inr (Or.inr (mem_sinceHandOver_append sent))
  | mark handle reached =>
    refine h.callOn reached rfl rfl (by rintro _ _ ⟨⟩) (List.append_nil _).symm rfl rfl
      fun _ _ kept => ?_
    rcases kept with waiting | pending | sent
    · cases waiting
    · cases pending
    · exact Or.inr (Or.inr sent)
  | settle | settleMiss | settleAsk =>
    exact h.frame (List.append_nil _).symm (fun _ => id) rfl (Or.inl rfl)
  | settleTake =>
    rename_i port result reached held dropped
    have cancels : (s.erase port).cancels = s.cancels := by cases port <;> rfl
    obtain ⟨-, -, main, log⟩ := erase_rest (s := s) port
    exact h.frame (log.trans (List.append_nil _).symm) (erase_goals port g.server) cancels (Or.inl main)
  | settleMove => exact h.frame rfl (fun _ => id) rfl (Or.inl rfl)

structure CancelsKept (s : GoalState) : Prop where
  settling : Settling s
  uncalled : s.handle = none → s.cancels = []
  kept : ∀ g, (∀ handle ∈ s.handle, handle.goal = .move g) → CancelKept g s

theorem uncalled_step {act : GoalAction} (step : GoalStep node contact s act t)
    (uncalled : s.handle = none → s.cancels = []) (absent : s.handle = none) : t.cancels = [] := by
  cases step with
  | cancel created => simp [absent] at created
  | cancelMiss owns | cancelLatch owns | backendCancelLook owns | cancelSend owns | cancelPlan owns
  | backendCancelSend owns | mark owns => cases absent.symm.trans owns
  | settleTake =>
    rename_i port result reached held dropped
    cases port <;> exact uncalled absent
  | _ => exact uncalled absent

theorem cancelsKept_step {act : GoalAction} (step : GoalStep node contact s act t)
    (h : CancelsKept s)
    (allowed : s.rereadsLatched contact act = true) : CancelsKept t := by
  have before : ∀ g, (∀ handle ∈ t.handle, handle.goal = .move g) →
      ∀ handle ∈ s.handle, handle.goal = .move g := by
    intro g owns handle held
    obtain ⟨later, held, same⟩ := handle_goal step h.settling.early handle held
    rw [← same]
    exact owns later held
  refine ⟨settling_step step h.settling, fun absent => ?_, fun g owns => ?_⟩
  · have absent' : s.handle = none := by
      cases shown : s.handle with
      | none => rfl
      | some handle =>
        obtain ⟨later, held, -⟩ := handle_goal step h.settling.early handle shown
        cases absent.symm.trans held
    exact uncalled_step step h.uncalled absent'
  · have mine := before g owns
    have settlement : Settlement (.move g.server) s := by
      refine h.settling.settlement _ fun handle held => ?_
      rw [mine handle held]
      rfl
    exact cancelKept_step step settlement h.uncalled h.settling.early (h.kept g mine) allowed owns

theorem cancelsKept_new : CancelsKept {} where
  settling := settling_new
  uncalled _ := rfl
  kept _ _ := ⟨nofun, nofun, nofun, nofun, nofun, nofun, nofun⟩

end GoalState

/-- In a run whose re-reads meet the condition, an accepted cancel of a goal that was handed over and
is not settled has been followed by an `on_trajectory_cancel` with the goal's token, at the latest
once `on_plan_done` has returned. -/
theorem cancel_not_lost (node : Node) (acts : List Action) (s : System) (id : GoalId) (g : MoveGoal)
    (status : HandleStatus) (h : run (System.step node) System.init acts = some s)
    (met : Meets (System.step node) (System.OnGoal id GoalState.rereadsLatched) System.init acts)
    (accepted : s.handle id = some ⟨.move g, status⟩)
    (canceled : ∃ call ∈ s.cancels id, call.accepted = true)
    (returned : s.main id = .finished) (unsettled : (s.goals g.server id).isSome = true) :
    .cancelSent g.token ∈ sinceHandOver (s.log id) := by
  have all : (s.goal id).CancelsKept :=
    System.goal_invariant_of_meets
      (fun _ _ _ _ held allowed taken =>
        GoalState.cancelsKept_step (GoalState.step_cases taken) held allowed)
      (show (System.init.goal id).CancelsKept from GoalState.cancelsKept_new) met h
  have kept := all.kept g fun handle held => by
    rw [← Option.some.inj (accepted.symm.trans held)]
  obtain ⟨call, member, answered⟩ := canceled
  rcases kept.served returned unsettled call member with rfl | rfl | sent
  · cases answered
  · cases answered
  · exact sent

/-! ### At the bench -/

def benchUnsettled (s : System) : Bool :=
  (match s.handle benchId with
    | some ⟨.move (.jointConfig g), _⟩ => g.token = (fun _ => 1)
    | _ => false) &&
  (s.cancels benchId).any (·.accepted) && (s.main benchId).isFinished &&
  (s.goals .goToJointConfig benchId).isSome

theorem benchUnsettled_spec {s : System} (h : benchUnsettled s = true) :
    ∃ g status, s.handle benchId = some ⟨.move (.jointConfig g), status⟩ ∧ g.token = (fun _ => 1) ∧
      (∃ call ∈ s.cancels benchId, call.accepted = true) ∧ s.main benchId = .finished ∧
      (s.goals .goToJointConfig benchId).isSome = true := by
  simp only [benchUnsettled, Bool.and_eq_true, List.any_eq_true] at h
  obtain ⟨⟨⟨goal, canceled⟩, returned⟩, unsettled⟩ := h
  split at goal
  · rename_i g status owns
    exact ⟨g, status, owns, of_decide_eq_true goal, canceled, Main.eq_finished returned, unsettled⟩
  · cases goal

/-- A cancel between the sink's acceptance of the plan and the re-read. -/
def benchCanceled : List GoalAction :=
  benchAccept ++ benchPlanning ++ [.planner benchReply, .main, .main, .main, .submit .accept,
    .cancel, .cancelStep 0 .accept, .main, .main, .main, .cancelStep 0 .accept, .main, .main,
    .cancelStep 0 .accept]

theorem cancel_not_lost_benchCanceled : ∃ s,
    run (System.step benchNode) System.init (bench benchCanceled) = some s ∧
      .cancelSent (fun _ => 1) ∈ sinceHandOver (s.log benchId) := by
  obtain ⟨s, ran, reached⟩ := run_reaches (System.step benchNode) System.init (bench benchCanceled)
    benchUnsettled (by decide +kernel)
  obtain ⟨g, status, accepted, token, canceled, returned, unsettled⟩ := benchUnsettled_spec reached
  refine ⟨s, ran, token ▸ cancel_not_lost benchNode _ s benchId (.jointConfig g) status ran ?_ accepted
    canceled returned unsettled⟩
  decide +kernel

/-- A cancel whose locked section runs before the goal is recorded, and which rclcpp marks on the
handle only once `on_plan_done` has asked for the mark. -/
def benchEarlyCancel : List GoalAction :=
  benchAccept ++ [.cancel, .cancelStep 0 .accept, .cancelStep 0 .accept] ++ benchPlanning ++
    [.planner benchReply, .main, .main, .main, .cancelStep 0 .accept, .submit .accept, .main, .main,
      .main, .main]

theorem cancel_lost : ¬ ∀ (node : Node) (acts : List Action) (s : System) (id : GoalId)
    (g : MoveGoal) (status : HandleStatus),
    run (System.step node) System.init acts = some s → s.handle id = some ⟨.move g, status⟩ →
    (∃ call ∈ s.cancels id, call.accepted = true) → s.main id = .finished →
    (s.goals g.server id).isSome = true → .cancelSent g.token ∈ sinceHandOver (s.log id) := by
  intro reaches
  obtain ⟨s, ran, reached⟩ := run_reaches (System.step benchNode) System.init
    (bench benchEarlyCancel)
    (fun s => benchUnsettled s && decide (.cancelSent (fun _ => 1) ∉ sinceHandOver (s.log benchId)))
    (by decide +kernel)
  obtain ⟨reached, unsent⟩ := Bool.and_eq_true_iff.mp reached
  obtain ⟨g, status, accepted, token, canceled, returned, unsettled⟩ := benchUnsettled_spec reached
  have sent := reaches benchNode _ s benchId (.jointConfig g) status ran accepted canceled returned unsettled
  exact of_decide_eq_true unsent (token ▸ sent)

end KinovaGen3
