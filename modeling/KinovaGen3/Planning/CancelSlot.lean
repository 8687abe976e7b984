import Mathlib.Logic.Function.Basic
import KinovaGen3.Library.Run
import KinovaGen3.Planning.PlannerClient

/-!
The one `active_cancel_` slot of `curobo_plan_client.cpp`, shared by every plan that is dispatched.
The goal response and the result of each dispatch arrive in that order; those of different dispatches
in any order.
-/

namespace KinovaGen3
open Transition Interaction

/-- A call of the client's, with the arm's own hold modes. -/
inductive PlannerCall where
  | plan (target : Pose) (startJoints : List Double) (hold : UInt8)
  | planToJoints (targetJoints startJoints : List Double)
  | blend (legs : List JointTrajectory) (blendRadius speedScale : List Double) (hold : List UInt8)
      (holdOrientation : List Quaternion)

namespace PlannerCall

def goal : PlannerCall → Except String PlannerGoal
  | plan target startJoints hold => (toPlanner hold).map (.planToPose target startJoints)
  | planToJoints targetJoints startJoints => .ok (.planToJoints targetJoints startJoints)
  | blend legs blendRadius speedScale hold holdOrientation =>
    (hold.mapM toPlanner).map (.blend legs blendRadius speedScale · holdOrientation)

/-- The call as the servers see it: a program that asks the planner at most once. -/
def program (feedbackPrefix : String) : PlannerCall → Planning Outcome
  | plan target startJoints hold => CuroboPlanClient.plan target startJoints hold feedbackPrefix
  | planToJoints targetJoints startJoints =>
    CuroboPlanClient.planToJoints targetJoints startJoints feedbackPrefix
  | blend legs blendRadius speedScale hold holdOrientation =>
    CuroboPlanClient.blend legs blendRadius speedScale hold holdOrientation feedbackPrefix

theorem program_eq (call : PlannerCall) (feedbackPrefix : String) :
    call.program feedbackPrefix =
      match call.goal with
      | .ok goal => CuroboPlanClient.dispatchPlan goal feedbackPrefix
      | .error why => .done { message := why } := by
  cases call with
  | planToJoints targetJoints startJoints => rfl
  | plan target startJoints hold =>
    simp only [program, goal, CuroboPlanClient.plan]
    cases toPlanner hold <;> rfl
  | blend legs blendRadius speedScale hold holdOrientation =>
    simp only [program, goal, CuroboPlanClient.blend]
    cases hold.mapM toPlanner <;> rfl

end PlannerCall

inductive PlanPhase where
  | sent | inFlight | finished
  deriving DecidableEq

/-- `done` is what `on_done` has been called with. -/
structure Dispatch where
  call : PlannerCall
  phase : PlanPhase
  done : Option Outcome := none

/-- `fire`: `on_done` is called once. -/
def Dispatch.fire (p : Dispatch) (o : Outcome) : Dispatch :=
  { p with phase := .finished, done := p.done.or (some o) }

/-- The client, with its dispatches named by `ι`. `accepted` and `cancels` log the goals that the
planner accepted and the ones it was asked to cancel. -/
structure PlannerClient (ι : Type) where
  dispatches : ι → Option Dispatch := fun _ => none
  activeCancel : Option ι := none
  accepted : List ι := []
  cancels : List ι := []

inductive PlannerAction (ι : Type) where
  | dispatch (id : ι) (call : PlannerCall) (available : Bool)
  | goalResponse (id : ι) (accepted : Bool)
  | result (id : ι) (succeeded : Bool) (result : Option PlannerResult)
  | cancel

namespace PlannerClient
variable {ι : Type} [DecidableEq ι]

def setDispatch (s : PlannerClient ι) (id : ι) (p : Dispatch) : PlannerClient ι :=
  { s with dispatches := Function.update s.dispatches id (some p) }

/-- What a call leaves when it returns: it has failed on the spot, or its goal is sent. -/
def dispatched (call : PlannerCall) (available : Bool) : Dispatch :=
  match call.goal with
  | .error why => Dispatch.fire { call := call, phase := .sent } { message := why }
  | .ok goal =>
    if available then { call := call, phase := .sent }
    else Dispatch.fire { call := call, phase := .sent } (PlannerReply.unavailable.outcome goal)

def replied (p : Dispatch) (reply : PlannerReply) : Dispatch :=
  match p.call.goal with
  | .ok goal => p.fire (reply.outcome goal)
  | .error _ => p

def step (s : PlannerClient ι) : PlannerAction ι → Option (PlannerClient ι)
  | .dispatch id call available =>
    match s.dispatches id with
    | none => some (s.setDispatch id (dispatched call available))
    | some _ => none
  | .goalResponse id accepted =>
    match s.dispatches id with
    | some p =>
      if p.phase = .sent then
        if accepted then
          some { s.setDispatch id { p with phase := .inFlight } with
            activeCancel := some id
            accepted := s.accepted ++ [id] }
        else some (s.setDispatch id (replied p .rejected))
      else none
    | none => none
  | .result id succeeded r =>
    match s.dispatches id with
    | some p =>
      if p.phase = .inFlight then
        some { s.setDispatch id (replied p (.result succeeded r)) with activeCancel := none }
      else none
    | none => none
  | .cancel => some { s with cancels := s.cancels ++ s.activeCancel.toList }

/-! ### What each step needs and does -/

inductive Step (s : PlannerClient ι) : PlannerAction ι → PlannerClient ι → Prop where
  | dispatch (fresh : s.dispatches i = none) :
      Step s (.dispatch i call available) (s.setDispatch i (dispatched call available))
  | accept (waiting : s.dispatches i = some p) (sent : p.phase = .sent) :
      Step s (.goalResponse i true)
        { s.setDispatch i { p with phase := .inFlight } with
          activeCancel := some i
          accepted := s.accepted ++ [i] }
  | reject (waiting : s.dispatches i = some p) (sent : p.phase = .sent) :
      Step s (.goalResponse i false) (s.setDispatch i (replied p .rejected))
  | result (flying : s.dispatches i = some p) (inFlight : p.phase = .inFlight) :
      Step s (.result i succeeded r)
        { s.setDispatch i (replied p (.result succeeded r)) with activeCancel := none }
  | cancel : Step s .cancel { s with cancels := s.cancels ++ s.activeCancel.toList }

theorem step_cases {s t : PlannerClient ι} {act : PlannerAction ι} (h : s.step act = some t) :
    s.Step act t := by
  cases act with
  | dispatch id call available =>
    dsimp only [step] at h
    split at h
    · rename_i fresh
      cases h
      exact .dispatch fresh
    · cases h
  | goalResponse id accepted =>
    dsimp only [step] at h
    split at h
    · rename_i p waiting
      split at h
      · rename_i sent
        cases accepted with
        | true =>
          cases h
          exact .accept waiting sent
        | false =>
          cases h
          exact .reject waiting sent
      · cases h
    · cases h
  | result id succeeded r =>
    dsimp only [step] at h
    split at h
    · rename_i p flying
      split at h
      · rename_i inFlight
        cases h
        exact .result flying inFlight
      · cases h
    · cases h
  | cancel =>
    cases h
    exact .cancel

/-! ### One outcome for each call -/

/-- A finished dispatch has fired, with an outcome of its call's program; another has not. -/
structure Fired (p : Dispatch) : Prop where
  waiting : p.phase ≠ .finished → p.done = none ∧ ∃ goal, p.call.goal = .ok goal
  finished : p.phase = .finished → ∃ o, p.done = some o ∧
    ∀ feedbackPrefix, ∃ trace, Runs (p.call.program feedbackPrefix) trace o

theorem fired_reply {call : PlannerCall} {goal : PlannerGoal} (planned : call.goal = .ok goal)
    (phase : PlanPhase) (reply : PlannerReply) :
    Fired (Dispatch.fire { call := call, phase := phase } (reply.outcome goal)) := by
  refine ⟨fun other => absurd rfl other, fun _ => ⟨reply.outcome goal, rfl, fun feedbackPrefix => ?_⟩⟩
  refine ⟨[⟨.planner goal feedbackPrefix, reply⟩], ?_⟩
  show Runs (call.program feedbackPrefix) _ _
  rw [call.program_eq, planned]
  exact CuroboPlanClient.runs_dispatchPlan.mpr ⟨reply, rfl, rfl⟩

theorem fired_dispatched (call : PlannerCall) (available : Bool) : Fired (dispatched call available) := by
  unfold dispatched
  split
  · rename_i why refused
    refine ⟨fun other => absurd rfl other, fun _ => ⟨{ message := why }, rfl, fun feedbackPrefix => ⟨[], ?_⟩⟩⟩
    show Runs (call.program feedbackPrefix) _ _
    rw [call.program_eq, refused]
    exact .done _
  · rename_i goal planned
    split
    · exact ⟨fun _ => ⟨rfl, goal, planned⟩, by rintro ⟨⟩⟩
    · exact fired_reply planned _ _

theorem Fired.replied {p : Dispatch} (h : Fired p) (waiting : p.phase ≠ .finished) (reply : PlannerReply) :
    Fired (replied p reply) ∧ (PlannerClient.replied p reply).phase = .finished := by
  obtain ⟨quiet, goal, planned⟩ := h.waiting waiting
  obtain ⟨call, phase, done⟩ := p
  obtain rfl : done = none := quiet
  have planned : call.goal = .ok goal := planned
  simp only [PlannerClient.replied, planned]
  exact ⟨fired_reply planned phase reply, rfl⟩

/-! ### The slot -/

def inFlight (s : PlannerClient ι) (id : ι) : Bool := (s.dispatches id).any (·.phase = .inFlight)

/-- What `active_cancel_` is for. The plan accepted last is the one that `cancel` must reach. -/
structure SlotRight (s : PlannerClient ι) : Prop where
  null : (∀ id, s.inFlight id = false) → s.activeCancel = none
  current : ∀ id, s.activeCancel = some id → ∃ p, s.dispatches id = some p ∧ p.phase ≠ .finished
  reaches : ∀ id, s.accepted.getLast? = some id → s.inFlight id = true →
    s.activeCancel = some id ∧ s.step .cancel = some { s with cancels := s.cancels ++ [id] }

/-- No result of another plan arrives while the plan accepted last is in flight. -/
def LastResultFirst (s : PlannerClient ι) : PlannerAction ι → Prop
  | .result id _ _ => s.inFlight id = true →
      ∀ last ∈ s.accepted.getLast?, s.inFlight last = true → last = id
  | _ => True

theorem inFlight_setDispatch (s : PlannerClient ι) (id other : ι) (p : Dispatch) :
    (s.setDispatch id p).inFlight other = if other = id then decide (p.phase = .inFlight) else s.inFlight other := by
  unfold inFlight setDispatch
  by_cases same : other = id
  · simp [same]
  · simp [same]

structure SlotInv (s : PlannerClient ι) : Prop where
  fired : ∀ id p, s.dispatches id = some p → Fired p
  slot : ∀ id, s.activeCancel = some id → s.inFlight id = true

section
variable {s t : PlannerClient ι} {act : PlannerAction ι}

theorem SlotInv.setDispatch (h : s.SlotInv) {id : ι} {p : Dispatch} (fired : Fired p)
    (idle : s.inFlight id = false) : (s.setDispatch id p).SlotInv := by
  constructor
  · intro other q held
    by_cases same : other = id
    · subst same
      simp only [PlannerClient.setDispatch, Function.update_self, Option.some.injEq] at held
      exact held ▸ fired
    · simp only [PlannerClient.setDispatch, Function.update_of_ne same] at held
      exact h.fired other q held
  · intro other active
    have flying : s.inFlight other = true := h.slot other active
    have different : other ≠ id := by
      rintro rfl
      simp [idle] at flying
    rw [inFlight_setDispatch, if_neg different]
    exact flying

omit [DecidableEq ι] in
theorem inFlight_of_phase {id : ι} {p : Dispatch} (held : s.dispatches id = some p) :
    s.inFlight id = decide (p.phase = .inFlight) := by
  simp [inFlight, held]

theorem inFlight_of_grounded {id other : ι} {p : Dispatch} (phase : p.phase ≠ .inFlight)
    (flying : (s.setDispatch id p).inFlight other = true) : other ≠ id ∧ s.inFlight other = true := by
  rw [inFlight_setDispatch] at flying
  split at flying
  · simp [phase] at flying
  · rename_i different
    exact ⟨different, flying⟩

theorem dispatched_grounded (call : PlannerCall) (available : Bool) :
    (dispatched call available).phase ≠ .inFlight := by
  unfold dispatched
  split
  · simp [Dispatch.fire]
  · split <;> simp [Dispatch.fire]

theorem slotInv_step (h : s.SlotInv) (taken : s.step act = some t) : t.SlotInv := by
  cases step_cases taken with
  | dispatch fresh =>
    apply h.setDispatch (fired_dispatched _ _)
    simp [inFlight, fresh]
  | @accept i p waiting sent =>
    have fired := h.fired i p waiting
    have accepted : Fired { p with phase := .inFlight } :=
      ⟨fun _ => fired.waiting (by simp [sent]), by rintro ⟨⟩⟩
    have idle : s.inFlight i = false := by simp [inFlight_of_phase waiting, sent]
    refine ⟨(h.setDispatch accepted idle).fired, ?_⟩
    intro other active
    have same : i = other := Option.some.inj active
    subst same
    show (s.setDispatch i { p with phase := .inFlight }).inFlight i = true
    simp [inFlight_setDispatch]
  | @reject i p waiting sent =>
    have fired := (h.fired i p waiting).replied (by simp [sent]) .rejected
    apply h.setDispatch fired.1
    simp [inFlight_of_phase waiting, sent]
  | @result i p succeeded r flying inFlight =>
    have fired := (h.fired i p flying).replied (by simp [inFlight]) (.result succeeded r)
    constructor
    · intro other q held
      by_cases same : other = i
      · subst same
        simp only [PlannerClient.setDispatch, Function.update_self, Option.some.injEq] at held
        exact held ▸ fired.1
      · simp only [PlannerClient.setDispatch, Function.update_of_ne same] at held
        exact h.fired other q held
    · rintro other ⟨⟩
  | cancel => exact ⟨h.fired, h.slot⟩

theorem SlotInv.right (h : s.SlotInv) (reaches : ∀ id, s.accepted.getLast? = some id →
    s.inFlight id = true → s.activeCancel = some id) : s.SlotRight := by
  refine ⟨fun none => ?_, fun id active => ?_, fun id last flying => ?_⟩
  · by_contra filled
    obtain ⟨id, active⟩ := Option.ne_none_iff_exists'.mp filled
    have flying := h.slot id active
    simp [none id] at flying
  · have flying := h.slot id active
    obtain ⟨p, held, phase⟩ := (Option.any_eq_true _ _).mp flying
    refine ⟨p, held, ?_⟩
    simp [of_decide_eq_true phase]
  · have active := reaches id last flying
    exact ⟨active, by simp [step, active]⟩

/-- A step keeps the slot right exactly if it is not the result of another plan. -/
theorem right_step_iff (h : s.SlotInv) (right : s.SlotRight) :
    (∀ t, s.step act = some t → t.SlotRight) ↔ s.LastResultFirst act := by
  constructor
  · intro kept
    cases act with
    | result i succeeded r =>
      intro flying last newest lastFlying
      by_contra other
      obtain ⟨p, held, phase⟩ := (Option.any_eq_true _ _).mp flying
      have phase : p.phase = .inFlight := of_decide_eq_true phase
      have taken : s.step (.result i succeeded r) = some
          { s.setDispatch i (replied p (.result succeeded r)) with activeCancel := none } := by
        simp [step, held, phase]
      have still : (s.setDispatch i (replied p (.result succeeded r))).inFlight last = true := by
        rw [inFlight_setDispatch, if_neg other]
        exact lastFlying
      have reached := ((kept _ taken).reaches last newest still).1
      cases reached
    | _ => trivial
  · intro first t taken
    refine (slotInv_step h taken).right ?_
    intro id last flying
    cases step_cases taken with
    | dispatch fresh =>
      have before := inFlight_of_grounded (dispatched_grounded _ _) flying
      exact (right.reaches id last before.2).1
    | @accept i p waiting sent =>
      have newest : i = id := by simpa [PlannerClient.setDispatch] using last
      exact congrArg some newest
    | @reject i p waiting sent =>
      have fired := (h.fired i p waiting).replied (by simp [sent]) .rejected
      have before := inFlight_of_grounded (by simp [fired.2]) flying
      exact (right.reaches id last before.2).1
    | @result i p succeeded r held phase =>
      have fired := (h.fired i p held).replied (by simp [phase]) (.result succeeded r)
      have before := inFlight_of_grounded (by simp [fired.2]) flying
      have own := first (by simp [inFlight_of_phase held, phase]) id last before.2
      exact absurd own before.1
    | cancel => exact (right.reaches id last flying).1

end

omit [DecidableEq ι] in
theorem slotInv_start : ({} : PlannerClient ι).SlotInv := ⟨by rintro _ _ ⟨⟩, by rintro _ ⟨⟩⟩

/-- In every run `on_done` is called once for each dispatch, and not before it is over. -/
theorem run_fired {acts : List (PlannerAction ι)} {s : PlannerClient ι}
    (h : run step ({} : PlannerClient ι) acts = some s) {id : ι} {p : Dispatch}
    (held : s.dispatches id = some p) : Fired p :=
  (run_invariant (fun _ _ _ => slotInv_step) slotInv_start h).fired id p held

/-- At every point of a run the slot is right, if no result of another plan arrives while the plan
accepted last is in flight, and only then. -/
theorem cancel_slot_right (acts : List (PlannerAction ι)) :
    (({} : PlannerClient ι).SlotRight ∧
        Meets step (fun s act => ∀ t, s.step act = some t → t.SlotRight) {} acts) ↔
      Meets step LastResultFirst ({} : PlannerClient ι) acts := by
  have start : ({} : PlannerClient ι).SlotInv := slotInv_start
  have right : ({} : PlannerClient ι).SlotRight := start.right (by rintro _ ⟨⟩)
  have always : Meets step (fun _ _ => True) ({} : PlannerClient ι) acts := meets_of_forall fun _ _ => trivial
  have same : ∀ (s : PlannerClient ι) act, s.SlotInv ∧ s.SlotRight → True →
      ((∀ t, s.step act = some t → t.SlotRight) ↔ s.LastResultFirst act) :=
    fun s act held _ => right_step_iff held.1 held.2
  rw [and_iff_right right]
  apply meets_congr same ?_ ⟨start, right⟩ always
  intro s act t held _ kept taken
  exact ⟨slotInv_step held.1 taken, kept t taken⟩

/-- Two plans, the first of which has its result only after the second is accepted. -/
def benchOverlap : List (PlannerAction Bool) :=
  [.dispatch false (.planToJoints [] []) true, .goalResponse false true,
    .dispatch true (.planToJoints [] []) true, .goalResponse true true, .result false true none]

theorem cancel_slot_lost : ¬ ∀ (ι : Type) [DecidableEq ι] (acts : List (PlannerAction ι))
    (s : PlannerClient ι), run step ({} : PlannerClient ι) acts = some s → s.SlotRight := by
  intro slotRight
  obtain ⟨s, ran, reached⟩ := run_reaches step ({} : PlannerClient Bool) benchOverlap
    (fun s => s.accepted.getLast? = some true && s.inFlight true && s.activeCancel.isNone) (by decide +kernel)
  simp only [Bool.and_eq_true, decide_eq_true_eq, Option.isNone_iff_eq_none] at reached
  obtain ⟨⟨last, flying⟩, empty⟩ := reached
  have active := ((slotRight Bool benchOverlap s ran).reaches true last flying).1
  rw [empty] at active
  cases active

end PlannerClient
end KinovaGen3
