import KinovaGen3.Lifecycle.SharedPlanner

/-!
Whose plan a cancel reaches. While the planner has one plan at a time, the slot holds just that plan, so
a cancel of a goal that is not executing reaches it whether it is that goal's or another's.
-/

namespace KinovaGen3
open Transition

namespace PlannerClient
variable {ι : Type} [DecidableEq ι]

/-- The planner accepts no goal while it has one in flight. -/
def OneAtATime (s : PlannerClient ι) : PlannerAction ι → Prop
  | .goalResponse _ true => ∀ other ∈ s.accepted, s.inFlight other = false
  | _ => True

instance (s : PlannerClient ι) (act : PlannerAction ι) : Decidable (s.OneAtATime act) := by
  unfold OneAtATime
  split <;> infer_instance

structure OneInFlight (s : PlannerClient ι) : Prop where
  slot : s.SlotInv
  accepted : ∀ id, s.inFlight id = true → id ∈ s.accepted
  active : ∀ id, s.inFlight id = true → s.activeCancel = some id

variable {s t : PlannerClient ι} {act : PlannerAction ι}

omit [DecidableEq ι] in
theorem OneInFlight.iff (h : s.OneInFlight) {id : ι} : s.activeCancel = some id ↔ s.inFlight id = true :=
  ⟨h.slot.slot id, h.active id⟩

theorem OneInFlight.ground (h : s.OneInFlight) {i : ι} {p : Dispatch} (grounded : p.phase ≠ .inFlight)
    (slot : (s.setDispatch i p).SlotInv) : (s.setDispatch i p).OneInFlight := by
  refine ⟨slot, fun id flying => ?_, fun id flying => ?_⟩
  · exact h.accepted id (inFlight_of_grounded grounded flying).2
  · exact h.active id (inFlight_of_grounded grounded flying).2

theorem oneInFlight_step (h : s.OneInFlight) (taken : s.step act = some t) (one : s.OneAtATime act) :
    t.OneInFlight := by
  have slot : t.SlotInv := slotInv_step h.slot taken
  cases step_cases taken with
  | dispatch => exact h.ground (dispatched_grounded _ _) slot
  | @accept i p waiting sent =>
    have only : ∀ id, (s.setDispatch i { p with phase := .inFlight }).inFlight id = true → id = i := by
      intro id flying
      by_contra other
      rw [inFlight_setDispatch, if_neg other] at flying
      have grounded := one id (h.accepted id flying)
      exact Bool.false_ne_true (grounded.symm.trans flying)
    refine ⟨slot, fun id flying => ?_, fun id flying => ?_⟩
    · obtain rfl := only id flying
      exact List.mem_append_right _ (List.mem_singleton_self _)
    · exact congrArg some (only id flying).symm
  | @reject i p waiting sent =>
    have ended := ((h.slot.fired i p waiting).replied (by simp [sent]) .rejected).2
    exact h.ground (by simp [ended]) slot
  | @result i p succeeded r flying inFlight =>
    have ended := ((h.slot.fired i p flying).replied (by simp [inFlight]) (.result succeeded r)).2
    have none : ∀ id, (s.setDispatch i (replied p (.result succeeded r))).inFlight id = true → False := by
      intro id still
      obtain ⟨other, before⟩ := inFlight_of_grounded (by simp [ended]) still
      have here : s.inFlight i = true := by simp [inFlight_of_phase flying, inFlight]
      have same := (h.active id before).symm.trans (h.active i here)
      exact other (Option.some.inj same)
    exact ⟨slot, fun id still => (none id still).elim, fun id still => (none id still).elim⟩
  | cancel => exact ⟨slot, h.accepted, h.active⟩

omit [DecidableEq ι] in
theorem oneInFlight_start : ({} : PlannerClient ι).OneInFlight :=
  ⟨slotInv_start, nofun, nofun⟩

end PlannerClient

namespace SharedPlanner

def OnePlan (s : SharedPlanner) : SharedAction → Prop
  | .goalResponse plan accepted => s.client.OneAtATime (.goalResponse plan accepted)
  | _ => True

instance (s : SharedPlanner) (act : SharedAction) : Decidable (s.OnePlan act) := by
  unfold OnePlan
  split <;> infer_instance

/-- The step is a cancel that goes to the planner. -/
def cancelsPlan (s : SharedPlanner) : SharedAction → Bool
  | .node act => s.system.cancelsPlan act
  | _ => false

variable {node : Node} {s t : SharedPlanner} {act : SharedAction}

theorem oneInFlight_step (taken : s.step node act = some t) (one : s.OnePlan act)
    (h : s.client.OneInFlight) : t.client.OneInFlight := by
  cases step_cases taken with
  | node => exact h
  | cancel => exact @PlannerClient.oneInFlight_step _ _ s.client _ .cancel h rfl trivial
  | dispatch _ sent => exact PlannerClient.oneInFlight_step h sent trivial
  | accept accepted => exact PlannerClient.oneInFlight_step h accepted one
  | unavailable _ ended told =>
    rw [(answer_cases told).1]
    exact PlannerClient.oneInFlight_step h ended trivial
  | reject ended told =>
    rw [(answer_cases told).1]
    exact PlannerClient.oneInFlight_step h ended trivial
  | result ended told =>
    rw [(answer_cases told).1]
    exact PlannerClient.oneInFlight_step h ended trivial

theorem cancels_step (taken : s.step node act = some t) :
    t.client.cancels =
      s.client.cancels ++ if s.cancelsPlan act then s.client.activeCancel.toList else [] := by
  cases step_cases taken with
  | node _ _ keeps => simp [cancelsPlan, keeps]
  | cancel _ _ cancels => simp [cancelsPlan, cancels]
  | dispatch _ sent =>
    cases PlannerClient.step_cases sent with
    | dispatch => exact (List.append_nil _).symm
  | accept accepted =>
    cases PlannerClient.step_cases accepted with
    | accept => exact (List.append_nil _).symm
  | unavailable _ ended told | reject ended told | result ended told =>
    rw [(answer_cases told).1]
    cases PlannerClient.step_cases ended
    exact (List.append_nil _).symm

end SharedPlanner

end KinovaGen3
