import KinovaGen3.Lifecycle.Ending

/-!
A cancel that lands while its goal is planning. `on_plan_done` asks the handle whether it is
canceling, which it is only after `handle_cancel` has returned; the latch the cancel has already set
is not consulted there.
-/

namespace KinovaGen3
open Transition

def Main.planning? : Main → Bool
  | recorded | planning _ => true
  | _ => false

namespace GoalState

/-- The steps at which `on_plan_done` sees a cancel that is latched: its question to the handle comes
when the handle is canceling, if the entry is latched. -/
def asksMarked (_ : ContactState) (s : GoalState) (act : GoalAction) : Bool :=
  match act, s.main, s.handle with
  | .main, .found _, some ⟨.move g, status⟩ =>
    !(s.goals g.server).any (·.cancelRequested) || status = .canceling
  | _, _, _ => true

variable {node : Node} {contact : ContactState} {s t : GoalState} {g : MoveGoal} {act : GoalAction}

structure CancelPending (g : MoveGoal) (s : GoalState) : Prop where
  pending : Pending g s
  latched : ∃ entry, s.goals g.server = some entry ∧ entry.cancelRequested = true

def Preempted (s : GoalState) : Prop := ∃ result, Ends result s ∧ result.errorCode = ResultCode.kPreempted

def CanceledUnmoved (s : GoalState) : Prop :=
  s.handed = false ∧ ∃ result, s.terminalResults = [result] ∧ result.errorCode = ResultCode.kPreempted

def Escaped (s : GoalState) : Prop :=
  Submitted s ∨ Handing s ∨ ∃ result, Ends result s ∧ result.errorCode ≠ ResultCode.kPreempted

/-- A latched cancel of a pending goal preempts it at the next decision, if that sees the mark. -/
theorem cancelPending_step (step : GoalStep node contact s act t) (h : CancelPending g s) :
    CancelPending g t ∧ s.asksMarked contact act = true ∨
      (if s.asksMarked contact act then Preempted t else Escaped t) := by
  obtain ⟨entry, found, latched⟩ := h.latched
  obtain ⟨pending, ⟨entry', found', keeps⟩, undecided⟩ | ⟨o, status, rfl, reached, owns, rfl⟩ :=
    pending_step step h.pending found
  · refine Or.inl ⟨⟨pending, entry', found', keeps latched⟩, ?_⟩
    unfold asksMarked
    split
    · exact (undecided rfl _ ‹_›).elim
    · rfl
  · right
    have marked : s.asksMarked contact .main = decide (status = .canceling) := by
      simp [asksMarked, reached, owns, found, latched]
    rw [marked]
    unfold GoalHandle.isCanceling
    obtain ⟨uncanceled, submitted⟩ | ⟨result, ends, code⟩ := planDecision_ends node o
      (decide (status = .canceling)) h.pending
    · rw [if_neg (Bool.eq_false_iff.mp uncanceled)]
      exact Or.inl submitted
    · split
      · exact ⟨result, ends, by rw [code, if_pos ‹_›]⟩
      · exact Or.inr (Or.inr ⟨result, ends, by rw [code, if_neg ‹_›]; decide⟩)

theorem Ends.asksMarked {result : TrajectoryResult} (h : Ends result s) :
    s.asksMarked contact act = true := by
  unfold GoalState.asksMarked
  split
  · have main := h.main
    rw [‹s.main = _›] at main
    exact main.elim
  · rfl

theorem preempted_step (step : GoalStep node contact s act t) (h : Preempted s) : Preempted t := by
  obtain ⟨result, ends, code⟩ := h
  exact ⟨result, ends_step step ends, code⟩

theorem escaped_step (step : GoalStep node contact s act t) (h : Escaped s) : Escaped t := by
  rcases h with submitted | handing | ⟨result, ends, code⟩
  · obtain ⟨submitted, -⟩ | ⟨-, handing⟩ | ⟨-, -, result, ends, code⟩ := submitted_step step submitted
    · exact Or.inl submitted
    · exact Or.inr (Or.inl handing)
    · refine Or.inr (Or.inr ⟨result, ends, ?_⟩)
      rw [code]
      split <;> decide
  · exact Or.inr (Or.inl (handing_step step handing))
  · exact Or.inr (Or.inr ⟨result, ends_step step ends, code⟩)

theorem cancelBound_step (step : GoalStep node contact s act t) (h : CancelPending g s ∨ Preempted s)
    (marked : s.asksMarked contact act = true) : CancelPending g t ∨ Preempted t := by
  rcases h with pending | preempted
  · have next := cancelPending_step step pending
    rw [if_pos marked] at next
    exact next.imp_left And.left
  · exact Or.inr (preempted_step step preempted)

theorem cancelBound_escape (step : GoalStep node contact s act t)
    (h : CancelPending g s ∨ Preempted s) (unmarked : s.asksMarked contact act = false) :
    Escaped t := by
  rcases h with pending | ⟨result, ends, -⟩
  · have next := cancelPending_step step pending
    rw [unmarked, if_neg Bool.false_ne_true] at next
    exact next.resolve_left fun stays => Bool.false_ne_true stays.2
  · cases unmarked.symm.trans ends.asksMarked

theorem Escaped.not_unmoved (h : Escaped s) (completed : s.completed = true) :
    ¬ CanceledUnmoved s := by
  intro ⟨unhanded, only, given, preempted⟩
  rcases h with submitted | handing | ⟨result, ends, code⟩
  · cases submitted.not_completed.symm.trans completed
  · cases unhanded.symm.trans (handing.completed completed)
  · rw [ends.completed completed] at given
    obtain rfl := List.singleton_inj.mp given
    exact code preempted

end GoalState

/-- A goal whose entry is latched before `on_plan_done` begins stays away from the Supervisor and
ends preempted in the runs in which `on_plan_done` finds the handle canceling, and in no others. -/
theorem planning_cancel_preempts (node : Node) (before acts : List Action) (s t : System)
    (id : GoalId) (g : MoveGoal) (status : HandleStatus) (entry : Goal)
    (front : run (System.step node) System.init before = some s)
    (accepted : s.handle id = some ⟨.move g, status⟩) (planning : (s.main id).planning? = true)
    (found : s.goals g.server id = some entry) (latched : entry.cancelRequested = true)
    (h : run (System.step node) s acts = some t) :
    (Meets (System.step node) (System.OnGoal id GoalState.asksMarked) s acts →
      (t.goal id).handed = false ∧
        ∀ result ∈ (t.goal id).terminalResults, result.errorCode = ResultCode.kPreempted) ∧
    ((t.goal id).completed = true →
      ((t.goal id).CanceledUnmoved ↔
        Meets (System.step node) (System.OnGoal id GoalState.asksMarked) s acts)) := by
  have start : (s.goal id).CancelPending g := by
    refine ⟨((System.settling front id).pending accepted ?_).1, entry, found, latched⟩
    cases shown : s.main id with
    | recorded | planning =>
      rw [show (s.goal id).main = s.main id from rfl, shown]
      rfl
    | _ => rw [shown] at planning; cases planning
  have ways := @System.goal_dichotomy node (fun s => s.CancelPending g ∨ s.Preempted)
    GoalState.Escaped id (fun _ _ _ => true) GoalState.asksMarked
    (fun _ _ _ _ bound _ marked taken =>
      GoalState.cancelBound_step (GoalState.step_cases taken) bound marked)
    (fun _ _ _ _ bound _ unmarked taken =>
      GoalState.cancelBound_escape (GoalState.step_cases taken) bound unmarked)
    (fun _ _ _ _ escaped taken => GoalState.escaped_step (GoalState.step_cases taken) escaped)
    acts s t (Or.inl start) (meets_of_forall fun s act => by cases act <;> simp [System.OnGoal]) h
  refine ⟨fun met => ?_, fun completed => ⟨fun unmoved => ?_, fun met => ?_⟩⟩
  · obtain ⟨-, pending | ⟨result, ends, code⟩⟩ := ways.resolve_right fun way => way.1 met
    · refine ⟨pending.pending.handed, fun result given => ?_⟩
      rw [pending.pending.results] at given
      cases given
    · exact ⟨ends.handed, fun r given => by rw [ends.results r given, code]⟩
  · rcases ways with ⟨met, -⟩ | ⟨-, escaped⟩
    · exact met
    · exact (escaped.not_unmoved completed unmoved).elim
  · obtain ⟨-, pending | ⟨result, ends, code⟩⟩ := ways.resolve_right fun way => way.1 met
    · cases pending.pending.not_completed.symm.trans completed
    · exact ⟨ends.handed, result, ends.completed completed, code⟩

/-! ### At the bench -/

def benchLatched (s : System) : Bool :=
  (match s.handle benchId with
    | some ⟨.move (.jointConfig _), _⟩ => true
    | _ => false) &&
  (s.main benchId).planning? && (s.goals .goToJointConfig benchId).any (·.cancelRequested)

theorem benchLatched_spec {s : System} (h : benchLatched s = true) :
    ∃ g status entry, s.handle benchId = some ⟨.move (.jointConfig g), status⟩ ∧
      (s.main benchId).planning? = true ∧ s.goals .goToJointConfig benchId = some entry ∧
      entry.cancelRequested = true := by
  simp only [benchLatched, Bool.and_eq_true, Option.any_eq_true] at h
  obtain ⟨⟨goal, planning⟩, entry, found, latched⟩ := h
  split at goal
  · exact ⟨_, _, entry, ‹_›, planning, found, latched⟩
  · cases goal

def benchLatching : List GoalAction :=
  benchAccept ++ benchPlanning ++ [.cancel, .cancelStep 0 .accept, .cancelStep 0 .accept]

/-- rclcpp marks the handle before the planner answers. -/
def benchMarkedInTime : List GoalAction :=
  [.cancelStep 0 .accept, .planner .unavailable, .main, .main, .main, .main, .transition false, .main]

theorem planning_cancel_preempts_benchMarkedInTime : ∃ s t,
    run (System.step benchNode) System.init (bench benchLatching) = some s ∧
      run (System.step benchNode) s (bench benchMarkedInTime) = some t ∧
      (t.goal benchId).CanceledUnmoved := by
  obtain ⟨s, front, reached⟩ := run_reaches (System.step benchNode) System.init (bench benchLatching)
    (fun s => benchLatched s &&
      (run (System.step benchNode) s (bench benchMarkedInTime)).any
        (fun t => (t.goal benchId).completed) &&
      decide (Meets (System.step benchNode) (System.OnGoal benchId GoalState.asksMarked) s
        (bench benchMarkedInTime))) (by decide +kernel)
  simp only [Bool.and_eq_true, decide_eq_true_eq] at reached
  obtain ⟨⟨latched, ends⟩, met⟩ := reached
  obtain ⟨g, status, entry, accepted, planning, found, latched⟩ := benchLatched_spec latched
  obtain ⟨t, back, completed⟩ := run_reaches _ _ _ _ ends
  exact ⟨s, t, front, back, ((planning_cancel_preempts benchNode _ _ s t benchId (.jointConfig g) status
    entry front accepted planning found latched back).2 completed).mpr met⟩

/-- The plan is processed before `handle_cancel` has returned. -/
def benchPlanRaces : List GoalAction :=
  [.planner benchReply, .main, .main, .main, .submit .accept, .main, .main, .main,
    .cancelStep 0 .accept]

theorem planning_cancel_escapes : ¬ ∀ (node : Node) (before acts : List Action) (s t : System)
    (id : GoalId) (g : MoveGoal) (status : HandleStatus) (entry : Goal),
    run (System.step node) System.init before = some s →
    s.handle id = some ⟨.move g, status⟩ → (s.main id).planning? = true →
    s.goals g.server id = some entry → entry.cancelRequested = true →
    run (System.step node) s acts = some t →
    (t.goal id).handed = false ∧
      ∀ result ∈ (t.goal id).terminalResults, result.errorCode = ResultCode.kPreempted := by
  intro preempts
  obtain ⟨s, front, reached⟩ := run_reaches (System.step benchNode) System.init (bench benchLatching)
    (fun s => benchLatched s &&
      (run (System.step benchNode) s (bench benchPlanRaces)).any (fun t => (t.goal benchId).handed))
    (by decide +kernel)
  obtain ⟨latched, moves⟩ := Bool.and_eq_true_iff.mp reached
  obtain ⟨g, status, entry, accepted, planning, found, latched⟩ := benchLatched_spec latched
  obtain ⟨t, back, handed⟩ := run_reaches _ _ _ _ moves
  have unhanded := (preempts benchNode _ _ s t benchId (.jointConfig g) status entry front accepted planning
    found latched back).1
  exact Bool.false_ne_true (unhanded.symm.trans handed)

end KinovaGen3
