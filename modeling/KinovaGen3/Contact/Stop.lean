import KinovaGen3.Backend.Ros2Backend
import KinovaGen3.Contact.Servers

/-!
A contact stop at the node's surfaces: the gripper's setpoints, the goals of every action and the diagnostics. The
check of a setpoint and the call of core are two steps, so a stop can come between them.
-/

namespace KinovaGen3
open Transition ContactServer SetContactThresholds

def ContactAction.setpoint? {σ : Type} : ContactAction σ → Option GripperSetpoint
  | setpoint m => some (toGripperSetpoint m)
  | _ => none

namespace ContactServers
variable {σ : Type} {w : ContactWiring σ} {s t : ContactServers σ} {act : ContactAction σ}

/-- The setpoint that `on_setpoint` has not finished with. -/
def pending (s : ContactServers σ) : Option GripperSetpoint :=
  match s.gripper with
  | .idle => none
  | .asking m | .passed m => some (toGripperSetpoint m)

/-- The setpoint that has passed the check and not reached core. -/
def inHand (s : ContactServers σ) : Option GripperSetpoint :=
  match s.gripper with
  | .passed m => some (toGripperSetpoint m)
  | _ => none

/-- Core reports a contact stop that is enforced. -/
def Halted (w : ContactWiring σ) (s : ContactServers σ) (_ : ContactAction σ) : Prop :=
  (w.sink.onQueryContact s.core).stopped = true ∧ (w.sink.onQueryContact s.core).detection = .enforce

def Clear (w : ContactWiring σ) (s : ContactServers σ) (_ : ContactAction σ) : Prop :=
  (w.sink.onQueryContact s.core).stopped = false

/-! ### A step -/

theorem ask_gripper {r : ContactThresholdsRequest} : (s.ask w r).gripper = s.gripper ∧
    (s.ask w r).forwarded = s.forwarded ∧ (s.ask w r).diagnostics = s.diagnostics := by
  unfold ask
  dsimp only
  split <;> exact ⟨rfl, rfl, rfl⟩

theorem begin_gripper {req : Request} : (s.begin w req).gripper = s.gripper ∧
    (s.begin w req).forwarded = s.forwarded ∧ (s.begin w req).diagnostics = s.diagnostics := by
  unfold begin
  split <;> exact ⟨rfl, rfl, rfl⟩

/-- What a step does to the setpoints, and what it reports. -/
inductive GripperStep (w : ContactWiring σ) (s t : ContactServers σ) : ContactAction σ → Prop where
  | came (free : s.gripper = .idle) (next : t.gripper = if w.asks then .asking m else .passed m)
      (forwarded : t.forwarded = s.forwarded) (quiet : t.diagnostics = s.diagnostics) :
      GripperStep w s t (.setpoint m)
  | stopped (reached : s.gripper = .asking m) (stop : (w.sink.onQueryContact s.core).stopped = true)
      (next : t.gripper = .idle) (forwarded : t.forwarded = s.forwarded)
      (quiet : t.diagnostics = s.diagnostics) : GripperStep w s t .gripperStep
  | passed (reached : s.gripper = .asking m) (clear : (w.sink.onQueryContact s.core).stopped = false)
      (next : t.gripper = .passed m) (forwarded : t.forwarded = s.forwarded)
      (quiet : t.diagnostics = s.diagnostics) : GripperStep w s t .gripperStep
  | gave (reached : s.gripper = .passed m) (next : t.gripper = .idle)
      (forwarded : t.forwarded = s.forwarded ++ [toGripperSetpoint m])
      (quiet : t.diagnostics = s.diagnostics) : GripperStep w s t .gripperStep
  | diagnosed (same : t.gripper = s.gripper) (forwarded : t.forwarded = s.forwarded)
      (told : t.diagnostics =
        s.diagnostics ++ [contactDiagnostics (w.sink.onQueryContact s.core) w.detection]) :
      GripperStep w s t .diagnose
  | other {act : ContactAction σ} (none : act.setpoint? = none) (same : t.gripper = s.gripper)
      (forwarded : t.forwarded = s.forwarded)
      (quiet : t.diagnostics = s.diagnostics) : GripperStep w s t act

theorem gripperStep_cases (moved : s.step w act = some t) : GripperStep w s t act := by
  cases act with
  | set req =>
    dsimp only [step] at moved
    split at moved
    · cases moved
      obtain ⟨gripper, forwarded, diagnostics⟩ := @begin_gripper _ w s req
      exact .other rfl gripper forwarded diagnostics
    · cases moved
  | setStep =>
    dsimp only [step] at moved
    split at moved
    · cases moved
    · rename_i r _
      cases moved
      obtain ⟨gripper, forwarded, diagnostics⟩ := @ask_gripper _ w s r
      exact .other rfl gripper forwarded diagnostics
    · cases moved
      exact .other rfl rfl rfl rfl
  | setpoint m =>
    dsimp only [step] at moved
    split at moved
    · cases moved
      exact .came ‹_› rfl rfl rfl
    · cases moved
  | gripperStep =>
    dsimp only [step] at moved
    have shown := contactRejection_isSome (w.sink.onQueryContact s.core).toContactState
    split at moved
    · cases moved
    · rename_i m reached
      split at moved
      · rename_i why
        cases moved
        rw [why] at shown
        exact .stopped reached shown.symm rfl rfl rfl
      · rename_i none
        cases moved
        rw [none] at shown
        exact .passed reached shown.symm rfl rfl rfl
    · cases moved
      exact .gave ‹_› rfl rfl rfl
  | diagnose =>
    cases moved
    exact .diagnosed rfl rfl rfl
  | outside core =>
    cases moved
    exact .other rfl rfl rfl rfl

/-- A setpoint is forwarded or pending, unless a stop has dropped it. -/
theorem forwards_step (step : GripperStep w s t act) :
    t.forwarded ++ t.pending.toList = s.forwarded ++ s.pending.toList ++ act.setpoint?.toList ∨
      (w.sink.onQueryContact s.core).stopped = true ∧ act.setpoint? = none ∧
        t.forwarded ++ t.pending.toList = s.forwarded := by
  cases step with
  | @came m free next forwarded =>
    left
    have waits : t.pending = some (toGripperSetpoint m) := by
      unfold pending
      rw [next]
      cases w.asks <;> rfl
    have idle : s.pending = none := by
      unfold pending
      rw [free]
    rw [waits, idle, forwarded]
    simp [ContactAction.setpoint?]
  | stopped reached stop next forwarded => exact Or.inr ⟨stop, rfl, by simp [pending, next, forwarded]⟩
  | passed reached clear next forwarded =>
    left
    simp [pending, reached, next, forwarded, ContactAction.setpoint?]
  | gave reached next forwarded =>
    left
    simp [pending, reached, next, forwarded, ContactAction.setpoint?]
  | diagnosed same forwarded =>
    left
    simp [pending, same, forwarded, ContactAction.setpoint?]
  | other none same forwarded =>
    left
    simp [pending, same, forwarded, none]

/-- What has become of a stretch of the run that began in `first`: nothing has passed the check since. -/
structure Held (first s : ContactServers σ) : Prop where
  kept : s.forwarded ++ s.inHand.toList = first.forwarded ++ first.inHand.toList
  later : first.forwarded <+: s.forwarded
  told : ∃ told, s.diagnostics = first.diagnostics ++ told ∧ ∀ d ∈ told, d.level = .error

theorem held_step {first : ContactServers σ} (asks : w.asks = true) (halted : Halted w s act)
    (h : Held first s) (step : GripperStep w s t act) : Held first t := by
  obtain ⟨kept, later, told⟩ := h
  cases step with
  | came free next forwarded quiet =>
    rw [asks, if_pos rfl] at next
    refine ⟨?_, forwarded ▸ later, quiet ▸ told⟩
    simpa [inHand, next, free, forwarded] using kept
  | stopped reached stop next forwarded quiet =>
    refine ⟨?_, forwarded ▸ later, quiet ▸ told⟩
    simpa [inHand, next, reached, forwarded] using kept
  | passed reached clear =>
    cases halted.1.symm.trans clear
  | gave reached next forwarded quiet =>
    refine ⟨?_, later.trans ⟨_, forwarded.symm⟩, quiet ▸ told⟩
    simpa [inHand, next, reached, forwarded] using kept
  | diagnosed same forwarded here =>
    obtain ⟨before, logged, errors⟩ := told
    refine ⟨?_, forwarded ▸ later,
      before ++ [contactDiagnostics (w.sink.onQueryContact s.core) w.detection], ?_, fun d member => ?_⟩
    · simpa [inHand, same, forwarded] using kept
    · rw [here, logged, List.append_assoc]
    · rcases List.mem_append.mp member with old | new
      · exact errors d old
      · obtain rfl := List.mem_singleton.mp new
        exact contactDiagnostics_error.mpr halted
  | other none same forwarded quiet =>
    refine ⟨?_, forwarded ▸ later, quiet ▸ told⟩
    simpa [inHand, same, forwarded] using kept

/-- Every goal that comes while the stop is in force is refused. -/
theorem stopped_refuses {contact : ContactState} (stop : contact.stopped = true) (node : Node) (arm : ArmState) :
    (∀ goal, PlannedMoveServer.handleGoal node (some ⟨arm, contact⟩) goal = .reject) ∧
      ∀ goal, Ros2Backend.handleGoal node (some ⟨arm, contact⟩) goal = none := by
  have shown := contactRejection_isSome contact
  rw [stop] at shown
  obtain ⟨why, named⟩ := Option.isSome_iff_exists.mp shown
  refine ⟨fun goal => ?_, fun goal => ?_⟩
  · simp [PlannedMoveServer.handleGoal, named]
  · unfold Ros2Backend.handleGoal
    cases rejected : Ros2Backend.goalRejection node goal <;> simp [named]

/-! ### Whole runs -/

/-- Setpoints reach core in the order in which they came. -/
theorem setpoints_in_order {core : σ} {acts : List (ContactAction σ)}
    (ran : run (step w) (start core) acts = some s) :
    (s.forwarded ++ s.pending.toList).Sublist (acts.filterMap ContactAction.setpoint?) := by
  have whole : (s.forwarded ++ s.pending.toList).Sublist ([] ++ acts.filterMap ContactAction.setpoint?) := by
    refine @run_invariant_of_history _ _ _ (step w) (fun _ _ => True)
      (fun past s => (s.forwarded ++ s.pending.toList).Sublist past) _ ?_ acts [] _ s (List.Sublist.refl _)
      (meets_of_forall fun _ _ => trivial) ran
    intro past s act t before _ moved
    rcases forwards_step (gripperStep_cases moved) with same | ⟨-, none, dropped⟩
    · rw [same]
      exact before.append_right _
    · rw [none, dropped]
      exact ((List.sublist_append_left _ _).trans before).trans (List.sublist_append_left _ _)
  exact whole

theorem setpoints_all {core : σ} {acts : List (ContactAction σ)} (ran : run (step w) (start core) acts = some s)
    (clear : Meets (step w) (Clear w) (start core) acts) :
    s.forwarded ++ s.pending.toList = acts.filterMap ContactAction.setpoint? := by
  have whole : s.forwarded ++ s.pending.toList = [] ++ acts.filterMap ContactAction.setpoint? := by
    refine @run_invariant_of_history _ _ _ (step w) (Clear w)
      (fun past s => s.forwarded ++ s.pending.toList = past) _ ?_ acts [] _ s rfl clear ran
    intro past s act t before clear moved
    rcases forwards_step (gripperStep_cases moved) with same | ⟨stop, -, -⟩
    · rw [same, before]
    · cases clear.symm.trans stop
  exact whole

/-- While core reports a contact stop that is enforced, nothing new gets to move: no setpoint of the gripper
reaches core but the one that had passed its check before the stop, no goal of any action is admitted, and each
diagnostic published is in error. Setpoints reach core in the order in which they came, and without a stop all
of them do. -/
theorem stop_holds (w : ContactWiring σ) (asks : w.asks = true) (core : σ) (acts more : List (ContactAction σ))
    (s t : ContactServers σ) (ran : run (step w) (start core) acts = some s) (went : run (step w) s more = some t)
    (halted : Meets (step w) (Halted w) s more) :
    (∃ late, t.forwarded = s.forwarded ++ late ∧ late <+: s.inHand.toList) ∧
    (∃ told, t.diagnostics = s.diagnostics ++ told ∧ ∀ d ∈ told, d.level = .error) ∧
    (∀ front act rest u, more = front ++ act :: rest → run (step w) s front = some u → ∀ node arm,
      (∀ goal, PlannedMoveServer.handleGoal node
        (some ⟨arm, (w.sink.onQueryContact u.core).toContactState⟩) goal = .reject) ∧
      ∀ goal, Ros2Backend.handleGoal node
        (some ⟨arm, (w.sink.onQueryContact u.core).toContactState⟩) goal = none) ∧
    (t.forwarded ++ t.pending.toList).Sublist ((acts ++ more).filterMap ContactAction.setpoint?) ∧
    (Meets (step w) (Clear w) (start core) acts →
      s.forwarded ++ s.pending.toList = acts.filterMap ContactAction.setpoint?) := by
  have held : Held s t := run_invariant_of_meets
    (fun _ _ _ before allowed moved => held_step asks allowed before (gripperStep_cases moved))
    ⟨rfl, List.prefix_refl _, [], (List.append_nil _).symm, fun _ member => (List.not_mem_nil member).elim⟩
    halted went
  refine ⟨?_, held.told, fun front act rest u split reached node arm => ?_, ?_, setpoints_all ran⟩
  · obtain ⟨late, forwarded⟩ := held.later
    have kept := held.kept
    rw [← forwarded, List.append_assoc, List.append_cancel_left_eq] at kept
    exact ⟨late, forwarded.symm, _, kept⟩
  · rw [split, meets_append reached] at halted
    exact stopped_refuses halted.2.1.1 node arm
  · exact setpoints_in_order (run_append.mpr ⟨s, ran, went⟩)

instance (w : ContactWiring σ) (s : ContactServers σ) (act : ContactAction σ) : Decidable (Halted w s act) :=
  inferInstanceAs (Decidable (_ ∧ _))

/-- The stop latches when a setpoint has passed its check. -/
def benchPassed : List (ContactAction ContactReport) :=
  [.setpoint { position := .finite 1 }, .gripperStep, .outside { benchReport with phase := .latched }]

def benchHalted : List (ContactAction ContactReport) :=
  [.gripperStep, .setpoint { position := .finite 0 }, .gripperStep, .diagnose]

theorem stop_holds_benchHalted : ∃ s t x,
    run (step benchContact) (start benchReport) benchPassed = some s ∧
      run (step benchContact) s benchHalted = some t ∧ s.inHand = some x ∧ t.forwarded = s.forwarded ++ [x] ∧
      ∃ d, t.diagnostics = s.diagnostics ++ [d] ∧ d.level = .error := by
  obtain ⟨s, ran, reached⟩ := run_reaches (step benchContact) (start benchReport) benchPassed
    (fun s => decide (Meets (step benchContact) (Halted benchContact) s benchHalted) && s.inHand.isSome &&
      (run (step benchContact) s benchHalted).any fun t =>
        decide (s.forwarded.length < t.forwarded.length) &&
          decide (t.diagnostics.length = s.diagnostics.length + 1)) (by decide +kernel)
  simp only [Bool.and_eq_true, decide_eq_true_eq] at reached
  obtain ⟨⟨halted, hand⟩, went⟩ := reached
  obtain ⟨t, went, grown⟩ := (Option.any_eq_true _ _).mp went
  simp only [Bool.and_eq_true, decide_eq_true_eq] at grown
  obtain ⟨x, passed⟩ := Option.isSome_iff_exists.mp hand
  obtain ⟨⟨late, forwarded, within⟩, ⟨told, diagnosed, errors⟩, -⟩ :=
    stop_holds benchContact rfl benchReport benchPassed benchHalted s t ran went halted
  have one : late = [x] := by
    rw [passed] at within
    have longer := grown.1
    rw [forwarded, List.length_append] at longer
    rcases List.prefix_cons_iff.mp within with rfl | ⟨rest, rfl, tail⟩
    · simp at longer
    · rw [List.prefix_nil.mp tail]
  have single : ∃ d, told = [d] := by
    have length := grown.2
    rw [diagnosed, List.length_append] at length
    exact List.length_eq_one_iff.mp (by omega)
  obtain ⟨d, rfl⟩ := single
  exact ⟨s, t, x, ran, went, passed, one ▸ forwarded, d, diagnosed, errors d List.mem_cons_self⟩

end ContactServers
end KinovaGen3
