import KinovaGen3.Lifecycle.FeedbackOrder
import KinovaGen3.Lifecycle.Submission
import KinovaGen3.Streaming.Label

/-!
The limits that the node checks before it asks core, which refuses without a reason: the speed scale,
the control mode and the gains. A goal meets them when it is validated and reaches core much later, with
gains that go through `to_impedance_gains`; `/open_stream` and `/set_gains` check them on the spot.
-/

namespace KinovaGen3
open Transition

/-- Custom gains are within the driver's bounds, gains that cannot act are not given, and the custom
fields are read for custom gains only. -/
structure GainsWithin (d : Driver) (mode : ControlModeKind) (gains : ImpedanceGains) : Prop where
  rigid : mode ≠ .impedance → gains.profile = .sessionDefault
  custom : gains.profile = .custom → d.validateCustom gains.custom = none
  unread : gains.profile ≠ .custom → gains.custom = d.customGains

structure SpeedWithin (d : Driver) (s : Double) : Prop where
  finite : s.isFinite = true
  low : s.lt d.kMinSpeedScale = false
  high : Double.lt (.finite 1) s = false

structure GoalWithin (d : Driver) (tg : TrajectoryGoal) : Prop where
  gains : GainsWithin d tg.controlMode tg.gains
  speed : SpeedWithin d tg.speedScale

section
variable {d : Driver}

open ImpedanceGainsMsg in
theorem toImpedanceGains_custom {g : ImpedanceGainsMsg} :
    ((toImpedanceGains d g).profile = .custom → g.profile = PROFILE_CUSTOM) ∧
      ((toImpedanceGains d g).profile ≠ .custom → (toImpedanceGains d g).custom = d.customGains) := by
  unfold toImpedanceGains
  split
  · exact ⟨GainsProfile.noConfusion, fun _ => rfl⟩
  · split
    · exact ⟨GainsProfile.noConfusion, fun _ => rfl⟩
    · split
      · exact ⟨GainsProfile.noConfusion, fun _ => rfl⟩
      · split
        · exact ⟨fun _ => ‹_›, fun named => (named rfl).elim⟩
        · exact ⟨GainsProfile.noConfusion, fun _ => rfl⟩

open ImpedanceGainsMsg in
theorem gainsWithin {mode : UInt8} {g : ImpedanceGainsMsg} (fine : modeGainsRejection d mode g = none) :
    GainsWithin d (toControlMode mode) (toImpedanceGains d g) := by
  unfold modeGainsRejection at fine
  split at fine
  · cases fine
  · split at fine
    · cases fine
    · split at fine
      · cases fine
      · rename_i applies
        refine ⟨fun rigid => ?_, fun custom => ?_, toImpedanceGains_custom.2⟩
        · have other : mode ≠ 1 := by
            intro impedance
            rw [toControlMode, if_pos impedance] at rigid
            exact rigid rfl
          have default : g.profile = PROFILE_SESSION_DEFAULT := by
            by_contra given
            exact applies ⟨other, given⟩
          simp [toImpedanceGains, default, PROFILE_SESSION_DEFAULT, PROFILE_SOFT, PROFILE_MEDIUM,
            PROFILE_STIFF, PROFILE_CUSTOM]
        · rw [if_pos (toImpedanceGains_custom.1 custom)] at fine
          exact fine

theorem speedScaleRejection_none {s : Double} : speedScaleRejection d s = none ↔ SpeedWithin d s := by
  unfold speedScaleRejection
  constructor
  · intro fine
    split at fine
    · cases fine
    · split at fine
      · cases fine
      · rename_i finite outside
        simp only [Bool.or_eq_true, not_or, Bool.not_eq_true] at outside
        exact ⟨by simpa using finite, outside.1, outside.2⟩
  · intro within
    simp [within.finite, within.low, within.high]

end

/-! ### `/set_gains` -/

structure SetGains.Request where
  spec : ImpedanceGainsMsg
  token : Token

structure SetGains.Response where
  accepted : Bool
  message : String
  deriving DecidableEq

structure GainsRequest where
  spec : ImpedanceGains
  token : Token

structure GainsResult where
  accepted : Bool
  message : String

/-- `Ros2Backend::on_set_gains`, and what it asks core. -/
def Ros2Backend.onSetGains (d : Driver) (sink : Option (GainsRequest → GainsResult)) (req : SetGains.Request) :
    SetGains.Response × Option GainsRequest :=
  match sink with
  | none => (⟨false, "no command sink wired"⟩, none)
  | some onSetGains =>
    -- Every profile is for impedance control.
    match modeGainsRejection d 1 req.spec with
    | some why => (⟨false, why⟩, none)
    | none =>
      let r : GainsRequest := ⟨toImpedanceGains d req.spec, req.token⟩
      let res := onSetGains r
      (⟨res.accepted, res.message⟩, some r)

/-! ### Goals -/

theorem within_execute {node : Node} {goal : ExecuteJointTrajectory.Goal}
    (fine : Ros2Backend.goalRejection node goal = none) :
    GoalWithin node.driver (toTrajectoryGoal node.driver goal) := by
  simp only [Ros2Backend.goalRejection, Option.or_eq_none_iff] at fine
  obtain ⟨-, -, -, speed, mode⟩ := fine
  exact ⟨gainsWithin mode, speedScaleRejection_none.mp speed⟩

/-- The blend of several targets is executed at full speed, which is never below the driver's floor. -/
theorem speedWithin_validate {node : Node} {g : MoveGoal} (fine : validate node g = none)
    (floor : Double.lt (.finite 1) node.driver.kMinSpeedScale = false) :
    SpeedWithin node.driver g.executionSpeedScale := by
  have full : SpeedWithin node.driver (.finite 1) := ⟨rfl, floor, by decide⟩
  cases g with
  | eePose g =>
    simp only [validate, GoToEEPoseServer.validate, Option.or_eq_none_iff, Option.map_eq_none_iff] at fine
    exact speedScaleRejection_none.mp fine.2.1
  | jointConfig g =>
    simp only [validate, GoToJointConfigServer.validate, Option.or_eq_none_iff, Option.map_eq_none_iff] at fine
    exact speedScaleRejection_none.mp fine.1
  | preset g =>
    simp only [validate, GoToPresetServer.validate, Option.or_eq_none_iff, Option.map_eq_none_iff] at fine
    exact speedScaleRejection_none.mp fine.1
  | eePoses | jointConfigs => exact full

def Event.isSubmitted : Event → Bool
  | submitted .. => true
  | _ => false

namespace GoalState
variable {node : Node} {contact : ContactState} {s t : GoalState} {act : GoalAction}

structure Limited (node : Node) (s : GoalState) : Prop where
  submitting : ∀ tg, s.main = .submitting tg → GoalWithin node.driver tg
  submitted : ∀ goal tg answer, .submitted goal tg answer ∈ s.log → GoalWithin node.driver tg

theorem Limited.frame {more : List Event} (h : Limited node s) (log : t.log = s.log ++ more)
    (quiet : more.all (!·.isSubmitted) = true)
    (main : ∀ tg, t.main = .submitting tg → s.main = .submitting tg) : Limited node t := by
  refine ⟨fun tg here => h.submitting tg (main tg here), fun goal tg answer member => ?_⟩
  rw [log] at member
  rcases List.mem_append.mp member with old | new
  · exact h.submitted goal tg answer old
  · exact (Bool.false_ne_true (List.all_eq_true.mp quiet _ new)).elim

theorem Limited.submit (h : Limited node s) {goal : ActionGoal} {tg : TrajectoryGoal} {answer : GoalResponse}
    (log : t.log = s.log ++ [.submitted goal tg answer]) (within : GoalWithin node.driver tg)
    (main : ∀ tg, t.main ≠ .submitting tg) : Limited node t := by
  refine ⟨fun tg here => (main tg here).elim, fun goal tg answer member => ?_⟩
  rw [log] at member
  rcases List.mem_append.mp member with old | new
  · exact h.submitted goal tg answer old
  · cases List.mem_singleton.mp new
    exact within

theorem within_handleGoal {sink : Option SinkState} {g : ExecuteJointTrajectory.Goal} {tg : TrajectoryGoal}
    (decided : Ros2Backend.handleGoal node sink g = some tg) : GoalWithin node.driver tg := by
  unfold Ros2Backend.handleGoal at decided
  split at decided
  · cases decided
  · split at decided
    · cases decided
    · rename_i fine
      cases decided
      exact within_execute (Option.or_eq_none_iff.mp fine).1

theorem limited_step (step : GoalStep node contact s act t) (valid : s.Validated node)
    (submissions : s.Submissions node)
    (floor : Double.lt (.finite 1) node.driver.kMinSpeedScale = false) (h : Limited node s) :
    Limited node t := by
  cases step with
  | refuseExecute _ decided | admitExecute _ decided =>
    exact h.submit rfl (within_handleGoal decided) fun _ => Main.noConfusion
  | submitAccept _ reached | submitReject _ reached =>
    exact h.submit rfl (h.submitting _ reached) fun _ => Main.noConfusion
  | @decide handle g o owns goal reached =>
    refine ⟨fun tg here => ?_, h.submitted⟩
    rcases planDecision_cases node g o handle.isCanceling with ⟨-, -, submits⟩ | ⟨result, ends, -⟩
    · obtain rfl := Main.submitting.inj (submits.symm.trans here)
      have mode : modeGainsRejection node.driver g.controlMode g.gains = none := by
        refine submissions.mode g ?_
        rw [admitted?_handle (by rw [reached]; rfl), owns, Option.map_some, goal]
      exact ⟨gainsWithin mode, speedWithin_validate (valid.taken handle owns g goal) floor⟩
    · cases ends.symm.trans here
  | settleTake =>
    obtain ⟨-, -, main, log⟩ := erase_rest (s := s) _
    exact h.frame (log.trans (List.append_nil _).symm) rfl fun _ here => main.symm.trans here
  | planned | hand | backendHand | recancel | transition =>
    exact h.frame rfl rfl fun _ => Main.noConfusion
  | cancelPlan | settleMove => exact h.frame rfl rfl fun _ => id
  | cancelSend | backendCancelSend => exact h.frame (List.append_assoc _ _ _) rfl fun _ => id
  | cancel | cancelMiss | cancelLatch | backendCancelLook | mark | settle | settleMiss | settleAsk =>
    exact h.frame (List.append_nil _).symm rfl fun _ => id
  | _ => exact h.frame (List.append_nil _).symm rfl fun _ => Main.noConfusion

end GoalState

theorem System.limited {node : Node} {acts : List Action} {s : System}
    (h : run (System.step node) System.init acts = some s)
    (floor : Double.lt (.finite 1) node.driver.kMinSpeedScale = false) (id : GoalId) :
    (s.goal id).Limited node := by
  have kept : ∀ s act t, ((∃ acts, run (System.step node) System.init acts = some s) ∧
      (s.goal id).Limited node) → System.step node s act = some t →
      (∃ acts, run (System.step node) System.init acts = some t) ∧ (t.goal id).Limited node := by
    intro s act t ⟨⟨acts, reached⟩, limited⟩ taken
    refine ⟨⟨acts ++ [act], run_append.mpr ⟨s, reached, run_single.mpr taken⟩⟩, ?_⟩
    rcases System.goal_step id taken with ⟨own, -, moved⟩ | same
    · exact GoalState.limited_step (GoalState.step_cases moved) (System.validated reached id)
        (System.submissions reached id) floor limited
    · rw [same]
      exact limited
  have start : (System.init.goal id).Limited node :=
    ⟨fun _ => Main.noConfusion, fun _ _ _ member => (List.not_mem_nil member).elim⟩
  exact (run_invariant kept ⟨⟨[], rfl⟩, start⟩ h).2

/-! ### Streaming sessions -/

namespace StreamServer
variable {σ ι : Type} [DecidableEq ι] {d : StreamDriver} {sink : StreamSink σ} {s t : StreamServer σ ι}

structure Limited (d : StreamDriver) (s : StreamServer σ ι) : Prop where
  opening : ∀ row r, s.session = .opening row r → GainsWithin d.toDriver r.controlMode r.gains
  opens : ∀ call ∈ s.opens, GainsWithin d.toDriver call.1.controlMode call.1.gains

/-- Gains are for impedance control, whichever of the other modes the controller is in. -/
theorem gainsWithin_openRow {req : OpenStream.Request} {row : ControllerRow}
    (found : openRow d req = .ok row) :
    GainsWithin d.toDriver row.mode (toImpedanceGains d.toDriver req.gains) := by
  unfold openRow at found
  split at found
  · cases found
  · split at found
    · cases found
    · split at found
      · cases found
      · rename_i fine
        cases found
        have within := gainsWithin fine
        by_cases impedance : row.mode = .impedance
        · rw [if_pos impedance] at within
          rw [impedance]
          exact within
        · rw [if_neg impedance] at within
          exact ⟨fun _ => within.rigid (by decide), within.custom, within.unread⟩

omit [DecidableEq ι] in
theorem Limited.frame (h : Limited d s) (session : ∀ row r, t.session ≠ .opening row r)
    (opens : t.opens = s.opens) : Limited d t :=
  ⟨fun row r reached => (session row r reached).elim, opens ▸ h.opens⟩

theorem limited_step {act : StreamAction σ ι} (step : StreamStep d sink s act t) (h : Limited d s) :
    Limited d t := by
  cases step with
  | @serve request free =>
    cases request with
    | openStream req =>
      cases found : openRow d req with
      | error why =>
        simp only [begin, found]
        exact h.frame (fun _ _ => SessionCall.noConfusion) rfl
      | ok row =>
        simp only [begin, found]
        refine ⟨fun row' r reached => ?_, h.opens⟩
        obtain ⟨rfl, rfl⟩ := SessionCall.opening.inj reached
        exact gainsWithin_openRow found
    | closeStream | listControllers => exact h.frame (fun _ _ => SessionCall.noConfusion) rfl
  | @openStream row r res core now reached answered =>
    refine ⟨fun _ _ => SessionCall.noConfusion, fun call member => ?_⟩
    rcases List.mem_append.mp member with old | new
    · exact h.opens call old
    · obtain rfl := List.mem_singleton.mp new
      exact h.opening row r reached
  | store | closeStream | clear => exact h.frame (fun _ _ => SessionCall.noConfusion) rfl
  | @publish resp topic now reached advanced =>
    unfold published
    split
    · exact h.frame (fun _ _ => SessionCall.noConfusion) rfl
    · refine h.frame (fun row r there => ?_) rfl
      cases reached.symm.trans there
  | tick | poll | outside => exact ⟨h.opening, h.opens⟩

end StreamServer

/-- Whatever the node asks core for is within the limits: the goals that it submits and hands over, the
sessions that it opens and the gains that it sets. -/
theorem asked_within_limits {σ ι : Type} [DecidableEq ι] (node : Node) (d : StreamDriver) (sink : StreamSink σ)
    (core : σ) (acts : List Action) (s : System) (calls : List (StreamAction σ ι)) (r : StreamServer σ ι)
    (floor : Double.lt (.finite 1) node.driver.kMinSpeedScale = false)
    (ran : run (System.step node) System.init acts = some s)
    (streamed : run (StreamServer.step d sink) (StreamServer.start core) calls = some r) :
    (∀ id goal tg answer, .submitted goal tg answer ∈ s.log id → GoalWithin node.driver tg) ∧
    (∀ id tg, .handedOver tg ∈ s.log id → GoalWithin node.driver tg) ∧
    (∀ call ∈ r.opens, GainsWithin d.toDriver call.1.controlMode call.1.gains) ∧
    ∀ sink req asked, (Ros2Backend.onSetGains node.driver sink req).2 = some asked →
      asked.token = req.token ∧ GainsWithin node.driver .impedance asked.spec := by
  have submitted : ∀ id goal tg answer, .submitted goal tg answer ∈ s.log id → GoalWithin node.driver tg :=
    fun id => (System.limited ran floor id).submitted
  refine ⟨submitted, fun id tg handed => ?_, ?_, fun sink req asked sent => ?_⟩
  · obtain ⟨h, -, accepted⟩ := (System.submissions ran id).handed tg handed
    exact submitted id _ tg _ accepted
  · have limited : r.Limited d := by
      refine run_invariant (fun _ _ _ held taken => ?_) ?_ streamed
      · exact StreamServer.limited_step (StreamServer.step_cases taken) held
      · exact ⟨fun _ _ => SessionCall.noConfusion, fun _ member => (List.not_mem_nil member).elim⟩
    exact limited.opens
  · unfold Ros2Backend.onSetGains at sent
    split at sent
    · cases sent
    · split at sent
      · cases sent
      · rename_i fine
        cases sent
        exact ⟨rfl, gainsWithin fine⟩

def benchStreaming : List (StreamAction BenchCore Unit) := [.serve StreamServer.benchOpen, .session {}]

theorem asked_within_limits_benchMoved : ∃ (s : System) (r : StreamServer BenchCore Unit) (tg : TrajectoryGoal)
    (call : StreamOpenRequest × StreamOpenResult),
    run (System.step benchNode) System.init (bench benchMoved) = some s ∧
    run (StreamServer.step benchStreamDriver benchCore) (StreamServer.start {}) benchStreaming = some r ∧
    .handedOver tg ∈ s.log benchId ∧ GoalWithin benchNode.driver tg ∧
    call ∈ r.opens ∧ GainsWithin benchStreamDriver.toDriver call.1.controlMode call.1.gains := by
  obtain ⟨s, ran, handed⟩ := run_reaches (System.step benchNode) System.init (bench benchMoved)
    (fun s => (s.goal benchId).handed) (by decide +kernel)
  obtain ⟨r, streamed, opened⟩ := run_reaches (StreamServer.step benchStreamDriver benchCore)
    (StreamServer.start {}) benchStreaming (fun r => !r.opens.isEmpty) (by decide +kernel)
  obtain ⟨tg, handed⟩ := GoalState.exists_handedOver handed
  obtain ⟨call, member⟩ := List.exists_mem_of_ne_nil r.opens (by simpa using opened)
  obtain ⟨-, goals, sessions, -⟩ := asked_within_limits benchNode benchStreamDriver benchCore {} _ s _ r
    (by decide +kernel) ran streamed
  exact ⟨s, r, tg, call, ran, streamed, handed, goals benchId tg handed, member, sessions call member⟩

end KinovaGen3
