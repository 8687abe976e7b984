import KinovaGen3.Arbitration.Steps

/-!
`/control_status` as the arbitration server runs it: each of its threads is a caller of the topic,
and a run of the server is a run of the topic.
-/

namespace KinovaGen3
open Transition LatchedTopic

inductive ControlThread where
  | service | estop
  deriving DecidableEq

def ServiceCall.publishes? : ServiceCall → Option StatusCall
  | publishing call _ => some call
  | _ => none

def EstopCall.publishes? : EstopCall → Option StatusCall
  | publishing call => some call
  | _ => none

def StatusCall.action {σ : Type} (i : ControlThread) (now : Time) :
    StatusCall → LatchedTopic.Action σ Time Unit ControlThread
  | .reading => .read i
  | .recording _ => .record i now
  | .sending _ => .send i

namespace ArbitrationServer
variable {σ : Type}

def topicState (s : ArbitrationServer σ) :
    LatchedTopic.State σ ArbitrationStatus Unit ControlStatus ControlThread where
  core := s.arb
  label := ()
  last := s.lastPublished
  wire := s.controlStatus
  calls
    | .service => s.service.publishes?
    | .estop => s.estopCall.publishes?

/-- What a step of the server does to the arbiter and to the topic. -/
def topicActions (arb : ArbitrationSink σ) (s : ArbitrationServer σ) :
    ArbitrationAction σ → List (LatchedTopic.Action σ Time Unit ControlThread)
  | .serve .poll => [.start .service]
  | .serve _ => []
  | .service now =>
    match s.service with
    | .acquire req =>
      [.core (arb.grant s.arb req.ownerId
        (if req.token ≠ Token.zero then some req.token else none)).2]
    | .releasing _ | .revoke => [.core (arb.revoke s.arb)]
    | .granted _ | .released | .revoked => [.start .service]
    | .publishing call _ => [StatusCall.action .service now call]
    | .idle | .release _ => []
  | .estop _ => []
  | .estopStep now =>
    match s.estopCall with
    | .engaging => [.core (arb.estop s.arb)]
    | .clearing => [.core (arb.estopClear s.arb), .start .estop]
    | .forgetting => [.start .estop]
    | .publishing call => [StatusCall.action .estop now call]
    | .idle | .checking => []
  | .outside a => [.core a]

variable {arb : ArbitrationSink σ} {s t : ArbitrationServer σ}

theorem calls_service {service : ServiceCall} :
    topicState { s with service := service } =
      s.topicState.setCall .service service.publishes? := by
  unfold topicState State.setCall
  congr 1
  funext i
  cases i <;> rfl

theorem calls_estop {estopCall : EstopCall} :
    topicState { s with estopCall := estopCall } = s.topicState.setCall .estop estopCall.publishes? := by
  unfold topicState State.setCall
  congr 1
  funext i
  cases i <;> rfl

theorem publishStep_topic {now : Time} {call : StatusCall} {next : Option StatusCall}
    (i : ControlThread) (reached : s.topicState.calls i = some call)
    (published : s.publishStep arb now call = (t, next)) :
    controlStatusTopic.step arb.status s.topicState (call.action i now) =
      some (t.topicState.setCall i next) := by
  unfold publishStep at published
  cases call with
  | reading =>
    cases published
    simp only [StatusCall.action, LatchedTopic.step, reached]
    rfl
  | recording read =>
    dsimp only at published
    have recorded : controlStatusTopic.step arb.status s.topicState (.record i now) =
        some (s.topicState.record controlStatusTopic i now read) := by
      simp only [LatchedTopic.step, reached]
    refine recorded.trans (congrArg some ?_)
    unfold State.record
    split at published
    · cases published
      exact if_pos ‹_›
    · cases published
      exact if_neg ‹_›
  | sending m =>
    cases published
    simp only [StatusCall.action, LatchedTopic.step, reached]
    rfl

theorem service_start (resp : Option ControlResponse) (away : s.service.publishes? = none) :
    controlStatusTopic.step arb.status s.topicState (.start .service) =
      some (topicState { s with service := .publishing .reading resp }) := by
  have idle : s.topicState.calls .service = none := away
  have started : controlStatusTopic.step arb.status s.topicState (.start .service) =
      some (s.topicState.setCall .service (some .reading)) := by
    simp only [LatchedTopic.step, idle]
  exact started.trans (congrArg some (@calls_service _ s (.publishing .reading resp)).symm)

theorem estop_start (away : s.estopCall.publishes? = none) :
    controlStatusTopic.step arb.status s.topicState (.start .estop) =
      some (topicState { s with estopCall := .publishing .reading }) := by
  have idle : s.topicState.calls .estop = none := away
  have started : controlStatusTopic.step arb.status s.topicState (.start .estop) =
      some (s.topicState.setCall .estop (some .reading)) := by
    simp only [LatchedTopic.step, idle]
  exact started.trans (congrArg some (@calls_estop _ s (.publishing .reading)).symm)

theorem service_aside {service : ServiceCall} (away : s.service.publishes? = none)
    (still : service.publishes? = none) : topicState { s with service := service } = s.topicState := by
  rw [calls_service, still]
  exact State.setCall_self away

theorem estop_aside {estopCall : EstopCall} (away : s.estopCall.publishes? = none)
    (still : estopCall.publishes? = none) : topicState { s with estopCall := estopCall } = s.topicState := by
  rw [calls_estop, still]
  exact State.setCall_self away

theorem service_core {a : σ} {service : ServiceCall} (away : s.service.publishes? = none)
    (still : service.publishes? = none) :
    run (controlStatusTopic.step arb.status) s.topicState [.core a] =
      some (topicState { s with arb := a, service := service }) := by
  rw [run_single]
  exact congrArg some (@service_aside _ { s with arb := a } service away still).symm

/-- Each thread is a caller of the topic. -/
theorem control_status_refines (arb : ArbitrationSink σ) :
    Refines (step arb) (controlStatusTopic.step arb.status) topicState (topicActions arb) := by
  intro s act t taken
  cases step_cases taken with
  | @serve request free =>
    have away : s.service.publishes? = none := by rw [free]; rfl
    cases request with
    | poll => exact run_single.mpr (service_start none away)
    | acquire | release | revoke => exact congrArg some (service_aside away rfl).symm
  | @grant req r a now reached granted =>
    have away : s.service.publishes? = none := by rw [reached]; rfl
    have actions : topicActions arb s (.service now) = [.core a] := by
      simp only [topicActions, reached, granted]
    rw [actions]
    exact service_core away rfl
  | @store r now reached =>
    have away : s.service.publishes? = none := by rw [reached]; rfl
    have actions : topicActions arb s (.service now) = [.start .service] := by
      simp only [topicActions, reached]
    rw [actions, run_single]
    exact service_start _ away
  | @releaseForget now reached | @revokeForget now reached =>
    have away : s.service.publishes? = none := by rw [reached]; rfl
    have actions : topicActions arb s (.service now) = [.start .service] := by
      simp only [topicActions, reached]
    rw [actions, run_single]
    exact service_start _ away
  | @allow now reached =>
    have away : s.service.publishes? = none := by rw [reached]; rfl
    have actions : topicActions arb s (.service now) = [] := by
      simp only [topicActions, reached]
    rw [actions, run_nil]
    exact congrArg some (@service_aside _ s (.releasing _) away rfl).symm
  | @refuse token now reached =>
    have away : s.service.publishes? = none := by rw [reached]; rfl
    have actions : topicActions arb s (.service now) = [] := by
      simp only [topicActions, reached]
    rw [actions, run_nil]
    exact congrArg some (@service_aside _ s .idle away rfl).symm
  | @releaseRevoke token now reached =>
    have away : s.service.publishes? = none := by rw [reached]; rfl
    have actions : topicActions arb s (.service now) = [.core (arb.revoke s.arb)] := by
      simp only [topicActions, reached]
    rw [actions]
    exact service_core away rfl
  | @revoke now reached =>
    have away : s.service.publishes? = none := by rw [reached]; rfl
    have actions : topicActions arb s (.service now) = [.core (arb.revoke s.arb)] := by
      simp only [topicActions, reached]
    rw [actions]
    exact service_core away rfl
  | @servicePublish call resp now t next reached published =>
    have actions : topicActions arb s (.service now) = [StatusCall.action .service now call] := by
      simp only [topicActions, reached]
    rw [actions, run_single, publishStep_topic .service (congrArg ServiceCall.publishes? reached) published]
    cases next with
    | none => exact congrArg some (@calls_service _ t .idle).symm
    | some call => exact congrArg some (@calls_service _ t (.publishing call resp)).symm
  | clearAttempt | heartbeat => rfl
  | first free | again free | leave free | last free =>
    have away : s.estopCall.publishes? = none := by rw [free]; rfl
    exact congrArg some (@estop_aside _ s _ away rfl).symm
  | @stillStopped now reached | @cleared now reached =>
    have away : s.estopCall.publishes? = none := by rw [reached]; rfl
    have actions : topicActions arb s (.estopStep now) = [] := by
      simp only [topicActions, reached]
    rw [actions, run_nil]
    exact congrArg some (@estop_aside _ s _ away rfl).symm
  | @engage now reached =>
    have away : s.estopCall.publishes? = none := by rw [reached]; rfl
    have actions : topicActions arb s (.estopStep now) = [.core (arb.estop s.arb)] := by
      simp only [topicActions, reached]
    rw [actions, run_single]
    exact congrArg some (@estop_aside _ { s with arb := arb.estop s.arb } _ away rfl).symm
  | @forget now reached =>
    have away : s.estopCall.publishes? = none := by rw [reached]; rfl
    have actions : topicActions arb s (.estopStep now) = [.start .estop] := by
      simp only [topicActions, reached]
    rw [actions, run_single]
    exact estop_start away
  | @clear now reached =>
    have away : s.estopCall.publishes? = none := by rw [reached]; rfl
    have actions : topicActions arb s (.estopStep now) =
        [.core (arb.estopClear s.arb), .start .estop] := by
      simp only [topicActions, reached]
    rw [actions, run_cons]
    refine ⟨topicState { s with arb := arb.estopClear s.arb }, rfl, run_single.mpr ?_⟩
    exact @estop_start _ _ { s with arb := arb.estopClear s.arb } away
  | @estopPublish call now t next reached published =>
    have actions : topicActions arb s (.estopStep now) = [StatusCall.action .estop now call] := by
      simp only [topicActions, reached]
    rw [actions, run_single, publishStep_topic .estop (congrArg EstopCall.publishes? reached) published]
    cases next with
    | none => exact congrArg some (@calls_estop _ t .idle).symm
    | some call => exact congrArg some (@calls_estop _ t (.publishing call)).symm
  | outside a => rfl

/-- While the server's publishes are in order, what it recorded is on the topic or on its way. -/
theorem control_status_synced {a : σ} {acts : List (ArbitrationAction σ)}
    (h : run (step arb) { arb := a } acts = some s)
    (ordered : Meets (step arb) (fun s act => Meets (controlStatusTopic.step arb.status)
      controlStatusTopic.InOrder s.topicState (topicActions arb s act)) { arb := a } acts) :
    controlStatusTopic.Synced s.topicState := by
  refine synced_run (Or.inr rfl) ?_ (run_refines (control_status_refines arb) h)
  exact meets_refines (control_status_refines arb) h ordered

/-- With nothing under way, the filter compares with the message on the topic. -/
theorem control_status_recorded {a : σ} {acts : List (ArbitrationAction σ)}
    (h : run (step arb) { arb := a } acts = some s)
    (ordered : Meets (step arb) (fun s act => Meets (controlStatusTopic.step arb.status)
      controlStatusTopic.InOrder s.topicState (topicActions arb s act)) { arb := a } acts)
    (idle : s.service = .idle) (still : s.estopCall = .idle) :
    s.lastPublished.map controlStatusTopic.payload = s.controlStatus.map controlStatusTopic.payload := by
  rcases control_status_synced h ordered with ⟨i, m, _, sending, _⟩ | same
  · cases i with
    | service =>
      have sending : s.service.publishes? = some (.sending m) := sending
      rw [idle] at sending
      cases sending
    | estop =>
      have sending : s.estopCall.publishes? = some (.sending m) := sending
      rw [still] at sending
      cases sending
  · exact same

end ArbitrationServer
end KinovaGen3
