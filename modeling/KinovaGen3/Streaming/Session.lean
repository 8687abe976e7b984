import KinovaGen3.Mapping.MessageMapping
import KinovaGen3.Streaming.StreamServer

/-!
The session services of `stream_server.cpp`. The session group runs one handler at a time, beside
any number of polls of the timer's. Each call into core, each section locked by `m_` and each publish
is one step of its thread.
-/

namespace KinovaGen3
open Transition

structure StreamOpenRequest where
  kind : SetpointKind
  controlMode : ControlModeKind
  timeoutS : Double
  gains : ImpedanceGains
  token : Token

structure StreamOpenResult where
  accepted : Bool
  errorCode : Int
  message : String

structure StreamCloseRequest where
  token : Token

/-- The session side of `kinova::interface::StreamSink`, as a core with states `σ`. -/
structure StreamSink (σ : Type) where
  onStreamOpen : σ → StreamOpenRequest → StreamOpenResult × σ
  onStreamClose : σ → StreamCloseRequest → σ
  onQueryStream : σ → StreamStatus

structure OpenStream.Request where
  controller : String
  timeoutS : Double
  gains : ImpedanceGainsMsg := {}
  token : Token := Token.zero

structure CloseStream.Request where
  token : Token := Token.zero

structure ControllerCapability where
  name : String
  channels : List String
  available : Bool
  deriving DecidableEq

inductive SessionRequest where
  | openStream (req : OpenStream.Request)
  | closeStream (req : CloseStream.Request)
  | listControllers

inductive SessionResponse where
  | openStream (accepted : Bool) (errorCode : Int) (message : String) (channels : List String)
  | closeStream (closed : Bool) (message : String)
  | listControllers (controllers : List ControllerCapability)
  deriving DecidableEq

/-- Core's `pair_supported` beside what the mapping needs of it. -/
structure StreamDriver extends Driver where
  pairSupported : SetpointKind → ControlModeKind → Bool

inductive SessionCall where
  | idle
  | opening (row : StreamServer.ControllerRow) (r : StreamOpenRequest)
  | opened (row : StreamServer.ControllerRow) (res : StreamOpenResult)
  | closing (c : StreamCloseRequest)
  | closed
  | publishing (resp : SessionResponse)

def SessionCall.isIdle : SessionCall → Bool
  | idle => true
  | _ => false

/-- Core has accepted a session whose label is not stored yet. -/
def SessionCall.isPending : SessionCall → Bool
  | opened _ res => res.accepted
  | _ => false

theorem SessionCall.eq_idle {call : SessionCall} (h : call.isIdle = true) : call = .idle := by
  cases call with
  | idle => rfl
  | _ => cases h

/-- Who is in `publish_status_if_changed`. -/
inductive StreamThread (ι : Type) where
  | session
  | poll (i : ι)
  deriving DecidableEq

abbrev StreamTopicState (σ ι : Type) :=
  LatchedTopic.State σ StreamStatus String StreamStatusMsg (StreamThread ι)

/-- `opens` logs what core was asked to open and what it answered. -/
structure StreamServer (σ ι : Type) where
  topic : StreamTopicState σ ι
  session : SessionCall := .idle
  responses : List SessionResponse := []
  opens : List (StreamOpenRequest × StreamOpenResult) := []

inductive StreamAction (σ ι : Type) where
  | serve (request : SessionRequest)
  | session (now : Time)
  | tick (i : ι)
  | poll (i : ι) (now : Time)
  /-- Core changes on its own. -/
  | outside (core : σ)

namespace StreamServer
variable {σ ι : Type} (d : StreamDriver) (sink : StreamSink σ)

def available (row : ControllerRow) : Bool :=
  row.coreBacked && row.channels.length = 1 && d.pairSupported row.kind row.mode

def onList : SessionResponse :=
  .listControllers (registry.map fun row => ⟨row.name, row.channels, available d row⟩)

/-- The row to open, or why `on_open` refuses before it asks core. -/
def openRow (req : OpenStream.Request) : Except String ControllerRow :=
  match registry.find? (·.name = req.controller) with
  | none =>
    .error ("unknown controller '" ++ req.controller ++
      "'; call /list_controllers for the available set")
  | some row =>
    if !available d row then
      .error ("controller '" ++ row.name ++ "' is not available in this driver version")
    else
      match modeGainsRejection d.toDriver (if row.mode = .impedance then 1 else 0) req.gains with
      | some why => .error why
      | none => .ok row

def openRequest (req : OpenStream.Request) (row : ControllerRow) : StreamOpenRequest where
  kind := row.kind
  controlMode := row.mode
  timeoutS := req.timeoutS
  gains := toImpedanceGains d.toDriver req.gains
  token := req.token

def respond (s : StreamServer σ ι) (resp : SessionResponse) : StreamServer σ ι :=
  { s with session := .idle, responses := s.responses ++ [resp] }

/-- `on_open`, `on_close` and `on_list` up to their first call into core. -/
def begin (s : StreamServer σ ι) : SessionRequest → StreamServer σ ι
  | .openStream req =>
    match openRow d req with
    | .error why => s.respond (.openStream false ResultCode.kStreamRejected why [])
    | .ok row => { s with session := .opening row (openRequest d req row) }
  | .closeStream req => { s with session := .closing { token := req.token } }
  | .listControllers => s.respond (onList d)

variable [DecidableEq ι]

/-- The handler is done but for `publish_status_if_changed`. -/
def publish (s : StreamServer σ ι) (resp : SessionResponse) : StreamServer σ ι :=
  { s with session := .publishing resp, topic := s.topic.setCall .session (some .reading) }

def published (s : StreamServer σ ι) (resp : SessionResponse) (topic : StreamTopicState σ ι) :
    StreamServer σ ι :=
  if (topic.calls .session).isNone then { s with topic := topic }.respond resp
  else { s with topic := topic }

def sessionStep (s : StreamServer σ ι) (now : Time) : Option (StreamServer σ ι) :=
  match s.session with
  | .idle => none
  | .opening row r =>
    let (res, core) := sink.onStreamOpen s.topic.core r
    some { s with
      topic := { s.topic with core := core }
      session := .opened row res
      opens := s.opens ++ [(r, res)] }
  | .opened row res =>
    let label := if res.accepted then row.name else s.topic.label
    let channels := if res.accepted then row.channels else []
    some ({ s with topic := { s.topic with label := label } }.publish
      (.openStream res.accepted res.errorCode res.message channels))
  | .closing c =>
    some { s with
      topic := { s.topic with core := sink.onStreamClose s.topic.core c }
      session := .closed }
  | .closed =>
    some ({ s with topic := { s.topic with label := "" } }.publish (.closeStream true ""))
  | .publishing resp =>
    (s.topic.advance streamStatusTopic sink.onQueryStream .session now).map (s.published resp)

def step (s : StreamServer σ ι) : StreamAction σ ι → Option (StreamServer σ ι)
  | .serve request =>
    match s.session with
    | .idle => some (s.begin d request)
    | _ => none
  | .session now => s.sessionStep sink now
  | .tick i =>
    (streamStatusTopic.step sink.onQueryStream s.topic (.start (.poll i))).map fun topic =>
      { s with topic := topic }
  | .poll i now =>
    (s.topic.advance streamStatusTopic sink.onQueryStream (.poll i) now).map fun topic =>
      { s with topic := topic }
  | .outside core => some { s with topic := { s.topic with core := core } }

end StreamServer

/-! ### What each step needs and does -/

inductive StreamStep {σ ι : Type} [DecidableEq ι] (d : StreamDriver) (sink : StreamSink σ)
    (s : StreamServer σ ι) : StreamAction σ ι → StreamServer σ ι → Prop where
  | serve (free : s.session = .idle) : StreamStep d sink s (.serve request) (s.begin d request)
  | openStream (reached : s.session = .opening row r)
      (answered : sink.onStreamOpen s.topic.core r = (res, core)) :
      StreamStep d sink s (.session now)
        { s with
          topic := { s.topic with core := core }
          session := .opened row res
          opens := s.opens ++ [(r, res)] }
  | store (reached : s.session = .opened row res) :
      StreamStep d sink s (.session now)
        ({ s with
          topic := { s.topic with label := if res.accepted then row.name else s.topic.label }
          }.publish (.openStream res.accepted res.errorCode res.message
            (if res.accepted then row.channels else [])))
  | closeStream (reached : s.session = .closing c) :
      StreamStep d sink s (.session now)
        { s with
          topic := { s.topic with core := sink.onStreamClose s.topic.core c }
          session := .closed }
  | clear (reached : s.session = .closed) :
      StreamStep d sink s (.session now)
        ({ s with topic := { s.topic with label := "" } }.publish (.closeStream true ""))
  | publish (reached : s.session = .publishing resp)
      (advanced : s.topic.advance streamStatusTopic sink.onQueryStream .session now = some topic) :
      StreamStep d sink s (.session now) (s.published resp topic)
  | tick (idle : s.topic.calls (.poll i) = none) :
      StreamStep d sink s (.tick i) { s with topic := s.topic.setCall (.poll i) (some .reading) }
  | poll (advanced : s.topic.advance streamStatusTopic sink.onQueryStream (.poll i) now = some topic) :
      StreamStep d sink s (.poll i now) { s with topic := topic }
  | outside (core : σ) :
      StreamStep d sink s (.outside core) { s with topic := { s.topic with core := core } }

namespace StreamServer
variable {σ ι : Type} [DecidableEq ι] {d : StreamDriver} {sink : StreamSink σ} {s t : StreamServer σ ι}

theorem sessionStep_cases {now : Time} (h : s.sessionStep sink now = some t) :
    StreamStep d sink s (.session now) t := by
  unfold sessionStep at h
  split at h
  case h_1 => cases h
  case h_2 reached => cases h; exact .openStream reached rfl
  case h_3 reached => cases h; exact .store reached
  case h_4 reached => cases h; exact .closeStream reached
  case h_5 reached => cases h; exact .clear reached
  case h_6 reached =>
    obtain ⟨topic, advanced, rfl⟩ := Option.map_eq_some_iff.mp h
    exact .publish reached advanced

theorem step_cases {act : StreamAction σ ι} (h : s.step d sink act = some t) :
    StreamStep d sink s act t := by
  cases act with
  | serve request =>
    dsimp only [step] at h
    split at h
    · rename_i free
      cases h
      exact .serve free
    · cases h
  | session now => exact sessionStep_cases h
  | tick i =>
    obtain ⟨topic, started, rfl⟩ := Option.map_eq_some_iff.mp h
    dsimp only [LatchedTopic.step] at started
    split at started
    · rename_i idle
      cases started
      exact .tick idle
    · cases started
  | poll i now =>
    obtain ⟨topic, advanced, rfl⟩ := Option.map_eq_some_iff.mp h
    exact .poll advanced
  | outside core =>
    cases h
    exact .outside core

/-! ### The registry -/

theorem openRow_ok {req : OpenStream.Request} {row : ControllerRow} (h : openRow d req = .ok row) :
    row ∈ registry ∧ row.name = req.controller ∧ available d row = true := by
  unfold openRow at h
  split at h
  · cases h
  · rename_i found listed
    have member := List.mem_of_find?_eq_some listed
    have named := List.find?_some listed
    split at h
    · cases h
    · rename_i live
      split at h
      · cases h
      · cases h
        exact ⟨member, of_decide_eq_true named, by simpa using live⟩

theorem channelsOf_registry : ∀ row ∈ registry, channelsOf row.name = row.channels := by
  decide

end StreamServer

/-! ### A core to run the server on -/

structure BenchCore where
  owner : Option Token := none
  timeoutS : Double := .finite 0
  deriving DecidableEq

/-- One session at a time, which only its own token closes. -/
def benchCore : StreamSink BenchCore where
  onStreamOpen c r :=
    if c.owner.isSome then
      (⟨false, ResultCode.kStreamRejected, "a session is already open"⟩, c)
    else (⟨true, ResultCode.kSuccessful, ""⟩, { owner := some r.token, timeoutS := r.timeoutS })
  onStreamClose c r := if c.owner = some r.token then {} else c
  onQueryStream c := { isOpen := c.owner.isSome, timeoutS := c.timeoutS, rejectedCount := 0 }

def benchStreamDriver : StreamDriver where
  trajectoryGoal :=
    { trajectory := {}
      pathTolerance := .constant (.finite (-1))
      goalTolerance := .constant (.finite (-1))
      goalTimeToleranceS := .finite 0
      controlMode := .position
      preemption := .queue
      gains := ⟨.sessionDefault, {}⟩
      senderId := ""
      token := .zero
      speedScale := .finite 1 }
  customGains := {}
  kMinSpeedScale := .finite (1 / 20)
  validateCustom _ := none
  pairSupported _ _ := true

end KinovaGen3
