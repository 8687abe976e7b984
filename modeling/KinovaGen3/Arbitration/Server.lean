import Mathlib.Data.Finset.Basic
import KinovaGen3.Core.Messages
import KinovaGen3.Library.LatchedTopic

/-!
`arbitration_server.cpp`. Two threads run through it: one for the default callback group, with the
three ownership services and the status timer, and one for the e-stop's own group. Each call into
the arbiter, each section locked by `m_` and each publish is one step of its thread. The status that
`on_acquire` reads first only goes to a log line and is left out.
-/

namespace KinovaGen3
open Transition

inductive ArbitrationMode where
  | disabled | enforced
  deriving DecidableEq

structure ArbitrationStatus where
  mode : ArbitrationMode := .disabled
  estopped : Bool := false
  owned : Bool := false
  ownerId : String := ""
  generation : UInt64 := 0
  rejectedCount : UInt64 := 0
  deriving DecidableEq

structure GrantResult where
  accepted : Bool
  token : Token
  generation : UInt64
  message : String

/-- `kinova::interface::ArbitrationSink`, as an arbiter with states `σ`. -/
structure ArbitrationSink (σ : Type) where
  status : σ → ArbitrationStatus
  grant : σ → String → Option Token → GrantResult × σ
  revoke : σ → σ
  estop : σ → σ
  estopClear : σ → σ

structure EStop where
  state : UInt8
  source : String
  clearTarget : String := ""
  reason : String := ""
  deriving DecidableEq

def EStop.STATE_NOT_ENGAGED : UInt8 := 0

structure ControlStatus where
  stamp : Time
  arbitrationEnabled : Bool
  estopped : Bool
  owned : Bool
  ownerId : String
  generation : UInt64
  rejectedCount : UInt64
  deriving DecidableEq

structure AcquireControl.Request where
  ownerId : String
  token : Token := Token.zero
  deriving DecidableEq

inductive ControlRequest where
  | acquire (req : AcquireControl.Request)
  | release (token : Token)
  | revoke
  | poll
  deriving DecidableEq

inductive ControlResponse where
  | acquire (accepted : Bool) (token : Token) (generation : UInt64) (message : String)
  | release (released : Bool) (message : String)
  | revoke (revoked : Bool) (message : String)
  deriving DecidableEq

/-! ### `/control_status` -/

def ControlStatus.same (a b : ControlStatus) : Bool :=
  a.arbitrationEnabled = b.arbitrationEnabled && a.estopped = b.estopped && a.owned = b.owned &&
    a.ownerId = b.ownerId && a.generation = b.generation && a.rejectedCount = b.rejectedCount

def ArbitrationStatus.message (now : Time) (s : ArbitrationStatus) : ControlStatus where
  stamp := now
  arbitrationEnabled := s.mode = .enforced
  estopped := s.estopped
  owned := s.owned
  ownerId := s.ownerId
  generation := s.generation
  rejectedCount := s.rejectedCount

/-- The payload is all but the stamp. -/
def controlStatusTopic : LatchedTopic Time ArbitrationStatus Unit ControlStatus ControlStatus where
  relabel _ _ := ()
  message now s _ := s.message now
  same := ControlStatus.same
  payload m := { m with stamp := {} }
  content s := s.message {}
  payload_message _ _ _ := rfl
  payload_same a b h := by
    simp only [ControlStatus.same, Bool.and_eq_true, decide_eq_true_eq] at h
    obtain ⟨⟨⟨⟨⟨enabled, estopped⟩, owned⟩, ownerId⟩, generation⟩, rejectedCount⟩ := h
    simp only [enabled, estopped, owned, ownerId, generation, rejectedCount]

/-! ### The server -/

abbrev StatusCall := LatchedTopic.Call ArbitrationStatus ControlStatus

inductive ServiceCall where
  | idle
  | acquire (req : AcquireControl.Request)
  | granted (r : GrantResult)
  | release (token : Token)
  | releasing (token : Token)
  | released
  | revoke
  | revoked
  | publishing (call : StatusCall) (resp : Option ControlResponse)

def ServiceCall.begin : ControlRequest → ServiceCall
  | .acquire req => .acquire req
  | .release token => .release token
  | .revoke => .revoke
  | .poll => .publishing .reading none

inductive EstopCall where
  | idle
  /-- The source is engaged already: is the arbiter still stopped? -/
  | checking
  | engaging
  | forgetting
  | clearing
  | publishing (call : StatusCall)

def ServiceCall.isIdle : ServiceCall → Bool
  | idle => true
  | _ => false

def EstopCall.isIdle : EstopCall → Bool
  | idle => true
  | _ => false

theorem ServiceCall.eq_idle {call : ServiceCall} (h : call.isIdle = true) : call = .idle := by
  cases call with
  | idle => rfl
  | _ => cases h

theorem EstopCall.eq_idle {call : EstopCall} (h : call.isIdle = true) : call = .idle := by
  cases call with
  | idle => rfl
  | _ => cases h

structure ArbitrationServer (σ : Type) where
  arb : σ
  retainedToken : Token := Token.zero
  haveRetained : Bool := false
  lastPublished : Option ControlStatus := none
  engagedSources : Finset String := ∅
  controlStatus : Option ControlStatus := none
  service : ServiceCall := .idle
  estopCall : EstopCall := .idle
  responses : List ControlResponse := []

inductive ArbitrationAction (σ : Type) where
  | serve (request : ControlRequest)
  | service (now : Time)
  | estop (msg : EStop)
  | estopStep (now : Time)
  /-- The arbiter changes on its own, or through another caller. -/
  | outside (arb : σ)

namespace ArbitrationServer
variable {σ : Type} (arb : ArbitrationSink σ)

def forgetToken (s : ArbitrationServer σ) : ArbitrationServer σ :=
  { s with haveRetained := false, retainedToken := Token.zero }

/-- `publish_status_if_changed`, a step at a time. -/
def publishStep (s : ArbitrationServer σ) (now : Time) :
    StatusCall → ArbitrationServer σ × Option StatusCall
  | .reading => (s, some (.recording (arb.status s.arb)))
  | .recording read =>
    let m := read.message now
    if s.lastPublished.any (·.same m) then (s, none)
    else ({ s with lastPublished := some m }, some (.sending m))
  | .sending m => ({ s with controlStatus := some m }, none)

/-- A service's call while it publishes, and its response once it has. -/
def served (s : ArbitrationServer σ) (resp : Option ControlResponse) :
    Option StatusCall → ArbitrationServer σ
  | some call => { s with service := .publishing call resp }
  | none => { s with service := .idle, responses := s.responses ++ resp.toList }

/-- `on_acquire`, `on_release`, `on_revoke` and the timer's callback. -/
def serviceStep (s : ArbitrationServer σ) (now : Time) : Option (ArbitrationServer σ) :=
  match s.service with
  | .idle => none
  | .acquire req =>
    let supplied := req.token ≠ Token.zero
    let (r, a) := arb.grant s.arb req.ownerId (if supplied then some req.token else none)
    some { s with arb := a, service := .granted r }
  | .granted r =>
    some { s with
      haveRetained := r.accepted
      retainedToken := if r.accepted then r.token else Token.zero
      service := .publishing .reading (some (.acquire r.accepted r.token r.generation r.message)) }
  | .release token =>
    some <|
      if s.haveRetained && token = s.retainedToken then { s with service := .releasing token }
      else
        { s with
          service := .idle
          responses := s.responses ++ [.release false "token does not match the current owner"] }
  | .releasing _ => some { s with arb := arb.revoke s.arb, service := .released }
  | .released =>
    some { s.forgetToken with service := .publishing .reading (some (.release true "")) }
  | .revoke => some { s with arb := arb.revoke s.arb, service := .revoked }
  | .revoked => some { s.forgetToken with service := .publishing .reading (some (.revoke true "")) }
  | .publishing call resp =>
    let (t, next) := s.publishStep arb now call
    some (t.served resp next)

/-- `on_estop` up to its first call into the arbiter. -/
def onEstop (s : ArbitrationServer σ) (msg : EStop) : ArbitrationServer σ :=
  if msg.state ≠ EStop.STATE_NOT_ENGAGED then
    { s with
      engagedSources := insert msg.source s.engagedSources
      estopCall := if msg.source ∈ s.engagedSources then .checking else .engaging }
  else if msg.clearTarget ≠ "" then s
  else if msg.source ∉ s.engagedSources then s
  else
    { s with
      engagedSources := s.engagedSources.erase msg.source
      estopCall := if s.engagedSources.erase msg.source ≠ ∅ then .idle else .clearing }

def estopStep (s : ArbitrationServer σ) (now : Time) : Option (ArbitrationServer σ) :=
  match s.estopCall with
  | .idle => none
  | .checking =>
    some { s with estopCall := if (arb.status s.arb).estopped then .idle else .engaging }
  | .engaging => some { s with arb := arb.estop s.arb, estopCall := .forgetting }
  | .forgetting => some { s.forgetToken with estopCall := .publishing .reading }
  | .clearing => some { s with arb := arb.estopClear s.arb, estopCall := .publishing .reading }
  | .publishing call =>
    let (t, next) := s.publishStep arb now call
    some { t with estopCall := next.elim .idle .publishing }

def step (s : ArbitrationServer σ) : ArbitrationAction σ → Option (ArbitrationServer σ)
  | .serve request =>
    match s.service with
    | .idle => some { s with service := .begin request }
    | _ => none
  | .service now => s.serviceStep arb now
  | .estop msg =>
    match s.estopCall with
    | .idle => some (s.onEstop msg)
    | _ => none
  | .estopStep now => s.estopStep arb now
  | .outside a => some { s with arb := a }

end ArbitrationServer

/-! ### An arbiter to run the server on -/

structure BenchArbiter where
  status : ArbitrationStatus := { mode := .enforced }
  owner : Option Token := none

def benchArbiter : ArbitrationSink BenchArbiter where
  status := BenchArbiter.status
  grant a id token :=
    if a.status.estopped then (⟨false, Token.zero, a.status.generation, "e-stopped"⟩, a)
    else
      let owned := token.getD fun _ => 2
      let generation := a.status.generation + 1
      (⟨true, owned, generation, ""⟩,
        { status := { a.status with owned := true, ownerId := id, generation := generation }
          owner := some owned })
  revoke a := { status := { a.status with owned := false, ownerId := "" }, owner := none }
  estop a :=
    { status := { a.status with estopped := true, owned := false, ownerId := "" }, owner := none }
  estopClear a := { a with status := { a.status with estopped := false } }

end KinovaGen3
