import KinovaGen3.Contact.ContactServer
import KinovaGen3.Library.Run

/-!
`/set_contact_thresholds`, the gripper's setpoints and the contact diagnostics while core runs. The service and
the setpoints have a callback group each, and every call of core is one step.
-/

namespace KinovaGen3
open Transition SetContactThresholds ContactServer

/-! ### The gripper's messages -/

structure GripperSetpointMsg where
  position : Double := .finite 0
  speed : Double := .finite 0
  force : Double := .finite 0
  token : Token := .zero
  deriving DecidableEq

structure GripperCommand where
  position : Double
  speed : Double
  force : Double
  deriving DecidableEq

structure GripperSetpoint where
  command : GripperCommand
  token : Token
  deriving DecidableEq

/-- The range of the command is core's to enforce. -/
def toGripperSetpoint (m : GripperSetpointMsg) : GripperSetpoint where
  command := ⟨m.position, m.speed, m.force⟩
  token := m.token

structure GripperState where
  position : Double
  effort : Double
  current : Double
  present : Bool
  deriving DecidableEq

structure GripperStateMsg where
  stamp : Time
  position : Double
  effort : Double
  current : Double
  present : Bool
  deriving DecidableEq

namespace GripperServer

/-- `publish_state`: the stamp is the caller's, not core's. -/
def publishState (stamp : Time) (g : GripperState) : GripperStateMsg where
  stamp := stamp
  position := g.position
  effort := g.effort
  current := g.current
  present := g.present

def diagnostics (expectGripper : Bool) (g : GripperState) : DiagnosticStatus where
  level := if expectGripper && !g.present then .warn else .ok
  message :=
    if expectGripper && !g.present then "no gripper reported, but expect_gripper is true"
    else if g.present then "gripper present"
    else "no gripper (expected)"
  values :=
    [("present", if g.present then "True" else "False"), ("position", g.position.toGeneral),
      ("effort_fraction", g.effort.toGeneral), ("current_a", g.current.toGeneral)]

end GripperServer

/-! ### The servers -/

/-- What core is asked by the two servers. -/
structure ContactSink (σ : Type) where
  onQueryContact : σ → ContactReport
  onSetContactThresholds : σ → ContactThresholdsRequest → σ × ContactThresholdsResult
  onGripperSetpoint : σ → GripperSetpoint → σ

/-- `asks` is whether the gripper's server has a `contact_`, as it has in the node. -/
structure ContactWiring (σ : Type) where
  sink : ContactSink σ
  blank : ContactThresholdsRequest
  detection : String
  asks : Bool

/-- Where `on_set` is. -/
inductive SetCall where
  | idle
  | asking (r : ContactThresholdsRequest)
  | refused (message : String)

def SetCall.isIdle : SetCall → Bool
  | idle => true
  | _ => false

/-- Where the gripper's `on_setpoint` is. -/
inductive GripperCall where
  | idle
  | asking (m : GripperSetpointMsg)
  | passed (m : GripperSetpointMsg)

/-- `asked` are the thresholds core was asked for, with its answers, and `forwarded` the setpoints it was given. -/
structure ContactServers (σ : Type) where
  core : σ
  set : SetCall := .idle
  responses : List Response := []
  asked : List (ContactThresholdsRequest × ContactThresholdsResult) := []
  gripper : GripperCall := .idle
  forwarded : List GripperSetpoint := []
  diagnostics : List DiagnosticStatus := []

inductive ContactAction (σ : Type) where
  | set (req : Request)
  | setStep
  | setpoint (m : GripperSetpointMsg)
  | gripperStep
  | diagnose
  /-- Core changes on its own, or for another of the node's servers. -/
  | outside (core : σ)

namespace ContactServers
variable {σ : Type}

/-- What `on_set` answers to a request that was refused: the thresholds that are active. -/
def refusal (message : String) (active : ContactReport) : Response :=
  ⟨false, message, active.profile.byte, active.theta⟩

def verdict (out : ContactThresholdsResult) : Response :=
  ⟨out.accepted, out.message, out.profile.byte, out.theta⟩

def begin (w : ContactWiring σ) (s : ContactServers σ) (req : Request) : ContactServers σ :=
  match toContactRequest w.blank req with
  | .error why => { s with set := .refused why }
  | .ok r => { s with set := .asking r }

def ask (w : ContactWiring σ) (s : ContactServers σ) (r : ContactThresholdsRequest) : ContactServers σ :=
  let (core, out) := w.sink.onSetContactThresholds s.core r
  let asked := { s with core, asked := s.asked ++ [(r, out)] }
  if out.accepted then { asked with set := .idle, responses := s.responses ++ [verdict out] }
  else { asked with set := .refused out.message }

def step (w : ContactWiring σ) (s : ContactServers σ) : ContactAction σ → Option (ContactServers σ)
  | .set req =>
    match s.set with
    | .idle => some (s.begin w req)
    | _ => none
  | .setStep =>
    match s.set with
    | .idle => none
    | .asking r => some (s.ask w r)
    | .refused message =>
      let active := w.sink.onQueryContact s.core
      some { s with set := .idle, responses := s.responses ++ [refusal message active] }
  | .setpoint m =>
    match s.gripper with
    | .idle => some { s with gripper := if w.asks then .asking m else .passed m }
    | _ => none
  | .gripperStep =>
    match s.gripper with
    | .idle => none
    | .asking m =>
      match contactRejection (w.sink.onQueryContact s.core).toContactState with
      | some _ => some { s with gripper := .idle }
      | none => some { s with gripper := .passed m }
    | .passed m =>
      let setpoint := toGripperSetpoint m
      some { s with
        core := w.sink.onGripperSetpoint s.core setpoint
        forwarded := s.forwarded ++ [setpoint]
        gripper := .idle }
  | .diagnose =>
    some { s with
      diagnostics := s.diagnostics ++ [contactDiagnostics (w.sink.onQueryContact s.core) w.detection] }
  | .outside core => some { s with core }

def start (core : σ) : ContactServers σ := { core }

end ContactServers

def benchReport : ContactReport where
  enabled := true
  phase := .armed
  profile := .default
  detection := .enforce
  r := .constant (.finite 0)
  theta := .constant (.finite 4)
  wouldTrips := 0
  badSamples := 0
  last := ⟨.constant (.finite 0), .constant (.finite 4), .constant (.finite 0), .constant (.finite 0)⟩

/-- Core with a monitor that takes what any token but the zero token asks for. -/
def benchContact : ContactWiring ContactReport where
  sink :=
    { onQueryContact := id
      onSetContactThresholds := fun core r =>
        if r.token = .zero then (core, ⟨false, "not authorized", core.profile, core.theta⟩)
        else ({ core with profile := r.profile, theta := r.custom }, ⟨true, "", r.profile, r.custom⟩)
      onGripperSetpoint := fun core _ => core }
  blank := ⟨.default, .constant (.finite 6), .zero⟩
  detection := "enforce"
  asks := true

end KinovaGen3
