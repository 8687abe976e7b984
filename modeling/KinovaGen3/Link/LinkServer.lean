import KinovaGen3.Library.Run

/-!
`link_server.cpp`: `/clear_faults` beside the link's own thread. The service answers one call at a time.
Each call into the link and each read of the stop flag or the clock is one step.
-/

namespace KinovaGen3
open Transition

inductive LinkState where
  | connecting | faulted | running
  deriving DecidableEq

/-- `kinova::to_string`. -/
def LinkState.text : LinkState → String
  | connecting => "connecting"
  | faulted => "faulted"
  | running => "running"

structure LinkStatus where
  state : LinkState := .connecting
  reason : String := ""
  clearsDone : UInt64 := 0
  deriving DecidableEq

/-- What is read of the link at one time: its status, and which clears each step of `clears_done` so
far has resolved. A clear is named by the number of the call that requested it. -/
structure LinkSnapshot where
  status : LinkStatus
  resolutions : List (List Nat) := []
  deriving DecidableEq

def LinkSnapshot.resolved (s : LinkSnapshot) (call : Nat) : Bool := s.resolutions.any (call ∈ ·)

/-- The driver's `ArmLink`, with the clears it has accepted and not resolved. -/
structure ArmLink where
  now : LinkSnapshot
  pending : List Nat := []
  deriving DecidableEq

namespace Trigger

structure Response where
  success : Bool
  message : String
  deriving DecidableEq

end Trigger

/-- Where `on_clear` is. `before` is its baseline, read when `base` resolutions had happened. -/
inductive ClearCall where
  | idle
  | begun
  | contactDone (contact : Bool)
  | requesting (contact : Bool) (before : UInt64) (base : Nat)
  | refused
  | polling (contact : Bool) (before : UInt64) (base : Nat)
  | unmoved (contact : Bool) (before : UInt64) (base : Nat) (s : LinkSnapshot)
  | leaving (contact : Bool) (before : UInt64) (base : Nat) (s : LinkSnapshot)
  deriving DecidableEq

/-- An answered call, with the link as the call last read it, or as it was when it refused. -/
structure ClearAnswer where
  call : Nat
  contact : Bool
  accepted : Bool
  read : LinkSnapshot
  response : Trigger.Response
  deriving DecidableEq

/-- `clearsContact`: whether there is a `clear_contact_`. -/
structure LinkServer where
  link : ArmLink
  clearsContact : Bool
  stop : Bool := false
  call : ClearCall := .idle
  answers : List ClearAnswer := []
  deriving DecidableEq

inductive LinkAction where
  | call
  | clearContact (latched : Bool)
  | baseline
  | request (accepted : Bool)
  | refuse
  | poll
  | check (expired : Bool)
  | leave
  /-- The link changes without resolving a clear. -/
  | link (state : LinkState) (reason : String)
  /-- The link resolves some of the clears it has accepted. -/
  | resolve (which : List Nat) (state : LinkState) (reason : String)
  | stop

/-- What a waiting call says of a status that `clears_done` has moved to. -/
def LinkStatus.text (s : LinkStatus) : String :=
  s.state.text ++ if s.reason.isEmpty then "" else ": " ++ s.reason

def kStopping : String := "stopping"

def kNoOutcome : String := "clear requested; no outcome within 10 s"

def kContactCleared : String := "contact stop cleared"

namespace LinkServer

/-- The number of the call in progress. -/
def current (s : LinkServer) : Nat := s.answers.length

def answer (s : LinkServer) (contact accepted : Bool) (read : LinkSnapshot) (response : Trigger.Response) :
    LinkServer :=
  { s with
    call := .idle
    answers := s.answers ++ [⟨s.current, contact, accepted, read, response⟩] }

def message (contact : Bool) (text : String) : String :=
  if contact then kContactCleared ++ "; " ++ text else text

/-- The end of `on_clear` for a clear that was requested. -/
def report (contact : Bool) (s : LinkStatus) (text : String) : Trigger.Response where
  success := s.state = .running
  message := message contact text

def step (s : LinkServer) : LinkAction → Option LinkServer
  | .call =>
    match s.call with
    | .idle => some { s with call := .begun }
    | _ => none
  | .clearContact latched =>
    match s.call with
    | .begun => some { s with call := .contactDone (s.clearsContact && latched) }
    | _ => none
  | .baseline =>
    match s.call with
    | .contactDone contact =>
      some { s with call := .requesting contact s.link.now.status.clearsDone s.link.now.resolutions.length }
    | _ => none
  | .request accepted =>
    match s.call with
    | .requesting contact before base =>
      if accepted then
        some { s with
          link := { s.link with pending := s.link.pending ++ [s.current] }
          call := .polling contact before base }
      -- Only a link that is not faulted refuses.
      else if s.link.now.status.state = .faulted then none
      else if contact then some (s.answer true false s.link.now ⟨true, kContactCleared⟩)
      else some { s with call := .refused }
    | _ => none
  | .refuse =>
    match s.call with
    | .refused =>
      some (s.answer false false s.link.now
        ⟨false, "not faulted (" ++ s.link.now.status.state.text ++ ")"⟩)
    | _ => none
  | .poll =>
    match s.call with
    | .polling contact before base =>
      let read := s.link.now
      if read.status.clearsDone = before then some { s with call := .unmoved contact before base read }
      else some (s.answer contact true read (report contact read.status read.status.text))
    | _ => none
  | .check expired =>
    match s.call with
    | .unmoved contact before base read =>
      some { s with
        call := if s.stop || expired then .leaving contact before base read
          else .polling contact before base }
    | _ => none
  | .leave =>
    match s.call with
    | .leaving contact _ _ read =>
      some (s.answer contact true read
        (report contact read.status (if s.stop then kStopping else kNoOutcome)))
    | _ => none
  | .link state reason =>
    some { s with
      link := { s.link with
        now := { s.link.now with status := ⟨state, reason, s.link.now.status.clearsDone⟩ } } }
  | .resolve which state reason =>
    if which ≠ [] ∧ ∀ call ∈ which, call ∈ s.link.pending then
      some { s with
        link :=
          { now :=
              { status := ⟨state, reason, s.link.now.status.clearsDone + 1⟩
                resolutions := s.link.now.resolutions ++ [which] }
            pending := s.link.pending.filter (· ∉ which) } }
    else none
  | .stop => some { s with stop := true }

end LinkServer
end KinovaGen3
