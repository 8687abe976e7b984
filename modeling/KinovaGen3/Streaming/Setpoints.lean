import KinovaGen3.Backend.PublishState
import KinovaGen3.Streaming.Label

/-!
What a client of the streaming tier gets for its requests and its setpoints. The session services answer
as if they were called one after the other; the channels of an accepted session take the setpoints of its
kind, and no others, to core.
-/

namespace KinovaGen3
open Transition

/-! ### The setpoint topics -/

abbrev Vector6 := Fin 6 → Double

/-- `Eigen::Quaterniond`, with its constructor's order. -/
structure Quaterniond where
  w : Double
  x : Double
  y : Double
  z : Double
  deriving DecidableEq

/-- `kinova::Pose`. -/
structure CorePose where
  p : Vector3
  R : Quaterniond
  deriving DecidableEq

structure JointSetpointMsg where
  values : JointVec := .constant (.finite 0)
  token : Token := Token.zero

structure PoseSetpointMsg where
  pose : Pose := {}
  token : Token := Token.zero

structure TwistSetpointMsg where
  twist : Twist := {}
  token : Token := Token.zero

inductive SetpointMsg where
  | joint (m : JointSetpointMsg)
  | pose (m : PoseSetpointMsg)
  | twist (m : TwistSetpointMsg)

structure JointSetpoint where
  values : JointVec
  token : Token

structure PoseSetpoint where
  pose : CorePose
  token : Token

structure TwistSetpoint where
  twist : Vector6
  token : Token

/-- A call of core's `StreamSink` with a setpoint. -/
inductive SetpointCall where
  | jointPosition (s : JointSetpoint)
  | jointVelocity (s : JointSetpoint)
  | jointTorque (s : JointSetpoint)
  | pose (s : PoseSetpoint)
  | twist (s : TwistSetpoint)

def SetpointCall.kind : SetpointCall → SetpointKind
  | jointPosition _ => .jointPosition
  | jointVelocity _ => .jointVelocity
  | jointTorque _ => .jointTorque
  | pose _ => .eePose
  | twist _ => .eeTwist

namespace StreamServer

def toPose (p : Pose) : CorePose where
  p := ⟨p.position.x, p.position.y, p.position.z⟩
  R := ⟨p.orientation.w, p.orientation.x, p.orientation.y, p.orientation.z⟩

/-- Core carries this as [linear; angular]. -/
def toVector6 (t : Twist) : Vector6 := fun i =>
  match i with
  | 0 => t.linear.x
  | 1 => t.linear.y
  | 2 => t.linear.z
  | 3 => t.angular.x
  | 4 => t.angular.y
  | 5 => t.angular.z

def onJointPosition (m : JointSetpointMsg) : SetpointCall := .jointPosition ⟨m.values, m.token⟩

def onJointVelocity (m : JointSetpointMsg) : SetpointCall := .jointVelocity ⟨m.values, m.token⟩

def onJointTorque (m : JointSetpointMsg) : SetpointCall := .jointTorque ⟨m.values, m.token⟩

def onPose (m : PoseSetpointMsg) : SetpointCall := .pose ⟨toPose m.pose, m.token⟩

def onTwist (m : TwistSetpointMsg) : SetpointCall := .twist ⟨toVector6 m.twist, m.token⟩

inductive Subscription where
  | joint (callback : JointSetpointMsg → SetpointCall)
  | pose (callback : PoseSetpointMsg → SetpointCall)
  | twist (callback : TwistSetpointMsg → SetpointCall)

def subscriptions : List (String × Subscription) :=
  [("/setpoint/joint_position", .joint onJointPosition),
    ("/setpoint/joint_velocity", .joint onJointVelocity),
    ("/setpoint/joint_torque", .joint onJointTorque),
    ("/setpoint/pose", .pose onPose),
    ("/setpoint/twist", .twist onTwist)]

/-- What a message on a topic makes of core, where the topic has one of its type. -/
def deliver (topic : String) (m : SetpointMsg) : Option SetpointCall :=
  (subscriptions.lookup topic).bind fun subscription =>
    match subscription, m with
    | .joint callback, .joint m => some (callback m)
    | .pose callback, .pose m => some (callback m)
    | .twist callback, .twist m => some (callback m)
    | _, _ => none

end StreamServer

/-- The call says what the message says. -/
inductive Carries : SetpointMsg → SetpointCall → Prop where
  | jointPosition (values : ∀ i, s.values i = m.values i) (token : s.token = m.token) :
      Carries (.joint m) (.jointPosition s)
  | jointVelocity (values : ∀ i, s.values i = m.values i) (token : s.token = m.token) :
      Carries (.joint m) (.jointVelocity s)
  | jointTorque (values : ∀ i, s.values i = m.values i) (token : s.token = m.token) :
      Carries (.joint m) (.jointTorque s)
  | pose (position : m.pose.position = ⟨s.pose.p.x, s.pose.p.y, s.pose.p.z⟩)
      (orientation : m.pose.orientation = { x := s.pose.R.x, y := s.pose.R.y, z := s.pose.R.z, w := s.pose.R.w })
      (token : s.token = m.token) : Carries (.pose m) (.pose s)
  | twist (linear : m.twist.linear = ⟨s.twist 0, s.twist 1, s.twist 2⟩)
      (angular : m.twist.angular = ⟨s.twist 3, s.twist 4, s.twist 5⟩) (token : s.token = m.token) :
      Carries (.twist m) (.twist s)

/-- The session's setpoints come on this topic and on no other. -/
structure TakesSetpoints (kind : SetpointKind) (topic : String) : Prop where
  taken : ∃ m call, StreamServer.deliver topic m = some call
  carried : ∀ m call, StreamServer.deliver topic m = some call → call.kind = kind ∧ Carries m call
  only : ∀ other m call, StreamServer.deliver other m = some call → call.kind = kind → other = topic

/-! ### One request after the other -/

/-- What is answered to requests each of which is over before the next, and what core is asked. -/
inductive Answered (d : StreamDriver) :
    List SessionRequest → List SessionResponse → List (StreamOpenRequest × StreamOpenResult) → Prop where
  | nothing : Answered d [] [] []
  | refused (before : Answered d reqs resps opens) (refusal : StreamServer.openRow d req = .error why) :
      Answered d (reqs ++ [.openStream req])
        (resps ++ [.openStream false ResultCode.kStreamRejected why []]) opens
  | asked (before : Answered d reqs resps opens) (found : StreamServer.openRow d req = .ok row)
      (res : StreamOpenResult) :
      Answered d (reqs ++ [.openStream req])
        (resps ++ [.openStream res.accepted res.errorCode res.message
          (if res.accepted then row.channels else [])])
        (opens ++ [(StreamServer.openRequest d req row, res)])
  | closed (before : Answered d reqs resps opens) (req : CloseStream.Request) :
      Answered d (reqs ++ [.closeStream req]) (resps ++ [.closeStream true ""]) opens
  | listed (before : Answered d reqs resps opens) :
      Answered d (reqs ++ [.listControllers]) (resps ++ [StreamServer.onList d]) opens

section
variable {σ ι : Type}

/-- How far the session group's handler is with the last of the requests. -/
inductive Serving (d : StreamDriver) (s : StreamServer σ ι) : List SessionRequest → Prop where
  | idle (reached : s.session = .idle) (done : Answered d reqs s.responses s.opens) : Serving d s reqs
  | opening (reached : s.session = .opening row (StreamServer.openRequest d req row))
      (found : StreamServer.openRow d req = .ok row) (done : Answered d reqs s.responses s.opens) :
      Serving d s (reqs ++ [.openStream req])
  | opened (reached : s.session = .opened row res) (found : StreamServer.openRow d req = .ok row)
      (done : Answered d reqs s.responses before)
      (asked : s.opens = before ++ [(StreamServer.openRequest d req row, res)]) :
      Serving d s (reqs ++ [.openStream req])
  | closing (reached : s.session = .closing { token := req.token })
      (done : Answered d reqs s.responses s.opens) : Serving d s (reqs ++ [.closeStream req])
  | closed (reached : s.session = .closed) (done : Answered d reqs s.responses s.opens)
      (req : CloseStream.Request) : Serving d s (reqs ++ [.closeStream req])
  | publishing (reached : s.session = .publishing resp)
      (done : Answered d reqs (s.responses ++ [resp]) s.opens) : Serving d s reqs

def StreamAction.request? : StreamAction σ ι → Option SessionRequest
  | serve request => some request
  | _ => none

variable {d : StreamDriver} {sink : StreamSink σ} {s t : StreamServer σ ι} {past : List SessionRequest}

theorem Serving.frame (h : Serving d s past) (session : t.session = s.session)
    (responses : t.responses = s.responses) (opens : t.opens = s.opens) : Serving d t past := by
  cases h with
  | idle reached done =>
    exact .idle (session.trans reached) (by rw [responses, opens]; exact done)
  | opening reached found done =>
    exact .opening (session.trans reached) found (by rw [responses, opens]; exact done)
  | opened reached found done asked =>
    exact .opened (session.trans reached) found (by rw [responses]; exact done) (opens.trans asked)
  | closing reached done =>
    exact .closing (session.trans reached) (by rw [responses, opens]; exact done)
  | closed reached done req =>
    exact .closed (session.trans reached) (by rw [responses, opens]; exact done) req
  | publishing reached done =>
    exact .publishing (session.trans reached) (by rw [responses, opens]; exact done)

theorem Serving.answered (h : Serving d s past) (free : s.session = .idle) :
    Answered d past s.responses s.opens := by
  cases h with
  | idle _ done => exact done
  | opening other | opened other | closing other | closed other | publishing other =>
    cases free.symm.trans other

theorem serving_begin (free : s.session = .idle) (h : Serving d s past) (request : SessionRequest) :
    Serving d (s.begin d request) (past ++ [request]) := by
  have done : Answered d past s.responses s.opens := h.answered free
  cases request with
  | openStream req =>
    unfold StreamServer.begin
    dsimp only
    split
    · exact .idle rfl (.refused done ‹_›)
    · exact .opening rfl ‹_› done
  | closeStream req => exact .closing rfl done
  | listControllers => exact .idle rfl (.listed done)

variable [DecidableEq ι]

theorem serving_step {act : StreamAction σ ι} (taken : s.step d sink act = some t)
    (h : Serving d s past) : Serving d t (past ++ act.request?.toList) := by
  cases StreamServer.step_cases taken with
  | serve free => exact serving_begin free h _
  | tick | poll | outside =>
    show Serving d _ (past ++ [])
    rw [List.append_nil]
    exact h.frame rfl rfl rfl
  | openStream reached answered =>
    show Serving d _ (past ++ [])
    rw [List.append_nil]
    cases h with
    | opening here found done =>
      cases reached.symm.trans here
      exact .opened rfl found done rfl
    | idle other | opened other | closing other | closed other | publishing other =>
      cases reached.symm.trans other
  | store reached =>
    show Serving d _ (past ++ [])
    rw [List.append_nil]
    cases h with
    | opened here found done asked =>
      cases reached.symm.trans here
      refine .publishing rfl ?_
      show Answered d _ _ s.opens
      rw [asked]
      exact .asked done found _
    | idle other | opening other | closing other | closed other | publishing other =>
      cases reached.symm.trans other
  | closeStream reached =>
    show Serving d _ (past ++ [])
    rw [List.append_nil]
    cases h with
    | closing here done =>
      refine .closed ?_ ?_ _
      · rfl
      · exact done
    | idle other | opening other | opened other | closed other | publishing other =>
      cases reached.symm.trans other
  | clear reached =>
    show Serving d _ (past ++ [])
    rw [List.append_nil]
    cases h with
    | closed here done req => exact .publishing rfl (.closed done req)
    | idle other | opening other | opened other | closing other | publishing other =>
      cases reached.symm.trans other
  | publish reached advanced =>
    show Serving d _ (past ++ [])
    rw [List.append_nil]
    cases h with
    | publishing here done =>
      cases reached.symm.trans here
      unfold StreamServer.published
      split
      · exact .idle rfl done
      · exact .publishing reached done
    | idle other | opening other | opened other | closing other | closed other =>
      cases reached.symm.trans other

theorem serving {acts : List (StreamAction σ ι)} {core : σ}
    (h : run (StreamServer.step d sink) (StreamServer.start core) acts = some s) :
    Serving d s (acts.filterMap StreamAction.request?) := by
  have kept : ∀ past (s : StreamServer σ ι) act t, Serving d s past → True → StreamServer.step d sink s act = some t →
      Serving d t (past ++ act.request?.toList) := fun _ _ _ _ held _ taken => serving_step taken held
  exact run_invariant_of_history kept (.idle rfl .nothing) (meets_of_forall fun _ _ => trivial) h

end

/-! ### The channels of a session -/

/-- Each topic has its own type and its own call of core. -/
theorem deliver_cases {topic : String} {m : SetpointMsg} {call : SetpointCall}
    (delivered : StreamServer.deliver topic m = some call) :
    (∃ j, m = .joint j ∧ (topic = "/setpoint/joint_position" ∧ call = StreamServer.onJointPosition j ∨
      topic = "/setpoint/joint_velocity" ∧ call = StreamServer.onJointVelocity j ∨
      topic = "/setpoint/joint_torque" ∧ call = StreamServer.onJointTorque j)) ∨
    (∃ p, m = .pose p ∧ topic = "/setpoint/pose" ∧ call = StreamServer.onPose p) ∨
    ∃ t, m = .twist t ∧ topic = "/setpoint/twist" ∧ call = StreamServer.onTwist t := by
  obtain ⟨subscription, listed, delivered⟩ := Option.bind_eq_some_iff.mp delivered
  obtain ⟨front, back, split, -⟩ := List.lookup_eq_some_iff.mp listed
  have member : (topic, subscription) ∈ StreamServer.subscriptions := by
    rw [split]
    exact List.mem_append_right _ List.mem_cons_self
  simp only [StreamServer.subscriptions, List.mem_cons, List.not_mem_nil, or_false, Prod.mk.injEq] at member
  rcases member with ⟨rfl, rfl⟩ | ⟨rfl, rfl⟩ | ⟨rfl, rfl⟩ | ⟨rfl, rfl⟩ | ⟨rfl, rfl⟩
  · cases m with
    | joint j => exact Or.inl ⟨j, rfl, Or.inl ⟨rfl, (Option.some.inj delivered).symm⟩⟩
    | _ => cases delivered
  · cases m with
    | joint j => exact Or.inl ⟨j, rfl, Or.inr (Or.inl ⟨rfl, (Option.some.inj delivered).symm⟩)⟩
    | _ => cases delivered
  · cases m with
    | joint j => exact Or.inl ⟨j, rfl, Or.inr (Or.inr ⟨rfl, (Option.some.inj delivered).symm⟩)⟩
    | _ => cases delivered
  · cases m with
    | pose p => exact Or.inr (Or.inl ⟨p, rfl, rfl, (Option.some.inj delivered).symm⟩)
    | _ => cases delivered
  · cases m with
    | twist t => exact Or.inr (Or.inr ⟨t, rfl, rfl, (Option.some.inj delivered).symm⟩)
    | _ => cases delivered

theorem carries_deliver {topic : String} {m : SetpointMsg} {call : SetpointCall}
    (delivered : StreamServer.deliver topic m = some call) : Carries m call := by
  rcases deliver_cases delivered with ⟨j, rfl, ⟨-, rfl⟩ | ⟨-, rfl⟩ | ⟨-, rfl⟩⟩ | ⟨p, rfl, -, rfl⟩ |
    ⟨t, rfl, -, rfl⟩
  · exact .jointPosition (fun _ => rfl) rfl
  · exact .jointVelocity (fun _ => rfl) rfl
  · exact .jointTorque (fun _ => rfl) rfl
  · exact .pose rfl rfl rfl
  · exact .twist rfl rfl rfl

def SetpointKind.channel : SetpointKind → String
  | jointPosition => "joint_position"
  | jointVelocity => "joint_velocity"
  | jointTorque => "joint_torque"
  | eePose => "pose"
  | eeTwist => "twist"

theorem deliver_kind {topic : String} {m : SetpointMsg} {call : SetpointCall}
    (delivered : StreamServer.deliver topic m = some call) : topic = "/setpoint/" ++ call.kind.channel := by
  rcases deliver_cases delivered with ⟨j, -, ⟨rfl, rfl⟩ | ⟨rfl, rfl⟩ | ⟨rfl, rfl⟩⟩ | ⟨p, -, rfl, rfl⟩ |
    ⟨t, -, rfl, rfl⟩ <;> rfl

theorem channel_injective : ∀ kind kind' : SetpointKind,
    "/setpoint/" ++ kind.channel = "/setpoint/" ++ kind'.channel → kind = kind' := by
  intro kind kind' same
  cases kind <;> cases kind' <;> first | rfl | exact absurd same (by decide)

theorem takesSetpoints_channel (kind : SetpointKind) : TakesSetpoints kind ("/setpoint/" ++ kind.channel) where
  taken := by
    cases kind with
    | jointPosition | jointVelocity | jointTorque => exact ⟨.joint {}, _, rfl⟩
    | eePose => exact ⟨.pose {}, _, rfl⟩
    | eeTwist => exact ⟨.twist {}, _, rfl⟩
  carried m call delivered :=
    ⟨(channel_injective _ _ (deliver_kind delivered)).symm, carries_deliver delivered⟩
  only other m call delivered same := same ▸ deliver_kind delivered

theorem channels_registry : ∀ row ∈ StreamServer.registry, row.coreBacked = true →
    row.channels = [row.kind.channel] := by
  decide

theorem accepted_channels {d : StreamDriver} {req : OpenStream.Request} {row : StreamServer.ControllerRow}
    (found : StreamServer.openRow d req = .ok row) : row.channels = [row.kind.channel] := by
  obtain ⟨listed, -, live⟩ := StreamServer.openRow_ok found
  simp only [StreamServer.available, Bool.and_eq_true] at live
  exact channels_registry row listed live.1.1

theorem Answered.opened {d : StreamDriver} {reqs : List SessionRequest} {resps : List SessionResponse}
    {opens : List (StreamOpenRequest × StreamOpenResult)} (h : Answered d reqs resps opens)
    {code : Int} {message : String} {channels : List String}
    (accepted : .openStream true code message channels ∈ resps) :
    ∃ r res, (r, res) ∈ opens ∧ res.accepted = true ∧ channels = [r.kind.channel] := by
  induction h with
  | nothing => cases accepted
  | refused _ _ ih =>
    rcases List.mem_append.mp accepted with old | new
    · exact ih old
    · cases List.mem_singleton.mp new
  | @asked _ _ _ req row before found res ih =>
    rcases List.mem_append.mp accepted with old | new
    · obtain ⟨r, res', member, rest⟩ := ih old
      exact ⟨r, res', List.mem_append_left _ member, rest⟩
    · obtain ⟨yes, -, -, same⟩ := SessionResponse.openStream.inj (List.mem_singleton.mp new)
      refine ⟨_, res, List.mem_append_right _ (List.mem_singleton_self _), yes.symm, ?_⟩
      rw [same, ← yes, if_pos rfl]
      exact accepted_channels found
  | closed _ _ ih | listed _ ih =>
    rcases List.mem_append.mp accepted with old | new
    · exact ih old
    · cases List.mem_singleton.mp new

theorem Serving.opened_channel {σ ι : Type} {d : StreamDriver} {s : StreamServer σ ι}
    {reqs : List SessionRequest} (h : Serving d s reqs) {code : Int} {message : String} {channels : List String}
    (accepted : .openStream true code message channels ∈ s.responses) :
    ∃ r res, (r, res) ∈ s.opens ∧ res.accepted = true ∧ channels = [r.kind.channel] := by
  cases h with
  | idle _ done | opening _ _ done | closing _ done | closed _ done => exact done.opened accepted
  | opened _ _ done asked =>
    obtain ⟨r, res, member, rest⟩ := done.opened accepted
    refine ⟨r, res, ?_, rest⟩
    rw [asked]
    exact List.mem_append_left _ member
  | publishing _ done => exact done.opened (List.mem_append_left _ accepted)

/-- The session services answer as if each request were over before the next, whatever the polls and core
do meanwhile; and the one channel that an accepted session is given takes setpoints of the kind core has
opened, as they are, and is the only one that does. -/
theorem streams_answered {σ ι : Type} [DecidableEq ι] (d : StreamDriver) (sink : StreamSink σ) (core : σ)
    (acts : List (StreamAction σ ι)) (s : StreamServer σ ι)
    (h : run (StreamServer.step d sink) (StreamServer.start core) acts = some s) :
    Serving d s (acts.filterMap StreamAction.request?) ∧
    (s.session.isIdle = true →
      Answered d (acts.filterMap StreamAction.request?) s.responses s.opens) ∧
    ∀ code message channels, .openStream true code message channels ∈ s.responses →
      ∃ r res c, (r, res) ∈ s.opens ∧ res.accepted = true ∧ channels = [c] ∧
        TakesSetpoints r.kind ("/setpoint/" ++ c) := by
  have served : Serving d s (acts.filterMap StreamAction.request?) := serving h
  refine ⟨served, fun free => served.answered (SessionCall.eq_idle free), ?_⟩
  intro code message channels accepted
  obtain ⟨r, res, member, yes, same⟩ := served.opened_channel accepted
  exact ⟨r, res, r.kind.channel, member, yes, same, takesSetpoints_channel r.kind⟩

/-- A poll runs through the open, and the controllers are asked for as soon as that is over. -/
def benchOpenThenList : List (StreamAction BenchCore Unit) :=
  [.tick (), .serve StreamServer.benchOpen, .session {}, .poll () {}, .session {}, .poll () {}, .session {},
    .session {}, .poll () {}, .serve .listControllers]

theorem streams_answered_benchOpenThenList : ∃ s : StreamServer BenchCore Unit,
    run (StreamServer.step benchStreamDriver benchCore) (StreamServer.start {}) benchOpenThenList = some s ∧
    Answered benchStreamDriver [StreamServer.benchOpen, .listControllers] s.responses s.opens ∧
    ∃ r res, (r, res) ∈ s.opens ∧ res.accepted = true ∧
      TakesSetpoints r.kind "/setpoint/joint_position" := by
  obtain ⟨s, ran, reached⟩ := run_reaches (StreamServer.step benchStreamDriver benchCore)
    (StreamServer.start {}) benchOpenThenList
    (fun s => s.session.isIdle && decide (.openStream true ResultCode.kSuccessful "" ["joint_position"] ∈ s.responses))
    (by decide +kernel)
  simp only [Bool.and_eq_true, decide_eq_true_eq] at reached
  obtain ⟨-, asOne, opened⟩ := streams_answered benchStreamDriver benchCore {} benchOpenThenList s ran
  obtain ⟨r, res, c, member, accepted, channel, takes⟩ := opened _ _ _ reached.2
  refine ⟨s, ran, asOne reached.1, r, res, member, accepted, ?_⟩
  cases channel
  exact takes

end KinovaGen3
