import KinovaGen3.Streaming.Label

/-!
The session services one at a time. `on_close` drops the label and answers `closed` without asking
core, which is right for a close that core acts on and wrong for one that it ignores.
-/

namespace KinovaGen3
open Transition

/-- Core admits the token for the session it has open: it ends that session on such a close and
ignores every other. -/
structure StreamSink.Authorised {σ : Type} (sink : StreamSink σ) (admits : σ → Token → Bool) : Prop where
  ends : ∀ c token, admits c token = true →
    (sink.onQueryStream (sink.onStreamClose c { token := token })).isOpen = false
  ignores : ∀ c token, admits c token = false → sink.onStreamClose c { token := token } = c

inductive StreamOperation (σ ι : Type) where
  | request (request : SessionRequest) (now : Time)
  | poll (i : ι) (now : Time)
  | expire (core : σ)

namespace StreamServer
variable {σ ι : Type} (d : StreamDriver) (sink : StreamSink σ) {s t : StreamServer σ ι}

/-- `publish_status_if_changed`, with nothing beside it. -/
def publishStatusIfChanged (s : StreamServer σ ι) (now : Time) : StreamServer σ ι :=
  { s with topic := s.topic.called streamStatusTopic sink.onQueryStream now }

def onOpen (s : StreamServer σ ι) (req : OpenStream.Request) (now : Time) : StreamServer σ ι :=
  match openRow d req with
  | .error why => s.respond (.openStream false ResultCode.kStreamRejected why [])
  | .ok row =>
    let r := openRequest d req row
    let (res, core) := sink.onStreamOpen s.topic.core r
    let label := if res.accepted then row.name else s.topic.label
    ({ s with
      topic := { s.topic with core := core, label := label }
      opens := s.opens ++ [(r, res)] }.publishStatusIfChanged sink now).respond
      (.openStream res.accepted res.errorCode res.message (if res.accepted then row.channels else []))

def onClose (s : StreamServer σ ι) (req : CloseStream.Request) (now : Time) : StreamServer σ ι :=
  let core := sink.onStreamClose s.topic.core { token := req.token }
  ({ s with topic := { s.topic with core := core, label := "" } }.publishStatusIfChanged sink now).respond
    (.closeStream true "")

def operate (s : StreamServer σ ι) : StreamOperation σ ι → StreamServer σ ι
  | .request (.openStream req) now => s.onOpen d sink req now
  | .request (.closeStream req) now => s.onClose sink req now
  | .request .listControllers _ => s.respond (onList d)
  | .poll _ now => s.publishStatusIfChanged sink now
  | .expire core => { s with topic := { s.topic with core := core } }

/-- The constructor seeds the latched topic. -/
def seeded (core : σ) (now : Time) : StreamServer σ ι := (start core).publishStatusIfChanged sink now

def Quiet (s : StreamServer σ ι) : Prop := s.session = .idle ∧ ∀ thread, s.topic.calls thread = none

section
variable [DecidableEq ι]

theorem step_publishing {resp : SessionResponse} {now : Time} {topic : StreamTopicState σ ι}
    (reached : s.session = .publishing resp)
    (advanced : s.topic.advance streamStatusTopic sink.onQueryStream .session now = some topic) :
    s.step d sink (.session now) = some (s.published resp topic) := by
  simp only [step, sessionStep, reached, advanced, Option.map_some]

/-- A handler that has only its publishing left. -/
theorem publish_run (s : StreamServer σ ι) (resp : SessionResponse) (now : Time)
    (idle : s.topic.calls .session = none) :
    ∃ acts, run (step d sink) (s.publish resp) acts =
      some ((s.publishStatusIfChanged sink now).respond resp) := by
  obtain ⟨u, first, going, rest⟩ := LatchedTopic.State.advance_call now idle
  have busy : ∀ v : StreamTopicState σ ι, (v.calls .session).isSome →
      (s.publish resp).published resp v = { s.publish resp with topic := v } := by
    intro v going
    rw [published, if_neg]
    simpa [Option.isSome_iff_ne_none] using going
  have last : ∀ v : StreamTopicState σ ι, v.advance streamStatusTopic sink.onQueryStream .session now =
      some (s.topic.called streamStatusTopic sink.onQueryStream now) →
      { s.publish resp with topic := v }.step d sink (.session now) =
        some ((s.publishStatusIfChanged sink now).respond resp) := by
    intro v finishes
    rw [step_publishing d sink rfl finishes, published, if_pos (by simp [idle])]
    rfl
  have read := step_publishing d sink (s := s.publish resp) rfl first
  rw [busy u going] at read
  rcases rest with finishes | ⟨v, second, going, finishes⟩
  · exact ⟨[.session now, .session now], run_cons.mpr ⟨_, read, run_single.mpr (last u finishes)⟩⟩
  · have recorded := step_publishing d sink (s := { s.publish resp with topic := u }) rfl second
    refine ⟨[.session now, .session now, .session now], run_cons.mpr ⟨_, read, run_cons.mpr ⟨_, recorded, ?_⟩⟩⟩
    exact run_single.mpr ((congrArg (step d sink · _) (busy v going)).trans (last v finishes))

theorem step_serve (free : s.session = .idle) (request : SessionRequest) :
    s.step d sink (.serve request) = some (s.begin d request) := by
  simp only [step, free]

theorem poll_run (s : StreamServer σ ι) (i : ι) (now : Time) (idle : s.topic.calls (.poll i) = none) :
    ∃ acts, run (step d sink) s acts = some (s.publishStatusIfChanged sink now) := by
  obtain ⟨u, first, going, rest⟩ := LatchedTopic.State.advance_call now idle
  have started : s.step d sink (.tick i) =
      some { s with topic := s.topic.setCall (.poll i) (some .reading) } := by
    simp only [step, LatchedTopic.step, idle, Option.map_some]
  have polled : ∀ u v : StreamTopicState σ ι,
      u.advance streamStatusTopic sink.onQueryStream (.poll i) now = some v →
      { s with topic := u }.step d sink (.poll i now) = some { s with topic := v } := by
    intro u v advanced
    simp only [step, advanced, Option.map_some]
  rcases rest with finishes | ⟨v, second, -, finishes⟩
  · exact ⟨[.tick i, .poll i now, .poll i now], run_cons.mpr ⟨_, started, run_cons.mpr ⟨_,
      polled _ _ first, run_single.mpr (polled _ _ finishes)⟩⟩⟩
  · exact ⟨[.tick i, .poll i now, .poll i now, .poll i now], run_cons.mpr ⟨_, started, run_cons.mpr ⟨_,
      polled _ _ first, run_cons.mpr ⟨_, polled _ _ second, run_single.mpr (polled _ _ finishes)⟩⟩⟩⟩

/-- An operation is what the server's steps come to while nothing runs beside them. -/
theorem operate_run (quiet : s.Quiet) (op : StreamOperation σ ι) :
    ∃ acts, run (step d sink) s acts = some (s.operate d sink op) ∧ (s.operate d sink op).Quiet := by
  obtain ⟨free, calls⟩ := quiet
  cases op with
  | expire core => exact ⟨[.outside core], rfl, free, calls⟩
  | poll i now =>
    obtain ⟨acts, ran⟩ := poll_run d sink s i now (calls _)
    refine ⟨acts, ran, free, fun thread => ?_⟩
    simpa [operate, publishStatusIfChanged] using calls thread
  | request request now =>
    cases request with
    | listControllers => exact ⟨[.serve .listControllers], run_single.mpr (step_serve d sink free _), rfl, calls⟩
    | closeStream req =>
      obtain ⟨acts, ran⟩ := publish_run d sink { s with topic := { s.topic with
        core := sink.onStreamClose s.topic.core { token := req.token }, label := "" } }
        (.closeStream true "") now (calls _)
      refine ⟨.serve (.closeStream req) :: .session now :: .session now :: acts,
        run_cons.mpr ⟨_, step_serve d sink free _, run_cons.mpr ⟨_, rfl, run_cons.mpr ⟨_, rfl, ran⟩⟩⟩,
        rfl, fun thread => ?_⟩
      simpa [operate, onClose, respond, publishStatusIfChanged] using calls thread
    | openStream req =>
      cases admitted : openRow d req with
      | error why =>
        refine ⟨[.serve (.openStream req)], run_single.mpr ?_, ?_⟩
        · rw [step_serve d sink free]
          simp only [begin, operate, onOpen, admitted]
        · simp only [operate, onOpen, admitted]
          exact ⟨rfl, calls⟩
      | ok row =>
        let answer := sink.onStreamOpen s.topic.core (openRequest d req row)
        obtain ⟨acts, ran⟩ := publish_run d sink { s with
          topic := { s.topic with
            core := answer.2
            label := if answer.1.accepted then row.name else s.topic.label }
          opens := s.opens ++ [(openRequest d req row, answer.1)] }
          (.openStream answer.1.accepted answer.1.errorCode answer.1.message
            (if answer.1.accepted then row.channels else [])) now (calls _)
        have served := step_serve d sink free (.openStream req)
        simp only [begin, admitted] at served
        simp only [operate, onOpen, admitted]
        refine ⟨.serve (.openStream req) :: .session now :: .session now :: acts,
          run_cons.mpr ⟨_, served, run_cons.mpr ⟨_, rfl, run_cons.mpr ⟨_, rfl, ran⟩⟩⟩,
          rfl, fun thread => ?_⟩
        simpa [respond, publishStatusIfChanged] using calls thread

end

/-! ### What a close leaves -/

/-- `/stream_status` names the controller core accepted, or says that no session is open. -/
def Shows (s : StreamServer σ ι) : Prop :=
  ∀ m, s.topic.wire = some m →
    (∃ row, s.Accepted d row ∧ Names m row) ∨ m.isOpen = false ∧ m.controller = ""

/-- A close that leaves core's session open says so, and the topic as it was. -/
def CloseKept (s : StreamServer σ ι) : StreamOperation σ ι → Prop
  | .request (.closeStream req) now =>
    (s.onClose sink req now).IsOpen sink →
      (∃ why, (s.onClose sink req now).responses = s.responses ++ [.closeStream false why]) ∧
      (s.onClose sink req now).topic.wire.map (fun m => (m.controller, m.channels)) =
        s.topic.wire.map (fun m => (m.controller, m.channels))
  | _ => True

def Expires (s : StreamServer σ ι) : StreamOperation σ ι → Prop
  | .expire core => (sink.onQueryStream core).isOpen = true → s.IsOpen sink
  | _ => True

/-- No close comes with a token that core does not admit while a session is open. -/
def Acted (admits : σ → Token → Bool) (s : StreamServer σ ι) : StreamOperation σ ι → Prop
  | .request (.closeStream req) _ => s.IsOpen sink → admits s.topic.core req.token = true
  | _ => True

structure Tidy (s : StreamServer σ ι) : Prop where
  stored : s.IsOpen sink → ∃ row, s.Accepted d row ∧ s.topic.label = row.name
  published : s.topic.wire = s.topic.last
  shows : s.Shows d

section
variable {d sink} {admits : σ → Token → Bool}

theorem tidy_publish (stored : s.IsOpen sink → ∃ row, s.Accepted d row ∧ s.topic.label = row.name)
    (published : s.topic.wire = s.topic.last) (now : Time) :
    (s.publishStatusIfChanged sink now).Tidy d sink := by
  have same : (s.publishStatusIfChanged sink now).IsOpen sink = s.IsOpen sink := by
    simp only [IsOpen, publishStatusIfChanged, LatchedTopic.State.called_core]
  have onWire : (s.publishStatusIfChanged sink now).topic.wire =
      (s.publishStatusIfChanged sink now).topic.last := by
    rcases s.topic.called_wire streamStatusTopic sink.onQueryStream now with ⟨wire, last⟩ | wire
    · exact wire.trans (published.trans last.symm)
    · exact wire
  refine ⟨fun opened => ?_, onWire, fun m shown => ?_⟩
  · rw [same] at opened
    obtain ⟨row, accepted, label⟩ := stored opened
    refine ⟨row, accepted.frame rfl, ?_⟩
    have opened : (sink.onQueryStream s.topic.core).isOpen = true := opened
    simpa [publishStatusIfChanged, streamStatusTopic, opened] using label
  · rw [onWire] at shown
    by_cases opened : s.IsOpen sink
    · obtain ⟨row, accepted, label⟩ := stored opened
      obtain ⟨m', recorded, names⟩ := names_called accepted.listed opened label now
      obtain rfl := Option.some.inj (recorded.symm.trans shown)
      exact Or.inl ⟨row, accepted.frame rfl, names⟩
    · obtain ⟨m', recorded, closed⟩ := closed_called opened now
      obtain rfl := Option.some.inj (recorded.symm.trans shown)
      exact Or.inr closed

theorem Shows.frame (h : s.Shows d) (wire : t.topic.wire = s.topic.wire) (opens : t.opens = s.opens) :
    t.Shows d := by
  intro m shown
  rw [wire] at shown
  rcases h m shown with ⟨row, accepted, names⟩ | closed
  · exact Or.inl ⟨row, accepted.frame opens, names⟩
  · exact Or.inr closed

theorem Tidy.respond (h : s.Tidy d sink) (resp : SessionResponse) : (s.respond resp).Tidy d sink where
  stored opened := by
    obtain ⟨row, accepted, label⟩ := h.stored opened
    exact ⟨row, accepted.frame rfl, label⟩
  published := h.published
  shows := h.shows.frame rfl rfl

theorem tidy_seeded {core : σ} (closed : (sink.onQueryStream core).isOpen = false) (now : Time) :
    (seeded sink core now : StreamServer σ ι).Tidy d sink :=
  tidy_publish (fun opened => by cases closed.symm.trans opened) rfl now

theorem Tidy.onOpen (h : s.Tidy d sink) (refused : sink.OpensAccepted) (req : OpenStream.Request)
    (now : Time) : (s.onOpen d sink req now).Tidy d sink := by
  unfold StreamServer.onOpen
  split
  · exact h.respond _
  · rename_i row admitted
    obtain ⟨listed, -, live⟩ := openRow_ok admitted
    refine Tidy.respond (tidy_publish (fun opened => ?stored) ?published now) _
    case published => exact h.published
    cases answer : (sink.onStreamOpen s.topic.core (openRequest d req row)).1.accepted with
    | true => exact ⟨row, accepted_open listed live rfl rfl answer rfl, by simp⟩
    | false =>
      obtain ⟨row', same, label⟩ := h.stored (refused _ _ answer opened)
      exact ⟨row', same.refuse answer rfl, by simpa [answer] using label⟩

/-- Core has no session left after a close that it acts on. -/
theorem closed_of_acted (authorised : sink.Authorised admits) {req : CloseStream.Request} {now : Time}
    (acted : s.Acted sink admits (.request (.closeStream req) now : StreamOperation σ ι)) :
    (sink.onQueryStream (sink.onStreamClose s.topic.core { token := req.token })).isOpen = false := by
  cases admitted : admits s.topic.core req.token with
  | true => exact authorised.ends _ _ admitted
  | false =>
    rw [authorised.ignores _ _ admitted]
    by_contra opened
    cases admitted.symm.trans (acted (by simpa [IsOpen] using opened))

theorem Tidy.operate (h : s.Tidy d sink) (refused : sink.OpensAccepted)
    (authorised : sink.Authorised admits) {op : StreamOperation σ ι} (expires : s.Expires sink op)
    (acted : s.Acted sink admits op) : (s.operate d sink op).Tidy d sink := by
  cases op with
  | poll i now => exact tidy_publish h.stored h.published now
  | expire core =>
    refine ⟨fun opened => ?_, h.published, h.shows.frame rfl rfl⟩
    obtain ⟨row, accepted, label⟩ := h.stored (expires opened)
    exact ⟨row, accepted.frame rfl, label⟩
  | request request now =>
    cases request with
    | openStream req => exact h.onOpen refused req now
    | listControllers => exact h.respond _
    | closeStream req =>
      have closed := closed_of_acted authorised acted
      refine Tidy.respond (tidy_publish (fun opened => ?_) ?_ now) _
      · cases closed.symm.trans opened
      · exact h.published

theorem onClose_core (req : CloseStream.Request) (now : Time) :
    (s.onClose sink req now).topic.core = sink.onStreamClose s.topic.core { token := req.token } :=
  LatchedTopic.State.called_core ..

/-- `on_close` always answers `closed`, so it keeps what it should of an open session never. -/
theorem closeKept_iff (authorised : sink.Authorised admits) {op : StreamOperation σ ι} :
    s.CloseKept sink op ↔ s.Acted sink admits op := by
  cases op with
  | poll i now => exact Iff.rfl
  | expire core => exact Iff.rfl
  | request request now =>
    cases request with
    | openStream req => exact Iff.rfl
    | listControllers => exact Iff.rfl
    | closeStream req =>
      constructor
      · intro kept opened
        by_contra ignored
        have left : (s.onClose sink req now).IsOpen sink := by
          rw [IsOpen, onClose_core, authorised.ignores _ _ (by simpa using ignored)]
          exact opened
        obtain ⟨⟨why, answered⟩, -⟩ := kept left
        have truth : (s.onClose sink req now).responses = s.responses ++ [.closeStream true ""] := rfl
        rw [truth] at answered
        cases (List.append_cancel_left answered)
      · intro acted left
        rw [IsOpen, onClose_core, closed_of_acted authorised acted] at left
        cases left

end

abbrev operation (s : StreamServer σ ι) (op : StreamOperation σ ι) : Option (StreamServer σ ι) :=
  some (s.operate d sink op)

/-- Over a run of operations one at a time, a close that leaves core's session open says so and
leaves the topic, which is right throughout, exactly if core acts on every close that finds a session
open. -/
theorem close_kept_iff (refused : sink.OpensAccepted) (admits : σ → Token → Bool)
    (authorised : sink.Authorised admits) (core : σ) (closed : (sink.onQueryStream core).isOpen = false)
    (now : Time) (ops : List (StreamOperation σ ι))
    (expires : Meets (operation d sink) (Expires sink) (seeded sink core now) ops) :
    ((seeded sink core now : StreamServer σ ι).Shows d ∧
        Meets (operation d sink) (fun s op => s.CloseKept sink op ∧ (s.operate d sink op).Shows d)
          (seeded sink core now) ops) ↔
      Meets (operation d sink) (Acted sink admits) (seeded sink core now) ops := by
  have start : (seeded sink core now : StreamServer σ ι).Tidy d sink := tidy_seeded closed now
  rw [and_iff_right start.shows]
  refine meets_congr (fun s op tidy expires => ?_) (fun s op t tidy expires kept taken => ?_) start expires
  · rw [closeKept_iff authorised]
    exact ⟨And.left, fun acted => ⟨acted, (tidy.operate refused authorised expires acted).shows⟩⟩
  · obtain rfl := Option.some.inj taken
    exact tidy.operate refused authorised expires ((closeKept_iff authorised).mp kept.1)

def benchAdmits (c : BenchCore) (token : Token) : Bool := c.owner = some token

theorem benchCore_authorised : benchCore.Authorised benchAdmits where
  ends c token admitted := by
    simp only [benchAdmits, decide_eq_true_eq] at admitted
    simp [benchCore, admitted]
  ignores c token ignored := by
    simp only [benchAdmits, decide_eq_false_iff_not] at ignored
    simp [benchCore, ignored]

def benchClose (token : Token) : List (StreamOperation BenchCore Unit) :=
  [.request benchOpen {}, .poll () {}, .request (.closeStream { token := token }) {}]

theorem close_kept_iff_benchClose :
    Meets (operation benchStreamDriver benchCore)
      (fun s op => s.CloseKept benchCore op ∧ (s.operate benchStreamDriver benchCore op).Shows benchStreamDriver)
      (seeded benchCore {} {}) (benchClose Token.zero) := by
  refine ((close_kept_iff benchStreamDriver benchCore benchCore_opensAccepted benchAdmits
    benchCore_authorised {} rfl {} (benchClose Token.zero) ?_).mpr ?_).2
  · exact ⟨trivial, trivial, trivial, trivial⟩
  · exact ⟨trivial, trivial, fun _ => by decide +kernel, trivial⟩

theorem close_ignored_answers_closed : ¬ ∀ (d : StreamDriver) (σ ι : Type) (sink : StreamSink σ),
    sink.OpensAccepted → ∀ admits : σ → Token → Bool, sink.Authorised admits → ∀ core : σ,
    (sink.onQueryStream core).isOpen = false → ∀ (now : Time) (ops : List (StreamOperation σ ι)),
    Meets (operation d sink) (Expires sink) (seeded sink core now) ops →
    (seeded sink core now : StreamServer σ ι).Shows d ∧
      Meets (operation d sink) (fun s op => s.CloseKept sink op ∧ (s.operate d sink op).Shows d)
        (seeded sink core now) ops := by
  intro keptAlways
  have all := (keptAlways benchStreamDriver _ Unit benchCore benchCore_opensAccepted benchAdmits
    benchCore_authorised {} rfl {} (benchClose fun _ => 1) ⟨trivial, trivial, trivial, trivial⟩).2
  obtain ⟨-, -, ⟨kept, -⟩, -⟩ := all
  obtain ⟨⟨why, answered⟩, -⟩ := kept (by unfold IsOpen; decide +kernel)
  have last := congrArg List.getLast? answered
  rw [List.getLast?_concat] at last
  exact absurd (last.symm.trans rfl) (by simp : some (SessionResponse.closeStream false why) ≠
    some (.closeStream true ""))

end StreamServer
end KinovaGen3
