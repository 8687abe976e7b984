import KinovaGen3.Streaming.Session

/-!
The name of the open session's controller. Core keeps the session and the server only a label for
it, so the label is right as long as no poll drops it on the strength of a status older than the
session.
-/

namespace KinovaGen3
open Transition

/-- An open that core refuses opens nothing. -/
def StreamSink.OpensAccepted {σ : Type} (sink : StreamSink σ) : Prop :=
  ∀ c r, (sink.onStreamOpen c r).1.accepted = false →
    (sink.onQueryStream (sink.onStreamOpen c r).2).isOpen = true → (sink.onQueryStream c).isOpen = true

namespace StreamServer
variable {σ ι : Type} (d : StreamDriver) (sink : StreamSink σ) {s t : StreamServer σ ι}

def start (core : σ) : StreamServer σ ι := { topic := { core := core, label := "" } }

def IsOpen (s : StreamServer σ ι) : Prop := (sink.onQueryStream s.topic.core).isOpen = true

def lastAccepted (s : StreamServer σ ι) : Option StreamOpenRequest :=
  ((s.opens.filter (·.2.accepted)).getLast?).map (·.1)

/-- Core accepted the row's pair last. -/
structure Accepted (s : StreamServer σ ι) (row : ControllerRow) : Prop where
  listed : row ∈ registry
  live : available d row = true
  pair : s.lastAccepted.map (fun r => (r.kind, r.controlMode)) = some (row.kind, row.mode)

def Pending (s : StreamServer σ ι) : Prop := s.session.isPending = true

/-- Sessions begin through `on_open` alone, none is closed, and core only ends them. -/
def OpensOnly (s : StreamServer σ ι) : StreamAction σ ι → Prop
  | .serve (.closeStream _) => False
  | .outside core => (sink.onQueryStream core).isOpen = true → s.IsOpen sink
  | _ => True

/-- No poll that has read "closed" enters its locked section once the label of core's session is
stored. -/
def NoStaleClear (s : StreamServer σ ι) : StreamAction σ ι → Prop
  | .poll i _ => ∀ read ∈ s.topic.readBy (.poll i), read.isOpen = false → s.IsOpen sink → s.Pending
  | _ => True

instance decidableOpensOnly (s : StreamServer σ ι) (act : StreamAction σ ι) :
    Decidable (s.OpensOnly sink act) :=
  match act with
  | .serve (.closeStream _) => .isFalse id
  | .serve (.openStream _) | .serve .listControllers => .isTrue trivial
  | .session _ | .tick _ | .poll _ _ => .isTrue trivial
  | .outside core => inferInstanceAs (Decidable ((sink.onQueryStream core).isOpen = true →
      (sink.onQueryStream s.topic.core).isOpen = true))

instance decidableNoStaleClear (s : StreamServer σ ι) (act : StreamAction σ ι) :
    Decidable (s.NoStaleClear sink act) :=
  match act with
  | .serve _ | .session _ | .tick _ | .outside _ => .isTrue trivial
  | .poll i _ => inferInstanceAs (Decidable (∀ read ∈ s.topic.readBy (.poll i), read.isOpen = false →
      (sink.onQueryStream s.topic.core).isOpen = true → s.session.isPending = true))

structure Labelled (s : StreamServer σ ι) : Prop where
  opening : ∀ row r, s.session = .opening row r →
    row ∈ registry ∧ available d row = true ∧ r.kind = row.kind ∧ r.controlMode = row.mode
  pending : ∀ row res, s.session = .opened row res → res.accepted = true → s.Accepted d row
  stored : s.IsOpen sink → ¬ s.Pending → ∃ row, s.Accepted d row ∧ s.topic.label = row.name
  open_only : (∀ c, s.session ≠ .closing c) ∧ s.session ≠ .closed
  quiet : (∀ resp, s.session ≠ .publishing resp) → s.topic.calls .session = none
  behind : ∀ read, s.topic.calls .session = some (.recording read) → read.isOpen = false →
    ¬ s.IsOpen sink

section
variable {d sink}

theorem Accepted.frame {row : ControllerRow} (h : s.Accepted d row) (opens : t.opens = s.opens) :
    t.Accepted d row := by
  refine ⟨h.listed, h.live, ?_⟩
  rw [lastAccepted, opens]
  exact h.pair

theorem labelled_start {core : σ} (closed : (sink.onQueryStream core).isOpen = false) :
    (start core : StreamServer σ ι).Labelled d sink where
  opening _ _ := by rintro ⟨⟩
  pending _ _ := by rintro ⟨⟩
  stored opened := by
    cases closed.symm.trans opened
  open_only := ⟨by rintro _ ⟨⟩, by rintro ⟨⟩⟩
  quiet _ := rfl
  behind _ := by rintro ⟨⟩

/-- A session that core refuses leaves the pair it accepted before. -/
theorem Accepted.refuse {row : ControllerRow} {r : StreamOpenRequest} {res : StreamOpenResult}
    (h : s.Accepted d row) (refused : res.accepted = false) (opens : t.opens = s.opens ++ [(r, res)]) :
    t.Accepted d row := by
  refine ⟨h.listed, h.live, ?_⟩
  have pair := h.pair
  simpa [lastAccepted, opens, refused] using pair

theorem accepted_open {row : ControllerRow} {r : StreamOpenRequest} {res : StreamOpenResult}
    (listed : row ∈ registry) (live : available d row = true) (kind : r.kind = row.kind)
    (mode : r.controlMode = row.mode) (accepted : res.accepted = true)
    (opens : t.opens = s.opens ++ [(r, res)]) : t.Accepted d row := by
  refine ⟨listed, live, ?_⟩
  simp [lastAccepted, opens, accepted, kind, mode]

/-- A step of some thread in `publish_status_if_changed`. -/
theorem Labelled.advance [DecidableEq ι] (h : s.Labelled d sink) {thread : StreamThread ι} {now : Time}
    {topic : StreamTopicState σ ι}
    (advanced : s.topic.advance streamStatusTopic sink.onQueryStream thread now = some topic)
    (fresh : ∀ read, s.topic.calls thread = some (.recording read) → read.isOpen = false →
      s.IsOpen sink → s.Pending)
    (mine : thread = .session → ∃ resp, s.session = .publishing resp) :
    { s with topic := topic }.Labelled d sink := by
  obtain ⟨core, others, label⟩ := LatchedTopic.State.advance_frame advanced
  have same : { s with topic := topic }.IsOpen sink = s.IsOpen sink := by
    rw [IsOpen, IsOpen, core]
  refine ⟨h.opening, fun row res reached accepted => (h.pending row res reached accepted).frame rfl, ?_,
    h.open_only, ?_, ?_⟩
  · intro opened settled
    rw [same] at opened
    obtain ⟨row, accepted, stored⟩ := h.stored opened settled
    refine ⟨row, accepted.frame rfl, ?_⟩
    rcases label with kept | ⟨read, reached, relabelled⟩
    · exact kept.trans stored
    · cases reading : read.isOpen with
      | true => simpa [streamStatusTopic, reading, stored] using relabelled
      | false => exact absurd (fresh read reached reading opened) settled
  · intro elsewhere
    have other : StreamThread.session ≠ thread := by
      rintro rfl
      obtain ⟨resp, publishing⟩ := mine rfl
      exact elsewhere resp publishing
    exact (others _ other).trans (h.quiet elsewhere)
  · intro read reached closed
    rw [same]
    by_cases own : StreamThread.session = thread
    · subst own
      obtain rfl := LatchedTopic.State.advance_reads advanced reached
      rw [core] at closed
      simp [IsOpen, closed]
    · exact h.behind read ((others _ own).symm.trans reached) closed

theorem Labelled.respond (h : s.Labelled d sink) (resp : SessionResponse)
    (idle : s.topic.calls .session = none) (settled : ¬ s.Pending) :
    (s.respond resp).Labelled d sink where
  opening _ _ := by rintro ⟨⟩
  pending _ _ := by rintro ⟨⟩
  stored opened _ := by
    obtain ⟨row, accepted, stored⟩ := h.stored opened settled
    exact ⟨row, accepted.frame rfl, stored⟩
  open_only := ⟨by rintro _ ⟨⟩, by rintro ⟨⟩⟩
  quiet _ := idle
  behind read reached := by cases idle.symm.trans reached

theorem Labelled.begin (h : s.Labelled d sink) (free : s.session = .idle) {request : SessionRequest}
    (opens : ∀ req, request ≠ .closeStream req) : (s.begin d request).Labelled d sink := by
  have idle : s.topic.calls .session = none := h.quiet (by simp [free])
  have settled : ¬ s.Pending := by simp [Pending, free, SessionCall.isPending]
  cases request with
  | closeStream req => exact absurd rfl (opens req)
  | listControllers => exact h.respond _ idle settled
  | openStream req =>
    unfold StreamServer.begin
    dsimp only
    split
    · exact h.respond _ idle settled
    · rename_i row admitted
      obtain ⟨listed, -, live⟩ := openRow_ok admitted
      refine ⟨?_, by rintro _ _ ⟨⟩, ?_, ⟨by rintro _ ⟨⟩, by rintro ⟨⟩⟩, fun _ => idle, ?_⟩
      · rintro _ _ ⟨⟩
        exact ⟨listed, live, rfl, rfl⟩
      · intro opened _
        obtain ⟨row, accepted, stored⟩ := h.stored opened settled
        exact ⟨row, accepted.frame rfl, stored⟩
      · intro read reached
        cases idle.symm.trans reached

theorem labelled_step [DecidableEq ι] (refused : sink.OpensAccepted) {act : StreamAction σ ι}
    (h : s.Labelled d sink) (guarded : s.OpensOnly sink act ∧ s.NoStaleClear sink act)
    (taken : s.step d sink act = some t) : t.Labelled d sink := by
  obtain ⟨only, fresh⟩ := guarded
  cases step_cases taken with
  | serve free =>
    refine h.begin free ?_
    rintro req rfl
    exact only
  | @openStream row r res core _ reached answered =>
    obtain ⟨listed, live, kind, mode⟩ := h.opening row r reached
    have idle := h.quiet (by simp [reached])
    refine ⟨by rintro _ _ ⟨⟩, ?_, ?_, ⟨by rintro _ ⟨⟩, by rintro ⟨⟩⟩, fun _ => idle, ?_⟩
    · rintro _ _ ⟨⟩ accepted
      exact accepted_open listed live kind mode accepted rfl
    · intro opened settled
      have accepted : res.accepted = false := by
        simpa [Pending, SessionCall.isPending] using settled
      have before : s.IsOpen sink := by
        have unchanged := refused s.topic.core r
        rw [answered] at unchanged
        exact unchanged accepted opened
      obtain ⟨row', same, stored⟩ := h.stored before (by simp [Pending, reached, SessionCall.isPending])
      exact ⟨row', same.refuse accepted rfl, stored⟩
    · intro read reading
      cases idle.symm.trans reading
  | @store row res _ reached =>
    have idle := h.quiet (by simp [reached])
    refine ⟨by rintro _ _ ⟨⟩, by rintro _ _ ⟨⟩, ?_, ⟨by rintro _ ⟨⟩, by rintro ⟨⟩⟩, ?_, ?_⟩
    · intro opened _
      cases accepted : res.accepted with
      | true => exact ⟨row, (h.pending row res reached accepted).frame rfl, by simp [publish]⟩
      | false =>
        have settled : ¬ s.Pending := by
          simp [Pending, reached, SessionCall.isPending, accepted]
        obtain ⟨row', same, stored⟩ := h.stored opened settled
        exact ⟨row', same.frame rfl, by simpa [publish, accepted] using stored⟩
    · intro elsewhere
      exact absurd rfl (elsewhere _)
    · intro read reading
      simp [publish, LatchedTopic.State.setCall] at reading
  | closeStream reached => exact absurd reached (h.open_only.1 _)
  | clear reached => exact absurd reached h.open_only.2
  | publish reached advanced =>
    have moved := h.advance advanced (fun read reading closed opened =>
      absurd opened (h.behind read reading closed)) fun _ => ⟨_, reached⟩
    unfold published
    split
    · rename_i done
      exact moved.respond _ (Option.isNone_iff_eq_none.mp done) (by simp [Pending, reached, SessionCall.isPending])
    · exact moved
  | @tick i idle =>
    have elsewhere : ∀ call, (s.topic.setCall (.poll i) call).calls .session = s.topic.calls .session :=
      fun call => LatchedTopic.State.setCall_other call (by rintro ⟨⟩)
    refine ⟨h.opening, fun row res reached accepted => (h.pending row res reached accepted).frame rfl, ?_,
      h.open_only, ?_, ?_⟩
    · intro opened settled
      obtain ⟨row, accepted, stored⟩ := h.stored opened settled
      exact ⟨row, accepted.frame rfl, stored⟩
    · intro other
      exact (elsewhere _).trans (h.quiet other)
    · intro read reading
      exact h.behind read ((elsewhere _).symm.trans reading)
  | poll advanced =>
    refine h.advance advanced (fun read reading => ?_) (by rintro ⟨⟩)
    exact fresh read (LatchedTopic.State.mem_readBy.mpr reading)
  | outside core =>
    refine ⟨h.opening, fun row res reached accepted => (h.pending row res reached accepted).frame rfl, ?_,
      h.open_only, h.quiet, ?_⟩
    · intro opened settled
      obtain ⟨row, accepted, stored⟩ := h.stored (only opened) settled
      exact ⟨row, accepted.frame rfl, stored⟩
    · intro read reading closed opened
      exact h.behind read reading closed (only opened)

/-- What the condition excludes does lose the label. -/
theorem stale_clear_loses [DecidableEq ι] {i : ι} {now : Time}
    (taken : s.step d sink (.poll i now) = some t) (stale : ¬ s.NoStaleClear sink (.poll i now)) :
    t.IsOpen sink ∧ t.topic.label = "" := by
  simp only [NoStaleClear, not_forall] at stale
  obtain ⟨read, held, closed, opened, -⟩ := stale
  have reached := LatchedTopic.State.mem_readBy.mp held
  cases step_cases taken with
  | poll advanced =>
    have core := (LatchedTopic.State.advance_frame advanced).1
    obtain ⟨reading, -⟩ | ⟨read', recording, rfl⟩ | ⟨m, sending, -⟩ :=
      LatchedTopic.State.advance_cases advanced
    · cases reading.symm.trans reached
    · cases recording.symm.trans reached
      refine ⟨by rw [IsOpen, core]; exact opened, ?_⟩
      unfold LatchedTopic.State.record
      dsimp only
      split <;> simp [streamStatusTopic, closed]
    · cases sending.symm.trans reached

/-- The message is about the open session, and names its controller. -/
structure Names (m : StreamStatusMsg) (row : ControllerRow) : Prop where
  isOpen : m.isOpen = true
  controller : m.controller = row.name
  channels : m.channels = row.channels

/-- What a call of its own leaves recorded: core's status under the label it keeps. -/
theorem recorded_called (now : Time) : ∃ m, (s.topic.called streamStatusTopic sink.onQueryStream now).last = some m ∧
    m.isOpen = (sink.onQueryStream s.topic.core).isOpen ∧
    m.controller = streamStatusTopic.relabel (sink.onQueryStream s.topic.core) s.topic.label ∧
    m.channels = channelsOf (streamStatusTopic.relabel (sink.onQueryStream s.topic.core) s.topic.label) := by
  obtain ⟨m, recorded, same | rfl⟩ := s.topic.called_last streamStatusTopic sink.onQueryStream now
  · simp only [streamStatusTopic, StreamServer.same, message, Bool.and_eq_true, decide_eq_true_eq] at same
    obtain ⟨⟨⟨⟨isOpen, controller⟩, channels⟩, -⟩, -⟩ := same
    exact ⟨m, recorded, isOpen, controller, channels⟩
  · exact ⟨_, recorded, rfl, rfl, rfl⟩

theorem names_called {row : ControllerRow} (listed : row ∈ registry) (opened : s.IsOpen sink)
    (stored : s.topic.label = row.name) (now : Time) :
    ∃ m, (s.topic.called streamStatusTopic sink.onQueryStream now).last = some m ∧ Names m row := by
  have opened : (sink.onQueryStream s.topic.core).isOpen = true := opened
  have kept : streamStatusTopic.relabel (sink.onQueryStream s.topic.core) s.topic.label = row.name := by
    simp [streamStatusTopic, opened, stored]
  obtain ⟨m, recorded, isOpen, controller, channels⟩ := @recorded_called _ _ sink s now
  rw [kept] at controller channels
  exact ⟨m, recorded, isOpen.trans opened, controller, channels.trans (channelsOf_registry row listed)⟩

theorem closed_called (closed : ¬ s.IsOpen sink) (now : Time) :
    ∃ m, (s.topic.called streamStatusTopic sink.onQueryStream now).last = some m ∧ m.isOpen = false ∧
      m.controller = "" := by
  have closed : (sink.onQueryStream s.topic.core).isOpen = false := by simpa [IsOpen] using closed
  obtain ⟨m, recorded, isOpen, controller, -⟩ := @recorded_called _ _ sink s now
  refine ⟨m, recorded, isOpen.trans closed, controller.trans ?_⟩
  simp [streamStatusTopic, closed]

end

/-- While no poll drops the label on an old status, `open_controller_` names the row whose pair core
accepted whenever core has a session open and no handler is running; and the next message does so. -/
theorem open_controller_kept [DecidableEq ι] (refused : sink.OpensAccepted) (core : σ)
    (closed : (sink.onQueryStream core).isOpen = false) (acts : List (StreamAction σ ι))
    (s : StreamServer σ ι) (h : run (step d sink) (start core) acts = some s)
    (only : Meets (step d sink) (OpensOnly sink) (start core) acts)
    (fresh : Meets (step d sink) (NoStaleClear sink) (start core) acts)
    (finished : s.session = .idle ∧ ∀ i, s.topic.calls (.poll i) = none) (opened : s.IsOpen sink) :
    ∃ row, s.Accepted d row ∧ s.topic.label = row.name ∧ ∀ i now, ∃ publishes t m,
      run (streamStatusTopic.step sink.onQueryStream) s.topic
        (LatchedTopic.call (.poll i) now publishes) = some t ∧
      t.last = some m ∧ Names m row ∧ (publishes = true → t.wire = some m) := by
  have labelled : s.Labelled d sink :=
    run_invariant_of_meets (fun _ _ _ held guarded taken => labelled_step refused held guarded taken)
      (labelled_start closed) (meets_and.mpr ⟨only, fresh⟩) h
  obtain ⟨row, accepted, stored⟩ := labelled.stored opened (by simp [Pending, finished.1, SessionCall.isPending])
  refine ⟨row, accepted, stored, fun i now => ?_⟩
  obtain ⟨publishes, ran, published⟩ := LatchedTopic.call_run (StreamThread.poll i) now (finished.2 i)
  obtain ⟨m, recorded, names⟩ := names_called accepted.listed opened stored now
  exact ⟨publishes, _, m, ran, recorded, names, fun published' => (published published').trans recorded⟩

theorem benchCore_opensAccepted : benchCore.OpensAccepted := by
  intro c r refused opened
  cases owner : c.owner with
  | none => simp [benchCore, owner] at refused
  | some token => simp [benchCore, owner]

def benchOpen : SessionRequest := .openStream { controller := "joint_position", timeoutS := .finite (1 / 10) }

def benchOpenAfterPoll : List (StreamAction BenchCore Unit) :=
  [.tick (), .poll () {}, .poll () {}, .poll () {}, .serve benchOpen, .session {}, .session {},
    .session {}, .session {}, .session {}]

theorem open_controller_kept_benchOpenAfterPoll : ∃ s row, s.Accepted benchStreamDriver row ∧
    run (step benchStreamDriver benchCore) (start {}) benchOpenAfterPoll = some s ∧
    s.topic.label = row.name := by
  obtain ⟨s, ran, reached⟩ := run_reaches (step benchStreamDriver benchCore) (start {})
    benchOpenAfterPoll (fun s => s.session.isIdle && (s.topic.calls (.poll ())).isNone &&
      (benchCore.onQueryStream s.topic.core).isOpen) (by decide +kernel)
  simp only [Bool.and_eq_true, Option.isNone_iff_eq_none] at reached
  obtain ⟨⟨idle, polled⟩, opened⟩ := reached
  obtain ⟨row, accepted, stored, -⟩ := open_controller_kept benchStreamDriver benchCore
    benchCore_opensAccepted {} rfl benchOpenAfterPoll s ran (by decide +kernel) (by decide +kernel)
    ⟨SessionCall.eq_idle idle, fun _ => polled⟩ opened
  exact ⟨s, row, accepted, ran, stored⟩

/-- The poll has read "closed" before core opens, and enters its locked section after the label is
stored. -/
def benchOpenDuringPoll : List (StreamAction BenchCore Unit) :=
  [.tick (), .poll () {}, .serve benchOpen, .session {}, .session {}, .poll () {}, .poll () {},
    .session {}, .session {}, .session {}]

theorem open_controller_lost : ¬ ∀ (d : StreamDriver) (σ ι : Type) [DecidableEq ι]
    (sink : StreamSink σ), sink.OpensAccepted → ∀ core : σ,
    (sink.onQueryStream core).isOpen = false → ∀ (acts : List (StreamAction σ ι))
    (s : StreamServer σ ι), run (step d sink) (start core) acts = some s →
    Meets (step d sink) (OpensOnly sink) (start core) acts →
    (s.session = .idle ∧ ∀ i, s.topic.calls (.poll i) = none) → s.IsOpen sink →
    ∃ row, s.Accepted d row ∧ s.topic.label = row.name := by
  intro labelled
  obtain ⟨s, ran, reached⟩ := run_reaches (step benchStreamDriver benchCore) (start {})
    benchOpenDuringPoll (fun s => s.session.isIdle && (s.topic.calls (.poll ())).isNone &&
      (benchCore.onQueryStream s.topic.core).isOpen && s.topic.label = "") (by decide +kernel)
  simp only [Bool.and_eq_true, Option.isNone_iff_eq_none, decide_eq_true_eq] at reached
  obtain ⟨⟨⟨idle, polled⟩, opened⟩, lost⟩ := reached
  obtain ⟨row, accepted, stored⟩ := labelled benchStreamDriver _ Unit benchCore benchCore_opensAccepted {} rfl
    benchOpenDuringPoll s ran (by decide +kernel) ⟨SessionCall.eq_idle idle, fun _ => polled⟩ opened
  have named : ∀ row ∈ registry, row.name ≠ "" := by decide
  exact named row accepted.listed (stored.symm.trans lost)

end StreamServer
end KinovaGen3
