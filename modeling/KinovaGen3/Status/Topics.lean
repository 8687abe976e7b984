import KinovaGen3.Arbitration.Server
import KinovaGen3.Streaming.StreamServer

/-!
The two latched status topics. Each of them shows core's status again after one more call, unless
calls published in another order than they recorded.
-/

namespace KinovaGen3
open Transition

inductive StatusServer where
  | arbitration | stream
  deriving DecidableEq

namespace StatusServer

@[reducible] def Status : StatusServer → Type
  | arbitration => ArbitrationStatus
  | stream => StreamStatus

@[reducible] def Label : StatusServer → Type
  | arbitration => Unit
  | stream => String

@[reducible] def Msg : StatusServer → Type
  | arbitration => ControlStatus
  | stream => StreamStatusMsg

def topic : (server : StatusServer) →
    LatchedTopic Time server.Status server.Label server.Msg server.Msg
  | arbitration => controlStatusTopic
  | stream => streamStatusTopic

def Shows : (server : StatusServer) → server.Msg → server.Status → Prop
  | arbitration, m, s =>
    m.arbitrationEnabled = decide (s.mode = .enforced) ∧ m.estopped = s.estopped ∧
      m.owned = s.owned ∧ m.ownerId = s.ownerId ∧ m.generation = s.generation ∧
      m.rejectedCount = s.rejectedCount
  | stream, m, s => m.isOpen = s.isOpen ∧ m.timeoutS = s.timeoutS ∧ m.rejectedCount = s.rejectedCount

theorem shows_of_payload {server : StatusServer} {m : server.Msg} {s : server.Status}
    (h : server.topic.payload m = server.topic.content s) : server.Shows m s := by
  cases server with
  | arbitration =>
    have h : { m with stamp := {} } = ArbitrationStatus.message {} s := h
    cases m
    cases h
    exact ⟨rfl, rfl, rfl, rfl, rfl, rfl⟩
  | stream =>
    cases m
    cases h
    exact ⟨rfl, rfl, rfl⟩

end StatusServer

/-- Once all calls have finished, one more call of its own leaves core's status on the topic, if no
call published after the status recorded last had been published. -/
theorem status_topics_converge (server : StatusServer) {Core Caller : Type} [DecidableEq Caller]
    (status : Core → server.Status) (core : Core) (label : server.Label)
    (acts : List (LatchedTopic.Action Core Time server.Label Caller))
    (s : LatchedTopic.State Core server.Status server.Label server.Msg Caller)
    (h : run (server.topic.step status) { core := core, label := label } acts = some s)
    (ordered : Meets (server.topic.step status) server.topic.InOrder { core := core, label := label } acts)
    (finished : ∀ i, s.calls i = none) (i : Caller) (now : Time) :
    ∃ publishes t, run (server.topic.step status) s (LatchedTopic.call i now publishes) = some t ∧
      t.core = s.core ∧ (∀ j, t.calls j = none) ∧
      ∃ m, t.wire = some m ∧ server.Shows m (status t.core) := by
  have synced : server.topic.Synced s := LatchedTopic.synced_run (Or.inr rfl) ordered h
  obtain ⟨publishes, t, ran, same, quiet, shown⟩ := synced.call finished i now
  obtain ⟨m, wire, payload⟩ := Option.map_eq_some_iff.mp shown
  refine ⟨publishes, t, ran, same, quiet, m, wire, ?_⟩
  rw [same]
  exact StatusServer.shows_of_payload payload

def benchReads : List (LatchedTopic.Action ArbitrationStatus Time Unit Bool) :=
  [.start false, .read false, .core { estopped := true }, .start true, .read true,
    .record false {}, .record true {}]

def benchInOrder : List (LatchedTopic.Action ArbitrationStatus Time Unit Bool) :=
  benchReads ++ [.send false, .send true]

theorem status_topics_converge_benchInOrder : ∃ s t m publishes,
    run (controlStatusTopic.step id) { core := {}, label := () } benchInOrder = some s ∧
      run (controlStatusTopic.step id) s (LatchedTopic.call false {} publishes) = some t ∧
      t.wire = some m ∧ m.estopped = t.core.estopped := by
  obtain ⟨s, ran, quiet⟩ := run_reaches (controlStatusTopic.step id) { core := {}, label := () }
    benchInOrder (fun s => decide (∀ i, (s.calls i).isNone)) (by decide +kernel)
  have ordered : Meets (controlStatusTopic.step id) controlStatusTopic.InOrder
      { core := {}, label := () } benchInOrder :=
    ⟨trivial, trivial, trivial, trivial, trivial, trivial, trivial, ⟨true, _, _, rfl, rfl, rfl⟩,
      ⟨true, _, _, rfl, rfl, rfl⟩, trivial⟩
  obtain ⟨publishes, t, called, -, -, m, wire, shows⟩ := status_topics_converge .arbitration id {} () _ s
    ran ordered (fun i => Option.isNone_iff_eq_none.mp (of_decide_eq_true quiet i)) false {}
  exact ⟨s, t, m, publishes, ran, called, wire, shows.2.1⟩

/-- They publish the other way round. -/
def benchOvertaken : List (LatchedTopic.Action ArbitrationStatus Time Unit Bool) :=
  benchReads ++ [.send true, .send false]

theorem status_topic_stale : ¬ ∀ (server : StatusServer) (Core Caller : Type) [DecidableEq Caller]
    (status : Core → server.Status) (core : Core) (label : server.Label)
    (acts : List (LatchedTopic.Action Core Time server.Label Caller))
    (s : LatchedTopic.State Core server.Status server.Label server.Msg Caller),
    run (server.topic.step status) { core := core, label := label } acts = some s →
    (∀ i, s.calls i = none) → ∀ (i : Caller) (now : Time),
    ∃ publishes t, run (server.topic.step status) s (LatchedTopic.call i now publishes) = some t ∧
      t.core = s.core ∧ (∀ j, t.calls j = none) ∧
      ∃ m, t.wire = some m ∧ server.Shows m (status t.core) := by
  intro converges
  obtain ⟨s, ran, reached⟩ := run_reaches (controlStatusTopic.step id) { core := {}, label := () }
    benchOvertaken
    (fun s => decide (∀ i, (s.calls i).isNone) && s.core.estopped && decide (∀ publishes,
      (run (controlStatusTopic.step id) s (LatchedTopic.call false {} publishes)).all fun t =>
        t.wire.all fun m => !m.estopped)) (by decide +kernel)
  simp only [Bool.and_eq_true, decide_eq_true_eq] at reached
  obtain ⟨⟨quiet, stopped⟩, stale⟩ := reached
  obtain ⟨publishes, t, called, same, -, m, wire, shows⟩ := converges .arbitration _ _ id {} () _ s ran
    (fun i => Option.isNone_iff_eq_none.mp (quiet i)) false {}
  have called : run (controlStatusTopic.step id) s (LatchedTopic.call false {} publishes) = some t := called
  have unseen := stale publishes
  rw [called] at unseen
  have estopped : m.estopped = t.core.estopped := shows.2.1
  rw [same, stopped] at estopped
  simp [wire, estopped] at unseen

end KinovaGen3
