import Mathlib.Logic.Function.Basic
import KinovaGen3.Library.Run

/-!
A latched topic behind a change filter: a call reads the core's status, compares the message it
makes of it with the last one recorded and records it in one locked section, and publishes it after
that. Any number of callers may be at it at once. `Synced` is what order keeps: the recorded payload
is on the wire or on its way there.
-/

namespace Transition
universe u v w x y z

/-- What is published: the message for a status, under a label kept beside it. -/
structure LatchedTopic (Stamp : Type u) (Status : Type v) (Label : Type w) (Msg : Type x)
    (Payload : Type y) where
  /-- The locked section brings the label up to date first. -/
  relabel : Status → Label → Label
  message : Stamp → Status → Label → Msg
  same : Msg → Msg → Bool
  payload : Msg → Payload
  content : Status → Payload
  payload_message : ∀ now s label, payload (message now s label) = content s
  payload_same : ∀ a b, same a b = true → payload a = payload b

namespace LatchedTopic

inductive Call (Status : Type v) (Msg : Type x) where
  | reading
  | recording (s : Status)
  | sending (m : Msg)

structure State (Core : Type z) (Status : Type v) (Label : Type w) (Msg : Type x)
    (Caller : Type u) where
  core : Core
  label : Label
  last : Option Msg := none
  wire : Option Msg := none
  calls : Caller → Option (Call Status Msg) := fun _ => none

inductive Action (Core : Type z) (Stamp : Type u) (Label : Type w) (Caller : Type x) where
  | core (c : Core)
  | label (l : Label)
  | start (i : Caller)
  | read (i : Caller)
  | record (i : Caller) (now : Stamp)
  | send (i : Caller)

variable {Stamp : Type u} {Status : Type v} {Label : Type w} {Msg : Type x} {Payload : Type y}
  {Core : Type z} {Caller : Type u} (topic : LatchedTopic Stamp Status Label Msg Payload)

/-- Some call is still to publish the payload that is recorded. -/
def Outstanding (s : State Core Status Label Msg Caller) : Prop :=
  ∃ i m last, s.calls i = some (.sending m) ∧ s.last = some last ∧
    topic.payload m = topic.payload last

/-- A call publishes only while the recorded payload is still to be published. -/
def InOrder (s : State Core Status Label Msg Caller) : Action Core Stamp Label Caller → Prop
  | .send _ => topic.Outstanding s
  | _ => True

/-- The recorded payload is on the wire or on its way there. -/
def Synced (s : State Core Status Label Msg Caller) : Prop :=
  topic.Outstanding s ∨ s.last.map topic.payload = s.wire.map topic.payload

section
variable {topic} {s t : State Core Status Label Msg Caller}

theorem Outstanding.frame (h : topic.Outstanding s) (last : t.last = s.last)
    (calls : ∀ i m, s.calls i = some (.sending m) → t.calls i = some (.sending m)) :
    topic.Outstanding t := by
  rcases h with ⟨i, m, l, sending, recorded, same⟩
  exact ⟨i, m, l, calls i m sending, last.trans recorded, same⟩

theorem Synced.frame (h : topic.Synced s) (last : t.last = s.last) (wire : t.wire = s.wire)
    (calls : ∀ i m, s.calls i = some (.sending m) → t.calls i = some (.sending m)) :
    topic.Synced t := by
  rcases h with outstanding | same
  · exact Or.inl (outstanding.frame last calls)
  · right
    rw [last, wire]
    exact same

end

/-- The status a call has read and is to record. -/
def State.readBy (s : State Core Status Label Msg Caller) (i : Caller) : Option Status :=
  match s.calls i with
  | some (.recording read) => some read
  | _ => none

theorem State.mem_readBy {s : State Core Status Label Msg Caller} {i : Caller} {read : Status} :
    read ∈ s.readBy i ↔ s.calls i = some (.recording read) := by
  unfold readBy
  split
  · rename_i reached
    simp [reached]
  · rename_i other
    exact ⟨(by rintro ⟨⟩), fun reached => (other read reached).elim⟩

variable (status : Core → Status)

/-- The state after a call on its own. -/
def State.called (s : State Core Status Label Msg Caller) (now : Stamp) :
    State Core Status Label Msg Caller :=
  let label := topic.relabel (status s.core) s.label
  let m := topic.message now (status s.core) label
  if s.last.any (topic.same · m) then { s with label := label }
  else { s with label := label, last := some m, wire := some m }

section
variable (s : State Core Status Label Msg Caller)

theorem State.called_last (now : Stamp) : ∃ last, (s.called topic status now).last = some last ∧
    (topic.same last (topic.message now (status s.core) (topic.relabel (status s.core) s.label)) = true ∨
      last = topic.message now (status s.core) (topic.relabel (status s.core) s.label)) := by
  unfold called
  dsimp only
  split
  · rename_i unchanged
    obtain ⟨last, recorded, same⟩ := (Option.any_eq_true _ _).mp unchanged
    exact ⟨last, recorded, Or.inl same⟩
  · exact ⟨_, rfl, Or.inr rfl⟩

theorem State.called_wire (now : Stamp) :
    (s.called topic status now).wire = s.wire ∧ (s.called topic status now).last = s.last ∨
      (s.called topic status now).wire = (s.called topic status now).last := by
  unfold called
  dsimp only
  split
  · exact Or.inl ⟨rfl, rfl⟩
  · exact Or.inr rfl

theorem State.called_payload (now : Stamp) :
    (s.called topic status now).last.map topic.payload = some (topic.content (status s.core)) := by
  obtain ⟨last, recorded, same | rfl⟩ := s.called_last topic status now
  · rw [recorded, Option.map_some, topic.payload_same _ _ same, topic.payload_message]
  · rw [recorded, Option.map_some, topic.payload_message]

@[simp] theorem State.called_core (now : Stamp) : (s.called topic status now).core = s.core := by
  unfold called
  dsimp only
  split <;> rfl

@[simp] theorem State.called_calls (now : Stamp) : (s.called topic status now).calls = s.calls := by
  unfold called
  dsimp only
  split <;> rfl

@[simp] theorem State.called_label (now : Stamp) :
    (s.called topic status now).label = topic.relabel (status s.core) s.label := by
  unfold called
  dsimp only
  split <;> rfl

end

variable [DecidableEq Caller]

def State.setCall (s : State Core Status Label Msg Caller) (i : Caller)
    (call : Option (Call Status Msg)) : State Core Status Label Msg Caller :=
  { s with calls := Function.update s.calls i call }

theorem State.setCall_self {s : State Core Status Label Msg Caller} {i : Caller}
    {call : Option (Call Status Msg)} (same : s.calls i = call) : s.setCall i call = s := by
  unfold setCall
  rw [← same, Function.update_eq_self]

@[simp] theorem State.setCall_core {s : State Core Status Label Msg Caller} {i : Caller}
    {call : Option (Call Status Msg)} : (s.setCall i call).core = s.core := rfl

@[simp] theorem State.setCall_label {s : State Core Status Label Msg Caller} {i : Caller}
    {call : Option (Call Status Msg)} : (s.setCall i call).label = s.label := rfl

theorem State.setCall_other {s : State Core Status Label Msg Caller} {i j : Caller}
    (call : Option (Call Status Msg)) (other : j ≠ i) : (s.setCall i call).calls j = s.calls j :=
  Function.update_of_ne other ..

def State.record (s : State Core Status Label Msg Caller) (i : Caller) (now : Stamp)
    (read : Status) : State Core Status Label Msg Caller :=
  let label := topic.relabel read s.label
  let m := topic.message now read label
  if s.last.any (topic.same · m) then { s with label := label }.setCall i none
  else { s with label := label, last := some m }.setCall i (some (.sending m))

def step (s : State Core Status Label Msg Caller) :
    Action Core Stamp Label Caller → Option (State Core Status Label Msg Caller)
  | .core c => some { s with core := c }
  | .label l => some { s with label := l }
  | .start i =>
    match s.calls i with
    | none => some (s.setCall i (some .reading))
    | _ => none
  | .read i =>
    match s.calls i with
    | some .reading => some (s.setCall i (some (.recording (status s.core))))
    | _ => none
  | .record i now =>
    match s.calls i with
    | some (.recording read) => some (s.record topic i now read)
    | _ => none
  | .send i =>
    match s.calls i with
    | some (.sending m) => some ({ s with wire := some m }.setCall i none)
    | _ => none

/-- A call's next step, whichever it is. -/
def State.advance (s : State Core Status Label Msg Caller) (i : Caller) (now : Stamp) :
    Option (State Core Status Label Msg Caller) :=
  (s.calls i).bind fun
    | .reading => topic.step status s (.read i)
    | .recording _ => topic.step status s (.record i now)
    | .sending _ => topic.step status s (.send i)

/-- A call on its own, up to where it is seen whether it publishes, and then to its end. -/
def call (i : Caller) (now : Stamp) (publishes : Bool) : List (Action Core Stamp Label Caller) :=
  [.start i, .read i, .record i now] ++ if publishes then [.send i] else []

section
variable {topic status} {s t : State Core Status Label Msg Caller}

theorem State.advance_cases {i : Caller} {now : Stamp} (h : s.advance topic status i now = some t) :
    (s.calls i = some .reading ∧ t = s.setCall i (some (.recording (status s.core)))) ∨
      (∃ read, s.calls i = some (.recording read) ∧ t = s.record topic i now read) ∨
      ∃ m, s.calls i = some (.sending m) ∧ t = { s with wire := some m }.setCall i none := by
  obtain ⟨call, reached, h⟩ := Option.bind_eq_some_iff.mp h
  cases call with
  | reading =>
    simp only [step, reached, Option.some.injEq] at h
    exact Or.inl ⟨reached, h.symm⟩
  | recording read =>
    simp only [step, reached, Option.some.injEq] at h
    exact Or.inr (Or.inl ⟨read, reached, h.symm⟩)
  | sending m =>
    simp only [step, reached, Option.some.injEq] at h
    exact Or.inr (Or.inr ⟨m, reached, h.symm⟩)

theorem State.advance_frame {i : Caller} {now : Stamp} (h : s.advance topic status i now = some t) :
    t.core = s.core ∧ (∀ j, j ≠ i → t.calls j = s.calls j) ∧ (t.label = s.label ∨
      ∃ read, s.calls i = some (.recording read) ∧ t.label = topic.relabel read s.label) := by
  rcases advance_cases h with ⟨-, rfl⟩ | ⟨read, reached, rfl⟩ | ⟨m, -, rfl⟩
  · exact ⟨rfl, fun _ => setCall_other _, Or.inl rfl⟩
  · unfold State.record
    dsimp only
    split
    · exact ⟨rfl, fun _ => setCall_other _, Or.inr ⟨read, reached, rfl⟩⟩
    · exact ⟨rfl, fun _ => setCall_other _, Or.inr ⟨read, reached, rfl⟩⟩
  · exact ⟨rfl, fun _ => setCall_other _, Or.inl rfl⟩

/-- What a call that is to record has read, it has read since it started. -/
theorem State.advance_reads {i : Caller} {now : Stamp} {read : Status}
    (h : s.advance topic status i now = some t) (reached : t.calls i = some (.recording read)) :
    read = status t.core := by
  rcases advance_cases h with ⟨-, rfl⟩ | ⟨_, -, rfl⟩ | ⟨m, -, rfl⟩
  · simp only [setCall, Function.update_self, Option.some.injEq, Call.recording.injEq] at reached
    exact reached.symm
  · unfold State.record at reached
    dsimp only at reached
    split at reached <;> simp [setCall] at reached
  · simp [setCall] at reached

theorem Synced.setCall (h : topic.Synced s) {i : Caller} (call : Option (Call Status Msg))
    (idle : ∀ m, s.calls i ≠ some (.sending m)) : topic.Synced (s.setCall i call) := by
  refine h.frame rfl rfl fun j m sending => ?_
  have other : j ≠ i := by
    rintro rfl
    exact idle m sending
  simpa [State.setCall, other] using sending

theorem Synced.record (h : topic.Synced s) {i : Caller} {now : Stamp} {read : Status}
    (reached : s.calls i = some (.recording read)) : topic.Synced (s.record topic i now read) := by
  have idle : ∀ m, s.calls i ≠ some (.sending m) := by
    intro m sending
    cases reached.symm.trans sending
  unfold State.record
  dsimp only
  split
  · exact (h.frame rfl rfl fun _ _ => id : topic.Synced { s with label := _ }).setCall none idle
  · exact Or.inl ⟨i, _, _, Function.update_self .., rfl, rfl⟩

/-- A message that is published while the recorded payload is outstanding leaves it so, unless it
is that payload itself. -/
theorem Outstanding.send (h : topic.Outstanding s) {i : Caller} {m : Msg}
    (reached : s.calls i = some (.sending m)) :
    topic.Synced ({ s with wire := some m }.setCall i none) := by
  rcases h with ⟨j, m', last, sending, recorded, same⟩
  by_cases mine : j = i
  · subst mine
    cases sending.symm.trans reached
    right
    simp [State.setCall, recorded, same]
  · left
    refine ⟨j, m', last, ?_, recorded, same⟩
    simpa [State.setCall, mine] using sending

theorem synced_step {act : Action Core Stamp Label Caller} (h : topic.Synced s)
    (ordered : topic.InOrder s act) (taken : topic.step status s act = some t) : topic.Synced t := by
  cases act with
  | core c | label l =>
    cases taken
    exact h.frame rfl rfl fun _ _ => id
  | start i =>
    dsimp only [step] at taken
    split at taken
    · rename_i reached
      cases taken
      exact h.setCall _ (by simp [reached])
    · cases taken
  | read i =>
    dsimp only [step] at taken
    split at taken
    · rename_i reached
      cases taken
      exact h.setCall _ (by simp [reached])
    · cases taken
  | record i now =>
    dsimp only [step] at taken
    split at taken
    · rename_i reached
      cases taken
      exact h.record reached
    · cases taken
  | send i =>
    dsimp only [step] at taken
    split at taken
    · rename_i reached
      cases taken
      exact Outstanding.send ordered reached
    · cases taken

theorem synced_run {acts : List (Action Core Stamp Label Caller)} (h : topic.Synced s)
    (ordered : Meets (topic.step status) topic.InOrder s acts)
    (ran : run (topic.step status) s acts = some t) : topic.Synced t := by
  refine run_invariant_of_meets ?_ h ordered ran
  intro s act t synced ordered taken
  exact synced_step synced ordered taken

/-- A call that is left alone reads, records and, if it must, publishes. -/
theorem State.advance_call {i : Caller} (now : Stamp) (idle : s.calls i = none) :
    ∃ u, (s.setCall i (some .reading)).advance topic status i now = some u ∧ (u.calls i).isSome ∧
      (u.advance topic status i now = some (s.called topic status now) ∨
        ∃ v, u.advance topic status i now = some v ∧ (v.calls i).isSome ∧
          v.advance topic status i now = some (s.called topic status now)) := by
  have self : Function.update s.calls i none = s.calls := by rw [← idle, Function.update_eq_self]
  refine ⟨s.setCall i (some (.recording (status s.core))), ?_, by simp [setCall], ?_⟩
  · simp [advance, step, setCall]
  · by_cases unchanged : s.last.any (topic.same ·
        (topic.message now (status s.core) (topic.relabel (status s.core) s.label))) = true
    · left
      simp [advance, step, setCall, record, called, unchanged, self]
    · right
      refine ⟨s.record topic i now (status s.core), ?_, ?_, ?_⟩
      · simp [advance, step, setCall, record, unchanged]
      · simp [setCall, record, unchanged]
      · simp [advance, step, setCall, record, called, unchanged, self]

/-- A call of its own records what it reads, unless that is recorded already. -/
theorem call_run (i : Caller) (now : Stamp) (idle : s.calls i = none) :
    ∃ publishes, run (topic.step status) s (call i now publishes) = some (s.called topic status now) ∧
      (publishes = true → (s.called topic status now).wire = (s.called topic status now).last) := by
  have self : Function.update s.calls i none = s.calls := by rw [← idle, Function.update_eq_self]
  by_cases unchanged : s.last.any (topic.same ·
      (topic.message now (status s.core) (topic.relabel (status s.core) s.label))) = true
  · refine ⟨false, ?_, by rintro ⟨⟩⟩
    simp [LatchedTopic.call, run, step, State.called, State.setCall, State.record, unchanged, idle, self]
  · refine ⟨true, ?_, fun _ => ?_⟩
    · simp [LatchedTopic.call, run, step, State.called, State.setCall, State.record, unchanged, idle, self]
    · simp [State.called, unchanged]

/-- With nobody publishing, one more call of its own puts the core's status on the wire. -/
theorem Synced.call (h : topic.Synced s) (quiet : ∀ i, s.calls i = none) (i : Caller) (now : Stamp) :
    ∃ publishes t, run (topic.step status) s (call i now publishes) = some t ∧ t.core = s.core ∧
      (∀ j, t.calls j = none) ∧ t.wire.map topic.payload = some (topic.content (status s.core)) := by
  have onWire : s.last.map topic.payload = s.wire.map topic.payload := by
    rcases h with ⟨j, m, _, sending, _⟩ | same
    · cases (quiet j).symm.trans sending
    · exact same
  obtain ⟨publishes, ran, -⟩ := call_run i now (quiet i)
  refine ⟨publishes, _, ran, State.called_core _ _ _ now, fun j => ?_, ?_⟩
  · rw [State.called_calls]
    exact quiet j
  · rw [← s.called_payload topic status now]
    rcases s.called_wire topic status now with ⟨wire, last⟩ | wire
    · rw [wire, last, onWire]
    · rw [wire]

end

end LatchedTopic
end Transition
