import KinovaGen3.Arbitration.Estop

/-!
How often `on_estop` calls the arbiter: `estop` when a source begins to engage, or when one that
engages already finds the arbiter cleared by something else, and `estop_clear` when the last source
stops. Each call halts the arm anew, so there must be neither more nor fewer of them.
-/

namespace KinovaGen3
open Transition

inductive ArbiterCall where
  | estop | estopClear
  deriving DecidableEq

/-- An arbiter with the calls that reached its latch. -/
structure Recorded (σ : Type) where
  arb : σ
  calls : List ArbiterCall := []

def ArbitrationSink.recording {σ : Type} (arb : ArbitrationSink σ) : ArbitrationSink (Recorded σ) where
  status r := arb.status r.arb
  grant r id token :=
    let (g, a) := arb.grant r.arb id token
    (g, { r with arb := a })
  revoke r := { r with arb := arb.revoke r.arb }
  estop r := { arb := arb.estop r.arb, calls := r.calls ++ [.estop] }
  estopClear r := { arb := arb.estopClear r.arb, calls := r.calls ++ [.estopClear] }

/-! ### The history of the messages -/

def someEngaged (msgs : List EStop) : Bool := msgs.any fun m => latestEngages m.source msgs

/-- A source goes from not engaged to engaged. -/
def rises (past : List EStop) (m : EStop) : Bool := m.engages && !latestEngages m.source past

/-- The set of engaged sources goes from non-empty to empty. -/
def empties (past : List EStop) (m : EStop) : Bool := someEngaged past && !someEngaged (past ++ [m])

/-- A message, and whether the arbiter was stopped when it came. -/
abbrev Arrival := EStop × Bool

/-- A source engages again and finds the arbiter not stopped. -/
def findsCleared (past : List Arrival) (arrival : Arrival) : Bool :=
  arrival.1.engages && latestEngages arrival.1.source (past.map Prod.fst) && !arrival.2

/-- How many members of a list have a property that depends on those before them. -/
def tally {α : Type} (p : List α → α → Bool) : List α → List α → Nat
  | _, [] => 0
  | past, a :: rest => (if p past a then 1 else 0) + tally p (past ++ [a]) rest

/-- The calls one message is answered with. -/
def due (past : List Arrival) (arrival : Arrival) : List ArbiterCall :=
  if rises (past.map Prod.fst) arrival.1 || findsCleared past arrival then [.estop]
  else if empties (past.map Prod.fst) arrival.1 then [.estopClear]
  else []

def callsDue : List Arrival → List Arrival → List ArbiterCall
  | _, [] => []
  | past, arrival :: rest => due past arrival ++ callsDue (past ++ [arrival]) rest

theorem tally_append {α : Type} {p : List α → α → Bool} {past front : List α} {a : α} :
    tally p past (front ++ [a]) = tally p past front + if p (past ++ front) a then 1 else 0 := by
  induction front generalizing past with
  | nil => simp [tally]
  | cons b front ih =>
    rw [List.cons_append, tally, tally, ih, List.append_assoc, List.singleton_append]
    omega

theorem callsDue_append {past front : List Arrival} {arrival : Arrival} :
    callsDue past (front ++ [arrival]) = callsDue past front ++ due (past ++ front) arrival := by
  induction front generalizing past with
  | nil => simp [callsDue]
  | cons b front ih =>
    rw [List.cons_append, callsDue, callsDue, ih, List.append_assoc, List.append_assoc,
      List.singleton_append]

theorem someEngaged_iff {msgs : List EStop} :
    someEngaged msgs = true ↔ ∃ source, latestEngages source msgs = true := by
  unfold someEngaged
  rw [List.any_eq_true]
  constructor
  · rintro ⟨m, -, engaged⟩
    exact ⟨m.source, engaged⟩
  · rintro ⟨source, engaged⟩
    obtain ⟨m, last, -⟩ := (Option.any_eq_true _ _).mp engaged
    have member := List.mem_of_getLast? last
    simp only [List.mem_filter, Bool.and_eq_true, decide_eq_true_eq] at member
    obtain ⟨listed, rfl, -⟩ := member
    exact ⟨m, listed, engaged⟩

/-- Only its sender begins to engage by a message. -/
theorem rises_iff {past : List EStop} {m : EStop} : rises past m = true ↔
    ∃ source, latestEngages source past = false ∧ latestEngages source (past ++ [m]) = true := by
  unfold rises
  rw [Bool.and_eq_true, Bool.not_eq_true']
  constructor
  · rintro ⟨engages, new⟩
    refine ⟨m.source, new, ?_⟩
    rw [latestEngages_append]
    simp [EStop.bearsState, engages]
  · rintro ⟨source, new, engaged⟩
    rw [latestEngages_append] at engaged
    split at engaged
    · rename_i mine
      simp only [Bool.and_eq_true, decide_eq_true_eq] at mine
      exact ⟨engaged, mine.1 ▸ new⟩
    · cases new.symm.trans engaged

theorem empties_iff {past : List EStop} {m : EStop} : empties past m = true ↔
    (∃ source, latestEngages source past = true) ∧ ∀ source, latestEngages source (past ++ [m]) = false := by
  unfold empties
  rw [Bool.and_eq_true, Bool.not_eq_true', someEngaged_iff, Bool.eq_false_iff, Ne, someEngaged_iff,
    not_exists]
  simp only [Bool.not_eq_true]

theorem not_empties_of_engages {past : List EStop} {m : EStop} (engages : m.engages = true) :
    empties past m = false := by
  have engaged : someEngaged (past ++ [m]) = true := by
    apply someEngaged_iff.mpr
    refine ⟨m.source, ?_⟩
    rw [latestEngages_append]
    simp [EStop.bearsState, engages]
  simp [empties, engaged]

theorem due_count {past : List Arrival} {arrival : Arrival} :
    (due past arrival).count .estop = (if rises (past.map Prod.fst) arrival.1 then 1 else 0) +
      (if findsCleared past arrival then 1 else 0) ∧
    (due past arrival).count .estopClear = if empties (past.map Prod.fst) arrival.1 then 1 else 0 := by
  have exclusive : rises (past.map Prod.fst) arrival.1 = true → findsCleared past arrival = false := by
    intro rising
    simp only [rises, Bool.and_eq_true, Bool.not_eq_true'] at rising
    simp [findsCleared, rising.2]
  have never : rises (past.map Prod.fst) arrival.1 = true ∨ findsCleared past arrival = true →
      empties (past.map Prod.fst) arrival.1 = false := by
    intro engaging
    apply not_empties_of_engages
    simp only [rises, findsCleared, Bool.and_eq_true] at engaging
    rcases engaging with rising | again
    · exact rising.1
    · exact again.1.1
  unfold due
  by_cases rising : rises (past.map Prod.fst) arrival.1 = true
  · simp [rising, exclusive rising, never (Or.inl rising)]
  · by_cases again : findsCleared past arrival = true
    · simp [rising, again, never (Or.inr again)]
    · by_cases emptied : empties (past.map Prod.fst) arrival.1 = true <;> simp [rising, again, emptied]

theorem callsDue_count (arrivals : List Arrival) :
    (callsDue [] arrivals).count .estop =
      tally rises [] (arrivals.map Prod.fst) + tally findsCleared [] arrivals ∧
    (callsDue [] arrivals).count .estopClear = tally empties [] (arrivals.map Prod.fst) := by
  induction arrivals using List.reverseRecOn with
  | nil => exact ⟨rfl, rfl⟩
  | append_singleton front arrival ih =>
    obtain ⟨estops, clears⟩ := ih
    obtain ⟨estop, clear⟩ := @due_count front arrival
    rw [callsDue_append, List.map_append, List.map_singleton, List.count_append, List.count_append,
      tally_append, tally_append, tally_append, List.nil_append, List.nil_append]
    constructor <;> omega

/-! ### What is called -/

/-- The calls that the message being handled is still to make. -/
def EstopCall.due (stopped : Bool) : EstopCall → List ArbiterCall
  | checking => if stopped then [] else [.estop]
  | engaging => [.estop]
  | clearing => [.estopClear]
  | idle | forgetting | publishing _ => []

/-- While an engage is handled, the arbiter is stopped once its calls are made. -/
def EstopCall.Halting (stopped : Bool) : EstopCall → Prop
  | idle | forgetting | publishing _ => stopped = true
  | checking | engaging => True
  | clearing => False

namespace ArbitrationServer
variable {σ : Type} {arb : ArbitrationSink σ}

/-- The messages as they come. -/
def arrival (arb : ArbitrationSink σ) (s : ArbitrationServer σ) : ArbitrationAction σ → List Arrival
  | .estop msg => [(msg, (arb.status s.arb).estopped)]
  | _ => []

/-- What changes the arbiter from outside is no call of this server, and while a message is handled it
leaves the latch. -/
def outsideBetween (arb : ArbitrationSink σ) (s : ArbitrationServer (Recorded σ)) :
    ArbitrationAction (Recorded σ) → Bool
  | .outside r => r.calls = s.arb.calls &&
      (s.estopCall.isIdle || (arb.recording.status r).estopped = (arb.recording.status s.arb).estopped)
  | _ => true

structure Accounted (arb : ArbitrationSink σ) (past : List Arrival) (s : ArbitrationServer (Recorded σ)) :
    Prop where
  sources : ∀ source, source ∈ s.engagedSources ↔ latestEngages source (past.map Prod.fst) = true
  calls : s.arb.calls ++ s.estopCall.due (arb.recording.status s.arb).estopped = callsDue [] past

variable {s t : ArbitrationServer (Recorded σ)} {act : ArbitrationAction (Recorded σ)} {past : List Arrival}

theorem Accounted.aside (h : Accounted arb past s) (engaged : t.engagedSources = s.engagedSources)
    (calls : t.arb.calls ++ t.estopCall.due (arb.recording.status t.arb).estopped =
      s.arb.calls ++ s.estopCall.due (arb.recording.status s.arb).estopped) :
    Accounted arb (past ++ []) t := by
  rw [List.append_nil]
  constructor
  · rw [engaged]
    exact h.sources
  · rw [calls]
    exact h.calls

/-- A message that comes leaves its own calls to be made. -/
theorem Accounted.arrive {msg : EStop} {stopped : Bool} (h : Accounted arb past s) (free : s.estopCall = .idle)
    (sources : ∀ source, source ∈ t.engagedSources ↔
      latestEngages source (past.map Prod.fst ++ [msg]) = true)
    (same : t.arb = s.arb)
    (calls : t.estopCall.due (arb.recording.status s.arb).estopped = KinovaGen3.due past (msg, stopped)) :
    Accounted arb (past ++ [(msg, stopped)]) t := by
  constructor
  · rw [List.map_append]
    exact sources
  · have before := h.calls
    rw [free] at before
    rw [callsDue_append, List.nil_append, same, calls, ← before]
    simp [EstopCall.due]

theorem someEngaged_sources {msgs : List EStop} {engaged : Finset String}
    (sources : ∀ source, source ∈ engaged ↔ latestEngages source msgs = true) :
    someEngaged msgs = decide (engaged ≠ ∅) := by
  rw [Bool.eq_iff_iff, someEngaged_iff, decide_eq_true_eq, ← Finset.nonempty_iff_ne_empty]
  constructor
  · rintro ⟨source, latest⟩
    exact ⟨source, (sources source).mpr latest⟩
  · rintro ⟨source, member⟩
    exact ⟨source, (sources source).mp member⟩

theorem due_engages {msg : EStop} {stopped : Bool} (engages : msg.engages = true) :
    due past (msg, stopped) =
      if latestEngages msg.source (past.map Prod.fst) && stopped then [] else [.estop] := by
  have never := @not_empties_of_engages (past.map Prod.fst) msg engages
  unfold due rises findsCleared
  cases known : latestEngages msg.source (past.map Prod.fst) <;> cases stopped <;>
    simp [engages, never]

theorem due_plain {msg : EStop} {stopped : Bool} {before later : Finset String}
    (plain : msg.state = EStop.STATE_NOT_ENGAGED)
    (tracked : ∀ source, source ∈ before ↔ latestEngages source (past.map Prod.fst) = true)
    (tracked' : ∀ source, source ∈ later ↔ latestEngages source (past.map Prod.fst ++ [msg]) = true) :
    due past (msg, stopped) = if before ≠ ∅ ∧ later = ∅ then [.estopClear] else [] := by
  have silent : msg.engages = false := decide_eq_false (not_not.mpr plain)
  have emptied : empties (past.map Prod.fst) msg = decide (before ≠ ∅ ∧ later = ∅) := by
    rw [empties, someEngaged_sources tracked, someEngaged_sources tracked']
    simp
  simp [due, rises, findsCleared, silent, emptied]

theorem recording_latching (latching : arb.Latching) : arb.recording.Latching where
  grant r := latching.grant r.arb
  revoke r := latching.revoke r.arb
  estop r := latching.estop r.arb
  estopClear r := latching.estopClear r.arb

/-- The services call the arbiter, but not its latch. -/
theorem service_calls (step : ArbitrationStep arb.recording s act t) (own : act.ofService = true) :
    t.arb.calls = s.arb.calls := by
  cases step with
  | serve | store | allow | refuse | releaseForget | revokeForget | releaseRevoke | revoke => rfl
  | @grant req r a now reached granted =>
    have calls : (arb.recording.grant s.arb req.ownerId
        (if req.token ≠ Token.zero then some req.token else none)).2.calls = s.arb.calls := rfl
    rw [granted] at calls
    exact calls
  | servicePublish reached published =>
    rename_i next
    obtain ⟨last, wire, rfl⟩ := publishStep_frame published
    cases next <;> rfl
  | _ => cases own

theorem accounted_step (step : ArbitrationStep arb.recording s act t) (latching : arb.Latching)
    (between : outsideBetween arb s act = true) (h : Accounted arb past s) :
    Accounted arb (past ++ arrival arb.recording s act) t := by
  have latched := recording_latching latching
  by_cases own : act.ofService = true
  · obtain ⟨engaged, call, kept, -⟩ := service_frame step latched own
    have calls := service_calls step own
    have none : arrival arb.recording s act = [] := by
      cases act <;> first | rfl | cases own
    rw [none]
    apply h.aside engaged
    rw [calls, call, kept]
  cases step with
  | serve | grant | store | allow | refuse | releaseRevoke | releaseForget | revoke | revokeForget
  | servicePublish => exact absurd rfl own
  | @first msg free engages new =>
    refine h.arrive free (sources_insert h.sources engages) rfl ?_
    have unknown : latestEngages msg.source (past.map Prod.fst) = false :=
      Bool.eq_false_iff.mpr fun known => new ((h.sources _).mpr known)
    rw [due_engages (decide_eq_true engages), unknown]
    rfl
  | @again msg free engages known =>
    refine h.arrive free (sources_insert h.sources engages) rfl ?_
    rw [due_engages (decide_eq_true engages), (h.sources _).mp known]
    rfl
  | @clearAttempt msg free plain target =>
    have sources := sources_silent h.sources plain target
    refine h.arrive free sources rfl ?_
    rw [due_plain plain h.sources sources, free]
    simp [EstopCall.due]
  | @heartbeat msg free plain target new =>
    have sources := sources_erase h.sources plain target
    rw [Finset.erase_eq_of_notMem new] at sources
    refine h.arrive free sources rfl ?_
    rw [due_plain plain h.sources sources, free]
    simp [EstopCall.due]
  | @leave msg free plain target known others =>
    have sources := sources_erase h.sources plain target
    refine h.arrive free sources rfl ?_
    rw [due_plain plain h.sources sources]
    simp [EstopCall.due, others]
  | @last msg free plain target known others =>
    have sources := sources_erase h.sources plain target
    refine h.arrive free sources rfl ?_
    rw [due_plain plain h.sources sources]
    simp [EstopCall.due, others, Finset.ne_empty_of_mem known]
  | stillStopped reached stopped =>
    refine h.aside rfl ?_
    simp [EstopCall.due, reached, stopped]
  | cleared reached free =>
    refine h.aside rfl ?_
    simp [EstopCall.due, reached, free]
  | engage reached =>
    refine h.aside rfl ?_
    simp [EstopCall.due, reached, ArbitrationSink.recording]
  | forget reached =>
    refine h.aside rfl ?_
    simp [EstopCall.due, reached, forgetToken]
  | clear reached =>
    refine h.aside rfl ?_
    simp [EstopCall.due, reached, ArbitrationSink.recording]
  | estopPublish reached published =>
    rename_i next
    obtain ⟨last, wire, rfl⟩ := publishStep_frame published
    refine h.aside rfl ?_
    rw [reached]
    cases next <;> rfl
  | outside r =>
    simp only [outsideBetween, Bool.and_eq_true, Bool.or_eq_true, decide_eq_true_eq] at between
    obtain ⟨calls, free | latch⟩ := between
    · refine h.aside rfl ?_
      show r.calls ++ s.estopCall.due _ = _
      rw [EstopCall.eq_idle free, calls]
      rfl
    · refine h.aside rfl ?_
      show r.calls ++ s.estopCall.due (arb.recording.status r).estopped = _
      rw [calls, latch]

/-- The messages of a run as they come. -/
def arrivals (arb : ArbitrationSink σ) (s : ArbitrationServer (Recorded σ))
    (acts : List (ArbitrationAction (Recorded σ))) : List Arrival :=
  labels (step arb.recording) (arrival arb.recording) s acts

theorem arrivals_messages {acts : List (ArbitrationAction (Recorded σ))}
    (h : run (step arb.recording) s acts = some t) :
    (arrivals arb s acts).map Prod.fst = acts.filterMap ArbitrationAction.message? := by
  have sent : ∀ (s : ArbitrationServer (Recorded σ)) (act : ArbitrationAction (Recorded σ)),
      (arrival arb.recording s act).map Prod.fst = act.message?.toList := by
    intro s act
    cases act <;> rfl
  unfold arrivals
  simp only [labels_map, sent]
  exact labels_filterMap h

theorem accounted_start {a : σ} : Accounted arb [] ({ arb := { arb := a } } : ArbitrationServer (Recorded σ)) := by
  constructor
  · intro source
    simp [latestEngages]
  · rfl

theorem estop_free {arb : ArbitrationSink σ} {s t : ArbitrationServer σ} {msg : EStop}
    (taken : step arb s (.estop msg) = some t) : s.estopCall = .idle := by
  cases step_cases taken <;> assumption

/-- A source that engages again finds the arbiter stopped unless something else has cleared it. -/
theorem findsCleared_never {msg : EStop} (tracked : Tracked arb.recording (past.map Prod.fst) s)
    (free : s.estopCall = .idle) :
    findsCleared past (msg, (arb.recording.status s.arb).estopped) = false := by
  have latch := tracked.latch
  rw [free] at latch
  unfold findsCleared
  by_cases known : latestEngages msg.source (past.map Prod.fst) = true
  · have member := (tracked.sources msg.source).mpr known
    have stopped := latch.mpr (Finset.ne_empty_of_mem member)
    simp [stopped]
  · simp [known]

theorem findsCleared_run {acts : List (ArbitrationAction (Recorded σ))} (latching : arb.Latching) {a : σ}
    (released : (arb.status a).estopped = false)
    (h : run (step arb.recording) { arb := { arb := a } } acts = some s)
    (alone : Meets (step arb.recording) (fun s act => keepsLatch arb.recording s act = true)
      { arb := { arb := a } } acts) :
    tally findsCleared [] (arrivals arb { arb := { arb := a } } acts) = 0 := by
  let inv (past : List Arrival) (s : ArbitrationServer (Recorded σ)) : Prop :=
    Tracked arb.recording (past.map Prod.fst) s ∧ tally findsCleared [] past = 0
  have start : inv [] { arb := { arb := a } } := ⟨tracked_start released, rfl⟩
  have preserve : ∀ past s act t, inv past s → keepsLatch arb.recording s act = true →
      step arb.recording s act = some t → inv (past ++ arrival arb.recording s act) t := by
    rintro past s act t ⟨tracked, none⟩ alone taken
    have later := tracked_step (step_cases taken) (recording_latching latching) alone tracked
    cases act with
    | estop msg =>
      refine ⟨?_, ?_⟩
      · rw [List.map_append]
        exact later
      · show tally findsCleared [] (past ++ [(msg, (arb.recording.status s.arb).estopped)]) = 0
        rw [tally_append, none, List.nil_append, findsCleared_never tracked (estop_free taken)]
        rfl
    | _ =>
      refine ⟨?_, ?_⟩
      · rw [List.map_append]
        exact later
      · show tally findsCleared [] (past ++ []) = 0
        rw [List.append_nil, none]
  exact (run_invariant_of_labels preserve start alone h).2

theorem halting_step {arb : ArbitrationSink σ} {s t : ArbitrationServer σ} {act : ArbitrationAction σ}
    (step : ArbitrationStep arb s act t) (latching : arb.Latching) (silent : act.message? = none)
    (alone : keepsLatch arb s act = true) (h : s.estopCall.Halting (arb.status s.arb).estopped) :
    t.estopCall.Halting (arb.status t.arb).estopped := by
  by_cases own : act.ofService = true
  · obtain ⟨-, call, kept, -⟩ := service_frame step latching own
    rwa [call, kept]
  cases step with
  | serve | grant | store | allow | refuse | releaseRevoke | releaseForget | revoke | revokeForget
  | servicePublish => exact absurd rfl own
  | first | again | clearAttempt | heartbeat | leave | last => cases silent
  | stillStopped reached stopped => exact stopped
  | cleared reached => trivial
  | engage reached => exact latching.estop _
  | forget reached =>
    rw [reached] at h
    exact h
  | clear reached =>
    rw [reached] at h
    exact h.elim
  | estopPublish reached published =>
    rename_i next
    obtain ⟨last, wire, rfl⟩ := publishStep_frame published
    rw [reached] at h
    cases next <;> exact h
  | outside a =>
    have kept := of_decide_eq_true alone
    show s.estopCall.Halting (arb.status a).estopped
    rwa [kept]

theorem halting_engage {arb : ArbitrationSink σ} {s t : ArbitrationServer σ} {msg : EStop}
    (taken : step arb s (.estop msg) = some t) (engages : msg.engages = true) :
    t.estopCall.Halting (arb.status t.arb).estopped := by
  have asked := of_decide_eq_true engages
  cases step_cases taken with
  | first | again => trivial
  | clearAttempt free plain | heartbeat free plain | leave free plain | last free plain =>
    exact absurd plain asked

theorem engage_halts {arb : ArbitrationSink σ} {s t : ArbitrationServer σ} {msg : EStop}
    {back : List (ArbitrationAction σ)} (latching : arb.Latching)
    (h : run (step arb) s (.estop msg :: back) = some t) (engages : msg.engages = true)
    (silent : ∀ act ∈ back, act.message? = none)
    (alone : Meets (step arb) (fun s act => keepsLatch arb s act = true) s (.estop msg :: back))
    (handled : t.estopCall = .idle) : (arb.status t.arb).estopped = true := by
  obtain ⟨u, taken, h⟩ := run_cons.mp h
  have alone := ((meets_cons taken).mp alone).2
  have met : Meets (step arb) (fun s act => keepsLatch arb s act = true ∧ act.message? = none) u back :=
    meets_and.mpr ⟨alone, meets_of_mem fun act member _ => silent act member⟩
  have preserve : ∀ s act t, s.estopCall.Halting (arb.status s.arb).estopped →
      keepsLatch arb s act = true ∧ act.message? = none → step arb s act = some t →
      t.estopCall.Halting (arb.status t.arb).estopped := by
    rintro s act t halting ⟨alone, silent⟩ taken
    exact halting_step (step_cases taken) latching silent alone halting
  have halting := run_invariant_of_meets preserve (halting_engage taken engages) met h
  rw [handled] at halting
  exact halting

end ArbitrationServer

open ArbitrationServer

/-- One halt for each engage. With every message handled, `estop` has been called once for each time
a source began to engage and once for each time one engaged again and found the arbiter not stopped,
which something else must have cleared; `estop_clear` once for each time the last source left; and no
engage leaves the arbiter not stopped. -/
theorem one_halt_per_engage {σ : Type} (arb : ArbitrationSink σ) (latching : arb.Latching) (a : σ)
    (released : (arb.status a).estopped = false) (acts : List (ArbitrationAction (Recorded σ)))
    (s : ArbitrationServer (Recorded σ))
    (h : run (step arb.recording) { arb := { arb := a } } acts = some s)
    (between : Meets (step arb.recording) (fun s act => outsideBetween arb s act = true)
      { arb := { arb := a } } acts)
    (handled : s.estopCall = .idle) :
    s.arb.calls = callsDue [] (arrivals arb { arb := { arb := a } } acts) ∧
    s.arb.calls.count .estop = tally rises [] (acts.filterMap ArbitrationAction.message?) +
      tally findsCleared [] (arrivals arb { arb := { arb := a } } acts) ∧
    s.arb.calls.count .estopClear = tally empties [] (acts.filterMap ArbitrationAction.message?) ∧
    (Meets (step arb.recording) (fun s act => keepsLatch arb.recording s act = true)
        { arb := { arb := a } } acts →
      tally findsCleared [] (arrivals arb { arb := { arb := a } } acts) = 0) ∧
    ∀ msg back t, run (step arb.recording) s (.estop msg :: back) = some t → msg.engages = true →
      (∀ act ∈ back, act.message? = none) →
      Meets (step arb.recording) (fun s act => keepsLatch arb.recording s act = true) s
        (.estop msg :: back) →
      t.estopCall = .idle → (arb.status t.arb.arb).estopped = true := by
  have accounted := run_invariant_of_labels
    (fun past s act t accounted between taken =>
      accounted_step (step_cases taken) latching between accounted)
    accounted_start between h
  have calls := accounted.calls
  rw [handled] at calls
  have made : s.arb.calls = callsDue [] (arrivals arb { arb := { arb := a } } acts) := by
    simpa [EstopCall.due, arrivals] using calls
  have counts := callsDue_count (arrivals arb { arb := { arb := a } } acts)
  rw [arrivals_messages h, ← made] at counts
  refine ⟨made, counts.1, counts.2, findsCleared_run latching released h, ?_⟩
  intro msg back t later engages silent alone settled
  exact engage_halts (recording_latching latching) later engages silent alone settled

/-- A source engages, engages again, is cleared by something else, engages a third time and leaves. -/
def benchCleared : List (ArbitrationAction (Recorded BenchArbiter)) :=
  .estop { state := 1, source := "web" } :: List.replicate 5 (.estopStep {}) ++
    [.estop { state := 1, source := "web" }, .estopStep {}, .outside ⟨{}, [.estop]⟩] ++
    .estop { state := 1, source := "web" } :: List.replicate 5 (.estopStep {}) ++
    .estop { state := 0, source := "web" } :: List.replicate 4 (.estopStep {})

theorem one_halt_per_engage_benchCleared : ∃ s,
    run (step benchArbiter.recording) { arb := { arb := {} } } benchCleared = some s ∧
      s.arb.calls = [.estop, .estop, .estopClear] := by
  obtain ⟨s, ran, handled⟩ := run_reaches (step benchArbiter.recording) { arb := { arb := {} } } benchCleared
    (fun s => s.estopCall.isIdle) (by decide +kernel)
  have made := (one_halt_per_engage benchArbiter benchArbiter_latching {} rfl _ s ran (by decide +kernel)
    (EstopCall.eq_idle handled)).1
  refine ⟨s, ran, ?_⟩
  rw [made]
  decide +kernel

end KinovaGen3
