import KinovaGen3.Arbitration.Steps

/-!
`on_estop` against the history of the messages: the engaged sources are those whose latest message
that bears their state engages, and the arbiter is stopped while there are any.
-/

namespace KinovaGen3
open Transition

variable {σ : Type}

/-- `estop` latches, `estop_clear` unlatches, and nothing else does. -/
structure ArbitrationSink.Latching (arb : ArbitrationSink σ) : Prop where
  grant : ∀ a id token, (arb.status (arb.grant a id token).2).estopped = (arb.status a).estopped
  revoke : ∀ a, (arb.status (arb.revoke a)).estopped = (arb.status a).estopped
  estop : ∀ a, (arb.status (arb.estop a)).estopped = true
  estopClear : ∀ a, (arb.status (arb.estopClear a)).estopped = false

namespace EStop

def engages (m : EStop) : Bool := m.state ≠ STATE_NOT_ENGAGED

/-- A clear attempt says nothing about its sender. -/
def bearsState (m : EStop) : Bool := m.engages || m.clearTarget = ""

end EStop

def latestEngages (source : String) (msgs : List EStop) : Bool :=
  (msgs.filter fun m => m.source = source && m.bearsState).getLast?.any EStop.engages

theorem latestEngages_append (source : String) (msgs : List EStop) (m : EStop) :
    latestEngages source (msgs ++ [m]) =
      if m.source = source && m.bearsState then m.engages else latestEngages source msgs := by
  unfold latestEngages
  rw [List.filter_append, List.filter_singleton]
  by_cases mine : (m.source = source && m.bearsState) = true
  · rw [if_pos mine, mine, cond_true, List.getLast?_append]
    simp
  · rw [if_neg mine, Bool.eq_false_iff.mpr mine, cond_false, List.append_nil]

theorem latestEngages_own {source : String} {msgs msgs' : List EStop}
    (same : msgs.filter (·.source = source) = msgs'.filter (·.source = source)) :
    latestEngages source msgs = latestEngages source msgs' := by
  have own : ∀ msgs : List EStop, (msgs.filter fun m => m.source = source && m.bearsState) =
      (msgs.filter (·.source = source)).filter EStop.bearsState := by
    intro msgs
    rw [List.filter_filter]
    congr 1
    funext m
    exact Bool.and_comm _ _
  unfold latestEngages
  rw [own, own, same]

/-- What holds of the latch and the engaged sources while `on_estop` is at this point. -/
def EstopCall.Latched (stopped : Bool) (engaged : Finset String) : EstopCall → Prop
  | idle | publishing _ => stopped = true ↔ engaged ≠ ∅
  | checking | engaging => engaged ≠ ∅
  | forgetting => stopped = true ∧ engaged ≠ ∅
  | clearing => engaged = ∅

def ArbitrationAction.message? : ArbitrationAction σ → Option EStop
  | estop msg => some msg
  | _ => none

/-- The steps of the other thread, which runs the services and the timer. -/
def ArbitrationAction.ofService : ArbitrationAction σ → Bool
  | serve _ | service _ => true
  | _ => false

namespace ArbitrationServer

def keepsLatch (arb : ArbitrationSink σ) (s : ArbitrationServer σ) : ArbitrationAction σ → Bool
  | .outside a => (arb.status a).estopped = (arb.status s.arb).estopped
  | _ => true

structure Tracked (arb : ArbitrationSink σ) (msgs : List EStop) (s : ArbitrationServer σ) : Prop where
  sources : ∀ source, source ∈ s.engagedSources ↔ latestEngages source msgs = true
  latch : s.estopCall.Latched (arb.status s.arb).estopped s.engagedSources

variable {arb : ArbitrationSink σ} {s t : ArbitrationServer σ} {act : ArbitrationAction σ}
  {msgs : List EStop}

theorem Tracked.aside (h : Tracked arb msgs s) (engaged : t.engagedSources = s.engagedSources)
    (estopCall : t.estopCall = s.estopCall)
    (latch : (arb.status t.arb).estopped = (arb.status s.arb).estopped) :
    Tracked arb (msgs ++ []) t := by
  constructor
  · rw [engaged, List.append_nil]
    exact h.sources
  · rw [engaged, estopCall, latch]
    exact h.latch

theorem Tracked.goes (h : Tracked arb msgs s) (engaged : t.engagedSources = s.engagedSources)
    (latch : t.estopCall.Latched (arb.status t.arb).estopped s.engagedSources) :
    Tracked arb (msgs ++ []) t := by
  constructor
  · rw [engaged, List.append_nil]
    exact h.sources
  · rw [engaged]
    exact latch

theorem sources_insert {msg : EStop}
    (tracked : ∀ source, source ∈ s.engagedSources ↔ latestEngages source msgs = true)
    (engages : msg.state ≠ EStop.STATE_NOT_ENGAGED) (source : String) :
    source ∈ insert msg.source s.engagedSources ↔ latestEngages source (msgs ++ [msg]) = true := by
  have state : msg.engages = true := decide_eq_true engages
  rw [latestEngages_append, Finset.mem_insert, tracked]
  by_cases mine : msg.source = source
  · simp [mine, state, EStop.bearsState]
  · simp [mine, Ne.symm mine]

theorem sources_erase {msg : EStop}
    (tracked : ∀ source, source ∈ s.engagedSources ↔ latestEngages source msgs = true)
    (plain : msg.state = EStop.STATE_NOT_ENGAGED) (target : msg.clearTarget = "") (source : String) :
    source ∈ s.engagedSources.erase msg.source ↔ latestEngages source (msgs ++ [msg]) = true := by
  have state : msg.engages = false := decide_eq_false (not_not.mpr plain)
  rw [latestEngages_append, Finset.mem_erase, tracked]
  by_cases mine : msg.source = source
  · simp [mine, state, EStop.bearsState, target]
  · simp [mine, Ne.symm mine]

theorem sources_silent {msg : EStop}
    (tracked : ∀ source, source ∈ s.engagedSources ↔ latestEngages source msgs = true)
    (plain : msg.state = EStop.STATE_NOT_ENGAGED) (target : msg.clearTarget ≠ "") (source : String) :
    source ∈ s.engagedSources ↔ latestEngages source (msgs ++ [msg]) = true := by
  have silent : msg.bearsState = false := by
    simp [EStop.bearsState, EStop.engages, plain, target]
  rw [tracked]
  simp [latestEngages_append, silent]

/-- The services leave the e-stop alone. -/
theorem service_frame (step : ArbitrationStep arb s act t) (latching : arb.Latching)
    (own : act.ofService = true) : t.engagedSources = s.engagedSources ∧ t.estopCall = s.estopCall ∧
      (arb.status t.arb).estopped = (arb.status s.arb).estopped ∧ act.message? = none := by
  cases step with
  | serve | store | allow | refuse | releaseForget | revokeForget => exact ⟨rfl, rfl, rfl, rfl⟩
  | @grant req r a now reached granted =>
    have kept := latching.grant s.arb req.ownerId (if req.token ≠ Token.zero then some req.token else none)
    rw [granted] at kept
    exact ⟨rfl, rfl, kept, rfl⟩
  | releaseRevoke | revoke => exact ⟨rfl, rfl, latching.revoke _, rfl⟩
  | servicePublish reached published =>
    rename_i next
    obtain ⟨last, wire, rfl⟩ := publishStep_frame published
    cases next <;> exact ⟨rfl, rfl, rfl, rfl⟩
  | _ => cases own

theorem tracked_step (step : ArbitrationStep arb s act t) (latching : arb.Latching)
    (alone : keepsLatch arb s act = true) (h : Tracked arb msgs s) :
    Tracked arb (msgs ++ act.message?.toList) t := by
  have latch := h.latch
  by_cases own : act.ofService = true
  · obtain ⟨engaged, call, kept, silent⟩ := service_frame step latching own
    rw [silent]
    exact h.aside engaged call kept
  cases step with
  | serve | grant | store | allow | refuse | releaseRevoke | releaseForget | revoke | revokeForget
  | servicePublish => exact absurd rfl own
  | first free engages | again free engages =>
    exact ⟨sources_insert h.sources engages, Finset.insert_ne_empty _ _⟩
  | @clearAttempt msg free plain target =>
    exact ⟨sources_silent h.sources plain target, h.latch⟩
  | @heartbeat msg free plain target new =>
    refine ⟨fun source => ?_, h.latch⟩
    show source ∈ s.engagedSources ↔ latestEngages source (msgs ++ [msg]) = true
    rw [← sources_erase h.sources plain target, Finset.erase_eq_of_notMem new]
  | leave free plain target known others =>
    refine ⟨sources_erase h.sources plain target, ?_⟩
    rw [free] at latch
    have stopped := latch.mpr (Finset.ne_empty_of_mem known)
    exact ⟨fun _ => others, fun _ => stopped⟩
  | last free plain target known others => exact ⟨sources_erase h.sources plain target, others⟩
  | stillStopped reached stopped =>
    rw [reached] at latch
    exact h.goes rfl ⟨fun _ => latch, fun _ => stopped⟩
  | cleared reached =>
    rw [reached] at latch
    exact h.goes rfl latch
  | engage reached =>
    rw [reached] at latch
    exact h.goes rfl ⟨latching.estop _, latch⟩
  | forget reached =>
    rw [reached] at latch
    exact h.goes rfl ⟨fun _ => latch.2, fun _ => latch.1⟩
  | clear reached =>
    rw [reached] at latch
    refine h.goes rfl ⟨fun stopped => ?_, fun some_source => (some_source latch).elim⟩
    cases (latching.estopClear s.arb).symm.trans stopped
  | estopPublish reached published =>
    rename_i next
    obtain ⟨last, wire, rfl⟩ := publishStep_frame published
    rw [reached] at latch
    cases next <;> exact h.goes rfl latch
  | outside a => exact h.aside rfl rfl (of_decide_eq_true alone)

theorem tracked_start {a : σ} (released : (arb.status a).estopped = false) :
    Tracked arb [] ({ arb := a } : ArbitrationServer σ) := by
  constructor
  · intro source
    simp [latestEngages]
  · refine ⟨fun stopped => ?_, fun some_source => (some_source rfl).elim⟩
    cases released.symm.trans stopped

theorem tracked_run (latching : arb.Latching) {a : σ} (released : (arb.status a).estopped = false)
    {acts : List (ArbitrationAction σ)} (h : run (step arb) { arb := a } acts = some s)
    (alone : Meets (step arb) (fun s act => keepsLatch arb s act = true) { arb := a } acts) :
    Tracked arb (acts.filterMap ArbitrationAction.message?) s := by
  refine run_invariant_of_history ?_ (tracked_start released) alone h
  intro msgs s act t tracked alone taken
  exact tracked_step (step_cases taken) latching alone tracked

end ArbitrationServer

open ArbitrationServer

/-- With every message handled, the engaged sources are those whose latest state is an engage, and
the arbiter is stopped just while there are any. So the stop depends on each source's own messages,
not on how those of several sources interleave. -/
theorem estop_tracks_sources (arb : ArbitrationSink σ) (latching : arb.Latching) (a : σ)
    (released : (arb.status a).estopped = false) (acts : List (ArbitrationAction σ))
    (s : ArbitrationServer σ) (h : run (step arb) { arb := a } acts = some s)
    (alone : Meets (step arb) (fun s act => keepsLatch arb s act = true) { arb := a } acts)
    (handled : s.estopCall = .idle) :
    (∀ source, source ∈ s.engagedSources ↔
      latestEngages source (acts.filterMap ArbitrationAction.message?) = true) ∧
    ((arb.status s.arb).estopped = true ↔ s.engagedSources ≠ ∅) ∧
    ∀ (acts' : List (ArbitrationAction σ)) (s' : ArbitrationServer σ),
      run (step arb) { arb := a } acts' = some s' →
      Meets (step arb) (fun s act => keepsLatch arb s act = true) { arb := a } acts' →
      s'.estopCall = .idle →
      (∀ source, (acts'.filterMap ArbitrationAction.message?).filter (·.source = source) =
        (acts.filterMap ArbitrationAction.message?).filter (·.source = source)) →
      (arb.status s'.arb).estopped = (arb.status s.arb).estopped := by
  have latch : ∀ {acts s}, run (step arb) { arb := a } acts = some s →
      Meets (step arb) (fun s act => keepsLatch arb s act = true) { arb := a } acts →
      s.estopCall = .idle → ((arb.status s.arb).estopped = true ↔ s.engagedSources ≠ ∅) := by
    intro acts s h alone handled
    have latch := (tracked_run latching released h alone).latch
    rw [handled] at latch
    exact latch
  have tracked := tracked_run latching released h alone
  refine ⟨tracked.sources, latch h alone handled, ?_⟩
  intro acts' s' h' alone' handled' same
  have engaged : s'.engagedSources = s.engagedSources := by
    ext source
    rw [tracked.sources, (tracked_run latching released h' alone').sources,
      latestEngages_own (same source)]
  rw [Bool.eq_iff_iff, latch h alone handled, latch h' alone' handled', engaged]

theorem benchArbiter_latching : benchArbiter.Latching where
  grant a id token := by
    simp only [benchArbiter]
    split <;> rfl
  revoke _ := rfl
  estop _ := rfl
  estopClear _ := rfl

/-- Two sources engage, one of them twice, and one leaves; the arm stays stopped for the other. -/
def benchTwoSources : List (ArbitrationAction BenchArbiter) :=
  .estop { state := 1, source := "mib" } :: List.replicate 5 (.estopStep {}) ++
    .estop { state := 1, source := "web" } :: List.replicate 4 (.estopStep {}) ++
    [.estop { state := 2, source := "web" }, .estopStep {}, .estop { state := 0, source := "mib" }]

theorem estop_tracks_sources_benchTwoSources : ∃ s,
    run (step benchArbiter) { arb := {} } benchTwoSources = some s ∧ s.arb.status.estopped = true := by
  obtain ⟨s, ran, reached⟩ := run_reaches (step benchArbiter) { arb := {} } benchTwoSources
    (fun s => s.estopCall.isIdle && decide (s.engagedSources ≠ ∅)) (by decide +kernel)
  simp only [Bool.and_eq_true, decide_eq_true_eq] at reached
  obtain ⟨handled, engaged⟩ := reached
  exact ⟨s, ran, (estop_tracks_sources benchArbiter benchArbiter_latching {} rfl _ s ran
    (by decide +kernel) (EstopCall.eq_idle handled)).2.1.mpr engaged⟩

end KinovaGen3
