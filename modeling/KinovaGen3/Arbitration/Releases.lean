import KinovaGen3.Arbitration.Retained

/-!
The answers of `release_control`. The log of a run has its requests and answers, and the owner that
each of the server's calls to `revoke()` and `estop()` finds: a release is answered `released=true`
only when its own revoke ended the ownership of the token it was asked with.
-/

namespace KinovaGen3
open Transition

variable {σ : Type}

inductive OwnershipEvent where
  | request (request : ControlRequest)
  /-- A call to `revoke()`, and the owner it ends the ownership of. -/
  | revoke (ended : Option Token)
  | estop (ended : Option Token)
  | answer (response : ControlResponse)
  deriving DecidableEq

def OwnershipEvent.answer? : OwnershipEvent → Option ControlResponse
  | answer response => some response
  | _ => none

def ControlResponse.isReleased : ControlResponse → Bool
  | release true _ => true
  | _ => false

/-- The call is a release whose revoke is done. -/
def ServiceCall.isReleased : ServiceCall → Bool
  | released => true
  | publishing _ resp => resp.any ControlResponse.isReleased
  | _ => false

namespace ArbitrationServer

def requested : ArbitrationAction σ → List OwnershipEvent
  | .serve request => [.request request]
  | _ => []

def ended (owner : σ → Option Token) (s : ArbitrationServer σ) : ArbitrationAction σ → List OwnershipEvent
  | .service _ =>
    match s.service with
    | .releasing _ => [.revoke (owner s.arb)]
    | .revoke => [.revoke (owner s.arb)]
    | _ => []
  | .estopStep _ =>
    match s.estopCall with
    | .engaging => [.estop (owner s.arb)]
    | _ => []
  | _ => []

def answered (arb : ArbitrationSink σ) (s : ArbitrationServer σ) (act : ArbitrationAction σ) :
    List OwnershipEvent :=
  match s.step arb act with
  | none => []
  | some t => (t.responses.drop s.responses.length).map .answer

def events (arb : ArbitrationSink σ) (owner : σ → Option Token) (s : ArbitrationServer σ)
    (act : ArbitrationAction σ) : List OwnershipEvent :=
  requested act ++ s.ended owner act ++ s.answered arb act

end ArbitrationServer

/-- The last request is to release `token`; its revoke came next and ended the ownership of `token`, and
no e-stop since has ended one. -/
def EndedByRelease (log : List OwnershipEvent) : Prop :=
  ∃ before token n, log = before ++ .request (.release token) :: .revoke (some token) ::
    List.replicate n (.estop none)

def ReleasesCurrent (log : List OwnershipEvent) : Prop :=
  ∀ front message back, log = front ++ .answer (.release true message) :: back → EndedByRelease front

theorem ReleasesCurrent.snoc {log : List OwnershipEvent} {event : OwnershipEvent}
    (h : ReleasesCurrent log)
    (ended : ∀ message, event = .answer (.release true message) → EndedByRelease log) :
    ReleasesCurrent (log ++ [event]) := by
  intro front message back split
  rcases List.eq_nil_or_concat back with rfl | ⟨back, last, rfl⟩
  · obtain ⟨rfl, same⟩ := List.append_inj' split rfl
    exact ended message (List.singleton_inj.mp same)
  · rw [List.concat_eq_append, ← List.cons_append, ← List.append_assoc] at split
    exact h front message back (List.append_inj' split rfl).1

namespace ArbitrationServer

variable {arb : ArbitrationSink σ} {owner : σ → Option Token} {s t : ArbitrationServer σ}
  {act : ArbitrationAction σ} {log : List OwnershipEvent}

theorem events_eq (taken : s.step arb act = some t) : events arb owner s act =
    requested act ++ s.ended owner act ++ (t.responses.drop s.responses.length).map .answer := by
  simp only [events, answered, taken]

/-- What the log holds of a release that is under way. -/
structure Underway (owner : σ → Option Token) (log : List OwnershipEvent) (s : ArbitrationServer σ) :
    Prop where
  asked : ∀ token, s.service = .release token → ∃ before, ∃ stops : List (Option Token),
    log = before ++ .request (.release token) :: stops.map .estop ∧
      (s.haveRetained = true → s.estopCall.rewrites = false → stops = [])
  admitted : ∀ token, s.service = .releasing token →
    (∃ before, log = before ++ [.request (.release token)]) ∧ owner s.arb = some token
  released : s.service.isReleased = true → EndedByRelease log ∧ owner s.arb = none

theorem Underway.idle (asked : ∀ token, s.service ≠ .release token)
    (admitted : ∀ token, s.service ≠ .releasing token) (released : s.service.isReleased = false) :
    Underway owner log s where
  asked token reached := (asked token reached).elim
  admitted token reached := (admitted token reached).elim
  released reached := by
    rw [released] at reached
    cases reached

/-- The e-stop's thread and the arbiter move, and end no ownership. -/
theorem Underway.aside (h : Underway owner log s) (service : t.service = s.service)
    (same : owner t.arb = owner s.arb)
    (kept : t.haveRetained = true → t.estopCall.rewrites = false →
      s.haveRetained = true ∧ s.estopCall.rewrites = false) : Underway owner log t where
  asked token reached := by
    obtain ⟨before, stops, shown, none⟩ := h.asked token (service ▸ reached)
    refine ⟨before, stops, shown, fun held still => ?_⟩
    obtain ⟨held, still⟩ := kept held still
    exact none held still
  admitted token reached := by
    rw [same]
    exact h.admitted token (service ▸ reached)
  released reached := by
    rw [same]
    exact h.released (service ▸ reached)

theorem Underway.engage (h : Underway owner log s) (owning : arb.Owning owner)
    (reached : s.estopCall = .engaging) (owned : releasesOwned s (.estopStep now) = true) :
    Underway owner (log ++ [.estop (owner s.arb)])
      { s with arb := arb.estop s.arb, estopCall := .forgetting } where
  asked token asked := by
    obtain ⟨before, stops, shown, _⟩ := h.asked token asked
    refine ⟨before, stops ++ [owner s.arb], ?_, ?_⟩
    · rw [shown, List.map_append, List.append_assoc]
      rfl
    · intro _ still
      cases still
  admitted token admitted := by
    have admitted : s.service = .releasing token := admitted
    simp [releasesOwned, reached, admitted] at owned
  released released := by
    obtain ⟨⟨before, token, n, shown⟩, gone⟩ := h.released released
    refine ⟨⟨before, token, n + 1, ?_⟩, owning.estop _⟩
    rw [shown, gone, List.replicate_succ', List.append_assoc]
    rfl

theorem underway_step (taken : s.step arb act = some t) (owning : arb.Owning owner)
    (alone : keepsOwner owner s act = true) (owned : releasesOwned s act = true)
    (retained : Retained owner s) (h : Underway owner log s) :
    Underway owner (log ++ events arb owner s act) t := by
  rw [events_eq taken]
  cases step_cases taken with
  | @serve request =>
    cases request with
    | release token =>
      refine ⟨fun other asked => ?_, fun other reached => ?_, fun reached => ?_⟩
      · cases asked
        exact ⟨log, [], by simp [requested, ended], fun _ _ => rfl⟩
      · cases reached
      · cases reached
    | acquire | revoke | poll => exact .idle (by simp [ServiceCall.begin]) (by simp [ServiceCall.begin]) rfl
  | grant | store | refuse | revoke | revokeForget => exact .idle (by simp) (by simp) rfl
  | allow reached held =>
    have still : s.estopCall.rewrites = false := by
      cases shown : s.estopCall with
      | forgetting => simp [releasesOwned, shown, reached, held] at owned
      | _ => rfl
    obtain ⟨before, stops, shown, none⟩ := h.asked _ reached
    refine ⟨fun other asked => ?_, fun other admitted => ?_, fun released => ?_⟩
    · cases asked
    · cases admitted
      refine ⟨⟨before, ?_⟩, retained.held held (by rw [reached]; rfl) still⟩
      simp [shown, none held still, requested, ended, reached]
    · cases released
  | @releaseRevoke token now reached =>
    obtain ⟨⟨before, shown⟩, owned⟩ := h.admitted token reached
    refine ⟨fun other asked => ?_, fun other admitted => ?_, fun _ => ⟨⟨before, token, 0, ?_⟩, ?_⟩⟩
    · cases asked
    · cases admitted
    · simp [shown, requested, ended, reached, owned]
    · exact owning.revoke s.arb
  | releaseForget reached =>
    obtain ⟨shown, gone⟩ := h.released (by rw [reached]; rfl)
    refine ⟨fun other asked => ?_, fun other admitted => ?_, fun _ => ⟨?_, gone⟩⟩
    · cases asked
    · cases admitted
    · simpa [requested, ended, reached, forgetToken] using shown
  | @servicePublish call resp now u next reached published =>
    obtain ⟨last, wire, rfl⟩ := publishStep_frame published
    cases next with
    | none => exact .idle (by simp [served]) (by simp [served]) rfl
    | some call =>
      refine ⟨fun other asked => ?_, fun other admitted => ?_, fun released => ?_⟩
      · cases asked
      · cases admitted
      · obtain ⟨shown, gone⟩ := h.released (by rw [reached]; exact released)
        refine ⟨?_, gone⟩
        simpa [requested, ended, reached, served] using shown
  | first free | again free | leave free | last free | clearAttempt free | heartbeat free =>
    simp only [requested, ended, List.drop_length, List.map_nil, List.append_nil]
    exact h.aside rfl rfl fun held _ => ⟨held, by rw [free]; rfl⟩
  | stillStopped reached | cleared reached =>
    simp only [requested, ended, reached, List.drop_length, List.map_nil, List.append_nil]
    exact h.aside rfl rfl fun held _ => ⟨held, by rw [reached]; rfl⟩
  | engage reached =>
    simp only [requested, ended, reached, List.drop_length, List.map_nil, List.append_nil, List.nil_append]
    exact h.engage owning reached owned
  | forget reached =>
    simp only [requested, ended, reached, forgetToken, List.drop_length, List.map_nil, List.append_nil]
    exact h.aside rfl rfl fun held => by cases held
  | clear reached =>
    simp only [requested, ended, reached, List.drop_length, List.map_nil, List.append_nil]
    exact h.aside rfl (owning.estopClear _) fun held _ => ⟨held, by rw [reached]; rfl⟩
  | estopPublish reached published =>
    obtain ⟨last, wire, rfl⟩ := publishStep_frame published
    simp only [requested, ended, reached, List.drop_length, List.map_nil, List.append_nil]
    exact h.aside rfl rfl fun held _ => ⟨held, by rw [reached]; rfl⟩
  | outside a =>
    simp only [requested, ended, List.drop_length, List.map_nil, List.append_nil]
    exact h.aside rfl (of_decide_eq_true alone) fun held still => ⟨held, still⟩

theorem releasesCurrent_step (taken : s.step arb act = some t) (underway : Underway owner log s)
    (h : ReleasesCurrent log) : ReleasesCurrent (log ++ events arb owner s act) := by
  rw [events_eq taken]
  cases step_cases taken with
  | serve => simpa [requested, ended] using h.snoc (by simp)
  | releaseRevoke reached | revoke reached =>
    simpa [requested, ended, reached] using h.snoc (by simp)
  | refuse reached => simpa [requested, ended, reached] using h.snoc (by simp)
  | engage reached => simpa [requested, ended, reached] using h.snoc (by simp)
  | @servicePublish call resp now u next reached published =>
    obtain ⟨last, wire, rfl⟩ := publishStep_frame published
    cases next with
    | some call => simpa [requested, ended, reached, served] using h
    | none =>
      cases resp with
      | none => simpa [requested, ended, reached, served] using h
      | some resp =>
        have answered : ReleasesCurrent (log ++ [.answer resp]) := by
          refine h.snoc fun message same => ?_
          cases same
          exact (underway.released (by rw [reached]; rfl)).1
        simpa [requested, ended, reached, served] using answered
  | grant reached | store reached | allow reached | releaseForget reached | revokeForget reached =>
    simpa [requested, ended, reached, forgetToken] using h
  | first | again | leave | last | clearAttempt | heartbeat | outside => simpa [requested, ended] using h
  | stillStopped reached | cleared reached | forget reached | clear reached =>
    simpa [requested, ended, reached, forgetToken] using h
  | estopPublish reached published =>
    obtain ⟨last, wire, rfl⟩ := publishStep_frame published
    simpa [requested, ended, reached] using h

theorem responses_step (step : ArbitrationStep arb s act t) : s.responses <+: t.responses := by
  cases step with
  | refuse => exact List.prefix_append ..
  | @servicePublish call resp now u next reached published =>
    obtain ⟨last, wire, rfl⟩ := publishStep_frame published
    cases next with
    | none => exact List.prefix_append ..
    | some call => exact List.prefix_refl _
  | estopPublish reached published =>
    obtain ⟨last, wire, rfl⟩ := publishStep_frame published
    exact List.prefix_refl _
  | _ => exact List.prefix_refl _

theorem answers_step (taken : s.step arb act = some t) :
    t.responses = s.responses ++ (events arb owner s act).filterMap OwnershipEvent.answer? := by
  have silent : (requested act ++ s.ended owner act).filterMap OwnershipEvent.answer? = [] := by
    cases act with
    | service =>
      simp only [requested, ended, List.nil_append]
      split <;> rfl
    | estopStep =>
      simp only [requested, ended, List.nil_append]
      split <;> rfl
    | _ => rfl
  rw [events_eq taken, List.filterMap_append, silent, List.nil_append, List.filterMap_map,
    show OwnershipEvent.answer? ∘ OwnershipEvent.answer = some from rfl, List.filterMap_some]
  exact (List.prefix_iff_eq_append.mp (responses_step (step_cases taken))).symm

/-- The log holds every answer. -/
theorem answers_run (acts : List (ArbitrationAction σ)) (h : run (step arb) s acts = some t) :
    t.responses = s.responses ++
      (labels (step arb) (events arb owner) s acts).filterMap OwnershipEvent.answer? := by
  induction acts generalizing s with
  | nil =>
    obtain rfl := Option.some.inj h
    exact (List.append_nil _).symm
  | cons act rest ih =>
    obtain ⟨u, taken, h⟩ := run_cons.mp h
    rw [labels_cons taken, List.filterMap_append, ← List.append_assoc, ← answers_step taken]
    exact ih h

def Kept (owner : σ → Option Token) (log : List OwnershipEvent) (s : ArbitrationServer σ) : Prop :=
  Retained owner s ∧ Underway owner log s ∧ ReleasesCurrent log

theorem releases_run (owning : arb.Owning owner) (a : σ) (acts : List (ArbitrationAction σ))
    (h : run (step arb) { arb := a } acts = some s)
    (alone : Meets (step arb) (fun s act => keepsOwner owner s act = true) { arb := a } acts)
    (stored : Meets (step arb) (fun s act => storesFirst s act = true) { arb := a } acts)
    (owned : Meets (step arb) (fun s act => releasesOwned s act = true) { arb := a } acts) :
    ReleasesCurrent (labels (step arb) (events arb owner) { arb := a } acts) := by
  have start : Kept owner [] { arb := a } := by
    refine ⟨retained_run owning a [] rfl trivial trivial, .idle (by simp) (by simp) rfl, ?_⟩
    intro front message back split
    exact (List.append_ne_nil_of_right_ne_nil front (List.cons_ne_nil _ back) split.symm).elim
  have preserve : ∀ log (s : ArbitrationServer σ) act t, Kept owner log s →
      (keepsOwner owner s act = true ∧ storesFirst s act = true ∧ releasesOwned s act = true) →
      s.step arb act = some t → Kept owner (log ++ events arb owner s act) t := by
    intro log s act t ⟨retained, underway, current⟩ ⟨alone, stored, owned⟩ taken
    refine ⟨?_, ?_, ?_⟩
    · exact retained_step (step_cases taken) owning alone stored retained
    · exact underway_step taken owning alone owned retained underway
    · exact releasesCurrent_step taken underway current
  exact (run_invariant_of_labels preserve start (meets_and.mpr ⟨alone, meets_and.mpr ⟨stored, owned⟩⟩) h).2.2

end ArbitrationServer

open ArbitrationServer

/-- With nothing under way, the retained token is the owner's, if no token was forgotten between its
grant and its store. And `release_control` answers `released=true` only to the token of the owner whose
ownership its revoke then ends, with no e-stop in between, if no release crossed one. -/
theorem retained_token_current (arb : ArbitrationSink σ) (owner : σ → Option Token)
    (owning : arb.Owning owner) (a : σ) (acts : List (ArbitrationAction σ)) (s : ArbitrationServer σ)
    (h : run (step arb) { arb := a } acts = some s)
    (alone : Meets (step arb) (fun s act => keepsOwner owner s act = true) { arb := a } acts)
    (stored : Meets (step arb) (fun s act => storesFirst s act = true) { arb := a } acts) :
    (s.service = .idle → s.estopCall = .idle → s.haveRetained = true →
      owner s.arb = some s.retainedToken) ∧
    s.responses = (labels (step arb) (events arb owner) { arb := a } acts).filterMap
      OwnershipEvent.answer? ∧
    (Meets (step arb) (fun s act => releasesOwned s act = true) { arb := a } acts →
      ReleasesCurrent (labels (step arb) (events arb owner) { arb := a } acts)) := by
  refine ⟨?_, answers_run acts h, releases_run owning a acts h alone stored⟩
  intro idle still held
  apply (retained_run owning a acts h alone stored).held held
  · rw [idle]
    rfl
  · rw [still]
    rfl

def benchAcquire : List (ArbitrationAction BenchArbiter) :=
  .serve (.acquire { ownerId := "web" }) :: List.replicate 5 (.service {})

/-- Its release, and an e-stop once the revoke is done. -/
def benchRelease : List (ArbitrationAction BenchArbiter) :=
  benchAcquire ++ .serve (.release fun _ => 2) :: List.replicate 2 (.service {}) ++
    .estop { state := 1, source := "mib" } :: List.replicate 2 (.estopStep {}) ++
    List.replicate 4 (.service {})

def benchReleaseLog : List OwnershipEvent :=
  [.request (.acquire { ownerId := "web" }), .answer (.acquire true (fun _ => 2) 1 ""),
    .request (.release fun _ => 2), .revoke (some fun _ => 2), .estop none]

theorem retained_token_current_benchRelease :
    (∃ s, run (step benchArbiter) { arb := {} } benchAcquire = some s ∧
      s.arb.owner = some s.retainedToken) ∧
    ∃ s, run (step benchArbiter) { arb := {} } benchRelease = some s ∧
      .release true "" ∈ s.responses ∧ EndedByRelease benchReleaseLog := by
  constructor
  · obtain ⟨s, ran, reached⟩ := run_reaches (step benchArbiter) { arb := {} } benchAcquire
      (fun s => s.haveRetained && s.service.isIdle && s.estopCall.isIdle) (by decide +kernel)
    simp only [Bool.and_eq_true] at reached
    obtain ⟨⟨held, idle⟩, still⟩ := reached
    have retained := retained_token_current benchArbiter BenchArbiter.owner benchArbiter_owning {} _ s ran
      (by decide +kernel) (by decide +kernel)
    exact ⟨s, ran, retained.1 (ServiceCall.eq_idle idle) (EstopCall.eq_idle still) held⟩
  · obtain ⟨s, ran, _⟩ := run_reaches (step benchArbiter) { arb := {} } benchRelease (fun _ => true)
      (by decide +kernel)
    have logged : labels (step benchArbiter) (events benchArbiter BenchArbiter.owner) { arb := {} }
        benchRelease = benchReleaseLog ++ [.answer (.release true "")] := by decide +kernel
    have released := retained_token_current benchArbiter BenchArbiter.owner benchArbiter_owning {} _ s ran
      (by decide +kernel) (by decide +kernel)
    refine ⟨s, ran, ?_, released.2.2 (by decide +kernel) benchReleaseLog "" [] logged⟩
    rw [released.2.1, logged]
    decide +kernel

/-- The e-stop ends the ownership and forgets the token before the acquisition stores it, and a release
with the token follows. -/
def benchStopDuringAcquire : List (ArbitrationAction BenchArbiter) :=
  [.serve (.acquire { ownerId := "web" }), .service {}, .estop { state := 1, source := "mib" }] ++
    List.replicate 5 (.estopStep {}) ++ List.replicate 3 (.service {})

def benchReleaseAfterStop : List (ArbitrationAction BenchArbiter) :=
  benchStopDuringAcquire ++ .serve (.release fun _ => 2) :: List.replicate 5 (.service {})

def benchReleaseAfterStopLog : List OwnershipEvent :=
  [.request (.acquire { ownerId := "web" }), .estop (some fun _ => 2),
    .answer (.acquire true (fun _ => 2) 1 ""), .request (.release fun _ => 2), .revoke none]

theorem retained_token_outlives :
    (¬ ∀ (σ : Type) (arb : ArbitrationSink σ) (owner : σ → Option Token) (a : σ)
      (acts : List (ArbitrationAction σ)) (s : ArbitrationServer σ), arb.Owning owner →
      run (step arb) { arb := a } acts = some s →
      Meets (step arb) (fun s act => keepsOwner owner s act = true) { arb := a } acts →
      s.service = .idle → s.estopCall = .idle → s.haveRetained = true →
      owner s.arb = some s.retainedToken) ∧
    ¬ ∀ (σ : Type) (arb : ArbitrationSink σ) (owner : σ → Option Token) (a : σ)
      (acts : List (ArbitrationAction σ)) (s : ArbitrationServer σ), arb.Owning owner →
      run (step arb) { arb := a } acts = some s →
      Meets (step arb) (fun s act => keepsOwner owner s act = true) { arb := a } acts →
      ReleasesCurrent (labels (step arb) (events arb owner) { arb := a } acts) := by
  constructor
  · intro ownersToken
    obtain ⟨s, ran, reached⟩ := run_reaches (step benchArbiter) { arb := {} } benchStopDuringAcquire
      (fun s => s.haveRetained && s.service.isIdle && s.estopCall.isIdle && decide (s.arb.owner = none))
      (by decide +kernel)
    simp only [Bool.and_eq_true] at reached
    obtain ⟨⟨⟨held, idle⟩, still⟩, gone⟩ := reached
    have current := ownersToken _ benchArbiter BenchArbiter.owner {} _ s benchArbiter_owning ran
      (by decide +kernel) (ServiceCall.eq_idle idle) (EstopCall.eq_idle still) held
    rw [of_decide_eq_true gone] at current
    cases current
  · intro releasesOwners
    obtain ⟨s, ran, _⟩ := run_reaches (step benchArbiter) { arb := {} } benchReleaseAfterStop (fun _ => true)
      (by decide +kernel)
    have current := releasesOwners _ benchArbiter BenchArbiter.owner {} _ s benchArbiter_owning ran
      (by decide +kernel)
    obtain ⟨before, token, n, split⟩ := current benchReleaseAfterStopLog "" [] (by decide +kernel)
    have ended : .revoke (some token) ∈ benchReleaseAfterStopLog := by simp [split]
    simp [benchReleaseAfterStopLog] at ended

end KinovaGen3
