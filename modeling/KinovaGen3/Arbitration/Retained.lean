import KinovaGen3.Arbitration.Steps

/-!
The release token that `ArbitrationServer` retains against the ownership it stands for. The token and
the arbiter change in different steps, so they agree only while neither thread is about to rewrite
the token.
-/

namespace KinovaGen3
open Transition

variable {σ : Type}

/-- An arbiter grants unless e-stopped, and has the owner it granted to until it is revoked or
e-stopped. -/
structure ArbitrationSink.Owning (arb : ArbitrationSink σ) (owner : σ → Option Token) : Prop where
  accepts : ∀ a id token, (arb.grant a id token).1.accepted = !(arb.status a).estopped
  grant : ∀ a id token, (arb.grant a id token).1.accepted = true →
    owner (arb.grant a id token).2 = some (arb.grant a id token).1.token
  revoke : ∀ a, owner (arb.revoke a) = none
  estop : ∀ a, owner (arb.estop a) = none
  estopClear : ∀ a, owner (arb.estopClear a) = owner a

def ServiceCall.rewrites : ServiceCall → Bool
  | granted _ | released | revoked => true
  | _ => false

def EstopCall.rewrites : EstopCall → Bool
  | forgetting => true
  | _ => false

namespace ArbitrationServer

/-- Only the server grants, revokes and stops. -/
def keepsOwner (owner : σ → Option Token) (s : ArbitrationServer σ) : ArbitrationAction σ → Bool
  | .outside a => owner a = owner s.arb
  | _ => true

/-- The e-stop forgets no token between its grant and its store. -/
def storesFirst (s : ArbitrationServer σ) (act : ArbitrationAction σ) : Bool :=
  match act, s.estopCall, s.service with
  | .estopStep _, .forgetting, .granted r => !r.accepted
  | _, _, _ => true

/-- The e-stop does not fall into a release that is admitted, and no token is admitted that the
e-stop is about to forget. -/
def releasesOwned (s : ArbitrationServer σ) (act : ArbitrationAction σ) : Bool :=
  match act, s.estopCall, s.service with
  | .estopStep _, .engaging, .releasing _ => false
  | .service _, .forgetting, .release token => !(s.haveRetained && token = s.retainedToken)
  | _, _, _ => true

structure Retained (owner : σ → Option Token) (s : ArbitrationServer σ) : Prop where
  held : s.haveRetained = true → s.service.rewrites = false → s.estopCall.rewrites = false →
    owner s.arb = some s.retainedToken
  granted : ∀ r, s.service = .granted r → r.accepted = true → s.estopCall.rewrites = false →
    owner s.arb = some r.token

variable {arb : ArbitrationSink σ} {owner : σ → Option Token} {s t : ArbitrationServer σ}
  {act : ArbitrationAction σ}

theorem Retained.frame (h : Retained owner s) (same : owner t.arb = owner s.arb)
    (have' : t.haveRetained = s.haveRetained) (token : t.retainedToken = s.retainedToken)
    (service : t.service.rewrites = false → s.service.rewrites = false)
    (granted : ∀ r, t.service = .granted r → s.service = .granted r)
    (estopCall : t.estopCall.rewrites = false → s.estopCall.rewrites = false) : Retained owner t := by
  constructor
  · intro held quiet still
    rw [same, token]
    apply h.held
    · rw [← have', held]
    · exact service quiet
    · exact estopCall still
  · intro r reached accepted still
    rw [same]
    exact h.granted r (granted r reached) accepted (estopCall still)

theorem Retained.serviceMove (h : Retained owner s) (same : owner t.arb = owner s.arb)
    (have' : t.haveRetained = s.haveRetained) (token : t.retainedToken = s.retainedToken)
    (estopCall : t.estopCall = s.estopCall) (idle : s.service.rewrites = false)
    (granted : ∀ r, t.service ≠ .granted r) : Retained owner t := by
  refine h.frame same have' token (fun _ => idle) (fun r reached => (granted r reached).elim) ?_
  rw [estopCall]
  exact id

theorem Retained.estopMove (h : Retained owner s) (same : owner t.arb = owner s.arb)
    (have' : t.haveRetained = s.haveRetained) (token : t.retainedToken = s.retainedToken)
    (service : t.service = s.service) (idle : s.estopCall.rewrites = false) : Retained owner t := by
  refine h.frame same have' token ?_ ?_ fun _ => idle
  · rw [service]
    exact id
  · intro r reached
    rw [← service, reached]

theorem begin_ungranted (request : ControlRequest) (r : GrantResult) :
    ServiceCall.begin request ≠ .granted r := by
  cases request <;> simp [ServiceCall.begin]

theorem retained_step (step : ArbitrationStep arb s act t) (owning : arb.Owning owner)
    (alone : keepsOwner owner s act = true) (stored : storesFirst s act = true)
    (h : Retained owner s) : Retained owner t := by
  cases step with
  | serve free =>
    exact h.serviceMove rfl rfl rfl rfl (by rw [free]; rfl) (begin_ungranted _)
  | @grant req r a now reached granted =>
    constructor
    · intro _ quiet
      cases quiet
    · intro r' reached' accepted _
      cases reached'
      have owned := owning.grant s.arb req.ownerId (if req.token ≠ Token.zero then some req.token else none)
      rw [granted] at owned
      exact owned accepted
  | store reached =>
    constructor
    · intro accepted _ still
      show owner s.arb = some (if _ then _ else _)
      rw [if_pos accepted]
      exact h.granted _ reached accepted still
    · intro r granted
      cases granted
  | allow reached | refuse reached =>
    exact h.serviceMove rfl rfl rfl rfl (by rw [reached]; rfl) (by simp)
  | releaseRevoke | revoke =>
    constructor
    · intro _ quiet
      cases quiet
    · intro r granted
      cases granted
  | releaseForget | revokeForget =>
    constructor
    · intro held
      cases held
    · intro r granted
      cases granted
  | @servicePublish call resp now t next reached published =>
    obtain ⟨last, wire, rfl⟩ := publishStep_frame published
    cases next with
    | none => exact h.serviceMove rfl rfl rfl rfl (by rw [reached]; rfl) (by simp [served])
    | some call => exact h.serviceMove rfl rfl rfl rfl (by rw [reached]; rfl) (by simp [served])
  | clearAttempt | heartbeat => exact h
  | first free | again free | leave free | last free =>
    exact h.estopMove rfl rfl rfl rfl (by rw [free]; rfl)
  | stillStopped reached | cleared reached => exact h.estopMove rfl rfl rfl rfl (by rw [reached]; rfl)
  | clear reached => exact h.estopMove (owning.estopClear _) rfl rfl rfl (by rw [reached]; rfl)
  | estopPublish reached published =>
    obtain ⟨last, wire, rfl⟩ := publishStep_frame published
    exact h.estopMove rfl rfl rfl rfl (by rw [reached]; rfl)
  | engage =>
    constructor
    · intro _ _ still
      cases still
    · intro _ _ _ still
      cases still
  | @forget now reached =>
    constructor
    · intro held
      cases held
    · intro r granted accepted
      have refused : s.storesFirst (.estopStep now) = !r.accepted := by
        unfold storesFirst
        rw [reached, show s.service = .granted r from granted]
      rw [stored, accepted] at refused
      cases refused
  | outside a =>
    exact h.frame (of_decide_eq_true alone) rfl rfl id (fun _ => id) id

theorem retained_run (owning : arb.Owning owner) (a : σ) (acts : List (ArbitrationAction σ))
    (h : run (step arb) { arb := a } acts = some s)
    (alone : Meets (step arb) (fun s act => keepsOwner owner s act = true) { arb := a } acts)
    (stored : Meets (step arb) (fun s act => storesFirst s act = true) { arb := a } acts) :
    Retained owner s := by
  refine run_invariant_of_meets ?_ ?_ (meets_and.mpr ⟨alone, stored⟩) h
  · intro s act t retained ⟨alone, stored⟩ taken
    exact retained_step (step_cases taken) owning alone stored retained
  · constructor
    · intro held
      cases held
    · intro r granted
      cases granted

end ArbitrationServer

theorem benchArbiter_owning : benchArbiter.Owning BenchArbiter.owner where
  accepts a id token := by
    simp only [benchArbiter]
    split <;> simp [*]
  grant a id token accepted := by
    simp only [benchArbiter] at accepted ⊢
    split
    · simp_all
    · rfl
  revoke _ := rfl
  estop _ := rfl
  estopClear _ := rfl

end KinovaGen3
