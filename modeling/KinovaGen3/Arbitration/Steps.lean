import KinovaGen3.Arbitration.Server

/-! What each step of the arbitration server needs and does. -/

namespace KinovaGen3
open Transition

inductive ArbitrationStep {σ : Type} (arb : ArbitrationSink σ) (s : ArbitrationServer σ) :
    ArbitrationAction σ → ArbitrationServer σ → Prop where
  | serve (free : s.service = .idle) :
      ArbitrationStep arb s (.serve request) { s with service := .begin request }
  | grant (reached : s.service = .acquire req)
      (granted : arb.grant s.arb req.ownerId
        (if req.token ≠ Token.zero then some req.token else none) = (r, a)) :
      ArbitrationStep arb s (.service now) { s with arb := a, service := .granted r }
  | store (reached : s.service = .granted r) :
      ArbitrationStep arb s (.service now)
        { s with
          haveRetained := r.accepted
          retainedToken := if r.accepted then r.token else Token.zero
          service := .publishing .reading
            (some (.acquire r.accepted r.token r.generation r.message)) }
  | allow (reached : s.service = .release s.retainedToken) (held : s.haveRetained = true) :
      ArbitrationStep arb s (.service now) { s with service := .releasing s.retainedToken }
  | refuse (reached : s.service = .release token)
      (other : s.haveRetained = true → token ≠ s.retainedToken) :
      ArbitrationStep arb s (.service now)
        { s with
          service := .idle
          responses := s.responses ++ [.release false "token does not match the current owner"] }
  | releaseRevoke (reached : s.service = .releasing token) :
      ArbitrationStep arb s (.service now) { s with arb := arb.revoke s.arb, service := .released }
  | releaseForget (reached : s.service = .released) :
      ArbitrationStep arb s (.service now)
        { s.forgetToken with service := .publishing .reading (some (.release true "")) }
  | revoke (reached : s.service = .revoke) :
      ArbitrationStep arb s (.service now) { s with arb := arb.revoke s.arb, service := .revoked }
  | revokeForget (reached : s.service = .revoked) :
      ArbitrationStep arb s (.service now)
        { s.forgetToken with service := .publishing .reading (some (.revoke true "")) }
  | servicePublish (reached : s.service = .publishing call resp)
      (published : s.publishStep arb now call = (t, next)) :
      ArbitrationStep arb s (.service now) (t.served resp next)
  | first (free : s.estopCall = .idle) (engages : msg.state ≠ EStop.STATE_NOT_ENGAGED)
      (new : msg.source ∉ s.engagedSources) :
      ArbitrationStep arb s (.estop msg)
        { s with engagedSources := insert msg.source s.engagedSources, estopCall := .engaging }
  | again (free : s.estopCall = .idle) (engages : msg.state ≠ EStop.STATE_NOT_ENGAGED)
      (known : msg.source ∈ s.engagedSources) :
      ArbitrationStep arb s (.estop msg)
        { s with engagedSources := insert msg.source s.engagedSources, estopCall := .checking }
  | clearAttempt (free : s.estopCall = .idle) (plain : msg.state = EStop.STATE_NOT_ENGAGED)
      (target : msg.clearTarget ≠ "") : ArbitrationStep arb s (.estop msg) s
  | heartbeat (free : s.estopCall = .idle) (plain : msg.state = EStop.STATE_NOT_ENGAGED)
      (target : msg.clearTarget = "") (new : msg.source ∉ s.engagedSources) :
      ArbitrationStep arb s (.estop msg) s
  | leave (free : s.estopCall = .idle) (plain : msg.state = EStop.STATE_NOT_ENGAGED)
      (target : msg.clearTarget = "") (known : msg.source ∈ s.engagedSources)
      (others : s.engagedSources.erase msg.source ≠ ∅) :
      ArbitrationStep arb s (.estop msg)
        { s with engagedSources := s.engagedSources.erase msg.source, estopCall := .idle }
  | last (free : s.estopCall = .idle) (plain : msg.state = EStop.STATE_NOT_ENGAGED)
      (target : msg.clearTarget = "") (known : msg.source ∈ s.engagedSources)
      (others : s.engagedSources.erase msg.source = ∅) :
      ArbitrationStep arb s (.estop msg)
        { s with engagedSources := s.engagedSources.erase msg.source, estopCall := .clearing }
  | stillStopped (reached : s.estopCall = .checking) (stopped : (arb.status s.arb).estopped = true) :
      ArbitrationStep arb s (.estopStep now) { s with estopCall := .idle }
  | cleared (reached : s.estopCall = .checking) (free : (arb.status s.arb).estopped = false) :
      ArbitrationStep arb s (.estopStep now) { s with estopCall := .engaging }
  | engage (reached : s.estopCall = .engaging) :
      ArbitrationStep arb s (.estopStep now) { s with arb := arb.estop s.arb, estopCall := .forgetting }
  | forget (reached : s.estopCall = .forgetting) :
      ArbitrationStep arb s (.estopStep now) { s.forgetToken with estopCall := .publishing .reading }
  | clear (reached : s.estopCall = .clearing) :
      ArbitrationStep arb s (.estopStep now)
        { s with arb := arb.estopClear s.arb, estopCall := .publishing .reading }
  | estopPublish (reached : s.estopCall = .publishing call)
      (published : s.publishStep arb now call = (t, next)) :
      ArbitrationStep arb s (.estopStep now) { t with estopCall := next.elim .idle .publishing }
  | outside (a : σ) : ArbitrationStep arb s (.outside a) { s with arb := a }

namespace ArbitrationServer
variable {σ : Type} {arb : ArbitrationSink σ} {s t : ArbitrationServer σ}

theorem serviceStep_cases {now : Time} (h : s.serviceStep arb now = some t) :
    ArbitrationStep arb s (.service now) t := by
  unfold serviceStep at h
  split at h
  case h_1 => cases h
  case h_2 reached => cases h; exact .grant reached rfl
  case h_3 reached => cases h; exact .store reached
  case h_4 token reached =>
    cases h
    split
    · rename_i known
      simp only [Bool.and_eq_true, decide_eq_true_eq] at known
      obtain ⟨held, rfl⟩ := known
      exact .allow reached held
    · rename_i unknown
      refine .refuse reached fun held same => unknown ?_
      rw [held, same, decide_eq_true rfl]
      rfl
  case h_5 reached => cases h; exact .releaseRevoke reached
  case h_6 reached => cases h; exact .releaseForget reached
  case h_7 reached => cases h; exact .revoke reached
  case h_8 reached => cases h; exact .revokeForget reached
  case h_9 reached => cases h; exact .servicePublish reached rfl

theorem onEstop_cases {msg : EStop} (free : s.estopCall = .idle) :
    ArbitrationStep arb s (.estop msg) (s.onEstop msg) := by
  unfold onEstop
  by_cases engages : msg.state ≠ EStop.STATE_NOT_ENGAGED
  · rw [if_pos engages]
    by_cases known : msg.source ∈ s.engagedSources
    · rw [if_pos known]
      exact .again free engages known
    · rw [if_neg known]
      exact .first free engages known
  · rw [if_neg engages]
    rw [not_not] at engages
    by_cases target : msg.clearTarget ≠ ""
    · rw [if_pos target]
      exact .clearAttempt free engages target
    · rw [if_neg target]
      rw [not_not] at target
      by_cases known : msg.source ∈ s.engagedSources
      · rw [if_neg (not_not.mpr known)]
        by_cases others : s.engagedSources.erase msg.source ≠ ∅
        · rw [if_pos others]
          exact .leave free engages target known others
        · rw [if_neg others]
          exact .last free engages target known (not_not.mp others)
      · rw [if_pos known]
        exact .heartbeat free engages target known

theorem estopStep_cases {now : Time} (h : s.estopStep arb now = some t) :
    ArbitrationStep arb s (.estopStep now) t := by
  unfold estopStep at h
  split at h
  case h_1 => cases h
  case h_2 reached =>
    cases h
    split
    · exact .stillStopped reached ‹_›
    · exact .cleared reached (Bool.eq_false_iff.mpr ‹_›)
  case h_3 reached => cases h; exact .engage reached
  case h_4 reached => cases h; exact .forget reached
  case h_5 reached => cases h; exact .clear reached
  case h_6 reached => cases h; exact .estopPublish reached rfl

theorem step_cases {act : ArbitrationAction σ} (h : s.step arb act = some t) :
    ArbitrationStep arb s act t := by
  unfold step at h
  split at h
  case h_1 =>
    split at h
    · cases h; exact .serve ‹_›
    · cases h
  case h_2 => exact serviceStep_cases h
  case h_3 =>
    split at h
    · cases h; exact onEstop_cases ‹_›
    · cases h
  case h_4 => exact estopStep_cases h
  case h_5 => cases h; exact .outside _

theorem publishStep_frame {now : Time} {call : StatusCall} {next : Option StatusCall}
    (h : s.publishStep arb now call = (t, next)) :
    ∃ last wire, t = { s with lastPublished := last, controlStatus := wire } := by
  unfold publishStep at h
  split at h
  · cases h; exact ⟨_, _, rfl⟩
  · dsimp only at h
    split at h
    · cases h; exact ⟨_, _, rfl⟩
    · cases h; exact ⟨_, _, rfl⟩
  · cases h; exact ⟨_, _, rfl⟩

end ArbitrationServer
end KinovaGen3
