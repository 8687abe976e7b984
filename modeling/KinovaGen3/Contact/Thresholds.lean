import KinovaGen3.Contact.Servers
import KinovaGen3.Library.Register

/-!
The contact thresholds over whole runs: what is answered to `/set_contact_thresholds`, what core is asked for, and
which thresholds are in force.
-/

namespace KinovaGen3
open Transition SetContactThresholds ContactServer

/-- What `on_set` is given: the requests, and core's report where it reads it for a refusal. -/
inductive ThresholdsEvent where
  | request (req : Request)
  | report (active : ContactReport)

/-- What is answered to requests each of which is over before the next, and what core is asked for. A refusal
tells the thresholds that core reports then. -/
inductive ThresholdsAnswered (blank : ContactThresholdsRequest) : List ThresholdsEvent → List Response →
    List (ContactThresholdsRequest × ContactThresholdsResult) → Prop where
  | nothing : ThresholdsAnswered blank [] [] []
  | malformed (before : ThresholdsAnswered blank events resps asked) (bad : ¬ WellFormed req)
      (mapped : toContactRequest blank req = .error why) :
      ThresholdsAnswered blank (events ++ [.request req, .report active])
        (resps ++ [ContactServers.refusal why active]) asked
  | accepted (before : ThresholdsAnswered blank events resps asked) (fine : WellFormed req)
      (asks : Asks blank req r) (yes : out.accepted = true) :
      ThresholdsAnswered blank (events ++ [.request req]) (resps ++ [ContactServers.verdict out])
        (asked ++ [(r, out)])
  | refused (before : ThresholdsAnswered blank events resps asked) (fine : WellFormed req)
      (asks : Asks blank req r) (no : out.accepted = false) :
      ThresholdsAnswered blank (events ++ [.request req, .report active])
        (resps ++ [ContactServers.refusal out.message active]) (asked ++ [(r, out)])

namespace ContactSink
variable {σ : Type}

/-- The profile and the thresholds that core reports. -/
def active (sink : ContactSink σ) (core : σ) : UInt8 × JointVec :=
  ((sink.onQueryContact core).profile.byte, (sink.onQueryContact core).theta)

/-- Core's part: what it accepts is active from then on, and what it refuses changes nothing. -/
structure HoldsThresholds (sink : ContactSink σ) : Prop where
  accepted : ∀ core r, (sink.onSetContactThresholds core r).2.accepted = true →
    sink.active (sink.onSetContactThresholds core r).1 =
      ((sink.onSetContactThresholds core r).2.profile.byte, (sink.onSetContactThresholds core r).2.theta)
  refused : ∀ core r, (sink.onSetContactThresholds core r).2.accepted = false →
    sink.active (sink.onSetContactThresholds core r).1 = sink.active core
  setpoint : ∀ core setpoint, sink.active (sink.onGripperSetpoint core setpoint) = sink.active core

end ContactSink

namespace ContactServers
variable {σ : Type} {w : ContactWiring σ} {s t : ContactServers σ} {act : ContactAction σ}

/-- The thresholds are set through the service alone. -/
def OwnThresholds (w : ContactWiring σ) (s : ContactServers σ) : ContactAction σ → Prop
  | .outside core => w.sink.active core = w.sink.active s.core
  | _ => True

/-- The thresholds that core has accepted, as it answered. -/
def taken (s : ContactServers σ) : List (UInt8 × JointVec) :=
  (s.asked.filter (·.2.accepted)).map fun (_, out) => (out.profile.byte, out.theta)

def events (w : ContactWiring σ) (s : ContactServers σ) : ContactAction σ → List ThresholdsEvent
  | .set req => [.request req]
  | .setStep =>
    match s.set with
    | .refused _ => [.report (w.sink.onQueryContact s.core)]
    | _ => []
  | _ => []

/-- How far `on_set` is with the last of the requests. -/
def Serving (w : ContactWiring σ) (past : List ThresholdsEvent) (s : ContactServers σ) : Prop :=
  match s.set with
  | .idle => ThresholdsAnswered w.blank past s.responses s.asked
  | .asking r => ∃ before req, past = before ++ [.request req] ∧ WellFormed req ∧ Asks w.blank req r ∧
      ThresholdsAnswered w.blank before s.responses s.asked
  | .refused message => ∀ active,
      ThresholdsAnswered w.blank (past ++ [.report active]) (s.responses ++ [refusal message active]) s.asked

theorem Serving.frame {past : List ThresholdsEvent} (h : Serving w past s) (set : t.set = s.set)
    (responses : t.responses = s.responses) (asked : t.asked = s.asked) : Serving w past t := by
  unfold Serving at h ⊢
  rw [set, responses, asked]
  exact h

theorem serving_begin {past : List ThresholdsEvent} {req : Request} (free : s.set = .idle) (h : Serving w past s) :
    Serving w (past ++ [.request req]) (s.begin w req) := by
  simp only [Serving, free] at h
  unfold begin
  cases mapped : toContactRequest w.blank req with
  | error why =>
    intro active
    rw [List.append_assoc]
    refine .malformed h (fun fine => ?_) mapped
    obtain ⟨r, ok⟩ := @toContactRequest_of_wellFormed w.blank req fine
    cases mapped.symm.trans ok
  | ok r =>
    obtain ⟨fine, asks⟩ := toContactRequest_ok mapped
    exact ⟨past, req, rfl, fine, asks, h⟩

theorem serving_ask {past : List ThresholdsEvent} {r : ContactThresholdsRequest} (reached : s.set = .asking r)
    (h : Serving w past s) : Serving w past (s.ask w r) := by
  simp only [Serving, reached] at h
  obtain ⟨before, req, rfl, fine, asks, done⟩ := h
  unfold ask
  dsimp only
  split
  · rename_i yes
    exact .accepted done fine asks yes
  · rename_i no
    intro active
    rw [List.append_assoc]
    exact .refused done fine asks (Bool.eq_false_iff.mpr no)

theorem serving_step {past : List ThresholdsEvent} (h : Serving w past s) (moved : s.step w act = some t) :
    Serving w (past ++ s.events w act) t := by
  cases act with
  | set req =>
    dsimp only [step] at moved
    split at moved
    · cases moved
      exact serving_begin ‹_› h
    · cases moved
  | setStep =>
    dsimp only [step] at moved
    split at moved
    · cases moved
    · rename_i r reached
      cases moved
      simp only [events, reached, List.append_nil]
      exact serving_ask reached h
    · rename_i message reached
      cases moved
      simp only [events, reached]
      simp only [Serving, reached] at h
      exact h _
  | setpoint m =>
    show Serving w (past ++ []) t
    rw [List.append_nil]
    dsimp only [step] at moved
    split at moved
    · cases moved
      exact h.frame rfl rfl rfl
    · cases moved
  | gripperStep =>
    show Serving w (past ++ []) t
    rw [List.append_nil]
    dsimp only [step] at moved
    split at moved
    · cases moved
    · split at moved
      · cases moved
        exact h.frame rfl rfl rfl
      · cases moved
        exact h.frame rfl rfl rfl
    · cases moved
      exact h.frame rfl rfl rfl
  | diagnose | outside =>
    show Serving w (past ++ []) t
    rw [List.append_nil]
    cases moved
    exact h.frame rfl rfl rfl

/-- The last response tells the thresholds in force, and these are the last that core accepted. -/
structure Known (w : ContactWiring σ) (core : σ) (s : ContactServers σ) : Prop where
  active : w.sink.active s.core = Register.value (w.sink.active core) s.taken
  told : ∀ res ∈ s.responses.getLast?, (res.profile, res.thresholds) = w.sink.active s.core

theorem Known.frame {core : σ} (h : Known w core s) (active : w.sink.active t.core = w.sink.active s.core)
    (responses : t.responses = s.responses) (asked : t.asked = s.asked) : Known w core t := by
  refine ⟨?_, ?_⟩
  · rw [active, h.active, taken, taken, asked]
  · rw [responses, active]
    exact h.told

theorem taken_ask {r : ContactThresholdsRequest} {out : ContactThresholdsResult}
    (asked : t.asked = s.asked ++ [(r, out)]) : t.taken = s.taken ++ if out.accepted then
      [(out.profile.byte, out.theta)] else [] := by
  unfold taken
  rw [asked, List.filter_append, List.map_append]
  cases yes : out.accepted <;> simp [yes]

theorem known_ask {core : σ} {r : ContactThresholdsRequest} (holds : w.sink.HoldsThresholds)
    (h : Known w core s) : Known w core (s.ask w r) := by
  unfold ask
  dsimp only
  split
  · rename_i yes
    have active := holds.accepted s.core r yes
    refine ⟨?_, fun res last => ?_⟩
    · rw [taken_ask rfl, if_pos yes, Register.value_store]
      exact active
    · rw [List.getLast?_concat] at last
      obtain rfl := Option.some.inj last
      exact active.symm
  · rename_i no
    have same := holds.refused s.core r (Bool.eq_false_iff.mpr no)
    refine ⟨?_, fun res last => (h.told res last).trans same.symm⟩
    rw [taken_ask rfl, if_neg no, List.append_nil]
    exact same.trans h.active

theorem known_step {core : σ} (holds : w.sink.HoldsThresholds) (own : OwnThresholds w s act)
    (h : Known w core s) (moved : s.step w act = some t) : Known w core t := by
  cases act with
  | set req =>
    dsimp only [step] at moved
    split at moved
    · cases moved
      unfold begin
      split <;> exact h.frame rfl rfl rfl
    · cases moved
  | setStep =>
    dsimp only [step] at moved
    split at moved
    · cases moved
    · cases moved
      exact known_ask holds h
    · cases moved
      refine ⟨h.active, fun res last => ?_⟩
      rw [List.getLast?_concat] at last
      obtain rfl := Option.some.inj last
      rfl
  | setpoint m =>
    dsimp only [step] at moved
    split at moved
    · cases moved
      exact h.frame rfl rfl rfl
    · cases moved
  | gripperStep =>
    dsimp only [step] at moved
    split at moved
    · cases moved
    · split at moved
      · cases moved
        exact h.frame rfl rfl rfl
      · cases moved
        exact h.frame rfl rfl rfl
    · cases moved
      exact h.frame (holds.setpoint _ _) rfl rfl
  | diagnose =>
    cases moved
    exact h.frame rfl rfl rfl
  | outside core' =>
    cases moved
    exact h.frame own rfl rfl

/-- Requests are answered as if each were over before the next: core is asked for what each well-formed one says
and for nothing else, and a refusal tells what core reports then. While the thresholds are set through the service
alone, the last response tells at any time those in force, which are the last that core accepted. -/
theorem thresholds_known (w : ContactWiring σ) (core : σ) (acts : List (ContactAction σ)) (s : ContactServers σ)
    (ran : run (step w) (start core) acts = some s) :
    (s.set = .idle →
      ThresholdsAnswered w.blank (labels (step w) (events w) (start core) acts) s.responses s.asked) ∧
    (w.sink.HoldsThresholds → Meets (step w) (OwnThresholds w) (start core) acts →
      w.sink.active s.core = Register.value (w.sink.active core) s.taken ∧
      ∀ res ∈ s.responses.getLast?, (res.profile, res.thresholds) = w.sink.active s.core) := by
  constructor
  · intro idle
    have serving : Serving w ([] ++ labels (step w) (events w) (start core) acts) s :=
      @run_invariant_of_labels _ _ _ (step w) (fun _ _ => True) (events w) (Serving w)
        (fun _ _ _ _ held _ moved => serving_step held moved) acts [] _ s .nothing
        (meets_of_forall fun _ _ => trivial) ran
    simp only [Serving, idle] at serving
    exact serving
  · intro holds own
    have known : Known w core s := run_invariant_of_meets
      (fun _ _ _ held own moved => known_step holds own held moved)
      ⟨rfl, fun _ last => (Option.not_mem_none _ last).elim⟩ own ran
    exact ⟨known.active, known.told⟩

end ContactServers

theorem benchContact_holds : benchContact.sink.HoldsThresholds where
  accepted core r h := by
    dsimp only [benchContact] at h ⊢
    split
    · rename_i zero
      rw [if_pos zero] at h
      cases h
    · rfl
  refused core r h := by
    dsimp only [benchContact] at h ⊢
    split
    · rfl
    · rename_i some
      rw [if_neg some] at h
      cases h
  setpoint _ _ := rfl

/-- The looser thresholds are taken, and then a profile that there is not. -/
def benchThresholds : List (ContactAction ContactReport) :=
  [.set { profile := PROFILE_LOOSE, token := fun _ => 1 }, .setStep, .set { profile := 9 }, .setStep]

namespace ContactServers

instance {σ : Type} (w : ContactWiring σ) (s : ContactServers σ) (act : ContactAction σ) :
    Decidable (OwnThresholds w s act) := by
  cases act <;> unfold OwnThresholds <;> infer_instance

theorem thresholds_known_benchThresholds : ∃ s res,
    run (step benchContact) (start benchReport) benchThresholds = some s ∧
      s.responses.getLast? = some res ∧ res.accepted = false ∧
      (res.profile, res.thresholds) = benchContact.sink.active s.core ∧
      ThresholdsAnswered benchContact.blank
        (labels (step benchContact) (events benchContact) (start benchReport) benchThresholds)
        s.responses s.asked := by
  obtain ⟨s, ran, reached⟩ := run_reaches (step benchContact) (start benchReport) benchThresholds
    (fun s => s.set.isIdle && s.responses.getLast?.any fun res => !res.accepted) (by decide +kernel)
  simp only [Bool.and_eq_true] at reached
  obtain ⟨free, last⟩ := reached
  have idle : s.set = .idle := by
    cases set : s.set with
    | idle => rfl
    | asking | refused =>
      rw [set] at free
      cases free
  obtain ⟨res, told, refused⟩ := (Option.any_eq_true _ _).mp last
  obtain ⟨answered, known⟩ := thresholds_known benchContact benchReport benchThresholds s ran
  obtain ⟨-, current⟩ := known benchContact_holds (by decide +kernel)
  exact ⟨s, res, ran, told, Bool.not_eq_true' _ ▸ refused, current res told, answered idle⟩

end ContactServers
end KinovaGen3
