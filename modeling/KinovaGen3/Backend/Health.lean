import Mathlib.Logic.Function.Basic
import KinovaGen3.Backend.PublishState
import KinovaGen3.Library.Register
import KinovaGen3.Library.Run

/-!
`Ros2Backend::diagnostics` beside `publish_state`: the pump thread stores the arm's health in four atomics,
and the updater's timer loads them one by one while it does. Each load, each store and each reading of the
steady clock is one step.
-/

namespace KinovaGen3
open Transition

/-- The atomics, with the clock in nanoseconds. -/
structure Health where
  fault : Bool := false
  armStampS : Double := .finite 0
  everPublished : Bool := false
  lastPublishNs : Int := 0

def Ros2Backend.health (b : Ros2Backend) : Health where
  fault := b.fault
  armStampS := b.armStampS
  everPublished := b.everPublished
  lastPublishNs := b.lastPublishNs.toInt

/-- What `diagnostics` makes of the task "Arm". -/
structure ArmDiagnostic where
  level : DiagnosticLevel
  message : String
  fault : Bool
  driverUptimeS : Double
  feedbackReceived : Bool
  feedbackAgeS : Rat
  deriving DecidableEq

namespace Diagnostics

/-- `kArmStaleAfterS`. -/
def kArmStaleAfterNs : Int := 1000000000

def summary (ever fault : Bool) (ageNs : Int) : DiagnosticLevel × String :=
  if !ever then (.stale, "no feedback from the arm yet")
  else if kArmStaleAfterNs < ageNs then
    (.stale, "no feedback from the arm for " ++ toString (ageNs / 1000000000) ++ " s")
  else if fault then (.error, "arm reports a fault")
  else (.ok, "OK")

/-- Of an arm that some state has come from. -/
theorem summary_heard (fault : Bool) (ageNs : Int) :
    kArmStaleAfterNs < ageNs ∧ (summary true fault ageNs).1 = .stale ∨
    ageNs ≤ kArmStaleAfterNs ∧ (summary true fault ageNs).1 = if fault then .error else .ok := by
  unfold summary
  by_cases old : kArmStaleAfterNs < ageNs
  · left
    simp [old]
  · right
    cases fault <;> simp [old, not_lt.mp old]

def diagnostic (ever fault : Bool) (ageNs : Int) (armStampS : Double) : ArmDiagnostic where
  level := (summary ever fault ageNs).1
  message := (summary ever fault ageNs).2
  fault := fault
  driverUptimeS := armStampS
  feedbackReceived := ever
  feedbackAgeS := if ever then ageNs / 1000000000 else -1

end Diagnostics

/-! ### The two threads -/

/-- Where the pump thread is with a state of the arm's. -/
inductive Pump where
  | idle
  | entered (arm : ArmReport)
  | faultStored (arm : ArmReport)
  | stampStored
  | everStored
  | clocked (ns : Int)
  | stored

namespace Pump

/-- The fault of the state at hand has been stored. -/
def faultDone : Pump → Bool
  | .idle | .entered _ => false
  | _ => true

def everDone : Pump → Bool
  | .idle | .entered _ | .faultStored _ | .stampStored => false
  | _ => true

def timeDone : Pump → Bool
  | .stored => true
  | _ => false

theorem timeDone_le (pump : Pump) : pump.timeDone.toNat ≤ pump.faultDone.toNat := by
  cases pump <;> simp [timeDone, faultDone]

theorem faultDone_of_everDone {pump : Pump} (h : pump.everDone = true) : pump.faultDone = true := by
  cases pump with
  | idle | entered | faultStored | stampStored => cases h
  | everStored | clocked | stored => rfl

end Pump

/-- A call of `diagnostics`. It keeps how many calls of `publish_state` were over when it began. -/
inductive Probe where
  | unseen
  | entered (began : Nat)
  | everLoaded (began : Nat) (ever : Bool)
  | faultLoaded (began : Nat) (ever fault : Bool)
  /-- The clock and the last time of publishing come in either order. -/
  | clocked (began : Nat) (ever fault : Bool) (now : Int)
  | lastLoaded (began : Nat) (ever fault : Bool) (last : Int)
  | aged (began : Nat) (ever fault : Bool) (now last : Int)
  | reported (began : Nat) (now : Int) (d : ArmDiagnostic)

/-- `faults` and `times` log what was stored, and `published` counts the calls of `publish_state` that are
over. -/
structure HealthMonitor (ι : Type) where
  health : Health := {}
  pump : Pump := .idle
  probes : ι → Probe := fun _ => .unseen
  clock : Int
  faults : List Bool := []
  times : List Int := []
  published : Nat := 0

inductive HealthAction (ι : Type) where
  | elapse (ns : Nat)
  | publish (arm : ArmReport)
  | pump
  | probe (i : ι)
  | load (i : ι)
  | readClock (i : ι)

def Probe.load (h : Health) : Probe → Option Probe
  | entered began => some (.everLoaded began h.everPublished)
  | everLoaded began ever => some (.faultLoaded began ever h.fault)
  | faultLoaded began ever fault => some (.lastLoaded began ever fault h.lastPublishNs)
  | clocked began ever fault now => some (.aged began ever fault now h.lastPublishNs)
  | aged began ever fault now last =>
    some (.reported began now (Diagnostics.diagnostic ever fault (now - last) h.armStampS))
  | _ => none

def Probe.readClock (now : Int) : Probe → Option Probe
  | faultLoaded began ever fault => some (.clocked began ever fault now)
  | lastLoaded began ever fault last => some (.aged began ever fault now last)
  | _ => none

namespace HealthMonitor
variable {ι : Type}

/-- `publish_state` up to the gate of the topics. -/
def pumpStep (s : HealthMonitor ι) : Option (HealthMonitor ι) :=
  match s.pump with
  | .idle => none
  | .entered arm =>
    some { s with
      health := { s.health with fault := arm.fault }
      faults := s.faults ++ [arm.fault]
      pump := .faultStored arm }
  | .faultStored arm =>
    some { s with health := { s.health with armStampS := arm.stampS }, pump := .stampStored }
  | .stampStored => some { s with health := { s.health with everPublished := true }, pump := .everStored }
  | .everStored => some { s with pump := .clocked s.clock }
  | .clocked ns =>
    some { s with
      health := { s.health with lastPublishNs := ns }
      times := s.times ++ [ns]
      pump := .stored }
  | .stored => some { s with pump := .idle, published := s.published + 1 }

section
variable [DecidableEq ι]

def step (s : HealthMonitor ι) : HealthAction ι → Option (HealthMonitor ι)
  | .elapse ns => some { s with clock := s.clock + ns }
  | .publish arm =>
    match s.pump with
    | .idle => some { s with pump := .entered arm }
    | _ => none
  | .pump => s.pumpStep
  | .probe i =>
    match s.probes i with
    | .unseen => some { s with probes := Function.update s.probes i (.entered s.published) }
    | _ => none
  | .load i =>
    ((s.probes i).load s.health).map fun probe => { s with probes := Function.update s.probes i probe }
  | .readClock i =>
    ((s.probes i).readClock s.clock).map fun probe => { s with probes := Function.update s.probes i probe }

/-- A call of `publish_state` that nothing comes between does to the atomics what `publishState` does. -/
theorem publish_run (s : HealthMonitor ι) (b : Ros2Backend) (tick : Tick) (free : s.pump = .idle)
    (now : s.clock = tick.steadyNs.toInt) :
    run step s (.publish tick.arm :: List.replicate 6 .pump) = some { s with
      health := (b.publishState tick).1.health
      faults := s.faults ++ [tick.arm.fault]
      times := s.times ++ [tick.steadyNs.toInt]
      pump := .idle
      published := s.published + 1 } := by
  simp [run, step, free, pumpStep, List.replicate, now, Ros2Backend.health, Ros2Backend.publishState]

end

/-! ### What the threads keep -/

variable {s t : HealthMonitor ι} {act : HealthAction ι}

/-- The atomics are what was stored last, and the logs say how often that was. -/
structure Stored (s : HealthMonitor ι) : Prop where
  fault : s.health.fault = Register.value false s.faults
  last : s.health.lastPublishNs = Register.value 0 s.times
  ever : s.health.everPublished = (decide (0 < s.published) || Pump.everDone s.pump)
  faults : s.faults.length = s.published + (Pump.faultDone s.pump).toNat
  times : s.times.length = s.published + (Pump.timeDone s.pump).toNat
  sorted : s.times.Pairwise (· ≤ ·)
  past : ∀ ns ∈ s.times, ns ≤ s.clock
  clocked : ∀ ns, s.pump = .clocked ns → ns ≤ s.clock ∧ ∀ before ∈ s.times, before ≤ ns

theorem stored_start (clock : Int) : Stored ({ clock := clock } : HealthMonitor ι) where
  fault := rfl
  last := rfl
  ever := rfl
  faults := rfl
  times := rfl
  sorted := List.Pairwise.nil
  past _ member := (List.not_mem_nil member).elim
  clocked := nofun

theorem stored_pump (h : Stored s) (taken : s.pumpStep = some t) : Stored t := by
  obtain ⟨fault, last, ever, faults, times, sorted, past, clocked⟩ := h
  unfold pumpStep at taken
  split at taken
  case h_1 => cases taken
  case h_2 arm reached =>
    cases taken
    rw [reached] at ever faults times
    exact ⟨(Register.value_store _ _ _).symm, last, ever, by simp [faults, Pump.faultDone], times, sorted, past, nofun⟩
  case h_3 arm reached =>
    cases taken
    rw [reached] at ever faults times
    exact ⟨fault, last, ever, faults, times, sorted, past, nofun⟩
  case h_4 reached =>
    cases taken
    rw [reached] at ever faults times
    exact ⟨fault, last, by simp [Pump.everDone], faults, times, sorted, past, nofun⟩
  case h_5 reached =>
    cases taken
    rw [reached] at ever faults times
    refine ⟨fault, last, ever, faults, times, sorted, past, ?_⟩
    intro ns here
    cases here
    exact ⟨le_refl _, past⟩
  case h_6 ns reached =>
    cases taken
    obtain ⟨now, after⟩ := clocked ns reached
    rw [reached] at ever faults times
    refine ⟨fault, (Register.value_store _ _ _).symm, ever, faults, by simp [times, Pump.timeDone], ?_, ?_, nofun⟩
    · refine List.pairwise_append.mpr ⟨sorted, List.pairwise_singleton _ _, ?_⟩
      intro before member ns' new
      rw [List.mem_singleton.mp new]
      exact after before member
    · intro before member
      rcases List.mem_append.mp member with old | new
      · exact past before old
      · rw [List.mem_singleton.mp new]
        exact now
  case h_7 reached =>
    cases taken
    rw [reached] at ever faults times
    refine ⟨fault, last, ?_, ?_, ?_, sorted, past, nofun⟩
    · simp [ever, Pump.everDone]
    · simp [faults, Pump.faultDone]
    · simp [times, Pump.timeDone]

/-- Since then, more may have been stored. -/
structure Later (s t : HealthMonitor ι) : Prop where
  published : s.published ≤ t.published
  faults : ∃ more, t.faults = s.faults ++ more
  times : ∃ more, t.times = s.times ++ more

section
variable [DecidableEq ι]

theorem stored_step (h : Stored s) (taken : s.step act = some t) : Stored t := by
  obtain ⟨fault, last, ever, faults, times, sorted, past, clocked⟩ := h
  cases act with
  | elapse ns =>
    cases taken
    refine ⟨fault, last, ever, faults, times, sorted, ?_, ?_⟩
    · intro before member
      have := past before member
      show before ≤ s.clock + ns
      omega
    · intro ns' reached
      obtain ⟨now, after⟩ := clocked ns' reached
      refine ⟨?_, after⟩
      show ns' ≤ s.clock + ns
      omega
  | publish arm =>
    dsimp only [step] at taken
    split at taken
    · rename_i free
      cases taken
      rw [free] at ever faults times
      exact ⟨fault, last, ever, faults, times, sorted, past, nofun⟩
    · cases taken
  | pump => exact stored_pump ⟨fault, last, ever, faults, times, sorted, past, clocked⟩ taken
  | probe i =>
    dsimp only [step] at taken
    split at taken
    · cases taken
      exact ⟨fault, last, ever, faults, times, sorted, past, clocked⟩
    · cases taken
  | load i | readClock i =>
    obtain ⟨probe, -, rfl⟩ := Option.map_eq_some_iff.mp taken
    exact ⟨fault, last, ever, faults, times, sorted, past, clocked⟩

theorem later_step (taken : s.step act = some t) : Later s t := by
  have same : Later s s := ⟨le_refl _, ⟨[], (List.append_nil _).symm⟩, ⟨[], (List.append_nil _).symm⟩⟩
  cases act with
  | elapse ns =>
    cases taken
    exact ⟨same.1, same.2, same.3⟩
  | publish arm | probe i =>
    dsimp only [step] at taken
    split at taken
    · cases taken
      exact ⟨same.1, same.2, same.3⟩
    · cases taken
  | load i | readClock i =>
    obtain ⟨probe, -, rfl⟩ := Option.map_eq_some_iff.mp taken
    exact ⟨same.1, same.2, same.3⟩
  | pump =>
    dsimp only [step, pumpStep] at taken
    split at taken
    case h_1 => cases taken
    case h_2 => cases taken; exact ⟨same.1, ⟨_, rfl⟩, same.3⟩
    case h_6 => cases taken; exact ⟨same.1, same.2, ⟨_, rfl⟩⟩
    case h_7 => cases taken; exact ⟨Nat.le_succ _, same.2, same.3⟩
    all_goals cases taken; exact ⟨same.1, same.2, same.3⟩

end

/-! ### What a probe knows -/

/-- The first load tells whether some state has come. -/
def KnowsEver (s : HealthMonitor ι) (began : Nat) (ever : Bool) : Prop :=
  began ≤ s.published ∧ (ever = false → began = 0) ∧ (ever = true → s.faults ≠ [])

/-- The fault is the `k`-th state's, which is no older than the one that was over when the probe began. -/
structure FaultOf (s : HealthMonitor ι) (began k : Nat) (fault : Bool) : Prop where
  since : began ≤ k + 1
  stored : s.faults[k]? = some fault
  timed : k ≤ s.times.length

/-- The time is of a state that is at most one before the `k`-th, or of none. -/
def TimeOf (s : HealthMonitor ι) (began k : Nat) (last : Int) : Prop :=
  (∃ m, began ≤ m + 1 ∧ k ≤ m + 1 ∧ s.times[m]? = some last) ∨ began = 0 ∧ last = 0

def KnowsFault (s : HealthMonitor ι) (began : Nat) (ever fault : Bool) : Prop :=
  KnowsEver s began ever ∧ (ever = true → ∃ k, FaultOf s began k fault)

def KnowsBoth (s : HealthMonitor ι) (began : Nat) (ever fault : Bool) (last : Int) : Prop :=
  KnowsEver s began ever ∧ (ever = true → ∃ k, FaultOf s began k fault ∧ TimeOf s began k last)

/-- What a call of `diagnostics` knows, on a machine that was started at `boot` at the latest. -/
def Knows (boot : Int) (s : HealthMonitor ι) : Probe → Prop
  | .unseen => True
  | .entered began => began ≤ s.published
  | .everLoaded began ever => KnowsEver s began ever
  | .faultLoaded began ever fault => KnowsFault s began ever fault
  | .clocked began ever fault now => KnowsFault s began ever fault ∧ boot ≤ now
  | .lastLoaded began ever fault last => KnowsBoth s began ever fault last
  | .aged began ever fault now last => KnowsBoth s began ever fault last ∧ boot ≤ now
  | .reported began now d => ∃ ever fault last armStampS, KnowsBoth s began ever fault last ∧ boot ≤ now ∧
      d = Diagnostics.diagnostic ever fault (now - last) armStampS

variable {began k : Nat} {ever fault : Bool} {now last boot : Int}

theorem KnowsEver.later (h : KnowsEver s began ever) (later : Later s t) : KnowsEver t began ever := by
  obtain ⟨inside, no, yes⟩ := h
  refine ⟨inside.trans later.published, no, fun came => ?_⟩
  obtain ⟨more, faults⟩ := later.faults
  rw [faults]
  exact List.append_ne_nil_of_left_ne_nil (yes came) more

theorem FaultOf.later (h : FaultOf s began k fault) (later : Later s t) : FaultOf t began k fault := by
  obtain ⟨moreFaults, faults⟩ := later.faults
  obtain ⟨moreTimes, times⟩ := later.times
  refine ⟨h.since, ?_, ?_⟩
  · rw [faults]
    exact Register.kept h.stored
  · rw [times, List.length_append]
    exact h.timed.trans (Nat.le_add_right _ _)

theorem TimeOf.later (h : TimeOf s began k last) (later : Later s t) : TimeOf t began k last := by
  obtain ⟨more, times⟩ := later.times
  rcases h with ⟨m, since, near, stored⟩ | initial
  · left
    rw [times]
    exact ⟨m, since, near, Register.kept stored⟩
  · exact Or.inr initial

theorem KnowsFault.later (h : KnowsFault s began ever fault) (later : Later s t) :
    KnowsFault t began ever fault := by
  refine ⟨h.1.later later, fun came => ?_⟩
  obtain ⟨k, faultOf⟩ := h.2 came
  exact ⟨k, faultOf.later later⟩

theorem KnowsBoth.later (h : KnowsBoth s began ever fault last) (later : Later s t) :
    KnowsBoth t began ever fault last := by
  refine ⟨h.1.later later, fun came => ?_⟩
  obtain ⟨k, faultOf, timeOf⟩ := h.2 came
  exact ⟨k, faultOf.later later, timeOf.later later⟩

theorem Knows.later {probe : Probe} (h : Knows boot s probe) (later : Later s t) : Knows boot t probe := by
  cases probe with
  | unseen => trivial
  | entered began => exact Nat.le_trans h later.published
  | everLoaded => exact KnowsEver.later h later
  | faultLoaded => exact KnowsFault.later h later
  | clocked => exact ⟨h.1.later later, h.2⟩
  | lastLoaded => exact KnowsBoth.later h later
  | aged => exact ⟨h.1.later later, h.2⟩
  | reported =>
    obtain ⟨ever, fault, last, armStampS, known, rest⟩ := h
    exact ⟨ever, fault, last, armStampS, known.later later, rest⟩

/-! ### The loads -/

theorem Stored.complete (h : Stored s) : s.published ≤ s.faults.length ∧ s.published ≤ s.times.length := by
  have faults := h.faults
  have times := h.times
  omega

theorem Stored.timed (h : Stored s) : s.faults.length ≤ s.times.length + 1 := by
  have faults := h.faults
  have times := h.times
  have : (Pump.faultDone s.pump).toNat ≤ 1 := Bool.toNat_le _
  omega

/-- No time is stored before the fault of its state. -/
theorem Stored.untimed (h : Stored s) (alone : s.faults.length = began) (inside : began ≤ s.published) :
    s.times.length ≤ began := by
  have faults := h.faults
  have times := h.times
  have := Pump.timeDone_le s.pump
  omega

theorem knowsEver_load (stored : Stored s) (inside : began ≤ s.published) :
    KnowsEver s began s.health.everPublished := by
  refine ⟨inside, ?_, ?_⟩
  · intro no
    rw [stored.ever] at no
    simp only [Bool.or_eq_false_iff, decide_eq_false_iff_not] at no
    omega
  · intro yes empty
    have faults := stored.faults
    rw [empty, List.length_nil] at faults
    rw [stored.ever, Bool.or_eq_true, decide_eq_true_eq] at yes
    rcases yes with some_over | here
    · omega
    · rw [Pump.faultDone_of_everDone here, Bool.toNat_true] at faults
      omega

theorem knowsFault_load (stored : Stored s) (h : KnowsEver s began ever) :
    KnowsFault s began ever s.health.fault := by
  refine ⟨h, fun came => ⟨s.faults.length - 1, ?_, ?_, ?_⟩⟩
  · have := h.1
    have := stored.complete.1
    omega
  · rw [stored.fault]
    exact Register.value_last (h.2.2 came)
  · have := stored.timed
    omega

/-- The state that is heard last is at most one before the one whose fault was loaded, for which
`publish_state` may still be at work. -/
theorem knowsBoth_load (stored : Stored s) (h : KnowsFault s began ever fault) :
    KnowsBoth s began ever fault s.health.lastPublishNs := by
  refine ⟨h.1, fun came => ?_⟩
  obtain ⟨k, faultOf⟩ := h.2 came
  refine ⟨k, faultOf, ?_⟩
  have inside := h.1.1
  have complete := stored.complete.2
  have timed := faultOf.timed
  rw [stored.last]
  by_cases empty : s.times = []
  · right
    rw [empty, List.length_nil] at complete
    rw [empty]
    exact ⟨by omega, rfl⟩
  · exact Or.inl ⟨s.times.length - 1, by omega, by omega, Register.value_last empty⟩

theorem knows_load {probe probe' : Probe} (stored : Stored s) (h : Knows boot s probe)
    (loaded : probe.load s.health = some probe') : Knows boot s probe' := by
  cases probe with
  | unseen | lastLoaded | reported => cases loaded
  | entered began =>
    cases loaded
    exact knowsEver_load stored h
  | everLoaded began ever =>
    cases loaded
    exact knowsFault_load stored h
  | faultLoaded began ever fault =>
    cases loaded
    exact knowsBoth_load stored h
  | clocked began ever fault now =>
    cases loaded
    exact ⟨knowsBoth_load stored h.1, h.2⟩
  | aged began ever fault now last =>
    cases loaded
    exact ⟨ever, fault, last, _, h.1, h.2, rfl⟩

theorem knows_readClock {probe probe' : Probe} (started : boot ≤ s.clock) (h : Knows boot s probe)
    (read : probe.readClock s.clock = some probe') : Knows boot s probe' := by
  cases probe with
  | faultLoaded =>
    cases read
    exact ⟨h, started⟩
  | lastLoaded =>
    cases read
    exact ⟨h, started⟩
  | _ => cases read

/-! ### Every run -/

structure Sound (boot : Int) (s : HealthMonitor ι) : Prop where
  stored : Stored s
  started : boot ≤ s.clock
  probes : ∀ i, Knows boot s (s.probes i)

theorem sound_start (boot : Int) : Sound boot ({ clock := boot } : HealthMonitor ι) where
  stored := stored_start boot
  started := le_refl boot
  probes _ := trivial

section
variable [DecidableEq ι]

theorem clock_step (taken : s.step act = some t) : s.clock ≤ t.clock := by
  cases act with
  | elapse ns =>
    cases taken
    show s.clock ≤ s.clock + ns
    omega
  | publish arm | probe i =>
    dsimp only [step] at taken
    split at taken
    · cases taken
      exact le_refl _
    · cases taken
  | load i | readClock i =>
    obtain ⟨probe, -, rfl⟩ := Option.map_eq_some_iff.mp taken
    exact le_refl _
  | pump =>
    dsimp only [step, pumpStep] at taken
    split at taken
    case h_1 => cases taken
    all_goals cases taken; exact le_refl _

/-- A step moves one probe at most. -/
theorem probe_step (taken : s.step act = some t) (j : ι) : t.probes j = s.probes j ∨
    (s.probes j = .unseen ∧ t.probes j = .entered s.published) ∨
    (s.probes j).load s.health = some (t.probes j) ∨ (s.probes j).readClock s.clock = some (t.probes j) := by
  cases act with
  | elapse ns =>
    cases taken
    exact Or.inl rfl
  | publish arm =>
    dsimp only [step] at taken
    split at taken
    · cases taken
      exact Or.inl rfl
    · cases taken
  | pump =>
    dsimp only [step, pumpStep] at taken
    split at taken
    case h_1 => cases taken
    all_goals cases taken; exact Or.inl rfl
  | probe i =>
    dsimp only [step] at taken
    split at taken
    · rename_i unseen
      cases taken
      by_cases mine : j = i
      · subst mine
        exact Or.inr (Or.inl ⟨unseen, Function.update_self ..⟩)
      · exact Or.inl (Function.update_of_ne mine ..)
    · cases taken
  | load i =>
    obtain ⟨probe, loaded, rfl⟩ := Option.map_eq_some_iff.mp taken
    by_cases mine : j = i
    · subst mine
      have here : Function.update s.probes j probe j = probe := Function.update_self j probe s.probes
      exact Or.inr (Or.inr (Or.inl (loaded.trans (congrArg some here.symm))))
    · exact Or.inl (Function.update_of_ne mine ..)
  | readClock i =>
    obtain ⟨probe, read, rfl⟩ := Option.map_eq_some_iff.mp taken
    by_cases mine : j = i
    · subst mine
      have here : Function.update s.probes j probe j = probe := Function.update_self j probe s.probes
      exact Or.inr (Or.inr (Or.inr (read.trans (congrArg some here.symm))))
    · exact Or.inl (Function.update_of_ne mine ..)

theorem sound_step (h : Sound boot s) (taken : s.step act = some t) : Sound boot t where
  stored := stored_step h.stored taken
  started := h.started.trans (clock_step taken)
  probes j := by
    have later : Later s t := later_step taken
    rcases probe_step taken j with same | ⟨-, entered⟩ | loaded | read
    · rw [same]
      exact (h.probes j).later later
    · rw [entered]
      exact later.published
    · exact (knows_load h.stored (h.probes j) loaded).later later
    · exact (knows_readClock h.started (h.probes j) read).later later

end

/-! ### What it reports -/

/-- Since the call of `publish_state` that was over when the probe began, a state had this fault, and one
that is at most one before it was heard within the second. -/
def Seen (s : HealthMonitor ι) (began : Nat) (now : Int) (fault : Bool) : Prop :=
  ∃ k m ns, began ≤ k + 1 ∧ s.faults[k]? = some fault ∧ began ≤ m + 1 ∧ k ≤ m + 1 ∧ s.times[m]? = some ns ∧
    now - ns ≤ Diagnostics.kArmStaleAfterNs

structure Truthful (s : HealthMonitor ι) (began : Nat) (now : Int) (d : ArmDiagnostic) : Prop where
  inside : began ≤ s.published
  ok : d.level = .ok → Seen s began now false
  error : d.level = .error → Seen s began now true
  /-- The state that was over when the probe began is older than a second. -/
  stale : d.level = .stale →
    ∀ ns, 0 < began → s.times[began - 1]? = some ns → Diagnostics.kArmStaleAfterNs < now - ns
  warn : d.level ≠ .warn
  /-- With no state since then, all of it is about that one. -/
  undisturbed : 0 < began → s.faults.length = began → ∃ ns, s.faults[began - 1]? = some d.fault ∧
    s.times[began - 1]? = some ns ∧ (d.level, d.message) = Diagnostics.summary true d.fault (now - ns)

theorem KnowsBoth.seen (h : KnowsBoth s began true fault last)
    (booted : Diagnostics.kArmStaleAfterNs < boot) (started : boot ≤ now)
    (fresh : now - last ≤ Diagnostics.kArmStaleAfterNs) : Seen s began now fault := by
  obtain ⟨k, faultOf, ⟨m, since, near, time⟩ | ⟨-, rfl⟩⟩ := h.2 rfl
  · exact ⟨k, m, last, faultOf.since, faultOf.stored, since, near, time, fresh⟩
  · omega

theorem KnowsBoth.le_last (h : KnowsBoth s began true fault last) (stored : Stored s)
    (some_over : 0 < began) {ns : Int} (here : s.times[began - 1]? = some ns) : ns ≤ last := by
  obtain ⟨k, -, ⟨m, since, -, time⟩ | ⟨none, -⟩⟩ := h.2 rfl
  · exact Register.le_of_later stored.sorted (by omega) here time
  · omega

theorem KnowsBoth.undisturbed (h : KnowsBoth s began true fault last) (stored : Stored s)
    (some_over : 0 < began) (alone : s.faults.length = began) :
    s.faults[began - 1]? = some fault ∧ s.times[began - 1]? = some last := by
  obtain ⟨k, faultOf, ⟨m, since, -, time⟩ | ⟨none, -⟩⟩ := h.2 rfl
  · have judged := faultOf.since
    obtain ⟨inFaults, -⟩ := List.getElem?_eq_some_iff.mp faultOf.stored
    obtain ⟨inTimes, -⟩ := List.getElem?_eq_some_iff.mp time
    have untimed := stored.untimed alone h.1.1
    obtain rfl : k = began - 1 := by omega
    obtain rfl : m = began - 1 := by omega
    exact ⟨faultOf.stored, time⟩
  · omega

theorem truthful_report (stored : Stored s) (known : KnowsBoth s began ever fault last) (started : boot ≤ now)
    (booted : Diagnostics.kArmStaleAfterNs < boot) (armStampS : Double) :
    Truthful s began now (Diagnostics.diagnostic ever fault (now - last) armStampS) := by
  have inside := known.1.1
  cases ever with
  | false =>
    -- No state has come, and none was over.
    have none := known.1.2.1 rfl
    exact ⟨inside, nofun, nofun, fun _ _ some_over => by omega, nofun, fun some_over => by omega⟩
  | true =>
    have alone : 0 < began → s.faults.length = began → ∃ ns, s.faults[began - 1]? = some fault ∧
        s.times[began - 1]? = some ns ∧
        Diagnostics.summary true fault (now - last) = Diagnostics.summary true fault (now - ns) := by
      intro some_over alone
      obtain ⟨judged, heard⟩ := known.undisturbed stored some_over alone
      exact ⟨last, judged, heard, rfl⟩
    rcases Diagnostics.summary_heard fault (now - last) with ⟨old, level⟩ | ⟨fresh, level⟩
    · refine ⟨inside, ?_, ?_, ?_, ?_, alone⟩
      · exact fun ok => by cases level.symm.trans ok
      · exact fun error => by cases level.symm.trans error
      · intro _ ns some_over here
        have later := known.le_last stored some_over here
        omega
      · exact fun warn => by cases level.symm.trans warn
    · have seen := known.seen booted started fresh
      cases fault with
      | true =>
        refine ⟨inside, ?_, fun _ => seen, ?_, ?_, alone⟩
        · exact fun ok => by cases level.symm.trans ok
        · exact fun stale => by cases level.symm.trans stale
        · exact fun warn => by cases level.symm.trans warn
      | false =>
        refine ⟨inside, fun _ => seen, ?_, ?_, ?_, alone⟩
        · exact fun error => by cases level.symm.trans error
        · exact fun stale => by cases level.symm.trans stale
        · exact fun warn => by cases level.symm.trans warn

/-- A faulted state comes between the loads of a diagnostic. -/
def benchFaulting : List (HealthAction Unit) :=
  .publish {} :: List.replicate 6 .pump ++ [.probe (), .load (), .publish { fault := true }, .pump, .load (),
    .readClock (), .pump, .elapse 5, .load (), .load ()]

end HealthMonitor
end KinovaGen3
