import KinovaGen3.Arbitration.Server
import KinovaGen3.Backend.PublishState
import KinovaGen3.GoTo.Presets
import KinovaGen3.Params.Contact
import KinovaGen3.Params.SpeedScale

/-!
`main` of `bringup_node.cpp`, once it has a model: which parameters it starts the node with, and how it
ends with the others, when each has the type it is declared with. What throws outside a `try` takes the
process down.
-/

namespace KinovaGen3

/-- What core's constructors make of the configuration; they throw what they refuse. -/
structure BringupCore (δ : Type) extends ContactCore where
  contactMonitor : ContactMonitorConfig → Option Thrown
  floatMode : FloatParams → Option Thrown
  /-- The Supervisor's, which is given the monitor where there is one. -/
  supervisor : Option ContactMonitorConfig → ContactProfiles → Option Thrown
  speed : SpeedSink δ
  kMinSpeedScale : Double

/-- How `main` ends before the node is up. -/
inductive Ended where
  | contactConfig (why : Thrown)
  | arbitrationMode (got : String)
  | speedScale (why : Thrown)
  | terminated (why : Thrown)

/-- `std::terminate` returns no code of `main`'s. -/
def Ended.code? : Ended → Option Nat
  | contactConfig _ | arbitrationMode _ | speedScale _ => some 1
  | terminated _ => none

structure BringupNode (δ : Type) where
  contact : ContactNodeConfig
  backend : Ros2Backend
  mode : ArbitrationMode
  expectGripper : Bool
  presets : Registry
  speedScale : SpeedScaleParam δ

namespace Bringup
variable {δ : Type} (core : BringupCore δ) (params : Overrides)

def built (refusal : Option Thrown) : Startup Unit := fun declared =>
  match refusal with
  | some thrown => .error thrown
  | none => .ok ((), declared)

/-- The `try` block that configures contact detection. -/
def configureContact : Startup ContactNodeConfig := do
  let config ← declareContactParams core.toContactCore params
  built (if config.detection ≠ "off" then core.contactMonitor config.monitor else none)
  built (if config.detection ≠ "off" then core.floatMode config.floating else none)
  pure config

def monitor (config : ContactNodeConfig) : Option ContactMonitorConfig :=
  if config.detection ≠ "off" then some config.monitor else none

def arbitrationMode (modeStr : String) : Except Ended ArbitrationMode :=
  if modeStr = "enforced" then .ok .enforced
  else if modeStr = "disabled" then .ok .disabled
  else .error (.arbitrationMode modeStr)

/-- `main` from the backend to the speed scale. -/
def bringUp (contact : ContactNodeConfig) (jointNames : List String) (driver : δ) (declared : List String) :
    Except Ended (BringupNode δ) := do
  let (backend, declared) ← (Ros2Backend.construct params jointNames declared).mapError .terminated
  let (modeStr, declared) ←
    (Startup.declare params.string "arbitration_mode" "disabled" declared).mapError .terminated
  let mode ← arbitrationMode modeStr
  let (expectGripper, declared) ←
    (Startup.declare params.bool "expect_gripper" true declared).mapError .terminated
  let (presets, declared) ← (loadPresetRegistry params declared).mapError .terminated
  let ((), declared) ← (built (core.supervisor (monitor contact) contact.profiles) declared).mapError .terminated
  let (speedScale, _) ←
    (SpeedScaleParam.construct core.speed core.kMinSpeedScale params driver declared).mapError .speedScale
  pure { contact, backend, mode, expectGripper, presets, speedScale }

def main (jointNames : List String) (driver : δ) (declared : List String) : Except Ended (BringupNode δ) := do
  let (contact, declared) ← (configureContact core params declared).mapError .contactConfig
  bringUp core params contact jointNames driver declared

/-! ### What the parameters say -/

def ownParameters : List String :=
  ["state_publish_divisor", "arbitration_mode", "expect_gripper", "preset_names", SpeedScaleParam.kName]

def nodeParameters : List String := contactParameters ++ ownParameters

def modeValue : String := (params.string "arbitration_mode").getD "disabled"

def scaleValue : Double := (params.double SpeedScaleParam.kName).getD (.finite 1)

structure ContactFine : Prop where
  accepted : ContactAccepted core.toContactCore params
  monitor : detectionValue params ≠ "off" →
    core.contactMonitor (contactConfig core.toContactCore params).monitor = none
  floating : detectionValue params ≠ "off" →
    core.floatMode (contactConfig core.toContactCore params).floating = none

structure SpeedFine (driver : δ) : Prop where
  range : ((scaleValue params).lt core.kMinSpeedScale || Double.lt (.finite 1) (scaleValue params)) = false
  accepted : (core.speed.onSetSpeedOverride driver (scaleValue params)).1.accepted = true

def ModeFine : Prop := modeValue params = "enforced" ∨ modeValue params = "disabled"

/-- The node that the parameters describe. -/
def configured (jointNames : List String) (driver : δ) : BringupNode δ where
  contact := contactConfig core.toContactCore params
  backend :=
    { armJointNames := jointNames.dropLast
      gripperJointName := jointNames.getLastD ""
      stateDivisor :=
        let divisor := ((params.integer "state_publish_divisor").getD 2).toInt32
        if divisor < 1 then 1 else divisor }
  mode := if modeValue params = "enforced" then .enforced else .disabled
  expectGripper := (params.bool "expect_gripper").getD true
  presets := configuredPresets params
  speedScale :=
    { value := scaleValue params
      driver := (core.speed.onSetSpeedOverride driver (scaleValue params)).2 }

/-! ### One stage after the other -/

section
variable {core params} {declared : List String}

theorem presetParameter_other (n : String) : presetParameter n ∉ nodeParameters := by
  have other : ∀ name ∈ nodeParameters, name.toList.take 8 ≠ "presets.".toList := by decide
  intro member
  apply other _ member
  simp [presetParameter]

theorem built_none (later : List String) : built none later = .ok ((), later) := rfl

theorem built_ok {refusal : Option Thrown} {r : Unit × List String} (h : built refusal declared = .ok r) :
    refusal = none := by
  cases refusal with
  | none => rfl
  | some thrown => cases h

theorem configureContact_fine (validates : ∀ theta ceiling,
      (core.validateContactThresholds theta ceiling).ok = true ↔ Within theta ceiling)
    (fresh : Startup.Fresh contactParameters declared) (fine : ContactFine core params) :
    configureContact core params declared =
      .ok (contactConfig core.toContactCore params, contactParameters.reverse ++ declared) := by
  have declares := (yields_declareContactParams core.toContactCore validates params).passes declared fresh
    fine.accepted
  have monitor : (if detectionValue params ≠ "off" then
      core.contactMonitor (contactConfig core.toContactCore params).monitor else none) = none := by
    split
    · exact fine.monitor ‹_›
    · rfl
  have floating : (if detectionValue params ≠ "off" then
      core.floatMode (contactConfig core.toContactCore params).floating else none) = none := by
    split
    · exact fine.floating ‹_›
    · rfl
  unfold configureContact
  rw [Startup.bind_of_ok declares]
  have same : (contactConfig core.toContactCore params).detection = detectionValue params := rfl
  rw [same, monitor, floating, Startup.bind_of_ok (built_none _), Startup.bind_of_ok (built_none _)]
  rfl

theorem configureContact_not_fine (validates : ∀ theta ceiling,
      (core.validateContactThresholds theta ceiling).ok = true ↔ Within theta ceiling)
    (fresh : Startup.Fresh contactParameters declared) (bad : ¬ ContactFine core params) :
    ∃ why, configureContact core params declared = .error why := by
  have yields := yields_declareContactParams core.toContactCore validates params
  cases result : configureContact core params declared with
  | error why => exact ⟨why, rfl⟩
  | ok r =>
    refine absurd ?_ bad
    unfold configureContact at result
    obtain ⟨config, later, declares, result⟩ := Startup.bind_ok result
    obtain ⟨_, later', monitor, result⟩ := Startup.bind_ok result
    obtain ⟨_, later'', floating, -⟩ := Startup.bind_ok result
    have accepted : ContactAccepted core.toContactCore params := by
      by_contra refused
      obtain ⟨message, thrown⟩ := yields.refuses declared fresh refused
      cases thrown.symm.trans declares
    cases (yields.passes declared fresh accepted).symm.trans declares
    have same : (contactConfig core.toContactCore params).detection = detectionValue params := rfl
    rw [same] at monitor floating
    refine ⟨accepted, fun on => ?_, fun on => ?_⟩
    · rw [if_pos on] at monitor
      exact built_ok monitor
    · rw [if_pos on] at floating
      exact built_ok floating

theorem declare_scale (fresh : SpeedScaleParam.kName ∉ declared) :
    Startup.declareInRange params.double SpeedScaleParam.kName (.finite 1) core.kMinSpeedScale (.finite 1) declared =
      if (scaleValue params).lt core.kMinSpeedScale || Double.lt (.finite 1) (scaleValue params) then
        .error (.invalidParameterValue SpeedScaleParam.kName)
      else .ok (scaleValue params, SpeedScaleParam.kName :: declared) := by
  unfold Startup.declareInRange
  rw [Startup.bind_of_ok (Startup.declare_fresh fresh)]
  by_cases outside : (scaleValue params).lt core.kMinSpeedScale || Double.lt (.finite 1) (scaleValue params)
  · rw [if_pos outside]
    exact congrFun (if_pos outside) _
  · rw [if_neg outside]
    exact congrFun (if_neg outside) _

theorem speedScale_fine {driver : δ} (fresh : SpeedScaleParam.kName ∉ declared) (fine : SpeedFine core params driver) :
    SpeedScaleParam.construct core.speed core.kMinSpeedScale params driver declared =
      .ok (⟨scaleValue params, (core.speed.onSetSpeedOverride driver (scaleValue params)).2⟩,
        SpeedScaleParam.kName :: declared) := by
  have declares := @declare_scale δ core params declared fresh
  rw [fine.range, if_neg Bool.false_ne_true] at declares
  unfold SpeedScaleParam.construct
  rw [Startup.bind_of_ok declares]
  dsimp only
  rw [if_pos fine.accepted]
  rfl

theorem speedScale_not_fine {driver : δ} (fresh : SpeedScaleParam.kName ∉ declared)
    (bad : ¬ SpeedFine core params driver) :
    ∃ why, SpeedScaleParam.construct core.speed core.kMinSpeedScale params driver declared = .error why := by
  have declares := @declare_scale δ core params declared fresh
  unfold SpeedScaleParam.construct
  split at declares
  · exact ⟨_, Startup.bind_of_error declares⟩
  · rename_i inside
    rw [Startup.bind_of_ok declares]
    dsimp only
    have refused : ¬ (core.speed.onSetSpeedOverride driver (scaleValue params)).1.accepted = true :=
      fun accepted => bad ⟨Bool.eq_false_iff.mpr inside, accepted⟩
    rw [if_neg refused]
    exact ⟨_, rfl⟩

theorem arbitrationMode_fine (fine : ModeFine params) :
    arbitrationMode (modeValue params) = .ok (if modeValue params = "enforced" then .enforced else .disabled) := by
  unfold arbitrationMode
  rcases fine with enforced | disabled
  · rw [if_pos enforced, if_pos enforced]
  · have other : modeValue params ≠ "enforced" := by
      rw [disabled]
      decide
    rw [if_neg other, if_neg other, if_pos disabled]

theorem arbitrationMode_not_fine (bad : ¬ ModeFine params) :
    arbitrationMode (modeValue params) = .error (.arbitrationMode (modeValue params)) := by
  unfold arbitrationMode
  rw [if_neg fun enforced => bad (Or.inl enforced), if_neg fun disabled => bad (Or.inr disabled)]

end

/-! ### All of them -/

/-- Of these names and those of presets, none is declared yet. -/
structure Free (names declared : List String) : Prop where
  own : ∀ n ∈ names, n ∉ declared
  presets : ∀ n, presetParameter n ∉ declared

structure Accepted (driver : δ) : Prop where
  contact : ContactFine core params
  mode : ModeFine params
  presets : (listedPresets params).Nodup
  speed : SpeedFine core params driver

variable {core params}

theorem construct_backend {jointNames declared : List String} (joints : jointNames.length = kNumJoints + 1)
    {driver : δ} (fresh : "state_publish_divisor" ∉ declared) :
    Ros2Backend.construct params jointNames declared =
      .ok ((configured core params jointNames driver).backend, "state_publish_divisor" :: declared) := by
  have required := (Startup.yields_require (jointNames.length = kNumJoints + 1)
    ("Ros2Backend: need " ++ toString kNumJoints ++ " arm joint names then the gripper joint, got " ++
      toString jointNames.length)).passes declared ⟨List.nodup_nil, nofun⟩ joints
  unfold Ros2Backend.construct
  rw [Startup.bind_of_ok required, List.reverse_nil, List.nil_append,
    Startup.bind_of_ok (Startup.declare_fresh fresh)]
  rfl

theorem registry_twice (declared : List String) (twice : ¬ (listedPresets params).Nodup) :
    ∃ why, loadPresetRegistry params declared = .error why := by
  cases loaded : loadPresetRegistry params declared with
  | error why => exact ⟨why, rfl⟩
  | ok r => exact absurd (loadPresetRegistry_ok loaded).1 twice

theorem Free.declare {name : String} {names declared : List String} (h : Free (name :: names) declared)
    (first : name ∉ names) (other : ∀ n, presetParameter n ≠ name) : Free names (name :: declared) where
  own n member known := by
    rcases List.mem_cons.mp known with rfl | known
    · exact first member
    · exact h.own n (List.mem_cons_of_mem _ member) known
  presets n known := by
    rcases List.mem_cons.mp known with same | known
    · exact other n same
    · exact h.presets n known

theorem presetParameter_own {name : String} (own : name ∈ ownParameters) (n : String) : presetParameter n ≠ name := by
  rintro rfl
  exact presetParameter_other n (List.mem_append_right _ own)

theorem registry_once {declared : List String} (free : Free ["preset_names", SpeedScaleParam.kName] declared)
    (nodup : (listedPresets params).Nodup) : ∃ later,
    loadPresetRegistry params declared = .ok (configuredPresets params, later) ∧ SpeedScaleParam.kName ∉ later := by
  have names : ("preset_names" :: (presetNames (listedPresets params)).map presetParameter).Nodup := by
    refine List.nodup_cons.mpr ⟨fun member => ?_, ?_⟩
    · obtain ⟨n, -, same⟩ := List.mem_map.mp member
      exact presetParameter_ne n same
    · exact (nodup_presetNames.mpr nodup).map fun _ _ => presetParameter_injective
  have fresh : Startup.Fresh ("preset_names" :: (presetNames (listedPresets params)).map presetParameter) declared := by
    refine ⟨names, fun name member => ?_⟩
    rcases List.mem_cons.mp member with rfl | member
    · exact free.own _ List.mem_cons_self
    · obtain ⟨n, -, rfl⟩ := List.mem_map.mp member
      exact free.presets n
  refine ⟨_, (yields_loadPresetRegistry params).passes declared fresh trivial, fun member => ?_⟩
  rcases List.mem_append.mp member with member | known
  · rcases List.mem_cons.mp (List.mem_reverse.mp member) with same | member
    · exact absurd same (by decide)
    · obtain ⟨n, -, same⟩ := List.mem_map.mp member
      exact presetParameter_own (by decide) n same
  · exact free.own _ (List.mem_cons_of_mem _ List.mem_cons_self) known

/-- The contact configuration satisfies the Supervisor, which is built outside any `try`. -/
theorem supervisor_built (constructs : ∀ (monitor : Option ContactMonitorConfig) (profiles : ContactProfiles),
      profiles.Fine → (∀ m ∈ monitor, m.ceiling = profiles.ceiling) → core.supervisor monitor profiles = none)
    (fine : ContactFine core params) :
    core.supervisor (monitor (contactConfig core.toContactCore params))
      (contactConfig core.toContactCore params).profiles = none := by
  apply constructs _ _ fine.accepted.profiles
  intro m attached
  unfold monitor at attached
  split at attached
  · obtain rfl := Option.some.inj attached
    rfl
  · cases attached

theorem bringUp_cases (constructs : ∀ (monitor : Option ContactMonitorConfig) (profiles : ContactProfiles),
      profiles.Fine → (∀ m ∈ monitor, m.ceiling = profiles.ceiling) → core.supervisor monitor profiles = none)
    (fine : ContactFine core params) {jointNames declared : List String}
    (joints : jointNames.length = kNumJoints + 1) (free : Free ownParameters declared) (driver : δ) :
    let result := bringUp core params (contactConfig core.toContactCore params) jointNames driver declared
    (ModeFine params ∧ (listedPresets params).Nodup ∧ SpeedFine core params driver ∧
      result = .ok (configured core params jointNames driver)) ∨
    (¬ ModeFine params ∧ result = .error (.arbitrationMode (modeValue params))) ∨
    (ModeFine params ∧ ¬ (listedPresets params).Nodup ∧ ∃ why, result = .error (.terminated why)) ∨
    (ModeFine params ∧ (listedPresets params).Nodup ∧ ¬ SpeedFine core params driver ∧
      ∃ why, result = .error (.speedScale why)) := by
  intro result
  have divisorDone := free.declare (by decide) (presetParameter_own (by decide))
  have modeDone := divisorDone.declare (by decide) (presetParameter_own (by decide))
  have gripperDone := modeDone.declare (by decide) (presetParameter_own (by decide))
  have backend := @construct_backend δ core params jointNames declared joints driver (free.own _ List.mem_cons_self)
  have declaresMode : Startup.declare params.string "arbitration_mode" "disabled" _ = .ok (modeValue params, _) :=
    Startup.declare_fresh (divisorDone.own _ List.mem_cons_self)
  have declaresGripper := @Startup.declare_fresh _ params.bool _ true _ (modeDone.own _ List.mem_cons_self)
  by_cases modeFine : ModeFine params
  case neg =>
    refine Or.inr (Or.inl ⟨modeFine, ?_⟩)
    simp only [result, bringUp, backend, declaresMode, arbitrationMode_not_fine modeFine, Except.mapError, bind,
      Except.bind]
  have mode := arbitrationMode_fine modeFine
  by_cases nodup : (listedPresets params).Nodup
  case neg =>
    obtain ⟨why, thrown⟩ := registry_twice
      ("expect_gripper" :: "arbitration_mode" :: "state_publish_divisor" :: declared) nodup
    refine Or.inr (Or.inr (Or.inl ⟨modeFine, nodup, why, ?_⟩))
    simp only [result, bringUp, backend, declaresMode, mode, declaresGripper, thrown, Except.mapError, bind,
      Except.bind]
  obtain ⟨later, presets, speedFree⟩ := registry_once gripperDone nodup
  have supervisor := supervisor_built constructs fine
  by_cases speedFine : SpeedFine core params driver
  case neg =>
    obtain ⟨why, thrown⟩ := speedScale_not_fine speedFree speedFine
    refine Or.inr (Or.inr (Or.inr ⟨modeFine, nodup, speedFine, why, ?_⟩))
    simp only [result, bringUp, backend, declaresMode, mode, declaresGripper, presets, supervisor, built_none, thrown,
      Except.mapError, bind, Except.bind]
  have speed := speedScale_fine speedFree speedFine
  refine Or.inl ⟨modeFine, nodup, speedFine, ?_⟩
  simp only [result, bringUp, backend, declaresMode, mode, declaresGripper, presets, supervisor, built_none, speed,
    Except.mapError, bind, Except.bind]
  rfl

theorem free_contact {declared : List String} (free : Free nodeParameters declared) :
    Free ownParameters (contactParameters.reverse ++ declared) where
  own n member known := by
    have apart : ∀ n ∈ ownParameters, n ∉ contactParameters := by decide
    rcases List.mem_append.mp known with contact | known
    · exact apart n member (List.mem_reverse.mp contact)
    · exact free.own n (List.mem_append_right _ member) known
  presets n known := by
    rcases List.mem_append.mp known with contact | known
    · exact presetParameter_other n (List.mem_append_left _ (List.mem_reverse.mp contact))
    · exact free.presets n known

theorem accepted_iff {driver : δ} : Accepted core params driver ↔
    ContactFine core params ∧ ModeFine params ∧ (listedPresets params).Nodup ∧ SpeedFine core params driver :=
  ⟨fun h => ⟨h.contact, h.mode, h.presets, h.speed⟩, fun ⟨contact, mode, presets, speed⟩ =>
    ⟨contact, mode, presets, speed⟩⟩

end Bringup

open Bringup in
/-- The node starts just when its parameters pass every check, as the node they describe. Of the others, a
preset that is listed twice takes the process down uncaught, and the rest end it with the code 1. -/
theorem bringup_exact {δ : Type} (core : BringupCore δ)
    (validates : ∀ theta ceiling, (core.validateContactThresholds theta ceiling).ok = true ↔
      Within theta ceiling)
    (constructs : ∀ (monitor : Option ContactMonitorConfig) (profiles : ContactProfiles), profiles.Fine →
      (∀ m ∈ monitor, m.ceiling = profiles.ceiling) → core.supervisor monitor profiles = none)
    (params : Overrides) (jointNames declared : List String) (driver : δ)
    (joints : jointNames.length = kNumJoints + 1) (free : Free nodeParameters declared) :
    let result := main core params jointNames driver declared
    (∀ node, result = .ok node ↔
      Bringup.Accepted core params driver ∧ node = configured core params jointNames driver) ∧
    ((∃ ended, result = .error ended ∧ ended.code? = none) ↔
      ContactFine core params ∧ ModeFine params ∧ ¬ (listedPresets params).Nodup) ∧
    ((∃ ended, result = .error ended ∧ ended.code? = some 1) ↔
      ¬ ContactFine core params ∨ ¬ ModeFine params ∨
        (listedPresets params).Nodup ∧ ¬ SpeedFine core params driver) := by
  intro result
  have contacts : Startup.Fresh contactParameters declared :=
    ⟨by decide, fun n member => free.own n (List.mem_append_left _ member)⟩
  by_cases fine : ContactFine core params
  case neg =>
    obtain ⟨why, thrown⟩ := configureContact_not_fine validates contacts fine
    have ended : result = .error (.contactConfig why) := by
      simp only [result, main, thrown, Except.mapError, bind, Except.bind]
    simp [ended, Ended.code?, accepted_iff, fine]
  have same : result = bringUp core params (contactConfig core.toContactCore params) jointNames driver
      (contactParameters.reverse ++ declared) := by
    simp only [result, main, configureContact_fine validates contacts fine, Except.mapError, bind, Except.bind]
  rw [same]
  rcases bringUp_cases constructs fine joints (free_contact free) driver with
    ⟨mode, presets, speed, ended⟩ | ⟨mode, ended⟩ | ⟨mode, presets, why, ended⟩ |
    ⟨mode, presets, speed, why, ended⟩
  · simp [ended, accepted_iff, fine, mode, presets, speed, eq_comm]
  · simp [ended, Ended.code?, accepted_iff, fine, mode]
  · simp [ended, Ended.code?, accepted_iff, fine, mode, presets]
  · simp [ended, Ended.code?, accepted_iff, fine, mode, presets, speed]

def benchBringupCore : BringupCore Double where
  toContactCore := benchContactCore
  contactMonitor _ := none
  floatMode _ := none
  supervisor _ _ := none
  speed := SpeedScaleParam.benchSpeedSink
  kMinSpeedScale := .finite (1 / 100)

def benchJointNames : List String := benchNode.armJointNames ++ ["arm_robotiq_85_left_knuckle_joint"]

def benchOverrides : Overrides where
  bool n := if n = "expect_gripper" then some false else none
  integer n := if n = "state_publish_divisor" then some 10 else benchContactParams.integer n
  double n := if n = SpeedScaleParam.kName then some (.finite (1 / 2)) else benchContactParams.double n
  string n := if n = "arbitration_mode" then some "enforced" else benchContactParams.string n
  doubles n :=
    if n = presetParameter "dock" then some (List.replicate kNumJoints (.finite 1))
    else benchContactParams.doubles n
  strings n := if n = "preset_names" then some ["rest", "dock"] else none

theorem bringup_exact_benchOverrides : ∃ node,
    Bringup.main benchBringupCore benchOverrides benchJointNames (.finite 1) [] = .ok node ∧
      Bringup.Accepted benchBringupCore benchOverrides (.finite 1) ∧
      node = Bringup.configured benchBringupCore benchOverrides benchJointNames (.finite 1) := by
  have started : (Bringup.main benchBringupCore benchOverrides benchJointNames (.finite 1) []).toOption.isSome =
      true := by decide +kernel
  obtain ⟨exact, -⟩ := bringup_exact benchBringupCore (by simp [benchBringupCore, benchContactCore])
    (fun _ _ _ _ => rfl) benchOverrides benchJointNames [] (.finite 1) (by decide)
    ⟨fun _ _ => List.not_mem_nil, fun _ => List.not_mem_nil⟩
  cases result : Bringup.main benchBringupCore benchOverrides benchJointNames (.finite 1) [] with
  | error ended =>
    rw [result] at started
    cases started
  | ok node => exact ⟨node, rfl, (exact node).mp result⟩

end KinovaGen3
