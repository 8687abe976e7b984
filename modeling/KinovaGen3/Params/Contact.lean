import KinovaGen3.Params.Parameters

/-!
`declare_contact_params`: the contact detector's startup configuration out of the node's parameters.
All of them are checked, but the debounce is narrowed to an `int` after its check.
-/

namespace KinovaGen3

inductive ContactDetection where
  | enforce | observe
  deriving DecidableEq

structure ContactMonitorConfig where
  detection : ContactDetection
  gain : Double
  debounceCycles : Int32
  initialTheta : JointVec
  ceiling : JointVec

structure ContactProfiles where
  sensitive : JointVec
  normal : JointVec
  loose : JointVec
  ceiling : JointVec

structure FloatParams where
  damping : JointVec
  spring : JointVec
  dragBandRad : Double

structure ContactNodeConfig where
  detection : String
  monitor : ContactMonitorConfig
  profiles : ContactProfiles
  floating : FloatParams
  debugTopic : Bool

structure ThresholdCheck where
  ok : Bool
  message : String := ""

/-- What the configuration takes from core. -/
structure ContactCore where
  validateContactThresholds : JointVec → JointVec → ThresholdCheck
  floating : FloatParams
  kDeg2Rad : Double

def Double.Positive (v : Double) : Prop := v.isFinite = true ∧ Double.lt (.finite 0) v = true

def Double.NonNegative (v : Double) : Prop := v.isFinite = true ∧ Double.le (.finite 0) v = true

instance (v : Double) : Decidable v.Positive := inferInstanceAs (Decidable (_ ∧ _))

instance (v : Double) : Decidable v.NonNegative := inferInstanceAs (Decidable (_ ∧ _))

def jointVec (values : List Rat) : JointVec := fun i => .finite (values.getD i.val 0)

def declareVec (params : Overrides) (name : String) (default : JointVec) : Startup JointVec := do
  let v ← Startup.declare params.doubles name (List.ofFn default)
  Startup.require (v.length = kNumJoints) (name ++ " must have exactly " ++ toString kNumJoints ++
    " values (joints 1..7), got " ++ toString v.length)
  pure fun i => v.getD i.val (.finite 0)

def requireNonNegative (name : String) (v : JointVec) : Startup Unit :=
  (List.finRange kNumJoints).forM fun i =>
    Startup.require (v i).NonNegative (name ++ ": joint " ++ toString (i.val + 1) ++ " value " ++
      (v i).toFixed ++ " must be finite and >= 0")

/-! ### The parts of `declare_contact_params` -/

def declareDetection (params : Overrides) : Startup String := do
  let detection ← Startup.declare params.string "contact_detection" "enforce"
  Startup.require (detection = "enforce" ∨ detection = "observe" ∨ detection = "off")
    ("contact_detection must be 'enforce', 'observe' or 'off', got '" ++ detection ++ "'")
  pure detection

/-- `contact_gain` and `float_drag_band_deg`. -/
def declarePositive (params : Overrides) (name : String) (default : Rat) : Startup Double := do
  let v ← Startup.declare params.double name (.finite default)
  Startup.require v.Positive (name ++ " must be finite and > 0, got " ++ v.toFixed)
  pure v

/-- `static_cast<int>` keeps the low 32 bits. -/
def declareDebounce (params : Overrides) : Startup Int32 := do
  let debounce ← Startup.declare params.integer "contact_debounce_cycles" 5
  Startup.require (1 ≤ debounce)
    ("contact_debounce_cycles must be >= 1, got " ++ toString debounce.toInt)
  pure debounce.toInt32

def declareProfiles (core : ContactCore) (params : Overrides) : Startup ContactProfiles := do
  let sensitive ← declareVec params "contact_thresholds_sensitive" (jointVec [8, 8, 6, 6, 2, 2, 2])
  let normal ← declareVec params "contact_thresholds_default" (jointVec [16, 16, 12, 12, 4, 4, 4])
  let loose ← declareVec params "contact_thresholds_loose" (jointVec [24, 24, 18, 18, 6, 6, 6])
  let ceiling ← declareVec params "contact_thresholds_ceiling" (jointVec [30, 30, 22, 22, 7, 7, 7])
  -- The ceiling on its own first, so that a bad one is not reported as a bad profile.
  let check := core.validateContactThresholds ceiling ceiling
  Startup.require check.ok ("contact_thresholds_ceiling: " ++ check.message)
  [("contact_thresholds_sensitive", sensitive), ("contact_thresholds_default", normal),
    ("contact_thresholds_loose", loose)].forM fun (name, theta) =>
      let check := core.validateContactThresholds theta ceiling
      Startup.require check.ok (name ++ ": " ++ check.message)
  pure { sensitive, normal, loose, ceiling }

/-- `float_damping` and `float_spring`. -/
def declareNonNegative (params : Overrides) (name : String) (default : JointVec) : Startup JointVec := do
  let v ← declareVec params name default
  requireNonNegative name v
  pure v

def declareContactParams (core : ContactCore) (params : Overrides) : Startup ContactNodeConfig := do
  let detection ← declareDetection params
  let gain ← declarePositive params "contact_gain" 25
  let debounceCycles ← declareDebounce params
  let profiles ← declareProfiles core params
  let damping ← declareNonNegative params "float_damping" core.floating.damping
  let spring ← declareNonNegative params "float_spring" core.floating.spring
  let bandDeg ← declarePositive params "float_drag_band_deg" 2
  let debugTopic ← Startup.declare params.bool "contact_debug_topic" false
  pure
    { detection
      monitor :=
        { detection := if detection = "observe" then .observe else .enforce
          gain
          debounceCycles
          initialTheta := profiles.normal
          ceiling := profiles.ceiling }
      profiles
      floating := { damping, spring, dragBandRad := bandDeg.mul core.kDeg2Rad }
      debugTopic }

/-! ### What the parameters say -/

def contactParameters : List String :=
  ["contact_detection", "contact_gain", "contact_debounce_cycles", "contact_thresholds_sensitive",
    "contact_thresholds_default", "contact_thresholds_loose", "contact_thresholds_ceiling",
    "float_damping", "float_spring", "float_drag_band_deg", "contact_debug_topic"]

def vecValue (params : Overrides) (name : String) (default : JointVec) : List Double :=
  (params.doubles name).getD (List.ofFn default)

def jointsOf (values : List Double) : JointVec := fun i => values.getD i.val (.finite 0)

def positiveValue (params : Overrides) (name : String) (default : Rat) : Double :=
  (params.double name).getD (.finite default)

def debounceValue (params : Overrides) : Int64 := (params.integer "contact_debounce_cycles").getD 5

def detectionValue (params : Overrides) : String := (params.string "contact_detection").getD "enforce"

def contactProfiles (params : Overrides) : ContactProfiles where
  sensitive := jointsOf (vecValue params "contact_thresholds_sensitive" (jointVec [8, 8, 6, 6, 2, 2, 2]))
  normal := jointsOf (vecValue params "contact_thresholds_default" (jointVec [16, 16, 12, 12, 4, 4, 4]))
  loose := jointsOf (vecValue params "contact_thresholds_loose" (jointVec [24, 24, 18, 18, 6, 6, 6]))
  ceiling := jointsOf (vecValue params "contact_thresholds_ceiling" (jointVec [30, 30, 22, 22, 7, 7, 7]))

/-- The thresholds are finite, positive and, joint by joint, at most the ceiling. -/
def Within (theta ceiling : JointVec) : Prop :=
  ∀ i, (theta i).Positive ∧ (theta i).le (ceiling i) = true

instance (theta ceiling : JointVec) : Decidable (Within theta ceiling) :=
  inferInstanceAs (Decidable (∀ _, _ ∧ _))

structure ContactProfiles.Fine (p : ContactProfiles) : Prop where
  ceiling : Within p.ceiling p.ceiling
  sensitive : Within p.sensitive p.ceiling
  normal : Within p.normal p.ceiling
  loose : Within p.loose p.ceiling

/-- The values that are as long as they must be. -/
structure ProfilesSized (params : Overrides) : Prop where
  sensitive : (vecValue params "contact_thresholds_sensitive" (jointVec [8, 8, 6, 6, 2, 2, 2])).length =
    kNumJoints
  normal : (vecValue params "contact_thresholds_default" (jointVec [16, 16, 12, 12, 4, 4, 4])).length =
    kNumJoints
  loose : (vecValue params "contact_thresholds_loose" (jointVec [24, 24, 18, 18, 6, 6, 6])).length =
    kNumJoints
  ceiling : (vecValue params "contact_thresholds_ceiling" (jointVec [30, 30, 22, 22, 7, 7, 7])).length =
    kNumJoints

structure NonNegativeVec (params : Overrides) (name : String) (default : JointVec) : Prop where
  sized : (vecValue params name default).length = kNumJoints
  entries : ∀ i, (jointsOf (vecValue params name default) i).NonNegative

/-- Everything that `declare_contact_params` checks. -/
structure ContactAccepted (core : ContactCore) (params : Overrides) : Prop where
  detection : detectionValue params = "enforce" ∨ detectionValue params = "observe" ∨
    detectionValue params = "off"
  gain : (positiveValue params "contact_gain" 25).Positive
  debounce : 1 ≤ debounceValue params
  sized : ProfilesSized params
  profiles : (contactProfiles params).Fine
  damping : NonNegativeVec params "float_damping" core.floating.damping
  spring : NonNegativeVec params "float_spring" core.floating.spring
  band : (positiveValue params "float_drag_band_deg" 2).Positive

/-- What the parameters configure. -/
def contactConfig (core : ContactCore) (params : Overrides) : ContactNodeConfig where
  detection := detectionValue params
  monitor :=
    { detection := if detectionValue params = "observe" then .observe else .enforce
      gain := positiveValue params "contact_gain" 25
      debounceCycles := (debounceValue params).toInt32
      initialTheta := (contactProfiles params).normal
      ceiling := (contactProfiles params).ceiling }
  profiles := contactProfiles params
  floating :=
    { damping := jointsOf (vecValue params "float_damping" core.floating.damping)
      spring := jointsOf (vecValue params "float_spring" core.floating.spring)
      dragBandRad := (positiveValue params "float_drag_band_deg" 2).mul core.kDeg2Rad }
  debugTopic := (params.bool "contact_debug_topic").getD false

/-! ### What is declared -/

theorem yields_declareVec (params : Overrides) (name : String) (default : JointVec) :
    Startup.Yields (declareVec params name default) [name]
      ((vecValue params name default).length = kNumJoints) (jointsOf (vecValue params name default)) :=
  Startup.yields_checked params.doubles name (List.ofFn default) (·.length = kNumJoints) _ jointsOf

theorem yields_requireNonNegative (name : String) (v : JointVec) :
    Startup.Yields (requireNonNegative name v) [] (∀ i, (v i).NonNegative) () := by
  apply Startup.Yields.congr
  · exact Startup.yields_forM (fun _ => Startup.yields_require _ _) _
  · rfl
  · simp

theorem yields_declareDetection (params : Overrides) :
    Startup.Yields (declareDetection params) ["contact_detection"]
      (detectionValue params = "enforce" ∨ detectionValue params = "observe" ∨ detectionValue params = "off")
      (detectionValue params) :=
  Startup.yields_checked params.string "contact_detection" "enforce"
    (fun detection => detection = "enforce" ∨ detection = "observe" ∨ detection = "off") _ id

theorem yields_declarePositive (params : Overrides) (name : String) (default : Rat) :
    Startup.Yields (declarePositive params name default) [name] (positiveValue params name default).Positive
      (positiveValue params name default) :=
  Startup.yields_checked params.double name (.finite default) Double.Positive _ id

theorem yields_declareDebounce (params : Overrides) :
    Startup.Yields (declareDebounce params) ["contact_debounce_cycles"] (1 ≤ debounceValue params)
      (debounceValue params).toInt32 :=
  Startup.yields_checked params.integer "contact_debounce_cycles" 5 (1 ≤ ·) _ Int64.toInt32

theorem yields_declareNonNegative (params : Overrides) (name : String) (default : JointVec) :
    Startup.Yields (declareNonNegative params name default) [name] (NonNegativeVec params name default)
      (jointsOf (vecValue params name default)) := by
  unfold declareNonNegative
  apply Startup.Yields.congr
  · apply Startup.yields_bind
    · exact yields_declareVec params name default
    · exact Startup.yields_bind (yields_requireNonNegative _ _) (Startup.yields_pure _)
  · rfl
  · constructor
    · intro ⟨sized, entries, _⟩
      exact ⟨sized, entries⟩
    · intro ⟨sized, entries⟩
      exact ⟨sized, entries, trivial⟩

theorem yields_declareProfiles (core : ContactCore)
    (validates : ∀ theta ceiling, (core.validateContactThresholds theta ceiling).ok = true ↔
      Within theta ceiling) (params : Overrides) :
    Startup.Yields (declareProfiles core params)
      ["contact_thresholds_sensitive", "contact_thresholds_default", "contact_thresholds_loose",
        "contact_thresholds_ceiling"]
      (ProfilesSized params ∧ (contactProfiles params).Fine) (contactProfiles params) := by
  unfold declareProfiles
  apply Startup.Yields.congr
  · apply Startup.yields_bind
    · exact yields_declareVec _ _ _
    apply Startup.yields_bind
    · exact yields_declareVec _ _ _
    apply Startup.yields_bind
    · exact yields_declareVec _ _ _
    apply Startup.yields_bind
    · exact yields_declareVec _ _ _
    apply Startup.yields_bind
    · exact Startup.yields_require _ _
    apply Startup.yields_bind
    · exact Startup.yields_forM (fun _ => Startup.yields_require _ _) _
    · exact Startup.yields_pure _
  · rfl
  · simp only [validates, List.forall_mem_cons, List.not_mem_nil, false_imp_iff, implies_true, and_true]
    constructor
    · intro ⟨sensitive, normal, loose, ceiling, whole, first, second, third⟩
      exact ⟨⟨sensitive, normal, loose, ceiling⟩, whole, first, second, third⟩
    · intro ⟨⟨sensitive, normal, loose, ceiling⟩, whole, first, second, third⟩
      exact ⟨sensitive, normal, loose, ceiling, whole, first, second, third⟩

theorem yields_declareContactParams (core : ContactCore)
    (validates : ∀ theta ceiling, (core.validateContactThresholds theta ceiling).ok = true ↔
      Within theta ceiling) (params : Overrides) :
    Startup.Yields (declareContactParams core params) contactParameters (ContactAccepted core params)
      (contactConfig core params) := by
  unfold declareContactParams
  apply Startup.Yields.congr
  · apply Startup.yields_bind
    · exact yields_declareDetection _
    apply Startup.yields_bind
    · exact yields_declarePositive _ _ _
    apply Startup.yields_bind
    · exact yields_declareDebounce _
    apply Startup.yields_bind
    · exact yields_declareProfiles core validates _
    apply Startup.yields_bind
    · exact yields_declareNonNegative _ _ _
    apply Startup.yields_bind
    · exact yields_declareNonNegative _ _ _
    apply Startup.yields_bind
    · exact yields_declarePositive _ _ _
    apply Startup.yields_bind
    · exact Startup.yields_declare _ _ _
    · exact Startup.yields_pure _
  · rfl
  · constructor
    · intro ⟨detection, gain, debounce, ⟨sized, profiles⟩, damping, spring, band, _, _⟩
      exact ⟨detection, gain, debounce, sized, profiles, damping, spring, band⟩
    · intro ⟨detection, gain, debounce, sized, profiles, damping, spring, band⟩
      exact ⟨detection, gain, debounce, ⟨sized, profiles⟩, damping, spring, band, trivial, trivial⟩

/-! ### Sound configurations -/

/-- A configuration that the monitor can rely on, and that says what the parameters say. -/
structure SoundContact (core : ContactCore) (params : Overrides) (c : ContactNodeConfig) : Prop where
  thresholds : ∀ theta ∈ [c.profiles.sensitive, c.profiles.normal, c.profiles.loose],
    Within theta c.profiles.ceiling
  ceiling : ∀ i, (c.profiles.ceiling i).Positive
  initialTheta : c.monitor.initialTheta = c.profiles.normal
  sameCeiling : c.monitor.ceiling = c.profiles.ceiling
  gain : c.monitor.gain.Positive
  band : ∃ deg, deg = positiveValue params "float_drag_band_deg" 2 ∧ deg.Positive ∧
    c.floating.dragBandRad = deg.mul core.kDeg2Rad
  damping : ∀ i, (c.floating.damping i).NonNegative
  spring : ∀ i, (c.floating.spring i).NonNegative
  debounce : 1 ≤ c.monitor.debounceCycles.toInt ∧
    c.monitor.debounceCycles.toInt = (debounceValue params).toInt

/-- The low 32 bits of a positive number say it just when it is below `2 ^ 31`. -/
theorem toInt32_toInt {n : Int64} (positive : 1 ≤ n) :
    (1 ≤ n.toInt32.toInt ∧ n.toInt32.toInt = n.toInt) ↔ n.toInt < 2 ^ 31 := by
  have low : 1 ≤ n.toInt := Int64.le_iff_toInt_le.mp positive
  have high := n.toInt_lt
  rw [Int64.toInt_toInt32, Int.bmod_def]
  norm_num at high ⊢
  omega

theorem soundContact_iff {core : ContactCore} {params : Overrides} (accepted : ContactAccepted core params) :
    SoundContact core params (contactConfig core params) ↔ (debounceValue params).toInt < 2 ^ 31 := by
  rw [← toInt32_toInt accepted.debounce]
  constructor
  · intro sound
    exact sound.debounce
  · intro kept
    refine ⟨?_, ?_, rfl, rfl, accepted.gain, ⟨_, rfl, accepted.band, rfl⟩, accepted.damping.entries,
      accepted.spring.entries, kept⟩
    · intro theta member
      simp only [List.mem_cons, List.not_mem_nil, or_false] at member
      rcases member with rfl | rfl | rfl
      · exact accepted.profiles.sensitive
      · exact accepted.profiles.normal
      · exact accepted.profiles.loose
    · intro i
      exact (accepted.profiles.ceiling i).1

/-- A node is refused or has a sound configuration just when the debounce of parameters that pass every
check is below `2 ^ 31`. -/
theorem contact_config_sound (core : ContactCore)
    (validates : ∀ theta ceiling, (core.validateContactThresholds theta ceiling).ok = true ↔
      Within theta ceiling)
    (params : Overrides) (declared : List String)
    (fresh : ∀ n ∈ contactParameters, n ∉ declared) :
    ((∃ message, declareContactParams core params declared = .error (.invalidArgument message)) ∨
      ∃ c later, declareContactParams core params declared = .ok (c, later) ∧ SoundContact core params c) ↔
    (ContactAccepted core params → (debounceValue params).toInt < 2 ^ 31) := by
  have yields := yields_declareContactParams core validates params
  have free : Startup.Fresh contactParameters declared := ⟨by decide, fresh⟩
  by_cases accepted : ContactAccepted core params
  · have returned := yields.passes declared free accepted
    rw [returned, ← soundContact_iff accepted]
    constructor
    · rintro (⟨message, thrown⟩ | ⟨c, later, same, sound⟩) -
      · cases thrown
      · obtain ⟨rfl, -⟩ := Prod.mk.inj (Except.ok.inj same)
        exact sound
    · intro sound
      exact Or.inr ⟨_, _, rfl, sound accepted⟩
  · exact iff_of_true (Or.inl (yields.refuses declared free accepted)) fun all => absurd all accepted

def benchContactCore : ContactCore where
  validateContactThresholds theta ceiling := { ok := decide (Within theta ceiling) }
  floating :=
    { damping := jointVec [5, 5, 5, 5, 3 / 2, 3 / 2, 3 / 2]
      spring := jointVec [143 / 5, 143 / 5, 143 / 5, 143 / 5, 43 / 5, 43 / 5, 43 / 5]
      dragBandRad := .finite 0 }
  kDeg2Rad := .finite (355 / 20340)

/-- The debounce that a configuration is returned with. -/
def debounceReturned (params : Overrides) : Option Int32 :=
  (declareContactParams benchContactCore params []).toOption.map (·.1.monitor.debounceCycles)

def benchContactParams : Overrides where
  string n := if n = "contact_detection" then some "observe" else none
  integer n := if n = "contact_debounce_cycles" then some 8 else none
  double n :=
    if n = "contact_gain" then some (.finite 40)
    else if n = "float_drag_band_deg" then some (.finite (1 / 2))
    else none
  doubles n :=
    if n = "contact_thresholds_sensitive" then some (List.replicate kNumJoints (.finite 1))
    else if n = "contact_thresholds_ceiling" then some (List.replicate kNumJoints (.finite 25))
    else if n = "float_damping" then some (List.replicate kNumJoints (.finite 3))
    else none

theorem contact_config_sound_benchContactParams : ∃ c later,
    declareContactParams benchContactCore benchContactParams [] = .ok (c, later) ∧
      SoundContact benchContactCore benchContactParams c := by
  have returned : debounceReturned benchContactParams = some 8 := by decide +kernel
  rcases (contact_config_sound benchContactCore (by simp [benchContactCore]) benchContactParams []
    (by simp)).mpr (fun _ => by decide) with ⟨message, thrown⟩ | sound
  · rw [debounceReturned, thrown] at returned
    cases returned
  · exact sound

/-- The least debounce that does not fit is configured as a negative number of cycles. -/
theorem debounce_narrowed :
    ¬ ∀ (core : ContactCore), (∀ theta ceiling, (core.validateContactThresholds theta ceiling).ok = true ↔
        Within theta ceiling) →
      ∀ params, (∃ message, declareContactParams core params [] = .error (.invalidArgument message)) ∨
        ∃ c later, declareContactParams core params [] = .ok (c, later) ∧ SoundContact core params c := by
  intro sound
  have returned : debounceReturned { integer := fun _ => some 2147483648 } = some (-2147483648) := by
    decide +kernel
  rcases sound benchContactCore (by simp [benchContactCore]) { integer := fun _ => some 2147483648 } with
    ⟨message, thrown⟩ | ⟨c, later, configured, kept⟩
  · rw [debounceReturned, thrown] at returned
    cases returned
  · rw [debounceReturned, configured] at returned
    have cycles : c.monitor.debounceCycles = -2147483648 := Option.some.inj returned
    have positive := kept.debounce.1
    rw [cycles] at positive
    exact absurd positive (by decide)

end KinovaGen3
