import KinovaGen3.GoTo.Servers
import KinovaGen3.Params.Parameters

/-!
`load_preset_registry`: the registry of presets out of the node's parameters. Each listed name
declares a parameter of its own, so a name that is listed twice throws.
-/

namespace KinovaGen3

def radians (value : Rat) : Double := .finite value

/-- `defaults`, in the map's order. -/
def presetDefaults : List (String × List Double) :=
  [("home", [0, 262 / 1000, 3142 / 1000, -2269 / 1000, 0, 960 / 1000, 1571 / 1000].map radians),
    ("rest", [0, -349 / 1000, 3142 / 1000, -2356 / 1000, 0, -873 / 1000, 1571 / 1000].map radians)]

def presetParameter (n : String) : String := "presets." ++ n

/-- What the parameter of a preset is declared with. -/
def presetDefault (n : String) : List Double := (presetDefaults.lookup n).getD []

/-- The names to register: those listed, and the required ones that are missing. -/
def presetNames (listed : List String) : List String :=
  presetDefaults.foldl (fun names d => if d.1 ∈ names then names else names ++ [d.1]) listed

def registerPresets (params : Overrides) : List String → Registry → Startup Registry
  | [], reg => pure reg
  | n :: names, reg => do
    let q ← Startup.declare params.doubles (presetParameter n) (presetDefault n)
    registerPresets params names
      (if q.length = kNumJoints then Function.update reg n (some q) else reg)

def loadPresetRegistry (params : Overrides) : Startup Registry := do
  let listed ← Startup.declare params.strings "preset_names" ["home", "rest"]
  registerPresets params (presetNames listed) fun _ => none

/-! ### What the parameters say -/

def listedPresets (params : Overrides) : List String :=
  (params.strings "preset_names").getD ["home", "rest"]

def presetValue (params : Overrides) (n : String) : List Double :=
  (params.doubles (presetParameter n)).getD (presetDefault n)

/-- The presets that are listed or required and have a value of seven joints. -/
def configuredPresets (params : Overrides) : Registry := fun n =>
  if n ∈ listedPresets params ∨ n = "home" ∨ n = "rest" then
    if (presetValue params n).length = kNumJoints then some (presetValue params n) else none
  else none

theorem mem_presetNames {listed : List String} {n : String} :
    n ∈ presetNames listed ↔ n ∈ listed ∨ n = "home" ∨ n = "rest" := by
  have folded : ∀ (required : List (String × List Double)) (names : List String),
      n ∈ required.foldl (fun names d => if d.1 ∈ names then names else names ++ [d.1]) names ↔
        n ∈ names ∨ n ∈ required.map Prod.fst := by
    intro required
    induction required with
    | nil => simp
    | cons d required ih =>
      intro names
      rw [List.foldl_cons, ih, List.map_cons, List.mem_cons]
      split
      · rename_i listed
        constructor
        · rintro (member | member)
          · exact Or.inl member
          · exact Or.inr (Or.inr member)
        · rintro (member | rfl | member)
          · exact Or.inl member
          · exact Or.inl listed
          · exact Or.inr member
      · simp [or_assoc]
  rw [presetNames, folded]
  simp [presetDefaults]

theorem nodup_presetNames {listed : List String} : (presetNames listed).Nodup ↔ listed.Nodup := by
  have folded : ∀ (required : List (String × List Double)) (names : List String),
      (required.foldl (fun names d => if d.1 ∈ names then names else names ++ [d.1]) names).Nodup ↔
        names.Nodup := by
    intro required
    induction required with
    | nil => simp
    | cons d required ih =>
      intro names
      rw [List.foldl_cons, ih]
      split
      · exact Iff.rfl
      · rename_i missing
        constructor
        · intro nodup
          exact (List.nodup_append.mp nodup).1
        · intro nodup
          apply List.nodup_append.mpr
          refine ⟨nodup, List.nodup_singleton _, ?_⟩
          intro n member m last same
          rw [List.mem_singleton.mp last] at same
          exact missing (same ▸ member)
  exact folded presetDefaults listed

/-! ### Declaring the presets -/

theorem presetParameter_injective {n m : String} (same : presetParameter n = presetParameter m) : n = m :=
  (String.append_right_inj _).mp same

theorem presetParameter_ne (n : String) : presetParameter n ≠ "preset_names" := by
  intro same
  have letters := congrArg String.toList same
  simp [presetParameter] at letters

/-- The registry once `names` are registered. -/
def registered (params : Overrides) (names : List String) (reg : Registry) : Registry := fun n =>
  if n ∈ names ∧ (presetValue params n).length = kNumJoints then some (presetValue params n) else reg n

theorem registered_nil {params : Overrides} {reg : Registry} : registered params [] reg = reg := by
  funext n
  unfold registered
  rw [if_neg fun found => List.not_mem_nil found.1]

theorem registered_cons {params : Overrides} {n : String} {names : List String} {reg : Registry} :
    registered params names
        (if (presetValue params n).length = kNumJoints then
          Function.update reg n (some (presetValue params n)) else reg) =
      registered params (n :: names) reg := by
  funext m
  unfold registered
  by_cases later : m ∈ names ∧ (presetValue params m).length = kNumJoints
  · rw [if_pos later, if_pos ⟨List.mem_cons_of_mem _ later.1, later.2⟩]
  · rw [if_neg later]
    by_cases same : m = n
    · subst same
      by_cases wide : (presetValue params m).length = kNumJoints
      · rw [if_pos wide, if_pos ⟨List.mem_cons_self .., wide⟩, Function.update_self]
      · rw [if_neg wide, if_neg fun found => wide found.2]
    · have absent : ¬(m ∈ n :: names ∧ (presetValue params m).length = kNumJoints) := by
        intro ⟨member, wide⟩
        rcases List.mem_cons.mp member with here | member
        · exact same here
        · exact later ⟨member, wide⟩
      rw [if_neg absent]
      split
      · exact Function.update_of_ne same _ _
      · rfl

theorem declare_preset {params : Overrides} {n : String} {declared : List String}
    (fresh : presetParameter n ∉ declared) :
    Startup.declare params.doubles (presetParameter n) (presetDefault n) declared =
      .ok (presetValue params n, presetParameter n :: declared) :=
  Startup.declare_fresh fresh

theorem yields_registerPresets (params : Overrides) (names : List String) (reg : Registry) :
    Startup.Yields (registerPresets params names reg) (names.map presetParameter) True
      (registered params names reg) := by
  induction names generalizing reg with
  | nil =>
    rw [registered_nil]
    exact Startup.yields_pure reg
  | cons n names ih =>
    unfold registerPresets
    rw [← registered_cons]
    apply Startup.Yields.congr
    · exact Startup.yields_bind (Startup.yields_declare _ _ _) (ih _)
    · rfl
    · simp

/-- All that a registration which returns can have done. -/
theorem registerPresets_ok {params : Overrides} {names : List String} {reg result : Registry}
    {declared later : List String}
    (h : registerPresets params names reg declared = .ok (result, later)) :
    names.Nodup ∧ (∀ n ∈ names, presetParameter n ∉ declared) ∧ result = registered params names reg := by
  induction names generalizing reg declared with
  | nil =>
    have same : (reg, declared) = (result, later) := Except.ok.inj h
    refine ⟨List.nodup_nil, by simp, ?_⟩
    rw [registered_nil]
    exact (Prod.mk.inj same).1.symm
  | cons n names ih =>
    unfold registerPresets at h
    by_cases known : presetParameter n ∈ declared
    · rw [Startup.bind_of_error (Startup.declare_again known)] at h
      cases h
    · rw [Startup.bind_of_ok (declare_preset known)] at h
      obtain ⟨nodup, fresh, rfl⟩ := ih h
      refine ⟨List.nodup_cons.mpr ⟨?_, nodup⟩, ?_, registered_cons⟩
      · intro member
        exact fresh n member (List.mem_cons_self ..)
      · intro m member
        rcases List.mem_cons.mp member with rfl | member
        · exact known
        · exact fun before => fresh m member (List.mem_cons_of_mem _ before)

theorem registered_presetNames {params : Overrides} :
    registered params (presetNames (listedPresets params)) (fun _ => none) = configuredPresets params := by
  funext n
  unfold registered configuredPresets
  simp only [mem_presetNames]
  by_cases named : n ∈ listedPresets params ∨ n = "home" ∨ n = "rest"
  · rw [if_pos named]
    simp only [named, true_and]
  · rw [if_neg named, if_neg fun found => named found.1]

theorem declare_names {params : Overrides} {declared : List String} (fresh : "preset_names" ∉ declared) :
    Startup.declare params.strings "preset_names" ["home", "rest"] declared =
      .ok (listedPresets params, "preset_names" :: declared) :=
  Startup.declare_fresh fresh

/-- Whatever the node has declared before, a registry that is returned is the one configured. -/
theorem loadPresetRegistry_ok {params : Overrides} {declared later : List String} {reg : Registry}
    (h : loadPresetRegistry params declared = .ok (reg, later)) :
    (listedPresets params).Nodup ∧ reg = configuredPresets params := by
  unfold loadPresetRegistry at h
  by_cases known : "preset_names" ∈ declared
  · rw [Startup.bind_of_error (Startup.declare_again known)] at h
    cases h
  · rw [Startup.bind_of_ok (declare_names known)] at h
    obtain ⟨nodup, -, rfl⟩ := registerPresets_ok h
    exact ⟨nodup_presetNames.mp nodup, registered_presetNames⟩

theorem yields_loadPresetRegistry (params : Overrides) :
    Startup.Yields (loadPresetRegistry params)
      ("preset_names" :: (presetNames (listedPresets params)).map presetParameter) True
      (configuredPresets params) := by
  unfold loadPresetRegistry
  rw [← registered_presetNames]
  apply Startup.Yields.congr
  · exact Startup.yields_bind (Startup.yields_declare _ _ _) (yields_registerPresets params _ _)
  · rfl
  · simp

theorem loadPresetRegistry_of_nodup {params : Overrides} {declared : List String}
    (fresh : "preset_names" ∉ declared ∧ ∀ n, presetParameter n ∉ declared)
    (nodup : (listedPresets params).Nodup) :
    ∃ later, loadPresetRegistry params declared = .ok (configuredPresets params, later) := by
  refine ⟨_, (yields_loadPresetRegistry params).passes declared ⟨?_, ?_⟩ trivial⟩
  · apply List.nodup_cons.mpr
    constructor
    · intro member
      obtain ⟨n, -, same⟩ := List.mem_map.mp member
      exact presetParameter_ne n same
    · exact (nodup_presetNames.mpr nodup).map fun _ _ => presetParameter_injective
  · intro name member
    rcases List.mem_cons.mp member with rfl | member
    · exact fresh.1
    · obtain ⟨n, -, rfl⟩ := List.mem_map.mp member
      exact fresh.2 n

/-- The loader returns the configured registry exactly when no name is listed twice. -/
theorem loadPresetRegistry_exact (params : Overrides) (declared : List String)
    (fresh : "preset_names" ∉ declared ∧ ∀ n, presetParameter n ∉ declared) :
    (∃ later, loadPresetRegistry params declared = .ok (configuredPresets params, later)) ↔
      (listedPresets params).Nodup := by
  constructor
  · intro ⟨later, h⟩
    exact (loadPresetRegistry_ok h).1
  · exact loadPresetRegistry_of_nodup fresh

/-- An installation with a preset of its own and one that is too short. -/
def benchPresets : Overrides where
  strings name := if name = "preset_names" then some ["stow", "rest"] else none
  doubles name :=
    if name = "presets.stow" then some (List.replicate kNumJoints (radians 1))
    else if name = "presets.rest" then some [radians 1] else none

theorem loadPresetRegistry_exact_benchPresets :
    ∃ later, loadPresetRegistry benchPresets [] = .ok (configuredPresets benchPresets, later) :=
  (loadPresetRegistry_exact benchPresets [] ⟨by simp, by simp⟩).mpr (by decide)

/-- A list that names `home` twice declares its parameter twice, which nothing catches. -/
theorem home_twice_throws :
    loadPresetRegistry { strings := fun _ => some ["home", "home"] } [] =
      .error (.parameterAlreadyDeclared "presets.home") := by
  rfl

end KinovaGen3
