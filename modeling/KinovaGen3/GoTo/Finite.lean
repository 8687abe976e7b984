import KinovaGen3.GoTo.Presets
import KinovaGen3.GoTo.Targets

/-!
Which targets the planner is given. The servers of several targets and of a joint configuration
check every one of them; `GoToEEPoseServer` and the registry of presets do not.
-/

namespace KinovaGen3
open Interaction

/-! ### Poses -/

/-- The norm as `pose_rejection` computes it. -/
def Quaternion.norm (q : Quaternion) : Double :=
  ((((q.x.mul q.x).add (q.y.mul q.y)).add (q.z.mul q.z)).add (q.w.mul q.w)).sqrt

def Pose.values (p : Pose) : List Double :=
  [p.position.x, p.position.y, p.position.z, p.orientation.x, p.orientation.y, p.orientation.z,
    p.orientation.w]

/-- Every value is finite and the orientation is a unit quaternion within `1e-3`. -/
structure Pose.WellFormed (p : Pose) : Prop where
  finite : ∀ v ∈ p.values, v.isFinite = true
  unit : ∃ n : Rat, p.orientation.norm = .finite n ∧ |n - 1| < 1 / 1000

theorem Double.isFinite_iff {v : Double} : v.isFinite = true ↔ ∃ a, v = .finite a := by
  cases v <;> simp [isFinite]

theorem Double.near_one {norm : Double} :
    (norm.add (.finite (-1))).abs.lt (.finite (1 / 1000)) = true ↔
      ∃ n : Rat, norm = .finite n ∧ |n - 1| < 1 / 1000 := by
  cases norm with
  | finite n => simp [add, abs, lt, sub_eq_add_neg]
  | _ => simp [add, abs, lt]

theorem poseRejection_none {p : Pose} : poseRejection p = none ↔ p.WellFormed := by
  have finite : p.values.any (!·.isFinite) = true ↔ ¬ ∀ v ∈ p.values, v.isFinite = true := by simp
  have unit := @Double.near_one p.orientation.norm
  show (if p.values.any (!·.isFinite) = true then some "pose is not finite"
    else if (p.orientation.norm.add (.finite (-1))).abs.lt (.finite (1 / 1000)) = true then none
    else some ("pose orientation is not a unit quaternion (norm " ++ p.orientation.norm.toFixed ++ ")"))
    = none ↔ p.WellFormed
  constructor
  · intro passed
    split at passed
    · cases passed
    · rename_i all
      split at passed
      · rename_i near
        exact ⟨not_not.mp (mt finite.mpr all), unit.mp near⟩
      · cases passed
  · intro ⟨all, near⟩
    rw [if_neg fun found => finite.mp found all, if_pos (unit.mpr near)]

theorem Double.sqrt_bounds {a n : Rat} (nonneg : 0 ≤ a) (h : sqrt (.finite a) = .finite n) :
    0 ≤ n ∧ n ^ 2 ≤ a ∧ a < (n + 1 / 2 ^ 60) ^ 2 := by
  simp only [sqrt, if_neg (not_lt.mpr nonneg)] at h
  obtain rfl := Double.finite.inj h
  set m := ⌊a * 2 ^ 120⌋₊
  have below : (m : Rat) ≤ a * 2 ^ 120 := Nat.floor_le (by positivity)
  have above : a * 2 ^ 120 < m + 1 := Nat.lt_floor_add_one _
  have low : (Nat.sqrt m : Rat) ^ 2 ≤ m := by
    exact_mod_cast Nat.sqrt_le' m
  have high : (m : Rat) + 1 ≤ (Nat.sqrt m + 1 : Rat) ^ 2 := by
    exact_mod_cast Nat.lt_succ_sqrt' m
  refine ⟨by positivity, ?_, ?_⟩
  · rw [div_pow, div_le_iff₀ (by positivity)]
    calc (Nat.sqrt m : Rat) ^ 2 ≤ m := low
      _ ≤ a * 2 ^ 120 := below
      _ = a * (2 ^ 60) ^ 2 := by ring
  · rw [← add_div, div_pow, lt_div_iff₀ (by positivity)]
    calc a * (2 ^ 60) ^ 2 = a * (2 ^ 120 : Rat) := by ring
      _ < m + 1 := above
      _ ≤ (Nat.sqrt m + 1 : Rat) ^ 2 := high

/-- What the computed norm of an accepted pose says of the exact one. -/
theorem Pose.WellFormed.exact {p : Pose} (h : p.WellFormed) : ∃ x y z w : Rat,
    p.orientation = ⟨.finite x, .finite y, .finite z, .finite w⟩ ∧
      (999 / 1000) ^ 2 < x ^ 2 + y ^ 2 + z ^ 2 + w ^ 2 ∧
      x ^ 2 + y ^ 2 + z ^ 2 + w ^ 2 < (1001 / 1000 + 1 / 2 ^ 60) ^ 2 := by
  obtain ⟨x, hx⟩ := Double.isFinite_iff.mp (h.finite p.orientation.x (by simp [Pose.values]))
  obtain ⟨y, hy⟩ := Double.isFinite_iff.mp (h.finite p.orientation.y (by simp [Pose.values]))
  obtain ⟨z, hz⟩ := Double.isFinite_iff.mp (h.finite p.orientation.z (by simp [Pose.values]))
  obtain ⟨w, hw⟩ := Double.isFinite_iff.mp (h.finite p.orientation.w (by simp [Pose.values]))
  obtain ⟨n, norm, near⟩ := h.unit
  simp only [Quaternion.norm, hx, hy, hz, hw, Double.mul, Double.add] at norm
  obtain ⟨nonneg, low, high⟩ := Double.sqrt_bounds (by nlinarith) norm
  obtain ⟨above, below⟩ := abs_lt.mp near
  have eq : x ^ 2 + y ^ 2 + z ^ 2 + w ^ 2 = x * x + y * y + z * z + w * w := by ring
  refine ⟨x, y, z, w, ?_, ?_, ?_⟩
  · rw [← hx, ← hy, ← hz, ← hw]
  · calc ((999 : Rat) / 1000) ^ 2 < n ^ 2 := by
          apply pow_lt_pow_left₀ <;> linarith
      _ ≤ _ := low
      _ = _ := eq.symm
  · calc _ = _ := eq
      _ < (n + 1 / 2 ^ 60) ^ 2 := high
      _ < (1001 / 1000 + 1 / 2 ^ 60) ^ 2 := by
          apply pow_lt_pow_left₀ <;> linarith

/-! ### Targets -/

/-- What is planned to is finite, and a pose's orientation a unit quaternion. -/
def PlannerGoal.FiniteTarget : PlannerGoal → Prop
  | planToPose target _ _ => target.WellFormed
  | planToJoints target _ => ∀ v ∈ target, v.isFinite = true
  | blend .. => True

/-- No execution, whatever the planner and the arm answer, asks for a target that is not finite. -/
def FiniteTargets (p : Planning Outcome) : Prop :=
  ∀ trace o, Runs p trace o → ∀ asked ∈ sent trace, asked.1.FiniteTarget

def defaultAnswers : Env PlanRequest.Answer := fun _ q =>
  match q with
  | .queryState => ({} : ArmState)
  | .planner .. => .unavailable
  | .tracked => false
  | .isCanceling => false

theorem finiteTargets_single {goal : List Double → PlannerGoal} {name : String} {fine : Prop}
    (same : ∀ start, (goal start).FiniteTarget ↔ fine) :
    FiniteTargets (startConfig.bind fun start => CuroboPlanClient.dispatchPlan (goal start) name) ↔
      fine := by
  have asks : ∀ trace o,
      Runs (startConfig.bind fun start => CuroboPlanClient.dispatchPlan (goal start) name) trace o →
        ∃ start, sent trace = [(goal start, o)] := by
    intro trace o h
    obtain ⟨front, start, back, rfl, asked, rest⟩ := runs_bind.mp h
    obtain ⟨s, rfl, rfl⟩ := runs_startConfig asked
    exact ⟨_, (sent_append _ _).trans (sent_dispatchPlan rest)⟩
  constructor
  · intro all
    have h := runs_run defaultAnswers
      (startConfig.bind fun start => CuroboPlanClient.dispatchPlan (goal start) name) []
    obtain ⟨start, once⟩ := asks _ _ h
    apply (same start).mp
    apply all _ _ h (goal start, _)
    rw [once]
    exact List.mem_singleton_self _
  · intro holds trace o h asked member
    obtain ⟨start, once⟩ := asks _ _ h
    rw [once] at member
    rw [List.mem_singleton.mp member]
    exact (same start).mpr holds

/-- A chain sends the planner nothing but its legs and their blend. -/
theorem sent_planLegs {c : LegChain PlanRequest.Answer Outcome} {leg : Nat → List Double → PlannerGoal}
    {blend : List JointTrajectory → PlannerGoal} (sends : SendsLegs c leg blend) (some_leg : 0 < c.n)
    {trace : PlanTrace} {o : Outcome} (h : Runs (startConfig.bind fun start => planLegs c start) trace o)
    {asked : PlannerGoal × Outcome} (member : asked ∈ sent trace) :
    (∃ k start, k < c.n ∧ asked.1 = leg k start) ∨ ∃ legs, asked.1 = blend legs := by
  obtain ⟨front, start, back, rfl, first, rest⟩ := runs_bind.mp h
  obtain ⟨s, rfl, rfl⟩ := runs_startConfig first
  obtain ⟨events, steps, played⟩ := steps_of_execution (LegChain.execution_of_runs rest)
  have goals : sent ([⟨.queryState, s⟩] ++ back) = events.filterMap (sentEvent? leg blend) :=
    (sent_append _ _).trans (sent_played sends played).1
  rw [goals] at member
  obtain ⟨event, within, shown⟩ := List.mem_filterMap.mp member
  rcases event with ⟨_ | ⟨k, from_, name⟩ | ⟨legs, name⟩ | _, answer⟩
  · cases shown
  · cases shown
    have inside := steps_bounded steps some_leg ⟨k, from_, answer⟩
      (List.mem_filterMap.mpr ⟨_, within, rfl⟩)
    exact Or.inl ⟨k, from_, inside, rfl⟩
  · cases shown
    exact Or.inr ⟨legs, rfl⟩
  · cases shown

theorem finiteTargets_planLegs {c : LegChain PlanRequest.Answer Outcome}
    {leg : Nat → List Double → PlannerGoal} {ts : List LegTarget}
    (sends : SendsLegs c leg (blendGoal ts)) (some_leg : 0 < c.n)
    (legs : ∀ k start, k < c.n → (leg k start).FiniteTarget) :
    FiniteTargets (startConfig.bind fun start => planLegs c start) := by
  intro trace o h asked member
  rcases sent_planLegs sends some_leg h member with ⟨k, start, inside, goal⟩ | ⟨parts, goal⟩
  · rw [goal]
    exact legs k start inside
  · rw [goal]
    trivial

/-! ### What each server checks -/

theorem targetJointsRejection_none {what : String} {q : JointVec}
    (fine : targetJointsRejection what q = none) : ∀ v ∈ List.ofFn q, v.isFinite = true := by
  intro v member
  obtain ⟨i, rfl⟩ := List.mem_ofFn.mp member
  have checked := List.findSome?_eq_none_iff.mp fine i (List.mem_finRange i)
  by_contra bad
  rw [if_neg bad] at checked
  cases checked

/-! ### Every server -/

/-- The targets that no server checks are as they should be: the pose of `go_to_ee_pose`, and the
joints configured for a preset. -/
def MoveGoal.UncheckedFinite (params : Overrides) : MoveGoal → Prop
  | eePose g => g.target.pose.WellFormed
  | preset g => ∀ v ∈ presetValue params g.presetName, v.isFinite = true
  | _ => True

theorem configuredPresets_some {params : Overrides} {n : String} {q : List Double}
    (found : configuredPresets params n = some q) : q = presetValue params n := by
  unfold configuredPresets at found
  split at found
  · split at found
    · exact (Option.some.inj found).symm
    · cases found
  · cases found

/-- The planner of an accepted goal is given finite targets alone just when the pose of a
`go_to_ee_pose` goal is well formed and the value of a preset finite. -/
theorem accepted_targets_finite (params : Overrides) (declared later : List String) (node : Node)
    (sink : Option SinkState) (goal : MoveGoal)
    (loaded : loadPresetRegistry params declared = .ok (node.presets, later))
    (accepted : PlannedMoveServer.handleGoal node sink goal = .accept) :
    ∃ p, startPlan node goal = some p ∧ (FiniteTargets p ↔ goal.UncheckedFinite params) := by
  have fine := (PlannedMoveServer.handleGoal_accept accepted).2
  have presets := (loadPresetRegistry_ok loaded).2
  cases goal with
  | eePose g =>
    refine ⟨_, rfl, ?_⟩
    simp only [validate, GoToEEPoseServer.validate, Option.or_eq_none_iff] at fine
    obtain ⟨mode, known⟩ := orientationHoldRejection_none fine.2.2
    unfold GoToEEPoseServer.startPlan
    simp only [CuroboPlanClient.plan, known]
    apply finiteTargets_single
    intro start
    exact Iff.rfl
  | jointConfig g =>
    refine ⟨_, rfl, ?_⟩
    simp only [validate, GoToJointConfigServer.validate, Option.or_eq_none_iff] at fine
    apply finiteTargets_single
    intro start
    exact iff_true_intro (targetJointsRejection_none fine.2)
  | preset g =>
    simp only [validate, GoToPresetServer.validate, Option.or_eq_none_iff] at fine
    have known : (node.presets g.presetName).isSome := by
      by_contra unknown
      rw [if_neg unknown] at fine
      cases fine.2
    obtain ⟨q, found⟩ := Option.isSome_iff_exists.mp known
    refine ⟨_, congrArg (Option.map _) found, ?_⟩
    rw [presets] at found
    rw [configuredPresets_some found]
    apply finiteTargets_single
    intro start
    exact Iff.rfl
  | eePoses g =>
    refine ⟨_, rfl, iff_true_intro ?_⟩
    apply finiteTargets_planLegs (GoToEEPosesServer.sendsLegs fine)
    · exact validate_some_target fine
    · intro k start inside
      have checked := target_checked fine inside
      simp only [GoToEEPosesServer.targetRejection, Option.or_eq_none_iff, Option.map_eq_none_iff]
        at checked
      rw [List.getD_map, List.getD_eq_getElem _ _ inside]
      exact poseRejection_none.mp checked.2.1
  | jointConfigs g =>
    refine ⟨_, rfl, iff_true_intro ?_⟩
    apply finiteTargets_planLegs (GoToJointConfigsServer.sendsLegs g)
    · exact validate_some_target fine
    · intro k start inside
      have checked := target_checked fine inside
      simp only [GoToJointConfigsServer.targetRejection, Option.or_eq_none_iff] at checked
      rw [List.getD_map, List.getD_eq_getElem _ _ inside]
      exact targetJointsRejection_none checked.1

/-- A node started with the presets `params` configures. -/
def benchPresetNode (params : Overrides) : Node := { benchNode with presets := configuredPresets params }

def benchSink : SinkState := ⟨{ stampS := .finite 1 }, {}⟩

/-- The frame and the hold are checked, the position is not. -/
def benchNanPose : GoToEEPose.Goal where
  target := { frameId := "arm_mount", pose := { position := { x := .nan } } }

/-- `rest` overridden with joints that are not numbers. -/
def benchNanRest : Overrides where
  doubles name := if name = "presets.rest" then some (List.replicate kNumJoints .nan) else none

theorem benchPresets_loaded (params : Overrides) (nodup : (listedPresets params).Nodup) :
    ∃ later, loadPresetRegistry params [] = .ok ((benchPresetNode params).presets, later) :=
  loadPresetRegistry_of_nodup ⟨by simp, by simp⟩ nodup

theorem accepted_targets_finite_home : ∃ p,
    startPlan (benchPresetNode {}) (.preset { presetName := "home" }) = some p ∧ FiniteTargets p := by
  obtain ⟨later, loaded⟩ := benchPresets_loaded {} (by decide)
  obtain ⟨p, started, finite⟩ := accepted_targets_finite {} [] later (benchPresetNode {}) (some benchSink)
    (.preset { presetName := "home" }) loaded (by decide +kernel)
  have home : ∀ v ∈ presetValue {} "home", v.isFinite = true := by decide
  exact ⟨p, started, finite.mpr home⟩

/-- A position that is not a number goes to the planner, and so does a preset's joint. -/
theorem nan_targets_planned :
    ¬ (∀ (params : Overrides) (declared later : List String) (node : Node) (sink : Option SinkState)
        (goal : GoToEEPose.Goal), loadPresetRegistry params declared = .ok (node.presets, later) →
      PlannedMoveServer.handleGoal node sink (.eePose goal) = .accept →
      ∀ p, startPlan node (.eePose goal) = some p → FiniteTargets p) ∧
    ¬ (∀ (params : Overrides) (declared later : List String) (node : Node) (sink : Option SinkState)
        (goal : GoToPreset.Goal), loadPresetRegistry params declared = .ok (node.presets, later) →
      PlannedMoveServer.handleGoal node sink (.preset goal) = .accept →
      ∀ p, startPlan node (.preset goal) = some p → FiniteTargets p) := by
  constructor
  · intro plansFinite
    obtain ⟨later, loaded⟩ := benchPresets_loaded {} (by decide)
    have all := plansFinite {} [] later _ (some benchSink) benchNanPose loaded (by decide +kernel) _ rfl
    have fine : benchNanPose.target.pose.WellFormed :=
      (@finiteTargets_single (fun start => .planToPose benchNanPose.target.pose start .none) "" _
        fun _ => Iff.rfl).mp all
    exact absurd (fine.finite .nan (List.mem_cons_self ..)) (by decide)
  · intro plansFinite
    obtain ⟨later, loaded⟩ := benchPresets_loaded benchNanRest (by decide)
    have all := plansFinite benchNanRest [] later _ (some benchSink) { presetName := "rest" } loaded
      (by decide +kernel) _ rfl
    have fine : ∀ v ∈ presetValue benchNanRest "rest", v.isFinite = true :=
      (@finiteTargets_single (fun start => .planToJoints (presetValue benchNanRest "rest") start) "" _
        fun _ => Iff.rfl).mp all
    exact absurd (fine .nan (by decide)) (by decide)

end KinovaGen3
