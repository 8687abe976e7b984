import KinovaGen3.GoTo.Targets
import KinovaGen3.Library.OrderedLog

/-!
The prefixes under which a goal's planner feedback is relayed. A chain names its legs and its blend;
the plan of a goal with one target has no name.
-/

namespace KinovaGen3
open Interaction OrderedLog

def chainPrefixes (n : Nat) : List String := (List.range n).map (legName · n) ++ ["blend: "]

/-- One for each plan that a goal asks for. -/
def MoveGoal.feedbackPrefixes : MoveGoal → List String
  | .eePoses g => chainPrefixes g.targets.length
  | .jointConfigs g => chainPrefixes g.targets.length
  | _ => [""]

def feedbackPrefix? : PlanRequest → Option String
  | .planner _ feedbackPrefix => some feedbackPrefix
  | _ => none

/-- The plans from the `k`-th on are asked for under their own prefixes. -/
abbrev SendsUnder (prefixes : List String) (k : Nat) (p : Planning Outcome) : Prop :=
  p.Labelled feedbackPrefix? prefixes k

/-! ### The prefixes of a chain -/

theorem chainPrefixes_leg {n k : Nat} (inside : k < n) :
    (chainPrefixes n)[k]? = some (legName k n) := by
  rw [chainPrefixes, List.getElem?_append_left (by simpa using inside)]
  simp [inside]

theorem chainPrefixes_blend (n : Nat) : (chainPrefixes n)[n]? = some "blend: " := by
  simp [chainPrefixes]

theorem chainPrefixes_cases {n k : Nat} {name : String} (named : (chainPrefixes n)[k]? = some name) :
    k < n ∧ name = legName k n ∨ k = n ∧ name = "blend: " := by
  have inside := (List.getElem?_eq_some_iff.mp named).1
  simp only [chainPrefixes, List.length_append, List.length_map, List.length_range,
    List.length_singleton] at inside
  rcases Nat.lt_or_ge k n with leg | blend
  · rw [chainPrefixes_leg leg] at named
    exact Or.inl ⟨leg, (Option.some.inj named).symm⟩
  · obtain rfl : k = n := by omega
    rw [chainPrefixes_blend] at named
    exact Or.inr ⟨rfl, (Option.some.inj named).symm⟩

theorem slash_not_mem (n : Nat) : ∀ c ∈ (toString n).toList, c ≠ '/' := by
  intro c member
  rw [Nat.toString_eq_repr, Nat.toList_repr] at member
  have digit := Nat.isDigit_of_mem_toDigits (by decide) (by decide) member
  rintro rfl
  cases digit

theorem toString_nat_injective {m n : Nat} (same : (toString m).toList = (toString n).toList) :
    m = n := by
  simp only [Nat.toString_eq_repr, Nat.toList_repr] at same
  have read := congrArg (Nat.ofDigitChars 10 · 0) same
  simpa only [Nat.ofDigitChars_ten_toDigits] using read

/-- The number of a leg ends at the slash. -/
theorem legName_number (k n : Nat) (rest : String) :
    (legName k n ++ rest).toList.takeWhile (· ≠ '/') =
      "leg ".toList ++ (toString (k + 1)).toList := by
  have split : (legName k n ++ rest).toList =
      ("leg ".toList ++ (toString (k + 1)).toList) ++
        '/' :: ((toString n).toList ++ (": ".toList ++ rest.toList)) := by
    simp [legName]
  rw [split, List.takeWhile_append_of_pos]
  · simp
  · intro c member
    rcases List.mem_append.mp member with front | digit
    · have letters : "leg ".toList = ['l', 'e', 'g', ' '] := rfl
      have plain : c ≠ '/' := by
        rintro rfl
        rw [letters] at front
        simp at front
      simpa using plain
    · simpa using slash_not_mem _ c digit

theorem legName_ne_blend (k n : Nat) (rest rest' : String) :
    legName k n ++ rest ≠ "blend: " ++ rest' := by
  intro same
  have first := congrArg (fun text : String => text.toList.head?) same
  simp [legName] at first

theorem selfDelimiting_chainPrefixes (n : Nat) : SelfDelimiting (chainPrefixes n) := by
  intro text j k ⟨name, rest, named, begins⟩ ⟨name', rest', named', begins'⟩
  have same : name ++ rest = name' ++ rest' := begins.symm.trans begins'
  rcases chainPrefixes_cases named with ⟨-, rfl⟩ | ⟨last, rfl⟩
  · rcases chainPrefixes_cases named' with ⟨-, rfl⟩ | ⟨-, rfl⟩
    · have numbers := congrArg (fun text : String => text.toList.takeWhile (· ≠ '/')) same
      simp only [legName_number, List.append_cancel_left_eq] at numbers
      have := toString_nat_injective numbers
      omega
    · exact (legName_ne_blend _ _ _ _ same).elim
  · rcases chainPrefixes_cases named' with ⟨-, rfl⟩ | ⟨last', -⟩
    · exact (legName_ne_blend _ _ _ _ same.symm).elim
    · exact last.trans last'.symm

/-! ### What each plan is asked for under -/

/-- A call that asks for one plan under the given prefix, or fails before it asks for any. -/
def Dispatches (feedbackPrefix : String) (p : Planning Outcome) : Prop :=
  (∃ goal, p = CuroboPlanClient.dispatchPlan goal feedbackPrefix) ∨ ∃ o, p = .done o ∧ o.ok = false

/-- A chain whose callbacks each ask for one plan. -/
structure PlansUnder (c : LegChain PlanRequest.Answer Outcome) : Prop where
  leg : ∀ k start name, Dispatches name (c.planLeg k start name)
  blend : ∀ legs name, Dispatches name (c.blend legs name)
  canceling : c.canceling = canceling
  onDone : c.onDone = .done

section
variable {prefixes : List String} {k : Nat}

theorem sendsUnder_planner {goal : PlannerGoal} {name : String}
    {next : PlannerReply → Planning Outcome} :
    SendsUnder prefixes k (.ask (.planner goal name) next) ↔
      prefixes[k]? = some name ∧ ∀ reply, SendsUnder prefixes (k + 1) (next reply) :=
  @labelled_ask_some _ PlanRequest.Answer _ _ feedbackPrefix? prefixes k (.planner goal name) next name rfl

theorem sendsUnder_other {q : PlanRequest} {next : q.Answer → Planning Outcome}
    (other : feedbackPrefix? q = none) :
    SendsUnder prefixes k (.ask q next) ↔ ∀ answer, SendsUnder prefixes k (next answer) :=
  labelled_ask_none other

theorem sendsUnder_done (o : Outcome) : SendsUnder prefixes k (.done o) := labelled_done o

theorem sendsUnder_dispatches {name : String} {p : Planning Outcome}
    {rest : Outcome → Planning Outcome} (dispatches : Dispatches name p)
    (named : prefixes[k]? = some name) (failed : ∀ o, o.ok = false → ∃ o', rest o = .done o')
    (later : ∀ o, SendsUnder prefixes (k + 1) (rest o)) : SendsUnder prefixes k (p.bind rest) := by
  rcases dispatches with ⟨goal, rfl⟩ | ⟨o, rfl, bad⟩
  · exact sendsUnder_planner.mpr ⟨named, fun _ => later _⟩
  · obtain ⟨o', ends⟩ := failed o bad
    rw [Prog.bind, ends]
    exact sendsUnder_done _

theorem sendsUnder_startConfig {rest : List Double → Planning Outcome}
    (later : ∀ start, SendsUnder prefixes k (rest start)) :
    SendsUnder prefixes k (startConfig.bind rest) :=
  (sendsUnder_other rfl).mpr fun _ => later _

variable {c : LegChain PlanRequest.Answer Outcome}

theorem sendsUnder_stopIfCanceled (plans : PlansUnder c) {rest : Planning Outcome}
    (later : SendsUnder prefixes k rest) : SendsUnder prefixes k (c.stopIfCanceled rest) := by
  rw [LegChain.stopIfCanceled, plans.canceling, plans.onDone]
  refine (sendsUnder_other rfl).mpr fun found => ?_
  cases found with
  | false => exact sendsUnder_done _
  | true =>
    refine (sendsUnder_other rfl).mpr fun canceled => ?_
    cases canceled with
    | false => exact later
    | true => exact sendsUnder_done _

/-- A chain asks for leg `k` and the plans after it under their own prefixes. -/
theorem sendsUnder_legFrom (plans : PlansUnder c) {start : List Double} {legs : List JointTrajectory}
    (inside : k < c.n) : SendsUnder (chainPrefixes c.n) k (c.legFrom k start legs) := by
  -- The legs still to plan decrease.
  induction left : c.n - k using Nat.strongRecOn generalizing k start legs with
  | ind left ih =>
    rw [LegChain.legFrom]
    apply sendsUnder_stopIfCanceled plans
    apply sendsUnder_dispatches (plans.leg k start _) (chainPrefixes_leg inside)
    · intro o bad
      refine ⟨{ o with message := legName k c.n ++ o.message }, ?_⟩
      simp [LegChain.checkEmpty, bad, plans.onDone]
    · intro o
      dsimp only
      split
      · rw [plans.onDone]
        exact sendsUnder_done _
      · split
        · exact ih _ (by omega) (by omega) rfl
        · have last : c.n = k + 1 := by omega
          apply sendsUnder_stopIfCanceled plans
          have named : (chainPrefixes c.n)[k + 1]? = some "blend: " := last ▸ chainPrefixes_blend c.n
          refine sendsUnder_dispatches (plans.blend _ _) named ?_ ?_
          all_goals intro b
          · exact fun _ => ⟨_, congrFun plans.onDone _⟩
          · rw [plans.onDone]
            exact sendsUnder_done _

end

/-! ### Every goal -/

theorem dispatches_plan {target : Pose} {start : List Double} {hold : UInt8} {name : String} :
    Dispatches name (CuroboPlanClient.plan target start hold name) := by
  unfold CuroboPlanClient.plan
  split
  · exact Or.inl ⟨_, rfl⟩
  · exact Or.inr ⟨_, rfl, rfl⟩

theorem dispatches_blend {legs : List JointTrajectory} {radii scales : List Double}
    {holds : List UInt8} {orientations : List Quaternion} {name : String} :
    Dispatches name (CuroboPlanClient.blend legs radii scales holds orientations name) := by
  unfold CuroboPlanClient.blend
  split
  · exact Or.inl ⟨_, rfl⟩
  · exact Or.inr ⟨_, rfl, rfl⟩

theorem dispatches_alone {name : String} {p : Planning Outcome} (dispatches : Dispatches name p) :
    SendsUnder [name] 0 p := by
  rcases dispatches with ⟨goal, rfl⟩ | ⟨o, rfl, -⟩
  · exact sendsUnder_planner.mpr ⟨rfl, fun _ => sendsUnder_done _⟩
  · exact sendsUnder_done _

theorem sendsUnder_planLegs {c : LegChain PlanRequest.Answer Outcome} (plans : PlansUnder c)
    (some_leg : 1 ≤ c.n) :
    SendsUnder (chainPrefixes c.n) 0 (startConfig.bind fun start => planLegs c start) :=
  sendsUnder_startConfig fun _ => sendsUnder_legFrom plans some_leg

/-- The plans of an accepted goal are asked for under the goal's prefixes, in their order. -/
theorem sendsUnder_startPlan {node : Node} {goal : MoveGoal} {p : Planning Outcome}
    (valid : validate node goal = none) (started : startPlan node goal = some p) :
    SendsUnder goal.feedbackPrefixes 0 p := by
  cases goal with
  | eePose g =>
    cases started
    exact sendsUnder_startConfig fun _ => dispatches_alone dispatches_plan
  | jointConfig g =>
    cases started
    exact sendsUnder_startConfig fun _ => dispatches_alone (Or.inl ⟨_, rfl⟩)
  | preset g =>
    obtain ⟨q, -, rfl⟩ := Option.map_eq_some_iff.mp started
    exact sendsUnder_startConfig fun _ => dispatches_alone (Or.inl ⟨_, rfl⟩)
  | eePoses g =>
    cases started
    have plans : PlansUnder (GoToEEPosesServer.legChain g) :=
      ⟨fun _ _ _ => dispatches_plan, fun _ _ => dispatches_blend, rfl, rfl⟩
    have some_target : 1 ≤ g.targets.length := validate_some_target valid
    have sends := sendsUnder_planLegs plans some_target
    exact sends
  | jointConfigs g =>
    cases started
    have plans : PlansUnder (GoToJointConfigsServer.legChain g) :=
      ⟨fun _ _ _ => Or.inl ⟨_, rfl⟩, fun _ _ => Or.inl ⟨_, rfl⟩, rfl, rfl⟩
    have some_target : 1 ≤ g.targets.length := validate_some_target valid
    have sends := sendsUnder_planLegs plans some_target
    exact sends

end KinovaGen3
