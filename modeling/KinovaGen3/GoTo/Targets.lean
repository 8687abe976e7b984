import Mathlib.Data.List.GetD
import KinovaGen3.GoTo.StartJoints

/-!
The targets of a goal with several of them. Each target's fields reach the plan of its own leg and
its own place in the blend, whose radii are those of the junctions between the legs.
-/

namespace KinovaGen3
open Interaction

/-! ### The arrays of the blend -/

section
variable {T : Type} [Inhabited T] {speedScale blendRadius : T → Double}
  {hold : T → Option (UInt8 × Quaternion)} {targets : List T}

/-- The arrays once the loop has read `m` targets. -/
theorem blendArrays_take (m : Nat) (inside : m ≤ targets.length) :
    (List.range m).foldl (fun (acc : BlendArrays) k =>
      let t := targets.getD k default
      { scales := acc.scales ++ [speedScale t]
        holds := acc.holds ++ ((hold t).map Prod.fst).toList
        orientations := acc.orientations ++ ((hold t).map Prod.snd).toList
        radii := if k + 1 < targets.length then acc.radii ++ [blendRadius t] else acc.radii }) {} =
    { scales := (targets.take m).map speedScale
      radii := (targets.dropLast.take m).map blendRadius
      holds := ((targets.take m).filterMap hold).map Prod.fst
      orientations := ((targets.take m).filterMap hold).map Prod.snd } := by
  induction m with
  | zero => simp
  | succ m ih =>
    have here : m < targets.length := by omega
    have read : targets.getD m default = targets[m] := by simp [here]
    have front : targets.take (m + 1) = targets.take m ++ [targets[m]] := by simp
    rw [List.range_succ, List.foldl_append, ih (by omega)]
    simp only [List.foldl_cons, List.foldl_nil, read, front, List.map_append, List.filterMap_append]
    by_cases junction : m + 1 < targets.length
    · have radius : targets.dropLast.take (m + 1) = targets.dropLast.take m ++ [targets[m]] := by
        rw [List.take_add_one, List.getElem?_eq_getElem (by simp; omega), List.getElem_dropLast]
        rfl
      cases held : hold targets[m] <;> simp [junction, radius, held]
    · have radius : targets.dropLast.take (m + 1) = targets.dropLast.take m := by
        rw [List.take_of_length_le (by simp; omega), List.take_of_length_le (by simp; omega)]
      cases held : hold targets[m] <;> simp [junction, radius, held]

theorem blendArrays_eq : blendArrays speedScale blendRadius hold targets =
    { scales := targets.map speedScale
      radii := targets.dropLast.map blendRadius
      holds := (targets.filterMap hold).map Prod.fst
      orientations := (targets.filterMap hold).map Prod.snd } := by
  unfold blendArrays
  rw [blendArrays_take targets.length (le_refl _)]
  simp

end

/-! ### What the planner is asked -/

/-- A goal sent to the planner, with the outcome its reply becomes. -/
def sent? : Exchange PlanRequest.Answer → Option (PlannerGoal × Outcome)
  | ⟨.planner goal _, reply⟩ => some (goal, reply.outcome goal)
  | _ => none

def sent (trace : PlanTrace) : List (PlannerGoal × Outcome) := trace.filterMap sent?

/-- An answer that tells the chain that its goal is canceled. -/
def cancels : Exchange PlanRequest.Answer → Bool
  | ⟨.tracked, found⟩ => !found
  | ⟨.isCanceling, canceled⟩ => canceled
  | _ => false

@[simp] theorem sent_append (front back : PlanTrace) : sent (front ++ back) = sent front ++ sent back :=
  List.filterMap_append

theorem sent_dispatchPlan {goal : PlannerGoal} {name : String} {trace : PlanTrace} {o : Outcome}
    (h : Runs (CuroboPlanClient.dispatchPlan goal name) trace o) : sent trace = [(goal, o)] := by
  obtain ⟨reply, rfl, rfl⟩ := CuroboPlanClient.runs_dispatchPlan.mp h
  rfl

theorem sent_canceling {trace : PlanTrace} {canceled : Bool} (h : Runs canceling trace canceled) :
    sent trace = [] ∧ (canceled = true → ∃ e ∈ trace, cancels e = true) := by
  obtain ⟨front, found, back, rfl, asked, rest⟩ := runs_bind.mp h
  rw [runs_request.mp asked]
  cases found with
  | true =>
    rw [runs_request.mp rest]
    refine ⟨rfl, ?_⟩
    rintro rfl
    exact ⟨⟨.isCanceling, true⟩, by simp, rfl⟩
  | false =>
    obtain ⟨rfl, rfl⟩ := runs_done.mp rest
    exact ⟨rfl, fun _ => ⟨⟨.tracked, false⟩, by simp, rfl⟩⟩

/-- A chain whose callbacks send the planner one goal for each leg and one for the blend. -/
structure SendsLegs (c : LegChain PlanRequest.Answer Outcome) (leg : Nat → List Double → PlannerGoal)
    (blend : List JointTrajectory → PlannerGoal) : Prop where
  leg : ∀ k start name part o, Runs (c.planLeg k start name) part o → sent part = [(leg k start, o)]
  blend : ∀ legs name part b, Runs (c.blend legs name) part b → sent part = [(blend legs, b)]
  canceling : c.canceling = canceling
  onDone : c.onDone = .done

open ChainEvent

def sentEvent? (leg : Nat → List Double → PlannerGoal) (blend : List JointTrajectory → PlannerGoal) :
    ChainEvent → Option (PlannerGoal × Outcome)
  | ⟨.planLeg k start _, o⟩ => some (leg k start, o)
  | ⟨.blend legs _, b⟩ => some (blend legs, b)
  | _ => none

section
variable {c : LegChain PlanRequest.Answer Outcome} {leg : Nat → List Double → PlannerGoal}
  {blend : List JointTrajectory → PlannerGoal}

theorem sent_played (fine : SendsLegs c leg blend) {events : List ChainEvent} {trace : PlanTrace}
    {o : Outcome} (h : Played c events trace o) :
    sent trace = events.filterMap (sentEvent? leg blend) ∧ events.filterMap done? = [o] ∧
      (check true ∈ events → ∃ e ∈ trace, cancels e = true) := by
  induction h with
  | ended last =>
    rw [fine.onDone] at last
    obtain ⟨rfl, rfl⟩ := runs_done.mp last
    exact ⟨rfl, rfl, by simp [check]⟩
  | @event e part rest tail o plays later ih =>
    obtain ⟨asked, ended, seen⟩ := ih
    have later : check true ∈ rest → ∃ e ∈ part ++ tail, cancels e = true := by
      intro member
      obtain ⟨e, within, cancels⟩ := seen member
      exact ⟨e, List.mem_append_right _ within, cancels⟩
    rw [sent_append, asked]
    cases plays with
    | @canceling _ b check =>
      rw [fine.canceling] at check
      obtain ⟨quiet, tells⟩ := sent_canceling check
      refine ⟨by rw [quiet]; rfl, ended, fun member => ?_⟩
      rcases List.mem_cons.mp member with first | member
      · have canceled : b = true := by simpa [ChainEvent.check] using first.symm
        obtain ⟨e, within, cancels⟩ := tells canceled
        exact ⟨e, List.mem_append_left _ within, cancels⟩
      · exact later member
    | planLeg planned =>
      rw [fine.leg _ _ _ _ _ planned]
      exact ⟨rfl, ended, fun member => later (by simpa [check] using member)⟩
    | blend joined =>
      rw [fine.blend _ _ _ _ joined]
      exact ⟨rfl, ended, fun member => later (by simpa [check] using member)⟩

end

/-- A chain whose legs all succeed plans each leg once and in order, and then asks for their blend
unless it finds the goal canceled. -/
theorem steps_complete {n k : Nat} {start : List Double} {legs : List JointTrajectory}
    {events : List ChainEvent} (leg : Nat → List Double → PlannerGoal)
    (blend : List JointTrajectory → PlannerGoal) (h : Steps n k start legs events)
    (succeed : ∀ l ∈ events.filterMap leg?, l.answer.Planned) (inside : k < n) :
    ∃ m rest, (events.filterMap leg?).map (·.k) = List.range' k m ∧ k + m ≤ n ∧
      events.filterMap (sentEvent? leg blend) =
        (events.filterMap leg?).map (fun l => (leg l.k l.start, l.answer)) ++ rest ∧
      (check true ∈ events ∧ rest = [] ∨ k + m = n ∧
        ∃ b, rest = [(blend (legs ++ (events.filterMap leg?).map (·.answer.trajectory)), b)] ∧
          events.filterMap done? = [blendOutcome b]) := by
  induction h with
  | canceled => exact ⟨0, [], rfl, by omega, rfl, Or.inl ⟨List.mem_cons_self .., rfl⟩⟩
  | legFailed failed => exact absurd (succeed _ (List.mem_cons_self ..)) failed
  | canceledBeforeBlend planned final =>
    exact ⟨1, [], rfl, by omega, rfl, Or.inl ⟨by simp, rfl⟩⟩
  | @nextLeg k legs rest start o planned more later ih =>
    obtain ⟨m, tail, indices, within, asked, ends⟩ :=
      ih (fun l member => succeed l (List.mem_cons_of_mem _ member)) more
    refine ⟨m + 1, tail, ?_, by omega, congrArg ((leg k start, o) :: ·) asked, ?_⟩
    · rw [List.range'_succ]
      exact congrArg (k :: ·) indices
    · rcases ends with ⟨canceled, none⟩ | ⟨all, b, blended, ended⟩
      · exact Or.inl ⟨by simp [canceled], none⟩
      · rw [List.append_assoc] at blended
        exact Or.inr ⟨by omega, b, blended, ended⟩
  | @blended k start legs o planned final b =>
    exact ⟨1, _, rfl, by omega, rfl, Or.inr ⟨by omega, b, rfl, rfl⟩⟩

/-! ### The fields of each target -/

/-- The planner's mode by the name of the arm's. -/
def plannerHold (hold : UInt8) : PlannerHold :=
  if hold = HOLD_LEVEL then .level else if hold = HOLD_FIXED then .fixed else .none

/-- A target as its leg and its junction see it. -/
structure LegTarget where
  request : List Double → PlannerGoal
  speedScale : Double
  blendRadius : Double
  held : Option (PlannerHold × Quaternion)

def EEPoseTarget.leg (t : EEPoseTarget) : LegTarget where
  request start := .planToPose t.pose.pose start (plannerHold t.orientationHold)
  speedScale := t.speedScale
  blendRadius := t.blendRadius
  held := some (plannerHold t.orientationHold, t.pose.pose.orientation)

def JointConfigTarget.leg (t : JointConfigTarget) : LegTarget where
  request start := .planToJoints (List.ofFn t.targetJoints) start
  speedScale := t.speedScale
  blendRadius := t.blendRadius
  held := none

/-- The targets of a goal with several of them. -/
def MoveGoal.legTargets : MoveGoal → Option (List LegTarget)
  | .eePoses g => some (g.targets.map EEPoseTarget.leg)
  | .jointConfigs g => some (g.targets.map JointConfigTarget.leg)
  | _ => none

def blendGoal (ts : List LegTarget) (legs : List JointTrajectory) : PlannerGoal :=
  .blend legs (ts.dropLast.map (·.blendRadius)) (ts.map (·.speedScale))
    ((ts.filterMap (·.held)).map Prod.fst) ((ts.filterMap (·.held)).map Prod.snd)

/-- Leg `k` is planned to target `k`. -/
structure LegsReach (ts : List LegTarget) (legs : List (PlannerGoal × Outcome)) : Prop where
  count : legs.length ≤ ts.length
  leg : ∀ (k : Nat) (asked : PlannerGoal × Outcome), legs[k]? = some asked →
    ∃ (t : LegTarget) (start : List Double), ts[k]? = some t ∧ asked.1 = t.request start

/-- Entry `k` of the blend is of target `k`, and so is its radius for the junction between the legs
`k` and `k + 1`. -/
structure BlendReaches (ts : List LegTarget) (radii scales : List Double) (holds : List PlannerHold)
    (orientations : List Quaternion) : Prop where
  scales : scales.length = ts.length ∧
    ∀ (k : Nat) (t : LegTarget), ts[k]? = some t → scales[k]? = some t.speedScale
  junctions : radii.length = ts.length - 1 ∧
    ∀ (k : Nat) (t : LegTarget), ts[k]? = some t → k + 1 < ts.length → radii[k]? = some t.blendRadius
  unheld : (∀ t ∈ ts, t.held = none) → holds = [] ∧ orientations = []
  held : (∀ t ∈ ts, t.held.isSome) → holds.length = ts.length ∧ orientations.length = ts.length ∧
    ∀ (k : Nat) (t : LegTarget), ts[k]? = some t →
      holds[k]? = t.held.map Prod.fst ∧ orientations[k]? = t.held.map Prod.snd

theorem filterMap_held {ts : List LegTarget} (held : ∀ t ∈ ts, t.held.isSome) :
    (ts.filterMap (·.held)).length = ts.length ∧
      ∀ (k : Nat) (t : LegTarget), ts[k]? = some t → (ts.filterMap (·.held))[k]? = t.held := by
  induction ts with
  | nil => exact ⟨rfl, by simp⟩
  | cons first ts ih =>
    obtain ⟨length, entries⟩ := ih fun t member => held t (List.mem_cons_of_mem _ member)
    obtain ⟨value, shown⟩ := Option.isSome_iff_exists.mp (held first (List.mem_cons_self ..))
    rw [List.filterMap_cons_some shown]
    refine ⟨congrArg (· + 1) length, fun k t found => ?_⟩
    cases k with
    | zero =>
      obtain rfl : first = t := by simpa using found
      simp [shown]
    | succ k => exact entries k t (by simpa using found)

theorem blendGoal_reaches (ts : List LegTarget) :
    BlendReaches ts (ts.dropLast.map (·.blendRadius)) (ts.map (·.speedScale))
      ((ts.filterMap (·.held)).map Prod.fst) ((ts.filterMap (·.held)).map Prod.snd) := by
  refine ⟨⟨by simp, ?_⟩, ⟨by simp, ?_⟩, fun unheld => ?_, fun held => ?_⟩
  · intro k t found
    simp [found]
  · intro k t found junction
    have inside : k < ts.dropLast.length := by simp; omega
    have entry : ts.dropLast[k]? = ts[k]? := by
      rw [List.getElem?_eq_getElem inside, List.getElem_dropLast, List.getElem?_eq_getElem]
    rw [List.getElem?_map, entry, found]
    rfl
  · have none : ts.filterMap (·.held) = [] := List.filterMap_eq_nil_iff.mpr unheld
    simp [none]
  · obtain ⟨length, entries⟩ := filterMap_held held
    refine ⟨by simp [length], by simp [length], fun k t found => ?_⟩
    simp [entries k t found]

theorem toPlanner_eq {hold : UInt8} (known : ∃ mode, toPlanner hold = .ok mode) :
    toPlanner hold = .ok (plannerHold hold) := by
  obtain ⟨mode, known⟩ := known
  unfold toPlanner at known ⊢
  split at known
  · rename_i none
    simp [none, plannerHold, HOLD_NONE, HOLD_LEVEL, HOLD_FIXED]
  · rename_i held
    simp only [plannerHold, if_neg held]
    split at known
    · rename_i level
      simp [level]
    · split at known
      · rename_i fixed
        simp [fixed, HOLD_LEVEL, HOLD_FIXED]
      · cases known

theorem mapM_toPlanner {holds : List UInt8}
    (known : ∀ hold ∈ holds, toPlanner hold = .ok (plannerHold hold)) :
    holds.mapM toPlanner = .ok (holds.map plannerHold) := by
  induction holds with
  | nil => rfl
  | cons hold holds ih =>
    rw [List.mapM_cons, known hold (List.mem_cons_self ..),
      ih fun other member => known other (List.mem_cons_of_mem _ member)]
    rfl

namespace GoToEEPosesServer

theorem sendsLegs {d : Driver} {goal : GoToEEPoses.Goal} (fine : validate d goal = none) :
    SendsLegs (legChain goal)
      (fun k start => ((goal.targets.map EEPoseTarget.leg).getD k (default : EEPoseTarget).leg).request start)
      (blendGoal (goal.targets.map EEPoseTarget.leg)) where
  leg k start name part o h := by
    have known := toPlanner_eq (known_holds fine k)
    simp only [legChain, CuroboPlanClient.plan, known] at h
    rw [sent_dispatchPlan h, List.getD_map]
    rfl
  blend legs name part b h := by
    have holds : (arrays goal).holds = goal.targets.map (·.orientationHold) := by
      simp [arrays, blendArrays_eq]
    have known : ∀ hold ∈ (arrays goal).holds, toPlanner hold = .ok (plannerHold hold) := by
      intro hold member
      rw [holds] at member
      obtain ⟨t, listed, rfl⟩ := List.mem_map.mp member
      obtain ⟨k, found⟩ := List.mem_iff_getElem?.mp listed
      have known := toPlanner_eq (known_holds fine k)
      rwa [List.getD_eq_getElem?_getD, found] at known
    simp only [legChain, CuroboPlanClient.blend, mapM_toPlanner known] at h
    rw [sent_dispatchPlan h, holds]
    have helds : (goal.targets.map EEPoseTarget.leg).filterMap (·.held) =
        goal.targets.map fun t => (plannerHold t.orientationHold, t.pose.pose.orientation) := by
      rw [List.filterMap_map]
      show (goal.targets.filterMap fun t => some (plannerHold t.orientationHold, t.pose.pose.orientation)) = _
      rw [List.filterMap_eq_map']
    simp only [blendGoal, helds, arrays, blendArrays_eq, List.map_map, List.filterMap_eq_map',
      ← List.map_dropLast]
    rfl
  canceling := rfl
  onDone := rfl

end GoToEEPosesServer

theorem GoToJointConfigsServer.sendsLegs (goal : GoToJointConfigs.Goal) :
    SendsLegs (legChain goal)
      (fun k start =>
        ((goal.targets.map JointConfigTarget.leg).getD k (default : JointConfigTarget).leg).request start)
      (blendGoal (goal.targets.map JointConfigTarget.leg)) where
  leg k start name part o h := by
    rw [sent_dispatchPlan h, List.getD_map]
    rfl
  blend legs name part b h := by
    have unheld : (goal.targets.map JointConfigTarget.leg).filterMap (·.held) = [] := by
      simp [JointConfigTarget.leg]
    rw [sent_dispatchPlan h]
    simp only [blendGoal, unheld, arrays, blendArrays_eq, List.map_map, ← List.map_dropLast]
    rfl
  canceling := rfl
  onDone := rfl

/-! ### Every goal with several targets -/

/-- The fields of the targets `ts` reach the planner, and what it blends is what the goal ends with. -/
def TargetsReach (ts : List LegTarget) (trace : PlanTrace) (o : Outcome) : Prop :=
  ∃ legs rest, sent trace = legs ++ rest ∧ LegsReach ts legs ∧
    (rest = [] ∧ (∃ e ∈ trace, cancels e = true) ∨
      legs.length = ts.length ∧ ∃ radii scales holds orientations b,
        rest = [(.blend (legs.map (·.2.trajectory)) radii scales holds orientations, b)] ∧
        BlendReaches ts radii scales holds orientations ∧ o = blendOutcome b)

theorem targetsReach_planLegs {ts : List LegTarget} {unasked : LegTarget}
    {c : LegChain PlanRequest.Answer Outcome} (plansLegs : PlansLegs c)
    (sends : SendsLegs c (fun k start => (ts.getD k unasked).request start) (blendGoal ts))
    (count : c.n = ts.length) (some_target : 1 ≤ ts.length) {trace : PlanTrace} {o : Outcome}
    (h : Runs (startConfig.bind fun start => planLegs c start) trace o)
    (succeed : ∀ plan ∈ plans trace, plan.answer.Planned) : TargetsReach ts trace o := by
  obtain ⟨front, start, back, rfl, asked, rest⟩ := runs_bind.mp h
  obtain ⟨s, rfl, rfl⟩ := runs_startConfig asked
  obtain ⟨events, steps, played⟩ := steps_of_execution (LegChain.execution_of_runs rest)
  have planned : ∀ l ∈ events.filterMap leg?, l.answer.Planned := by
    intro l member
    apply succeed ⟨l.start, l.answer⟩
    rw [plans_append, plans_played plansLegs played]
    exact List.mem_append_right _ (List.mem_map.mpr ⟨l, member, rfl⟩)
  obtain ⟨goals, done, seen⟩ := sent_played sends played
  obtain ⟨m, tail, indices, within, sentLegs, ends⟩ := steps_complete
    (fun k start => (ts.getD k unasked).request start) (blendGoal ts) steps planned (by omega)
  have length : (events.filterMap leg?).length = m := by
    have counted := congrArg List.length indices
    simpa using counted
  refine ⟨_, tail, (sent_append _ _).trans (goals.trans sentLegs), ⟨?_, ?_⟩, ?_⟩
  · rw [List.length_map, length]
    omega
  · intro k asked found
    rw [List.getElem?_map] at found
    obtain ⟨l, entry, rfl⟩ := Option.map_eq_some_iff.mp found
    have inside : k < m := by
      rw [← length]
      exact (List.getElem?_eq_some_iff.mp entry).1
    have index : l.k = k := by
      have counted := congrArg (·[k]?) indices
      simpa [entry, inside] using counted
    have known : k < ts.length := by omega
    refine ⟨ts[k], l.start, List.getElem?_eq_getElem known, ?_⟩
    simp [index, known]
  · rcases ends with ⟨canceled, none⟩ | ⟨all, b, blended, ended⟩
    · obtain ⟨e, member, cancels⟩ := seen canceled
      exact Or.inl ⟨none, e, List.mem_append_right _ member, cancels⟩
    · right
      refine ⟨by rw [List.length_map, length]; omega, _, _, _, _, b, ?_, blendGoal_reaches ts, ?_⟩
      · rw [blended, List.nil_append, List.map_map]
        rfl
      · have outcome := done.symm.trans ended
        exact (List.cons.inj outcome).1

theorem validate_some_target {T : Type} {targets : List T} {why : String} {rest : Option String}
    (fine : (if targets.isEmpty then some why else rest) = none) : 1 ≤ targets.length := by
  cases targets with
  | nil => cases fine
  | cons t targets => simp

/-- A goal with several targets plans them as a chain. -/
theorem chain_of_several {node : Node} {goal : MoveGoal} {ts : List LegTarget} {p : Planning Outcome}
    (several : goal.legTargets = some ts) (valid : validate node goal = none)
    (started : startPlan node goal = some p) :
    1 ≤ ts.length ∧ ∃ (c : LegChain PlanRequest.Answer Outcome) (unasked : LegTarget),
      p = startConfig.bind (planLegs c) ∧ PlansLegs c ∧
      SendsLegs c (fun k start => (ts.getD k unasked).request start) (blendGoal ts) ∧ c.n = ts.length := by
  cases goal with
  | eePoses g =>
    cases several
    cases started
    rw [List.length_map]
    exact ⟨validate_some_target valid, _, _, rfl, GoToEEPosesServer.plansLegs valid,
      GoToEEPosesServer.sendsLegs valid, rfl⟩
  | jointConfigs g =>
    cases several
    cases started
    rw [List.length_map]
    exact ⟨validate_some_target valid, _, _, rfl, GoToJointConfigsServer.plansLegs g,
      GoToJointConfigsServer.sendsLegs g, rfl⟩
  | _ => cases several

/-- The legs of a chain that ends well have all succeeded. -/
theorem planned_execution {c : LegChain PlanRequest.Answer Outcome} (fine : PlansLegs c) {k : Nat}
    {start : List Double} {legs : List JointTrajectory} {trace : PlanTrace} {o : Outcome}
    (h : c.Execution k start legs trace o) (ok : o.ok = true) :
    ∀ plan ∈ plans trace, plan.answer.Planned := by
  have given : ∀ {last : PlanTrace} {given a : Outcome}, Runs (c.onDone given) last a →
      plans last = [] ∧ a = given := by
    intro last given a ended
    rw [fine.onDone] at ended
    obtain ⟨rfl, rfl⟩ := runs_done.mp ended
    exact ⟨rfl, rfl⟩
  have silent : ∀ {check : PlanTrace} {canceled}, Runs c.canceling check canceled → plans check = [] :=
    fun asked => plans_canceling (fine.canceling ▸ asked)
  induction h with
  | canceled _ ended | canceledBeforeBlend _ _ _ _ _ ended | legFailed _ _ _ ended =>
    obtain ⟨-, rfl⟩ := given ended
    cases ok
  | nextLeg asked leg planned _ _ ih =>
    rw [plans_append, plans_append, silent asked, fine.leg _ _ _ _ _ leg]
    intro plan member
    rcases List.mem_cons.mp member with rfl | later
    · exact planned
    · exact ih ok plan later
  | blended asked leg planned _ again joined ended =>
    simp only [plans_append, silent asked, silent again, fine.leg _ _ _ _ _ leg,
      fine.blend _ _ _ _ joined, (given ended).1]
    intro plan member
    obtain rfl := List.mem_singleton.mp member
    exact planned

theorem planned_of_ok {c : LegChain PlanRequest.Answer Outcome} (fine : PlansLegs c) {trace : PlanTrace}
    {o : Outcome} (h : Runs (startConfig.bind (planLegs c)) trace o) (ok : o.ok = true) :
    ∀ plan ∈ plans trace, plan.answer.Planned := by
  obtain ⟨front, start, back, rfl, asked, rest⟩ := runs_bind.mp h
  obtain ⟨s, rfl, rfl⟩ := runs_startConfig asked
  rw [plans_append, show plans [⟨.queryState, s⟩] = [] from rfl, List.nil_append]
  exact planned_execution fine (LegChain.execution_of_runs rest) ok

end KinovaGen3
