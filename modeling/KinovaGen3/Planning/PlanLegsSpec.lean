import KinovaGen3.Planning.PlanLegs

/-!
The specification of `plan_legs`, over what a chain asks of its surroundings: the cancel checks,
the legs, the blend and `on_done`. `planLegs_refines_spec` holds against every planner and every
course of cancellation.
-/

namespace KinovaGen3
open Interaction

inductive ChainRequest where
  | canceling
  | planLeg (k : Nat) (start : List Double) (feedbackPrefix : String)
  | blend (legs : List JointTrajectory) (feedbackPrefix : String)
  | onDone (o : Outcome)

@[reducible] def ChainRequest.Answer : ChainRequest → Type
  | canceling => Bool
  | planLeg .. => Outcome
  | blend .. => Outcome
  | onDone _ => Unit

abbrev ChainEvent := Exchange ChainRequest.Answer

/-- The chain over callbacks of which nothing is known but that each call gets one answer. -/
def chain (n : Nat) : LegChain ChainRequest.Answer Unit where
  n := n
  planLeg k start name := Prog.request (ChainRequest.planLeg k start name)
  blend legs name := Prog.request (ChainRequest.blend legs name)
  canceling := Prog.request ChainRequest.canceling
  onDone o := Prog.request (ChainRequest.onDone o)

namespace ChainEvent

structure Leg where
  k : Nat
  start : List Double
  answer : Outcome

def leg? : ChainEvent → Option Leg
  | ⟨.planLeg k start _, o⟩ => some ⟨k, start, o⟩
  | _ => none

def blend? : ChainEvent → Option (List JointTrajectory × Outcome)
  | ⟨.blend legs _, b⟩ => some (legs, b)
  | _ => none

def done? : ChainEvent → Option Outcome
  | ⟨.onDone o, _⟩ => some o
  | _ => none

def isStep : ChainEvent → Bool
  | ⟨.planLeg .., _⟩ => true
  | ⟨.blend .., _⟩ => true
  | _ => false

def check (canceled : Bool) : ChainEvent := ⟨.canceling, canceled⟩

inductive Ends (n : Nat) : ChainEvent → Outcome → Prop where
  | canceled : Ends n (check true) canceledOutcome
  | leg (failed : ¬ o.Planned) : Ends n ⟨.planLeg k start name, o⟩ (legFailure k n o)
  | blend : Ends n ⟨.blend legs name, b⟩ (blendOutcome b)

end ChainEvent
open ChainEvent

structure PlanLegsSpec (n : Nat) (start : List Double) (trace : List ChainEvent) : Prop where
  ended : ∃ front last outcome, trace = front ++ [last, ⟨.onDone outcome, ()⟩] ∧
    trace.filterMap done? = [outcome] ∧ Ends n last outcome
  first : ∀ leg ∈ (trace.filterMap leg?).head?, leg.k = 0 ∧ leg.start = start
  chained : (trace.filterMap leg?).IsChain fun leg next => next.k = leg.k + 1 ∧
    leg.answer.Planned ∧ next.start = leg.answer.trajectory.lastPositions
  bounded : ∀ leg ∈ trace.filterMap leg?, leg.k < n
  /-- A blend is asked for once, with the trajectories of all `n` legs in order. -/
  blended : trace.filterMap blend? = [] ∨
    (∃ b, trace.filterMap blend? = [((trace.filterMap leg?).map (·.answer.trajectory), b)]) ∧
      (trace.filterMap leg?).length = n ∧ ∀ leg ∈ trace.filterMap leg?, leg.answer.Planned
  legsFirst : trace.Pairwise fun event later => (blend? event).isSome → leg? later = none
  /-- Every step follows a check that found the goal not canceled. -/
  checked : (⟨.onDone default, ()⟩ :: trace).IsChain fun event next =>
    isStep next = true → event = check false
  /-- Nothing is asked of the planner after a check that found it canceled. -/
  stopped : trace.Pairwise fun event later => event = check true → isStep later = false

/-! ### The executions, event by event -/

/-- The traces from leg `k` of a chain that has the trajectories `legs`. -/
inductive Steps (n : Nat) :
    Nat → List Double → List JointTrajectory → List ChainEvent → Prop where
  | canceled : Steps n k start legs [check true, ⟨.onDone canceledOutcome, ()⟩]
  | legFailed (failed : ¬ o.Planned) :
      Steps n k start legs [check false, ⟨.planLeg k start (legName k n), o⟩,
        ⟨.onDone (legFailure k n o), ()⟩]
  | nextLeg (planned : o.Planned) (more : k + 1 < n)
      (later : Steps n (k + 1) o.trajectory.lastPositions (legs ++ [o.trajectory]) rest) :
      Steps n k start legs (check false :: ⟨.planLeg k start (legName k n), o⟩ :: rest)
  | canceledBeforeBlend (planned : o.Planned) (final : ¬ k + 1 < n) :
      Steps n k start legs [check false, ⟨.planLeg k start (legName k n), o⟩, check true,
        ⟨.onDone canceledOutcome, ()⟩]
  | blended (planned : o.Planned) (final : ¬ k + 1 < n) (b : Outcome) :
      Steps n k start legs [check false, ⟨.planLeg k start (legName k n), o⟩, check false,
        ⟨.blend (legs ++ [o.trajectory]) "blend: ", b⟩, ⟨.onDone (blendOutcome b), ()⟩]

section
universe u v w
variable {Q : Type u} {Ans : Q → Type v} {α : Type w}

/-- The exchanges in which a chain's callbacks carry out one event. -/
inductive Plays (c : LegChain Ans α) : ChainEvent → List (Exchange Ans) → Prop where
  | canceling (asked : Runs c.canceling part b) : Plays c (check b) part
  | planLeg (leg : Runs (c.planLeg k start name) part o) : Plays c ⟨.planLeg k start name, o⟩ part
  | blend (joined : Runs (c.blend legs name) part b) : Plays c ⟨.blend legs name, b⟩ part

inductive Played (c : LegChain Ans α) : List ChainEvent → List (Exchange Ans) → α → Prop where
  | ended (last : Runs (c.onDone o) part a) : Played c [⟨.onDone o, ()⟩] part a
  | event (plays : Plays c e part) (later : Played c rest tail a) :
      Played c (e :: rest) (part ++ tail) a

theorem steps_of_execution {c : LegChain Ans α} {k : Nat} {start : List Double}
    {legs : List JointTrajectory} {trace : List (Exchange Ans)} {a : α}
    (h : c.Execution k start legs trace a) :
    ∃ events, Steps c.n k start legs events ∧ Played c events trace a := by
  induction h with
  | canceled asked ended => exact ⟨_, .canceled, .event (.canceling asked) (.ended ended)⟩
  | legFailed asked leg failed ended =>
    exact ⟨_, .legFailed failed,
      .event (.canceling asked) (.event (.planLeg leg) (.ended ended))⟩
  | nextLeg asked leg planned more _ ih =>
    obtain ⟨events, steps, played⟩ := ih
    exact ⟨_, .nextLeg planned more steps, .event (.canceling asked) (.event (.planLeg leg) played)⟩
  | canceledBeforeBlend asked leg planned final again ended =>
    exact ⟨_, .canceledBeforeBlend planned final, .event (.canceling asked)
      (.event (.planLeg leg) (.event (.canceling again) (.ended ended)))⟩
  | blended asked leg planned final again joined ended =>
    exact ⟨_, .blended planned final _, .event (.canceling asked) (.event (.planLeg leg)
      (.event (.canceling again) (.event (.blend joined) (.ended ended))))⟩

theorem played_chain {n : Nat} {events trace : List ChainEvent} {u : Unit}
    (h : Played (chain n) events trace u) : trace = events := by
  induction h with
  | ended last => exact runs_request.mp last
  | event plays later ih =>
    rw [ih]
    cases plays with
    | canceling asked => rw [runs_request.mp asked]; rfl
    | planLeg leg => rw [runs_request.mp leg]; rfl
    | blend joined => rw [runs_request.mp joined]; rfl

end

section
variable {n k : Nat} {start : List Double} {legs : List JointTrajectory} {trace : List ChainEvent}

theorem steps_ended (h : Steps n k start legs trace) : ∃ front last outcome,
    trace = front ++ [last, ⟨.onDone outcome, ()⟩] ∧
      trace.filterMap done? = [outcome] ∧ Ends n last outcome := by
  induction h with
  | canceled => exact ⟨[], _, _, rfl, rfl, .canceled⟩
  | legFailed failed => exact ⟨[check false], _, _, rfl, rfl, .leg failed⟩
  | nextLeg planned more later ih =>
    obtain ⟨front, last, outcome, rfl, once, ends⟩ := ih
    exact ⟨_ :: _ :: front, last, outcome, rfl, once, ends⟩
  | canceledBeforeBlend planned final => exact ⟨[_, _], _, _, rfl, rfl, .canceled⟩
  | blended planned final b => exact ⟨[_, _, _], _, _, rfl, rfl, .blend⟩

theorem steps_first (h : Steps n k start legs trace) :
    ∀ leg ∈ (trace.filterMap leg?).head?, leg.k = k ∧ leg.start = start := by
  intro leg found
  cases h with
  | canceled => cases found
  | _ =>
    obtain rfl := Option.some.inj found
    exact ⟨rfl, rfl⟩

theorem steps_chained (h : Steps n k start legs trace) :
    (trace.filterMap leg?).IsChain fun leg next => next.k = leg.k + 1 ∧
      leg.answer.Planned ∧ next.start = leg.answer.trajectory.lastPositions := by
  induction h with
  | nextLeg planned more later ih =>
    refine List.isChain_cons.mpr ⟨fun next found => ?_, ih⟩
    obtain ⟨index, chained⟩ := steps_first later next found
    exact ⟨index, planned, chained⟩
  | canceled => exact .nil
  | _ => exact .singleton _

theorem steps_bounded (h : Steps n k start legs trace) (inside : k < n) :
    ∀ leg ∈ trace.filterMap leg?, leg.k < n := by
  induction h with
  | nextLeg planned more later ih =>
    intro leg found
    rcases List.mem_cons.mp found with rfl | found
    · exact inside
    · exact ih more leg found
  | canceled => exact fun _ found => nomatch found
  | _ =>
    intro leg found
    obtain rfl := List.mem_singleton.mp found
    exact inside

theorem steps_blended (h : Steps n k start legs trace) (inside : k < n) :
    trace.filterMap blend? = [] ∨
      (∃ b, trace.filterMap blend? =
        [(legs ++ (trace.filterMap leg?).map (·.answer.trajectory), b)]) ∧
      k + (trace.filterMap leg?).length = n ∧ ∀ leg ∈ trace.filterMap leg?, leg.answer.Planned := by
  induction h with
  | nextLeg planned more later ih =>
    rcases ih more with none | ⟨⟨b, once⟩, count, all⟩
    · exact Or.inl none
    · refine Or.inr ⟨⟨b, once.trans ?_⟩, ?_, ?_⟩
      · rw [List.append_assoc]
        rfl
      · rw [← count, Nat.add_right_comm]
        rfl
      · intro leg found
        rcases List.mem_cons.mp found with rfl | found
        · exact planned
        · exact all leg found
  | blended planned final b =>
    refine Or.inr ⟨⟨b, rfl⟩, ?_, fun leg found => ?_⟩
    · show _ + 1 = n
      omega
    · obtain rfl := List.mem_singleton.mp found
      exact planned
  | _ => exact Or.inl rfl

theorem steps_legsFirst (h : Steps n k start legs trace) :
    trace.Pairwise fun event later => (blend? event).isSome → leg? later = none := by
  induction h with
  | nextLeg planned more later ih =>
    refine List.pairwise_cons.mpr ⟨fun _ _ found => ?_,
      List.pairwise_cons.mpr ⟨fun _ _ found => ?_, ih⟩⟩
    all_goals simp [blend?, check] at found
  | _ => simp [blend?, leg?, check]

/-- Each leg opens with its check, so the event before the trace does not matter. -/
theorem steps_checked (h : Steps n k start legs trace) (before : ChainEvent) :
    (before :: trace).IsChain fun event next => isStep next = true → event = check false := by
  induction h generalizing before with
  | nextLeg planned more later ih =>
    refine List.isChain_cons_cons.mpr ⟨?_, List.isChain_cons_cons.mpr ⟨fun _ => rfl, ih _⟩⟩
    simp [isStep, check]
  | _ => simp [isStep, check]

theorem steps_stopped (h : Steps n k start legs trace) :
    trace.Pairwise fun event later => event = check true → isStep later = false := by
  induction h with
  | nextLeg planned more later ih =>
    refine List.pairwise_cons.mpr ⟨fun _ _ found => ?_,
      List.pairwise_cons.mpr ⟨fun _ _ found => ?_, ih⟩⟩
    all_goals simp [check] at found
  | _ => simp [isStep, check]

end

/-- Whatever the planner answers and whenever the goal is canceled, `plan_legs` meets its
specification. -/
theorem planLegs_refines_spec (n : Nat) (start : List Double) (env : Env ChainRequest.Answer)
    (some_leg : 1 ≤ n) : PlanLegsSpec n start ((planLegs (chain n) start).run env []).1 := by
  obtain ⟨events, steps, played⟩ :=
    steps_of_execution (LegChain.execution_of_runs (runs_run env (planLegs (chain n) start) []))
  rw [played_chain played]
  replace steps : Steps n 0 start [] events := steps
  refine ⟨steps_ended steps, steps_first steps, steps_chained steps, steps_bounded steps some_leg,
    ?_, steps_legsFirst steps, steps_checked steps _, steps_stopped steps⟩
  simpa only [List.nil_append, Nat.zero_add] using steps_blended steps some_leg

/-- The first leg ends at 1 and the others at 2, and the blend has the points of the legs. -/
def benchPlanner : Env ChainRequest.Answer := fun _ request =>
  match request with
  | .canceling => false
  | .planLeg k .. => { ok := true, trajectory := { points := [{ positions := [if k = 0 then .finite 1 else .finite 2] }] } }
  | .blend legs _ => { ok := true, trajectory := { points := legs.flatMap (·.points) } }
  | .onDone _ => ()

def benchBlended : List ChainEvent := ((planLegs (chain 2) [.finite 0]).run benchPlanner []).1

theorem planLegs_refines_spec_benchBlended : PlanLegsSpec 2 [.finite 0] benchBlended ∧
    (benchBlended.filterMap leg?).map (·.start) = [[.finite 0], [.finite 1]] ∧
    (benchBlended.filterMap blend?).map (·.1.map (·.lastPositions)) = [[[.finite 1], [.finite 2]]] := by
  refine ⟨planLegs_refines_spec 2 _ benchPlanner (by decide), ?_, ?_⟩
  all_goals
    simp [benchBlended, planLegs, chain, LegChain.legFrom, LegChain.stopIfCanceled, Prog.request, Prog.bind,
      Prog.run, benchPlanner, LegChain.checkEmpty, -List.map_eq_singleton_iff]
    rfl

end KinovaGen3
