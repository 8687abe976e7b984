import KinovaGen3.Core.Messages
import KinovaGen3.Library.Interaction

/-!
`plan_legs.h`: several targets planned in one chain. A callback the planner fires exactly once is
the rest of the program after the request it answers.
-/

namespace KinovaGen3
open Interaction

structure Outcome where
  ok : Bool := false
  message : String := ""
  trajectory : JointTrajectory := {}
  goalMismatchRad : Double := .finite 0
  deriving DecidableEq, Inhabited

def blendRadiusRejection (r : Double) : Option String :=
  if r.isFinite && Double.le (.finite 0) r then none
  else some ("blend_radius must be finite and >= 0; got " ++ r.toGeneral)

universe u v w
variable {Q : Type u} {Ans : Q → Type v} {α : Type w}

/-- `detail::LegChain`, without the legs planned so far. The planner's calls take the prefix that
`prefixed` puts before each of their feedback states. -/
structure LegChain (Ans : Q → Type v) (α : Type w) where
  n : Nat
  planLeg : (k : Nat) → (start : List Double) → (feedbackPrefix : String) → Prog Ans Outcome
  blend : (legs : List JointTrajectory) → (feedbackPrefix : String) → Prog Ans Outcome
  canceling : Prog Ans Bool
  onDone : Outcome → Prog Ans α

def legName (k n : Nat) : String := "leg " ++ toString (k + 1) ++ "/" ++ toString n ++ ": "

def canceledOutcome : Outcome := { ok := false, message := "canceled during planning" }

def JointTrajectory.lastPositions (traj : JointTrajectory) : List Double :=
  (traj.points.getLast?.map (·.positions)).getD []

namespace LegChain

/-- `stop_if_canceled`, and what follows it when the goal is not canceled. -/
def stopIfCanceled (c : LegChain Ans α) (rest : Prog Ans α) : Prog Ans α :=
  c.canceling.bind fun canceled => if canceled then c.onDone canceledOutcome else rest

/-- A leg's outcome as its callback first adjusts it: no last point is a failure of the leg. -/
def checkEmpty (o : Outcome) : Outcome :=
  if o.ok && o.trajectory.points.isEmpty then
    { o with ok := false, message := "planner returned an empty trajectory" }
  else o

/-- `detail::plan_leg`, with `legs` the trajectories accumulated before leg `k`. -/
def legFrom (c : LegChain Ans α) (k : Nat) (start : List Double) (legs : List JointTrajectory) :
    Prog Ans α :=
  c.stopIfCanceled <| (c.planLeg k start (legName k c.n)).bind fun answer =>
    let o := checkEmpty answer
    if !o.ok then c.onDone { o with message := legName k c.n ++ o.message }
    else if k + 1 < c.n then
      legFrom c (k + 1) o.trajectory.lastPositions (legs ++ [o.trajectory])
    else c.stopIfCanceled <| (c.blend (legs ++ [o.trajectory]) "blend: ").bind fun b =>
      c.onDone (if !b.ok then { b with message := "blend: " ++ b.message } else b)
termination_by c.n - k

end LegChain

def planLegs (c : LegChain Ans α) (start : List Double) : Prog Ans α := c.legFrom 0 start []

/-! ### What a chain can do -/

def Outcome.Planned (o : Outcome) : Prop := o.ok = true ∧ o.trajectory.points ≠ []

instance (o : Outcome) : Decidable o.Planned := inferInstanceAs (Decidable (_ ∧ _))

def legFailure (k n : Nat) (o : Outcome) : Outcome :=
  { o with
    ok := false
    message := legName k n ++ if o.ok then "planner returned an empty trajectory" else o.message }

def blendOutcome (b : Outcome) : Outcome :=
  if b.ok then b else { b with message := "blend: " ++ b.message }

namespace LegChain
variable {c : LegChain Ans α}

theorem checkEmpty_planned {o : Outcome} (planned : o.Planned) : checkEmpty o = o := by
  simp [checkEmpty, planned.2]

theorem checkEmpty_failed {k n : Nat} {o : Outcome} (failed : ¬ o.Planned) :
    (checkEmpty o).ok = false ∧
      { checkEmpty o with message := legName k n ++ (checkEmpty o).message } = legFailure k n o := by
  obtain ⟨ok, message, trajectory, mismatch⟩ := o
  cases ok with
  | false => simp [checkEmpty, legFailure]
  | true =>
    have empty : trajectory.points = [] := by simpa [Outcome.Planned] using failed
    simp [checkEmpty, legFailure, empty]

/-- The executions of the chain from leg `k`, by the way each of them ends. -/
inductive Execution (c : LegChain Ans α) :
    Nat → List Double → List JointTrajectory → List (Exchange Ans) → α → Prop where
  | canceled (asked : Runs c.canceling check true)
      (ended : Runs (c.onDone canceledOutcome) last a) :
      Execution c k start legs (check ++ last) a
  | legFailed (asked : Runs c.canceling check false)
      (leg : Runs (c.planLeg k start (legName k c.n)) plan o) (failed : ¬ o.Planned)
      (ended : Runs (c.onDone (legFailure k c.n o)) last a) :
      Execution c k start legs (check ++ (plan ++ last)) a
  | nextLeg (asked : Runs c.canceling check false)
      (leg : Runs (c.planLeg k start (legName k c.n)) plan o) (planned : o.Planned)
      (more : k + 1 < c.n)
      (later : Execution c (k + 1) o.trajectory.lastPositions (legs ++ [o.trajectory]) rest a) :
      Execution c k start legs (check ++ (plan ++ rest)) a
  | canceledBeforeBlend (asked : Runs c.canceling check false)
      (leg : Runs (c.planLeg k start (legName k c.n)) plan o) (planned : o.Planned)
      (final : ¬ k + 1 < c.n) (again : Runs c.canceling check' true)
      (ended : Runs (c.onDone canceledOutcome) last a) :
      Execution c k start legs (check ++ (plan ++ (check' ++ last))) a
  | blended (asked : Runs c.canceling check false)
      (leg : Runs (c.planLeg k start (legName k c.n)) plan o) (planned : o.Planned)
      (final : ¬ k + 1 < c.n) (again : Runs c.canceling check' false)
      (joined : Runs (c.blend (legs ++ [o.trajectory]) "blend: ") join b)
      (ended : Runs (c.onDone (blendOutcome b)) last a) :
      Execution c k start legs (check ++ (plan ++ (check' ++ (join ++ last)))) a

theorem runs_stopIfCanceled {rest : Prog Ans α} {trace : List (Exchange Ans)} {a : α}
    (h : Runs (c.stopIfCanceled rest) trace a) :
    ∃ check last, trace = check ++ last ∧
      (Runs c.canceling check true ∧ Runs (c.onDone canceledOutcome) last a ∨
        Runs c.canceling check false ∧ Runs rest last a) := by
  obtain ⟨check, canceled, last, rfl, asked, ended⟩ := runs_bind.mp h
  cases canceled with
  | true => exact ⟨check, last, rfl, Or.inl ⟨asked, ended⟩⟩
  | false => exact ⟨check, last, rfl, Or.inr ⟨asked, ended⟩⟩

theorem execution_of_runs {k : Nat} {start : List Double} {legs : List JointTrajectory}
    {trace : List (Exchange Ans)} {a : α} (h : Runs (c.legFrom k start legs) trace a) :
    Execution c k start legs trace a := by
  -- The legs still to plan decrease; each case split is one branch of `plan_leg`.
  induction left : c.n - k using Nat.strongRecOn generalizing k start legs trace with
  | ind left ih =>
    rw [legFrom] at h
    obtain ⟨check, rest, rfl, ⟨asked, ended⟩ | ⟨asked, h⟩⟩ := runs_stopIfCanceled h
    · exact .canceled asked ended
    obtain ⟨plan, o, tail, rfl, leg, h⟩ := runs_bind.mp h
    by_cases planned : o.Planned
    · simp only [checkEmpty_planned planned, planned.1, Bool.not_true, Bool.false_eq_true,
        if_false] at h
      split at h
      · rename_i more
        exact .nextLeg asked leg planned more (ih _ (by omega) h rfl)
      · rename_i final
        obtain ⟨check', tail, rfl, ⟨again, ended⟩ | ⟨again, h⟩⟩ := runs_stopIfCanceled h
        · exact .canceledBeforeBlend asked leg planned final again ended
        obtain ⟨join, b, last, rfl, joined, ended⟩ := runs_bind.mp h
        have outcome : (if !b.ok then { b with message := "blend: " ++ b.message } else b) =
            blendOutcome b := by cases shown : b.ok <;> simp [blendOutcome, shown]
        rw [outcome] at ended
        exact .blended asked leg planned final again joined ended
    · obtain ⟨bad, named⟩ := checkEmpty_failed (k := k) (n := c.n) planned
      dsimp only at h
      rw [if_pos (by rw [bad]; rfl)] at h
      exact .legFailed asked leg planned (named ▸ h)

end LegChain
end KinovaGen3
