import KinovaGen3.Library.Run
import KinovaGen3.Lifecycle.Goal

/-!
The node with any number of goals. The maps are keyed by goal id and every access to them names
one id, so the node's runs are, for each goal, runs of that goal next to a changing contact state.
-/

namespace KinovaGen3
open Transition

abbrev GoalId := Fin 16 → UInt8

structure System where
  goals : MoveServer → GoalId → Option Goal
  handles : GoalId → Option Token
  owners : GoalId → Option Port
  handle : GoalId → Option GoalHandle
  main : GoalId → Main
  cancels : GoalId → List CancelCall
  settle : GoalId → Settle
  log : GoalId → List Event
  /-- What `on_query_contact` reports. -/
  contact : ContactState

inductive Action where
  | goal (id : GoalId) (act : GoalAction)
  | contact (c : ContactState)

namespace System

def init : System where
  goals _ _ := none
  handles _ := none
  owners _ := none
  handle _ := none
  main _ := .unseen
  cancels _ := []
  settle _ := .waiting
  log _ := []
  contact := {}

def goal (s : System) (id : GoalId) : GoalState where
  goals server := s.goals server id
  handles := s.handles id
  owner := s.owners id
  handle := s.handle id
  main := s.main id
  cancels := s.cancels id
  settle := s.settle id
  log := s.log id

def setGoal (s : System) (id : GoalId) (g : GoalState) : System where
  goals server := Function.update (s.goals server) id (g.goals server)
  handles := Function.update s.handles id g.handles
  owners := Function.update s.owners id g.owner
  handle := Function.update s.handle id g.handle
  main := Function.update s.main id g.main
  cancels := Function.update s.cancels id g.cancels
  settle := Function.update s.settle id g.settle
  log := Function.update s.log id g.log
  contact := s.contact

@[simp] theorem setGoal_goal (s : System) (id : GoalId) (g : GoalState) :
    (s.setGoal id g).goal id = g := by
  simp [goal, setGoal]

theorem setGoal_goal_other (s : System) {id other : GoalId} (g : GoalState) (ne : other ≠ id) :
    (s.setGoal id g).goal other = s.goal other := by
  simp [goal, setGoal, ne]

variable (node : Node)

def step (s : System) : Action → Option System
  | .goal id act => ((s.goal id).step node s.contact act).map (s.setGoal id)
  | .contact c => some { s with contact := c }

end System

/-! ### One goal of a run -/

namespace System
variable {node : Node}

/-- A step of the node is a step of the goal under an id, or leaves it alone. -/
theorem goal_step {s t : System} {act : Action} (id : GoalId) (taken : s.step node act = some t) :
    (∃ own, act = .goal id own ∧ (s.goal id).step node s.contact own = some (t.goal id)) ∨
      t.goal id = s.goal id := by
  cases act with
  | goal other own =>
    obtain ⟨g, moved, rfl⟩ := Option.map_eq_some_iff.mp taken
    by_cases same : id = other
    · subst same
      exact Or.inl ⟨own, rfl, by rw [setGoal_goal, moved]⟩
    · exact Or.inr (setGoal_goal_other s g same)
  | contact c =>
    obtain rfl := Option.some.inj taken
    exact Or.inr rfl

/-- What no step of a goal breaks, whatever the contact state, holds of each goal of a run. -/
theorem goal_invariant {inv : GoalState → Prop}
    (preserve : ∀ contact s act t, inv s → GoalState.step node contact s act = some t → inv t)
    {acts : List Action} {s t : System} (id : GoalId) (start : inv (s.goal id))
    (h : run (System.step node) s acts = some t) : inv (t.goal id) := by
  have kept : ∀ s act t, inv (s.goal id) → System.step node s act = some t → inv (t.goal id) := by
    intro s act t held taken
    rcases goal_step id taken with ⟨own, -, moved⟩ | same
    · exact preserve _ _ _ _ held moved
    · rw [same]
      exact held
  exact @run_invariant _ _ _ (fun s => inv (s.goal id)) kept acts s t start h

def OnGoal (id : GoalId) (allowed : ContactState → GoalState → GoalAction → Bool) (s : System) :
    Action → Prop
  | .goal other own => other = id → allowed s.contact (s.goal id) own = true
  | .contact _ => True

instance (id : GoalId) (allowed : ContactState → GoalState → GoalAction → Bool) (s : System)
    (act : Action) : Decidable (OnGoal id allowed s act) := by
  unfold OnGoal
  split <;> infer_instance

theorem meets_onGoal_and {id : GoalId} {p q : ContactState → GoalState → GoalAction → Bool}
    {acts : List Action} {s : System} :
    Meets (System.step node) (OnGoal id fun contact s act => p contact s act && q contact s act) s
        acts ↔
      Meets (System.step node) (OnGoal id p) s acts ∧ Meets (System.step node) (OnGoal id q) s acts := by
  rw [← meets_and]
  have same : OnGoal id (fun contact s act => p contact s act && q contact s act) =
      fun s act => OnGoal id p s act ∧ OnGoal id q s act := by
    funext s act
    cases act with
    | goal other own => simp only [OnGoal, Bool.and_eq_true, imp_and]
    | contact c => simp only [OnGoal, and_true]
  rw [same]

theorem goal_invariant_of_meets {inv : GoalState → Prop} {id : GoalId}
    {allowed : ContactState → GoalState → GoalAction → Bool}
    (preserve : ∀ contact s act t, inv s → allowed contact s act = true →
      GoalState.step node contact s act = some t → inv t)
    {acts : List Action} {s t : System} (start : inv (s.goal id))
    (met : Meets (System.step node) (OnGoal id allowed) s acts)
    (h : run (System.step node) s acts = some t) : inv (t.goal id) := by
  have kept : ∀ s act t, inv (s.goal id) → OnGoal id allowed s act →
      System.step node s act = some t → inv (t.goal id) := by
    intro s act t held met taken
    rcases goal_step id taken with ⟨own, rfl, moved⟩ | same
    · exact preserve _ _ _ _ held (met rfl) moved
    · rw [same]
      exact held
  exact @run_invariant_of_meets _ _ _ _ (fun s => inv (s.goal id)) kept acts s t start met h

theorem own_step {s t : System} {id : GoalId} {own : GoalAction}
    (taken : s.step node (.goal id own) = some t) :
    (s.goal id).step node s.contact own = some (t.goal id) := by
  obtain ⟨g, moved, rfl⟩ := Option.map_eq_some_iff.mp taken
  rw [setGoal_goal, moved]

theorem goal_dichotomy {inv lost : GoalState → Prop} {id : GoalId}
    {guard allowed : ContactState → GoalState → GoalAction → Bool}
    (keep : ∀ contact s act t, inv s → guard contact s act = true → allowed contact s act = true →
      GoalState.step node contact s act = some t → inv t)
    (leave : ∀ contact s act t, inv s → guard contact s act = true → allowed contact s act = false →
      GoalState.step node contact s act = some t → lost t)
    (stay : ∀ contact s act t, lost s → GoalState.step node contact s act = some t → lost t)
    {acts : List Action} {s t : System} (start : inv (s.goal id))
    (met : Meets (System.step node) (OnGoal id guard) s acts)
    (h : run (System.step node) s acts = some t) :
    Meets (System.step node) (OnGoal id allowed) s acts ∧ inv (t.goal id) ∨
      ¬ Meets (System.step node) (OnGoal id allowed) s acts ∧ lost (t.goal id) := by
  refine @run_dichotomy _ _ _ _ (fun s => inv (s.goal id)) (fun s => lost (s.goal id)) _ ?_ ?_ ?_
    acts s t start met h
  · intro s act t held guarded within taken
    rcases goal_step id taken with ⟨own, rfl, moved⟩ | same
    · exact keep _ _ _ _ held (guarded rfl) (within rfl) moved
    · rw [same]
      exact held
  · intro s act t held guarded without taken
    cases act with
    | contact c => exact (without trivial).elim
    | goal other own =>
      obtain ⟨rfl, refused⟩ := Classical.not_imp.mp without
      exact leave _ _ _ _ held (guarded rfl) (Bool.eq_false_iff.mpr refused) (own_step taken)
  · intro s act t held taken
    rcases goal_step id taken with ⟨own, -, moved⟩ | same
    · exact stay _ _ _ _ held moved
    · rw [same]
      exact held

/-- A label of the steps of one goal. -/
def labelOf {B : Type} (id : GoalId) (label : GoalAction → Option B) : Action → Option B
  | .goal other act => if other = id then label act else none
  | .contact _ => none

theorem labelOf_eq_some {B : Type} {id : GoalId} {label : GoalAction → Option B} {act : Action} {b : B}
    (h : labelOf id label act = some b) : ∃ own, act = .goal id own ∧ label own = some b := by
  cases act with
  | contact c => cases h
  | goal other own =>
    rw [labelOf] at h
    split at h
    · rename_i mine
      exact ⟨own, by rw [mine], h⟩
    · cases h

/-- The labels of a goal's steps where they are taken. -/
def labelsOf {B : Type} (id : GoalId) (label : GoalState → GoalAction → Option B) (s : System) :
    Action → List B
  | .goal other act => if other = id then (label (s.goal id) act).toList else []
  | .contact _ => []

/-- What a goal has been through goes with its own steps only. -/
theorem goal_labels {B : Type} {label : GoalState → GoalAction → Option B}
    {inv : List B → GoalState → Prop}
    (preserve : ∀ past contact s act t, inv past s → GoalState.step node contact s act = some t →
      inv (past ++ (label s act).toList) t)
    {acts : List Action} {s : System} (id : GoalId) (start : inv [] {})
    (h : run (System.step node) System.init acts = some s) :
    inv (labels (System.step node) (labelsOf id label) System.init acts) (s.goal id) := by
  have kept : ∀ past s act t, inv past (s.goal id) → True → System.step node s act = some t →
      inv (past ++ labelsOf id label s act) (t.goal id) := by
    intro past s act t held _ taken
    cases act with
    | goal other own =>
      by_cases mine : other = id
      · subst mine
        rw [labelsOf, if_pos rfl]
        exact preserve past _ _ own _ held (own_step taken)
      · rcases goal_step id taken with ⟨_, same, -⟩ | same
        · exact (mine (Action.goal.inj same).1).elim
        · rw [labelsOf, if_neg mine, same, List.append_nil]
          exact held
    | contact c =>
      rcases goal_step id taken with ⟨_, same, -⟩ | same
      · cases same
      · rw [labelsOf, same, List.append_nil]
        exact held
  exact @run_invariant_of_labels _ _ _ _ _ _ (fun past s => inv past (s.goal id)) kept acts [] _ s start
    (meets_of_forall fun _ _ => trivial) h

theorem goal_history {B : Type} {label : GoalAction → Option B} {inv : List B → GoalState → Prop}
    (preserve : ∀ past contact s act t, inv past s → GoalState.step node contact s act = some t →
      inv (past ++ (label act).toList) t)
    {acts : List Action} {s : System} (id : GoalId) (start : inv [] {})
    (h : run (System.step node) System.init acts = some s) :
    inv (acts.filterMap (labelOf id label)) (s.goal id) := by
  have same : labelsOf id (fun _ act => label act) = fun _ act => (labelOf id label act).toList := by
    funext s act
    cases act with
    | goal other own =>
      simp only [labelsOf, labelOf]
      split <;> rfl
    | contact c => rfl
  rw [← labels_filterMap h, ← same]
  exact goal_labels preserve id start h

end System

/-! ### A bench set-up, to run the node on -/

/-- `GoToJointConfig` to the zero configuration, under a token of ones. -/
def benchGoal : ActionGoal := .move (.jointConfig { token := fun _ => 1 })

/-- A plan `on_plan_done` finds nothing wrong with. -/
def benchPlan : JointTrajectory where
  jointNames := benchNode.armJointNames
  points := [{ positions := List.replicate kNumJoints (.finite 0) }]

def benchReply : PlannerReply := .result true (some { success := true, trajectory := benchPlan })

def benchId : GoalId := fun _ => 7

def bench (acts : List GoalAction) : List Action := acts.map (Action.goal benchId)

def benchAccept : List GoalAction := [.goal benchGoal { stampS := .finite 1 } .accept, .accept]

def benchPlanning : List GoalAction := [.main, .main, .armState {}]

end KinovaGen3
