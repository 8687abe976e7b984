import KinovaGen3.Lifecycle.FeedbackSteps
import KinovaGen3.Planning.CancelSlot

/-!
The node and the one planner client its GoTo servers share. The callbacks of a dispatch go on with the
goal that waits for it, and a cancel of any goal that is not executing goes to the client's one slot.
-/

namespace KinovaGen3
open Transition Interaction

def PlannerHold.arm : PlannerHold → UInt8
  | none => HOLD_NONE
  | level => HOLD_LEVEL
  | fixed => HOLD_FIXED

/-- The call that sends a planner goal. -/
def PlannerGoal.call : PlannerGoal → PlannerCall
  | planToPose target startJoints hold => .plan target startJoints hold.arm
  | planToJoints targetJoints startJoints => .planToJoints targetJoints startJoints
  | blend legs blendRadius speedScale hold holdOrientation =>
    .blend legs blendRadius speedScale (hold.map PlannerHold.arm) holdOrientation

theorem toPlanner_arm (hold : PlannerHold) : toPlanner hold.arm = .ok hold := by
  cases hold <;> rfl

theorem mapM_toPlanner_arm (holds : List PlannerHold) :
    (holds.map PlannerHold.arm).mapM toPlanner = .ok holds := by
  induction holds with
  | nil => rfl
  | cons hold holds ih =>
    rw [List.map_cons, List.mapM_cons, toPlanner_arm, ih]
    rfl

@[simp] theorem PlannerGoal.call_goal (goal : PlannerGoal) : goal.call.goal = .ok goal := by
  cases goal with
  | planToPose target start hold =>
    simp only [call, PlannerCall.goal, toPlanner_arm]
    rfl
  | planToJoints => rfl
  | blend legs radii scales holds orientations =>
    simp only [call, PlannerCall.goal, mapM_toPlanner_arm]
    rfl

theorem request_asking {m : Main} {goal : PlannerGoal} (h : m.request? = some goal) :
    ∃ name next, m = .planning (.ask (.planner goal name) next) := by
  unfold Main.request? at h
  split at h
  · obtain rfl := Option.some.inj h
    exact ⟨_, _, rfl⟩
  · cases h

def GoalAction.reply? : GoalAction → Option PlannerReply
  | planner reply => some reply
  | _ => none

/-- `handle_cancel` calls `planner_.cancel()`. -/
def GoalState.cancelsPlan (s : GoalState) : GoalAction → Bool
  | .cancelStep i _ =>
    match s.handle, s.cancels[i]? with
    | some ⟨.move _, _⟩, some (.looked _ false _) => true
    | _, _ => false
  | _ => false

def System.cancelsPlan (s : System) : Action → Bool
  | .goal id act => (s.goal id).cancelsPlan act
  | .contact _ => false

/-- A dispatch: the goal it is for, and how many requests of that goal have been answered before. -/
abbrev PlanId := GoalId × Nat

structure SharedPlanner where
  system : System
  client : PlannerClient PlanId := {}
  answered : GoalId → Nat := fun _ => 0

inductive SharedAction where
  | node (act : Action)
  /-- The goal's request is dispatched. -/
  | dispatch (id : GoalId) (available : Bool)
  | goalResponse (plan : PlanId) (accepted : Bool)
  | result (plan : PlanId) (succeeded : Bool) (result : Option PlannerResult)

/-- What a step tells the goal that waits for it. -/
def SharedAction.told? (id : GoalId) : SharedAction → Option PlannerReply
  | dispatch other false => if other = id then some .unavailable else none
  | goalResponse plan false => if plan.1 = id then some .rejected else none
  | result plan succeeded r => if plan.1 = id then some (.result succeeded r) else none
  | _ => none

namespace SharedPlanner

def init : SharedPlanner := { system := System.init }

variable (node : Node)

/-- `on_done` goes on with the goal's program. -/
def answer (s : SharedPlanner) (id : GoalId) (reply : PlannerReply) (client : PlannerClient PlanId) :
    Option SharedPlanner :=
  (s.system.step node (.goal id (.planner reply))).map fun system =>
    { system := system, client := client
      answered := Function.update s.answered id (s.answered id + 1) }

def step (s : SharedPlanner) : SharedAction → Option SharedPlanner
  -- The planner is only heard through the client.
  | .node (.goal _ (.planner _)) => none
  | .node act =>
    (s.system.step node act).bind fun system =>
      if s.system.cancelsPlan act then
        (s.client.step .cancel).map fun client => { s with system := system, client := client }
      else some { s with system := system }
  | .dispatch id available =>
    (s.system.main id).request?.bind fun goal =>
      (s.client.step (.dispatch (id, s.answered id) goal.call available)).bind fun client =>
        if available then some { s with client := client } else s.answer node id .unavailable client
  | .goalResponse plan accepted =>
    (s.client.step (.goalResponse plan accepted)).bind fun client =>
      if accepted then some { s with client := client } else s.answer node plan.1 .rejected client
  | .result plan succeeded r =>
    (s.client.step (.result plan succeeded r)).bind fun client =>
      s.answer node plan.1 (.result succeeded r) client

/-! ### What each step needs and does -/

inductive Step (s : SharedPlanner) : SharedAction → SharedPlanner → Prop where
  | node (other : ∀ id reply, act ≠ .goal id (.planner reply)) (moved : s.system.step node act = some sys)
      (keeps : s.system.cancelsPlan act = false) : Step s (.node act) { s with system := sys }
  | cancel (other : ∀ id reply, act ≠ .goal id (.planner reply))
      (moved : s.system.step node act = some sys) (cancels : s.system.cancelsPlan act = true) :
      Step s (.node act)
        { s with
          system := sys
          client := { s.client with cancels := s.client.cancels ++ s.client.activeCancel.toList } }
  | dispatch (asks : (s.system.main i).request? = some goal)
      (sent : s.client.step (.dispatch (i, s.answered i) goal.call true) = some after) :
      Step s (.dispatch i true) { s with client := after }
  | unavailable (asks : (s.system.main i).request? = some goal)
      (failed : s.client.step (.dispatch (i, s.answered i) goal.call false) = some after)
      (told : s.answer node i .unavailable after = some t) : Step s (.dispatch i false) t
  | accept (accepted : s.client.step (.goalResponse plan true) = some after) :
      Step s (.goalResponse plan true) { s with client := after }
  | reject (rejected : s.client.step (.goalResponse plan false) = some after)
      (told : s.answer node plan.1 .rejected after = some t) : Step s (.goalResponse plan false) t
  | result (ended : s.client.step (.result plan succeeded r) = some after)
      (told : s.answer node plan.1 (.result succeeded r) after = some t) :
      Step s (.result plan succeeded r) t

section
variable {node : Node} {s t : SharedPlanner} {act : SharedAction}

theorem node_cases {act : Action} (h : s.step node (.node act) = some t) :
    Step node s (.node act) t := by
  have other : ∀ id reply, act ≠ .goal id (.planner reply) := by
    rintro id reply rfl
    cases h
  have h : (s.system.step node act).bind (fun system =>
      if s.system.cancelsPlan act then
        (s.client.step .cancel).map fun client => { s with system := system, client := client }
      else some { s with system := system }) = some t := by
    unfold step at h
    split at h
    · cases h
    · rename_i same
      obtain rfl := SharedAction.node.inj same
      exact h
    all_goals rename_i same; cases same
  obtain ⟨system, moved, h⟩ := Option.bind_eq_some_iff.mp h
  split at h
  · obtain rfl := Option.some.inj h
    exact .cancel other moved ‹_›
  · obtain rfl := Option.some.inj h
    exact .node other moved (Bool.eq_false_iff.mpr ‹_›)

theorem step_cases (h : s.step node act = some t) : Step node s act t := by
  cases act with
  | node act => exact node_cases h
  | dispatch id available =>
    obtain ⟨goal, asks, h⟩ := Option.bind_eq_some_iff.mp h
    obtain ⟨client, sent, h⟩ := Option.bind_eq_some_iff.mp h
    cases available with
    | true =>
      cases h
      exact .dispatch asks sent
    | false => exact .unavailable asks sent h
  | goalResponse plan accepted =>
    obtain ⟨client, responded, h⟩ := Option.bind_eq_some_iff.mp h
    cases accepted with
    | true =>
      cases h
      exact .accept responded
    | false => exact .reject responded h
  | result plan succeeded r =>
    obtain ⟨client, ended, h⟩ := Option.bind_eq_some_iff.mp h
    exact .result ended h

end

/-! ### Who waits for what -/

section
variable {node : Node} {s t : SharedPlanner} {act : SharedAction} {id : GoalId} {past : List PlannerReply}

/-- The goal has been told the outcomes of its dispatches, in their order, and waits for the last one
if that is not over. -/
structure Waits (id : GoalId) (past : List PlannerReply) (s : SharedPlanner) : Prop where
  count : past.length = s.answered id
  past : ∀ k reply, past[k]? = some reply → ∃ p goal, s.client.dispatches (id, k) = some p ∧
    p.phase = .finished ∧ p.call.goal = .ok goal ∧ p.done = some (reply.outcome goal)
  now : ∀ p, s.client.dispatches (id, s.answered id) = some p → p.phase ≠ .finished ∧ p.done = none ∧
    ∃ goal, (s.system.main id).request? = some goal ∧ p.call.goal = .ok goal
  later : ∀ k, s.answered id < k → s.client.dispatches (id, k) = none

theorem request_kept {s t : System} {act : Action} (moved : s.step node act = some t)
    (other : ∀ reply, act ≠ .goal id (.planner reply)) {goal : PlannerGoal}
    (asks : (s.main id).request? = some goal) : (t.main id).request? = some goal := by
  rcases System.goal_step id moved with ⟨own, rfl, taken⟩ | same
  · obtain ⟨name, next, reached⟩ := request_asking asks
    rcases GoalState.step_asking (s := s.goal id) reached taken with ⟨reply, rfl, -⟩ | ⟨-, main⟩
    · exact (other reply rfl).elim
    · have main : t.main id = s.main id := main
      rw [main]
      exact asks
  · have main : t.main id = s.main id := congrArg GoalState.main same
    rw [main]
    exact asks

theorem Waits.frame (h : Waits id past s)
    (dispatches : ∀ k, t.client.dispatches (id, k) = s.client.dispatches (id, k))
    (answered : t.answered id = s.answered id)
    (request : ∀ goal, (s.system.main id).request? = some goal → (t.system.main id).request? = some goal) :
    Waits id past t := by
  refine ⟨h.count.trans answered.symm, fun k reply told => ?_, fun p held => ?_, fun k later => ?_⟩
  · obtain ⟨p, goal, held, ended⟩ := h.past k reply told
    exact ⟨p, goal, (dispatches k).trans held, ended⟩
  · rw [answered, dispatches] at held
    obtain ⟨open', quiet, goal, asks, planned⟩ := h.now p held
    exact ⟨open', quiet, goal, request goal asks, planned⟩
  · rw [dispatches]
    exact h.later k (answered ▸ later)

/-- A dispatch that is not over is the one the goal waits for. -/
theorem Waits.current (h : Waits id past s) {k : Nat} {p : Dispatch}
    (held : s.client.dispatches (id, k) = some p) (unfinished : p.phase ≠ .finished) :
    k = s.answered id := by
  rcases Nat.lt_trichotomy k (s.answered id) with before | now | after
  · have told : k < past.length := h.count ▸ before
    obtain ⟨p', goal, held', ended, -⟩ := h.past k _ (List.getElem?_eq_getElem told)
    obtain rfl := Option.some.inj (held.symm.trans held')
    exact (unfinished ended).elim
  · exact now
  · rw [h.later k after] at held
    cases held

theorem answer_cases {reply : PlannerReply} {client : PlannerClient PlanId}
    (told : s.answer node id reply client = some t) :
    t.client = client ∧ t.answered = Function.update s.answered id (s.answered id + 1) ∧
      s.system.step node (.goal id (.planner reply)) = some t.system := by
  obtain ⟨sys, moved, rfl⟩ := Option.map_eq_some_iff.mp told
  exact ⟨rfl, rfl, moved⟩

/-- A goal goes on with the outcome of the dispatch it waits for. -/
theorem Waits.answer (h : Waits id past s) {reply : PlannerReply} {after : PlannerClient PlanId}
    {p : Dispatch} {goal : PlannerGoal} (told : s.answer node id reply after = some t)
    (set : after.dispatches = Function.update s.client.dispatches (id, s.answered id) (some p))
    (ended : p.phase = .finished) (planned : p.call.goal = .ok goal)
    (done : p.done = some (reply.outcome goal)) : Waits id (past ++ [reply]) t := by
  obtain ⟨client, answered, -⟩ := answer_cases told
  have count : t.answered id = s.answered id + 1 := by rw [answered, Function.update_self]
  have other : ∀ k, k ≠ s.answered id →
      t.client.dispatches (id, k) = s.client.dispatches (id, k) := by
    intro k different
    rw [client, set]
    exact Function.update_of_ne (fun same => different (Prod.mk.inj same).2) _ _
  refine ⟨?_, fun k reply' given => ?_, fun q held => ?_, fun k later => ?_⟩
  · rw [count, List.length_append, h.count]
    rfl
  · rcases Nat.lt_or_ge k past.length with before | last
    · rw [List.getElem?_append_left before] at given
      obtain ⟨q, goal', held, rest⟩ := h.past k reply' given
      exact ⟨q, goal', (other k (by rw [← h.count]; omega)).trans held, rest⟩
    · rw [List.getElem?_append_right last, List.getElem?_singleton] at given
      split at given
      · obtain rfl := Option.some.inj given
        have here : k = s.answered id := by rw [← h.count]; omega
        refine ⟨p, goal, ?_, ended, planned, done⟩
        rw [client, set, here]
        exact Function.update_self ..
      · cases given
  · rw [count, other _ (by omega), h.later _ (by omega)] at held
    cases held
  · rw [count] at later
    rw [other _ (by omega)]
    exact h.later k (by omega)

/-- What the client does for the dispatch of another goal. -/
theorem Waits.elsewhere (h : Waits id past s) {other : GoalId} {k : Nat} {p : Option Dispatch}
    (different : other ≠ id) (set : t.client.dispatches = Function.update s.client.dispatches (other, k) p)
    (answered : t.answered id = s.answered id)
    (request : ∀ goal, (s.system.main id).request? = some goal → (t.system.main id).request? = some goal) :
    Waits id past t := by
  refine h.frame (fun k' => ?_) answered request
  rw [set]
  exact Function.update_of_ne (fun same => different (Prod.mk.inj same).1.symm) _ _

theorem Waits.answerElsewhere (h : Waits id past s) {other : GoalId} {k : Nat} {p : Option Dispatch}
    {reply : PlannerReply} {after : PlannerClient PlanId} (different : other ≠ id)
    (told : s.answer node other reply after = some t)
    (set : after.dispatches = Function.update s.client.dispatches (other, k) p) : Waits id past t := by
  obtain ⟨rfl, answered, moved⟩ := answer_cases told
  refine h.elsewhere different set ?_ fun goal asks => request_kept moved ?_ asks
  · rw [answered, Function.update_of_ne different.symm]
  · rintro reply' same
    exact different (Action.goal.inj same).1

theorem dispatched_call {goal : PlannerGoal} :
    PlannerClient.dispatched goal.call true = { call := goal.call, phase := .sent } ∧
      PlannerClient.dispatched goal.call false =
        Dispatch.fire { call := goal.call, phase := .sent } (PlannerReply.unavailable.outcome goal) := by
  simp [PlannerClient.dispatched]

theorem replied_call {goal : PlannerGoal} {p : Dispatch} {reply : PlannerReply} (quiet : p.done = none)
    (planned : p.call.goal = .ok goal) : (PlannerClient.replied p reply).phase = .finished ∧
      (PlannerClient.replied p reply).call = p.call ∧
      (PlannerClient.replied p reply).done = some (reply.outcome goal) := by
  simp [PlannerClient.replied, planned, Dispatch.fire, quiet]

/-- The callback that ends a dispatch. -/
theorem Waits.reply (h : Waits id past s) {k : Nat} {p : Dispatch} {reply : PlannerReply}
    {after : PlannerClient PlanId} (held : s.client.dispatches (id, k) = some p)
    (unfinished : p.phase ≠ .finished) (told : s.answer node id reply after = some t)
    (set : after.dispatches =
      Function.update s.client.dispatches (id, k) (some (PlannerClient.replied p reply))) :
    Waits id (past ++ [reply]) t := by
  obtain rfl := h.current held unfinished
  obtain ⟨-, quiet, goal, -, planned⟩ := h.now p held
  obtain ⟨ended, same, done⟩ := @replied_call goal p reply quiet planned
  exact h.answer told set ended (same.symm ▸ planned) done

/-- The dispatch that the goal waits for, in another phase. -/
theorem Waits.put (h : Waits id past s) {p : Dispatch} {goal : PlannerGoal} {client : PlannerClient PlanId}
    (set : client.dispatches = Function.update s.client.dispatches (id, s.answered id) (some p))
    (unfinished : p.phase ≠ .finished) (quiet : p.done = none)
    (asks : (s.system.main id).request? = some goal) (planned : p.call.goal = .ok goal) :
    Waits id past { s with client := client } := by
  have other : ∀ k, k ≠ s.answered id →
      client.dispatches (id, k) = s.client.dispatches (id, k) := by
    intro k different
    rw [set]
    exact Function.update_of_ne (fun same => different (Prod.mk.inj same).2) _ _
  refine ⟨h.count, fun k reply told => ?_, fun q held => ?_, fun k later => ?_⟩
  · obtain ⟨q, goal', held, rest⟩ := h.past k reply told
    have before : k < past.length := (List.getElem?_eq_some_iff.mp told).1
    rw [h.count] at before
    exact ⟨q, goal', (other k (by omega)).trans held, rest⟩
  · have held : client.dispatches (id, s.answered id) = some q := held
    rw [set, Function.update_self] at held
    have new : some p = some q := held
    obtain rfl := Option.some.inj new
    exact ⟨unfinished, quiet, goal, asks, planned⟩
  · have later : s.answered id < k := later
    exact (other k (by omega)).trans (h.later k later)

theorem waits_step (taken : s.step node act = some t) (h : Waits id past s) :
    Waits id (past ++ (act.told? id).toList) t := by
  cases step_cases taken with
  | node other moved | cancel other moved =>
    show Waits id (past ++ []) _
    rw [List.append_nil]
    exact h.frame (fun _ => rfl) rfl fun goal asks => request_kept moved (fun reply => other id reply) asks
  | @dispatch i goal after asks sent =>
    show Waits id (past ++ []) _
    rw [List.append_nil]
    cases PlannerClient.step_cases sent with
    | dispatch fresh =>
      by_cases mine : i = id
      · subst mine
        rw [dispatched_call.1]
        exact h.put rfl nofun rfl asks goal.call_goal
      · exact h.elsewhere mine rfl rfl fun _ asks => asks
  | @unavailable i goal after _ asks failed told =>
    cases PlannerClient.step_cases failed with
    | dispatch fresh =>
      by_cases mine : i = id
      · subst mine
        rw [SharedAction.told?, if_pos rfl]
        rw [dispatched_call.2] at told
        exact h.answer told rfl rfl goal.call_goal rfl
      · rw [SharedAction.told?, if_neg mine, Option.toList_none, List.append_nil]
        exact h.answerElsewhere mine told rfl
  | @accept plan after accepted =>
    show Waits id (past ++ []) _
    rw [List.append_nil]
    cases PlannerClient.step_cases accepted with
    | @accept _ p waiting sent =>
      obtain ⟨other, k⟩ := plan
      by_cases mine : other = id
      · subst mine
        obtain rfl := h.current waiting (by rw [sent]; exact nofun)
        obtain ⟨-, quiet, goal, asks, planned⟩ := h.now p waiting
        exact h.put rfl nofun quiet asks planned
      · exact h.elsewhere mine rfl rfl fun _ asks => asks
  | @reject plan after _ rejected told =>
    cases PlannerClient.step_cases rejected with
    | @reject _ p waiting sent =>
      obtain ⟨other, k⟩ := plan
      by_cases mine : other = id
      · subst mine
        rw [SharedAction.told?, if_pos rfl]
        exact h.reply waiting (by rw [sent]; exact nofun) told rfl
      · rw [SharedAction.told?, if_neg mine, Option.toList_none, List.append_nil]
        exact h.answerElsewhere mine told rfl
  | @result plan succeeded r after _ ended told =>
    cases PlannerClient.step_cases ended with
    | @result _ p _ _ flying inFlight =>
      obtain ⟨other, k⟩ := plan
      by_cases mine : other = id
      · subst mine
        rw [SharedAction.told?, if_pos rfl]
        exact h.reply flying (by rw [inFlight]; exact nofun) told rfl
      · rw [SharedAction.told?, if_neg mine, Option.toList_none, List.append_nil]
        exact h.answerElsewhere mine told rfl

theorem waits_init : Waits id [] init where
  count := rfl
  past _ _ := nofun
  now _ := nofun
  later _ _ := rfl

theorem waits {acts : List SharedAction} (h : run (step node) init acts = some s) (id : GoalId) :
    Waits id (acts.filterMap (SharedAction.told? id)) s :=
  have kept : ∀ past s act t, Waits id past s → True → step node s act = some t →
      Waits id (past ++ (act.told? id).toList) t :=
    fun _ _ _ _ held _ taken => waits_step taken held
  run_invariant_of_history kept waits_init (meets_of_forall fun _ _ => trivial) h

/-! ### The node and the client, each by itself -/

theorem system_step (taken : s.step node act = some t) :
    ∃ part, run (System.step node) s.system part = some t.system ∧
      ∀ id, part.filterMap (System.labelOf id GoalAction.reply?) = (act.told? id).toList := by
  have one : ∀ {i : GoalId} {reply : PlannerReply} {after : PlannerClient PlanId},
      s.answer node i reply after = some t →
      run (System.step node) s.system [.goal i (.planner reply)] = some t.system :=
    fun told => run_single.mpr (answer_cases told).2.2
  have heard : ∀ {i id : GoalId} {reply : PlannerReply},
      [Action.goal i (.planner reply)].filterMap (System.labelOf id GoalAction.reply?) =
        (if i = id then some reply else none).toList := by
    intro i id reply
    by_cases mine : i = id <;> simp [System.labelOf, GoalAction.reply?, mine]
  cases step_cases taken with
  | @node act _ other moved | @cancel act _ other moved =>
    refine ⟨[act], run_single.mpr moved, fun id => ?_⟩
    cases shown : System.labelOf id GoalAction.reply? act with
    | none => exact List.filterMap_cons_none shown
    | some reply =>
      obtain ⟨own, rfl, replies⟩ := System.labelOf_eq_some shown
      cases own with
      | planner given => exact (other id given rfl).elim
      | _ => cases replies
  | dispatch | accept => exact ⟨[], rfl, fun _ => rfl⟩
  | unavailable _ _ told | reject _ told | result _ told => exact ⟨_, one told, fun _ => heard⟩

theorem system_run {acts : List SharedAction} (h : run (step node) s acts = some t) :
    ∃ path, run (System.step node) s.system path = some t.system ∧
      ∀ id, path.filterMap (System.labelOf id GoalAction.reply?) =
        acts.filterMap (SharedAction.told? id) := by
  induction acts generalizing s with
  | nil =>
    obtain rfl := Option.some.inj h
    exact ⟨[], rfl, fun _ => rfl⟩
  | cons act acts ih =>
    obtain ⟨u, taken, h⟩ := run_cons.mp h
    obtain ⟨part, front, heard⟩ := system_step taken
    obtain ⟨path, back, rest⟩ := ih h
    refine ⟨part ++ path, run_append.mpr ⟨_, front, back⟩, fun id => ?_⟩
    rw [List.filterMap_append, heard, rest]
    cases shown : act.told? id <;> simp [shown]

theorem client_step (taken : s.step node act = some t) :
    ∃ part, run PlannerClient.step s.client part = some t.client := by
  cases step_cases taken with
  | node => exact ⟨[], rfl⟩
  | cancel => exact ⟨[.cancel], rfl⟩
  | dispatch _ sent => exact ⟨_, run_single.mpr sent⟩
  | accept accepted => exact ⟨_, run_single.mpr accepted⟩
  | unavailable _ ended told | reject ended told | result ended told =>
    exact ⟨_, run_single.mpr ((answer_cases told).1 ▸ ended)⟩

theorem client_run {acts : List SharedAction} (h : run (step node) s acts = some t) :
    ∃ path, run PlannerClient.step s.client path = some t.client := by
  induction acts generalizing s with
  | nil =>
    obtain rfl := Option.some.inj h
    exact ⟨[], rfl⟩
  | cons act acts ih =>
    obtain ⟨u, taken, h⟩ := run_cons.mp h
    obtain ⟨part, front⟩ := client_step taken
    obtain ⟨path, back⟩ := ih h
    exact ⟨part ++ path, run_append.mpr ⟨_, front, back⟩⟩

/-- A goal that waits for the planner goes on with whatever it answers. -/
theorem answer_isSome {goal : PlannerGoal} (asks : (s.system.main id).request? = some goal)
    (reply : PlannerReply) (after : PlannerClient PlanId) : (s.answer node id reply after).isSome := by
  obtain ⟨name, next, reached⟩ := request_asking asks
  have here : (s.system.goal id).main = .planning (.ask (.planner goal name) next) := reached
  simp [answer, System.step, GoalState.step, here]

theorem Waits.goalResponse (h : Waits id past s) {k : Nat} {accepted : Bool}
    (called : (s.client.step (.goalResponse (id, k) accepted)).isSome) :
    (s.step node (.goalResponse (id, k) accepted)).isSome := by
  obtain ⟨after, responded⟩ := Option.isSome_iff_exists.mp called
  simp only [step, responded, Option.bind_some]
  cases accepted with
  | true => rfl
  | false =>
    cases PlannerClient.step_cases responded with
    | reject waiting sent =>
      obtain rfl := h.current waiting (by rw [sent]; exact nofun)
      obtain ⟨-, -, goal, asks, -⟩ := h.now _ waiting
      exact answer_isSome asks _ _

theorem Waits.result (h : Waits id past s) {k : Nat} {succeeded : Bool} {r : Option PlannerResult}
    (called : (s.client.step (.result (id, k) succeeded r)).isSome) :
    (s.step node (.result (id, k) succeeded r)).isSome := by
  obtain ⟨after, ended⟩ := Option.isSome_iff_exists.mp called
  simp only [step, ended, Option.bind_some]
  cases PlannerClient.step_cases ended with
  | result flying inFlight =>
    obtain rfl := h.current flying (by rw [inFlight]; exact nofun)
    obtain ⟨-, -, goal, asks, -⟩ := h.now _ flying
    exact answer_isSome asks _ _

end

end SharedPlanner
/-- The servers share one planner client, and no callback reaches a goal that does not wait for it. The
node and the client each run as they do alone; a goal is told exactly the outcomes of its own dispatches,
each of them once and in order, and waits for the one that is not over; and every callback the client
gets finds its goal waiting. -/
theorem planner_callbacks_find_goal (node : Node) (acts : List SharedAction) (s : SharedPlanner)
    (h : run (SharedPlanner.step node) SharedPlanner.init acts = some s) :
    (∃ path, run (System.step node) System.init path = some s.system ∧
      ∀ id, path.filterMap (System.labelOf id GoalAction.reply?) =
        acts.filterMap (SharedAction.told? id)) ∧
    (∃ path, run PlannerClient.step {} path = some s.client) ∧
    (∀ id k reply, (acts.filterMap (SharedAction.told? id))[k]? = some reply →
      ∃ p goal, s.client.dispatches (id, k) = some p ∧ p.call.goal = .ok goal ∧
        p.done = some (reply.outcome goal)) ∧
    (∀ id k p, s.client.dispatches (id, k) = some p →
      k < (acts.filterMap (SharedAction.told? id)).length ∨
      k = (acts.filterMap (SharedAction.told? id)).length ∧ p.done = none ∧
        ∃ goal, (s.system.main id).request? = some goal ∧ p.call.goal = .ok goal) ∧
    (∀ plan accepted, (s.client.step (.goalResponse plan accepted)).isSome →
      (s.step node (.goalResponse plan accepted)).isSome) ∧
    ∀ plan succeeded r, (s.client.step (.result plan succeeded r)).isSome →
      (s.step node (.result plan succeeded r)).isSome := by
  have waits := SharedPlanner.waits h
  refine ⟨SharedPlanner.system_run h, SharedPlanner.client_run h, fun id k reply told => ?_,
    fun id k p held => ?_, fun plan _ => (waits plan.1).goalResponse, fun plan _ _ => (waits plan.1).result⟩
  · obtain ⟨p, goal, held, -, planned, done⟩ := (waits id).past k reply told
    exact ⟨p, goal, held, planned, done⟩
  · rw [(waits id).count]
    rcases Nat.lt_trichotomy k (s.answered id) with before | rfl | after
    · exact Or.inl before
    · obtain ⟨-, quiet, waiting⟩ := (waits id).now p held
      exact Or.inr ⟨rfl, quiet, waiting⟩
    · rw [(waits id).later k after] at held
      cases held

def benchNeighbour : GoalId := fun _ => 8

/-- One goal's plan is in flight while another goal is accepted. -/
def benchTwoGoals : List SharedAction :=
  (bench (benchAccept ++ benchPlanning)).map .node ++
    [.dispatch benchId true, .goalResponse (benchId, 0) true] ++
    (benchAccept ++ [GoalAction.main]).map fun act => SharedAction.node (.goal benchNeighbour act)

/-- The other goal's request finds the planner gone, and the first goal's plan comes back. -/
def benchTwoPlans : List SharedAction :=
  benchTwoGoals ++ [.node (.goal benchNeighbour .main), .node (.goal benchNeighbour (.armState {})),
    .dispatch benchNeighbour false, .result (benchId, 0) true none]

theorem planner_callbacks_find_goal_benchTwoPlans : ∃ s p,
    run (SharedPlanner.step benchNode) SharedPlanner.init benchTwoPlans = some s ∧
      s.client.dispatches (benchNeighbour, 0) = some p ∧
      p.done = some { message := "cuRobo action server unavailable" } := by
  obtain ⟨s, ran, -⟩ := run_reaches (SharedPlanner.step benchNode) SharedPlanner.init benchTwoPlans
    (fun _ => true) (by decide +kernel)
  obtain ⟨-, -, told, -⟩ := planner_callbacks_find_goal benchNode benchTwoPlans s ran
  obtain ⟨p, goal, held, -, done⟩ := told benchNeighbour 0 .unavailable rfl
  exact ⟨s, p, ran, held, done⟩

end KinovaGen3
