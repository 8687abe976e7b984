import KinovaGen3.Library.Delivery
import KinovaGen3.Lifecycle.FeedbackOrder

/-!
Where a goal's feedback comes from. Each message is one that the planner or the Supervisor has given
for this goal, published once, and none is lost while the goal has its entry and is not being settled.
-/

namespace KinovaGen3
open Transition Delivery
open scoped List

/-- What the goal's client is told when the planner or the Supervisor says this. -/
def Tells (goal : ActionGoal) : FeedbackAction → ActionFeedback → Prop
  | .planner k state, msg => ∃ g name, goal = .move g ∧ g.feedbackPrefixes[k]? = some name ∧
      msg = plannerFeedback (name ++ state)
  | .sample fb, msg => msg = goal.port.feedback fb
  | .step _, _ => False

def FeedbackAction.said? : FeedbackAction → Option FeedbackAction
  | .step _ => none
  | said => some said

/-- What is said of the goal under the id. -/
def RelayAction.said? (id : GoalId) : RelayAction → Option FeedbackAction
  | .feedback other act => if other = id then act.said? else none
  | .node _ => none

namespace FeedbackCall

def isPublished : FeedbackCall → Bool
  | published _ => true
  | _ => false

def isDone : FeedbackCall → Bool
  | published _ | dropped => true
  | _ => false

end FeedbackCall

/-- A GoTo goal is said to be in its planning phase before its plan is asked for. -/
def ActionGoal.opening : ActionGoal → List ActionFeedback
  | .move _ => [planningFeedback]
  | .execute _ => []

namespace GoalState

/-- What `handle_accepted` has published. -/
def opening (s : GoalState) : List ActionFeedback :=
  if s.main.unplanned then [] else (s.handle.map (·.goal)).elim [] ActionGoal.opening

/-- The goal has its entry, and the Supervisor has not begun to settle it. -/
def Live (s : GoalState) (port : Port) : Prop := s.holds port = true ∧ s.settle = .waiting

instance (s : GoalState) (port : Port) : Decidable (s.Live port) :=
  inferInstanceAs (Decidable (_ ∧ _))

end GoalState

/-- A callback has this message in hand; one that has dropped it did so after the goal was over. -/
def Relays (goal : ActionGoal) (s : GoalState) (msg : ActionFeedback) : FeedbackCall → Prop
  | .heard _ state | .relaying _ state => msg = plannerFeedback state
  | .sampled fb => s.handed = true ∧ msg = goal.port.feedback fb
  | .routed port fb => msg = goal.port.feedback fb ∧ (s.Live goal.port → port = goal.port)
  | .executing port fb => port = goal.port ∧ msg = goal.port.feedback fb
  | .published _ => True
  | .dropped => ¬ s.Live goal.port

/-- `pairs` are the callbacks with their messages, one for each thing that has been said. -/
structure Relayed (past : List FeedbackAction) (s : GoalState) (f : Feed)
    (pairs : List (FeedbackCall × ActionFeedback)) : Prop where
  calls : pairs.map Prod.fst = f.calls
  count : past.length = pairs.length
  tells : ∀ h ∈ s.handle, List.Forall₂ (Tells h.goal) past (pairs.map Prod.snd)
  carries : ∀ h ∈ s.handle, ∀ p ∈ pairs, Relays h.goal s p.2 p.1
  published : f.published.Perm (s.opening ++ delivered FeedbackCall.isPublished pairs)
  direct : ∀ h ∈ s.handle, ∀ e, h.goal = .execute e → f.plans = []

section
variable {node : Node} {contact : ContactState} {s t : GoalState} {f f' : Feed} {h : GoalHandle}
  {past : List FeedbackAction} {pairs : List (FeedbackCall × ActionFeedback)}

/-! ### The goal's threads -/

theorem storeGoal_live {server : MoveServer} {entry : Option Goal} {port : Port}
    (held : (s.storeGoal server entry).holds port = true)
    (before : entry.isSome = true → (s.goals server).isSome = true) : s.holds port = true := by
  rw [GoalState.storeGoal_holds] at held
  by_cases own : port = .move server
  · rw [if_pos own] at held
    rw [own]
    exact before held
  · rw [if_neg own] at held
    exact held

/-- Once its plan is started, a goal gets no new entry, and its settlement does not begin anew. -/
theorem live_step {act : GoalAction} (step : GoalStep node contact s act t)
    (planned : s.main.unplanned = false) {port : Port} (live : t.Live port) : s.Live port := by
  obtain ⟨held, waiting⟩ := live
  cases step with
  | record _ reached | backendRecord _ reached =>
    rw [reached] at planned
    cases planned
  | erase => exact ⟨storeGoal_live held fun kept => (Bool.false_ne_true kept).elim, waiting⟩
  | execute => exact ⟨storeGoal_live held fun kept => by simpa using kept, waiting⟩
  | cancelLatch _ _ found => exact ⟨storeGoal_live held fun _ => by rw [found]; rfl, waiting⟩
  | settle | settleTake | settleMiss | settleAsk | settleMove => cases waiting
  | _ => exact ⟨held, waiting⟩

/-! ### A callback -/

theorem callStep_carries {i : Nat} {call : FeedbackCall} {msg : ActionFeedback}
    (taken : f.callStep s i call = some f') (settling : s.Settling) (owns : s.handle = some h)
    (carries : Relays h.goal s msg call) :
    call.isPublished = false ∧ ∃ new, f'.calls = f.calls.set i new ∧ Relays h.goal s msg new ∧
      f'.published = f.published ++ if new.isPublished then [msg] else [] := by
  have settlement : s.Settlement h.goal.port := settling.owned owns
  cases call with
  | heard k state =>
    refine ⟨rfl, ?_⟩
    obtain ⟨goal, status⟩ := h
    rw [Feed.callStep, owns] at taken
    cases goal with
    | execute => cases taken
    | move g =>
      obtain rfl := Option.some.inj taken
      by_cases held : s.holds (.move g.server) = true
      · refine ⟨.relaying k state, ?_, carries, (List.append_nil _).symm⟩
        rw [if_pos held]
        rfl
      · refine ⟨.dropped, ?_, fun live => held live.1, (List.append_nil _).symm⟩
        rw [if_neg held]
        rfl
  | relaying k state =>
    obtain rfl := Option.some.inj taken
    exact ⟨rfl, .published (.plan k), rfl, trivial, by rw [carries]; rfl⟩
  | sampled fb =>
    obtain rfl := Option.some.inj taken
    refine ⟨rfl, .routed (s.owner.getD .backend) fb, rfl, ⟨carries.2, fun live => ?_⟩,
      (List.append_nil _).symm⟩
    have overridden : s.stage.overridden = true := by
      simp [GoalState.stage, carries.1, live.2, Settle.stage, Stage.overridden]
    rw [settlement.owner]
    by_cases default : h.goal.port = .backend
    · simp [default]
    · simp [overridden, default]
  | routed port fb =>
    obtain rfl := Option.some.inj taken
    refine ⟨rfl, ?_⟩
    by_cases held : s.holds port = true
    · refine ⟨.executing port fb, ?_, ⟨?_, carries.1⟩, (List.append_nil _).symm⟩
      · rw [if_pos held]
        rfl
      · rw [settlement.entry, Bool.and_eq_true, decide_eq_true_eq] at held
        exact held.2
    · refine ⟨.dropped, ?_, fun live => held ?_, (List.append_nil _).symm⟩
      · rw [if_neg held]
        rfl
      · rw [carries.2 live]
        exact live.1
  | executing port fb =>
    obtain rfl := Option.some.inj taken
    obtain ⟨rfl, rfl⟩ := carries
    exact ⟨rfl, .published .execution, rfl, trivial, rfl⟩
  | published | dropped => cases taken

theorem Relays.mono {msg : ActionFeedback} {call : FeedbackCall} {goal : ActionGoal}
    (carries : Relays goal s msg call) (live : t.Live goal.port → s.Live goal.port)
    (handed : s.handed = true → t.handed = true) : Relays goal t msg call := by
  cases call with
  | sampled => exact ⟨handed carries.1, carries.2⟩
  | routed => exact ⟨carries.1, fun now => carries.2 (live now)⟩
  | dropped => exact fun now => carries (live now)
  | _ => exact carries

/-! ### The goal's threads, and its callbacks -/

/-- A step that keeps the goal publishes what `handle_accepted` does. -/
theorem opening_planStep (step : PlanStep node s f t f')
    (same : t.handle.map (·.goal) = s.handle.map (·.goal)) :
    ∃ more, f'.published = f.published ++ more ∧ t.opening = s.opening ++ more := by
  unfold GoalState.opening
  rw [same]
  cases step with
  | start owns reached => exact ⟨[planningFeedback], rfl, by rw [reached, owns]; rfl⟩
  | answer reached | other reached =>
    refine ⟨[], (List.append_nil _).symm, ?_⟩
    rw [reached]
    exact (List.append_nil _).symm
  | aside main =>
    refine ⟨[], (List.append_nil _).symm, ?_⟩
    rw [main, List.append_nil]
  | direct owns late =>
    refine ⟨[], (List.append_nil _).symm, ?_⟩
    rw [late, owns]
    cases s.main.unplanned <;> rfl
  | past _ unplanned =>
    refine ⟨[], (List.append_nil _).symm, ?_⟩
    rw [unplanned, List.append_nil]

/-- No plan is asked for a goal that is executed as it is. -/
theorem plans_planStep (step : PlanStep node s f t f') (startable : s.Startable node)
    {e : ExecuteJointTrajectory.Goal} (owns : s.handle = some h) (direct : h.goal = .execute e) :
    f'.plans = f.plans := by
  cases step with
  | answer reached =>
    have main := startable.direct h owns e direct
    rw [reached] at main
    cases main
  | _ => rfl

theorem relayed_fresh (relayed : Relayed past s {} pairs) : pairs = [] ∧ past = [] := by
  have none : pairs = [] := List.map_eq_nil_iff.mp relayed.calls
  refine ⟨none, List.length_eq_zero_iff.mp ?_⟩
  rw [relayed.count, none]
  rfl

theorem relayed_goalStep {act : GoalAction} (taken : s.step node contact act = some t)
    (startable : s.Startable node) (kept : FeedKept s f) (relayed : Relayed past s f pairs) :
    Relayed past t (f.after s act) pairs := by
  have step : GoalStep node contact s act t := GoalState.step_cases taken
  have plan : PlanStep node s f t (f.after s act) := GoalState.planStep taken
  rcases GoalState.step_goal step with ⟨goal, reached, rfl⟩ | same
  · -- The handle is made before anything is said.
    obtain rfl := kept.unplanned (by rw [reached]; rfl)
    obtain ⟨rfl, rfl⟩ := relayed_fresh relayed
    obtain ⟨-, after⟩ := unplanned_planStep plan rfl
    rw [after]
    exact ⟨rfl, rfl, fun _ _ => .nil, fun _ _ _ said => (List.not_mem_nil said).elim, List.Perm.refl _,
      fun _ _ _ _ => rfl⟩
  · obtain ⟨more, published, opening⟩ := opening_planStep plan same
    have calls : (f.after s act).calls = f.calls := calls_planStep plan
    refine ⟨relayed.calls.trans calls.symm, relayed.count, fun h owns => ?_, fun h owns p member => ?_,
      ?_, fun h owns e direct => ?_⟩
    · obtain ⟨before, owned, goal⟩ := GoalState.same_goal same owns
      exact goal ▸ relayed.tells before owned
    · obtain ⟨before, owned, goal⟩ := GoalState.same_goal same owns
      have carries := relayed.carries before owned p member
      rw [goal] at carries
      refine carries.mono (live_step step ?_) (GoalState.handed_step step)
      by_contra unplanned
      obtain rfl := kept.unplanned (by simpa using unplanned)
      obtain ⟨rfl, -⟩ := relayed_fresh relayed
      cases member
    · rw [published, opening]
      calc
        _ ~ (s.opening ++ delivered FeedbackCall.isPublished pairs) ++ more :=
          relayed.published.append_right more
        _ ~ (s.opening ++ more) ++ delivered FeedbackCall.isPublished pairs := by
          rw [List.append_assoc, List.append_assoc]
          exact List.perm_append_comm.append_left _
    · obtain ⟨before, owned, goal⟩ := GoalState.same_goal same owns
      rw [plans_planStep plan startable owned (goal.trans direct)]
      exact relayed.direct before owned e (goal.trans direct)

theorem relayed_said {said : FeedbackAction} {call : FeedbackCall} {msg : ActionFeedback}
    (relayed : Relayed past s f pairs) (calls : f'.calls = f.calls ++ [call])
    (published : f'.published = f.published) (plans : f'.plans = f.plans) (new : call.isPublished = false)
    (tells : ∀ h ∈ s.handle, Tells h.goal said msg ∧ Relays h.goal s msg call) :
    Relayed (past ++ [said]) s f' (pairs ++ [(call, msg)]) := by
  refine ⟨?_, by simp [relayed.count], fun h owns => ?_, fun h owns p member => ?_, ?_, plans ▸ relayed.direct⟩
  · rw [calls, List.map_append, relayed.calls]
    rfl
  · rw [List.map_append]
    exact List.rel_append (relayed.tells h owns) (.cons (tells h owns).1 .nil)
  · rcases List.mem_append.mp member with before | last
    · exact relayed.carries h owns p before
    · obtain rfl := List.mem_singleton.mp last
      exact (tells h owns).2
  · rw [published, delivered_append new]
    exact relayed.published

theorem relayed_moved {i : Nat} {old new : FeedbackCall} {msg : ActionFeedback}
    (relayed : Relayed past s f pairs) (here : pairs[i]? = some (old, msg)) (calls : f'.calls = f.calls.set i new)
    (waiting : old.isPublished = false) (carries : ∀ h ∈ s.handle, Relays h.goal s msg new)
    (published : f'.published = f.published ++ if new.isPublished then [msg] else [])
    (plans : f'.plans = f.plans) : Relayed past s f' (pairs.set i (new, msg)) := by
  refine ⟨?_, by rw [List.length_set, relayed.count], fun h owns => ?_, fun h owns p member => ?_, ?_,
    plans ▸ relayed.direct⟩
  · rw [List.map_set, calls, relayed.calls]
  · rw [map_set here]
    exact relayed.tells h owns
  · rcases List.mem_or_eq_of_mem_set member with before | rfl
    · exact relayed.carries h owns p before
    · exact carries h owns
  · rw [published]
    have delivers := (@delivered_set _ _ _ _ i old new msg here waiting).symm.append_left s.opening
    rw [← List.append_assoc] at delivers
    exact (relayed.published.append_right _).trans delivers

/-- What the planner says is relayed under the prefix of the plan it is of. -/
theorem relayed_asked {k : Nat} {name : String} (asked : f.prefixOf s k = some name)
    (planned : s.main.unplanned = false) (startable : s.Startable node) (kept : FeedKept s f)
    (relayed : Relayed past s f pairs) (owns : s.handle = some h) :
    ∃ g, h.goal = .move g ∧ g.feedbackPrefixes[k]? = some name := by
  obtain ⟨goal, status⟩ := h
  cases goal with
  | move g => exact ⟨g, rfl, (Feed.asked_of_prefixOf (kept.sound planned g status owns) asked).2⟩
  | execute e =>
    have none : f.plans = [] := relayed.direct _ owns e rfl
    have direct : s.main.direct = true := startable.direct _ owns e rfl
    rw [Feed.prefixOf, none] at asked
    split at asked
    · obtain ⟨goal, next, reached⟩ := GoalState.asked_of_asking asked
      rw [reached] at direct
      cases direct
    · cases asked

theorem relayed_feedStep {act : FeedbackAction} (taken : f.step s act = some f')
    (settling : s.Settling) (startable : s.Startable node) (kept : FeedKept s f)
    (relayed : Relayed past s f pairs) : ∃ pairs', Relayed (past ++ act.said?.toList) s f' pairs' := by
  have step : FeedStep s f act f' := Feed.step_cases taken
  have planned : s.main.unplanned = false := by
    refine Bool.eq_false_iff.mpr fun unplanned => ?_
    obtain rfl := kept.unplanned unplanned
    exact not_feedStep step settling unplanned
  have created : s.handle.isNone = false := by
    rw [← settling.early]
    cases reached : s.main with
    | unseen | rejected | admitted =>
      rw [reached] at planned
      cases planned
    | _ => rfl
  obtain ⟨h, owns⟩ := Option.isSome_iff_exists.mp (Option.isNone_eq_false_iff.mp created)
  have only : ∀ h' ∈ s.handle, h' = h := fun h' held => Option.some.inj (held.symm.trans owns)
  cases act with
  | planner k state =>
    obtain ⟨name, asked, rfl⟩ := Option.map_eq_some_iff.mp taken
    obtain ⟨g, moves, named⟩ := relayed_asked asked planned startable kept relayed owns
    refine ⟨_, @relayed_said _ _ _ _ _ (.planner k state) (.heard k (name ++ state))
      (plannerFeedback (name ++ state)) relayed rfl rfl rfl rfl fun h' held => ?_⟩
    obtain rfl := only h' held
    exact ⟨⟨g, name, moves, named, rfl⟩, rfl⟩
  | sample fb =>
    cases step with
    | sample handed =>
      refine ⟨_, @relayed_said _ _ _ _ _ (.sample fb) (.sampled fb) (h.goal.port.feedback fb) relayed
        rfl rfl rfl rfl fun h' held => ?_⟩
      obtain rfl := only h' held
      exact ⟨rfl, handed, rfl⟩
  | step i =>
    obtain ⟨call, here, moved⟩ := Option.bind_eq_some_iff.mp taken
    rw [← relayed.calls, List.getElem?_map] at here
    obtain ⟨⟨call, msg⟩, there, rfl⟩ := Option.map_eq_some_iff.mp here
    obtain ⟨waiting, new, calls, carries, published⟩ :=
      callStep_carries moved settling owns (relayed.carries h owns _ (List.mem_of_getElem? there))
    refine ⟨pairs.set i (new, msg), ?_⟩
    show Relayed (past ++ []) s f' _
    rw [List.append_nil]
    exact relayed_moved relayed there calls waiting (fun h' held => only h' held ▸ carries) published
      (Feed.plans_step step)

end

namespace Relay
variable {node : Node} {s t : Relay} {act : RelayAction} {id : GoalId} {past : List FeedbackAction}

structure Faithful (node : Node) (id : GoalId) (past : List FeedbackAction) (s : Relay) : Prop where
  kept : Kept node id s
  relayed : ∃ pairs, Relayed past (s.goal id) (s.feed id) pairs

theorem faithful_step (h : Faithful node id past s) (taken : s.step node act = some t) :
    Faithful node id (past ++ (act.said? id).toList) t := by
  obtain ⟨acts, front⟩ := h.kept.reached
  obtain ⟨pairs, relayed⟩ := h.relayed
  refine ⟨kept_step h.kept taken, ?_⟩
  obtain ⟨own, rfl, moved, feed⟩ | ⟨own, rfl, goal, moved⟩ | ⟨goal, feed, quiet⟩ := feed_step id taken
  · refine ⟨pairs, ?_⟩
    rw [feed]
    show Relayed (past ++ []) _ _ _
    rw [List.append_nil]
    exact relayed_goalStep moved (System.startable front id) h.kept.feed relayed
  · rw [goal, RelayAction.said?, if_pos rfl]
    exact relayed_feedStep moved (System.settling front id) (System.startable front id) h.kept.feed relayed
  · have silent : act.said? id = none := by
      cases act with
      | node => rfl
      | feedback other own => exact if_neg fun same => quiet own (by rw [same])
    rw [silent, goal, feed]
    exact ⟨pairs, by simpa using relayed⟩

end Relay

/-- Every message on a goal's handle, but the first, is of one thing that the planner or the Supervisor
has said of this goal, under the prefix of its plan and in the goal's own action, and none is published
twice. While the goal has its entry and the Supervisor has not begun to settle it, each callback that is
done has published its own. -/
theorem feedback_relayed (node : Node) (acts : List RelayAction) (t : Relay) (id : GoalId) (h : GoalHandle)
    (ran : run (Relay.step node) Relay.init acts = some t) (accepted : t.system.handle id = some h) :
    ∃ told, List.Forall₂ (Tells h.goal) (acts.filterMap (RelayAction.said? id)) told ∧
      told.length = (t.feed id).calls.length ∧
      (t.feed id).published.Subperm ((t.goal id).opening ++ told) ∧
      ((t.goal id).Live h.goal.port → (t.feed id).published.Perm
        ((t.goal id).opening ++ delivered FeedbackCall.isDone ((t.feed id).calls.zip told))) := by
  have start : Relay.Faithful node id [] Relay.init := by
    refine ⟨⟨⟨[], rfl⟩, fun _ => rfl, fun planned => Bool.noConfusion planned,
      fun _ _ member => (List.not_mem_nil member).elim⟩, [], ?_⟩
    exact ⟨rfl, rfl, fun _ _ => .nil, fun _ _ _ said => (List.not_mem_nil said).elim, List.Perm.refl _,
      fun _ _ _ _ => rfl⟩
  have reached : Relay.Faithful node id ([] ++ acts.filterMap (RelayAction.said? id)) t :=
    @run_invariant_of_history _ _ _ (Relay.step node) (fun _ _ => True) (Relay.Faithful node id) _
      (fun _ _ _ _ held _ taken => Relay.faithful_step held taken) acts [] _ t start
      (meets_of_forall fun _ _ => trivial) ran
  obtain ⟨pairs, relayed⟩ := reached.relayed
  refine ⟨pairs.map Prod.snd, relayed.tells h accepted, ?_, ?_, fun live => ?_⟩
  · rw [← relayed.calls, List.length_map, List.length_map]
  · exact relayed.published.subperm.trans ((List.subperm_append_left _).mpr delivered_sublist.subperm)
  · have done : ∀ p ∈ pairs, p.1.isPublished = p.1.isDone := by
      intro p member
      have carries := relayed.carries h accepted p member
      obtain ⟨call, msg⟩ := p
      cases call with
      | dropped => exact (carries live).elim
      | _ => rfl
    rw [← List.zip_of_prod relayed.calls rfl, ← delivered_congr done]
    exact relayed.published

/-- The bench goal is sampled once more, and that callback is under way. -/
def benchSampledTwice : List RelayAction :=
  benchRelaying ++ benchCallback 0 1 ++ benchSampled ++ [.feedback benchId (.sample benchSample)]

theorem feedback_relayed_benchSampledTwice : ∃ t,
    run (Relay.step benchNode) Relay.init benchSampledTwice = some t ∧
      (t.feed benchId).published.Perm
        [planningFeedback, plannerFeedback "solving", (Port.move .goToJointConfig).feedback benchSample] := by
  obtain ⟨t, ran, reached⟩ := run_reaches (Relay.step benchNode) Relay.init benchSampledTwice
    (fun t => benchOwned benchGoal t && !(t.goal benchId).main.unplanned &&
      decide ((t.goal benchId).Live (.move .goToJointConfig)) &&
      decide ((t.feed benchId).calls.map (·.isDone) = [true, true, false])) (by decide +kernel)
  simp only [Bool.and_eq_true, Bool.not_eq_true', decide_eq_true_eq] at reached
  obtain ⟨⟨⟨owned, planned⟩, live⟩, done⟩ := reached
  obtain ⟨status, accepted⟩ := benchOwned_spec owned
  obtain ⟨told, tells, -, -, complete⟩ := feedback_relayed benchNode _ t benchId _ ran accepted
  have opening : (t.goal benchId).opening = [planningFeedback] := by
    rw [GoalState.opening, planned, show (t.goal benchId).handle = t.system.handle benchId from rfl, accepted]
    rfl
  have said : benchSampledTwice.filterMap (RelayAction.said? benchId) =
      [.planner 0 "solving", .sample benchSample, .sample benchSample] := rfl
  have published := complete live
  rw [said] at tells
  rw [opening, delivered_zip, done] at published
  cases tells with
  | cons first rest =>
    cases rest with
    | cons second last =>
      obtain ⟨g, name, moves, named, rfl⟩ := first
      cases moves
      cases named
      cases last
      rw [second] at published
      exact ⟨t, ran, published⟩

end KinovaGen3
