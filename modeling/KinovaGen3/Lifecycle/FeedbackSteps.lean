import KinovaGen3.GoTo.Prefixes
import KinovaGen3.Lifecycle.Feedback
import KinovaGen3.Lifecycle.Steps

/-! What each step does to the plans and the callbacks of a goal, one case for each way to move. -/

namespace KinovaGen3
open Interaction

/-! ### What a step of the goal's threads does to its plans -/

def Main.unplanned : Main → Bool
  | unseen | rejected | admitted _ | accepted | recorded => true
  | _ => false

def Main.plan? : Main → Option (Planning Outcome)
  | .planning p => some p
  | _ => none

inductive PlanStep (node : Node) (s : GoalState) (f : Feed) : GoalState → Feed → Prop where
  | start (owns : s.handle = some ⟨.move g, status⟩) (reached : s.main = .recorded)
      (started : startPlan node g = some p) :
      PlanStep node s f { s with main := .planning p }
        { f with published := f.published ++ [planningFeedback] }
  | answer (reached : s.main = .planning (.ask (.planner goal name) next)) (reply : PlannerReply) :
      PlanStep node s f { s with main := .planning (next reply) }
        { f with plans := f.plans ++ [⟨name, reply.ran⟩] }
  | other (reached : s.main = .planning (.ask q next)) (other : feedbackPrefix? q = none)
      (answer : q.Answer) : PlanStep node s f { s with main := .planning (next answer) } f
  | aside (main : t.main = s.main) : PlanStep node s f t f
  | direct (owns : s.handle = some ⟨.execute g, status⟩) (late : t.main.unplanned = false) :
      PlanStep node s f t f
  | past (asking : s.main.asking? = none) (unplanned : t.main.unplanned = s.main.unplanned)
      (plan : t.main.plan? = none) : PlanStep node s f t f

namespace GoalState
variable {node : Node} {contact : ContactState} {s t : GoalState} {act : GoalAction} {f : Feed}

/-- While a plan is in flight, the goal waits for its answer. -/
theorem step_asking {goal : PlannerGoal} {name : String} {next : PlannerReply → Planning Outcome}
    (reached : s.main = .planning (.ask (.planner goal name) next))
    (h : s.step node contact act = some t) :
    (∃ reply, act = .planner reply ∧ t = { s with main := .planning (next reply) }) ∨
      (∀ reply, act ≠ .planner reply) ∧ t.main = s.main := by
  cases step_cases h with
  | plan reached' own answer =>
    rw [reached] at reached'
    cases reached'
    cases act with
    | planner reply =>
      simp only [step, reached, Option.some.injEq] at h
      exact Or.inl ⟨reply, rfl, h.symm⟩
    | main =>
      simp only [step, mainStep] at h
      split at h
      · cases h
      · split at h
        · simp [moveStep, reached] at h
        · simp [backendStep, reached] at h
    | armState => simp [step, reached] at h
    | _ => cases own
  | cancel | cancelMiss | cancelLatch | backendCancelLook | cancelPlan | cancelSend
  | backendCancelSend | mark | settle | settleMiss | settleAsk | settleMove =>
    exact Or.inr ⟨fun _ => GoalAction.noConfusion, rfl⟩
  | settleTake => exact Or.inr ⟨fun _ => GoalAction.noConfusion, (erase_rest _).2.2.1⟩
  | _ => simp_all

theorem after_same (asking : s.main.asking? = none) (reached : s.main ≠ .recorded) :
    f.after s act = f := by
  unfold Feed.after
  split
  · exact (reached ‹_›).elim
  · rw [‹s.main = _›] at asking
    cases asking
  · rfl

theorem after_other (ne : ∀ reply, act ≠ .planner reply) (reached : s.main ≠ .recorded) :
    f.after s act = f := by
  unfold Feed.after
  split
  · exact (reached ‹_›).elim
  · exact (ne _ rfl).elim
  · rfl

theorem asked_of_asking {name : String} (asking : s.main.asking? = some name) :
    ∃ goal next, s.main = .planning (.ask (.planner goal name) next) := by
  unfold Main.asking? at asking
  split at asking
  · cases asking
    exact ⟨_, _, ‹_›⟩
  · cases asking

/-- What a step of the goal's own threads is for its plans. -/
theorem planStep (h : s.step node contact act = some t) : PlanStep node s f t (f.after s act) := by
  cases asking : s.main.asking? with
  | some name =>
    obtain ⟨goal, next, reached⟩ := asked_of_asking asking
    rcases step_asking reached h with ⟨reply, rfl, rfl⟩ | ⟨ne, main⟩
    · have after : f.after s (.planner reply) = { f with plans := f.plans ++ [⟨name, reply.ran⟩] } := by
        simp [Feed.after, reached]
      rw [after]
      exact .answer reached reply
    · rw [after_other ne (by rw [reached]; exact Main.noConfusion)]
      exact .aside main
  | none =>
    cases step_cases h with
    | @start g status p owns reached started =>
      have after : f.after s .main = { f with published := f.published ++ [planningFeedback] } := by
        simp [Feed.after, reached, owns]
      rw [after]
      exact .start owns reached started
    | @plan q next act reached own answer =>
      rw [after_same asking (by rw [reached]; exact Main.noConfusion)]
      refine .other reached ?_ answer
      cases q with
      | planner => rw [reached] at asking; cases asking
      | _ => rfl
    | backendHand owns reached =>
      have after : f.after s .main = f := by simp [Feed.after, reached, owns]
      rw [after]
      exact .direct owns rfl
    | @decide handle g o owns goal reached =>
      rw [after_same asking (by rw [reached]; exact Main.noConfusion)]
      have further : (planDecision node g o handle.isCanceling).unplanned = false ∧
          (planDecision node g o handle.isCanceling).plan? = none := by
        obtain ⟨-, -, decided⟩ | ⟨result, decided, -⟩ := planDecision_cases node g o handle.isCanceling
        all_goals rw [decided]; exact ⟨rfl, rfl⟩
      exact .past asking (by rw [reached]; exact further.1) further.2
    | cancel | cancelMiss | cancelLatch | backendCancelLook | cancelPlan | cancelSend
    | backendCancelSend | mark | settle | settleMiss | settleAsk | settleMove => exact .aside rfl
    | settleTake => exact .aside (erase_rest _).2.2.1
    | _ =>
      rw [after_same asking (by simp [*])]
      exact .past asking (by simp [*, Main.unplanned]) rfl

end GoalState

/-! ### What a step of a callback does -/

inductive Moves (s : GoalState) : FeedbackCall → FeedbackCall → Prop where
  | find (owns : s.handle = some ⟨.move g, status⟩) (k : Nat) (state : String) :
      Moves s (.heard k state) (.relaying k state)
  | lose (k : Nat) (state : String) : Moves s (.heard k state) .dropped
  | route (port : Port) (fb : TrajectoryFeedback) : Moves s (.sampled fb) (.routed port fb)
  | reach (held : s.holds port = true) : Moves s (.routed port fb) (.executing port fb)
  | miss (port : Port) (fb : TrajectoryFeedback) : Moves s (.routed port fb) .dropped

inductive FeedStep (s : GoalState) (f : Feed) : FeedbackAction → Feed → Prop where
  | hear (asked : f.prefixOf s k = some name) :
      FeedStep s f (.planner k state) { f with calls := f.calls ++ [.heard k (name ++ state)] }
  | sample (handed : s.handed = true) :
      FeedStep s f (.sample fb) { f with calls := f.calls ++ [.sampled fb] }
  | move (here : f.calls[i]? = some old) (moves : Moves s old new) :
      FeedStep s f (.step i) (f.set i new)
  | relay (here : f.calls[i]? = some (.relaying k state)) :
      FeedStep s f (.step i) (f.publish i (.plan k) (plannerFeedback state))
  | execute (here : f.calls[i]? = some (.executing port fb)) :
      FeedStep s f (.step i) (f.publish i .execution (port.feedback fb))

namespace Feed
variable {s : GoalState} {f f' : Feed}

theorem step_cases {act : FeedbackAction} (h : f.step s act = some f') : FeedStep s f act f' := by
  cases act with
  | planner k state =>
    obtain ⟨name, asked, rfl⟩ := Option.map_eq_some_iff.mp h
    exact .hear asked
  | sample fb =>
    by_cases handed : s.handed = true
    · rw [step, if_pos handed] at h
      cases h
      exact .sample handed
    · rw [step, if_neg handed] at h
      cases h
  | step i =>
    obtain ⟨call, here, h⟩ := Option.bind_eq_some_iff.mp h
    cases call with
    | heard k state =>
      unfold callStep at h
      dsimp only at h
      split at h
      · cases h
        refine .move here ?_
        split
        · exact .find ‹_› k state
        · exact .lose k state
      · cases h
    | relaying k state => cases h; exact .relay here
    | sampled fb => cases h; exact .move here (.route _ fb)
    | routed port fb =>
      cases h
      refine .move here ?_
      split
      · exact .reach ‹_›
      · exact .miss port fb
    | executing port fb => cases h; exact .execute here
    | published | dropped => cases h

end Feed
end KinovaGen3
