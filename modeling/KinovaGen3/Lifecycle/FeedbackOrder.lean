import KinovaGen3.Lifecycle.Ending
import KinovaGen3.Lifecycle.FeedbackSteps
import KinovaGen3.Lifecycle.Progress

/-!
The order of a goal's feedback. Plans end one after the other, and the Supervisor samples the goal
after the last of them; but a callback that has found its goal may publish at any time later, and one
that is still open when its plan ends can publish after the next plan's or the Supervisor's.
-/

namespace KinovaGen3
open Interaction Transition OrderedLog

/-! ### What the messages say -/

def PhasesInOrder (msgs : List ActionFeedback) : Prop :=
  InPhases "planning" "executing" (msgs.map (·.phase))

/-- The messages with a planner state name the legs and the blend of a chain in their order. -/
def LegsInOrder (n : Nat) (msgs : List ActionFeedback) : Prop :=
  InOrder (chainPrefixes n) ((msgs.map (·.plannerState)).filter (· ≠ ""))

def FeedbackInOrder (g : MoveGoal) (msgs : List ActionFeedback) : Prop :=
  PhasesInOrder msgs ∧ ∀ ts, g.legTargets = some ts → LegsInOrder ts.length msgs

instance (msgs : List ActionFeedback) : Decidable (PhasesInOrder msgs) :=
  decidable_of_iff _ inPhases_iff.symm

/-! ### Who says it -/

namespace FeedbackSource

def plan? : FeedbackSource → Option Nat
  | plan k => some k
  | execution => none

def phase : FeedbackSource → String
  | plan _ => "planning"
  | execution => "executing"

/-- It publishes for a step of the goal that comes after its `k`-th plan. -/
def later (k : Nat) : FeedbackSource → Bool
  | plan j => k < j
  | execution => true

def Follows (x y : FeedbackSource) : Prop := ∀ k ∈ y.plan?, x.later k = false

theorem follows_iff {x y : FeedbackSource} :
    x.Follows y ↔ (x.phase = "executing" → y.phase = "executing") ∧
      ∀ j ∈ x.plan?, ∀ k ∈ y.plan?, j ≤ k := by
  cases x <;> cases y <;> simp [Follows, later, plan?, phase]

end FeedbackSource

/-- The message is one that the source publishes for the goal. -/
def Shows (g : MoveGoal) (msg : ActionFeedback) : FeedbackSource → Prop
  | .plan k => msg.phase = "planning" ∧ Starts g.feedbackPrefixes msg.plannerState k
  | .execution => msg.phase = "executing" ∧ msg.plannerState = ""

section
variable {g : MoveGoal} {msgs : List ActionFeedback} {sources : List FeedbackSource}

theorem shows_phase {msg : ActionFeedback} {source : FeedbackSource} (shows : Shows g msg source) :
    msg.phase = source.phase := by
  cases source <;> exact shows.1

theorem phasesInOrder_iff (shown : List.Forall₂ (Shows g) msgs sources) :
    PhasesInOrder (planningFeedback :: msgs) ↔
      sources.Pairwise fun x y => x.phase = "executing" → y.phase = "executing" := by
  have phases : msgs.map (·.phase) = sources.map (·.phase) := by
    induction shown with
    | nil => rfl
    | cons first _ ih => exact congrArg₂ List.cons (shows_phase first) ih
  have known : ∀ x ∈ sources.map (·.phase), x = "planning" ∨ x = "executing" := by
    intro x member
    obtain ⟨source, -, rfl⟩ := List.mem_map.mp member
    cases source with
    | plan => exact Or.inl rfl
    | execution => exact Or.inr rfl
  rw [PhasesInOrder, List.map_cons, phases, inPhases_iff, List.pairwise_cons, List.pairwise_map]
  constructor
  · exact fun h => h.2.2
  · intro ordered
    refine ⟨fun x member => ?_, fun x _ other => absurd other (by decide), ordered⟩
    rcases List.mem_cons.mp member with rfl | later
    · exact Or.inl rfl
    · exact known x later

theorem chainPrefix_ne_empty {n k : Nat} {text : String} (starts : Starts (chainPrefixes n) text k) :
    text ≠ "" := by
  obtain ⟨name, rest, named, rfl⟩ := starts
  obtain ⟨-, rfl⟩ | ⟨-, rfl⟩ := chainPrefixes_cases named <;> simp [legName]

theorem legTargets_prefixes {ts : List LegTarget} (several : g.legTargets = some ts) :
    g.feedbackPrefixes = chainPrefixes ts.length := by
  cases g with
  | eePoses | jointConfigs =>
    cases several
    rw [List.length_map]
    rfl
  | _ => cases several

theorem legsInOrder_iff {ts : List LegTarget} (several : g.legTargets = some ts)
    (shown : List.Forall₂ (Shows g) msgs sources) :
    LegsInOrder ts.length (planningFeedback :: msgs) ↔
      sources.Pairwise fun x y => ∀ j ∈ x.plan?, ∀ k ∈ y.plan?, j ≤ k := by
  have placed : List.Forall₂ (Starts (chainPrefixes ts.length))
      ((msgs.map (·.plannerState)).filter (· ≠ "")) (sources.filterMap (·.plan?)) := by
    induction shown with
    | nil => exact .nil
    | @cons msg source msgs sources first _ ih =>
      cases source with
      | plan k =>
        have starts := legTargets_prefixes several ▸ first.2
        rw [List.map_cons, List.filter_cons_of_pos (by simpa using chainPrefix_ne_empty starts)]
        exact .cons starts ih
      | execution =>
        rw [List.map_cons, List.filter_cons_of_neg (by simp [first.2])]
        exact ih
  rw [LegsInOrder, List.map_cons, List.filter_cons_of_neg (by decide),
    inOrder_iff (selfDelimiting_chainPrefixes _) placed, List.pairwise_filterMap]
  rfl

/-- A goal with one target has one plan. -/
theorem single_plan (alone : g.legTargets = none) (shown : List.Forall₂ (Shows g) msgs sources) :
    ∀ x ∈ sources, ∀ k ∈ x.plan?, k = 0 := by
  intro x member k plan
  have only : g.feedbackPrefixes = [""] := by
    cases g with
    | eePoses | jointConfigs => cases alone
    | _ => rfl
  induction shown with
  | nil => cases member
  | @cons msg source msgs sources first _ ih =>
    rcases List.mem_cons.mp member with rfl | later
    · cases x with
      | execution => cases plan
      | plan j =>
        cases plan
        obtain ⟨name, rest, named, -⟩ := first.2
        have inside := (List.getElem?_eq_some_iff.mp named).1
        rw [only, List.length_singleton] at inside
        omega
    · exact ih later

/-- The messages are in order when no source publishes after a later one. -/
theorem feedbackInOrder_iff (shown : List.Forall₂ (Shows g) msgs sources) :
    FeedbackInOrder g (planningFeedback :: msgs) ↔ sources.Pairwise FeedbackSource.Follows := by
  have split : sources.Pairwise FeedbackSource.Follows ↔
      PhasesInOrder (planningFeedback :: msgs) ∧
        sources.Pairwise fun x y => ∀ j ∈ x.plan?, ∀ k ∈ y.plan?, j ≤ k := by
    rw [phasesInOrder_iff shown, ← List.pairwise_and_iff]
    exact List.Pairwise.iff fun _ _ => FeedbackSource.follows_iff
  rw [split, FeedbackInOrder]
  refine and_congr_right fun _ => ?_
  cases several : g.legTargets with
  | some ts =>
    rw [← legsInOrder_iff several shown]
    simp
  | none =>
    refine iff_of_true (fun ts none => by cases none) (List.pairwise_of_forall_mem_list ?_)
    intro x first y second j here k there
    rw [single_plan several shown x first j here, single_plan several shown y second k there]

end

/-! ### What the callbacks have in hand -/

namespace Feed

/-- Plan `k` has been asked for. -/
def Asked (f : Feed) (s : GoalState) (k : Nat) : Prop :=
  k < f.plans.length ∨ k = f.plans.length ∧ s.main.asking?.isSome

/-- A planner's callback is of a plan that has been asked for, under that plan's prefix; the
Supervisor samples a goal that has been handed over. -/
def CallSound (g : MoveGoal) (f : Feed) (s : GoalState) : FeedbackCall → Prop
  | .heard k state | .relaying k state => f.Asked s k ∧ Starts g.feedbackPrefixes state k
  | .sampled _ | .routed .. => s.handed = true
  | .executing port _ => s.handed = true ∧ port = .move g.server
  | .published (.plan k) => f.Asked s k
  | .published .execution => s.handed = true
  | .dropped => True

/-- The sources of the messages after the first, in the order in which they have published. -/
structure Published (g : MoveGoal) (f : Feed) (msgs : List ActionFeedback)
    (sources : List FeedbackSource) : Prop where
  first : f.published = planningFeedback :: msgs
  shown : List.Forall₂ (Shows g) msgs sources
  calls : ∀ x, x ∈ sources ↔ .published x ∈ f.calls

structure Sound (g : MoveGoal) (f : Feed) (s : GoalState) : Prop where
  sends : ∀ p, s.main.plan? = some p → SendsUnder g.feedbackPrefixes f.plans.length p
  plans : ∀ (k : Nat) (plan : EndedPlan), f.plans[k]? = some plan →
    g.feedbackPrefixes[k]? = some plan.feedbackPrefix
  calls : ∀ call ∈ f.calls, CallSound g f s call
  published : ∃ msgs sources, f.Published g msgs sources

variable {g : MoveGoal} {s t : GoalState} {f f' : Feed}

theorem CallSound.mono {call : FeedbackCall} (h : CallSound g f s call)
    (asked : ∀ k, f.Asked s k → f'.Asked t k) (handed : s.handed = true → t.handed = true) :
    CallSound g f' t call := by
  cases call with
  | heard | relaying => exact ⟨asked _ h.1, h.2⟩
  | sampled | routed => exact handed h
  | executing => exact ⟨handed h.1, h.2⟩
  | published x =>
    cases x with
    | plan k => exact asked k h
    | execution => exact handed h
  | dropped => trivial

theorem Published.frame {msgs : List ActionFeedback} {sources : List FeedbackSource}
    (h : f.Published g msgs sources) (same : f'.published = f.published)
    (calls : ∀ x, .published x ∈ f'.calls ↔ .published x ∈ f.calls) : f'.Published g msgs sources :=
  ⟨same.trans h.first, h.shown, fun x => (h.calls x).trans (calls x).symm⟩

theorem sound_new (sends : ∀ p, s.main.plan? = some p → SendsUnder g.feedbackPrefixes 0 p) :
    Sound g { published := [planningFeedback] } s where
  sends := sends
  plans k plan found := by cases found
  calls call member := by cases member
  published := ⟨[], [], rfl, .nil, by simp⟩

/-! ### The goal's threads -/

/-- An asked plan stays asked for, whoever moves the goal. -/
theorem asked_planStep {node : Node} (step : PlanStep node s f t f') {k : Nat} (h : f.Asked s k)
    {status : HandleStatus} (owns : s.handle = some ⟨.move g, status⟩) : f'.Asked t k := by
  cases step with
  | start _ reached =>
    rw [Asked, reached] at h
    exact Or.inl (h.resolve_right fun now => by cases now.2)
  | answer =>
    left
    show k < (f.plans ++ [_]).length
    rw [List.length_append, List.length_singleton]
    obtain before | now := h <;> omega
  | @other q next reached other =>
    refine Or.inl (h.resolve_right fun now => ?_)
    rw [reached] at now
    cases q with
    | planner => cases other
    | _ => cases now.2
  | aside main =>
    rw [Asked, main]
    exact h
  | direct execute => cases owns.symm.trans execute
  | past asking =>
    refine Or.inl (h.resolve_right fun now => ?_)
    rw [asking] at now
    cases now.2

theorem sound_planStep {node : Node} (step : PlanStep node s f t f') (h : Sound g f s)
    (planned : s.main.unplanned = false) {status : HandleStatus}
    (owns : s.handle = some ⟨.move g, status⟩) (handed : s.handed = true → t.handed = true) :
    Sound g f' t := by
  have calls : ∀ call ∈ f.calls, CallSound g f' t call := fun call member =>
    (h.calls call member).mono (fun _ asked => asked_planStep step asked owns) handed
  obtain ⟨msgs, sources, published⟩ := h.published
  cases step with
  | start _ reached =>
    rw [reached] at planned
    cases planned
  | @answer goal name next reached reply =>
    obtain ⟨named, later⟩ := sendsUnder_planner.mp (h.sends _ (by rw [reached]; rfl))
    refine ⟨?_, fun k plan found => ?_, calls, msgs, sources, ?_⟩
    · intro p now
      obtain rfl := Option.some.inj now
      have sends := later reply
      simpa only [List.length_append, List.length_singleton] using sends
    · rcases Nat.lt_or_ge k f.plans.length with before | last
      · rw [List.getElem?_append_left before] at found
        exact h.plans k plan found
      · have inside := (List.getElem?_eq_some_iff.mp found).1
        rw [List.length_append, List.length_singleton] at inside
        obtain rfl : k = f.plans.length := by omega
        rw [List.getElem?_concat_length] at found
        obtain rfl := Option.some.inj found
        exact named
    · exact published.frame rfl fun _ => Iff.rfl
  | @other q next reached other answer =>
    have sends := (sendsUnder_other other).mp (h.sends _ (by rw [reached]; rfl))
    refine ⟨fun p now => ?_, h.plans, calls, msgs, sources, published⟩
    obtain rfl := Option.some.inj now
    exact sends answer
  | aside main =>
    refine ⟨fun p now => ?_, h.plans, calls, msgs, sources, published⟩
    rw [main] at now
    exact h.sends p now
  | direct execute => cases owns.symm.trans execute
  | past _ _ plan =>
    refine ⟨fun p now => ?_, h.plans, calls, msgs, sources, published⟩
    rw [plan] at now
    cases now

/-! ### The callbacks -/

theorem mem_set_iff {α : Type} {l : List α} {i : Nat} {old new x : α} (here : l[i]? = some old)
    (ne : x ≠ old) : x ∈ l.set i new ↔ x ∈ l ∨ x = new := by
  constructor
  · exact fun member => List.mem_or_eq_of_mem_set member
  · rintro (member | new)
    · obtain ⟨j, there⟩ := List.mem_iff_getElem?.mp member
      have apart : i ≠ j := by
        rintro rfl
        exact ne (Option.some.inj (there.symm.trans here))
      exact List.mem_iff_getElem?.mpr ⟨j, by rw [List.getElem?_set_ne apart, there]⟩
    · rw [new]
      exact List.mem_set (List.getElem?_eq_some_iff.mp here).1 _

/-- What a step publishes on the goal's handle. -/
def publishes? (f : Feed) : FeedbackAction → Option FeedbackSource
  | .step i =>
    match f.calls[i]? with
    | some (.relaying k _) => some (.plan k)
    | some (.executing ..) => some .execution
    | _ => none
  | _ => none

theorem asked_of_prefixOf {k : Nat} {name : String} (h : Sound g f s)
    (asked : f.prefixOf s k = some name) : f.Asked s k ∧ g.feedbackPrefixes[k]? = some name := by
  unfold prefixOf at asked
  split at asked
  · rename_i last
    refine ⟨Or.inr ⟨last, by rw [asked]; rfl⟩, ?_⟩
    obtain ⟨goal, next, reached⟩ := GoalState.asked_of_asking asked
    have sends := h.sends _ (by rw [reached]; rfl)
    rw [last]
    exact (sendsUnder_planner.mp sends).1
  · obtain ⟨plan, found, ran⟩ := Option.bind_eq_some_iff.mp asked
    refine ⟨Or.inl (List.getElem?_eq_some_iff.mp found).1, ?_⟩
    split at ran
    · obtain rfl := Option.some.inj ran
      exact h.plans k plan found
    · cases ran

theorem callSound_moves {old new : FeedbackCall} (moves : Moves s old new) (h : CallSound g f s old)
    (held : ∀ port, s.holds port = true → port = .move g.server) : CallSound g f s new := by
  cases moves with
  | find | route => exact h
  | reach there => exact ⟨h, held _ there⟩
  | lose | miss => trivial

theorem callSound_step {act : FeedbackAction} (step : FeedStep s f act f') (h : Sound g f s)
    (held : ∀ port, s.holds port = true → port = .move g.server) :
    ∀ call ∈ f'.calls, CallSound g f s call := by
  intro call member
  cases step with
  | hear asked =>
    rcases List.mem_append.mp member with before | new
    · exact h.calls call before
    · obtain rfl := List.mem_singleton.mp new
      obtain ⟨asked, named⟩ := asked_of_prefixOf h asked
      exact ⟨asked, _, _, named, rfl⟩
  | sample handed =>
    rcases List.mem_append.mp member with before | new
    · exact h.calls call before
    · obtain rfl := List.mem_singleton.mp new
      exact handed
  | move here moves =>
    rcases List.mem_or_eq_of_mem_set member with before | rfl
    · exact h.calls call before
    · exact callSound_moves moves (h.calls _ (List.mem_of_getElem? here)) held
  | relay here =>
    rcases List.mem_or_eq_of_mem_set member with before | rfl
    · exact h.calls call before
    · exact (h.calls _ (List.mem_of_getElem? here)).1
  | execute here =>
    rcases List.mem_or_eq_of_mem_set member with before | rfl
    · exact h.calls call before
    · exact (h.calls _ (List.mem_of_getElem? here)).1

theorem Published.publish {msgs : List ActionFeedback} {sources : List FeedbackSource} {i : Nat}
    {call : FeedbackCall} {source : FeedbackSource} {msg : ActionFeedback}
    (h : f.Published g msgs sources) (here : f.calls[i]? = some call)
    (ne : ∀ x, .published x ≠ call) (shows : Shows g msg source) :
    (f.publish i source msg).Published g (msgs ++ [msg]) (sources ++ [source]) := by
  refine ⟨?_, List.rel_append h.shown (.cons shows .nil), fun x => ?_⟩
  · show f.published ++ [msg] = _
    rw [h.first]
    rfl
  · show _ ↔ _ ∈ f.calls.set i _
    rw [mem_set_iff here (ne x), List.mem_append, h.calls, List.mem_singleton,
      FeedbackCall.published.injEq]

/-- A step publishes at most one message, of the source it is known by. -/
theorem published_step {act : FeedbackAction} (step : FeedStep s f act f') (h : Sound g f s)
    {msgs : List ActionFeedback} {sources : List FeedbackSource} (published : f.Published g msgs sources) :
    ∃ more, f'.Published g (msgs ++ more) (sources ++ (f.publishes? act).toList) := by
  cases step with
  | hear | sample =>
    refine ⟨[], ?_⟩
    simp only [publishes?, Option.toList_none, List.append_nil]
    exact published.frame rfl fun x => by simp
  | @move i old new here moves =>
    have quiet : f.publishes? (.step i) = none := by cases moves <;> simp [publishes?, here]
    refine ⟨[], ?_⟩
    simp only [quiet, Option.toList_none, List.append_nil]
    refine published.frame rfl fun x => ?_
    show _ ∈ f.calls.set i new ↔ _
    rw [mem_set_iff here (by cases moves <;> exact FeedbackCall.noConfusion)]
    exact or_iff_left (by cases moves <;> exact FeedbackCall.noConfusion)
  | @relay i k state here =>
    have shown : f.publishes? (.step i) = some (.plan k) := by simp [publishes?, here]
    rw [shown]
    refine ⟨[_], published.publish here (fun _ => FeedbackCall.noConfusion) ⟨rfl, ?_⟩⟩
    exact (h.calls _ (List.mem_of_getElem? here)).2
  | @execute i port fb here =>
    have shown : f.publishes? (.step i) = some .execution := by simp [publishes?, here]
    have server := (h.calls _ (List.mem_of_getElem? here)).2
    rw [shown, server]
    exact ⟨[_], published.publish here (fun _ => FeedbackCall.noConfusion) ⟨rfl, rfl⟩⟩

theorem plans_step {act : FeedbackAction} (step : FeedStep s f act f') : f'.plans = f.plans := by
  cases step <;> rfl

theorem sound_feedStep {act : FeedbackAction} (step : FeedStep s f act f') (h : Sound g f s)
    (held : ∀ port, s.holds port = true → port = .move g.server) : Sound g f' s := by
  have plans := plans_step step
  refine ⟨?_, ?_, fun call member => ?_, ?_⟩
  · rw [plans]
    exact h.sends
  · rw [plans]
    exact h.plans
  · refine (callSound_step step h held call member).mono (fun k asked => ?_) id
    rw [Asked, plans]
    exact asked
  · obtain ⟨msgs, sources, published⟩ := h.published
    obtain ⟨more, published⟩ := published_step step h published
    exact ⟨_, _, published⟩

/-! ### Callbacks that are late -/

end Feed

/-- It has published for a step of the goal after its `k`-th plan. -/
def FeedbackCall.overtakes (k : Nat) : FeedbackCall → Bool
  | .published source => source.later k
  | _ => false

namespace Feed
variable {g : MoveGoal} {s : GoalState} {f f' : Feed} {act : FeedbackAction}

/-- A planner's callback publishes only while its own plan is in flight. -/
def inFlight (f : Feed) (act : FeedbackAction) : Bool :=
  match f.publishes? act with
  -- Plans are taken in turn: the result of the `k`-th has not been.
  | some (.plan k) => decide (f.plans.length ≤ k)
  | _ => true

/-- It publishes while its plan is in flight, or before any later message. -/
def inTime (f : Feed) (act : FeedbackAction) : Bool :=
  match f.publishes? act with
  | some (.plan k) => decide (f.plans.length ≤ k) || !f.calls.any (·.overtakes k)
  | _ => true

theorem inTime_of_inFlight (early : f.inFlight act = true) : f.inTime act = true := by
  unfold inFlight at early
  unfold inTime
  split
  · rename_i k shown
    rw [shown] at early
    exact Bool.or_eq_true_iff.mpr (Or.inl early)
  · rfl

theorem publishes_plan {k : Nat} (shown : f.publishes? act = some (.plan k)) :
    ∃ state, .relaying k state ∈ f.calls := by
  unfold publishes? at shown
  split at shown
  · split at shown
    · cases shown
      exact ⟨_, List.mem_of_getElem? ‹_›⟩
    · cases shown
    · cases shown
  · cases shown

/-- Nothing later than the plan in flight has been published. -/
theorem not_later_of_inFlight (h : Sound g f s)
    (unhanded : s.main.asking?.isSome = true → s.handed = false) {k : Nat} (asked : f.Asked s k)
    (inFlight : f.plans.length ≤ k) {x : FeedbackSource} (member : .published x ∈ f.calls) :
    x.later k = false := by
  obtain ⟨last, asking⟩ := asked.resolve_left (by omega)
  have sound := h.calls _ member
  cases x with
  | execution => cases (unhanded asking).symm.trans sound
  | plan j =>
    have before : j ≤ k := by
      obtain earlier | ⟨same, -⟩ := sound <;> omega
    simpa [FeedbackSource.later] using before

theorem inTime_iff (h : Sound g f s) (unhanded : s.main.asking?.isSome = true → s.handed = false)
    {msgs : List ActionFeedback} {sources : List FeedbackSource}
    (published : f.Published g msgs sources) :
    f.inTime act = true ↔ ∀ x ∈ sources, ∀ y ∈ f.publishes? act, x.Follows y := by
  unfold inTime
  split
  · rename_i k shown
    obtain ⟨state, member⟩ := publishes_plan shown
    have asked := (h.calls _ member).1
    rw [shown, Bool.or_eq_true, decide_eq_true_eq, Bool.not_eq_true', List.any_eq_false]
    constructor
    · intro early x source y here
      obtain rfl := Option.some.inj here
      intro j same
      obtain rfl := Option.some.inj same
      rcases early with inFlight | quiet
      · exact not_later_of_inFlight h unhanded asked inFlight ((published.calls x).mp source)
      · exact Bool.eq_false_iff.mpr (quiet _ ((published.calls x).mp source))
    · intro follows
      refine Or.inr fun call inside => ?_
      cases call with
      | published x =>
        exact Bool.eq_false_iff.mp (follows x ((published.calls x).mpr inside) _ rfl k rfl)
      | _ => exact Bool.false_ne_true
  · rename_i other
    refine iff_of_true rfl fun x _ y here k plan => ?_
    cases y with
    | plan j => exact (other j here).elim
    | execution => cases plan

/-- A step keeps the messages in order when it is in time, and only then. -/
theorem order_step (step : FeedStep s f act f') (h : Sound g f s)
    (unhanded : s.main.asking?.isSome = true → s.handed = false) :
    FeedbackInOrder g f'.published ↔ FeedbackInOrder g f.published ∧ f.inTime act = true := by
  obtain ⟨msgs, sources, published⟩ := h.published
  obtain ⟨more, published'⟩ := published_step step h published
  rw [published'.first, published.first, feedbackInOrder_iff published'.shown,
    feedbackInOrder_iff published.shown, List.pairwise_append, inTime_iff h unhanded published]
  have alone : (f.publishes? act).toList.Pairwise FeedbackSource.Follows := by
    cases f.publishes? act with
    | none => exact .nil
    | some x => exact List.pairwise_singleton _ _
  simp only [Option.mem_toList]
  constructor
  · exact fun ⟨before, _, across⟩ => ⟨before, across⟩
  · exact fun ⟨before, across⟩ => ⟨before, alone, across⟩

end Feed

/-! ### The goal in every run -/

namespace GoalState
variable {node : Node} {contact : ContactState} {s t : GoalState} {act : GoalAction} {g : MoveGoal}

/-- The goals a server has taken have passed its checks. -/
structure Validated (node : Node) (s : GoalState) : Prop where
  admitted : ∀ goal, s.main = .admitted goal → ∀ g, goal = .move g → validate node g = none
  taken : ∀ h ∈ s.handle, ∀ g, h.goal = .move g → validate node g = none

theorem validated_step (step : GoalStep node contact s act t) (h : Validated node s) :
    Validated node t := by
  refine ⟨fun goal admitted => ?_, fun handle held g moves => ?_⟩
  · rcases admitted_step step admitted with before | valid
    · exact h.admitted goal before
    · exact valid
  · rcases step_goal step with ⟨goal, reached, rfl⟩ | same
    · obtain rfl := Option.some.inj held
      exact h.admitted goal reached g moves
    · obtain ⟨handle', held', same⟩ := same_goal same held
      exact h.taken handle' held' g (same.trans moves)

theorem Settling.unplanned (h : Settling s) (unplanned : s.main.unplanned = true) :
    s.handed = false := by
  have some_port : ∃ port, Settlement port s := by
    cases held : s.handle with
    | none => exact ⟨.backend, h.settlement _ fun handle owns => by rw [held] at owns; cases owns⟩
    | some handle => exact ⟨_, h.owned held⟩
  obtain ⟨port, settlement⟩ := some_port
  refine Bool.eq_false_iff.mpr fun handed => ?_
  have late := settlement.late handed
  cases main : s.main with
  | unseen | rejected | admitted | accepted | recorded =>
    rw [main] at late
    rcases late with running | through
    · cases running
    · cases through
  | _ => rw [main] at unplanned; cases unplanned

theorem Settling.asking {status : HandleStatus} (h : Settling s)
    (owns : s.handle = some ⟨.move g, status⟩) (asking : s.main.asking?.isSome = true) :
    s.handed = false := by
  obtain ⟨name, asking⟩ := Option.isSome_iff_exists.mp asking
  obtain ⟨goal, next, reached⟩ := asked_of_asking asking
  exact (h.held owns (by rw [reached]; rfl)).1

theorem Settling.holds {status : HandleStatus} (h : Settling s)
    (owns : s.handle = some ⟨.move g, status⟩) {port : Port} (held : s.holds port = true) :
    port = .move g.server := by
  have settlement : Settlement (.move g.server) s := h.owned owns
  rw [settlement.entry, Bool.and_eq_true, decide_eq_true_eq] at held
  exact held.2

end GoalState

theorem System.validated {node : Node} {acts : List Action} {s : System}
    (h : run (System.step node) System.init acts = some s) (id : GoalId) :
    (s.goal id).Validated node := by
  refine System.goal_invariant ?_ id ?_ h
  · exact fun _ _ _ _ valid taken => GoalState.validated_step (GoalState.step_cases taken) valid
  · exact ⟨by rintro _ ⟨⟩, by rintro _ ⟨⟩⟩

/-- What holds of a goal and its feed: nothing is published before the plan is started, and from
there on the feed is sound. -/
structure FeedKept (s : GoalState) (f : Feed) : Prop where
  unplanned : s.main.unplanned = true → f = {}
  sound : s.main.unplanned = false →
    ∀ g status, s.handle = some ⟨.move g, status⟩ → Feed.Sound g f s
  relays : ∀ k state, .relaying k state ∈ f.calls → ∃ g status, s.handle = some ⟨.move g, status⟩

section
variable {node : Node} {contact : ContactState} {s t : GoalState} {f f' : Feed}

theorem calls_planStep (step : PlanStep node s f t f') : f'.calls = f.calls := by
  cases step <;> rfl

theorem unplanned_planStep (step : PlanStep node s f t f') (unplanned : t.main.unplanned = true) :
    s.main.unplanned = true ∧ f' = f := by
  cases step with
  | start | answer | other => cases unplanned
  | aside main => exact ⟨main ▸ unplanned, rfl⟩
  | direct owns late => cases late.symm.trans unplanned
  | past _ same => exact ⟨same ▸ unplanned, rfl⟩

/-- The plan of a move goal is started with nothing published but the first message. -/
theorem sound_start {g : MoveGoal} {status : HandleStatus} (step : PlanStep node s {} t f')
    (unplanned : s.main.unplanned = true) (planned : t.main.unplanned = false)
    (owns : s.handle = some ⟨.move g, status⟩) (valid : validate node g = none) :
    Feed.Sound g f' t := by
  cases step with
  | start owns' reached started =>
    cases owns.symm.trans owns'
    refine Feed.sound_new fun p now => ?_
    obtain rfl := Option.some.inj now
    exact sendsUnder_startPlan valid started
  | answer reached | other reached =>
    rw [reached] at unplanned
    cases unplanned
  | aside main =>
    rw [main, unplanned] at planned
    cases planned
  | direct execute => cases owns.symm.trans execute
  | past _ same =>
    rw [same, unplanned] at planned
    cases planned

theorem feedKept_goalStep {act : GoalAction} (taken : s.step node contact act = some t)
    (valid : s.Validated node) (h : FeedKept s f) : FeedKept t (f.after s act) := by
  have step := GoalState.planStep (f := f) taken
  refine ⟨fun unplanned => ?_, fun planned g status owns => ?_, fun k state member => ?_⟩
  · obtain ⟨before, same⟩ := unplanned_planStep step unplanned
    exact same.trans (h.unplanned before)
  · rcases GoalState.step_goal (GoalState.step_cases taken) with ⟨goal, reached, rfl⟩ | same
    · cases planned
    · obtain ⟨⟨goal, status'⟩, held, rfl⟩ := GoalState.same_goal same owns
      cases before : s.main.unplanned with
      | true =>
        obtain rfl := h.unplanned before
        exact sound_start step before planned held (valid.taken _ held g rfl)
      | false =>
        exact Feed.sound_planStep step (h.sound before g _ held) before held
          (GoalState.handed_step (GoalState.step_cases taken))
  · rw [calls_planStep step] at member
    rcases GoalState.step_goal (GoalState.step_cases taken) with ⟨goal, reached, -⟩ | same
    · rw [h.unplanned (by rw [reached]; rfl)] at member
      cases member
    · obtain ⟨g, status, owns⟩ := h.relays k state member
      rw [owns, Option.map_some] at same
      obtain ⟨⟨goal, status'⟩, held, shown⟩ := Option.map_eq_some_iff.mp same
      obtain rfl : goal = .move g := shown
      exact ⟨g, status', held⟩

/-- No callback is under way before the plan is started. -/
theorem not_feedStep {act : FeedbackAction} (step : FeedStep s {} act f') (settling : s.Settling)
    (unplanned : s.main.unplanned = true) : False := by
  cases step with
  | @hear name k state asked =>
    unfold Feed.prefixOf at asked
    split at asked
    · obtain ⟨goal, next, reached⟩ := GoalState.asked_of_asking asked
      rw [reached] at unplanned
      cases unplanned
    · cases asked
  | sample handed => cases (settling.unplanned unplanned).symm.trans handed
  | move here | relay here | execute here => cases here

theorem feedKept_feedStep {act : FeedbackAction} (taken : f.step s act = some f')
    (settling : s.Settling) (h : FeedKept s f) : FeedKept s f' := by
  have step := Feed.step_cases taken
  refine ⟨fun unplanned => ?_, fun planned g status owns => ?_, fun k state member => ?_⟩
  · obtain rfl := h.unplanned unplanned
    exact (not_feedStep step settling unplanned).elim
  · exact Feed.sound_feedStep step (h.sound planned g status owns) fun _ => settling.holds owns
  · cases step with
    | hear | sample =>
      rcases List.mem_append.mp member with before | new
      · exact h.relays k state before
      · cases List.mem_singleton.mp new
    | move here moves =>
      rcases List.mem_or_eq_of_mem_set member with before | same
      · exact h.relays k state before
      · cases moves with
        | find owns => exact ⟨_, _, owns⟩
        | _ => cases same
    | relay | execute =>
      rcases List.mem_or_eq_of_mem_set member with before | same
      · exact h.relays k state before
      · cases same

theorem feedbackInOrder_nil (g : MoveGoal) : FeedbackInOrder g [] :=
  ⟨⟨0, 0, rfl⟩, fun _ _ => ⟨[], .nil, .nil⟩⟩

theorem published_planStep (step : PlanStep node s f t f') (h : FeedKept s f) :
    f'.published = f.published ∨ f.published = [] ∧ f'.published = [planningFeedback] := by
  cases step with
  | start _ reached =>
    obtain rfl := h.unplanned (by rw [reached]; rfl)
    exact Or.inr ⟨rfl, rfl⟩
  | _ => exact Or.inl rfl

/-- The messages of a GoTo goal are in order. -/
def FeedOrdered (s : GoalState) (f : Feed) : Prop :=
  ∀ g, s.handle.map (·.goal) = some (.move g) → FeedbackInOrder g f.published

theorem feedOrdered_iff {g : MoveGoal} (owned : s.handle.map (·.goal) = some (.move g)) :
    FeedOrdered s f ↔ FeedbackInOrder g f.published := by
  rw [FeedOrdered, owned]
  constructor
  · exact fun all => all g rfl
  · intro ordered g' same
    cases same
    exact ordered

/-- The goal's own threads keep the messages as they are, in order or not. -/
theorem ordered_goalStep {act : GoalAction} (taken : s.step node contact act = some t)
    (h : FeedKept s f) : FeedOrdered t (f.after s act) ↔ FeedOrdered s f := by
  have kept : ∀ g, FeedbackInOrder g (f.after s act).published ↔ FeedbackInOrder g f.published := by
    intro g
    rcases published_planStep (GoalState.planStep taken) h with same | ⟨none, first⟩
    · rw [same]
    · rw [none, first]
      exact iff_of_true ((feedbackInOrder_iff .nil).mpr .nil) (feedbackInOrder_nil g)
  unfold FeedOrdered
  rcases GoalState.step_goal (GoalState.step_cases taken) with ⟨admitted, reached, -⟩ | same
  · have none := h.unplanned (by rw [reached]; rfl)
    refine iff_of_true (fun g _ => (kept g).mpr ?_) (fun g _ => ?_)
    all_goals rw [none]; exact feedbackInOrder_nil g
  · rw [same]
    exact forall_congr' fun g => imp_congr_right fun _ => kept g

/-- A callback keeps them in order when it is in time, and only then. -/
theorem ordered_feedStep {act : FeedbackAction} (taken : f.step s act = some f')
    (settling : s.Settling) (h : FeedKept s f) :
    FeedOrdered s f' ↔ FeedOrdered s f ∧ f.inTime act = true := by
  have step := Feed.step_cases taken
  by_cases owned : ∃ g, s.handle.map (·.goal) = some (.move g)
  · obtain ⟨g, owned⟩ := owned
    obtain ⟨⟨_, status⟩, owns, rfl⟩ := Option.map_eq_some_iff.mp owned
    rw [feedOrdered_iff owned, feedOrdered_iff owned]
    cases unplanned : s.main.unplanned with
    | true =>
      obtain rfl := h.unplanned unplanned
      exact (not_feedStep step settling unplanned).elim
    | false =>
      exact Feed.order_step step (h.sound unplanned g status owns) (settling.asking owns)
  · -- Only a goal of a GoTo server has a callback that can be late.
    have early : f.inTime act = true := by
      unfold Feed.inTime
      split
      · obtain ⟨state, member⟩ := Feed.publishes_plan ‹_›
        obtain ⟨g, status, owns⟩ := h.relays _ state member
        exact (owned ⟨g, by rw [owns]; rfl⟩).elim
      · rfl
    rw [early, and_iff_left rfl]
    exact iff_of_true (fun g owns => (owned ⟨g, owns⟩).elim) fun g owns => (owned ⟨g, owns⟩).elim

end

namespace Relay
variable {node : Node} {s t : Relay} {act : RelayAction} {id : GoalId}

/-- The goal's callback that takes this step publishes while its plan is in flight. -/
def InFlight (id : GoalId) (s : Relay) : RelayAction → Prop
  | .feedback other act => other = id → (s.feed id).inFlight act = true
  | .node _ => True

instance (id : GoalId) (s : Relay) (act : RelayAction) : Decidable (InFlight id s act) := by
  unfold InFlight
  split <;> infer_instance

/-- The goal's callback that takes this step is in time. -/
def InTime (id : GoalId) (s : Relay) : RelayAction → Prop
  | .feedback other act => other = id → (s.feed id).inTime act = true
  | .node _ => True

theorem inTime_of_inFlight (early : InFlight id s act) : InTime id s act := by
  cases act with
  | node => trivial
  | feedback other act => exact fun own => Feed.inTime_of_inFlight (early own)

structure Kept (node : Node) (id : GoalId) (s : Relay) : Prop where
  reached : ∃ acts, run (System.step node) System.init acts = some s.system
  feed : FeedKept (s.goal id) (s.feed id)

theorem kept_step (h : Kept node id s) (taken : s.step node act = some t) : Kept node id t := by
  obtain ⟨acts, front⟩ := h.reached
  obtain ⟨more, back⟩ := system_step taken
  refine ⟨⟨acts ++ more, run_append.mpr ⟨_, front, back⟩⟩, ?_⟩
  rcases feed_step id taken with ⟨own, -, moved, feed⟩ | ⟨own, -, goal, moved⟩ | ⟨goal, feed, -⟩
  · rw [feed]
    exact feedKept_goalStep moved (System.validated front id) h.feed
  · rw [goal]
    exact feedKept_feedStep moved (System.settling front id) h.feed
  · rw [goal, feed]
    exact h.feed

theorem ordered_step (h : Kept node id s) (taken : s.step node act = some t) :
    FeedOrdered (t.goal id) (t.feed id) ↔ FeedOrdered (s.goal id) (s.feed id) ∧ InTime id s act := by
  obtain ⟨acts, front⟩ := h.reached
  obtain ⟨own, rfl, moved, feed⟩ | ⟨own, rfl, goal, moved⟩ | ⟨goal, feed, quiet⟩ := feed_step id taken
  · rw [InTime, and_true, feed]
    exact ordered_goalStep moved h.feed
  · rw [goal, ordered_feedStep moved (System.settling front id) h.feed]
    exact and_congr_right fun _ => ⟨fun early _ => early, fun early => early rfl⟩
  · have early : InTime id s act := by
      cases act with
      | node act => trivial
      | feedback other own =>
        intro same
        exact (quiet own (by rw [same])).elim
    rw [goal, feed, and_iff_left early]

end Relay

/-- Message by message: the feedback is in order exactly when no callback of the planner's publishes
after a message of a later step of its goal. -/
theorem feedback_in_order_iff (node : Node) (acts : List RelayAction) (t : Relay) (id : GoalId)
    (g : MoveGoal) (status : HandleStatus) (h : run (Relay.step node) Relay.init acts = some t)
    (accepted : t.system.handle id = some ⟨.move g, status⟩) :
    FeedbackInOrder g (t.feed id).published ↔
      Meets (Relay.step node) (Relay.InTime id) Relay.init acts := by
  have owned : (t.goal id).handle.map (·.goal) = some (.move g) := by
    rw [show (t.goal id).handle = t.system.handle id from rfl, accepted]
    rfl
  have start : Relay.Kept node id Relay.init :=
    ⟨⟨[], rfl⟩, fun _ => rfl, fun planned => (by cases planned), fun _ _ member => (by cases member)⟩
  have fresh : FeedOrdered (Relay.init.goal id) (Relay.init.feed id) := fun g owns => by cases owns
  have kept := @run_iff_meets _ _ (Relay.step node) (Relay.Kept node id)
    (fun s => FeedOrdered (s.goal id) (s.feed id)) (Relay.InTime id)
    (fun _ _ _ => Relay.kept_step) (fun _ _ _ => Relay.ordered_step) acts _ t start h
  rw [feedOrdered_iff owned] at kept
  exact kept.trans (and_iff_right fresh)

/-- The feedback of a goal is in order in the runs in which the planner's callbacks publish only while
their own plan is in flight. -/
theorem feedback_in_order (node : Node) (acts : List RelayAction) (t : Relay) (id : GoalId)
    (g : MoveGoal) (status : HandleStatus) (h : run (Relay.step node) Relay.init acts = some t)
    (accepted : t.system.handle id = some ⟨.move g, status⟩)
    (inFlight : Meets (Relay.step node) (Relay.InFlight id) Relay.init acts) :
    FeedbackInOrder g (t.feed id).published :=
  (feedback_in_order_iff node acts t id g status h accepted).mpr
    (meets_mono (fun _ _ => Relay.inTime_of_inFlight) inFlight)

/-! ### At the bench -/

def relayBench (acts : List GoalAction) : List RelayAction := (bench acts).map .node

def benchCallback (i n : Nat) : List RelayAction := List.replicate n (.feedback benchId (.step i))

def benchSample : TrajectoryFeedback where
  desired := .constant (.finite 0)
  actual := .constant (.finite 0)
  error := .constant (.finite 0)
  fractionComplete := .finite (1 / 2)

/-- The planner's callback has found the goal. -/
def benchRelaying : List RelayAction :=
  relayBench (benchAccept ++ benchPlanning) ++
    [.feedback benchId (.planner 0 "solving"), .feedback benchId (.step 0)]

/-- The plan is handed over and the Supervisor publishes a sample. -/
def benchSampled : List RelayAction :=
  relayBench [.planner benchReply, .main, .main, .main, .submit .accept, .main, .main, .main] ++
    [.feedback benchId (.sample benchSample)] ++ benchCallback 1 3

def benchOwned (goal : ActionGoal) (s : Relay) : Bool := (s.goal benchId).handle.any (·.goal = goal)

theorem benchOwned_spec {g : MoveGoal} {s : Relay} (h : benchOwned (.move g) s = true) :
    ∃ status, s.system.handle benchId = some ⟨.move g, status⟩ := by
  obtain ⟨⟨goal, status⟩, held, same⟩ := (Option.any_eq_true _ _).mp h
  obtain rfl : goal = .move g := of_decide_eq_true same
  exact ⟨status, held⟩

def benchTwoAccepted : List RelayAction :=
  relayBench [.goal (.move (.jointConfigs benchTwoConfigs)) { stampS := .finite 1 } .accept, .accept,
    .main, .main, .armState {}, .main, .main]

/-- Each leg's callback publishes before the planner answers. -/
def benchLegsInTurn : List RelayAction :=
  benchTwoAccepted ++ [.feedback benchId (.planner 0 "solving")] ++ benchCallback 0 2 ++
    relayBench [.planner benchReply, .main, .main] ++
    [.feedback benchId (.planner 1 "solving")] ++ benchCallback 1 2

theorem feedback_in_order_benchInFlight :
    (∃ t, run (Relay.step benchNode) Relay.init (benchRelaying ++ benchCallback 0 1 ++ benchSampled) =
        some t ∧
      FeedbackInOrder (.jointConfig { token := fun _ => 1 }) (t.feed benchId).published) ∧
    ∃ t, run (Relay.step benchNode) Relay.init benchLegsInTurn = some t ∧
      FeedbackInOrder (.jointConfigs benchTwoConfigs) (t.feed benchId).published := by
  constructor
  · obtain ⟨t, h, reached⟩ := run_reaches (Relay.step benchNode) Relay.init
      (benchRelaying ++ benchCallback 0 1 ++ benchSampled)
      (fun t => benchOwned benchGoal t && decide (Meets (Relay.step benchNode) (Relay.InFlight benchId)
        Relay.init (benchRelaying ++ benchCallback 0 1 ++ benchSampled))) (by decide +kernel)
    obtain ⟨owned, inFlight⟩ := Bool.and_eq_true_iff.mp reached
    obtain ⟨status, accepted⟩ := benchOwned_spec owned
    exact ⟨t, h, feedback_in_order benchNode _ t benchId _ status h accepted (of_decide_eq_true inFlight)⟩
  · obtain ⟨t, h, reached⟩ := run_reaches (Relay.step benchNode) Relay.init benchLegsInTurn
      (fun t => benchOwned (.move (.jointConfigs benchTwoConfigs)) t &&
        decide (Meets (Relay.step benchNode) (Relay.InFlight benchId) Relay.init benchLegsInTurn))
      (by decide +kernel)
    obtain ⟨owned, inFlight⟩ := Bool.and_eq_true_iff.mp reached
    obtain ⟨status, accepted⟩ := benchOwned_spec owned
    exact ⟨t, h, feedback_in_order benchNode _ t benchId _ status h accepted (of_decide_eq_true inFlight)⟩

/-- The first leg's callback has found the goal when the planner answers, and publishes after the
second leg's. -/
def benchTwoLegs : List RelayAction :=
  benchTwoAccepted ++ [.feedback benchId (.planner 0 "solving"), .feedback benchId (.step 0)] ++
    relayBench [.planner benchReply, .main, .main] ++
    [.feedback benchId (.planner 1 "solving")] ++ benchCallback 1 2 ++ benchCallback 0 1

theorem late_feedback_reorders :
    (¬ ∀ (node : Node) (acts : List RelayAction) (t : Relay) (id : GoalId) (g : MoveGoal)
      (status : HandleStatus), run (Relay.step node) Relay.init acts = some t →
      t.system.handle id = some ⟨.move g, status⟩ → PhasesInOrder (t.feed id).published) ∧
    ¬ ∀ (node : Node) (acts : List RelayAction) (t : Relay) (id : GoalId) (g : MoveGoal)
      (status : HandleStatus) (ts : List LegTarget), run (Relay.step node) Relay.init acts = some t →
      t.system.handle id = some ⟨.move g, status⟩ → g.legTargets = some ts →
      LegsInOrder ts.length (t.feed id).published := by
  constructor
  · intro inPhases
    obtain ⟨t, h, reached⟩ := run_reaches (Relay.step benchNode) Relay.init
      (benchRelaying ++ benchSampled ++ benchCallback 0 1)
      (fun t => benchOwned benchGoal t && decide (¬ PhasesInOrder (t.feed benchId).published))
      (by decide +kernel)
    obtain ⟨owned, broken⟩ := Bool.and_eq_true_iff.mp reached
    obtain ⟨status, accepted⟩ := benchOwned_spec owned
    exact of_decide_eq_true broken (inPhases benchNode _ t benchId _ status h accepted)
  · intro inLegs
    obtain ⟨t, h, reached⟩ := run_reaches (Relay.step benchNode) Relay.init benchTwoLegs
      (fun t => benchOwned (.move (.jointConfigs benchTwoConfigs)) t &&
        decide (((t.feed benchId).published.map (·.plannerState)).filter (· ≠ "") =
          [legName 1 2 ++ "solving", legName 0 2 ++ "solving"])) (by decide +kernel)
    obtain ⟨owned, texts⟩ := Bool.and_eq_true_iff.mp reached
    obtain ⟨status, accepted⟩ := benchOwned_spec owned
    have ordered := inLegs benchNode _ t benchId (.jointConfigs benchTwoConfigs) status
      (benchTwoConfigs.targets.map JointConfigTarget.leg) h accepted rfl
    rw [List.length_map] at ordered
    have two : benchTwoConfigs.targets.length = 2 := rfl
    have placed : List.Forall₂ (Starts (chainPrefixes 2))
        [legName 1 2 ++ "solving", legName 0 2 ++ "solving"] [1, 0] :=
      .cons ⟨_, _, rfl, rfl⟩ (.cons ⟨_, _, rfl, rfl⟩ .nil)
    rw [two, LegsInOrder, of_decide_eq_true texts,
      inOrder_iff (selfDelimiting_chainPrefixes 2) placed] at ordered
    revert ordered
    decide

end KinovaGen3
