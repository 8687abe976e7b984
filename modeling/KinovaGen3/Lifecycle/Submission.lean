import KinovaGen3.Mapping.Lossless
import KinovaGen3.Lifecycle.Settlement

/-!
What reaches the sink over whole runs: every submitted goal is the image of its source, and what is
handed over is what the sink accepted.
-/

namespace KinovaGen3
open Transition

def Main.outcome? : Main → Option Outcome
  | begun o | found o => some o
  | _ => none

def Main.accepted? : Main → Option TrajectoryGoal
  | validated tg | registering tg | handing tg => some tg
  | _ => none

def Main.isAdmitted : Main → Bool
  | admitted _ => true
  | _ => false

def Main.plain : Main → Bool
  | admitted _ | begun _ | found _ | submitting _ => false
  | _ => true

def Event.other : Event → Bool
  | submitted .. | handedOver _ => false
  | _ => true

/-- A submission is the image of the goal, or of the plan that `on_plan_done` got for it. -/
def IsImage (node : Node) (log : List Event) (goal : ActionGoal) (tg : TrajectoryGoal) : Prop :=
  match goal with
  | .execute g => IsExecuteImage node g tg
  | .move g => ∃ o, .planned o ∈ log ∧ IsPlanImage node g o tg

theorem IsImage.mono {node : Node} {log more : List Event} {goal : ActionGoal} {tg : TrajectoryGoal}
    (h : IsImage node log goal tg) : IsImage node (log ++ more) goal tg := by
  cases goal with
  | execute g => exact h
  | move g =>
    obtain ⟨o, planned, image⟩ := h
    exact ⟨o, List.mem_append_left _ planned, image⟩

namespace GoalState

def admitted? (s : GoalState) : Option ActionGoal :=
  match s.main with
  | .admitted goal => some goal
  | _ => s.handle.map (·.goal)

variable {node : Node} {contact : ContactState} {s t : GoalState} {act : GoalAction}

theorem admitted?_handle (past : s.main.isAdmitted = false) : s.admitted? = s.handle.map (·.goal) := by
  unfold admitted?
  split
  · rename_i reached
    rw [reached] at past
    cases past
  · rfl

theorem admitted?_admitted {goal : ActionGoal} (reached : s.main = .admitted goal) :
    s.admitted? = some goal := by
  unfold admitted?
  rw [reached]

theorem admitted?_keep (left : s.main.isAdmitted = false) (reached : t.main.isAdmitted = false)
    (goal : t.handle.map (·.goal) = s.handle.map (·.goal)) : t.admitted? = s.admitted? := by
  rw [admitted?_handle left, admitted?_handle reached, goal]

structure Submissions (node : Node) (s : GoalState) : Prop where
  mode : ∀ g, s.admitted? = some (.move g) →
    modeGainsRejection node.driver g.controlMode g.gains = none
  backend : ∀ g, s.admitted? = some (.execute g) →
    .submitted (.execute g) (toTrajectoryGoal node.driver g) .accept ∈ s.log
  planned : ∀ o ∈ s.main.outcome?, .planned o ∈ s.log
  submitting : ∀ tg, s.main = .submitting tg → ∀ h ∈ s.handle, IsImage node s.log h.goal tg
  submitted : ∀ goal tg answer, .submitted goal tg answer ∈ s.log → IsImage node s.log goal tg
  accepted : ∀ tg ∈ s.main.accepted?, ∀ h ∈ s.handle, .submitted h.goal tg .accept ∈ s.log
  handed : ∀ tg, .handedOver tg ∈ s.log → ∃ h ∈ s.handle, .submitted h.goal tg .accept ∈ s.log

/-- What a step adds to the log is fine: images, and hand-overs of what was accepted. -/
structure Fine (node : Node) (s t : GoalState) (more : List Event) : Prop where
  log : t.log = s.log ++ more
  goal : t.handle.map (·.goal) = s.handle.map (·.goal)
  images : ∀ goal tg answer, .submitted goal tg answer ∈ more → IsImage node s.log goal tg
  hands : ∀ tg, .handedOver tg ∈ more → ∃ h ∈ s.handle, .submitted h.goal tg .accept ∈ s.log

theorem fine_nothing (log : t.log = s.log) (goal : t.handle.map (·.goal) = s.handle.map (·.goal)) :
    Fine node s t [] where
  log := log.trans (List.append_nil _).symm
  goal := goal
  images _ _ _ member := (List.not_mem_nil member).elim
  hands _ member := (List.not_mem_nil member).elim

theorem fine_other {more : List Event} (log : t.log = s.log ++ more)
    (goal : t.handle.map (·.goal) = s.handle.map (·.goal)) (other : more.all Event.other = true) :
    Fine node s t more where
  log := log
  goal := goal
  images _ _ _ member := (Bool.false_ne_true (List.all_eq_true.mp other _ member)).elim
  hands _ member := (Bool.false_ne_true (List.all_eq_true.mp other _ member)).elim

theorem Submissions.frame {more : List Event} (h : Submissions node s) (fine : Fine node s t more)
    (admitted : t.admitted? = s.admitted?) (outcome : ∀ o ∈ t.main.outcome?, .planned o ∈ t.log)
    (submitting : ∀ tg, t.main = .submitting tg → ∀ h ∈ t.handle, IsImage node t.log h.goal tg)
    (accepted : ∀ tg ∈ t.main.accepted?, tg ∈ s.main.accepted? ∨
      ∀ h ∈ s.handle, .submitted h.goal tg .accept ∈ t.log) : Submissions node t := by
  have kept : ∀ {e : Event}, e ∈ s.log → e ∈ t.log := by
    intro e member
    rw [fine.log]
    exact List.mem_append_left _ member
  refine ⟨?_, ?_, outcome, submitting, ?_, ?_, ?_⟩
  · rw [admitted]
    exact h.mode
  · rw [admitted]
    exact fun g mine => kept (h.backend g mine)
  · intro goal tg answer member
    rw [fine.log] at member ⊢
    rcases List.mem_append.mp member with old | new
    · exact (h.submitted goal tg answer old).mono
    · exact (fine.images goal tg answer new).mono
  · intro tg mine handle held
    obtain ⟨handle', held', same⟩ := same_goal fine.goal held
    rw [← same]
    rcases accepted tg mine with before | first
    · exact kept (h.accepted tg before handle' held')
    · exact first handle' held'
  · intro tg member
    have first : ∃ h ∈ s.handle, .submitted h.goal tg .accept ∈ s.log := by
      rw [fine.log] at member
      rcases List.mem_append.mp member with old | new
      · exact h.handed tg old
      · exact fine.hands tg new
    obtain ⟨handle, held, first⟩ := first
    obtain ⟨handle', held', same⟩ := same_goal fine.goal.symm held
    exact ⟨handle', held', same ▸ kept first⟩

theorem Submissions.aside {more : List Event} (h : Submissions node s) (fine : Fine node s t more)
    (main : t.main = s.main) : Submissions node t := by
  refine h.frame fine ?_ ?_ ?_ ?_
  · unfold admitted?
    rw [main, fine.goal]
  · intro o looked
    rw [main] at looked
    rw [fine.log]
    exact List.mem_append_left _ (h.planned o looked)
  · intro tg here handle held
    obtain ⟨handle', held', same⟩ := same_goal fine.goal held
    rw [fine.log, ← same]
    exact (h.submitting tg (main ▸ here) handle' held').mono
  · rw [main]
    exact fun _ mine => Or.inl mine

theorem Submissions.move {more : List Event} (h : Submissions node s) (fine : Fine node s t more)
    (left : s.main.isAdmitted = false) (plain : t.main.plain = true)
    (accepted : ∀ tg ∈ t.main.accepted?, tg ∈ s.main.accepted? ∨
      ∀ h ∈ s.handle, .submitted h.goal tg .accept ∈ t.log) : Submissions node t := by
  refine h.frame fine ?_ ?_ ?_ accepted
  · refine admitted?_keep left ?_ fine.goal
    cases shown : t.main <;> simp_all [Main.plain, Main.isAdmitted]
  · intro o looked
    cases shown : t.main <;> simp_all [Main.plain, Main.outcome?]
  · intro tg here
    rw [here] at plain
    cases plain

theorem submissions_step (step : GoalStep node contact s act t) (early : s.main.early = s.handle.isNone)
    (h : Submissions node s) : Submissions node t := by
  cases step with
  | rejectMove new | rejectExecute new =>
    exact h.move (fine_nothing rfl rfl) (by rw [new]; rfl) rfl (fun _ => nofun)
  | start _ reached | plan reached | lose _ reached _ | contactStop _ reached _ | invalid _ reached _
  | settleLocal _ _ reached | erase _ reached | rereadLatched _ reached _ _ | rereadClear _ reached _
  | record _ reached | backendRecord _ reached =>
    exact h.move (fine_nothing rfl rfl) (by rw [reached]; rfl) rfl (fun _ => nofun)
  | execute _ reached | register _ reached =>
    exact h.move (fine_nothing rfl rfl) (by rw [reached]; rfl) rfl (by
      rw [reached]
      exact fun _ mine => Or.inl mine)
  | recancel _ reached =>
    exact h.move (fine_other rfl rfl rfl) (by rw [reached]; rfl) rfl (fun _ => nofun)
  | @transition handle asked result dropped _ reached =>
    have kept := terminate_handle_goal s handle.goal.port asked result dropped
    exact h.move (fine_other rfl kept rfl) (by rw [reached]; rfl) rfl (fun _ => nofun)
  | cancel | cancelMiss | cancelLatch | backendCancelLook | settle | settleMiss | settleAsk =>
    exact h.aside (fine_nothing rfl rfl) rfl
  | cancelPlan => exact h.aside (fine_other rfl rfl rfl) rfl
  | cancelSend | backendCancelSend =>
    exact h.aside (fine_other (List.append_assoc _ _ _) rfl rfl) rfl
  | @settleMove port asked result dropped =>
    exact h.aside (fine_other rfl (terminate_handle_goal s port asked result dropped) rfl) rfl
  | mark owns => exact h.aside (fine_nothing rfl (by rw [owns]; rfl)) rfl
  | settleTake =>
    obtain ⟨_, handle, main, log⟩ := erase_rest (s := s) _
    exact h.aside (fine_nothing log (by rw [← handle])) main
  | admitMove new decided =>
    refine ⟨fun g same => ?_, fun g same => ?_, fun _ => nofun, fun _ => nofun, h.submitted,
      fun _ => nofun, h.handed⟩
    · cases same
      exact (PlannedMoveServer.handleGoal_accept decided).1
    · cases same
  | @admitExecute arm g tg new decided =>
    obtain ⟨rfl, image⟩ := Ros2Backend.handleGoal_image decided
    have accepted : .submitted (.execute g) (toTrajectoryGoal node.driver g) .accept ∈
        s.log ++ [.submitted (.execute g) (toTrajectoryGoal node.driver g) .accept] :=
      List.mem_append_right _ (List.mem_singleton_self _)
    refine ⟨fun g same => ?_, fun g same => ?_, fun _ => nofun, fun _ => nofun,
      fun goal tg answer member => ?_, fun _ => nofun, fun tg member => ?_⟩
    · cases same
    · cases same
      exact accepted
    · rcases List.mem_append.mp member with old | new
      · exact (h.submitted goal tg answer old).mono
      · cases List.mem_singleton.mp new
        exact image
    · rcases List.mem_append.mp member with old | new
      · obtain ⟨handle, held, first⟩ := h.handed tg old
        exact ⟨handle, held, List.mem_append_left _ first⟩
      · cases List.mem_singleton.mp new
  | refuseExecute new decided =>
    obtain ⟨rfl, image⟩ := Ros2Backend.handleGoal_image decided
    refine h.move ⟨rfl, rfl, fun goal tg answer new => ?_, fun tg new => ?_⟩ (by rw [new]; rfl) rfl
      (fun _ => nofun)
    · cases List.mem_singleton.mp new
      exact image
    · cases List.mem_singleton.mp new
  | accept reached =>
    rw [reached] at early
    have none : s.handle = none := Option.isNone_iff_eq_none.mp early.symm
    have same := admitted?_admitted reached
    refine ⟨fun g mine => h.mode g (same.trans mine), fun g mine => h.backend g (same.trans mine),
      fun _ => nofun, fun _ => nofun, h.submitted, fun _ => nofun, fun tg member => ?_⟩
    obtain ⟨handle, held, _⟩ := h.handed tg member
    rw [none] at held
    cases held
  | @backendHand g status owns reached =>
    have past : s.main.isAdmitted = false := by rw [reached]; rfl
    refine h.move ⟨rfl, rfl, fun goal tg answer new => ?_, fun tg new => ?_⟩ past rfl (fun _ => nofun)
    · cases List.mem_singleton.mp new
    · cases List.mem_singleton.mp new
      refine ⟨_, owns, h.backend g ?_⟩
      rw [admitted?_handle past, owns]
      rfl
  | planned owns reached =>
    refine h.frame (fine_other rfl rfl rfl) ?_ (fun o mine => ?_) (fun _ => nofun) (fun _ => nofun)
    · exact admitted?_keep (by rw [reached]; rfl) rfl rfl
    · cases mine
      exact List.mem_append_right _ (List.mem_singleton_self _)
  | find owns reached found =>
    refine h.frame (fine_nothing rfl rfl) ?_ ?_ (fun _ => nofun) (fun _ => nofun)
    · exact admitted?_keep (by rw [reached]; rfl) rfl rfl
    · have looked := h.planned
      rw [reached] at looked
      exact looked
  | @decide handle g o owns goal reached =>
    have past : s.main.isAdmitted = false := by rw [reached]; rfl
    obtain ⟨-, fine, submits⟩ | ⟨result, ends, -⟩ := planDecision_cases node g o handle.isCanceling
    · rw [submits]
      refine h.frame (fine_nothing rfl rfl) ?_ (fun _ => nofun) ?_ (fun _ => nofun)
      · exact admitted?_keep past rfl rfl
      · intro tg here handle' owns'
        cases here
        obtain rfl := Option.some.inj (owns.symm.trans owns')
        rw [goal]
        refine ⟨o, h.planned o (by rw [reached]; rfl), ?_⟩
        refine PlannedMoveServer.submission_image (h.mode g ?_) fine
        rw [admitted?_handle past, owns, ← goal]
        rfl
    · rw [ends]
      exact h.move (fine_nothing rfl rfl) past rfl (fun _ => nofun)
  | @hand g status tg owns reached =>
    have past : s.main.isAdmitted = false := by rw [reached]; rfl
    refine h.move ⟨rfl, rfl, fun goal tg answer new => ?_, fun tg' new => ?_⟩ past rfl (fun _ => nofun)
    · cases List.mem_singleton.mp new
    · cases List.mem_singleton.mp new
      exact ⟨_, owns, h.accepted tg (by rw [reached]; rfl) _ owns⟩
  | @submitAccept handle tg owns reached =>
    refine h.move ⟨rfl, rfl, fun goal tg' answer new => ?_, fun tg' new => ?_⟩ (by rw [reached]; rfl)
      rfl ?_
    · cases List.mem_singleton.mp new
      exact h.submitting tg reached handle owns
    · cases List.mem_singleton.mp new
    · intro tg' mine
      cases mine
      refine Or.inr fun handle' owns' => ?_
      obtain rfl := Option.some.inj (owns.symm.trans owns')
      exact List.mem_append_right _ (List.mem_singleton_self _)
  | @submitReject handle tg owns reached =>
    refine h.move ⟨rfl, rfl, fun goal tg' answer new => ?_, fun tg' new => ?_⟩ (by rw [reached]; rfl)
      rfl (fun _ => nofun)
    · cases List.mem_singleton.mp new
      exact h.submitting tg reached handle owns
    · cases List.mem_singleton.mp new

theorem submissions_new : Submissions node {} where
  mode _ same := by cases same
  backend _ same := by cases same
  planned _ looked := by cases looked
  submitting _ here := by cases here
  submitted _ _ _ member := (List.not_mem_nil member).elim
  accepted _ mine := by cases mine
  handed _ member := (List.not_mem_nil member).elim

theorem exists_handedOver (h : s.handed = true) : ∃ tg, .handedOver tg ∈ s.log := by
  obtain ⟨e, member, kind⟩ := List.any_eq_true.mp h
  cases e with
  | handedOver tg => exact ⟨tg, member⟩
  | _ => cases kind

end GoalState

theorem System.submissions {node : Node} {acts : List Action} {s : System}
    (h : run (System.step node) System.init acts = some s) (id : GoalId) :
    (s.goal id).Submissions node := by
  have both : (s.goal id).Settling ∧ (s.goal id).Submissions node := by
    refine @System.goal_invariant node (fun s => s.Settling ∧ s.Submissions node) ?_ _ _ _ id ?_ h
    · intro contact s act t ⟨settling, submissions⟩ taken
      have step := GoalState.step_cases taken
      exact ⟨GoalState.settling_step step settling,
        GoalState.submissions_step step settling.early submissions⟩
    · exact ⟨GoalState.settling_new, GoalState.submissions_new⟩
  exact both.2

/-- Whatever is submitted to the sink says what the goal or its plan said, joint by joint, and what
is handed over is what the sink has accepted for the goal. -/
theorem nothing_remapped (node : Node) (acts : List Action) (s : System) (id : GoalId)
    (h : run (System.step node) System.init acts = some s) :
    (∀ goal tg answer, .submitted goal tg answer ∈ s.log id → IsImage node (s.log id) goal tg) ∧
    ∀ tg, .handedOver tg ∈ s.log id →
      ∃ handle, s.handle id = some handle ∧ .submitted handle.goal tg .accept ∈ s.log id :=
  ⟨(System.submissions h id).submitted, (System.submissions h id).handed⟩

def benchMoved : List GoalAction :=
  benchAccept ++ benchPlanning ++ [.planner benchReply, .main, .main, .main, .submit .accept, .main,
    .main, .main, .main]

theorem nothing_remapped_benchMoved : ∃ (s : System) (handle : GoalHandle) (tg : TrajectoryGoal),
    run (System.step benchNode) System.init (bench benchMoved) = some s ∧
      .handedOver tg ∈ s.log benchId ∧ IsImage benchNode (s.log benchId) handle.goal tg := by
  obtain ⟨s, ran, reached⟩ := run_reaches (System.step benchNode) System.init (bench benchMoved)
    (fun s => (s.goal benchId).handed) (by decide +kernel)
  obtain ⟨tg, handed⟩ := GoalState.exists_handedOver reached
  obtain ⟨images, hands⟩ := nothing_remapped benchNode _ s benchId ran
  obtain ⟨handle, -, accepted⟩ := hands tg handed
  exact ⟨s, handle, tg, ran, handed, images _ _ _ accepted⟩

end KinovaGen3
