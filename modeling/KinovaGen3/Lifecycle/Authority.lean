import KinovaGen3.Lifecycle.Cancel
import KinovaGen3.Lifecycle.Submission

/-!
The authority that core is asked with. A cancel carries none of its own, so the node replays the token of
the goal; only a cancel that `Ros2Backend` has no entry for goes to core without one, and none does while
the Supervisor has the goal.
-/

namespace KinovaGen3
open Transition

theorem IsImage.token {node : Node} {log : List Event} {goal : ActionGoal} {tg : TrajectoryGoal}
    (h : IsImage node log goal tg) : tg.token = goal.token := by
  cases goal with
  | execute g => exact IsExecuteImage.token h
  | move g =>
    obtain ⟨o, -, image⟩ := h
    exact image.token

namespace GoalState

def token? (s : GoalState) : Option Token := s.handle.map (·.goal.token)

/-- `handle_cancel` of `Ros2Backend` has found no entry to take a token from. -/
def Unknown (s : GoalState) (token : Token) : Prop :=
  token = Token.zero ∧ (∃ h ∈ s.handle, h.goal.port = .backend) ∧ ∃ call ∈ s.cancels, call.missed = true

/-- What a call to cancel has read is what the goal came with. -/
def Reads (s : GoalState) : CancelCall → Prop
  | .looked found executing token =>
    if found then s.token? = some token else executing = false ∧ token = Token.zero
  | _ => True

structure Authorised (s : GoalState) : Prop where
  entries : ∀ server entry, s.goals server = some entry → s.token? = some entry.token
  handles : ∀ token, s.handles = some token → s.token? = some token
  calls : ∀ call ∈ s.cancels, s.Reads call
  again : ∀ token, s.main = .recanceling token → s.token? = some token
  executing : s.main.executes = true → ∀ server entry, s.goals server = some entry → entry.executing = true
  sent : ∀ token, .cancelSent token ∈ s.log → s.token? = some token ∨ s.Unknown token

variable {node : Node} {contact : ContactState} {s t : GoalState} {act : GoalAction}

theorem token_owned {h : GoalHandle} (owns : s.handle = some h) : s.token? = some h.goal.token := by
  rw [token?, owns]
  rfl

theorem token_kept (handle : ∀ g ∈ s.handle, ∃ g' ∈ t.handle, g'.goal = g.goal) {token : Token}
    (h : s.token? = some token) : t.token? = some token := by
  obtain ⟨g, held, rfl⟩ := Option.map_eq_some_iff.mp h
  obtain ⟨g', held', same⟩ := handle g held
  rw [token_owned held', same]

theorem Reads.mono {call : CancelCall} (h : s.Reads call)
    (handle : ∀ g ∈ s.handle, ∃ g' ∈ t.handle, g'.goal = g.goal) : t.Reads call := by
  cases call with
  | looked found executing token =>
    cases found with
    | true => exact token_kept handle h
    | false => exact h
  | _ => trivial

theorem Unknown.mono {token : Token} (h : s.Unknown token)
    (handle : ∀ g ∈ s.handle, ∃ g' ∈ t.handle, g'.goal = g.goal)
    (misses : ∀ call ∈ s.cancels, call.missed = true → ∃ call ∈ t.cancels, call.missed = true) :
    t.Unknown token := by
  obtain ⟨zero, ⟨g, held, backend⟩, call, member, missed⟩ := h
  obtain ⟨g', held', same⟩ := handle g held
  exact ⟨zero, ⟨g', held', by rw [same, backend]⟩, misses call member missed⟩

theorem Authorised.frame (h : s.Authorised) (handle : ∀ g ∈ s.handle, ∃ g' ∈ t.handle, g'.goal = g.goal)
    (entries : ∀ server entry, t.goals server = some entry → s.token? = some entry.token)
    (handles : ∀ token, t.handles = some token → s.token? = some token)
    (cancels : t.cancels = s.cancels)
    (again : ∀ token, t.main = .recanceling token → s.token? = some token)
    (executing : t.main.executes = true → ∀ server entry, t.goals server = some entry →
      entry.executing = true)
    (sent : ∀ token, .cancelSent token ∈ t.log → .cancelSent token ∈ s.log ∨ s.token? = some token) :
    t.Authorised where
  entries server entry found := token_kept handle (entries server entry found)
  handles token held := token_kept handle (handles token held)
  calls call member := (h.calls call (cancels ▸ member)).mono handle
  again token here := token_kept handle (again token here)
  executing := executing
  sent token member := by
    rcases sent token member with old | own
    · rcases h.sent token old with own | unknown
      · exact Or.inl (token_kept handle own)
      · exact Or.inr (unknown.mono handle fun call member missed => ⟨call, cancels ▸ member, missed⟩)
    · exact Or.inl (token_kept handle own)

/-- A step that leaves the maps and the calls to cancel alone. -/
theorem Authorised.move (h : s.Authorised) (handle : ∀ g ∈ s.handle, ∃ g' ∈ t.handle, g'.goal = g.goal)
    (goals : t.goals = s.goals) (handles : t.handles = s.handles) (cancels : t.cancels = s.cancels)
    (again : ∀ token, t.main = .recanceling token → s.token? = some token)
    (executes : t.main.executes = true → s.main.executes = true)
    (sent : ∀ token, .cancelSent token ∈ t.log → .cancelSent token ∈ s.log ∨ s.token? = some token) :
    t.Authorised := by
  refine h.frame handle ?_ ?_ cancels again ?_ sent
  · rw [goals]
    exact h.entries
  · rw [handles]
    exact h.handles
  · rw [goals]
    exact fun here => h.executing (executes here)

theorem missed_set {calls : List CancelCall} {i : Nat} {old new : CancelCall} (reached : calls[i]? = some old)
    (misses : old.missed = true → new.missed = true) :
    ∀ call ∈ calls, call.missed = true → ∃ call ∈ calls.set i new, call.missed = true := by
  intro call member missed
  obtain ⟨j, here⟩ := List.mem_iff_getElem?.mp member
  by_cases same : i = j
  · subst same
    obtain ⟨inside, -⟩ := List.getElem?_eq_some_iff.mp reached
    cases reached.symm.trans here
    exact ⟨new, List.mem_set inside new, misses missed⟩
  · have there : (calls.set i new)[j]? = some call := by rw [List.getElem?_set_ne same, here]
    exact ⟨call, List.mem_of_getElem? there, missed⟩

/-- A call to cancel that has come further. -/
theorem Authorised.call (h : s.Authorised) (handle : ∀ g ∈ s.handle, ∃ g' ∈ t.handle, g'.goal = g.goal)
    {i : Nat} {old new : CancelCall} (reached : s.cancels[i]? = some old)
    (cancels : t.cancels = s.cancels.set i new) (misses : old.missed = true → new.missed = true)
    (reads : s.Reads new) (entries : ∀ server entry, t.goals server = some entry →
      ∃ before, s.goals server = some before ∧ entry.token = before.token ∧ entry.executing = before.executing)
    (handles : t.handles = s.handles) (main : t.main = s.main)
    (sent : ∀ token, .cancelSent token ∈ t.log →
      .cancelSent token ∈ s.log ∨ s.token? = some token ∨ t.Unknown token) : t.Authorised := by
  refine ⟨?_, ?_, ?_, ?_, ?_, ?_⟩
  · intro server entry found
    obtain ⟨before, held, token, -⟩ := entries server entry found
    rw [token]
    exact token_kept handle (h.entries server before held)
  · intro token held
    exact token_kept handle (h.handles token (handles ▸ held))
  · intro call member
    rw [cancels] at member
    rcases List.mem_or_eq_of_mem_set member with past | rfl
    · exact (h.calls call past).mono handle
    · exact reads.mono handle
  · intro token here
    exact token_kept handle (h.again token (main ▸ here))
  · intro here server entry found
    obtain ⟨before, held, -, executing⟩ := entries server entry found
    rw [executing]
    exact h.executing (main ▸ here) server before held
  · intro token member
    have misses : ∀ call ∈ s.cancels, call.missed = true → ∃ call ∈ t.cancels, call.missed = true := by
      rw [cancels]
      exact missed_set reached misses
    rcases sent token member with past | own | unknown
    · rcases h.sent token past with own | unknown
      · exact Or.inl (token_kept handle own)
      · exact Or.inr (unknown.mono handle misses)
    · exact Or.inl (token_kept handle own)
    · exact Or.inr unknown

/-! ### The steps -/

/-- An entry is in the map of the goal's own server. -/
theorem Settling.entry_port (h : Settling s) {g : GoalHandle} (owns : s.handle = some g)
    {server : MoveServer} {entry : Goal} (found : s.goals server = some entry) : g.goal.port = .move server := by
  have held := (h.owned owns).entry (.move server)
  have holds : s.holds (.move server) = true := Option.isSome_iff_exists.mpr ⟨entry, found⟩
  rw [holds] at held
  exact (of_decide_eq_true (Bool.and_eq_true_iff.mp held.symm).2).symm

theorem sent_record {e : Event} (quiet : ∀ token, e ≠ .cancelSent token) (token : Token)
    (member : .cancelSent token ∈ (s.record e).log) : .cancelSent token ∈ s.log ∨ s.token? = some token := by
  rcases List.mem_append.mp member with old | new
  · exact Or.inl old
  · exact (quiet token (List.mem_singleton.mp new).symm).elim

theorem sent_terminate {port : Port} {asked dropped : Bool} {result : TrajectoryResult} (token : Token)
    (member : .cancelSent token ∈ (s.terminate port asked result dropped).log) :
    .cancelSent token ∈ s.log ∨ s.token? = some token := by
  rcases List.mem_append.mp member with old | new
  · exact Or.inl old
  · cases List.mem_singleton.mp new

theorem sent_answered {token token' : Token} {answer : CancelResponse}
    (member : .cancelSent token' ∈ ((s.record (.cancelSent token)).record (.cancelAnswered answer)).log) :
    .cancelSent token' ∈ s.log ∨ token' = token := by
  rcases List.mem_append.mp member with member | answered
  · rcases List.mem_append.mp member with old | new
    · exact Or.inl old
    · exact Or.inr (Event.cancelSent.inj (List.mem_singleton.mp new))
  · cases List.mem_singleton.mp answered

theorem planDecision_waits (node : Node) {g : MoveGoal} {o : Outcome} {canceled : Bool} :
    (planDecision node g o canceled).executes = false ∧
      ∀ token, planDecision node g o canceled ≠ .recanceling token := by
  rcases planDecision_cases node g o canceled with ⟨-, -, submits⟩ | ⟨result, ends, -⟩
  · rw [submits]
    exact ⟨rfl, nofun⟩
  · rw [ends]
    exact ⟨rfl, nofun⟩

theorem storeGoal_goals {own server : MoveServer} {new : Option Goal} {entry : Goal}
    (found : (s.storeGoal own new).goals server = some entry) :
    server = own ∧ new = some entry ∨ server ≠ own ∧ s.goals server = some entry := by
  by_cases same : server = own
  · subst same
    simp only [storeGoal, Function.update_self] at found
    exact Or.inl ⟨rfl, found⟩
  · simp only [storeGoal, Function.update_of_ne same] at found
    exact Or.inr ⟨same, found⟩

theorem authorised_step (step : GoalStep node contact s act t) (settling : Settling s) (h : Authorised s) :
    Authorised t := by
  have handle := handle_goal step settling.early
  have past : ∀ token, .cancelSent token ∈ s.log → .cancelSent token ∈ s.log ∨ s.token? = some token :=
    fun _ => Or.inl
  cases step with
  | rejectMove | admitMove | rejectExecute | accept | start | plan | find | contactStop | invalid
  | settleLocal =>
    exact h.move handle rfl rfl rfl nofun nofun past
  | decide =>
    obtain ⟨waits, other⟩ := planDecision_waits node
    exact h.move handle rfl rfl rfl (fun token here => (other token here).elim)
      (fun here => (Bool.false_ne_true (waits.symm.trans here)).elim) past
  | refuseExecute | admitExecute | planned | submitAccept | submitReject =>
    exact h.move handle rfl rfl rfl nofun nofun (sent_record nofun)
  | transition => exact h.move handle rfl rfl rfl nofun nofun sent_terminate
  | register _ reached => exact h.move handle rfl rfl rfl nofun (fun _ => by rw [reached]; rfl) past
  | hand _ reached =>
    exact h.move handle rfl rfl rfl nofun (fun _ => by rw [reached]; rfl) (sent_record nofun)
  | rereadClear _ reached => exact h.move handle rfl rfl rfl nofun (fun _ => by rw [reached]; rfl) past
  | rereadLatched _ reached found =>
    refine h.move handle rfl rfl rfl ?_ (fun _ => by rw [reached]; rfl) past
    intro token here
    cases here
    exact h.entries _ _ found
  | recancel _ reached =>
    refine h.move handle rfl rfl rfl nofun (fun _ => by rw [reached]; rfl) ?_
    intro token member
    rcases List.mem_append.mp member with old | new
    · exact Or.inl old
    · cases List.mem_singleton.mp new
      exact Or.inr (h.again _ reached)
  | backendRecord owns =>
    refine h.frame handle h.entries ?_ rfl nofun nofun past
    intro token held
    cases held
    exact token_owned owns
  | backendHand owns =>
    refine h.frame handle h.entries h.handles rfl nofun ?_ (sent_record nofun)
    intro _ server entry found
    cases settling.entry_port owns found
  | lose owns reached absent =>
    refine h.frame handle h.entries h.handles rfl nofun ?_ past
    intro _ server entry found
    cases settling.entry_port owns found
    cases absent.symm.trans found
  | record owns =>
    refine h.frame handle ?_ h.handles rfl nofun nofun past
    intro server entry found
    rcases storeGoal_goals found with ⟨-, new⟩ | ⟨-, old⟩
    · cases new
      exact token_owned owns
    · exact h.entries server entry old
  | erase owns =>
    refine h.frame handle ?_ h.handles rfl nofun ?_ past
    · intro server entry found
      rcases storeGoal_goals found with ⟨-, new⟩ | ⟨-, old⟩
      · cases new
      · exact h.entries server entry old
    · intro _ server entry found
      rcases storeGoal_goals found with ⟨-, new⟩ | ⟨other, old⟩
      · cases new
      · cases settling.entry_port owns old
        exact (other rfl).elim
  | execute owns =>
    refine h.frame handle ?_ h.handles rfl nofun ?_ past
    · intro server entry found
      rcases storeGoal_goals found with ⟨-, new⟩ | ⟨-, old⟩
      · obtain ⟨before, held, rfl⟩ := Option.map_eq_some_iff.mp new
        exact h.entries _ before held
      · exact h.entries server entry old
    · intro _ server entry found
      rcases storeGoal_goals found with ⟨-, new⟩ | ⟨other, old⟩
      · obtain ⟨before, -, rfl⟩ := Option.map_eq_some_iff.mp new
        rfl
      · cases settling.entry_port owns old
        exact (other rfl).elim
  | cancel =>
    refine ⟨h.entries, h.handles, ?_, h.again, h.executing, ?_⟩
    · intro call member
      rcases List.mem_append.mp member with old | new
      · exact h.calls call old
      · cases List.mem_singleton.mp new
        trivial
    · intro token member
      rcases h.sent token member with own | ⟨zero, backend, call, old, missed⟩
      · exact Or.inl own
      · exact Or.inr ⟨zero, backend, call, List.mem_append_left _ old, missed⟩
  | cancelMiss _ reached =>
    refine h.call handle reached rfl nofun ⟨rfl, rfl⟩ ?_ rfl rfl fun _ => Or.inl
    exact fun _ entry found => ⟨entry, found, rfl, rfl⟩
  | cancelLatch owns reached found =>
    refine h.call handle reached rfl nofun (h.entries _ _ found) ?_ rfl rfl fun _ => Or.inl
    intro server entry stored
    rcases storeGoal_goals stored with ⟨rfl, new⟩ | ⟨-, old⟩
    · cases new
      exact ⟨_, found, rfl, rfl⟩
    · exact ⟨entry, old, rfl, rfl⟩
  | backendCancelLook owns reached =>
    refine h.call handle reached rfl nofun ?_ ?_ rfl rfl fun _ => Or.inl
    · cases held : s.handles with
      | none => exact ⟨rfl, rfl⟩
      | some token => exact h.handles token held
    · exact fun _ entry found => ⟨entry, found, rfl, rfl⟩
  | @cancelSend _ _ _ _ token found owns reached =>
    have read : s.Reads (.looked found true token) := h.calls _ (List.mem_of_getElem? reached)
    cases found with
    | false => cases read.1
    | true =>
      refine h.call handle reached rfl id trivial ?_ rfl rfl ?_
      · exact fun _ entry found => ⟨entry, found, rfl, rfl⟩
      · intro token' member
        rcases sent_answered member with old | rfl
        · exact Or.inl old
        · exact Or.inr (Or.inl read)
  | cancelPlan owns reached =>
    refine h.call handle reached rfl id trivial ?_ rfl rfl ?_
    · exact fun _ entry found => ⟨entry, found, rfl, rfl⟩
    · intro token member
      rcases @sent_record s (.cancelAnswered .accept) nofun token member with old | own
      · exact Or.inl old
      · exact Or.inr (Or.inl own)
  | @backendCancelSend _ _ _ _ token found executing owns reached =>
    have read : s.Reads (.looked found executing token) := h.calls _ (List.mem_of_getElem? reached)
    refine h.call handle reached rfl id trivial ?_ rfl rfl ?_
    · exact fun _ entry found => ⟨entry, found, rfl, rfl⟩
    · intro token' member
      rcases sent_answered member with old | rfl
      · exact Or.inl old
      · right
        cases found with
        | true => exact Or.inl read
        | false =>
          obtain ⟨inside, -⟩ := List.getElem?_eq_some_iff.mp reached
          exact Or.inr ⟨read.2, ⟨_, owns, rfl⟩, _, List.mem_set inside _, rfl⟩
  | mark owns reached =>
    refine h.call handle reached rfl id trivial ?_ rfl rfl fun _ => Or.inl
    exact fun _ entry found => ⟨entry, found, rfl, rfl⟩
  | settle | settleMiss | settleAsk => exact h.move handle rfl rfl rfl h.again id past
  | settleMove => exact h.move handle rfl rfl rfl h.again id sent_terminate
  | @settleTake port =>
    cases port with
    | backend => exact h.frame handle h.entries nofun rfl h.again h.executing past
    | move own =>
      refine h.frame handle ?_ h.handles rfl h.again ?_ past
      · intro server entry found
        rcases storeGoal_goals found with ⟨-, new⟩ | ⟨-, old⟩
        · cases new
        · exact h.entries server entry old
      · intro here server entry found
        rcases storeGoal_goals found with ⟨-, new⟩ | ⟨-, old⟩
        · cases new
        · exact h.executing here server entry old

theorem authorised_new : Authorised {} where
  entries := nofun
  handles := nofun
  calls _ member := (List.not_mem_nil member).elim
  again := nofun
  executing := nofun
  sent _ member := (List.not_mem_nil member).elim

/-- While the Supervisor has the goal, a cancel finds it. -/
theorem Settling.found (settling : Settling s) (h : Authorised s) {g : GoalHandle} (owns : s.handle = some g)
    (handed : s.handed = true) (unsettled : s.settle = .waiting) :
    ∃ executing, (s.cancelLookup g.goal).2 = .looked true executing g.goal.token ∧
      (g.goal.port ≠ .backend → executing = true) := by
  have settlement := settling.owned owns
  have running : s.stage = .running := by rw [stage, if_pos handed, unsettled]; rfl
  have held : s.holds g.goal.port = true := by
    rw [settlement.entry, running]
    exact decide_eq_true rfl
  obtain ⟨goal, status⟩ := g
  cases goal with
  | execute g =>
    obtain ⟨token, found⟩ := Option.isSome_iff_exists.mp held
    have own : some g.token = some token := (token_owned owns).symm.trans (h.handles token found)
    refine ⟨false, ?_, fun other => (other rfl).elim⟩
    cases own
    simp only [cancelLookup, found, Option.isSome_some, Option.getD_some]
    rfl
  | move g =>
    obtain ⟨entry, found⟩ := Option.isSome_iff_exists.mp held
    have own : some g.token = some entry.token := (token_owned owns).symm.trans (h.entries _ entry found)
    have executes : s.main.executes = true := by
      have late := settlement.late handed
      cases here : s.main <;> rw [here] at late <;> simp_all [Main.stage, Main.executes]
    refine ⟨entry.executing, ?_, fun _ => h.executing executes _ entry found⟩
    simp only [cancelLookup, found]
    rw [← Option.some.inj own]
    rfl

theorem cancelStep_delivered {h : GoalHandle} {i : Nat} {answer : CancelResponse} (owns : s.handle = some h)
    (delivered : s.cancels[i]? = some .delivered)
    (taken : s.step node contact (.cancelStep i answer) = some t) :
    t.cancels = s.cancels.set i (s.cancelLookup h.goal).2 := by
  simp only [step, cancelStep, owns, delivered, Option.some.injEq] at taken
  rw [← taken]

end GoalState

theorem System.authorised {node : Node} {acts : List Action} {s : System}
    (h : run (System.step node) System.init acts = some s) (id : GoalId) : (s.goal id).Authorised := by
  have both : (s.goal id).Settling ∧ (s.goal id).Authorised := by
    refine @System.goal_invariant node (fun s => s.Settling ∧ s.Authorised) ?_ _ _ _ id ?_ h
    · intro contact s act t ⟨settling, authorised⟩ taken
      have step := GoalState.step_cases taken
      exact ⟨GoalState.settling_step step settling, GoalState.authorised_step step settling authorised⟩
    · exact ⟨GoalState.settling_new, GoalState.authorised_new⟩
  exact both.2

/-- Core is handed a goal, and asked to cancel it, under the goal's own token. Only a cancel that
`Ros2Backend` finds no entry for is sent without one, and a cancel whose lookup comes while the Supervisor
has the goal finds it. -/
theorem own_authority (node : Node) (acts : List Action) (s : System) (id : GoalId) (h : GoalHandle)
    (ran : run (System.step node) System.init acts = some s) (owns : s.handle id = some h) :
    (∀ tg, .handedOver tg ∈ s.log id → tg.token = h.goal.token) ∧
    (∀ token, .cancelSent token ∈ s.log id → token = h.goal.token ∨
      token = Token.zero ∧ h.goal.port = .backend ∧ ∃ call ∈ s.cancels id, call.missed = true) ∧
    ((s.goal id).handed = true → s.settle id = .waiting → ∀ i answer t, (s.cancels id)[i]? = some .delivered →
      s.step node (.goal id (.cancelStep i answer)) = some t →
      ∃ executing, (t.cancels id)[i]? = some (.looked true executing h.goal.token) ∧
        (h.goal.port ≠ .backend → executing = true)) := by
  have settling : (s.goal id).Settling := System.settling ran id
  have authorised : (s.goal id).Authorised := System.authorised ran id
  have submissions : (s.goal id).Submissions node := System.submissions ran id
  have mine : (s.goal id).handle = some h := owns
  refine ⟨?_, ?_, ?_⟩
  · intro tg handed
    obtain ⟨h', held, submitted⟩ := submissions.handed tg handed
    cases mine.symm.trans held
    exact (submissions.submitted _ _ _ submitted).token
  · intro token sent
    rcases authorised.sent token sent with own | ⟨zero, ⟨h', held, backend⟩, missed⟩
    · exact Or.inl (Option.some.inj (own.symm.trans (GoalState.token_owned mine)))
    · cases mine.symm.trans held
      exact Or.inr ⟨zero, backend, missed⟩
  · intro handed unsettled i answer t delivered taken
    obtain ⟨executing, looked, planned⟩ := settling.found authorised mine handed unsettled
    obtain ⟨inside, -⟩ := List.getElem?_eq_some_iff.mp delivered
    have called : (t.goal id).cancels = (s.goal id).cancels.set i ((s.goal id).cancelLookup h.goal).2 :=
      GoalState.cancelStep_delivered mine delivered (System.own_step taken)
    refine ⟨executing, ?_, planned⟩
    show (t.goal id).cancels[i]? = _
    rw [called, looked]
    exact List.getElem?_set_self inside

def benchExecute : ActionGoal := .execute { trajectory := benchPlan, token := fun _ => 1 }

/-- One cancel comes before `handle_accepted` has recorded the goal, another while the Supervisor has it. -/
def benchCanceledTwice : List GoalAction :=
  [.goal benchExecute { stampS := .finite 1 } .accept, .accept, .cancel, .cancelStep 0 .reject,
    .cancelStep 0 .reject, .main, .main, .cancel]

def benchRunning (s : System) : Bool :=
  (s.handle benchId).any (·.goal = benchExecute) && (s.goal benchId).handed &&
    decide ((s.settle benchId).stage = .running) && decide ((s.cancels benchId)[1]? = some .delivered) &&
    decide (.cancelSent Token.zero ∈ s.log benchId)

theorem own_authority_benchCanceledTwice : ∃ s,
    run (System.step benchNode) System.init (bench benchCanceledTwice) = some s ∧
      (∀ tg, .handedOver tg ∈ s.log benchId → tg.token = fun _ => 1) ∧
      .cancelSent Token.zero ∈ s.log benchId ∧
      ∀ t, s.step benchNode (.goal benchId (.cancelStep 1 .accept)) = some t →
        ∃ executing, (t.cancels benchId)[1]? = some (.looked true executing fun _ => 1) := by
  obtain ⟨s, ran, reached⟩ := run_reaches (System.step benchNode) System.init (bench benchCanceledTwice)
    benchRunning (by decide +kernel)
  simp only [benchRunning, Bool.and_eq_true, decide_eq_true_eq] at reached
  obtain ⟨⟨⟨⟨owned, handed⟩, unsettled⟩, delivered⟩, blind⟩ := reached
  obtain ⟨⟨goal, status⟩, held, same⟩ := (Option.any_eq_true _ _).mp owned
  obtain rfl : goal = benchExecute := of_decide_eq_true same
  have waiting : s.settle benchId = .waiting := by
    cases here : s.settle benchId with
    | waiting => rfl
    | _ => rw [here] at unsettled; cases unsettled
  obtain ⟨own, -, found⟩ := own_authority benchNode _ s benchId _ ran held
  refine ⟨s, ran, own, blind, fun t taken => ?_⟩
  obtain ⟨executing, looked, -⟩ := found handed waiting 1 .accept t delivered taken
  exact ⟨executing, looked⟩

end KinovaGen3
