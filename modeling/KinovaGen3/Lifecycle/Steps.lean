import KinovaGen3.Lifecycle.Goal

/-! What each step of a goal needs and does, one case for each way a thread can move. -/

namespace KinovaGen3
open Interaction

inductive GoalStep (node : Node) (contact : ContactState) (s : GoalState) :
    GoalAction → GoalState → Prop where
  | rejectMove (new : s.main = .unseen)
      (decided : PlannedMoveServer.handleGoal node (some ⟨arm, contact⟩) g = .reject) :
      GoalStep node contact s (.goal (.move g) arm answer) { s with main := .rejected }
  | admitMove (new : s.main = .unseen)
      (decided : PlannedMoveServer.handleGoal node (some ⟨arm, contact⟩) g = .accept) :
      GoalStep node contact s (.goal (.move g) arm answer) { s with main := .admitted (.move g) }
  | rejectExecute (new : s.main = .unseen)
      (decided : Ros2Backend.handleGoal node (some ⟨arm, contact⟩) g = none) :
      GoalStep node contact s (.goal (.execute g) arm answer) { s with main := .rejected }
  | refuseExecute (new : s.main = .unseen)
      (decided : Ros2Backend.handleGoal node (some ⟨arm, contact⟩) g = some tg) :
      GoalStep node contact s (.goal (.execute g) arm .reject)
        { s.record (.submitted (.execute g) tg .reject) with main := .rejected }
  | admitExecute (new : s.main = .unseen)
      (decided : Ros2Backend.handleGoal node (some ⟨arm, contact⟩) g = some tg) :
      GoalStep node contact s (.goal (.execute g) arm .accept)
        { s.record (.submitted (.execute g) tg .accept) with main := .admitted (.execute g) }
  | accept (reached : s.main = .admitted goal) :
      GoalStep node contact s .accept
        { s with handle := some ⟨goal, .executing⟩, main := .accepted }
  | backendRecord (owns : s.handle = some ⟨.execute g, status⟩) (reached : s.main = .accepted) :
      GoalStep node contact s .main { s with handles := some g.token, main := .recorded }
  | backendHand (owns : s.handle = some ⟨.execute g, status⟩) (reached : s.main = .recorded) :
      GoalStep node contact s .main
        { s.record (.handedOver (toTrajectoryGoal node.driver g)) with main := .finished }
  | record (owns : s.handle = some ⟨.move g, status⟩) (reached : s.main = .accepted) :
      GoalStep node contact s .main
        { s.storeGoal g.server (some ⟨false, false, g.token⟩) with main := .recorded }
  | start (owns : s.handle = some ⟨.move g, status⟩) (reached : s.main = .recorded)
      (started : startPlan node g = some p) :
      GoalStep node contact s .main { s with main := .planning p }
  | plan (reached : s.main = .planning (.ask q next)) (own : act.plans = true) (answer : q.Answer) :
      GoalStep node contact s act { s with main := .planning (next answer) }
  | planned (owns : s.handle = some ⟨.move g, status⟩) (reached : s.main = .planning (.done o)) :
      GoalStep node contact s .main { s.record (.planned o) with main := .begun o }
  | find (owns : s.handle = some ⟨.move g, status⟩) (reached : s.main = .begun o)
      (found : (s.goals g.server).isSome) :
      GoalStep node contact s .main { s with main := .found o }
  | lose (owns : s.handle = some ⟨.move g, status⟩) (reached : s.main = .begun o)
      (absent : s.goals g.server = none) :
      GoalStep node contact s .main { s with main := .finished }
  | decide (owns : s.handle = some h) (goal : h.goal = .move g) (reached : s.main = .found o) :
      GoalStep node contact s .main
        { s with main := GoalState.planDecision node g o h.isCanceling }
  | contactStop (owns : s.handle = some ⟨.move g, status⟩) (reached : s.main = .refused)
      (why : contactRejection contact = some text) :
      GoalStep node contact s .main
        { s with main := .settling (GoalState.localResult ResultCode.kContactStop text) }
  | invalid (owns : s.handle = some ⟨.move g, status⟩) (reached : s.main = .refused)
      (clear : contactRejection contact = none) :
      GoalStep node contact s .main
        { s with
          main := .settling (GoalState.localResult ResultCode.kInvalidGoal
            "supervisor rejected planned trajectory") }
  | settleLocal (owns : s.handle = some h) (goal : h.goal = .move g)
      (reached : s.main = .settling result) :
      GoalStep node contact s .main { s with main := .moving h.isCanceling result }
  | erase (owns : s.handle = some ⟨.move g, status⟩) (reached : s.main = .erasing) :
      GoalStep node contact s .main { s.storeGoal g.server none with main := .finished }
  | execute (owns : s.handle = some ⟨.move g, status⟩) (reached : s.main = .validated tg) :
      GoalStep node contact s .main
        { s.storeGoal g.server ((s.goals g.server).map ({ · with executing := true })) with
          main := .registering tg }
  | register (owns : s.handle = some ⟨.move g, status⟩) (reached : s.main = .registering tg) :
      GoalStep node contact s .main { s with owner := some (.move g.server), main := .handing tg }
  | hand (owns : s.handle = some ⟨.move g, status⟩) (reached : s.main = .handing tg) :
      GoalStep node contact s .main { s.record (.handedOver tg) with main := .rereading }
  | rereadLatched (owns : s.handle = some ⟨.move g, status⟩) (reached : s.main = .rereading)
      (found : s.goals g.server = some entry) (latched : entry.cancelRequested = true) :
      GoalStep node contact s .main { s with main := .recanceling entry.token }
  | rereadClear (owns : s.handle = some ⟨.move g, status⟩) (reached : s.main = .rereading)
      (clear : ∀ entry ∈ s.goals g.server, entry.cancelRequested = false) :
      GoalStep node contact s .main { s with main := .finished }
  | recancel (owns : s.handle = some ⟨.move g, status⟩) (reached : s.main = .recanceling token) :
      GoalStep node contact s .main { s.record (.cancelSent token) with main := .finished }
  | submitAccept (owns : s.handle = some h) (reached : s.main = .submitting tg) :
      GoalStep node contact s (.submit .accept)
        { s.record (.submitted h.goal tg .accept) with main := .validated tg }
  | submitReject (owns : s.handle = some h) (reached : s.main = .submitting tg) :
      GoalStep node contact s (.submit .reject)
        { s.record (.submitted h.goal tg .reject) with main := .refused }
  | transition (owns : s.handle = some h) (reached : s.main = .moving asked result) :
      GoalStep node contact s (.transition dropped)
        { s.terminate h.goal.port asked result dropped with main := .erasing }
  | cancel (created : s.handle.isSome) :
      GoalStep node contact s .cancel { s with cancels := s.cancels ++ [.delivered] }
  | cancelMiss (owns : s.handle = some ⟨.move g, status⟩) (reached : s.cancels[i]? = some .delivered)
      (absent : s.goals g.server = none) :
      GoalStep node contact s (.cancelStep i answer)
        { s with cancels := s.cancels.set i (.looked false false Token.zero) }
  | cancelLatch (owns : s.handle = some ⟨.move g, status⟩) (reached : s.cancels[i]? = some .delivered)
      (found : s.goals g.server = some entry) :
      GoalStep node contact s (.cancelStep i answer)
        { s.storeGoal g.server (some { entry with cancelRequested := true }) with
          cancels := s.cancels.set i (.looked true entry.executing entry.token) }
  | backendCancelLook (owns : s.handle = some ⟨.execute g, status⟩)
      (reached : s.cancels[i]? = some .delivered) :
      GoalStep node contact s (.cancelStep i answer)
        { s with
          cancels := s.cancels.set i
            (.looked s.handles.isSome false (s.handles.getD Token.zero)) }
  | cancelSend (owns : s.handle = some ⟨.move g, status⟩)
      (reached : s.cancels[i]? = some (.looked found true token)) :
      GoalStep node contact s (.cancelStep i answer)
        { (s.record (.cancelSent token)).record (.cancelAnswered .accept) with
          cancels := s.cancels.set i (.answered found .accept) }
  | cancelPlan (owns : s.handle = some ⟨.move g, status⟩)
      (reached : s.cancels[i]? = some (.looked found false token)) :
      GoalStep node contact s (.cancelStep i answer)
        { s.record (.cancelAnswered .accept) with
          cancels := s.cancels.set i (.answered found .accept) }
  | backendCancelSend (owns : s.handle = some ⟨.execute g, status⟩)
      (reached : s.cancels[i]? = some (.looked found executing token)) :
      GoalStep node contact s (.cancelStep i answer)
        { (s.record (.cancelSent token)).record (.cancelAnswered answer) with
          cancels := s.cancels.set i (.answered found answer) }
  | mark (owns : s.handle = some h) (reached : s.cancels[i]? = some (.answered found reply))
      (status : HandleStatus)
      (becomes : status = if reply = .accept ∧ h.status = .executing then .canceling else h.status) :
      GoalStep node contact s (.cancelStep i answer)
        { s with
          handle := some { h with status := status }
          cancels := s.cancels.set i (.ended found reply) }
  | settle (reached : s.settle = .waiting) (handed : s.handed = true) :
      GoalStep node contact s (.settle result)
        { s with owner := none, settle := .routed (s.owner.getD .backend) result }
  | settleTake (reached : s.settle = .routed port result) (held : s.holds port = true) :
      GoalStep node contact s (.settleStep dropped)
        { s.erase port with settle := .taken port result }
  | settleMiss (reached : s.settle = .routed port result) (absent : s.holds port = false) :
      GoalStep node contact s (.settleStep dropped) { s with settle := .ended }
  | settleAsk (owns : s.handle = some h) (reached : s.settle = .taken port result) :
      GoalStep node contact s (.settleStep dropped)
        { s with settle := .moving port h.isCanceling result }
  | settleMove (reached : s.settle = .moving port asked result) :
      GoalStep node contact s (.settleStep dropped)
        { s.terminate port asked result dropped with settle := .ended }

namespace GoalState
variable {node : Node} {contact : ContactState} {s t : GoalState}

/-- `on_plan_done` submits a plan it finds nothing wrong with, and ends the goal otherwise. -/
theorem planDecision_cases (node : Node) (g : MoveGoal) (o : Outcome) (canceled : Bool) :
    (canceled = false ∧ PlannedMoveServer.planRejection node g o = none ∧
      planDecision node g o canceled = .submitting (PlannedMoveServer.submission node g o)) ∨
    ∃ result, planDecision node g o canceled = .settling result ∧
      result.errorCode = if canceled then ResultCode.kPreempted else ResultCode.kPlanningFailed := by
  unfold planDecision
  cases canceled with
  | true => cases o.ok <;> exact Or.inr ⟨_, rfl, rfl⟩
  | false =>
    cases o.ok with
    | false => exact Or.inr ⟨_, rfl, rfl⟩
    | true =>
      cases why : PlannedMoveServer.planRejection node g o with
      | some why => exact Or.inr ⟨_, rfl, rfl⟩
      | none => exact Or.inl ⟨rfl, rfl, rfl⟩

theorem handleGoal_cases {goal : ActionGoal} {arm : ArmState} {answer : GoalResponse}
    (new : s.main = .unseen) :
    GoalStep node contact s (.goal goal arm answer) (s.handleGoal node contact goal arm answer) := by
  cases goal with
  | move g =>
    unfold handleGoal
    dsimp only
    split
    · exact .admitMove new ‹_›
    · exact .rejectMove new ‹_›
  | execute g =>
    unfold handleGoal
    dsimp only
    split
    · exact .rejectExecute new ‹_›
    · cases answer with
      | accept => exact .admitExecute new ‹_›
      | reject => exact .refuseExecute new ‹_›

theorem backendStep_cases {g : ExecuteJointTrajectory.Goal} {status : HandleStatus}
    (owns : s.handle = some ⟨.execute g, status⟩) (h : s.backendStep node g = some t) :
    GoalStep node contact s .main t := by
  unfold backendStep at h
  split at h
  all_goals cases h
  · exact .backendRecord owns ‹_›
  · exact .backendHand owns ‹_›

theorem moveStep_cases {g : MoveGoal} {status : HandleStatus}
    (owns : s.handle = some ⟨.move g, status⟩)
    (h : s.moveStep node contact g (GoalHandle.isCanceling ⟨.move g, status⟩) = some t) :
    GoalStep node contact s .main t := by
  unfold moveStep at h
  split at h
  case h_1 reached => cases h; exact .record owns reached
  case h_2 reached =>
    obtain ⟨p, started, rfl⟩ := Option.map_eq_some_iff.mp h
    exact .start owns reached started
  case h_3 reached => cases h; exact .plan reached rfl _
  case h_4 reached => cases h; exact .plan reached rfl _
  case h_5 reached => cases h; exact .planned owns reached
  case h_6 reached =>
    cases h
    split
    · exact .find owns reached ‹_›
    · exact .lose owns reached (Option.not_isSome_iff_eq_none.mp ‹_›)
  case h_7 reached => cases h; exact .decide owns rfl reached
  case h_8 reached =>
    cases h
    split
    · exact .contactStop owns reached ‹_›
    · exact .invalid owns reached ‹_›
  case h_9 reached => cases h; exact .settleLocal owns rfl reached
  case h_10 reached => cases h; exact .erase owns reached
  case h_11 reached => cases h; exact .execute owns reached
  case h_12 reached => cases h; exact .register owns reached
  case h_13 reached => cases h; exact .hand owns reached
  case h_14 reached =>
    cases h
    split
    · rename_i entry found
      by_cases latched : entry.cancelRequested = true
      · rw [if_pos latched]
        exact .rereadLatched owns reached found latched
      · rw [if_neg latched]
        exact .rereadClear owns reached (by simpa [found] using latched)
    · exact .rereadClear owns reached (by simp [*])
  case h_15 reached => cases h; exact .recancel owns reached
  case h_16 => cases h

theorem cancelStep_cases {i : Nat} {answer : CancelResponse} (h : s.cancelStep i answer = some t) :
    GoalStep node contact s (.cancelStep i answer) t := by
  unfold cancelStep at h
  split at h
  case h_1 handle owns reached =>
    obtain ⟨goal, status⟩ := handle
    cases goal with
    | move g =>
      cases entry : s.goals g.server with
      | none =>
        simp only [cancelLookup, entry] at h
        cases h
        exact .cancelMiss owns reached entry
      | some e =>
        simp only [cancelLookup, entry] at h
        cases h
        exact .cancelLatch owns reached entry
    | execute g => cases h; exact .backendCancelLook owns reached
  case h_2 handle found executing token owns reached =>
    obtain ⟨goal, status⟩ := handle
    cases goal with
    | move g =>
      cases executing with
      | true => cases h; exact .cancelSend owns reached
      | false => cases h; exact .cancelPlan owns reached
    | execute g => cases h; exact .backendCancelSend owns reached
  case h_3 handle found reply owns reached => cases h; exact .mark owns reached _ rfl
  case h_4 => cases h

theorem settleStep_cases {dropped : Bool} (h : s.settleStep dropped = some t) :
    GoalStep node contact s (.settleStep dropped) t := by
  unfold settleStep at h
  split at h
  case h_1 reached =>
    cases h
    split
    · exact .settleTake reached ‹_›
    · exact .settleMiss reached (Bool.eq_false_iff.mpr ‹_›)
  case h_2 reached =>
    obtain ⟨handle, owns, rfl⟩ := Option.map_eq_some_iff.mp h
    exact .settleAsk owns reached
  case h_3 reached => cases h; exact .settleMove reached
  case h_4 => cases h

theorem step_cases {act : GoalAction} (h : s.step node contact act = some t) :
    GoalStep node contact s act t := by
  unfold step at h
  split at h
  case h_1 =>
    split at h
    · cases h; exact handleGoal_cases ‹_›
    · cases h
  case h_2 =>
    split at h
    · cases h; exact .accept ‹_›
    · cases h
  case h_3 =>
    unfold mainStep at h
    split at h
    · cases h
    · rename_i handle owns
      obtain ⟨goal, status⟩ := handle
      cases goal with
      | move g => exact moveStep_cases owns h
      | execute g => exact backendStep_cases owns h
  case h_4 heard | h_5 heard =>
    split at h
    · rename_i reached
      cases h
      exact @GoalStep.plan _ _ _ _ _ _ reached rfl heard
    · cases h
  case h_6 answer =>
    split at h
    · cases answer with
      | accept => cases h; exact .submitAccept ‹_› ‹_›
      | reject => cases h; exact .submitReject ‹_› ‹_›
    · cases h
  case h_7 =>
    split at h
    · cases h; exact .transition ‹_› ‹_›
    · cases h
  case h_8 =>
    split at h
    · cases h; exact .cancel ‹_›
    · cases h
  case h_9 => exact cancelStep_cases h
  case h_10 =>
    split at h
    · split at h
      · cases h; exact .settle ‹_› ‹_›
      · cases h
    · cases h
  case h_11 => exact settleStep_cases h

/-! ### What every step leaves as it is -/

theorem erase_rest (p : Port) : (s.erase p).owner = s.owner ∧ (s.erase p).handle = s.handle ∧
    (s.erase p).main = s.main ∧ (s.erase p).log = s.log := by
  cases p <;> exact ⟨rfl, rfl, rfl, rfl⟩

theorem terminate_handle_goal (s : GoalState) (port : Port) (asked : Bool) (result : TrajectoryResult)
    (dropped : Bool) :
    (s.terminate port asked result dropped).handle.map (·.goal) = s.handle.map (·.goal) := by
  cases dropped with
  | true => rfl
  | false => cases held : s.handle <;> simp [terminate, held]

theorem same_goal (goal : t.handle.map (·.goal) = s.handle.map (·.goal)) {handle : GoalHandle}
    (held : handle ∈ t.handle) : ∃ handle' ∈ s.handle, handle'.goal = handle.goal := by
  rw [Option.mem_def.mp held] at goal
  exact Option.map_eq_some_iff.mp goal.symm

/-- A goal's handle is created for the goal that was admitted, and keeps it. -/
theorem step_goal {act : GoalAction} (step : GoalStep node contact s act t) :
    (∃ goal, s.main = .admitted goal ∧
      t = { s with handle := some ⟨goal, .executing⟩, main := .accepted }) ∨
    t.handle.map (·.goal) = s.handle.map (·.goal) := by
  cases step with
  | accept reached => exact Or.inl ⟨_, reached, rfl⟩
  | @transition h asked result dropped =>
    exact Or.inr (terminate_handle_goal s h.goal.port asked result dropped)
  | @settleMove port asked result dropped =>
    exact Or.inr (terminate_handle_goal s port asked result dropped)
  | mark owns => exact Or.inr (by rw [owns]; rfl)
  | settleTake => exact Or.inr (congrArg (Option.map _) (erase_rest _).2.1)
  | _ => exact Or.inr rfl

end GoalState
end KinovaGen3
