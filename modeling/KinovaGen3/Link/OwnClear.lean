import Mathlib.Algebra.Group.Nat.Defs
import KinovaGen3.Link.LinkServer

/-!
Whose clear a `/clear_faults` call reports. A call that waits tells its own clear from an earlier call's
only by `clears_done`, which any of them moves.
-/

namespace KinovaGen3.LinkServer
open Transition

/-! ### What each step needs and does -/

inductive Step (s : LinkServer) : LinkAction → LinkServer → Prop where
  | call (reached : s.call = .idle) : Step s .call { s with call := .begun }
  | clearContact (reached : s.call = .begun) :
      Step s (.clearContact latched) { s with call := .contactDone (s.clearsContact && latched) }
  | baseline (reached : s.call = .contactDone contact) :
      Step s .baseline
        { s with call := .requesting contact s.link.now.status.clearsDone s.link.now.resolutions.length }
  | accept (reached : s.call = .requesting contact before base) :
      Step s (.request true)
        { s with
          link := { s.link with pending := s.link.pending ++ [s.current] }
          call := .polling contact before base }
  | contactOnly (reached : s.call = .requesting true before base)
      (fine : s.link.now.status.state ≠ .faulted) :
      Step s (.request false) (s.answer true false s.link.now ⟨true, kContactCleared⟩)
  | refuse (reached : s.call = .requesting false before base)
      (fine : s.link.now.status.state ≠ .faulted) :
      Step s (.request false) { s with call := .refused }
  | refused (reached : s.call = .refused) :
      Step s .refuse (s.answer false false s.link.now
        ⟨false, "not faulted (" ++ s.link.now.status.state.text ++ ")"⟩)
  | unmoved (reached : s.call = .polling contact before base)
      (same : s.link.now.status.clearsDone = before) :
      Step s .poll { s with call := .unmoved contact before base s.link.now }
  | moved (reached : s.call = .polling contact before base)
      (other : s.link.now.status.clearsDone ≠ before) :
      Step s .poll (s.answer contact true s.link.now
        (report contact s.link.now.status s.link.now.status.text))
  | again (reached : s.call = .unmoved contact before base seen) (running : s.stop = false) :
      Step s (.check false) { s with call := .polling contact before base }
  | giveUp (reached : s.call = .unmoved contact before base seen) (ended : (s.stop || expired) = true) :
      Step s (.check expired) { s with call := .leaving contact before base seen }
  | leave (reached : s.call = .leaving contact before base seen) :
      Step s .leave (s.answer contact true seen
        (report contact seen.status (if s.stop then kStopping else kNoOutcome)))
  | link : Step s (.link state reason)
      { s with
        link := { s.link with
          now := { s.link.now with status := ⟨state, reason, s.link.now.status.clearsDone⟩ } } }
  | resolve (some : which ≠ []) (accepted : ∀ call ∈ which, call ∈ s.link.pending) :
      Step s (.resolve which state reason)
        { s with
          link :=
            { now :=
                { status := ⟨state, reason, s.link.now.status.clearsDone + 1⟩
                  resolutions := s.link.now.resolutions ++ [which] }
              pending := s.link.pending.filter (· ∉ which) } }
  | stop : Step s .stop { s with stop := true }

theorem step_cases {s t : LinkServer} {act : LinkAction} (h : s.step act = some t) : s.Step act t := by
  unfold step at h
  split at h
  case h_4 accepted =>
    split at h
    · rename_i contact before base reached
      cases accepted with
      | true =>
        cases h
        exact .accept reached
      | false =>
        rw [if_neg Bool.false_ne_true] at h
        split at h
        · cases h
        · rename_i fine
          cases contact with
          | true =>
            cases h
            exact .contactOnly reached fine
          | false =>
            cases h
            exact .refuse reached fine
    · cases h
  case h_6 =>
    split at h
    · rename_i contact before base reached
      dsimp only at h
      split at h
      · cases h
        exact .unmoved reached ‹_›
      · cases h
        exact .moved reached ‹_›
    · cases h
  case h_7 expired =>
    split at h
    · rename_i contact before base seen reached
      cases ended : s.stop || expired with
      | true =>
        rw [ended] at h
        cases h
        exact .giveUp reached ended
      | false =>
        rw [ended] at h
        cases h
        obtain ⟨running, rfl⟩ := Bool.or_eq_false_iff.mp ended
        exact .again reached running
    · cases h
  case h_9 =>
    cases h
    exact .link
  case h_10 =>
    split at h
    · rename_i enabled
      cases h
      exact .resolve enabled.1 enabled.2
    · cases h
  case h_11 =>
    cases h
    exact .stop
  all_goals
    split at h
    · cases h
      constructor
      assumption
    · cases h

/-! ### What an answer promises -/

/-- The call requested a clear and says neither that it is stopping nor that there is no outcome. -/
structure ReportsOutcome (a : ClearAnswer) : Prop where
  accepted : a.accepted = true
  notStopping : a.response.message ≠ message a.contact kStopping
  notLate : a.response.message ≠ message a.contact kNoOutcome

structure Right (a : ClearAnswer) : Prop where
  own : ReportsOutcome a → a.read.resolved a.call = true ∧
    a.response = report a.contact a.read.status a.read.status.text
  success : a.response.success = true → a.read.status.state = .running ∨
    a.contact = true ∧ a.accepted = false ∧ a.read.status.state ≠ .faulted

/-- A waiting call finds its own clear resolved, or no clear resolved since its baseline, by the count
that `clears_done` keeps of them. -/
def OwnFirst (s : LinkServer) : LinkAction → Prop
  | .poll =>
    match s.call with
    | .polling _ _ base =>
      s.link.now.resolved s.current = true ∨ (s.link.now.resolutions.length - base) % 2 ^ 64 = 0
    | _ => True
  | _ => True

/-! ### The counter -/

def Counted (s : LinkServer) (before : UInt64) (base : Nat) : Prop :=
  base ≤ s.link.now.resolutions.length ∧
    s.link.now.status.clearsDone = before + UInt64.ofNat (s.link.now.resolutions.length - base)

/-- The baseline of the call in progress. -/
def baseline? (s : LinkServer) : Option (UInt64 × Nat) :=
  match s.call with
  | .requesting _ before base | .polling _ before base | .unmoved _ before base _ => some (before, base)
  | _ => none

structure ClearInv (s : LinkServer) : Prop where
  counted : ∀ before base, s.baseline? = some (before, base) → s.Counted before base
  right : ∀ a ∈ s.answers, Right a

theorem Counted.unmoved_iff {s : LinkServer} {before : UInt64} {base : Nat} (h : s.Counted before base) :
    s.link.now.status.clearsDone = before ↔ (s.link.now.resolutions.length - base) % 2 ^ 64 = 0 := by
  rw [h.2, UInt64.add_eq_left, ← UInt64.toNat_inj, UInt64.toNat_ofNat']
  rfl

section
variable {s t : LinkServer} {act : LinkAction} {contact accepted : Bool} {seen : LinkSnapshot}
  {response : Trigger.Response}

theorem Counted.resolve {before : UInt64} {base : Nat} {which : List Nat} {status : LinkStatus}
    {pending : List Nat} (h : s.Counted before base)
    (clearsDone : status.clearsDone = s.link.now.status.clearsDone + 1) :
    Counted { s with link := ⟨⟨status, s.link.now.resolutions ++ [which]⟩, pending⟩ } before base := by
  obtain ⟨since, count⟩ := h
  have length : (s.link.now.resolutions ++ [which]).length = s.link.now.resolutions.length + 1 := by simp
  constructor
  · show base ≤ (s.link.now.resolutions ++ [which]).length
    omega
  · show status.clearsDone = before + UInt64.ofNat ((s.link.now.resolutions ++ [which]).length - base)
    rw [clearsDone, count, length, Nat.sub_add_comm since, UInt64.ofNat_add, UInt64.add_assoc]
    rfl

/-! ### The texts of the answers -/

theorem message_inj {text text' : String} (same : message contact text = message contact text') :
    text = text' := by
  cases contact with
  | false => exact same
  | true => exact (String.append_right_inj _).mp same

theorem text_ne (status : LinkStatus) : status.text ≠ kStopping ∧ status.text ≠ kNoOutcome := by
  constructor
  all_goals
    intro same
    have letters := congrArg String.toList same
    cases state : status.state <;> simp [LinkStatus.text, LinkState.text, state, kStopping, kNoOutcome] at letters

theorem reportsOutcome_moved {call : Nat} :
    ReportsOutcome ⟨call, contact, true, seen, report contact seen.status seen.status.text⟩ where
  accepted := rfl
  notStopping same := (text_ne seen.status).1 (message_inj same)
  notLate same := (text_ne seen.status).2 (message_inj same)

theorem right_report {call : Nat} {text : String}
    (own : ReportsOutcome ⟨call, contact, true, seen, report contact seen.status text⟩ →
      seen.resolved call = true ∧ text = seen.status.text) :
    Right ⟨call, contact, true, seen, report contact seen.status text⟩ where
  own outcome := by
    obtain ⟨resolved, same⟩ := own outcome
    subst same
    exact ⟨resolved, rfl⟩
  success good := Or.inl (of_decide_eq_true good)

/-! ### What a step keeps -/

theorem ClearInv.answer (h : s.ClearInv) (right : Right ⟨s.current, contact, accepted, seen, response⟩) :
    (s.answer contact accepted seen response).ClearInv where
  counted _ _ none := by cases none
  right a member := by
    rcases List.mem_append.mp member with before | new
    · exact h.right a before
    · rw [List.mem_singleton.mp new]
      exact right

theorem clearInv_step (h : s.ClearInv) (first : s.OwnFirst act) (taken : s.step act = some t) : t.ClearInv := by
  cases step_cases taken with
  | call | clearContact | refuse | giveUp => exact ⟨fun _ _ none => (by cases none), h.right⟩
  | baseline reached =>
    refine ⟨fun before base here => ?_, h.right⟩
    cases here
    refine ⟨le_rfl, ?_⟩
    show s.link.now.status.clearsDone = s.link.now.status.clearsDone + UInt64.ofNat (_ - _)
    rw [Nat.sub_self]
    exact (UInt64.add_zero _).symm
  | accept reached | unmoved reached | again reached =>
    refine ⟨fun before base here => ?_, h.right⟩
    have counted := h.counted before base
    rw [baseline?, reached] at counted
    exact counted here
  | contactOnly reached fine =>
    refine h.answer ⟨?_, fun _ => Or.inr ⟨rfl, rfl, fine⟩⟩
    intro outcome
    cases outcome.accepted
  | refused reached =>
    refine h.answer ⟨?_, ?_⟩
    · intro outcome
      cases outcome.accepted
    · intro good
      cases good
  | @moved contact before base reached other =>
    have counted := h.counted before base
    rw [baseline?, reached] at counted
    have own := first
    simp only [OwnFirst, reached] at own
    have resolved := own.resolve_right fun same => other ((counted rfl).unmoved_iff.mpr same)
    exact h.answer (right_report fun _ => ⟨resolved, rfl⟩)
  | @leave contact before base seen reached =>
    refine h.answer (right_report fun outcome => ?_)
    cases stopping : s.stop with
    | true =>
      rw [stopping] at outcome
      exact (outcome.notStopping rfl).elim
    | false =>
      rw [stopping] at outcome
      exact (outcome.notLate rfl).elim
  | link => exact ⟨h.counted, h.right⟩
  | resolve => exact ⟨fun before base here => (h.counted before base here).resolve rfl, h.right⟩
  | stop => exact ⟨h.counted, h.right⟩

/-- A call that meets an earlier call's clear before its own reports that one. -/
theorem clearLost_step (h : s.ClearInv) (early : ¬ s.OwnFirst act) (taken : s.step act = some t) :
    ∃ a ∈ t.answers, ¬ Right a := by
  cases step_cases taken with
  | @moved contact before base reached other =>
    simp only [OwnFirst, reached, not_or] at early
    refine ⟨_, List.mem_append_right _ (List.mem_singleton_self _), fun right => ?_⟩
    exact early.1 (right.own reportsOutcome_moved).1
  | @unmoved contact before base reached same =>
    have counted := h.counted before base
    rw [baseline?, reached] at counted
    simp only [OwnFirst, reached, not_or] at early
    exact (early.2 ((counted rfl).unmoved_iff.mp same)).elim
  | _ => exact (early trivial).elim

theorem answers_step (taken : s.step act = some t) : s.answers <+: t.answers := by
  cases step_cases taken with
  | contactOnly | refused | moved | leave => exact List.prefix_append _ _
  | _ => exact List.prefix_rfl

/-! ### Calls that find nothing pending -/

/-- A call reads its baseline when no earlier call's clear is left. -/
def NonePending (s : LinkServer) : LinkAction → Prop
  | .baseline => s.link.pending = []
  | _ => True

instance (s : LinkServer) (act : LinkAction) : Decidable (s.NonePending act) := by
  unfold NonePending
  split <;> infer_instance

/-- Since the baseline the link has had no clear but the call's own. -/
structure Alone (s : LinkServer) (base : Nat) : Prop where
  pending : ∀ call ∈ s.link.pending, call = s.current
  resolved : s.link.now.resolutions.length ≠ base → s.link.now.resolved s.current = true

def CallAlone (s : LinkServer) : Prop := ∀ before base, s.baseline? = some (before, base) → s.Alone base

theorem callAlone_step (h : s.CallAlone) (fresh : s.NonePending act) (taken : s.step act = some t) :
    t.CallAlone := by
  intro before base here
  cases step_cases taken with
  | call | clearContact | contactOnly | refuse | refused | moved | giveUp | leave => cases here
  | baseline reached =>
    cases here
    refine ⟨fun call member => ?_, fun other => (other rfl).elim⟩
    have none : s.link.pending = [] := fresh
    rw [none] at member
    cases member
  | accept reached =>
    have alone := h before base
    rw [baseline?, reached] at alone
    obtain ⟨pending, resolved⟩ := alone here
    refine ⟨fun call member => ?_, resolved⟩
    rcases List.mem_append.mp member with before | new
    · exact pending call before
    · exact List.mem_singleton.mp new
  | unmoved reached | again reached =>
    have alone := h before base
    rw [baseline?, reached] at alone
    obtain ⟨pending, resolved⟩ := alone here
    exact ⟨pending, resolved⟩
  | link | stop =>
    obtain ⟨pending, resolved⟩ := h before base here
    exact ⟨pending, resolved⟩
  | @resolve which state reason some accepted =>
    obtain ⟨pending, resolved⟩ := h before base here
    refine ⟨fun call member => pending call (List.mem_filter.mp member).1, fun _ => ?_⟩
    obtain ⟨call, inside⟩ := List.exists_mem_of_ne_nil which some
    have own := pending call (accepted call inside)
    rw [own] at inside
    apply List.any_eq_true.mpr
    exact ⟨which, List.mem_append_right _ (List.mem_singleton_self which), decide_eq_true inside⟩

theorem ownFirst_of_alone (h : s.CallAlone) : s.OwnFirst act := by
  cases act with
  | poll =>
    unfold OwnFirst
    dsimp only
    split
    · rename_i contact before base reached
      have alone := h before base (by rw [baseline?, reached])
      by_cases same : s.link.now.resolutions.length = base
      · right
        rw [same, Nat.sub_self, Nat.zero_mod]
      · exact Or.inl (alone.resolved same)
    · trivial
  | _ => trivial

theorem ownFirst_of_nonePending {acts : List LinkAction} (alone : s.CallAlone)
    (met : Meets step NonePending s acts) : Meets step OwnFirst s acts := by
  refine (@meets_congr _ _ step NonePending CallAlone OwnFirst (fun _ _ => True) ?_ ?_ _ _ alone met).mpr ?_
  · exact fun s a held _ => iff_of_true (ownFirst_of_alone held) trivial
  · exact fun s a t held fresh _ taken => callAlone_step held fresh taken
  · exact meets_of_forall fun _ _ => trivial

end

def start (status : LinkStatus) (clearsContact : Bool) : LinkServer where
  link := ⟨⟨status, []⟩, []⟩
  clearsContact := clearsContact

/-- Every answer is right just when no call polls before its own clear, and after one that an earlier
call left behind; and so it is when each call finds none pending. -/
theorem clear_reports_own (status : LinkStatus) (clearsContact : Bool) {acts : List LinkAction} {t : LinkServer}
    (h : run step (start status clearsContact) acts = some t) :
    (Meets step OwnFirst (start status clearsContact) acts ↔ ∀ a ∈ t.answers, Right a) ∧
      (Meets step NonePending (start status clearsContact) acts → ∀ a ∈ t.answers, Right a) := by
  have fresh : (start status clearsContact).ClearInv :=
    ⟨fun _ _ none => (by cases none), fun _ none => (by cases none)⟩
  have always : Meets step (fun _ _ => True) (start status clearsContact) acts :=
    meets_of_forall fun _ _ => trivial
  have iff : Meets step OwnFirst (start status clearsContact) acts ↔ ∀ a ∈ t.answers, Right a := by
    obtain ⟨met, held⟩ | ⟨broken, wrong⟩ := @run_dichotomy _ _ _ (fun _ _ => True) ClearInv
      (fun s => ∃ a ∈ s.answers, ¬ Right a) OwnFirst
      (fun s act t held _ first taken => clearInv_step held first taken)
      (fun s act t held _ early taken => clearLost_step held early taken)
      (fun s act t lost taken => by
        obtain ⟨a, member, wrong⟩ := lost
        exact ⟨a, (answers_step taken).subset member, wrong⟩)
      acts _ t fresh always h
    · exact iff_of_true met held.right
    · refine iff_of_false broken fun right => ?_
      obtain ⟨a, member, bad⟩ := wrong
      exact bad (right a member)
  refine ⟨iff, fun nonePending => iff.mp (ownFirst_of_nonePending ?_ nonePending)⟩
  exact fun _ _ none => (by cases none)

/-! ### Two calls on the bench -/

/-- A call to a faulted arm, without contact detection, up to its first look at the counter. -/
def benchWait : List LinkAction := [.call, .clearContact false, .baseline, .request true, .poll]

def benchLate : List LinkAction := [.check true, .leave]

/-- Each of two calls has its own clear resolved before it polls again. -/
def benchInTurn : List LinkAction :=
  benchWait ++ [.resolve [0] .running "", .check false, .poll, .link .faulted "torque"] ++
    benchWait ++ [.resolve [1] .faulted "fault persists after clear", .check false, .poll]

theorem clear_reports_own_benchInTurn :
    ∃ t, run step (start { state := .faulted } false) benchInTurn = some t ∧ t.answers.length = 2 ∧
      Meets step OwnFirst (start { state := .faulted } false) benchInTurn ∧ ∀ a ∈ t.answers, Right a := by
  obtain ⟨t, ran, two⟩ := run_reaches step (start { state := .faulted } false) benchInTurn
    (fun t => t.answers.length = 2) (by decide)
  obtain ⟨iff, alone⟩ := clear_reports_own { state := .faulted } false ran
  have right := alone (by decide)
  exact ⟨t, ran, of_decide_eq_true two, iff.mpr right, right⟩

/-- The second call reports the clear that the first one left behind. -/
theorem earlier_clear_reported :
    ∃ t, run step (start { state := .faulted } false) (benchWait ++ benchLate ++ benchWait ++
        [.resolve [0] .faulted "fault persists after clear", .check false, .poll]) = some t ∧
      ∃ a ∈ t.answers, ¬ Right a := by
  refine ⟨_, rfl, _, List.mem_cons_of_mem _ (List.mem_singleton_self _), fun right => ?_⟩
  have own := (right.own reportsOutcome_moved).1
  revert own
  decide

end KinovaGen3.LinkServer
