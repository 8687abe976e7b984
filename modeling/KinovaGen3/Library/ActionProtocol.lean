import KinovaGen3.Library.OrderedLog
import KinovaGen3.Library.Run

/-!
What the client of an action server can rely on. A goal is refused or accepted. An accepted goal ends
once, with what its executor has made of it, or with a result of the server's own if it was never handed
on. A cancel can be accepted at any time, and only after one does a goal end canceled.
-/

namespace ActionProtocol
open Transition OrderedLog
universe u v
variable {Plan : Type u} {Result : Type v}

inductive Ending where
  | canceled | succeeded | aborted
  deriving DecidableEq

inductive Phase (Plan : Type u) where
  | unseen
  | refused
  | accepted
  | executing (plan : Plan)
  | ended

structure Goal (Plan : Type u) (Result : Type v) where
  phase : Phase Plan := .unseen
  cancelAccepted : Bool := false
  /-- What the executor has settled the goal with, until the client is told. -/
  settled : Option Result := none

inductive Act (Plan : Type u) (Result : Type v) where
  | refuse
  | accept
  | cancel
  | hand (plan : Plan)
  | settle (result : Result)
  | finish (ending : Ending) (result : Result)

/-- `own` are the results that a server ends a goal with that it has not handed on. -/
structure Rules (Result : Type v) where
  succeeded : Result → Bool
  own : Result → Bool
  own_failed : ∀ r, own r = true → succeeded r = false

namespace Rules

/-- An ending agrees with its result, and with whether a cancel was accepted. -/
def fits (rules : Rules Result) (cancelAccepted : Bool) : Ending → Result → Bool
  | .canceled, _ => cancelAccepted
  | .succeeded, r => rules.succeeded r
  | .aborted, r => !rules.succeeded r

variable [DecidableEq Result]

/-- Where the goal is, it can end with this result. -/
def due (rules : Rules Result) (g : Goal Plan Result) (r : Result) : Bool :=
  match g.phase with
  | .accepted => rules.own r
  | .executing _ => g.settled = some r
  | _ => false

def step (rules : Rules Result) (g : Goal Plan Result) : Act Plan Result → Option (Goal Plan Result)
  | .refuse =>
    match g.phase with
    | .unseen => some { g with phase := .refused }
    | _ => none
  | .accept =>
    match g.phase with
    | .unseen => some { g with phase := .accepted }
    | _ => none
  | .cancel =>
    match g.phase with
    | .unseen | .refused => none
    | _ => some { g with cancelAccepted := true }
  | .hand plan =>
    match g.phase with
    | .accepted => some { g with phase := .executing plan }
    | _ => none
  | .settle r =>
    match g.phase, g.settled with
    | .executing _, none => some { g with settled := some r }
    | _, _ => none
  | .finish ending r =>
    if rules.due g r && rules.fits g.cancelAccepted ending r then
      some { g with phase := .ended, settled := none }
    else none

section
variable {rules : Rules Result} {g : Goal Plan Result}

theorem step_cancel (seen : g.phase ≠ .unseen ∧ g.phase ≠ .refused) :
    rules.step g .cancel = some { g with cancelAccepted := true } := by
  rw [step]
  split
  · exact (seen.1 ‹_›).elim
  · exact (seen.2 ‹_›).elim
  · rfl

theorem step_hand {plan : Plan} (accepted : g.phase = .accepted) :
    rules.step g (.hand plan) = some { g with phase := .executing plan } := by
  simp only [step, accepted]

theorem step_settle {plan : Plan} {r : Result} (executing : g.phase = .executing plan)
    (waiting : g.settled = none) : rules.step g (.settle r) = some { g with settled := some r } := by
  simp only [step, executing, waiting]

end

end Rules

namespace Act

def isCancel : Act Plan Result → Bool
  | cancel => true
  | _ => false

def IsCanceled : Act Plan Result → Prop
  | finish .canceled _ => True
  | _ => False

def IsCancel : Act Plan Result → Prop
  | cancel => True
  | _ => False

end Act

/-! ### The lives of a goal -/

/-- What has become of a goal, but for the cancels. -/
def life (past : List (Act Plan Result)) : List (Act Plan Result) := past.filter (!·.isCancel)

/-- The ways in which a goal can have come where it is. -/
def Led (rules : Rules Result) (past : List (Act Plan Result)) (g : Goal Plan Result) : Prop :=
  match g.phase with
  | .unseen => past = []
  | .refused => past = [.refuse]
  | .accepted => life past = [.accept]
  | .executing plan => life past = [.accept, .hand plan] ++ g.settled.toList.map .settle
  | .ended => ∃ ending r, (ending = .succeeded → rules.succeeded r = true) ∧
      (ending = .aborted → rules.succeeded r = false) ∧
      (life past = [.accept, .finish ending r] ∧ rules.own r = true ∨
        ∃ plan, life past = [.accept, .hand plan, .settle r, .finish ending r])

structure Lived (rules : Rules Result) (past : List (Act Plan Result)) (g : Goal Plan Result) : Prop where
  led : Led rules past g
  unsettled : (∀ plan, g.phase ≠ .executing plan) → g.settled = none
  accepted : g.cancelAccepted = true → ∃ act ∈ past, act.IsCancel
  canceled : Preceded Act.IsCanceled Act.IsCancel past

section
variable {rules : Rules Result} {past : List (Act Plan Result)} {g t : Goal Plan Result} {act : Act Plan Result}

theorem life_append (other : act.isCancel = false) : life (past ++ [act]) = life past ++ [act] := by
  simp [life, other]

theorem life_cancel : life (past ++ [.cancel]) = life past := by
  simp [life, Act.isCancel]

theorem Lived.append (h : Lived rules past g) (led : Led rules (past ++ [act]) t)
    (unsettled : (∀ plan, t.phase ≠ .executing plan) → t.settled = none)
    (same : t.cancelAccepted = g.cancelAccepted) (other : ¬ act.IsCanceled) :
    Lived rules (past ++ [act]) t := by
  refine ⟨led, unsettled, fun accepted => ?_, h.canceled.append fun x member here => ?_⟩
  · obtain ⟨earlier, before, cancels⟩ := h.accepted (same ▸ accepted)
    exact ⟨earlier, List.mem_append_left _ before, cancels⟩
  · obtain rfl := List.mem_singleton.mp member
    exact (other here).elim

theorem lived_cancel (h : Lived rules past g) (seen : g.phase ≠ .unseen ∧ g.phase ≠ .refused) :
    Lived rules (past ++ [.cancel]) { g with cancelAccepted := true } := by
  refine ⟨?_, h.unsettled, fun _ => ?_, h.canceled.append fun x member here => ?_⟩
  · have led := h.led
    unfold Led at led ⊢
    dsimp only
    cases reached : g.phase with
    | unseen => exact (seen.1 reached).elim
    | refused => exact (seen.2 reached).elim
    | accepted | executing | ended =>
      rw [reached] at led
      rw [life_cancel]
      exact led
  · exact ⟨.cancel, List.mem_append_right _ (List.mem_singleton_self _), trivial⟩
  · obtain rfl := List.mem_singleton.mp member
    exact here.elim

variable [DecidableEq Result]

theorem lived_finish {ending : Ending} {r : Result} (h : Lived rules past g) (due : rules.due g r = true)
    (fits : rules.fits g.cancelAccepted ending r = true) :
    Lived rules (past ++ [.finish ending r]) { g with phase := .ended, settled := none } := by
  have shown : life (past ++ [.finish ending r]) = life past ++ [.finish ending r] := life_append rfl
  refine ⟨⟨ending, r, ?_, ?_, ?_⟩, fun _ => rfl, fun accepted => ?_,
    h.canceled.append fun x member here => ?_⟩
  · rintro rfl
    exact fits
  · rintro rfl
    simpa [Rules.fits] using fits
  · have led := h.led
    rw [shown]
    unfold Led at led
    unfold Rules.due at due
    cases reached : g.phase with
    | unseen | refused | ended =>
      rw [reached] at due
      cases due
    | accepted =>
      rw [reached] at led due
      exact Or.inl ⟨by rw [led]; rfl, due⟩
    | executing plan =>
      rw [reached] at led due
      have settled : g.settled = some r := of_decide_eq_true due
      rw [settled] at led
      exact Or.inr ⟨plan, by rw [led]; rfl⟩
  · obtain ⟨earlier, before, cancels⟩ := h.accepted accepted
    exact ⟨earlier, List.mem_append_left _ before, cancels⟩
  · obtain rfl := List.mem_singleton.mp member
    cases ending with
    | canceled => exact h.accepted fits
    | succeeded | aborted => exact here.elim

theorem lived_step (h : Lived rules past g) (moved : rules.step g act = some t) :
    Lived rules (past ++ [act]) t := by
  cases act with
  | refuse =>
    dsimp only [Rules.step] at moved
    split at moved
    · rename_i reached
      cases moved
      have before : past = [] := by
        have led := h.led
        rwa [Led, reached] at led
      refine h.append ?_ (fun _ => h.unsettled fun plan executing => ?_) rfl id
      · rw [before]
        rfl
      · cases reached.symm.trans executing
    · cases moved
  | accept =>
    dsimp only [Rules.step] at moved
    split at moved
    · rename_i reached
      cases moved
      have before : past = [] := by
        have led := h.led
        rwa [Led, reached] at led
      refine h.append ?_ (fun _ => h.unsettled fun plan executing => ?_) rfl id
      · rw [before]
        rfl
      · cases reached.symm.trans executing
    · cases moved
  | cancel =>
    dsimp only [Rules.step] at moved
    split at moved
    · cases moved
    · cases moved
    · rename_i unseen refused
      cases moved
      exact lived_cancel h ⟨unseen, refused⟩
  | hand plan =>
    dsimp only [Rules.step] at moved
    split at moved
    · rename_i reached
      cases moved
      have settled : g.settled = none := h.unsettled fun plan executing => by
        cases reached.symm.trans executing
      refine h.append ?_ (fun other => (other plan rfl).elim) rfl id
      have led := h.led
      rw [Led, reached] at led
      show life (past ++ [.hand plan]) = [.accept, .hand plan] ++ g.settled.toList.map .settle
      rw [life_append rfl, led, settled]
      rfl
    · cases moved
  | settle r =>
    dsimp only [Rules.step] at moved
    split at moved
    · rename_i plan reached settled
      cases moved
      refine h.append ?_ (fun other => (other plan reached).elim) rfl id
      have led := h.led
      rw [Led, reached, settled] at led
      rw [Led]
      dsimp only
      rw [reached]
      show life (past ++ [.settle r]) = [.accept, .hand plan] ++ [.settle r]
      rw [life_append rfl, led]
      rfl
    · cases moved
  | finish ending r =>
    dsimp only [Rules.step] at moved
    split at moved
    · rename_i both
      cases moved
      obtain ⟨due, fits⟩ := Bool.and_eq_true_iff.mp both
      exact lived_finish h due fits
    · cases moved

/-- Whatever the server has done with a goal, it is a life of the protocol. -/
theorem lived {acts : List (Act Plan Result)} (h : run rules.step {} acts = some g) : Lived rules acts g := by
  have start : Lived rules [] ({} : Goal Plan Result) := by
    refine ⟨rfl, fun _ => rfl, fun accepted => Bool.noConfusion accepted, ?_⟩
    intro before x after same
    cases before <;> cases same
  have reached : Lived rules ([] ++ acts.filterMap some) g :=
    @run_invariant_of_history _ _ _ rules.step (fun _ _ => True) (Lived rules) some
      (fun _ _ _ _ held _ moved => lived_step held moved) acts [] _ g start
      (meets_of_forall fun _ _ => trivial) h
  simpa using reached

end

end ActionProtocol
