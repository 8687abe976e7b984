import Mathlib.Data.List.Basic
import Mathlib.Logic.Function.Basic
import KinovaGen3.Library.Run

/-!
A topic whose writers keep their last message for readers that come later, and a reader with room for one
message.

This is what DDS documents for `RELIABLE`, `TRANSIENT_LOCAL` and `KEEP_LAST` of depth 1. By the durability a
writer keeps what its history holds for as long as it is there, and sends it to a reader that joins late. By
the history of the writer a message on its way gives way to the next of that writer. By the history of the
reader, of a topic that has no key, one that has arrived gives way to the next that arrives, whoever it is
from. By the reliability nothing else is lost. In which order the messages of different writers arrive is left
open, and so is when.
-/

namespace Transition.RetainedTopic
universe u v

structure State (Writer : Type u) (Msg : Type v) where
  retained : Writer → Option Msg := fun _ => none
  reading : Bool := false
  way : Writer → Option Msg := fun _ => none
  arrived : Option (Writer × Msg) := none
  /-- What the reader has taken since it subscribed. -/
  given : List (Writer × Msg) := []

inductive Action (Writer : Type u) (Msg : Type v) where
  | publish (i : Writer) (m : Msg)
  | leave (i : Writer)
  | arrive (i : Writer)
  | subscribe
  | unsubscribe
  | take

variable {Writer : Type u} {Msg : Type v}

/-- The reader has no part in it. -/
def Action.outside : Action Writer Msg → Bool
  | publish .. | leave _ | arrive _ => true
  | _ => false

def Action.publish? : Action Writer Msg → Option (Writer × Msg)
  | publish i m => some (i, m)
  | _ => none

/-- Nothing is on its way to the reader. -/
def State.Still (s : State Writer Msg) : Prop := (∀ i, s.way i = none) ∧ s.arrived = none

variable [DecidableEq Writer]

def step (s : State Writer Msg) : Action Writer Msg → Option (State Writer Msg)
  | .publish i m =>
    some { s with
      retained := Function.update s.retained i (some m)
      way := if s.reading then Function.update s.way i (some m) else s.way }
  | .leave i =>
    some { s with
      retained := Function.update s.retained i none
      way := Function.update s.way i none }
  | .arrive i =>
    (s.way i).map fun m => { s with way := Function.update s.way i none, arrived := some (i, m) }
  | .subscribe =>
    if s.reading then none
    else some { s with reading := true, way := s.retained, arrived := none, given := [] }
  | .unsubscribe =>
    if s.reading then some { s with reading := false, way := fun _ => none, arrived := none } else none
  | .take => s.arrived.map fun x => { s with arrived := none, given := s.given ++ [x] }

/-- A message arrives where there is room, or one of the same writer. -/
def OneWriter (s : State Writer Msg) : Action Writer Msg → Prop
  | .arrive i => ∀ x ∈ s.arrived, x.1 = i
  | _ => True

instance (s : State Writer Msg) : (act : Action Writer Msg) → Decidable (OneWriter s act)
  | .arrive i => inferInstanceAs (Decidable (∀ x ∈ s.arrived, x.1 = i))
  | .publish .. | .leave _ | .subscribe | .unsubscribe | .take => .isTrue trivial

/-- The last message of a writer among some. -/
def lastOf (i : Writer) (given : List (Writer × Msg)) : Option Msg :=
  (given.filter (·.1 = i)).getLast?.map (·.2)

/-- The newest message of a writer that has not been lost before the reader. -/
def newest (s : State Writer Msg) (i : Writer) : Option Msg :=
  (s.way i).or (lastOf i (s.given ++ s.arrived.toList))

/-- Whatever a writer retains, the reader has or will be given it. -/
def Delivers (s : State Writer Msg) : Prop :=
  s.reading = true → ∀ i m, s.retained i = some m → newest s i = some m

/-- What is retained is on its way, as long as nothing has arrived. -/
def Awaits (s : State Writer Msg) : Prop :=
  ∀ i, (s.retained i).isSome = true → (s.way i).isSome = true ∨ s.arrived.isSome = true

section
variable {s t : State Writer Msg} {act : Action Writer Msg} {i j : Writer} {m : Msg}

theorem outside_frame (outside : act.outside = true) (moved : step s act = some t) :
    t.reading = s.reading ∧ t.given = s.given := by
  cases act with
  | publish | leave =>
    cases moved
    exact ⟨rfl, rfl⟩
  | arrive i =>
    obtain ⟨m, -, rfl⟩ := Option.map_eq_some_iff.mp moved
    exact ⟨rfl, rfl⟩
  | subscribe | unsubscribe | take => cases outside

theorem subscribe_eq (moved : step s .subscribe = some t) :
    t = { s with reading := true, way := s.retained, arrived := none, given := [] } := by
  dsimp only [step] at moved
  split at moved
  · cases moved
  · exact (Option.some.inj moved).symm

theorem take_eq {x : Writer × Msg} (here : s.arrived = some x) (moved : step s .take = some t) :
    t = { s with arrived := none, given := s.given ++ [x] } := by
  rw [step, here] at moved
  exact (Option.some.inj moved).symm

theorem awaits_outside (reading : s.reading = true) (h : Awaits s) (outside : act.outside = true)
    (moved : step s act = some t) : Awaits t := by
  cases act with
  | publish i m =>
    cases moved
    intro j kept
    dsimp only at kept ⊢
    rw [if_pos reading]
    by_cases same : j = i
    · subst same
      exact Or.inl (by simp)
    · rw [Function.update_of_ne same] at kept ⊢
      exact h j kept
  | leave i =>
    cases moved
    intro j kept
    dsimp only at kept ⊢
    by_cases same : j = i
    · subst same
      simp at kept
    · rw [Function.update_of_ne same] at kept ⊢
      exact h j kept
  | arrive i =>
    obtain ⟨m, -, rfl⟩ := Option.map_eq_some_iff.mp moved
    exact fun _ _ => Or.inr rfl
  | subscribe | unsubscribe | take => cases outside

omit [DecidableEq Writer] in
theorem awaits_still (h : Awaits s) (still : s.Still) (i : Writer) : s.retained i = none := by
  by_contra kept
  rcases h i (Option.isSome_iff_ne_none.mpr kept) with way | arrived
  · rw [still.1 i] at way
    cases way
  · rw [still.2] at arrived
    cases arrived

theorem lastOf_append {given : List (Writer × Msg)} :
    lastOf i (given ++ [(j, m)]) = if j = i then some m else lastOf i given := by
  unfold lastOf
  rw [List.filter_append]
  by_cases same : j = i <;> simp [same]

theorem delivers_step (h : Delivers s) (room : OneWriter s act) (moved : step s act = some t) :
    Delivers t := by
  cases act with
  | publish i m =>
    cases moved
    intro reading j m' kept
    have reading : s.reading = true := reading
    unfold newest
    dsimp only at kept ⊢
    rw [if_pos reading]
    by_cases same : j = i
    · subst same
      rw [Function.update_self] at kept ⊢
      rw [kept, Option.some_or]
    · rw [Function.update_of_ne same] at kept ⊢
      exact h reading j m' kept
  | leave i =>
    cases moved
    intro reading j m' kept
    by_cases same : j = i
    · subst same
      simp at kept
    · have before := h reading j m' (by simpa [same] using kept)
      simpa [newest, same] using before
  | arrive i =>
    obtain ⟨m, under, rfl⟩ := Option.map_eq_some_iff.mp moved
    intro reading j m' kept
    have before := h reading j m' kept
    unfold newest at before ⊢
    show (Function.update s.way i none j).or (lastOf j (s.given ++ [(i, m)])) = some m'
    rw [lastOf_append]
    by_cases same : i = j
    · subst same
      simpa [under] using before
    · -- What had arrived is of `i` too, so `j` loses nothing.
      rw [if_neg same, Function.update_of_ne (Ne.symm same)]
      cases waiting : s.arrived with
      | none => simpa [waiting] using before
      | some x =>
        obtain ⟨k, m''⟩ := x
        obtain rfl : k = i := room _ waiting
        rw [waiting, Option.toList_some, lastOf_append, if_neg same] at before
        exact before
  | subscribe =>
    obtain rfl := subscribe_eq moved
    intro _ j m' kept
    exact Option.or_eq_some_iff.mpr (Or.inl kept)
  | unsubscribe =>
    dsimp only [step] at moved
    split at moved
    · cases moved
      intro reading
      cases reading
    · cases moved
  | take =>
    obtain ⟨x, waiting, rfl⟩ := Option.map_eq_some_iff.mp moved
    intro reading j m' kept
    have before := h reading j m' kept
    rw [newest, waiting] at before
    simpa [newest] using before

/-- The messages around are ones that were published. -/
structure Published (past : List (Writer × Msg)) (s : State Writer Msg) : Prop where
  retained : ∀ i m, s.retained i = some m → (i, m) ∈ past
  way : ∀ i m, s.way i = some m → (i, m) ∈ past
  arrived : ∀ x ∈ s.arrived, x ∈ past
  given : ∀ x ∈ s.given, x ∈ past

omit [DecidableEq Writer] in
theorem published_start : Published [] ({} : State Writer Msg) :=
  ⟨fun _ m here => (Option.not_mem_none m here).elim, fun _ m here => (Option.not_mem_none m here).elim,
    fun x member => (Option.not_mem_none x member).elim, fun _ member => (List.not_mem_nil member).elim⟩

omit [DecidableEq Writer] in
theorem Published.more {past more : List (Writer × Msg)} (h : Published past s) : Published (past ++ more) s where
  retained i m here := List.mem_append_left _ (h.retained i m here)
  way i m here := List.mem_append_left _ (h.way i m here)
  arrived x here := List.mem_append_left _ (h.arrived x here)
  given x here := List.mem_append_left _ (h.given x here)

theorem mem_of_update {past : List (Writer × Msg)} {slot : Writer → Option Msg} {new : Option Msg}
    (before : ∀ i m, slot i = some m → (i, m) ∈ past) (fresh : ∀ m ∈ new, (i, m) ∈ past) :
    ∀ j m, Function.update slot i new j = some m → (j, m) ∈ past := by
  intro j m here
  by_cases same : j = i
  · subst same
    rw [Function.update_self] at here
    exact fresh m here
  · rw [Function.update_of_ne same] at here
    exact before j m here

theorem published_step {past : List (Writer × Msg)} (h : Published past s) (moved : step s act = some t) :
    Published (past ++ act.publish?.toList) t := by
  have before : Published (past ++ act.publish?.toList) s := h.more
  have nothing : ∀ x, x ∈ (none : Option (Writer × Msg)) → x ∈ past ++ act.publish?.toList :=
    fun x here => (Option.not_mem_none x here).elim
  have gone : ∀ (i : Writer) (m : Msg), m ∈ (none : Option Msg) → (i, m) ∈ past ++ act.publish?.toList :=
    fun _ m here => (Option.not_mem_none m here).elim
  cases act with
  | publish i m =>
    cases moved
    have fresh : ∀ m' ∈ some m, (i, m') ∈ past ++ [(i, m)] := by
      intro m' here
      obtain rfl := Option.some.inj here
      exact List.mem_append_right _ (List.mem_singleton_self _)
    refine ⟨mem_of_update before.retained fresh, ?_, before.arrived, before.given⟩
    dsimp only
    split
    · exact mem_of_update before.way fresh
    · exact before.way
  | leave i =>
    cases moved
    exact ⟨mem_of_update before.retained (gone i), mem_of_update before.way (gone i), before.arrived,
      before.given⟩
  | arrive i =>
    obtain ⟨m, under, rfl⟩ := Option.map_eq_some_iff.mp moved
    refine ⟨before.retained, mem_of_update before.way (gone i), fun x here => ?_, before.given⟩
    obtain rfl := Option.some.inj here
    exact before.way i m under
  | subscribe =>
    obtain rfl := subscribe_eq moved
    exact ⟨before.retained, before.retained, nothing, fun _ here => (List.not_mem_nil here).elim⟩
  | unsubscribe =>
    dsimp only [step] at moved
    split at moved
    · cases moved
      exact ⟨before.retained, gone, nothing, before.given⟩
    · cases moved
  | take =>
    obtain ⟨x, waiting, rfl⟩ := Option.map_eq_some_iff.mp moved
    refine ⟨before.retained, before.way, nothing, fun y member => ?_⟩
    rcases List.mem_append.mp member with old | last
    · exact before.given y old
    · obtain rfl := List.mem_singleton.mp last
      exact before.arrived y waiting

/-- Once nothing is on its way, the last that the reader was given of a writer is what that writer retains. -/
theorem given_of_still (h : Delivers s) (reading : s.reading = true) (still : s.Still)
    (kept : s.retained i = some m) : lastOf i s.given = some m := by
  have newest := h reading i m kept
  rw [RetainedTopic.newest, still.1 i, still.2] at newest
  simpa using newest

end

end Transition.RetainedTopic
