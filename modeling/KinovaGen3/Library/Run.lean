import Mathlib.Order.WellFounded

/-!
Finite runs of a partial step function. A step is enabled where the function returns a state, so
a run that ends in `some` is an interleaving all of whose steps were possible.
-/

namespace Transition
universe u v w x
variable {S : Type u} {A : Type v} {T : Type w} {B : Type x}

/-- The state after the actions, when every one of them is enabled in turn. -/
def run (step : S → A → Option S) : S → List A → Option S
  | s, [] => some s
  | s, a :: rest => (step s a).bind fun t => run step t rest

/-- Every action of the run is taken in a state where the guard allows it. -/
def Meets (step : S → A → Option S) (guard : S → A → Prop) : S → List A → Prop
  | _, [] => True
  | s, a :: rest => guard s a ∧
      match step s a with
      | none => True
      | some t => Meets step guard t rest

section
variable {step : S → A → Option S} {guard : S → A → Prop}

@[simp] theorem run_nil (s : S) : run step s [] = some s := rfl

theorem run_cons {a : A} {rest : List A} {s t : S} :
    run step s (a :: rest) = some t ↔ ∃ u, step s a = some u ∧ run step u rest = some t := by
  simp only [run, Option.bind_eq_some_iff]

theorem run_single {a : A} {s t : S} : run step s [a] = some t ↔ step s a = some t := by
  simp only [run_cons, run_nil, Option.some.injEq, exists_eq_right]

theorem run_append {first second : List A} {s t : S} :
    run step s (first ++ second) = some t ↔
      ∃ u, run step s first = some u ∧ run step u second = some t := by
  induction first generalizing s with
  | nil => simp
  | cons a rest ih =>
    simp only [List.cons_append, run_cons, ih]
    constructor
    · intro ⟨u, taken, v, front, back⟩
      exact ⟨v, ⟨u, taken, front⟩, back⟩
    · intro ⟨v, ⟨u, taken, front⟩, back⟩
      exact ⟨u, taken, v, front, back⟩

theorem meets_cons {a : A} {rest : List A} {s t : S} (taken : step s a = some t) :
    Meets step guard s (a :: rest) ↔ guard s a ∧ Meets step guard t rest := by
  simp only [Meets, taken]

theorem meets_append {first second : List A} {s t : S} (front : run step s first = some t) :
    Meets step guard s (first ++ second) ↔
      Meets step guard s first ∧ Meets step guard t second := by
  induction first generalizing s with
  | nil =>
    obtain rfl := Option.some.inj front
    simp [Meets]
  | cons a rest ih =>
    obtain ⟨u, taken, front⟩ := run_cons.mp front
    rw [List.cons_append, meets_cons taken, meets_cons taken, ih front, and_assoc]

theorem run_reaches (step : S → A → Option S) (s : S) (acts : List A) (p : S → Bool)
    (h : (run step s acts).any p = true) : ∃ t, run step s acts = some t ∧ p t = true :=
  (Option.any_eq_true p _).mp h

instance decidableMeets [∀ s a, Decidable (guard s a)] :
    ∀ (s : S) (acts : List A), Decidable (Meets step guard s acts)
  | _, [] => .isTrue trivial
  | s, a :: rest =>
    match h : step s a with
    | none => decidable_of_iff (guard s a) (by simp only [Meets, h, and_true])
    | some t =>
      have := decidableMeets t rest
      decidable_of_iff (guard s a ∧ Meets step guard t rest) (meets_cons h).symm

theorem meets_of_mem {acts : List A} {s : S} (all : ∀ a ∈ acts, ∀ s, guard s a) :
    Meets step guard s acts := by
  induction acts generalizing s with
  | nil => trivial
  | cons a rest ih =>
    refine ⟨all a (List.mem_cons_self ..) s, ?_⟩
    split
    · trivial
    · exact ih fun b member => all b (List.mem_cons_of_mem _ member)

theorem meets_of_forall (all : ∀ s a, guard s a) {acts : List A} {s : S} :
    Meets step guard s acts :=
  meets_of_mem fun a _ s => all s a

theorem meets_mono {guard' : S → A → Prop} (weaker : ∀ s a, guard s a → guard' s a) {acts : List A}
    {s : S} (met : Meets step guard s acts) : Meets step guard' s acts := by
  induction acts generalizing s with
  | nil => trivial
  | cons a rest ih =>
    refine ⟨weaker s a met.1, ?_⟩
    have later := met.2
    split at later
    · trivial
    · exact ih later

theorem meets_and {guard' : S → A → Prop} {acts : List A} {s : S} :
    Meets step (fun s a => guard s a ∧ guard' s a) s acts ↔
      Meets step guard s acts ∧ Meets step guard' s acts := by
  induction acts generalizing s with
  | nil => simp [Meets]
  | cons a rest ih =>
    cases taken : step s a with
    | none => simp only [Meets, taken, and_true]
    | some t =>
      rw [meets_cons taken, meets_cons taken, meets_cons taken, ih]
      exact and_and_and_comm

theorem run_invariant_of_meets {inv : S → Prop}
    (preserve : ∀ s a t, inv s → guard s a → step s a = some t → inv t)
    {acts : List A} {s t : S} (start : inv s) (met : Meets step guard s acts)
    (h : run step s acts = some t) : inv t := by
  induction acts generalizing s with
  | nil => exact Option.some.inj h ▸ start
  | cons a rest ih =>
    obtain ⟨u, taken, h⟩ := run_cons.mp h
    obtain ⟨allowed, met⟩ := (meets_cons taken).mp met
    exact ih (preserve s a u start allowed taken) met h

theorem run_invariant {inv : S → Prop} (preserve : ∀ s a t, inv s → step s a = some t → inv t)
    {acts : List A} {s t : S} (start : inv s) (h : run step s acts = some t) : inv t := by
  induction acts generalizing s with
  | nil => exact Option.some.inj h ▸ start
  | cons a rest ih =>
    obtain ⟨u, taken, h⟩ := run_cons.mp h
    exact ih (preserve s a u start taken) h

/-- Two conditions on the steps that come to the same while `inv` holds, which steps within the first
keep. -/
theorem meets_congr {inv : S → Prop} {good good' : S → A → Prop}
    (same : ∀ s a, inv s → guard s a → (good s a ↔ good' s a))
    (preserve : ∀ s a t, inv s → guard s a → good s a → step s a = some t → inv t)
    {acts : List A} {s : S} (start : inv s) (met : Meets step guard s acts) :
    Meets step good s acts ↔ Meets step good' s acts := by
  induction acts generalizing s with
  | nil => exact Iff.rfl
  | cons a rest ih =>
    cases taken : step s a with
    | none =>
      simp only [Meets, taken, and_true]
      exact same s a start met.1
    | some t =>
      obtain ⟨guarded, met⟩ := (meets_cons taken).mp met
      rw [meets_cons taken, meets_cons taken, same s a start guarded]
      refine and_congr_right fun good' => ?_
      exact ih (preserve s a t start guarded ((same s a start guarded).mpr good') taken) met

/-- A property that a step keeps exactly when it is allowed holds after the runs of allowed steps. -/
theorem run_iff_meets {inv ok : S → Prop} {allowed : S → A → Prop}
    (preserve : ∀ s a t, inv s → step s a = some t → inv t)
    (keeps : ∀ s a t, inv s → step s a = some t → (ok t ↔ ok s ∧ allowed s a))
    {acts : List A} {s t : S} (start : inv s) (h : run step s acts = some t) :
    ok t ↔ ok s ∧ Meets step allowed s acts := by
  induction acts generalizing s with
  | nil =>
    obtain rfl := Option.some.inj h
    exact (and_iff_left trivial).symm
  | cons a rest ih =>
    obtain ⟨u, taken, h⟩ := run_cons.mp h
    rw [ih (preserve s a u start taken) h, keeps s a u start taken, meets_cons taken, and_assoc]

/-- Two ways a run can go: `inv` is kept as long as the allowed steps are taken, and the first step
that is not leads to `lost`, for good. -/
theorem run_dichotomy {inv lost : S → Prop} {allowed : S → A → Prop}
    (keep : ∀ s a t, inv s → guard s a → allowed s a → step s a = some t → inv t)
    (leave : ∀ s a t, inv s → guard s a → ¬ allowed s a → step s a = some t → lost t)
    (stay : ∀ s a t, lost s → step s a = some t → lost t)
    {acts : List A} {s t : S} (start : inv s) (met : Meets step guard s acts)
    (h : run step s acts = some t) :
    Meets step allowed s acts ∧ inv t ∨ ¬ Meets step allowed s acts ∧ lost t := by
  induction acts generalizing s with
  | nil => exact Or.inl ⟨trivial, Option.some.inj h ▸ start⟩
  | cons a rest ih =>
    obtain ⟨u, taken, h⟩ := run_cons.mp h
    obtain ⟨guarded, met⟩ := (meets_cons taken).mp met
    rw [meets_cons taken]
    by_cases within : allowed s a
    · rcases ih (keep s a u start guarded within taken) met h with ⟨all, held⟩ | ⟨some, held⟩
      · exact Or.inl ⟨⟨within, all⟩, held⟩
      · exact Or.inr ⟨fun all => some all.2, held⟩
    · refine Or.inr ⟨fun all => within all.1, ?_⟩
      exact run_invariant stay (leave s a u start guarded within taken) h

end

/-! ### The labels of a run -/

def labels (step : S → A → Option S) (label : S → A → List B) : S → List A → List B
  | _, [] => []
  | s, a :: rest => label s a ++
      match step s a with
      | none => []
      | some t => labels step label t rest

section
variable {step : S → A → Option S} {guard : S → A → Prop} {label : S → A → List B}

theorem labels_cons {a : A} {rest : List A} {s t : S} (taken : step s a = some t) :
    labels step label s (a :: rest) = label s a ++ labels step label t rest := by
  simp only [labels, taken]

theorem labels_map {f : B → T} {acts : List A} {s : S} :
    (labels step label s acts).map f = labels step (fun s a => (label s a).map f) s acts := by
  induction acts generalizing s with
  | nil => rfl
  | cons a rest ih =>
    simp only [labels, List.map_append]
    cases step s a with
    | none => rfl
    | some t => exact congrArg ((label s a).map f ++ ·) ih

theorem labels_filterMap {label : A → Option B} {acts : List A} {s t : S} (h : run step s acts = some t) :
    labels step (fun _ a => (label a).toList) s acts = acts.filterMap label := by
  induction acts generalizing s with
  | nil => rfl
  | cons a rest ih =>
    obtain ⟨u, taken, h⟩ := run_cons.mp h
    rw [labels_cons taken, ih h]
    cases shown : label a with
    | none => rw [List.filterMap_cons_none shown]; rfl
    | some b => rw [List.filterMap_cons_some shown]; rfl

/-- An invariant that looks at the labels of the steps so far. -/
theorem run_invariant_of_labels {inv : List B → S → Prop}
    (preserve : ∀ past s a t, inv past s → guard s a → step s a = some t → inv (past ++ label s a) t)
    {acts : List A} {past : List B} {s t : S} (start : inv past s) (met : Meets step guard s acts)
    (h : run step s acts = some t) : inv (past ++ labels step label s acts) t := by
  induction acts generalizing past s with
  | nil =>
    obtain rfl := Option.some.inj h
    rw [labels, List.append_nil]
    exact start
  | cons a rest ih =>
    obtain ⟨u, taken, h⟩ := run_cons.mp h
    obtain ⟨allowed, met⟩ := (meets_cons taken).mp met
    rw [labels_cons taken, ← List.append_assoc]
    exact ih (preserve past s a u start allowed taken) met h

theorem run_invariant_of_history {inv : List B → S → Prop} {label : A → Option B}
    (preserve : ∀ past s a t, inv past s → guard s a → step s a = some t →
      inv (past ++ (label a).toList) t)
    {acts : List A} {past : List B} {s t : S} (start : inv past s) (met : Meets step guard s acts)
    (h : run step s acts = some t) : inv (past ++ acts.filterMap label) t := by
  rw [← labels_filterMap h]
  exact run_invariant_of_labels preserve start met h

end

/-! ### Runs without an end -/

def Endless (step : S → A → Option S) (states : Nat → S) (acts : Nat → A) : Prop :=
  ∀ n, step (states n) (acts n) = some (states (n + 1))

section
variable {step : S → A → Option S} {states : Nat → S} {acts : Nat → A}

theorem endless_run (endless : Endless step states acts) {n m : Nat} (later : n ≤ m) :
    ∃ path, run step (states n) path = some (states m) := by
  induction later with
  | refl => exact ⟨[], rfl⟩
  | @step m _ ih =>
    obtain ⟨path, front⟩ := ih
    exact ⟨path ++ [acts m], run_append.mpr ⟨_, front, run_single.mpr (endless m)⟩⟩

/-- A run that ends where an action changes nothing goes on with that action for ever. -/
theorem endless_of_idle {path : List A} {s t : S} {a : A} (h : run step s path = some t)
    (idle : step t a = some t) : ∃ (states : Nat → S) (acts : Nat → A), Endless step states acts ∧
      states 0 = s ∧ ∀ n, path.length ≤ n → states n = t ∧ acts n = a := by
  induction path generalizing s with
  | nil =>
    obtain rfl := Option.some.inj h
    exact ⟨fun _ => s, fun _ => a, fun _ => idle, rfl, fun _ _ => ⟨rfl, rfl⟩⟩
  | cons b rest ih =>
    obtain ⟨u, taken, h⟩ := run_cons.mp h
    obtain ⟨states, acts, endless, first, last⟩ := ih h
    refine ⟨fun n => n.casesOn s states, fun n => n.casesOn b acts, fun n => ?_, rfl, fun n later => ?_⟩
    · cases n with
      | zero =>
        show step s b = some (states 0)
        rw [first]
        exact taken
      | succ n => exact endless n
    · cases n with
      | zero => cases later
      | succ n => exact last n (Nat.le_of_succ_le_succ later)

/-- Actions that go down a well-founded order end, when the others stay where they are in it. -/
theorem endless_settles (rank : S → T) (drives : A → Prop) {below : T → T → Prop}
    (wf : WellFounded below)
    (falls : ∀ s a t, drives a → step s a = some t → below (rank t) (rank s))
    (stays : ∀ s a t, ¬ drives a → step s a = some t → rank t = rank s)
    (endless : Endless step states acts) : ∃ last, ∀ n, last ≤ n → ¬ drives (acts n) := by
  obtain ⟨_, ⟨last, rfl⟩, least⟩ :=
    wf.has_min (Set.range fun n => rank (states n)) ⟨_, Set.mem_range_self 0⟩
  have idle : ∀ n, rank (states n) = rank (states last) → ¬ drives (acts n) := by
    intro n reached drive
    have below := falls _ _ _ drive (endless n)
    rw [reached] at below
    exact least _ ⟨n + 1, rfl⟩ below
  have kept : ∀ n, last ≤ n → rank (states n) = rank (states last) := by
    intro n later
    induction later with
    | refl => rfl
    | step _ ih => exact (stays _ _ _ (idle _ ih) (endless _)).trans ih
  exact ⟨last, fun n later => idle n (kept n later)⟩

end

/-! ### Refinement mappings -/

/-- `view` and `label` match every step of `step` by a run of `step'`. -/
def Refines (step : S → A → Option S) (step' : T → B → Option T) (view : S → T)
    (label : S → A → List B) : Prop :=
  ∀ s a t, step s a = some t → run step' (view s) (label s a) = some (view t)

section
variable {step : S → A → Option S} {step' : T → B → Option T} {view : S → T} {label : S → A → List B}

theorem run_refines (refines : Refines step step' view label) {acts : List A} {s t : S}
    (h : run step s acts = some t) :
    run step' (view s) (labels step label s acts) = some (view t) := by
  induction acts generalizing s with
  | nil =>
    obtain rfl := Option.some.inj h
    rfl
  | cons a rest ih =>
    obtain ⟨u, taken, h⟩ := run_cons.mp h
    rw [labels_cons taken, run_append]
    exact ⟨view u, refines s a u taken, ih h⟩

theorem meets_refines {guard : T → B → Prop} (refines : Refines step step' view label) {acts : List A}
    {s t : S} (h : run step s acts = some t)
    (met : Meets step (fun s a => Meets step' guard (view s) (label s a)) s acts) :
    Meets step' guard (view s) (labels step label s acts) := by
  induction acts generalizing s with
  | nil => trivial
  | cons a rest ih =>
    obtain ⟨u, taken, h⟩ := run_cons.mp h
    obtain ⟨allowed, met⟩ := (meets_cons taken).mp met
    rw [labels_cons taken, meets_append (refines s a u taken)]
    exact ⟨allowed, ih h met⟩

end

end Transition
