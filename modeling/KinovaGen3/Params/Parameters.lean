import KinovaGen3.Core.Messages

/-!
The node's ROS parameters. Declaring one gives its override, else its default, and declaring one
that is declared already throws.
-/

namespace KinovaGen3

/-- The parameter overrides a node is started with, by the type a parameter is declared with. -/
structure Overrides where
  bool : String → Option Bool := fun _ => none
  integer : String → Option Int64 := fun _ => none
  double : String → Option Double := fun _ => none
  string : String → Option String := fun _ => none
  doubles : String → Option (List Double) := fun _ => none
  strings : String → Option (List String) := fun _ => none

inductive Thrown where
  | parameterAlreadyDeclared (name : String)
  | invalidParameterValue (name : String)
  | invalidArgument (message : String)
  deriving DecidableEq

/-- Code that runs at startup, over the names declared so far. -/
abbrev Startup := StateT (List String) (Except Thrown)

namespace Startup
variable {α β : Type}

def declare (override : String → Option α) (name : String) (default : α) : Startup α := fun declared =>
  if name ∈ declared then .error (.parameterAlreadyDeclared name)
  else .ok ((override name).getD default, name :: declared)

/-- A declaration whose descriptor gives a range. A value that is not a number is within every range. -/
def declareInRange (override : String → Option Double) (name : String) (default low high : Double) :
    Startup Double := do
  let value ← declare override name default
  if value.lt low || high.lt value then fun _ => .error (.invalidParameterValue name) else pure value

def invalidArgument (message : String) : Startup α := fun _ => .error (.invalidArgument message)

def require (fine : Prop) [Decidable fine] (message : String) : Startup Unit :=
  if fine then pure () else invalidArgument message

section
variable {override : String → Option α} {name : String} {default : α} {declared : List String}

theorem declare_fresh (fresh : name ∉ declared) :
    declare override name default declared = .ok ((override name).getD default, name :: declared) := by
  unfold declare
  rw [if_neg fresh]

theorem declare_again (known : name ∈ declared) :
    declare override name default declared = .error (.parameterAlreadyDeclared name) := by
  unfold declare
  rw [if_pos known]

theorem bind_ok {x : Startup α} {f : α → Startup β} {b : β} {later : List String}
    (h : (x >>= f) declared = .ok (b, later)) :
    ∃ a between, x declared = .ok (a, between) ∧ f a between = .ok (b, later) := by
  change (x declared >>= fun r => f r.1 r.2) = .ok (b, later) at h
  cases front : x declared with
  | error thrown =>
    rw [front] at h
    cases h
  | ok r =>
    rw [front] at h
    exact ⟨r.1, r.2, rfl, h⟩

theorem bind_of_ok {x : Startup α} {f : α → Startup β} {a : α} {between : List String}
    (front : x declared = .ok (a, between)) : (x >>= f) declared = f a between := by
  change (x declared >>= fun r => f r.1 r.2) = _
  rw [front]
  rfl

theorem bind_of_error {x : Startup α} {f : α → Startup β} {thrown : Thrown}
    (front : x declared = .error thrown) : (x >>= f) declared = .error thrown := by
  change (x declared >>= fun r => f r.1 r.2) = _
  rw [front]
  rfl

end

/-! ### Code that may refuse a parameter -/

/-- Names that can be declared. -/
def Fresh (names declared : List String) : Prop := names.Nodup ∧ ∀ n ∈ names, n ∉ declared

/-- Code that declares `names` and, unless it finds the parameters not fine, returns `a`. -/
structure Yields (x : Startup α) (names : List String) (fine : Prop) (a : α) : Prop where
  passes : ∀ declared, Fresh names declared → fine → x declared = .ok (a, names.reverse ++ declared)
  refuses : ∀ declared, Fresh names declared → ¬ fine →
    ∃ message, x declared = .error (.invalidArgument message)

theorem Fresh.front {names names' declared : List String} (h : Fresh (names ++ names') declared) :
    Fresh names declared :=
  ⟨(List.nodup_append.mp h.1).1, fun n member => h.2 n (List.mem_append_left _ member)⟩

theorem Fresh.back {names names' declared : List String} (h : Fresh (names ++ names') declared) :
    Fresh names' (names.reverse ++ declared) := by
  obtain ⟨-, there, apart⟩ := List.nodup_append.mp h.1
  refine ⟨there, fun n member known => ?_⟩
  rcases List.mem_append.mp known with known | known
  · exact apart n (List.mem_reverse.mp known) n member rfl
  · exact h.2 n (List.mem_append_right _ member) known

theorem yields_pure (a : α) : Yields (pure a : Startup α) [] True a where
  passes _ _ _ := rfl
  refuses _ _ refused := (refused trivial).elim

theorem yields_declare (override : String → Option α) (name : String) (default : α) :
    Yields (declare override name default) [name] True ((override name).getD default) where
  passes _ fresh _ := declare_fresh (fresh.2 name (List.mem_singleton_self _))
  refuses _ _ refused := (refused trivial).elim

theorem yields_require (fine : Prop) [Decidable fine] (message : String) :
    Yields (require fine message) [] fine () where
  passes _ _ holds := by
    unfold require
    rw [if_pos holds]
    rfl
  refuses _ _ fails := by
    unfold require
    rw [if_neg fails]
    exact ⟨message, rfl⟩

theorem yields_bind {x : Startup α} {f : α → Startup β} {names names' : List String} {p q : Prop} {a : α}
    {b : β} (first : Yields x names p a) (second : Yields (f a) names' q b) :
    Yields (x >>= f) (names ++ names') (p ∧ q) b where
  passes declared fresh := by
    intro ⟨fine, fine'⟩
    rw [bind_of_ok (first.passes _ fresh.front fine), second.passes _ fresh.back fine']
    simp
  refuses declared fresh bad := by
    by_cases fine : p
    · rw [bind_of_ok (first.passes _ fresh.front fine)]
      exact second.refuses _ fresh.back fun fine' => bad ⟨fine, fine'⟩
    · obtain ⟨message, thrown⟩ := first.refuses _ fresh.front fine
      exact ⟨message, bind_of_error thrown⟩

theorem Yields.congr {x : Startup α} {names names' : List String} {p q : Prop} {a : α}
    (h : Yields x names p a) (sameNames : names = names') (same : p ↔ q) : Yields x names' q a := by
  rw [← sameNames, ← same]
  exact h

/-- A parameter that is checked on its own. -/
theorem yields_checked (override : String → Option α) (name : String) (default : α) (fine : α → Prop)
    [∀ value, Decidable (fine value)] (message : α → String) (result : α → β) :
    Yields (do
      let value ← declare override name default
      require (fine value) (message value)
      pure (result value))
      [name] (fine ((override name).getD default)) (result ((override name).getD default)) := by
  apply Yields.congr
  · apply yields_bind
    · exact yields_declare override name default
    · exact yields_bind (yields_require _ _) (yields_pure _)
  · rfl
  · simp

theorem yields_forM {f : β → Startup Unit} {fine : β → Prop} (each : ∀ b, Yields (f b) [] (fine b) ())
    (l : List β) : Yields (l.forM f) [] (∀ b ∈ l, fine b) () := by
  induction l with
  | nil => exact (yields_pure ()).congr rfl (by simp)
  | cons b l ih =>
    show Yields (f b >>= fun _ => l.forM f) _ _ _
    exact (yields_bind (each b) ih).congr rfl (by simp)

end Startup
end KinovaGen3
