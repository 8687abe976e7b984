import Mathlib.Data.List.Perm.Subperm

/-!
Messages that are handed on by carriers: each carrier has one message, moves at its own pace and
delivers its message at most once. `pairs` lists the carriers with their messages.
-/

namespace Delivery
variable {α β : Type} {done : α → Bool} {pairs : List (α × β)}

def delivered (done : α → Bool) (pairs : List (α × β)) : List β :=
  (pairs.filter fun p => done p.1).map Prod.snd

theorem delivered_sublist : (delivered done pairs).Sublist (pairs.map Prod.snd) :=
  List.filter_sublist.map _

/-- A carrier that is new has not delivered. -/
theorem delivered_append {a : α} {b : β} (new : done a = false) :
    delivered done (pairs ++ [(a, b)]) = delivered done pairs := by
  simp [delivered, new]

theorem delivered_congr {done' : α → Bool} (same : ∀ p ∈ pairs, done p.1 = done' p.1) :
    delivered done pairs = delivered done' pairs := by
  rw [delivered, delivered, List.filter_congr same]

theorem delivered_zip {carriers : List α} {messages : List β} :
    delivered done (carriers.zip messages) = delivered id ((carriers.map done).zip messages) := by
  rw [List.zip_map_left, delivered, delivered, List.filter_map, List.map_map]
  rfl

theorem map_set {i : Nat} {old new : α} {b : β} (here : pairs[i]? = some (old, b)) :
    (pairs.set i (new, b)).map Prod.snd = pairs.map Prod.snd := by
  have inside : i < pairs.length := (List.getElem?_eq_some_iff.mp here).1
  apply List.ext_getElem?
  intro j
  rw [List.getElem?_map, List.getElem?_map]
  by_cases same : i = j
  · subst same
    rw [List.getElem?_set_self inside, here]
    rfl
  · rw [List.getElem?_set_ne same]

/-- A carrier moves on, and its message is delivered if it does so. -/
theorem delivered_set {i : Nat} {old new : α} {b : β} (here : pairs[i]? = some (old, b))
    (waiting : done old = false) :
    (delivered done (pairs.set i (new, b))).Perm
      (delivered done pairs ++ if done new then [b] else []) := by
  induction pairs generalizing i with
  | nil => cases here
  | cons first rest ih =>
    cases i with
    | zero =>
      obtain rfl := Option.some.inj here
      by_cases delivers : done new = true
      · simp only [delivered, List.set_cons_zero, List.filter_cons, delivers, waiting, if_true,
          Bool.false_eq_true, if_false, List.map_cons]
        exact (List.perm_append_singleton _ _).symm
      · simp [delivered, waiting, delivers]
    | succ i =>
      have tail := ih here
      by_cases before : done first.1 = true
      · simp only [delivered, List.set_cons_succ, List.filter_cons, before, if_true, List.map_cons,
          List.cons_append]
        exact tail.cons _
      · simp only [delivered, List.set_cons_succ, List.filter_cons, before, if_false,
          Bool.false_eq_true]
        exact tail

end Delivery
