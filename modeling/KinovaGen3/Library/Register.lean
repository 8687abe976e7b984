import Mathlib.Data.List.Basic

/-!
A register that one thread stores to, as the list of what was stored: a load gives the last of them, or
what was there before the first.
-/

namespace Register
universe u
variable {α : Type u} {initial : α} {stores more : List α} {n : Nat}

def value (initial : α) (stores : List α) : α := stores.getLast?.getD initial

theorem value_store (initial a : α) (stores : List α) : value initial (stores ++ [a]) = a := by
  simp [value]

theorem value_last (some_store : stores ≠ []) : stores[stores.length - 1]? = some (value initial stores) := by
  rw [value, ← List.getLast?_eq_getElem?, List.getLast?_eq_some_getLast some_store, Option.getD_some]

theorem kept {a : α} (h : stores[n]? = some a) : (stores ++ more)[n]? = some a := by
  obtain ⟨inside, here⟩ := List.getElem?_eq_some_iff.mp h
  rw [List.getElem?_append_left inside, h]

/-- Where the stores grow, a later one is at least an earlier one. -/
theorem le_of_later {r : α → α → Prop} [Std.Refl r] (grows : stores.Pairwise r) {k m : Nat} (later : k ≤ m)
    {a b : α} (first : stores[k]? = some a) (second : stores[m]? = some b) : r a b := by
  obtain ⟨_, rfl⟩ := List.getElem?_eq_some_iff.mp first
  obtain ⟨inside, rfl⟩ := List.getElem?_eq_some_iff.mp second
  rcases Nat.lt_or_eq_of_le later with before | rfl
  · exact List.pairwise_iff_getElem.mp grows k m _ inside before
  · exact Std.Refl.refl _

end Register
