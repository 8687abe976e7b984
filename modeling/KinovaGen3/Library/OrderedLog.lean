import Mathlib.Data.List.Forall2
import Mathlib.Order.Basic

/-!
Logs with several writers. The entries of a log can go through two phases, they can each begin with
one of a list of names, in the order of that list, and one entry can rest on another before it.
-/

namespace OrderedLog
universe u
variable {α : Type u}

/-! ### Phases -/

def InPhases (first second : α) (entries : List α) : Prop :=
  ∃ before after, entries = List.replicate before first ++ List.replicate after second

section
variable {first second : α} {entries : List α}

theorem inPhases_cons_first : InPhases first second entries → InPhases first second (first :: entries) := by
  intro ⟨before, after, same⟩
  exact ⟨before + 1, after, congrArg (first :: ·) same⟩

/-- The log is in phases when nothing but the second phase follows the second phase. -/
theorem inPhases_iff :
    InPhases first second entries ↔
      (∀ x ∈ entries, x = first ∨ x = second) ∧ entries.Pairwise fun x y => x = second → y = second := by
  constructor
  · intro ⟨before, after, same⟩
    subst same
    refine ⟨fun x member => ?_, List.pairwise_append.mpr ⟨?_, ?_, ?_⟩⟩
    · exact (List.mem_append.mp member).imp List.eq_of_mem_replicate List.eq_of_mem_replicate
    · exact List.pairwise_replicate.mpr (Or.inr id)
    · exact List.pairwise_replicate.mpr (Or.inr id)
    · intro x _ y later _
      exact List.eq_of_mem_replicate later
  · intro ⟨known, ordered⟩
    induction entries with
    | nil => exact ⟨0, 0, rfl⟩
    | cons x entries ih =>
      obtain ⟨ahead, ordered⟩ := List.pairwise_cons.mp ordered
      have rest := ih (fun y member => known y (List.mem_cons_of_mem x member)) ordered
      rcases known x List.mem_cons_self with rfl | rfl
      · exact inPhases_cons_first rest
      · refine ⟨0, entries.length + 1, List.eq_replicate_iff.mpr ⟨rfl, fun y member => ?_⟩⟩
        rcases List.mem_cons.mp member with rfl | later
        · rfl
        · exact ahead y later rfl

end

/-! ### What comes before -/

/-- Each entry with the first property has one with the second before it. -/
def Preceded (p q : α → Prop) (entries : List α) : Prop :=
  ∀ before x after, entries = before ++ x :: after → p x → ∃ y ∈ before, q y

theorem Preceded.append {p q : α → Prop} {entries more : List α} (h : Preceded p q entries)
    (new : ∀ x ∈ more, p x → ∃ y ∈ entries, q y) : Preceded p q (entries ++ more) := by
  intro before x after same here
  rcases List.append_eq_append_iff.mp same with ⟨middle, rfl, rest⟩ | ⟨middle, split, rest⟩
  · have member : x ∈ more := by
      rw [rest]
      exact List.mem_append_right _ List.mem_cons_self
    obtain ⟨y, earlier, there⟩ := new x member here
    exact ⟨y, List.mem_append_left _ earlier, there⟩
  · cases middle with
    | nil =>
      obtain rfl : x :: after = more := rest
      obtain ⟨y, earlier, there⟩ := new x List.mem_cons_self here
      rw [split, List.append_nil] at earlier
      exact ⟨y, earlier, there⟩
    | cons c middle =>
      obtain ⟨rfl, -⟩ := List.cons.inj rest
      exact h before x middle split here

/-! ### Names -/

variable [Append α]

def Starts (names : List α) (text : α) (k : Nat) : Prop :=
  ∃ name rest, names[k]? = some name ∧ text = name ++ rest

/-- The texts begin with the names, in the order of the names. -/
def InOrder (names texts : List α) : Prop :=
  ∃ places : List Nat, places.Pairwise (· ≤ ·) ∧ List.Forall₂ (Starts names) texts places

/-- No text begins with two of the names. -/
def SelfDelimiting (names : List α) : Prop := Relator.RightUnique (Starts names)

/-- The names' order can be read off the texts, whoever placed them. -/
theorem inOrder_iff {names texts : List α} {places : List Nat} (unique : SelfDelimiting names)
    (placed : List.Forall₂ (Starts names) texts places) :
    InOrder names texts ↔ places.Pairwise (· ≤ ·) := by
  constructor
  · intro ⟨others, ordered, placed'⟩
    have same : places = others := unique.forall₂ placed placed'
    rw [same]
    exact ordered
  · exact fun ordered => ⟨places, ordered, placed⟩

end OrderedLog
