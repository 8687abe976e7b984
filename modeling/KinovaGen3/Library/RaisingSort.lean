import Mathlib.Data.List.Perm.Basic

/-!
Sorting by a comparison that may raise an exception. An insertion sort compares as little as it can,
and still raises exactly if two of the elements cannot be compared, when what can be compared falls
into classes.
-/

namespace RaisingSort
universe u v
variable {α : Type u} {ε : Type v}

def insert (less : α → α → Except ε Bool) (x : α) : List α → Except ε (List α)
  | [] => .ok [x]
  | y :: rest =>
    match less x y with
    | .error e => .error e
    | .ok true => .ok (x :: y :: rest)
    | .ok false =>
      match insert less x rest with
      | .error e => .error e
      | .ok rest => .ok (y :: rest)

/-- The elements of the list inserted, one after the other, into those sorted already. -/
def sortInto (less : α → α → Except ε Bool) (sorted : List α) : List α → Except ε (List α)
  | [] => .ok sorted
  | x :: rest =>
    match insert less x sorted with
    | .error e => .error e
    | .ok sorted => sortInto less sorted rest

def sort (less : α → α → Except ε Bool) (l : List α) : Except ε (List α) := sortInto less [] l

def Comparable (less : α → α → Except ε Bool) (a b : α) : Prop := (less a b).isOk = true

instance (less : α → α → Except ε Bool) (a b : α) : Decidable (Comparable less a b) := by
  unfold Comparable
  infer_instance

/-- What can be compared falls into classes. An element need not be comparable with itself. -/
structure Classes (less : α → α → Except ε Bool) : Prop where
  symm : ∀ a b, Comparable less a b → Comparable less b a
  trans : ∀ a b c, Comparable less a b → Comparable less b c → Comparable less a c

section
variable {less : α → α → Except ε Bool} {x : α} {l l' sorted : List α} {e : ε}

theorem insert_perm (h : insert less x l = .ok l') : l'.Perm (x :: l) := by
  induction l generalizing l' with
  | nil =>
    cases h
    exact List.Perm.refl _
  | cons y rest ih =>
    unfold insert at h
    split at h
    · cases h
    · cases h
      exact List.Perm.refl _
    · split at h
      · cases h
      · rename_i inserted
        cases h
        exact ((ih inserted).cons y).trans (List.Perm.swap x y rest)

theorem insert_raises (h : insert less x l = .error e) : ∃ a b, less a b = .error e := by
  induction l with
  | nil => cases h
  | cons y rest ih =>
    unfold insert at h
    split at h
    · rename_i raised
      cases h
      exact ⟨x, y, raised⟩
    · cases h
    · split at h
      · rename_i raised
        cases h
        exact ih raised
      · cases h

theorem insert_ok_iff (classes : Classes less) (same : l.Pairwise (Comparable less)) :
    (insert less x l).isOk = true ↔ ∀ y ∈ l, Comparable less x y := by
  induction l with
  | nil => exact iff_of_true rfl (by simp)
  | cons y rest ih =>
    obtain ⟨near, same⟩ := List.pairwise_cons.mp same
    have ih := ih same
    unfold insert
    cases compared : less x y with
    | error e =>
      apply iff_of_false
      · exact Bool.false_ne_true
      · intro all
        have able := all y List.mem_cons_self
        rw [Comparable, compared] at able
        exact Bool.false_ne_true able
    | ok below =>
      have able : Comparable less x y := by rw [Comparable, compared]; rfl
      -- The first comparison decides the rest, which are all in the class of `y`.
      have all : ∀ z ∈ y :: rest, Comparable less x z := by
        intro z member
        rcases List.mem_cons.mp member with rfl | member
        · exact able
        · exact classes.trans x y z able (near z member)
      cases below with
      | true => exact iff_of_true rfl all
      | false =>
        have inserted := ih.mpr fun z member => all z (List.mem_cons_of_mem y member)
        refine iff_of_true ?_ all
        cases done : insert less x rest with
        | error e =>
          rw [done] at inserted
          exact inserted
        | ok l' => rfl

theorem sortInto_ok_iff (classes : Classes less) (same : sorted.Pairwise (Comparable less)) :
    (sortInto less sorted l).isOk = true ↔ (sorted ++ l).Pairwise (Comparable less) := by
  induction l generalizing sorted with
  | nil =>
    rw [List.append_nil]
    exact iff_of_true rfl same
  | cons x rest ih =>
    have next := @insert_ok_iff _ _ _ x _ classes same
    have moved : (sorted ++ x :: rest).Perm ((x :: sorted) ++ rest) := List.perm_middle
    have order := moved.pairwise_iff fun {a b} => classes.symm a b
    rw [order]
    unfold sortInto
    cases inserted : insert less x sorted with
    | error e =>
      apply iff_of_false
      · exact Bool.false_ne_true
      · intro all
        rw [inserted] at next
        have front := (List.pairwise_append.mp all).1
        exact Bool.false_ne_true (next.mpr (List.pairwise_cons.mp front).1)
    | ok l' =>
      rw [inserted] at next
      have perm := insert_perm inserted
      have sorted' : l'.Pairwise (Comparable less) :=
        (perm.pairwise_iff fun {a b} => classes.symm a b).mpr (List.pairwise_cons.mpr ⟨next.mp rfl, same⟩)
      have rest' := (perm.append_right rest).pairwise_iff fun {a b} => classes.symm a b
      exact (ih sorted').trans rest'

theorem sortInto_raises (h : sortInto less sorted l = .error e) : ∃ a b, less a b = .error e := by
  induction l generalizing sorted with
  | nil => cases h
  | cons x rest ih =>
    unfold sortInto at h
    split at h
    · rename_i raised
      cases h
      exact insert_raises raised
    · exact ih h

/-- Sorting raises nothing exactly if every two elements can be compared. -/
theorem sort_ok_iff (classes : Classes less) :
    (sort less l).isOk = true ↔ l.Pairwise (Comparable less) :=
  sortInto_ok_iff classes List.Pairwise.nil

theorem sort_raises (h : sort less l = .error e) : ∃ a b, less a b = .error e := sortInto_raises h

end
end RaisingSort
