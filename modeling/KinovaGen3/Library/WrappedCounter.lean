import Mathlib.Algebra.Order.Group.Unbundled.Int
import Mathlib.Algebra.Ring.Divisibility.Basic
import Mathlib.Algebra.Ring.Int.Defs
import Mathlib.Tactic.Linarith

/-!
A counter of `2 * h` values that wraps from the largest to the most negative one, and the increments
at which it shows a multiple of a period.
-/

namespace WrappedCounter

/-- What the counter shows after `k` increments from zero. -/
def shown (h k : Nat) : Int := (k : Int).bmod (2 * h)

/-- The first multiple of `d`, of the count or of what is shown, after the counter has wrapped. -/
def slip (h d : Nat) : Nat := h + min (h % d) (d - h % d)

section
variable {h d e k n : Nat}

theorem shown_of_lt (below : k < h) : shown h k = k := by
  unfold shown
  rw [Int.bmod_def]
  have small : (k : Int) % ((2 * h : Nat) : Int) = k := Int.emod_eq_of_lt (by omega) (by omega)
  rw [small, if_pos (by omega)]

theorem shown_of_wrapped (low : h ≤ k) (high : k < 2 * h) : shown h k = (k : Int) - 2 * h := by
  unfold shown
  rw [Int.bmod_def]
  have small : (k : Int) % ((2 * h : Nat) : Int) = k := Int.emod_eq_of_lt (by omega) (by omega)
  rw [small, if_neg (by omega)]
  push_cast
  rfl

theorem not_dvd_of_small {z : Int} (ne : z ≠ 0) (low : -(d : Int) < z) (high : z < d) : ¬ (d : Int) ∣ z :=
  fun divides => ne (Int.eq_zero_of_abs_lt_dvd divides (abs_lt.mpr ⟨low, high⟩))

/-- A period that divides the number of values never notices the wrap. -/
theorem dvd_shown_iff (divides : d ∣ 2 * h) : (d : Int) ∣ shown h k ↔ d ∣ k := by
  have whole : (d : Int) ∣ ((2 * h : Nat) : Int) := Int.natCast_dvd_natCast.mpr divides
  have apart : (d : Int) ∣ (k : Int) - shown h k := Int.dvd_trans whole Int.dvd_self_sub_bmod
  rw [← Int.natCast_dvd_natCast]
  exact (dvd_iff_dvd_of_dvd_sub apart).symm

/-! ### After the wrap -/

theorem rest_bounds (period : 0 < d) (apart : ¬ d ∣ 2 * h) : 0 < h % d ∧ h % d < d := by
  refine ⟨Nat.pos_of_ne_zero fun whole => ?_, Nat.mod_lt _ period⟩
  exact apart (Nat.dvd_mul_left_of_dvd (Nat.dvd_of_mod_eq_zero whole) 2)

theorem dvd_count_iff {j : Nat} : d ∣ h + j ↔ d ∣ h % d + j := by
  have split : h + j = d * (h / d) + (h % d + j) := by
    rw [← Nat.add_assoc, Nat.div_add_mod]
  rw [split]
  exact Nat.dvd_add_right (Nat.dvd_mul_right d _)

theorem dvd_wrapped_iff {j : Nat} (high : j < h) :
    (d : Int) ∣ shown h (h + j) ↔ (d : Int) ∣ (j : Int) - (h % d : Nat) := by
  rw [shown_of_wrapped (by omega) (by omega)]
  apply dvd_iff_dvd_of_dvd_sub
  have split : ((d * (h / d) + h % d : Nat) : Int) = h := congrArg Nat.cast (Nat.div_add_mod h d)
  refine ⟨-((h / d : Nat) : Int), ?_⟩
  push_cast at split ⊢
  linarith

theorem agrees_before_slip (period : 0 < d) (short : d < h) (apart : ¬ d ∣ 2 * h) (before : k < slip h d) :
    (d : Int) ∣ shown h k ↔ d ∣ k := by
  by_cases below : k < h
  · rw [shown_of_lt below, Int.natCast_dvd_natCast]
  · obtain ⟨j, rfl⟩ := Nat.exists_eq_add_of_le (Nat.le_of_not_lt below)
    obtain ⟨low, high⟩ := rest_bounds period apart
    unfold slip at before
    rw [dvd_count_iff, dvd_wrapped_iff (by omega)]
    apply iff_of_false
    · exact not_dvd_of_small (by omega) (by omega) (by omega)
    · exact Nat.not_dvd_of_pos_of_lt (by omega) (by omega)

theorem slips (period : 0 < d) (short : d < h) (apart : ¬ d ∣ 2 * h) :
    ¬ ((d : Int) ∣ shown h (slip h d) ↔ d ∣ slip h d) := by
  obtain ⟨low, high⟩ := rest_bounds period apart
  unfold slip
  rw [dvd_count_iff, dvd_wrapped_iff (by omega)]
  -- The shown value meets a multiple first when the rest of `h` is small, the count otherwise.
  by_cases small : h % d ≤ d - h % d
  · rw [Nat.min_eq_left small, sub_self]
    intro same
    have divides : d ∣ h % d + h % d := same.mp (dvd_zero _)
    have between : h % d + h % d = d := by
      have half : d ∣ h % d + h % d - d := Nat.dvd_sub divides (Nat.dvd_refl d)
      have least := Nat.le_of_dvd (by omega) divides
      have none := Nat.eq_zero_of_dvd_of_lt half (by omega)
      omega
    apply apart
    refine ⟨2 * (h / d) + 1, ?_⟩
    have split := Nat.div_add_mod h d
    rw [Nat.mul_add, Nat.mul_left_comm]
    omega
  · rw [Nat.min_eq_right (by omega)]
    intro same
    have divides : d ∣ h % d + (d - h % d) := by
      rw [Nat.add_sub_cancel' high.le]
    refine not_dvd_of_small ?_ ?_ ?_ (same.mpr divides) <;> omega

/-! ### How long a period is kept -/

theorem same_period_iff (period : 0 < d) (short : d < h) :
    (∀ k, k < n → ((d : Int) ∣ shown h k ↔ d ∣ k)) ↔ d ∣ 2 * h ∨ n ≤ slip h d := by
  by_cases divides : d ∣ 2 * h
  · exact iff_of_true (fun _ _ => dvd_shown_iff divides) (Or.inl divides)
  · rw [or_iff_right divides]
    constructor
    · intro kept
      by_contra long
      exact slips period short divides (kept _ (by omega))
    · intro within k before
      exact agrees_before_slip period short divides (by omega)

theorem other_period_iff (period : 0 < d) (positive : 0 < e) (short : e < h) (ne : e ≠ d) :
    (∀ k, k < n → ((e : Int) ∣ shown h k ↔ d ∣ k)) ↔ n ≤ min d e := by
  constructor
  · intro kept
    by_contra long
    have met := kept (min d e) (by omega)
    rw [shown_of_lt (by omega), Int.natCast_dvd_natCast] at met
    rcases Nat.lt_or_gt_of_ne ne with before | before
    · rw [Nat.min_eq_right before.le] at met
      exact Nat.not_dvd_of_pos_of_lt positive before (met.mp (Nat.dvd_refl e))
    · rw [Nat.min_eq_left before.le] at met
      exact Nat.not_dvd_of_pos_of_lt period before (met.mpr (Nat.dvd_refl d))
  · intro within k before
    rw [shown_of_lt (by omega), Int.natCast_dvd_natCast]
    rcases Nat.eq_zero_or_pos k with rfl | later
    · exact iff_of_true (Nat.dvd_zero e) (Nat.dvd_zero d)
    · exact iff_of_false (Nat.not_dvd_of_pos_of_lt later (by omega))
        (Nat.not_dvd_of_pos_of_lt later (by omega))

end
end WrappedCounter
