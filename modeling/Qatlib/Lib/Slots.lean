import Mathlib.Data.Finset.Card
import Mathlib.Data.Finset.Range
import Mathlib.Logic.Function.Basic

set_option autoImplicit false

/-! # Counting the slots in use

The number of slots in use among the first `n` of a table, and how filling or emptying one slot
changes it. -/

namespace Qatlib

open Function

variable {α : Type} {n i : Nat} {f : Nat → Option α}

/-- The number of slots in use below `n`. -/
def filled (n : Nat) (f : Nat → Option α) : Nat :=
  ((Finset.range n).filter fun i => (f i).isSome).card

theorem filled_le : filled n f ≤ n := (Finset.card_filter_le _ _).trans_eq (Finset.card_range n)

theorem filled_none : filled n (fun _ => (none : Option α)) = 0 := by simp [filled]

theorem filled_congr {β : Type} {g : Nat → Option β} (h : ∀ i, (g i).isSome = (f i).isSome) :
    filled n g = filled n f := by
  simp only [filled, h]

theorem filled_update_some (hi : i < n) (hfree : f i = none) (a : α) :
    filled n (update f i (some a)) = filled n f + 1 := by
  have hset : (Finset.range n).filter (fun j => (update f i (some a) j).isSome) =
      insert i ((Finset.range n).filter fun j => (f j).isSome) := by
    ext j
    by_cases hj : j = i <;> simp [update_apply, hj, hi]
  rw [filled, hset, Finset.card_insert_of_notMem (by simp [hfree]), filled]

theorem filled_update_none (hi : i < n) (hused : (f i).isSome) :
    filled n (update f i none) + 1 = filled n f := by
  have hset : (Finset.range n).filter (fun j => (update f i none j).isSome) =
      ((Finset.range n).filter fun j => (f j).isSome).erase i := by
    ext j
    by_cases hj : j = i <;> simp [update_apply, hj]
  rw [filled, hset]
  exact Finset.card_erase_add_one (by simp [hi, hused])

end Qatlib
