import Mathlib.Data.List.Basic

set_option autoImplicit false

/-! # Applying a step to each element until it fails

A step that may fail is applied to the elements of a list one after the other. The first failure ends
the pass: the element it happened at keeps what the step did to it, and those behind it stay as they
are. -/

namespace Qatlib

variable {α : Type} {f : α → Bool × α} {x : α} {xs : List α}

/-- Apply a step to each element, up to the first failure. -/
def tryEach (f : α → Bool × α) : List α → Bool × List α
  | [] => (true, [])
  | x :: xs =>
      if (f x).1 then ((tryEach f xs).1, (f x).2 :: (tryEach f xs).2) else (false, (f x).2 :: xs)

theorem tryEach_cons_of_true (h : (f x).1 = true) :
    tryEach f (x :: xs) = ((tryEach f xs).1, (f x).2 :: (tryEach f xs).2) := by
  rw [tryEach, if_pos h]

theorem tryEach_cons_of_false (h : (f x).1 = false) :
    tryEach f (x :: xs) = (false, (f x).2 :: xs) := by
  rw [tryEach, if_neg (by simp [h])]

/-- The step is always applied to the first element. -/
theorem tryEach_cons_snd (f : α → Bool × α) (x : α) (xs : List α) :
    ∃ ys, (tryEach f (x :: xs)).2 = (f x).2 :: ys := by
  cases h : (f x).1 with
  | false => exact ⟨xs, by rw [tryEach_cons_of_false h]⟩
  | true => exact ⟨(tryEach f xs).2, by rw [tryEach_cons_of_true h]⟩

theorem tryEach_eq_map {g : α → α} (h : ∀ x ∈ xs, f x = (true, g x)) :
    tryEach f xs = (true, xs.map g) := by
  induction xs with
  | nil => rfl
  | cons x xs ih =>
    obtain ⟨hx, hxs⟩ := List.forall_mem_cons.mp h
    rw [tryEach_cons_of_true (by rw [hx]), ih hxs, hx, List.map_cons]

/-- A pass that fails at once leaves the list alone if the step does. -/
theorem tryEach_of_refused (h : ∀ x ∈ xs, f x = (false, x)) : (tryEach f xs).2 = xs := by
  cases xs with
  | nil => rfl
  | cons x xs =>
    have hx := h x List.mem_cons_self
    rw [tryEach_cons_of_false (by rw [hx]), hx]

end Qatlib
