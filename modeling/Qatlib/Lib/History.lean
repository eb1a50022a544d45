import Mathlib.Data.List.Basic

set_option autoImplicit false

/-! # Histories

A history is a list of records, the oldest first. What a history has to satisfy is often a condition
on each record and the records before it; such a condition is checked once, when the record is
added. -/

namespace Qatlib

variable {α : Type}

/-- Each record of the history meets a condition on it and the records before it. -/
def EachAfter (P : List α → α → Prop) (history : List α) : Prop :=
  ∀ pre x post, history = pre ++ x :: post → P pre x

theorem eachAfter_nil (P : List α → α → Prop) : EachAfter P [] := by
  intro pre x post h
  exact absurd h (by simp)

/-- **A record is added.** -/
theorem EachAfter.snoc {P : List α → α → Prop} {history : List α} (h : EachAfter P history) {r : α}
    (hr : P history r) : EachAfter P (history ++ [r]) := by
  intro pre x post heq
  rcases List.eq_nil_or_concat post with rfl | ⟨post, last, rfl⟩
  · obtain ⟨rfl, hx⟩ := List.append_inj' heq rfl
    obtain rfl := (List.cons.inj hx).1
    exact hr
  · rw [List.concat_eq_append, ← List.cons_append, ← List.append_assoc] at heq
    exact h pre x post (List.append_inj' heq rfl).1

end Qatlib
