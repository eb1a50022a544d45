import Mathlib.Logic.Function.Basic
import Mathlib.Data.Option.Basic

set_option autoImplicit false

/-! # Radix trees

A tree of fixed depth: the tables of the lowest level hold values, the others hold tables of the level
below, which are allocated when a value is stored under them. An allocation may fail, and then the
store stops there. A key selects an index for every level. -/

namespace Qatlib

/-- The tables of a level. -/
def RadixTree (ι α : Type) : Nat → Type
  | 0 => ι → α
  | n + 1 => ι → Option (RadixTree ι α n)

namespace RadixTree

variable {ι α : Type}

/-- The value at an index of a table of the lowest level. -/
def value (t : RadixTree ι α 0) (i : ι) : α := t i

/-- The table at an index of a table of a higher level. -/
def child {n : Nat} (t : RadixTree ι α (n + 1)) (i : ι) : Option (RadixTree ι α n) := t i

/-- A table as it is allocated. -/
def fresh (zero : α) : (n : Nat) → RadixTree ι α n
  | 0 => fun _ => zero
  | _ + 1 => fun _ => none

/-- The value stored under a key, if the tables down to it exist. -/
def load : (n : Nat) → RadixTree ι α n → (Nat → ι) → Option α
  | 0, t, k => some (t.value (k 0))
  | n + 1, t, k => (t.child (k (n + 1))).bind fun t' => load n t' k

theorem load_fresh (zero : α) (n : Nat) (k : Nat → ι) :
    load n (fresh zero n) k = none ∨ load n (fresh zero n) k = some zero := by
  cases n with
  | zero => exact .inr rfl
  | succ n => exact .inl rfl

section Store

variable [DecidableEq ι]

/-- Replace a value. -/
def setValue (t : RadixTree ι α 0) (i : ι) (a : α) : RadixTree ι α 0 :=
  fun j => if j = i then a else t.value j

/-- Replace a table. -/
def setChild {n : Nat} (t : RadixTree ι α (n + 1)) (i : ι) (c : RadixTree ι α n) :
    RadixTree ι α (n + 1) :=
  fun j => if j = i then some c else t.child j

theorem value_setValue (t : RadixTree ι α 0) (i j : ι) (a : α) :
    (t.setValue i a).value j = if j = i then a else t.value j := rfl

variable {n : Nat} {k' : Nat → ι}

theorem child_setChild (t : RadixTree ι α (n + 1)) (i j : ι) (c : RadixTree ι α n) :
    (t.setChild i c).child j = if j = i then some c else t.child j := rfl

/-- Store a value; `ok n` tells whether a missing table of level `n` can be allocated. -/
def store (zero : α) (ok : Nat → Bool) (k : Nat → ι) (a : α) :
    (n : Nat) → RadixTree ι α n → RadixTree ι α n
  | 0, t => t.setValue (k 0) a
  | n + 1, t =>
      match t.child (k (n + 1)) with
      | some t' => t.setChild (k (n + 1)) (store zero ok k a n t')
      | none => if ok n then t.setChild (k (n + 1)) (store zero ok k a n (fresh zero n)) else t

/-- A store into a table either stops there or goes on in the table at the key's index. -/
theorem store_succ (zero : α) (ok : Nat → Bool) (k : Nat → ι) (a : α) (t : RadixTree ι α (n + 1)) :
    (t.child (k (n + 1)) = none ∧ ok n = false ∧ store zero ok k a (n + 1) t = t) ∨
      ∃ t', (t.child (k (n + 1)) = some t' ∨ t.child (k (n + 1)) = none ∧ t' = fresh zero n) ∧
        store zero ok k a (n + 1) t = t.setChild (k (n + 1)) (store zero ok k a n t') := by
  rw [store]
  cases hchild : t.child (k (n + 1)) with
  | some t' => exact .inr ⟨t', .inl rfl, rfl⟩
  | none =>
    cases hok : ok n with
    | true => exact .inr ⟨fresh zero n, .inr ⟨rfl, rfl⟩, if_pos rfl⟩
    | false => exact .inl ⟨rfl, rfl, if_neg (by simp)⟩

variable {zero : α} {ok : Nat → Bool} {k : Nat → ι} {a : α}

/-- **A stored value is found**, when the tables above it could be allocated. -/
theorem load_store_same (hok : ∀ n, ok n = true) (n : Nat) (t : RadixTree ι α n) :
    load n (store zero ok k a n t) k = some a := by
  induction n with
  | zero => rw [store, load, value_setValue, if_pos rfl]
  | succ n ih =>
    rcases store_succ zero ok k a t with ⟨-, hno, -⟩ | ⟨t', -, heq⟩
    · rw [hok n] at hno
      exact absurd hno (by simp)
    · rw [heq, load, child_setChild, if_pos rfl, Option.bind_some]
      exact ih t'

/-- **Other keys keep their values**; where nothing could be loaded, a table full of `zero` may have
    appeared. -/
theorem load_store_other (t : RadixTree ι α n) (hne : ∃ i ≤ n, k' i ≠ k i) :
    load n (store zero ok k a n t) k' = load n t k' ∨
      (load n t k' = none ∧ load n (store zero ok k a n t) k' = some zero) := by
  induction n with
  | zero =>
    obtain ⟨i, hi, hki⟩ := hne
    obtain rfl : i = 0 := by omega
    rw [store, load, load, value_setValue, if_neg hki]
    exact .inl rfl
  | succ n ih =>
    rcases store_succ zero ok k a t with ⟨-, -, heq⟩ | ⟨t', hchild, heq⟩
    · rw [heq]
      exact .inl rfl
    · rw [heq, load, load, child_setChild]
      by_cases htop : k' (n + 1) = k (n + 1)
      · -- the keys part further down
        have hlow : ∃ i ≤ n, k' i ≠ k i := by
          obtain ⟨i, hi, hki⟩ := hne
          have hi' : i ≠ n + 1 := by
            rintro rfl
            exact hki htop
          exact ⟨i, by omega, hki⟩
        rw [if_pos htop, htop, Option.bind_some]
        rcases hchild with hchild | ⟨hchild, rfl⟩
        · rw [hchild, Option.bind_some]
          exact ih t' hlow
        · rw [hchild, Option.bind_none]
          rcases ih (fresh zero n) hlow with hsame | ⟨-, hzero⟩
          · rw [hsame]
            exact (load_fresh zero n k').imp id fun hz => ⟨rfl, hz⟩
          · exact .inr ⟨rfl, hzero⟩
      · rw [if_neg htop]
        exact .inl rfl

/-- **Keys under another table of the lowest level keep their values.** -/
theorem load_store_apart (t : RadixTree ι α n) (hne : ∃ i, 1 ≤ i ∧ i ≤ n ∧ k' i ≠ k i) :
    load n (store zero ok k a n t) k' = load n t k' := by
  induction n with
  | zero =>
    obtain ⟨i, hi, hi', -⟩ := hne
    omega
  | succ n ih =>
    rcases store_succ zero ok k a t with ⟨-, -, heq⟩ | ⟨t', hchild, heq⟩
    · rw [heq]
    · rw [heq, load, load, child_setChild]
      by_cases htop : k' (n + 1) = k (n + 1)
      · obtain ⟨i, hi, hi', hki⟩ := hne
        have hlow : i ≤ n := by
          rcases Nat.lt_or_ge n i with hgt | hle
          · obtain rfl : i = n + 1 := by omega
            exact absurd htop hki
          · exact hle
        rw [if_pos htop, htop, Option.bind_some, ih t' ⟨i, hi, hlow, hki⟩]
        rcases hchild with hchild | ⟨hchild, rfl⟩
        · rw [hchild, Option.bind_some]
        · -- a table that is not of the lowest level is allocated empty
          obtain ⟨m, rfl⟩ : ∃ m, n = m + 1 := ⟨n - 1, by omega⟩
          rw [hchild]
          rfl
      · rw [if_neg htop]

/-- **Keys under the same table of the lowest level** are found after the store, if only as `zero`. -/
theorem load_store_sibling (hok : ∀ n, ok n = true) (t : RadixTree ι α n)
    (hsame : ∀ i, 1 ≤ i → i ≤ n → k' i = k i) (hne : k' 0 ≠ k 0) :
    load n (store zero ok k a n t) k' = some ((load n t k').getD zero) := by
  induction n with
  | zero =>
    rw [store, load, load, value_setValue, if_neg hne]
    rfl
  | succ n ih =>
    have htop := hsame (n + 1) (by omega) (Nat.le_refl _)
    have hlow : ∀ i, 1 ≤ i → i ≤ n → k' i = k i := fun i hi hin => hsame i hi (by omega)
    rcases store_succ zero ok k a t with ⟨-, hno, -⟩ | ⟨t', hchild, heq⟩
    · rw [hok n] at hno
      exact absurd hno (by simp)
    · rw [heq, load, load, child_setChild, if_pos htop, htop, Option.bind_some, ih t' hlow]
      rcases hchild with hchild | ⟨hchild, rfl⟩
      · rw [hchild, Option.bind_some]
      · rw [hchild, Option.bind_none]
        rcases load_fresh zero n k' with hnone | hzero
        · rw [hnone]
        · rw [hzero]
          rfl

theorem load_store_other_some {t : RadixTree ι α n} (hne : ∃ i ≤ n, k' i ≠ k i) {b : α}
    (h : load n t k' = some b) : load n (store zero ok k a n t) k' = some b := by
  rcases load_store_other t hne with heq | ⟨hnone, -⟩
  · exact heq.trans h
  · exact absurd (hnone.symm.trans h) (by simp)

end Store

end RadixTree

end Qatlib
