import Mathlib.Data.List.Basic
import Mathlib.Logic.Function.Basic

set_option autoImplicit false

/-! # Ordering consecutive keys with a table of residues

Entries that carry consecutive keys, found in any order, are put in order without sorting: each goes
to the slot that is its key modulo the size of the table, and the table remembers the slot of the
least key. Reading as many slots as entries were put in, from that slot on and wrapping round, gives
the entries by increasing key, provided there are no more entries than slots.

With a gap in the keys, or with more entries than slots, the reading meets empty or overwritten
slots. -/

namespace Qatlib

variable {α : Type}

/-- A table of slots with the position and key of the least entry and the number of entries. -/
structure SlotTable (α : Type) where
  size : Nat
  slot : Nat → Option α
  start : Nat
  count : Nat
  least : Option Nat

namespace SlotTable

/-- A table without entries. -/
def empty (size : Nat) : SlotTable α :=
  { size := size, slot := fun _ => none, start := 0, count := 0, least := none }

section

variable (t : SlotTable α) (a : α) (key : Nat)

/-- Put an entry with a key into the table. -/
def put : SlotTable α :=
  let t' := { t with slot := Function.update t.slot (key % t.size) (some a), count := t.count + 1 }
  if t.least.all (key < ·) then { t' with start := key % t.size, least := some key } else t'

/-- Put entries with their keys into the table, one after the other. -/
def fill (es : List (α × Nat)) : SlotTable α := es.foldl (fun t e => t.put e.1 e.2) t

/-- The slots from the least entry on. -/
def read : List (Option α) := (List.range t.count).map fun i => t.slot ((t.start + i) % t.size)

/-! ## One entry -/

@[simp] theorem put_size : (t.put a key).size = t.size := by
  unfold put
  split <;> rfl

@[simp] theorem put_count : (t.put a key).count = t.count + 1 := by
  unfold put
  split <;> rfl

theorem put_slot : (t.put a key).slot = Function.update t.slot (key % t.size) (some a) := by
  unfold put
  split <;> rfl

end

variable {t : SlotTable α} {m n key : Nat}

theorem put_of_lt (h : ∀ l ∈ t.least, key < l) (a : α) :
    (t.put a key).start = key % t.size ∧ (t.put a key).least = some key := by
  have hall : t.least.all (key < ·) = true := by
    cases hl : t.least with
    | none => rfl
    | some l => simpa using h l hl
  simp [put, hall]

theorem put_of_le (hleast : t.least = some m) (h : m ≤ key) (a : α) :
    (t.put a key).start = t.start ∧ (t.put a key).least = some m := by
  have hnot : ¬ key < m := Nat.not_lt.mpr h
  simp [put, hleast, hnot]

/-- The least key after an entry is the entry's or the one before. -/
theorem put_least {a : α} {l : Nat} (h : l ∈ (t.put a key).least) : l = key ∨ l ∈ t.least := by
  unfold put at h
  split at h
  · exact .inl (by simpa using h.symm)
  · exact .inr h

/-! ## All entries -/

variable {t : SlotTable α} {es : List (α × Nat)}

@[simp] theorem fill_cons (t : SlotTable α) (e : α × Nat) (es : List (α × Nat)) :
    t.fill (e :: es) = (t.put e.1 e.2).fill es := rfl

@[simp] theorem fill_size (t : SlotTable α) (es : List (α × Nat)) : (t.fill es).size = t.size := by
  induction es generalizing t with
  | nil => rfl
  | cons e es ih => rw [fill_cons, ih, put_size]

theorem fill_count (t : SlotTable α) (es : List (α × Nat)) :
    (t.fill es).count = t.count + es.length := by
  induction es generalizing t with
  | nil => rfl
  | cons e es ih =>
    rw [fill_cons, ih, put_count, List.length_cons]
    omega

/-- A slot that no entry goes to keeps its contents. -/
theorem fill_slot_of_forall_ne {r : Nat} (h : ∀ e ∈ es, e.2 % t.size ≠ r) :
    (t.fill es).slot r = t.slot r := by
  induction es generalizing t with
  | nil => rfl
  | cons e es ih =>
    have hrest : ∀ f ∈ es, f.2 % (t.put e.1 e.2).size ≠ r := by
      intro f hf
      rw [put_size]
      exact h f (List.mem_cons_of_mem _ hf)
    rw [fill_cons, ih hrest, put_slot]
    exact Function.update_of_ne (h e List.mem_cons_self).symm _ _

theorem fill_slot (hes : es.Pairwise fun e f => e.2 % t.size ≠ f.2 % t.size) {e : α × Nat}
    (he : e ∈ es) : (t.fill es).slot (e.2 % t.size) = some e.1 := by
  induction es generalizing t with
  | nil => exact absurd he (by simp)
  | cons f es ih =>
    obtain ⟨hf, hrest⟩ := List.pairwise_cons.mp hes
    rcases List.mem_cons.mp he with rfl | he'
    · have hne : ∀ g ∈ es, g.2 % (t.put e.1 e.2).size ≠ e.2 % t.size := by
        intro g hg
        rw [put_size]
        exact (hf g hg).symm
      rw [fill_cons, fill_slot_of_forall_ne hne, put_slot, Function.update_self]
    · have hpair : es.Pairwise fun e g => e.2 % (t.put f.1 f.2).size ≠ g.2 % (t.put f.1 f.2).size := by
        simpa using hrest
      have := ih hpair he'
      rwa [put_size] at this

/-- Once the least key is in, the start does not move. -/
theorem fill_start_of_le (hleast : t.least = some m) (h : ∀ e ∈ es, m ≤ e.2) :
    (t.fill es).start = t.start := by
  induction es generalizing t with
  | nil => rfl
  | cons e es ih =>
    obtain ⟨hstart, hleast'⟩ := put_of_le hleast (h e List.mem_cons_self) e.1
    rw [fill_cons, ih hleast' (fun f hf => h f (List.mem_cons_of_mem _ hf)), hstart]

/-- The start is the slot of the least key. -/
theorem fill_start (hleast : ∀ l ∈ t.least, m < l) (h : ∀ e ∈ es, m ≤ e.2) (hm : ∃ e ∈ es, e.2 = m) :
    (t.fill es).start = m % t.size := by
  induction es generalizing t with
  | nil => exact absurd hm (by simp)
  | cons e es ih =>
    have hrest : ∀ f ∈ es, m ≤ f.2 := fun f hf => h f (List.mem_cons_of_mem _ hf)
    rw [fill_cons]
    by_cases he : e.2 = m
    · obtain ⟨hstart, hleast'⟩ := put_of_lt (fun l hl => he ▸ hleast l hl) e.1
      rw [fill_start_of_le (he ▸ hleast') hrest, hstart, he]
    · have hlt : m < e.2 := Nat.lt_of_le_of_ne (h e List.mem_cons_self) (Ne.symm he)
      obtain ⟨f, hf, hfm⟩ := hm
      have hf' : f ∈ es := by
        rcases List.mem_cons.mp hf with rfl | hf'
        · exact absurd hfm he
        · exact hf'
      have hput : ∀ l ∈ (t.put e.1 e.2).least, m < l := by
        intro l hl
        rcases put_least hl with rfl | hl'
        · exact hlt
        · exact hleast l hl'
      rw [ih hput hrest ⟨f, hf', hfm⟩, put_size]

/-! ## Consecutive keys -/

/-- Consecutive keys, no more of them than the modulus, have different residues. -/
theorem zipIdx_pairwise_mod_ne (as : List α) (a : Nat) (h : as.length ≤ n) :
    (as.zipIdx a).Pairwise fun e f => e.2 % n ≠ f.2 % n := by
  rw [List.pairwise_iff_getElem]
  intro i j hi hj hij heq
  rw [List.length_zipIdx] at hj
  simp only [List.getElem_zipIdx] at heq
  have hmod := Nat.sub_mod_eq_zero_of_mod_eq heq.symm
  rw [Nat.add_sub_add_left, Nat.mod_eq_of_lt (by omega)] at hmod
  omega

/-- **Entries with consecutive keys are read in the order of their keys**, in whatever order they
    were put into a table with room for them. -/
theorem read_fill_of_perm {as : List α} {a : Nat} (hperm : es.Perm (as.zipIdx a))
    (hn : as.length ≤ n) : ((empty n).fill es).read = as.map some := by
  have hcount : ((empty n).fill es).count = as.length := by
    rw [fill_count, hperm.length_eq, List.length_zipIdx]
    exact Nat.zero_add _
  have hpair : es.Pairwise fun e f => e.2 % n ≠ f.2 % n :=
    (hperm.pairwise_iff fun h => h.symm).mpr (zipIdx_pairwise_mod_ne as a hn)
  refine List.ext_getElem (by simp [read, hcount]) fun i hi hi' => ?_
  rw [List.length_map] at hi'
  have hkey (j : Nat) (hj : j < as.length) : (as[j], a + j) ∈ es := by
    have hlen : j < (as.zipIdx a).length := by rwa [List.length_zipIdx]
    have hget : (as.zipIdx a)[j] = (as[j], a + j) := List.getElem_zipIdx hlen
    rw [hperm.mem_iff, ← hget]
    exact List.getElem_mem hlen
  have hstart : ((empty n).fill es).start = a % n := by
    refine fill_start (by simp [empty]) (fun e he => ?_) ⟨_, hkey 0 (by omega), rfl⟩
    exact (List.mem_zipIdx (hperm.mem_iff.mp he)).1
  simp only [read, List.getElem_map, List.getElem_range, hstart, fill_size]
  have hslot : (a % n + i) % n = (a + i) % n := Nat.mod_add_mod a n i
  exact (congrArg _ hslot).trans (fill_slot hpair (hkey i hi'))

end SlotTable

end Qatlib
