import Mathlib.Data.List.Nodup
import Mathlib.Data.List.Perm.Basic

set_option autoImplicit false

/-! # Free and held entries

A pool hands out entries from a stack of free ones and takes them back. What it must keep is that
every entry is free or held, and only one of the two, once. `Partition free held all` says so for
lists, up to the order: taking an entry moves it from the front of the free ones to the held ones,
giving it back moves it the other way, and a permutation of the held ones changes nothing. -/

namespace Qatlib

variable {α : Type}

/-- The entries `all` are each in one of two lists, once. -/
structure Partition (free held all : List α) : Prop where
  perm : (free ++ held).Perm all
  nodup : all.Nodup

namespace Partition

variable {free held held' all : List α} {e : α}

theorem full (h : free.Perm all) (hall : all.Nodup) : Partition free [] all :=
  ⟨by simpa using h, hall⟩

theorem take (h : Partition (e :: free) held all) : Partition free (e :: held) all :=
  ⟨List.perm_middle.trans h.perm, h.nodup⟩

theorem give (h : Partition free (e :: held) all) : Partition (e :: free) held all :=
  ⟨List.perm_middle.symm.trans h.perm, h.nodup⟩

section

variable (h : Partition free held all)
include h

theorem congr (hp : held.Perm held') : Partition free held' all :=
  ⟨(hp.symm.append_left free).trans h.perm, h.nodup⟩

theorem nodup_append : (free ++ held).Nodup := h.perm.nodup_iff.mpr h.nodup

theorem held_nodup : held.Nodup := h.nodup_append.of_append_right

theorem free_nodup : free.Nodup := h.nodup_append.of_append_left

theorem mem_iff : e ∈ all ↔ e ∈ free ∨ e ∈ held := by rw [← h.perm.mem_iff, List.mem_append]

theorem length_eq : free.length + held.length = all.length := by
  rw [← List.length_append, h.perm.length_eq]

end

end Partition

end Qatlib
