import Mathlib.Data.List.Perm.Subperm
import Qatlib.Usdm.Allocator

set_option autoImplicit false

/-! # The lists a slab is on

The linked lists and the hash table of the allocator against the slabs that exist: every slab is on
one of the three lists, or held by the call in progress, and on the chain of its key. The edits of
the lists are those of `Qatlib.Lib.DList`; what is said here is which slab goes where. -/

namespace Qatlib.Usdm

open Function

/-- The pointers describe the lists `L`; `d` is a slab that the call in progress holds. -/
structure Listed (s : Allocator) (L : ListKind → List Nat) (d : Option Nat) : Prop where
  lists : IsDLists s.user s.lists L
  /-- The chain of a key holds exactly the slabs with that key. -/
  hash : ∃ H : Nat → List Nat, IsDLists s.hash s.slabList H ∧
    ∀ key a, a ∈ H key ↔ a ∈ s.existing ∧ getKey (s.info a).phyAddr = key
  nodup : s.existing.Nodup
  mem : ∀ a, a ∈ s.existing ↔ (∃ k, a ∈ L k) ∨ d = some a
  detached : ∀ a, d = some a → ∀ k, a ∉ L k

section Lists

variable {s s' : Allocator} {L : ListKind → List Nat} {d : Option Nat}

variable {a : Nat} {k : ListKind}

theorem Listed.mem_of_list (h : Listed s L d) (ha : a ∈ L k) : a ∈ s.existing :=
  (h.mem a).mpr (.inl ⟨k, ha⟩)

theorem Listed.slabs (h : Listed s L d) (k : ListKind) : s.slabs k = L k := by
  have hsub : L k ⊆ s.existing := fun a ha => h.mem_of_list ha
  exact (h.lists.list k).walk (((h.lists.list k).nodup.subperm hsub).length_le)

theorem Listed.congr (h : Listed s L d) (huser : s'.user = s.user) (hlists : s'.lists = s.lists)
    (hhash : s'.hash = s.hash) (hslab : s'.slabList = s.slabList) (hex : s'.existing = s.existing)
    (hphy : ∀ a ∈ s.existing, (s'.info a).phyAddr = (s.info a).phyAddr) : Listed s' L d := by
  obtain ⟨H, hH, hmem⟩ := h.hash
  refine ⟨by rw [huser, hlists]; exact h.lists, ⟨H, by rw [hhash, hslab]; exact hH, ?_⟩,
    by rw [hex]; exact h.nodup, by rw [hex]; exact h.mem, h.detached⟩
  intro key a
  rw [hmem, hex]
  exact and_congr_right fun ha => by rw [hphy a ha]

theorem Listed.attach (h : Listed s L (some a)) (k : ListKind) :
    Listed (s.attach k a) (update L k (a :: L k)) none := by
  refine ⟨h.lists.add k (h.detached a rfl), h.hash, h.nodup, ?_, by simp⟩
  intro b
  rw [show (s.attach k a).existing = s.existing from rfl, h.mem b]
  simp [mem_update_cons, exists_or, or_comm, eq_comm (a := a)]

theorem Listed.detach (h : Listed s L none) (ha : a ∈ L k) :
    Listed (s.detach k a) (update L k ((L k).erase a)) (some a) := by
  refine ⟨h.lists.remove ha, h.hash, h.nodup, fun b => ?_, ?_⟩
  · rw [show (s.detach k a).existing = s.existing from rfl, h.mem b]
    rcases eq_or_ne b a with rfl | hne
    · exact iff_of_true (.inl ⟨k, ha⟩) (.inr rfl)
    · simp [h.lists.mem_update_erase ha, hne, hne.symm]
  · rintro b ⟨⟩ k' hmem
    exact ((h.lists.mem_update_erase ha).mp hmem).1 rfl

theorem Listed.freeSlab (h : Listed s L (some a)) (unmapOk : Bool) :
    Listed (s.freeSlab unmapOk a) L none := by
  obtain ⟨H, hH, hmem⟩ := h.hash
  have ha : a ∈ s.existing := (h.mem a).mpr (.inr rfl)
  have hchain : a ∈ H (getKey (s.info a).phyAddr) := (hmem _ _).mpr ⟨ha, rfl⟩
  have herase : ∀ b, b ∈ s.existing.erase a ↔ b ≠ a ∧ b ∈ s.existing := fun b =>
    h.nodup.mem_erase_iff
  refine ⟨h.lists, ⟨_, hH.remove hchain, ?_⟩, h.nodup.erase a, ?_, by simp⟩
  · intro key b
    show _ ↔ b ∈ s.existing.erase a ∧ getKey (s.info b).phyAddr = key
    rw [herase, hH.mem_update_erase hchain, hmem, and_assoc]
  · intro b
    show b ∈ s.existing.erase a ↔ _
    rw [herase, h.mem b]
    rcases eq_or_ne b a with rfl | hne
    · simpa using h.detached b rfl
    · simp [hne, hne.symm]

theorem Listed.create (h : Listed s L none) (ha : a ∉ s.existing)
    (hphy : ∀ b ∈ s.existing, (s'.info b).phyAddr = (s.info b).phyAddr) (huser : s'.user = s.user)
    (hlists : s'.lists = s.lists) (hhash : s'.hash = s.hash) (hslab : s'.slabList = s.slabList)
    (hex : s'.existing = a :: s.existing) : Listed (s'.addSlabToHash a) L (some a) := by
  obtain ⟨H, hH, hmem⟩ := h.hash
  have hnew : ∀ key, a ∉ H key := fun key hin => ha ((hmem key a).mp hin).1
  have hadd := hH.add (getKey (s'.info a).phyAddr) hnew
  rw [← hhash, ← hslab] at hadd
  refine ⟨?_, ⟨_, hadd, ?_⟩, ?_, ?_, ?_⟩
  · show IsDLists s'.user s'.lists L
    rw [huser, hlists]
    exact h.lists
  · intro key b
    show _ ↔ b ∈ s'.existing ∧ getKey (s'.info b).phyAddr = key
    rw [hex, mem_update_cons, hmem, List.mem_cons]
    rcases eq_or_ne b a with rfl | hne
    · simp [ha, eq_comm]
    · simp only [hne, and_false, false_or]
      exact and_congr_right fun hb => by rw [hphy b hb]
  · show s'.existing.Nodup
    rw [hex]
    exact List.nodup_cons.mpr ⟨ha, h.nodup⟩
  · intro b
    show b ∈ s'.existing ↔ _
    rw [hex, List.mem_cons, h.mem b]
    simp [or_comm, eq_comm (a := a)]
  · intro b hb k hin
    cases hb
    exact ha (h.mem_of_list hin)

theorem Listed.of_empty (hex : s.existing = []) (hlists : s.lists = fun _ => Ends.empty)
    (hslab : s.slabList = fun _ => Ends.empty) : Listed s (fun _ => []) none := by
  refine ⟨by rw [hlists]; exact IsDLists.empty s.user,
    ⟨fun _ => [], by rw [hslab]; exact IsDLists.empty s.hash, ?_⟩, by rw [hex]; exact List.nodup_nil,
    ?_, by simp⟩
  · intro key a
    simp [hex]
  · intro a
    simp [hex]

theorem Listed.empty (h : Listed s L d) (hex : s.existing = []) (k : ListKind) : L k = [] := by
  refine List.eq_nil_iff_forall_not_mem.mpr fun a ha => ?_
  have hmem := h.mem_of_list ha
  rw [hex] at hmem
  exact absurd hmem List.not_mem_nil

end Lists

end Qatlib.Usdm
