import Mathlib.Data.List.Range
import Mathlib.Logic.Function.Basic
import Qatlib.Lib.Partition

set_option autoImplicit false

/-! # Memory pools

The pools of cookies and buffers (`lac_mem_pools.c`): a stack of free blocks, the number of blocks
on it, and for each block whether it is in use and a mark, which for some pools is the sequence
number with which its request was put on the ring. A pool that is not active gives no entry
(`NULL`), an empty one the value `CPA_STATUS_RETRY`.

Blocks are numbered in the order of `trackBlks`. The lock-free stack is a list, each `push` and `pop`
one step. -/

namespace Qatlib.Utils

/-- The part of `lac_mem_blk_t` that changes. -/
structure MemBlk where
  isInUse : Bool
  /-- `ICP_ADF_INVALID_SEND_SEQ` is `none`. -/
  opaqueSeq : Option Nat

/-- `lac_mem_pool_hdr_t`. -/
structure MemPool where
  numElementsInPool : Nat
  /-- From the top. -/
  stack : List Nat
  availBlks : Nat
  blk : Nat → MemBlk
  active : Bool
  /-- Reaches 0 with the first `Lac_MemPoolTestAndGet` after the pool was enabled. -/
  sync : Int

/-- What `Lac_MemPoolEntryAlloc` returns. -/
inductive EntryAlloc where
  | null
  | retry
  | entry (b : Nat)
deriving DecidableEq

/-- The entry, if there is one. -/
def EntryAlloc.toList : EntryAlloc → List Nat
  | .entry b => [b]
  | _ => []

namespace MemPool

section

variable (p : MemPool)

/-- Changes a block. -/
def setBlk (b : Nat) (f : MemBlk → MemBlk) : MemPool :=
  { p with blk := Function.update p.blk b (f (p.blk b)) }

/-- `LAC_MEM_POOL_BLK_SET_OPAQUE`. -/
def setOpaque (b : Nat) (seq : Option Nat) : MemPool := p.setBlk b ({ · with opaqueSeq := seq })

/-- `Lac_MemPoolEntryAlloc`. -/
def entryAlloc : EntryAlloc × MemPool :=
  if p.active then
    match p.stack with
    | [] => (.retry, p)
    | b :: rest =>
      (.entry b, { p with stack := rest, availBlks := p.availBlks - 1 }.setBlk b
        ({ · with isInUse := true }))
  else (.null, p)

/-- `Lac_MemPoolEntryFree`. -/
def entryFree (b : Nat) : MemPool :=
  { p with stack := b :: p.stack, availBlks := p.availBlks + 1 }.setBlk b
    ({ · with isInUse := false })

/-- `Lac_MemPoolEnable`. -/
def enable : MemPool := { p with active := true, sync := 1 }

/-- `Lac_MemPoolDisable`. -/
def disable : MemPool := { p with active := false }

/-- The loop of `Lac_MemPoolInitDcCookies` and `Lac_MemPoolInitAsymCookies` over the marks. -/
def initCookies : MemPool := { p with blk := fun b => { p.blk b with opaqueSeq := none } }

/-- A pool after `Lac_MemPoolCreate` with so many elements, and the marks that the service sets. -/
def create (n : Nat) : MemPool :=
  { numElementsInPool := n
    stack := (List.range n).reverse
    availBlks := n
    blk := fun _ => { isInUse := false, opaqueSeq := none }
    active := true
    sync := 1 }

/-! ## Marks and flags

Allocating and freeing leave the marks alone, and whether the pool is enabled. -/

@[simp] theorem entryFree_opaqueSeq (b c : Nat) :
    ((p.entryFree b).blk c).opaqueSeq = (p.blk c).opaqueSeq := by
  by_cases h : c = b <;> simp [entryFree, setBlk, h]

@[simp] theorem setOpaque_opaqueSeq_self (b : Nat) (seq : Option Nat) :
    ((p.setOpaque b seq).blk b).opaqueSeq = seq := by
  simp [setOpaque, setBlk]

end

variable {b c : Nat} {p p' : MemPool} {r : EntryAlloc}

theorem setOpaque_opaqueSeq_of_ne (p : MemPool) (h : c ≠ b) (seq : Option Nat) :
    ((p.setOpaque b seq).blk c).opaqueSeq = (p.blk c).opaqueSeq := by
  simp [setOpaque, setBlk, h]

theorem entryAlloc_entry (he : p.entryAlloc = (.entry b, p')) :
    p.active = true ∧ p'.active = true ∧ p'.sync = p.sync ∧
      ∀ c, (p'.blk c).opaqueSeq = (p.blk c).opaqueSeq := by
  unfold entryAlloc at he
  split at he
  · next hactive =>
    split at he
    · exact absurd he (by simp)
    · next b' rest hstack =>
      simp only [Prod.mk.injEq, EntryAlloc.entry.injEq] at he
      obtain ⟨rfl, rfl⟩ := he
      refine ⟨hactive, hactive, rfl, fun c => ?_⟩
      by_cases hc : c = b' <;> simp [setBlk, hc]
  · exact absurd he (by simp)

theorem foldl_entryFree_enabled (bs : List Nat) (p : MemPool) :
    (bs.foldl entryFree p).active = p.active ∧ (bs.foldl entryFree p).sync = p.sync := by
  induction bs generalizing p with
  | nil => exact ⟨rfl, rfl⟩
  | cons b bs ih => exact ih (p.entryFree b)

theorem entryFree_blk_of_ne (p : MemPool) (h : c ≠ b) : (p.entryFree b).blk c = p.blk c :=
  Function.update_of_ne h _ _

/-! ## Accounting -/

/-- The pool is in order and exactly these blocks are handed out. -/
structure Accounts (p : MemPool) (held : List Nat) : Prop where
  partition : Partition p.stack held (List.range p.numElementsInPool)
  avail : p.availBlks = p.stack.length
  inUse : ∀ b < p.numElementsInPool, (p.blk b).isInUse = true ↔ b ∈ held

namespace Accounts

variable {p p' : MemPool} {held held' : List Nat} {b : Nat}

theorem create (n : Nat) : Accounts (MemPool.create n) [] where
  partition := Partition.full (List.reverse_perm _) List.nodup_range
  avail := by simp [MemPool.create]
  inUse := by simp [MemPool.create]

theorem congr (h : Accounts p held) (hp : held.Perm held') : Accounts p held' :=
  ⟨h.partition.congr hp, h.avail, fun b hb => (h.inUse b hb).trans hp.mem_iff⟩

theorem lt (h : Accounts p held) (hb : b ∈ held) : b < p.numElementsInPool :=
  List.mem_range.mp (h.partition.mem_iff.mpr (.inr hb))

theorem entryAlloc (h : Accounts p held) (he : p.entryAlloc = (.entry b, p')) :
    Accounts p' (b :: held) := by
  unfold MemPool.entryAlloc at he
  split at he
  · split at he
    · exact absurd he (by simp)
    · next b' rest hstack =>
      simp only [Prod.mk.injEq, EntryAlloc.entry.injEq] at he
      obtain ⟨rfl, rfl⟩ := he
      have hpart := h.partition
      rw [hstack] at hpart
      refine ⟨hpart.take, ?_, fun c hc => ?_⟩
      · have hav := h.avail
        rw [hstack, List.length_cons] at hav
        simp only [setBlk]
        omega
      · by_cases hcb : c = b'
        · simp [setBlk, hcb]
        · simpa [setBlk, hcb] using h.inUse c hc
  · exact absurd he (by simp)

theorem entryAlloc_none (he : p.entryAlloc = (r, p')) (hr : r.toList = []) : p' = p := by
  unfold MemPool.entryAlloc at he
  split at he
  · split at he
    · exact ((Prod.mk.inj he).2).symm
    · simp only [Prod.mk.injEq] at he
      rw [← he.1] at hr
      exact absurd hr (by simp [EntryAlloc.toList])
  · exact ((Prod.mk.inj he).2).symm

theorem alloc (h : Accounts p held) (he : p.entryAlloc = (r, p')) :
    Accounts p' (r.toList ++ held) := by
  cases r with
  | entry b => exact h.entryAlloc he
  | null =>
    rw [entryAlloc_none he rfl]
    exact h
  | retry =>
    rw [entryAlloc_none he rfl]
    exact h

theorem entryFree (h : Accounts p (b :: held)) : Accounts (p.entryFree b) held where
  partition := h.partition.give
  avail := congrArg (· + 1) h.avail
  inUse c hc := by
    have hnot : b ∉ held := (List.nodup_cons.mp h.partition.held_nodup).1
    by_cases hcb : c = b
    · simp [MemPool.entryFree, setBlk, hcb, hnot]
    · simpa [MemPool.entryFree, setBlk, hcb] using h.inUse c hc

theorem foldl_entryFree {bs : List Nat} (h : Accounts p (bs ++ held)) :
    Accounts (bs.foldl MemPool.entryFree p) held := by
  induction bs generalizing p with
  | nil => exact h
  | cons b bs ih => exact ih h.entryFree

theorem setOpaque (h : Accounts p held) (b : Nat) (seq : Option Nat) :
    Accounts (p.setOpaque b seq) held where
  partition := h.partition
  avail := h.avail
  inUse c hc := by
    by_cases hcb : c = b
    · subst hcb
      simpa [MemPool.setOpaque, setBlk] using h.inUse c hc
    · simpa [MemPool.setOpaque, setBlk, hcb] using h.inUse c hc

end Accounts

end MemPool

end Qatlib.Utils
