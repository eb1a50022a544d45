import Mathlib.Data.Nat.ModEq
import Mathlib.Data.List.Basic

set_option autoImplicit false

/-! # Circular buffers of fixed-size slots

A buffer of `bytes` cells is cut into slots of `size` cells. Records are numbered in the order they
are written; record `i` lives in the slot at offset `i * size` modulo the buffer. Two records share
a slot only when a whole buffer lies between them, so the records of any window shorter than the
buffer occupy disjoint regions. Memory is a function from addresses to cells, with block reads and
writes. -/

namespace Qatlib

variable {i j n len len' off off' : Nat}

/-! ## Blocks of memory -/

section Blocks

variable {α : Type}

/-- Write a block of cells. -/
def writeBlock (mem : Nat → α) (off : Nat) (data : List α) : Nat → α :=
  fun a => if off ≤ a then (data[a - off]?).getD (mem a) else mem a

/-- Read a block of cells. -/
def readBlock (mem : Nat → α) (off len : Nat) : List α :=
  (List.range len).map (fun k => mem (off + k))

/-- Two blocks without a common cell. -/
def BlocksDisjoint (off len off' len' : Nat) : Prop := off + len ≤ off' ∨ off' + len' ≤ off

section

variable (h : BlocksDisjoint off len off' len')
include h

theorem BlocksDisjoint.symm : BlocksDisjoint off' len' off len := Or.symm h

theorem BlocksDisjoint.mono_left (hn : n ≤ len) : BlocksDisjoint off n off' len' := by
  rcases h with h | h
  · exact .inl (by omega)
  · exact .inr h

theorem BlocksDisjoint.mono_right (hn : n ≤ len') : BlocksDisjoint off len off' n :=
  (h.symm.mono_left hn).symm

end

@[simp] theorem readBlock_length (mem : Nat → α) (off len : Nat) :
    (readBlock mem off len).length = len := by
  simp [readBlock]

theorem readBlock_congr {mem mem' : Nat → α} (h : ∀ k < len, mem (off + k) = mem' (off + k)) :
    readBlock mem off len = readBlock mem' off len := by
  refine List.map_congr_left fun k hk => h k ?_
  simpa using hk

theorem readBlock_writeBlock_same (mem : Nat → α) (off : Nat) (data : List α) :
    readBlock (writeBlock mem off data) off data.length = data := by
  refine List.ext_getElem (by simp) fun k hk hk' => ?_
  simp [readBlock, writeBlock, hk']

/-- Writing one block leaves a disjoint one as it was. -/
theorem readBlock_writeBlock_disjoint {mem : Nat → α} {data : List α}
    (h : BlocksDisjoint off data.length off' len) :
    readBlock (writeBlock mem off data) off' len = readBlock mem off' len := by
  refine readBlock_congr fun k hk => ?_
  unfold writeBlock
  split
  · next hle =>
    have hout : data.length ≤ off' + k - off := by
      rcases h with h | h <;> omega
    rw [List.getElem?_eq_none hout, Option.getD_none]
  · rfl

theorem take_readBlock {mem : Nat → α} (h : n ≤ len) :
    (readBlock mem off len).take n = readBlock mem off n := by
  rw [readBlock, ← List.map_take, List.take_range, Nat.min_eq_left h, readBlock]

end Blocks

/-! ## Slots -/

/-- The offset of record `i`. -/
def slotOffset (size bytes i : Nat) : Nat := i * size % bytes

@[simp] theorem slotOffset_zero (size bytes : Nat) : slotOffset size bytes 0 = 0 := by
  simp [slotOffset]

/-- Advancing an offset by one slot, with wrap-around, gives the next record's offset. -/
theorem slotOffset_succ (size bytes i : Nat) :
    (slotOffset size bytes i + size) % bytes = slotOffset size bytes (i + 1) := by
  simp only [slotOffset, Nat.mod_add_mod, Nat.add_one_mul]

section Window

variable {size bytes : Nat}

theorem slotOffset_eq_mul (hdvd : size ∣ bytes) (i : Nat) :
    slotOffset size bytes i = i % (bytes / size) * size := by
  obtain ⟨n, rfl⟩ := hdvd
  rcases Nat.eq_zero_or_pos size with hzero | hpos
  · simp [slotOffset, hzero]
  · rw [slotOffset, Nat.mul_div_cancel_left n hpos, Nat.mul_comm size n, Nat.mul_mod_mul_right]

/-- A record shares its slot with the one a whole buffer later. -/
theorem slotOffset_add_wrap (hdvd : size ∣ bytes) (i : Nat) :
    slotOffset size bytes (i + bytes / size) = slotOffset size bytes i := by
  simp only [slotOffset, Nat.add_mul, Nat.div_mul_cancel hdvd, Nat.add_mod_right]

/-- Two records of a window shorter than the buffer are in different slots. -/
theorem mod_ne_of_window (hij : i < j) (hj : j < i + n) : i % n ≠ j % n := by
  intro h
  have hdvd : n ∣ j - i := (Nat.modEq_iff_dvd' (Nat.le_of_lt hij)).mp h
  have hle := Nat.le_of_dvd (by omega) hdvd
  omega

/-- **Records of a window shorter than the buffer occupy disjoint blocks.** -/
theorem slots_disjoint (hdvd : size ∣ bytes) (hij : i < j) (hj : j < i + bytes / size) :
    BlocksDisjoint (slotOffset size bytes i) size (slotOffset size bytes j) size := by
  have hne := mod_ne_of_window hij hj
  rw [slotOffset_eq_mul hdvd, slotOffset_eq_mul hdvd]
  generalize i % (bytes / size) = a at hne ⊢
  generalize j % (bytes / size) = b at hne ⊢
  rcases Nat.lt_or_gt_of_ne hne with hab | hab
  · have h := Nat.mul_le_mul_right size hab
    rw [Nat.succ_mul] at h
    exact .inl h
  · have h := Nat.mul_le_mul_right size hab
    rw [Nat.succ_mul] at h
    exact .inr h

end Window

/-! ## Records in a buffer

A buffer that is filled in order and emptied in order holds the records from `lo` up to the number
written so far. Writing the next record and marking the oldest one keep the others, as long as the
window is no longer than the buffer. -/

section Records

variable {α : Type} {size bytes : Nat} {mem : Nat → α} {lo hi : Nat} {records : List (List α)}

/-- A reader that has seen the first records and reads the next one. -/
theorem prefix_snoc {β : Type} {seen all : List β} (h : seen <+: all)
    (hlt : seen.length < all.length) : seen ++ [all[seen.length]] <+: all := by
  have htake := List.prefix_iff_eq_take.mp h
  rw [List.prefix_iff_eq_take, List.length_append, List.length_singleton, List.take_add_one,
    ← htake, List.getElem?_eq_getElem hlt, Option.toList_some]

/-- The slots of the records from `lo` on hold those records. -/
def Holds (size bytes : Nat) (mem : Nat → α) (lo : Nat) (records : List (List α)) : Prop :=
  ∀ i (h : i < records.length), lo ≤ i → readBlock mem (slotOffset size bytes i) size = records[i]

/-- The slots from `lo` up to `hi` start with a mark. -/
def Marked (size bytes : Nat) (mem : Nat → α) (mark : List α) (lo hi : Nat) : Prop :=
  ∀ i, lo ≤ i → i < hi → readBlock mem (slotOffset size bytes i) mark.length = mark

section

variable (h : Holds size bytes mem lo records)
include h

theorem Holds.mono {lo' : Nat} (hle : lo ≤ lo') : Holds size bytes mem lo' records :=
  fun i hi hlo => h i hi (Nat.le_trans hle hlo)

theorem Holds.push (hdvd : size ∣ bytes) {r : List α} (hr : r.length = size)
    (hlen : records.length < lo + bytes / size) :
    Holds size bytes (writeBlock mem (slotOffset size bytes records.length) r) lo
      (records ++ [r]) := by
  intro i hi hlo
  rcases Nat.lt_or_ge i records.length with hold | hnew
  · have hdis := slots_disjoint hdvd hold (by omega)
    rw [readBlock_writeBlock_disjoint (hr ▸ hdis.symm), h i hold hlo, List.getElem_append_left hold]
  · have hi' : i = records.length := by simp at hi; omega
    subst hi'
    simp [← hr, readBlock_writeBlock_same]

theorem Holds.mark (hdvd : size ∣ bytes) {mark : List α} (hmark : mark.length ≤ size)
    (hlen : records.length ≤ lo + bytes / size) :
    Holds size bytes (writeBlock mem (slotOffset size bytes lo) mark) (lo + 1) records := by
  intro i hi hlo
  have hdis := slots_disjoint hdvd (show lo < i by omega) (by omega)
  rw [readBlock_writeBlock_disjoint (hdis.mono_left hmark), h i hi (by omega)]

end

theorem Marked.push {mark : List α} (h : Marked size bytes mem mark lo hi) (hdvd : size ∣ bytes)
    (hmark : mark.length ≤ size) {r : List α} (hr : r.length = size)
    (hlen : hi ≤ lo + bytes / size) :
    Marked size bytes (writeBlock mem (slotOffset size bytes lo) r) mark (lo + 1) hi := by
  intro i hlo hi'
  have hdis := slots_disjoint hdvd (show lo < i by omega) (by omega)
  rw [readBlock_writeBlock_disjoint (hr ▸ hdis.mono_right hmark), h i (by omega) hi']

theorem Marked.mark {mark : List α} (h : Marked size bytes mem mark lo (hi + bytes / size))
    (hdvd : size ∣ bytes) (hmark : mark.length ≤ size) (hlo : hi < lo) :
    Marked size bytes (writeBlock mem (slotOffset size bytes hi) mark) mark lo
      (hi + 1 + bytes / size) := by
  intro i hi₁ hi₂
  rcases Nat.lt_or_ge i (hi + bytes / size) with hold | hnew
  · have hdis := slots_disjoint hdvd (show hi < i by omega) hold
    rw [readBlock_writeBlock_disjoint ((hdis.mono_left hmark).mono_right hmark), h i hi₁ hold]
  · have hslot : i = hi + bytes / size := by omega
    rw [hslot, slotOffset_add_wrap hdvd, readBlock_writeBlock_same]

end Records

end Qatlib
