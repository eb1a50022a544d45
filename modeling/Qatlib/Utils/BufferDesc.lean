import Mathlib.Algebra.BigOperators.Group.List.Basic
import Mathlib.Algebra.Ring.Nat
import Qatlib.Api

set_option autoImplicit false

/-! # Buffer lists

The data of a request is a list of flat buffers (`CpaBufferList`), and a position in it is a position
in the concatenation of the buffers. `LacBuffDesc_BufferListZeroFromOffset` clears the bytes from a
position on, when the result of a request must not be seen.

The walk over the list adds a length to a position in 32 bits. When the sum wraps around, the bytes
behind the buffer are cleared instead of those of the next buffers. -/

namespace Qatlib

open FlatBuffer

variable {i : Nat} {p : FlatBuffer × Nat}

namespace FlatBuffer

/-- The length of the concatenation. -/
def total (bufs : List FlatBuffer) : Nat := (bufs.map len).sum

/-- The concatenation of the buffers. -/
def contents (m : Memory) (bufs : List FlatBuffer) : List UInt8 := bufs.flatMap fun b => b.bytes m

/-- The buffer of a position in the concatenation, and the position in it. -/
def locate : List FlatBuffer → Nat → Option (FlatBuffer × Nat)
  | [], _ => none
  | b :: bufs, i => if i < b.len then some (b, i) else locate bufs (i - b.len)

/-- The address of a position in the concatenation. -/
def address (bufs : List FlatBuffer) (i : Nat) : Option Nat :=
  (locate bufs i).map fun p => p.1.pData + p.2

/-- The addresses of a range of positions. -/
def addresses (bufs : List FlatBuffer) (lo hi : Nat) : Set Nat :=
  {a | ∃ i, lo ≤ i ∧ i < hi ∧ address bufs i = some a}

variable {b : FlatBuffer} {bufs : List FlatBuffer} {lo hi : Nat}

@[simp] theorem total_cons : total (b :: bufs) = b.len + total bufs := by simp [total]

theorem contents_cons {m : Memory} :
    contents m (b :: bufs) = m.read b.pData b.len ++ contents m bufs :=
  List.flatMap_cons

@[simp] theorem length_contents (m : Memory) (bufs : List FlatBuffer) :
    (contents m bufs).length = total bufs := by
  simp [contents, total, List.length_flatMap]

theorem address_cons_of_lt (h : i < b.len) : address (b :: bufs) i = some (b.pData + i) := by
  simp [address, locate, h]

theorem address_cons_of_le (h : b.len ≤ i) : address (b :: bufs) i = address bufs (i - b.len) := by
  simp [address, locate, Nat.not_lt.mpr h]

theorem locate_lt (h : p ∈ locate bufs i) : p.2 < p.1.len := by
  induction bufs generalizing i with
  | nil => cases h
  | cons b bufs ih =>
    rw [locate] at h
    split at h
    · next hlt =>
      cases h
      exact hlt
    · exact ih h

theorem locate_zero (h : p ∈ locate bufs 0) : p.2 = 0 := by
  induction bufs with
  | nil => cases h
  | cons b bufs ih =>
    rw [locate] at h
    split at h
    · cases h
      rfl
    · rw [Nat.zero_sub] at h
      exact ih h

theorem exists_mem_of_address {a : Nat} (h : address bufs i = some a) :
    ∃ b ∈ bufs, b.pData ≤ a ∧ a < b.pData + b.len := by
  induction bufs generalizing i with
  | nil => cases h
  | cons b bufs ih =>
    rcases Nat.lt_or_ge i b.len with hlt | hge
    · rw [address_cons_of_lt hlt, Option.some.injEq] at h
      exact ⟨b, List.mem_cons_self, by omega, by omega⟩
    · rw [address_cons_of_le hge] at h
      obtain ⟨c, hc, hin⟩ := ih h
      exact ⟨c, List.mem_cons_of_mem b hc, hin⟩

theorem addresses_of_le (bufs : List FlatBuffer) (h : hi ≤ lo) : addresses bufs lo hi = ∅ := by
  rw [Set.eq_empty_iff_forall_notMem]
  rintro a ⟨i, hlo, hhi, -⟩
  omega

theorem addresses_cons_of_le (h : b.len ≤ lo) :
    addresses (b :: bufs) lo hi = addresses bufs (lo - b.len) (hi - b.len) := by
  ext a
  constructor
  · rintro ⟨i, hlo, hhi, ha⟩
    rw [address_cons_of_le (by omega)] at ha
    exact ⟨i - b.len, by omega, by omega, ha⟩
  · rintro ⟨i, hlo, hhi, ha⟩
    refine ⟨i + b.len, by omega, by omega, ?_⟩
    rw [address_cons_of_le (by omega), Nat.add_sub_cancel]
    exact ha

/-- The positions from one in the first buffer on: some of this buffer, and those of the others from
    their start. -/
theorem addresses_cons_of_lt (h : lo < b.len) :
    addresses (b :: bufs) lo hi =
      Set.Ico (b.pData + lo) (b.pData + min hi b.len) ∪ addresses bufs 0 (hi - b.len) := by
  ext a
  constructor
  · rintro ⟨i, hlo, hhi, ha⟩
    rcases Nat.lt_or_ge i b.len with hi' | hi'
    · rw [address_cons_of_lt hi', Option.some.injEq] at ha
      exact .inl ⟨by omega, by omega⟩
    · rw [address_cons_of_le hi'] at ha
      exact .inr ⟨i - b.len, by omega, by omega, ha⟩
  · rintro (⟨hlo, hhi⟩ | ⟨i, -, hhi, ha⟩)
    · refine ⟨a - b.pData, by omega, by omega, ?_⟩
      rw [address_cons_of_lt (by omega), Option.some.injEq]
      omega
    · refine ⟨i + b.len, by omega, by omega, ?_⟩
      rw [address_cons_of_le (by omega), Nat.add_sub_cancel]
      exact ha

end FlatBuffer

open FlatBuffer (total locate address addresses)

/-! ## Clearing -/

/-- `zeroLen`: how much is cleared in a buffer, from an offset in it on. -/
def FlatBuffer.zeroLen (b : FlatBuffer) (offset sizeLeftToZero : UInt32) : UInt32 :=
  if sizeLeftToZero ≥ b.dataLenInBytes then b.dataLenInBytes - offset
  -- The sum has 32 bits.
  else if sizeLeftToZero + offset ≥ b.dataLenInBytes then b.dataLenInBytes - offset
  else sizeLeftToZero

/-- `LacBuffDesc_BufferListZeroFromOffset`, from some buffer of the list on. There is no result when
    the walk leaves the list. -/
def bufferListZeroFromOffset : List FlatBuffer → UInt32 → UInt32 → Memory → Option Memory
  | [], _, sizeLeftToZero, m => if sizeLeftToZero > 0 then none else some m
  | b :: bufs, offset, sizeLeftToZero, m =>
    if sizeLeftToZero > 0 then
      if offset ≥ b.dataLenInBytes then
        bufferListZeroFromOffset bufs (offset - b.dataLenInBytes) sizeLeftToZero m
      else
        let zeroLen := b.zeroLen offset sizeLeftToZero
        bufferListZeroFromOffset bufs 0 (sizeLeftToZero - zeroLen)
          (m.write (b.pData + offset.toNat) (List.replicate zeroLen.toNat 0))
    else some m

/-- The sum of 32 bits wraps around in the buffer where the clearing starts. -/
def FlatBuffer.Wraps (bufs : List FlatBuffer) (offset lenToZero : UInt32) : Prop :=
  ∃ p ∈ locate bufs offset.toNat, lenToZero < p.1.dataLenInBytes ∧ 2 ^ 32 ≤ p.2 + lenToZero.toNat

variable {b : FlatBuffer} {bufs : List FlatBuffer} {offset size : UInt32} {m : Memory}

@[simp] theorem bufferListZeroFromOffset_zero (bufs : List FlatBuffer) (offset : UInt32) (m : Memory) :
    bufferListZeroFromOffset bufs offset 0 m = some m := by
  cases bufs <;> rfl

theorem bufferListZeroFromOffset_skip (hsize : 0 < size) (h : b.dataLenInBytes ≤ offset) :
    bufferListZeroFromOffset (b :: bufs) offset size m =
      bufferListZeroFromOffset bufs (offset - b.dataLenInBytes) size m := by
  rw [bufferListZeroFromOffset, if_pos hsize, if_pos h]

theorem bufferListZeroFromOffset_start (hsize : 0 < size) (h : offset < b.dataLenInBytes) :
    bufferListZeroFromOffset (b :: bufs) offset size m =
      bufferListZeroFromOffset bufs 0 (size - b.zeroLen offset size)
        (m.clear (Set.Ico (b.pData + offset.toNat)
          (b.pData + offset.toNat + (b.zeroLen offset size).toNat))) := by
  rw [bufferListZeroFromOffset, if_pos hsize, if_neg (UInt32.not_le.mpr h),
    ← Memory.write_replicate_zero]

/-- As long as the sum fits, the buffer is cleared to its end or to the end of the range. -/
theorem FlatBuffer.zeroLen_of_fits (h : offset < b.dataLenInBytes)
    (hsum : size < b.dataLenInBytes → offset.toNat + size.toNat < 2 ^ 32) :
    (b.zeroLen offset size).toNat = min size.toNat (b.len - offset.toNat) := by
  have hrest : (b.dataLenInBytes - offset).toNat = b.len - offset.toNat :=
    UInt32.toNat_sub_of_le _ _ (UInt32.le_of_lt h)
  unfold zeroLen
  split
  · next hge =>
    have hge' : b.len ≤ size.toNat := UInt32.le_iff_toNat_le.mp hge
    omega
  · next hlt =>
    have hadd : (size + offset).toNat = size.toNat + offset.toNat := by
      have hfits := hsum (UInt32.not_le.mp hlt)
      rw [UInt32.toNat_add, Nat.mod_eq_of_lt (by omega)]
    split
    · next hge =>
      have hge' : b.len ≤ (size + offset).toNat := UInt32.le_iff_toNat_le.mp hge
      omega
    · next hlt' =>
      have hlt'' : (size + offset).toNat < b.len := UInt32.lt_iff_toNat_lt.mp (UInt32.not_le.mp hlt')
      omega

/-- When the sum wraps around, what is cleared goes over the end of the buffer. -/
theorem FlatBuffer.zeroLen_of_wraps (h : offset < b.dataLenInBytes) (hlt : size < b.dataLenInBytes)
    (hwrap : 2 ^ 32 ≤ offset.toNat + size.toNat) : b.zeroLen offset size = size := by
  have hadd : size + offset < b.dataLenInBytes := by
    have h' : offset.toNat < b.len := UInt32.lt_iff_toNat_lt.mp h
    have hlt' : size.toNat < b.len := UInt32.lt_iff_toNat_lt.mp hlt
    have hsize := size.toNat_lt
    have hoffset := offset.toNat_lt
    rw [UInt32.lt_iff_toNat_lt, UInt32.toNat_add, Nat.mod_eq_sub_mod (by omega),
      Nat.mod_eq_of_lt (by omega)]
    change _ < b.len
    omega
  unfold zeroLen
  rw [if_neg (UInt32.not_le.mpr hlt), if_neg (UInt32.not_le.mpr hadd)]

theorem FlatBuffer.wraps_cons_of_le (h : b.dataLenInBytes ≤ offset) :
    Wraps (b :: bufs) offset size ↔ Wraps bufs (offset - b.dataLenInBytes) size := by
  have hle : ¬ offset.toNat < b.len := Nat.not_lt.mpr (UInt32.le_iff_toNat_le.mp h)
  have hsub : (offset - b.dataLenInBytes).toNat = offset.toNat - b.len := UInt32.toNat_sub_of_le _ _ h
  unfold Wraps
  rw [locate, if_neg hle, hsub]

theorem FlatBuffer.wraps_cons_of_lt (h : offset < b.dataLenInBytes) :
    Wraps (b :: bufs) offset size ↔
      size < b.dataLenInBytes ∧ 2 ^ 32 ≤ offset.toNat + size.toNat := by
  have hlt : offset.toNat < b.len := UInt32.lt_iff_toNat_lt.mp h
  simp [Wraps, locate, hlt]

/-- At the start of a buffer the sum does not wrap around. -/
theorem FlatBuffer.not_wraps_zero (bufs : List FlatBuffer) (size : UInt32) :
    ¬ Wraps bufs 0 size := by
  rintro ⟨p, hp, -, hwrap⟩
  have hzero : p.2 = 0 := locate_zero hp
  have hsize := size.toNat_lt
  omega

/-- **Unless the sum wraps around, the bytes of the range are cleared.** -/
theorem bufferListZeroFromOffset_of_not_wraps (hwraps : ¬ FlatBuffer.Wraps bufs offset size)
    (hrange : offset.toNat + size.toNat ≤ total bufs) (m : Memory) :
    bufferListZeroFromOffset bufs offset size m =
      some (m.clear (addresses bufs offset.toNat (offset.toNat + size.toNat))) := by
  induction bufs generalizing offset size m with
  | nil =>
    have hnone : offset.toNat + size.toNat ≤ 0 := hrange
    obtain rfl : size = 0 := UInt32.toNat_inj.mp (by rw [UInt32.toNat_zero]; omega)
    simp [addresses_of_le]
  | cons b bufs ih =>
    rw [total_cons] at hrange
    by_cases hzero : size = 0
    · simp [hzero, addresses_of_le]
    have hsize : 0 < size := UInt32.pos_iff_ne_zero.mpr hzero
    rcases UInt32.lt_or_le offset b.dataLenInBytes with hstart | hskip
    · have hlt : offset.toNat < b.len := UInt32.lt_iff_toNat_lt.mp hstart
      rw [wraps_cons_of_lt hstart, not_and, Nat.not_le] at hwraps
      have hlen := zeroLen_of_fits hstart hwraps
      have hrest : (size - b.zeroLen offset size).toNat =
          size.toNat - (b.zeroLen offset size).toNat := by
        apply UInt32.toNat_sub_of_le
        rw [UInt32.le_iff_toNat_le]
        omega
      rw [bufferListZeroFromOffset_start hsize hstart, ih (not_wraps_zero bufs _),
        Memory.clear_clear, addresses_cons_of_lt hlt]
      · have hto : b.pData + offset.toNat + (b.zeroLen offset size).toNat =
            b.pData + min (offset.toNat + size.toNat) b.len := by omega
        have hmore : (0 : UInt32).toNat + (size - b.zeroLen offset size).toNat =
            offset.toNat + size.toNat - b.len := by
          rw [UInt32.toNat_zero]
          omega
        rw [hto, hmore]
        rfl
      · rw [UInt32.toNat_zero]
        omega
    · have hle : b.len ≤ offset.toNat := UInt32.le_iff_toNat_le.mp hskip
      have hsub : (offset - b.dataLenInBytes).toNat = offset.toNat - b.len :=
        UInt32.toNat_sub_of_le _ _ hskip
      rw [wraps_cons_of_le hskip] at hwraps
      have hend : offset.toNat - b.len + size.toNat = offset.toNat + size.toNat - b.len := by omega
      rw [bufferListZeroFromOffset_skip hsize hskip, ih hwraps (by omega), hsub,
        addresses_cons_of_le hle, hend]

/-- When the sum wraps around, as many bytes are cleared behind the start. -/
theorem bufferListZeroFromOffset_of_wraps (hp : p ∈ locate bufs offset.toNat)
    (hlt : size < p.1.dataLenInBytes) (hwrap : 2 ^ 32 ≤ p.2 + size.toNat) (m : Memory) :
    bufferListZeroFromOffset bufs offset size m =
      some (m.clear (Set.Ico (p.1.pData + p.2) (p.1.pData + p.2 + size.toNat))) := by
  induction bufs generalizing offset with
  | nil => cases hp
  | cons b bufs ih =>
    have hsize : 0 < size := by
      have hin : p.2 < p.1.len := locate_lt hp
      have hlen := p.1.dataLenInBytes.toNat_lt
      rw [UInt32.lt_iff_toNat_lt, UInt32.toNat_zero]
      unfold len at hin
      omega
    rcases UInt32.lt_or_le offset b.dataLenInBytes with hstart | hskip
    · have hin : offset.toNat < b.len := UInt32.lt_iff_toNat_lt.mp hstart
      rw [locate, if_pos hin] at hp
      cases hp
      have hlen : b.zeroLen offset size = size := zeroLen_of_wraps hstart hlt hwrap
      rw [bufferListZeroFromOffset_start hsize hstart, hlen, UInt32.sub_self,
        bufferListZeroFromOffset_zero]
    · have hout : ¬ offset.toNat < b.len := Nat.not_lt.mpr (UInt32.le_iff_toNat_le.mp hskip)
      have hsub : (offset - b.dataLenInBytes).toNat = offset.toNat - b.len :=
        UInt32.toNat_sub_of_le _ _ hskip
      rw [locate, if_neg hout, ← hsub] at hp
      rw [bufferListZeroFromOffset_skip hsize hskip, ih hp]

/-- **What is cleared**: the bytes of the range, and no others, unless the sum wraps around. Then it
    is the bytes behind the start, which are those of the range only if the buffers lie one behind the
    other. -/
theorem bufferListZeroFromOffset_clears_iff (bufs : List FlatBuffer) (offset lenToZero : UInt32)
    (hrange : offset.toNat + lenToZero.toNat ≤ total bufs) :
    (∀ m, bufferListZeroFromOffset bufs offset lenToZero m =
        some (m.clear (addresses bufs offset.toNat (offset.toNat + lenToZero.toNat)))) ↔
      ∀ p ∈ locate bufs offset.toNat, lenToZero < p.1.dataLenInBytes →
        2 ^ 32 ≤ p.2 + lenToZero.toNat →
          addresses bufs offset.toNat (offset.toNat + lenToZero.toNat) =
            Set.Ico (p.1.pData + p.2) (p.1.pData + p.2 + lenToZero.toNat) := by
  constructor
  · intro h p hp hlt hwrap
    rw [← Memory.clear_eq_clear_iff]
    intro m
    have hrun := bufferListZeroFromOffset_of_wraps hp hlt hwrap m
    rw [h m, Option.some.injEq] at hrun
    exact hrun
  · intro h m
    by_cases hwraps : FlatBuffer.Wraps bufs offset lenToZero
    · obtain ⟨p, hp, hlt, hwrap⟩ := hwraps
      rw [bufferListZeroFromOffset_of_wraps hp hlt hwrap, h p hp hlt hwrap]
    · exact bufferListZeroFromOffset_of_not_wraps hwraps hrange m

/-- Two bytes of the first of three buffers and two of the last one; the one between them is empty. -/
theorem bufferListZeroFromOffset_three :
    1 + 4 ≤ total [⟨64, 3⟩, ⟨128, 0⟩, ⟨256, 5⟩] ∧
      ∀ m, bufferListZeroFromOffset [⟨64, 3⟩, ⟨128, 0⟩, ⟨256, 5⟩] 1 4 m =
        some (m.clear (addresses [⟨64, 3⟩, ⟨128, 0⟩, ⟨256, 5⟩] 1 5)) := by
  refine ⟨by decide,
    (bufferListZeroFromOffset_clears_iff [⟨64, 3⟩, ⟨128, 0⟩, ⟨256, 5⟩] 1 4 (by decide)).mpr ?_⟩
  rintro p ⟨⟩ hlt
  exact absurd hlt (by decide)

/-- A buffer of 4 GiB less one byte, and one more byte elsewhere. -/
def splitBuffers : List FlatBuffer := [⟨0x100000000, 0xFFFFFFFF⟩, ⟨0x300000000, 1⟩]

/-- The upper 2 GiB of the two buffers are to be cleared. The last byte, which is the second buffer,
    is kept, and the byte behind the first buffer is cleared, which is in neither. -/
theorem bufferListZeroFromOffset_overrun :
    (0x80000000 : UInt32).toNat + (0x80000000 : UInt32).toNat ≤ total splitBuffers ∧
      address splitBuffers 0xFFFFFFFF = some 0x300000000 ∧
      (∀ i, address splitBuffers i ≠ some 0x1FFFFFFFF) ∧
      ∃ m', bufferListZeroFromOffset splitBuffers 0x80000000 0x80000000 (fun _ => 1) = some m' ∧
        m' 0x300000000 = 1 ∧ m' 0x1FFFFFFFF = 0 := by
  have hrun : bufferListZeroFromOffset splitBuffers 0x80000000 0x80000000 (fun _ => 1) =
      some (Memory.clear (fun _ => 1) (Set.Ico 0x180000000 0x200000000)) :=
    bufferListZeroFromOffset_of_wraps (p := (⟨0x100000000, 0xFFFFFFFF⟩, 0x80000000)) rfl (by decide)
      (by decide) _
  refine ⟨by decide, by decide, ?_, _, hrun, ?_, ?_⟩
  · intro i hi
    obtain ⟨b, hb, hlo, hhi⟩ := exists_mem_of_address hi
    rcases List.mem_pair.mp hb with rfl | rfl
    · exact absurd hhi (by decide)
    · exact absurd hlo (by decide)
  · exact Memory.clear_of_notMem (by simp)
  · exact Memory.clear_of_mem (by simp)

end Qatlib
