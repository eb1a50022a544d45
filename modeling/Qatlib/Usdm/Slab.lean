import Mathlib.Data.Nat.Bitwise
import Qatlib.Lib.Bitmap
import Qatlib.Lib.System

set_option autoImplicit false

/-! # Allocation inside a slab

The block allocator of `qae_mem_utils_common.c`. A small slab is 2 MB, cut into 2048 units of
`UNIT_SIZE` = 1024 bytes. Its control block lies in its first units and holds a bitmap with a bit for
each unit, followed by one more quadword of ones as a barrier, and a table with the length of each
allocated block at its first unit. `__qae_mem_alloc` scans the bitmap through 64-bit windows for a
run of free units; `__qae_mem_free` looks the length up and clears the run.

Sizes and positions are `size_t` values. -/

namespace Qatlib.Usdm

open Function

/-! ## Control blocks -/

/-- `div_round_up`, on `size_t`. -/
def divRoundUp (n d : Nat) : Nat := (n + d - 1) % 2 ^ 64 / d

/-- `block_ctrl_t` without its `mem_info`. -/
structure BlockCtrl where
  bitmap : Bitmap 64
  sizes : Nat → Nat

/-- The units taken up by `block_ctrl_t`, a structure of 4440 bytes. -/
def reserved : Nat := divRoundUp 4440 1024

section

variable (bitmap : Bitmap 64) (index len : Nat)

/-- `clear_bitmap`. -/
def clearBitmap : Bitmap 64 := Bitmap.writeRange false bitmap index len

/-- `set_bitmap`. -/
def setBitmap : Bitmap 64 := Bitmap.writeRange true bitmap index len

/-- `mem_ctzll`. -/
def memCtzll (bitmapWindow : BitVec 64) : Nat :=
  if bitmapWindow = 0 then 64 else trailingZeros bitmapWindow

/-- `bitmap_read`. -/
def bitmapRead (windowPos : Nat) : BitVec 64 :=
  if windowPos / 64 ≥ 32 then BitVec.allOnes 64 else bitmap.window windowPos

theorem bit_setBitmap (i : Nat) :
    (setBitmap bitmap index len).bit i = true ↔
      (index ≤ i ∧ i < index + len) ∨ bitmap.bit i = true := by
  rw [setBitmap, Bitmap.bit_writeRange (by decide)]
  split
  · next h => simp [h]
  · next h => simp [h]

theorem bit_clearBitmap (i : Nat) :
    (clearBitmap bitmap index len).bit i = true ↔
      ¬(index ≤ i ∧ i < index + len) ∧ bitmap.bit i = true := by
  rw [clearBitmap, Bitmap.bit_writeRange (by decide)]
  split
  · next h => simp [h]
  · next h => simp [h]

end

/-! ## The search -/

/-- How the search for a run of free units ends. -/
inductive Search where
  | block (first : Nat)
  /-- A run was found that does not end inside the bitmap. -/
  | exceedsWindow
  | noFit
deriving DecidableEq

section

variable (ctrl : BlockCtrl)

/-- The position after the zeros of a window and the ones next to them, moved up to a multiple of
    the alignment. -/
def skipRun (align : Nat) (window : BitVec 64) (windowPos : Nat) : Nat :=
  let width := memCtzll window
  let pos := windowPos + (width + memCtzll (~~~(window >>> width)))
  if align ≠ 0 ∧ pos % align ≠ 0 then pos + (align - pos % align) else pos

/-- The loop of `__qae_mem_alloc`, with a bound on the number of rounds. -/
def searchBlocks (bitmap : Bitmap 64) (align required : Nat) : Nat → Nat → Nat → Nat → Search
  | 0, _, _, _ => .noFit
  | fuel + 1, windowPos, firstBlock, blocksFound =>
      let window := bitmapRead bitmap windowPos
      let width := memCtzll window
      let blocksFound := blocksFound + width
      if blocksFound ≥ required then
        if firstBlock + required > 2048 then .exceedsWindow else .block firstBlock
      else if window ≠ 0 then
        let pos := skipRun align window windowPos
        if pos < 2048 then searchBlocks bitmap align required fuel pos pos 0 else .noFit
      else
        let pos := windowPos + width
        if pos < 2048 then searchBlocks bitmap align required fuel pos firstBlock blocksFound
        else .noFit

/-- The search from the start of the bitmap. Every round moves on by a unit at least, so 2048 rounds
    are enough. -/
def findBlocks (bitmap : Bitmap 64) (align required : Nat) : Search :=
  searchBlocks bitmap align required 2048 0 0 0

/-- Record a block and mark its units; lengths are 16-bit values. -/
def BlockCtrl.mark (first required : Nat) : BlockCtrl where
  bitmap := setBitmap ctrl.bitmap first required
  sizes := update ctrl.sizes first (required % 2 ^ 16)

/-- Forget the block recorded at a unit and clear its units. -/
def BlockCtrl.unmark (first : Nat) : BlockCtrl where
  bitmap := clearBitmap ctrl.bitmap first (ctrl.sizes first)
  sizes := update ctrl.sizes first 0

/-- `__qae_mem_alloc`: the first unit of the block returned, if any. -/
def memAlloc (size align : Nat) : Option Nat × BlockCtrl :=
  if size = 0 then (none, ctrl)
  else
    let required := divRoundUp size 1024
    match findBlocks ctrl.bitmap align required with
    | .block first => (some first, ctrl.mark first required)
    | _ => (none, ctrl)

/-- `__qae_mem_free`, for a slab whose control block is at `base`. -/
def memFree (base block : Nat) : Bool × BlockCtrl :=
  if block = 0 ∨ block % 1024 ≠ 0 then (false, ctrl)
  else
    let first := (block - base) / 1024
    let length := ctrl.sizes first
    if length = 0 ∨ length + first > 2048 then (false, ctrl)
    else (true, ctrl.unmark first)

/-- The control block of fresh memory. -/
def BlockCtrl.zeroed : BlockCtrl := ⟨fun _ => 0, fun _ => 0⟩

/-- What `init_slab_and_alloc` does before its allocation, for a slab of 2 MB: reserve the control
    block's units and raise the barrier. -/
def initSlab : BlockCtrl :=
  let bitmap := setBitmap ctrl.bitmap 0 reserved
  { ctrl with bitmap := bitmap.setWord (2097152 / 65536) (BitVec.allOnes 64) }

/-- `init_slab_and_alloc`, without the list it puts the slab on. -/
def initSlabAndAlloc (size align : Nat) : Option Nat × BlockCtrl :=
  memAlloc (initSlab ctrl) size align

end

/-! ## What the search finds -/

theorem memCtzll_le (x : BitVec 64) : memCtzll x ≤ 64 := by
  unfold memCtzll
  split
  · exact Nat.le_refl 64
  · exact trailingZeros_le x

variable {f j pos first required : Nat} {bitmap : Bitmap 64}

theorem getLsbD_of_lt_memCtzll {x : BitVec 64} (hj : j < memCtzll x) : x.getLsbD j = false := by
  unfold memCtzll at hj
  split at hj
  · next hzero => simp [hzero]
  · exact getLsbD_of_lt_trailingZeros x hj

theorem bit_of_lt_memCtzll {i : Nat} (hpos : pos < 2048) (hlo : pos ≤ i)
    (hi : i < pos + memCtzll (bitmapRead bitmap pos)) : bitmap.bit i = false := by
  have hread : bitmapRead bitmap pos = bitmap.window pos := by rw [bitmapRead, if_neg (by omega)]
  rw [hread] at hi
  have hle := memCtzll_le (bitmap.window pos)
  have hbit := getLsbD_of_lt_memCtzll (show i - pos < memCtzll (bitmap.window pos) by omega)
  rwa [Bitmap.getLsbD_window bitmap pos (by omega), Nat.add_sub_cancel' hlo] at hbit

/-- A nonzero window is left behind by one unit at least. -/
theorem lt_skipRun (align : Nat) {window : BitVec 64} (hwindow : window ≠ 0) (pos : Nat) :
    pos < skipRun align window pos := by
  have hstep : 0 < memCtzll window + memCtzll (~~~(window >>> memCtzll window)) := by
    rcases Nat.eq_zero_or_pos (memCtzll window) with hzero | hpos
    · -- no zeros: the lowest bit is set, and shows as a zero of the complement
      have htz : trailingZeros window = 0 := by rwa [memCtzll, if_neg hwindow] at hzero
      have hlow : window.getLsbD 0 = true := by
        have h := getLsbD_trailingZeros window (by omega)
        rwa [htz] at h
      rw [hzero, BitVec.ushiftRight_zero, Nat.zero_add]
      refine Nat.pos_of_ne_zero fun hnone => ?_
      unfold memCtzll at hnone
      split at hnone
      · omega
      · have h := getLsbD_trailingZeros (~~~window) (by omega)
        rw [hnone, BitVec.getLsbD_not, hlow] at h
        exact absurd h (by simp)
    · omega
  unfold skipRun
  dsimp only
  split <;> omega

/-- **What the search finds is a free run inside the bitmap.** -/
theorem searchBlocks_block {align fuel found : Nat} (hpos : pos < 2048)
    (hrun : first + found = pos) (hfree : ∀ i, first ≤ i → i < pos → bitmap.bit i = false)
    (h : searchBlocks bitmap align required fuel pos first found = .block f) :
    f + required ≤ 2048 ∧ ∀ i, f ≤ i → i < f + required → bitmap.bit i = false := by
  induction fuel generalizing pos first found with
  | zero => exact absurd h (by simp [searchBlocks])
  | succ fuel ih =>
    -- the run so far, with the zeros of this window
    have hfree' : ∀ i, first ≤ i → i < pos + memCtzll (bitmapRead bitmap pos) →
        bitmap.bit i = false := by
      intro i hlo hhi
      rcases Nat.lt_or_ge i pos with hlt | hge
      · exact hfree i hlo hlt
      · exact bit_of_lt_memCtzll hpos hge hhi
    simp only [searchBlocks] at h
    split at h
    · next hfit =>
      split at h
      · exact absurd h (by simp)
      · next hend =>
        obtain rfl : first = f := by simpa using h
        exact ⟨by omega, fun i hlo hhi => hfree' i hlo (by omega)⟩
    · split at h
      · split at h
        · next hlt => exact ih hlt (by omega) (fun i hlo hhi => by omega) h
        · exact absurd h (by simp)
      · split at h
        · next hlt => exact ih hlt (by omega) hfree' h
        · exact absurd h (by simp)

theorem findBlocks_block {align : Nat} (h : findBlocks bitmap align required = .block f) :
    f + required ≤ 2048 ∧ ∀ i, f ≤ i → i < f + required → bitmap.bit i = false :=
  searchBlocks_block (show 0 < 2048 by decide) (show 0 + 0 = 0 from rfl) (fun _ _ hi => by omega) h

/-! ## What a call does -/

namespace BlockCtrl

variable (ctrl : BlockCtrl)

theorem sizes_mark_self (first : Nat) (h : required < 2 ^ 16) :
    (ctrl.mark first required).sizes first = required := by
  show update ctrl.sizes first (required % 2 ^ 16) first = required
  rw [update_self, Nat.mod_eq_of_lt h]

theorem bit_mark (first required i : Nat) :
    (ctrl.mark first required).bitmap.bit i = true ↔
      (first ≤ i ∧ i < first + required) ∨ ctrl.bitmap.bit i = true :=
  bit_setBitmap _ _ _ _

theorem bit_unmark (first i : Nat) :
    (ctrl.unmark first).bitmap.bit i = true ↔
      ¬(first ≤ i ∧ i < first + ctrl.sizes first) ∧ ctrl.bitmap.bit i = true :=
  bit_clearBitmap _ _ _ _

theorem sizes_mark_ne (required : Nat) (h : j ≠ first) :
    (ctrl.mark first required).sizes j = ctrl.sizes j :=
  update_of_ne h _ _

theorem sizes_unmark_self (first : Nat) : (ctrl.unmark first).sizes first = 0 := update_self _ _ _

theorem sizes_unmark_ne (h : j ≠ first) : (ctrl.unmark first).sizes j = ctrl.sizes j :=
  update_of_ne h _ _

end BlockCtrl

theorem divRoundUp_eq {size : Nat} (h : size + 1023 < 2 ^ 64) :
    divRoundUp size 1024 = (size + 1023) / 1024 := by
  rw [divRoundUp, Nat.mod_eq_of_lt (by omega)]
  rfl

/-- **What an allocation does**: nothing, or it takes a free run inside the bitmap. -/
theorem memAlloc_cases {ctrl : BlockCtrl} {size align : Nat} (hsize : 0 < size)
    (hmax : size + 1023 < 2 ^ 64) :
    memAlloc ctrl size align = (none, ctrl) ∨
    ∃ first required, required = (size + 1023) / 1024 ∧ 0 < required ∧ first + required ≤ 2048 ∧
      (∀ i, first ≤ i → i < first + required → ctrl.bitmap.bit i = false) ∧
      memAlloc ctrl size align = (some first, ctrl.mark first required) := by
  have hreq := divRoundUp_eq hmax
  cases hfind : findBlocks ctrl.bitmap align ((size + 1023) / 1024) with
  | block first =>
    obtain ⟨hend, hfree⟩ := findBlocks_block hfind
    refine .inr ⟨first, _, rfl, by omega, hend, hfree, ?_⟩
    simp only [memAlloc, if_neg (Nat.pos_iff_ne_zero.mp hsize), hreq, hfind]
  | exceedsWindow =>
    simp only [memAlloc, if_neg (Nat.pos_iff_ne_zero.mp hsize), hreq, hfind, true_or]
  | noFit => simp only [memAlloc, if_neg (Nat.pos_iff_ne_zero.mp hsize), hreq, hfind, true_or]

/-- **What a free does**: nothing, or it clears the block recorded at the unit of the pointer. -/
theorem memFree_cases (ctrl : BlockCtrl) (base block : Nat) :
    memFree ctrl base block = (false, ctrl) ∨
    ∃ first, first = (block - base) / 1024 ∧ ctrl.sizes first ≠ 0 ∧
      ctrl.sizes first + first ≤ 2048 ∧
      memFree ctrl base block = (true, ctrl.unmark first) := by
  unfold memFree
  split
  · exact .inl rfl
  · dsimp only
    split
    · exact .inl rfl
    · next hlen => exact .inr ⟨_, rfl, by omega, by omega, rfl⟩

end Qatlib.Usdm
