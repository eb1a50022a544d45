import Qatlib.Usdm.SlabInvariant

set_option autoImplicit false

/-! # Freeing in a slab

`__qae_mem_free` undoes `__qae_mem_alloc`, word by word, and refuses every pointer into the slab that
no allocation returned. Both hold in every state of a slab, whatever sizes were asked for: a size that
overflows takes no unit and records no length, so the block it returns is never one that a free
would give back. -/

namespace Qatlib.Usdm

open Function

/-! ## Undoing a block -/

theorem clearBitmap_setBitmap {bitmap : Bitmap 64} {index len : Nat}
    (hfree : ∀ i, index ≤ i → i < index + len → bitmap.bit i = false) :
    clearBitmap (setBitmap bitmap index len) index len = bitmap := by
  refine Bitmap.eq_of_bit_eq fun i => ?_
  rw [clearBitmap, setBitmap, Bitmap.bit_writeRange (by decide), Bitmap.bit_writeRange (by decide)]
  split
  · next hin => exact (hfree i hin.1 hin.2).symm
  · rfl

variable {block first required : Nat} {ctrl : BlockCtrl}

theorem BlockCtrl.unmark_mark
    (hfree : ∀ i, first ≤ i → i < first + required → ctrl.bitmap.bit i = false)
    (hsize : ctrl.sizes first = 0) (hlt : required < 2 ^ 16) :
    (ctrl.mark first required).unmark first = ctrl := by
  have hbitmap : ((ctrl.mark first required).unmark first).bitmap = ctrl.bitmap := by
    show clearBitmap (setBitmap ctrl.bitmap first required) first
      ((ctrl.mark first required).sizes first) = ctrl.bitmap
    rw [ctrl.sizes_mark_self first hlt]
    exact clearBitmap_setBitmap hfree
  have hsizes : ((ctrl.mark first required).unmark first).sizes = ctrl.sizes := by
    show update (update ctrl.sizes first _) first 0 = ctrl.sizes
    rw [update_idem, ← hsize, update_eq_self]
  exact congrArg₂ BlockCtrl.mk hbitmap hsizes

theorem BlockCtrl.mark_zero (hsize : ctrl.sizes first = 0) : ctrl.mark first 0 = ctrl := by
  have hbitmap : setBitmap ctrl.bitmap first 0 = ctrl.bitmap := by
    refine Bitmap.eq_of_bit_eq fun i => ?_
    rw [setBitmap, Bitmap.bit_writeRange (by decide), if_neg (by omega)]
  have hsizes : update ctrl.sizes first (0 % 2 ^ 16) = ctrl.sizes := by
    rw [Nat.zero_mod, ← hsize, update_eq_self]
  exact congrArg₂ BlockCtrl.mk hbitmap hsizes

/-! ## Every state of a slab -/

/-- The live blocks that take up units; only a size that overflows gives one that does not. -/
def SlabState.blocks (s : SlabState) : List Nat := s.live.filter (· ≠ 0)

section Slabs

variable {ctrl : BlockCtrl} {live : List Nat} {base : Nat}

/-- The control block's own units are never the start of a block. -/
theorem SlabOk.sizes_zero (h : SlabOk ctrl live) : ctrl.sizes 0 = 0 := by
  by_contra hsize
  have hres := (h.inside 0 ((h.sizes_iff 0).mp hsize)).1
  exact absurd hres (by decide)

/-- What an allocation of any size does in a slab that describes its blocks. -/
theorem memAlloc_any (h : SlabOk ctrl live) {size : Nat} (align : Nat) (hsize : 0 < size)
    (hlt : size < 2 ^ 64) :
    memAlloc ctrl size align = (none, ctrl) ∨
      (¬RoundsUp size ∧ memAlloc ctrl size align = (some 0, ctrl)) ∨
      ∃ first required, first ≠ 0 ∧ ctrl.sizes first = 0 ∧ 0 < required ∧ first + required ≤ 2048 ∧
        (∀ i, first ≤ i → i < first + required → ctrl.bitmap.bit i = false) ∧
        memAlloc ctrl size align = (some first, ctrl.mark first required) := by
  by_cases hmax : RoundsUp size
  · rcases memAlloc_cases hsize hmax with heq | ⟨first, required, -, hpos, hend, hfree, heq⟩
    · exact .inl heq
    · obtain ⟨hres, hdis⟩ := h.free_disjoint hpos hend hfree
      have hpos' : 0 < reserved := by decide
      refine .inr (.inr ⟨first, required, by omega, ?_, hpos, hend, hfree, heq⟩)
      by_contra hne
      rcases hdis first ((h.sizes_iff first).mp hne) with hle | hle <;> omega
  · refine .inr (.inl ⟨hmax, ?_⟩)
    rw [memAlloc_overflow ctrl align hmax hlt, BlockCtrl.mark_zero h.sizes_zero]

/-- **In every state of a slab the control block describes the blocks that take up units.** -/
theorem slabOk_of_reachable {s : SlabState} (h : (slab base).Reachable s) :
    SlabOk s.ctrl s.blocks := by
  refine h.invariant (fun s => SlabOk s.ctrl s.blocks) ?_ ?_
  · rintro s ⟨size, align, hsize, hmax, rfl⟩
    have hok := SlabOk.start align hsize hmax
    rwa [SlabState.blocks, List.filter_eq_self.mpr]
    intro f hf
    have hres := (hok.inside f hf).1
    have hpos : 0 < reserved := by decide
    simp only [ne_eq, decide_eq_true_eq]
    omega
  · intro s e t hok _ hstep
    cases e with
    | alloc size align =>
      obtain ⟨⟨hsize, hlt⟩, ⟨⟩⟩ := Option.ite_none_right_eq_some.mp hstep
      rcases memAlloc_any hok align hsize hlt with heq | ⟨-, heq⟩ |
        ⟨first, required, hne, -, hpos, hend, hfree, heq⟩
      · rw [heq]
        exact hok
      · rw [heq]
        exact hok
      · rw [heq]
        have htake := hok.take hpos hend hfree
        rwa [SlabState.blocks, ← List.filter_cons_of_pos (by simp [hne])] at htake
    | free block =>
      obtain ⟨-, ⟨⟩⟩ := Option.ite_none_right_eq_some.mp hstep
      dsimp only
      split
      · next hfree =>
        have herase := (hok.memFree_true hfree).2
        rwa [SlabState.blocks, List.erase_filter] at herase
      · next hfree => rwa [memFree_false (by simpa using hfree)]

/-- The unit of an aligned pointer into the slab. -/
theorem block_eq_of_aligned (hbase : 1024 ∣ base) (hle : base ≤ block)
    (haligned : block % 1024 = 0) : block = base + (block - base) / 1024 * 1024 := by
  obtain ⟨b, rfl⟩ := hbase
  omega

/-- A pointer to the start of no block is refused. -/
theorem memFree_refused (h : SlabOk ctrl live) (hbase : 1024 ∣ base) (hle : base ≤ block)
    (hnot : ∀ f ∈ live, block ≠ base + f * 1024) : memFree ctrl base block = (false, ctrl) := by
  unfold memFree
  split
  · rfl
  · next hptr =>
    have hblock := block_eq_of_aligned hbase hle (by omega)
    have hsize : ctrl.sizes ((block - base) / 1024) = 0 := by
      by_contra hne
      exact hnot _ ((h.sizes_iff _).mp hne) hblock
    exact if_pos (.inl hsize)

/-- A block just taken is given back. -/
theorem memFree_mark (hbase : 1024 ∣ base) (hfirst : first ≠ 0) (hsize : ctrl.sizes first = 0)
    (hpos : 0 < required) (hend : first + required ≤ 2048)
    (hfree : ∀ i, first ≤ i → i < first + required → ctrl.bitmap.bit i = false) :
    memFree (ctrl.mark first required) base (base + first * 1024) = (true, ctrl) := by
  have hunit : (base + first * 1024 - base) / 1024 = first := by omega
  have hlen := ctrl.sizes_mark_self first (show required < 2 ^ 16 by omega)
  unfold memFree
  rw [if_neg (by omega)]
  dsimp only
  rw [hunit, hlen, if_neg (by omega), BlockCtrl.unmark_mark hfree hsize (by omega)]

end Slabs

/-- **Freeing undoes allocating, and refuses everything else.** In every state of a slab in page
    aligned memory, an allocation followed by the free of its result leaves the bitmap and the
    lengths as they were, and the free of a pointer into the slab that is not the start of a live
    block returns false and changes nothing. -/
theorem free_undoes_alloc {base : Nat} (hbase : 1024 ∣ base) {s : SlabState}
    (h : (slab base).Reachable s) :
    (∀ size align first, 0 < size → size < 2 ^ 64 → (memAlloc s.ctrl size align).1 = some first →
      (memFree (memAlloc s.ctrl size align).2 base (base + first * 1024)).2 = s.ctrl ∧
        (RoundsUp size →
          (memFree (memAlloc s.ctrl size align).2 base (base + first * 1024)).1 = true)) ∧
    ∀ block, base ≤ block → block < base + 2097152 → (∀ f ∈ s.live, block ≠ base + f * 1024) →
      memFree s.ctrl base block = (false, s.ctrl) := by
  have hok := slabOk_of_reachable h
  constructor
  · intro size align first hsize hlt hsome
    rcases memAlloc_any hok align hsize hlt with heq | ⟨hmax, heq⟩ |
      ⟨first', required, hne, hzero, hpos, hend, hfree, heq⟩
    · rw [heq] at hsome
      exact absurd hsome (by simp)
    · -- the address of the control block is refused
      rw [heq] at hsome ⊢
      cases hsome
      rw [memFree_refused hok hbase (Nat.le_add_right _ _) fun f hf => ?_]
      · exact ⟨rfl, fun hround => absurd hround hmax⟩
      · have hne : f ≠ 0 := by simpa using (List.mem_filter.mp hf).2
        omega
    · rw [heq] at hsome ⊢
      cases hsome
      rw [memFree_mark hbase hne hzero hpos hend hfree]
      exact ⟨rfl, fun _ => rfl⟩
  · intro block hle _ hnot
    exact memFree_refused hok hbase hle fun f hf => hnot f (List.mem_of_mem_filter hf)

/-- A slab with one live block: its interior is refused, and a second block comes and goes. -/
theorem free_undoes_alloc_one_block :
    (memFree (SlabState.start 3000 0).ctrl 2097152 (2097152 + 6 * 1024)).1 = false ∧
      (memAlloc (SlabState.start 3000 0).ctrl 5000 0).1 = some 8 ∧
      memFree (memAlloc (SlabState.start 3000 0).ctrl 5000 0).2 2097152 (2097152 + 8 * 1024) =
        (true, (SlabState.start 3000 0).ctrl) := by
  have hreach : (slab 2097152).Reachable (SlabState.start 3000 0) :=
    ⟨_, ⟨3000, 0, by decide, show 3000 + 1023 < 2 ^ 64 by decide, rfl⟩, .refl _⟩
  obtain ⟨hundo, hrefuse⟩ := free_undoes_alloc (show 1024 ∣ 2097152 by decide) hreach
  have hlive : (SlabState.start 3000 0).live = [5] := by decide +kernel
  have hfirst : (memAlloc (SlabState.start 3000 0).ctrl 5000 0).1 = some 8 := by decide +kernel
  obtain ⟨hkept, hfreed⟩ := hundo 5000 0 8 (by decide) (by decide) hfirst
  refine ⟨?_, hfirst, Prod.ext (hfreed (show 5000 + 1023 < 2 ^ 64 by decide)) hkept⟩
  rw [hrefuse _ (by decide) (by decide) (by rw [hlive]; decide)]

end Qatlib.Usdm
