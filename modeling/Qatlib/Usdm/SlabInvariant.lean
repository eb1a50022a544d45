import Qatlib.Usdm.Slab

set_option autoImplicit false

/-! # The bitmap against the live blocks

The bitmap, the barrier and the table of lengths against the blocks that were allocated and not
freed. `SlabOk` is kept by any allocation whose size can be rounded up without overflow and by a free
of any pointer; it is what the allocator above relies on for each small slab. -/

namespace Qatlib.Usdm

/-- The control block describes the live blocks, given by their first units. -/
structure SlabOk (ctrl : BlockCtrl) (live : List Nat) : Prop where
  /-- A unit is marked exactly when it is reserved or inside a live block. -/
  bit_iff : ∀ i < 2048, ctrl.bitmap.bit i = true ↔
    i < reserved ∨ ∃ f ∈ live, f ≤ i ∧ i < f + ctrl.sizes f
  /-- The barrier is up. -/
  barrier : ctrl.bitmap 32 = BitVec.allOnes 64
  /-- A length is recorded exactly for the live blocks. -/
  sizes_iff : ∀ j, ctrl.sizes j ≠ 0 ↔ j ∈ live
  /-- Live blocks lie between the control block and the end of the slab. -/
  inside : ∀ f ∈ live, reserved ≤ f ∧ f + ctrl.sizes f ≤ 2048
  /-- Live blocks do not overlap. -/
  disjoint : ∀ f ∈ live, ∀ g ∈ live, f ≠ g → f + ctrl.sizes f ≤ g ∨ g + ctrl.sizes g ≤ f
  /-- No block is live twice. -/
  nodup : live.Nodup

variable {base size block first required : Nat}

section Keep

variable {ctrl : BlockCtrl} {live : List Nat}

theorem SlabOk.first_lt (h : SlabOk ctrl live) {f : Nat} (hf : f ∈ live) : f < 2048 := by
  obtain ⟨-, hend⟩ := h.inside f hf
  have hsize := (h.sizes_iff f).mpr hf
  omega

/-- The barrier survives any write inside the bitmap. -/
theorem barrier_writeRange {bitmap : Bitmap 64} {b : Bool} {index len : Nat}
    (hbarrier : bitmap 32 = BitVec.allOnes 64) (hend : index + len ≤ 2048) :
    Bitmap.writeRange b bitmap index len 32 = BitVec.allOnes 64 := by
  rw [Bitmap.eq_allOnes_iff (by decide)] at hbarrier ⊢
  intro i hlo hhi
  rw [Bitmap.bit_writeRange (by decide), if_neg (by omega)]
  exact hbarrier i hlo hhi

namespace SlabOk

variable (h : SlabOk ctrl live)
include h

section

variable (hpos : 0 < required) (hend : first + required ≤ 2048)
  (hfree : ∀ i, first ≤ i → i < first + required → ctrl.bitmap.bit i = false)
include hpos hend hfree

theorem free_disjoint :
    reserved ≤ first ∧ ∀ f ∈ live, f + ctrl.sizes f ≤ first ∨ first + required ≤ f := by
  constructor
  · by_contra hlt
    have hset := (h.bit_iff first (by omega)).mpr (.inl (by omega))
    rw [hfree first (Nat.le_refl _) (by omega)] at hset
    exact absurd hset (by simp)
  · intro f hf
    by_contra hover
    have hlt := h.first_lt hf
    have hsize : ctrl.sizes f ≠ 0 := (h.sizes_iff f).mpr hf
    -- the later of the two first units would be both marked and free
    have hset := (h.bit_iff (max f first) (by omega)).mpr (.inr ⟨f, hf, by omega, by omega⟩)
    rw [hfree (max f first) (by omega) (by omega)] at hset
    exact absurd hset (by simp)

theorem take : SlabOk (ctrl.mark first required) (first :: live) := by
  obtain ⟨hres, hdis⟩ := h.free_disjoint hpos hend hfree
  have hnew : first ∉ live := by
    intro hmem
    have hsize := (h.sizes_iff first).mpr hmem
    rcases hdis first hmem with hle | hle <;> omega
  -- the lengths of the other blocks are as they were
  have hold : ∀ f ∈ live, (ctrl.mark first required).sizes f = ctrl.sizes f := by
    intro f hf
    refine ctrl.sizes_mark_ne required fun heq => hnew ?_
    rwa [heq] at hf
  have hself := ctrl.sizes_mark_self first (show required < 2 ^ 16 by omega)
  refine ⟨?_, barrier_writeRange h.barrier hend, ?_, ?_, ?_, List.nodup_cons.mpr ⟨hnew, h.nodup⟩⟩
  · intro i hi
    rw [ctrl.bit_mark, h.bit_iff i hi, or_left_comm, List.exists_mem_cons_iff, hself]
    refine or_congr_right (or_congr_right (exists_congr fun f => and_congr_right fun hf => ?_))
    rw [hold f hf]
  · intro j
    rcases eq_or_ne j first with rfl | hne
    · rw [hself]
      exact ⟨fun _ => List.mem_cons_self, fun _ => by omega⟩
    · rw [ctrl.sizes_mark_ne required hne, h.sizes_iff j, List.mem_cons]
      exact ⟨.inr, fun hmem => hmem.resolve_left hne⟩
  · intro f hf
    rcases List.mem_cons.mp hf with rfl | hf
    · rw [hself]
      exact ⟨hres, hend⟩
    · rw [hold f hf]
      exact h.inside f hf
  · intro f hf g hg hne
    rcases List.mem_cons.mp hf with rfl | hf'
    · rcases List.mem_cons.mp hg with rfl | hg'
      · exact absurd rfl hne
      · rw [hself, hold g hg']
        exact (hdis g hg').symm
    · rcases List.mem_cons.mp hg with rfl | hg'
      · rw [hself, hold f hf']
        exact hdis f hf'
      · rw [hold f hf', hold g hg']
        exact h.disjoint f hf' g hg' hne

end

theorem release (hfirst : first ∈ live) : SlabOk (ctrl.unmark first) (live.erase first) := by
  obtain ⟨hres, hend⟩ := h.inside first hfirst
  have hmem : ∀ f, f ∈ live.erase first ↔ f ≠ first ∧ f ∈ live := fun f => h.nodup.mem_erase_iff
  have hold : ∀ f ∈ live.erase first, (ctrl.unmark first).sizes f = ctrl.sizes f := by
    intro f hf
    exact ctrl.sizes_unmark_ne ((hmem f).mp hf).1
  refine ⟨?_, barrier_writeRange h.barrier hend, ?_, ?_, ?_, h.nodup.erase first⟩
  · intro i hi
    rw [ctrl.bit_unmark, h.bit_iff i hi]
    constructor
    · rintro ⟨hout, hres' | ⟨f, hf, hlo, hhi⟩⟩
      · exact .inl hres'
      · have hf' : f ∈ live.erase first := (hmem f).mpr ⟨fun heq => hout (heq ▸ ⟨hlo, hhi⟩), hf⟩
        exact .inr ⟨f, hf', hlo, by rw [hold f hf']; exact hhi⟩
    · rintro (hres' | ⟨f, hf, hlo, hhi⟩)
      · exact ⟨by omega, .inl hres'⟩
      · rw [hold f hf] at hhi
        obtain ⟨hne, hf'⟩ := (hmem f).mp hf
        have hdis := h.disjoint f hf' first hfirst hne
        exact ⟨by omega, .inr ⟨f, hf', hlo, hhi⟩⟩
  · intro j
    rw [hmem]
    rcases eq_or_ne j first with rfl | hne
    · simp [ctrl.sizes_unmark_self]
    · rw [ctrl.sizes_unmark_ne hne, h.sizes_iff j]
      exact ⟨fun hj' => ⟨hne, hj'⟩, And.right⟩
  · intro f hf
    rw [hold f hf]
    exact h.inside f ((hmem f).mp hf).2
  · intro f hf g hg hne
    rw [hold f hf, hold g hg]
    exact h.disjoint f ((hmem f).mp hf).2 g ((hmem g).mp hg).2 hne

theorem memAlloc (align : Nat) (hsize : 0 < size) (hmax : size + 1023 < 2 ^ 64) :
    SlabOk (memAlloc ctrl size align).2 ((memAlloc ctrl size align).1.toList ++ live) := by
  rcases memAlloc_cases hsize hmax with heq | ⟨first, required, -, hpos, hend, hfree, heq⟩
  · rw [heq]
    exact h
  · rw [heq]
    exact h.take hpos hend hfree

theorem memFree_true (hfree : (memFree ctrl base block).1 = true) :
    (block - base) / 1024 ∈ live ∧
      SlabOk (memFree ctrl base block).2 (live.erase ((block - base) / 1024)) := by
  rcases memFree_cases ctrl base block with heq | ⟨first, rfl, hsize, hend, heq⟩
  · rw [heq] at hfree
    exact absurd hfree (by simp)
  · have hfirst := (h.sizes_iff _).mp hsize
    rw [heq]
    exact ⟨hfirst, h.release hfirst⟩

end SlabOk

theorem memFree_false (hfree : (memFree ctrl base block).1 = false) :
    (memFree ctrl base block).2 = ctrl := by
  rcases memFree_cases ctrl base block with heq | ⟨first, -, -, -, heq⟩
  · rw [heq]
  · rw [heq] at hfree
    exact absurd hfree (by simp)

/-- Initialising a slab without live blocks, fresh or used before. -/
theorem SlabOk.init (hbits : ∀ i < 2048, ctrl.bitmap.bit i = true → i < reserved)
    (hsizes : ∀ j, ctrl.sizes j = 0) : SlabOk (initSlab ctrl) [] := by
  refine ⟨?_, ?_, ?_, by simp, by simp, List.nodup_nil⟩
  · intro i hi
    rw [initSlab, Bitmap.bit_setWord, if_neg (by omega), bit_setBitmap]
    simp only [List.not_mem_nil, false_and, exists_false, or_false]
    exact ⟨fun hset => hset.elim (by omega) (hbits i hi), fun hlt => .inl (by omega)⟩
  · simp [initSlab, Bitmap.setWord]
  · intro j
    simp [initSlab, hsizes j]

theorem SlabOk.init_zeroed : SlabOk (initSlab BlockCtrl.zeroed) [] :=
  SlabOk.init (by simp [BlockCtrl.zeroed, Bitmap.bit]) (by simp [BlockCtrl.zeroed])

end Keep

/-! ## Runs -/

/-- A slab with the blocks allocated and not freed. -/
structure SlabState where
  ctrl : BlockCtrl
  live : List Nat

/-- A call on the slab. -/
inductive SlabEvent where
  | alloc (size align : Nat)
  | free (block : Nat)

/-- A slab after `init_slab_and_alloc` on zeroed memory. -/
def SlabState.start (size align : Nat) : SlabState :=
  let r := initSlabAndAlloc BlockCtrl.zeroed size align
  ⟨r.2, r.1.toList⟩

/-- A call on a slab at address `base`: an allocation of at least a byte, or a free of any pointer
    into the slab. -/
def SlabState.step (base : Nat) (s : SlabState) : SlabEvent → Option SlabState
  | .alloc size align =>
      if 0 < size ∧ size < 2 ^ 64 then
        let r := memAlloc s.ctrl size align
        some ⟨r.2, r.1.toList ++ s.live⟩
      else none
  | .free block =>
      if base ≤ block ∧ block < base + 2097152 then
        let r := memFree s.ctrl base block
        some ⟨r.2, if r.1 then s.live.erase ((block - base) / 1024) else s.live⟩
      else none

/-- A size that `div_round_up` rounds up without overflow. -/
def RoundsUp (size : Nat) : Prop := size + 1023 < 2 ^ 64

/-- A call whose size is rounded up without overflow. -/
def SlabEvent.RoundsUp : SlabEvent → Prop
  | .alloc size _ => Usdm.RoundsUp size
  | .free _ => True

/-- The slab at `base` as a system. -/
def slab (base : Nat) : System SlabState SlabEvent where
  Init s := ∃ size align, 0 < size ∧ Usdm.RoundsUp size ∧ s = SlabState.start size align
  step := SlabState.step base

theorem SlabOk.start (align : Nat) (hsize : 0 < size) (hmax : RoundsUp size) :
    SlabOk (SlabState.start size align).ctrl (SlabState.start size align).live := by
  have h := SlabOk.init_zeroed.memAlloc align hsize hmax
  rwa [List.append_nil] at h

theorem SlabOk.step {s s' : SlabState} {e : SlabEvent} (h : SlabOk s.ctrl s.live)
    (hok : e.RoundsUp) (hstep : s.step base e = some s') : SlabOk s'.ctrl s'.live := by
  cases e with
  | alloc size align =>
    obtain ⟨⟨hsize, -⟩, ⟨⟩⟩ := Option.ite_none_right_eq_some.mp hstep
    exact h.memAlloc align hsize hok
  | free block =>
    obtain ⟨-, ⟨⟩⟩ := Option.ite_none_right_eq_some.mp hstep
    dsimp only
    split
    · next hfree => exact (h.memFree_true hfree).2
    · next hfree => rwa [memFree_false (by simpa using hfree)]

/-- **In every run whose sizes can be rounded up, the control block describes the live blocks.** -/
theorem slab_describes_live (base : Nat) {s : SlabState}
    (h : (slab base).ReachableBy (fun _ e => e.RoundsUp) s) : SlabOk s.ctrl s.live := by
  refine h.invariant (fun s => SlabOk s.ctrl s.live) ?_ ?_
  · rintro s ⟨size, align, hsize, hmax, rfl⟩
    exact SlabOk.start align hsize hmax
  · intro s e s' hinv hok hstep
    exact hinv.step hok hstep

/-- A slab with two live blocks, after one of three was freed. -/
theorem slab_describes_live_two_blocks :
    ∃ s, (slab 2097152).ReachableBy (fun _ e => e.RoundsUp) s ∧ s.live = [8, 5] ∧
      SlabOk s.ctrl s.live := by
  have hfree (s : SlabState) : (slab 2097152).step s (.free 2103296) =
      some ⟨(memFree s.ctrl 2097152 2103296).2,
        if (memFree s.ctrl 2097152 2103296).1 then s.live.erase 6 else s.live⟩ := by
    simp [slab, SlabState.step]
  have hrun : (slab 2097152).Run (fun _ e => e.RoundsUp) (SlabState.start 1024 0) _ :=
    .head (e := .alloc 2048 0) (show 2048 + 1023 < 2 ^ 64 by decide) rfl
      (.head (e := .alloc 3000 0) (show 3000 + 1023 < 2 ^ 64 by decide) rfl
      (.head (e := .free 2103296) trivial (hfree _) (.refl _)))
  have hreach : (slab 2097152).ReachableBy (fun _ e => e.RoundsUp) _ :=
    ⟨_, ⟨1024, 0, by decide, show 1024 + 1023 < 2 ^ 64 by decide, rfl⟩, hrun⟩
  exact ⟨_, hreach, by decide +kernel, slab_describes_live 2097152 hreach⟩

/-- A size that overflows is rounded up to no unit at all: the call returns the address of the
    control block. -/
theorem memAlloc_overflow (ctrl : BlockCtrl) (align : Nat) (hmax : ¬RoundsUp size)
    (hlt : size < 2 ^ 64) : memAlloc ctrl size align = (some 0, ctrl.mark 0 0) := by
  unfold RoundsUp at hmax
  have hreq : divRoundUp size 1024 = 0 := by
    rw [divRoundUp, Nat.mod_eq_sub_mod (by omega), Nat.mod_eq_of_lt (by omega)]
    exact Nat.div_eq_of_lt (by omega)
  have hfind : findBlocks ctrl.bitmap align 0 = .block 0 := by
    rw [findBlocks, searchBlocks]
    exact if_pos (Nat.zero_le _)
  simp only [memAlloc, if_neg (show size ≠ 0 by omega), hreq, hfind]

/-- The control block is handed out as a block without a length. -/
theorem slab_hands_out_ctrl :
    ∃ s, (slab 2097152).Reachable s ∧ 0 ∈ s.live ∧ ¬SlabOk s.ctrl s.live := by
  have hinit : (slab 2097152).Init (SlabState.start 1024 0) :=
    ⟨1024, 0, by decide, show 1024 + 1023 < 2 ^ 64 by decide, rfl⟩
  have hmem : 0 ∈ (memAlloc (SlabState.start 1024 0).ctrl (2 ^ 64 - 1) 0).1.toList ++
      (SlabState.start 1024 0).live := by
    rw [memAlloc_overflow _ 0 (by unfold RoundsUp; decide) (by decide)]
    exact List.mem_cons_self
  refine ⟨_, System.reachable_of_exec _ [.alloc (2 ^ 64 - 1) 0] hinit rfl, hmem, fun h => ?_⟩
  exact absurd (h.inside 0 hmem).1 (by decide)

end Qatlib.Usdm
