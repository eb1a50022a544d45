import Qatlib.Usdm.SlabInvariant

set_option autoImplicit false

/-! # First fit

What `__qae_mem_alloc` finds: the lowest aligned start with enough free units behind it, or nothing
when there is none. The search reads windows of 64 units. It leaves a run of free units that is too
short together with the marked units next to it, and moves up to the next aligned position; a run
that fills its window is carried on to the next one. The barrier behind the last unit ends every run
inside the slab. -/

namespace Qatlib.Usdm

/-! ## The loop without a bound -/

/-- One round of the loop of `__qae_mem_alloc`, on `window_pos`, `first_block` and `blocks_found`: its
    end, or the values for the next round. -/
def searchRound (bitmap : Bitmap 64) (align required : Nat) :
    Nat × Nat × Nat → Search ⊕ (Nat × Nat × Nat)
  | (windowPos, firstBlock, blocksFound) =>
      let window := bitmapRead bitmap windowPos
      let width := memCtzll window
      if blocksFound + width ≥ required then
        .inl (if firstBlock + required > 2048 then .exceedsWindow else .block firstBlock)
      else if window ≠ 0 then
        let pos := skipRun align window windowPos
        if pos < 2048 then .inr (pos, pos, 0) else .inl .noFit
      else
        let pos := windowPos + width
        if pos < 2048 then .inr (pos, firstBlock, blocksFound + width) else .inl .noFit

/-- The loop ends with a result. -/
inductive SearchEnds (bitmap : Bitmap 64) (align required : Nat) : Nat × Nat × Nat → Search → Prop
    where
  | stop {st : Nat × Nat × Nat} {r : Search} (h : searchRound bitmap align required st = .inl r) :
      SearchEnds bitmap align required st r
  | next {st st' : Nat × Nat × Nat} {r : Search}
      (h : searchRound bitmap align required st = .inr st')
      (hrest : SearchEnds bitmap align required st' r) : SearchEnds bitmap align required st r

theorem searchBlocks_succ (bitmap : Bitmap 64) (align required fuel pos first found : Nat) :
    searchBlocks bitmap align required (fuel + 1) pos first found =
      match searchRound bitmap align required (pos, first, found) with
      | .inl r => r
      | .inr (pos', first', found') =>
          searchBlocks bitmap align required fuel pos' first' found' := by
  rw [searchBlocks, searchRound]
  dsimp only
  split
  · rfl
  · split
    · split <;> rfl
    · split <;> rfl

variable {i pos align required : Nat} {st : Nat × Nat × Nat} {bitmap : Bitmap 64} {r : Search}
  {ctrl : BlockCtrl}

/-- Every round moves on, inside the slab. -/
theorem lt_of_searchRound {st' : Nat × Nat × Nat}
    (h : searchRound bitmap align required st = .inr st') : st.1 < st'.1 ∧ st'.1 < 2048 := by
  obtain ⟨pos, first, found⟩ := st
  rw [searchRound] at h
  dsimp only at h
  split at h
  · exact absurd h (by simp)
  · split at h
    · next hwindow =>
      split at h
      · next hlt =>
        obtain rfl := Sum.inr.inj h
        exact ⟨lt_skipRun align hwindow pos, hlt⟩
      · exact absurd h (by simp)
    · next hwindow =>
      split at h
      · next hlt =>
        obtain rfl := Sum.inr.inj h
        have hwidth : memCtzll (bitmapRead bitmap pos) = 64 := if_pos (not_not.mp hwindow)
        exact ⟨by dsimp only; omega, hlt⟩
      · exact absurd h (by simp)

/-- The loop ends, and the bound on its rounds is not what ends it. -/
theorem searchBlocks_ends {fuel : Nat} (hpos : st.1 < 2048) (hfuel : 2048 ≤ fuel + st.1) :
    SearchEnds bitmap align required st
      (searchBlocks bitmap align required fuel st.1 st.2.1 st.2.2) := by
  induction fuel generalizing st with
  | zero => omega
  | succ fuel ih =>
    rw [searchBlocks_succ]
    cases hround : searchRound bitmap align required st with
    | inl r => exact .stop hround
    | inr st' =>
      obtain ⟨hlt, hlt'⟩ := lt_of_searchRound hround
      exact .next hround (ih hlt' (by omega))

theorem findBlocks_ends (bitmap : Bitmap 64) (align required : Nat) :
    SearchEnds bitmap align required (0, 0, 0) (findBlocks bitmap align required) :=
  searchBlocks_ends (show 0 < 2048 by decide) (Nat.le_refl 2048)

/-! ## Places for a block -/

/-- A start at which a block can be placed; any start is aligned when `align` is 0. -/
structure Fits (bitmap : Bitmap 64) (align required start : Nat) : Prop where
  aligned : align ≠ 0 → align ∣ start
  inside : start + required ≤ 2048
  free : ∀ i, start ≤ i → i < start + required → bitmap.bit i = false

/-- What the result of a search should say. -/
def Search.FirstFit (bitmap : Bitmap 64) (align required : Nat) : Search → Prop
  | .block first => Fits bitmap align required first ∧ ∀ s < first, ¬Fits bitmap align required s
  | .exceedsWindow => False
  | .noFit => ∀ s, ¬Fits bitmap align required s

section Rounds

variable {bitmap : Bitmap 64} {align required : Nat}

theorem bit_memCtzll (hpos : pos < 2048) (hwindow : bitmapRead bitmap pos ≠ 0) :
    bitmap.bit (pos + memCtzll (bitmapRead bitmap pos)) = true := by
  have hread : bitmapRead bitmap pos = bitmap.window pos := by rw [bitmapRead, if_neg (by omega)]
  rw [hread] at hwindow ⊢
  have hctz : memCtzll (bitmap.window pos) = trailingZeros (bitmap.window pos) := if_neg hwindow
  have hlt : trailingZeros (bitmap.window pos) < 64 := by
    refine Nat.lt_of_le_of_ne (trailingZeros_le _) fun hfull => hwindow ?_
    refine BitVec.eq_of_getLsbD_eq fun j hj => ?_
    rw [getLsbD_of_lt_trailingZeros _ (by omega)]
    simp
  rw [hctz, ← Bitmap.getLsbD_window bitmap pos hlt]
  exact getLsbD_trailingZeros _ hlt

/-- The ones that a round skips are marked units. -/
theorem bit_of_skipped (hpos : pos < 2048) (hlo : pos + memCtzll (bitmapRead bitmap pos) ≤ i)
    (hhi : i < pos + (memCtzll (bitmapRead bitmap pos) +
      memCtzll (~~~(bitmapRead bitmap pos >>> memCtzll (bitmapRead bitmap pos))))) :
    bitmap.bit i = true := by
  have hread : bitmapRead bitmap pos = bitmap.window pos := by rw [bitmapRead, if_neg (by omega)]
  rw [hread] at hlo hhi
  generalize hwidth : memCtzll (bitmap.window pos) = width at hlo hhi
  have hle := memCtzll_le (~~~(bitmap.window pos >>> width))
  have hclear := getLsbD_of_lt_memCtzll
    (show i - (pos + width) < memCtzll (~~~(bitmap.window pos >>> width)) by omega)
  have hset : (bitmap.window pos).getLsbD (width + (i - (pos + width))) = true := by
    rw [BitVec.getLsbD_not, BitVec.getLsbD_ushiftRight] at hclear
    simpa [show i - (pos + width) < 64 by omega] using hclear
  have hin : width + (i - (pos + width)) < 64 := BitVec.lt_of_getLsbD hset
  rw [Bitmap.getLsbD_window bitmap pos hin] at hset
  rwa [show pos + (width + (i - (pos + width))) = i by omega] at hset

/-- Moving up to the next multiple of the alignment passes no multiple of it. -/
theorem skipRun_aligned (align : Nat) (window : BitVec 64) (pos : Nat) :
    let stop := pos + (memCtzll window + memCtzll (~~~(window >>> memCtzll window)))
    stop ≤ skipRun align window pos ∧ (align ≠ 0 → align ∣ skipRun align window pos) ∧
      ∀ s, stop ≤ s → s < skipRun align window pos → align ≠ 0 ∧ ¬align ∣ s := by
  intro stop
  show stop ≤ (if align ≠ 0 ∧ stop % align ≠ 0 then stop + (align - stop % align) else stop) ∧ _
  rw [show skipRun align window pos =
    if align ≠ 0 ∧ stop % align ≠ 0 then stop + (align - stop % align) else stop from rfl]
  generalize stop = q
  split
  · next h =>
    have hmod := Nat.mod_lt q (Nat.pos_of_ne_zero h.1)
    have hdiv := Nat.div_add_mod q align
    have hnext : q + (align - q % align) = align * (q / align + 1) := by
      rw [Nat.mul_succ]
      omega
    refine ⟨Nat.le_add_right _ _, fun _ => ⟨_, hnext⟩, fun s hlo hhi => ⟨h.1, ?_⟩⟩
    rintro ⟨k, rfl⟩
    rw [hnext] at hhi
    -- between two neighbouring multiples of the alignment
    have hk : k < q / align + 1 := Nat.lt_of_mul_lt_mul_left hhi
    have hle : align * k ≤ align * (q / align) := Nat.mul_le_mul_left align (by omega)
    have := Nat.pos_of_ne_zero h.2
    omega
  · next h =>
    refine ⟨Nat.le_refl _, fun halign => ?_, fun s hlo hhi => by omega⟩
    by_contra hdvd
    exact h ⟨halign, fun hzero => hdvd (Nat.dvd_of_mod_eq_zero hzero)⟩

/-- What a round of the search knows. -/
structure Searching (bitmap : Bitmap 64) (align required pos first found : Nat) : Prop where
  inside : pos < 2048
  run : first + found = pos
  free : ∀ i, first ≤ i → i < pos → bitmap.bit i = false
  aligned : align ≠ 0 → align ∣ first
  passed : ∀ s < first, ¬Fits bitmap align required s

variable {pos first found : Nat}

namespace Searching

variable (h : Searching bitmap align required pos first found)
include h

/-- The run of a round, with the zeros of its window. -/
theorem run_free (hlo : first ≤ i) (hhi : i < pos + memCtzll (bitmapRead bitmap pos)) :
    bitmap.bit i = false := by
  rcases Nat.lt_or_ge i pos with hlt | hge
  · exact h.free i hlo hlt
  · exact bit_of_lt_memCtzll h.inside hge hhi

/-- The barrier ends the run inside the slab. -/
theorem run_inside (hbarrier : bitmap 32 = BitVec.allOnes 64) :
    pos + memCtzll (bitmapRead bitmap pos) ≤ 2048 := by
  by_contra hout
  have hset := (Bitmap.eq_allOnes_iff (by decide) bitmap 32).mp hbarrier 2048 (by decide) (by decide)
  have hfirst : first ≤ 2048 := by
    have := h.run
    have := h.inside
    omega
  rw [h.run_free hfirst (by omega)] at hset
  exact absurd hset (by simp)

/-- A run that is too short has no place for the block. -/
theorem too_short (hshort : found + memCtzll (bitmapRead bitmap pos) < required)
    (hwindow : bitmapRead bitmap pos ≠ 0) {s : Nat}
    (hs : s < skipRun align (bitmapRead bitmap pos) pos) : ¬Fits bitmap align required s := by
  intro hfits
  have hrun := h.run
  have hmarked := bit_memCtzll h.inside hwindow
  obtain ⟨-, -, hskip⟩ := skipRun_aligned align (bitmapRead bitmap pos) pos
  by_cases hbefore : s < first
  · exact h.passed s hbefore hfits
  by_cases hin : s ≤ pos + memCtzll (bitmapRead bitmap pos)
  · -- from inside the run the block would reach the marked unit behind it
    rw [hfits.free _ hin (by omega)] at hmarked
    exact absurd hmarked (by simp)
  by_cases hones : s < pos + (memCtzll (bitmapRead bitmap pos) +
      memCtzll (~~~(bitmapRead bitmap pos >>> memCtzll (bitmapRead bitmap pos))))
  · have hset := bit_of_skipped h.inside (by omega) hones
    rw [hfits.free s (Nat.le_refl s) (by omega)] at hset
    exact absurd hset (by simp)
  · obtain ⟨halign, hdvd⟩ := hskip s (by omega) hs
    exact hdvd (hfits.aligned halign)

/-- **A round that ends the loop ends it with the first fit.** -/
theorem stop (hbarrier : bitmap 32 = BitVec.allOnes 64) (hpos : 0 < required)
    (hround : searchRound bitmap align required (pos, first, found) = .inl r) :
    r.FirstFit bitmap align required := by
  have hrun := h.run
  have hinside := h.run_inside hbarrier
  rw [searchRound] at hround
  dsimp only at hround
  split at hround
  · obtain rfl := Sum.inl.inj hround
    rw [if_neg (by omega)]
    exact ⟨⟨h.aligned, by omega, fun i hlo hhi => h.run_free hlo (by omega)⟩, h.passed⟩
  · next hshort =>
    split at hround
    · next hwindow =>
      split at hround
      · exact absurd hround (by simp)
      · next hout =>
        obtain rfl := Sum.inl.inj hround
        intro s hfits
        have hend := hfits.inside
        exact h.too_short (by omega) hwindow (by omega) hfits
    · split at hround
      · exact absurd hround (by simp)
      · obtain rfl := Sum.inl.inj hround
        intro s hfits
        have hend := hfits.inside
        by_cases hbefore : s < first
        · exact h.passed s hbefore hfits
        · omega

theorem next (hround : searchRound bitmap align required (pos, first, found) = .inr st) :
    Searching bitmap align required st.1 st.2.1 st.2.2 := by
  obtain ⟨-, hlt⟩ := lt_of_searchRound hround
  have hrun := h.run
  rw [searchRound] at hround
  dsimp only at hround
  split at hround
  · exact absurd hround (by simp)
  · next hshort =>
    split at hround
    · next hwindow =>
      split at hround
      · obtain rfl := Sum.inr.inj hround
        obtain ⟨-, haligned, -⟩ := skipRun_aligned align (bitmapRead bitmap pos) pos
        exact ⟨hlt, rfl, fun i hlo hhi => absurd hhi (Nat.not_lt.mpr hlo), haligned,
          fun s hs => h.too_short (by omega) hwindow hs⟩
      · exact absurd hround (by simp)
    · split at hround
      · obtain rfl := Sum.inr.inj hround
        exact ⟨hlt, by dsimp only; omega, fun i hlo hhi => h.run_free hlo hhi, h.aligned, h.passed⟩
      · exact absurd hround (by simp)

end Searching

/-- The whole loop, by induction on its rounds. -/
theorem SearchEnds.firstFit (h : SearchEnds bitmap align required st r)
    (hbarrier : bitmap 32 = BitVec.allOnes 64) (hpos : 0 < required)
    (hst : Searching bitmap align required st.1 st.2.1 st.2.2) :
    r.FirstFit bitmap align required := by
  induction h with
  | stop hround => exact hst.stop hbarrier hpos hround
  | next hround _ ih => exact ih (hst.next hround)

theorem findBlocks_firstFit (align : Nat) (hbarrier : bitmap 32 = BitVec.allOnes 64)
    (hpos : 0 < required) : (findBlocks bitmap align required).FirstFit bitmap align required := by
  refine (findBlocks_ends bitmap align required).firstFit hbarrier hpos ?_
  exact ⟨by decide, rfl, fun i _ hi => absurd hi (Nat.not_lt_zero i), fun _ => Nat.dvd_zero align,
    fun s hs => absurd hs (Nat.not_lt_zero s)⟩

end Rounds

/-! ## Allocation -/

/-- An allocation by first fit: what `__qae_mem_alloc` returns and leaves behind. -/
structure AllocatesFirst (ctrl : BlockCtrl) (align required : Nat) (r : Option Nat × BlockCtrl) :
    Prop where
  null_iff : r.1 = none ↔ ∀ s, ¬Fits ctrl.bitmap align required s
  unchanged : r.1 = none → r.2 = ctrl
  fits : ∀ f, r.1 = some f → Fits ctrl.bitmap align required f
  smallest : ∀ f, r.1 = some f → ∀ s < f, ¬Fits ctrl.bitmap align required s
  /-- The units of the block are marked, and no others. -/
  marked : ∀ f, r.1 = some f → ∀ i, r.2.bitmap.bit i = true ↔
    (f ≤ i ∧ i < f + required) ∨ ctrl.bitmap.bit i = true
  /-- The length of the block is recorded, and no other. -/
  recorded : ∀ f, r.1 = some f → r.2.sizes = Function.update ctrl.sizes f required

theorem AllocatesFirst.null (h : ∀ s, ¬Fits ctrl.bitmap align required s) :
    AllocatesFirst ctrl align required (none, ctrl) :=
  ⟨⟨fun _ => h, fun _ => rfl⟩, fun _ => rfl, by simp, by simp, by simp, by simp⟩

theorem AllocatesFirst.block {first : Nat} (hfits : Fits ctrl.bitmap align required first)
    (hfirst : ∀ s < first, ¬Fits ctrl.bitmap align required s) :
    AllocatesFirst ctrl align required (some first, ctrl.mark first required) := by
  have hsome : ∀ f, some first = some f → f = first := fun f h => (Option.some.inj h).symm
  refine ⟨⟨by simp, fun h => absurd hfits (h first)⟩, by simp, ?_, ?_, ?_, ?_⟩
  · intro f hf
    rwa [hsome f hf]
  · intro f hf
    rwa [hsome f hf]
  · intro f hf i
    rw [hsome f hf]
    exact ctrl.bit_mark first required i
  · intro f hf
    have hend := hfits.inside
    rw [hsome f hf, BlockCtrl.mark, Nat.mod_eq_of_lt (by omega)]

/-- **`__qae_mem_alloc` allocates by first fit.** Of the invariant of the slab only the barrier is
    needed. The search ends, and it never ends with a block that exceeds the bitmap. -/
theorem memAlloc_first_fit {ctrl : BlockCtrl} {size : Nat} (align : Nat)
    (hbarrier : ctrl.bitmap 32 = BitVec.allOnes 64) (hsize : 0 < size) (hmax : RoundsUp size) :
    AllocatesFirst ctrl align ((size + 1023) / 1024) (memAlloc ctrl size align) ∧
      SearchEnds ctrl.bitmap align (divRoundUp size 1024) (0, 0, 0)
        (findBlocks ctrl.bitmap align (divRoundUp size 1024)) ∧
      findBlocks ctrl.bitmap align (divRoundUp size 1024) ≠ .exceedsWindow := by
  have hreq := divRoundUp_eq hmax
  have hfirst := findBlocks_firstFit align hbarrier (show 0 < (size + 1023) / 1024 by omega)
  rw [hreq]
  refine ⟨?_, findBlocks_ends _ _ _, fun hexceeds => by rw [hexceeds] at hfirst; exact hfirst⟩
  rw [memAlloc, if_neg (by omega), hreq]
  dsimp only
  cases hfind : findBlocks ctrl.bitmap align ((size + 1023) / 1024) with
  | block first =>
    rw [hfind] at hfirst
    exact AllocatesFirst.block hfirst.1 hfirst.2
  | exceedsWindow =>
    rw [hfind] at hfirst
    exact absurd hfirst id
  | noFit =>
    rw [hfind] at hfirst
    exact AllocatesFirst.null hfirst

/-- A slab with blocks at the units 5 and 8. -/
def BlockCtrl.twoBlocks : BlockCtrl :=
  (memAlloc (memAlloc (initSlab BlockCtrl.zeroed) 2000 0).2 3000 4).2

/-- The next three units aligned to four start at unit 12, and one unit fits between the blocks. -/
theorem memAlloc_first_fit_two_blocks :
    (memAlloc BlockCtrl.twoBlocks 3000 4).1 = some 12 ∧
      AllocatesFirst BlockCtrl.twoBlocks 4 3 (memAlloc BlockCtrl.twoBlocks 3000 4) ∧
      (memAlloc BlockCtrl.twoBlocks 1000 0).1 = some 7 ∧
      AllocatesFirst BlockCtrl.twoBlocks 0 1 (memAlloc BlockCtrl.twoBlocks 1000 0) := by
  have hbarrier : BlockCtrl.twoBlocks.bitmap 32 = BitVec.allOnes 64 := by decide +kernel
  refine ⟨by decide +kernel, ?_, by decide +kernel, ?_⟩
  · exact (memAlloc_first_fit 4 hbarrier (show 0 < 3000 by decide)
      (show 3000 + 1023 < 2 ^ 64 by decide)).1
  · exact (memAlloc_first_fit 0 hbarrier (show 0 < 1000 by decide)
      (show 1000 + 1023 < 2 ^ 64 by decide)).1

/-- A size that overflows needs more units than there are, and is given the control block. -/
theorem overflow_not_first_fit :
    SlabOk (initSlab BlockCtrl.zeroed) [] ∧
      (memAlloc (initSlab BlockCtrl.zeroed) (2 ^ 64 - 1) 0).1 = some 0 ∧
      ∀ s, ¬Fits (initSlab BlockCtrl.zeroed).bitmap 0 (2 ^ 54) s := by
  refine ⟨SlabOk.init_zeroed, ?_, fun s hfits => ?_⟩
  · rw [memAlloc_overflow _ 0 (by unfold RoundsUp; decide) (by decide)]
  · have hend := hfits.inside
    omega

end Qatlib.Usdm
