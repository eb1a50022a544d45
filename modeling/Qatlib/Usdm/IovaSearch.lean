import Mathlib.Logic.Function.Iterate
import Qatlib.Usdm.Iova

set_option autoImplicit false

/-! # The search for a free IOVA range

Which positions `allocate_iova` tries. The aligned positions of the space are the multiples `1` to
`MAX_IOVA / alignment` of the alignment, and as many are tried, from `next_iova` on and around the end
of the space. A start behind the last position is a try for nothing, and the last position is then not
reached. -/

namespace Qatlib.Usdm

open IovaSpace

/-- A free range of the space at an aligned position. -/
structure IovaSpace.FreeAt (space : IovaSpace) (size alignment iova : Nat) : Prop where
  aligned : alignment ∣ iova
  valid : (⟨iova, size⟩ : IovaRange).Valid
  free : ∀ k, (⟨iova, size⟩ : IovaRange).Covers k → space.iovaUsed.bit k = false

/-- The last aligned position. -/
def lastIova (alignment : Nat) : Nat := 549753716736 / alignment * alignment

/-! ## Reserving a free range -/

variable {k n max size alignment : Nat}

theorem reserveUp_of_free {used : Bitmap 32} {slab : Nat}
    (hfree : ∀ k, slab ≤ k → k < slab + n → used.bit k = false) :
    (reserveUp used slab n).1 = n := by
  induction n generalizing used slab with
  | zero => rfl
  | succ n ih =>
    have hfirst := hfree slab (Nat.le_refl _) (by omega)
    have hrest : ∀ k, slab + 1 ≤ k → k < slab + 1 + n → (used.setBit slab).bit k = false := by
      intro k hlo hhi
      by_contra hset
      rw [Bool.not_eq_false, Bitmap.bit_setBit (by decide)] at hset
      rcases hset with heq | hset
      · omega
      · rw [hfree k (by omega) (by omega)] at hset
        exact absurd hset (by simp)
    rw [reserveUp, if_neg (by rw [hfirst]; simp)]
    show (reserveUp (used.setBit slab) (slab + 1) n).1 + 1 = n + 1
    rw [ih hrest]

variable {j iova : Nat} {space : IovaSpace}

/-- A free range is not refused. -/
theorem IovaSpace.FreeAt.reserves (h : space.FreeAt size alignment iova) :
    (iovaReserve space.iovaUsed iova size).1 = false := by
  obtain ⟨hpos, hmax, hfirst, -, hinside⟩ := h.valid
  dsimp only at hpos hmax hfirst hinside
  have hnum := divRoundUp_slab hmax
  have hfull : (reserveUp space.iovaUsed (iovaIdx iova) (slabCount size)).1 = slabCount size := by
    refine reserveUp_of_free fun k hlo hhi => h.free k ?_
    rw [iovaIdx_eq (by omega)] at hlo hhi
    exact ⟨hlo, hhi⟩
  have hmax' : ¬(iova + size + 2 ^ 64 - 2097152) % 2 ^ 64 > 549753716736 := by omega
  have heq : iovaReserve space.iovaUsed iova size =
      (false, (reserveUp space.iovaUsed (iovaIdx iova) (slabCount size)).2) := by
    rw [iovaReserve, if_neg hmax', hnum, if_neg (Nat.not_lt.mpr (Nat.le_of_eq hfull.symm))]
  rw [heq]

theorem IovaSpace.FreeAt.congr {space' : IovaSpace} (h : space.FreeAt size alignment iova)
    (hbits : space.SameBits space') : space'.FreeAt size alignment iova :=
  ⟨h.aligned, h.valid, fun k hk => (hbits k).trans (h.free k hk)⟩

/-! ## The positions that are tried -/

section Positions

variable {size alignment m : Nat}

section

variable (ha : 0 < alignment)
include ha

theorem mul_add_le_of_lt_div (hm : max / alignment = m) (hj : j < m) :
    j * alignment + alignment ≤ max := by
  subst hm
  have hle := (Nat.le_div_iff_mul_le ha).mp (Nat.succ_le_of_lt hj)
  rwa [Nat.succ_mul] at hle

theorem lt_mul_add_of_div_le (hm : max / alignment = m) (hj : m ≤ j) :
    max < j * alignment + alignment := by
  subst hm
  have hlt := (Nat.div_lt_iff_lt_mul ha).mp (Nat.lt_succ_of_le hj)
  rwa [Nat.succ_mul] at hlt

section

variable (hm : 549753716736 / alignment = m)
include hm

theorem nextCandidate_below (hj : j < m) :
    nextCandidate alignment (j * alignment) = (j + 1) * alignment := by
  rw [nextCandidate, Nat.succ_mul]
  exact if_neg (Nat.not_lt.mpr (mul_add_le_of_lt_div ha hm hj))

theorem nextCandidate_last (hj : m ≤ j) :
    nextCandidate alignment (j * alignment) = roundUp 2097152 alignment := by
  rw [nextCandidate]
  exact if_pos (lt_mul_add_of_div_le ha hm hj)

/-- From one position up to another. -/
theorem iterate_nextCandidate {i : Nat} (hi : j + i ≤ m) :
    (nextCandidate alignment)^[i] (j * alignment) = (j + i) * alignment := by
  induction i with
  | zero => rfl
  | succ i ih =>
    rw [Function.iterate_succ_apply', ih (by omega), nextCandidate_below ha hm (by omega),
      Nat.add_assoc]

/-- **As many tries as positions reach them all**, from any of them. -/
theorem exists_iterate_nextCandidate (hfirst : roundUp 2097152 alignment = alignment) {q : Nat}
    (hj : 1 ≤ j) (hj' : j ≤ m) (hq : 1 ≤ q) (hq' : q ≤ m) :
    ∃ i, i < m ∧ (nextCandidate alignment)^[i] (j * alignment) = q * alignment := by
  rcases Nat.lt_or_ge q j with hbefore | hafter
  · -- up to the last position, around, and up from the first
    have hup : (nextCandidate alignment)^[m - j] (j * alignment) = m * alignment := by
      rw [iterate_nextCandidate ha hm (by omega), Nat.add_sub_cancel' hj']
    have hround : (nextCandidate alignment)^[m - j + 1] (j * alignment) = 1 * alignment := by
      rw [Function.iterate_succ_apply', hup, nextCandidate_last ha hm (Nat.le_refl _), hfirst,
        Nat.one_mul]
    refine ⟨(q - 1) + (m - j + 1), by omega, ?_⟩
    rw [Function.iterate_add_apply, hround, iterate_nextCandidate ha hm (by omega),
      Nat.add_sub_cancel' hq]
  · refine ⟨q - j, by omega, ?_⟩
    rw [iterate_nextCandidate ha hm (by omega), Nat.add_sub_cancel' hafter]

end

end

/-- A search that finds nothing has met no free position. -/
theorem tryIova_zero (hpos : 0 < size) (hsize : size ≤ 67108864) (hdvd : 2097152 ∣ alignment)
    (ha : 0 < alignment) (hmax : alignment ≤ 4194304) (hfirst : 2097152 ≤ iova)
    (hiova : iova ≤ 1099511627776) (haligned : alignment ∣ iova) :
    (tryIova size alignment n space iova).1 = 0 ↔
      ∀ i, i < n → ¬space.FreeAt size alignment ((nextCandidate alignment)^[i] iova) := by
  induction n generalizing space iova with
  | zero => exact ⟨fun _ i hi => absurd hi (Nat.not_lt_zero i), fun _ => rfl⟩
  | succ n ih =>
    rcases iovaReserve_cases space.iovaUsed (r := ⟨iova, size⟩) hpos hsize hfirst hiova
      (hdvd.trans haligned) with ⟨used, heq, hsame⟩ | ⟨used, heq, hvalid, hclear, -⟩
    · -- this position is not free, the others are met by the rest of the search
      have hnow : ¬space.FreeAt size alignment iova := by
        intro hfree
        have hreserved := hfree.reserves
        rw [heq] at hreserved
        exact absurd hreserved (by simp)
      obtain ⟨hcand₁, hcand₂, hcand₃⟩ := nextCandidate_spec ha hmax haligned
      have hrest : (tryIova size alignment n { space with iovaUsed := used }
          (nextCandidate alignment iova)).1 = 0 ↔ _ := ih (by omega) hcand₂ hcand₃
      have hbits : space.SameBits { space with iovaUsed := used } := hsame
      have hbits' : ({ space with iovaUsed := used } : IovaSpace).SameBits space :=
        fun k => (hsame k).symm
      rw [show (tryIova size alignment (n + 1) space iova) =
        tryIova size alignment n { space with iovaUsed := used } (nextCandidate alignment iova) by
          simp only [tryIova, heq, if_true], hrest]
      constructor
      · intro h i hi hfree
        cases i with
        | zero => exact hnow hfree
        | succ i => exact h i (by omega) (hfree.congr hbits)
      · intro h i hi hfree
        exact h (i + 1) (by omega) (hfree.congr hbits')
    · -- a free position is taken
      have htake : (tryIova size alignment (n + 1) space iova).1 = iova := by
        simp only [tryIova, heq, Bool.false_eq_true, if_false]
      refine ⟨fun h => ?_, fun h => absurd ⟨haligned, hvalid, hclear⟩ (h 0 (by omega))⟩
      rw [htake] at h
      omega

/-- A free range is at one of the positions. -/
theorem IovaSpace.FreeAt.position (h : space.FreeAt size alignment iova) (ha : 0 < alignment)
    (hm : 549753716736 / alignment = m) : ∃ q, 1 ≤ q ∧ q ≤ m ∧ iova = q * alignment := by
  obtain ⟨hpos, -, hfirst, hdvd, hinside⟩ := h.valid
  dsimp only at hpos hfirst hdvd hinside
  obtain ⟨q, rfl⟩ := h.aligned
  rw [Nat.mul_comm] at hfirst hdvd hinside ⊢
  refine ⟨q, ?_, ?_, rfl⟩
  · rcases Nat.eq_zero_or_pos q with rfl | hq
    · omega
    · exact hq
  · rw [← hm]
    exact (Nat.le_div_iff_mul_le ha).mpr (by omega)

end Positions

/-! ## Completeness -/

/-- What `allocate_iova` is for: zero only when there is no free range, else a free range, which alone
    is marked. -/
structure AllocatesIova (space : IovaSpace) (size alignment : Nat) (out : Nat × IovaSpace) : Prop where
  exhausted : out.1 = 0 → ∀ iova, ¬space.FreeAt size alignment iova
  free : out.1 ≠ 0 → space.FreeAt size alignment out.1
  marked : out.1 ≠ 0 → ∀ k, out.2.iovaUsed.bit k = true ↔
    (⟨out.1, size⟩ : IovaRange).Covers k ∨ space.iovaUsed.bit k = true

/-- The search starts at a position, or the last position is not the only free one. -/
def SearchReaches (space : IovaSpace) (size alignment : Nat) : Prop :=
  roundUp space.nextIova alignment ≤ 549753716736 ∨
    (space.FreeAt size alignment (lastIova alignment) →
      ∃ iova, iova < lastIova alignment ∧ space.FreeAt size alignment iova)

section Complete

variable {space : IovaSpace} {size alignment m : Nat}

/-- An alignment as `allocate_iova` rounds it up: one IOVA slab or two. -/
structure SlabAlignment (alignment m : Nat) : Prop where
  dvd : 2097152 ∣ alignment
  pos : 0 < alignment
  max : alignment ≤ 4194304
  first : roundUp 2097152 alignment = alignment
  /-- The number of positions. -/
  positions : 549753716736 / alignment = m + 1

theorem slabAlignment_one : SlabAlignment 2097152 262142 :=
  ⟨by decide, by decide, by decide, by decide, rfl⟩

theorem slabAlignment_two : SlabAlignment 4194304 131070 :=
  ⟨by decide, by decide, by decide, by decide, rfl⟩

theorem slabAlignment_roundUp (ha : 0 < alignment) (hmax : alignment ≤ 4194304) :
    ∃ m, SlabAlignment (roundUp alignment 2097152) m := by
  have hspec := roundUp_spec (n := alignment) (s := 2097152) (by decide) (by omega)
  have hcases : roundUp alignment 2097152 = 2097152 ∨ roundUp alignment 2097152 = 4194304 := by
    omega
  rcases hcases with heq | heq
  · exact ⟨_, heq.symm ▸ slabAlignment_one⟩
  · exact ⟨_, heq.symm ▸ slabAlignment_two⟩

/-- A search from a position tries them all. -/
theorem tryIova_complete (hslab : SlabAlignment alignment m) (hpos : 0 < size)
    (hsize : size ≤ 67108864) (hj : 1 ≤ j) (hj' : j ≤ m + 1) (hmul : j * alignment ≤ 1099511627776) :
    (tryIova size alignment (m + 1) space (j * alignment)).1 = 0 ↔
      ∀ iova, ¬space.FreeAt size alignment iova := by
  obtain ⟨hdvd, ha, hmax, hfirst, hm⟩ := hslab
  have hle : alignment ≤ j * alignment := Nat.le_mul_of_pos_left _ hj
  have hge : 2097152 ≤ alignment := Nat.le_of_dvd ha hdvd
  rw [tryIova_zero hpos hsize hdvd ha hmax (Nat.le_trans hge hle) hmul (Nat.dvd_mul_left _ _)]
  constructor
  · intro h iova hfree
    obtain ⟨q, hq, hq', rfl⟩ := hfree.position ha hm
    obtain ⟨i, hi, heq⟩ := exists_iterate_nextCandidate ha hm hfirst hj hj' hq hq'
    exact h i hi (heq ▸ hfree)
  · intro h i _
    exact h _

/-- A search from behind the last position does not get back to it. -/
theorem tryIova_behind (hslab : SlabAlignment alignment m) (hpos : 0 < size)
    (hsize : size ≤ 67108864) (hbehind : 549753716736 < iova) (hiova : iova ≤ 1099511627776)
    (haligned : alignment ∣ iova) :
    (tryIova size alignment (m + 1) space iova).1 = 0 ↔
      ∀ q, 1 ≤ q → q ≤ m → ¬space.FreeAt size alignment (q * alignment) := by
  obtain ⟨hdvd, ha, hmax, hfirst, hm⟩ := hslab
  obtain ⟨j, rfl⟩ := haligned
  rw [Nat.mul_comm] at hbehind hiova ⊢
  have hj : m + 1 ≤ j := by
    by_contra hlt
    have hle := mul_add_le_of_lt_div ha hm (Nat.lt_of_not_le hlt)
    omega
  have hnow : ∀ q, m + 1 < q → ¬space.FreeAt size alignment (q * alignment) := by
    intro q hq hfree
    obtain ⟨q', -, hq', heq⟩ := hfree.position ha hm
    have hqq : q = q' := Nat.eq_of_mul_eq_mul_right ha heq
    omega
  have hj' : m + 1 < j := by
    rcases Nat.eq_or_lt_of_le hj with rfl | hlt
    · have hle := Nat.div_mul_le_self 549753716736 alignment
      rw [hm] at hle
      omega
    · exact hlt
  have hstep : ∀ i, i < m → (nextCandidate alignment)^[i + 1] (j * alignment) =
      (i + 1) * alignment := by
    intro i hi
    have hup := iterate_nextCandidate ha hm (show 1 + i ≤ m + 1 by omega)
    rw [Nat.one_mul, Nat.add_comm] at hup
    rw [Function.iterate_succ_apply, nextCandidate_last ha hm (by omega), hfirst, hup]
  rw [tryIova_zero hpos hsize hdvd ha hmax (by omega) hiova (Nat.dvd_mul_left _ _)]
  constructor
  · intro h q hq hq' hfree
    obtain ⟨i, rfl⟩ : ∃ i, q = i + 1 := ⟨q - 1, by omega⟩
    exact h (i + 1) (by omega) (hstep i (by omega) ▸ hfree)
  · intro h i hi hfree
    cases i with
    | zero => exact hnow j hj' hfree
    | succ i =>
      rw [hstep i (by omega)] at hfree
      exact h (i + 1) (by omega) (by omega) hfree

/-- The search from behind the last position is complete when that position is not the only free
    one. -/
theorem free_positions_iff (ha : 0 < alignment) (hm : 549753716736 / alignment = m + 1) :
    ((∀ q, 1 ≤ q → q ≤ m → ¬space.FreeAt size alignment (q * alignment)) →
        ∀ iova, ¬space.FreeAt size alignment iova) ↔
      (space.FreeAt size alignment (lastIova alignment) →
        ∃ iova, iova < lastIova alignment ∧ space.FreeAt size alignment iova) := by
  rw [lastIova, hm]
  constructor
  · intro h hlast
    by_contra hnone
    refine h (fun q _ hq' hfree => hnone ⟨_, ?_, hfree⟩) _ hlast
    exact Nat.mul_lt_mul_of_pos_right (Nat.lt_succ_of_le hq') ha
  · intro h hnone iova hfree
    have hbefore : ∀ iova, iova < (m + 1) * alignment → ¬space.FreeAt size alignment iova := by
      intro iova hlt hfree
      obtain ⟨q, hq, -, rfl⟩ := hfree.position ha hm
      exact hnone q hq (Nat.le_of_lt_succ (Nat.lt_of_mul_lt_mul_right hlt)) hfree
    obtain ⟨q, hq, hq', rfl⟩ := hfree.position ha hm
    rcases Nat.eq_or_lt_of_le hq' with rfl | hlt
    · obtain ⟨iova, hiova, hfree'⟩ := h hfree
      exact hbefore iova hiova hfree'
    · exact hnone q hq (Nat.le_of_lt_succ hlt) hfree

/-- The start of the search is an aligned address, at most one alignment behind `next_iova`. -/
theorem exhausted_iff (hslab : SlabAlignment alignment m) (hnext : space.NextOk) (hpos : 0 < size)
    (hsize : size ≤ 67108864) :
    ((tryIova size alignment (m + 1) space (roundUp space.nextIova alignment)).1 = 0 →
        ∀ iova, ¬space.FreeAt size alignment iova) ↔ SearchReaches space size alignment := by
  obtain ⟨hnext₁, hnext₂⟩ := hnext
  obtain ⟨-, ha, hmax, -, hm⟩ := id hslab
  obtain ⟨hstart₁, hstart₂, hstart₃⟩ := roundUp_spec (n := space.nextIova) ha (by omega)
  by_cases hbehind : roundUp space.nextIova alignment ≤ 549753716736
  · refine iff_of_true ?_ (.inl hbehind)
    obtain ⟨j, hj⟩ := hstart₁
    rw [Nat.mul_comm] at hj
    rw [hj] at hbehind hstart₂ ⊢
    have hj₁ : 1 ≤ j := by
      rcases Nat.eq_zero_or_pos j with rfl | hjpos
      · omega
      · exact hjpos
    have hj₂ : j ≤ m + 1 := by
      rw [← hm]
      exact (Nat.le_div_iff_mul_le ha).mpr hbehind
    exact (tryIova_complete hslab hpos hsize hj₁ hj₂ (by omega)).mp
  · have hreach : SearchReaches space size alignment ↔
        (space.FreeAt size alignment (lastIova alignment) →
          ∃ iova, iova < lastIova alignment ∧ space.FreeAt size alignment iova) :=
      or_iff_right hbehind
    rw [tryIova_behind hslab hpos hsize (Nat.lt_of_not_le hbehind) (by omega) hstart₁, hreach]
    exact free_positions_iff ha hm

/-- **When the search for an IOVA range is complete.** For `next_iova` inside the space, a free range
    is found whenever there is one, exactly when the search starts at a position or the last position
    is not the only free one. What is found is always free, and it alone is marked. -/
theorem allocateIova_complete_iff (hnext : space.NextOk) (hpos : 0 < size)
    (hsize : size ≤ 67108864) (ha : 0 < alignment) (hmax : alignment ≤ 4194304) :
    AllocatesIova space size (roundUp alignment 2097152) (allocateIova space size alignment) ↔
      SearchReaches space size (roundUp alignment 2097152) := by
  obtain ⟨out, space', hout, -, hcases⟩ := allocateIova_cases hnext hpos hsize ha hmax
  have hzero : ((allocateIova space size alignment).1 = 0 →
      ∀ iova, ¬space.FreeAt size (roundUp alignment 2097152) iova) ↔
      SearchReaches space size (roundUp alignment 2097152) := by
    obtain ⟨m, hslab⟩ := slabAlignment_roundUp ha hmax
    have hiff := exhausted_iff hslab hnext hpos hsize
    rw [← hslab.positions] at hiff
    exact hiff
  rw [← hzero, hout]
  refine ⟨fun h => h.exhausted, fun h => ⟨h, fun hne => ?_, fun hne k => ?_⟩⟩
  all_goals obtain ⟨hal, htakes⟩ := hcases.resolve_left fun hz => hne hz.1
  · exact ⟨hal, htakes.valid, htakes.free⟩
  · exact htakes.bits k

end Complete

/-- The IOVA slabs 1 and 3 are in use. -/
def IovaSpace.twoUsed : IovaSpace := ⟨fun w => if w = 0 then 0b1010 else 0, 2097152⟩

/-- Two slabs in a row are found behind them. -/
theorem allocateIova_complete_iff_two_used :
    (allocateIova twoUsed 4194304 1).1 = 8388608 ∧ AllocatesIova twoUsed 4194304 (roundUp 1 2097152)
        (allocateIova twoUsed 4194304 1) :=
  ⟨by decide +kernel, (allocateIova_complete_iff ⟨Nat.le_refl _, by decide⟩ (by decide) (by decide)
    (by decide) (by decide)).mpr (.inl (by decide))⟩

/-- Only the last two slabs are free, and the search starts behind the last position. -/
def IovaSpace.lastFree : IovaSpace :=
  ⟨fun w => if w = 8191 then 0x3FFFFFFF else 0xFFFFFFFF, 549753716736⟩

theorem IovaSpace.lastFree_bit_last (hk : 262142 ≤ k) (hk' : k < 262144) :
    lastFree.iovaUsed.bit k = false := by
  obtain rfl | rfl : k = 262142 ∨ k = 262143 := by omega
  · decide
  · decide

theorem IovaSpace.lastFree_bit_before (hk : k < 262142) :
    lastFree.iovaUsed.bit k = true := by
  have hones : ∀ i, i < 32 → (0xFFFFFFFF : BitVec 32).getLsbD i = true := by decide
  have hlast : ∀ i, i < 30 → (0x3FFFFFFF : BitVec 32).getLsbD i = true := by decide
  show BitVec.getLsbD (if k / 32 = 8191 then 0x3FFFFFFF else 0xFFFFFFFF) (k % 32) = true
  by_cases hword : k / 32 = 8191
  · rw [if_pos hword]
    exact hlast _ (by omega)
  · rw [if_neg hword]
    exact hones _ (by omega)

/-- The last aligned range is free and is not found. -/
theorem allocateIova_misses_last :
    (allocateIova lastFree 2097152 4194304).1 = 0 ∧
      lastFree.FreeAt 2097152 4194304 549751619584 := by
  have hstart : roundUp 549753716736 4194304 = 549755813888 := by decide
  have hsearch : allocateIova lastFree 2097152 4194304 =
      tryIova 2097152 4194304 131071 lastFree (roundUp 549753716736 4194304) := rfl
  refine ⟨?_, by decide, ⟨by decide, by decide, by decide, by decide, by decide⟩, ?_⟩
  · rw [hsearch, hstart, tryIova_behind slabAlignment_two (by decide) (by decide) (by decide)
      (by decide) (by decide)]
    intro q hq hq' hfree
    have hused := lastFree_bit_before (k := 2 * q) (by omega)
    rw [hfree.free (2 * q)] at hused
    · exact absurd hused (by simp)
    · show q * 4194304 / 2097152 ≤ 2 * q ∧ 2 * q < q * 4194304 / 2097152 + slabCount 2097152
      rw [slabCount]
      omega
  · rintro k ⟨hlo, hhi⟩
    dsimp only [slabCount] at hlo hhi
    exact lastFree_bit_last (by omega) (by omega)

end Qatlib.Usdm
