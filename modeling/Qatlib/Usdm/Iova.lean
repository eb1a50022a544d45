import Mathlib.Data.Nat.Bitwise
import Qatlib.Usdm.Slab

set_option autoImplicit false

/-! # The IOVA space

The IOVA side of `qae_mem_utils_vfio.c`. The space of 2^39 bytes is cut into IOVA slabs of
`IOVA_SLAB_SIZE` = 2^21 bytes; `iova_used` has a bit for each of the 2^18 IOVA slabs, in 32-bit
words. A range is reserved bit by bit and reverted when a bit is found set; `allocate_iova` tries
ranges from `next_iova` on and wraps around. Device registration excludes what lies outside the
ranges the IOMMU permits.

`FIRST_IOVA` is 2^21 and `MAX_IOVA` is 2^39 - 2^21. -/

namespace Qatlib.Usdm

/-- `round_up`, on `size_t`. -/
def roundUp (n s : Nat) : Nat := (n + s - 1) % 2 ^ 64 / s * s % 2 ^ 64

/-- `IOVA_IDX`. -/
def iovaIdx (iova : Nat) : Nat := (iova >>> 21) % 262144

/-- The static variables `iova_used` and `next_iova`. -/
structure IovaSpace where
  iovaUsed : Bitmap 32
  nextIova : Nat

/-- The space of a process that has used nothing. -/
def IovaSpace.fresh : IovaSpace := ⟨fun _ => 0, 2097152⟩

/-! ## Reserving and releasing -/

/-- Set bits from `slab` on until one is found set; the number of bits set is returned. -/
def reserveUp (used : Bitmap 32) (slab : Nat) : Nat → Nat × Bitmap 32
  | 0 => (0, used)
  | n + 1 =>
      if used.bit slab then (0, used)
      else
        let r := reserveUp (used.setBit slab) (slab + 1) n
        (r.1 + 1, r.2)

/-- Clear bits below `slab`, going down. -/
def clearDown (used : Bitmap 32) (slab : Nat) : Nat → Bitmap 32
  | 0 => used
  | n + 1 => clearDown (used.clearBit (slab - 1)) (slab - 1) n

/-- Clear bits from `slab` on. -/
def clearUp (used : Bitmap 32) (slab : Nat) : Nat → Bitmap 32
  | 0 => used
  | n + 1 => clearUp (used.clearBit slab) (slab + 1) n

section

variable (used : Bitmap 32)

/-- `iova_reserve`; `true` when the range could not be reserved. -/
def iovaReserve (iova size : Nat) : Bool × Bitmap 32 :=
  let slab := iovaIdx iova
  let numSlabs := divRoundUp size 2097152
  if (iova + size + 2 ^ 64 - 2097152) % 2 ^ 64 > 549753716736 then (true, used)
  else
    let r := reserveUp used slab numSlabs
    if r.1 < numSlabs then (true, clearDown r.2 (slab + r.1) r.1) else (false, r.2)

/-- `iova_release`. -/
def iovaRelease (iova size : Nat) : Bitmap 32 :=
  let numSlabs := ((size + 2097152 - 1) % 2 ^ 32) >>> 21
  clearUp used (iovaIdx iova) numSlabs

/-- The candidate that `allocate_iova` tries after `iova`. -/
def nextCandidate (alignment iova : Nat) : Nat :=
  if iova + alignment > 549753716736 then roundUp 2097152 alignment else iova + alignment

/-- `next_iova` after a range was taken. -/
def nextAfter (iova size : Nat) : Nat :=
  if iova + roundUp size 2097152 > 549753716736 then 2097152 else iova + roundUp size 2097152

/-- The loop of `allocate_iova`, over the tries that are left. -/
def tryIova (size alignment : Nat) : Nat → IovaSpace → Nat → Nat × IovaSpace
  | 0, space, _ => (0, space)
  | n + 1, space, iova =>
      let r := iovaReserve space.iovaUsed iova size
      if r.1 then
        tryIova size alignment n { space with iovaUsed := r.2 } (nextCandidate alignment iova)
      else (iova, ⟨r.2, nextAfter iova size⟩)

/-- `allocate_iova`; zero when no range was found. -/
def allocateIova (space : IovaSpace) (size alignment : Nat) : Nat × IovaSpace :=
  let alignment := roundUp alignment 2097152
  tryIova size alignment (549753716736 / alignment) space (roundUp space.nextIova alignment)

/-! ## Excluding -/

/-- A range of addresses that the IOMMU permits, both ends included. -/
structure PermittedRange where
  start : Nat
  last : Nat
deriving DecidableEq

/-- The loop of `filter_range` over the addresses below `limit`. -/
def excludeBelow (limit : Nat) (used : Bitmap 32) (next : Nat) : Bitmap 32 × Nat :=
  if next < limit then excludeBelow limit (used.setBit (iovaIdx next)) (next + 2097152)
  else (used, next)
termination_by limit - next
decreasing_by omega

/-- `filter_range`. -/
def filterRange (used : Bitmap 32) (next : Nat) : List PermittedRange → Bitmap 32 × Nat
  | [] => (used, next)
  | r :: rs =>
      let e := excludeBelow (min r.start 549753716736) used next
      if r.last ≥ 549753716736 then e
      else filterRange e.1 ((r.last + 1) / 2097152 * 2097152) rs

/-- `filter_dma_ranges`, over the lists of ranges in the capabilities the kernel reports. -/
def filterDmaRanges (caps : List (List PermittedRange)) : Bitmap 32 :=
  (caps.foldl (fun acc ranges => filterRange acc.1 acc.2 ranges) (used, 0)).1

/-! ## What the loops do to the bits -/

theorem reserveUp_spec (slab n : Nat) :
    (reserveUp used slab n).1 ≤ n ∧
    (∀ k, slab ≤ k → k < slab + (reserveUp used slab n).1 → used.bit k = false) ∧
    (∀ k, (reserveUp used slab n).2.bit k = true ↔
      (slab ≤ k ∧ k < slab + (reserveUp used slab n).1) ∨ used.bit k = true) := by
  induction n generalizing used slab with
  | zero => exact ⟨Nat.le_refl 0, fun k hlo hhi => absurd hhi (by simpa [reserveUp] using hlo),
      fun k => by simp [reserveUp]⟩
  | succ n ih =>
    rw [reserveUp]
    split
    · exact ⟨Nat.zero_le _, fun k hlo hhi => absurd hhi (by simpa using hlo), fun k => by simp⟩
    · next hfree =>
      obtain ⟨hle, hclear, hbits⟩ := ih (used.setBit slab) (slab + 1)
      refine ⟨by dsimp only; omega, fun k hlo hhi => ?_, fun k => ?_⟩
      · rcases Nat.eq_or_lt_of_le hlo with rfl | hlt
        · simpa using hfree
        · have h := hclear k hlt (by dsimp only at hhi; omega)
          by_contra hset
          rw [Bool.not_eq_false] at hset
          rw [(Bitmap.bit_setBit (by decide) used slab k).mpr (.inr hset)] at h
          exact absurd h (by simp)
      · dsimp only
        rw [hbits k, Bitmap.bit_setBit (by decide), ← or_assoc]
        exact or_congr_left (by omega)

theorem bit_clearUp (slab n k : Nat) :
    (clearUp used slab n).bit k = true ↔ ¬(slab ≤ k ∧ k < slab + n) ∧ used.bit k = true := by
  induction n generalizing used slab with
  | zero =>
    simp only [clearUp]
    exact ⟨fun h => ⟨by omega, h⟩, And.right⟩
  | succ n ih =>
    rw [clearUp, ih, Bitmap.bit_clearBit (by decide), ← and_assoc]
    exact and_congr_left' (by omega)

theorem bit_clearDown {slab n : Nat} (hn : n ≤ slab) (k : Nat) :
    (clearDown used slab n).bit k = true ↔ ¬(slab - n ≤ k ∧ k < slab) ∧ used.bit k = true := by
  induction n generalizing used slab with
  | zero =>
    simp only [clearDown]
    exact ⟨fun h => ⟨by omega, h⟩, And.right⟩
  | succ n ih =>
    rw [clearDown, ih _ (by omega), Bitmap.bit_clearBit (by decide), ← and_assoc]
    exact and_congr_left' (by omega)

end

/-! ## Ranges of IOVA slabs -/

/-- A range of the IOVA space. -/
structure IovaRange where
  iova : Nat
  size : Nat
deriving DecidableEq

/-- The number of IOVA slabs taken by a number of bytes. -/
def slabCount (size : Nat) : Nat := (size + 2097151) / 2097152

/-- IOVA slab `k` holds an address of the range, for a range that starts at an IOVA slab. -/
def IovaRange.Covers (r : IovaRange) (k : Nat) : Prop :=
  r.iova / 2097152 ≤ k ∧ k < r.iova / 2097152 + slabCount r.size

/-- A range that can be handed out: it starts at an IOVA slab after the first and ends inside the
    space. -/
structure IovaRange.Valid (r : IovaRange) : Prop where
  size_pos : 0 < r.size
  size_le : r.size ≤ 67108864
  first : 2097152 ≤ r.iova
  aligned : 2097152 ∣ r.iova
  inside : r.iova + r.size ≤ 549755813888

instance (r : IovaRange) (k : Nat) : Decidable (r.Covers k) := inferInstanceAs (Decidable (_ ∧ _))

/-- Ranges without a common IOVA slab. -/
def IovaRange.Disjoint (r r' : IovaRange) : Prop := ∀ k, ¬(r.Covers k ∧ r'.Covers k)

variable {iova next alignment : Nat} {r : IovaRange}

theorem iovaIdx_eq (h : iova < 549755813888) : iovaIdx iova = iova / 2097152 := by
  rw [iovaIdx, Nat.shiftRight_eq_div_pow, Nat.mod_eq_of_lt (by omega)]

theorem divRoundUp_slab {size : Nat} (hsize : size ≤ 67108864) :
    divRoundUp size 2097152 = slabCount size := by
  rw [divRoundUp, Nat.mod_eq_of_lt (by omega), slabCount]
  omega

/-- Releasing a range clears the IOVA slabs it covers. -/
theorem bit_iovaRelease (used : Bitmap 32) (hiova : r.iova < 549755813888)
    (hsize : r.size ≤ 67108864) (k : Nat) :
    (iovaRelease used r.iova r.size).bit k = true ↔ ¬r.Covers k ∧ used.bit k = true := by
  have hnum : ((r.size + 2097152 - 1) % 2 ^ 32) >>> 21 = slabCount r.size := by
    rw [Nat.mod_eq_of_lt (by omega), Nat.shiftRight_eq_div_pow, slabCount]
    omega
  rw [iovaRelease, hnum, bit_clearUp, iovaIdx_eq hiova]
  rfl

/-- A reservation that reaches the end of its range. -/
theorem reserveUp_full {used : Bitmap 32} (hiova : r.iova < 549755813888)
    (hfull : (reserveUp used (iovaIdx r.iova) (slabCount r.size)).1 = slabCount r.size) :
    (∀ k, r.Covers k → used.bit k = false) ∧
    ∀ k, (reserveUp used (iovaIdx r.iova) (slabCount r.size)).2.bit k = true ↔
      r.Covers k ∨ used.bit k = true := by
  obtain ⟨-, hclear, hbits⟩ := reserveUp_spec used (iovaIdx r.iova) (slabCount r.size)
  rw [hfull, iovaIdx_eq hiova] at hclear hbits
  rw [iovaIdx_eq hiova]
  exact ⟨fun k hk => hclear k hk.1 hk.2, hbits⟩

/-- Setting the bits of a range that was free and clearing them again. -/
theorem cleared_iff {inside bit : Prop} (hfree : inside → ¬ bit) : (¬ inside ∧ (inside ∨ bit)) ↔ bit := by
  constructor
  · rintro ⟨hout, hin | hbit⟩
    · exact absurd hin hout
    · exact hbit
  · intro hbit
    exact ⟨fun hin => hfree hin hbit, .inr hbit⟩

/-- A reservation that stops at a set bit and is reverted. -/
theorem bit_reserveUp_revert (used : Bitmap 32) (slab n k : Nat) :
    (clearDown (reserveUp used slab n).2 (slab + (reserveUp used slab n).1)
      (reserveUp used slab n).1).bit k = used.bit k := by
  obtain ⟨-, hclear, hbits⟩ := reserveUp_spec used slab n
  rw [Bool.eq_iff_iff, bit_clearDown _ (Nat.le_add_left _ _), hbits k, Nat.add_sub_cancel]
  exact cleared_iff fun hin => by rw [hclear k hin.1 hin.2]; decide

/-- **What a reservation does**: nothing, or it takes a free range inside the space. -/
theorem iovaReserve_cases (used : Bitmap 32) (hpos : 0 < r.size) (hsize : r.size ≤ 67108864)
    (hfirst : 2097152 ≤ r.iova) (hiova : r.iova ≤ 1099511627776) (haligned : 2097152 ∣ r.iova) :
    (∃ used', iovaReserve used r.iova r.size = (true, used') ∧ ∀ k, used'.bit k = used.bit k) ∨
    (∃ used', iovaReserve used r.iova r.size = (false, used') ∧ r.Valid ∧
      (∀ k, r.Covers k → used.bit k = false) ∧
      ∀ k, used'.bit k = true ↔ r.Covers k ∨ used.bit k = true) := by
  have hnum := divRoundUp_slab hsize
  by_cases hmax : (r.iova + r.size + 2 ^ 64 - 2097152) % 2 ^ 64 > 549753716736
  · exact .inl ⟨used, by rw [iovaReserve, if_pos hmax], fun _ => rfl⟩
  have hinside : r.iova + r.size ≤ 549755813888 := by omega
  obtain ⟨hle, -⟩ := reserveUp_spec used (iovaIdx r.iova) (slabCount r.size)
  by_cases hpart : (reserveUp used (iovaIdx r.iova) (slabCount r.size)).1 < slabCount r.size
  · refine .inl ⟨_, ?_, bit_reserveUp_revert used (iovaIdx r.iova) (slabCount r.size)⟩
    rw [iovaReserve, if_neg hmax, hnum, if_pos hpart]
  · have hfull := Nat.le_antisymm hle (Nat.not_lt.mp hpart)
    obtain ⟨hclear, hbits⟩ := reserveUp_full (show r.iova < 549755813888 by omega) hfull
    refine .inr ⟨_, ?_, ⟨hpos, hsize, hfirst, haligned, hinside⟩, hclear, hbits⟩
    rw [iovaReserve, if_neg hmax, hnum, if_neg hpart]

/-! ## What an allocation does -/

theorem roundUp_spec {n s : Nat} (hs : 0 < s) (h : n + s < 2 ^ 64) :
    s ∣ roundUp n s ∧ n ≤ roundUp n s ∧ roundUp n s < n + s := by
  have hdiv := Nat.div_add_mod (n + s - 1) s
  have hmod := Nat.mod_lt (n + s - 1) hs
  have heq : roundUp n s = s * ((n + s - 1) / s) := by
    rw [roundUp, Nat.mod_eq_of_lt (show n + s - 1 < 2 ^ 64 by omega), Nat.mul_comm,
      Nat.mod_eq_of_lt (by omega)]
  rw [heq]
  exact ⟨Nat.dvd_mul_right _ _, by omega, by omega⟩

/-- A free range was taken out of the space. -/
structure IovaSpace.Takes (space space' : IovaSpace) (r : IovaRange) : Prop where
  valid : r.Valid
  free : ∀ k, r.Covers k → space.iovaUsed.bit k = false
  bits : ∀ k, space'.iovaUsed.bit k = true ↔ r.Covers k ∨ space.iovaUsed.bit k = true

/-- Nothing was taken. -/
def IovaSpace.SameBits (space space' : IovaSpace) : Prop :=
  ∀ k, space'.iovaUsed.bit k = space.iovaUsed.bit k

/-- `next_iova` stays between the first and the last IOVA slab. -/
def IovaSpace.NextOk (space : IovaSpace) : Prop :=
  2097152 ≤ space.nextIova ∧ space.nextIova ≤ 549753716736

theorem IovaSpace.fresh_next : IovaSpace.fresh.NextOk := by
  unfold IovaSpace.NextOk IovaSpace.fresh
  exact ⟨Nat.le_refl _, by decide⟩

theorem nextCandidate_spec (ha : 0 < alignment) (hmax : alignment ≤ 4194304)
    (haligned : alignment ∣ iova) :
    min 2097152 iova ≤ nextCandidate alignment iova ∧
      nextCandidate alignment iova ≤ 1099511627776 ∧ alignment ∣ nextCandidate alignment iova := by
  obtain ⟨hdvd, hlo, hhi⟩ := roundUp_spec (n := 2097152) ha (by omega)
  unfold nextCandidate
  split
  · exact ⟨by omega, by omega, hdvd⟩
  · exact ⟨by omega, by omega, Nat.dvd_add haligned (Nat.dvd_refl _)⟩

theorem nextAfter_spec (size : Nat) (hfirst : 2097152 ≤ iova) :
    2097152 ≤ nextAfter iova size ∧ nextAfter iova size ≤ 549753716736 := by
  unfold nextAfter
  split <;> omega

theorem tryIova_cases {size : Nat} (hpos : 0 < size) (hsize : size ≤ 67108864)
    (hdvd : 2097152 ∣ alignment) (ha : 0 < alignment) (hmax : alignment ≤ 4194304) (n : Nat)
    (space : IovaSpace) (hnext : space.NextOk) (hfirst : 2097152 ≤ iova)
    (hiova : iova ≤ 1099511627776) (haligned : alignment ∣ iova) :
    ∃ r space', tryIova size alignment n space iova = (r, space') ∧ space'.NextOk ∧
      ((r = 0 ∧ space.SameBits space') ∨ (alignment ∣ r ∧ space.Takes space' ⟨r, size⟩)) := by
  induction n generalizing space iova with
  | zero => exact ⟨0, space, rfl, hnext, .inl ⟨rfl, fun _ => rfl⟩⟩
  | succ n ih =>
    rcases iovaReserve_cases space.iovaUsed (r := ⟨iova, size⟩) hpos hsize hfirst hiova
      (hdvd.trans haligned) with ⟨used, heq, hsame⟩ | ⟨used, heq, hvalid, hclear, hbits⟩
    · -- go on at the next candidate, with the same bits
      obtain ⟨hcand₁, hcand₂, hcand₃⟩ := nextCandidate_spec ha hmax haligned
      obtain ⟨r, space', htry, hnext', hcases⟩ := ih { space with iovaUsed := used } hnext
        (by omega) hcand₂ hcand₃
      refine ⟨r, space', by simp only [tryIova, heq, if_true, htry], hnext', ?_⟩
      rcases hcases with ⟨hzero, hbits'⟩ | ⟨hal, hvalid, hclear, hbits⟩
      · exact .inl ⟨hzero, fun k => (hbits' k).trans (hsame k)⟩
      · refine .inr ⟨hal, hvalid, fun k hk => ?_, fun k => ?_⟩
        · rw [← hsame k]
          exact hclear k hk
        · rw [hbits k, hsame k]
    · refine ⟨iova, ⟨used, nextAfter iova size⟩, by simp [tryIova, heq], ?_,
        .inr ⟨haligned, hvalid, hclear, hbits⟩⟩
      exact nextAfter_spec size hfirst

/-- **What `allocate_iova` does**: it reports zero and changes no bit, or it takes a free range with
    the alignment. -/
theorem allocateIova_cases {space : IovaSpace} {size : Nat} (hnext : space.NextOk)
    (hpos : 0 < size) (hsize : size ≤ 67108864) (ha : 0 < alignment) (hmax : alignment ≤ 4194304) :
    ∃ r space', allocateIova space size alignment = (r, space') ∧ space'.NextOk ∧
      ((r = 0 ∧ space.SameBits space') ∨
        (roundUp alignment 2097152 ∣ r ∧ space.Takes space' ⟨r, size⟩)) := by
  obtain ⟨hdvd, hle, hlt⟩ := roundUp_spec (n := alignment) (s := 2097152) (by omega) (by omega)
  have hsmall : roundUp alignment 2097152 ≤ 4194304 := by omega
  obtain ⟨hstart₁, hstart₂, hstart₃⟩ :=
    roundUp_spec (n := space.nextIova) (s := roundUp alignment 2097152) (by omega)
      (by unfold IovaSpace.NextOk at hnext; omega)
  unfold IovaSpace.NextOk at hnext
  exact tryIova_cases hpos hsize hdvd (by omega) hsmall _ space hnext (by omega) (by omega) hstart₁

/-! ## What registration excludes -/

section

variable (used : Bitmap 32)

/-- The loop marks the IOVA slabs from `next` on that start below the limit. -/
theorem bit_excludeBelow {limit : Nat} (hlimit : limit ≤ 549753716736) (hdvd : 2097152 ∣ next)
    (k : Nat) :
    (excludeBelow limit used next).1.bit k = true ↔
      (next ≤ k * 2097152 ∧ k * 2097152 < limit) ∨ used.bit k = true := by
  induction used, next using excludeBelow.induct limit with
  | case1 used next hlt ih =>
    have hidx : iovaIdx next = next / 2097152 := iovaIdx_eq (by omega)
    have hk : k = next / 2097152 ↔ k * 2097152 = next := by omega
    rw [excludeBelow, if_pos hlt, ih (by omega), Bitmap.bit_setBit (by decide), hidx, hk,
      ← or_assoc]
    exact or_congr_left (by omega)
  | case2 used next hge =>
    rw [excludeBelow, if_neg hge]
    exact ⟨.inr, fun h => h.resolve_left (by omega)⟩

theorem filterRange_below (next : Nat) {r : PermittedRange} (rs : List PermittedRange)
    (h : r.last < 549753716736) :
    filterRange used next (r :: rs) =
      filterRange (excludeBelow (min r.start 549753716736) used next).1
        ((r.last + 1) / 2097152 * 2097152) rs := by
  rw [filterRange]
  exact if_neg (by omega)

theorem filterRange_above (next : Nat) {r : PermittedRange} (rs : List PermittedRange)
    (h : 549753716736 ≤ r.last) :
    filterRange used next (r :: rs) = excludeBelow (min r.start 549753716736) used next := by
  rw [filterRange]
  exact if_pos h

/-- The marks do not depend on what was marked before. -/
theorem bit_filterRange (hdvd : 2097152 ∣ next) (ranges : List PermittedRange) (k : Nat) :
    (filterRange used next ranges).1.bit k = true ↔
      (filterRange (fun _ => 0) next ranges).1.bit k = true ∨ used.bit k = true := by
  have hzero : Bitmap.bit (fun _ => (0 : BitVec 32)) k = false := by simp [Bitmap.bit]
  induction ranges generalizing used next with
  | nil =>
    rw [filterRange, filterRange, hzero]
    simp
  | cons r rs ih =>
    have hlimit : min r.start 549753716736 ≤ 549753716736 := Nat.min_le_right _ _
    have hbits := bit_excludeBelow used hlimit hdvd k
    have hbits₀ := bit_excludeBelow (fun _ => 0) hlimit hdvd k
    rw [hzero] at hbits₀
    simp only [filterRange]
    split
    · rw [hbits, hbits₀]
      simp
    · have hdvd' := Nat.dvd_mul_left 2097152 ((r.last + 1) / 2097152)
      have hrec := ih (excludeBelow (min r.start 549753716736) used next).1 hdvd'
      have hrec₀ := ih (excludeBelow (min r.start 549753716736) (fun _ => 0) next).1 hdvd'
      simp only [hrec, hrec₀, hbits, hbits₀, or_assoc, Bool.false_eq_true, or_false]

end

theorem excludeBelow_next (limit : Nat) (used used' : Bitmap 32) (hdvd : 2097152 ∣ next) :
    (excludeBelow limit used next).2 = (excludeBelow limit used' next).2 ∧
      2097152 ∣ (excludeBelow limit used next).2 := by
  induction used, next using excludeBelow.induct limit generalizing used' with
  | case1 used next hlt ih =>
    rw [excludeBelow, if_pos hlt, excludeBelow.eq_def limit used', if_pos hlt]
    exact ih _ (by omega)
  | case2 used next hge =>
    rw [excludeBelow, if_neg hge, excludeBelow.eq_def limit used', if_neg hge]
    exact ⟨rfl, hdvd⟩

theorem filterRange_next (used used' : Bitmap 32) (hdvd : 2097152 ∣ next)
    (ranges : List PermittedRange) :
    (filterRange used next ranges).2 = (filterRange used' next ranges).2 ∧
      2097152 ∣ (filterRange used next ranges).2 := by
  induction ranges generalizing used used' next with
  | nil => exact ⟨rfl, hdvd⟩
  | cons r rs ih =>
    simp only [filterRange]
    split
    · exact excludeBelow_next _ _ _ hdvd
    · exact ih _ _ (Nat.dvd_mul_left _ _)

/-- The marks of all capabilities. -/
theorem bit_filterDmaRanges (used : Bitmap 32) (caps : List (List PermittedRange)) (k : Nat) :
    (filterDmaRanges used caps).bit k = true ↔
      (filterDmaRanges (fun _ => 0) caps).bit k = true ∨ used.bit k = true := by
  have hzero : Bitmap.bit (fun _ => (0 : BitVec 32)) k = false := by simp [Bitmap.bit]
  suffices hfold : ∀ (acc : Bitmap 32 × Nat), 2097152 ∣ acc.2 →
      ((caps.foldl (fun acc ranges => filterRange acc.1 acc.2 ranges) acc).1.bit k = true ↔
        (caps.foldl (fun acc ranges => filterRange acc.1 acc.2 ranges)
          (fun _ => 0, acc.2)).1.bit k = true ∨ acc.1.bit k = true) from
    hfold (used, 0) (Nat.dvd_zero _)
  induction caps with
  | nil =>
    intro acc _
    simp only [List.foldl_nil, hzero, Bool.false_eq_true, false_or]
  | cons ranges caps ih =>
    intro acc hdvd
    obtain ⟨hsame, hdvd'⟩ := filterRange_next acc.1 (fun _ => 0) hdvd ranges
    have hbits := bit_filterRange acc.1 hdvd ranges k
    have hrec := ih (filterRange acc.1 acc.2 ranges) hdvd'
    have hrec₀ := ih (filterRange (fun _ => 0) acc.2 ranges) (hsame ▸ hdvd')
    rw [← hsame] at hrec₀
    simp only [List.foldl_cons, hrec, hrec₀, hbits, or_assoc]

/-- An IOVA slab inside a permitted range. -/
def PermittedRange.Holds (p : PermittedRange) (k : Nat) : Prop :=
  p.start ≤ k * 2097152 ∧ k * 2097152 + 2097151 ≤ p.last

/-- The last IOVA slab, which starts at `MAX_IOVA`, inside a permitted range. -/
def PermittedRange.HoldsLast (p : PermittedRange) : Prop :=
  p.start ≤ 549753716736 ∧ 549755813887 ≤ p.last

/-- **An IOVA slab that is left unmarked is inside a permitted range**, when the ranges ascend and
    one of them holds the last IOVA slab. -/
theorem filterRange_holds {used : Bitmap 32} {ranges : List PermittedRange} (hdvd : 2097152 ∣ next)
    (hasc : ranges.Pairwise fun p q => p.last < q.start) (hne : ∀ p ∈ ranges, p.start ≤ p.last)
    (hstart : ∀ p ∈ ranges, next ≤ p.start) (hlast : ∃ p ∈ ranges, p.HoldsLast) {k : Nat}
    (hk : k < 262144) (hnext : next ≤ k * 2097152)
    (hbit : (filterRange used next ranges).1.bit k = false) : ∃ p ∈ ranges, p.Holds k := by
  induction ranges generalizing used next with
  | nil => simp at hlast
  | cons r rs ih =>
    obtain ⟨hfirst, hasc'⟩ := List.pairwise_cons.mp hasc
    have hlimit : min r.start 549753716736 ≤ 549753716736 := Nat.min_le_right _ _
    have hbits := bit_excludeBelow used hlimit hdvd k
    have hr := hne r List.mem_cons_self
    simp only [filterRange] at hbit
    split at hbit
    · next hend =>
      -- the ranges after this one start behind the last IOVA slab
      have hrlast : r.HoldsLast := by
        obtain ⟨p, hp, hp₁, hp₂⟩ := hlast
        rcases List.mem_cons.mp hp with rfl | hp
        · exact ⟨hp₁, hp₂⟩
        · have := hfirst p hp
          omega
      refine ⟨r, List.mem_cons_self, ?_⟩
      have hout : ¬(next ≤ k * 2097152 ∧ k * 2097152 < min r.start 549753716736) := by
        intro hin
        rw [hbits.mpr (.inl hin)] at hbit
        exact absurd hbit (by simp)
      obtain ⟨h₁, h₂⟩ := hrlast
      exact ⟨by omega, by omega⟩
    · next hend =>
      have hdvd' := Nat.dvd_mul_left 2097152 ((r.last + 1) / 2097152)
      have hout : ¬(next ≤ k * 2097152 ∧ k * 2097152 < min r.start 549753716736) := by
        intro hin
        have hset := (bit_filterRange _ hdvd' rs k).mpr (.inr (hbits.mpr (.inl hin)))
        rw [hset] at hbit
        exact absurd hbit (by simp)
      by_cases hin : r.Holds k
      · exact ⟨r, List.mem_cons_self, hin⟩
      · have hnext' : (r.last + 1) / 2097152 * 2097152 ≤ k * 2097152 := by
          unfold PermittedRange.Holds at hin
          omega
        have hlast' : ∃ p ∈ rs, p.HoldsLast := by
          obtain ⟨p, hp, hp₁, hp₂⟩ := hlast
          rcases List.mem_cons.mp hp with rfl | hp
          · omega
          · exact ⟨p, hp, hp₁, hp₂⟩
        have hstart' : ∀ p ∈ rs, (r.last + 1) / 2097152 * 2097152 ≤ p.start := by
          intro p hp
          have := hfirst p hp
          omega
        obtain ⟨p, hp, hholds⟩ := ih hdvd' hasc'
          (fun p hp => hne p (List.mem_cons_of_mem _ hp)) hstart' hlast' hnext' hbit
        exact ⟨p, List.mem_cons_of_mem _ hp, hholds⟩

end Qatlib.Usdm
