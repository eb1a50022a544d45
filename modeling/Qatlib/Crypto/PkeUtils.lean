import Mathlib.Tactic.Ring
import Qatlib.Lib.BigEndian

set_option autoImplicit false

/-! # Comparing large integers

`LacPke_CompareIntPtrs` and `LacPke_Compare` of `lac_pke_utils.c` subtract two big-endian numbers
byte by byte, from the last byte on, and keep only a signed carry and whether some byte of the
difference was not 0. The files are compiled with `-fwrapv`, so that the carry wraps. -/

namespace Qatlib.Crypto

/-! ## The source -/

/-- A number in a `CpaFlatBuffer`: the `dataLenInBytes` bytes at `pData`. -/
structure LargeInteger where
  pData : List UInt8

/-- The integer promotion of a `Cpa8U`. -/
def promote (b : UInt8) : Int32 := Int32.ofNat b.toNat

/-- `memcmp`: the difference of the first two bytes that differ. The C library fixes only its
    sign. -/
def memcmp : List UInt8 → List UInt8 → Int32
  | a :: as, b :: bs => if a = b then memcmp as bs else promote a - promote b
  | _, _ => 0

/-- `LAC_SIGNED_CONVERT32`. -/
def lacSignedConvert32 (num : Int32) : Int32 := ((num >>> 31) <<< 1) + 1

/-- The locals of the loop. -/
structure Carry where
  delta : Int32
  notZero : Int32

/-- One turn of the loop. The bytes not yet used are listed from the last of the buffer on, as
    `pBuffer[--len]` takes them. -/
def Carry.next (c : Carry) (as bs : List UInt8) : Carry :=
  let delta : Int32 := match as with
    | [] => c.delta
    | a :: _ => c.delta + promote a
  let delta : Int32 := match bs with
    | [] => delta
    | b :: _ => delta - promote b
  { delta := delta >>> 8, notZero := c.notZero ||| (delta &&& 0xFF) }

/-- The loop, which ends after as many turns as the longer buffer has bytes. -/
def Carry.loop : Nat → List UInt8 → List UInt8 → Carry → Carry
  | 0, _, _, c => c
  | n + 1, as, bs, c => Carry.loop n as.tail bs.tail (c.next as bs)

/-- `LacPke_CompareIntPtrs`. -/
def lacPkeCompareIntPtrs (bufferA : List UInt8) (deltaA : Int32) (bufferB : List UInt8)
    (deltaB : Int32) : Int32 :=
  let delta := deltaA - deltaB
  if bufferA.length = bufferB.length ∧ delta = 0 then memcmp bufferA bufferB
  else
    let c := Carry.loop (max bufferA.length bufferB.length) bufferA.reverse bufferB.reverse
      ⟨delta, 0⟩
    if c.notZero ≠ 0 then lacSignedConvert32 c.delta else 0

/-- `LacPke_Compare`, whose body is that of `LacPke_CompareIntPtrs`. -/
def lacPkeCompare (flatBufferA : LargeInteger) (deltaA : Int32) (flatBufferB : LargeInteger)
    (deltaB : Int32) : Int32 :=
  lacPkeCompareIntPtrs flatBufferA.pData deltaA flatBufferB.pData deltaB

/-! ## The machine arithmetic -/

theorem promote_toInt (b : UInt8) : (promote b).toInt = b.toNat := by
  have := b.toNat_lt
  rw [promote, Int32.toInt_ofNat_of_lt (by omega)]

theorem toInt_shiftRight_eight (x : Int32) : (x >>> 8).toInt = x.toInt / 256 := by
  have h : ((8 : Int32).toBitVec.smod 32).toNat = 8 := by decide
  rw [← Int32.toInt_toBitVec, Int32.toBitVec_shiftRight, BitVec.toInt_sshiftRight', h,
    Int32.toInt_toBitVec, Int.shiftRight_eq_div_pow]
  norm_num

theorem and_255_eq_zero_iff (x : Int32) : x &&& 0xFF = 0 ↔ (256 : Int) ∣ x.toInt := by
  have h : (0xFF : Int32).toBitVec.toNat = 2 ^ 8 - 1 := by decide
  have h0 : (0 : Int32).toBitVec.toNat = 0 := by decide
  rw [← Int32.toBitVec_inj, ← BitVec.toNat_inj, Int32.toBitVec_and, BitVec.toNat_and, h, h0,
    Nat.and_two_pow_sub_one_eq_mod, ← Int32.toInt_toBitVec, BitVec.toInt_eq_toNat_cond]
  split <;> omega

theorem or_eq_zero_iff (x y : Int32) : x ||| y = 0 ↔ x = 0 ∧ y = 0 := by
  simp only [← Int32.toBitVec_inj, Int32.toBitVec_or]
  exact BitVec.or_eq_zero_iff

theorem dvd_bmod_iff (x : Int) : 256 ∣ x.bmod (2 ^ 32) ↔ 256 ∣ x := by
  rw [Int.bmod_def]
  split <;> omega

theorem lacSignedConvert32_toInt (x : Int32) :
    (lacSignedConvert32 x).toInt = if x.toInt < 0 then -1 else 1 := by
  have hlo := x.le_toInt
  have hhi := x.toInt_lt
  have h31 : (x >>> 31).toInt = if x.toInt < 0 then -1 else 0 := by
    have h : ((31 : Int32).toBitVec.smod 32).toNat = 31 := by decide
    rw [← Int32.toInt_toBitVec, Int32.toBitVec_shiftRight, BitVec.toInt_sshiftRight', h,
      Int32.toInt_toBitVec, Int.shiftRight_eq_div_pow]
    split <;> omega
  unfold lacSignedConvert32
  by_cases hneg : x.toInt < 0
  · have hx : x >>> 31 = -1 := by
      rw [← Int32.toInt_inj, h31, if_pos hneg]
      decide
    rw [hx, if_pos hneg]
    decide
  · have hx : x >>> 31 = 0 := by
      rw [← Int32.toInt_inj, h31, if_neg hneg]
      decide
    rw [hx, if_neg hneg]
    decide

/-! ## The loop -/

/-- The byte the next turn of the loop takes. -/
def nextByte (bs : List UInt8) : Int := (bs.headD 0).toNat

@[simp] theorem nextByte_nil : nextByte [] = 0 := rfl

@[simp] theorem nextByte_cons (b : UInt8) (bs : List UInt8) : nextByte (b :: bs) = b.toNat := rfl

theorem nextByte_bounds (bs : List UInt8) : 0 ≤ nextByte bs ∧ nextByte bs ≤ 255 := by
  have := (bs.headD 0).toNat_lt
  unfold nextByte
  omega

theorem leValue_eq_nextByte (bs : List UInt8) :
    (leValue bs : Int) = nextByte bs + 256 * leValue bs.tail := by
  cases bs <;> simp [leValue_cons]

namespace Carry

/-- What a turn adds up before the sum is wrapped. -/
def sum (c : Carry) (as bs : List UInt8) : Int := c.delta.toInt + nextByte as - nextByte bs

theorem next_delta (c : Carry) (as bs : List UInt8) :
    (c.next as bs).delta.toInt = (c.sum as bs).bmod (2 ^ 32) / 256 := by
  have hc : c.delta.toInt.bmod (2 ^ 32) = c.delta.toInt := c.delta.toInt_bmod_size
  cases as <;> cases bs <;>
    simp only [next, sum, toInt_shiftRight_eight, Int32.toInt_add, Int32.toInt_sub, promote_toInt,
      nextByte_nil, nextByte_cons, add_zero, sub_zero, Int.bmod_sub_bmod, hc]

theorem next_notZero (c : Carry) (as bs : List UInt8) :
    (c.next as bs).notZero = 0 ↔ c.notZero = 0 ∧ (256 : Int) ∣ c.sum as bs := by
  cases as <;> cases bs <;>
    simp only [next, sum, or_eq_zero_iff, and_255_eq_zero_iff, Int32.toInt_add, Int32.toInt_sub,
      promote_toInt, nextByte_nil, nextByte_cons, add_zero, sub_zero, Int.bmod_sub_bmod,
      dvd_bmod_iff]

/-- The carry is the quotient of `t` by `256 ^ n`, and `notZero` tells whether the division leaves a
    rest. -/
structure Divides (n : Nat) (t : Int) (c c' : Carry) : Prop where
  delta : c'.delta.toInt = t / 256 ^ n
  notZero : c'.notZero = 0 ↔ c.notZero = 0 ∧ (256 : Int) ^ n ∣ t

/-- A turn divides by 256 what the wrapped sum and the bytes not yet used amount to. -/
theorem divides_succ {n : Nat} {as bs : List UInt8} {c : Carry}
    (h : Divides n ((c.next as bs).delta.toInt + leValue as.tail - leValue bs.tail) (c.next as bs)
      (loop n as.tail bs.tail (c.next as bs))) :
    Divides (n + 1)
      ((c.sum as bs).bmod (2 ^ 32) + 256 * ((leValue as.tail : Int) - leValue bs.tail)) c
      (loop (n + 1) as bs c) := by
  set s := (c.sum as bs).bmod (2 ^ 32) with hs
  set rest := (leValue as.tail : Int) - leValue bs.tail with hrest
  have hquot : (c.next as bs).delta.toInt + leValue as.tail - leValue bs.tail =
      (s + 256 * rest) / 256 := by
    rw [c.next_delta]
    omega
  have hdvd : (256 : Int) ∣ c.sum as bs ↔ 256 ∣ s := (dvd_bmod_iff _).symm
  obtain ⟨hdelta, hzero⟩ := h
  rw [hquot] at hdelta hzero
  constructor
  · rw [loop, hdelta, Int.ediv_ediv_of_nonneg (by decide), pow_succ']
  · rw [loop, hzero, c.next_notZero, and_assoc, and_congr_right_iff, hdvd, pow_succ']
    intro _
    constructor
    · rintro ⟨hlow, k, hk⟩
      refine ⟨k, ?_⟩
      rw [mul_assoc, ← hk]
      omega
    · rintro ⟨k, hk⟩
      rw [mul_assoc] at hk
      exact ⟨by omega, k, by omega⟩

/-- From a small carry no turn wraps: the loop divides the whole difference. -/
theorem divides_loop (n : Nat) (as bs : List UInt8) (c : Carry) (ha : as.length ≤ n)
    (hb : bs.length ≤ n) (hlo : -2 ^ 30 ≤ c.delta.toInt) (hhi : c.delta.toInt ≤ 2 ^ 30) :
    Divides n (c.delta.toInt + leValue as - leValue bs) c (loop n as bs c) := by
  induction n generalizing as bs c with
  | zero =>
    obtain rfl : as = [] := List.length_eq_zero_iff.mp (by omega)
    obtain rfl : bs = [] := List.length_eq_zero_iff.mp (by omega)
    exact ⟨by simp [loop], by simp [loop]⟩
  | succ n ih =>
    have hA := nextByte_bounds as
    have hB := nextByte_bounds bs
    have hwrap : (c.sum as bs).bmod (2 ^ 32) = c.sum as bs := by
      apply Int.bmod_eq_of_le_mul_two <;> simp only [sum] <;> omega
    have hdelta : (c.next as bs).delta.toInt = c.sum as bs / 256 := by rw [c.next_delta, hwrap]
    have hstep := divides_succ (ih as.tail bs.tail (c.next as bs) (by simp; omega) (by simp; omega)
      (by rw [hdelta, sum]; omega) (by rw [hdelta, sum]; omega))
    have hsplit : c.delta.toInt + leValue as - leValue bs =
        (c.sum as bs).bmod (2 ^ 32) + 256 * ((leValue as.tail : Int) - leValue bs.tail) := by
      rw [hwrap, sum, leValue_eq_nextByte as, leValue_eq_nextByte bs]
      ring
    rw [hsplit]
    exact hstep

end Carry

/-! ## The comparison -/

/-- The difference that is compared with 0. -/
def difference (bufferA : List UInt8) (deltaA : Int32) (bufferB : List UInt8) (deltaB : Int32) :
    Int :=
  (beValue bufferA + deltaA.toInt) - (beValue bufferB + deltaB.toInt)

/-- What the first turn of the loop loses: a multiple of `2 ^ 32`, and 0 unless the deltas with the
    last bytes of the buffers leave the range of a `Cpa32S`. -/
def carryLost (bufferA : List UInt8) (deltaA : Int32) (bufferB : List UInt8) (deltaB : Int32) :
    Int :=
  let first := deltaA.toInt - deltaB.toInt + (bufferA.getLastD 0).toNat - (bufferB.getLastD 0).toNat
  first - first.bmod (2 ^ 32)

theorem nextByte_reverse (bs : List UInt8) : nextByte bs.reverse = (bs.getLastD 0).toNat := by
  simp [nextByte, List.headD_eq_head?_getD, List.head?_reverse, List.getLastD_eq_getLast?]

theorem memcmp_sign {as bs : List UInt8} (h : as.length = bs.length) :
    (memcmp as bs).toInt.sign = ((beValue as : Int) - beValue bs).sign := by
  induction as generalizing bs with
  | nil =>
    obtain rfl : bs = [] := List.length_eq_zero_iff.mp h.symm
    simp [memcmp]
  | cons a as ih =>
    obtain ⟨b, bs, rfl⟩ := List.exists_cons_of_length_eq_add_one h.symm
    have hlen : as.length = bs.length := by simpa using h
    rw [memcmp, beValue_cons, beValue_cons, hlen]
    by_cases hab : a = b
    · rw [if_pos hab, ih hlen, hab]
      congr 1
      push_cast
      ring
    · -- the first byte that differs outweighs the rest
      have hA : (beValue as : Int) < 256 ^ bs.length := by exact_mod_cast hlen ▸ beValue_lt as
      have hB : (beValue bs : Int) < 256 ^ bs.length := by exact_mod_cast beValue_lt bs
      have hne : a.toNat ≠ b.toNat := fun heq => hab (UInt8.toNat_inj.mp heq)
      have ha := a.toNat_lt
      have hb := b.toNat_lt
      rw [if_neg hab, Int32.toInt_sub, promote_toInt, promote_toInt,
        Int.bmod_eq_of_le_mul_two (by omega) (by omega)]
      push_cast
      rcases Nat.lt_or_gt_of_ne hne with hlt | hgt
      · rw [Int.sign_eq_neg_one_of_neg (by omega), Int.sign_eq_neg_one_of_neg]
        have : ((b.toNat : Int) - a.toNat) * 256 ^ bs.length ≥ 1 * 256 ^ bs.length :=
          mul_le_mul_of_nonneg_right (by omega) (by positivity)
        linarith [Int.natCast_nonneg (beValue as), Int.natCast_nonneg (beValue bs)]
      · rw [Int.sign_eq_one_of_pos (by omega), Int.sign_eq_one_of_pos]
        have : ((a.toNat : Int) - b.toNat) * 256 ^ bs.length ≥ 1 * 256 ^ bs.length :=
          mul_le_mul_of_nonneg_right (by omega) (by positivity)
        linarith [Int.natCast_nonneg (beValue as), Int.natCast_nonneg (beValue bs)]

/-- The result of a comparison is the sign of `t`, or 0 when `256 ^ n` divides `t`. -/
theorem Carry.Divides.sign {n : Nat} {t : Int} {c c' : Carry} (h : Divides n t c c')
    (hc : c.notZero = 0) :
    (if c'.notZero ≠ 0 then lacSignedConvert32 c'.delta else 0).toInt.sign =
      if (256 : Int) ^ n ∣ t then 0 else t.sign := by
  have hpow : (0 : Int) < 256 ^ n := by positivity
  by_cases hdvd : (256 : Int) ^ n ∣ t
  · have hzero : c'.notZero = 0 := h.notZero.mpr ⟨hc, hdvd⟩
    rw [if_neg (by simp [hzero]), if_pos hdvd]
    rfl
  · have hzero : c'.notZero ≠ 0 := fun hz => hdvd (h.notZero.mp hz).2
    have ht : t ≠ 0 := fun ht => hdvd (ht ▸ dvd_zero _)
    have hneg : c'.delta.toInt < 0 ↔ t < 0 := by rw [h.delta, Int.ediv_lt_iff_lt_mul hpow, zero_mul]
    rw [if_pos hzero, if_neg hdvd, lacSignedConvert32_toInt]
    by_cases hlt : t < 0
    · rw [if_pos (hneg.mpr hlt), Int.sign_eq_neg_one_of_neg hlt]
      rfl
    · have hpos : 0 < t := by omega
      rw [if_neg (fun hd => hlt (hneg.mp hd)), Int.sign_eq_one_of_pos hpos]
      rfl

section Comparison

variable {bufferA bufferB : List UInt8} {deltaA deltaB : Int32}

theorem difference_eq_leValue :
    difference bufferA deltaA bufferB deltaB = deltaA.toInt - deltaB.toInt +
      leValue bufferA.reverse - leValue bufferB.reverse := by
  unfold difference beValue
  ring

/-- The first turn may wrap, and then the loop divides what is left of the difference. -/
theorem divides_compare (hdelta : (deltaA - deltaB).toInt = deltaA.toInt - deltaB.toInt) {n : Nat}
    (hA : bufferA.length ≤ n + 1) (hB : bufferB.length ≤ n + 1) :
    Carry.Divides (n + 1)
      (difference bufferA deltaA bufferB deltaB - carryLost bufferA deltaA bufferB deltaB)
      ⟨deltaA - deltaB, 0⟩
      (Carry.loop (n + 1) bufferA.reverse bufferB.reverse ⟨deltaA - deltaB, 0⟩) := by
  set c : Carry := ⟨deltaA - deltaB, 0⟩ with hc
  have hsum : c.sum bufferA.reverse bufferB.reverse = deltaA.toInt - deltaB.toInt +
      (bufferA.getLastD 0).toNat - (bufferB.getLastD 0).toNat := by
    rw [Carry.sum, hdelta, nextByte_reverse, nextByte_reverse]
  have hnext := c.next_delta bufferA.reverse bufferB.reverse
  have hlo := Int.le_bmod (x := c.sum bufferA.reverse bufferB.reverse) (m := 2 ^ 32) (by decide)
  have hhi := Int.bmod_lt (x := c.sum bufferA.reverse bufferB.reverse) (m := 2 ^ 32) (by decide)
  have hstep := Carry.divides_succ (Carry.divides_loop n bufferA.reverse.tail bufferB.reverse.tail
    (c.next bufferA.reverse bufferB.reverse) (by simp; omega) (by simp; omega)
    (by omega) (by omega))
  have ht : difference bufferA deltaA bufferB deltaB - carryLost bufferA deltaA bufferB deltaB =
      (c.sum bufferA.reverse bufferB.reverse).bmod (2 ^ 32) +
        256 * ((leValue bufferA.reverse.tail : Int) - leValue bufferB.reverse.tail) := by
    rw [difference_eq_leValue, carryLost, ← hsum, Carry.sum, hdelta,
      leValue_eq_nextByte bufferA.reverse, leValue_eq_nextByte bufferB.reverse]
    ring
  rw [ht]
  exact hstep

theorem carryLost_eq_zero (hlo : -2 ^ 30 ≤ deltaA.toInt - deltaB.toInt)
    (hhi : deltaA.toInt - deltaB.toInt ≤ 2 ^ 30) : carryLost bufferA deltaA bufferB deltaB = 0 := by
  have hA := (bufferA.getLastD 0).toNat_lt
  have hB := (bufferB.getLastD 0).toNat_lt
  simp only [carryLost]
  rw [Int.bmod_eq_of_le_mul_two (by omega) (by omega), sub_self]

/-- **What the comparison returns**, for all buffers and deltas in range. -/
theorem lacPkeCompareIntPtrs_sign (hA : -2 ^ 30 < deltaA.toInt ∧ deltaA.toInt < 2 ^ 30)
    (hB : -2 ^ 30 < deltaB.toInt ∧ deltaB.toInt < 2 ^ 30)
    (hne : 0 < bufferA.length + bufferB.length) :
    (lacPkeCompareIntPtrs bufferA deltaA bufferB deltaB).toInt.sign =
      if (256 : Int) ^ max bufferA.length bufferB.length ∣
          difference bufferA deltaA bufferB deltaB - carryLost bufferA deltaA bufferB deltaB
      then 0
      else (difference bufferA deltaA bufferB deltaB -
        carryLost bufferA deltaA bufferB deltaB).sign := by
  have hdelta : (deltaA - deltaB).toInt = deltaA.toInt - deltaB.toInt := by
    rw [Int32.toInt_sub, Int.bmod_eq_of_le_mul_two (by omega) (by omega)]
  unfold lacPkeCompareIntPtrs
  by_cases hsame : bufferA.length = bufferB.length ∧ deltaA - deltaB = 0
  · obtain ⟨hlen, hzero⟩ := hsame
    have hzero' : deltaA.toInt - deltaB.toInt = 0 := by
      rw [← hdelta, hzero]
      rfl
    have hdiff : difference bufferA deltaA bufferB deltaB =
        (beValue bufferA : Int) - beValue bufferB := by
      unfold difference
      linarith
    rw [if_pos ⟨hlen, hzero⟩, carryLost_eq_zero (by omega) (by omega), sub_zero, hdiff,
      memcmp_sign hlen, hlen, max_self]
    split
    · next hdvd =>
      -- two numbers below `256 ^ n` cannot differ by a multiple of it
      have hltA : (beValue bufferA : Int) < 256 ^ bufferB.length := by
        exact_mod_cast hlen ▸ beValue_lt bufferA
      have hltB : (beValue bufferB : Int) < 256 ^ bufferB.length := by
        exact_mod_cast beValue_lt bufferB
      have hz : (beValue bufferA : Int) - beValue bufferB = 0 :=
        Int.eq_zero_of_abs_lt_dvd hdvd (by rw [abs_lt]; constructor <;> linarith)
      rw [hz, Int.sign_zero]
    · rfl
  · rw [if_neg hsame]
    obtain ⟨n, hn⟩ : ∃ n, max bufferA.length bufferB.length = n + 1 :=
      ⟨max bufferA.length bufferB.length - 1, by omega⟩
    rw [hn]
    exact (divides_compare hdelta (by omega) (by omega)).sign rfl

end Comparison

/-- The byte-wise subtraction decides the comparison: when the bytes of the difference are all 0
    there is no difference, and otherwise a carry that the first turn loses does not change the
    sign. -/
def SubtractionDecides (bufferA : List UInt8) (deltaA : Int32) (bufferB : List UInt8)
    (deltaB : Int32) : Prop :=
  let diff := difference bufferA deltaA bufferB deltaB
  let kept := diff - carryLost bufferA deltaA bufferB deltaB
  if (256 : Int) ^ max bufferA.length bufferB.length ∣ kept then diff = 0 else 0 < diff * kept

instance (bufferA bufferB : List UInt8) (deltaA deltaB : Int32) :
    Decidable (SubtractionDecides bufferA deltaA bufferB deltaB) :=
  inferInstanceAs (Decidable (ite _ _ _))

theorem sign_eq_sign_iff {x y : Int} (hx : x ≠ 0) : x.sign = y.sign ↔ 0 < y * x := by
  rcases lt_trichotomy x 0 with hneg | hzero | hpos
  · rw [Int.sign_eq_neg_one_of_neg hneg, eq_comm, Int.sign_eq_neg_one_iff_neg]
    exact ⟨fun hy => mul_pos_of_neg_of_neg hy hneg, fun h => (neg_iff_neg_of_mul_pos h).mpr hneg⟩
  · exact absurd hzero hx
  · rw [Int.sign_eq_one_of_pos hpos, eq_comm, Int.sign_eq_one_iff_pos]
    exact (mul_pos_iff_of_pos_right hpos).symm

/-- **The two comparisons return the sign of the difference exactly when the subtraction decides
    it.** -/
theorem lacPkeCompare_sign_iff (bufferA bufferB : List UInt8) (deltaA deltaB : Int32)
    (hA : -2 ^ 30 < deltaA.toInt ∧ deltaA.toInt < 2 ^ 30)
    (hB : -2 ^ 30 < deltaB.toInt ∧ deltaB.toInt < 2 ^ 30)
    (hne : 0 < bufferA.length + bufferB.length) :
    ((lacPkeCompareIntPtrs bufferA deltaA bufferB deltaB).toInt.sign =
        (difference bufferA deltaA bufferB deltaB).sign ∧
      (lacPkeCompare ⟨bufferA⟩ deltaA ⟨bufferB⟩ deltaB).toInt.sign =
        (difference bufferA deltaA bufferB deltaB).sign) ↔
      SubtractionDecides bufferA deltaA bufferB deltaB := by
  unfold lacPkeCompare SubtractionDecides
  rw [and_self, lacPkeCompareIntPtrs_sign hA hB hne]
  split
  · next hdvd => rw [if_pos hdvd, eq_comm, Int.sign_eq_zero_iff_zero]
  · next hdvd =>
    rw [if_neg hdvd, sign_eq_sign_iff]
    rintro hzero
    exact hdvd (hzero ▸ dvd_zero _)

theorem lacPkeCompare_sign_iff_two_bytes :
    SubtractionDecides [1, 0] 0 [255] (-1) ∧
      (lacPkeCompareIntPtrs [1, 0] 0 [255] (-1)).toInt.sign = (2 : Int).sign ∧
      (lacPkeCompare ⟨[1, 0]⟩ 0 ⟨[255]⟩ (-1)).toInt.sign = (2 : Int).sign := by
  have h : SubtractionDecides [1, 0] 0 [255] (-1) := by decide
  exact ⟨h, (lacPkeCompare_sign_iff [1, 0] [255] 0 (-1) (by decide) (by decide) (by decide)).mpr h⟩

/-- With `256` added to a one byte number only the carry is not 0, and the sum is found equal to 0;
    with deltas at the end of their range a difference of `2147483901` is found negative. -/
theorem lacPkeCompare_wrong_sign :
    (lacPkeCompareIntPtrs [0] 256 [0] 0 = 0 ∧ lacPkeCompare ⟨[0]⟩ 256 ⟨[0]⟩ 0 = 0 ∧
        difference [0] 256 [0] 0 = 256) ∧
      lacPkeCompareIntPtrs [255] 1073741823 [0] (-1073741823) = -1 ∧
        lacPkeCompare ⟨[255]⟩ 1073741823 ⟨[0]⟩ (-1073741823) = -1 ∧
        difference [255] 1073741823 [0] (-1073741823) = 2147483901 := by
  decide

end Qatlib.Crypto
