import Mathlib.Data.Nat.Bitwise

set_option autoImplicit false

/-! # Bitmaps stored in machine words

A bitmap is an array of `w`-bit words read as one sequence of bits. Programs update it word by word,
with masks for the words at the two ends of a range and whole-word stores in between, and scan it
through windows that start at any bit. Each operation here gets one lemma that says what it does to
the sequence of bits; nothing else about words is needed by its users. -/

namespace Qatlib

/-- A bitmap in words of `w` bits. -/
abbrev Bitmap (w : Nat) := Nat → BitVec w

namespace Bitmap

variable {w : Nat}

/-- Bit `i` of the sequence. -/
def bit (m : Bitmap w) (i : Nat) : Bool := (m (i / w)).getLsbD (i % w)

/-- Store one word. -/
def setWord (m : Bitmap w) (q : Nat) (x : BitVec w) : Bitmap w := fun i => if i = q then x else m i

/-- The word with its lowest `n` bits set. -/
def lowMask (w n : Nat) : BitVec w := BitVec.ofNat w (2 ^ n - 1)

theorem getLsbD_lowMask {n j : Nat} (hj : j < w) : (lowMask w n).getLsbD j = decide (j < n) := by
  rw [lowMask, BitVec.getLsbD_ofNat, Nat.testBit_two_pow_sub_one]
  simp [hj]

/-- A word with the bits selected by a mask set, or cleared. -/
def writeMasked (b : Bool) (x mask : BitVec w) : BitVec w := if b then x ||| mask else x &&& ~~~mask

theorem getLsbD_writeMasked (b : Bool) (x mask : BitVec w) {j : Nat} (hj : j < w) :
    (writeMasked b x mask).getLsbD j = if mask.getLsbD j then b else x.getLsbD j := by
  cases b with
  | false =>
    rw [writeMasked, if_neg (by simp), BitVec.getLsbD_and, BitVec.getLsbD_not]
    cases mask.getLsbD j <;> simp [hj]
  | true =>
    rw [writeMasked, if_pos rfl, BitVec.getLsbD_or]
    cases mask.getLsbD j <;> simp

/-! ## Bits and words -/

/-- A bit range inside word `q`, counted from the start of the bitmap. -/
theorem word_range_iff (q lo : Nat) {hi : Nat} (i : Nat) (hhi : hi ≤ w) :
    i / w = q ∧ lo ≤ i % w ∧ i % w < hi ↔ q * w + lo ≤ i ∧ i < q * w + hi := by
  have hdiv := Nat.div_add_mod i w
  rw [Nat.mul_comm] at hdiv
  constructor
  · rintro ⟨rfl, hlo, hlt⟩
    omega
  · rintro ⟨hlo, hlt⟩
    have hq : i / w = q := by
      refine Nat.div_eq_of_lt_le (by omega) ?_
      rw [Nat.succ_mul]
      omega
    rw [hq] at hdiv
    exact ⟨hq, by omega, by omega⟩

theorem bit_setWord (m : Bitmap w) (q : Nat) (x : BitVec w) (i : Nat) :
    (m.setWord q x).bit i = if i / w = q then x.getLsbD (i % w) else m.bit i := by
  unfold bit setWord
  split <;> rfl

/-- A masked write changes the bits that the mask selects. -/
theorem bit_setWord_masked (hw : 0 < w) (m : Bitmap w) (b : Bool) (q : Nat) (mask : BitVec w)
    (i : Nat) :
    (m.setWord q (writeMasked b (m q) mask)).bit i =
      if i / w = q ∧ mask.getLsbD (i % w) then b else m.bit i := by
  rw [bit_setWord]
  split
  · next hq =>
    rw [getLsbD_writeMasked _ _ _ (Nat.mod_lt i hw)]
    simp [hq, bit]
  · next hq => simp [hq]

/-! ## Single bits -/

/-- Set one bit. -/
def setBit (m : Bitmap w) (i : Nat) : Bitmap w := m.setWord (i / w) (m (i / w) ||| 1#w <<< (i % w))

/-- Clear one bit. -/
def clearBit (m : Bitmap w) (i : Nat) : Bitmap w :=
  m.setWord (i / w) (m (i / w) &&& ~~~(1#w <<< (i % w)))

/-- The mask of bit `i` selects bit `i`. -/
theorem single_mask_iff (hw : 0 < w) (i k : Nat) :
    k / w = i / w ∧ (1#w <<< (i % w)).getLsbD (k % w) = true ↔ k = i := by
  have hmod := Nat.mod_lt k hw
  have hmask : (1#w <<< (i % w)).getLsbD (k % w) = decide (k % w = i % w) := by
    rw [BitVec.getLsbD_shiftLeft, BitVec.getLsbD_one]
    rcases Nat.lt_or_ge (k % w) (i % w) with hlt | hge
    · simp [hlt, Nat.ne_of_lt hlt]
    · have hzero : k % w - i % w = 0 ↔ k % w = i % w := by omega
      simp [hmod, hw, Nat.not_lt.mpr hge, hzero]
  rw [hmask, decide_eq_true_eq]
  constructor
  · rintro ⟨hdiv, hmod'⟩
    rw [← Nat.div_add_mod k w, hdiv, hmod', Nat.div_add_mod]
  · rintro rfl
    exact ⟨rfl, rfl⟩

theorem bit_setBit (hw : 0 < w) (m : Bitmap w) (i k : Nat) :
    (m.setBit i).bit k = true ↔ k = i ∨ m.bit k = true := by
  have h := bit_setWord_masked hw m true (i / w) (1#w <<< (i % w)) k
  simp only [writeMasked, if_true, single_mask_iff hw i k] at h
  rw [setBit, h]
  by_cases hk : k = i
  · simp [hk]
  · simp [hk]

theorem bit_clearBit (hw : 0 < w) (m : Bitmap w) (i k : Nat) :
    (m.clearBit i).bit k = true ↔ k ≠ i ∧ m.bit k = true := by
  have h := bit_setWord_masked hw m false (i / w) (1#w <<< (i % w)) k
  simp only [writeMasked, Bool.false_eq_true, if_false, single_mask_iff hw i k] at h
  rw [clearBit, h]
  by_cases hk : k = i
  · simp [hk]
  · simp [hk]

/-! ## Writing a range -/

/-- Store whole words, `n` of them from word `q` on. -/
def fillWords (b : Bool) (m : Bitmap w) (q : Nat) : Nat → Bitmap w
  | 0 => m
  | n + 1 => fillWords b (m.setWord q (if b then BitVec.allOnes w else 0)) (q + 1) n

theorem bit_fillWords (hw : 0 < w) (b : Bool) (m : Bitmap w) (q n i : Nat) :
    (fillWords b m q n).bit i = if q * w ≤ i ∧ i < (q + n) * w then b else m.bit i := by
  induction n generalizing m q with
  | zero => rw [fillWords, if_neg (by rw [Nat.add_zero]; omega)]
  | succ n ih =>
    have hword := word_range_iff q 0 i (Nat.le_refl w)
    have hmod := Nat.mod_lt i hw
    have hfill : (if b then BitVec.allOnes w else 0).getLsbD (i % w) = b := by
      cases b <;> simp [hmod]
    have hnext : (q + 1) * w = q * w + w := Nat.succ_mul q w
    have hend : (q + 1 + n) * w = (q + (n + 1)) * w := by rw [Nat.add_assoc, Nat.add_comm 1 n]
    have hle : (q + 1) * w ≤ (q + 1 + n) * w := Nat.mul_le_mul_right w (Nat.le_add_right _ _)
    rw [fillWords, ih, bit_setWord, hfill]
    by_cases hin : i / w = q
    · have hrange := hword.mp ⟨hin, by omega, hmod⟩
      rw [if_neg (by omega), if_pos hin, if_pos (by omega)]
    · have hout : ¬(q * w ≤ i ∧ i < q * w + w) := fun h => hin (hword.mpr ⟨by omega, h.2⟩).1
      rw [if_neg hin]
      by_cases hlater : (q + 1) * w ≤ i ∧ i < (q + 1 + n) * w
      · rw [if_pos hlater, if_pos (by omega)]
      · rw [if_neg hlater, if_neg (by omega)]

/-- Write the bits from `index` on: a masked write up to the next word boundary, whole words, and a
    masked write of the rest. -/
def writeRange (b : Bool) (m : Bitmap w) (index len : Nat) : Bitmap w :=
  let offset := index % w
  let width := if offset > 0 then min len (w - offset) else 0
  let m := if offset > 0 then
      m.setWord (index / w) (writeMasked b (m (index / w)) (lowMask w width <<< offset))
    else m
  let qword := if offset > 0 then index / w + 1 else index / w
  let num := (len - width) / w
  let m := fillWords b m qword num
  m.setWord (qword + num) (writeMasked b (m (qword + num)) (lowMask w ((len - width) % w)))

theorem bit_head (hw : 0 < w) (b : Bool) (m : Bitmap w) {q offset width : Nat}
    (hwidth : offset + width ≤ w) (i : Nat) :
    (m.setWord q (writeMasked b (m q) (lowMask w width <<< offset))).bit i =
      if q * w + offset ≤ i ∧ i < q * w + (offset + width) then b else m.bit i := by
  have hmod := Nat.mod_lt i hw
  have hmask : (lowMask w width <<< offset).getLsbD (i % w) =
      decide (offset ≤ i % w ∧ i % w < offset + width) := by
    rw [BitVec.getLsbD_shiftLeft, getLsbD_lowMask (by omega)]
    by_cases hlo : i % w < offset
    · simp [hlo, Nat.not_le.mpr hlo]
    · have hlt : i % w - offset < width ↔ i % w < offset + width := by omega
      simp [hmod, hlt, Nat.not_lt.mp hlo]
  rw [bit_setWord_masked hw, hmask]
  simp only [decide_eq_true_eq, word_range_iff q offset i hwidth]

theorem bit_tail (hw : 0 < w) (b : Bool) (m : Bitmap w) {q len : Nat} (hlen : len ≤ w) (i : Nat) :
    (m.setWord q (writeMasked b (m q) (lowMask w len))).bit i =
      if q * w ≤ i ∧ i < q * w + len then b else m.bit i := by
  have h := bit_head hw b m (q := q) (show 0 + len ≤ w by omega) i
  rwa [BitVec.shiftLeft_zero, Nat.add_zero, Nat.zero_add] at h

/-- **What a range write does**: the bits of the range take the value, the others stay. -/
theorem bit_writeRange (hw : 0 < w) (b : Bool) (m : Bitmap w) (index len i : Nat) :
    (writeRange b m index len).bit i =
      if index ≤ i ∧ i < index + len then b else m.bit i := by
  have hdiv := Nat.div_add_mod index w
  rw [Nat.mul_comm] at hdiv
  have hoff := Nat.mod_lt index hw
  unfold writeRange
  dsimp only
  by_cases hpos : index % w > 0
  · -- the range starts inside a word
    simp only [if_pos hpos]
    generalize hwidth : min len (w - index % w) = width
    have hrest := Nat.div_add_mod (len - width) w
    rw [Nat.mul_comm] at hrest
    have hnext : (index / w + 1) * w = index / w * w + w := Nat.succ_mul _ w
    have hadd : (index / w + 1 + (len - width) / w) * w =
        (index / w + 1) * w + (len - width) / w * w := Nat.add_mul _ _ w
    rw [bit_tail hw _ _ (Nat.le_of_lt (Nat.mod_lt _ hw)), bit_fillWords hw,
      bit_head hw _ _ (by omega)]
    grind
  · -- the range starts at a word boundary
    simp only [if_neg hpos, Nat.sub_zero]
    have hrest := Nat.div_add_mod len w
    rw [Nat.mul_comm] at hrest
    have hadd : (index / w + len / w) * w = index / w * w + len / w * w := Nat.add_mul _ _ w
    rw [bit_tail hw _ _ (Nat.le_of_lt (Nat.mod_lt _ hw)), bit_fillWords hw]
    grind

/-- A bit of word `q`. -/
theorem bit_word (m : Bitmap w) (q : Nat) {j : Nat} (hj : j < w) :
    m.bit (q * w + j) = (m q).getLsbD j := by
  have hw : 0 < w := by omega
  have hdiv : (q * w + j) / w = q := by
    rw [Nat.mul_comm, Nat.mul_add_div hw, Nat.div_eq_of_lt hj, Nat.add_zero]
  have hmod : (q * w + j) % w = j := by rw [Nat.mul_comm, Nat.mul_add_mod, Nat.mod_eq_of_lt hj]
  rw [bit, hdiv, hmod]

/-- Bitmaps with the same bits are the same words. -/
theorem eq_of_bit_eq {m m' : Bitmap w} (h : ∀ i, m.bit i = m'.bit i) : m = m' := by
  funext q
  refine BitVec.eq_of_getLsbD_eq fun j hj => ?_
  rw [← m.bit_word q hj, ← m'.bit_word q hj]
  exact h _

/-- Word `q` is full exactly when all its bits are set. -/
theorem eq_allOnes_iff (hw : 0 < w) (m : Bitmap w) (q : Nat) :
    m q = BitVec.allOnes w ↔ ∀ i, q * w ≤ i → i < q * w + w → m.bit i = true := by
  constructor
  · intro h i hlo hhi
    have hi := (word_range_iff q 0 i (Nat.le_refl w)).mpr ⟨hlo, hhi⟩
    simp [bit, hi.1, h, Nat.mod_lt i hw]
  · intro h
    refine BitVec.eq_of_getLsbD_eq fun j hj => ?_
    rw [← m.bit_word q hj, h (q * w + j) (by omega) (by omega)]
    simp [hj]

/-! ## Scanning -/

/-- The `w` bits from `pos` on. -/
def window (m : Bitmap w) (pos : Nat) : BitVec w :=
  if pos % w = 0 then m (pos / w)
  else m (pos / w) >>> (pos % w) ||| m (pos / w + 1) <<< (w - pos % w)

theorem getLsbD_window (m : Bitmap w) (pos : Nat) {j : Nat} (hj : j < w) :
    (m.window pos).getLsbD j = m.bit (pos + j) := by
  have hw : 0 < w := by omega
  have hdiv := Nat.div_add_mod pos w
  have hoff := Nat.mod_lt pos hw
  rw [Nat.mul_comm] at hdiv
  have hnext : (pos / w + 1) * w = pos / w * w + w := Nat.succ_mul _ w
  unfold window
  by_cases hin : pos % w + j < w
  · have hloc := (word_range_iff (pos / w) (pos % w + j) (pos + j) (Nat.succ_le_of_lt hin)).mpr
      (by omega)
    have hbit : m.bit (pos + j) = (m (pos / w)).getLsbD (pos % w + j) := by
      rw [bit, hloc.1, Nat.le_antisymm (Nat.le_of_lt_succ hloc.2.2) hloc.2.1]
    rw [hbit]
    split
    · next hzero => rw [hzero, Nat.zero_add]
    · have hlow : j < w - pos % w := by omega
      simp [hlow]
  · have hlt : pos % w + j - w + 1 ≤ w := by omega
    have hloc := (word_range_iff (pos / w + 1) (pos % w + j - w) (pos + j) hlt).mpr (by omega)
    have hbit : m.bit (pos + j) = (m (pos / w + 1)).getLsbD (pos % w + j - w) := by
      rw [bit, hloc.1, Nat.le_antisymm (Nat.le_of_lt_succ hloc.2.2) hloc.2.1]
    rw [hbit, if_neg (by omega)]
    have hout : (m (pos / w)).getLsbD (pos % w + j) = false := BitVec.getLsbD_of_ge _ _ (by omega)
    have hhigh : ¬ j < w - pos % w := by omega
    have hidx : j - (w - pos % w) = pos % w + j - w := by omega
    rw [BitVec.getLsbD_or, BitVec.getLsbD_ushiftRight, hout, BitVec.getLsbD_shiftLeft, hidx]
    simp [hhigh, hj]

end Bitmap

/-! ## Counting zeros -/

/-- The number of zeros at the low end of a word. -/
def trailingZeros {w : Nat} (x : BitVec w) : Nat := (List.range w).findIdx x.getLsbD

section Zeros

variable {w : Nat} (x : BitVec w)

theorem trailingZeros_le : trailingZeros x ≤ w := by
  have h : trailingZeros x ≤ (List.range w).length := List.findIdx_le_length
  rwa [List.length_range] at h

theorem getLsbD_of_lt_trailingZeros {j : Nat} (hj : j < trailingZeros x) : x.getLsbD j = false := by
  have h := List.not_of_lt_findIdx hj
  simpa using h

theorem getLsbD_trailingZeros (h : trailingZeros x < w) : x.getLsbD (trailingZeros x) = true := by
  have hlen : (List.range w).findIdx x.getLsbD < (List.range w).length := by rwa [List.length_range]
  have hidx := List.findIdx_getElem (w := hlen)
  rwa [List.getElem_range] at hidx

end Zeros

end Qatlib
