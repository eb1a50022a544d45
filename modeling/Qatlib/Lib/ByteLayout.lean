import Mathlib.Data.List.Basic

set_option autoImplicit false

/-! # Words in memory

A message is a sequence of fields, each a word of some bytes stored with the lowest byte first. A
writer is the concatenation of `bytesOf` over the fields; a reader takes the fields off the front one
after the other, and reads each of them back. -/

namespace Qatlib

/-- The `n` lowest bytes of a word, the lowest first. -/
def bytesOf {w : Nat} (n : Nat) (v : BitVec w) : List UInt8 :=
  (List.range n).map fun i => ⟨v.extractLsb' (8 * i) 8⟩

/-- The word with the given bytes, the lowest first. -/
def ofBytes (w : Nat) : List UInt8 → BitVec w
  | [] => 0
  | b :: bs => b.toBitVec.setWidth w ||| ofBytes w bs <<< 8

/-- Take a field of `n` bytes off the front. -/
def takeField (w n : Nat) (bs : List UInt8) : BitVec w × List UInt8 :=
  (ofBytes w (bs.take n), bs.drop n)

variable {w n : Nat}

@[simp] theorem length_bytesOf (v : BitVec w) : (bytesOf n v).length = n := by simp [bytesOf]

theorem getLsbD_ofBytes {bs : List UInt8} {j : Nat} (hj : j < w) :
    (ofBytes w bs).getLsbD j =
      ((bs[j / 8]?).map fun b => b.toBitVec.getLsbD (j % 8)).getD false := by
  induction bs generalizing j with
  | nil => simp [ofBytes]
  | cons b bs ih =>
    rw [ofBytes, BitVec.getLsbD_or, BitVec.getLsbD_shiftLeft, BitVec.getLsbD_setWidth]
    rcases Nat.lt_or_ge j 8 with hlow | hhigh
    · simp [hj, hlow, Nat.div_eq_of_lt hlow, Nat.mod_eq_of_lt hlow]
    · have hdiv : j / 8 = (j - 8) / 8 + 1 := by omega
      have hmod : j % 8 = (j - 8) % 8 := by omega
      have hzero : b.toBitVec.getLsbD j = false := BitVec.getLsbD_of_ge _ _ hhigh
      simp [hj, hzero, Nat.not_lt.mpr hhigh, ih (show j - 8 < w by omega), hdiv, hmod]

/-- **A word reads back from its bytes.** -/
theorem ofBytes_bytesOf (h : w ≤ 8 * n) (v : BitVec w) : ofBytes w (bytesOf n v) = v := by
  apply BitVec.eq_of_getLsbD_eq
  intro j hj
  have hlt : j / 8 < n := by omega
  have hsplit : 8 * (j / 8) + j % 8 = j := Nat.div_add_mod j 8
  rw [getLsbD_ofBytes hj]
  simp [bytesOf, hlt, Nat.mod_lt, hsplit]

/-- The low bytes of a number do not depend on the width of the word it is stored in. -/
theorem bytesOf_ofNat {w' : Nat} (h : 8 * n ≤ w) (h' : 8 * n ≤ w') (k : Nat) :
    bytesOf n (BitVec.ofNat w k) = bytesOf n (BitVec.ofNat w' k) := by
  unfold bytesOf
  apply List.map_congr_left
  intro i hi
  rw [List.mem_range] at hi
  congr 1
  apply BitVec.eq_of_getLsbD_eq
  intro j hj
  have hw : 8 * i + j < w := by omega
  have hw' : 8 * i + j < w' := by omega
  simp only [BitVec.getLsbD_extractLsb', BitVec.getLsbD_ofNat, hw, hw']

@[simp] theorem takeField_append (h : w ≤ 8 * n) (v : BitVec w) (bs : List UInt8) :
    takeField w n (bytesOf n v ++ bs) = (v, bs) := by
  have hlen : (bytesOf n v).length = n := length_bytesOf v
  rw [takeField, List.take_left' hlen, List.drop_left' hlen, ofBytes_bytesOf h]

@[simp] theorem takeField_bytesOf (h : w ≤ 8 * n) (v : BitVec w) :
    takeField w n (bytesOf n v) = (v, []) := by
  rw [← List.append_nil (bytesOf n v), takeField_append h]

end Qatlib
