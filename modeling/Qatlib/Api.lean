import Mathlib.Algebra.Group.Nat.Defs
import Mathlib.Data.Nat.Bitwise
import Qatlib.Lib.ByteMemory

set_option autoImplicit false

/-! # What the components share

The status that nearly every function of the library returns, flat buffers, and two macros on sizes.
-/

namespace Qatlib

/-- `CpaStatus`. -/
inductive CpaStatus where
  | success | fail | retry | resource | invalidParam | fatal | unsupported | restarting
deriving DecidableEq

/-- `CpaFlatBuffer`. -/
structure FlatBuffer where
  pData : Nat
  dataLenInBytes : UInt32
deriving DecidableEq

namespace FlatBuffer

/-- The length of a buffer. -/
def len (b : FlatBuffer) : Nat := b.dataLenInBytes.toNat

def bytes (b : FlatBuffer) (m : Memory) : List UInt8 := m.read b.pData b.len

@[simp] theorem length_bytes (b : FlatBuffer) (m : Memory) : (b.bytes m).length = b.len :=
  Memory.length_read _ _ _

end FlatBuffer

/-- `LAC_ALIGN_POW2_ROUNDUP`. -/
def alignPow2Roundup (num align : UInt32) : UInt32 := (num + align - 1) &&& ~~~(align - 1)

/-- `LAC_BYTES_TO_QUADWORDS`. -/
def bytesToQuadwords (n : Nat) : Nat := n / 8 + if n % 8 = 0 then 0 else 1

theorem and_two_pow_sub {k w x : Nat} (hk : k ≤ w) (hx : x < 2 ^ w) :
    x &&& (2 ^ (w - k) - 1) * 2 ^ k = x / 2 ^ k * 2 ^ k := by
  apply Nat.eq_of_testBit_eq
  intro i
  rw [Nat.testBit_and, Nat.testBit_mul_two_pow, Nat.testBit_mul_two_pow, Nat.testBit_two_pow_sub_one,
    Nat.testBit_div_two_pow]
  rcases Nat.lt_or_ge i k with hi | hi
  · simp [Nat.not_le.mpr hi]
  · rcases Nat.lt_or_ge i w with hi' | hi'
    · have hlt : i - k < w - k := by omega
      simp [hi, hlt]
    · have hzero : x.testBit i = false :=
        Nat.testBit_lt_two_pow (Nat.lt_of_lt_of_le hx (Nat.pow_le_pow_right (by decide) hi'))
      simp [hi, hzero]

theorem toNat_alignPow2Roundup {k : Nat} (hk : k < 32) {n align : UInt32}
    (halign : align.toNat = 2 ^ k) :
    (alignPow2Roundup n align).toNat = (n.toNat + (2 ^ k - 1)) % 2 ^ 32 / 2 ^ k * 2 ^ k := by
  have hpos : 0 < 2 ^ k := Nat.two_pow_pos k
  have hone : (align - 1).toNat = 2 ^ k - 1 := by
    rw [UInt32.toNat_sub_of_le _ _ (UInt32.le_iff_toNat_le.mpr (halign ▸ hpos)), halign]
    rfl
  have hmask : (~~~(align - 1)).toNat = (2 ^ (32 - k) - 1) * 2 ^ k := by
    have hpow : 2 ^ (32 - k) * 2 ^ k = 2 ^ 32 := by rw [← Nat.pow_add, Nat.sub_add_cancel hk.le]
    rw [UInt32.toNat_not, hone, Nat.sub_one_mul, hpow]
    have : 2 ^ k < 2 ^ 32 := Nat.pow_lt_pow_right (by decide) hk
    simp [UInt32.size]
    omega
  have hsum : (n + align - 1).toNat = (n.toNat + (2 ^ k - 1)) % 2 ^ 32 := by
    rw [UInt32.sub_eq_add_neg, UInt32.add_assoc, ← UInt32.sub_eq_add_neg, UInt32.toNat_add, hone]
  rw [alignPow2Roundup, UInt32.toNat_and, hmask, hsum]
  exact and_two_pow_sub hk.le (Nat.mod_lt _ (by decide))

end Qatlib
