import Mathlib.Algebra.Polynomial.OfFn
import Mathlib.Algebra.CharP.Two
import Mathlib.Algebra.Field.ZMod
import Mathlib.RingTheory.AdjoinRoot

set_option autoImplicit false

/-! # Cyclic redundancy checks

A cyclic redundancy check takes a message bit by bit into a register of `w` bits. It divides
polynomials over the field with two elements: the register is the remainder of the message by the
generator `X ^ w + poly`.

The check comes in two orders. In the first the bits of a byte are taken from the highest down and
the register is shifted to the left. In the reflected one the bits are taken from the lowest up and
the register is shifted to the right, with the bits of the polynomial in reverse. Both take a whole
byte at once from a table with the check of each byte. -/

namespace Qatlib.Crc

open Polynomial

variable {w : Nat}

/-! ## Bit by bit -/

/-- Take one bit of the message into the register. -/
def step (poly crc : BitVec w) (b : Bool) : BitVec w :=
  if crc.msb ^^ b then crc <<< 1 ^^^ poly else crc <<< 1

/-- Take one bit into the register of a reflected check. -/
def stepRefl (poly crc : BitVec w) (b : Bool) : BitVec w :=
  if crc.getLsbD 0 ^^ b then crc >>> 1 ^^^ poly.reverse else crc >>> 1

/-- The bits of a byte, the highest first. -/
def msbFirst (b : BitVec 8) : List Bool := (List.range 8).map b.getMsbD

/-- The bits of a byte, the lowest first. -/
def lsbFirst (b : BitVec 8) : List Bool := (List.range 8).map b.getLsbD

section

variable (poly init : BitVec w) (bytes : List UInt8)

/-- The bits of a message. -/
def msbBits : List Bool := bytes.flatMap fun b => msbFirst b.toBitVec

/-- The bits of a message, those of each byte in reverse. -/
def lsbBits : List Bool := bytes.flatMap fun b => lsbFirst b.toBitVec

/-- The check of a message, from what the register starts with. -/
def bitwise : BitVec w :=
  (msbBits bytes).foldl (step poly) init

/-- The reflected check of a message. -/
def bitwiseRefl : BitVec w :=
  (lsbBits bytes).foldl (stepRefl poly) init

end

/-! ## Polynomials -/

/-- A bit as a coefficient. -/
def coef (b : Bool) : ZMod 2 := if b then 1 else 0

/-- The polynomial of a word: the lowest bit is the constant term. -/
noncomputable def toPoly (v : BitVec w) : (ZMod 2)[X] := ofFn w fun i => coef (v.getLsbD i)

/-- The polynomial of a message: the first bit is the leading coefficient. -/
noncomputable def msgPoly : List Bool → (ZMod 2)[X]
  | [] => 0
  | b :: bits => C (coef b) * X ^ bits.length + msgPoly bits

/-- The polynomial that a message is divided by. -/
noncomputable def generator (poly : BitVec w) : (ZMod 2)[X] := X ^ w + toPoly poly

theorem coef_xor : ∀ a b : Bool, coef (a ^^ b) = coef a + coef b := by decide

theorem coef_injective : Function.Injective coef := by
  unfold Function.Injective
  decide

@[simp] theorem coeff_toPoly (v : BitVec w) (i : Nat) : (toPoly v).coeff i = coef (v.getLsbD i) := by
  rcases Nat.lt_or_ge i w with h | h
  · rw [toPoly, ofFn_coeff_eq_val_of_lt _ h]
  · rw [toPoly, ofFn_coeff_eq_zero_of_ge _ h, BitVec.getLsbD_of_ge _ _ h]
    rfl

theorem toPoly_injective : Function.Injective (toPoly (w := w)) := by
  intro u v h
  apply BitVec.eq_of_getLsbD_eq
  intro i _
  have hi : (toPoly u).coeff i = (toPoly v).coeff i := by rw [h]
  rw [coeff_toPoly, coeff_toPoly] at hi
  exact coef_injective hi

theorem toPoly_xor (u v : BitVec w) : toPoly (u ^^^ v) = toPoly u + toPoly v := by
  ext i
  simp [coef_xor]

theorem toPoly_zero : toPoly (0 : BitVec w) = 0 := by
  ext i
  simp [coef]

theorem degree_toPoly_lt (v : BitVec w) : (toPoly v).degree < w := ofFn_degree_lt _

section

variable (poly : BitVec w)

theorem generator_monic : (generator poly).Monic := monic_X_pow_add (degree_toPoly_lt poly)

theorem degree_generator : (generator poly).degree = w := by
  rw [generator, degree_add_eq_left_of_degree_lt, degree_X_pow]
  rw [degree_X_pow]
  exact degree_toPoly_lt poly

/-- Words with the same residue are the same. -/
theorem eq_of_mk_eq {u v : BitVec w}
    (h : AdjoinRoot.mk (generator poly) (toPoly u) = AdjoinRoot.mk (generator poly) (toPoly v)) :
    u = v := by
  have hmod := modByMonic_eq_of_dvd_sub (generator_monic poly) (AdjoinRoot.mk_eq_mk.mp h)
  have hself : ∀ x : BitVec w, toPoly x %ₘ generator poly = toPoly x := by
    intro x
    rw [modByMonic_eq_self_iff (generator_monic poly), degree_generator]
    exact degree_toPoly_lt x
  rw [hself, hself] at hmod
  exact toPoly_injective hmod

/-- Modulo the generator, `X ^ w` is the polynomial of the register. -/
theorem mk_poly :
    AdjoinRoot.mk (generator poly) (toPoly poly) = AdjoinRoot.mk (generator poly) (X ^ w) := by
  have hself : toPoly poly + toPoly poly = 0 := CharTwo.add_self_eq_zero _
  rw [AdjoinRoot.mk_eq_mk, ← dvd_neg]
  refine dvd_of_eq ?_
  rw [generator]
  linear_combination hself

end

section

variable (poly c : BitVec w)

/-- A shift to the left, with the bits that fall out. -/
theorem X_pow_mul_toPoly {n : Nat} (hn : n ≤ w) (c : BitVec w) :
    X ^ n * toPoly c = toPoly (c <<< n) + X ^ w * toPoly (c.extractLsb' (w - n) n) := by
  ext i
  simp only [coeff_add, coeff_X_pow_mul', coeff_toPoly, BitVec.getLsbD_shiftLeft,
    BitVec.getLsbD_extractLsb']
  rcases Nat.lt_or_ge i n with hi | hi
  · have hw : ¬ w ≤ i := by omega
    simp [hi, hw, Nat.not_le.mpr hi, coef]
  · rcases Nat.lt_or_ge i w with hw | hw
    · simp [hi, hw, Nat.not_lt.mpr hi, Nat.not_le.mpr hw]
    · have hidx : w - n + (i - w) = i - n := by omega
      have hlow : i - w < n ∨ c.getLsbD (i - n) = false := by
        rcases Nat.lt_or_ge (i - w) n with h | h
        · exact .inl h
        · exact .inr (BitVec.getLsbD_of_ge _ _ (by omega))
      rcases hlow with h | h <;> simp [hi, hw, Nat.not_lt.mpr hw, hidx, h, coef]

theorem X_mul_toPoly : X * toPoly c = toPoly (c <<< 1) + C (coef c.msb) * X ^ w := by
  rcases Nat.eq_zero_or_pos w with rfl | hw
  · rw [BitVec.eq_nil c]
    simp [toPoly, coef]
  · have hbit : toPoly (c.extractLsb' (w - 1) 1) = C (coef c.msb) := by
      ext i
      rw [coeff_toPoly, coeff_C, BitVec.getLsbD_extractLsb', BitVec.msb_eq_getLsbD_last]
      rcases i with _ | i
      · simp
      · simp [coef]
    rw [← pow_one X, X_pow_mul_toPoly hw, hbit, pow_one, mul_comm (C _)]

/-- Taking a bit multiplies by `X` and adds the bit, modulo the generator. -/
theorem mk_step (b : Bool) :
    AdjoinRoot.mk (generator poly) (toPoly (step poly c b)) =
      AdjoinRoot.mk (generator poly) (X * toPoly c + C (coef b) * X ^ w) := by
  have hstep : toPoly (step poly c b) = toPoly (c <<< 1) + C (coef (c.msb ^^ b)) * toPoly poly := by
    unfold step
    split
    · next htop => simp [htop, toPoly_xor, coef]
    · next htop => simp [htop, coef]
  rw [hstep, map_add, map_mul, mk_poly, ← map_mul, ← map_add, X_mul_toPoly, coef_xor, C_add,
    add_mul, add_assoc]

/-- Taking a message, modulo the generator. -/
theorem mk_foldl_step (bits : List Bool) :
    AdjoinRoot.mk (generator poly) (toPoly (bits.foldl (step poly) c)) =
      AdjoinRoot.mk (generator poly) (X ^ bits.length * toPoly c + X ^ w * msgPoly bits) := by
  induction bits generalizing c with
  | nil => simp [msgPoly]
  | cons b bits ih =>
    rw [List.foldl_cons, ih, map_add, map_mul, mk_step, ← map_mul, ← map_add, msgPoly,
      List.length_cons]
    refine congrArg (AdjoinRoot.mk _) ?_
    ring

/-! ## Byte by byte -/

theorem coeff_msgPoly (bits : List Bool) (i : Nat) :
    (msgPoly bits).coeff i = coef (bits.reverse.getD i false) := by
  induction bits with
  | nil => simp [msgPoly, coef]
  | cons b bits ih =>
    rw [msgPoly, coeff_add, coeff_C_mul_X_pow, ih, List.reverse_cons]
    rcases Nat.lt_trichotomy i bits.length with h | rfl | h
    · rw [if_neg (by omega), zero_add, List.getD_append _ _ _ _ (by simpa using h)]
    · rw [if_pos rfl, List.getD_append_right _ _ _ _ (by simp), List.getD_eq_default _ _ (by simp)]
      simp [coef]
    · rw [if_neg (by omega), zero_add, List.getD_eq_default _ _ (by simp; omega),
        List.getD_eq_default _ _ (by simp; omega)]

theorem msgPoly_msbFirst (b : BitVec 8) : msgPoly (msbFirst b) = toPoly b := by
  ext i
  rw [coeff_msgPoly, coeff_toPoly]
  congr 1
  rcases Nat.lt_or_ge i 8 with h | h
  · have hlen : i < (msbFirst b).reverse.length := by simpa [msbFirst] using h
    have hidx : 7 - (7 - i) = i := by omega
    have hlt : 7 - i < 8 := by omega
    rw [List.getD_eq_getElem _ _ hlen, List.getElem_reverse]
    simp [msbFirst, BitVec.getMsbD_eq_getLsbD, hidx, hlt]
  · rw [List.getD_eq_default _ _ (by simpa [msbFirst] using h), BitVec.getLsbD_of_ge _ _ h]

/-- Take a byte into the register. -/
def byteStep (b : BitVec 8) : BitVec w := (msbFirst b).foldl (step poly) c

theorem mk_byteStep (b : BitVec 8) :
    AdjoinRoot.mk (generator poly) (toPoly (byteStep poly c b)) =
      AdjoinRoot.mk (generator poly) (X ^ 8 * toPoly c + X ^ w * toPoly b) := by
  rw [byteStep, mk_foldl_step, msgPoly_msbFirst]
  rfl

/-- **A byte at a time**: the check of the highest byte of the register and the byte of the message,
    with the rest of the register shifted. -/
theorem byteStep_eq (hw : 8 ≤ w) (poly c : BitVec w) (b : BitVec 8) :
    byteStep poly c b = c <<< 8 ^^^ byteStep poly 0 (c.extractLsb' (w - 8) 8 ^^^ b) := by
  apply eq_of_mk_eq poly
  rw [toPoly_xor, map_add, mk_byteStep, mk_byteStep, ← map_add, toPoly_zero, toPoly_xor,
    X_pow_mul_toPoly hw]
  refine congrArg (AdjoinRoot.mk _) ?_
  ring

theorem bitwise_eq_foldl (init : BitVec w) (bytes : List UInt8) :
    bitwise poly init bytes = bytes.foldl (fun c b => byteStep poly c b.toBitVec) init :=
  List.foldl_flatMap ..

theorem bitwise_append (init : BitVec w) (as bs : List UInt8) :
    bitwise poly init (as ++ bs) = bitwise poly (bitwise poly init as) bs := by
  simp only [bitwise, msbBits, List.flatMap_append, List.foldl_append]

/-- A value for each byte. -/
def byteTable {α : Type} (f : BitVec 8 → α) : List α :=
  (List.range 256).map fun i => f (BitVec.ofNat 8 i)

theorem getD_byteTable {α : Type} (f : BitVec 8 → α) (b : BitVec 8) (d : α) :
    (byteTable f).getD b.toNat d = f b := by
  have hlt : b.toNat < (byteTable f).length := by simpa [byteTable] using b.isLt
  rw [List.getD_eq_getElem _ _ hlt]
  simp [byteTable]

/-! ## Reflected checks -/

theorem reverse_xor (u v : BitVec w) : (u ^^^ v).reverse = u.reverse ^^^ v.reverse := by
  apply BitVec.eq_of_getLsbD_eq
  intro i _
  simp [BitVec.getLsbD_reverse]

theorem reverse_shiftLeft (n : Nat) : (c.reverse <<< n).reverse = c >>> n := by
  apply BitVec.eq_of_getLsbD_eq
  intro i _
  rw [BitVec.getLsbD_reverse, BitVec.getMsbD_shiftLeft, BitVec.getMsbD_reverse,
    BitVec.getLsbD_ushiftRight, Nat.add_comm]

theorem stepRefl_eq (b : Bool) : stepRefl poly c b = (step poly c.reverse b).reverse := by
  unfold stepRefl step
  rw [BitVec.msb_reverse]
  split
  · rw [reverse_xor, reverse_shiftLeft]
  · rw [reverse_shiftLeft]

theorem foldl_stepRefl (bits : List Bool) :
    bits.foldl (stepRefl poly) c = (bits.foldl (step poly) c.reverse).reverse := by
  induction bits generalizing c with
  | nil => rw [List.foldl_nil, List.foldl_nil, BitVec.reverse_reverse_eq]
  | cons b bits ih =>
    rw [List.foldl_cons, List.foldl_cons, ih, stepRefl_eq, BitVec.reverse_reverse_eq]

theorem lsbFirst_eq (b : BitVec 8) : lsbFirst b = msbFirst b.reverse := by
  unfold lsbFirst msbFirst
  apply List.map_congr_left
  intro i _
  rw [BitVec.getMsbD_reverse]

/-- Take a byte into the register of a reflected check. -/
def byteStepRefl (b : BitVec 8) : BitVec w :=
  (lsbFirst b).foldl (stepRefl poly) c

theorem byteStepRefl_eq_reverse (b : BitVec 8) :
    byteStepRefl poly c b = (byteStep poly c.reverse b.reverse).reverse := by
  rw [byteStepRefl, foldl_stepRefl, lsbFirst_eq]
  rfl

end

/-- **A byte at a time**, reflected: the check of the lowest byte of the register and the byte of the
    message, with the rest of the register shifted. -/
theorem byteStepRefl_eq (hw : 8 ≤ w) (poly c : BitVec w) (b : BitVec 8) :
    byteStepRefl poly c b = c >>> 8 ^^^ byteStepRefl poly 0 (c.setWidth 8 ^^^ b) := by
  have hlow : c.reverse.extractLsb' (w - 8) 8 = (c.setWidth 8).reverse := by
    apply BitVec.eq_of_getLsbD_eq
    intro i hi
    have hidx : w - 1 - (w - 8 + i) = 8 - 1 - i := by omega
    have hlt : w - 8 + i < w := by omega
    have hlt' : 8 - 1 - i < 8 := by omega
    rw [BitVec.getLsbD_extractLsb', BitVec.getLsbD_reverse, BitVec.getLsbD_reverse,
      BitVec.getMsbD_eq_getLsbD, BitVec.getMsbD_eq_getLsbD, BitVec.getLsbD_setWidth, hidx]
    simp [hi, hlt, hlt']
  have hzero : (0 : BitVec w).reverse = 0 := BitVec.reverse_eq_zero_iff.mpr rfl
  rw [byteStepRefl_eq_reverse, byteStep_eq hw, reverse_xor, reverse_shiftLeft, hlow, ← reverse_xor,
    byteStepRefl_eq_reverse, hzero]

theorem bitwiseRefl_eq_foldl (poly init : BitVec w) (bytes : List UInt8) :
    bitwiseRefl poly init bytes = bytes.foldl (fun c b => byteStepRefl poly c b.toBitVec) init :=
  List.foldl_flatMap ..

theorem bitwiseRefl_append (poly init : BitVec w) (as bs : List UInt8) :
    bitwiseRefl poly init (as ++ bs) = bitwiseRefl poly (bitwiseRefl poly init as) bs := by
  simp only [bitwiseRefl, lsbBits, List.flatMap_append, List.foldl_append]

end Qatlib.Crc
