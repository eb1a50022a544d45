import Mathlib.Data.Nat.Digits.Defs
import Mathlib.Data.Nat.Digits.Lemmas
import Mathlib.Tactic.Ring

set_option autoImplicit false

/-! # Numbers as byte strings

The number a byte string stands for, with the least (`leValue`) or the most significant byte
(`beValue`) first, and the byte string of a given length that stands for a number (`beBytes`). -/

namespace Qatlib

/-- The value of a byte string, least significant byte first. -/
def leValue (bs : List UInt8) : Nat := Nat.ofDigits 256 (bs.map UInt8.toNat)

/-- The value of a byte string, most significant byte first. -/
def beValue (bs : List UInt8) : Nat := leValue bs.reverse

@[simp] theorem leValue_nil : leValue [] = 0 := rfl

@[simp] theorem beValue_nil : beValue [] = 0 := rfl

theorem leValue_cons (b : UInt8) (bs : List UInt8) :
    leValue (b :: bs) = b.toNat + 256 * leValue bs := by
  simp [leValue, Nat.ofDigits_cons]

theorem leValue_lt (bs : List UInt8) : leValue bs < 256 ^ bs.length := by
  have h : ∀ x ∈ bs.map UInt8.toNat, x < 256 := by
    intro x hx
    obtain ⟨b, -, rfl⟩ := List.mem_map.mp hx
    exact b.toNat_lt
  simpa [leValue] using Nat.ofDigits_lt_base_pow_length (by decide) h

theorem beValue_lt (bs : List UInt8) : beValue bs < 256 ^ bs.length := by
  simpa [beValue] using leValue_lt bs.reverse

theorem beValue_append (as bs : List UInt8) :
    beValue (as ++ bs) = beValue as * 256 ^ bs.length + beValue bs := by
  simp only [beValue, leValue, List.reverse_append, List.map_append, Nat.ofDigits_append,
    List.length_map, List.length_reverse]
  ring

theorem beValue_cons (b : UInt8) (bs : List UInt8) :
    beValue (b :: bs) = b.toNat * 256 ^ bs.length + beValue bs := by
  rw [← List.singleton_append, beValue_append]
  simp [beValue, leValue]

theorem beValue_replicate_append (n : Nat) (bs : List UInt8) :
    beValue (List.replicate n 0 ++ bs) = beValue bs := by
  induction n with
  | zero => rfl
  | succ n ih => simp [List.replicate_succ, beValue_cons, ih]

/-- The last bytes are the value modulo a power of 256. -/
theorem beValue_append_mod (as bs : List UInt8) :
    beValue (as ++ bs) % 256 ^ bs.length = beValue bs := by
  rw [beValue_append, Nat.mul_comm, Nat.mul_add_mod, Nat.mod_eq_of_lt (beValue_lt bs)]

/-- The low-order bytes of a number, most significant byte first. -/
def beBytes : Nat → Nat → List UInt8
  | 0, _ => []
  | len + 1, n => UInt8.ofNat (n / 256 ^ len) :: beBytes len n

@[simp] theorem length_beBytes (len n : Nat) : (beBytes len n).length = len := by
  induction len with
  | zero => rfl
  | succ len ih => simp [beBytes, ih]

/-- The last bytes are the low-order ones. -/
theorem drop_beBytes (a b n : Nat) : (beBytes (a + b) n).drop a = beBytes b n := by
  induction a with
  | zero => simp
  | succ a ih => rw [Nat.succ_add, beBytes, List.drop_succ_cons, ih]

/-- The bytes above a small number are 0. -/
theorem beBytes_add_of_lt (a : Nat) {b n : Nat} (h : n < 256 ^ b) :
    beBytes (a + b) n = List.replicate a 0 ++ beBytes b n := by
  induction a with
  | zero => simp
  | succ a ih =>
    have hzero : n / 256 ^ (a + b) = 0 := by
      apply Nat.div_eq_of_lt
      exact Nat.lt_of_lt_of_le h (Nat.pow_le_pow_right (by decide) (by omega))
    rw [Nat.succ_add, beBytes, hzero, ih, List.replicate_succ, List.cons_append]
    rfl

end Qatlib
