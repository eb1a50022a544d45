import Qatlib.Lib.Crc
import Qatlib.Pfvf.BlockMessage

set_option autoImplicit false

/-! # The checksum of block messages

The checksum that a VF compares at the end of a block message is a CRC-8 with the polynomial
`X^8 + X^7 + X^4 + X^2 + X + 1`, taken byte by byte from a table. A block message with one wrong
byte is refused. -/

namespace Qatlib.Pfvf

theorem pfvfCrc8Table_eq :
    pfvfCrc8Table = Crc.byteTable fun b => UInt8.ofBitVec (Crc.byteStep 0x97#8 0 b) := by
  decide +kernel

/-- A step of the loop takes a byte. -/
theorem byteStep_eq_pfvfTable (crc b : UInt8) :
    Crc.byteStep 0x97#8 crc.toBitVec b.toBitVec =
      (pfvfCrc8Table.getD (crc ^^^ b).toNat 0).toBitVec := by
  have hshift : crc.toBitVec <<< 8 = 0#8 := BitVec.shiftLeft_eq_zero (Nat.le_refl 8)
  have hall : crc.toBitVec.extractLsb' (8 - 8) 8 = crc.toBitVec := BitVec.extractLsb'_eq_self
  have hindex : (crc ^^^ b).toNat = (crc.toBitVec ^^^ b.toBitVec).toNat := rfl
  rw [Crc.byteStep_eq (Nat.le_refl 8), hshift, hall, BitVec.zero_xor, pfvfCrc8Table_eq, hindex,
    Crc.getD_byteTable]

theorem pfvfCrc_toBitVec (start : UInt8) (bytes : List UInt8) :
    (pfvfCrc start bytes).toBitVec = Crc.bitwise 0x97#8 start.toBitVec bytes := by
  rw [pfvfCrc, Crc.bitwise_eq_foldl, List.foldl_hom UInt8.toBitVec byteStep_eq_pfvfTable]

/-- **The checksum is the CRC-8**, bit by bit. -/
theorem pfvfCrc_bitwise (bytes : List UInt8) :
    pfvfCrc 0xff bytes = UInt8.ofBitVec (Crc.bitwise 0x97#8 0xff#8 bytes) := by
  rw [← UInt8.toBitVec_inj, pfvfCrc_toBitVec]
  rfl

/-! ## What is refused -/

theorem pfvfCrc8Table_injective :
    Function.Injective fun i : UInt8 => pfvfCrc8Table.getD i.toNat 0 := by
  have hindex : ∀ i < 256, pfvfCrc8Table.idxOf (pfvfCrc8Table.getD i 0) = i := by decide +kernel
  intro i j h
  rw [← UInt8.toNat_inj, ← hindex _ i.toNat_lt, ← hindex _ j.toNat_lt]
  exact congrArg pfvfCrc8Table.idxOf h

/-- Checksums that differ stay different. -/
theorem pfvfCrc_injective (bytes : List UInt8) : Function.Injective fun crc => pfvfCrc crc bytes := by
  induction bytes with
  | nil => exact Function.injective_id
  | cons b bytes ih =>
    intro crc crc' h
    exact (UInt8.xor_left_inj b).mp (pfvfCrc8Table_injective (ih h))

/-- **A wrong byte is refused**: a VF whose bytes differ from those of the PF in one place does not
    return success when the PF answers its request for the checksum. -/
theorem Vf.handle_wrong_byte {vf : Vf} {m a : PfvfMessage} {msgLen : Nat} {x b : UInt8}
    {blocks : Nat → List UInt8} {pre post : List UInt8} (hcrc : vf.awaited = .crc msgLen)
    (hreq : vf.request = some m) (hans : pfAnswer blocks m = some a)
    (hbuffer : vf.buffer.take (msgLen % 256) = pre ++ x :: post)
    (hblock : (blocks vf.type).take (msgLen % 256) = pre ++ b :: post) (hne : x ≠ b) :
    (vf.handle a).io = .done (-5) := by
  rw [Vf.request, hcrc] at hreq
  have hbyte : (Awaited.crc msgLen).byte + 1 = msgLen % 256 := by
    have h := (blkmsgDataReq_spec hreq).1
    simp only [Awaited.byte] at h ⊢
    omega
  have hcalc : calcBlkmsgCrc (pre ++ x :: post) ≠ calcBlkmsgCrc (pre ++ b :: post) := by
    intro h
    simp only [calcBlkmsgCrc, pfvfCrc, List.foldl_append, List.foldl_cons] at h
    exact hne ((UInt8.xor_right_inj _).mp (pfvfCrc8Table_injective (pfvfCrc_injective post h)))
  rw [pfAnswer, (blkmsgDataReq_spec hreq).2] at hans
  cases hans
  dsimp only
  cases (blocks vf.type)[(Awaited.crc msgLen).byte]? with
  | none => rw [Vf.handle, if_pos (blkmsgResp_spec (show 2 < 4 by decide) _).1]
  | some last =>
    obtain ⟨hkind, hdata⟩ := blkmsgResp_spec (show 1 < 4 by decide) (calcBlkmsgCrc (pre ++ b :: post))
    simp only [Awaited.isCrc, if_true]
    rw [hbyte, hblock, Vf.handle, hkind, if_neg (by decide), hdata, Vf.accept, hcrc]
    dsimp only
    rw [hbuffer, if_neg hcalc]

/-- The third byte is wrong. -/
theorem Vf.handle_wrong_byte_third :
    ((⟨0, [1, 1, 7], 3, .crc 3, .send 0⟩ : Vf).handle (blkmsgResp 1 (calcBlkmsgCrc [1, 1, 5]))).io =
      .done (-5) :=
  @Vf.handle_wrong_byte _ _ _ 3 7 5 (fun _ => [1, 1, 5]) [1, 1] [] rfl rfl rfl rfl rfl (by decide)

end Qatlib.Pfvf
