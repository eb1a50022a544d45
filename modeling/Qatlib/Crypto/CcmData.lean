import Qatlib.Lib.BigEndian
import Qatlib.Lib.ByteMemory

set_option autoImplicit false

/-! # The blocks of CCM

`LacSymAlgChain_PrepareCCMData` (`lac_sym_auth_enc.c`) completes the two buffers of a CCM request. The
client has written the nonce to both, from byte 1 on, and the additional data to the second one, from
byte 18 on; the function writes the rest of the first counter block, of the block `B0` and of the
additional data blocks of RFC 3610. The blocks of the RFC are stated on their own first.

`LacSymAlgChain_CheckCCMData` refuses a message whose length does not fit the length field. -/

namespace Qatlib.Crypto

open Memory

/-! ## RFC 3610 -/

namespace Rfc3610

/-- `L`, the size of the length field. -/
def lengthFieldSize (nonce : List UInt8) : Nat := 15 - nonce.length

/-- The counter block `A_i`: the flags, the nonce and the counter. -/
def counterBlock (nonce : List UInt8) (i : Nat) : List UInt8 :=
  UInt8.ofNat (lengthFieldSize nonce - 1) :: nonce ++ beBytes (lengthFieldSize nonce) i

/-- The flags of `B0`, for additional data `a` and a tag of `tagLen` bytes. -/
def flags (nonce a : List UInt8) (tagLen : Nat) : Nat :=
  64 * (if a = [] then 0 else 1) + 8 * ((tagLen - 2) / 2) + (lengthFieldSize nonce - 1)

/-- The block `B0`: the flags, the nonce and the length of the message. -/
def blockB0 (nonce a : List UInt8) (tagLen messageLen : Nat) : List UInt8 :=
  UInt8.ofNat (flags nonce a tagLen) :: nonce ++ beBytes (lengthFieldSize nonce) messageLen

/-- The encoding of the length of the additional data. -/
def encodedLength (len : Nat) : List UInt8 :=
  if len = 0 then []
  else if len < 2 ^ 16 - 2 ^ 8 then beBytes 2 len
  else if len < 2 ^ 32 then [0xff, 0xfe] ++ beBytes 4 len
  else [0xff, 0xff] ++ beBytes 8 len

/-- Zero bytes up to a multiple of 16. -/
def padded (bs : List UInt8) : List UInt8 := bs ++ List.replicate ((16 - bs.length % 16) % 16) 0

/-- The blocks `B1`, `B2`, … of the additional data. -/
def additionalBlocks (a : List UInt8) : List UInt8 := padded (encodedLength a.length ++ a)

end Rfc3610

/-! ## The code -/

/-- The fields of `lac_session_desc_t` that the functions read. -/
structure CcmSession where
  aadLenInBytes : UInt32
  hashResultSize : UInt32

/-- `LacSymAlgChain_CheckCCMData`. For a `q` of 4 and more the first comparison does not matter. -/
def checkCCMData (pAdditionalAuthData pIv : Option Memory)
    (messageLenToCipherInBytes ivLenInBytes : UInt32) : Bool :=
  if pIv.isNone then false
  else if pAdditionalAuthData.isNone then false
  else if ivLenInBytes < 7 || ivLenInBytes > 13 then false
  else
    let q := (15 - ivLenInBytes).toUInt8
    !(decide (messageLenToCipherInBytes.toNat ≥ 2 ^ (q.toNat * 8)) && decide (q < 4))

/-- `LAC_ALG_CHAIN_CCM_BUILD_B0_FLAGS`. -/
def buildB0Flags (adata : UInt8) (t : UInt32) (q : UInt8) : UInt8 :=
  ((if adata > 0 then (1 : UInt32) else 0) <<< 6 ||| ((t - 2) >>> 1) <<< 3 ||| (q - 1).toUInt32).toUInt8

/-- `LacSymAlgChain_PrepareCCMData`, on the two buffers. -/
def prepareCCMData (pSessionDesc : CcmSession) (pAdditionalAuthData pIv : Memory)
    (messageLenToCipherInBytes ivLenInBytes : UInt32) : Memory × Memory :=
  let n := ivLenInBytes.toUInt8
  let q := 15 - n
  let pIv := (pIv.write 0 [q - 1]).write (n.toNat + 1) (List.replicate q.toNat 0)
  let aadLen := pSessionDesc.aadLenInBytes
  let lenOfEncodedLen : UInt8 := if aadLen > 0 then 2 else 0
  -- `OSAL_HOST_TO_NW_16` and `OSAL_HOST_TO_NW_32` as the bytes they put into memory
  let lenAEncoded : UInt16 := if aadLen > 0 then aadLen.toUInt16 else 0
  let bitStrQ := beBytes 4 messageLenToCipherInBytes.toNat
  let b := pAdditionalAuthData.write 0 [buildB0Flags lenOfEncodedLen pSessionDesc.hashResultSize q]
  let b :=
    if q > 4 then
      (b.write (n.toNat + 1) (List.replicate q.toNat 0)).write (n.toNat + 1 + (q.toNat - 4)) bitStrQ
    else b.write (n.toNat + 1) (bitStrQ.drop (4 - q.toNat))
  let b :=
    if lenAEncoded > 0 then
      let b := b.write 16 (beBytes 2 lenAEncoded.toNat)
      let rest := (aadLen + lenOfEncodedLen.toUInt32) % 16
      if rest ≠ 0 then
        let paddingLen := (16 - rest).toUInt8
        let paddingIndex := 16 + (lenOfEncodedLen.toUInt32 + aadLen).toUInt8
        b.write paddingIndex.toNat (List.replicate paddingLen.toNat 0)
      else b
    else b
  (b, pIv)

/-! ## The lengths -/

section Lengths

variable {ivLen messageLen aadLen t : UInt32} {n : Nat}

theorem nonceLen_eq (h : ivLen.toNat = n) (hmax : n ≤ 13) : ivLen.toUInt8.toNat = n := by
  rw [UInt32.toNat_toUInt8, h]
  omega

theorem fieldSize_eq (h : ivLen.toNat = n) (hmax : n ≤ 13) :
    (15 - ivLen.toUInt8).toNat = 15 - n := by
  have hn := nonceLen_eq h hmax
  rw [UInt8.toNat_sub_of_le _ _ (by rw [UInt8.le_iff_toNat_le, hn]; simp; omega), hn]
  rfl

/-- A message is accepted for a nonce of 7 to 13 bytes when the length field can hold its length. -/
theorem checkCCMData_iff (pAdditionalAuthData pIv : Memory) :
    checkCCMData (some pAdditionalAuthData) (some pIv) messageLen ivLen = true ↔
      7 ≤ ivLen.toNat ∧ ivLen.toNat ≤ 13 ∧ messageLen.toNat < 256 ^ (15 - ivLen.toNat) := by
  have hrange : (ivLen < 7 || ivLen > 13) = true ↔ ¬ (7 ≤ ivLen.toNat ∧ ivLen.toNat ≤ 13) := by
    simp only [Bool.or_eq_true, decide_eq_true_eq, gt_iff_lt, UInt32.lt_iff_toNat_lt]
    simp only [UInt32.reduceToNat]
    omega
  unfold checkCCMData
  simp only [Option.isNone_some, Bool.false_eq_true, if_false]
  by_cases h : 7 ≤ ivLen.toNat ∧ ivLen.toNat ≤ 13
  · obtain ⟨hmin, hmax⟩ := h
    rw [if_neg (by rw [hrange]; omega)]
    have hq : (15 - ivLen).toUInt8.toNat = 15 - ivLen.toNat := by
      rw [UInt32.toNat_toUInt8, UInt32.toNat_sub_of_le _ _ (by rw [UInt32.le_iff_toNat_le]; simp; omega)]
      simp
      omega
    have hpow : 2 ^ ((15 - ivLen.toNat) * 8) = 256 ^ (15 - ivLen.toNat) := by
      rw [Nat.mul_comm, Nat.pow_mul]
    simp only [UInt8.lt_iff_toNat_lt, hq, hpow, Bool.not_eq_true', Bool.and_eq_false_iff,
      decide_eq_false_iff_not, hmin, hmax, true_and, ge_iff_le, Nat.not_le, Nat.not_lt]
    refine ⟨fun h => h.elim id fun hlarge => ?_, .inl⟩
    -- with 4 bytes or more every length fits
    have hfour : (4 : UInt8).toNat = 4 := rfl
    calc messageLen.toNat < 256 ^ 4 := messageLen.toNat_lt
      _ ≤ 256 ^ (15 - ivLen.toNat) := Nat.pow_le_pow_right (by decide) (by omega)
  · rw [if_pos (hrange.mpr h)]
    exact ⟨fun h => (by cases h), fun hall => absurd ⟨hall.1, hall.2.1⟩ h⟩

theorem buildB0Flags_eq (adata : UInt8) {q : UInt8} (ht : 4 ≤ t.toNat) (ht' : t.toNat ≤ 16)
    (hq : 2 ≤ q.toNat) (hq' : q.toNat ≤ 8) :
    buildB0Flags adata t q =
      UInt8.ofNat (64 * (if adata > 0 then 1 else 0) + 8 * ((t.toNat - 2) / 2) + (q.toNat - 1)) := by
  have hall : ∀ t : Fin 17, ∀ q : Fin 9, ∀ bit : Fin 2, 4 ≤ t.val → 2 ≤ q.val →
      ((UInt32.ofNat bit.val) <<< 6 ||| ((UInt32.ofNat t.val - 2) >>> 1) <<< 3 |||
          (UInt8.ofNat q.val - 1).toUInt32).toUInt8 =
        UInt8.ofNat (64 * bit.val + 8 * ((t.val - 2) / 2) + (q.val - 1)) := by
    decide +kernel
  have hbit := hall ⟨t.toNat, by omega⟩ ⟨q.toNat, by omega⟩ (if adata > 0 then 1 else 0) ht hq
  rw [UInt32.ofNat_toNat, UInt8.ofNat_toNat] at hbit
  unfold buildB0Flags
  split at hbit <;> rename_i hadata
  · rw [if_pos hadata, if_pos hadata]
    exact hbit
  · rw [if_neg hadata, if_neg hadata]
    exact hbit

end Lengths

/-! ## The buffers -/

section Buffers

variable {desc : CcmSession} {aad iv : Memory} {messageLen ivLen : UInt32} {nonce a : List UInt8}

theorem flagsByte_eq (hlen : ivLen.toNat = nonce.length) (hmax : nonce.length ≤ 13) :
    15 - ivLen.toUInt8 - 1 = UInt8.ofNat (Rfc3610.lengthFieldSize nonce - 1) := by
  have hq := fieldSize_eq hlen hmax
  apply UInt8.toNat_inj.mp
  rw [UInt8.toNat_sub_of_le _ _ (by rw [UInt8.le_iff_toNat_le, hq]; simp; omega), hq,
    Rfc3610.lengthFieldSize, UInt8.toNat_ofNat']
  simp
  omega

/-- A block that begins with a byte and a nonce, with its last bytes written. -/
theorem read_block {m : Memory} (first : UInt8) (last : List UInt8)
    (hlast : nonce.length + last.length = 15) (hnonce : m.read 1 nonce.length = nonce) :
    ((m.write 0 [first]).write (nonce.length + 1) last).read 0 16 = first :: nonce ++ last := by
  have hsplit : 16 = [first].length + nonce.length + last.length := by simp; omega
  rw [hsplit, read_append, read_append, read_write_disjoint (by simp), read_write_self,
    read_write_disjoint (by simp; omega), read_write_disjoint (by simp)]
  have hfirst : 0 + [first].length = 1 := rfl
  have hend : 0 + ([first].length + nonce.length) = nonce.length + 1 := by simp; omega
  rw [hfirst, hnonce, hend, read_write_self]
  rfl

theorem prepareCCMData_iv (hlen : ivLen.toNat = nonce.length) (hmin : 7 ≤ nonce.length)
    (hmax : nonce.length ≤ 13) (hnonce : iv.read 1 nonce.length = nonce) :
    (prepareCCMData desc aad iv messageLen ivLen).2.read 0 16 = Rfc3610.counterBlock nonce 0 := by
  have hn := nonceLen_eq hlen hmax
  have hq := fieldSize_eq hlen hmax
  have hzeros : beBytes (15 - nonce.length) 0 = List.replicate (15 - nonce.length) 0 := by
    have h := beBytes_add_of_lt (15 - nonce.length) (b := 0) (n := 0) (by decide)
    simpa [beBytes] using h
  unfold prepareCCMData
  dsimp only
  rw [hn, hq, flagsByte_eq hlen hmax, read_block _ _ (by simp; omega) hnonce]
  rw [Rfc3610.counterBlock, Rfc3610.lengthFieldSize, hzeros]

/-- The length field of `B0`, whichever way it is written. -/
theorem lengthField_eq (m : Memory) (off q l : Nat) (hl : l < 256 ^ 4) :
    (if q > 4 then (m.write off (List.replicate q 0)).write (off + (q - 4)) (beBytes 4 l)
      else m.write off ((beBytes 4 l).drop (4 - q))) = m.write off (beBytes q l) := by
  split
  · have hzeros : List.replicate q (0 : UInt8) =
        List.replicate (q - 4) 0 ++ List.replicate 4 0 := by
      rw [List.replicate_append_replicate]
      congr 1
      omega
    have hbytes : beBytes q l = List.replicate (q - 4) 0 ++ beBytes 4 l := by
      rw [← beBytes_add_of_lt (q - 4) hl]
      congr 1
      omega
    rw [hzeros, hbytes, write_append, write_append, List.length_replicate,
      write_cover (Nat.le_refl _) (by simp)]
  · have hbytes : (beBytes 4 l).drop (4 - q) = beBytes q l := by
      have h := drop_beBytes (4 - q) q l
      rwa [Nat.sub_add_cancel (by omega)] at h
    rw [hbytes]

theorem padding_eq (m : Memory) {aadLen : UInt32} {len : Nat} (ha : aadLen.toNat = len)
    (ha' : len ≤ 222) :
    (if (aadLen + (2 : UInt8).toUInt32) % 16 ≠ 0 then
      m.write (16 + ((2 : UInt8).toUInt32 + aadLen).toUInt8).toNat
        (List.replicate (16 - (aadLen + (2 : UInt8).toUInt32) % 16).toUInt8.toNat 0)
      else m) = m.write (18 + len) (List.replicate ((16 - (len + 2) % 16) % 16) 0) := by
  have hrest : ((aadLen + (2 : UInt8).toUInt32) % 16).toNat = (len + 2) % 16 := by
    rw [UInt32.toNat_mod, UInt32.toNat_add, ha]
    simp
  have hindex : (16 + ((2 : UInt8).toUInt32 + aadLen).toUInt8).toNat = 18 + len := by
    rw [UInt8.toNat_add, UInt32.toNat_toUInt8, UInt32.toNat_add, ha]
    simp
    omega
  by_cases hround : (aadLen + (2 : UInt8).toUInt32) % 16 = 0
  · have hzero : (len + 2) % 16 = 0 := by
      rw [← hrest, hround]
      rfl
    rw [if_neg (not_not_intro hround), hzero]
    exact (write_nil _ _).symm
  · have hne : (len + 2) % 16 ≠ 0 := fun h => hround (UInt32.toNat_inj.mp (hrest.trans h))
    have hpad : (16 - (aadLen + (2 : UInt8).toUInt32) % 16).toUInt8.toNat =
        (16 - (len + 2) % 16) % 16 := by
      rw [UInt32.toNat_toUInt8, UInt32.toNat_sub_of_le _ _
        (by rw [UInt32.le_iff_toNat_le, hrest]; simp; omega), hrest]
      simp
      omega
    rw [if_pos hround, hindex, hpad]

/-- The additional data buffer as the client's bytes and three runs of bytes. -/
theorem prepareCCMData_aad (hlen : ivLen.toNat = nonce.length) (hmin : 7 ≤ nonce.length)
    (hmax : nonce.length ≤ 13) (ht : 4 ≤ desc.hashResultSize.toNat)
    (ht' : desc.hashResultSize.toNat ≤ 16) (ha : desc.aadLenInBytes.toNat = a.length)
    (ha' : a.length ≤ 222) :
    (prepareCCMData desc aad iv messageLen ivLen).1 =
      (((aad.write 0 [UInt8.ofNat (Rfc3610.flags nonce a desc.hashResultSize.toNat)]).write
        (nonce.length + 1) (beBytes (Rfc3610.lengthFieldSize nonce) messageLen.toNat)).write 16
          (Rfc3610.encodedLength a.length)).write
        (16 + (Rfc3610.encodedLength a.length).length + a.length)
        (List.replicate ((16 - (Rfc3610.encodedLength a.length ++ a).length % 16) % 16) 0) := by
  have hn := nonceLen_eq hlen hmax
  have hq := fieldSize_eq hlen hmax
  have hlarge : 15 - ivLen.toUInt8 > 4 ↔ 15 - nonce.length > 4 := by
    rw [gt_iff_lt, UInt8.lt_iff_toNat_lt, hq]
    rfl
  have hflags : ∀ adata, buildB0Flags adata desc.hashResultSize (15 - ivLen.toUInt8) =
      UInt8.ofNat (64 * (if adata > 0 then 1 else 0) + 8 * ((desc.hashResultSize.toNat - 2) / 2) +
        (Rfc3610.lengthFieldSize nonce - 1)) := by
    intro adata
    rw [buildB0Flags_eq adata ht ht' (by omega) (by omega), hq]
    rfl
  have hpositive : desc.aadLenInBytes > 0 ↔ a ≠ [] := by
    rw [gt_iff_lt, UInt32.lt_iff_toNat_lt, ha, ← List.length_pos_iff]
    rfl
  unfold prepareCCMData
  dsimp only
  simp only [hlarge, hn, hq, lengthField_eq _ _ _ _ messageLen.toNat_lt, hflags]
  by_cases hempty : a = []
  · subst hempty
    simp [hpositive, Rfc3610.encodedLength, Rfc3610.flags, Rfc3610.lengthFieldSize]
  · have hcount : 0 < a.length := List.length_pos_iff.mpr hempty
    have hshort : desc.aadLenInBytes.toUInt16.toNat = a.length := by
      rw [UInt32.toNat_toUInt16, ha]
      omega
    have hencoded : Rfc3610.encodedLength a.length = beBytes 2 a.length := by
      rw [Rfc3610.encodedLength, if_neg (by omega), if_pos (by omega)]
    have hshortPos : desc.aadLenInBytes.toUInt16 > 0 := by
      rw [gt_iff_lt, UInt16.lt_iff_toNat_lt, hshort]
      exact hcount
    have hflag : Rfc3610.flags nonce a desc.hashResultSize.toNat =
        64 * 1 + 8 * ((desc.hashResultSize.toNat - 2) / 2) + (Rfc3610.lengthFieldSize nonce - 1) := by
      rw [Rfc3610.flags, if_neg hempty]
    have htotal : (beBytes 2 a.length ++ a).length = a.length + 2 := by
      rw [List.length_append, length_beBytes]
      omega
    simp only [hpositive.mpr hempty, if_true, hshortPos, hshort, hencoded, htotal, length_beBytes,
      hflag, show (2 : UInt8) > 0 from by decide, padding_eq _ ha ha']
    rfl

/-- What a buffer that is completed in this way holds. -/
theorem read_completed {m : Memory} (first : UInt8) (last enc pad : List UInt8)
    (hlast : nonce.length + last.length = 15) (hnonce : m.read 1 nonce.length = nonce)
    (ha : m.read (16 + enc.length) a.length = a) :
    ((((m.write 0 [first]).write (nonce.length + 1) last).write 16 enc).write
        (16 + enc.length + a.length) pad).read 0 (16 + (enc ++ a ++ pad).length) =
      (first :: nonce ++ last) ++ (enc ++ a ++ pad) := by
  rw [List.length_append, List.length_append, read_append, read_append, read_append]
  congr 1
  · rw [read_write_disjoint (by omega), read_write_disjoint (by omega),
      read_block first last hlast hnonce]
  · congr 1
    · congr 1
      · rw [Nat.zero_add, read_write_disjoint (by omega), read_write_self]
      · rw [Nat.zero_add, read_write_disjoint (by omega),
          read_write_disjoint (by omega), read_write_disjoint (by omega),
          read_write_disjoint (by simp; omega), ha]
    · rw [Nat.zero_add, ← Nat.add_assoc, read_write_self]

/-- **The buffers hold the blocks of RFC 3610.** -/
theorem prepareCCMData_rfc3610 (desc : CcmSession) (aad iv : Memory) (messageLen ivLen : UInt32)
    (nonce a : List UInt8) (hlen : ivLen.toNat = nonce.length)
    (ht : 4 ≤ desc.hashResultSize.toNat) (ht' : desc.hashResultSize.toNat ≤ 16)
    (ha : desc.aadLenInBytes.toNat = a.length) (ha' : a.length ≤ 222)
    (hivNonce : iv.read 1 nonce.length = nonce) (haadNonce : aad.read 1 nonce.length = nonce)
    (haad : aad.read 18 a.length = a)
    (hcheck : checkCCMData (some aad) (some iv) messageLen ivLen = true) :
    (prepareCCMData desc aad iv messageLen ivLen).2.read 0 16 = Rfc3610.counterBlock nonce 0 ∧
    (prepareCCMData desc aad iv messageLen ivLen).1.read 0
        (16 + (Rfc3610.additionalBlocks a).length) =
      Rfc3610.blockB0 nonce a desc.hashResultSize.toNat messageLen.toNat ++
        Rfc3610.additionalBlocks a ∧
    messageLen.toNat < 256 ^ Rfc3610.lengthFieldSize nonce := by
  obtain ⟨hmin, hmax, hfits⟩ := (checkCCMData_iff aad iv).mp hcheck
  rw [hlen] at hmin hmax hfits
  refine ⟨prepareCCMData_iv hlen hmin hmax hivNonce, ?_, hfits⟩
  have hmiddle : aad.read (16 + (Rfc3610.encodedLength a.length).length) a.length = a := by
    by_cases hempty : a = []
    · simp [hempty]
    · have hcount : 0 < a.length := List.length_pos_iff.mpr hempty
      rw [Rfc3610.encodedLength, if_neg (by omega), if_pos (by omega), length_beBytes]
      exact haad
  rw [prepareCCMData_aad hlen hmin hmax ht ht' ha ha']
  exact read_completed _ _ _ _ (by rw [length_beBytes, Rfc3610.lengthFieldSize]; omega) haadNonce
    hmiddle

end Buffers

/-- The nonce `1, …, 13`, additional data of 3 bytes, a tag of 8 bytes and a message of 20. -/
theorem prepareCCMData_rfc3610_small :
    let nonce := [1, 2, 3, 4, 5, 6, 7, 8, 9, 10, 11, 12, 13]
    let iv := zero.write 1 nonce
    let aad := (zero.write 1 nonce).write 18 [0xa, 0xb, 0xc]
    (prepareCCMData ⟨3, 8⟩ aad iv 20 13).1.read 0 32 =
      [0x59] ++ nonce ++ [0, 20] ++ [0, 3, 0xa, 0xb, 0xc] ++ List.replicate 11 0 := by
  intro nonce iv aad
  have h := (prepareCCMData_rfc3610 ⟨3, 8⟩ aad iv 20 13 nonce [0xa, 0xb, 0xc] rfl (by decide)
    (by decide) rfl (by decide) (by decide) (by decide) (by decide) (by decide)).2.1
  have hblocks : Rfc3610.blockB0 nonce [0xa, 0xb, 0xc] 8 20 ++
      Rfc3610.additionalBlocks [0xa, 0xb, 0xc] =
        [0x59] ++ nonce ++ [0, 20] ++ [0, 3, 0xa, 0xb, 0xc] ++ List.replicate 11 0 := by
    decide
  exact h.trans hblocks

end Qatlib.Crypto
