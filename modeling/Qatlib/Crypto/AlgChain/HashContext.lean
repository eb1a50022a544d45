import Qatlib.Crypto.AlgChain.Setup

set_option autoImplicit false

/-! # The check of the hash setup data

`LacHash_HashContextCheck`, as it is compiled with `ICP_PARAM_CHECK`: the checks in their order, with
the status and the text that the first one that fails leaves. `Setup.hashContextCheck` says which setup
data passes.

The additional authenticated data (AAD) of GCM and CCM is kept in a buffer of 240 bytes. For CCM the
block B0 and a length of two bytes lie before it. The check rounds the size up to blocks of 16 bytes, in
32 bits. A size near 4 GiB wraps around and is accepted. -/

namespace Qatlib.Crypto.AlgChain

/-! ## The checks -/

/-- How a check fails: the status, and the text in the log. -/
structure CheckError where
  status : CpaStatus
  log : String
deriving DecidableEq

/-- A check, and how it fails. -/
def orFail (ok : Bool) (e : CheckError) : Except CheckError Unit := if ok then .ok () else .error e

/-- A check for an invalid parameter. -/
def require (ok : Bool) (log : String) : Except CheckError Unit := orFail ok ⟨.invalidParam, log⟩

/-- The pointers of the setup data that are not NULL. -/
structure HashPointers where
  authKey : Bool
  pInnerPrefixData : Bool
  pOuterPrefixData : Bool

namespace HashSetup

variable (h : HashSetup)

/-- The checks for GCM and GMAC. -/
def gcmContextCheck : Except CheckError Unit := do
  let digestLen := h.digestResultLenInBytes
  require (digestLen = 8 ∨ digestLen = 12 ∨ digestLen = 16) "digestResultLenInBytes"
  let aadDataSize := alignPow2Roundup h.aadLenInBytes 16
  require (!(aadDataSize > 240 ∧ h.hashAlgorithm ≠ .aesGmac)) "aadLenInBytes"

/-- `aadDataSize` of CCM before it is rounded up. -/
def ccmAadDataSize : UInt32 := if h.aadLenInBytes > 0 then 16 + 2 + h.aadLenInBytes else 16

/-- The checks for CCM. -/
def ccmContextCheck : Except CheckError Unit := do
  let digestLen := h.digestResultLenInBytes
  require (4 ≤ digestLen ∧ digestLen ≤ 16) "digestResultLenInBytes"
  require (digestLen % 2 = 0) "digestResultLenInBytes must be a multiple of 2"
  require (alignPow2Roundup h.ccmAadDataSize 16 ≤ 240) "aadLenInBytes"

/-- The checks for the algorithm of the authentication mode. -/
def authAlgorithmCheck : Except CheckError Unit :=
  let keyLen := h.authKeyLenInBytes
  let aadLen := h.aadLenInBytes
  match h.hashAlgorithm with
  | .aesGcm => h.gcmContextCheck
  | .aesGmac => h.gcmContextCheck
  | .aesCcm => h.ccmContextCheck
  | .snow3gUia2 => do
    require (keyLen = 16) "authKeyLenInBytes"
    require (aadLen = 16) "aadLenInBytes"
  | .aesXcbc => require (keyLen = 16) "authKeyLenInBytes"
  | .aesCbcMac => require (keyLen = 16) "authKeyLenInBytes"
  | .aesCmac => require (keyLen = 16 ∨ keyLen = 24 ∨ keyLen = 32) "authKeyLenInBytes"
  | .zucEia3 => do
    require (keyLen = 16 ∨ keyLen = 32) "authKeyLenInBytes"
    require (aadLen = 16 ∨ aadLen = 24) "aadLenInBytes"
  | .poly => do
    require (h.digestResultLenInBytes = 16) "Digest Length for CCP"
    require (aadLen ≤ 240) "AAD Length for CCP"
  | alg =>
    require (keyLen ≤ (hashDefsLookupGet alg keyLen h.digestResultLenInBytes).blockLength)
      "authKeyLenInBytes"

/-- The checks for the authentication mode. -/
def authModeCheck (p : HashPointers) : Except CheckError Unit := do
  h.authAlgorithmCheck
  -- CCM and GCM take the key of the cipher
  require (h.hashAlgorithm = .aesCcm ∨ h.hashAlgorithm = .aesGcm ∨ h.authKeyLenInBytes = 0 ∨ p.authKey)
    "pHashSetupData->authModeSetupData.authKey is NULL"

/-- The checks for the nested mode. -/
def nestedModeCheck (svc : Service) (p : HashPointers) : Except CheckError Unit := do
  let digestLen := h.digestResultLenInBytes
  let outer := hashDefsLookupGet h.outerHashAlgorithm h.authKeyLenInBytes digestLen
  require (svc.hashes h.outerHashAlgorithm) "outerHashAlgorithm"
  require (!hashAlgModeNotSupported h.outerHashAlgorithm h.hashMode)
    "outerHashAlgorithm and hashMode combination"
  require (0 < digestLen ∧ digestLen ≤ outer.digestLength) "digestResultLenInBytes"
  require (h.innerPrefix.length ≤ 255) "innerPrefixLenInBytes"
  require (h.innerPrefix.length = 0 ∨ p.pInnerPrefixData)
    "pHashSetupData->nestedModeSetupData.pInnerPrefixData is NULL"
  require (h.outerPrefix.length ≤ 255) "outerPrefixLenInBytes"
  require (h.outerPrefix.length = 0 ∨ p.pOuterPrefixData)
    "pHashSetupData->nestedModeSetupData.pOuterPrefixData is NULL"

/-- The check of the digest length in the other modes. -/
def digestLengthCheck : Except CheckError Unit :=
  let digestLen := h.digestResultLenInBytes
  let inner := hashDefsLookupGet h.hashAlgorithm h.authKeyLenInBytes digestLen
  require (0 < digestLen ∧ digestLen ≤ inner.digestLength) "digestResultLenInBytes"

/-- `LacHash_HashContextCheck`. -/
def hashContextCheck (svc : Service) (p : HashPointers) : Except CheckError Unit := do
  require (svc.hashes h.hashAlgorithm ∨ h.hashAlgorithm = .aesCbcMac) "hashAlgorithm"
  orFail (!hashAlgModeNotSupported h.hashAlgorithm h.hashMode)
    ⟨.unsupported, "hashAlgorithm and hashMode combination"⟩
  match h.hashMode with
  | .plain => h.digestLengthCheck
  | .auth => do
    h.digestLengthCheck
    h.authModeCheck p
  | .nested => h.nestedModeCheck svc p

/-- The pointers that the check looks at are not NULL. -/
def pointersOk (p : HashPointers) : Bool :=
  match h.hashMode with
  | .plain => true
  | .auth =>
    h.hashAlgorithm = .aesCcm ∨ h.hashAlgorithm = .aesGcm ∨ h.authKeyLenInBytes = 0 ∨ p.authKey
  | .nested =>
    (h.innerPrefix.length = 0 ∨ p.pInnerPrefixData) ∧ (h.outerPrefix.length = 0 ∨ p.pOuterPrefixData)

end HashSetup

/-! ## What passes -/

@[simp] theorem orFail_eq_ok {ok : Bool} {e : CheckError} : orFail ok e = .ok () ↔ ok = true := by
  cases ok <;> simp [orFail]

@[simp] theorem require_eq_ok {ok : Bool} {log : String} : require ok log = .ok () ↔ ok = true :=
  orFail_eq_ok

@[simp] theorem bind_eq_ok {x y : Except CheckError Unit} :
    (x >>= fun _ => y) = .ok () ↔ x = .ok () ∧ y = .ok () := by
  cases x <;> simp [bind, Except.bind]

namespace HashSetup

variable {h : HashSetup} {svc : Service} {p : HashPointers}

theorem authAlgorithmCheck_eq_ok :
    h.authAlgorithmCheck = .ok () ↔ Setup.authContextCheck h = true := by
  cases halg : h.hashAlgorithm <;>
    simp [authAlgorithmCheck, Setup.authContextCheck, gcmContextCheck, ccmContextCheck, ccmAadDataSize,
      halg, and_assoc]

/-- **What the check accepts.** -/
theorem hashContextCheck_eq_ok :
    h.hashContextCheck svc p = .ok () ↔
      (svc.hashes h.hashAlgorithm = true ∨ h.hashAlgorithm = .aesCbcMac) ∧
        Setup.hashContextCheck svc h = true ∧ h.pointersOk p = true := by
  unfold hashContextCheck Setup.hashContextCheck
  cases hmode : h.hashMode with
  | plain => simp [digestLengthCheck, pointersOk, hmode]
  | auth =>
    simp [digestLengthCheck, authModeCheck, authAlgorithmCheck_eq_ok, pointersOk, hmode, and_assoc]
  | nested =>
    -- the prefixes are checked one after the other, each with its pointer
    simp [nestedModeCheck, pointersOk, hmode, and_assoc, and_left_comm]

/-! ## The size of the AAD -/

/-- The size of the AAD with what lies before it. -/
def aadSize (h : HashSetup) : Nat :=
  if h.hashAlgorithm = .aesCcm then if h.aadLenInBytes > 0 then 16 + 2 + h.aadLenInBytes.toNat else 16
  else h.aadLenInBytes.toNat

/-- The size in 32 bits that is rounded up. -/
def aadDataSize (h : HashSetup) : UInt32 :=
  if h.hashAlgorithm = .aesCcm then h.ccmAadDataSize else h.aadLenInBytes

theorem toNat_aadDataSize (h : HashSetup) : h.aadDataSize.toNat = h.aadSize % 2 ^ 32 := by
  unfold aadDataSize aadSize ccmAadDataSize
  have hlt := h.aadLenInBytes.toNat_lt
  split
  · split
    · rw [UInt32.toNat_add]
      rfl
    · rfl
  · exact (Nat.mod_eq_of_lt hlt).symm

/-- An accepted setup has a small size in 32 bits. -/
theorem roundedAad_le_of_ok (hok : h.hashContextCheck svc p = .ok ())
    (halg : h.hashAlgorithm = .aesGcm ∨ h.hashAlgorithm = .aesCcm) :
    alignPow2Roundup h.aadDataSize 16 ≤ 240 := by
  obtain ⟨-, hcheck, -⟩ := hashContextCheck_eq_ok.mp hok
  unfold Setup.hashContextCheck at hcheck
  obtain ⟨hsupported, hmode⟩ := Bool.and_eq_true_iff.mp hcheck
  have hauth : h.hashMode = .auth := by
    rcases halg with halg | halg <;>
      simpa [hashAlgModeNotSupported, HashAlg.isSha3, halg] using hsupported
  rw [hauth] at hmode
  have hcontext := (of_decide_eq_true hmode).2.2
  unfold Setup.authContextCheck at hcontext
  rcases halg with halg | halg
  · rw [halg] at hcontext
    rw [aadDataSize, if_neg (by simp [halg])]
    exact (of_decide_eq_true hcontext).2
  · rw [halg] at hcontext
    rw [aadDataSize, if_pos halg]
    exact (of_decide_eq_true hcontext).2.2.2

/-- **The AAD of an accepted GCM or CCM setup fits**, unless rounding its size up leaves 32 bits. -/
theorem hashContextCheck_aad_fits_iff (svc : Service) (h : HashSetup) (p : HashPointers)
    (hok : h.hashContextCheck svc p = .ok ())
    (halg : h.hashAlgorithm = .aesGcm ∨ h.hashAlgorithm = .aesCcm) :
    (h.aadSize + 15) / 16 * 16 ≤ 240 ↔ h.aadSize + 15 < 2 ^ 32 := by
  have hrounded := UInt32.le_iff_toNat_le.mp (roundedAad_le_of_ok hok halg)
  rw [toNat_alignPow2Roundup (k := 4) (by decide) rfl, toNat_aadDataSize] at hrounded
  have hsize : (h.aadSize % 2 ^ 32 + 15) % 2 ^ 32 / 16 * 16 ≤ 240 := hrounded
  constructor
  · intro hfits
    omega
  · intro hlt
    rw [Nat.mod_eq_of_lt (by omega : h.aadSize < 2 ^ 32), Nat.mod_eq_of_lt hlt] at hsize
    exact hsize

/-- A setup for GCM or CCM with a digest of 16 bytes. -/
def aeadSample (hashAlgorithm : HashAlg) (aadLenInBytes : UInt32) : HashSetup where
  hashAlgorithm := hashAlgorithm
  hashMode := .auth
  digestResultLenInBytes := 16
  authKeyLenInBytes := 0
  aadLenInBytes := aadLenInBytes
  outerHashAlgorithm := .none
  innerPrefix := []
  outerPrefix := []

/-- An instance with every capability. -/
def fullService : Service :=
  ⟨true, true, true, true, true, true, true, true, true, true, true, true, true, true⟩

/-- AAD of 222 bytes is the most that CCM takes: with what lies before it, it fills the buffer. -/
theorem hashContextCheck_aad_fits_ccm :
    (aeadSample .aesCcm 222).hashContextCheck fullService ⟨false, false, false⟩ = .ok () ∧
      ((aeadSample .aesCcm 222).aadSize + 15) / 16 * 16 = 240 ∧
      ((aeadSample .aesCcm 222).aadSize + 15) / 16 * 16 ≤ 240 :=
  ⟨rfl, rfl, (hashContextCheck_aad_fits_iff fullService (aeadSample .aesCcm 222)
    ⟨false, false, false⟩ rfl (.inr rfl)).mpr (by decide)⟩

/-- AAD of 4 GiB less one byte is accepted for GCM and for CCM. -/
theorem hashContextCheck_aad_wraps :
    (aeadSample .aesGcm 0xFFFFFFFF).hashContextCheck fullService ⟨false, false, false⟩ = .ok () ∧
      ((aeadSample .aesGcm 0xFFFFFFFF).aadSize + 15) / 16 * 16 = 2 ^ 32 ∧
      (aeadSample .aesCcm 0xFFFFFFFF).hashContextCheck fullService ⟨false, false, false⟩ = .ok () ∧
      ((aeadSample .aesCcm 0xFFFFFFFF).aadSize + 15) / 16 * 16 = 2 ^ 32 + 32 :=
  ⟨rfl, rfl, rfl, rfl⟩

end HashSetup

end Qatlib.Crypto.AlgChain
