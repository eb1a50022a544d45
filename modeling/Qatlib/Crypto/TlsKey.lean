import Qatlib.Api
import Qatlib.Crypto.HashDefs
import Qatlib.Lib.ByteMemory

set_option autoImplicit false

/-! # The HMAC keys of a TLS key derivation

TLS derives keys with HMACs under its secret, TLS 1.0 and 1.1 with one under MD5 and one under SHA-1
for the halves of the secret. HMAC starts from a block of key: the key padded with zeros, or its hash
if the key is longer than a block. The firmware takes the blocks ready from the hash state buffer of
the request. `LacSymKey_KeyGenSslTls_GenCommon` writes them there, and has long secrets hashed by the
host; sizes of prefixes and paddings are bytes on the way.

The model has the part of the cookie from the hash state buffer on, in one memory with the secret.
-/

namespace Qatlib.Crypto.Tls

open Memory

open Memory (Apart)

/-! ## Data -/

/-- The hash functions of the host. -/
structure Host where
  digest : HashAlg → List UInt8 → List UInt8
  length_digest : ∀ alg msg, (digest alg msg).length = alg.digestLength

/-- `ICP_QAT_FW_LA_CMD_TLS_V1_1_KEY_DERIVE` or `ICP_QAT_FW_LA_CMD_TLS_V1_2_KEY_DERIVE`. -/
inductive Version where
  | v11
  | v12
deriving DecidableEq

/-- `CpaCyKeyTlsOp`. -/
inductive TlsOp where
  | masterSecretDerive
  | keyMaterialDerive
  | clientFinishedDerive
  | serverFinishedDerive
  | userDefined
deriving DecidableEq

/-- `CpaCyKeyGenTlsOpData`. -/
structure TlsOpData where
  tlsOp : TlsOp
  secret : FlatBuffer
  seed : FlatBuffer
  generatedKeyLenInBytes : UInt32
  userLabel : FlatBuffer

/-- Where `hashKeyBuffer` is in the cookie: after `hashStateBuffer` of
    `LAC_SYM_KEY_MAX_HASH_STATE_BUFFER` bytes and three pointers. -/
def hashKeyBufferOffset : Nat := 256 + 24

/-- The size of the cookie from `hashStateBuffer` on, to the end of `hashKeyBuffer` of
    `LAC_SYM_HASH_BUFFER_LEN` bytes. -/
def cookieSize : Nat := hashKeyBufferOffset + 64

/-- A call, with the memory it finds. The secret is the caller's and not in the cookie. -/
structure Call where
  mem : Memory
  /-- The address of `hashStateBuffer` in the cookie. -/
  cookie : Nat
  version : Version
  hashAlg : HashAlg
  opData : TlsOpData
  pGeneratedKeyBuffer : FlatBuffer
  apart : Apart opData.secret.pData opData.secret.dataLenInBytes.toNat cookie cookieSize

/-! ## The check -/

/-- `getDigestSizeFromHashAlgo`. -/
def getDigestSizeFromHashAlgo : HashAlg → UInt32
  | .sha256 => 32
  | .sha384 => 48
  | .sha512 => 64
  | .sm3 => 32
  | _ => 0

/-- `LacSymKey_CheckParamSslTls`, for TLS before 1.3. -/
def checkParamSslTls (c : Call) : Bool :=
  let op := c.opData
  let maxSecretLen : UInt32 := match c.version with
    | .v11 => 128 * 4
    | .v12 => 1024
  if c.pGeneratedKeyBuffer.pData = 0 then false
  else if c.version = .v12 ∧ getDigestSizeFromHashAlgo c.hashAlg = 0 then false
  else if op.secret.pData = 0 then false
  else if op.seed.pData = 0 then false
  else if op.tlsOp = .userDefined ∧
      (op.userLabel.pData = 0 ∨ op.userLabel.dataLenInBytes > 255) then false
  else if (if op.tlsOp ≠ .masterSecretDerive ∧ op.tlsOp ≠ .keyMaterialDerive then
      decide (op.seed.dataLenInBytes > 64) else decide (op.seed.dataLenInBytes ≠ 64)) then false
  else if op.generatedKeyLenInBytes > 248 then false
  else if op.secret.dataLenInBytes > maxSecretLen then false
  else if op.generatedKeyLenInBytes > c.pGeneratedKeyBuffer.dataLenInBytes then false
  else true

/-! ## The prefixes -/

/-- `CpaCySymHashNestedModeSetupData`, the prefixes. -/
structure Prefixes where
  pInnerPrefixData : Nat
  innerPrefixLenInBytes : UInt32
  pOuterPrefixData : Nat
  outerPrefixLenInBytes : UInt32

/-- `computeHashKey`. -/
def computeHashKey (host : Host) (mem : Memory) (secret : FlatBuffer) (hash : Nat) (alg : HashAlg) :
    Memory :=
  match alg with
  | .md5 | .sha1 | .sha256 | .sha384 | .sha512 =>
    mem.write hash (host.digest alg (mem.read secret.pData secret.dataLenInBytes.toNat))
  | _ => mem

/-- A long secret of this operation is hashed first. -/
def TlsOp.precomputes (op : TlsOp) : Bool := op = .masterSecretDerive ∨ op = .userDefined

section

variable (host : Host) (c : Call)

/-- `precompute` for TLS 1.2. -/
def precomputeV12 : Bool :=
  c.opData.tlsOp.precomputes &&
    match c.hashAlg with
    | .sha256 => c.opData.secret.dataLenInBytes > 64
    | .sha384 | .sha512 => c.opData.secret.dataLenInBytes > 128
    | _ => false

/-- The prefixes for TLS 1.2. -/
def prefixesV12 : Memory × Prefixes :=
  let secret := c.opData.secret
  if precomputeV12 c then
    let hashKey := c.cookie + hashKeyBufferOffset
    let digestSize := getDigestSizeFromHashAlgo c.hashAlg
    (computeHashKey host c.mem secret hashKey c.hashAlg, ⟨hashKey, digestSize, hashKey, digestSize⟩)
  else
    (c.mem, ⟨secret.pData, secret.dataLenInBytes, secret.pData, secret.dataLenInBytes⟩)

/-- The length of a half of the secret. -/
def Call.tlsPrefixLen : UInt32 := (c.opData.secret.dataLenInBytes + 1) >>> 1

/-- The address of the second half of the secret; its first byte is the last one of the first half if
    the length is odd. -/
def Call.secondHalf : Nat :=
  c.opData.secret.pData + (c.opData.secret.dataLenInBytes - c.tlsPrefixLen).toNat

/-- The prefixes for TLS 1.0 and 1.1. -/
def prefixesV11 : Memory × Prefixes :=
  let secret := c.opData.secret
  if secret.dataLenInBytes > 128 ∧ c.opData.tlsOp.precomputes then
    let md5Key := c.cookie + hashKeyBufferOffset
    let sha1Key := c.cookie + hashKeyBufferOffset + 16
    let mem := computeHashKey host c.mem ⟨secret.pData, c.tlsPrefixLen⟩ md5Key .md5
    (computeHashKey host mem ⟨c.secondHalf, c.tlsPrefixLen⟩ sha1Key .sha1, ⟨sha1Key, 20, md5Key, 16⟩)
  else
    (c.mem, ⟨c.secondHalf, c.tlsPrefixLen, secret.pData, c.tlsPrefixLen⟩)

/-- The prefixes of a call. -/
def prefixes : Memory × Prefixes :=
  match c.version with
  | .v11 => prefixesV11 host c
  | .v12 => prefixesV12 host c

end

/-! ## The hash state buffer -/

/-- The fields for the prefixes in the request. -/
structure ReqParams where
  innerPrefixSz : UInt8
  outerPrefixSz : UInt8
  outerPrefixOffset : UInt8

/-- `LacSymQat_HashSetupReqParamsMetaData` in mode 2. -/
def hashSetupReqParamsMetaData (alg : HashAlg) : ReqParams where
  innerPrefixSz := alg.blockLength.toUInt8
  outerPrefixSz := alg.blockLength.toUInt8
  outerPrefixOffset := 
    (bytesToQuadwords (alignPow2Roundup alg.blockLength.toUInt8.toUInt32 8).toNat).toUInt8

/-- Copy a prefix and clear the padding after it. -/
def copyPrefix (mem : Memory) (dst src : Nat) (size padding : UInt8) : Memory :=
  (mem.write dst (mem.read src size.toNat)).write (dst + size.toNat) (List.replicate padding.toNat 0)

/-- `LacSymQat_HashStatePrefixAadBufferPopulate`, for a buffer without space for a hash state. -/
def hashStatePrefixAadBufferPopulate (mem : Memory) (pData : Nat) (prefixAadSzQuadWords : UInt8)
    (req : ReqParams) (pInnerPrefixAad : Nat) (innerPrefixSize : UInt8) (pOuterPrefix : Nat)
    (outerPrefixSize : UInt8) : Memory :=
  let mem :=
    if pInnerPrefixAad ≠ 0 then
      copyPrefix mem pData pInnerPrefixAad innerPrefixSize (req.innerPrefixSz - innerPrefixSize)
    else mem
  if pOuterPrefix ≠ 0 then
    copyPrefix mem (pData + req.outerPrefixOffset.toNat * 8) pOuterPrefix outerPrefixSize
      (prefixAadSzQuadWords.toUInt32 <<< 3 - req.innerPrefixSz.toUInt32 -
        outerPrefixSize.toUInt32).toUInt8
  else mem

/-- The hash algorithm of the request, `hashSetupData.hashAlgorithm`. -/
def Call.innerAlg (c : Call) : HashAlg :=
  match c.version with
  | .v11 => .sha1
  | .v12 => c.hashAlg

/-- `outerHashAlgorithm`. -/
def Call.outerAlg (c : Call) : HashAlg :=
  match c.version with
  | .v11 => .md5
  | .v12 => c.hashAlg

/-- `prefixAadSzQuadWords` of a request. -/
def ReqParams.prefixAadSzQuadWords (req : ReqParams) : UInt8 :=
  (bytesToQuadwords (req.innerPrefixSz.toUInt32 + req.outerPrefixSz.toUInt32).toNat).toUInt8

/-- The memory after `LacSymKey_KeyGenSslTls_GenCommon`. -/
def keyGenSslTlsGenCommon (host : Host) (c : Call) : Memory :=
  let (mem, p) := prefixes host c
  let req := hashSetupReqParamsMetaData c.innerAlg
  hashStatePrefixAadBufferPopulate mem c.cookie req.prefixAadSzQuadWords req
    p.pInnerPrefixData p.innerPrefixLenInBytes.toUInt8
    p.pOuterPrefixData p.outerPrefixLenInBytes.toUInt8

/-! ## What is prescribed -/

/-- The block with which HMAC starts (RFC 2104). -/
def keyBlock (host : Host) (alg : HashAlg) (key : List UInt8) : List UInt8 :=
  let key := if alg.blockLength < key.length then host.digest alg key else key
  key ++ List.replicate (alg.blockLength - key.length) 0

namespace Call

variable (c : Call)

/-- The secret. -/
def secret : List UInt8 := c.mem.read c.opData.secret.pData c.opData.secret.dataLenInBytes.toNat

/-- The key of the inner block: the second half of the secret for TLS 1.0 and 1.1 (RFC 2246), the
    secret for TLS 1.2 (RFC 5246). -/
def innerKey : List UInt8 :=
  match c.version with
  | .v11 => c.secret.drop (c.secret.length - (c.secret.length + 1) / 2)
  | .v12 => c.secret

/-- The key of the outer block: the first half of the secret, or the secret. -/
def outerKey : List UInt8 :=
  match c.version with
  | .v11 => c.secret.take ((c.secret.length + 1) / 2)
  | .v12 => c.secret

/-- A prefix is taken from `hashKeyBuffer`. -/
def InHashKeyBuffer (p : Nat) : Prop :=
  c.cookie + hashKeyBufferOffset ≤ p ∧ p < c.cookie + cookieSize

end Call

/-- The hash state buffer holds the two blocks, and keys are hashed when they are longer than a block.
-/
structure Prescribed (host : Host) (c : Call) : Prop where
  inner : (keyGenSslTlsGenCommon host c).read c.cookie c.innerAlg.blockLength =
    keyBlock host c.innerAlg c.innerKey
  outer : (keyGenSslTlsGenCommon host c).read (c.cookie + c.innerAlg.blockLength)
    c.outerAlg.blockLength = keyBlock host c.outerAlg c.outerKey
  innerHashed : c.InHashKeyBuffer (prefixes host c).2.pInnerPrefixData ↔
    c.innerAlg.blockLength < c.innerKey.length
  outerHashed : c.InHashKeyBuffer (prefixes host c).2.pOuterPrefixData ↔
    c.outerAlg.blockLength < c.outerKey.length

/-- The keys are at most a block, or the operation has longer ones hashed by a hash function that the
    host has. -/
def KeysFit (c : Call) : Prop :=
  match c.version with
  | .v11 => c.opData.secret.dataLenInBytes.toNat ≤ 128 ∨ c.opData.tlsOp.precomputes = true
  | .v12 => c.opData.secret.dataLenInBytes.toNat ≤ c.hashAlg.blockLength ∨
      (c.opData.tlsOp.precomputes = true ∧ c.hashAlg ≠ .sm3)

/-! ## The blocks in the buffer -/

/-- The hash has a block of 64 or 128 bytes. -/
def BlockIs (alg : HashAlg) (n : Nat) : Prop := alg.blockLength = n ∧ (n = 64 ∨ n = 128)

variable {size : UInt8} {alg : HashAlg} {n : Nat}

section Populate

variable {mem : Memory} {dst src n : Nat} {alg : HashAlg}

theorem copyPrefix_eq (size padding : UInt8) :
    copyPrefix mem dst src size padding =
      mem.write dst (mem.read src size.toNat ++ List.replicate padding.toNat 0) := by
  rw [write_append, length_read]
  rfl

section

variable (h : BlockIs alg n)
include h

theorem innerPrefixSz_toNat : (hashSetupReqParamsMetaData alg).innerPrefixSz.toNat = n := by
  obtain ⟨hlen, rfl | rfl⟩ := h <;> rw [hashSetupReqParamsMetaData, hlen] <;> rfl

theorem outerPrefixOffset_toNat :
    (hashSetupReqParamsMetaData alg).outerPrefixOffset.toNat * 8 = n := by
  obtain ⟨hlen, rfl | rfl⟩ := h <;> rw [hashSetupReqParamsMetaData, hlen] <;> rfl

theorem outerSpace_toNat :
    ((hashSetupReqParamsMetaData alg).prefixAadSzQuadWords.toUInt32 <<< 3 -
      (hashSetupReqParamsMetaData alg).innerPrefixSz.toUInt32).toNat = n := by
  obtain ⟨hlen, rfl | rfl⟩ := h <;> rw [hashSetupReqParamsMetaData, hlen] <;> decide

theorem innerPadding_toNat (hsize : size.toNat ≤ n) :
    ((hashSetupReqParamsMetaData alg).innerPrefixSz - size).toNat = n - size.toNat := by
  have hsz := innerPrefixSz_toNat h
  rw [UInt8.toNat_sub_of_le _ _ (by rwa [UInt8.le_iff_toNat_le, hsz]), hsz]

theorem outerPadding_toNat (hsize : size.toNat ≤ n) :
    ((hashSetupReqParamsMetaData alg).prefixAadSzQuadWords.toUInt32 <<< 3 -
      (hashSetupReqParamsMetaData alg).innerPrefixSz.toUInt32 - size.toUInt32).toUInt8.toNat =
      n - size.toNat := by
  have hspace := outerSpace_toNat h
  have hle : size.toUInt32.toNat ≤ n := by rwa [UInt8.toNat_toUInt32]
  have hn : n ≤ 128 := by
    obtain ⟨-, rfl | rfl⟩ := h <;> decide
  rw [UInt32.toNat_toUInt8, UInt32.toNat_sub_of_le _ _ (by rwa [UInt32.le_iff_toNat_le, hspace]),
    hspace, UInt8.toNat_toUInt32]
  omega

/-- Prefixes of at most a block, from outside of the buffer, are padded to two blocks. -/
theorem populate_blocks {buf p q : Nat} {size' : UInt8} (hp : p ≠ 0) (hq : q ≠ 0)
    (hsize : size.toNat ≤ n) (hsize' : size'.toNat ≤ n) (hapart : Apart q size'.toNat buf n) :
    let m := hashStatePrefixAadBufferPopulate mem buf
      (hashSetupReqParamsMetaData alg).prefixAadSzQuadWords (hashSetupReqParamsMetaData alg)
      p size q size'
    m.read buf n = mem.read p size.toNat ++ List.replicate (n - size.toNat) 0 ∧
      m.read (buf + n) n = mem.read q size'.toNat ++ List.replicate (n - size'.toNat) 0 := by
  intro m
  set inner := mem.read p size.toNat ++ List.replicate (n - size.toNat) 0 with hinner
  have hlen : inner.length = n := by
    rw [hinner, List.length_append, length_read, List.length_replicate]
    omega
  have hlen' : (mem.read q size'.toNat ++ List.replicate (n - size'.toNat) 0).length = n := by
    rw [List.length_append, length_read, List.length_replicate]
    omega
  have hm : m = (mem.write buf inner).write (buf + n)
      (mem.read q size'.toNat ++ List.replicate (n - size'.toNat) 0) := by
    show hashStatePrefixAadBufferPopulate _ _ _ _ _ _ _ _ = _
    unfold hashStatePrefixAadBufferPopulate
    simp only [if_pos hp, if_pos hq, copyPrefix_eq, innerPadding_toNat h hsize,
      outerPadding_toNat h hsize', outerPrefixOffset_toNat h]
    rw [← hinner, read_write_apart (by rwa [hlen])]
  constructor
  · rw [hm, read_write_disjoint (.inl (Nat.le_refl _))]
    have hself := read_write_self mem buf inner
    rwa [hlen] at hself
  · have hself := read_write_self (mem.write buf inner) (buf + n)
      (mem.read q size'.toNat ++ List.replicate (n - size'.toNat) 0)
    rwa [hlen', ← hm] at hself

end

end Populate

/-! ## The keys -/

/-- A prefix is the key that HMAC pads: the key, or its hash. -/
structure HoldsKey (host : Host) (c : Call) (mem : Memory) (p : Nat) (len : UInt32) (alg : HashAlg)
    (key : List UInt8) : Prop where
  ne_zero : p ≠ 0
  length_le : len.toNat ≤ alg.blockLength
  apart : Apart p len.toNat c.cookie 256
  bytes : mem.read p len.toNat = if alg.blockLength < key.length then host.digest alg key else key
  hashed : c.InHashKeyBuffer p ↔ alg.blockLength < key.length

section Keys

variable {host : Host} {c : Call} {mem : Memory} {p : Nat} {len : UInt32} {alg : HashAlg}
  {key : List UInt8}

/-- A padded prefix is the block of the key. -/
theorem HoldsKey.pad_eq_keyBlock (h : HoldsKey host c mem p len alg key) :
    mem.read p len.toNat ++ List.replicate (alg.blockLength - len.toNat) 0 =
      keyBlock host alg key := by
  have hlen : len.toNat = (mem.read p len.toNat).length := (length_read _ _ _).symm
  unfold keyBlock
  dsimp only
  rw [← h.bytes, ← hlen]

/-- Pointers to the secret are not pointers to the hash key buffer. -/
theorem not_inHashKeyBuffer {off : Nat} (hoff : off ≤ c.opData.secret.dataLenInBytes.toNat) :
    ¬ c.InHashKeyBuffer (c.opData.secret.pData + off) := by
  have hapart := c.apart
  unfold Call.InHashKeyBuffer
  unfold Memory.Apart cookieSize hashKeyBufferOffset at *
  omega

/-- A part of the secret that is not longer than a block is a key. -/
theorem holdsKey_secret (off : Nat) (hsecret : c.opData.secret.pData ≠ 0)
    (hpart : off + len.toNat ≤ c.opData.secret.dataLenInBytes.toNat)
    (hkey : c.mem.read (c.opData.secret.pData + off) len.toNat = key)
    (hfits : len.toNat ≤ alg.blockLength) :
    HoldsKey host c c.mem (c.opData.secret.pData + off) len alg key := by
  have hlen : key.length = len.toNat := by rw [← hkey, length_read]
  have hshort : ¬ alg.blockLength < key.length := by omega
  refine ⟨by omega, hfits, ?_, ?_, iff_of_false (not_inHashKeyBuffer (by omega)) hshort⟩
  · refine c.apart.mono (Nat.le_add_right _ _) (by omega) (Nat.le_refl _) ?_
    unfold cookieSize hashKeyBufferOffset
    omega
  · rw [if_neg hshort, hkey]

/-- A digest of a key longer than a block, in the hash key buffer, is a key. -/
theorem holdsKey_digest (off : Nat) (hoff : off + len.toNat ≤ 64) (hpos : 0 < len.toNat)
    (hdigest : mem.read (c.cookie + hashKeyBufferOffset + off) len.toNat = host.digest alg key)
    (hlen : len.toNat ≤ alg.blockLength) (hlong : alg.blockLength < key.length) :
    HoldsKey host c mem (c.cookie + hashKeyBufferOffset + off) len alg key := by
  refine ⟨?_, hlen, ?_, ?_, iff_of_true ?_ hlong⟩
  · unfold hashKeyBufferOffset
    omega
  · unfold Memory.Apart hashKeyBufferOffset
    omega
  · rw [if_pos hlong, hdigest]
  · unfold Call.InHashKeyBuffer cookieSize
    omega

/-- Prefixes that are the keys bring the blocks into the buffer. -/
theorem prescribed_of_holdsKey (hinner : BlockIs c.innerAlg n)
    (houter : c.outerAlg.blockLength = n)
    (hin : HoldsKey host c (prefixes host c).1 (prefixes host c).2.pInnerPrefixData
      (prefixes host c).2.innerPrefixLenInBytes c.innerAlg c.innerKey)
    (hout : HoldsKey host c (prefixes host c).1 (prefixes host c).2.pOuterPrefixData
      (prefixes host c).2.outerPrefixLenInBytes c.outerAlg c.outerKey) : Prescribed host c := by
  have hn : n ≤ 128 := by
    obtain ⟨-, rfl | rfl⟩ := hinner <;> decide
  have hlen := hin.length_le
  have hlen' := hout.length_le
  rw [hinner.1] at hlen
  rw [houter] at hlen'
  have hsize : (prefixes host c).2.innerPrefixLenInBytes.toUInt8.toNat =
      (prefixes host c).2.innerPrefixLenInBytes.toNat := by
    rw [UInt32.toNat_toUInt8]
    omega
  have hsize' : (prefixes host c).2.outerPrefixLenInBytes.toUInt8.toNat =
      (prefixes host c).2.outerPrefixLenInBytes.toNat := by
    rw [UInt32.toNat_toUInt8]
    omega
  have hapart := hout.apart.mono (Nat.le_refl _) (Nat.le_refl _) (Nat.le_refl _)
    (show c.cookie + n ≤ c.cookie + 256 by omega)
  obtain ⟨hread, hread'⟩ := populate_blocks hinner hin.ne_zero hout.ne_zero (by rwa [hsize])
    (by rwa [hsize']) (by rwa [hsize'])
  have hpad := hin.pad_eq_keyBlock
  have hpad' := hout.pad_eq_keyBlock
  rw [hinner.1] at hpad
  rw [houter] at hpad'
  refine ⟨?_, ?_, hin.hashed, hout.hashed⟩
  · rw [hinner.1, ← hpad]
    rw [hsize] at hread
    exact hread
  · rw [hinner.1, houter, ← hpad']
    rw [hsize'] at hread'
    exact hread'

theorem accepted (h : checkParamSslTls c = true) :
    c.opData.secret.pData ≠ 0 ∧ c.opData.secret.dataLenInBytes.toNat ≤ 1024 ∧
      (c.version = .v12 → getDigestSizeFromHashAlgo c.hashAlg ≠ 0) := by
  unfold checkParamSslTls at h
  dsimp only at h
  simp only [Bool.if_false_left, Bool.if_true_right, Bool.and_eq_true, Bool.not_eq_true',
    decide_eq_false_iff_not] at h
  obtain ⟨-, hhash, hsecret, -, -, -, -, hlen, -⟩ := h
  refine ⟨hsecret, ?_, fun hv hzero => hhash ⟨hv, hzero⟩⟩
  rw [gt_iff_lt, UInt32.not_lt, UInt32.le_iff_toNat_le] at hlen
  cases hv : c.version <;> rw [hv] at hlen <;> simp at hlen <;> omega

/-- The decision to hash for TLS 1.2. -/
theorem precomputeV12_iff (hhash : getDigestSizeFromHashAlgo c.hashAlg ≠ 0) :
    precomputeV12 c = true ↔ (c.opData.tlsOp.precomputes = true ∧ c.hashAlg ≠ .sm3) ∧
        c.hashAlg.blockLength < c.opData.secret.dataLenInBytes.toNat := by
  unfold precomputeV12
  rw [Bool.and_eq_true, and_assoc]
  refine and_congr_right fun _ => ?_
  cases halg : c.hashAlg with
  | sha256 => simp [HashAlg.blockLength, hashDefsLookupGet, UInt32.lt_iff_toNat_lt]
  | sha384 => simp [HashAlg.blockLength, hashDefsLookupGet, UInt32.lt_iff_toNat_lt]
  | sha512 => simp [HashAlg.blockLength, hashDefsLookupGet, UInt32.lt_iff_toNat_lt]
  | sm3 => simp
  | _ =>
    rw [halg] at hhash
    exact absurd rfl hhash

theorem length_secret (c : Call) : c.secret.length = c.opData.secret.dataLenInBytes.toNat :=
  length_read _ _ _

/-- A hash function of TLS 1.2 and the sizes that belong to it. -/
theorem digestSize_of_ne_zero (hhash : getDigestSizeFromHashAlgo alg ≠ 0) :
    BlockIs alg alg.blockLength ∧ (getDigestSizeFromHashAlgo alg).toNat = alg.digestLength ∧
      alg.digestLength ≤ 64 ∧ 0 < alg.digestLength ∧ alg.digestLength ≤ alg.blockLength := by
  cases alg with
  | sha256 | sha384 | sha512 | sm3 => exact ⟨⟨rfl, by decide⟩, rfl, by decide, by decide, by decide⟩
  | _ => exact absurd rfl hhash

theorem computeHashKey_eq (host : Host) (mem : Memory) (secret : FlatBuffer) (hash : Nat)
    (hsm3 : alg ≠ .sm3) (hhash : getDigestSizeFromHashAlgo alg ≠ 0) :
    computeHashKey host mem secret hash alg =
      mem.write hash (host.digest alg (mem.read secret.pData secret.dataLenInBytes.toNat)) := by
  cases alg with
  | sm3 => exact absurd rfl hsm3
  | sha256 | sha384 | sha512 => rfl
  | _ => exact absurd rfl hhash

theorem read_digest (host : Host) (mem : Memory) (hash : Nat) (alg : HashAlg) (key : List UInt8)
    (hn : n = alg.digestLength) :
    (mem.write hash (host.digest alg key)).read hash n = host.digest alg key := by
  have hself := read_write_self mem hash (host.digest alg key)
  rwa [host.length_digest, ← hn] at hself

/-! ## TLS 1.2 -/

theorem v12_algs_keys (hv : c.version = .v12) :
    c.innerAlg = c.hashAlg ∧ c.outerAlg = c.hashAlg ∧ c.innerKey = c.secret ∧
      c.outerKey = c.secret := by
  unfold Call.innerAlg Call.outerAlg Call.innerKey Call.outerKey
  rw [hv]
  exact ⟨rfl, rfl, rfl, rfl⟩

theorem prefixes_v12 (hv : c.version = .v12) : prefixes host c = prefixesV12 host c := by
  unfold prefixes
  rw [hv]

theorem prefixesV12_of_precompute (hpre : precomputeV12 c = true) :
    prefixesV12 host c =
      (computeHashKey host c.mem c.opData.secret (c.cookie + hashKeyBufferOffset) c.hashAlg,
        ⟨c.cookie + hashKeyBufferOffset, getDigestSizeFromHashAlgo c.hashAlg,
          c.cookie + hashKeyBufferOffset, getDigestSizeFromHashAlgo c.hashAlg⟩) :=
  if_pos hpre

theorem prefixesV12_of_not_precompute (hpre : ¬ precomputeV12 c = true) :
    prefixesV12 host c =
      (c.mem, ⟨c.opData.secret.pData, c.opData.secret.dataLenInBytes, c.opData.secret.pData,
        c.opData.secret.dataLenInBytes⟩) :=
  if_neg hpre

theorem prefixesV12_outer (host : Host) (c : Call) :
    (prefixesV12 host c).2.pOuterPrefixData = (prefixesV12 host c).2.pInnerPrefixData ∧
      (prefixesV12 host c).2.outerPrefixLenInBytes =
        (prefixesV12 host c).2.innerPrefixLenInBytes := by
  by_cases hpre : precomputeV12 c = true
  · rw [prefixesV12_of_precompute hpre]
    exact ⟨rfl, rfl⟩
  · rw [prefixesV12_of_not_precompute hpre]
    exact ⟨rfl, rfl⟩

theorem holdsKey_v12 (hsecret : c.opData.secret.pData ≠ 0)
    (hhash : getDigestSizeFromHashAlgo c.hashAlg ≠ 0)
    (hfit : c.opData.secret.dataLenInBytes.toNat ≤ c.hashAlg.blockLength ∨
      (c.opData.tlsOp.precomputes = true ∧ c.hashAlg ≠ .sm3)) :
    HoldsKey host c (prefixesV12 host c).1 (prefixesV12 host c).2.pInnerPrefixData
      (prefixesV12 host c).2.innerPrefixLenInBytes c.hashAlg c.secret := by
  obtain ⟨-, hsize, hmax, hpos, hle⟩ := digestSize_of_ne_zero hhash
  by_cases hpre : precomputeV12 c = true
  · obtain ⟨⟨-, hsm3⟩, hlong⟩ := (precomputeV12_iff hhash).mp hpre
    rw [prefixesV12_of_precompute hpre, computeHashKey_eq host _ _ _ hsm3 hhash]
    dsimp only
    refine holdsKey_digest 0 (by omega) (by omega) ?_ (by omega) (by rwa [length_secret])
    exact read_digest host c.mem _ c.hashAlg c.secret hsize
  · rw [prefixesV12_of_not_precompute hpre]
    have hshort : c.opData.secret.dataLenInBytes.toNat ≤ c.hashAlg.blockLength := by
      rcases hfit with hfit | hfit
      · exact hfit
      · by_contra hlong
        exact hpre ((precomputeV12_iff hhash).mpr ⟨hfit, by omega⟩)
    exact holdsKey_secret 0 hsecret (Nat.le_of_eq (Nat.zero_add _)) rfl hshort

theorem prescribed_v12_iff (hv : c.version = .v12) (hsecret : c.opData.secret.pData ≠ 0)
    (hhash : getDigestSizeFromHashAlgo c.hashAlg ≠ 0) : Prescribed host c ↔ KeysFit c := by
  obtain ⟨hinner, houter, hinnerKey, houterKey⟩ := v12_algs_keys hv
  have hkeys : KeysFit c ↔ c.opData.secret.dataLenInBytes.toNat ≤ c.hashAlg.blockLength ∨
      (c.opData.tlsOp.precomputes = true ∧ c.hashAlg ≠ .sm3) := by
    unfold KeysFit
    rw [hv]
  rw [hkeys]
  constructor
  · intro h
    by_contra hfit
    rw [not_or] at hfit
    have hhashed := h.innerHashed
    have hpre : ¬ precomputeV12 c = true := fun hpre => hfit.2 ((precomputeV12_iff hhash).mp hpre).1
    rw [prefixes_v12 hv, prefixesV12_of_not_precompute hpre, hinner, hinnerKey, length_secret]
      at hhashed
    exact not_inHashKeyBuffer (Nat.zero_le _) (hhashed.mpr (by omega))
  · intro hfit
    have hholds : HoldsKey host c _ _ _ _ _ := holdsKey_v12 hsecret hhash hfit
    obtain ⟨hptr, hlen⟩ := prefixesV12_outer host c
    refine prescribed_of_holdsKey (n := c.hashAlg.blockLength) ?_ ?_ ?_ ?_
    · rw [hinner]
      exact (digestSize_of_ne_zero hhash).1
    · rw [houter]
    · rwa [prefixes_v12 hv, hinner, hinnerKey]
    · rwa [prefixes_v12 hv, houter, houterKey, hptr, hlen]

/-! ## TLS 1.0 and 1.1 -/

theorem v11_algs (hv : c.version = .v11) : c.innerAlg = .sha1 ∧ c.outerAlg = .md5 := by
  unfold Call.innerAlg Call.outerAlg
  rw [hv]
  exact ⟨rfl, rfl⟩

theorem keysFit_v11_iff (hv : c.version = .v11) :
    KeysFit c ↔ c.opData.secret.dataLenInBytes.toNat ≤ 128 ∨ c.opData.tlsOp.precomputes = true := by
  unfold KeysFit
  rw [hv]

theorem prefixes_v11 (hv : c.version = .v11) : prefixes host c = prefixesV11 host c := by
  unfold prefixes
  rw [hv]

theorem tlsPrefixLen_toNat (hlen : c.opData.secret.dataLenInBytes.toNat ≤ 1024) :
    c.tlsPrefixLen.toNat = (c.opData.secret.dataLenInBytes.toNat + 1) / 2 := by
  have hadd : (c.opData.secret.dataLenInBytes + 1).toNat =
      c.opData.secret.dataLenInBytes.toNat + 1 := by
    rw [UInt32.toNat_add]
    simp
    omega
  rw [Call.tlsPrefixLen, UInt32.toNat_shiftRight, hadd]
  simp [Nat.shiftRight_eq_div_pow]

theorem secondHalf_eq (hlen : c.opData.secret.dataLenInBytes.toNat ≤ 1024) :
    c.secondHalf = c.opData.secret.pData +
      (c.opData.secret.dataLenInBytes.toNat - (c.opData.secret.dataLenInBytes.toNat + 1) / 2) := by
  have hhalf := tlsPrefixLen_toNat hlen
  rw [Call.secondHalf, UInt32.toNat_sub_of_le _ _ (by rw [UInt32.le_iff_toNat_le]; omega), hhalf]

/-- The halves of the code are those of RFC 2246. -/
theorem v11_keys (hv : c.version = .v11) (hlen : c.opData.secret.dataLenInBytes.toNat ≤ 1024) :
    c.mem.read c.secondHalf c.tlsPrefixLen.toNat = c.innerKey ∧
      c.mem.read c.opData.secret.pData c.tlsPrefixLen.toNat = c.outerKey := by
  rw [secondHalf_eq hlen, tlsPrefixLen_toNat hlen]
  unfold Call.innerKey Call.outerKey
  rw [hv]
  dsimp only
  rw [length_secret]
  unfold Call.secret
  generalize c.opData.secret.dataLenInBytes.toNat = n
  constructor
  · have hsplit : n = (n - (n + 1) / 2) + (n + 1) / 2 := by omega
    have hdrop := drop_read c.mem c.opData.secret.pData (n - (n + 1) / 2) ((n + 1) / 2)
    rw [← hsplit] at hdrop
    exact hdrop.symm
  · have hsplit : n = (n + 1) / 2 + (n - (n + 1) / 2) := by omega
    have hread := read_append c.mem c.opData.secret.pData ((n + 1) / 2) (n - (n + 1) / 2)
    rw [← hsplit] at hread
    rw [hread, List.take_left' (length_read _ _ _)]

/-- The halves are longer than a block exactly if they are hashed for the right operation. -/
theorem halves_long_iff (hlen : c.opData.secret.dataLenInBytes.toNat ≤ 1024) :
    64 < c.tlsPrefixLen.toNat ↔ 128 < c.opData.secret.dataLenInBytes.toNat := by
  rw [tlsPrefixLen_toNat hlen]
  omega

section Halves

variable (hv : c.version = .v11) (hsecret : c.opData.secret.pData ≠ 0)
  (hlen : c.opData.secret.dataLenInBytes.toNat ≤ 1024)
include hv hlen

include hsecret in
theorem holdsKey_halves (hshort : c.opData.secret.dataLenInBytes.toNat ≤ 128) :
    HoldsKey host c c.mem c.secondHalf c.tlsPrefixLen .sha1 c.innerKey ∧
      HoldsKey host c c.mem c.opData.secret.pData c.tlsPrefixLen .md5 c.outerKey := by
  obtain ⟨hinner, houter⟩ := v11_keys hv hlen
  have hhalf := tlsPrefixLen_toNat hlen
  have hfits : c.tlsPrefixLen.toNat ≤ 64 := by omega
  constructor
  · rw [secondHalf_eq hlen] at hinner ⊢
    exact holdsKey_secret _ hsecret (by omega) hinner hfits
  · exact holdsKey_secret 0 hsecret (by omega) houter hfits

/-- The MD5 key is written first; the second half of the secret is not touched by it. -/
theorem hashedHalves_mem (host : Host) :
    computeHashKey host (computeHashKey host c.mem ⟨c.opData.secret.pData, c.tlsPrefixLen⟩
        (c.cookie + hashKeyBufferOffset) .md5)
        ⟨c.secondHalf, c.tlsPrefixLen⟩ (c.cookie + hashKeyBufferOffset + 16) .sha1 =
      (c.mem.write (c.cookie + hashKeyBufferOffset) (host.digest .md5 c.outerKey)).write
        (c.cookie + hashKeyBufferOffset + 16) (host.digest .sha1 c.innerKey) := by
  obtain ⟨hinner, houter⟩ := v11_keys hv hlen
  have hhalf := tlsPrefixLen_toNat hlen
  have hsize : hashKeyBufferOffset + 16 ≤ cookieSize := by decide
  have hapart : Apart c.secondHalf c.tlsPrefixLen.toNat (c.cookie + hashKeyBufferOffset) 16 := by
    rw [secondHalf_eq hlen]
    exact c.apart.mono (Nat.le_add_right _ _) (by omega) (Nat.le_add_right _ _) (by omega)
  have hmd5 : computeHashKey host c.mem ⟨c.opData.secret.pData, c.tlsPrefixLen⟩
      (c.cookie + hashKeyBufferOffset) .md5 =
        c.mem.write (c.cookie + hashKeyBufferOffset) (host.digest .md5 c.outerKey) := by
    rw [← houter]
    rfl
  have hsecond : (c.mem.write (c.cookie + hashKeyBufferOffset) (host.digest .md5 c.outerKey)).read
      c.secondHalf c.tlsPrefixLen.toNat = c.innerKey := by
    rw [read_write_apart (by rwa [host.length_digest]), hinner]
  rw [hmd5, ← hsecond]
  rfl

theorem holdsKey_hashedHalves (hlong : 128 < c.opData.secret.dataLenInBytes.toNat) {mem : Memory}
    (hmem : mem = (c.mem.write (c.cookie + hashKeyBufferOffset) (host.digest .md5 c.outerKey)).write
      (c.cookie + hashKeyBufferOffset + 16) (host.digest .sha1 c.innerKey)) :
    HoldsKey host c mem (c.cookie + hashKeyBufferOffset + 16) 20 .sha1 c.innerKey ∧
      HoldsKey host c mem (c.cookie + hashKeyBufferOffset) 16 .md5 c.outerKey := by
  obtain ⟨hinner, houter⟩ := v11_keys hv hlen
  have hlongHalf := (halves_long_iff hlen).mpr hlong
  have hinnerLong : 64 < c.innerKey.length := by rwa [← hinner, length_read]
  have houterLong : 64 < c.outerKey.length := by rwa [← houter, length_read]
  constructor
  · refine holdsKey_digest 16 (by decide) (by decide) ?_ (by decide) hinnerLong
    rw [hmem]
    exact read_digest host _ _ .sha1 c.innerKey rfl
  · refine holdsKey_digest 0 (by decide) (by decide) ?_ (by decide) houterLong
    have hapart : Apart (c.cookie + hashKeyBufferOffset) 16
        (c.cookie + hashKeyBufferOffset + 16) (host.digest .sha1 c.innerKey).length :=
      .inl (Nat.le_refl _)
    rw [hmem]
    exact (read_write_apart hapart).trans (read_digest host c.mem _ .md5 c.outerKey rfl)

theorem prescribed_v11_iff (hsecret : c.opData.secret.pData ≠ 0) :
    Prescribed host c ↔ KeysFit c := by
  obtain ⟨hinnerAlg, houterAlg⟩ := v11_algs hv
  have hblock : BlockIs c.innerAlg 64 := by
    rw [hinnerAlg]
    exact ⟨rfl, .inl rfl⟩
  have hblock' : c.outerAlg.blockLength = 64 := by
    rw [houterAlg]
    rfl
  have hlt : c.opData.secret.dataLenInBytes > 128 ↔
      128 < c.opData.secret.dataLenInBytes.toNat := UInt32.lt_iff_toNat_lt
  rw [keysFit_v11_iff hv]
  by_cases hhash : c.opData.secret.dataLenInBytes > 128 ∧ c.opData.tlsOp.precomputes = true
  · have hpfx : prefixes host c = _ := (prefixes_v11 hv).trans (if_pos hhash)
    have hkeys : HoldsKey host c _ _ _ _ _ ∧ _ :=
      holdsKey_hashedHalves hv hlen (hlt.mp hhash.1) (hashedHalves_mem hv hlen host)
    refine iff_of_true (prescribed_of_holdsKey hblock hblock' ?_ ?_) (.inr hhash.2)
    · rw [hpfx, hinnerAlg]
      exact hkeys.1
    · rw [hpfx, houterAlg]
      exact hkeys.2
  · have hpfx : prefixes host c = _ := (prefixes_v11 hv).trans (if_neg hhash)
    constructor
    · intro h
      by_contra hfit
      have hhashed := h.innerHashed
      have hlong : 128 < c.opData.secret.dataLenInBytes.toNat := by omega
      rw [hpfx, hblock.1, ← (v11_keys hv hlen).1, length_read, halves_long_iff hlen] at hhashed
      have hin := hhashed.mpr hlong
      dsimp only at hin
      rw [secondHalf_eq hlen] at hin
      exact not_inHashKeyBuffer (Nat.sub_le _ _) hin
    · intro hfit
      have hshort : c.opData.secret.dataLenInBytes.toNat ≤ 128 := by
        rcases hfit with hfit | hfit
        · exact hfit
        · by_contra hlong
          exact hhash ⟨hlt.mpr (by omega), hfit⟩
      have hkeys : HoldsKey host c _ _ _ _ _ ∧ _ := holdsKey_halves hv hsecret hlen hshort
      refine prescribed_of_holdsKey hblock hblock' ?_ ?_
      · rw [hpfx, hinnerAlg]
        exact hkeys.1
      · rw [hpfx, houterAlg]
        exact hkeys.2

end Halves

end Keys

/-- For every derivation that the check accepts, the hash state buffer holds the key blocks that TLS
    and HMAC prescribe exactly if the keys fit. -/
theorem keyGenSslTls_prescribed_iff (host : Host) (c : Call) (h : checkParamSslTls c = true) :
    Prescribed host c ↔ KeysFit c := by
  obtain ⟨hsecret, hlen, hhash⟩ := accepted h
  cases hv : c.version with
  | v11 => exact prescribed_v11_iff hv hlen hsecret
  | v12 => exact prescribed_v12_iff hv hsecret (hhash hv)

/-- A derivation for TLS 1.2 with SHA-256 from a secret of 100 bytes. -/
def longSecretCall (tlsOp : TlsOp) : Call where
  mem _ := 0xFF
  cookie := 0x1000
  version := .v12
  hashAlg := .sha256
  opData :=
    { tlsOp := tlsOp
      secret := ⟨0x2000, 100⟩
      seed := ⟨0x2100, 64⟩
      generatedKeyLenInBytes := 48
      userLabel := ⟨0, 0⟩ }
  pGeneratedKeyBuffer := ⟨0x2200, 48⟩
  apart := .inr (show 0x1000 + cookieSize ≤ 0x2000 by decide)

/-- SHA-256 of 100 bytes `0xFF`. -/
def longSecretDigest : List UInt8 :=
  [0xda, 0x6f, 0x14, 0x97, 0x0c, 0xe3, 0x56, 0xce, 0x01, 0xa5, 0xb3, 0x40, 0x29, 0x1e, 0x9d, 0x8b,
    0x26, 0x52, 0xeb, 0x63, 0xfb, 0xf8, 0xf3, 0x28, 0xca, 0x6a, 0x87, 0xa7, 0x27, 0xfd, 0xe4, 0xd9]

/-- A host that knows the digest of the secret of the sample. -/
def sampleHost : Host where
  digest alg msg :=
    if alg = .sha256 ∧ msg = List.replicate 100 0xFF then longSecretDigest
    else List.replicate alg.digestLength 0
  length_digest alg msg := by
    split
    · next h =>
      rw [h.1]
      rfl
    · exact List.length_replicate

/-- The master secret is derived with the hash of the secret, which stands in the buffer. -/
theorem keyGenSslTls_prescribed_masterSecret :
    checkParamSslTls (longSecretCall .masterSecretDerive) = true ∧
      Prescribed sampleHost (longSecretCall .masterSecretDerive) ∧
      (keyGenSslTlsGenCommon sampleHost (longSecretCall .masterSecretDerive)).read 0x1000 64 =
        longSecretDigest ++ List.replicate 32 0 := by
  have h := (keyGenSslTls_prescribed_iff sampleHost (longSecretCall .masterSecretDerive)
    (by decide)).mpr (.inr ⟨rfl, by decide⟩)
  exact ⟨by decide, h, h.inner.trans (by decide)⟩

/-- After the digest of a long key the block is zero. -/
theorem keyBlock_getD_of_long (host : Host) {key : List UInt8}
    (hlong : alg.blockLength < key.length) {i : Nat} (hi : alg.digestLength ≤ i) :
    (keyBlock host alg key).getD i 0 = 0 := by
  have hlen := host.length_digest alg key
  unfold keyBlock
  rw [if_pos hlong]
  dsimp only
  rw [List.getD_append_right _ _ _ _ (by omega)]
  simp only [List.getD_eq_getElem?_getD, List.getElem?_replicate]
  split <;> rfl

/-- For the derivation of key material from the secret, an accepted call, the inner block is the start
    of the secret and not its hash, whatever the hash function is. -/
theorem keyMaterial_longSecret_not_hashed :
    checkParamSslTls (longSecretCall .keyMaterialDerive) = true ∧
      ∀ host : Host, ¬ Prescribed host (longSecretCall .keyMaterialDerive) := by
  refine ⟨by decide, fun host h => ?_⟩
  have hread : (keyGenSslTlsGenCommon host (longSecretCall .keyMaterialDerive)).read 0x1000 64 =
      keyBlock host .sha256 (longSecretCall .keyMaterialDerive).secret := h.inner
  have hbyte : ((keyGenSslTlsGenCommon host (longSecretCall .keyMaterialDerive)).read 0x1000 64).getD
      40 0 = 0 := by
    rw [hread]
    exact keyBlock_getD_of_long host (by decide) (by decide)
  rw [getD_read (by decide)] at hbyte
  cases hbyte

end Qatlib.Crypto.Tls
