import Qatlib.Crypto.GcmMessage
import Qatlib.Crypto.HashDefs

set_option autoImplicit false

/-! # Setup data of symmetric sessions

What a user asks for when a session is set up, and which requests are accepted: the session parameter
check of the API (`LacSymSession_ParamCheck`) with the cipher and hash checks that
`LacAlgChain_SessionInit` runs, as they are compiled with `ICP_PARAM_CHECK`.

The ciphers are those that `SalCtrl_CySymQueryCapabilities` can report. ARC4, DES, 3DES, Kasumi and MD5
are in no capability bitmap, so a session with one of them is refused before it is set up. Of a key only
the length is looked at here. -/

namespace Qatlib.Crypto.AlgChain

/-! ## Algorithms and the instance -/

/-- `CpaCySymCipherAlgorithm`; `none` is a cleared field. -/
inductive CipherAlg where
  | none
  | null
  | aesEcb
  | aesCbc
  | aesCtr
  | aesCcm
  | aesGcm
  | snow3gUea2
  | aesF8
  | aesXts
  | zucEea3
  | chacha
  | sm4Ecb
  | sm4Cbc
  | sm4Ctr
deriving DecidableEq

/-- `CpaCySymHashMode`. -/
inductive HashMode where
  | plain
  | auth
  | nested
deriving DecidableEq

/-- `CpaCySymAlgChainOrder`. -/
inductive ChainOrder where
  | hashThenCipher
  | cipherThenHash
deriving DecidableEq

/-- `LacSymQat_CipherIvSizeBytesGet`. -/
def cipherIvSizeBytesGet : CipherAlg → Nat
  | .none => 0
  | .null => 0
  | .aesEcb => 0
  | .sm4Ecb => 0
  | .chacha => 12
  | _ => 16

/-- The build and the capabilities of a crypto instance. -/
structure Service where
  /-- `QAT_LEGACY_ALGORITHMS`. -/
  legacyAlgorithms : Bool
  cipher : Bool
  authentication : Bool
  cryptoZuc : Bool
  zuc256 : Bool
  cryptoSha3 : Bool
  sha3Ext : Bool
  chachaPoly : Bool
  sm3 : Bool
  sm4 : Bool
  wirelessCryptoExt : Bool
  aesGcmSpc : Bool
  aesV2 : Bool
  extAlgchainSupported : Bool

/-- The cipher bitmap of `SalCtrl_CySymQueryCapabilities`. -/
def Service.ciphers (svc : Service) : CipherAlg → Bool
  | .none => false
  | .null => svc.cipher
  | .aesEcb => svc.cipher && svc.legacyAlgorithms
  | .aesCbc => svc.cipher
  | .aesCtr => svc.cipher
  | .aesCcm => svc.cipher && svc.authentication
  | .aesGcm => svc.cipher && svc.authentication
  | .snow3gUea2 => svc.wirelessCryptoExt
  | .aesF8 => svc.wirelessCryptoExt && svc.legacyAlgorithms
  | .aesXts => svc.cipher
  | .zucEea3 => svc.cryptoZuc
  | .chacha => svc.chachaPoly
  | .sm4Ecb => svc.sm4 && svc.legacyAlgorithms
  | .sm4Cbc => svc.sm4
  | .sm4Ctr => svc.sm4

/-- The hash bitmap of `SalCtrl_CySymQueryCapabilities`. -/
def Service.hashes (svc : Service) : HashAlg → Bool
  | .none | .md5 => false
  | .sha1 => svc.authentication && svc.legacyAlgorithms
  | .sha224 => svc.authentication && svc.legacyAlgorithms
  | .sha256 => svc.authentication
  | .sha384 => svc.authentication
  | .sha512 => svc.authentication
  | .aesXcbc => svc.authentication
  | .aesCcm => svc.cipher && svc.authentication
  | .aesGcm => svc.cipher && svc.authentication
  | .snow3gUia2 => svc.wirelessCryptoExt
  | .aesCmac => svc.authentication
  | .aesGmac => svc.cipher && svc.authentication
  | .aesCbcMac => svc.authentication
  | .zucEia3 => svc.cryptoZuc
  | .sha3_224 => svc.sha3Ext && svc.legacyAlgorithms
  | .sha3_256 => svc.cryptoSha3 || svc.sha3Ext
  | .sha3_384 => svc.sha3Ext
  | .sha3_512 => svc.sha3Ext
  | .sm3 => svc.sm3
  | .poly => svc.chachaPoly

/-! ## Setup data -/

/-- `CpaCySymCipherSetupData`. -/
structure CipherSetup where
  cipherAlgorithm : CipherAlg
  cipherKeyLenInBytes : Nat
  cipherDirection : CipherDirection

/-- `CpaCySymHashSetupData`. The prefixes are the data behind their pointers. -/
structure HashSetup where
  hashAlgorithm : HashAlg
  hashMode : HashMode
  digestResultLenInBytes : Nat
  authKeyLenInBytes : Nat
  aadLenInBytes : UInt32
  outerHashAlgorithm : HashAlg
  innerPrefix : List UInt8
  outerPrefix : List UInt8

/-- `CpaCySymSessionSetupData`. -/
structure Setup where
  symOperation : SymOperation
  cipherSetup : CipherSetup
  hashSetup : HashSetup
  algChainOrder : ChainOrder
  digestIsAppended : Bool
  verifyDigest : Bool

/-- `LAC_HASH_ALG_MODE_NOT_SUPPORTED`. -/
def hashAlgModeNotSupported (alg : HashAlg) (mode : HashMode) : Bool :=
  ((alg = .snow3gUia2 ∨ alg = .aesXcbc ∨ alg = .aesCcm ∨ alg = .aesGcm ∨ alg = .aesGmac ∨
      alg = .aesCmac ∨ alg = .zucEia3) ∧ mode ≠ .auth) ∨
    (alg.isSha3 ∧ mode = .nested)

/-- `IS_EXT_ALG_CHAIN_UNSUPPORTED`. -/
def isExtAlgChainUnsupported (svc : Service) (cipher : CipherAlg) (hash : HashAlg) : Bool :=
  (((cipher = .zucEea3 ∨ cipher = .snow3gUea2) ∧ hash = .aesCmac) ∨
    ((cipher = .null ∨ cipher = .aesCtr ∨ cipher = .zucEea3) ∧ hash = .snow3gUia2) ∨
    ((cipher = .null ∨ cipher = .aesCtr ∨ cipher = .snow3gUea2) ∧ hash = .zucEia3)) ∧
      !svc.extAlgchainSupported

/-- `LAC_IS_LEGACY_ALGORITHMS`. -/
def isLegacyAlgorithms (cipher : CipherAlg) (hash : HashAlg) : Bool :=
  cipher = .aesEcb ∨ cipher = .aesF8 ∨ cipher = .sm4Ecb ∨ hash = .md5 ∨ hash = .sha1 ∨ hash = .sha224 ∨
    hash = .sha3_224

namespace Setup

variable (svc : Service)

/-- The combinations of algorithms that `LacSymSession_ParamCheck` lets chain. -/
def chainCheck (cipher : CipherAlg) (hash : HashAlg) : Bool :=
  (cipher = .chacha ↔ hash = .poly) ∧ (cipher = .aesCcm ↔ hash = .aesCcm) ∧
    (cipher = .aesGcm ↔ hash = .aesGcm ∨ hash = .aesGmac) ∧
    !isExtAlgChainUnsupported svc cipher hash ∧
    (cipher = .snow3gUea2 ∨ cipher = .zucEea3 →
      hash = .snow3gUia2 ∨ hash = .zucEia3 ∨ hash = .aesCmac) ∧
    (hash = .snow3gUia2 ∨ hash = .zucEia3 →
      cipher = .snow3gUea2 ∨ cipher = .zucEea3 ∨ cipher = .aesCtr ∨ cipher = .null)

/-- The cipher part of `LacSymSession_ParamCheck`. -/
def cipherParamCheck (c : CipherSetup) : Bool :=
  svc.ciphers c.cipherAlgorithm ∧
    (c.cipherAlgorithm = .zucEea3 → c.cipherKeyLenInBytes = 32 → svc.zuc256)

/-- The hash part of `LacSymSession_ParamCheck`. -/
def hashParamCheck (h : HashSetup) : Bool :=
  svc.hashes h.hashAlgorithm ∧
    (h.hashAlgorithm = .zucEia3 → h.authKeyLenInBytes = 32 → svc.zuc256) ∧
    (h.hashAlgorithm = .aesCmac → h.authKeyLenInBytes = 24 ∨ h.authKeyLenInBytes = 32 →
      svc.wirelessCryptoExt)

/-- `LacSymSession_ParamCheck`. -/
def sessionParamCheck (st : Setup) : Bool :=
  match st.symOperation with
  | .cipher =>
    cipherParamCheck svc st.cipherSetup ∧ st.cipherSetup.cipherAlgorithm ≠ .aesCcm ∧
      st.cipherSetup.cipherAlgorithm ≠ .aesGcm ∧ st.cipherSetup.cipherAlgorithm ≠ .chacha
  | .hash =>
    hashParamCheck svc st.hashSetup ∧ st.hashSetup.hashAlgorithm ≠ .aesCcm ∧
      st.hashSetup.hashAlgorithm ≠ .aesGcm ∧ st.hashSetup.hashAlgorithm ≠ .aesGmac ∧
      st.hashSetup.hashAlgorithm ≠ .poly
  | .algorithmChaining =>
    cipherParamCheck svc st.cipherSetup ∧ hashParamCheck svc st.hashSetup ∧
      chainCheck svc st.cipherSetup.cipherAlgorithm st.hashSetup.hashAlgorithm

/-- `LacCipher_SessionSetupDataCheck`. -/
def cipherSetupDataCheck (c : CipherSetup) : Bool :=
  let len := c.cipherKeyLenInBytes
  match c.cipherAlgorithm with
  | .none => false
  | .null => true
  | .aesCcm => svc.aesV2 ∨ len = 16
  | .aesXts => len = 32 ∨ len = 64 ∨ len = 16
  | .aesEcb => len = 16 ∨ len = 24 ∨ len = 32
  | .aesCbc => len = 16 ∨ len = 24 ∨ len = 32
  | .aesCtr => len = 16 ∨ len = 24 ∨ len = 32
  | .aesGcm => len = 16 ∨ len = 24 ∨ len = 32
  | .aesF8 => len = 32 ∨ len = 48 ∨ len = 64
  | .snow3gUea2 => len = 16
  | .zucEea3 => len = 16 ∨ len = 32
  | .chacha => len = 32
  | .sm4Ecb => len = 16
  | .sm4Cbc => len = 16
  | .sm4Ctr => len = 16

/-- The authentication part of `LacHash_HashContextCheck`. -/
def authContextCheck (h : HashSetup) : Bool :=
  let digestLen := h.digestResultLenInBytes
  let keyLen := h.authKeyLenInBytes
  let aadLen := h.aadLenInBytes
  match h.hashAlgorithm with
  | .aesGcm => (digestLen = 8 ∨ digestLen = 12 ∨ digestLen = 16) ∧ alignPow2Roundup aadLen 16 ≤ 240
  | .aesGmac => digestLen = 8 ∨ digestLen = 12 ∨ digestLen = 16
  | .aesCcm =>
    4 ≤ digestLen ∧ digestLen ≤ 16 ∧ digestLen % 2 = 0 ∧
      alignPow2Roundup (if 0 < aadLen then 16 + 2 + aadLen else 16) 16 ≤ 240
  | .snow3gUia2 => keyLen = 16 ∧ aadLen = 16
  | .aesXcbc => keyLen = 16
  | .aesCbcMac => keyLen = 16
  | .aesCmac => keyLen = 16 ∨ keyLen = 24 ∨ keyLen = 32
  | .zucEia3 => (keyLen = 16 ∨ keyLen = 32) ∧ (aadLen = 16 ∨ aadLen = 24)
  | .poly => digestLen = 16 ∧ aadLen ≤ 240
  | alg => keyLen ≤ (hashDefsLookupGet alg keyLen digestLen).blockLength

/-- `LacHash_HashContextCheck`. -/
def hashContextCheck (h : HashSetup) : Bool :=
  let digestLen := h.digestResultLenInBytes
  let inner := hashDefsLookupGet h.hashAlgorithm h.authKeyLenInBytes digestLen
  let outer := hashDefsLookupGet h.outerHashAlgorithm h.authKeyLenInBytes digestLen
  !hashAlgModeNotSupported h.hashAlgorithm h.hashMode &&
    match h.hashMode with
    | .plain => 0 < digestLen ∧ digestLen ≤ inner.digestLength
    | .auth => 0 < digestLen ∧ digestLen ≤ inner.digestLength ∧ authContextCheck h
    | .nested =>
      svc.hashes h.outerHashAlgorithm ∧
        !hashAlgModeNotSupported h.outerHashAlgorithm h.hashMode ∧ 0 < digestLen ∧
        digestLen ≤ outer.digestLength ∧ h.innerPrefix.length ≤ 255 ∧ h.outerPrefix.length ≤ 255

/-- All the checks a session passes before it is set up. -/
def check (st : Setup) : Bool :=
  (svc.legacyAlgorithms ∨
      !isLegacyAlgorithms st.cipherSetup.cipherAlgorithm st.hashSetup.hashAlgorithm) ∧
    st.sessionParamCheck svc ∧
    (st.symOperation ≠ .hash → cipherSetupDataCheck svc st.cipherSetup) ∧
    (st.symOperation ≠ .cipher → hashContextCheck svc st.hashSetup)

end Setup

end Qatlib.Crypto.AlgChain
