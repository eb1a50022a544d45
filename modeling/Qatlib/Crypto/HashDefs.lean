import Mathlib.Init

set_option autoImplicit false

/-! # Hash algorithms

The algorithms of the API and the sizes that `lac_sym_qat_hash_defs_lookup.c` has for them. -/

namespace Qatlib.Crypto

/-- `CpaCySymHashAlgorithm`; `none` is a cleared field. -/
inductive HashAlg where
  | none
  | md5
  | sha1
  | sha224
  | sha256
  | sha384
  | sha512
  | aesXcbc
  | aesCcm
  | aesGcm
  | snow3gUia2
  | aesCmac
  | aesGmac
  | aesCbcMac
  | zucEia3
  | sha3_224
  | sha3_256
  | sha3_384
  | sha3_512
  | sm3
  | poly
deriving DecidableEq

/-- `LAC_HASH_IS_SHA3`. -/
def HashAlg.isSha3 (a : HashAlg) : Bool :=
  a = .sha3_224 ∨ a = .sha3_256 ∨ a = .sha3_384 ∨ a = .sha3_512

/-- The lengths of `lac_sym_qat_hash_alg_info_t`. -/
structure HashDefs where
  digestLength : Nat
  blockLength : Nat

/-- `LacSymQat_HashDefsLookupGet`. Wireless algorithms with longer keys have definitions of their
    own. -/
def hashDefsLookupGet (alg : HashAlg) (authKeyLenInBytes digestResultLenInBytes : Nat) : HashDefs :=
  match alg with
  | .none => ⟨0, 0⟩
  | .md5 => ⟨16, 64⟩
  | .sha1 => ⟨20, 64⟩
  | .sha224 => ⟨28, 64⟩
  | .sha256 => ⟨32, 64⟩
  | .sha384 => ⟨48, 128⟩
  | .sha512 => ⟨64, 128⟩
  | .aesXcbc => ⟨16, 16⟩
  | .aesCcm => ⟨16, 16⟩
  | .aesGcm => ⟨16, 16⟩
  | .snow3gUia2 => ⟨4, 8⟩
  | .aesCmac => ⟨16, 16⟩
  | .aesGmac => ⟨16, 16⟩
  | .aesCbcMac => ⟨16, 16⟩
  | .zucEia3 =>
    if authKeyLenInBytes = 32 then
      if digestResultLenInBytes = 4 then ⟨4, 4⟩
      else if digestResultLenInBytes = 8 then ⟨8, 4⟩
      else ⟨16, 4⟩
    else ⟨4, 4⟩
  | .sha3_224 => ⟨28, 144⟩
  | .sha3_256 => ⟨32, 136⟩
  | .sha3_384 => ⟨48, 104⟩
  | .sha3_512 => ⟨64, 72⟩
  | .sm3 => ⟨32, 64⟩
  | .poly => ⟨16, 64⟩

/-- The lengths of a hash function proper, which depend on nothing else. -/
def HashAlg.digestLength (alg : HashAlg) : Nat := (hashDefsLookupGet alg 0 0).digestLength

def HashAlg.blockLength (alg : HashAlg) : Nat := (hashDefsLookupGet alg 0 0).blockLength

end Qatlib.Crypto
