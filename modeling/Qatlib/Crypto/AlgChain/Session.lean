import Qatlib.Crypto.AlgChain.Setup
import Qatlib.Crypto.SymSession

set_option autoImplicit false

/-! # Sessions of symmetric operations

The fields of a session on which the way of an operation through `LacAlgChain_Perform` depends: how
`LacAlgChain_SessionInit` sets them from the setup data, and what an operation does to them before it
looks at its data. An AEAD session starts as one for a chain of two algorithms. The first operation
that the device can do in a single pass converts it to one for a cipher, for good. -/

namespace Qatlib.Crypto.AlgChain

/-- The fields of `lac_session_desc_t` on which the way of an operation depends. The check of the
    setup data (`LacSymSession_ParamCheck`) lets the CCM cipher go with no other hash. -/
structure Session where
  isDPSession : Bool
  accessReaders : UInt32
  pendingCbCount : Int
  symOperation : SymOperation
  cipherAlgorithm : CipherAlg
  hashAlgorithm : HashAlg
  hashMode : HashMode
  cipherDirection : CipherDirection
  laCmdId : LaCmdId
  singlePassState : SinglePassState
  isCipher : Bool
  isAuth : Bool
  isAuthEncryptOp : Bool
  aadLenInBytes : UInt32
  authKeyLenInBytes : Nat
  hashResultSize : UInt32
  digestIsAppended : Bool
  digestVerify : Bool
  /-- `pSymCb` is the callback of synchronous calls. -/
  isSync : Bool
  partialState : PacketType
  nonBlockingOpsInProgress : Bool
  /-- The cookies of the queued requests. -/
  requestQueue : List Nat
  /-- The address of `cipherPartialOpState`. -/
  cipherPartialOpState : Nat
  ccm : cipherAlgorithm = .aesCcm → hashAlgorithm = .aesCcm

/-- `CpaCySymOpData`. -/
structure OpData where
  packetType : PacketType
  pIv : Nat
  ivLenInBytes : UInt32
  cryptoStartSrcOffsetInBytes : UInt32
  messageLenToCipherInBytes : UInt32
  hashStartSrcOffsetInBytes : UInt32
  messageLenToHashInBytes : UInt32
  pDigestResult : Nat
  pAdditionalAuthData : Nat

/-! ## Initialisation -/

/-- `LacSymAlgChain_GetSpcState`. -/
def getSpcState (svc : Service) (cipher : CipherAlg) (hash : HashAlg) : SinglePassState :=
  if cipher = .aesCcm ∧ svc.aesV2 then .probable
  else if !svc.chachaPoly then .no
  else if cipher = .chacha ∧ hash = .poly then .yes
  else if cipher = .aesGcm ∧ (hash = .aesGcm ∨ hash = .aesGmac) then .probable
  else .no

namespace Setup

variable (st : Setup)

/-- The cipher of the session; the field stays cleared without one. -/
def cipher : CipherAlg := if st.symOperation = .hash then .none else st.cipherSetup.cipherAlgorithm

/-- The hash of the session. -/
def hash : HashAlg := if st.symOperation = .cipher then .none else st.hashSetup.hashAlgorithm

/-- `isAuthEncryptOp`. -/
def isAuthEncryptOp : Bool :=
  st.symOperation = .algorithmChaining ∧
    (st.cipher = .aesCcm ∨ st.cipher = .aesGcm ∨ st.cipher = .chacha)

/-- The order in which `buildCmdData` chains: for AEAD it follows from the direction. -/
def chainOrder : ChainOrder :=
  let encrypt := st.cipherSetup.cipherDirection = .encrypt
  if st.cipher = .aesCcm then if encrypt then .hashThenCipher else .cipherThenHash
  else if st.cipher = .aesGcm ∨ st.cipher = .chacha then
    if encrypt then .cipherThenHash else .hashThenCipher
  else st.algChainOrder

/-- `laCmdId`. -/
def laCmdId : LaCmdId :=
  match st.symOperation with
  | .cipher => .cipher
  | .hash => .auth
  | .algorithmChaining => if st.chainOrder = .cipherThenHash then .cipherHash else .hashCipher

/-- `digestVerify`; CCM and GCM verify when they decrypt. -/
def digestVerify : Bool :=
  if st.symOperation = .algorithmChaining ∧ (st.cipher = .aesCcm ∨ st.cipher = .aesGcm) then
    st.cipherSetup.cipherDirection = .decrypt
  else st.verifyDigest

/-- The check of the setup data lets the CCM cipher go with no other hash. -/
theorem hash_eq_aesCcm {svc : Service} (hcheck : st.check svc = true) (hcipher : st.cipher = .aesCcm) :
    st.hash = .aesCcm := by
  have hparam : st.sessionParamCheck svc = true := (of_decide_eq_true hcheck).2.1
  unfold sessionParamCheck at hparam
  unfold cipher at hcipher
  unfold hash
  cases hop : st.symOperation with
  | cipher =>
    rw [hop] at hparam hcipher
    exact absurd hcipher (of_decide_eq_true hparam).2.1
  | hash =>
    rw [hop] at hcipher
    cases hcipher
  | algorithmChaining =>
    rw [hop] at hparam hcipher
    have hchain := (of_decide_eq_true hparam).2.2
    exact (of_decide_eq_true hchain).2.1.mp hcipher

end Setup

/-- The session after `LacAlgChain_SessionInit`, when the precomputes are done. -/
def sessionInit (svc : Service) (st : Setup) (hcheck : st.check svc = true) (isDPSession isSync : Bool)
    (cipherPartialOpState : Nat) : Session where
  isDPSession := isDPSession
  accessReaders := 0
  pendingCbCount := 0
  symOperation := st.symOperation
  cipherAlgorithm := st.cipher
  hashAlgorithm := st.hash
  hashMode := st.hashSetup.hashMode
  cipherDirection := st.cipherSetup.cipherDirection
  laCmdId := st.laCmdId
  singlePassState :=
    if st.symOperation = .algorithmChaining then getSpcState svc st.cipher st.hash else .no
  isCipher := st.symOperation ≠ .hash
  isAuth := st.symOperation ≠ .cipher
  isAuthEncryptOp := st.isAuthEncryptOp
  aadLenInBytes :=
    if st.isAuthEncryptOp ∨ st.hash = .snow3gUia2 ∨ st.hash = .zucEia3 then
      st.hashSetup.aadLenInBytes
    else 0
  authKeyLenInBytes :=
    if st.symOperation ≠ .cipher ∧ st.hashSetup.hashMode = .auth then st.hashSetup.authKeyLenInBytes
    else 0
  hashResultSize :=
    if st.symOperation ≠ .cipher then st.hashSetup.digestResultLenInBytes.toUInt32 else 0
  digestIsAppended :=
    st.digestIsAppended ∨ (st.symOperation = .algorithmChaining ∧ st.cipher = .aesCcm)
  digestVerify := st.digestVerify
  isSync := isSync
  partialState := .full
  nonBlockingOpsInProgress := true
  requestQueue := []
  cipherPartialOpState := cipherPartialOpState
  ccm := st.hash_eq_aesCcm hcheck

/-! ## Locks and conversion -/

namespace Session

variable (s : Session) (svc : Service) (op : OpData)

/-- `LacAlgChain_LockSessionReader`. -/
def lockReader : Session :=
  if s.isDPSession then s else { s with accessReaders := s.accessReaders + 1 }

/-- `LacAlgChain_UnlockSessionReader`. -/
def unlockReader : Session :=
  if s.isDPSession then s else { s with accessReaders := s.accessReaders - 1 }

/-- `LAC_CIPHER_IS_SPC_GCM`. -/
def isSpGcm : Bool :=
  s.cipherAlgorithm = .aesGcm ∧ (s.hashAlgorithm = .aesGcm ∨ s.hashAlgorithm = .aesGmac) ∧
    svc.aesGcmSpc

/-- `LAC_CIPHER_IS_SPC_CCP`. -/
def isSpCcp : Bool := s.cipherAlgorithm = .chacha ∧ s.hashAlgorithm = .poly ∧ svc.chachaPoly

/-- `LAC_CIPHER_IS_SPC_CCM`. -/
def isSpCcm : Bool := s.cipherAlgorithm = .aesCcm ∧ svc.aesV2

/-- An operation makes the session a single pass one. -/
def converts : Bool :=
  s.singlePassState ≠ .no ∧
    ((op.ivLenInBytes = 12 ∧ (s.isSpGcm svc ∨ s.isSpCcp svc)) ∨ s.isSpCcm svc)

/-- For GMAC the session takes the length of the AAD from the operation. -/
def setAadLen : Session :=
  if s.hashAlgorithm = .aesGmac then { s with aadLenInBytes := op.messageLenToHashInBytes } else s

/-- The conversion of an algorithm chaining request to a cipher request. -/
def convert : Session :=
  { s with
    laCmdId := .cipher
    symOperation := .cipher
    singlePassState := .yes
    isCipher := true
    isAuthEncryptOp := false
    isAuth := false }

/-- The checks and the conversion at the start. A check that fails has the session unlocked. -/
def enter : Except Session Session :=
  if s.hashAlgorithm = .aesGmac ∧ (op.messageLenToHashInBytes = 0 ∨ op.pAdditionalAuthData ≠ 0) then
    .error (s.setAadLen op)
  else if s.converts svc op then
    if s.hashAlgorithm = .aesGmac ∧ op.messageLenToHashInBytes > 0x3FFF then
      .error (s.setAadLen op).convert
    else .ok (s.setAadLen op).convert
  else if s.cipherAlgorithm = .chacha ∧ op.ivLenInBytes ≠ 12 then .error (s.setAadLen op)
  else .ok (s.setAadLen op)

end Session

end Qatlib.Crypto.AlgChain
