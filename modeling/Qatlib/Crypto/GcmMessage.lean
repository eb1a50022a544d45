import Mathlib.Data.List.Basic
import Qatlib.Api

set_option autoImplicit false

/-! # Request messages of AES-GCM sessions

How the traditional API (`LacAlgChain_Perform`) and the data plane API (`LacDp_WriteRingMsgFull`)
build the request message of a full-packet operation on an AES-GCM or AES-GMAC session. On a device
with single-pass cipher, an operation with a 12-byte IV converts the session in place: the command,
the operation, the authentication flags and a template of its own are rewritten in the session
descriptor.

A session keeps two templates, for the chained and for the single-pass command. Their control blocks
and the content descriptor they point to are what the setup of a session (`LacAlgChain_SessionInit`)
writes; nothing here looks into them, so they are arguments. The constants table is never used, since
GCM is done by the UCS slice. Physical addresses are given, with 0 where there is none. -/

namespace Qatlib.Crypto

/-! ## Data -/

/-- The hash algorithms that go with the AES-GCM cipher. -/
inductive GcmHash where
  | gcm
  | gmac
deriving DecidableEq

/-- `CpaCySymCipherDirection`. -/
inductive CipherDirection where
  | encrypt
  | decrypt
deriving DecidableEq

/-- `CpaCySymOp`. -/
inductive SymOperation where
  | cipher
  | hash
  | algorithmChaining
deriving DecidableEq

/-- `lac_single_pass_state_t`. -/
inductive SinglePassState where
  | no
  | probable
  | yes
deriving DecidableEq

/-- `icp_qat_fw_la_cmd_id_t`, the first four. -/
inductive LaCmdId where
  | cipher
  | auth
  | cipherHash
  | hashCipher
deriving DecidableEq

/-- The fields of `icp_qat_fw_serv_specif_flags`. -/
structure ServSpecifFlags where
  /-- `ICP_QAT_FW_LA_PARTIAL`; 0 is a full packet, 2 the end of a sequence. -/
  packet : Nat
  ivIn16ByteData : Bool
  cfgOffsetInShram : Bool
  updateState : Bool
  retAuthRes : Bool
  cmpAuthRes : Bool
  /-- 2 is `ICP_QAT_FW_LA_GCM_PROTO`. -/
  proto : Nat
  digestInBuffer : Bool
  gcmIvLen12 : Bool
  singlePass : Bool
  ucsSlice : Bool
deriving DecidableEq

/-- The fields of `icp_qat_fw_comn_flags`. -/
structure ComnFlags where
  cdFldType16ByteData : Bool
  ptrTypeSgl : Bool
deriving DecidableEq

/-- The common header of a request with the content descriptor parameters, LWs 0 to 5. -/
structure ReqHeader where
  serviceCmdId : LaCmdId
  comnReqFlags : ComnFlags
  servSpecifFlags : ServSpecifFlags
  /-- `USE_EXTENDED_PROTOCOL_FLAGS`, the extended flag that the conversion touches. -/
  extendedProtocol : Bool
  contentDescAddr : Nat
  contentDescParamsSz : Nat
deriving DecidableEq

/-- LWs 26 to 31: the end of the authentication parameters and the control block. -/
structure ReqFooter where
  aadSz : Nat
  hashStateSz : Nat
  authResSz : Nat
  /-- `cipher_state_sz` of the control block, in quad words. -/
  cipherStateSz : Nat
  cdCtrl : List UInt8
deriving DecidableEq

/-- LWs 16 to 19. -/
inductive IvField where
  | data (bytes : List UInt8)
  | pointer (addr : Nat)
deriving DecidableEq

/-- `icp_qat_fw_la_bulk_req_t`. LWs 20 to 25 are named for the authentication parameters; the
    single-pass parameters lie in the same places: `spc_aad_offset`, `spc_aad_sz`, `spc_aad_addr`,
    `spc_auth_res_addr`. -/
structure QatMsg where
  hdr : ReqHeader
  opaqueData : Nat
  srcDataAddr : Nat
  destDataAddr : Nat
  srcLength : Nat
  dstLength : Nat
  cipherOffset : Nat
  cipherLength : Nat
  ivField : IvField
  authOff : Nat
  authLen : Nat
  aadAddr : Nat
  authResAddr : Nat
  ftr : ReqFooter
deriving DecidableEq

/-- An operation of the traditional API, with the memory behind its pointers. -/
structure SymOp where
  /-- What `pIv` points to, or a null pointer. -/
  iv : Option (List UInt8)
  ivPhys : Nat
  ivLenInBytes : Nat
  cryptoStartSrcOffsetInBytes : Nat
  messageLenToCipherInBytes : Nat
  hashStartSrcOffsetInBytes : Nat
  messageLenToHashInBytes : Nat
  /-- The physical address of `pAdditionalAuthData`, or a null pointer. -/
  additionalAuthData : Option Nat
  /-- The physical address of `pDigestResult`, or a null pointer. -/
  digestResult : Option Nat
  /-- The cookie taken from the pool. -/
  cookie : Option Nat
  /-- The address of the source buffer list's descriptor, as far as it can be written. -/
  src : Except CpaStatus Nat
  inPlace : Bool
  /-- The same for the destination. -/
  dst : Except CpaStatus Nat
  srcPktSize : Nat
  dstPktSize : Nat
  /-- `LacHash_PerformParamCheck` finds a verify result where the caller is synchronous. -/
  verifyResultOk : Bool

/-- `CpaCySymDpOpData`. -/
structure SymDpOp where
  addr : Nat
  /-- What `pIv` points to, or a null pointer. -/
  pIv : Option (List UInt8)
  iv : Nat
  ivLenInBytes : Nat
  cryptoStartSrcOffsetInBytes : Nat
  messageLenToCipherInBytes : Nat
  hashStartSrcOffsetInBytes : Nat
  messageLenToHashInBytes : Nat
  additionalAuthData : Nat
  digestResult : Nat
  srcBuffer : Nat
  dstBuffer : Nat
  /-- The buffers are lists, `CPA_DP_BUFLIST`. -/
  bufferList : Bool
  srcBufferLen : Nat
  dstBufferLen : Nat

/-! ## Sessions -/

/-- What a session is set up from: the user's data, the capabilities of the device and what the
    builders of the content descriptor write. -/
structure GcmSetup where
  paramCheck : Bool
  /-- `ICP_ACCEL_CAPABILITIES_CHACHA_POLY`. -/
  chachaPoly : Bool
  /-- `ICP_ACCEL_CAPABILITIES_AESGCM_SPC`. -/
  aesGcmSpc : Bool
  isDPSession : Bool
  hashAlgorithm : GcmHash
  cipherDirection : CipherDirection
  digestIsAppended : Bool
  digestResultLenInBytes : Nat
  aadLenInBytes : Nat
  contentDescAddr : Nat
  contentDescParamsSz : Nat
  spcContentDescParamsSz : Nat
  ftr : ReqFooter
  spcFtr : ReqFooter

/-- The fields of `lac_session_desc_t` that building a message reads or writes. -/
structure GcmSession where
  paramCheck : Bool
  aesGcmSpc : Bool
  hashAlgorithm : GcmHash
  digestIsAppended : Bool
  digestVerify : Bool
  hashResultSize : Nat
  cmnRequestFlags : ComnFlags
  symOperation : SymOperation
  isCipher : Bool
  isAuth : Bool
  isAuthEncryptOp : Bool
  singlePassState : SinglePassState
  laCmdId : LaCmdId
  laCmdFlags : ServSpecifFlags
  extendedProtocol : Bool
  aadLenInBytes : Nat
  reqCacheHdr : ReqHeader
  reqCacheFtr : ReqFooter
  reqSpcCacheHdr : ReqHeader
  reqSpcCacheFtr : ReqFooter

/-- All flags clear. -/
def ServSpecifFlags.zero : ServSpecifFlags :=
  { packet := 0
    ivIn16ByteData := false
    cfgOffsetInShram := false
    updateState := false
    retAuthRes := false
    cmpAuthRes := false
    proto := 0
    digestInBuffer := false
    gcmIvLen12 := false
    singlePass := false
    ucsSlice := false }

/-- `SalQatMsg_CmnHdrWrite`; the content descriptor parameters stay. -/
def ReqHeader.cmnHdrWrite (hdr : ReqHeader) (serviceCmdId : LaCmdId) (cmnFlags : ComnFlags)
    (serviceCmdFlags : ServSpecifFlags) (ext : Bool) : ReqHeader :=
  { hdr with
    serviceCmdId := serviceCmdId
    comnReqFlags := cmnFlags
    servSpecifFlags := serviceCmdFlags
    extendedProtocol := ext }

/-- `SalQatMsg_ContentDescHdrWrite` on a cleared header. -/
def ReqHeader.contentDescHdrWrite (addr size : Nat) : ReqHeader :=
  { serviceCmdId := .cipher
    comnReqFlags := { cdFldType16ByteData := false, ptrTypeSgl := false }
    servSpecifFlags := ServSpecifFlags.zero
    extendedProtocol := false
    contentDescAddr := addr
    contentDescParamsSz := size }

/-- `LacSymAlgChain_GetSpcState` for the AES-GCM cipher. -/
def getSpcState (chachaPoly : Bool) : SinglePassState := if chachaPoly then .probable else .no

/-- The command that `buildCmdData` derives from the direction. -/
def chainCmdId : CipherDirection → LaCmdId
  | .encrypt => .cipherHash
  | .decrypt => .hashCipher

/-- The flags of the chained command after `updateLaCmdFlags`. For GCM the digest is verified
    exactly on decryption, whatever the user asked for. -/
def chainCmdFlags (c : GcmSetup) : ServSpecifFlags :=
  { ServSpecifFlags.zero with
    retAuthRes := c.cipherDirection = .encrypt
    cmpAuthRes := c.cipherDirection = .decrypt
    proto := 2
    digestInBuffer := c.digestIsAppended
    ucsSlice := true }

namespace GcmSession

/-- `LacAlgChain_SessionInit` for algorithm chaining with the AES-GCM cipher. Only the content
    descriptor part of the single-pass header is written here. -/
def init (c : GcmSetup) : GcmSession :=
  let cmnFlags := { cdFldType16ByteData := false, ptrTypeSgl := !c.isDPSession }
  { paramCheck := c.paramCheck
    aesGcmSpc := c.aesGcmSpc
    hashAlgorithm := c.hashAlgorithm
    digestIsAppended := c.digestIsAppended
    digestVerify := c.cipherDirection = .decrypt
    hashResultSize := c.digestResultLenInBytes
    cmnRequestFlags := cmnFlags
    symOperation := .algorithmChaining
    isCipher := true
    isAuth := true
    isAuthEncryptOp := true
    singlePassState := getSpcState c.chachaPoly
    laCmdId := chainCmdId c.cipherDirection
    laCmdFlags := chainCmdFlags c
    extendedProtocol := false
    aadLenInBytes := c.aadLenInBytes
    reqCacheHdr :=
      (ReqHeader.contentDescHdrWrite c.contentDescAddr c.contentDescParamsSz).cmnHdrWrite
        (chainCmdId c.cipherDirection) cmnFlags (chainCmdFlags c) false
    reqCacheFtr := c.ftr
    reqSpcCacheHdr := ReqHeader.contentDescHdrWrite c.contentDescAddr c.spcContentDescParamsSz
    reqSpcCacheFtr := c.spcFtr }

/-! ## Conversion to single pass -/

/-- An operation with an IV of this length converts the session. -/
def converts (s : GcmSession) (ivLenInBytes : Nat) : Bool :=
  s.singlePassState ≠ .no && ivLenInBytes = 12 && s.aesGcmSpc

/-- The first part of the conversion, before the AAD length of a GMAC operation is checked. -/
def startConversion (s : GcmSession) : GcmSession :=
  { s with
    laCmdId := .cipher
    symOperation := .cipher
    singlePassState := .yes
    isCipher := true
    isAuthEncryptOp := false
    isAuth := false }

/-- The second part: the flags and the single-pass header. -/
def finishConversion (s : GcmSession) : GcmSession :=
  let flags := { s.laCmdFlags with singlePass := true, ucsSlice := true }
  { s with
    laCmdFlags := flags
    reqSpcCacheHdr :=
      s.reqSpcCacheHdr.cmnHdrWrite s.laCmdId s.cmnRequestFlags flags s.extendedProtocol }

/-- A GMAC operation brings its own AAD length. -/
def setAadLen (s : GcmSession) (messageLenToHashInBytes : Nat) : GcmSession :=
  match s.hashAlgorithm with
  | .gcm => s
  | .gmac => { s with aadLenInBytes := messageLenToHashInBytes }

end GcmSession

/-! ## Filling in a message -/

/-- A sum of two `Cpa32U`. -/
def add32 (a b : Nat) : Nat := (a + b) % 2 ^ 32

namespace QatMsg

/-- Changes the service specific flags. -/
def mapFlags (msg : QatMsg) (f : ServSpecifFlags → ServSpecifFlags) : QatMsg :=
  { msg with hdr := { msg.hdr with servSpecifFlags := f msg.hdr.servSpecifFlags } }

/-- `LacSymQat_LaPacketCommandFlagSet` for a full packet. -/
def laPacketCommandFlagSet (msg : QatMsg) (ivLenInBytes : Nat) : QatMsg :=
  msg.mapFlags fun flags =>
    { flags with
      packet := 0
      updateState := false
      gcmIvLen12 := if ivLenInBytes = 12 then true else flags.gcmIvLen12 }

/-- `LacSymQat_CipherRequestParamsPopulate`: the IV goes into the message if it fits. -/
def cipherRequestParamsPopulate (msg : QatMsg) (offset len ivPhys : Nat)
    (iv : Option (List UInt8)) : QatMsg :=
  let msg := { msg with cipherOffset := offset, cipherLength := len }
  let flags := msg.hdr.servSpecifFlags
  match iv with
  | some bytes =>
    if msg.ftr.cipherStateSz > 2 ∨ flags.updateState ∨ flags.packet = 2 then
      { msg with ivField := .pointer ivPhys }.mapFlags ({ · with ivIn16ByteData := false })
    else
      let used := bytes.take (8 * msg.ftr.cipherStateSz)
      { msg with ivField := .data (used ++ List.replicate (16 - used.length) 0) }.mapFlags
        ({ · with ivIn16ByteData := true })
  | none => { msg with ivField := .pointer ivPhys }.mapFlags ({ · with ivIn16ByteData := false })

/-- The single-pass parameters, LWs 20 to 26. -/
def spcParams (msg : QatMsg) (aadAddr aadSz authResAddr authResSz : Nat) : QatMsg :=
  { msg with
    authOff := 0
    authLen := aadSz
    aadAddr := aadAddr
    authResAddr := authResAddr
    ftr := { msg.ftr with authResSz := authResSz % 256 } }

end QatMsg

namespace GcmSession

variable (s : GcmSession) (op : SymOp)

/-- The message copied from the template in use, with `SalQatMsg_CmnMidWrite`. -/
def template (opaqueData src dst : Nat) (sgl : Bool) (srcLen dstLen : Nat) : QatMsg :=
  let hdr := if s.singlePassState = .yes then s.reqSpcCacheHdr else s.reqCacheHdr
  let ftr := if s.singlePassState = .yes then s.reqSpcCacheFtr else s.reqCacheFtr
  { hdr := { hdr with comnReqFlags := { hdr.comnReqFlags with ptrTypeSgl := sgl } }
    opaqueData := opaqueData
    srcDataAddr := src
    destDataAddr := if dst = 0 then src else dst
    srcLength := if sgl then 0 else srcLen
    dstLength := if sgl then 0 else dstLen
    cipherOffset := 0
    cipherLength := 0
    ivField := .pointer 0
    authOff := 0
    authLen := 0
    aadAddr := 0
    authResAddr := 0
    ftr := ftr }

/-! ## The traditional API -/

/-- The cipher part: `LacCipher_PerformParamCheck`, `LacCipher_PerformIvCheck` and the cipher
    parameters. -/
def cipherPart (msg : QatMsg) : Except CpaStatus QatMsg := do
  if s.paramCheck ∧
      op.srcPktSize < add32 op.messageLenToCipherInBytes op.cryptoStartSrcOffsetInBytes then
    throw .invalidParam
  if s.paramCheck ∧ (op.iv = none ∨ (op.ivLenInBytes ≠ 16 ∧ op.ivLenInBytes ≠ 12)) then
    throw .invalidParam
  if op.iv.isSome ∧ op.ivPhys = 0 then
    throw .fail
  return msg.cipherRequestParamsPopulate op.cryptoStartSrcOffsetInBytes
    op.messageLenToCipherInBytes (if op.iv.isSome then op.ivPhys else 0) op.iv

/-- The single-pass part. The digest of GMAC and GCM is appended to the data, or has an address. -/
def spcPart (msg : QatMsg) : Except CpaStatus QatMsg := do
  let needsAad := s.aadLenInBytes ≠ 0 ∧ s.hashAlgorithm ≠ .gmac
  if needsAad ∧ s.paramCheck ∧ op.additionalAuthData = none then
    throw .invalidParam
  let aadPhys := if needsAad then op.additionalAuthData.getD 0 else 0
  if needsAad ∧ aadPhys = 0 then
    throw .fail
  if s.digestIsAppended then
    if s.paramCheck ∧ op.dstPktSize <
        add32 (add32 op.cryptoStartSrcOffsetInBytes op.messageLenToCipherInBytes)
          s.hashResultSize then
      throw .invalidParam
    return msg.spcParams aadPhys s.aadLenInBytes 0 s.hashResultSize
  if op.digestResult.getD 0 = 0 then
    throw .fail
  return msg.spcParams aadPhys s.aadLenInBytes (op.digestResult.getD 0) s.hashResultSize

/-- `LacHash_PerformParamCheck` for a full packet that is not hash-only. -/
def hashParamCheck : Bool :=
  (s.digestIsAppended || op.digestResult.isSome) &&
  (!s.digestVerify || op.verifyResultOk) &&
  match s.hashAlgorithm with
  | .gcm => s.aadLenInBytes = 0 || op.additionalAuthData.isSome
  | .gmac => add32 op.hashStartSrcOffsetInBytes op.messageLenToHashInBytes ≤ op.srcPktSize

/-- The hash part with `LacSymQat_HashRequestParamsPopulate`. A session whose command still has a
    hash part is `isAuthEncryptOp`. -/
def hashPart (msg : QatMsg) : Except CpaStatus QatMsg := do
  if s.paramCheck ∧ ¬ s.hashParamCheck op then
    throw .invalidParam
  let prefixQuadWords := bytesToQuadwords msg.ftr.aadSz
  let authOff := op.cryptoStartSrcOffsetInBytes
  let authLen := match s.hashAlgorithm with
    | .gcm => op.messageLenToCipherInBytes
    | .gmac => op.messageLenToHashInBytes
  if s.digestIsAppended ∧ s.paramCheck ∧
      op.srcPktSize < add32 (add32 authOff authLen) s.hashResultSize then
    throw .invalidParam
  let authResult := if s.digestIsAppended then none else op.digestResult
  if authResult = some 0 then
    throw .fail
  let gmac := s.hashAlgorithm = .gmac
  return { msg with
    authOff := authOff
    authLen := authLen
    aadAddr := if gmac ∨ prefixQuadWords = 0 then 0 else op.additionalAuthData.getD 0
    authResAddr := authResult.getD 0
    ftr := { msg.ftr with
      hashStateSz := if gmac then 0 else prefixQuadWords
      authResSz := if s.digestVerify then s.hashResultSize % 256 else 0 } }

/-- `LacAlgChain_Perform` from the preparation of the AAD on: the message, or why there is none. -/
def performMsg : Except CpaStatus QatMsg := do
  if s.paramCheck ∧ s.isAuthEncryptOp ∧ s.hashAlgorithm = .gcm ∧ s.aadLenInBytes ≠ 0 ∧
      op.additionalAuthData = none then
    throw .invalidParam
  let some cookie := op.cookie | throw .resource
  let src ← op.src
  let dst ← if op.inPlace then pure 0 else op.dst
  let msg := (s.template cookie src dst true 0 0).laPacketCommandFlagSet op.ivLenInBytes
  let msg := msg.mapFlags fun flags =>
    { flags with
      gcmIvLen12 := if s.singlePassState = .yes then false else flags.gcmIvLen12
      ucsSlice := true }
  let msg ← if s.laCmdId = .auth then pure msg else s.cipherPart op msg
  let msg ← if s.laCmdId ≠ .auth ∧ s.singlePassState = .yes then s.spcPart op msg else pure msg
  if s.laCmdId = .cipher then pure msg else s.hashPart op msg

/-- `LacAlgChain_Perform` of a full packet. A GMAC operation with too long an AAD is refused in the
    middle of the conversion. -/
def perform : Except CpaStatus QatMsg × GcmSession :=
  let s := s.setAadLen op.messageLenToHashInBytes
  if s.hashAlgorithm = .gmac ∧ s.paramCheck ∧
      (op.messageLenToHashInBytes = 0 ∨ op.additionalAuthData.isSome) then
    (throw .invalidParam, s)
  else if s.converts op.ivLenInBytes then
    if s.hashAlgorithm = .gmac ∧ s.paramCheck ∧ 0x3FFF < s.aadLenInBytes then
      (throw .invalidParam, s.startConversion)
    else
      let s := s.startConversion.finishConversion
      (s.performMsg op, s)
  else
    (s.performMsg op, s)

/-! ## The data plane API -/

/-- `LacDp_WriteRingMsgFull` from the choice of the template on. -/
def ringMsg (op : SymDpOp) : QatMsg :=
  let chained : Bool := s.singlePassState = .no
  let hashStart := if chained ∧ s.hashAlgorithm = .gcm then op.cryptoStartSrcOffsetInBytes
    else op.hashStartSrcOffsetInBytes
  let hashLen := if chained ∧ s.hashAlgorithm = .gcm then op.messageLenToCipherInBytes
    else op.messageLenToHashInBytes
  let msg := s.template op.addr op.srcBuffer op.dstBuffer op.bufferList op.srcBufferLen
    op.dstBufferLen
  let msg := if chained ∧ op.ivLenInBytes = 12 then msg.mapFlags ({ · with gcmIvLen12 := true })
    else msg
  let msg :=
    if s.isCipher then
      let msg := (msg.mapFlags ({ · with ucsSlice := true })).cipherRequestParamsPopulate
        op.cryptoStartSrcOffsetInBytes op.messageLenToCipherInBytes op.iv op.pIv
      if s.singlePassState = .yes then
        msg.spcParams op.additionalAuthData s.aadLenInBytes op.digestResult s.hashResultSize
      else msg
    else msg
  if s.isAuth then
    { msg with
      authOff := hashStart
      authLen := hashLen
      aadAddr := op.additionalAuthData
      authResAddr := op.digestResult
      ftr := { msg.ftr with
        hashStateSz :=
          if s.isAuthEncryptOp then bytesToQuadwords msg.ftr.aadSz else msg.ftr.hashStateSz } }
  else msg

/-- `LacDp_WriteRingMsgFull`; the conversion here also clears the extended protocol flag. -/
def writeRingMsgFull (op : SymDpOp) : QatMsg × GcmSession :=
  let s :=
    if s.converts op.ivLenInBytes then
      { s.startConversion.setAadLen op.messageLenToHashInBytes with
        extendedProtocol := false }.finishConversion
    else
      s.setAadLen op.messageLenToHashInBytes
  (s.ringMsg op, s)

end GcmSession

/-! ## Operations in sequence -/

/-- A full-packet operation of either API. -/
inductive GcmOp where
  | perform (op : SymOp)
  | enqueue (op : SymDpOp)

/-- The length of the IV of an operation. -/
def GcmOp.ivLenInBytes : GcmOp → Nat
  | .perform op => op.ivLenInBytes
  | .enqueue op => op.ivLenInBytes

namespace GcmSession

/-- One operation: its message, and the session after it. -/
def submit (s : GcmSession) : GcmOp → Except CpaStatus QatMsg × GcmSession
  | .perform op => s.perform op
  | .enqueue op => (.ok (s.writeRingMsgFull op).1, (s.writeRingMsgFull op).2)

/-- The session after a sequence of operations. -/
def after (s : GcmSession) (ops : List GcmOp) : GcmSession :=
  ops.foldl (fun s op => (s.submit op).2) s

/-- The message built for an operation. -/
def message (s : GcmSession) (op : GcmOp) : Except CpaStatus QatMsg := (s.submit op).1

end GcmSession

end Qatlib.Crypto
