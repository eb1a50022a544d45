import Qatlib.Crypto.AlgChain.Session
import Qatlib.Crypto.CcmData

set_option autoImplicit false

/-! # The ways out of `LacAlgChain_Perform`

A symmetric operation holds a reader's lock on its session while it looks at it, takes a cookie for the
request from a pool, and counts the request as pending once it is built. The lock, the cookie and the
count have to be given back on every way out that is not a success.

All checks and conversions on which the way depends are modelled, as they are compiled with
`ICP_PARAM_CHECK`; the request itself is left out. A pointer is an address, 0 is NULL, and the
physical address 0 means that there is none. What the loop around `Lac_MemPoolEntryAlloc` ends with
is given. -/

namespace Qatlib.Crypto.AlgChain

/-! ## Data -/

/-- `CpaBufferList`. -/
structure BufferList where
  pPrivateMetaData : Nat
  /-- `pData` and `dataLenInBytes` of the buffers. -/
  buffers : List (Nat × UInt32)

/-- The other arguments of a call, and what the functions outside of it answer. -/
structure Env where
  svc : Service
  src : BufferList
  dst : BufferList
  /-- The source and the destination are the same list. -/
  inPlace : Bool
  /-- `pVerifyResult` is not NULL. -/
  verifyResult : Bool
  /-- `LAC_OS_VIRT_TO_PHYS_EXTERNAL`. -/
  phys : Nat → Nat
  mem : Memory
  /-- The cookie, or NULL from a pool that is not active. -/
  cookie : Option Nat
  /-- `SalQatMsg_transPutMsg`. -/
  ringPut : CpaStatus

/-- How a call ended, with the cookies taken from the pool and those given back. -/
structure Call where
  status : CpaStatus
  session : Session
  taken : List Nat
  freed : List Nat

/-! ## Checks -/

/-- The memory behind a pointer. -/
def Env.pointee (env : Env) (p : Nat) : Option Memory :=
  if p = 0 then none else some fun i => env.mem (p + i)

section

variable (env : Env) (s : Session) (op : OpData)

/-- The checks of the data for CCM and GCM. -/
def prepareStatus : CpaStatus :=
  if s.isAuthEncryptOp ∨ s.isSpCcm env.svc then
    if s.hashAlgorithm = .aesCcm then
      if checkCCMData (env.pointee op.pAdditionalAuthData) (env.pointee op.pIv)
          op.messageLenToCipherInBytes op.ivLenInBytes then .success
      else .invalidParam
    else if s.hashAlgorithm = .aesGcm then
      if s.aadLenInBytes ≠ 0 ∧ op.pAdditionalAuthData = 0 then .invalidParam else .success
    else .success
  else .success

/-- `LacBuffDesc_CommonBufferListDescWrite`; the status does not depend on what is written. -/
def BufferList.descWrite (b : BufferList) (phys : Nat → Nat) (allowZeroBuffer : Bool) : CpaStatus :=
  if phys b.pPrivateMetaData = 0 then .fail
  else if !allowZeroBuffer ∧ b.buffers.any fun f => phys f.1 = 0 then .fail
  else .success

/-- `LacBuffDesc_BufferListTotalSizeGet`. -/
def BufferList.totalSize (b : BufferList) : Nat := b.buffers.foldl (fun n f => n + f.2.toNat) 0

/-- `IS_ZERO_LENGTH_BUFFER_SUPPORTED`. -/
def Session.isZeroLengthBufferSupported : Bool :=
  s.cipherAlgorithm = .aesGcm ∧ (s.hashAlgorithm = .aesGmac ∨ s.hashAlgorithm = .aesGcm)

/-- The buffer descriptors of a call. -/
def descStatus : CpaStatus :=
  let allowZeroBuffer := s.isZeroLengthBufferSupported
  match env.src.descWrite env.phys allowZeroBuffer with
  | .success => if env.inPlace then .success else env.dst.descWrite env.phys allowZeroBuffer
  | status => status

/-- `ICP_QAT_FW_LA_PARTIAL_NONE` to `ICP_QAT_FW_LA_PARTIAL_END`. -/
inductive QatPacketType where
  | full
  | start
  | mid
  | last
deriving DecidableEq

/-- `LacSymQat_packetTypeGet`. -/
def packetTypeGet (packetType packetState : PacketType) : QatPacketType :=
  match packetType with
  | .partialPacket => if packetState = .full then .start else .mid
  | .lastPartial => .last
  | .full => .full

/-- `LacSymQat_CipherBlockSizeBytesGet`. -/
def cipherBlockSizeBytesGet : CipherAlg → UInt32
  | .none => 0
  | .null => 8
  | .snow3gUea2 => 8
  | .zucEea3 => 8
  | .chacha => 64
  | _ => 16

/-- `LacCipher_PerformParamCheck`. The sum of the lengths is one of 32 bits. -/
def cipherPerformParamCheck (algorithm : CipherAlg) (op : OpData) (packetLen : Nat) : Bool :=
  if (op.messageLenToCipherInBytes + op.cryptoStartSrcOffsetInBytes).toNat > packetLen then false
  else
    match algorithm with
    | .aesCtr | .aesCcm | .aesGcm | .chacha | .aesF8 | .snow3gUea2 | .zucEea3 | .sm4Ctr => true
    | .aesXts =>
        !((op.packetType = .full ∨ op.packetType = .lastPartial) ∧ op.messageLenToCipherInBytes < 16)
    | .none | .null | .aesEcb | .aesCbc | .sm4Ecb | .sm4Cbc =>
        op.messageLenToCipherInBytes &&& (cipherBlockSizeBytesGet algorithm - 1) = 0

section

variable (qatPacketType : QatPacketType)

/-- `LacCipher_PerformIvCheck`: the address of the IV buffer, or `none` for
    `CPA_STATUS_INVALID_PARAM`. -/
def cipherPerformIvCheck : Option Nat :=
  match s.cipherAlgorithm with
  | .aesCtr | .aesCcm | .aesGcm | .chacha | .aesCbc | .aesF8 | .aesXts | .sm4Cbc | .sm4Ctr =>
      if op.pIv = 0 then none
      else if op.ivLenInBytes.toNat ≠ cipherIvSizeBytesGet s.cipherAlgorithm ∧
          ¬ ((s.cipherAlgorithm = .aesGcm ∧ op.ivLenInBytes = 12) ∨ s.cipherAlgorithm = .aesCcm) then
        none
      else some (if qatPacketType = .full then op.pIv else s.cipherPartialOpState)
  | .snow3gUea2 => if op.pIv = 0 ∨ op.ivLenInBytes ≠ 16 then none else some op.pIv
  | .zucEea3 =>
      if op.pIv = 0 ∨ (op.ivLenInBytes ≠ 16 ∧ op.ivLenInBytes ≠ 24) then none else some op.pIv
  | .none | .null | .aesEcb | .sm4Ecb => some 0

/-- `LacHash_PerformParamCheck`. -/
def hashPerformParamCheck : Bool :=
  if s.digestIsAppended ∧ s.digestVerify ∧ s.symOperation = .hash then false
  else if op.packetType ≠ .partialPacket ∧ !s.digestIsAppended ∧ op.pDigestResult = 0 then false
  else if s.digestVerify ∧ op.packetType ≠ .partialPacket ∧ s.isSync ∧ !env.verifyResult then false
  else if (if s.hashAlgorithm = .aesCcm ∨ s.hashAlgorithm = .aesGcm then
      decide (s.aadLenInBytes > 0 ∧ op.pAdditionalAuthData = 0)
    else
      decide ((op.hashStartSrcOffsetInBytes + op.messageLenToHashInBytes).toNat >
        env.src.totalSize)) then false
  else if (s.hashAlgorithm = .snow3gUia2 ∨ s.hashAlgorithm = .zucEia3) ∧
      op.pAdditionalAuthData = 0 then false
  else if op.packetType = .partialPacket ∧ s.symOperation = .hash then
    op.messageLenToHashInBytes.toNat %
      (hashDefsLookupGet s.hashAlgorithm s.authKeyLenInBytes s.hashResultSize.toNat).blockLength = 0
  else true

/-! ## Request parameters -/

/-- How a part of the function ends: it goes on with a status, or the function returns
    `CPA_STATUS_INVALID_PARAM`, after the cookie is freed and the session unlocked, or at once. -/
inductive Exit where
  | goOn (status : CpaStatus)
  | cleaned
  | bare
deriving DecidableEq

/-- The digest of a single pass request. -/
def spcDigest : CpaStatus :=
  if !s.digestIsAppended then if env.phys op.pDigestResult = 0 then .fail else .success
  else if (qatPacketType = .full ∨ qatPacketType = .last) ∧
      env.dst.totalSize < (op.cryptoStartSrcOffsetInBytes + op.messageLenToCipherInBytes +
        s.hashResultSize).toNat then .invalidParam
  else .success

/-- The AAD and the digest of a single pass request. -/
def spcParams : Exit :=
  if (s.aadLenInBytes ≠ 0 ∧ s.hashAlgorithm ≠ .aesGmac) ∨ s.isSpCcm env.svc then
    -- `LAC_CHECK_NULL_PARAM` returns from the function
    if op.pAdditionalAuthData = 0 then .bare
    else if env.phys op.pAdditionalAuthData = 0 then .goOn .fail
    else .goOn (spcDigest env s op qatPacketType)
  else .goOn (spcDigest env s op qatPacketType)

/-- The cipher parameters of a request. -/
def cipherParams : Exit :=
  if cipherPerformParamCheck s.cipherAlgorithm op env.src.totalSize = false then .cleaned
  else
    match cipherPerformIvCheck s op qatPacketType with
    | none => .goOn .invalidParam
    | some ivBuffer =>
        if ivBuffer ≠ 0 ∧ env.phys ivBuffer = 0 then .goOn .fail
        else if s.singlePassState = .yes then spcParams env s op qatPacketType
        else .goOn .success

end

/-- `LacSymAlgChain_PtrFromOffsetGet`, on the buffers from `currentOffset` on. -/
def ptrFromOffsetGet (packetOffset : UInt32) : List (Nat × UInt32) → UInt32 → Option Nat
  | [], _ => none
  | (pData, size) :: rest, currentOffset =>
      if packetOffset ≥ currentOffset ∧ packetOffset < currentOffset + size then
        some (pData + (packetOffset - currentOffset).toNat)
      else ptrFromOffsetGet packetOffset rest (currentOffset + size)

/-- The hash parameters of a request, after their check. -/
def hashPopulate : CpaStatus :=
  let aad : CpaStatus :=
    if s.isAuthEncryptOp then
      if (op.pAdditionalAuthData = 0 ∨ env.phys op.pAdditionalAuthData = 0) ∧
          s.hashAlgorithm ≠ .aesGcm ∧ s.hashAlgorithm ≠ .aesGmac then .fail
      else .success
    else if s.hashAlgorithm = .snow3gUia2 ∨ s.hashAlgorithm = .zucEia3 then
      if env.phys op.pAdditionalAuthData = 0 then .fail else .success
    else .success
  -- for CCM the status of the AAD is overwritten
  let digest : CpaStatus × Nat :=
    if s.hashAlgorithm = .aesCcm then
      let buffers := if s.cipherDirection = .decrypt then env.src.buffers else env.dst.buffers
      match ptrFromOffsetGet (op.cryptoStartSrcOffsetInBytes + op.messageLenToCipherInBytes)
          buffers 0 with
      | some p => (.success, p)
      | none => (.fail, 0)
    else (aad, op.pDigestResult)
  let authOffset :=
    if s.isAuthEncryptOp then op.cryptoStartSrcOffsetInBytes else op.hashStartSrcOffsetInBytes
  let authLen :=
    if s.isAuthEncryptOp ∧ s.hashAlgorithm ≠ .aesGmac then op.messageLenToCipherInBytes
    else op.messageLenToHashInBytes
  if s.digestIsAppended ∧ env.src.totalSize < (authOffset + authLen + s.hashResultSize).toNat then
    .invalidParam
  else if digest.1 ≠ .success then digest.1
  else if !s.digestIsAppended ∧ digest.2 ≠ 0 ∧ env.phys digest.2 = 0 then .fail
  else .success

/-- The hash parameters of a request. -/
def hashParams : Exit :=
  if hashPerformParamCheck env s op = false then .cleaned
  else .goOn (hashPopulate env s op)

/-- All parameters of a request. -/
def requestParams : Exit :=
  let qatPacketType := packetTypeGet op.packetType s.partialState
  let cipher := if s.laCmdId ≠ .auth then cipherParams env s op qatPacketType else .goOn .success
  if cipher = .goOn .success ∧ s.laCmdId ≠ .cipher then hashParams env s op else cipher

/-! ## The function -/

/-- `LacSymQueue_RequestSend`. -/
def requestSend (cookie : Nat) : CpaStatus × Session :=
  if s.nonBlockingOpsInProgress = false ∨ s.requestQueue ≠ [] then
    (.success, { s with requestQueue := s.requestQueue ++ [cookie] })
  else
    let s := if op.packetType ≠ .full then { s with nonBlockingOpsInProgress := false } else s
    if env.ringPut ≠ .success ∧ op.packetType ≠ .full then
      (env.ringPut, { s with nonBlockingOpsInProgress := true })
    else (env.ringPut, s)

/-- The end of the function, for a cookie from the pool. -/
def finish (status : CpaStatus) (cookie : Nat) : Call :=
  if status = .success then
    let s := { s with pendingCbCount := s.pendingCbCount + 1 }.unlockReader
    match requestSend env s op cookie with
    | (.success, s) => ⟨.success, s, [cookie], []⟩
    | (status, s) => ⟨status, { s with pendingCbCount := s.pendingCbCount - 1 }, [cookie], [cookie]⟩
  else ⟨status, s.unlockReader, [cookie], [cookie]⟩

/-- The function from the checks of the CCM and GCM data on. -/
def performLocked : Call :=
  match prepareStatus env s op, env.cookie with
  | .success, none => ⟨.resource, s.unlockReader, [], []⟩
  | .success, some cookie =>
      match descStatus env s with
      | .success =>
          match requestParams env s op with
          | .goOn status => finish env s op status cookie
          | .cleaned => ⟨.invalidParam, s.unlockReader, [cookie], [cookie]⟩
          | .bare => ⟨.invalidParam, s, [cookie], []⟩
      | status => finish env s op status cookie
  | status, _ => ⟨status, s.unlockReader, [], []⟩

/-- `LacAlgChain_Perform`, without a cookie of the caller's. -/
def lacAlgChainPerform : Call :=
  match s.lockReader.enter env.svc op with
  | .error s => ⟨.invalidParam, s.unlockReader, [], []⟩
  | .ok s => performLocked env s op

/-- `LacAlgChain_Perform` for a link of a chained request, with a cookie of the caller's: the request
    is neither counted nor sent. Only the two parameter checks free the cookie. -/
def lacAlgChainPerformLink (cookie : Nat) : Call :=
  match s.lockReader.enter env.svc op with
  | .error s => ⟨.invalidParam, s.unlockReader, [], []⟩
  | .ok s =>
      match prepareStatus env s op, descStatus env s with
      | .success, .success =>
          match requestParams env s op with
          | .goOn status => ⟨status, s.unlockReader, [], []⟩
          | .cleaned => ⟨.invalidParam, s.unlockReader, [], [cookie]⟩
          | .bare => ⟨.invalidParam, s, [], []⟩
      | .success, status => ⟨status, s.unlockReader, [], []⟩
      | status, _ => ⟨status, s.unlockReader, [], []⟩

/-- `LacBuffDesc_BufferListVerify`, or `LacBuffDesc_BufferListVerifyNull`, which lets empty buffers
    pass. -/
def BufferList.verify (b : BufferList) (allowEmpty : Bool) : Bool :=
  b.pPrivateMetaData ≠ 0 ∧ b.buffers ≠ [] ∧
    b.buffers.all fun f => if f.2 = 0 then allowEmpty else f.1 ≠ 0

/-- `IS_PARTIAL_ON_SYM_OP_SUPPORTED`. -/
def Session.isPartialSupported : Bool :=
  match s.symOperation with
  | .cipher =>
      s.cipherAlgorithm ≠ .aesF8 ∧ s.cipherAlgorithm ≠ .snow3gUea2 ∧ s.cipherAlgorithm ≠ .zucEea3
  | .hash => s.hashAlgorithm ≠ .snow3gUia2 ∧ s.hashAlgorithm ≠ .zucEia3
  | .algorithmChaining =>
      s.cipherAlgorithm ≠ .aesF8 ∧ s.cipherAlgorithm ≠ .snow3gUea2 ∧ s.cipherAlgorithm ≠ .zucEea3 ∧
        s.cipherAlgorithm ≠ .chacha ∧ s.hashAlgorithm ≠ .snow3gUia2 ∧ s.hashAlgorithm ≠ .sha3_256 ∧
        s.hashAlgorithm ≠ .zucEia3 ∧ s.hashAlgorithm ≠ .poly

/-- `LacSym_PartialPacketStateCheck`. -/
def partialPacketStateCheck (packetType partialState : PacketType) : Bool :=
  (partialState = .full ∧ packetType = .partialPacket) ∨
    (partialState = .partialPacket ∧ (packetType = .partialPacket ∨ packetType = .lastPartial))

/-- `LacSymPerform_BufferParamCheck`. -/
def bufferParamCheck : Bool :=
  let emptyHash := s.symOperation ≠ .cipher ∧ s.hashMode = .plain ∧ op.messageLenToHashInBytes = 0
  let verify (b : BufferList) : Bool :=
    if emptyHash then b.pPrivateMetaData ≠ 0 else b.verify s.isZeroLengthBufferSupported
  verify env.src ∧ (env.inPlace ∨ (verify env.dst ∧
      (s.cipherAlgorithm = .aesCcm ∨ emptyHash ∨ env.src.totalSize = env.dst.totalSize))) ∧
    (op.packetType = .full ∨
      (s.isPartialSupported ∧ partialPacketStateCheck op.packetType s.partialState))

/-- `LacSym_Perform`, called without waiting for the response. -/
def lacSymPerform : Call :=
  if s.cipherAlgorithm = .chacha ∧ s.hashAlgorithm = .poly ∧ s.symOperation = .algorithmChaining ∧
      op.messageLenToCipherInBytes = 0 then ⟨.invalidParam, s, [], []⟩
  else if bufferParamCheck env s op = false then ⟨.invalidParam, s, [], []⟩
  else if !s.digestIsAppended ∧ s.symOperation = .algorithmChaining ∧ op.pDigestResult = 0 then
    ⟨.invalidParam, s, [], []⟩
  else
    let c := lacAlgChainPerform env s op
    if c.status = .success ∧ op.packetType ≠ .full then
      -- `LacSym_PartialPacketStateUpdate`
      let partialState : PacketType :=
        if c.session.partialState = .full then .partialPacket
        else if op.packetType = .lastPartial then .full
        else c.session.partialState
      { c with session := { c.session with partialState := partialState } }
    else c

end

/-! ## Balance -/

/-- The reader's lock is given back, the request is pending exactly if the call succeeds, and a call
    that fails has given back the cookies it took. -/
structure Balanced (s : Session) (c : Call) : Prop where
  readers : c.session.accessReaders = s.accessReaders
  pending : c.session.pendingCbCount = s.pendingCbCount + if c.status = .success then 1 else 0
  cookies : c.status ≠ .success → c.freed = c.taken

/-- The counts of a session that holds the reader's lock of `s`. -/
structure Locked (s t : Session) : Prop where
  isDPSession : t.isDPSession = s.isDPSession
  readers : t.accessReaders = s.lockReader.accessReaders
  pending : t.pendingCbCount = s.pendingCbCount

section Balance

variable {env : Env} {s t : Session} {op : OpData}

theorem unlockReader_pendingCbCount (t : Session) :
    t.unlockReader.pendingCbCount = t.pendingCbCount := by
  unfold Session.unlockReader
  split <;> rfl

theorem unlockReader_accessReaders (hdp : t.isDPSession = s.isDPSession)
    (hreaders : t.accessReaders = s.lockReader.accessReaders) :
    t.unlockReader.accessReaders = s.accessReaders := by
  unfold Session.unlockReader
  unfold Session.lockReader at hreaders
  rw [hdp]
  cases hs : s.isDPSession with
  | true =>
    rw [hs] at hreaders
    exact hreaders
  | false =>
    rw [hs] at hreaders
    show t.accessReaders - 1 = s.accessReaders
    rw [hreaders]
    exact UInt32.add_sub_cancel _ _

theorem locked_lockReader (s : Session) : Locked s s.lockReader := by
  refine ⟨?_, rfl, ?_⟩ <;> unfold Session.lockReader <;> split <;> rfl

theorem enter_cases (s : Session) (svc : Service) (op : OpData) :
    (s.enter svc op = .error (s.setAadLen op)) ∨ (s.enter svc op = .error (s.setAadLen op).convert) ∨
      (s.converts svc op = true ∧ s.enter svc op = .ok (s.setAadLen op).convert) ∨
      (s.converts svc op = false ∧ s.enter svc op = .ok (s.setAadLen op)) := by
  unfold Session.enter
  split
  · exact .inl rfl
  · cases hconv : s.converts svc op with
    | true =>
      simp only [if_true]
      split
      · exact .inr (.inl rfl)
      · exact .inr (.inr (.inl ⟨trivial, rfl⟩))
    | false =>
      simp only [Bool.false_eq_true, if_false]
      split
      · exact .inl rfl
      · exact .inr (.inr (.inr ⟨trivial, rfl⟩))

theorem Locked.setAadLen (h : Locked s t) (op : OpData) : Locked s (t.setAadLen op) := by
  unfold Session.setAadLen
  split
  · exact ⟨h.isDPSession, h.readers, h.pending⟩
  · exact h

theorem Locked.convert (h : Locked s t) : Locked s t.convert :=
  ⟨h.isDPSession, h.readers, h.pending⟩

/-- A return that unlocks the session and has given back what it took. -/
theorem balanced_of_unlocked (h : Locked s t) {status : CpaStatus} (hstatus : status ≠ .success)
    (cookies : List Nat) : Balanced s ⟨status, t.unlockReader, cookies, cookies⟩ where
  readers := unlockReader_accessReaders h.isDPSession h.readers
  pending := by
    show t.unlockReader.pendingCbCount = _
    rw [unlockReader_pendingCbCount, h.pending, if_neg hstatus, Int.add_zero]
  cookies _ := rfl

theorem requestSend_counts (env : Env) (t : Session) (op : OpData) (cookie : Nat) :
    (requestSend env t op cookie).2.accessReaders = t.accessReaders ∧
      (requestSend env t op cookie).2.pendingCbCount = t.pendingCbCount := by
  unfold requestSend
  split
  · exact ⟨rfl, rfl⟩
  · dsimp only
    split <;> split <;> exact ⟨rfl, rfl⟩

theorem balanced_finish (h : Locked s t) (status : CpaStatus) (cookie : Nat) :
    Balanced s (finish env t op status cookie) := by
  unfold finish
  by_cases hstatus : status = .success
  · rw [if_pos hstatus]
    dsimp only
    generalize hu : { t with pendingCbCount := t.pendingCbCount + 1 }.unlockReader = u
    have hpending : u.pendingCbCount = s.pendingCbCount + 1 := by
      rw [← hu, unlockReader_pendingCbCount, h.pending]
    have hreaders : u.accessReaders = s.accessReaders := by
      rw [← hu]
      exact unlockReader_accessReaders h.isDPSession h.readers
    obtain ⟨hsendReaders, hsendPending⟩ := requestSend_counts env u op cookie
    generalize requestSend env u op cookie = r at hsendReaders hsendPending
    obtain ⟨sent, v⟩ := r
    replace hsendReaders : v.accessReaders = s.accessReaders := hsendReaders.trans hreaders
    replace hsendPending : v.pendingCbCount = s.pendingCbCount + 1 := hsendPending.trans hpending
    cases sent with
    | success => exact ⟨hsendReaders, hsendPending, fun hne => absurd rfl hne⟩
    | _ =>
      refine ⟨hsendReaders, ?_, fun _ => rfl⟩
      show v.pendingCbCount - 1 = s.pendingCbCount + 0
      omega
  · rw [if_neg hstatus]
    exact balanced_of_unlocked h hstatus [cookie]

/-- The check for NULL that returns at once is reached with a NULL. -/
structure ReachesBare (env : Env) (t : Session) (op : OpData) : Prop where
  prepare : prepareStatus env t op = .success
  cookie : env.cookie ≠ none
  desc : descStatus env t = .success
  params : requestParams env t op = .bare

/-- From the lock on, a call balances unless it returns at once. -/
theorem balanced_performLocked_iff (h : Locked s t) :
    Balanced s (performLocked env t op) ↔ ¬ ReachesBare env t op := by
  unfold performLocked
  cases hprepare : prepareStatus env t op with
  | success =>
    cases hcookie : env.cookie with
    | none => exact iff_of_true (balanced_of_unlocked h (by decide) []) fun hb => hb.cookie hcookie
    | some cookie =>
      cases hdesc : descStatus env t with
      | success =>
        cases hparams : requestParams env t op with
        | goOn status =>
          refine iff_of_true (balanced_finish h status cookie) fun hb => ?_
          cases hparams.symm.trans hb.params
        | cleaned =>
          refine iff_of_true (balanced_of_unlocked h (by decide) [cookie]) fun hb => ?_
          cases hparams.symm.trans hb.params
        | bare =>
          refine iff_of_false (fun hb => ?_) fun hb => hb ⟨hprepare, ?_, hdesc, hparams⟩
          · have hfreed : [] = [cookie] := hb.cookies fun hs => (by cases hs)
            cases hfreed
          · exact fun hnone => (by cases hcookie.symm.trans hnone)
      | _ =>
        refine iff_of_true (balanced_finish h _ cookie) fun hb => ?_
        cases hdesc.symm.trans hb.desc
  | _ =>
    refine iff_of_true (balanced_of_unlocked h (by decide) []) fun hb => ?_
    cases hprepare.symm.trans hb.prepare

/-! ## The check for NULL -/

/-- What brings an operation to the check for NULL in the middle of the function with a NULL: a single
    pass AEAD, other than CCM, of a session with AAD whose other data are good. -/
structure NullAad (env : Env) (s : Session) (op : OpData) : Prop where
  null : op.pAdditionalAuthData = 0
  aadLen : s.aadLenInBytes ≠ 0
  notGmac : s.hashAlgorithm ≠ .aesGmac
  notCcm : s.isSpCcm env.svc = false
  singlePass : s.converts env.svc op = true ∨ (s.singlePassState = .yes ∧ s.laCmdId ≠ .auth ∧
      ¬ (s.cipherAlgorithm = .chacha ∧ op.ivLenInBytes ≠ 12) ∧
      ¬ (s.isAuthEncryptOp = true ∧ (s.hashAlgorithm = .aesCcm ∨ s.hashAlgorithm = .aesGcm)))
  cookie : env.cookie ≠ none
  desc : descStatus env s = .success
  cipherCheck : cipherPerformParamCheck s.cipherAlgorithm op env.src.totalSize = true
  iv : ∃ ivBuffer,
    cipherPerformIvCheck s op (packetTypeGet op.packetType s.partialState) = some ivBuffer ∧
      (ivBuffer = 0 ∨ env.phys ivBuffer ≠ 0)

theorem spcParams_bare_iff (qatPacketType : QatPacketType) :
    spcParams env t op qatPacketType = .bare ↔
      ((t.aadLenInBytes ≠ 0 ∧ t.hashAlgorithm ≠ .aesGmac) ∨ t.isSpCcm env.svc = true) ∧
        op.pAdditionalAuthData = 0 := by
  unfold spcParams
  split
  · next haad =>
    split
    · next hnull => exact iff_of_true rfl ⟨haad, hnull⟩
    · next hnull =>
      refine iff_of_false (fun h => ?_) fun h => hnull h.2
      split at h <;> cases h
  · next haad => exact iff_of_false (fun h => (by cases h)) fun h => haad h.1

theorem cipherParams_bare_iff (qatPacketType : QatPacketType) :
    cipherParams env t op qatPacketType = .bare ↔
      cipherPerformParamCheck t.cipherAlgorithm op env.src.totalSize = true ∧
        (∃ ivBuffer, cipherPerformIvCheck t op qatPacketType = some ivBuffer ∧
          (ivBuffer = 0 ∨ env.phys ivBuffer ≠ 0)) ∧
        t.singlePassState = .yes ∧ spcParams env t op qatPacketType = .bare := by
  unfold cipherParams
  cases hcheck : cipherPerformParamCheck t.cipherAlgorithm op env.src.totalSize with
  | false => exact iff_of_false (fun h => (by cases h)) fun h => (by cases h.1)
  | true =>
    cases hiv : cipherPerformIvCheck t op qatPacketType with
    | none =>
      refine iff_of_false (fun h => (by cases h)) ?_
      rintro ⟨-, ⟨ivBuffer, hsome, -⟩, -⟩
      cases hsome
    | some ivBuffer =>
      simp only [Bool.true_eq_false, if_false, true_and, Option.some.injEq, exists_eq_left']
      split
      · next hphys =>
        refine iff_of_false (fun h => (by cases h)) fun h => ?_
        exact h.1.elim hphys.1 fun hne => hne hphys.2
      · next hphys =>
        have hok : ivBuffer = 0 ∨ env.phys ivBuffer ≠ 0 := by
          by_contra hbad
          exact hphys ⟨fun hz => hbad (.inl hz), by_contra fun hz => hbad (.inr hz)⟩
        split
        · next hyes => exact ⟨fun h => ⟨hok, hyes, h⟩, fun h => h.2.2⟩
        · next hyes => exact iff_of_false (fun h => (by cases h)) fun h => hyes h.2.1

theorem requestParams_bare_iff :
    requestParams env t op = .bare ↔ t.laCmdId ≠ .auth ∧
        cipherParams env t op (packetTypeGet op.packetType t.partialState) = .bare := by
  unfold requestParams
  dsimp only
  split
  · next hcmd =>
    split
    · next hgo =>
      refine iff_of_false (fun h => ?_) fun h => ?_
      · unfold hashParams at h
        split at h <;> cases h
      · cases h.2.symm.trans hgo.1
    · exact ⟨fun h => ⟨hcmd, h⟩, fun h => h.2⟩
  · next hcmd =>
    refine iff_of_false (fun h => ?_) fun h => hcmd h.1
    split at h
    · unfold hashParams at h
      split at h <;> cases h
    · cases h

/-- CCM data without AAD are refused. -/
theorem prepareStatus_ccm (hprep : t.isAuthEncryptOp = true ∨ t.isSpCcm env.svc = true)
    (hhash : t.hashAlgorithm = .aesCcm) (hnull : op.pAdditionalAuthData = 0) :
    prepareStatus env t op = .invalidParam := by
  unfold prepareStatus
  have hcheck : checkCCMData (env.pointee op.pAdditionalAuthData) (env.pointee op.pIv)
      op.messageLenToCipherInBytes op.ivLenInBytes = false := by
    rw [Env.pointee, if_pos hnull]
    unfold checkCCMData
    split <;> rfl
  rw [if_pos hprep, if_pos hhash, hcheck]
  rfl

/-- A session that is not converted and not refused reaches the check as it is. -/
theorem reachesBare_iff (hgmac : t.hashAlgorithm ≠ .aesGmac) :
    ReachesBare env t op ↔
      op.pAdditionalAuthData = 0 ∧ t.aadLenInBytes ≠ 0 ∧ t.isSpCcm env.svc = false ∧
        t.singlePassState = .yes ∧ t.laCmdId ≠ .auth ∧
        ¬ (t.isAuthEncryptOp = true ∧ (t.hashAlgorithm = .aesCcm ∨ t.hashAlgorithm = .aesGcm)) ∧
        env.cookie ≠ none ∧ descStatus env t = .success ∧
        cipherPerformParamCheck t.cipherAlgorithm op env.src.totalSize = true ∧
        ∃ ivBuffer,
          cipherPerformIvCheck t op (packetTypeGet op.packetType t.partialState) = some ivBuffer ∧
            (ivBuffer = 0 ∨ env.phys ivBuffer ≠ 0) := by
  constructor
  · rintro ⟨hprepare, hcookie, hdesc, hparams⟩
    rw [requestParams_bare_iff, cipherParams_bare_iff, spcParams_bare_iff] at hparams
    obtain ⟨hcmd, hcheck, hiv, hyes, haad, hnull⟩ := hparams
    have hccm : t.isSpCcm env.svc = false := by
      by_contra hccm
      rw [Bool.not_eq_false] at hccm
      have hhash : t.hashAlgorithm = .aesCcm := t.ccm (of_decide_eq_true hccm).1
      cases hprepare.symm.trans (prepareStatus_ccm (.inr hccm) hhash hnull)
    have hlen : t.aadLenInBytes ≠ 0 := by
      rcases haad with haad | haad
      · exact haad.1
      · cases hccm.symm.trans haad
    refine ⟨hnull, hlen, hccm, hyes, hcmd, ?_, hcookie, hdesc, hcheck, hiv⟩
    rintro ⟨hae, hhash | hhash⟩
    · cases hprepare.symm.trans (prepareStatus_ccm (.inl hae) hhash hnull)
    · unfold prepareStatus at hprepare
      rw [if_pos (.inl hae), if_neg (by rw [hhash]; decide), if_pos hhash,
        if_pos ⟨hlen, hnull⟩] at hprepare
      cases hprepare
  · rintro ⟨hnull, hlen, hccm, hyes, hcmd, hae, hcookie, hdesc, hcheck, hiv⟩
    refine ⟨?_, hcookie, hdesc, ?_⟩
    · unfold prepareStatus
      split
      · next hprep =>
        have haeTrue : t.isAuthEncryptOp = true := by
          rcases hprep with hprep | hprep
          · exact hprep
          · cases hccm.symm.trans hprep
        rw [if_neg fun hhash => hae ⟨haeTrue, .inl hhash⟩,
          if_neg fun hhash => hae ⟨haeTrue, .inr hhash⟩]
      · rfl
    · rw [requestParams_bare_iff, cipherParams_bare_iff, spcParams_bare_iff]
      exact ⟨hcmd, hcheck, hiv, hyes, .inl ⟨hlen, hgmac⟩, hnull⟩

theorem lockReader_eq (s : Session) :
    ∃ readers, s.lockReader = { s with accessReaders := readers } := by
  unfold Session.lockReader
  split
  · exact ⟨s.accessReaders, rfl⟩
  · exact ⟨_, rfl⟩

/-- For GMAC there is no AAD to check. -/
theorem ReachesBare.notGmac (h : ReachesBare env t op) : t.hashAlgorithm ≠ .aesGmac := by
  have hparams := h.params
  rw [requestParams_bare_iff, cipherParams_bare_iff, spcParams_bare_iff] at hparams
  obtain ⟨-, -, -, -, haad | hccm, -⟩ := hparams
  · exact haad.2
  · rw [t.ccm (of_decide_eq_true hccm).1]
    decide

theorem enter_of_not_gmac (hgmac : s.hashAlgorithm ≠ .aesGmac) (svc : Service) :
    s.enter svc op =
      if s.converts svc op = true then .ok s.convert
      else if s.cipherAlgorithm = .chacha ∧ op.ivLenInBytes ≠ 12 then .error s
      else .ok s := by
  have hlen : s.setAadLen op = s := if_neg hgmac
  have hsize : ¬ (s.hashAlgorithm = .aesGmac ∧ op.messageLenToHashInBytes > 0x3FFF) :=
    fun h => hgmac h.1
  unfold Session.enter
  rw [if_neg fun h => hgmac h.1, if_neg hsize, hlen]

/-- The check is reached exactly under the condition on the session and the operation. -/
theorem exists_reachesBare_iff :
    (∃ t, s.enter env.svc op = .ok t ∧ ReachesBare env t op) ↔ NullAad env s op := by
  by_cases hgmac : s.hashAlgorithm = .aesGmac
  · refine iff_of_false ?_ fun h => h.notGmac hgmac
    rintro ⟨t, henter, hbare⟩
    have hhash : t.hashAlgorithm = s.hashAlgorithm := by
      have hset : (s.setAadLen op).hashAlgorithm = s.hashAlgorithm := by
        unfold Session.setAadLen
        split <;> rfl
      rcases enter_cases s env.svc op with h | h | ⟨-, h⟩ | ⟨-, h⟩ <;> rw [h] at henter <;>
        cases henter <;> exact hset
    exact hbare.notGmac (hhash.trans hgmac)
  rw [enter_of_not_gmac hgmac]
  by_cases hconv : s.converts env.svc op = true
  · rw [if_pos hconv]
    simp only [Except.ok.injEq, exists_eq_left']
    have hconverted : s.convert.hashAlgorithm ≠ .aesGmac := hgmac
    rw [reachesBare_iff hconverted]
    constructor
    · rintro ⟨hnull, hlen, hccm, -, -, -, hcookie, hdesc, hcheck, hiv⟩
      exact ⟨hnull, hlen, hgmac, hccm, .inl hconv, hcookie, hdesc, hcheck, hiv⟩
    · rintro ⟨hnull, hlen, -, hccm, -, hcookie, hdesc, hcheck, hiv⟩
      refine ⟨hnull, hlen, hccm, rfl, ?_, ?_, hcookie, hdesc, hcheck, hiv⟩
      · exact fun h => (by cases h)
      · exact fun h => (by cases h.1)
  · rw [if_neg hconv]
    by_cases hchacha : s.cipherAlgorithm = .chacha ∧ op.ivLenInBytes ≠ 12
    · rw [if_pos hchacha]
      refine iff_of_false ?_ fun h => ?_
      · rintro ⟨t, henter, -⟩
        cases henter
      · rcases h.singlePass with h | h
        · exact hconv h
        · exact h.2.2.1 hchacha
    · rw [if_neg hchacha]
      simp only [Except.ok.injEq, exists_eq_left']
      rw [reachesBare_iff hgmac]
      constructor
      · rintro ⟨hnull, hlen, hccm, hyes, hcmd, hae, hcookie, hdesc, hcheck, hiv⟩
        exact ⟨hnull, hlen, hgmac, hccm, .inr ⟨hyes, hcmd, hchacha, hae⟩, hcookie, hdesc, hcheck, hiv⟩
      · rintro ⟨hnull, hlen, -, hccm, hsp, hcookie, hdesc, hcheck, hiv⟩
        obtain ⟨hyes, hcmd, -, hae⟩ := hsp.resolve_left hconv
        exact ⟨hnull, hlen, hccm, hyes, hcmd, hae, hcookie, hdesc, hcheck, hiv⟩

theorem nullAad_lockReader : NullAad env s.lockReader op ↔ NullAad env s op := by
  obtain ⟨readers, hlock⟩ := lockReader_eq s
  rw [hlock]
  constructor <;> exact fun h => ⟨h.null, h.aadLen, h.notGmac, h.notCcm, h.singlePass, h.cookie,
    h.desc, h.cipherCheck, h.iv⟩

/-- A call of `LacAlgChain_Perform` balances the readers of the session, its pending callbacks and the
    cookies exactly if it does not come to the check for NULL in the middle with a NULL. -/
theorem lacAlgChainPerform_balanced_iff (env : Env) (s : Session) (op : OpData) :
    Balanced s (lacAlgChainPerform env s op) ↔ ¬ NullAad env s op := by
  rw [← nullAad_lockReader, ← exists_reachesBare_iff]
  unfold lacAlgChainPerform
  have hlocked := locked_lockReader s
  have hok {t : Session} (henter : s.lockReader.enter env.svc op = .ok t) (ht : Locked s t) :
      Balanced s (performLocked env t op) ↔
        ¬ ∃ t, s.lockReader.enter env.svc op = .ok t ∧ ReachesBare env t op := by
    rw [balanced_performLocked_iff ht, henter]
    simp only [Except.ok.injEq, exists_eq_left']
  rcases enter_cases s.lockReader env.svc op with henter | henter | ⟨-, henter⟩ | ⟨-, henter⟩
  · rw [henter]
    refine iff_of_true (balanced_of_unlocked (hlocked.setAadLen op) (by decide) []) ?_
    rintro ⟨t, ht, -⟩
    cases ht
  · rw [henter]
    refine iff_of_true (balanced_of_unlocked (hlocked.setAadLen op).convert (by decide) []) ?_
    rintro ⟨t, ht, -⟩
    cases ht
  · have h := hok henter (hlocked.setAadLen op).convert
    rwa [henter] at h ⊢
  · have h := hok henter (hlocked.setAadLen op)
    rwa [henter] at h ⊢

end Balance

section Link

theorem requestParams_auth {env : Env} {s : Session} {op : OpData} (hcmd : s.laCmdId = .auth) :
    requestParams env s op = hashParams env s op := by
  simp [requestParams, hcmd]

variable {env : Env} {s t : Session} {op : OpData} (hgmac : s.hashAlgorithm ≠ .aesGmac)
include hgmac

/-- An operation of a session whose hash is no part of an AEAD algorithm leaves the session as it
    is. -/
theorem enter_eq_ok {svc : Service} (hgcm : s.hashAlgorithm ≠ .aesGcm)
    (hccm : s.hashAlgorithm ≠ .aesCcm) (hpoly : s.hashAlgorithm ≠ .poly)
    (henter : s.enter svc op = .ok t) : t = s := by
  have hcipher : s.cipherAlgorithm ≠ .aesCcm := fun h => hccm (s.ccm h)
  have hconv : s.converts svc op = false := by
    simp [Session.converts, Session.isSpGcm, Session.isSpCcp, Session.isSpCcm, hgcm, hgmac, hpoly,
      hcipher]
  rcases enter_cases s svc op with h | h | ⟨h, -⟩ | ⟨-, h⟩
  · cases h.symm.trans henter
  · cases h.symm.trans henter
  · cases hconv.symm.trans h
  · obtain rfl : s.setAadLen op = t := Except.ok.inj (h.symm.trans henter)
    exact if_neg hgmac

/-- A hash session keeps the cookie of a chained request if the hash parameters, should they be
    checked, are accepted. -/
theorem lacAlgChainPerformLink_freed (hgcm : s.hashAlgorithm ≠ .aesGcm)
    (hccm : s.hashAlgorithm ≠ .aesCcm) (hpoly : s.hashAlgorithm ≠ .poly) (hcmd : s.laCmdId = .auth)
    (hcheck : descStatus env s = .success → hashPerformParamCheck env s op = true) (cookie : Nat) :
    (lacAlgChainPerformLink env s op cookie).freed = [] := by
  obtain ⟨readers, hlock⟩ := lockReader_eq s
  unfold lacAlgChainPerformLink
  rw [hlock]
  split
  · rfl
  · next t henter =>
    obtain rfl := enter_eq_ok (s := { s with accessReaders := readers }) hgmac hgcm hccm hpoly henter
    split
    · next hdesc =>
      have hhash : hashParams env { s with accessReaders := readers } op =
          .goOn (hashPopulate env s op) := if_neg (ne_of_eq_of_ne (hcheck hdesc) (by decide))
      rw [requestParams_auth (s := { s with accessReaders := readers }) hcmd, hhash]
    · rfl
    · rfl

end Link

/-- A service of generation 4. -/
def gen4Service : Service where
  legacyAlgorithms := false
  cipher := true
  authentication := true
  cryptoZuc := false
  zuc256 := false
  cryptoSha3 := true
  sha3Ext := false
  chachaPoly := true
  sm3 := false
  sm4 := false
  wirelessCryptoExt := false
  aesGcmSpc := true
  aesV2 := true
  extAlgchainSupported := true

/-- AES-GCM encryption with 16 bytes of AAD. -/
def gcmSetup : Setup where
  symOperation := .algorithmChaining
  cipherSetup := ⟨.aesGcm, 16, .encrypt⟩
  hashSetup := ⟨.aesGcm, .auth, 16, 16, 16, .none, [], []⟩
  algChainOrder := .cipherThenHash
  digestIsAppended := false
  verifyDigest := false

/-- A new session for it. -/
def gcmSession : Session := sessionInit gen4Service gcmSetup (by decide) false false 0x3000

/-- An operation with an IV of 12 bytes, and no AAD. -/
def gcmOpNoAad : OpData where
  packetType := .full
  pIv := 0x1000
  ivLenInBytes := 12
  cryptoStartSrcOffsetInBytes := 0
  messageLenToCipherInBytes := 64
  hashStartSrcOffsetInBytes := 0
  messageLenToHashInBytes := 64
  pDigestResult := 0x1100
  pAdditionalAuthData := 0

/-- A call in place on one buffer, with a cookie and a ring that takes the request. -/
def gcmCall : Env where
  svc := gen4Service
  src := ⟨0x1200, [(0x2000, 64)]⟩
  dst := ⟨0x1200, [(0x2000, 64)]⟩
  inPlace := true
  verifyResult := true
  phys p := p
  mem _ := 0
  cookie := some 7
  ringPut := .success

/-- The operation gets past all checks of `cpaCySymPerformOp`; it returns with the session locked and
    the cookie lost. -/
theorem gcmOpNoAad_unbalanced :
    (lacSymPerform gcmCall gcmSession gcmOpNoAad).session.accessReaders = 1 ∧
      (lacSymPerform gcmCall gcmSession gcmOpNoAad).taken = [7] ∧
      (lacSymPerform gcmCall gcmSession gcmOpNoAad).freed = [] ∧
      ¬ Balanced gcmSession (lacAlgChainPerform gcmCall gcmSession gcmOpNoAad) := by
  refine ⟨by decide, by decide, by decide, fun h => ?_⟩
  have hreaders := h.readers
  revert hreaders
  decide

end Qatlib.Crypto.AlgChain
