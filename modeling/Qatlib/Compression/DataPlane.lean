import Qatlib.Compression.NoSession
import Qatlib.Lib.ByteLayout
import Qatlib.Transport.RingSize

set_option autoImplicit false

/-! # The data plane interface of the compression service

`dc_dp.c`: operations are written straight into the slots of the request ring, one at a time
(`cpaDcDpEnqueueOp`) or as a batch (`cpaDcDpEnqueueOpBatch`), for a session or, with the setup data
that comes with the operation, without one. A slot is reserved first and the message is then built in
place, so a no-session message starts out as whatever the slot held, and in a batch as a copy of the
slot of the first message.

The model is of the library with `ICP_PARAM_CHECK`, the default. The calls of the data plane take no
locks: one thread uses an instance, and a call is one step. -/

namespace Qatlib.Compression.Fw

open Transport

/-! ## Messages in memory -/

/-- The 128 bytes of a message. -/
def CompRequest.bytes (m : CompRequest) : Msg :=
  bytesOf 1 m.comnHdr.resrvd1 ++ (bytesOf 1 m.comnHdr.serviceCmdId ++
  (bytesOf 1 m.comnHdr.serviceType ++ (bytesOf 1 m.comnHdr.hdrFlags ++
  (bytesOf 2 m.comnHdr.servSpecifFlags ++ (bytesOf 1 m.comnHdr.comnReqFlags ++
  (bytesOf 1 m.comnHdr.extendedServSpecifFlags ++
  (bytesOf 4 m.cdPars.lowerVal ++ (bytesOf 4 m.cdPars.upperVal ++
  (bytesOf 4 m.cdPars.contentDescResrvd4 ++ (bytesOf 4 m.cdPars.contentDescResrvd3 ++
  (bytesOf 8 m.comnMid.opaqueData ++ (bytesOf 8 m.comnMid.srcDataAddr ++
  (bytesOf 8 m.comnMid.destDataAddr ++ (bytesOf 4 m.comnMid.srcLength ++
  (bytesOf 4 m.comnMid.dstLength ++
  (bytesOf 4 m.compPars.compLen ++ (bytesOf 4 m.compPars.outBufferSz ++
  (bytesOf 4 m.compPars.initialCrc32 ++ (bytesOf 4 m.compPars.initialAdler ++
  (bytesOf 4 m.compPars.reqParFlags ++ (bytesOf 4 m.compPars.rsrvd ++
  (bytesOf 8 m.interBuffPtr ++ (bytesOf 8 m.resrvd3 ++
  (bytesOf 2 m.compCdCtrl.ramBankFlags ++ (bytesOf 1 m.compCdCtrl.compCfgOffset ++
  (bytesOf 1 m.compCdCtrl.nextCurrId ++ (bytesOf 4 m.compCdCtrl.resrvd ++
  (bytesOf 8 m.compCdCtrl.compStateAddr ++ (bytesOf 8 m.compCdCtrl.ramBanksAddr ++
  (bytesOf 2 m.xltCdCtrl.resrvd1 ++ (bytesOf 1 m.xltCdCtrl.resrvd2 ++
  (bytesOf 1 m.xltCdCtrl.nextCurrId ++ bytesOf 4 m.xltCdCtrl.resrvd3))))))))))))))))))))))))))))))))

/-- The message in 128 bytes. -/
def CompRequest.ofBytes (bs : Msg) : CompRequest :=
  let (resrvd1, bs) := takeField 8 1 bs
  let (serviceCmdId, bs) := takeField 8 1 bs
  let (serviceType, bs) := takeField 8 1 bs
  let (hdrFlags, bs) := takeField 8 1 bs
  let (servSpecifFlags, bs) := takeField 16 2 bs
  let (comnReqFlags, bs) := takeField 8 1 bs
  let (extendedServSpecifFlags, bs) := takeField 8 1 bs
  let (lowerVal, bs) := takeField 32 4 bs
  let (upperVal, bs) := takeField 32 4 bs
  let (contentDescResrvd4, bs) := takeField 32 4 bs
  let (contentDescResrvd3, bs) := takeField 32 4 bs
  let (opaqueData, bs) := takeField 64 8 bs
  let (srcDataAddr, bs) := takeField 64 8 bs
  let (destDataAddr, bs) := takeField 64 8 bs
  let (srcLength, bs) := takeField 32 4 bs
  let (dstLength, bs) := takeField 32 4 bs
  let (compLen, bs) := takeField 32 4 bs
  let (outBufferSz, bs) := takeField 32 4 bs
  let (initialCrc32, bs) := takeField 32 4 bs
  let (initialAdler, bs) := takeField 32 4 bs
  let (reqParFlags, bs) := takeField 32 4 bs
  let (rsrvd, bs) := takeField 32 4 bs
  let (interBuffPtr, bs) := takeField 64 8 bs
  let (resrvd3, bs) := takeField 64 8 bs
  let (ramBankFlags, bs) := takeField 16 2 bs
  let (compCfgOffset, bs) := takeField 8 1 bs
  let (nextCurrId, bs) := takeField 8 1 bs
  let (resrvd, bs) := takeField 32 4 bs
  let (compStateAddr, bs) := takeField 64 8 bs
  let (ramBanksAddr, bs) := takeField 64 8 bs
  let (xltResrvd1, bs) := takeField 16 2 bs
  let (xltResrvd2, bs) := takeField 8 1 bs
  let (xltNextCurrId, bs) := takeField 8 1 bs
  let (xltResrvd3, _) := takeField 32 4 bs
  { comnHdr :=
      ⟨resrvd1, serviceCmdId, serviceType, hdrFlags, servSpecifFlags, comnReqFlags,
        extendedServSpecifFlags⟩
    cdPars := ⟨lowerVal, upperVal, contentDescResrvd4, contentDescResrvd3⟩
    comnMid := ⟨opaqueData, srcDataAddr, destDataAddr, srcLength, dstLength⟩
    compPars := ⟨compLen, outBufferSz, initialCrc32, initialAdler, reqParFlags, rsrvd⟩
    interBuffPtr := interBuffPtr
    resrvd3 := resrvd3
    compCdCtrl := ⟨ramBankFlags, compCfgOffset, nextCurrId, resrvd, compStateAddr, ramBanksAddr⟩
    xltCdCtrl := ⟨xltResrvd1, xltResrvd2, xltNextCurrId, xltResrvd3⟩ }

@[simp] theorem CompRequest.length_bytes (m : CompRequest) : m.bytes.length = 128 := by
  simp [CompRequest.bytes]

@[simp] theorem CompRequest.ofBytes_bytes (m : CompRequest) : CompRequest.ofBytes m.bytes = m := by
  simp [CompRequest.bytes, CompRequest.ofBytes]

/-- The message in the slot at an offset of the ring. -/
def slotMsg (r : RequestRing) (off : Nat) : CompRequest := .ofBytes (readBlock r.memory off 128)

/-! ## Instances, sessions and operations -/

/-- The states of an instance that `SAL_RUNNING_CHECK` tells apart. -/
inductive RunState where
  | running | restarting | notRunning
deriving DecidableEq

/-- `SAL_RUNNING_CHECK`. -/
def RunState.check : RunState → Except CpaStatus Unit
  | .running => .ok ()
  | .restarting => .error .restarting
  | .notRunning => .error .fail

/-- What an instance handle leads to: its configured number of concurrent requests, if it is a
    compression instance. -/
structure DpInstance where
  svc : FwService
  /-- The type of the service is `SAL_SERVICE_TYPE_COMPRESSION`. -/
  isCompression : Bool
  state : RunState
  numCompConcurrentReq : Nat
  valid : validateConcurrRequest numCompConcurrentReq = true

/-- The request ring of the instance. -/
def DpInstance.tx (inst : DpInstance) : RingConfig := adfInitRing inst.numCompConcurrentReq 128

/-- `maxNumCompConcurrentReq`: the ring cannot be filled completely by a batch. -/
def DpInstance.maxNumCompConcurrentReq (inst : DpInstance) : Nat := inst.numCompConcurrentReq - 2

/-- A session as the data plane reads it. -/
structure DpSession extends FwSession where
  isDcDp : Bool

/-- `CPA_DP_BUFLIST`. -/
def cpaDpBuflist : BitVec 32 := 0xFFFFFFFF

/-- `CpaDcDpOpData`; handles and the pointer to the setup data are numbers here. -/
structure DpOpData where
  /-- Neither the operation nor its instance is NULL. -/
  handlesOk : Bool
  /-- The address of the structure. -/
  addr : BitVec 64
  dcInstance : Nat
  pSessionHandle : Option Nat
  pSetupData : Option Nat
  bufferLenToCompress : BitVec 32
  bufferLenForData : BitVec 32
  srcBuffer : BitVec 64
  srcBufferLen : BitVec 32
  destBuffer : BitVec 64
  destBufferLen : BitVec 32
  sessDirection : SessionDir
  compressAndVerify : Bool
  compressAndVerifyAndRecover : Bool
  thisPhys : BitVec 64

/-- What the handles and pointers of operations lead to. A session handle without a descriptor leads
    to `none`. -/
structure DpContext where
  inst : Nat → DpInstance
  session : Nat → Option DpSession
  setupData : Nat → SetupData

/-- What the calls change: `pendingDpStatelessCbCount` of each session, and the ring pair of the
    instance. -/
structure DpState where
  pendingDp : Nat → Nat
  ring : RingPair

/-- What an operation is on. -/
inductive DpTarget where
  | session (handle : Nat) (sess : DpSession)
  | setup (data : SetupData)

def DpTarget.sessDirection : DpTarget → SessionDir
  | .session _ sess => sess.sessDirection
  | .setup data => data.sessDirection

def DpTarget.huffType : DpTarget → HuffType
  | .session _ sess => sess.huffType
  | .setup data => data.huffType

/-! ## Parameter checks -/

section

variable (ctx : DpContext) (op : DpOpData)

/-- The first half of `dcDataPlaneParamCheck`: the session or the setup data, exactly one of the two. -/
def dpTarget : Except CpaStatus DpTarget :=
  if !op.handlesOk then .error .invalidParam
  else if !(ctx.inst op.dcInstance).isCompression then .error .fail
  else
    match op.pSessionHandle, op.pSetupData with
    | some handle, none =>
        match ctx.session handle with
        | none => .error .invalidParam
        | some sess => if sess.isDcDp then .ok (.session handle sess) else .error .invalidParam
    | none, some ptr =>
        let data := ctx.setupData ptr
        if data.sessState ≠ .stateless then .error .invalidParam
        else if dcCheckSessionData data ≠ .success then .error .invalidParam
        else if data.sessDirection = .combined then .error .invalidParam
        else .ok (.setup data)
    | _, _ => .error .invalidParam

/-- The second half of `dcDataPlaneParamCheck`: buffers, lengths and capabilities. -/
def dpBuffersCheck (svc : FwService) (op : DpOpData) (target : DpTarget) : CpaStatus :=
  if target.sessDirection = .compress ∧ op.bufferLenToCompress = 0 then .invalidParam
  else if op.sessDirection = .combined then .invalidParam
  else if op.srcBuffer = 0 then .invalidParam
  else if op.destBuffer = 0 then .invalidParam
  else if op.srcBuffer = op.destBuffer then .invalidParam
  else if op.thisPhys = 0 then .invalidParam
  else if op.compressAndVerify ∧ !svc.cnvCapability then .unsupported
  else if op.compressAndVerifyAndRecover ∧ !op.compressAndVerify then .invalidParam
  else if op.compressAndVerifyAndRecover ∧ !svc.cnvnrCapability then .unsupported
  else if op.srcBufferLen = cpaDpBuflist ∧ op.destBufferLen ≠ cpaDpBuflist then .invalidParam
  else if op.srcBufferLen ≠ cpaDpBuflist ∧ op.destBufferLen = cpaDpBuflist then .invalidParam
  else if op.srcBufferLen ≠ cpaDpBuflist ∧ op.srcBufferLen < op.bufferLenToCompress then
    .invalidParam
  else if op.srcBufferLen ≠ cpaDpBuflist ∧ op.destBufferLen < op.bufferLenForData then
    .invalidParam
  else if op.srcBufferLen = cpaDpBuflist ∧
      (op.srcBuffer.toNat % 8 ≠ 0 ∨ op.destBuffer.toNat % 8 ≠ 0) then .invalidParam
  else if op.thisPhys.toNat % 8 ≠ 0 then .invalidParam
  else if target.sessDirection = .decompress then .success
  else if target.huffType = .fullDynamic then
    if !svc.isGen4 ∧ (svc.pInterBuffPtrsArrayPhyAddr = 0 ∨ !svc.pInterBuffPtrsArray) then
      .invalidParam
    else if op.bufferLenForData.toNat < 128 then .invalidParam
    else .success
  else if op.bufferLenForData.toNat < svc.minOutputBuffSize then .invalidParam
  else .success

/-- `dcDataPlaneParamCheck`, and what it finds the operation to be on. -/
def dcDataPlaneParamCheck : Except CpaStatus DpTarget :=
  match dpTarget ctx op with
  | .error status => .error status
  | .ok target =>
      match dpBuffersCheck (ctx.inst op.dcInstance).svc op target with
      | .success => .ok target
      | status => .error status

/-- Compression without verification is not supported. -/
def DpOpData.verified : Bool := op.compressAndVerify || op.sessDirection != .compress

/-- The session or the setup data supports the direction of the operation. -/
def DpOpData.directionOk (sessDirection : SessionDir) : Bool :=
  !(op.sessDirection = .compress && sessDirection = .decompress) &&
    !(op.sessDirection = .decompress && sessDirection = .compress)

/-- The part of `cpaDcDpEnqueueOp` before the ring. -/
def admitDp : Except CpaStatus DpTarget :=
  match dcDataPlaneParamCheck ctx op with
  | .error status => .error status
  | .ok target =>
      if !op.verified then .error .unsupported
      else
        match (ctx.inst op.dcInstance).state.check with
        | .error status => .error status
        | .ok () => if op.directionOk target.sessDirection then .ok target else .error .invalidParam

/-- The checks of a batch on one of its operations: it is on the same instance as the first one, and on
    the same session or the same setup data. -/
def checkBatchOp (first op : DpOpData) : Except CpaStatus DpTarget :=
  match dcDataPlaneParamCheck ctx op with
  | .error status => .error status
  | .ok target =>
      if op.dcInstance ≠ first.dcInstance then .error .invalidParam
      else if first.pSessionHandle.isSome ∧ op.pSessionHandle ≠ first.pSessionHandle then
        .error .invalidParam
      else if first.pSessionHandle.isNone ∧ op.pSetupData ≠ first.pSetupData then
        .error .invalidParam
      else .ok target

/-- The checks on the operations of a batch one after the other. -/
def checkBatchOps (ctx : DpContext) (first : DpOpData) :
    List DpOpData → Except CpaStatus (List DpTarget)
  | [] => .ok []
  | op :: ops =>
      match checkBatchOp ctx first op with
      | .error status => .error status
      | .ok target =>
          match checkBatchOps ctx first ops with
          | .error status => .error status
          | .ok targets => .ok (target :: targets)

/-- The part of `cpaDcDpEnqueueOpBatch` before the ring. The direction is that of the first
    operation's session or setup data. -/
def admitDpBatch (first : DpOpData) (rest : List DpOpData) : Except CpaStatus (List DpTarget) :=
  let ops := first :: rest
  if !first.handlesOk then .error .invalidParam
  else if ops.length > (ctx.inst first.dcInstance).maxNumCompConcurrentReq then
    .error .invalidParam
  else
    match checkBatchOps ctx first ops with
    | .error status => .error status
    | .ok targets =>
        if !ops.all DpOpData.verified then .error .unsupported
        else
          match (ctx.inst first.dcInstance).state.check with
          | .error status => .error status
          | .ok () =>
              if ops.all fun op => targets.head?.all fun t => op.directionOk t.sessDirection then
                .ok targets
              else .error .invalidParam

end

/-! ## Building a message -/

section

variable (msg : CompRequest) (svc : FwService) (op : DpOpData)

/-- `bufferFormat`. -/
def DpOpData.bufferFormat : PtrType := if op.srcBufferLen = cpaDpBuflist then .sgl else .flat

/-- The part of `dcDpWriteRingMsg` after the template: what varies from operation to operation. -/
def CompRequest.dpFinish (errorInjection : Bool) : CompRequest :=
  let cnv := op.sessDirection = .compress && op.compressAndVerify
  let flags := reqParamFlagsBuild true true true cnv (cnv && op.compressAndVerifyAndRecover)
    (cnv && svc.isGen4 && errorInjection) false
  let msg := { msg with compPars := { msg.compPars with reqParFlags := flags } }
  let msg := msg.cmnMidWrite op.addr op.bufferFormat op.srcBuffer op.destBuffer op.srcBufferLen
    op.destBufferLen
  { msg with
    compPars :=
      { msg.compPars with compLen := op.bufferLenToCompress, outBufferSz := op.bufferLenForData } }

/-- What `dcNsCreateBaseRequest` has written when it finds no command for the setup data. -/
def nsBaseUnfinished (data : SetupData) : CompRequest :=
  let dir : RequestDir := if data.sessDirection = .compress then .compression else .decompression
  ((dcNsCompContentDescPopulate svc data msg .dramWr dir).nsInterBuff svc data).clearXlt

/-- `DC_DP_QAT_PTR_TYPE` in the header of a base request. -/
def CompRequest.dpPtrType : CompRequest :=
  { msg with
    comnHdr := { msg.comnHdr with comnReqFlags := ptrTypeSet msg.comnHdr.comnReqFlags 0 } }

/-- `dcDpWriteRingMsg`: the status, and what the slot holds afterwards. `slot` is what it held before
    and `nsRef` the first message of the batch. -/
def dcDpWriteRingMsg (target : DpTarget) (slot : CompRequest) (nsRef : Option CompRequest) :
    CpaStatus × CompRequest :=
  match target with
  | .session _ sess =>
      let reqCache :=
        if op.sessDirection = .compress then sess.reqCacheComp else sess.reqCacheDecomp
      (.success, reqCache.dpFinish svc op sess.cnvErrorInjection)
  | .setup data =>
      match nsRef with
      | some ref => (.success, ref.dpFinish svc op svc.nsIsCnvErrorInjection)
      | none =>
          match dcNsCreateBaseRequest slot svc data with
          | .error status => (status, nsBaseUnfinished slot svc data)
          | .ok msg => (.success, msg.dpPtrType.dpFinish svc op svc.nsIsCnvErrorInjection)

end

/-! ## Enqueueing -/

/-- The request is counted with its session. -/
def DpState.countPending (s : DpState) (target : DpTarget) (n : Nat) : DpState :=
  match target with
  | .session handle _ =>
      { s with pendingDp := fun h => if h = handle then s.pendingDp h + n else s.pendingDp h }
  | .setup _ => s

/-- `icp_adf_updateQueueTail` when the operation is to be performed now. -/
def performNow (now : Bool) (ring : RingPair) : RingPair :=
  if now then { ring with req := icpAdfUpdateQueueTail ring.req } else ring

/-- The part of `cpaDcDpEnqueueOp` after `icp_adf_getSingleQueueAddr`, for the message as
    `dcDpWriteRingMsg` leaves it. The slot stays reserved when the message cannot be built. -/
def enqueueReserved (s : DpState) (target : DpTarget) (performOpNow : Bool) (status : CpaStatus) :
    Option RingPair → CpaStatus × DpState
  | none => (.retry, s)
  | some ring =>
      if status ≠ .success then (status, { s with ring := ring })
      else (.success, { s.countPending target 1 with ring := performNow performOpNow ring })

/-- `cpaDcDpEnqueueOp`, on the ring of the operation's instance. -/
def cpaDcDpEnqueueOp (ctx : DpContext) (s : DpState) (op : DpOpData) (performOpNow : Bool) :
    CpaStatus × DpState :=
  match admitDp ctx op with
  | .error status => (status, s)
  | .ok target =>
      let inst := ctx.inst op.dcInstance
      let built := dcDpWriteRingMsg inst.svc op target (slotMsg s.ring.req s.ring.req.tail) none
      enqueueReserved s target performOpNow built.1
        (icpAdfGetSingleQueueAddr inst.tx s.ring built.2.bytes)

/-- The write loop of `cpaDcDpEnqueueOpBatch`. `nsRef` is the offset of the first message once it is
    written, in a batch without a session (`noSession`). -/
def writeBatch (inst : DpInstance) (noSession : Bool) :
    List (DpOpData × DpTarget) → Option Nat → RequestRing → CpaStatus × RequestRing
  | [], _, r => (.success, r)
  | (op, target) :: rest, nsRef, r =>
      let built := dcDpWriteRingMsg inst.svc op target (slotMsg r r.tail) (nsRef.map (slotMsg r))
      if built.1 ≠ .success then
        (built.1, { r with memory := writeBlock r.memory r.tail built.2.bytes })
      else
        let nsRef := if nsRef = none ∧ noSession then some r.tail else nsRef
        writeBatch inst noSession rest nsRef (r.place inst.tx built.2.bytes)

/-- The part of `cpaDcDpEnqueueOpBatch` after `icp_adf_getQueueMemory`. The slots stay reserved when a
    message cannot be built. -/
def batchReserved (inst : DpInstance) (s : DpState) (first : DpOpData) (rest : List DpOpData)
    (targets : List DpTarget) (performOpNow : Bool) : Option RingPair → CpaStatus × DpState
  | none => (.retry, s)
  | some ring =>
      let ops := first :: rest
      let written := writeBatch inst first.pSetupData.isSome (ops.zip targets) none ring.req
      let ring := { ring with req := written.2 }
      if written.1 ≠ .success then (written.1, { s with ring := ring })
      else
        let s := (targets.head?.map fun target => s.countPending target ops.length).getD s
        (.success, { s with ring := performNow performOpNow ring })

/-- `cpaDcDpEnqueueOpBatch`, on the ring of the first operation's instance. -/
def cpaDcDpEnqueueOpBatch (ctx : DpContext) (s : DpState) (ops : List DpOpData)
    (performOpNow : Bool) : CpaStatus × DpState :=
  match ops with
  | [] => (.invalidParam, s)
  | first :: rest =>
      match admitDpBatch ctx first rest with
      | .error status => (status, s)
      | .ok targets =>
          let inst := ctx.inst first.dcInstance
          batchReserved inst s first rest targets performOpNow
            (icpAdfGetQueueMemory inst.tx s.ring ops.length)

/-- `CpaStatus` of a put. -/
def putStatus : PutStatus → CpaStatus
  | .success => .success
  | .retry => .retry
  | .fail => .fail

/-- `icp_adf_transPutMsg` with a compression request; `locked` says whether the ring's lock was
    taken. -/
def icpAdfTransPutMsg (inst : DpInstance) (s : DpState) (msg : CompRequest) (locked : Bool) :
    CpaStatus × DpState :=
  if msg.bytes.length ≠ inst.tx.messageSize then (.invalidParam, s)
  else if !locked then (.fail, s)
  else
    let put := adfUserPutMsg inst.tx s.ring msg.bytes
    (putStatus put.1, { s with ring := put.2 })

end Qatlib.Compression.Fw
