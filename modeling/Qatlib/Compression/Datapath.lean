import Mathlib.Algebra.Group.Nat.Defs
import Mathlib.Data.Int.Basic
import Qatlib.Api

set_option autoImplicit false

/-! # The traditional compression data path

The submission and response functions of `dc_datapath.c` for sessions of the traditional API: the
four entry points, `dcCompDecompData`, `dcCreateRequest`, `dcSendRequest`, and the two callbacks.
The checks of an entry point are separated from the rest as an `Admission`, so that a theorem can
speak about the submissions that get past them.

What the operating system, the memory pool, the buffer lists and the ring answer during a call is an
input (`SubmitEnv`). The loop around `Lac_MemPoolEntryAlloc` ends with an entry or with an inactive
pool; its rounds with an empty pool have no effect. Statistics, locks and logging are left out. -/

namespace Qatlib.Compression

/-! ## Data -/

/-- `CpaDcSessionState`. -/
inductive SessionState where
  | stateful | stateless
deriving DecidableEq

/-- `CpaDcSessionDir`. -/
inductive SessionDir where
  | compress | decompress | combined
deriving DecidableEq

/-- `dc_request_type_t`. -/
inductive RequestType where
  | first | subsequent
deriving DecidableEq

/-- `dc_request_dir_t`. -/
inductive RequestDir where
  | compression | decompression
deriving DecidableEq

/-- `CpaDcFlush`. -/
inductive Flush where
  | none | final | sync | full
deriving DecidableEq

/-- `CpaDcChecksum`. -/
inductive ChecksumType where
  | none | crc32 | adler32 | crc32Adler32 | xxhash32
deriving DecidableEq

/-- `CpaDcCompType`. -/
inductive CompType where
  | deflate | lz4 | lz4s
deriving DecidableEq

/-- `CpaDcHuffType`. -/
inductive HuffType where
  | static | precomp | fullDynamic
deriving DecidableEq

/-- `dc_cnv_mode_t`. -/
inductive CnvMode where
  | noCnv | cnv | cnvnr
deriving DecidableEq

/-- The fields of `dc_session_desc_t` that the traditional data path reads or writes. -/
structure SessionDesc where
  sessState : SessionState
  sessDirection : SessionDir
  compType : CompType
  huffType : HuffType
  checksumType : ChecksumType
  /-- `pCompressionCb` is `LacSync_GenWakeupSyncCaller`: the session is synchronous. -/
  syncCb : Bool
  requestType : RequestType
  previousRequestType : RequestType
  isSopForCompressionProcessed : Bool
  isSopForDecompressionProcessed : Bool
  cumulativeConsumedBytes : UInt64
  pendingStatelessCbCount : Int
  pendingStatefulCbCount : Int

/-- The fields of `sal_compression_service_t` and its device data that the data path reads. -/
structure Service where
  /-- The library is built with `ICP_PARAM_CHECK`. -/
  paramCheck : Bool
  isGen4 : Bool
  integrityCrcCheck : Bool
  /-- `DC_CNV_EXTENDED_CAPABILITY`. -/
  cnvCapability : Bool
  /-- `DC_CNVNR_EXTENDED_CAPABILITY`. -/
  cnvnrCapability : Bool
  interBuffersDefined : Bool
  minInterBuffSizeInBytes : Nat
  minOutputBuffSizeDynamic : Nat
  minOutputBuffSize : Nat
  oddByteDecompNobFinal : Bool
  oddByteDecompInterim : Bool

/-- `CpaDcOpData`, its skip data apart. -/
structure OpData where
  flushFlag : Flush
  compressAndVerify : Bool
  compressAndVerifyAndRecover : Bool
  integrityCrcCheck : Bool
  verifyHwIntegrityCrcs : Bool
  /-- `pCrcData` is not NULL. -/
  hasCrcData : Bool

/-- `CpaDcRqResults`, the caller's results structure. -/
structure Results where
  status : Int
  produced : Nat
  consumed : UInt32
  checksum : Nat

/-- What the outside answers while one request is submitted. -/
structure SubmitEnv where
  /-- The NULL, address translation and instance type checks on the handles pass. -/
  handlesOk : Bool
  /-- What `SAL_RUNNING_CHECK` returns early with; `none` for a running instance. -/
  notRunning : Option CpaStatus
  /-- `LacBuffDesc_BufferListVerifyNull` on the source: its size, or `none`. -/
  srcBuffSize : Option Nat
  /-- The buffer lists and the results are present and not in place. -/
  buffersOk : Bool
  /-- `LacBuffDesc_BufferListVerify` on the destination: its size, or `none`. -/
  destBuffSize : Option Nat
  /-- `LacSync_CreateSyncCookie`. -/
  syncCookie : CpaStatus
  /-- What a synchronous caller returns with, from its callback or from the time-out. -/
  syncStatus : CpaStatus
  /-- The pool is active, so the loop around `Lac_MemPoolEntryAlloc` ends with an entry. -/
  poolActive : Bool
  /-- `LacBuffDesc_BufferListDescWriteAndGetSize` on the source. -/
  srcDesc : CpaStatus
  srcTotalDataLenInBytes : Nat
  /-- The same on the destination. -/
  dstDesc : CpaStatus
  dstTotalDataLenInBytes : Nat
  /-- The physical address of the cookie's CRC buffer is found. -/
  crcAddrOk : Bool
  /-- `SalQatMsg_transPutMsg`. -/
  putMsg : CpaStatus
  /-- The checksum held by the session's state registers, which the device writes. -/
  stateChecksum : Nat

/-- The request message fields that vary from request to request. -/
structure CompReq where
  sop : Bool
  eop : Bool
  bFinal : Bool
  cnvDecompReq : Bool
  cnvRecovery : Bool
  e2eCrc : Bool
  initialCrc32 : Nat
  initialAdler : Nat
  compLen : Nat
  outBufferSz : Nat
deriving DecidableEq

/-- `dc_compression_cookie_t`. -/
structure Cookie where
  compDecomp : RequestDir
  flushFlag : Flush
  integrityCrcCheck : Bool
  hasCrcData : Bool
  request : CompReq
deriving DecidableEq

/-! ## Building and sending a request -/

/-- The arguments with which an entry point calls `dcCompDecompData`. -/
structure ReqArgs where
  compDecomp : RequestDir
  flushFlag : Flush
  opData : Option OpData
  cnvMode : CnvMode
  /-- `pResults->checksum`, the seed of a stateless subsequent request. -/
  checksum : Nat

section

variable (svc : Service) (sess : SessionDesc) (args : ReqArgs)

/-- The device limits on odd source lengths of interim stateful decompression requests. -/
def trimSource (len : Nat) : Nat :=
  let interim := sess.sessState = .stateful ∧ args.compDecomp = .decompression
  let len :=
    if ¬ svc.oddByteDecompNobFinal ∧ interim ∧ args.flushFlag ≠ .final ∧ len % 2 = 1 then len - 1
    else len
  if ¬ svc.oddByteDecompInterim ∧ interim ∧ args.flushFlag ≠ .final ∧ args.flushFlag ≠ .full ∧
      len % 2 = 1 then len - 1
  else len

/-- The destination length given to the device; dynamic compression before generation 4 is limited
    by the intermediate buffers. -/
def limitDest (len : Nat) : Nat :=
  if ¬ svc.isGen4 ∧ args.compDecomp = .compression ∧ sess.huffType = .fullDynamic ∧
      svc.minInterBuffSizeInBytes < len % 2 ^ 32 then svc.minInterBuffSizeInBytes % 2 ^ 32
  else len % 2 ^ 32

/-- `isSopForCompressionProcessed` or `isSopForDecompressionProcessed`, by direction. -/
def SessionDesc.sopProcessed : RequestDir → Bool
  | .compression => sess.isSopForCompressionProcessed
  | .decompression => sess.isSopForDecompressionProcessed

/-- Set that flag. -/
def SessionDesc.setSopProcessed : RequestDir → SessionDesc
  | .compression => { sess with isSopForCompressionProcessed := true }
  | .decompression => { sess with isSopForDecompressionProcessed := true }

/-- The session update of `dcCreateRequest` that goes with the start- and end-of-packet flags, and
    the flags. Every request of a stateless session carries both. -/
def markPacket (dir : RequestDir) (flush : Flush) : SessionDesc × Bool × Bool :=
  match sess.sessState with
  | .stateless =>
      let sess :=
        if sess.requestType = .first then { sess with cumulativeConsumedBytes := 0 } else sess
      (sess, true, true)
  | .stateful =>
      let sess := { sess with previousRequestType := sess.requestType }
      let sop := sess.requestType = .first ∨ sess.sopProcessed dir = false
      let sess :=
        if sess.requestType = .first then
          { sess with requestType := .subsequent, cumulativeConsumedBytes := 0 }.setSopProcessed dir
        else sess.setSopProcessed dir
      if flush = .final ∨ flush = .full then
        ({ sess with requestType := .first }, decide sop, true)
      else (sess, decide sop, false)

/-- `dcCreateRequest`. The first two failures are the buffer descriptor writes, the third is the
    address of the CRC buffer; none of them has changed the session. -/
def dcCreateRequest (env : SubmitEnv) : Except CpaStatus (SessionDesc × Cookie) :=
  if env.srcDesc ≠ .success then .error env.srcDesc
  else if env.dstDesc ≠ .success then .error env.dstDesc
  else
    let opIntegrity := (args.opData.map OpData.integrityCrcCheck).getD false
    let hasCrcData := (args.opData.map OpData.hasCrcData).getD false
    let flush := (args.opData.map OpData.flushFlag).getD args.flushFlag
    let e2e := svc.integrityCrcCheck && opIntegrity
    let resumed := decide (sess.sessState = .stateless ∧ sess.requestType = .subsequent)
    if e2e && !env.crcAddrOk then .error .fail
    else
      let (sess', sop, eop) := markPacket sess args.compDecomp flush
      .ok (sess',
        { compDecomp := args.compDecomp
          flushFlag := flush
          integrityCrcCheck := opIntegrity
          hasCrcData := hasCrcData
          request :=
            { sop := sop
              eop := eop
              bFinal := flush = .final
              cnvDecompReq := args.cnvMode ≠ .noCnv
              cnvRecovery := args.cnvMode = .cnvnr
              e2eCrc := e2e
              initialCrc32 := if resumed ∧ sess.checksumType = .crc32 then args.checksum else 0
              initialAdler := if resumed ∧ sess.checksumType = .adler32 then args.checksum else 1
              compLen := trimSource svc sess args (env.srcTotalDataLenInBytes % 2 ^ 32)
              outBufferSz := limitDest svc sess args env.dstTotalDataLenInBytes } })

end

/-- `dcSendRequest`: a ring that is full gives a stateful session its request type back. -/
def dcSendRequest (sess : SessionDesc) (env : SubmitEnv) : CpaStatus × SessionDesc :=
  if sess.sessState = .stateful ∧ env.putMsg = .retry then
    (env.putMsg, { sess with requestType := sess.previousRequestType })
  else (env.putMsg, sess)

/-- The result of a submission: the status, the session, and the request if one is now on the
    ring. -/
structure Submitted where
  status : CpaStatus
  session : SessionDesc
  request : Option Cookie

/-- `osalAtomicInc` of the stateless counter before the request is sent. -/
def SessionDesc.incStateless (sess : SessionDesc) : SessionDesc :=
  if sess.sessState = .stateless then
    { sess with pendingStatelessCbCount := sess.pendingStatelessCbCount + 1 }
  else sess

section

variable (svc : Service) (sess : SessionDesc) (env : SubmitEnv)

/-- The decrement of the failure exit of `dcCompDecompData`: of the stateless or of the stateful
    counter, by the state of the session. -/
def SessionDesc.decPending : SessionDesc :=
  if sess.sessState = .stateless then
    { sess with pendingStatelessCbCount := sess.pendingStatelessCbCount - 1 }
  else { sess with pendingStatefulCbCount := sess.pendingStatefulCbCount - 1 }

/-- The part of `dcCompDecompData` after the synchronous case: take a cookie, build the request, send
    it. -/
def dcCompDecompDataBody (args : ReqArgs) (env : SubmitEnv) : Submitted :=
  if ¬ env.poolActive then ⟨.resource, sess, none⟩
  else
    match dcCreateRequest svc sess args env with
    | .error status => ⟨status, sess.decPending, none⟩
    | .ok (sess, cookie) =>
        let (status, sess) := dcSendRequest sess.incStateless env
        if status = .success then ⟨status, sess, some cookie⟩
        else ⟨status, sess.decPending, none⟩

/-- `dcCompDecompData` as the entry points call it. A synchronous session needs a cookie to wait on;
    once the request is sent the caller waits, and its status is that of the callback. -/
def dcCompDecompData (args : ReqArgs) (env : SubmitEnv) : Submitted :=
  if sess.syncCb then
    if env.syncCookie = .success then
      let out := dcCompDecompDataBody svc sess args env
      if out.status = .success then { out with status := env.syncStatus } else out
    else ⟨env.syncCookie, sess, none⟩
  else dcCompDecompDataBody svc sess args env

/-! ## Entry points -/

/-- What an entry point has decided when its checks are done: to return, or to call
    `dcCompDecompData` with a session and arguments. -/
inductive Admission where
  | reject (status : CpaStatus) (session : SessionDesc)
  | accept (session : SessionDesc) (args : ReqArgs)

/-- The rest of an entry point. -/
def Admission.submit : Admission → Submitted
  | .reject status sess => ⟨status, sess, none⟩
  | .accept sess args => dcCompDecompData svc sess args env

/-- `DC_BUFFER_MAX_SIZE`. -/
def dcBufferMaxSize : Nat := 2 ^ 32 - 1

/-- `dcCheckSourceData`. -/
def dcCheckSourceData (srcBuffSize : Nat) : Bool :=
  env.buffersOk && !decide (sess.sessState = .stateless ∧ srcBuffSize = 0) &&
    decide (srcBuffSize ≤ dcBufferMaxSize)

/-- `dcCheckDestinationData`. -/
def dcCheckDestinationData (dir : RequestDir) : Bool :=
  match env.destBuffSize with
  | none => false
  | some size =>
      decide (size ≤ dcBufferMaxSize) &&
        match dir with
        | .compression =>
            if sess.huffType = .fullDynamic then
              (svc.isGen4 || svc.interBuffersDefined) && decide (svc.minOutputBuffSizeDynamic ≤ size)
            else decide (svc.minOutputBuffSize ≤ size)
        | .decompression => decide (0 < size)

/-- `dcParamCheck`. -/
def dcParamCheck (srcBuffSize : Nat) : Bool :=
  dcCheckSourceData sess env srcBuffSize && dcCheckDestinationData svc sess env .compression &&
    sess.sessDirection != .decompress

/-- `dcCheckOpData`. -/
def dcCheckOpData (op : OpData) : Bool :=
  (op.integrityCrcCheck || !op.verifyHwIntegrityCrcs) &&
    (!op.integrityCrcCheck || (svc.integrityCrcCheck && op.hasCrcData))

/-- `dcZeroLengthRequests`: whether an empty request is answered without the device, with the session
    and the checksum it then reports. -/
def dcZeroLengthRequests (flush : Flush) : Option (SessionDesc × Nat) :=
  if sess.requestType = .first then
    some ({ sess with cumulativeConsumedBytes := 0 },
      if sess.checksumType = .adler32 then 1 else 0)
  else if flush = .none ∨ flush = .sync then some (sess, env.stateChecksum)
  else none

/-- The stateful part of an entry point, under the session lock: one request in flight at most; the
    requests without data are answered here; any other one is counted before the lock is
    released. -/
def admitStateful (args : ReqArgs) (empty : Bool) : Admission :=
  if sess.pendingStatefulCbCount ≠ 0 then .reject .retry sess
  else
    let counted := { sess with pendingStatefulCbCount := sess.pendingStatefulCbCount + 1 }
    if empty then
      match dcZeroLengthRequests sess env args.flushFlag with
      | some (sess, _) => .reject .success sess
      | none => .accept counted args
    else .accept counted args

/-- The checks of `cpaDcCompressData`. -/
def admitCompressData (flush : Flush) (checksum : Nat) : Admission :=
  if svc.paramCheck && !env.handlesOk then .reject .invalidParam sess
  else
    match env.notRunning, env.srcBuffSize with
    | some status, _ => .reject status sess
    | none, none => .reject .invalidParam sess
    | none, some srcBuffSize =>
        if svc.paramCheck && !dcParamCheck svc sess env srcBuffSize then .reject .invalidParam sess
        else if sess.sessState = .stateful then .reject .unsupported sess
        else if !svc.cnvCapability then .reject .unsupported sess
        else if !svc.cnvnrCapability then .reject .unsupported sess
        else .accept sess ⟨.compression, flush, none, .cnvnr, checksum⟩

/-- The checks of `cpaDcCompressData2`. Verification with recovery and without integrity checks is
    handed to `cpaDcCompressData`. -/
def admitCompressData2 (op : OpData) (checksum : Nat) : Admission :=
  if svc.paramCheck && (!op.compressAndVerify && op.compressAndVerifyAndRecover) then
    .reject .invalidParam sess
  else if op.compressAndVerify && op.compressAndVerifyAndRecover && !op.integrityCrcCheck then
    admitCompressData svc sess env op.flushFlag checksum
  else if !op.compressAndVerify then .reject .unsupported sess
  else if svc.paramCheck && !env.handlesOk then .reject .invalidParam sess
  else
    match env.notRunning, env.srcBuffSize with
    | some status, _ => .reject status sess
    | none, none => .reject .invalidParam sess
    | none, some srcBuffSize =>
        let args : ReqArgs := ⟨.compression, op.flushFlag, some op,
          if op.compressAndVerifyAndRecover then .cnvnr else .cnv, checksum⟩
        if op.compressAndVerify ∧ sess.sessState = .stateful then .reject .unsupported sess
        else if !svc.cnvCapability && op.compressAndVerify then .reject .unsupported sess
        else if sess.compType = .lz4 ∧ op.integrityCrcCheck then .reject .unsupported sess
        else if svc.paramCheck &&
            !(dcParamCheck svc sess env srcBuffSize && dcCheckOpData svc op) then
          .reject .invalidParam sess
        else if sess.sessState = .stateful then
          admitStateful sess env args (decide (srcBuffSize = 0))
        else .accept sess args

/-- A source of one byte that an interim request cannot use. -/
def lonelyByte (srcBuffSize : Nat) (flush : Flush) : Bool :=
  decide (srcBuffSize = 1 ∧ flush ≠ .final ∧ flush ≠ .full)

/-- The checks of `cpaDcDecompressData`. -/
def admitDecompressData (flush : Flush) (checksum : Nat) : Admission :=
  if svc.paramCheck && !env.handlesOk then .reject .invalidParam sess
  else
    match env.notRunning, env.srcBuffSize with
    | some status, _ => .reject status sess
    | none, none => .reject .invalidParam sess
    | none, some srcBuffSize =>
        let args : ReqArgs := ⟨.decompression, flush, none, .noCnv, checksum⟩
        if svc.paramCheck && !(dcCheckSourceData sess env srcBuffSize &&
            dcCheckDestinationData svc sess env .decompression &&
            sess.sessDirection != .compress) then .reject .invalidParam sess
        else if sess.sessState = .stateful then
          admitStateful sess env args
            (decide (srcBuffSize = 0) || (lonelyByte srcBuffSize flush && !svc.isGen4))
        else .accept sess args

/-- The checks of `cpaDcDecompressData2`; generation 4 firmware handles empty requests itself. -/
def admitDecompressData2 (op : OpData) (checksum : Nat) : Admission :=
  if svc.paramCheck && !env.handlesOk then .reject .invalidParam sess
  else
    match env.notRunning, env.srcBuffSize with
    | some status, _ => .reject status sess
    | none, none => .reject .invalidParam sess
    | none, some srcBuffSize =>
        let args : ReqArgs := ⟨.decompression, op.flushFlag, some op, .noCnv, checksum⟩
        if svc.paramCheck && !(dcCheckSourceData sess env srcBuffSize &&
            dcCheckDestinationData svc sess env .decompression && dcCheckOpData svc op &&
            sess.sessDirection != .compress) then .reject .invalidParam sess
        else if sess.sessState = .stateful then
          admitStateful sess env args
            (!svc.isGen4 && (decide (srcBuffSize = 0) || lonelyByte srcBuffSize op.flushFlag))
        else .accept sess args

/-- A call of one of the four entry points; the last argument is `pResults->checksum`. -/
inductive Call where
  | compressData (flush : Flush) (checksum : Nat)
  | compressData2 (op : OpData) (checksum : Nat)
  | decompressData (flush : Flush) (checksum : Nat)
  | decompressData2 (op : OpData) (checksum : Nat)

/-- The checks of the entry point that is called. -/
def Call.admission : Call → Admission
  | .compressData flush checksum => admitCompressData svc sess env flush checksum
  | .compressData2 op checksum => admitCompressData2 svc sess env op checksum
  | .decompressData flush checksum => admitDecompressData svc sess env flush checksum
  | .decompressData2 op checksum => admitDecompressData2 svc sess env op checksum

/-! ### The ends of the checks -/

/-- The checks end in a rejection that leaves the session alone, or the call goes on with its
    arguments, under the session lock if the session is stateful. -/
def Admission.Ends (args : ReqArgs) (a : Admission) : Prop :=
  (∃ status, (status = .success → env.notRunning = some .success) ∧ a = .reject status sess) ∨
    ∃ empty, a = if sess.sessState = .stateful then admitStateful sess env args empty
      else .accept sess args

end

section Ends

variable {svc : Service} {sess sess' : SessionDesc} {env : SubmitEnv} {args args' : ReqArgs}
  {a : Admission}

theorem Admission.Ends.reject (status : CpaStatus) (h : status ≠ .success) :
    (Admission.reject status sess).Ends sess env args :=
  .inl ⟨status, fun hok => absurd hok h, rfl⟩

/-- The checks that all entry points begin with. -/
theorem Admission.Ends.running {rest : Nat → Admission}
    (h : ∀ srcBuffSize, (rest srcBuffSize).Ends sess env args) :
    (if svc.paramCheck && !env.handlesOk then Admission.reject .invalidParam sess
      else match env.notRunning, env.srcBuffSize with
        | some status, _ => .reject status sess
        | none, none => .reject .invalidParam sess
        | none, some srcBuffSize => rest srcBuffSize).Ends sess env args := by
  split
  · exact .reject _ (by decide)
  · split
    · next status hstatus => exact .inl ⟨status, fun hok => hok ▸ hstatus, rfl⟩
    · exact .reject _ (by decide)
    · exact h _

section

variable (h : a.Ends sess env args)
include h

theorem Admission.Ends.accepted (hstate : sess.sessState = .stateless)
    (haccept : a = .accept sess' args') : sess' = sess ∧ args' = args := by
  rcases h with ⟨status, -, rfl⟩ | ⟨empty, rfl⟩
  · cases haccept
  · rw [hstate, if_neg (by decide)] at haccept
    cases haccept
    exact ⟨rfl, rfl⟩

theorem Admission.Ends.rejected {status : CpaStatus} (hstate : sess.sessState = .stateless)
    (hreject : a = .reject status sess') : sess' = sess := by
  rcases h with ⟨status, -, rfl⟩ | ⟨empty, rfl⟩
  · cases hreject
    rfl
  · rw [hstate, if_neg (by decide)] at hreject
    cases hreject

theorem Admission.Ends.stateful (hstate : sess.sessState = .stateful)
    (hrun : env.notRunning ≠ some .success) :
    (∃ status, status ≠ .success ∧ a = .reject status sess) ∨
      ∃ empty, a = admitStateful sess env args empty := by
  rcases h with ⟨status, hstatus, rfl⟩ | ⟨empty, rfl⟩
  · exact .inl ⟨status, fun hok => hrun (hstatus hok), rfl⟩
  · exact .inr ⟨empty, if_pos hstate⟩

end

section

variable (svc : Service) (sess : SessionDesc) (env : SubmitEnv)

variable (op : OpData) (flush : Flush) (checksum : Nat)

theorem admitCompressData_ends :
    (admitCompressData svc sess env flush checksum).Ends sess env
      ⟨.compression, flush, none, .cnvnr, checksum⟩ := by
  refine .running fun srcBuffSize => ?_
  split
  · exact .reject _ (by decide)
  · split
    · exact .reject _ (by decide)
    · next hstate =>
      split
      · exact .reject _ (by decide)
      · split
        · exact .reject _ (by decide)
        · exact .inr ⟨false, (if_neg hstate).symm⟩

/-- Verification with recovery and without integrity checks ends as a plain compression does. -/
theorem admitCompressData2_ends :
    (∃ status, status ≠ .success ∧ admitCompressData2 svc sess env op checksum = .reject status sess) ∨
      ((op.compressAndVerify && op.compressAndVerifyAndRecover && !op.integrityCrcCheck) = true ∧
        (admitCompressData2 svc sess env op checksum).Ends sess env
          ⟨.compression, op.flushFlag, none, .cnvnr, checksum⟩) ∨
      (op.compressAndVerify = true ∧ (admitCompressData2 svc sess env op checksum).Ends sess env
        ⟨.compression, op.flushFlag, some op,
          if op.compressAndVerifyAndRecover then .cnvnr else .cnv, checksum⟩) := by
  unfold admitCompressData2
  by_cases hrecover : (svc.paramCheck &&
      (!op.compressAndVerify && op.compressAndVerifyAndRecover)) = true
  · exact .inl ⟨_, by decide, if_pos hrecover⟩
  rw [if_neg hrecover]
  by_cases hplain : (op.compressAndVerify && op.compressAndVerifyAndRecover &&
      !op.integrityCrcCheck) = true
  · rw [if_pos hplain]
    exact .inr (.inl ⟨hplain, admitCompressData_ends svc sess env op.flushFlag checksum⟩)
  rw [if_neg hplain]
  by_cases hcnv : (!op.compressAndVerify) = true
  · exact .inl ⟨_, by decide, if_pos hcnv⟩
  rw [if_neg hcnv]
  refine .inr (.inr ⟨by simpa using hcnv, .running fun srcBuffSize => ?_⟩)
  dsimp only
  generalize (if op.compressAndVerifyAndRecover then CnvMode.cnvnr else .cnv) = cnvMode
  split
  · exact .reject _ (by decide)
  · split
    · exact .reject _ (by decide)
    · split
      · exact .reject _ (by decide)
      · split
        · exact .reject _ (by decide)
        · exact .inr ⟨_, rfl⟩

theorem admitDecompressData_ends :
    (admitDecompressData svc sess env flush checksum).Ends sess env
      ⟨.decompression, flush, none, .noCnv, checksum⟩ := by
  refine .running fun srcBuffSize => ?_
  dsimp only
  split
  · exact .reject _ (by decide)
  · exact .inr ⟨_, rfl⟩

theorem admitDecompressData2_ends :
    (admitDecompressData2 svc sess env op checksum).Ends sess env
      ⟨.decompression, op.flushFlag, some op, .noCnv, checksum⟩ := by
  refine .running fun srcBuffSize => ?_
  dsimp only
  split
  · exact .reject _ (by decide)
  · exact .inr ⟨_, rfl⟩

end

end Ends

/-- `cpaDcCompressData`, `cpaDcCompressData2`, `cpaDcDecompressData` and `cpaDcDecompressData2`. -/
def Call.run (svc : Service) (sess : SessionDesc) (env : SubmitEnv) (call : Call) : Submitted :=
  (call.admission svc sess env).submit svc env

/-! ## Responses -/

/-- The fields of `icp_qat_fw_comp_resp_t` that the callback reads, and the verdict of the software
    on the integrity checksums. -/
structure Response where
  unsupported : Bool
  cmpStatOk : Bool
  xlatStatOk : Bool
  /-- The error codes as signed bytes. -/
  cmpErr : Int
  xlatErr : Int
  inputByteCounter : UInt32
  outputByteCounter : Nat
  currCrc32 : Nat
  currAdler32 : Nat
  /-- `dcHandleIntegrityChecksums`: its final status and checksum. -/
  integrity : Int × Nat

/-- `CPA_DC_OVERFLOW`. -/
def dcOverflow : Int := -11

/-- `CPA_DC_FATALERR`. -/
def dcFatalErr : Int := -13

/-- `CPA_DC_INCOMPLETE_FILE_ERR`. -/
def dcIncompleteFileErr : Int := -15

/-- `CPA_DC_CRC_INTEG_ERR`. -/
def dcCrcIntegErr : Int := -20

section

variable (svc : Service) (sess : SessionDesc)

/-- The decrement of the callbacks: the stateful counter only when it is not zero. -/
def SessionDesc.respPending : SessionDesc :=
  if sess.sessState = .stateless then
    { sess with pendingStatelessCbCount := sess.pendingStatelessCbCount - 1 }
  else if sess.pendingStatefulCbCount ≠ 0 then
    { sess with pendingStatefulCbCount := sess.pendingStatefulCbCount - 1 }
  else sess

/-- The compression status and error code after the incomplete-file errors are cancelled. -/
def cancelIncomplete (resp : Response) : Bool × Int :=
  if (¬ svc.isGen4 ∨ sess.compType = .deflate) ∧ resp.cmpErr = dcIncompleteFileErr then (true, 0)
  else (resp.cmpStatOk, resp.cmpErr)

/-- The request type the callback leaves for the next request. -/
def nextRequestType (flush : Flush) (pass : Bool) : RequestType :=
  if flush = .final ∧ pass then .first else .subsequent

/-- The checksum a successful response reports, by the type of the session. -/
def respChecksum (resp : Response) (old : Nat) : Nat :=
  match sess.checksumType with
  | .crc32 => resp.currCrc32
  | .adler32 | .xxhash32 => resp.currAdler32
  | .none | .crc32Adler32 => old

/-- The results and the return status of the callback, with the consumed bytes added to the session;
    `pass` is the final verdict on the compression and the translator, `status` the error code. A
    failed integrity check turns a success into a failure after the bytes are added. -/
def respResults (cookie : Cookie) (resp : Response) (results : Option Results) (pass : Bool)
    (status : Int) : SessionDesc × Option Results × CpaStatus :=
  match results, pass with
  | none, pass => (sess, none, if pass then .success else .fail)
  | some r, false =>
      (sess, some { r with status := status, consumed := 0, produced := 0 },
        if status ≠ 0 ∧ status ≠ dcIncompleteFileErr then .fail else .success)
  | some r, true =>
      let sess := { sess with
        cumulativeConsumedBytes := sess.cumulativeConsumedBytes + resp.inputByteCounter.toUInt64 }
      if svc.integrityCrcCheck && cookie.integrityCrcCheck && cookie.hasCrcData then
        if resp.integrity.1 = dcCrcIntegErr then
          (sess, some ⟨resp.integrity.1, 0, 0, resp.integrity.2⟩, .fail)
        else
          (sess, some ⟨resp.integrity.1, resp.outputByteCounter, resp.inputByteCounter,
            resp.integrity.2⟩, .success)
      else
        (sess, some ⟨status, resp.outputByteCounter, resp.inputByteCounter,
          respChecksum sess resp r.checksum⟩, .success)

/-- `dcCompression_ProcessCallback` for a traditional session: the session, the results and the
    status given to the user's callback; `none` for results stands for a NULL pointer. -/
def dcCompressionProcessCallback (cookie : Cookie) (resp : Response) (results : Option Results) :
    SessionDesc × Option Results × CpaStatus :=
  if resp.unsupported then
    (sess.respPending,
      results.map (fun r => { r with status := resp.cmpErr, consumed := 0, produced := 0 }),
      .unsupported)
  else
    let (cmpPass, cmpErr) := cancelIncomplete svc sess resp
    let dynamic := decide (cookie.compDecomp = .compression ∧ sess.huffType = .fullDynamic)
    let xlatPass := !dynamic || resp.xlatStatOk
    let xlatErr := if dynamic then resp.xlatErr else 0
    let status := if dynamic ∧ (cmpErr = 0 ∨ xlatErr = dcFatalErr) then xlatErr else cmpErr
    let sess := { sess with requestType := nextRequestType cookie.flushFlag (cmpPass && xlatPass) }
    -- an overflow is a valid outcome of everything but stateless decompression
    let overflowOk := decide (sess.sessState = .stateful ∨ cookie.compDecomp = .compression)
    let cmpPass := cmpPass || (overflowOk && decide (cmpErr = dcOverflow))
    let xlatPass := xlatPass || (overflowOk && decide (xlatErr = dcOverflow))
    let (sess, results, ret) :=
      respResults svc sess cookie resp results (cmpPass && xlatPass) status
    (sess.respPending, results, ret)

end

/-- `dcCompression_SwRespMsgCallback` for one request: a dummy response after a device error. -/
def dcCompressionSwRespMsgCallback (sess : SessionDesc) : SessionDesc := sess.decPending

end Qatlib.Compression
