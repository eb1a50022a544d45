import Qatlib.Compression.FwMessage

set_option autoImplicit false

/-! # The messages of a compression session

`dcInitSession` (`dc_session.c`) builds one template message per direction and keeps it in the session
descriptor; `dcCreateRequest` (`dc_datapath.c`) copies the template over the whole message of a cookie
and adds what varies from request to request. The flags, lengths and seeds of a request are those of
the data path model, so this module only places them. -/

namespace Qatlib.Compression.Fw

/-! ## Session descriptors -/

/-- The session descriptor with what its messages are built from. -/
structure FwSession extends SessionDesc where
  compLevel : Nat
  autoSelectBestHuffmanTree : AutoSelectBest
  lz4BlockMaxSize : BitVec 32
  lz4BlockChecksum : Bool
  lz4BlockIndependence : Bool
  accumulateXXHash : Bool
  minMatch : BitVec 32
  cnvErrorInjection : Bool
  reqCacheComp : CompRequest
  reqCacheDecomp : CompRequest

/-- What the outside answers while a session is initialised. -/
structure InitEnv where
  /-- The session handle and the setup data are not NULL. -/
  handlesOk : Bool
  /-- The size that `LacBuffDesc_BufferListVerify` finds for the context buffer; `none` for a buffer
      that is missing or invalid. -/
  contextBuffer : Option Nat
  /-- `LacBuffDesc_BufferListDescWrite` on the context buffer. -/
  contextDesc : Except CpaStatus (BitVec 64)
  /-- The physical address of the session; zero when it is not found. -/
  physAddress : BitVec 64
  /-- The physical addresses of the two groups of state registers. -/
  stateRegistersComp : BitVec 64
  stateRegistersDecomp : BitVec 64
  /-- The spinlock initialisations. -/
  sessionLock : CpaStatus
  updateLock : CpaStatus
  /-- No callback is given. -/
  syncCb : Bool

/-! ## Hardware blocks -/

/-- The field value of a request direction in the configuration word of older devices. -/
def dirBits : RequestDir → BitVec 32
  | .compression => 0
  | .decompression => 1

section

variable (svc : FwService) (sess : FwSession)

/-- `dcCompHwBlockPopulate`. -/
def dcCompHwBlockPopulate (dir : RequestDir) : CompConfig :=
  let depth : BitVec 32 :=
    match dir with
    | .decompression => 0
    | .compression =>
        match sess.compLevel with
        | 1 => 0
        | 2 => 1
        | 3 => 2
        | _ => depth16
  ⟨compressionConfigBuild (dirBits dir) svc.dmm 0 depth 0, 0⟩

/-- The search depth of generation 4, the hash collision setting and whether the block drop limit is
    lifted. -/
def dcSearchDepth : BitVec 32 × BitVec 32 × Bool :=
  match sess.compLevel with
  | 1 | 2 | 3 | 4 | 5 => (1, 1, false)
  | 6 | 7 | 8 => (3, 0, false)
  | 9 => (searchDepthLevel9, 0, false)
  | _ =>
      (svc.compDeviceData.highestHwCompressionDepth, 0,
        decide (sess.huffType = .fullDynamic ∧ sess.compType = .deflate))

/-- `dcCompHwBlockPopulateGen4`. -/
def dcCompHwBlockPopulateGen4 (dir : RequestDir) : CompConfig :=
  match dir with
  | .compression =>
      let (sd, hashCol, drop) := dcSearchDepth svc sess
      let static := sess.compType = .deflate ∧ sess.huffType ≠ .fullDynamic
      let lower : CompCsrLower :=
        { edmm := svc.dmm
          algo :=
            match sess.compType with
            | .deflate => if sess.huffType = .fullDynamic then 0 else 1
            | .lz4 => 2
            | .lz4s => 3
          sd := sd
          hbs := 0
          abd := 1
          lllbd := flag !drop
          mmctrl :=
            match sess.compType with
            | .deflate => 0
            | .lz4 => 1
            | .lz4s => sess.minMatch
          hashCol := hashCol
          hashUpdate := 1
          skipCtrl := flag (sess.compType = .deflate) }
      let upper : CompCsrUpper :=
        { scbCtrl := flag (static ∨ sess.compType = .lz4s)
          rmbCtrl := 0
          -- Replay mode is for stateful deflate only.
          somCtrl := flag (sess.compType = .deflate ∧ sess.sessState = .stateful)
          skipHashCtrl := 0
          scbUnloadCtrl := 0
          disableTokenFusionCtrl := 0
          lbms := if sess.compType = .lz4 then sess.lz4BlockMaxSize else 0
          -- `setBlockIndep` and `setBlockDep`.
          scbModeReset := flag (sess.compType = .lz4 ∧ sess.lz4BlockIndependence)
          lazy := 258
          nice := 259 }
      ⟨lower.build, upper.build⟩
  | .decompression =>
      let lower : DecompCsrLower :=
        match sess.compType with
        | .deflate => ⟨0, 0, 1, 0, 0⟩
        | .lz4 => ⟨0, sess.lz4BlockMaxSize, 2, 0, flag sess.lz4BlockChecksum⟩
        | .lz4s => ⟨0, 0, 0, 0, 0⟩
      ⟨lower.build, 0⟩

/-! ## Content descriptors -/

/-- `dcCompContentDescPopulate`; `stateAddr` is the physical address of the state registers of the
    direction. -/
def dcCompContentDescPopulate (contextBufferAddrPhys stateAddr : BitVec 64) (msg : CompRequest)
    (nextSlice : Slice) (dir : RequestDir) : CompRequest :=
  let restored := sess.sessState = .stateful ∧ dir = .decompression
  let (banks, enabled) :=
    if restored ∧ sess.compType = .deflate then
      (ramFlagsBuild false false false false true true true true true, true)
    else if restored ∧ sess.compType = .lz4 then
      (ramFlagsBuild false false false false false true true true true, true)
    else (ramFlagsBuild false false false false false false false false false, false)
  let config :=
    if svc.isGen4 then dcCompHwBlockPopulateGen4 svc sess dir
    else dcCompHwBlockPopulate svc sess dir
  { msg with
    cdPars := { msg.cdPars with lowerVal := config.lowerVal, upperVal := config.upperVal }
    compCdCtrl :=
      { ramBankFlags := banks
        compCfgOffset := 0
        nextCurrId := currIdSet (nextIdSet msg.compCdCtrl.nextCurrId nextSlice) .comp
        resrvd := 0
        compStateAddr := stateAddr
        ramBanksAddr := if enabled then contextBufferAddrPhys else 0 } }

end

section

variable (svc : FwService) (data : SetupData)

/-- `dcTransContentDescPopulate`. -/
def dcTransContentDescPopulate (msg : CompRequest) (nextSlice : Slice) : CompRequest :=
  { msg with
    xltCdCtrl :=
      { resrvd1 := 0
        resrvd2 := 0
        nextCurrId := currIdSet (nextIdSet msg.xltCdCtrl.nextCurrId nextSlice) .xlat
        resrvd3 := 0 } }

/-- `dcGetCompressCommandId`. -/
def dcGetCompressCommandId : Except CpaStatus (BitVec 8) :=
  match data.compType with
  | .deflate => .ok (if data.huffType = .fullDynamic then 1 else 0)
  | .lz4 => if svc.isGen4 then .ok 3 else .error .unsupported
  | .lz4s => if svc.isGen4 then .ok 5 else .error .unsupported

/-- `dcGetDecompressCommandId`. -/
def dcGetDecompressCommandId : Except CpaStatus (BitVec 8) :=
  match data.compType with
  | .deflate => .ok 2
  | .lz4 => if svc.isGen4 then .ok 4 else .error .unsupported
  | .lz4s => .error .unsupported

/-! ## Initialisation -/

/-- `dcGetContextSize`. -/
def dcGetContextSize : Except CpaStatus Nat :=
  if data.sessState = .stateful ∧ data.sessDirection ≠ .compress then
    match data.compType with
    | .deflate => .ok svc.inflateContextSize
    | .lz4 => .ok svc.lz4DecompContextSize
    | .lz4s => .error .fail
  else .ok 0

/-- The intermediate buffers of a dynamic session before generation 4: without them the session is
    made static when auto select best allows it. The caller's setup data is changed. -/
def interBuffersFor : Except CpaStatus SetupData :=
  if !svc.isGen4 ∧ data.huffType = .fullDynamic ∧ !svc.pInterBuffPtrsArray ∧
      svc.pInterBuffPtrsArrayPhyAddr = 0 then
    if data.autoSelectBestHuffmanTree = .staticDynamic then .ok { data with huffType := .static }
    else .error .resource
  else .ok data

/-- The context buffer of a stateful session: its size and its address, zero for a session that saves
    nothing. -/
def contextFor (env : InitEnv) : Except CpaStatus (Nat × BitVec 64) :=
  if data.sessState = .stateful ∧ (data.compType = .deflate ∨ data.compType = .lz4) then
    match dcGetContextSize svc data with
    | .error _ => .error .fail
    | .ok minContextSize =>
        if minContextSize = 0 then
          if env.physAddress = 0 then .error .fail else .ok (0, 0)
        else if svc.paramCheck ∧ ∀ size ∈ env.contextBuffer, size < minContextSize then
          .error .invalidParam
        else if env.physAddress = 0 then .error .fail
        else env.contextDesc.map (minContextSize, ·)
  else if env.physAddress = 0 then .error .fail
  else .ok (0, 0)

/-- The auto select best setting that a session keeps. -/
def sessionAutoSelectBest (asb : AutoSelectBest) : AutoSelectBest :=
  match svc.isGen4, asb with
  | false, .enabled => .uncompStaticDynamicWithStoredHdrs
  | false, asb => asb
  | true, .disabled => .disabled
  | true, _ => .enabled

/-- The descriptor after its fields are set and before its templates are built: everything else is
    zero. -/
def initDesc (syncCb : Bool) : FwSession where
  sessState := data.sessState
  sessDirection := data.sessDirection
  compType := data.compType
  huffType := data.huffType
  checksumType := data.checksum
  syncCb := syncCb
  requestType := .first
  previousRequestType := .first
  isSopForCompressionProcessed := false
  isSopForDecompressionProcessed := false
  cumulativeConsumedBytes := 0
  pendingStatelessCbCount := 0
  pendingStatefulCbCount := 0
  compLevel := data.compLevel
  autoSelectBestHuffmanTree := sessionAutoSelectBest svc data.autoSelectBestHuffmanTree
  lz4BlockMaxSize := data.lz4BlockMaxSize
  lz4BlockChecksum := data.lz4BlockChecksum
  lz4BlockIndependence := data.lz4BlockIndependence
  accumulateXXHash := data.accumulateXXHash
  minMatch := data.minMatch
  cnvErrorInjection := false
  reqCacheComp := .zero
  reqCacheDecomp := .zero

section

variable (sess : FwSession) (contextAddrPhys : BitVec 64) (env : InitEnv)

/-- The combinations with an accumulated xxHash that have no support, and the locks. -/
def initAllowed : CpaStatus :=
  let accumulates := sess.compType = .lz4 ∧ sess.accumulateXXHash
  if accumulates ∧ sess.autoSelectBestHuffmanTree = .enabled then .unsupported
  else if accumulates ∧ sess.sessState = .stateless ∧ sess.sessDirection ≠ .compress then
    .unsupported
  else if sess.sessState = .stateful ∧ env.sessionLock ≠ .success then .resource
  else if sess.sessState = .stateless ∧ env.updateLock ≠ .success then .resource
  else .success

/-- The content descriptor of the compression template. -/
def compTemplate : CompRequest :=
  if !svc.isGen4 ∧ data.huffType = .fullDynamic then
    let msg := dcTransContentDescPopulate
      (dcCompContentDescPopulate svc sess contextAddrPhys env.stateRegistersComp .zero .xlat
        .compression) .dramWr
    if svc.pInterBuffPtrsArrayPhyAddr = 0 then msg
    else { msg with interBuffPtr := svc.pInterBuffPtrsArrayPhyAddr }
  else
    dcCompContentDescPopulate svc sess contextAddrPhys env.stateRegistersComp .zero .dramWr
      .compression

/-- The content descriptor of the decompression template. -/
def decompTemplate : CompRequest :=
  dcCompContentDescPopulate svc sess contextAddrPhys env.stateRegistersDecomp .zero .dramWr
    .decompression

/-- The command flags of a session. -/
def sessionCmdFlags : BitVec 16 :=
  let (autoSelectBest, enhanced, disableType0) :=
    match sess.autoSelectBestHuffmanTree with
    | .disabled => (false, false, false)
    | .staticDynamic => (true, false, false)
    | .enabled | .uncompStaticDynamicWithStoredHdrs => (true, true, false)
    | .uncompStaticDynamicWithNoHdrs => (true, true, true)
  compFlagsBuild (sess.sessState = .stateful) autoSelectBest enhanced disableType0
    svc.compDeviceData.useDevRam

/-- The seeds and the header of a template: `ICP_QAT_FW_COMN_REQ_CPM_FW_COMP` with scatter-gather
    lists and the configuration word in the message. -/
def CompRequest.finishTemplate (msg : CompRequest) (dcCmdId : BitVec 8) (cmdFlags : BitVec 16) :
    CompRequest :=
  let msg := { msg with compPars := { msg.compPars with initialAdler := 1, initialCrc32 := 0 } }
  msg.cmnHdrWrite 9 dcCmdId (comnFlagsBuild 1 1) cmdFlags 0

/-- The two templates, for the directions that the session has. -/
def initTemplates :
    Except CpaStatus FwSession := do
  let cmdFlags := sessionCmdFlags svc sess
  let sess ←
    if data.sessDirection ≠ .decompress then do
      let dcCmdId ← dcGetCompressCommandId svc data
      pure { sess with
        reqCacheComp :=
          (compTemplate svc data sess contextAddrPhys env).finishTemplate dcCmdId cmdFlags }
    else pure sess
  if data.sessDirection ≠ .compress then do
    let dcCmdId ← dcGetDecompressCommandId svc data
    pure { sess with
      reqCacheDecomp :=
        (decompTemplate svc sess contextAddrPhys env).finishTemplate dcCmdId cmdFlags }
  else pure sess

end

/-- `dcInitSession`. -/
def dcInitSession (env : InitEnv) : Except CpaStatus FwSession :=
  if svc.paramCheck ∧ (!env.handlesOk ∨ dcCheckSessionData data ≠ .success) then
    .error .invalidParam
  else if data.sessState = .stateful ∧ data.sessDirection ≠ .decompress then .error .unsupported
  else if svc.isGen4 ∧ data.sessState = .stateful then .error .unsupported
  else do
    let data ← interBuffersFor svc data
    let (_, contextAddrPhys) ← contextFor svc data env
    let sess := initDesc svc data env.syncCb
    if initAllowed sess env ≠ .success then .error (initAllowed sess env)
    else initTemplates svc data sess contextAddrPhys env

end

variable {ctx : BitVec 64} {sess₀ : FwSession} {args : ReqArgs}

section Init

variable {svc : FwService} {data : SetupData} {env : InitEnv} {sess : FwSession}

theorem contextFor_stateless {ctx : Nat × BitVec 64} (hstate : data.sessState = .stateless)
    (h : contextFor svc data env = .ok ctx) : ctx = (0, 0) := by
  simp only [contextFor, hstate, reduceCtorEq, false_and, if_false] at h
  split at h
  · cases h
  · cases h
    rfl

/-- Only the Huffman type of the setup data can change. -/
theorem interBuffersFor_ok {data' : SetupData} (h : interBuffersFor svc data = .ok data') :
    data' = data ∨ svc.isGen4 = false ∧ data.huffType = .fullDynamic ∧
      svc.pInterBuffPtrsArray = false ∧ data' = { data with huffType := .static } := by
  unfold interBuffersFor at h
  split at h
  · next hc =>
      split at h
      · cases h
        exact .inr ⟨by simpa using hc.1, hc.2.1, by simpa using hc.2.2.1, rfl⟩
      · cases h
  · cases h
    exact .inl rfl

/-- What a successful initialisation of a stateless session returns. -/
theorem dcInitSession_templates (hstate : data.sessState = .stateless)
    (h : dcInitSession svc data env = .ok sess) :
    ∃ data', interBuffersFor svc data = .ok data' ∧
      initTemplates svc data' (initDesc svc data' env.syncCb) 0 env = .ok sess := by
  unfold dcInitSession at h
  split at h
  · cases h
  · simp only [hstate, reduceCtorEq, false_and, and_false, if_false] at h
    cases hinter : interBuffersFor svc data with
    | error status => simp [hinter, bind, Except.bind] at h
    | ok data' =>
        have hstate' : data'.sessState = .stateless := by
          obtain rfl | ⟨-, -, -, rfl⟩ := interBuffersFor_ok hinter <;> exact hstate
        cases hctx : contextFor svc data' env with
        | error status => simp [hinter, hctx, bind, Except.bind] at h
        | ok ctx =>
            simp only [hinter, hctx, bind, Except.bind] at h
            rw [contextFor_stateless hstate' hctx] at h
            split at h
            · cases h
            · exact ⟨data', rfl, h⟩

/-- What a successful initialisation of a stateless session has checked, and what it returns. -/
theorem dcInitSession_ok (hcheck : svc.paramCheck = true) (hstate : data.sessState = .stateless)
    (h : dcInitSession svc data env = .ok sess) :
    dcCheckSessionData data = .success ∧ ∃ data', interBuffersFor svc data = .ok data' ∧
      initTemplates svc data' (initDesc svc data' env.syncCb) 0 env = .ok sess := by
  refine ⟨?_, dcInitSession_templates hstate h⟩
  unfold dcInitSession at h
  split at h
  · cases h
  · next hok =>
      by_contra hne
      exact hok ⟨hcheck, .inr hne⟩

theorem initTemplates_compress (hdir : data.sessDirection = .compress)
    (hdeflate : data.compType = .deflate) (h : initTemplates svc data sess₀ ctx env = .ok sess) :
    sess = { sess₀ with
      reqCacheComp := (compTemplate svc data sess₀ ctx env).finishTemplate
        (if data.huffType = .fullDynamic then 1 else 0) (sessionCmdFlags svc sess₀) } := by
  simpa [initTemplates, dcGetCompressCommandId, hdir, hdeflate, bind, Except.bind, pure,
    Except.pure] using h.symm

theorem initTemplates_decompress (hdir : data.sessDirection = .decompress)
    (hdeflate : data.compType = .deflate) (h : initTemplates svc data sess₀ ctx env = .ok sess) :
    sess = { sess₀ with
      reqCacheDecomp := (decompTemplate svc sess₀ ctx env).finishTemplate 2
        (sessionCmdFlags svc sess₀) } := by
  simpa [initTemplates, dcGetDecompressCommandId, hdir, hdeflate, bind, Except.bind, pure,
    Except.pure] using h.symm

end Init

/-! ## Requests -/

/-- The flags of `req_par_flags` besides the xxHash accumulator. Errors are injected only where
    generation 4 verifies the compressed data. -/
def rpCmdFlags (isGen4 errorInjection : Bool) (cnvMode : CnvMode) (req : CompReq) : BitVec 32 :=
  reqParamFlagsBuild req.sop req.eop req.bFinal req.cnvDecompReq req.cnvRecovery
    (cnvMode != .noCnv && isGen4 && errorInjection) req.e2eCrc

/-- The parameters of one request: lengths, seeds or the address of the CRC buffer, and flags. -/
def CompPars.write (pars : CompPars) (req : CompReq) (crcDataAddr : BitVec 64)
    (reqParFlags : BitVec 32) : CompPars :=
  { pars with
    compLen := BitVec.ofNat 32 req.compLen
    outBufferSz := BitVec.ofNat 32 req.outBufferSz
    initialCrc32 := if req.e2eCrc then crcDataAddr.setWidth 32 else BitVec.ofNat 32 req.initialCrc32
    initialAdler :=
      if req.e2eCrc then (crcDataAddr >>> 32).setWidth 32 else BitVec.ofNat 32 req.initialAdler
    reqParFlags := reqParFlags }

/-- The template of a direction. -/
def FwSession.reqCache (sess : FwSession) : RequestDir → CompRequest
  | .compression => sess.reqCacheComp
  | .decompression => sess.reqCacheDecomp

/-- The message of a request: the template of its direction with the request placed in it. -/
def FwSession.message (sess : FwSession) (svc : FwService) (args : ReqArgs) (env : FwEnv)
    (req : CompReq) : CompRequest :=
  let msg := sess.reqCache args.compDecomp
  let flags := xxhashAccModeSet (rpCmdFlags svc.isGen4 sess.cnvErrorInjection args.cnvMode req)
    sess.accumulateXXHash
  let msg := { msg with compPars := msg.compPars.write req env.crcDataAddr flags }
  msg.cmnMidWrite env.cookieAddr .sgl env.srcAddrPhys env.dstAddrPhys 0 0

/-- `dcCreateRequest`: the session and the message of the cookie. The template is copied over all of
    the message, so nothing is left of what the cookie held. -/
def dcCreateRequest (svc : FwService) (sess : FwSession) (args : ReqArgs) (env : FwEnv) :
    Except CpaStatus (FwSession × CompRequest) :=
  match Compression.dcCreateRequest svc.toService sess.toSessionDesc args env.toSubmitEnv with
  | .error status => .error status
  | .ok (desc, cookie) =>
      .ok ({ sess with toSessionDesc := desc }, sess.message svc args env cookie.request)

/-- What the first request of a stateless session writes. -/
def firstReq (svc : Service) (sess : SessionDesc) (args : ReqArgs) (env : SubmitEnv) : CompReq where
  sop := true
  eop := true
  bFinal := (args.opData.map OpData.flushFlag).getD args.flushFlag = .final
  cnvDecompReq := args.cnvMode ≠ .noCnv
  cnvRecovery := args.cnvMode = .cnvnr
  e2eCrc := svc.integrityCrcCheck && (args.opData.map OpData.integrityCrcCheck).getD false
  initialCrc32 := 0
  initialAdler := 1
  compLen := env.srcTotalDataLenInBytes % 2 ^ 32
  outBufferSz := limitDest svc sess args env.dstTotalDataLenInBytes

theorem trimSource_stateless {svc : Service} {sess : SessionDesc} (len : Nat)
    (hstate : sess.sessState = .stateless) : trimSource svc sess args len = len := by
  simp [trimSource, hstate]

/-- The message of the first request of a stateless session, and the failures before it. -/
theorem dcCreateRequest_first {svc : FwService} {sess : FwSession} {env : FwEnv}
    (hstate : sess.sessState = .stateless) (hfirst : sess.requestType = .first) :
    (dcCreateRequest svc sess args env).map Prod.snd =
      let req := firstReq svc.toService sess.toSessionDesc args env.toSubmitEnv
      if env.srcDesc ≠ .success then .error env.srcDesc
      else if env.dstDesc ≠ .success then .error env.dstDesc
      else if req.e2eCrc && !env.crcAddrOk then .error .fail
      else .ok (sess.message svc args env req) := by
  unfold dcCreateRequest Compression.dcCreateRequest
  by_cases hsrc : env.srcDesc = .success
  · by_cases hdst : env.dstDesc = .success
    · by_cases hcrc : (svc.integrityCrcCheck &&
          (args.opData.map OpData.integrityCrcCheck).getD false && !env.crcAddrOk) = true
      · simp [hsrc, hdst, hcrc, firstReq, Except.map]
      · simp [hsrc, hdst, hcrc, firstReq, Except.map, markPacket, hstate, hfirst,
          trimSource_stateless _ hstate]
    · simp [hsrc, hdst, Except.map]
  · simp [hsrc, Except.map]

end Qatlib.Compression.Fw
