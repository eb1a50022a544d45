import Qatlib.Compression.SessionMessage

set_option autoImplicit false

/-! # The no-session interface

The no-session calls (`dc_ns_datapath.c`) take the setup data with every request and write the whole
request into the message of a cookie. The cookie comes from the pool with the message of its last
request, or whatever the memory of the pool held, and is not cleared: in a message that is
`CompRequest.Blank` the words that no store of the no-session path reaches are zero.

The result compares the message with the one of the session interface, for the first request of a
stateless session with the same setup data. They agree, with three settings that the no-session
interface decides for itself: `noSession`. In a cookie that is not blank the words not
stored keep what they held: `keeping`. -/

namespace Qatlib.Compression.Fw

open CompRequest

/-! ## Building a message -/

section

variable (svc : FwService) (data : SetupData)

/-- `dcNsCompHwBlockPopulate`. -/
def dcNsCompHwBlockPopulate (compDecomp : RequestDir) : CompConfig :=
  let (dir, depth) : BitVec 32 × BitVec 32 :=
    match compDecomp with
    | .decompression => (1, 0)
    | .compression =>
        (0,
          match data.compLevel with
          | 1 => 0
          | 2 => 1
          | 3 => 2
          | 4 => depth16
          | _ => svc.compDeviceData.highestHwCompressionDepth)
  ⟨compressionConfigBuild dir svc.dmm 0 depth 0, 0⟩

/-- The search depth of generation 4, the hash collision setting and whether the block drop limit is
    lifted. -/
def dcNsSearchDepth : BitVec 32 × BitVec 32 × Bool :=
  match data.compLevel with
  | 1 | 2 | 3 | 4 | 5 => (1, 1, false)
  | 6 | 7 | 8 => (3, 0, false)
  | 9 => (searchDepthLevel9, 0, false)
  | _ =>
      (svc.compDeviceData.highestHwCompressionDepth, 0,
        decide (data.huffType = .fullDynamic ∧ data.compType = .deflate))

/-- `dcNsCompHwBlockPopulateGen4`. -/
def dcNsCompHwBlockPopulateGen4 (compDecomp : RequestDir) : CompConfig :=
  match compDecomp with
  | .compression =>
      let (sd, hashCol, drop) := dcNsSearchDepth svc data
      let static := data.compType = .deflate ∧ data.huffType ≠ .fullDynamic
      let lower : CompCsrLower :=
        { edmm := svc.dmm
          algo :=
            match data.compType with
            | .deflate => if data.huffType = .fullDynamic then 0 else 1
            | .lz4 => 2
            | .lz4s => 3
          sd := sd
          hbs := 0
          abd := 1
          lllbd := flag !drop
          mmctrl :=
            match data.compType with
            | .deflate => 0
            | .lz4 => 1
            | .lz4s => data.minMatch
          hashCol := hashCol
          hashUpdate := 1
          skipCtrl := flag (data.compType = .deflate) }
      let upper : CompCsrUpper :=
        { scbCtrl := flag (static ∨ data.compType = .lz4s)
          rmbCtrl := 0
          somCtrl := 0
          skipHashCtrl := 0
          scbUnloadCtrl := 0
          disableTokenFusionCtrl := 0
          lbms := if data.compType = .lz4 then data.lz4BlockMaxSize else 0
          scbModeReset := 0
          lazy := 258
          nice := 259 }
      ⟨lower.build, upper.build⟩
  | .decompression =>
      let lower : DecompCsrLower :=
        match data.compType with
        | .deflate => ⟨0, 0, 1, 0, 0⟩
        | .lz4 => ⟨0, data.lz4BlockMaxSize, 2, 0, flag data.lz4BlockChecksum⟩
        | .lz4s => ⟨0, 0, 3, data.minMatch, 0⟩
      ⟨lower.build, 0⟩

/-- `dcNsCompContentDescPopulate`. -/
def dcNsCompContentDescPopulate (msg : CompRequest) (nextSlice : Slice) (compDecomp : RequestDir) :
    CompRequest :=
  let config :=
    if svc.isGen4 then dcNsCompHwBlockPopulateGen4 svc data compDecomp
    else dcNsCompHwBlockPopulate svc data compDecomp
  { msg with
    cdPars := { msg.cdPars with lowerVal := config.lowerVal, upperVal := config.upperVal }
    compCdCtrl :=
      { ramBankFlags := 0
        compCfgOffset := 0
        nextCurrId := currIdSet (nextIdSet msg.compCdCtrl.nextCurrId nextSlice) .comp
        resrvd := 0
        compStateAddr := 0
        ramBanksAddr := 0 } }

end

section

variable (msg : CompRequest) (svc : FwService) (data : SetupData)

/-- The auto select best setting of a request: generation 4 has one setting for the older ones. -/
def nsAutoSelectBest (asb : AutoSelectBest) : AutoSelectBest :=
  if svc.isGen4 then
    match asb with
    | .staticDynamic | .uncompStaticDynamicWithStoredHdrs | .uncompStaticDynamicWithNoHdrs =>
        .enabled
    | asb => asb
  else asb

/-- The command flags of a request. -/
def nsCmdFlags : BitVec 16 :=
  let secureRam := if hasInline svc.capabilitiesMask then true else svc.compDeviceData.useDevRam
  let (autoSelectBest, enhanced, disableType0) :=
    match nsAutoSelectBest svc data.autoSelectBestHuffmanTree with
    | .uncompStaticDynamicWithNoHdrs => (true, true, true)
    | .enabled | .uncompStaticDynamicWithStoredHdrs => (true, true, false)
    | .staticDynamic => (true, false, false)
    | .disabled => (false, false, false)
  compFlagsBuild false autoSelectBest enhanced disableType0 secureRam

/-- The intermediate buffers of dynamic compression before generation 4. -/
def CompRequest.nsInterBuff : CompRequest :=
  if !svc.isGen4 ∧ data.sessDirection = .compress ∧ data.huffType = .fullDynamic then
    { msg with interBuffPtr := svc.pInterBuffPtrsArrayPhyAddr }
  else msg

/-- The cleared translator header; the source calls it unused. -/
def CompRequest.clearXlt : CompRequest := { msg with xltCdCtrl := .zero }

/-- `dcNsCreateBaseRequest`: the part that depends on the setup data only. Every direction but
    compression is treated as decompression. -/
def dcNsCreateBaseRequest : Except CpaStatus CompRequest :=
  let dir : RequestDir := if data.sessDirection = .compress then .compression else .decompression
  let msg := ((dcNsCompContentDescPopulate svc data msg .dramWr dir).nsInterBuff svc data).clearXlt
  let dcCmdId :=
    if data.sessDirection = .compress then dcGetCompressCommandId svc data
    else dcGetDecompressCommandId svc data
  dcCmdId.map (msg.finishTemplate · (nsCmdFlags svc data))

/-- What a no-session request writes into the parameters. The seed of the checksum comes from the
    caller's results; xxHash has no seed. -/
def nsCompReq (args : ReqArgs) (env : FwEnv) : CompReq :=
  let flush := (args.opData.map OpData.flushFlag).getD args.flushFlag
  let integrityCrcCheck := (args.opData.map OpData.integrityCrcCheck).getD false
  { sop := true
    eop := true
    bFinal := flush = .final
    cnvDecompReq := args.cnvMode ≠ .noCnv
    cnvRecovery := args.cnvMode = .cnvnr
    e2eCrc := svc.integrityCrcCheck && integrityCrcCheck
    initialCrc32 :=
      match data.checksum with
      | .adler32 | .xxhash32 => 0
      | _ => args.checksum
    initialAdler :=
      match data.checksum with
      | .adler32 => args.checksum
      | .xxhash32 => 0
      | _ => 1
    compLen := env.srcTotalDataLenInBytes % 2 ^ 32
    outBufferSz :=
      if ¬ svc.isGen4 ∧ args.compDecomp = .compression ∧ data.huffType = .fullDynamic ∧
          svc.minInterBuffSizeInBytes < env.dstTotalDataLenInBytes % 2 ^ 32 then
        svc.minInterBuffSizeInBytes % 2 ^ 32
      else env.dstTotalDataLenInBytes % 2 ^ 32 }

/-- The second half of `dcNsCreateRequest`: the parameters and the middle section of the message. -/
def CompRequest.nsFinish (args : ReqArgs) (env : FwEnv) (req : CompReq) : CompRequest :=
  let cnvErrorInjection := args.cnvMode != .noCnv && svc.isGen4 && svc.nsIsCnvErrorInjection
  let rpCmdFlags := reqParamFlagsBuild req.sop req.eop req.bFinal req.cnvDecompReq
    req.cnvRecovery cnvErrorInjection req.e2eCrc
  -- A rolling checksum is not supported here: the accumulator flag is cleared.
  let flags := xxhashAccModeSet rpCmdFlags false
  let msg := { msg with compPars := msg.compPars.write req env.crcDataAddr flags }
  msg.cmnMidWrite env.cookieAddr .sgl env.srcAddrPhys env.dstAddrPhys 0 0

/-- `dcNsCreateRequest`, on the message `msg` that the cookie holds. -/
def dcNsCreateRequest (args : ReqArgs) (env : FwEnv) : Except CpaStatus CompRequest :=
  match dcNsCreateBaseRequest msg svc data with
  | .error status => .error status
  | .ok msg =>
      let req := nsCompReq svc data args env
      if env.srcDesc ≠ .success then .error env.srcDesc
      else if env.dstDesc ≠ .success then .error env.dstDesc
      else if req.e2eCrc && !env.crcAddrOk then .error .fail
      else .ok (msg.nsFinish svc args env req)

end

/-! ## Entry points -/

/-- One operation of a caller: its direction, its operation data, and `pResults->checksum`. -/
structure Operation where
  dir : RequestDir
  op : OpData
  checksum : Nat

/-- The verification mode of the operation. -/
def Operation.cnvMode (o : Operation) : CnvMode :=
  match o.dir with
  | .decompression => .noCnv
  | .compression =>
      if o.op.compressAndVerifyAndRecover then .cnvnr
      else if o.op.compressAndVerify then .cnv
      else .noCnv

section

variable (svc : FwService) (data : SetupData)

/-- The arguments with which the operation reaches the message builders. -/
def Operation.args (o : Operation) : ReqArgs :=
  ⟨o.dir, o.op.flushFlag, some o.op, o.cnvMode, o.checksum⟩

/-- The operation as a call of the session interface. -/
def Operation.call (o : Operation) : Call :=
  match o.dir with
  | .compression => .compressData2 o.op o.checksum
  | .decompression => .decompressData2 o.op o.checksum

/-- `dcNsCheckSourceData`. -/
def dcNsCheckSourceData (srcBuffSize : Nat) : Bool :=
  decide (srcBuffSize ≠ 0) && decide (srcBuffSize ≤ dcBufferMaxSize)

/-- `dcNsCheckDestinationData`. -/
def dcNsCheckDestinationData (env : FwEnv) (compDecomp : RequestDir) : Bool :=
  match env.destBuffSize with
  | none => false
  | some size =>
      decide (size ≤ dcBufferMaxSize) &&
        match compDecomp with
        | .compression =>
            if data.huffType = .fullDynamic then
              (svc.isGen4 || (svc.pInterBuffPtrsArrayPhyAddr != 0 && svc.pInterBuffPtrsArray)) &&
                decide (svc.minOutputBuffSizeDynamic ≤ size)
            else decide (svc.minOutputBuffSize ≤ size)
        | .decompression => decide (0 < size)

/-- The flush flags of stateful operation. -/
def statefulFlush (flush : Flush) : Bool := flush = .none ∨ flush = .sync

/-- The parameter checks of `cpaDcNsCompressData` on the setup and the operation data. -/
def nsCompressParams (op : OpData) : Bool :=
  dcCheckSessionData data = .success && data.sessDirection = .compress &&
    data.sessState ≠ .stateful && !(data.compType = .lz4 && data.accumulateXXHash) &&
    !(data.compType = .lz4 && op.integrityCrcCheck) && dcCheckOpData svc.toService op &&
    (op.compressAndVerify || !op.compressAndVerifyAndRecover) && !statefulFlush op.flushFlag

/-- The parameter checks of `cpaDcNsDecompressData` on the setup and the operation data. -/
def nsDecompressParams (op : OpData) : Bool :=
  dcCheckSessionData data = .success && data.sessDirection = .decompress &&
    data.sessState ≠ .stateful && dcCheckOpData svc.toService op && !statefulFlush op.flushFlag

/-- The parameter checks on the buffers. -/
def nsBuffers (env : FwEnv) (dir : RequestDir) (srcBuffSize : Nat) : Bool :=
  dcNsCheckSourceData srcBuffSize && dcNsCheckDestinationData svc data env dir && env.buffersOk

/-- The checks of `cpaDcNsCompressData`. -/
def admitNsCompressData (env : FwEnv) (op : OpData) (checksum : Nat) : Except CpaStatus ReqArgs :=
  if !op.compressAndVerify then .error .unsupported
  else if svc.paramCheck && !env.handlesOk then .error .invalidParam
  else
    match env.notRunning with
    | some status => .error status
    | none =>
        if svc.paramCheck && !nsCompressParams svc data op then .error .invalidParam
        else
          match env.srcBuffSize with
          | none => .error .invalidParam
          | some srcBuffSize =>
              if svc.paramCheck && !nsBuffers svc data env .compression srcBuffSize then
                .error .invalidParam
              else if !svc.cnvCapability && op.compressAndVerify then .error .unsupported
              else
                .ok ⟨.compression, op.flushFlag, some op,
                  if op.compressAndVerifyAndRecover then .cnvnr
                  else if op.compressAndVerify then .cnv else .noCnv, checksum⟩

/-- The checks of `cpaDcNsDecompressData`; without parameter checks the source is not looked at. -/
def admitNsDecompressData (env : FwEnv) (op : OpData) (checksum : Nat) : Except CpaStatus ReqArgs :=
  if svc.paramCheck && !env.handlesOk then .error .invalidParam
  else
    match env.notRunning with
    | some status => .error status
    | none =>
        if svc.paramCheck && !(nsDecompressParams svc data op &&
            env.srcBuffSize.any (nsBuffers svc data env .decompression)) then .error .invalidParam
        else .ok ⟨.decompression, op.flushFlag, some op, .noCnv, checksum⟩

end

/-- The operation as a call of the no-session interface. -/
def Operation.admitNs (o : Operation) (svc : FwService) (data : SetupData) (env : FwEnv) :
    Except CpaStatus ReqArgs :=
  match o.dir with
  | .compression => admitNsCompressData svc data env o.op o.checksum
  | .decompression => admitNsDecompressData svc data env o.op o.checksum

/-! ## The two messages -/

/-- The words of a message that the no-session path never stores, and the intermediate buffer pointer
    that it stores for dynamic compression before generation 4 only, are zero. -/
structure CompRequest.Blank (msg : CompRequest) : Prop where
  contentDescResrvd4 : msg.cdPars.contentDescResrvd4 = 0
  contentDescResrvd3 : msg.cdPars.contentDescResrvd3 = 0
  srcLength : msg.comnMid.srcLength = 0
  dstLength : msg.comnMid.dstLength = 0
  rsrvd : msg.compPars.rsrvd = 0
  interBuffPtr : msg.interBuffPtr = 0
  resrvd3 : msg.resrvd3 = 0

/-- A message with those words as `old` has them. -/
def CompRequest.keeping (msg old : CompRequest) : CompRequest :=
  { msg with
    cdPars :=
      { msg.cdPars with
        contentDescResrvd4 := old.cdPars.contentDescResrvd4
        contentDescResrvd3 := old.cdPars.contentDescResrvd3 }
    comnMid :=
      { msg.comnMid with srcLength := old.comnMid.srcLength, dstLength := old.comnMid.dstLength }
    compPars := { msg.compPars with rsrvd := old.compPars.rsrvd }
    interBuffPtr := old.interBuffPtr
    resrvd3 := old.resrvd3 }

theorem CompRequest.keeping_blank {msg old : CompRequest} (hmsg : msg.Blank) (hold : old.Blank) :
    msg.keeping old = msg := by
  simp only [keeping, hold.contentDescResrvd4.trans hmsg.contentDescResrvd4.symm,
    hold.contentDescResrvd3.trans hmsg.contentDescResrvd3.symm,
    hold.srcLength.trans hmsg.srcLength.symm, hold.dstLength.trans hmsg.dstLength.symm,
    hold.rsrvd.trans hmsg.rsrvd.symm, hold.interBuffPtr.trans hmsg.interBuffPtr.symm,
    hold.resrvd3.trans hmsg.resrvd3.symm]

/-- The error injection flag of `req_par_flags`. -/
def cnvDfxSet (flags : BitVec 32) (val : Bool) : BitVec 32 := fieldSet flags (flag val) 18 1

/-- A session's message with the settings that the no-session interface makes itself: no state
    registers, secure RAM off on a device with the inline capability, errors injected by the setting
    of the instance, and no accumulated xxHash. -/
def CompRequest.noSession (msg : CompRequest) (svc : FwService) (o : Operation) : CompRequest :=
  { msg with
    comnHdr :=
      { msg.comnHdr with
        servSpecifFlags :=
          if hasInline svc.capabilitiesMask then
            msg.comnHdr.servSpecifFlags ||| (1 <<< 7 : BitVec 16)
          else msg.comnHdr.servSpecifFlags }
    compPars :=
      { msg.compPars with
        reqParFlags :=
          xxhashAccModeSet (cnvDfxSet msg.compPars.reqParFlags
              (o.cnvMode != .noCnv && svc.isGen4 && svc.nsIsCnvErrorInjection))
            false }
    compCdCtrl := { msg.compCdCtrl with compStateAddr := 0 } }

section Words

/-- Both halves of the slice byte are replaced. -/
theorem currIdSet_nextIdSet (b b' : BitVec 8) (next curr : Slice) :
    currIdSet (nextIdSet b next) curr = currIdSet (nextIdSet b' next) curr := by
  have hnext : ∀ c : BitVec 8,
      nextIdSet c next &&& (0xF0 : BitVec 8) = (next.id <<< 4) &&& 0xF0 := by
    intro c
    rw [nextIdSet, BitVec.and_or_distrib_right, BitVec.and_assoc, BitVec.and_assoc]
    simp
  rw [currIdSet, currIdSet, hnext, hnext]

/-- Setting the error injection and clearing the accumulator of a built word is building it so. -/
theorem xxhashAccModeSet_cnvDfxSet : ∀ sop eop bFinal cnv cnvnr cnvDfx crc acc val : Bool,
    xxhashAccModeSet (cnvDfxSet
      (xxhashAccModeSet (reqParamFlagsBuild sop eop bFinal cnv cnvnr cnvDfx crc) acc) val) false =
    xxhashAccModeSet (reqParamFlagsBuild sop eop bFinal cnv cnvnr val crc) false := by
  decide +kernel

/-- Setting the secure RAM flag of built command flags is building them so. -/
theorem compFlagsBuild_or_secureRam : ∀ sessType autoSelect enhancedAsb retUncomp secureRam : Bool,
    compFlagsBuild sessType autoSelect enhancedAsb retUncomp secureRam ||| (1 <<< 7 : BitVec 16) =
    compFlagsBuild sessType autoSelect enhancedAsb retUncomp true := by
  decide +kernel

end Words

section Agreement

variable {svc : FwService} {data : SetupData} {sess : FwSession} {dir : RequestDir}

section

variable (hlevel : sess.compLevel = data.compLevel)
include hlevel

theorem dcNsSearchDepth_eq (htype : sess.compType = data.compType)
    (hhuff : sess.huffType = data.huffType) :
    dcNsSearchDepth svc data = dcSearchDepth svc sess := by
  rw [dcSearchDepth, hlevel, htype, hhuff]
  rfl

/-- Generation 4: the configuration words of stateless deflate are the same. -/
theorem dcNsCompHwBlockPopulateGen4_eq (hdeflate : data.compType = .deflate)
    (htype : sess.compType = data.compType) (hstate : sess.sessState = .stateless)
    (hhuff : dir = .compression → sess.huffType = data.huffType) :
    dcNsCompHwBlockPopulateGen4 svc data dir = dcCompHwBlockPopulateGen4 svc sess dir := by
  cases dir with
  | decompression => simp [dcNsCompHwBlockPopulateGen4, dcCompHwBlockPopulateGen4, htype, hdeflate]
  | compression =>
      simp [dcNsCompHwBlockPopulateGen4, dcCompHwBlockPopulateGen4, htype, hdeflate, hstate,
        hhuff rfl, dcNsSearchDepth_eq hlevel htype (hhuff rfl), flag]

/-- Earlier generations: the levels above 4 need a device that searches no deeper than 16. -/
theorem dcNsCompHwBlockPopulate_eq
    (hdepth : dir = .compression → 4 < data.compLevel →
      svc.compDeviceData.highestHwCompressionDepth = depth16) (hpos : 0 < data.compLevel) :
    dcNsCompHwBlockPopulate svc data dir = dcCompHwBlockPopulate svc sess dir := by
  cases dir with
  | decompression => rfl
  | compression =>
      simp only [dcNsCompHwBlockPopulate, dcCompHwBlockPopulate, hlevel, dirBits]
      rcases hl : data.compLevel with _ | _ | _ | _ | _ | n
      · omega
      · rfl
      · rfl
      · rfl
      · rfl
      · simp [hdepth rfl (by omega)]

end

/-- The command flags agree, the secure RAM of an inline device apart. -/
theorem nsCmdFlags_eq (hstate : sess.sessState = .stateless)
    (hasb : sess.autoSelectBestHuffmanTree =
      sessionAutoSelectBest svc data.autoSelectBestHuffmanTree) :
    nsCmdFlags svc data =
      if hasInline svc.capabilitiesMask then sessionCmdFlags svc sess ||| (1 <<< 7 : BitVec 16)
      else sessionCmdFlags svc sess := by
  have hbuild : ∀ auto enhanced disable : Bool, compFlagsBuild false auto enhanced disable
          (if hasInline svc.capabilitiesMask then true else svc.compDeviceData.useDevRam) =
        if hasInline svc.capabilitiesMask then
          compFlagsBuild false auto enhanced disable svc.compDeviceData.useDevRam |||
            (1 <<< 7 : BitVec 16)
        else compFlagsBuild false auto enhanced disable svc.compDeviceData.useDevRam := by
    intro auto enhanced disable
    split
    · rw [compFlagsBuild_or_secureRam]
    · rfl
  simp only [nsCmdFlags, sessionCmdFlags, nsAutoSelectBest, hasb, hstate, sessionAutoSelectBest]
  cases svc.isGen4 <;> cases data.autoSelectBestHuffmanTree <;> exact hbuild _ _ _

end Agreement

open Operation

section Accepted

variable {svc : FwService} {data : SetupData} {env : FwEnv} {o : Operation}

/-- The setup direction that the no-session interface accepts for an operation. -/
def Operation.sessDirection (o : Operation) : SessionDir :=
  match o.dir with
  | .compression => .compress
  | .decompression => .decompress

variable {args : ReqArgs} {op : OpData} {checksum : Nat}

section

variable (hcheck : svc.paramCheck = true)
include hcheck

theorem admitNsCompressData_ok (h : admitNsCompressData svc data env op checksum = .ok args) :
    nsCompressParams svc data op = true ∧ args = ⟨.compression, op.flushFlag, some op,
        if op.compressAndVerifyAndRecover then .cnvnr
        else if op.compressAndVerify then .cnv else .noCnv, checksum⟩ := by
  simp only [admitNsCompressData, hcheck, Bool.true_and] at h
  split at h
  · cases h
  split at h
  · cases h
  split at h
  · cases h
  split at h
  · cases h
  next hparams =>
    split at h
    · cases h
    split at h
    · cases h
    split at h
    · cases h
    exact ⟨by simpa using hparams, (Except.ok.inj h).symm⟩

theorem admitNsDecompressData_ok (h : admitNsDecompressData svc data env op checksum = .ok args) :
    nsDecompressParams svc data op = true ∧
      args = ⟨.decompression, op.flushFlag, some op, .noCnv, checksum⟩ := by
  simp only [admitNsDecompressData, hcheck, Bool.true_and] at h
  split at h
  · cases h
  split at h
  · cases h
  split at h
  · cases h
  next hparams =>
    have hboth : nsDecompressParams svc data op = true ∧
        env.srcBuffSize.any (nsBuffers svc data env .decompression) = true := by
      simpa using hparams
    exact ⟨hboth.1, (Except.ok.inj h).symm⟩

/-- What an accepted no-session operation has been checked for. -/
theorem Operation.admitNs_ok (h : o.admitNs svc data env = .ok args) :
    args = o.args ∧ data.sessState = .stateless ∧ data.sessDirection = o.sessDirection := by
  have hstate : data.sessState ≠ .stateful → data.sessState = .stateless := by
    cases data.sessState <;> simp
  unfold admitNs at h
  cases hdir : o.dir with
  | compression =>
      rw [hdir] at h
      obtain ⟨hparams, rfl⟩ := admitNsCompressData_ok hcheck h
      simp only [nsCompressParams, Bool.and_eq_true, decide_eq_true_eq] at hparams
      obtain ⟨⟨⟨⟨⟨⟨⟨-, hcompress⟩, hless⟩, -⟩, -⟩, -⟩, -⟩, -⟩ := hparams
      refine ⟨?_, hstate hless, ?_⟩
      · simp [args, cnvMode, hdir]
      · simp [sessDirection, hdir, hcompress]
  | decompression =>
      rw [hdir] at h
      obtain ⟨hparams, rfl⟩ := admitNsDecompressData_ok hcheck h
      simp only [nsDecompressParams, Bool.and_eq_true, decide_eq_true_eq] at hparams
      obtain ⟨⟨⟨⟨-, hdecompress⟩, hless⟩, -⟩, -⟩ := hparams
      refine ⟨?_, hstate hless, ?_⟩
      · simp [args, cnvMode, hdir]
      · simp [sessDirection, hdir, hdecompress]

end

/-- The arguments that `cpaDcCompressData` gives to a request without operation data. -/
def Operation.plainArgs (o : Operation) : ReqArgs :=
  ⟨.compression, o.op.flushFlag, none, .cnvnr, o.checksum⟩

variable {svc : Service} {desc sess : SessionDesc} {env : SubmitEnv}

theorem admitCompressData2_accept (hstate : sess.sessState = .stateless)
    (h : admitCompressData2 svc sess env op checksum = .accept desc args) :
    desc = sess ∧ op.compressAndVerify = true ∧ (args = ⟨.compression, op.flushFlag, some op,
          if op.compressAndVerifyAndRecover then .cnvnr else .cnv, checksum⟩ ∨
        op.compressAndVerifyAndRecover = true ∧ op.integrityCrcCheck = false ∧
          args = ⟨.compression, op.flushFlag, none, .cnvnr, checksum⟩) := by
  rcases admitCompressData2_ends svc sess env op checksum with
    ⟨code, -, hreject⟩ | ⟨hplain, hends⟩ | ⟨hcnv, hends⟩
  · rw [hreject] at h
    cases h
  · obtain ⟨hdesc, hargs⟩ := hends.accepted hstate h
    obtain ⟨⟨hcnv, hrecover⟩, hinteg⟩ : (op.compressAndVerify = true ∧
        op.compressAndVerifyAndRecover = true) ∧ op.integrityCrcCheck = false := by
      simpa using hplain
    exact ⟨hdesc, hcnv, .inr ⟨hrecover, hinteg, hargs⟩⟩
  · obtain ⟨hdesc, hargs⟩ := hends.accepted hstate h
    exact ⟨hdesc, hcnv, .inl hargs⟩

/-- The accepted requests of a stateless session. Compression with recovery and without integrity
    checks loses its operation data on the way. -/
theorem Operation.admission_stateless (hstate : sess.sessState = .stateless)
    (h : o.call.admission svc sess env = .accept desc args) :
    desc = sess ∧ (args = o.args ∨
      o.dir = .compression ∧ o.cnvMode = .cnvnr ∧ o.op.integrityCrcCheck = false ∧
        args = o.plainArgs) := by
  unfold Operation.call at h
  cases hdir : o.dir with
  | compression =>
      rw [hdir] at h
      obtain ⟨hdesc, hcnv, hargs | ⟨hrecover, hinteg, hargs⟩⟩ := admitCompressData2_accept hstate h
      · exact ⟨hdesc, .inl (by simp [hargs, Operation.args, Operation.cnvMode, hdir, hcnv])⟩
      · exact ⟨hdesc, .inr ⟨rfl, by simp [Operation.cnvMode, hdir, hrecover], hinteg, hargs⟩⟩
  | decompression =>
      rw [hdir] at h
      obtain ⟨hdesc, hargs⟩ := (admitDecompressData2_ends ..).accepted hstate h
      exact ⟨hdesc, .inl (by simp [hargs, Operation.args, Operation.cnvMode, hdir])⟩

end Accepted

section Refines

variable {svc : FwService} {data : SetupData} {sess : FwSession} {env : FwEnv} {o : Operation}

/-- Dynamic compression before generation 4, which needs the translator slice. -/
def Translated (svc : FwService) (data : SetupData) (o : Operation) : Prop :=
  svc.isGen4 = false ∧ o.dir = .compression ∧ data.huffType = .fullDynamic

/-- The command of a deflate request. -/
def deflateCmdId (data : SetupData) (o : Operation) : BitVec 8 :=
  match o.dir with
  | .compression => if data.huffType = .fullDynamic then 1 else 0
  | .decompression => 2

/-- A new stateless session of the setup data, as the operation sees it. -/
structure SessionFor (svc : FwService) (data : SetupData) (o : Operation) (sess : FwSession) :
    Prop where
  sessState : sess.sessState = .stateless
  requestType : sess.requestType = .first
  compType : sess.compType = data.compType
  compLevel : sess.compLevel = data.compLevel
  huffType : o.dir = .compression → sess.huffType = data.huffType
  autoSelectBest : sess.autoSelectBestHuffmanTree =
    sessionAutoSelectBest svc data.autoSelectBestHuffmanTree
  template : ∃ stateAddr, sess.reqCache o.dir =
    (dcCompContentDescPopulate svc sess 0 stateAddr .zero .dramWr o.dir).finishTemplate
      (deflateCmdId data o) (sessionCmdFlags svc sess)

theorem initTemplates_sessionFor {env : InitEnv} {data' : SetupData}
    (hstate : data.sessState = .stateless) (hdir : data.sessDirection = o.sessDirection)
    (hdeflate : data.compType = .deflate) (hxlat : ¬ Translated svc data o)
    (hdata : data' = data ∨ svc.isGen4 = false ∧ data.huffType = .fullDynamic ∧
      svc.pInterBuffPtrsArray = false ∧ data' = { data with huffType := .static })
    (h : initTemplates svc data' (initDesc svc data' env.syncCb) 0 env = .ok sess) :
    SessionFor svc data o sess := by
  cases ho : o.dir with
  | compression =>
      -- Without the translator the setup data cannot have been made static.
      obtain rfl : data' = data := by
        refine hdata.resolve_right fun hstatic => hxlat ⟨hstatic.1, ho, hstatic.2.1⟩
      have hdir' : data'.sessDirection = .compress := by rw [hdir, sessDirection, ho]
      obtain rfl := initTemplates_compress hdir' hdeflate h
      have hslice : ¬ ((!svc.isGen4) = true ∧ data'.huffType = .fullDynamic) :=
        fun hc => hxlat ⟨by simpa using hc.1, ho, hc.2⟩
      refine ⟨hstate, rfl, rfl, rfl, fun _ => rfl, rfl, env.stateRegistersComp, ?_⟩
      simp only [ho, FwSession.reqCache, deflateCmdId, compTemplate, if_neg hslice]
      rfl
  | decompression =>
      have hdir' : data'.sessDirection = .decompress := by
        have hd : data.sessDirection = .decompress := by rw [hdir, sessDirection, ho]
        obtain rfl | ⟨-, -, -, rfl⟩ := hdata <;> exact hd
      have hdeflate' : data'.compType = .deflate := by
        obtain rfl | ⟨-, -, -, rfl⟩ := hdata <;> exact hdeflate
      obtain rfl := initTemplates_decompress hdir' hdeflate' h
      obtain rfl | ⟨-, -, -, rfl⟩ := hdata <;>
        refine ⟨hstate, rfl, rfl, rfl, by simp [ho], rfl, env.stateRegistersDecomp, ?_⟩ <;>
        · simp only [ho, FwSession.reqCache, deflateCmdId, decompTemplate]
          rfl

/-- The results hold the initial value of the checksum that the setup asks for. -/
def InitialChecksum (data : SetupData) (o : Operation) : Prop :=
  data.checksum = .crc32 ∧ o.checksum = 0 ∨ data.checksum = .adler32 ∧ o.checksum = 1

/-- The two CRC checksums are for deflate only. -/
theorem deflate_of_checked (hok : dcCheckSessionData data = .success)
    (hsum : InitialChecksum data o) : data.compType = .deflate := by
  unfold dcCheckSessionData at hok
  obtain ⟨hsum, -⟩ | ⟨hsum, -⟩ := hsum <;> cases ht : data.compType <;> simp [hsum, ht] at hok ⊢

theorem compLevel_pos_of_checked (hok : dcCheckSessionData data = .success) :
    0 < data.compLevel := by
  unfold dcCheckSessionData at hok
  by_contra hpos
  simp [show data.compLevel < 1 by omega] at hok

/-- Seeds, lengths and flags of the two interfaces. -/
theorem nsCompReq_eq_firstReq (hsum : InitialChecksum data o) (hsess : SessionFor svc data o sess) :
    nsCompReq svc data o.args env =
      firstReq svc.toService sess.toSessionDesc o.args env.toSubmitEnv := by
  have hdest : o.args.compDecomp = .compression → sess.huffType = data.huffType := hsess.huffType
  have hlimit : limitDest svc.toService sess.toSessionDesc o.args env.dstTotalDataLenInBytes =
      (nsCompReq svc data o.args env).outBufferSz := by
    unfold limitDest nsCompReq
    by_cases hc : o.args.compDecomp = .compression
    · simp only [hdest hc]
    · simp [hc]
  rw [firstReq, hlimit]
  obtain ⟨htype, hval⟩ | ⟨htype, hval⟩ := hsum <;> simp [nsCompReq, htype, args, hval]

/-- Losing the operation data changes nothing in the message. -/
theorem message_plainArgs (hdir : o.dir = .compression) (hcnv : o.cnvMode = .cnvnr)
    (hinteg : o.op.integrityCrcCheck = false) :
    firstReq svc.toService sess.toSessionDesc o.plainArgs env.toSubmitEnv =
        firstReq svc.toService sess.toSessionDesc o.args env.toSubmitEnv ∧
      ∀ req, sess.message svc o.plainArgs env req = sess.message svc o.args env req := by
  constructor
  · have hlimit : ∀ len, limitDest svc.toService sess.toSessionDesc o.plainArgs len =
        limitDest svc.toService sess.toSessionDesc o.args len := by
      intro len
      simp [limitDest, plainArgs, args, hdir]
    rw [firstReq, firstReq, hlimit]
    simp [plainArgs, args, hcnv, hinteg]
    rfl
  · intro req
    simp [FwSession.message, plainArgs, args, hdir, hcnv]

/-- The base request of an accepted setup. -/
def nsBase (msg : CompRequest) (svc : FwService) (data : SetupData) (o : Operation) : CompRequest :=
  (dcNsCompContentDescPopulate svc data msg .dramWr o.dir).clearXlt.finishTemplate
    (deflateCmdId data o) (nsCmdFlags svc data)

theorem dcNsCreateBaseRequest_eq (msg : CompRequest) (hdir : data.sessDirection = o.sessDirection)
    (hdeflate : data.compType = .deflate) (hxlat : ¬ Translated svc data o) :
    dcNsCreateBaseRequest msg svc data = .ok (nsBase msg svc data o) := by
  unfold dcNsCreateBaseRequest
  cases ho : o.dir with
  | compression =>
      have hcompress : data.sessDirection = .compress := by rw [hdir, sessDirection, ho]
      have hslice : ∀ msg : CompRequest, msg.nsInterBuff svc data = msg :=
        fun msg => if_neg fun hc => hxlat ⟨by simpa using hc.1, ho, hc.2.2⟩
      simp [hslice, hcompress, dcGetCompressCommandId, hdeflate, Except.map, nsBase, deflateCmdId,
        ho]
  | decompression =>
      have hdecompress : data.sessDirection = .decompress := by rw [hdir, sessDirection, ho]
      have hslice : ∀ msg : CompRequest, msg.nsInterBuff svc data = msg :=
        fun msg => if_neg fun hc => by simp [hdecompress] at hc
      simp [hslice, hdecompress, dcGetDecompressCommandId, hdeflate, Except.map, nsBase,
        deflateCmdId, ho]

/-- The message is the session's, with the settings of the no-session interface and what the cookie
    held before in the words that are not stored. -/
theorem nsFinish_eq (msg : CompRequest) (req : CompReq)
    (hdeflate : data.compType = .deflate) (hpos : 0 < data.compLevel)
    (hdepth : o.dir = .compression → 4 < data.compLevel →
      svc.device ≠ .c4xxx ∧ svc.device ≠ .c4xxxvf) (hsess : SessionFor svc data o sess) :
    (nsBase msg svc data o).nsFinish svc o.args env req =
      ((sess.message svc o.args env req).noSession svc o).keeping msg := by
  obtain ⟨stateAddr, htemplate : sess.reqCache o.args.compDecomp = _⟩ := hsess.template
  have hflags := nsCmdFlags_eq hsess.sessState hsess.autoSelectBest
  have hconfig : (if svc.isGen4 then dcNsCompHwBlockPopulateGen4 svc data o.dir
      else dcNsCompHwBlockPopulate svc data o.dir) =
      if svc.isGen4 then dcCompHwBlockPopulateGen4 svc sess o.dir
      else dcCompHwBlockPopulate svc sess o.dir := by
    split
    · exact dcNsCompHwBlockPopulateGen4_eq hsess.compLevel hdeflate hsess.compType
        hsess.sessState hsess.huffType
    · next hgen =>
        refine dcNsCompHwBlockPopulate_eq hsess.compLevel (fun hc hl => ?_) hpos
        exact svc.depth_eq_of_ne_c4xxx (by simpa using hgen) (hdepth hc hl)
  have hids : currIdSet (nextIdSet msg.compCdCtrl.nextCurrId .dramWr) .comp =
      currIdSet (nextIdSet zero.compCdCtrl.nextCurrId .dramWr) .comp :=
    currIdSet_nextIdSet ..
  have hbanks : ramFlagsBuild false false false false false false false false false = 0 := rfl
  rw [FwSession.message, htemplate]
  -- Word by word: what the cookie held before shows only in the words that are kept.
  ext : 1 <;> simp [nsFinish, noSession, keeping, cmnMidWrite,
      finishTemplate, cmnHdrWrite, nsBase, clearXlt,
      dcNsCompContentDescPopulate, dcCompContentDescPopulate, zero, CompPars.write,
      rpCmdFlags, args, xxhashAccModeSet_cnvDfxSet, hflags, hconfig, hids, hbanks,
      hsess.sessState]

/-- A session's message is built on a cleared one. -/
theorem message_blank (req : CompReq) (hsess : SessionFor svc data o sess) :
    ((sess.message svc o.args env req).noSession svc o).Blank := by
  obtain ⟨stateAddr, htemplate : sess.reqCache o.args.compDecomp = _⟩ := hsess.template
  rw [FwSession.message, htemplate]
  exact ⟨rfl, rfl, rfl, rfl, rfl, rfl, rfl⟩

/-- An operation that both interfaces accept, with the initial checksum in its results, gives the
    message of the first request of a stateless session for the same setup data, up to the settings
    of `noSession` and, if they are not zero, the words that the cookie keeps. Dynamic
    compression before generation 4 and the levels above 4 of a C4XXX are left out. -/
theorem noSession_request_eq {msg : CompRequest} {init : InitEnv} {desc : SessionDesc}
    {nsArgs args : ReqArgs} (hcheck : svc.paramCheck = true)
    (hinit : dcInitSession svc data init = .ok sess)
    (hns : o.admitNs svc data env = .ok nsArgs)
    (haccept : o.call.admission svc.toService sess.toSessionDesc env.toSubmitEnv =
      .accept desc args)
    (hsum : InitialChecksum data o) (hxlat : ¬ Translated svc data o)
    (hdepth : o.dir = .compression → 4 < data.compLevel →
      svc.device ≠ .c4xxx ∧ svc.device ≠ .c4xxxvf) :
    dcNsCreateRequest msg svc data nsArgs env =
        (dcCreateRequest svc sess args env).map (fun r => (r.2.noSession svc o).keeping msg) ∧
      (msg.Blank → dcNsCreateRequest msg svc data nsArgs env =
        (dcCreateRequest svc sess args env).map fun r => r.2.noSession svc o) := by
  obtain ⟨rfl, hstate, hdir⟩ := o.admitNs_ok hcheck hns
  obtain ⟨hok, data', hinter, htemplates⟩ := dcInitSession_ok hcheck hstate hinit
  have hdeflate := deflate_of_checked hok hsum
  have hsess : SessionFor svc data o sess :=
    initTemplates_sessionFor hstate hdir hdeflate hxlat (interBuffersFor_ok hinter) htemplates
  -- The session interface builds the same message with and without the operation data.
  have hargs : firstReq svc.toService sess.toSessionDesc args env.toSubmitEnv =
        firstReq svc.toService sess.toSessionDesc o.args env.toSubmitEnv ∧
      ∀ req, sess.message svc args env req = sess.message svc o.args env req := by
    obtain ⟨-, rfl | ⟨hc, hcnv, hinteg, rfl⟩⟩ := o.admission_stateless hsess.sessState haccept
    · exact ⟨rfl, fun _ => rfl⟩
    · exact message_plainArgs hc hcnv hinteg
  have hkeep (req : CompReq) : (nsBase msg svc data o).nsFinish svc o.args env req =
      ((sess.message svc o.args env req).noSession svc o).keeping msg :=
    nsFinish_eq msg req hdeflate (compLevel_pos_of_checked hok) hdepth hsess
  have houtcome (f : CompRequest → CompRequest)
      (hf : ∀ req, (nsBase msg svc data o).nsFinish svc o.args env req =
        f (sess.message svc o.args env req)) :
      dcNsCreateRequest msg svc data o.args env =
        (dcCreateRequest svc sess args env).map fun r => f r.2 := by
    have hmap : (dcCreateRequest svc sess args env).map (fun r => f r.2) =
        ((dcCreateRequest svc sess args env).map Prod.snd).map f := by
      cases dcCreateRequest svc sess args env <;> rfl
    rw [hmap, dcCreateRequest_first hsess.sessState hsess.requestType, hargs.1,
      ← nsCompReq_eq_firstReq hsum hsess, dcNsCreateRequest,
      dcNsCreateBaseRequest_eq msg hdir hdeflate hxlat]
    simp only [hargs.2, hf, apply_ite (Except.map _)]
    rfl
  refine ⟨houtcome (fun r => (r.noSession svc o).keeping msg) hkeep, fun hblank => ?_⟩
  refine houtcome (·.noSession svc o) fun req => ?_
  rw [hkeep, keeping_blank (message_blank req hsess) hblank]

end Refines

/-! ## Sample operations -/

/-- A started instance on a device. -/
def sampleFwService (device : DeviceType) (capabilitiesMask : BitVec 32) (inject : Bool)
    (compDeviceData : CompDeviceData)
    (h : compressionInitCompData device .sku1 capabilitiesMask = some compDeviceData) :
    FwService where
  paramCheck := true
  isGen4 := device.isGen4
  integrityCrcCheck := false
  cnvCapability := true
  cnvnrCapability := true
  interBuffersDefined := true
  minInterBuffSizeInBytes := 65536
  minOutputBuffSizeDynamic := 128
  minOutputBuffSize := 128
  oddByteDecompNobFinal := true
  oddByteDecompInterim := true
  device := device
  sku := .sku1
  capabilitiesMask := capabilitiesMask
  pInterBuffPtrsArray := true
  pInterBuffPtrsArrayPhyAddr := 0x7000
  nsIsCnvErrorInjection := inject
  inflateContextSize := 0
  lz4DecompContextSize := 0
  compDeviceData := compDeviceData
  isGen4_eq := rfl
  interBuffers_eq := rfl
  compDeviceData_eq := ⟨_, h⟩

/-- A 4XXX device. -/
def sample4xxx (inject : Bool) : FwService :=
  sampleFwService .dev4xxx 0 inject ⟨false, true, searchDepthLevel9⟩ rfl

/-- A C62X device. -/
def sampleC62x (capabilitiesMask : BitVec 32) : FwService :=
  sampleFwService .c62x capabilitiesMask false ⟨false, true, depth16⟩ rfl

/-- A C4XXX device. -/
def sampleC4xxx : FwService := sampleFwService .c4xxx 0 false ⟨false, true, depth128⟩ rfl

/-- Stateless deflate compression with CRC32. -/
def sampleSetup (compLevel : Nat) (huffType : HuffType) (accumulateXXHash : Bool) :
    SetupData where
  compLevel := compLevel
  compType := .deflate
  huffType := huffType
  autoSelectBestHuffmanTree := .disabled
  sessDirection := .compress
  sessState := .stateless
  minMatch := 0
  lz4BlockMaxSize := 0
  lz4BlockChecksum := false
  lz4BlockIndependence := false
  checksum := .crc32
  accumulateXXHash := accumulateXXHash

/-- A session in which everything outside succeeds. -/
def sampleInit : InitEnv where
  handlesOk := true
  contextBuffer := none
  contextDesc := .ok 0
  physAddress := 0x1000
  stateRegistersComp := 0x1040
  stateRegistersDecomp := 0x1080
  sessionLock := .success
  updateLock := .success
  syncCb := false

/-- A request of 1024 bytes in which everything outside succeeds. -/
def sampleFwEnv : FwEnv where
  handlesOk := true
  notRunning := none
  srcBuffSize := some 1024
  buffersOk := true
  destBuffSize := some 2048
  syncCookie := .success
  syncStatus := .success
  poolActive := true
  srcDesc := .success
  srcTotalDataLenInBytes := 1024
  dstDesc := .success
  dstTotalDataLenInBytes := 2048
  crcAddrOk := true
  putMsg := .success
  stateChecksum := 0
  srcAddrPhys := 0x2000
  dstAddrPhys := 0x3000
  cookieAddr := 0x4000
  crcDataAddr := 0x5000
  crcAddr_ok := rfl

/-- Verified compression of the last block. -/
def sampleOperation : Operation where
  dir := .compression
  op :=
    { flushFlag := .final
      compressAndVerify := true
      compressAndVerifyAndRecover := false
      integrityCrcCheck := false
      verifyHwIntegrityCrcs := false
      hasCrcData := false }
  checksum := 0

theorem noSession_request_eq_4xxx :
    ∃ sess desc nsArgs args,
      dcInitSession (sample4xxx true) (sampleSetup 12 .fullDynamic true) sampleInit = .ok sess ∧
      sampleOperation.admitNs (sample4xxx true) (sampleSetup 12 .fullDynamic true) sampleFwEnv =
        .ok nsArgs ∧
      sampleOperation.call.admission (sample4xxx true).toService sess.toSessionDesc
        sampleFwEnv.toSubmitEnv = .accept desc args ∧
      (∀ msg, dcNsCreateRequest msg (sample4xxx true) (sampleSetup 12 .fullDynamic true) nsArgs
          sampleFwEnv =
        (dcCreateRequest (sample4xxx true) sess args sampleFwEnv).map
          fun r => (r.2.noSession (sample4xxx true) sampleOperation).keeping msg) ∧
      dcNsCreateRequest .zero (sample4xxx true) (sampleSetup 12 .fullDynamic true) nsArgs
          sampleFwEnv =
        (dcCreateRequest (sample4xxx true) sess args sampleFwEnv).map
          fun r => r.2.noSession (sample4xxx true) sampleOperation := by
  have hinit : dcInitSession (sample4xxx true) (sampleSetup 12 .fullDynamic true) sampleInit =
      .ok _ := rfl
  refine ⟨_, _, _, _, hinit, rfl, rfl, fun msg => ?_, ?_⟩
  · exact (noSession_request_eq rfl hinit rfl rfl (.inl ⟨rfl, rfl⟩) (fun h => by cases h.1)
      fun _ _ => by decide).1
  · exact (noSession_request_eq rfl hinit rfl rfl (.inl ⟨rfl, rfl⟩) (fun h => by cases h.1)
      fun _ _ => by decide).2 ⟨rfl, rfl, rfl, rfl, rfl, rfl, rfl⟩

section

variable (msg : CompRequest) (svc : FwService) (data : SetupData)

/-- The first message of a new session, for setup data and an operation that are accepted. -/
def sessionMessage (init : InitEnv) (env : FwEnv) (o : Operation) : Option CompRequest :=
  match dcInitSession svc data init with
  | .error _ => none
  | .ok sess =>
      match o.call.admission svc.toService sess.toSessionDesc env.toSubmitEnv with
      | .reject _ _ => none
      | .accept _ args => ((dcCreateRequest svc sess args env).map Prod.snd).toOption

/-- The message of the no-session interface, for setup data and an operation that are accepted, in a
    cookie that holds `msg`. -/
def noSessionMessage (env : FwEnv) (o : Operation) : Option CompRequest :=
  match o.admitNs svc data env with
  | .error _ => none
  | .ok args => (dcNsCreateRequest msg svc data args env).toOption

/-- A message without the address of the state registers. -/
def CompRequest.dropState : CompRequest :=
  { msg with compCdCtrl := { msg.compCdCtrl with compStateAddr := 0 } }

/-- Both interfaces build a message, and the two differ outside the state address. -/
def differs (o : Operation) : Bool :=
  match noSessionMessage msg svc data sampleFwEnv o,
      sessionMessage svc data sampleInit sampleFwEnv o with
  | some m, some m' => m.dropState ≠ m'.dropState
  | _, _ => false

end

/-- The messages differ by the accumulated xxHash, by the injected error and by the secure RAM of an
    inline device, which the no-session interface sets itself; and for dynamic compression on a C62X,
    for level 5 on a C4XXX, and for static compression in the cookie of an earlier dynamic session
    request. -/
theorem noSession_request_differs :
    (∀ level huff acc, InitialChecksum (sampleSetup level huff acc) sampleOperation) ∧
    differs .zero (sample4xxx false) (sampleSetup 1 .static true) sampleOperation = true ∧
    differs .zero (sample4xxx true) (sampleSetup 1 .static false) sampleOperation = true ∧
    differs .zero (sampleC62x 0x200000) (sampleSetup 1 .static false) sampleOperation = true ∧
    differs .zero (sampleC62x 0) (sampleSetup 1 .fullDynamic false) sampleOperation = true ∧
    differs .zero sampleC4xxx (sampleSetup 5 .static false) sampleOperation = true ∧
    (sessionMessage (sampleC62x 0) (sampleSetup 1 .fullDynamic false) sampleInit sampleFwEnv
      sampleOperation).any
        (fun earlier => differs earlier (sampleC62x 0) (sampleSetup 1 .static false)
          sampleOperation) = true := by
  refine ⟨fun _ _ _ => .inl ⟨rfl, rfl⟩, ?_⟩
  decide +kernel

end Qatlib.Compression.Fw
