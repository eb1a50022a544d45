import Qatlib.Compression.NoSession

set_option autoImplicit false

/-! # Updating a compression session

`cpaDcUpdateSession` (`dc_session.c`) changes the level and the Huffman type of a session and the
delayed match mode of its instance, and patches the cached compression request in place. Whether the
patched request is the one that `dcInitSession` would build now depends on how the slices are chained:
`dcInitSession` decides that by the device generation and the algorithm, the update by the Huffman
type alone. -/

namespace Qatlib.Compression.Fw

open CompRequest

/-- `CpaDcSessionUpdateData`. -/
structure UpdateData where
  compLevel : Nat
  huffType : HuffType
  enableDmm : Bool

/-- The instance with another delayed match mode. -/
def FwService.setDmm (svc : FwService) (enableDmm : Bool) : FwService :=
  { svc with
    compDeviceData := { svc.compDeviceData with enableDmm := enableDmm }
    compDeviceData_eq := svc.compDeviceData_eq }

section

variable (msg : CompRequest) (svc : FwService) (sess : FwSession)

/-- `dcCheckUpdateSession`. -/
def dcCheckUpdateSession (upd : UpdateData) : CpaStatus :=
  if !svc.isGen4 ∧ upd.huffType = .fullDynamic ∧ !svc.pInterBuffPtrsArray ∧
      svc.pInterBuffPtrsArrayPhyAddr = 0 then .resource
  else if sess.sessState = .stateful then .invalidParam
  else if sess.sessDirection = .decompress then .invalidParam
  else .success

/-- The slice that follows the compression slice. -/
def CompRequest.setNext (next : Slice) : CompRequest :=
  { msg with
    compCdCtrl := { msg.compCdCtrl with
      nextCurrId := currIdSet (nextIdSet msg.compCdCtrl.nextCurrId next) .comp } }

/-- `service_cmd_id` of the header. -/
def CompRequest.setCmdId (cmdId : BitVec 8) : CompRequest :=
  { msg with comnHdr := { msg.comnHdr with serviceCmdId := cmdId } }

/-- The slices and the command of a cached request, by the new Huffman type. -/
def CompRequest.rechain (huffType : HuffType) : CompRequest :=
  if huffType = .fullDynamic then
    let msg := dcTransContentDescPopulate (msg.setNext .xlat) .dramWr
    { msg with interBuffPtr := svc.pInterBuffPtrsArrayPhyAddr }.setCmdId 1
  else (msg.setNext .dramWr).setCmdId 0

/-- The hardware configuration word of compression requests. -/
def compConfig : CompConfig :=
  if svc.isGen4 then dcCompHwBlockPopulateGen4 svc sess .compression
  else dcCompHwBlockPopulate svc sess .compression

/-- The configuration word of a message. -/
def CompRequest.setConfig (config : CompConfig) : CompRequest :=
  { msg with
    cdPars := { msg.cdPars with lowerVal := config.lowerVal, upperVal := config.upperVal } }

/-- `dcUpdateSession`: the instance and the session. -/
def dcUpdateSession (upd : UpdateData) : FwService × FwSession :=
  let svc := svc.setDmm upd.enableDmm
  let sess := { sess with compLevel := upd.compLevel, huffType := upd.huffType }
  (svc, { sess with
    reqCacheComp := (sess.reqCacheComp.rechain svc upd.huffType).setConfig (compConfig svc sess) })

/-- `cpaDcUpdateSession`; `handlesOk` stands for the checks on the handles and the update data. -/
def cpaDcUpdateSession (handlesOk : Bool) (notRunning : Option CpaStatus) (upd : UpdateData) :
    CpaStatus × FwService × FwSession :=
  if svc.paramCheck && !handlesOk then (.invalidParam, svc, sess)
  else
    match notRunning with
    | some status => (status, svc, sess)
    | none =>
        if dcCheckUpdateSession svc sess upd = .success then
          (.success, dcUpdateSession svc sess upd)
        else (dcCheckUpdateSession svc sess upd, svc, sess)

end

/-- The setup data with the update in it. -/
def SetupData.updated (data : SetupData) (upd : UpdateData) : SetupData :=
  { data with compLevel := upd.compLevel, huffType := upd.huffType }

/-! ## Templates by their parts -/

/-- What goes into a cached compression request besides its configuration word: the slices and the
    intermediate buffers. -/
structure Chaining where
  next : Slice
  xlt : XltCdCtrl
  interBuffPtr : BitVec 64

/-- The cached compression request of a stateless session. -/
def template (config : CompConfig) (stateAddr : BitVec 64) (cmdFlags : BitVec 16) (c : Chaining)
    (cmdId : BitVec 8) : CompRequest where
  comnHdr :=
    { resrvd1 := 0
      serviceCmdId := cmdId
      serviceType := 9
      hdrFlags := (1 &&& 1 : BitVec 8) <<< 7
      servSpecifFlags := cmdFlags
      comnReqFlags := comnFlagsBuild 1 1
      extendedServSpecifFlags := 0 }
  cdPars := ⟨config.lowerVal, config.upperVal, 0, 0⟩
  comnMid := ⟨0, 0, 0, 0, 0⟩
  compPars := ⟨0, 0, 0, 1, 0, 0⟩
  interBuffPtr := c.interBuffPtr
  resrvd3 := 0
  compCdCtrl :=
    { ramBankFlags := ramFlagsBuild false false false false false false false false false
      compCfgOffset := 0
      nextCurrId := currIdSet (nextIdSet 0 c.next) .comp
      resrvd := 0
      compStateAddr := stateAddr
      ramBanksAddr := 0 }
  xltCdCtrl := c.xlt

/-- A template before its seeds and its header are written. -/
def CompRequest.withoutHeader (msg : CompRequest) : CompRequest :=
  { msg with comnHdr := ⟨0, 0, 0, 0, 0, 0, 0⟩, compPars := ⟨0, 0, 0, 0, 0, 0⟩ }

/-- The header of the translator slice. -/
def xltHeader : XltCdCtrl := ⟨0, 0, currIdSet (nextIdSet 0 .dramWr) .xlat, 0⟩

/-- The compression slice alone. -/
def Chaining.plain : Chaining := ⟨.dramWr, .zero, 0⟩

/-- The compression slice followed by the translator. -/
def Chaining.translated (svc : FwService) : Chaining :=
  ⟨.xlat, xltHeader, svc.pInterBuffPtrsArrayPhyAddr⟩

/-- How `dcInitSession` chains the slices. -/
def Chaining.init (svc : FwService) (huffType : HuffType) : Chaining :=
  if !svc.isGen4 ∧ huffType = .fullDynamic then .translated svc else .plain

/-- How an update leaves them. -/
def Chaining.update (c : Chaining) (svc : FwService) (huffType : HuffType) : Chaining :=
  if huffType = .fullDynamic then .translated svc else { c with next := .dramWr }

variable {upd : UpdateData} {cmdId : BitVec 8} {svc : FwService} {data : SetupData} {env : InitEnv}

theorem template_inj {config : CompConfig} {stateAddr : BitVec 64} {cmdFlags : BitVec 16}
    {c c' : Chaining} {cmdId' : BitVec 8} :
    template config stateAddr cmdFlags c cmdId = template config stateAddr cmdFlags c' cmdId' ↔
      c = c' ∧ cmdId = cmdId' := by
  constructor
  · intro h
    have hnext : currIdSet (nextIdSet 0 c.next) .comp = currIdSet (nextIdSet 0 c'.next) .comp :=
      congrArg (fun msg => msg.compCdCtrl.nextCurrId) h
    have hslice : c.next = c'.next := by
      revert hnext
      cases c.next <;> cases c'.next <;> decide
    obtain ⟨next, xlt, inter⟩ := c
    obtain ⟨next', xlt', inter'⟩ := c'
    obtain rfl : next = next' := hslice
    obtain rfl : xlt = xlt' := congrArg xltCdCtrl h
    obtain rfl : inter = inter' := congrArg interBuffPtr h
    exact ⟨rfl, congrArg (fun msg => msg.comnHdr.serviceCmdId) h⟩
  · rintro ⟨rfl, rfl⟩
    rfl

open Chaining

theorem compTemplate_eq {sess : FwSession} (hstate : sess.sessState = .stateless)
    (cmdId : BitVec 8) (cmdFlags : BitVec 16) :
    (compTemplate svc data sess 0 env).finishTemplate cmdId cmdFlags =
      template (compConfig svc sess) env.stateRegistersComp cmdFlags
        (.init svc data.huffType) cmdId := by
  -- without a bank the content descriptor does not depend on the context buffer
  have hdesc : ∀ next, dcCompContentDescPopulate svc sess 0 env.stateRegistersComp .zero next
      .compression = (template (compConfig svc sess) env.stateRegistersComp 0 ⟨next, .zero, 0⟩
        0).withoutHeader := by
    intro next
    simp [dcCompContentDescPopulate, hstate, template, compConfig, zero, withoutHeader]
  unfold compTemplate init
  split
  · dsimp only
    rw [hdesc]
    split
    · next haddr =>
      rw [translated, haddr]
      rfl
    · rfl
  · rw [hdesc]
    rfl

/-- What an update makes of a template. -/
theorem rechain_template (svc : FwService) (huffType : HuffType) (config config' : CompConfig)
    (stateAddr : BitVec 64) (cmdFlags : BitVec 16) (c : Chaining) (cmdId : BitVec 8) :
    ((template config stateAddr cmdFlags c cmdId).rechain svc huffType).setConfig config' =
      template config' stateAddr cmdFlags (c.update svc huffType)
        (if huffType = .fullDynamic then 1 else 0) := by
  unfold rechain update
  split
  · simp [template, setNext, setCmdId, setConfig,
      dcTransContentDescPopulate, translated, xltHeader, currIdSet_nextIdSet _ 0]
  · simp [template, setNext, setCmdId, setConfig, currIdSet_nextIdSet _ 0]

/-! ## Sessions -/

section Sessions

variable {svc : FwService} {data : SetupData} {env : InitEnv} {sess : FwSession}

theorem initTemplates_comp {sess₀ : FwSession} {ctx : BitVec 64}
    (hdir : data.sessDirection ≠ .decompress)
    (h : initTemplates svc data sess₀ ctx env = .ok sess) :
    ∃ cmdId decomp, dcGetCompressCommandId svc data = .ok cmdId ∧ sess = { sess₀ with
        reqCacheComp := (compTemplate svc data sess₀ ctx env).finishTemplate cmdId
          (sessionCmdFlags svc sess₀)
        reqCacheDecomp := decomp } := by
  unfold initTemplates at h
  rw [if_pos hdir] at h
  cases hcmd : dcGetCompressCommandId svc data with
  | error status => simp [hcmd, bind, Except.bind] at h
  | ok cmdId =>
      simp only [hcmd, bind, Except.bind, pure, Except.pure] at h
      split at h
      · cases hdecomp : dcGetDecompressCommandId svc data with
        | error status => simp [hdecomp] at h
        | ok decompId =>
            simp only [hdecomp, Except.ok.injEq] at h
            exact ⟨cmdId, _, rfl, h.symm⟩
      · simp only [Except.ok.injEq] at h
        exact ⟨cmdId, sess₀.reqCacheDecomp, rfl, h.symm⟩

theorem dcInitSession_comp (hstate : data.sessState = .stateless)
    (hdir : data.sessDirection ≠ .decompress) (h : dcInitSession svc data env = .ok sess) :
    ∃ data' cmdId decomp, interBuffersFor svc data = .ok data' ∧
      dcGetCompressCommandId svc data' = .ok cmdId ∧
      sess = { initDesc svc data' env.syncCb with
        reqCacheComp := template (compConfig svc (initDesc svc data' env.syncCb))
          env.stateRegistersComp (sessionCmdFlags svc (initDesc svc data' env.syncCb))
          (.init svc data'.huffType) cmdId
        reqCacheDecomp := decomp } := by
  obtain ⟨data', hinter, htempl⟩ := dcInitSession_templates hstate h
  have hkeep : data'.sessState = data.sessState ∧ data'.sessDirection = data.sessDirection := by
    obtain rfl | ⟨-, -, -, rfl⟩ := interBuffersFor_ok hinter <;> exact ⟨rfl, rfl⟩
  obtain ⟨cmdId, decomp, hcmd, hsess⟩ := initTemplates_comp (hkeep.2 ▸ hdir) htempl
  refine ⟨data', cmdId, decomp, hinter, hcmd, ?_⟩
  have hstate' : (initDesc svc data' env.syncCb).sessState = .stateless := hkeep.1.trans hstate
  rw [hsess, compTemplate_eq hstate']

/-- A valid update leaves the setup data alone when a session is initialised with it. -/
theorem interBuffersFor_updated (h : dcCheckUpdateSession svc sess upd = .success) :
    interBuffersFor (svc.setDmm upd.enableDmm) (data.updated upd) = .ok (data.updated upd) := by
  unfold dcCheckUpdateSession at h
  split at h
  · cases h
  · next hbuf => exact if_neg hbuf

/-- The update chains the slices and picks the command as `dcInitSession` would: on generation 4 a
    deflate session that does not become dynamic, before it a session that becomes dynamic or was
    not. -/
def UpdateFits (svc : FwService) (sess : FwSession) (upd : UpdateData) : Prop :=
  if svc.isGen4 then sess.compType = .deflate ∧ upd.huffType ≠ .fullDynamic
  else upd.huffType = .fullDynamic ∨ sess.huffType ≠ .fullDynamic

theorem xltHeader_ne_zero : xltHeader ≠ .zero := by decide

theorem Chaining.init_gen4 (hgen : svc.isGen4 = true) (huffType : HuffType) :
    init svc huffType = .plain := by
  simp [init, hgen]

theorem Chaining.init_dynamic (hgen : svc.isGen4 = false) :
    init svc .fullDynamic = .translated svc := by
  simp [init, hgen]

theorem Chaining.init_static {huffType : HuffType} (h : huffType ≠ .fullDynamic) :
    init svc huffType = .plain := by
  simp [init, h]

theorem chaining_update_iff {old : HuffType} (hcmd : dcGetCompressCommandId svc data = .ok cmdId) :
    (init svc old).update svc data.huffType = .init svc data.huffType ∧
        (if data.huffType = .fullDynamic then 1 else 0) = cmdId ↔
      if svc.isGen4 then data.compType = .deflate ∧ data.huffType ≠ .fullDynamic
      else data.huffType = .fullDynamic ∨ old ≠ .fullDynamic := by
  unfold dcGetCompressCommandId at hcmd
  by_cases hgen : svc.isGen4 = true
  · rw [if_pos hgen, init_gen4 hgen, init_gen4 hgen, update]
    by_cases hdyn : data.huffType = .fullDynamic
    · -- the translator slice of an older device
      rw [if_pos hdyn]
      simp [translated, plain, hdyn]
    · rw [if_neg hdyn, if_neg hdyn]
      cases hcomp : data.compType with
      | deflate =>
          rw [hcomp] at hcmd
          simp_all [plain]
      | lz4 =>
          -- the deflate command takes the place of the LZ4 one
          simp only [hcomp, hgen, if_true, Except.ok.injEq] at hcmd
          simp [← hcmd]
      | lz4s =>
          simp only [hcomp, hgen, if_true, Except.ok.injEq] at hcmd
          simp [← hcmd]
  · have hold : svc.isGen4 = false := by simpa using hgen
    rw [if_neg hgen, update]
    have hdeflate : data.compType = .deflate := by
      cases hcomp : data.compType <;> simp_all
    simp only [hdeflate, Except.ok.injEq] at hcmd
    by_cases hdyn : data.huffType = .fullDynamic
    · rw [if_pos hdyn, hdyn, init_dynamic hold]
      simpa [hdyn] using hcmd
    · rw [if_neg hdyn, init_static hdyn]
      rw [if_neg hdyn] at hcmd
      by_cases hwas : old = .fullDynamic
      · -- the translator header of the old request stays
        rw [hwas, init_dynamic hold]
        simp [translated, plain, xltHeader_ne_zero, hdyn]
      · rw [init_static hwas]
        simp [plain, hdyn, hwas, hcmd]

theorem cpaDcUpdateSession_success {svc' : FwService} {sess' : FwSession}
    (h : cpaDcUpdateSession svc sess true none upd = (.success, svc', sess')) :
    dcCheckUpdateSession svc sess upd = .success ∧ svc' = svc.setDmm upd.enableDmm ∧
      sess' = (dcUpdateSession svc sess upd).2 := by
  unfold cpaDcUpdateSession at h
  rw [if_neg (by simp)] at h
  dsimp only at h
  split at h
  · next hok =>
    have hres := (Prod.mk.inj h).2
    exact ⟨hok, (congrArg Prod.fst hres).symm, (congrArg Prod.snd hres).symm⟩
  · next hbad => exact absurd (Prod.mk.inj h).1 hbad

/-- **An updated session.** After a valid update the cached compression request is the one of a
    session freshly initialised on the instance with the changed setup data (in the same memory)
    exactly when the update fits. -/
theorem updateSession_eq_init_iff {env' : InitEnv} {upd : UpdateData} {svc' : FwService}
    {sess' fresh : FwSession} (hstate : data.sessState = .stateless)
    (hdir : data.sessDirection ≠ .decompress) (hinit : dcInitSession svc data env = .ok sess)
    (hupd : cpaDcUpdateSession svc sess true none upd = (.success, svc', sess'))
    (hfresh : dcInitSession svc' (data.updated upd) env' = .ok fresh)
    (hmem : env'.stateRegistersComp = env.stateRegistersComp) :
    sess'.reqCacheComp = fresh.reqCacheComp ↔ UpdateFits svc sess upd := by
  obtain ⟨hok, rfl, rfl⟩ := cpaDcUpdateSession_success hupd
  obtain ⟨data', cmdId, decomp, hinter, hcmd, hsess⟩ := dcInitSession_comp hstate hdir hinit
  have hstate' : (data.updated upd).sessState = .stateless := hstate
  obtain ⟨data'', cmdId', decomp', hinter', hcmd', hfresh⟩ := dcInitSession_comp hstate' hdir hfresh
  obtain rfl : data.updated upd = data'' :=
    Except.ok.inj ((interBuffersFor_updated hok).symm.trans hinter')
  -- both requests as templates: they differ in the slices and the command only
  have hleft : (dcUpdateSession svc sess upd).2.reqCacheComp =
      template (compConfig (svc.setDmm upd.enableDmm)
          (initDesc (svc.setDmm upd.enableDmm) (data.updated upd) env'.syncCb))
        env.stateRegistersComp
        (sessionCmdFlags (svc.setDmm upd.enableDmm)
          (initDesc (svc.setDmm upd.enableDmm) (data.updated upd) env'.syncCb))
        ((init svc data'.huffType).update svc upd.huffType)
        (if upd.huffType = .fullDynamic then 1 else 0) := by
    rw [dcUpdateSession, hsess]
    dsimp only
    rw [rechain_template]
    obtain rfl | ⟨-, -, -, rfl⟩ := interBuffersFor_ok hinter
    · rfl
    · rfl
  have hright : fresh.reqCacheComp = _ := congrArg FwSession.reqCacheComp hfresh
  rw [hleft, hright, hmem]
  dsimp only
  refine template_inj.trans ((chaining_update_iff hcmd').trans ?_)
  rw [UpdateFits, hsess]
  obtain rfl | ⟨-, -, -, rfl⟩ := interBuffersFor_ok hinter
  · rfl
  · rfl

end Sessions

/-- Initialise a session, update it, and compare its cached request with that of a new session;
    `none` when a call fails. -/
def updateMatches (svc : FwService) (data : SetupData) (env : InitEnv) (upd : UpdateData) :
    Option Bool :=
  match dcInitSession svc data env with
  | .error _ => none
  | .ok sess =>
      let (status, svc', sess') := cpaDcUpdateSession svc sess true none upd
      match dcInitSession svc' (data.updated upd) env with
      | .error _ => none
      | .ok fresh =>
          if status = .success then some (decide (sess'.reqCacheComp = fresh.reqCacheComp))
          else none

theorem updateMatches_calls (h : (updateMatches svc data env upd).isSome = true) :
    ∃ sess svc' sess' fresh, dcInitSession svc data env = .ok sess ∧
      cpaDcUpdateSession svc sess true none upd = (.success, svc', sess') ∧
      dcInitSession svc' (data.updated upd) env = .ok fresh := by
  unfold updateMatches at h
  split at h
  · cases h
  next sess hinit =>
    dsimp only at h
    split at h
    · cases h
    next fresh hfresh =>
      split at h
      · next hok => exact ⟨sess, _, _, fresh, hinit, Prod.ext hok rfl, hfresh⟩
      · cases h

/-- A static session of a C62X becomes dynamic, at another level and without delayed matches. -/
theorem updateSession_eq_init_iff_c62x :
    ∃ sess svc' sess' fresh,
      dcInitSession (sampleC62x 0) (sampleSetup 1 .static false) sampleInit = .ok sess ∧
      cpaDcUpdateSession (sampleC62x 0) sess true none ⟨3, .fullDynamic, false⟩ =
        (.success, svc', sess') ∧
      dcInitSession svc' (sampleSetup 3 .fullDynamic false) sampleInit = .ok fresh ∧
      sess'.reqCacheComp = fresh.reqCacheComp := by
  obtain ⟨sess, svc', sess', fresh, hinit, hupd, hfresh⟩ := updateMatches_calls
    (show (updateMatches (sampleC62x 0) (sampleSetup 1 .static false) sampleInit
      ⟨3, .fullDynamic, false⟩).isSome = true by decide)
  refine ⟨sess, svc', sess', fresh, hinit, hupd, hfresh, ?_⟩
  refine (updateSession_eq_init_iff rfl ?_ hinit hupd hfresh rfl).mpr ?_
  · decide
  · rw [UpdateFits, if_neg (by decide)]
    exact .inl rfl

/-- On a 4XXX a deflate session that becomes dynamic gets the translator slice of older devices, and
    an LZ4 session whose level is changed gets the deflate command. On a C62X a session that is no
    longer dynamic keeps its translator header. -/
theorem updateSession_differs :
    updateMatches (sample4xxx false) (sampleSetup 1 .static false) sampleInit
        ⟨1, .fullDynamic, true⟩ = some false ∧
      updateMatches (sample4xxx false)
        { sampleSetup 1 .static false with compType := .lz4, checksum := .none } sampleInit
        ⟨9, .static, true⟩ = some false ∧
      updateMatches (sampleC62x 0) (sampleSetup 1 .fullDynamic false) sampleInit
        ⟨1, .static, true⟩ = some false := by
  decide

end Qatlib.Compression.Fw
