import Qatlib.Compression.Enqueue

set_option autoImplicit false

/-! # A batch and its operations one by one

`cpaDcDpEnqueueOpBatch` against one call of `cpaDcDpEnqueueOp` for each operation. A batch is taken
only for operations on one session, or on one setup data, and only up to two requests less than the
ring was configured for. Then the two leave the same ring behind.

A no-session message is written over what its slot held, and in a batch over a copy of the first
message, so the words that no store reaches differ: `CompRequest.nsWritten` is the message without
them. -/

namespace Qatlib.Compression.Fw

open Transport

/-! ## Slots -/

/-- The message in memory at an offset. -/
def memMsg (mem : Nat → UInt8) (off : Nat) : CompRequest := .ofBytes (readBlock mem off 128)

variable {tail : Nat} {s : DpState} {mem : Nat → UInt8} {m m' : CompRequest}
  {P : Option Nat → Nat → (Nat → UInt8) → (Nat → UInt8) → Prop} {ops : List DpOpData}
  {data : SetupData}

/-- Slots are the same or apart. -/
theorem memMsg_writeBlock {off : Nat} (htail : 128 ∣ tail) (hoff : 128 ∣ off) (msg : CompRequest) :
    memMsg (writeBlock mem tail msg.bytes) off = if off = tail then msg else memMsg mem off := by
  by_cases heq : off = tail
  · have hread := readBlock_writeBlock_same mem tail msg.bytes
    rw [msg.length_bytes] at hread
    rw [if_pos heq, heq, memMsg, hread, CompRequest.ofBytes_bytes]
  · have hdis : BlocksDisjoint tail msg.bytes.length off 128 := by
      obtain ⟨a, rfl⟩ := htail
      obtain ⟨b, rfl⟩ := hoff
      rw [msg.length_bytes]
      unfold BlocksDisjoint
      omega
    rw [if_neg heq, memMsg, readBlock_writeBlock_disjoint hdis, memMsg]

theorem DpInstance.seven_le_modulo (inst : DpInstance) : 7 ≤ inst.tx.modulo := by
  show 7 ≤ (validateRingSize inst.numCompConcurrentReq 128).2
  unfold validateRingSize
  dsimp only
  split
  · decide
  · split
    · dsimp only
      omega
    · decide

theorem DpInstance.dvd_modulo (inst : DpInstance) (h : 128 ∣ tail) :
    128 ∣ modulo (tail + 128) inst.tx.modulo := by
  have hring : 128 ∣ 2 ^ inst.tx.modulo := Nat.pow_dvd_pow 2 inst.seven_le_modulo
  rw [modulo_eq]
  exact (Nat.dvd_mod_iff hring).mpr (Nat.dvd_add h (Nat.dvd_refl 128))

/-! ## No-session messages -/

/-- Dynamic compression before generation 4, which has an intermediate buffer pointer. -/
def SetupData.interBuff (data : SetupData) (svc : FwService) : Bool :=
  !svc.isGen4 && data.sessDirection = .compress && data.huffType = .fullDynamic

/-- A no-session message without the words that are never stored. With buffer lists the two lengths
    are not stored either. -/
def CompRequest.nsWritten (m : CompRequest) (svc : FwService) (data : SetupData) : CompRequest :=
  { m with
    cdPars := { m.cdPars with contentDescResrvd4 := 0, contentDescResrvd3 := 0 }
    comnMid :=
      if m.comnHdr.comnReqFlags &&& 1 = 1 then { m.comnMid with srcLength := 0, dstLength := 0 }
      else m.comnMid
    compPars := { m.compPars with rsrvd := 0 }
    interBuffPtr := if data.interBuff svc then m.interBuffPtr else 0
    resrvd3 := 0 }

/-- The words of a message that the base request stores and the operation leaves alone. -/
def CompRequest.nsBase (m : CompRequest) (svc : FwService) (data : SetupData) : CompRequest :=
  { m with
    comnHdr := { m.comnHdr with comnReqFlags := m.comnHdr.comnReqFlags &&& 2 }
    cdPars := { m.cdPars with contentDescResrvd4 := 0, contentDescResrvd3 := 0 }
    comnMid := ⟨0, 0, 0, 0, 0⟩
    compPars := { m.compPars with compLen := 0, outBufferSz := 0, reqParFlags := 0, rsrvd := 0 }
    interBuffPtr := if data.interBuff svc then m.interBuffPtr else 0
    resrvd3 := 0 }

section NoSession

variable {svc : FwService} {data : SetupData}

theorem ptrTypeSet_and_two : ∀ flags : BitVec 8,
    ptrTypeSet (flags &&& (1 <<< 1 : BitVec 8)) 1 &&& 2 = flags &&& 2 ∧
      ptrTypeSet (flags &&& (1 <<< 1 : BitVec 8)) 0 &&& 2 = flags &&& 2 ∧
      ptrTypeSet (flags &&& (1 <<< 1 : BitVec 8)) 1 &&& 1 = 1 ∧
      ptrTypeSet (flags &&& (1 <<< 1 : BitVec 8)) 0 &&& 1 = 0 := by
  decide +kernel

/-- The base request does not depend on what the slot held. -/
theorem nsBase_base (slot slot' : CompRequest) (dcCmdId : BitVec 8) (flags : BitVec 16) :
    ((nsBaseUnfinished slot svc data).finishTemplate dcCmdId flags).dpPtrType.nsBase svc data =
      ((nsBaseUnfinished slot' svc data).finishTemplate dcCmdId flags).dpPtrType.nsBase svc
        data := by
  have hids := currIdSet_nextIdSet slot.compCdCtrl.nextCurrId slot'.compCdCtrl.nextCurrId .dramWr
    .comp
  by_cases hinter : data.interBuff svc = true
  · have hstore : (!svc.isGen4) = true ∧ data.sessDirection = .compress ∧
        data.huffType = .fullDynamic := by
      simpa [SetupData.interBuff, and_assoc] using hinter
    simp only [nsBaseUnfinished, dcNsCompContentDescPopulate, CompRequest.nsInterBuff, if_pos hstore,
      CompRequest.clearXlt, CompRequest.finishTemplate, CompRequest.cmnHdrWrite,
      CompRequest.dpPtrType, CompRequest.nsBase, hinter, hids]
  · have hstore : ¬((!svc.isGen4) = true ∧ data.sessDirection = .compress ∧
        data.huffType = .fullDynamic) := by
      simpa [SetupData.interBuff, and_assoc] using hinter
    simp only [nsBaseUnfinished, dcNsCompContentDescPopulate, CompRequest.nsInterBuff, if_neg hstore,
      CompRequest.clearXlt, CompRequest.finishTemplate, CompRequest.cmnHdrWrite,
      CompRequest.dpPtrType, CompRequest.nsBase, if_neg hinter, hids]

/-- The operation leaves the words of the base request alone. -/
theorem nsBase_dpFinish (m : CompRequest) (op : DpOpData) (inject : Bool) :
    (m.dpFinish svc op inject).nsBase svc data = m.nsBase svc data := by
  obtain ⟨hsgl, hflat, -, -⟩ := ptrTypeSet_and_two m.comnHdr.comnReqFlags
  cases hfmt : op.bufferFormat with
  | sgl => simp only [CompRequest.dpFinish, CompRequest.cmnMidWrite, hfmt, CompRequest.nsBase, hsgl]
  | flat =>
    simp only [CompRequest.dpFinish, CompRequest.cmnMidWrite, hfmt, CompRequest.nsBase, hflat]

/-- The message of an operation follows from the words of the base request. -/
theorem nsWritten_dpFinish (h : m.nsBase svc data = m'.nsBase svc data) (op : DpOpData)
    (inject : Bool) :
    (m.dpFinish svc op inject).nsWritten svc data =
      (m'.dpFinish svc op inject).nsWritten svc data := by
  obtain ⟨-, -, hsgl, hflat⟩ := ptrTypeSet_and_two m'.comnHdr.comnReqFlags
  simp only [CompRequest.nsBase, CompRequest.mk.injEq, ComnHdr.mk.injEq, CdPars.mk.injEq,
    CompPars.mk.injEq] at h
  obtain ⟨⟨h₁, h₂, h₃, h₄, h₅, h₆, h₇⟩, ⟨hlow, hup, -, -⟩, -, ⟨-, -, hcrc, hadler, -, -⟩, hinter, -,
    hcd, hxlt⟩ := h
  have hflags : m.comnHdr.comnReqFlags &&& (1 <<< 1 : BitVec 8) =
    m'.comnHdr.comnReqFlags &&& (1 <<< 1 : BitVec 8) := h₆
  cases hfmt : op.bufferFormat with
  | sgl =>
    simp only [CompRequest.dpFinish, CompRequest.cmnMidWrite, hfmt, CompRequest.nsWritten, hsgl,
      h₁, h₂, h₃, h₄, h₅, h₇, hflags, hlow, hup, hcrc, hadler, hinter, hcd, hxlt, reduceIte]
  | flat =>
    simp only [CompRequest.dpFinish, CompRequest.cmnMidWrite, hfmt, CompRequest.nsWritten, hflat,
      h₁, h₂, h₃, h₄, h₅, h₇, hflags, hlow, hup, hcrc, hadler, hinter, hcd, hxlt]

end NoSession

/-! ## One call for each operation -/

/-- `cpaDcDpEnqueueOp` for one operation after the other, while it succeeds. -/
def enqueueEach (ctx : DpContext) (now : Bool) : DpState → List DpOpData → Option DpState
  | s, [] => some s
  | s, op :: ops =>
      if (cpaDcDpEnqueueOp ctx s op now).1 = .success then
        enqueueEach ctx now (cpaDcDpEnqueueOp ctx s op now).2 ops
      else none

/-- A relation between the memory of a batch and that of its operations one by one, which each message
    keeps. `nsRef` is the offset of the first message, `tail` the slot of the next one. -/
def Mirrors (P : Option Nat → Nat → (Nat → UInt8) → (Nat → UInt8) → Prop) (inst : DpInstance)
    (noSession : Bool) (target : DpTarget) (op : DpOpData) : Prop :=
  ∀ nsRef tail mem mem', P nsRef tail mem mem' → ∃ msg msg',
    dcDpWriteRingMsg inst.svc op target (memMsg mem tail) (nsRef.map (memMsg mem)) =
        (.success, msg) ∧
      dcDpWriteRingMsg inst.svc op target (memMsg mem' tail) none = (.success, msg') ∧
      P (if nsRef = none ∧ noSession then some tail else nsRef)
        (modulo (tail + 128) inst.tx.modulo) (writeBlock mem tail msg.bytes)
        (writeBlock mem' tail msg'.bytes)

section Each

variable {ctx : DpContext} {inst : DpInstance} {target : DpTarget} {noSession : Bool}

theorem DpInstance.maxRequestsInflight_eq (inst : DpInstance) :
    inst.tx.maxRequestsInflight = inst.numCompConcurrentReq - 1 := by
  obtain ⟨j, -, -, heq⟩ := (validateConcurrRequest_iff _).mp inst.valid
  have hpos : 0 < inst.numCompConcurrentReq := heq ▸ Nat.two_pow_pos j
  have hle := inst.numCompConcurrentReq_le
  show (inst.numCompConcurrentReq + 2 ^ 32 - 1) % 2 ^ 32 = _
  omega

/-- There is room when the sum is in the limit. -/
theorem hasRoom_iff {ring : RingPair} {n : Nat} (h : ring.inFlight + n < 2 ^ 32) :
    HasRoom inst.tx ring n ↔ ring.inFlight + n ≤ inst.tx.maxRequestsInflight := by
  rw [HasRoom, Nat.mod_eq_of_lt h]

/-- Counting with a session reads and writes the counts only. -/
theorem countPending_congr {s' : DpState} (h : s.pendingDp = s'.pendingDp) (n : Nat) :
    (s.countPending target n).pendingDp = (s'.countPending target n).pendingDp := by
  cases target with
  | session handle sess => simp only [DpState.countPending, h]
  | setup data => exact h

theorem countPending_add (s : DpState) (m n : Nat) :
    ((s.countPending target m).countPending target n).pendingDp =
      (s.countPending target (m + n)).pendingDp := by
  cases target with
  | session handle sess =>
    funext h
    simp only [DpState.countPending]
    split
    · omega
    · rfl
  | setup data => rfl

theorem performNow_ring (now : Bool) (ring : RingPair) :
    (performNow now ring).inFlight = ring.inFlight ∧
      (performNow now ring).req.tail = ring.req.tail ∧
      (performNow now ring).req.memory = ring.req.memory := by
  cases now with
  | false => exact ⟨rfl, rfl, rfl⟩
  | true => exact ⟨rfl, rfl, rfl⟩

theorem cpaDcDpEnqueueOp_success {op : DpOpData} {msg : CompRequest} (now : Bool)
    (h : admitDp ctx op = .ok target) (hinst : ctx.inst op.dcInstance = inst)
    (hroom : s.ring.inFlight + 1 ≤ inst.tx.maxRequestsInflight)
    (hmsg : dcDpWriteRingMsg inst.svc op target (memMsg s.ring.req.memory s.ring.req.tail) none =
      (.success, msg)) :
    ∃ t, cpaDcDpEnqueueOp ctx s op now = (.success, t) ∧ t.ring.inFlight = s.ring.inFlight + 1 ∧
      t.ring.req.tail = modulo (s.ring.req.tail + 128) inst.tx.modulo ∧
      t.ring.req.memory = writeBlock s.ring.req.memory s.ring.req.tail msg.bytes ∧
      t.pendingDp = (s.countPending target 1).pendingDp := by
  subst hinst
  have hmax := (ctx.inst op.dcInstance).maxRequestsInflight_eq
  have hle := (ctx.inst op.dcInstance).numCompConcurrentReq_le
  have hflight : s.ring.inFlight + 1 < 2 ^ 32 := by omega
  have hbuilt : dpMessage (ctx.inst op.dcInstance) s op target = (.success, msg) := hmsg
  obtain ⟨hring, htail, hmem⟩ := performNow_ring now
    (enqueued (ctx.inst op.dcInstance).tx s.ring msg.bytes)
  rw [cpaDcDpEnqueueOp_room now h ((hasRoom_iff hflight).mpr hroom), hbuilt, enqueueReserved,
    if_neg (not_not.mpr rfl)]
  refine ⟨_, rfl, ?_, ?_, ?_, rfl⟩
  · rw [hring, enqueued, Nat.mod_eq_of_lt hflight]
  · exact htail
  · exact hmem

/-- **The write loop of a batch mirrors the calls one by one**, for any relation that each message
    keeps. -/
theorem writeBatch_mirrors (now : Bool)
    (hops : ∀ op ∈ ops, admitDp ctx op = .ok target ∧ ctx.inst op.dcInstance = inst ∧
      Mirrors P inst noSession target op) (nsRef : Option Nat) {r : RequestRing}
    (hP : P nsRef r.tail r.memory s.ring.req.memory) (htail : s.ring.req.tail = r.tail)
    (hroom : s.ring.inFlight + ops.length ≤ inst.tx.maxRequestsInflight) :
    ∃ t r' nsRef', enqueueEach ctx now s ops = some t ∧
      writeBatch inst noSession (ops.map fun op => (op, target)) nsRef r = (.success, r') ∧
      P nsRef' r'.tail r'.memory t.ring.req.memory ∧ t.ring.req.tail = r'.tail ∧
      t.ring.inFlight = s.ring.inFlight + ops.length ∧
      t.pendingDp = (s.countPending target ops.length).pendingDp := by
  induction ops generalizing nsRef r s with
  | nil =>
    refine ⟨s, r, nsRef, rfl, rfl, hP, htail, rfl, ?_⟩
    cases target with
    | session handle sess =>
      funext h
      simp [DpState.countPending]
    | setup data => rfl
  | cons op ops ih =>
    obtain ⟨hadm, hinst, hmirror⟩ := hops op List.mem_cons_self
    obtain ⟨msg, msg', hmsg, hmsg', hP'⟩ := hmirror _ _ _ _ hP
    rw [List.length_cons] at hroom
    rw [← htail] at hmsg'
    obtain ⟨t, hcall, hflight, htail', hmem, hpending⟩ :=
      cpaDcDpEnqueueOp_success now hadm hinst (by omega) hmsg'
    have hnext : P (if nsRef = none ∧ noSession then some r.tail else nsRef)
        (r.place inst.tx msg.bytes).tail (r.place inst.tx msg.bytes).memory t.ring.req.memory := by
      rw [hmem, htail]
      exact hP'
    have htail'' : t.ring.req.tail = (r.place inst.tx msg.bytes).tail := by
      rw [htail', htail]
      rfl
    obtain ⟨u, r', nsRef', hrest, hwrite, hPu, htailu, hflightu, hpendingu⟩ :=
      ih (fun op' hop' => hops op' (List.mem_cons_of_mem _ hop')) _ hnext htail'' (by omega)
    refine ⟨u, r', nsRef', ?_, ?_, hPu, htailu, ?_, ?_⟩
    · rw [enqueueEach, hcall]
      exact hrest
    · rw [List.map_cons, writeBatch]
      have hslot : dcDpWriteRingMsg inst.svc op target (slotMsg r r.tail)
          (nsRef.map (slotMsg r)) = (.success, msg) := hmsg
      rw [hslot]
      exact hwrite
    · rw [List.length_cons]
      omega
    · rw [hpendingu, countPending_congr hpending, countPending_add, List.length_cons, Nat.add_comm]

/-! ## The two relations -/

/-- A session's messages are the same, whatever the slots held. -/
theorem mirrors_session (handle : Nat) (sess : DpSession) (op : DpOpData) :
    Mirrors (fun _ _ mem mem' => mem = mem') inst noSession (.session handle sess) op := by
  rintro nsRef tail mem mem' rfl
  exact ⟨_, _, rfl, rfl, rfl⟩

/-- No-session messages agree in all words that are stored. The first message has the words of the
    base request, so that its copies have them too. -/
structure NsMirror (svc : FwService) (data : SetupData) (base : CompRequest) (nsRef : Option Nat)
    (tail : Nat) (mem mem' : Nat → UInt8) : Prop where
  tail : 128 ∣ tail
  nsRef : ∀ off ∈ nsRef, 128 ∣ off ∧ (memMsg mem off).nsBase svc data = base
  slots : ∀ off, 128 ∣ off →
    (memMsg mem off).nsWritten svc data = (memMsg mem' off).nsWritten svc data

/-- A message of the batch next to the message of the call, both with the words of the base
    request. -/
theorem NsMirror.write {base : CompRequest} {nsRef nsRef' : Option Nat} {mem' : Nat → UInt8}
    (h : NsMirror inst.svc data base nsRef tail mem mem') (hm : m.nsBase inst.svc data = base)
    (hm' : m'.nsBase inst.svc data = base) (hnext : ∀ off ∈ nsRef', off = tail ∨ off ∈ nsRef)
    (op : DpOpData) (inject : Bool) :
    NsMirror inst.svc data base nsRef' (modulo (tail + 128) inst.tx.modulo)
      (writeBlock mem tail (m.dpFinish inst.svc op inject).bytes)
      (writeBlock mem' tail (m'.dpFinish inst.svc op inject).bytes) := by
  refine ⟨inst.dvd_modulo h.tail, fun off hoff => ?_, fun off hoff => ?_⟩
  · have hdvd : 128 ∣ off := by
      rcases hnext off hoff with rfl | hold
      · exact h.tail
      · exact (h.nsRef off hold).1
    refine ⟨hdvd, ?_⟩
    rw [memMsg_writeBlock h.tail hdvd]
    split
    · rw [nsBase_dpFinish, hm]
    · next hne => exact (h.nsRef off ((hnext off hoff).resolve_left hne)).2
  · rw [memMsg_writeBlock h.tail hoff, memMsg_writeBlock h.tail hoff]
    split
    · exact nsWritten_dpFinish (hm.trans hm'.symm) op inject
    · exact h.slots off hoff

theorem mirrors_setup (hcmd : data.HasCommand inst.svc) :
    ∃ base, ∀ op, Mirrors (NsMirror inst.svc data base) inst true (.setup data) op := by
  obtain ⟨dcCmdId, hok⟩ := dcNsCreateBaseRequest_ok hcmd
  -- the words of the base request, from any slot
  obtain ⟨base, hbase⟩ : ∃ base, ∀ slot, ((nsBaseUnfinished slot inst.svc data).finishTemplate dcCmdId
      (nsCmdFlags inst.svc data)).dpPtrType.nsBase inst.svc data = base :=
    ⟨_, fun slot => nsBase_base slot .zero dcCmdId (nsCmdFlags inst.svc data)⟩
  refine ⟨base, fun op nsRef tail mem mem' h => ?_⟩
  cases nsRef with
  | none =>
    refine ⟨_, _, ?_, ?_, h.write (hbase (memMsg mem tail)) (hbase (memMsg mem' tail)) ?_ op
      inst.svc.nsIsCnvErrorInjection⟩
    · simp only [Option.map_none, dcDpWriteRingMsg, hok]
    · simp only [dcDpWriteRingMsg, hok]
    · intro off hoff
      exact .inl (Option.some.inj hoff).symm
  | some ref =>
    refine ⟨_, _, ?_, ?_, h.write (h.nsRef ref rfl).2 (hbase (memMsg mem' tail)) ?_ op
      inst.svc.nsIsCnvErrorInjection⟩
    · simp only [Option.map_some, dcDpWriteRingMsg]
    · simp only [dcDpWriteRingMsg, hok]
    · intro off hoff
      exact .inr hoff

end Each

/-! ## Valid operations -/

/-- The operations are on the same instance, and on the same session or setup data. -/
structure DpOpData.SameTarget (op first : DpOpData) : Prop where
  dcInstance : op.dcInstance = first.dcInstance
  pSessionHandle : op.pSessionHandle = first.pSessionHandle
  pSetupData : op.pSetupData = first.pSetupData

section Admitted

variable {ctx : DpContext} {first op : DpOpData} {target : DpTarget}

/-- What an admitted operation has passed. -/
theorem admitDp_ok (h : admitDp ctx op = .ok target) :
    dcDataPlaneParamCheck ctx op = .ok target ∧ op.verified = true ∧
      (ctx.inst op.dcInstance).state.check = .ok () ∧
      op.directionOk target.sessDirection = true := by
  unfold admitDp at h
  split at h
  · cases h
  · next hcheck =>
    split at h
    · cases h
    · next hverified =>
      split at h
      · cases h
      · next hstate =>
        split at h
        · next hdir =>
          cases h
          exact ⟨hcheck, by simpa using hverified, hstate, hdir⟩
        · cases h

/-- The operations of a batch have one target. -/
theorem DpOpData.SameTarget.target_eq {target' : DpTarget} (hsame : op.SameTarget first)
    (h : admitDp ctx op = .ok target') (hfirst : admitDp ctx first = .ok target) :
    target' = target := by
  have htarget := dcDataPlaneParamCheck_ok (admitDp_ok h).1
  have htarget' := dcDataPlaneParamCheck_ok (admitDp_ok hfirst).1
  have heq : dpTarget ctx op = dpTarget ctx first := by
    unfold dpTarget
    rw [(dpTarget_ok htarget).1, (dpTarget_ok htarget').1, hsame.dcInstance, hsame.pSessionHandle,
      hsame.pSetupData]
  exact Except.ok.inj (htarget.symm.trans (heq.trans htarget'))

theorem checkBatchOps_valid (h : ∀ op ∈ ops, op.SameTarget first ∧ admitDp ctx op = .ok target) :
    checkBatchOps ctx first ops = .ok (ops.map fun _ => target) := by
  induction ops with
  | nil => rfl
  | cons op ops ih =>
    obtain ⟨hsame, hadm⟩ := h op List.mem_cons_self
    have hop : checkBatchOp ctx first op = .ok target := by
      simp only [checkBatchOp, (admitDp_ok hadm).1, hsame.dcInstance, hsame.pSessionHandle,
        hsame.pSetupData, ne_eq, not_true_eq_false, and_false, if_false]
    rw [checkBatchOps, hop, ih fun op' hop' => h op' (List.mem_cons_of_mem _ hop')]
    rfl

/-- **A batch of admitted operations on one target is admitted**, up to its limit. -/
theorem admitDpBatch_valid {rest : List DpOpData}
    (h : ∀ op ∈ first :: rest, op.SameTarget first ∧ admitDp ctx op = .ok target)
    (hmax : (first :: rest).length ≤ (ctx.inst first.dcInstance).maxNumCompConcurrentReq) :
    admitDpBatch ctx first rest = .ok ((first :: rest).map fun _ => target) := by
  have hfirst := admitDp_ok (h first List.mem_cons_self).2
  have hhandles := (dpTarget_ok (dcDataPlaneParamCheck_ok hfirst.1)).1
  have hverified : (first :: rest).all DpOpData.verified = true := by
    rw [List.all_eq_true]
    exact fun op hop => (admitDp_ok (h op hop).2).2.1
  have hdir : ((first :: rest).all fun op =>
      (List.head? ((first :: rest).map fun _ => target)).all fun t =>
        op.directionOk t.sessDirection) = true := by
    rw [List.all_eq_true]
    intro op hop
    exact (admitDp_ok (h op hop).2).2.2.2
  unfold admitDpBatch
  dsimp only
  rw [hhandles, checkBatchOps_valid h, hfirst.2.2.1]
  simp only [hverified, hdir, Bool.not_true, Bool.false_eq_true, if_false, if_true,
    if_neg (Nat.not_lt.mpr hmax)]

end Admitted

/-! ## Equality -/

/-- The slots of the ring hold the same messages; no-session messages up to the words that are never
    stored. -/
def SameSlots (svc : FwService) (target : DpTarget) (mem mem' : Nat → UInt8) : Prop :=
  match target with
  | .session _ _ => mem = mem'
  | .setup data => ∀ off, 128 ∣ off →
      (memMsg mem off).nsWritten svc data = (memMsg mem' off).nsWritten svc data

section Equal

variable {ctx : DpContext} {s : DpState} {first : DpOpData} {rest : List DpOpData}
  {target : DpTarget}

/-- The batch, given the calls one by one. -/
theorem enqueueOpBatch_of_mirrors
    (h : ∀ op ∈ first :: rest, op.SameTarget first ∧ admitDp ctx op = .ok target)
    (hmax : (first :: rest).length ≤ (ctx.inst first.dcInstance).maxNumCompConcurrentReq)
    (hroom : s.ring.inFlight + (first :: rest).length ≤
      (ctx.inst first.dcInstance).tx.maxRequestsInflight) (hmirror : ∀ op ∈ first :: rest,
      Mirrors P (ctx.inst first.dcInstance) first.pSetupData.isSome target op)
    (hP : P none s.ring.req.tail s.ring.req.memory s.ring.req.memory) (now now' : Bool) :
    ∃ t u nsRef, enqueueEach ctx now s (first :: rest) = some t ∧
      cpaDcDpEnqueueOpBatch ctx s (first :: rest) now' = (.success, u) ∧
      u.ring.inFlight = t.ring.inFlight ∧ u.ring.req.tail = t.ring.req.tail ∧
      u.pendingDp = t.pendingDp ∧
      P nsRef u.ring.req.tail u.ring.req.memory t.ring.req.memory := by
  have hlimit := (ctx.inst first.dcInstance).maxRequestsInflight_eq
  have hle := (ctx.inst first.dcInstance).numCompConcurrentReq_le
  have hwrap : s.ring.inFlight + (first :: rest).length < 2 ^ 32 := by omega
  obtain ⟨t, r, nsRef, heach, hwrite, hPt, htail, hflight, hpending⟩ :=
    writeBatch_mirrors now
      (fun op hop => ⟨(h op hop).2, by rw [(h op hop).1.dcInstance], hmirror op hop⟩) none
      (r := (reserved s.ring (first :: rest).length).req) hP rfl hroom
  obtain ⟨hringu, htailu, hmemu⟩ := performNow_ring now'
    { reserved s.ring (first :: rest).length with req := r }
  refine ⟨t, { s.countPending target (first :: rest).length with
    ring := performNow now' { reserved s.ring (first :: rest).length with req := r } }, nsRef, heach,
    ?_, ?_, ?_, ?_, ?_⟩
  · rw [cpaDcDpEnqueueOpBatch_room now' (admitDpBatch_valid h hmax) ((hasRoom_iff hwrap).mpr hroom),
      batchReserved, ← List.map_prod_left_eq_zip, hwrite, if_neg (not_not.mpr rfl)]
    rfl
  · rw [hringu, hflight]
    exact Nat.mod_eq_of_lt hwrap
  · rw [htailu, htail]
  · exact hpending.symm
  · rw [htailu, hmemu]
    exact hPt

/-- **A batch is its operations one by one.** For operations that are each admitted and can be built,
    on one session or setup data and no more than the batch limit: with enough free requests the batch
    succeeds and leaves the counter, the shadow tail, the pending counts and the slots that one call for
    each operation leaves; with fewer it asks for a retry and changes nothing. -/
theorem enqueueOpBatch_eq_each (ctx : DpContext) (s : DpState) (now now' : Bool)
    (hvalid : ∀ op ∈ first :: rest, op.SameTarget first ∧ ∃ target, admitDp ctx op = .ok target ∧
      target.Buildable (ctx.inst first.dcInstance).svc)
    (hmax : (first :: rest).length ≤ (ctx.inst first.dcInstance).maxNumCompConcurrentReq)
    (htail : 128 ∣ s.ring.req.tail)
    (hflight : s.ring.inFlight ≤ (ctx.inst first.dcInstance).tx.maxRequestsInflight) :
    (s.ring.inFlight + (first :: rest).length ≤ (ctx.inst first.dcInstance).tx.maxRequestsInflight →
      ∃ t u target, enqueueEach ctx now s (first :: rest) = some t ∧
        cpaDcDpEnqueueOpBatch ctx s (first :: rest) now' = (.success, u) ∧
        u.ring.inFlight = t.ring.inFlight ∧ u.ring.req.tail = t.ring.req.tail ∧
        u.pendingDp = t.pendingDp ∧ admitDp ctx first = .ok target ∧
        SameSlots (ctx.inst first.dcInstance).svc target u.ring.req.memory t.ring.req.memory) ∧
      ((ctx.inst first.dcInstance).tx.maxRequestsInflight <
          s.ring.inFlight + (first :: rest).length →
        cpaDcDpEnqueueOpBatch ctx s (first :: rest) now' = (.retry, s)) := by
  obtain ⟨-, target, hfirst, hbuild⟩ := hvalid first List.mem_cons_self
  have h : ∀ op ∈ first :: rest, op.SameTarget first ∧ admitDp ctx op = .ok target := by
    intro op hop
    obtain ⟨hsame, target', hadm, -⟩ := hvalid op hop
    exact ⟨hsame, hsame.target_eq hadm hfirst ▸ hadm⟩
  refine ⟨fun hroom => ?_, fun hfull => ?_⟩
  · cases target with
    | session handle sess =>
      obtain ⟨t, u, nsRef, heach, hbatch, h₁, h₂, h₃, hmem⟩ :=
        enqueueOpBatch_of_mirrors h hmax hroom
          (fun op _ => mirrors_session handle sess op) rfl now now'
      exact ⟨t, u, _, heach, hbatch, h₁, h₂, h₃, hfirst, hmem⟩
    | setup data =>
      have hsetup : first.pSetupData.isSome = true := by
        have htgt := dcDataPlaneParamCheck_ok (admitDp_ok hfirst).1
        refine dpTarget_setup htgt ?_
        by_contra hs
        obtain ⟨handle, sess, heq⟩ := dpTarget_session htgt ((Bool.not_eq_false _).mp hs)
        cases heq
      obtain ⟨base, hmirror⟩ := mirrors_setup hbuild
      obtain ⟨t, u, nsRef, heach, hbatch, h₁, h₂, h₃, hslots⟩ :=
        enqueueOpBatch_of_mirrors h hmax hroom (fun op _ => hsetup ▸ hmirror op)
          ⟨htail, by simp, fun _ _ => rfl⟩ now now'
      exact ⟨t, u, _, heach, hbatch, h₁, h₂, h₃, hfirst, hslots.slots⟩
  · have hlimit := (ctx.inst first.dcInstance).maxRequestsInflight_eq
    have hle := (ctx.inst first.dcInstance).numCompConcurrentReq_le
    rw [DpInstance.maxNumCompConcurrentReq] at hmax
    refine cpaDcDpEnqueueOpBatch_full now' (admitDpBatch_valid h hmax) ?_
    rw [hasRoom_iff (by omega)]
    exact Nat.not_le.mpr hfull

end Equal

/-! ## Sample batches -/

/-- A session for static compression on the sample instance. -/
def sampleDpSession : DpSession :=
  let desc := initDesc (sample4xxx false) (sampleSetup 1 .static false) false
  { desc with
    reqCacheComp := (compTemplate (sample4xxx false) (sampleSetup 1 .static false) desc 0
      sampleInit).finishTemplate 0 (sessionCmdFlags (sample4xxx false) desc)
    isDcDp := true }

example : dcInitSession (sample4xxx false) (sampleSetup 1 .static false) sampleInit =
    .ok sampleDpSession.toFwSession := rfl

/-- Every handle leads to the sample instance, and to a session of it. -/
def sampleSessions : DpContext :=
  ⟨fun _ => sampleDpInstance, fun _ => some sampleDpSession, fun _ => sampleSetup 1 .static false⟩

/-- An operation on a session. -/
def sampleSessionOp (handle : Nat) : DpOpData :=
  { sampleDpOp .compress with pSessionHandle := some handle, pSetupData := none }

/-- A no-session operation on buffer lists. -/
def sampleListOp : DpOpData :=
  { sampleDpOp .compress with srcBufferLen := cpaDpBuflist, destBufferLen := cpaDpBuflist }

/-- Two copies of an operation, as a batch and one by one on a new instance. -/
def BatchOfTwo (op : DpOpData) : Prop :=
  ∃ t u, enqueueEach sampleSessions false .create [op, op] = some t ∧
    cpaDcDpEnqueueOpBatch sampleSessions .create [op, op] true = (.success, u) ∧
    u.ring.inFlight = 2 ∧ t.ring.inFlight = 2 ∧ u.pendingDp = t.pendingDp

/-- Two operations of one session, and two without a session. -/
theorem enqueueOpBatch_eq_each_both_ways :
    BatchOfTwo (sampleSessionOp 0) ∧ BatchOfTwo (sampleDpOp .compress) := by
  have hbatch (op : DpOpData) (hadm : ∃ target, admitDp sampleSessions op = .ok target ∧
        target.Buildable sampleDpInstance.svc)
      (htwo : (cpaDcDpEnqueueOpBatch sampleSessions .create [op, op] true).2.ring.inFlight = 2) :
      BatchOfTwo op := by
    have hvalid : ∀ op' ∈ [op, op], op'.SameTarget op ∧
        ∃ target, admitDp sampleSessions op' = .ok target ∧
          target.Buildable sampleDpInstance.svc := by
      intro op' hop
      obtain rfl : op' = op := by simpa using hop
      exact ⟨⟨rfl, rfl, rfl⟩, hadm⟩
    obtain ⟨t, u, -, heach, hbatch, hflight, -, hpending, -, -⟩ :=
      (enqueueOpBatch_eq_each sampleSessions .create false true hvalid
        (show 2 ≤ sampleDpInstance.maxNumCompConcurrentReq by decide) (by decide)
        (Nat.zero_le _)).1 (show 0 + 2 ≤ sampleDpInstance.tx.maxRequestsInflight by decide)
    rw [hbatch] at htwo
    exact ⟨t, u, heach, hbatch, htwo, hflight ▸ htwo, hpending⟩
  exact ⟨hbatch _ ⟨_, rfl, trivial⟩ rfl, hbatch _ ⟨_, rfl, trivial⟩ rfl⟩

/-- Operations that succeed one by one and differ as a batch: two sessions, more than the batch limit,
    and a buffer list after a flat buffer, whose slot then has the lengths of the first message. -/
theorem enqueueOpBatch_differs :
    (∃ t, enqueueEach sampleSessions false .create [sampleSessionOp 0, sampleSessionOp 1] = some t ∧
      cpaDcDpEnqueueOpBatch sampleSessions .create [sampleSessionOp 0, sampleSessionOp 1] false =
        (.invalidParam, .create)) ∧
    (∃ t, enqueueEach sampleSessions false .create (List.replicate 63 (sampleSessionOp 0)) =
        some t ∧
      cpaDcDpEnqueueOpBatch sampleSessions .create (List.replicate 63 (sampleSessionOp 0)) false =
        (.invalidParam, .create)) ∧
    ∃ t u, enqueueEach (sampleDpContext (sampleSetup 1 .static false)) false .create
        [sampleDpOp .compress, sampleListOp] = some t ∧
      cpaDcDpEnqueueOpBatch (sampleDpContext (sampleSetup 1 .static false)) .create
        [sampleDpOp .compress, sampleListOp] false = (.success, u) ∧
      (memMsg t.ring.req.memory 128).comnMid.srcLength = 0x7f7f7f7f ∧
      (memMsg u.ring.req.memory 128).comnMid.srcLength = 1024 := by
  have hops : ∀ op ∈ List.replicate 63 (sampleSessionOp 0),
      admitDp sampleSessions op = .ok (.session 0 sampleDpSession) ∧
        sampleSessions.inst op.dcInstance = sampleDpInstance ∧
        Mirrors (fun _ _ mem mem' => mem = mem') sampleDpInstance false
          (.session 0 sampleDpSession) op := by
    intro op hop
    obtain rfl : op = sampleSessionOp 0 := List.eq_of_mem_replicate hop
    exact ⟨rfl, rfl, mirrors_session 0 sampleDpSession _⟩
  obtain ⟨t, -, -, heach, -⟩ := writeBatch_mirrors false hops none
    (s := DpState.create) (r := DpState.create.ring.req) rfl rfl (by decide)
  exact ⟨⟨_, rfl, rfl⟩, ⟨t, heach, rfl⟩, _, _, rfl, rfl, by decide, by decide⟩

end Qatlib.Compression.Fw
