import Qatlib.Compression.DataPlane

set_option autoImplicit false

/-! # Submissions that fail

What a submission leaves on the request ring when it does not succeed. `adf_user_put_msg` takes its
increment of the counter back on a full ring. The data plane calls check everything they check before
they touch the ring, with one exception: whether the firmware has a command for the setup data of a
no-session operation is found out while the message is built, in a slot that is already reserved. -/

namespace Qatlib.Compression.Fw

open Transport

/-! ## Building a message -/

/-- The firmware of the device has a command for the setup data. -/
def SetupData.HasCommand (data : SetupData) (svc : FwService) : Prop :=
  match data.compType with
  | .deflate => True
  | .lz4 => svc.isGen4 = true
  | .lz4s => svc.isGen4 = true ∧ data.sessDirection = .compress

/-- A message can be built. -/
def DpTarget.Buildable (target : DpTarget) (svc : FwService) : Prop :=
  match target with
  | .session _ _ => True
  | .setup data => data.HasCommand svc

section Building

variable {svc : FwService} {data : SetupData}

theorem dcNsCreateBaseRequest_ok (h : data.HasCommand svc) :
    ∃ dcCmdId, ∀ slot, dcNsCreateBaseRequest slot svc data =
      .ok ((nsBaseUnfinished slot svc data).finishTemplate dcCmdId (nsCmdFlags svc data)) := by
  have hcmd : ∃ dcCmdId, (if data.sessDirection = .compress then dcGetCompressCommandId svc data
      else dcGetDecompressCommandId svc data) = .ok dcCmdId := by
    unfold SetupData.HasCommand at h
    cases htype : data.compType with
    | deflate =>
      simp only [dcGetCompressCommandId, dcGetDecompressCommandId, htype]
      split
      · exact ⟨_, rfl⟩
      · exact ⟨_, rfl⟩
    | lz4 =>
      rw [htype] at h
      simp only [dcGetCompressCommandId, dcGetDecompressCommandId, htype, if_pos h]
      split
      · exact ⟨_, rfl⟩
      · exact ⟨_, rfl⟩
    | lz4s =>
      rw [htype] at h
      rw [if_pos h.2]
      simp only [dcGetCompressCommandId, htype, if_pos h.1]
      exact ⟨_, rfl⟩
  obtain ⟨dcCmdId, hcmd⟩ := hcmd
  refine ⟨dcCmdId, fun slot => ?_⟩
  simp only [dcNsCreateBaseRequest, hcmd, Except.map, nsBaseUnfinished]

theorem dcNsCreateBaseRequest_unsupported (h : ¬data.HasCommand svc) (slot : CompRequest) :
    dcNsCreateBaseRequest slot svc data = .error .unsupported := by
  have hcmd : (if data.sessDirection = .compress then dcGetCompressCommandId svc data
      else dcGetDecompressCommandId svc data) = .error .unsupported := by
    unfold SetupData.HasCommand at h
    cases htype : data.compType with
    | deflate =>
      rw [htype] at h
      exact absurd trivial h
    | lz4 =>
      rw [htype] at h
      simp only [dcGetCompressCommandId, dcGetDecompressCommandId, htype, if_neg h, ite_self]
    | lz4s =>
      rw [htype] at h
      simp only [dcGetCompressCommandId, dcGetDecompressCommandId, htype]
      split
      · next hdir => rw [if_neg fun hgen => h ⟨hgen, hdir⟩]
      · rfl
  simp only [dcNsCreateBaseRequest, hcmd, Except.map]

/-- **A message is built** unless it needs a base request for which there is no command. -/
theorem dcDpWriteRingMsg_success_iff (svc : FwService) (op : DpOpData) (target : DpTarget)
    (slot : CompRequest) (nsRef : Option CompRequest) :
    (dcDpWriteRingMsg svc op target slot nsRef).1 = .success ↔
      target.Buildable svc ∨ nsRef.isSome := by
  cases target with
  | session handle sess => exact iff_of_true rfl (.inl trivial)
  | setup data =>
    cases nsRef with
    | some ref => exact iff_of_true rfl (.inr rfl)
    | none =>
      by_cases hcmd : data.HasCommand svc
      · obtain ⟨dcCmdId, hok⟩ := dcNsCreateBaseRequest_ok hcmd
        refine iff_of_true ?_ (.inl hcmd)
        simp only [dcDpWriteRingMsg, hok]
      · refine iff_of_false ?_ (fun h => h.elim hcmd (by simp))
        simp only [dcDpWriteRingMsg, dcNsCreateBaseRequest_unsupported hcmd]
        decide

end Building

variable {op first : DpOpData} {target : DpTarget} {targets : List DpTarget} {rest : List DpOpData}
  {tx : RingConfig} {ring : RingPair} {msg : Msg}

/-! ## Batches -/

section Batch

variable {ctx : DpContext} {first : DpOpData}

/-- What an operation with a target has passed. -/
theorem dpTarget_ok (h : dpTarget ctx op = .ok target) :
    op.handlesOk = true ∧ (ctx.inst op.dcInstance).isCompression = true ∧
      ((∃ handle sess, op.pSessionHandle = some handle ∧ target = .session handle sess) ∨
        op.pSessionHandle = none ∧ op.pSetupData.isSome = true) := by
  unfold dpTarget at h
  split at h
  · cases h
  · next hhandles =>
    split at h
    · cases h
    · next htype =>
      refine ⟨by simpa using hhandles, by simpa using htype, ?_⟩
      split at h
      · next handle hsome _ =>
        split at h
        · cases h
        · split at h
          · cases h
            exact .inl ⟨handle, _, hsome, rfl⟩
          · cases h
      · next hnone hsetup => exact .inr ⟨hnone, by rw [hsetup]; rfl⟩
      · cases h

theorem dpTarget_session (h : dpTarget ctx op = .ok target) (hs : op.pSessionHandle.isSome) :
    ∃ handle sess, target = .session handle sess := by
  obtain ⟨-, -, ⟨handle, sess, -, htarget⟩ | ⟨hnone, -⟩⟩ := dpTarget_ok h
  · exact ⟨handle, sess, htarget⟩
  · simp [hnone] at hs

theorem dpTarget_setup (h : dpTarget ctx op = .ok target) (hs : op.pSessionHandle.isSome = false) :
    op.pSetupData.isSome = true := by
  obtain ⟨-, -, ⟨handle, sess, hsome, -⟩ | ⟨-, hsetup⟩⟩ := dpTarget_ok h
  · simp [hsome] at hs
  · exact hsetup

theorem dcDataPlaneParamCheck_ok (h : dcDataPlaneParamCheck ctx op = .ok target) :
    dpTarget ctx op = .ok target := by
  unfold dcDataPlaneParamCheck at h
  split at h
  · cases h
  · next htarget =>
    split at h
    · cases h
      exact htarget
    · cases h

/-- What the checks of a batch say about each operation. -/
theorem checkBatchOp_ok (h : checkBatchOp ctx first op = .ok target) :
    dcDataPlaneParamCheck ctx op = .ok target ∧ op.dcInstance = first.dcInstance ∧
      (first.pSessionHandle.isSome → op.pSessionHandle = first.pSessionHandle) := by
  unfold checkBatchOp at h
  split at h
  · cases h
  · next hcheck =>
    split at h
    · cases h
    · next hinst =>
      split at h
      · cases h
      · next hsess =>
        split at h
        · cases h
        · cases h
          refine ⟨hcheck, not_not.mp hinst, fun hsome => ?_⟩
          by_contra hne
          exact hsess ⟨hsome, hne⟩

theorem checkBatchOps_ok {ops : List DpOpData} (h : checkBatchOps ctx first ops = .ok targets) :
    List.Forall₂ (fun op target => checkBatchOp ctx first op = .ok target) ops targets := by
  induction ops generalizing targets with
  | nil =>
    cases h
    exact .nil
  | cons op ops ih =>
    rw [checkBatchOps] at h
    split at h
    · cases h
    · next hop =>
      split at h
      · cases h
      · next hops =>
        cases h
        exact .cons hop (ih hops)

theorem admitDpBatch_ok (h : admitDpBatch ctx first rest = .ok targets) :
    (first :: rest).length ≤ (ctx.inst first.dcInstance).maxNumCompConcurrentReq ∧
      checkBatchOps ctx first (first :: rest) = .ok targets := by
  unfold admitDpBatch at h
  dsimp only at h
  split at h
  · cases h
  · split at h
    · cases h
    · next hle =>
      split at h
      · cases h
      · next hcheck =>
        split at h
        · cases h
        · split at h
          · cases h
          · split at h
            · cases h
              exact ⟨Nat.le_of_not_lt hle, hcheck⟩
            · cases h

/-- Every message of the loop is built when each has a command of its own or a first message to
    copy. -/
theorem writeBatch_success {inst : DpInstance} {noSession : Bool} {l : List (DpOpData × DpTarget)}
    {nsRef : Option Nat} {r : RequestRing} (h : (∀ p ∈ l, p.2.Buildable inst.svc) ∨ nsRef.isSome) :
    (writeBatch inst noSession l nsRef r).1 = .success := by
  induction l generalizing nsRef r with
  | nil => rfl
  | cons p rest ih =>
    have hbuilt : (dcDpWriteRingMsg inst.svc p.1 p.2 (slotMsg r r.tail)
        (nsRef.map (slotMsg r))).1 = .success := by
      rw [dcDpWriteRingMsg_success_iff, Option.isSome_map]
      exact h.imp_left fun hall => hall p List.mem_cons_self
    rw [writeBatch, if_neg (not_not.mpr hbuilt)]
    refine ih (h.imp (fun hall q hq => hall q (List.mem_cons_of_mem _ hq)) fun hsome => ?_)
    split
    · rfl
    · exact hsome

/-- **The loop of an admitted batch** builds every message if it builds the first one, and otherwise
    stops there. -/
theorem writeBatch_admitted (h : admitDpBatch ctx first rest = .ok (target :: targets))
    {svc : FwService} (hsvc : (ctx.inst first.dcInstance).svc = svc) (r : RequestRing) :
    (target.Buildable svc → (writeBatch (ctx.inst first.dcInstance) first.pSetupData.isSome
        ((first :: rest).zip (target :: targets)) none r).1 = .success) ∧
      (¬target.Buildable svc → (writeBatch (ctx.inst first.dcInstance) first.pSetupData.isSome
        ((first :: rest).zip (target :: targets)) none r).1 ≠ .success) := by
  subst hsvc
  obtain ⟨-, hcheck⟩ := admitDpBatch_ok h
  have hall := checkBatchOps_ok hcheck
  obtain ⟨hfirst, htail⟩ := List.forall₂_cons.mp hall
  have hpath := dcDataPlaneParamCheck_ok (checkBatchOp_ok hfirst).1
  have hbuilt := dcDpWriteRingMsg_success_iff (ctx.inst first.dcInstance).svc first target
    (slotMsg r r.tail) none
  rw [Option.isSome_none, or_iff_left (by simp)] at hbuilt
  rw [List.zip_cons_cons, writeBatch]
  simp only [Option.map_none]
  constructor
  · intro hb
    rw [if_neg (not_not.mpr (hbuilt.mpr hb))]
    refine writeBatch_success ?_
    by_cases hs : first.pSessionHandle.isSome
    · -- one session: no message needs a command
      left
      intro p hp
      obtain ⟨hparam, -, hsame⟩ := checkBatchOp_ok (List.forall₂_zip htail hp)
      obtain ⟨handle, sess, htgt⟩ := dpTarget_session (dcDataPlaneParamCheck_ok hparam)
        (by rw [hsame hs]; exact hs)
      rw [htgt]
      trivial
    · -- the first message is the one to copy
      right
      rw [if_pos ⟨trivial, dpTarget_setup hpath (by simpa using hs)⟩]
      rfl
  · intro hb
    have hne := fun heq => hb (hbuilt.mp heq)
    rw [if_pos hne]
    exact hne

end Batch

/-! ## Submissions -/

/-- The calls that submit a compression request. -/
inductive Submission where
  /-- `icp_adf_transPutMsg` on an instance's ring. -/
  | transPutMsg (dcInstance : Nat) (msg : CompRequest) (locked : Bool)
  | enqueueOp (op : DpOpData) (performOpNow : Bool)
  | enqueueOpBatch (ops : List DpOpData) (performOpNow : Bool)

def Submission.run (ctx : DpContext) (s : DpState) : Submission → CpaStatus × DpState
  | .transPutMsg dcInstance msg locked => icpAdfTransPutMsg (ctx.inst dcInstance) s msg locked
  | .enqueueOp op performOpNow => cpaDcDpEnqueueOp ctx s op performOpNow
  | .enqueueOpBatch ops performOpNow => cpaDcDpEnqueueOpBatch ctx s ops performOpNow

/-- The counter, the shadow tail and the sequence number of the request ring are the same. -/
structure SameRequests (s t : RingPair) : Prop where
  inFlight : t.inFlight = s.inFlight
  tail : t.req.tail = s.req.tail
  sendSeq : t.req.sendSeq = s.req.sendSeq

/-- The ring has room for `n` more requests. -/
def HasRoom (tx : RingConfig) (s : RingPair) (n : Nat) : Prop :=
  (s.inFlight + n) % 2 ^ 32 ≤ tx.maxRequestsInflight

/-- The call gets as far as the ring, which has room, with a no-session operation for which the
    firmware has no command. In a batch the first operation stands for all. -/
def Submission.NoCommand (ctx : DpContext) (s : DpState) : Submission → Prop
  | .transPutMsg _ _ _ => False
  | .enqueueOp op _ =>
      ∃ target, admitDp ctx op = .ok target ∧ HasRoom (ctx.inst op.dcInstance).tx s.ring 1 ∧
        ¬target.Buildable (ctx.inst op.dcInstance).svc
  | .enqueueOpBatch ops _ =>
      ∃ first rest target targets, ops = first :: rest ∧
        admitDpBatch ctx first rest = .ok (target :: targets) ∧
        HasRoom (ctx.inst first.dcInstance).tx s.ring ops.length ∧
        ¬target.Buildable (ctx.inst first.dcInstance).svc

section Submissions

variable {ctx : DpContext} {s : DpState}

theorem SameRequests.refl (s : RingPair) : SameRequests s s := ⟨rfl, rfl, rfl⟩

/-- The ring with one request more. -/
def enqueued (tx : RingConfig) (ring : RingPair) (msg : Msg) : RingPair :=
  { ring with inFlight := (ring.inFlight + 1) % 2 ^ 32, req := ring.req.place tx msg }

theorem icpAdfGetSingleQueueAddr_room (h : HasRoom tx ring 1) :
    icpAdfGetSingleQueueAddr tx ring msg = some (enqueued tx ring msg) := by
  have hle : ¬(ring.inFlight + 1) % 2 ^ 32 > tx.maxRequestsInflight := Nat.not_lt.mpr h
  simp only [icpAdfGetSingleQueueAddr, if_neg hle, enqueued]

theorem icpAdfGetSingleQueueAddr_full (h : ¬HasRoom tx ring 1) :
    icpAdfGetSingleQueueAddr tx ring msg = none := by
  have hlt : (ring.inFlight + 1) % 2 ^ 32 > tx.maxRequestsInflight := Nat.lt_of_not_le h
  simp only [icpAdfGetSingleQueueAddr, if_pos hlt]

/-- The ring with `n` requests reserved. -/
def reserved (ring : RingPair) (n : Nat) : RingPair :=
  { ring with inFlight := (ring.inFlight + n) % 2 ^ 32 }

theorem icpAdfGetQueueMemory_room {n : Nat} (h : HasRoom tx ring n) :
    icpAdfGetQueueMemory tx ring n = some (reserved ring n) := by
  have hle : ¬(ring.inFlight + n) % 2 ^ 32 > tx.maxRequestsInflight := Nat.not_lt.mpr h
  simp only [icpAdfGetQueueMemory, if_neg hle, reserved]

theorem icpAdfGetQueueMemory_full {n : Nat} (h : ¬HasRoom tx ring n) :
    icpAdfGetQueueMemory tx ring n = none := by
  have hlt : (ring.inFlight + n) % 2 ^ 32 > tx.maxRequestsInflight := Nat.lt_of_not_le h
  simp only [icpAdfGetQueueMemory, if_pos hlt]

/-- A put on a full ring takes its increment back. -/
theorem adfUserPutMsg_full (hflight : ring.inFlight < 2 ^ 32) (h : ¬HasRoom tx ring 1) :
    adfUserPutMsg tx ring msg = (.retry, ring) := by
  have hlt : (ring.inFlight + 1) % 2 ^ 32 > tx.maxRequestsInflight := Nat.lt_of_not_le h
  have hback : ((ring.inFlight + 1) % 2 ^ 32 + 2 ^ 32 - 1) % 2 ^ 32 = ring.inFlight := by omega
  simp only [adfUserPutMsg, if_pos hlt, hback]

theorem adfUserPutMsg_room (h : HasRoom tx ring 1)
    (hcopy : tx.messageSize = 64 ∨ tx.messageSize = 128) :
    (adfUserPutMsg tx ring msg).1 = .success := by
  have hle : ¬(ring.inFlight + 1) % 2 ^ 32 > tx.maxRequestsInflight := Nat.not_lt.mpr h
  simp only [adfUserPutMsg, if_neg hle, if_pos hcopy]

/-- `icp_adf_transPutMsg` succeeds or leaves everything as it was. -/
theorem icpAdfTransPutMsg_cases (inst : DpInstance) (hflight : s.ring.inFlight < 2 ^ 32)
    (msg : CompRequest) (locked : Bool) :
    (icpAdfTransPutMsg inst s msg locked).1 = .success ∨
      (icpAdfTransPutMsg inst s msg locked).2 = s := by
  have hsize : msg.bytes.length = inst.tx.messageSize := msg.length_bytes
  by_cases hlocked : (!locked) = true
  · right
    rw [icpAdfTransPutMsg, if_neg (not_not.mpr hsize), if_pos hlocked]
  · rw [icpAdfTransPutMsg, if_neg (not_not.mpr hsize), if_neg hlocked]
    by_cases hroom : HasRoom inst.tx s.ring 1
    · left
      dsimp only
      rw [adfUserPutMsg_room hroom (.inr rfl), putStatus]
    · right
      rw [adfUserPutMsg_full hflight hroom]

/-- The message of one operation, built in the slot at the tail. -/
def dpMessage (inst : DpInstance) (s : DpState) (op : DpOpData) (target : DpTarget) :
    CpaStatus × CompRequest :=
  dcDpWriteRingMsg inst.svc op target (slotMsg s.ring.req s.ring.req.tail) none

theorem cpaDcDpEnqueueOp_error {status : CpaStatus} (now : Bool)
    (h : admitDp ctx op = .error status) : cpaDcDpEnqueueOp ctx s op now = (status, s) := by
  rw [cpaDcDpEnqueueOp, h]

theorem cpaDcDpEnqueueOp_full (now : Bool) (h : admitDp ctx op = .ok target)
    (hroom : ¬HasRoom (ctx.inst op.dcInstance).tx s.ring 1) :
    cpaDcDpEnqueueOp ctx s op now = (.retry, s) := by
  rw [cpaDcDpEnqueueOp, h]
  dsimp only
  rw [icpAdfGetSingleQueueAddr_full hroom, enqueueReserved]

/-- An admitted operation with a free slot takes the slot, whether its message is built or not. -/
theorem cpaDcDpEnqueueOp_room (now : Bool) (h : admitDp ctx op = .ok target)
    (hroom : HasRoom (ctx.inst op.dcInstance).tx s.ring 1) :
    cpaDcDpEnqueueOp ctx s op now =
      enqueueReserved s target now (dpMessage (ctx.inst op.dcInstance) s op target).1
        (some (enqueued (ctx.inst op.dcInstance).tx s.ring
          (dpMessage (ctx.inst op.dcInstance) s op target).2.bytes)) := by
  rw [cpaDcDpEnqueueOp, h]
  dsimp only
  rw [icpAdfGetSingleQueueAddr_room hroom, dpMessage]

/-- The message of an operation is built if the firmware has a command for it. -/
theorem dpMessage_success_iff (inst : DpInstance) (op : DpOpData) (target : DpTarget) :
    (dpMessage inst s op target).1 = .success ↔ target.Buildable inst.svc := by
  rw [dpMessage, dcDpWriteRingMsg_success_iff, Option.isSome_none, or_iff_left (by simp)]

theorem add_mod_ne {m n : Nat} (hn : 0 < n) (hn' : n < 2 ^ 32) : (m + n) % 2 ^ 32 ≠ m := by omega

/-- `cpaDcDpEnqueueOp` leaves the ring as it was when it fails, if the message can be built. -/
theorem cpaDcDpEnqueueOp_fails_iff (op : DpOpData) (now : Bool) :
    ((cpaDcDpEnqueueOp ctx s op now).1 ≠ .success →
        SameRequests s.ring (cpaDcDpEnqueueOp ctx s op now).2.ring) ↔
      ¬(Submission.enqueueOp op now).NoCommand ctx s := by
  cases hadm : admitDp ctx op with
  | error status =>
    rw [cpaDcDpEnqueueOp_error now hadm]
    refine iff_of_true (fun _ => .refl _) ?_
    rintro ⟨target, hok, -⟩
    rw [hadm] at hok
    cases hok
  | ok target =>
    by_cases hroom : HasRoom (ctx.inst op.dcInstance).tx s.ring 1
    · rw [cpaDcDpEnqueueOp_room now hadm hroom, enqueueReserved]
      by_cases hb : target.Buildable (ctx.inst op.dcInstance).svc
      · rw [if_neg (not_not.mpr ((dpMessage_success_iff _ op target).mpr hb))]
        refine iff_of_true (fun hne => absurd rfl hne) ?_
        rintro ⟨target', hok, -, hnot⟩
        obtain rfl := Except.ok.inj (hadm.symm.trans hok)
        exact hnot hb
      · have hne := fun heq => hb ((dpMessage_success_iff (s := s) _ op target).mp heq)
        rw [if_pos hne]
        refine iff_of_false (fun h => ?_) (not_not.mpr ⟨target, hadm, hroom, hb⟩)
        exact add_mod_ne Nat.one_pos (by decide) (h hne).inFlight
    · rw [cpaDcDpEnqueueOp_full now hadm hroom]
      refine iff_of_true (fun _ => .refl _) ?_
      rintro ⟨_, -, hno, -⟩
      exact hroom hno

/-- The targets of an admitted batch, one for each operation. -/
theorem admitDpBatch_targets (h : admitDpBatch ctx first rest = .ok targets) :
    ∃ target targets', targets = target :: targets' := by
  have hall := checkBatchOps_ok (admitDpBatch_ok h).2
  cases hall with
  | cons _ _ => exact ⟨_, _, rfl⟩

theorem DpInstance.numCompConcurrentReq_le (inst : DpInstance) :
    inst.numCompConcurrentReq ≤ 65536 := by
  obtain ⟨j, -, hj, heq⟩ := (validateConcurrRequest_iff _).mp inst.valid
  rw [heq]
  exact Nat.pow_le_pow_right (by decide) hj

theorem cpaDcDpEnqueueOpBatch_error {status : CpaStatus} (now : Bool)
    (h : admitDpBatch ctx first rest = .error status) :
    cpaDcDpEnqueueOpBatch ctx s (first :: rest) now = (status, s) := by
  rw [cpaDcDpEnqueueOpBatch, h]

theorem cpaDcDpEnqueueOpBatch_full (now : Bool) (h : admitDpBatch ctx first rest = .ok targets)
    (hroom : ¬HasRoom (ctx.inst first.dcInstance).tx s.ring (first :: rest).length) :
    cpaDcDpEnqueueOpBatch ctx s (first :: rest) now = (.retry, s) := by
  rw [cpaDcDpEnqueueOpBatch, h]
  dsimp only
  rw [icpAdfGetQueueMemory_full hroom, batchReserved]

/-- An admitted batch with enough free slots takes them all, whether its messages are built or not. -/
theorem cpaDcDpEnqueueOpBatch_room (now : Bool) (h : admitDpBatch ctx first rest = .ok targets)
    (hroom : HasRoom (ctx.inst first.dcInstance).tx s.ring (first :: rest).length) :
    cpaDcDpEnqueueOpBatch ctx s (first :: rest) now =
      batchReserved (ctx.inst first.dcInstance) s first rest targets now
        (some (reserved s.ring (first :: rest).length)) := by
  rw [cpaDcDpEnqueueOpBatch, h]
  dsimp only
  rw [icpAdfGetQueueMemory_room hroom]

/-- `cpaDcDpEnqueueOpBatch` leaves the ring as it was when it fails, if the messages can be built. -/
theorem cpaDcDpEnqueueOpBatch_fails_iff (ops : List DpOpData) (now : Bool) :
    ((cpaDcDpEnqueueOpBatch ctx s ops now).1 ≠ .success →
        SameRequests s.ring (cpaDcDpEnqueueOpBatch ctx s ops now).2.ring) ↔
      ¬(Submission.enqueueOpBatch ops now).NoCommand ctx s := by
  cases ops with
  | nil =>
    refine iff_of_true (fun _ => .refl _) ?_
    rintro ⟨first, rest, target, targets, ⟨⟩, -⟩
  | cons first rest =>
    cases hadm : admitDpBatch ctx first rest with
    | error status =>
      rw [cpaDcDpEnqueueOpBatch_error now hadm]
      refine iff_of_true (fun _ => .refl _) ?_
      rintro ⟨_, _, target, targets, ⟨⟩, hok, -⟩
      rw [hadm] at hok
      cases hok
    | ok targets =>
      obtain ⟨target, targets, rfl⟩ := admitDpBatch_targets hadm
      by_cases hroom : HasRoom (ctx.inst first.dcInstance).tx s.ring (first :: rest).length
      · rw [cpaDcDpEnqueueOpBatch_room now hadm hroom, batchReserved]
        obtain ⟨hbuilt, hstuck⟩ := writeBatch_admitted hadm rfl
          (reserved s.ring (first :: rest).length).req
        by_cases hb : target.Buildable (ctx.inst first.dcInstance).svc
        · rw [if_neg (not_not.mpr (hbuilt hb))]
          refine iff_of_true (fun hne => absurd rfl hne) ?_
          rintro ⟨_, _, target', targets', ⟨⟩, hok, -, hnot⟩
          obtain ⟨rfl, -⟩ := List.cons.inj (Except.ok.inj (hadm.symm.trans hok))
          exact hnot hb
        · rw [if_pos (hstuck hb)]
          refine iff_of_false (fun h => ?_)
            (not_not.mpr ⟨first, rest, target, targets, rfl, hadm, hroom, hb⟩)
          have hle := (ctx.inst first.dcInstance).numCompConcurrentReq_le
          have hlen := (admitDpBatch_ok hadm).1
          rw [DpInstance.maxNumCompConcurrentReq] at hlen
          exact add_mod_ne (by simp) (by omega) (h (hstuck hb)).inFlight
      · rw [cpaDcDpEnqueueOpBatch_full now hadm hroom]
        refine iff_of_true (fun _ => .refl _) ?_
        rintro ⟨_, _, _, _, ⟨⟩, -, hno, -⟩
        exact hroom hno

/-- **When a failed submission leaves no trace on the request ring**: for every state and every call,
    exactly when it is no data plane call that reaches a ring with room with a no-session operation for
    which the firmware has no command. -/
theorem failedSubmission_iff (ctx : DpContext) (s : DpState) (hflight : s.ring.inFlight < 2 ^ 32)
    (sub : Submission) :
    ((sub.run ctx s).1 ≠ .success → SameRequests s.ring (sub.run ctx s).2.ring) ↔
      ¬sub.NoCommand ctx s := by
  cases sub with
  | transPutMsg dcInstance msg locked =>
    refine iff_of_true (fun hne => ?_) id
    have hcases := icpAdfTransPutMsg_cases (ctx.inst dcInstance) hflight msg locked
    have heq : (Submission.run ctx s (.transPutMsg dcInstance msg locked)).2 = s :=
      hcases.resolve_left hne
    rw [heq]
    exact .refl _
  | enqueueOp op now => exact cpaDcDpEnqueueOp_fails_iff op now
  | enqueueOpBatch ops now => exact cpaDcDpEnqueueOpBatch_fails_iff ops now

end Submissions

/-! ## Sample submissions -/

/-- A 4XXX instance with 64 concurrent requests. -/
def sampleDpInstance : DpInstance := ⟨sample4xxx false, true, .running, 64, by decide⟩

/-- Every handle leads to the same instance and setup data, and to no session. -/
def sampleDpContext (data : SetupData) : DpContext :=
  ⟨fun _ => sampleDpInstance, fun _ => none, fun _ => data⟩

/-- LZ4S decompression. -/
def sampleLz4s : SetupData :=
  { sampleSetup 1 .static false with
    compType := .lz4s
    sessDirection := .decompress
    checksum := .none }

/-- A no-session operation on flat buffers. -/
def sampleDpOp (dir : SessionDir) : DpOpData where
  handlesOk := true
  addr := 0x9000
  dcInstance := 0
  pSessionHandle := none
  pSetupData := some 0
  bufferLenToCompress := 1024
  bufferLenForData := 2048
  srcBuffer := 0x10000
  srcBufferLen := 1024
  destBuffer := 0x20000
  destBufferLen := 2048
  sessDirection := dir
  compressAndVerify := true
  compressAndVerifyAndRecover := false
  thisPhys := 0x9000

/-- The data plane of a new instance. -/
def DpState.create : DpState := ⟨fun _ => 0, RingPair.create⟩

/-- An instance with all its requests in flight. -/
def DpState.full : DpState :=
  { DpState.create with ring := { RingPair.create with inFlight := 63 } }

/-- On a full ring the call asks for a retry and leaves no trace. -/
theorem failedSubmission_iff_full_ring :
    (Submission.run (sampleDpContext sampleLz4s) .full
        (.enqueueOp (sampleDpOp .decompress) true)).1 = .retry ∧
      SameRequests DpState.full.ring (Submission.run (sampleDpContext sampleLz4s) .full
        (.enqueueOp (sampleDpOp .decompress) true)).2.ring := by
  have hretry : (Submission.run (sampleDpContext sampleLz4s) .full
      (.enqueueOp (sampleDpOp .decompress) true)).1 = .retry := rfl
  refine ⟨hretry, (failedSubmission_iff _ _ (by decide) _).mpr ?_ (by rw [hretry]; decide)⟩
  rintro ⟨target, -, hroom, -⟩
  exact absurd hroom (by unfold HasRoom; decide)

/-- LZ4S decompression is refused with its slot reserved. -/
theorem enqueueOp_keeps_slot :
    ∃ t, cpaDcDpEnqueueOp (sampleDpContext sampleLz4s) .create (sampleDpOp .decompress) false =
        (.unsupported, t) ∧
      DpState.create.ring.inFlight = 0 ∧ t.ring.inFlight = 1 ∧
      DpState.create.ring.req.tail = 0 ∧ t.ring.req.tail = 128 :=
  ⟨_, rfl, rfl, rfl, rfl, rfl⟩

end Qatlib.Compression.Fw
