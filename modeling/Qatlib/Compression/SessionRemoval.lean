import Qatlib.Compression.Pending
import Qatlib.Compression.DataPlane
import Qatlib.Compression.SessionUpdate

set_option autoImplicit false

/-! # The locks of a compression session

A stateful session has a lock around its one request in flight, a stateless session a lock around its
cached request. `dcInitSession` initialises the one that belongs to the session, `cpaDcRemoveSession`
destroys it. A lock is a mutex in memory of its own: destroying it frees the memory and clears the
pointer, so a lock that is taken or destroyed afterwards is a NULL pointer. -/

namespace Qatlib.Compression.Fw

/-- A lock: whether it can be taken, and how often it was destroyed. -/
structure Lock where
  live : Bool
  destroyed : Nat
deriving DecidableEq

/-- `LAC_SPINLOCK_DESTROY`. -/
def Lock.destroy (l : Lock) : Lock := ⟨false, l.destroyed + 1⟩

/-- A session between its initialisation and its removal. -/
structure LiveSession where
  svc : FwService
  session : FwSession
  isDcDp : Bool
  pendingDpStatelessCbCount : Nat
  /-- The requests of the traditional API that wait for their response. -/
  ring : List Cookie
  sessionLock : Lock
  updateLock : Lock
  /-- A lock was taken or destroyed that was not initialised. -/
  misused : Bool
  /-- A removal has succeeded. -/
  removed : Bool

/-- `cpaDcDpInitSession`: the session of `dcInitSession` with flat buffers. -/
def cpaDcDpInitSession (svc : FwService) (data : SetupData) (env : InitEnv) :
    Except CpaStatus FwSession :=
  if svc.paramCheck ∧ data.sessState ≠ .stateless then .error .invalidParam
  else
    (dcInitSession svc data env).map fun sess =>
      let flat (msg : CompRequest) : CompRequest :=
        { msg with
          comnHdr := { msg.comnHdr with comnReqFlags := ptrTypeSet msg.comnHdr.comnReqFlags 0 } }
      { sess with
        reqCacheComp := flat sess.reqCacheComp
        reqCacheDecomp := flat sess.reqCacheDecomp }

/-! ## Which calls take which lock -/

section

variable (st : LiveSession)

/-- The lock of a stateful session is taken once the checks of the call have passed, before it is known
    whether a request is in flight. -/
def takesSessionLock (svc : Service) (sess : SessionDesc) (env : SubmitEnv) (call : Call) : Bool :=
  decide (sess.sessState = .stateful) &&
    match call.admission svc { sess with pendingStatefulCbCount := 0 } env with
    | .accept _ _ => true
    | .reject status _ => decide (status = .success)

/-- `dcCreateRequest` copies the cached compression request of a stateless session under its lock. -/
def takesUpdateLock (svc : Service) (sess : SessionDesc) (env : SubmitEnv) (call : Call) : Bool :=
  match call.admission svc sess env with
  | .reject _ _ => false
  | .accept sess args =>
      decide (sess.sessState = .stateless ∧ args.compDecomp = .compression) &&
        (!sess.syncCb || decide (env.syncCookie = .success)) && env.poolActive &&
        decide (env.srcDesc = .success ∧ env.dstDesc = .success)

/-- Take a lock, if a call does. -/
def LiveSession.take (takes : Bool) (l : Lock) : LiveSession :=
  { st with misused := st.misused || (takes && !l.live) }

/-! ## Session management -/

/-- What the outside answers while a session is reset or removed. -/
structure ManageEnv where
  /-- The checks on the handles pass. -/
  handlesOk : Bool
  run : RunState
  /-- `icp_adf_queueDataToSend`: messages of the data plane are on the ring and not sent. -/
  queueDataToSend : Bool

/-- What `SAL_RUNNING_CHECK` returns early with. -/
def RunState.refusal (run : RunState) : Option CpaStatus :=
  match run.check with
  | .error status => some status
  | .ok _ => none

/-- The call returns early, with this status. -/
def ManageEnv.refusal (env : ManageEnv) (svc : FwService) : Option CpaStatus :=
  if svc.paramCheck && !env.handlesOk then some .invalidParam else env.run.refusal

/-- The requests of the session that are pending, as `cpaDcResetSession` and `cpaDcRemoveSession` see
    them. Messages of the data plane that were not sent are sent then. -/
def LiveSession.busy (env : ManageEnv) : Bool :=
  if st.isDcDp then env.queueDataToSend || decide (st.pendingDpStatelessCbCount ≠ 0)
  else decide (st.session.pendingStatelessCbCount ≠ 0 ∨ st.session.pendingStatefulCbCount ≠ 0)

/-- `cpaDcResetSession`. -/
def cpaDcResetSession (env : ManageEnv) : CpaStatus × LiveSession :=
  match env.refusal st.svc with
  | some status => (status, st)
  | none =>
      if st.busy env then (.retry, st)
      else
        let sess : FwSession :=
          if st.isDcDp then st.session
          else { st.session with
            requestType := .first, cumulativeConsumedBytes := 0, cnvErrorInjection := false }
        (.success, { st with
          session := { sess with pendingStatelessCbCount := 0, pendingStatefulCbCount := 0 }
          pendingDpStatelessCbCount := 0 })

/-- `LAC_SPINLOCK_DESTROY` on the lock of a stateful session. -/
def LiveSession.destroySessionLock : LiveSession :=
  { st with misused := st.misused || !st.sessionLock.live, sessionLock := st.sessionLock.destroy }

/-- `LAC_SPINLOCK_DESTROY` on the lock of a stateless session. -/
def LiveSession.destroyUpdateLock : LiveSession :=
  { st with misused := st.misused || !st.updateLock.live, updateLock := st.updateLock.destroy }

/-- `cpaDcRemoveSession`. A session of the data plane with pending requests returns early; a session
    of the traditional API goes on to its lock, and whether the removal has failed is looked at for
    the lock of a stateful session only. -/
def cpaDcRemoveSession (env : ManageEnv) : CpaStatus × LiveSession :=
  match env.refusal st.svc with
  | some status => (status, st)
  | none =>
      if st.isDcDp && st.busy env then (.retry, st)
      else
        let status : CpaStatus := if st.busy env then .retry else .success
        let st :=
          if st.isDcDp = false ∧ st.session.sessState = .stateful ∧ status = .success then
            st.destroySessionLock
          else st
        let st := if st.session.sessState = .stateless then st.destroyUpdateLock else st
        (status, st)

/-! ## Runs -/

/-- What can happen to a session. -/
inductive LifeEvent where
  | submit (call : Call) (env : SubmitEnv)
  | response (k : Nat) (resp : Response) (results : Option Results)
  | swResponse (k : Nat)
  /-- A data plane call puts requests of the session on the ring. -/
  | dpEnqueue (numRequests : Nat)
  | dpResponse
  | update (env : ManageEnv) (upd : UpdateData)
  | reset (env : ManageEnv)
  | remove (env : ManageEnv)

/-- The session after a call or a response changed its descriptor. -/
def LiveSession.setDesc (desc : SessionDesc) (ring : List Cookie) : LiveSession :=
  { st with session := { st.session with toSessionDesc := desc }, ring := ring }

/-- One step of a session that is not removed. The calls of the traditional API and of the data plane
    have no effect on the sessions of the other. -/
def LiveSession.next : LifeEvent → Option LiveSession
  | .submit call env =>
      if st.isDcDp then some st
      else
        let desc := st.session.toSessionDesc
        let out := call.run st.svc.toService desc env
        let st := st.take (takesSessionLock st.svc.toService desc env call) st.sessionLock
        let st := st.take (takesUpdateLock st.svc.toService desc env call) st.updateLock
        some (st.setDesc out.session (st.ring ++ out.request.toList))
  | .response k resp results =>
      (st.ring[k]?).map fun cookie =>
        st.setDesc
          (dcCompressionProcessCallback st.svc.toService st.session.toSessionDesc cookie resp
            results).1 (st.ring.eraseIdx k)
  | .swResponse k =>
      (st.ring[k]?).map fun _ =>
        st.setDesc (dcCompressionSwRespMsgCallback st.session.toSessionDesc) (st.ring.eraseIdx k)
  | .dpEnqueue n =>
      if st.isDcDp then
        some { st with pendingDpStatelessCbCount := st.pendingDpStatelessCbCount + n }
      else some st
  | .dpResponse =>
      if st.isDcDp ∧ 0 < st.pendingDpStatelessCbCount then
        some { st with pendingDpStatelessCbCount := st.pendingDpStatelessCbCount - 1 }
      else none
  | .update env upd =>
      let out := cpaDcUpdateSession st.svc st.session env.handlesOk env.run.refusal upd
      let st := st.take (!st.isDcDp && decide (out.1 = .success)) st.updateLock
      some { st with svc := out.2.1, session := out.2.2 }
  | .reset env => some (cpaDcResetSession st env).2
  | .remove env =>
      let out := cpaDcRemoveSession st env
      some { out.2 with removed := decide (out.1 = .success) }

end

/-- A session of the traditional API or of the data plane, from its initialisation to its removal. -/
def sessionLife : System LiveSession LifeEvent where
  Init st := (∃ data env, if st.isDcDp then
        st.svc.paramCheck = true ∧ cpaDcDpInitSession st.svc data env = .ok st.session
      else dcInitSession st.svc data env = .ok st.session) ∧
    st.pendingDpStatelessCbCount = 0 ∧ st.ring = [] ∧
    st.sessionLock = ⟨decide (st.session.sessState = .stateful), 0⟩ ∧
    st.updateLock = ⟨decide (st.session.sessState = .stateless), 0⟩ ∧
    st.misused = false ∧ st.removed = false
  step st e := if st.removed then none else st.next e

/-! ## The kind of a session -/

theorem respPending_kind (sess : SessionDesc) : sess.respPending.sessState = sess.sessState := by
  unfold SessionDesc.respPending
  split
  · rfl
  · split
    · rfl
    · rfl

section

variable (svc : Service) (sess : SessionDesc)

theorem dcCompDecompDataBody_kind (args : ReqArgs) (env : SubmitEnv) :
    (dcCompDecompDataBody svc sess args env).session.sessState = sess.sessState := by
  unfold dcCompDecompDataBody
  split
  · rfl
  split
  · exact decPending_kind sess
  next built cookie hcreate =>
    have hkind : (dcSendRequest built.incStateless env).2.sessState = sess.sessState := by
      rw [(dcSendRequest_same built.incStateless env).2.kind, incStateless_kind,
        (dcCreateRequest_same hcreate).kind]
    dsimp only
    split
    · exact hkind
    · exact (decPending_kind _).trans hkind

theorem dcCompDecompData_kind (args : ReqArgs) (env : SubmitEnv) :
    (dcCompDecompData svc sess args env).session.sessState = sess.sessState := by
  have hbody := dcCompDecompDataBody_kind svc sess args env
  unfold dcCompDecompData
  split
  · split
    · dsimp only
      split
      · exact hbody
      · exact hbody
    · rfl
  · exact hbody

theorem run_kind (env : SubmitEnv) (call : Call) :
    (call.run svc sess env).session.sessState = sess.sessState := by
  unfold Call.run
  have hcounts := admission_counts svc sess env call
  cases hadm : call.admission svc sess env with
  | reject status sess' =>
      rw [hadm] at hcounts
      exact hcounts.kind
  | accept sess' args =>
      rw [hadm] at hcounts
      exact (dcCompDecompData_kind svc sess' args env).trans hcounts.1

theorem processCallback_kind (cookie : Cookie) (resp : Response) (results : Option Results) :
    (dcCompressionProcessCallback svc sess cookie resp results).1.sessState = sess.sessState := by
  obtain ⟨sess', hsame, hresp⟩ := processCallback_session svc sess cookie resp results
  rw [hresp, respPending_kind, hsame.kind]

end

theorem cpaDcUpdateSession_kind (svc : FwService) (sess : FwSession) (handlesOk : Bool)
    (notRunning : Option CpaStatus) (upd : UpdateData) :
    (cpaDcUpdateSession svc sess handlesOk notRunning upd).2.2.sessState = sess.sessState := by
  unfold cpaDcUpdateSession
  split
  · rfl
  split
  · rfl
  split
  · rfl
  · rfl

/-! ## The locks along a run -/

/-- The lock of a session, given whether it belongs to the session's kind: live until the session is
    removed, destroyed once then. -/
def lockOf (used removed : Bool) : Lock := ⟨used && !removed, if used && removed then 1 else 0⟩

/-- Both locks are as the kind of the session and its removal say, and no other lock was used. -/
structure LocksKept (st : LiveSession) : Prop where
  dp : st.isDcDp = true → st.session.sessState = .stateless
  sessionLock : st.sessionLock = lockOf (decide (st.session.sessState = .stateful)) st.removed
  updateLock : st.updateLock = lockOf (decide (st.session.sessState = .stateless)) st.removed
  misused : st.misused = false

/-- A removal that gets past its first checks finds nothing pending, if it is of a stateless session
    of the traditional API. -/
def RemovesIdle (st : LiveSession) : LifeEvent → Prop
  | .remove env => env.refusal st.svc = none → st.isDcDp = false →
      st.session.sessState = .stateless →
      st.session.pendingStatelessCbCount = 0 ∧ st.session.pendingStatefulCbCount = 0
  | _ => True

open LiveSession

theorem LiveSession.take_live (st : LiveSession) {takes : Bool} {l : Lock}
    (hl : takes = true → l.live = true) : st.take takes l = st := by
  have hmis : (takes && !l.live) = false := by
    cases htakes : takes with
    | false => rfl
    | true => simp [hl htakes]
  rw [take, hmis, Bool.or_false]

section Steps

variable {st : LiveSession}

variable {svc : Service} {sess : SessionDesc} {env : SubmitEnv} {call : Call} {data : SetupData}

theorem stateful_of_takesSessionLock (h : takesSessionLock svc sess env call = true) :
    sess.sessState = .stateful :=
  of_decide_eq_true (Bool.and_eq_true_iff.mp h).1

theorem stateless_of_takesUpdateLock (h : takesUpdateLock svc sess env call = true) :
    sess.sessState = .stateless := by
  unfold takesUpdateLock at h
  have hcounts := admission_counts svc sess env call
  split at h
  · cases h
  · next sess' args hadm =>
    rw [hadm] at hcounts
    simp only [Bool.and_eq_true, decide_eq_true_eq] at h
    exact hcounts.1.symm.trans h.1.1.1.1

variable {st' : LiveSession} {svc : FwService} {sess : FwSession} {env : ManageEnv}

theorem stateless_of_update {upd : UpdateData}
    (h : (cpaDcUpdateSession svc sess env.handlesOk env.run.refusal upd).1 = .success) :
    sess.sessState = .stateless := by
  have hcheck : dcCheckUpdateSession svc sess upd = .success := by
    unfold cpaDcUpdateSession at h
    split at h
    · cases h
    split at h
    · next hrefused =>
      -- an instance that does not run is never a success
      revert hrefused h
      cases env.run <;> rintro ⟨⟩ ⟨⟩
    split at h
    · next hok => exact hok
    · exact h
  unfold dcCheckUpdateSession at hcheck
  cases hkind : sess.sessState with
  | stateless => rfl
  | stateful =>
      rw [hkind] at hcheck
      split at hcheck
      · cases hcheck
      · cases hcheck

/-- A refusal is not a success, and not a request to try again. -/
theorem refusal_ne {status : CpaStatus} (h : env.refusal svc = some status) :
    status ≠ .success ∧ status ≠ .retry := by
  unfold ManageEnv.refusal at h
  split at h
  · cases h
    decide
  · revert h
    cases env.run <;> rintro ⟨⟩ <;> decide

/-- The lock of the session's kind is destroyed. -/
def LiveSession.destroyLock (st : LiveSession) : LiveSession :=
  match st.session.sessState with
  | .stateful => st.destroySessionLock
  | .stateless => st.destroyUpdateLock

namespace LocksKept

variable (h : LocksKept st)
include h

/-- A change of the descriptor that keeps its kind keeps the locks. -/
theorem setDesc {desc : SessionDesc} (hkind : desc.sessState = st.session.sessState)
    (ring : List Cookie) : LocksKept (st.setDesc desc ring) := by
  refine ⟨fun hdp => hkind.trans (h.dp hdp), ?_, ?_, h.misused⟩
  · exact h.sessionLock.trans (by simp [LiveSession.setDesc, hkind])
  · exact h.updateLock.trans (by simp [LiveSession.setDesc, hkind])

theorem reset (env : ManageEnv) : LocksKept (cpaDcResetSession st env).2 := by
  unfold cpaDcResetSession
  split
  · exact h
  split
  · exact h
  · dsimp only
    split <;> exact ⟨h.dp, h.sessionLock, h.updateLock, h.misused⟩

/-- The outcomes of a removal: it is refused or a session of the data plane is busy, and nothing
    happens; a busy session of the traditional API loses its update lock if it is stateless; an idle
    session loses the lock of its kind. -/
theorem cpaDcRemoveSession_cases (env : ManageEnv) :
    (∃ status, env.refusal st.svc = some status ∧ cpaDcRemoveSession st env = (status, st)) ∨
    env.refusal st.svc = none ∧ st.busy env = true ∧ (st.isDcDp = true ∨
      st.session.sessState = .stateful) ∧ cpaDcRemoveSession st env = (.retry, st) ∨
    env.refusal st.svc = none ∧ st.busy env = true ∧ st.isDcDp = false ∧
      st.session.sessState = .stateless ∧
      cpaDcRemoveSession st env = (.retry, st.destroyUpdateLock) ∨
    env.refusal st.svc = none ∧ st.busy env = false ∧
      cpaDcRemoveSession st env = (.success, st.destroyLock) := by
  unfold cpaDcRemoveSession
  cases hrefuse : env.refusal st.svc with
  | some status => exact .inl ⟨status, rfl, rfl⟩
  | none =>
      right
      by_cases hdp : st.isDcDp = true
      · -- a session of the data plane is stateless
        have hkind := h.dp hdp
        cases hbusy : st.busy env with
        | true =>
            left
            simp [hdp]
        | false =>
            right; right
            simp [hdp, hkind, destroyLock]
      · cases hbusy : st.busy env with
        | true =>
            cases hkind : st.session.sessState with
            | stateful =>
                left
                simp [hdp, hkind]
            | stateless =>
                right; left
                simp [hdp, hkind]
        | false =>
            right; right
            cases hkind : st.session.sessState with
            | stateful => simp [hdp, hkind, destroyLock, destroySessionLock]
            | stateless => simp [hdp, hkind, destroyLock]

section

variable (hlive : st.removed = false)
include hlive

/-- The lock of a stateful session can be taken until the removal. -/
theorem sessionLock_live (hkind : st.session.sessState = .stateful) :
    st.sessionLock.live = true := by
  rw [h.sessionLock, hlive, hkind]
  rfl

theorem updateLock_live (hkind : st.session.sessState = .stateless) :
    st.updateLock.live = true := by
  rw [h.updateLock, hlive, hkind]
  rfl

theorem submit (call : Call) (env : SubmitEnv) (hnext : st.next (.submit call env) = some st') :
    LocksKept st' := by
  dsimp only [next] at hnext
  split at hnext
  · cases hnext
    exact h
  · cases hnext
    have hsession : st.take (takesSessionLock st.svc.toService st.session.toSessionDesc env call)
        st.sessionLock = st :=
      st.take_live fun htakes => h.sessionLock_live hlive (stateful_of_takesSessionLock htakes)
    have hupdate : st.take (takesUpdateLock st.svc.toService st.session.toSessionDesc env call)
        st.updateLock = st :=
      st.take_live fun htakes => h.updateLock_live hlive (stateless_of_takesUpdateLock htakes)
    rw [hsession, hupdate]
    exact h.setDesc (run_kind _ _ _ _) _

theorem update (env : ManageEnv) (upd : UpdateData)
    (hnext : st.next (.update env upd) = some st') : LocksKept st' := by
  dsimp only [next] at hnext
  cases hnext
  rw [st.take_live fun htakes => h.updateLock_live hlive
    (stateless_of_update (of_decide_eq_true (Bool.and_eq_true_iff.mp htakes).2))]
  have hkind := cpaDcUpdateSession_kind st.svc st.session env.handlesOk env.run.refusal upd
  refine ⟨fun hdp => hkind.trans (h.dp hdp), ?_, ?_, h.misused⟩
  · rw [hkind]
    exact h.sessionLock
  · rw [hkind]
    exact h.updateLock

theorem destroyLock : LocksKept { st.destroyLock with removed := true } := by
  unfold LiveSession.destroyLock
  cases hkind : st.session.sessState with
  | stateful =>
      have hl := h.sessionLock_live hlive hkind
      refine ⟨h.dp, ?_, ?_, ?_⟩
      · simp [LiveSession.destroySessionLock, h.sessionLock, hkind, hlive, Lock.destroy, lockOf]
      · simp [LiveSession.destroySessionLock, h.updateLock, hkind, lockOf]
      · simp [LiveSession.destroySessionLock, hl, h.misused]
  | stateless =>
      have hl := h.updateLock_live hlive hkind
      refine ⟨fun _ => hkind, ?_, ?_, ?_⟩
      · simp [LiveSession.destroyUpdateLock, h.sessionLock, hkind, lockOf]
      · simp [LiveSession.destroyUpdateLock, h.updateLock, hkind, hlive, Lock.destroy, lockOf]
      · simp [LiveSession.destroyUpdateLock, hl, h.misused]

theorem remove (hidle : RemovesIdle st (.remove env)) (hnext : st.next (.remove env) = some st') :
    LocksKept st' := by
  dsimp only [next] at hnext
  cases hnext
  have hkeep : LocksKept { st with removed := false } := hlive ▸ h
  obtain ⟨status, hrefuse, hres⟩ | ⟨hnone, -, -, hres⟩ | ⟨hnone, hbusy, hdp, hkind, -⟩ |
    ⟨-, -, hres⟩ := cpaDcRemoveSession_cases h env
  · rw [hres]
    simpa [(refusal_ne hrefuse).1] using hkeep
  · rw [hres]
    simpa using hkeep
  · -- excluded: nothing is pending
    obtain ⟨hless, hful⟩ := hidle hnone hdp hkind
    simp [busy, hdp, hless, hful] at hbusy
  · rw [hres]
    simpa using h.destroyLock hlive

end

theorem step {e : LifeEvent} (hidle : RemovesIdle st e)
    (hstep : sessionLife.step st e = some st') : LocksKept st' := by
  obtain ⟨hremoved, hnext⟩ := Option.ite_none_left_eq_some.mp hstep
  have hlive : st.removed = false := by simpa using hremoved
  cases e with
  | submit call env => exact h.submit hlive call env hnext
  | response k resp results =>
      obtain ⟨cookie, -, rfl⟩ := Option.map_eq_some_iff.mp hnext
      exact h.setDesc (processCallback_kind _ _ _ _ _) _
  | swResponse k =>
      obtain ⟨cookie, -, rfl⟩ := Option.map_eq_some_iff.mp hnext
      exact h.setDesc (decPending_kind _) _
  | dpEnqueue n =>
      dsimp only [next] at hnext
      split at hnext
      · cases hnext
        exact ⟨h.dp, h.sessionLock, h.updateLock, h.misused⟩
      · cases hnext
        exact h
  | dpResponse =>
      obtain ⟨-, hst'⟩ := Option.ite_none_right_eq_some.mp hnext
      cases hst'
      exact ⟨h.dp, h.sessionLock, h.updateLock, h.misused⟩
  | update env upd => exact h.update hlive env upd hnext
  | reset env =>
      cases hnext
      exact h.reset env
  | remove env => exact h.remove hlive hidle hnext

end LocksKept

theorem initTemplates_kind {env : InitEnv} {ctx : BitVec 64} {sess₀ : FwSession}
    (h : initTemplates svc data sess₀ ctx env = .ok sess) : sess.sessState = sess₀.sessState := by
  unfold initTemplates at h
  cases hcomp : dcGetCompressCommandId svc data <;>
    cases hdecomp : dcGetDecompressCommandId svc data <;>
    by_cases hd : data.sessDirection = .decompress <;>
    by_cases hc : data.sessDirection = .compress <;>
    simp_all [bind, Except.bind, pure, Except.pure]
  all_goals rw [← h]

/-- A session of the data plane is stateless. -/
theorem cpaDcDpInitSession_kind {env : InitEnv} (hcheck : svc.paramCheck = true)
    (h : cpaDcDpInitSession svc data env = .ok sess) : sess.sessState = .stateless := by
  unfold cpaDcDpInitSession at h
  split at h
  · cases h
  next hkind =>
    have hstate : data.sessState = .stateless := by
      by_contra hne
      exact hkind ⟨hcheck, hne⟩
    cases hinit : dcInitSession svc data env with
    | error status => simp [hinit, Except.map] at h
    | ok sess' =>
        rw [hinit] at h
        obtain rfl := Except.ok.inj h
        obtain ⟨data', hinter, htempl⟩ := dcInitSession_templates hstate hinit
        have hstate' : data'.sessState = .stateless := by
          obtain rfl | ⟨-, -, -, rfl⟩ := interBuffersFor_ok hinter
          · exact hstate
          · exact hstate
        exact (initTemplates_kind htempl).trans hstate'

theorem LocksKept.init (hinit : sessionLife.Init st) : LocksKept st := by
  obtain ⟨⟨data, env, hsess⟩, -, -, hsession, hupdate, hmis, hlive⟩ := hinit
  refine ⟨fun hdp => ?_, ?_, ?_, hmis⟩
  · rw [if_pos hdp] at hsess
    exact cpaDcDpInitSession_kind hsess.1 hsess.2
  · simp [hsession, lockOf, hlive]
  · simp [hupdate, lockOf, hlive]

/-- **Removals that are tried too early.** In every run of a session in which no removal of a
    stateless session of the traditional API gets to a session with requests pending: the lock of the
    session's kind is live until the removal that succeeds and is destroyed exactly once by it, no
    other lock is used, and a removal that returns RETRY changes nothing. In each state so reached a
    removal that returns RETRY changes nothing exactly when the run may go on with it. -/
theorem removal_retry_iff (hst : sessionLife.ReachableBy RemovesIdle st) :
    st.misused = false ∧
      st.sessionLock = lockOf (decide (st.session.sessState = .stateful)) st.removed ∧
      st.updateLock = lockOf (decide (st.session.sessState = .stateless)) st.removed ∧
      ∀ env, (cpaDcRemoveSession st env).1 = .retry →
        ((cpaDcRemoveSession st env).2 = st ↔ RemovesIdle st (.remove env)) := by
  have h : LocksKept st :=
    hst.invariant LocksKept (fun _ => LocksKept.init) (fun _ _ _ hs hok => hs.step hok)
  refine ⟨h.misused, h.sessionLock, h.updateLock, fun env hretry => ?_⟩
  obtain ⟨status, hrefuse, hres⟩ | ⟨hnone, -, hother, hres⟩ | ⟨hnone, hbusy, hdp, hkind, hres⟩ |
    ⟨-, -, hres⟩ := h.cpaDcRemoveSession_cases env
  · rw [hres] at hretry
    exact absurd hretry (refusal_ne hrefuse).2
  · rw [hres]
    refine iff_of_true rfl fun _ hdp hkind => ?_
    rcases hother with hother | hother
    · rw [hdp] at hother
      cases hother
    · rw [hkind] at hother
      cases hother
  · rw [hres]
    refine iff_of_false (fun heq => ?_) (fun hidle => ?_)
    · have hcount : st.updateLock.destroyed + 1 = st.updateLock.destroyed :=
        congrArg (fun s : LiveSession => s.updateLock.destroyed) heq
      exact absurd hcount (Nat.succ_ne_self _)
    · obtain ⟨hless, hful⟩ := hidle hnone hdp hkind
      simp [busy, hdp, hless, hful] at hbusy
  · rw [hres] at hretry
    cases hretry

end Steps

/-- An instance that runs, and no messages on the ring. -/
def ManageEnv.ok : ManageEnv where
  handlesOk := true
  run := .running
  queueDataToSend := false

/-- A new session of the traditional API. -/
def LiveSession.start (svc : FwService) (session : FwSession) : LiveSession where
  svc := svc
  session := session
  isDcDp := false
  pendingDpStatelessCbCount := 0
  ring := []
  sessionLock := ⟨decide (session.sessState = .stateful), 0⟩
  updateLock := ⟨decide (session.sessState = .stateless), 0⟩
  misused := false
  removed := false

/-- The session of a setup, if its initialisation succeeds. -/
def sampleSession (svc : FwService) (data : SetupData) : FwSession :=
  (dcInitSession svc data sampleInit).toOption.getD (initDesc svc data false)

/-- Stateful decompression. -/
def statefulSetup : SetupData :=
  { sampleSetup 1 .static false with sessDirection := .decompress, sessState := .stateful }

/-- A removal of a stateful session comes while its request is on the ring: the session can be used
    on. -/
theorem removal_retry_iff_stateful :
    ∃ st, sessionLife.ReachableBy RemovesIdle st ∧ st.ring.length = 1 ∧
      (cpaDcRemoveSession st .ok).1 = .retry ∧ (cpaDcRemoveSession st .ok).2 = st ∧
      st.sessionLock = ⟨true, 0⟩ := by
  have hst : sessionLife.ReachableBy RemovesIdle _ :=
    ⟨.start (sampleC62x 0) (sampleSession (sampleC62x 0) statefulSetup),
      ⟨⟨statefulSetup, sampleInit, rfl⟩, rfl, rfl, rfl, rfl, rfl, rfl⟩,
      .head (e := .submit (.decompressData .none 0) .ok) trivial rfl <|
      .head (e := .remove .ok) (fun _ _ hkind => by cases hkind) rfl <| .refl _⟩
  obtain ⟨-, hlock, -, hretry⟩ := removal_retry_iff hst
  exact ⟨_, hst, rfl, rfl, (hretry .ok rfl).mpr (fun _ _ hkind => by cases hkind), hlock⟩

/-- A removal of a stateless session comes while its request is on the ring. The lock is destroyed:
    the next request takes a lock that does not exist, and the removal that succeeds destroys it once
    more. -/
theorem removal_retry_destroys :
    ∃ st, sessionLife.Reachable st ∧ st.removed = false ∧ st.updateLock = ⟨false, 1⟩ ∧
      (∃ st', sessionLife.exec st [.submit (.compressData .final 0) sampleFwEnv.toSubmitEnv] =
        some st' ∧ st'.misused = true) ∧
      ∃ st', sessionLife.exec st [.swResponse 0, .remove .ok] = some st' ∧
        st'.removed = true ∧ st'.updateLock.destroyed = 2 := by
  have hinit : sessionLife.Init (.start (sampleC62x 0)
      (sampleSession (sampleC62x 0) (sampleSetup 1 .static false))) :=
    ⟨⟨sampleSetup 1 .static false, sampleInit, rfl⟩, rfl, rfl, rfl, rfl, rfl, rfl⟩
  exact ⟨_, System.reachable_of_exec _
    [.submit (.compressData .final 0) sampleFwEnv.toSubmitEnv, .remove .ok] hinit rfl,
    rfl, rfl, ⟨_, rfl, rfl⟩, ⟨_, rfl, rfl, rfl⟩⟩

end Qatlib.Compression.Fw
