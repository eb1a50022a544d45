import Mathlib.Data.List.Perm.Basic
import Qatlib.Compression.Pending
import Qatlib.Utils.MemPool

set_option autoImplicit false

/-! # The cookie pool of a compression instance

Session-based requests (`dcCompDecompData`) and no-session ones (`dcNsCompDecompData`) take their
cookies from one pool. A cookie goes back when the request cannot be built or sent, and otherwise
when its response is processed. A synchronous caller waits for the callback and may give up before
it comes.

The two implementations differ in what the caller does then. `dcCompDecompData` leaves the cookie to
the response. `dcNsCompDecompData` frees it, while the request that carries its address is still on
the ring (`ns_timeout_frees_cookie_in_flight`). `dc_cookies_partitioned` is for the runs in which no
no-session caller gives up.

A call up to the put of its message is one step. The mark of a cookie with the sequence number of the
message comes after the put, without a lock, and is a step of its own. -/

namespace Qatlib.Compression

open Qatlib.Utils

/-! ## The instance -/

/-- `dc_compression_cookie_t` as a callback finds it; the tag identifies the request whose callback
    it calls. -/
inductive DcCookie where
  | session (pSessionDesc : Nat) (cookie : Cookie) (callbackTag : Nat)
  /-- `pSessionHandle` is `DCNS`, `pSessionDesc` is NULL. -/
  | dcns (callbackTag : Nat)

namespace DcCookie

/-- `callbackTag`. -/
def callbackTag : DcCookie → Nat
  | .session _ _ tag => tag
  | .dcns tag => tag

/-- The request was sent without a session. -/
def noSession : DcCookie → Bool
  | .session _ _ _ => false
  | .dcns _ => true

end DcCookie

/-- A caller in `LacSync_WaitForCallback`, with its `pCookie`. -/
structure SyncWait where
  callbackTag : Nat
  pCookie : Nat
  noSession : Bool
deriving DecidableEq

/-- A compression instance: its sessions, the cookie pool and the cookies' contents, the ring. -/
structure DcInstance where
  sessions : Nat → SessionDesc
  compressionMemPool : MemPool
  cookie : Nat → DcCookie
  /-- `send_seq` of the request ring. -/
  sendSeq : Nat
  /-- The cookies of the requests that wait for their response, in the order of sending. -/
  ring : List Nat
  /-- The cookies that were put on the ring and are still to be marked, with the number. -/
  marking : List (Nat × Nat)
  waiting : List SyncWait
  /-- The number of requests accepted so far; the next one has this tag. -/
  numAccepted : Nat
  /-- The tags of the callbacks called so far, in order. -/
  called : List Nat

/-- What a call of `cpaDcNsCompressData` or `cpaDcNsDecompressData` meets. -/
structure NsCall where
  /-- What the checks of the entry point return. -/
  entryCheck : CpaStatus
  /-- `callbackFn` is not NULL. -/
  callbackFn : Bool
  /-- `LacSync_CreateSyncCookie` gives a cookie. -/
  syncCookie : Bool
  /-- `dcNsCreateRequest`. -/
  createRequest : CpaStatus
  /-- `SalQatMsg_transPutMsg`. -/
  putMsg : CpaStatus

/-- The session and arguments with which a call gets to the allocation of the cookie. -/
def Call.takesCookie (svc : Service) (sess : SessionDesc) (env : SubmitEnv) (call : Call) :
    Option (SessionDesc × ReqArgs) :=
  match call.admission svc sess env with
  | .reject _ _ => none
  | .accept sess args => if sess.syncCb ∧ env.syncCookie ≠ .success then none else some (sess, args)

namespace DcInstance

variable (s : DcInstance)

/-- The request in a cookie is on the ring; a synchronous caller waits for it. Only `dcSendRequest` is
    to mark the block: the put of `dcNsCompDecompData` has a NULL pointer for the sequence number. -/
def accept (pool : MemPool) (b : Nat) (c : DcCookie) (sync : Bool) : DcInstance :=
  { s with
    compressionMemPool := pool
    cookie := Function.update s.cookie b c
    sendSeq := s.sendSeq + 1
    ring := s.ring ++ [b]
    marking := if c.noSession then s.marking else s.marking ++ [(b, s.sendSeq)]
    waiting := if sync then s.waiting ++ [⟨c.callbackTag, b, c.noSession⟩] else s.waiting
    numAccepted := s.numAccepted + 1 }

/-- A call on a session. `Call.run` says what becomes of the session and of the request; here the
    cookie is taken from the pool, and given back if there is no request. `none`: with an empty pool
    the loop around the allocation goes on. -/
def submit (svc : Service) (s : DcInstance) (k : Nat) (call : Call) (env : SubmitEnv) :
    Option DcInstance :=
  let env := { env with poolActive := s.compressionMemPool.active }
  let out := call.run svc (s.sessions k) env
  let s' := { s with sessions := Function.update s.sessions k out.session }
  match call.takesCookie svc (s.sessions k) env with
  | none => some s'
  | some (sess, args) =>
      match s.compressionMemPool.entryAlloc with
      | (.null, _) => some s'
      | (.retry, _) => none
      | (.entry b, pool) =>
          match out.request with
          | some cookie => some (s'.accept pool b (.session k cookie s.numAccepted) sess.syncCb)
          | none =>
              -- `dcSendRequest` marks the block also when the ring refuses the request
              let pool := if (dcCreateRequest svc sess args env).isOk then pool.setOpaque b none
                else pool
              some { s' with compressionMemPool := pool.entryFree b }

/-- The end of `dcSendRequest`: the mark. -/
def markSent (m : Nat × Nat) : DcInstance :=
  { s with
    compressionMemPool := s.compressionMemPool.setOpaque m.1 (some m.2)
    marking := s.marking.erase m }

/-- `dcNsCompDecompData` and its entry point. -/
def dcNsCompDecompData (c : NsCall) : Option DcInstance :=
  if c.entryCheck ≠ .success then some s
  else
    match s.compressionMemPool.entryAlloc with
    | (.null, _) => some s
    | (.retry, _) => none
    | (.entry b, pool) =>
        if (!c.callbackFn && !c.syncCookie) ∨ c.createRequest ≠ .success ∨ c.putMsg ≠ .success then
          some { s with compressionMemPool := pool.entryFree b }
        else some (s.accept pool b (.dcns s.numAccepted) (!c.callbackFn))

/-- The session update of a callback. -/
def updateSession (c : DcCookie) (f : SessionDesc → Cookie → SessionDesc) : Nat → SessionDesc :=
  match c with
  | .session k cookie _ => Function.update s.sessions k (f (s.sessions k) cookie)
  | .dcns _ => s.sessions

/-- `dcCompression_ProcessCallback` and `dcNsCompression_ProcessCallback` on the response to the
    request in a cookie. -/
def processCallback (svc : Service) (s : DcInstance) (b : Nat) (resp : Response)
    (results : Option Results) : DcInstance :=
  let c := s.cookie b
  { s with
    sessions := s.updateSession c fun sess cookie =>
      (dcCompressionProcessCallback svc sess cookie resp results).1
    compressionMemPool := s.compressionMemPool.entryFree b
    ring := s.ring.erase b
    waiting := s.waiting.filter (·.callbackTag ≠ c.callbackTag)
    called := s.called ++ [c.callbackTag] }

/-- `LacSync_WaitForCallback` returns without the callback: the no-session caller frees its
    cookie. -/
def waitTimedOut (w : SyncWait) : DcInstance :=
  { s with
    compressionMemPool :=
      if w.noSession then s.compressionMemPool.entryFree w.pCookie else s.compressionMemPool
    waiting := s.waiting.erase w }

end DcInstance

/-- What can happen on an instance. -/
inductive DcEvent where
  | submit (k : Nat) (call : Call) (env : SubmitEnv)
  | submitNs (c : NsCall)
  /-- A sender marks its cookie. -/
  | mark (m : Nat × Nat)
  /-- The response to the request in a cookie. -/
  | response (b : Nat) (resp : Response) (results : Option Results)
  | timeout (w : SyncWait)

/-- One step of an instance. -/
def DcInstance.step (svc : Service) (s : DcInstance) : DcEvent → Option DcInstance
  | .submit k call env => s.submit svc k call env
  | .submitNs c => s.dcNsCompDecompData c
  | .mark m => if m ∈ s.marking then some (s.markSent m) else none
  | .response b resp results =>
      if b ∈ s.ring then some (s.processCallback svc b resp results) else none
  | .timeout w => if w ∈ s.waiting then some (s.waitTimedOut w) else none

/-- An instance whose pool was just created; its sessions are arbitrary. -/
def DcInstance.Fresh (s : DcInstance) : Prop :=
  (∃ n, s.compressionMemPool = MemPool.create n) ∧ s.sendSeq = 0 ∧ s.ring = [] ∧ s.marking = [] ∧
    s.waiting = [] ∧ s.numAccepted = 0 ∧ s.called = []

/-- A compression instance. -/
def dcInstance (svc : Service) : System DcInstance DcEvent where
  Init := DcInstance.Fresh
  step := DcInstance.step svc

/-! ## What a call does to the instance -/

namespace DcInstance

/-- The effects of a call, by the exit it takes. -/
inductive Submits (s : DcInstance) : DcInstance → Prop where
  /-- Before the cookie was allocated. -/
  | returned (sessions : Nat → SessionDesc) : Submits s { s with sessions := sessions }
  /-- The request could not be built or sent, and the cookie was given back. -/
  | gaveBack (sessions : Nat → SessionDesc) {b : Nat} {pool pool' : MemPool}
      (halloc : s.compressionMemPool.entryAlloc = (.entry b, pool))
      (hmark : pool' = pool ∨ pool' = pool.setOpaque b none) :
      Submits s { s with sessions := sessions, compressionMemPool := pool'.entryFree b }
  /-- The request in a cookie is on the ring. -/
  | sent (sessions : Nat → SessionDesc) (c : DcCookie) (sync : Bool) {b : Nat} {pool : MemPool}
      (htag : c.callbackTag = s.numAccepted)
      (halloc : s.compressionMemPool.entryAlloc = (.entry b, pool)) :
      Submits s ({ s with sessions := sessions }.accept pool b c sync)

variable {s t : DcInstance} {svc : Service}

theorem submit_submits {k : Nat} {call : Call} {env : SubmitEnv}
    (hstep : s.submit svc k call env = some t) : s.Submits t := by
  simp only [submit] at hstep
  split at hstep
  · cases hstep
    exact .returned _
  · split at hstep
    · cases hstep
      exact .returned _
    · exact absurd hstep (by simp)
    · next halloc =>
      split at hstep
      · cases hstep
        exact .sent _ _ _ rfl halloc
      · cases hstep
        refine .gaveBack _ halloc ?_
        split
        · exact .inr rfl
        · exact .inl rfl

theorem dcNsCompDecompData_submits {c : NsCall} (hstep : s.dcNsCompDecompData c = some t) :
    s.Submits t := by
  unfold dcNsCompDecompData at hstep
  split at hstep
  · cases hstep
    exact .returned _
  · split at hstep
    · cases hstep
      exact .returned _
    · exact absurd hstep (by simp)
    · next halloc =>
      split at hstep
      · cases hstep
        exact .gaveBack _ halloc (.inl rfl)
      · cases hstep
        exact .sent s.sessions _ _ rfl halloc

/-! ## The cookies -/

/-- The cookies handed out are those of the requests on the ring. -/
def CookiesOnRing (s : DcInstance) : Prop := s.compressionMemPool.Accounts s.ring

theorem Fresh.cookiesOnRing (h : s.Fresh) : s.CookiesOnRing := by
  obtain ⟨⟨n, hpool⟩, -, hring, -⟩ := h
  rw [CookiesOnRing, hpool, hring]
  exact .create n

namespace CookiesOnRing

variable {s t : DcInstance}

/-- Whatever exit a call takes, its cookie is back in the pool or on the ring. -/
theorem submits (h : s.CookiesOnRing) (hsub : s.Submits t) : t.CookiesOnRing := by
  cases hsub with
  | returned sessions => exact h
  | @gaveBack sessions b pool pool' halloc hmark =>
    have hb : pool.Accounts (b :: s.ring) := h.entryAlloc halloc
    rcases hmark with rfl | rfl
    · exact hb.entryFree
    · exact (hb.setOpaque b none).entryFree
  | @sent sessions c sync b pool htag halloc =>
    exact (h.entryAlloc halloc).congr (List.perm_append_singleton b s.ring).symm

/-- Both response callbacks free the cookie of the request they take from the ring. -/
theorem processCallback (h : s.CookiesOnRing) {b : Nat} (hb : b ∈ s.ring) (resp : Response)
    (results : Option Results) : (s.processCallback svc b resp results).CookiesOnRing :=
  (h.congr (List.perm_cons_erase hb)).entryFree

end CookiesOnRing

end DcInstance

/-- No no-session caller gives up its wait. -/
def DcEvent.NsAnswered (_ : DcInstance) : DcEvent → Prop
  | .timeout w => w.noSession = false
  | _ => True

instance (s : DcInstance) : (e : DcEvent) → Decidable (e.NsAnswered s)
  | .timeout w => inferInstanceAs (Decidable (w.noSession = false))
  | .submit _ _ _ | .submitNs _ | .mark _ | .response _ _ _ => inferInstanceAs (Decidable True)

/-- **Every cookie is free or on the ring**, once, in every run in which no no-session caller gives
    up its wait; session-based ones may. -/
theorem dc_cookies_partitioned {svc : Service} {s : DcInstance}
    (hs : (dcInstance svc).ReachableBy DcEvent.NsAnswered s) :
    Partition s.compressionMemPool.stack s.ring
      (List.range s.compressionMemPool.numElementsInPool) := by
  suffices h : s.CookiesOnRing from h.partition
  refine hs.invariant DcInstance.CookiesOnRing (fun _ => DcInstance.Fresh.cookiesOnRing) ?_
  intro s e t h hok hstep
  cases e with
  | submit k call env => exact h.submits (DcInstance.submit_submits hstep)
  | submitNs c => exact h.submits (DcInstance.dcNsCompDecompData_submits hstep)
  | mark m =>
    obtain ⟨-, ⟨⟩⟩ := Option.ite_none_right_eq_some.mp hstep
    exact h.setOpaque m.1 _
  | response b resp results =>
    obtain ⟨hb, ⟨⟩⟩ := Option.ite_none_right_eq_some.mp hstep
    exact h.processCallback hb resp results
  | timeout w =>
    obtain ⟨-, ⟨⟩⟩ := Option.ite_none_right_eq_some.mp hstep
    -- a session-based caller leaves its cookie to the response
    have hw : w.noSession = false := hok
    simpa [DcInstance.CookiesOnRing, DcInstance.waitTimedOut, hw] using h

/-! ## A wait that is given up -/

/-- An instance with two cookies and synchronous sessions. -/
def sampleDcInstance : DcInstance :=
  { sessions := fun _ => freshSession .stateless true
    compressionMemPool := MemPool.create 2
    cookie := fun _ => .dcns 0
    sendSeq := 0
    ring := []
    marking := []
    waiting := []
    numAccepted := 0
    called := [] }

theorem sampleDcInstance_fresh : sampleDcInstance.Fresh := ⟨⟨2, rfl⟩, rfl, rfl, rfl, rfl, rfl, rfl⟩

/-- A synchronous no-session call that succeeds up to its wait. -/
def sampleNsCall : NsCall :=
  { entryCheck := .success
    callbackFn := false
    syncCookie := true
    createRequest := .success
    putMsg := .success }

/-- A response that reports success. -/
def sampleDcResponse : Response where
  unsupported := false
  cmpStatOk := true
  xlatStatOk := true
  cmpErr := 0
  xlatErr := 0
  inputByteCounter := 64
  outputByteCounter := 64
  currCrc32 := 0
  currAdler32 := 0
  integrity := (0, 0)

/-- A session-based caller gives up, a no-session request is in flight: both cookies are on the
    ring. -/
theorem dc_cookies_partitioned_wait_given_up :
    ∃ s, (dcInstance gen4Service).ReachableBy DcEvent.NsAnswered s ∧ s.ring = [1, 0] ∧
      Partition s.compressionMemPool.stack [1, 0] (List.range 2) := by
  refine System.exists_reachableBy
    (P := fun s => s.ring = [1, 0] ∧ s.compressionMemPool.numElementsInPool = 2)
    [.submit 3 (.compressData .final 0) .ok, .timeout ⟨0, 1, false⟩, .submitNs sampleNsCall]
    sampleDcInstance_fresh (by decide +kernel) fun s hreach ⟨hring, hnum⟩ => ⟨hring, ?_⟩
  have hpart := dc_cookies_partitioned hreach
  rw [hring, hnum] at hpart
  exact hpart

/-- **A no-session caller that gives up frees a cookie that is on the ring**, and the late response
    frees it once more: it is then on the stack twice. -/
theorem ns_timeout_frees_cookie_in_flight :
    (∃ s, (dcInstance gen4Service).Reachable s ∧ s.ring = [1] ∧
      s.compressionMemPool.stack = [1, 0] ∧
      ¬ Partition s.compressionMemPool.stack s.ring
        (List.range s.compressionMemPool.numElementsInPool)) ∧
    ∃ s, (dcInstance gen4Service).Reachable s ∧ s.ring = [] ∧
      s.compressionMemPool.stack.count 1 = 2 := by
  constructor
  · obtain ⟨s, hreach, hring, hstack⟩ := System.exists_reachable (S := dcInstance gen4Service)
      (P := fun s => s.ring = [1] ∧ s.compressionMemPool.stack = [1, 0])
      [.submitNs sampleNsCall, .timeout ⟨0, 1, true⟩] sampleDcInstance_fresh (by decide +kernel)
    refine ⟨s, hreach, hring, hstack, fun hpart => ?_⟩
    have hnodup := hpart.nodup_append
    rw [hstack, hring] at hnodup
    exact absurd hnodup (by decide)
  · exact System.exists_reachable
      [.submitNs sampleNsCall, .timeout ⟨0, 1, true⟩, .response 1 sampleDcResponse none]
      sampleDcInstance_fresh (by decide +kernel)

end Qatlib.Compression
