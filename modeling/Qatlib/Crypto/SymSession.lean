import Mathlib.Data.List.Basic
import Qatlib.Lib.System

set_option autoImplicit false

/-! # The request queue of a symmetric session

A traditional symmetric session sends its requests to the ring directly, or lets them wait in a
queue while a partial packet or a key update is under way. The flag `nonBlockingOpsInProgress` says
which; submitters (`LacSymQueue_RequestSend`), response callbacks
(`LacSymCb_ProcessCallbackInternal`), the loop that drains the queue
(`LacSymCb_PendingReqsDequeue`) and key updates (`LacAlgChain_SessionAuthKeyUpdate`) all write it.

Submitters run in any number of threads. The enqueueing and the draining hold the queue's lock, so
each is one step; the direct way has no lock and is cut where another thread can come between: the
check, the clearing of the flag, the put. A key update holds the session's access lock and finds no
request pending, and precomputes in the calling thread (`lac_sym_hash_sw_precomputes.c`). -/

namespace Qatlib.Crypto

/-- `CpaCySymPacketType`. -/
inductive PacketType where
  | full
  | partialPacket
  | lastPartial
deriving DecidableEq

/-- The cookie of a request. -/
structure SymRequest where
  id : Nat
  packetType : PacketType
  /-- With `updateSessionIvOnSend`: what is copied to `cipherPartialOpState` before the put, the
      user's IV or the initial state of ARC4. -/
  stateOnSend : Option (List UInt8)
deriving DecidableEq

/-- A request that blocks the ones after it. -/
def SymRequest.blocks (r : SymRequest) : Bool := r.packetType ≠ .full

/-- A traditional session, with the ring as far as this session's requests are concerned. The last
    two fields are not in the program. -/
structure SymSession where
  nonBlockingOpsInProgress : Bool
  /-- From `pRequestQueueHead` to `pRequestQueueTail`. -/
  requestQueue : List SymRequest
  cipherPartialOpState : List UInt8
  pendingCbCount : Nat
  /-- Requests on their direct way to the ring, with whether the flag has been cleared for them. -/
  sending : List (SymRequest × Bool)
  /-- Requests put on the ring whose response has not been processed. -/
  ring : List SymRequest
  /-- A key update precomputes hash states. -/
  precompute : Bool
  /-- The requests whose submission succeeded, in that order. -/
  accepted : List SymRequest
  /-- What was put on the ring, each with whether a partial awaited its response then. -/
  placed : List (SymRequest × Bool)

/-- A session after `LacAlgChain_SessionInit`. -/
def SymSession.init : SymSession :=
  { nonBlockingOpsInProgress := true
    requestQueue := []
    cipherPartialOpState := []
    pendingCbCount := 0
    sending := []
    ring := []
    precompute := false
    accepted := []
    placed := [] }

namespace SymSession

/-- A partial request of the session awaits its response. -/
def partialAwaits (s : SymSession) : Bool := s.ring.any SymRequest.blocks

/-- A message is put on the ring. -/
def place (s : SymSession) (r : SymRequest) : SymSession :=
  { s with
    cipherPartialOpState := r.stateOnSend.getD s.cipherPartialOpState
    ring := s.ring ++ [r]
    placed := s.placed ++ [(r, s.partialAwaits)] }

/-! ## Draining the queue -/

/-- `DEQUEUE_MSGPUT_MAX_RETRIES`. -/
def dequeueMsgputMaxRetries : Nat := 10000

/-- The loop around `icp_adf_transPutMsg`, on a ring that is full for the next `refusals` puts:
    whether the last put succeeded, and the number of puts. -/
def msgPut (retries : Nat) : (refusals : Nat) → Bool × Nat
  | 0 => (true, retries + 1)
  | refusals + 1 =>
      if retries + 1 < dequeueMsgputMaxRetries then msgPut (retries + 1) refusals
      else (false, retries + 1)

/-- The loop of `LacSymCb_PendingReqsDequeue` over the queue. It stops behind a partial packet, and
    it gives up when the number of puts has reached the maximum, even if the last of them put the
    message on the ring; the request then stays at the head of the queue. -/
def drain (full : SymRequest → Nat) : List SymRequest → SymSession → SymSession
  | [], s => { s with requestQueue := [] }
  | r :: rest, s =>
      let s := if r.blocks then { s with nonBlockingOpsInProgress := false } else s
      let put := msgPut 0 (full r)
      let s' := if put.1 then s.place r else
        { s with cipherPartialOpState := r.stateOnSend.getD s.cipherPartialOpState }
      if put.1 = false ∨ put.2 ≥ dequeueMsgputMaxRetries then { s' with requestQueue := r :: rest }
      else if s'.nonBlockingOpsInProgress then drain full rest s'
      else { s' with requestQueue := rest }

/-- `LacSymCb_PendingReqsDequeue`. -/
def pendingReqsDequeue (s : SymSession) (full : SymRequest → Nat) : SymSession :=
  drain full s.requestQueue { s with nonBlockingOpsInProgress := true }

/-- `LacSymCb_ProcessCallbackInternal`, after the response has been taken off the ring. -/
def processCallback (s : SymSession) (r : SymRequest) (ok : Bool) (full : SymRequest → Nat) :
    SymSession :=
  let s' := if r.blocks ∧ ok then s.pendingReqsDequeue full else s
  { s' with pendingCbCount := s'.pendingCbCount - 1 }

end SymSession

/-! ## The system -/

/-- What can happen to a session. -/
inductive SymEvent where
  /-- `LacSymQueue_RequestSend` up to its choice of a way. -/
  | submit (r : SymRequest)
  /-- A partial packet on the direct way clears the flag. -/
  | clearFlag (r : SymRequest)
  /-- A request on the direct way is put, or refused by a full ring. -/
  | put (r : SymRequest) (accepted : Bool)
  /-- A response; `full` says how long the ring stays full for each request drained. -/
  | response (r : SymRequest) (ok : Bool) (full : SymRequest → Nat)
  /-- `LacAlgChain_SessionAuthKeyUpdate` up to the precompute. -/
  | keyUpdate
  /-- The precompute succeeds and `LacSymAlgChain_HashPrecomputeDoneCb` is called. -/
  | precomputeDone (full : SymRequest → Nat)
  /-- The precompute fails; its callback is not called. -/
  | precomputeFailed

/-- One step of a session. -/
def SymEvent.step (s : SymSession) : SymEvent → Option SymSession
  | .submit r =>
      if s.precompute = false ∧ r ∉ s.accepted ∧ r ∉ s.sending.map Prod.fst then
        let s := { s with pendingCbCount := s.pendingCbCount + 1 }
        if s.nonBlockingOpsInProgress = false ∨ s.requestQueue ≠ [] then
          some { s with requestQueue := s.requestQueue ++ [r], accepted := s.accepted ++ [r] }
        else some { s with sending := s.sending ++ [(r, false)] }
      else none
  | .clearFlag r =>
      if r.blocks ∧ (r, false) ∈ s.sending then
        some { s with
          nonBlockingOpsInProgress := false
          sending := s.sending.erase (r, false) ++ [(r, true)] }
      else none
  | .put r accepted =>
      if (r, r.blocks) ∈ s.sending then
        let s := { s with sending := s.sending.erase (r, r.blocks) }
        if accepted then some { s.place r with accepted := s.accepted ++ [r] }
        else
          some { s with
            cipherPartialOpState := r.stateOnSend.getD s.cipherPartialOpState
            nonBlockingOpsInProgress := s.nonBlockingOpsInProgress || r.blocks
            pendingCbCount := s.pendingCbCount - 1 }
      else none
  | .response r ok full =>
      if r ∈ s.ring then some ({ s with ring := s.ring.erase r }.processCallback r ok full)
      else none
  | .keyUpdate =>
      if s.precompute = false ∧ s.pendingCbCount = 0 then
        some { s with nonBlockingOpsInProgress := false, precompute := true }
      else none
  | .precomputeDone full =>
      if s.precompute then some ({ s with precompute := false }.pendingReqsDequeue full) else none
  | .precomputeFailed => if s.precompute then some { s with precompute := false } else none

/-- A symmetric session as a system. -/
def symSession : System SymSession SymEvent where
  Init := fun s => s = SymSession.init
  step := SymEvent.step

end Qatlib.Crypto
