import Mathlib.Data.List.Basic
import Qatlib.Lib.System
import Qatlib.Utils.SwResponses

set_option autoImplicit false

/-! # Requests of the public key service

An operation builds a chain of one or more requests with `LacPke_CreateRequest`, sends it with
`LacPke_SendRequest`, and its callback is called when the response to the chain comes. Every request
is an entry of the request pool. A parameter whose length is not a whole number of quadwords, or less
than the function wants, is copied into an entry of the alignment pool; the request notes it and the
entry is freed when the request is destroyed.

The loops around `Lac_MemPoolEntryAlloc` wait for an entry while other threads run. For this reason
`LacPke_CreateRequest` is not one step: a step takes the request's entry and links it to the chain,
and each parameter is a further step (one round of a loop of `LacPke_ResizeParams`), which cannot be
taken while the alignment pool is empty. Several chains may be under construction at once.
`LacPke_SendRequest` puts the message on the ring in one step and marks the head of the chain with the
sequence number in another; nothing keeps the response from coming before the mark.

A chained request may have a parameter that is the alignment buffer of an earlier one, as in the
prime tests. Its length is that of the buffer, so that no padding is needed: it is treated as the
caller's memory, and only the earlier request frees it. Message contents are left out. -/

namespace Qatlib.Crypto

open Qatlib.Utils

/-! ## Parameters -/

/-- A flat buffer parameter, with its entry of `inArgSizeList` or `outArgSizeList`, which is 0 if
    there is none. -/
structure PkeParam where
  /-- `pData` is not NULL. -/
  pData : Bool
  dataLenInBytes : UInt32
  argSize : UInt32

namespace PkeParam

variable (prm : PkeParam)

/-- The part at the start of the caller's buffer that is not used. -/
def offset : UInt32 :=
  if prm.argSize ≠ 0 ∧ prm.dataLenInBytes > prm.argSize then prm.dataLenInBytes - prm.argSize else 0

def dataRoundLen : UInt32 :=
  if prm.argSize ≠ 0 then prm.argSize else prm.dataLenInBytes

def userLen : UInt32 := prm.dataLenInBytes - prm.offset

def workingLen : UInt32 := alignPow2Roundup prm.dataRoundLen 8

/-- `pUserBuffer` is not NULL. -/
def userBuffer : Bool := prm.pData || prm.offset ≠ 0

end PkeParam

/-- What `icp_LacBufferResize` returns, or that it waits for an entry. -/
inductive Resized where
  | null
  | retry
  | userBuffer
  | workingBuffer (b : Nat)

/-- `icp_LacBufferResize`. -/
def icpLacBufferResize (pool : MemPool) (prm : PkeParam) : Resized × MemPool :=
  if prm.userLen > 0 ∧ prm.userBuffer = false then (.null, pool)
  else if prm.workingLen < prm.userLen then (.null, pool)
  else if prm.workingLen - prm.userLen > 0 then
    match pool.entryAlloc with
    | (.null, pool) => (.null, pool)
    | (.retry, pool) => (.retry, pool)
    | (.entry b, pool) => (.workingBuffer b, pool)
  else (if prm.userBuffer then .userBuffer else .null, pool)

/-! ## Requests -/

/-- `lac_pke_qat_req_data_t`: its entry of the request pool, and the entries of the alignment pool
    among `pkeInputParams` and `pkeOutputParams`. -/
structure ReqData where
  blk : Nat
  buffers : List Nat

/-- The chain behind a request handle, in the order of `pNextReqData`; the last request is the one
    whose parameters may still be to be resized. -/
structure PkeRequest where
  /-- What the callback data of the operation identify. -/
  tag : Nat
  earlier : List ReqData
  current : ReqData
  todo : List PkeParam

namespace PkeRequest

def chain (r : PkeRequest) : List ReqData := r.earlier ++ [r.current]

/-- The entries of the request pool, from the head of the chain. -/
def blks (r : PkeRequest) : List Nat := r.chain.map ReqData.blk

def buffers (r : PkeRequest) : List Nat := r.chain.flatMap ReqData.buffers

/-- `pHeadReqData`. -/
def head (r : PkeRequest) : Nat :=
  match r.earlier with
  | [] => r.current.blk
  | first :: _ => first.blk

/-- The entries after the head. -/
def tail (r : PkeRequest) : List Nat := r.blks.tail

end PkeRequest

/-- `LacPke_DestroyRequest` on the request pool: each entry loses its mark and is freed. -/
def freeChain (pool : MemPool) (blks : List Nat) : MemPool :=
  blks.foldl (fun pool b => (pool.setOpaque b none).entryFree b) pool

/-- A crypto instance with its public key service. -/
structure PkeInstance where
  lacPkeReqPool : MemPool
  lacPkeAlignPool : MemPool
  /-- The operation of `cbInfo` in an entry of the request pool. -/
  cbInfo : Nat → Nat
  /-- `send_seq` of the request ring. -/
  sendSeq : Nat
  /-- The chains under construction. -/
  building : List PkeRequest
  /-- The chains that wait for their response, in the order of sending. -/
  ring : List PkeRequest
  /-- The heads of chains that were put on the ring and are still to be marked, with the number. -/
  marking : List (Nat × Nat)
  /-- The number of operations begun; the next one has this tag. -/
  numCreated : Nat
  /-- The tags of the operations whose chain was accepted by the ring, in order. -/
  accepted : List Nat
  /-- The tags of the callbacks called, in order. -/
  called : List Nat

namespace PkeInstance

section

variable (s : PkeInstance) (r : PkeRequest)

/-- `LacPke_DestroyRequest`. -/
def destroyRequest : PkeInstance :=
  { s with
    lacPkeAlignPool := r.buffers.foldl MemPool.entryFree s.lacPkeAlignPool
    lacPkeReqPool := freeChain s.lacPkeReqPool r.blks }

/-- `LacPke_CreateRequest` with an invalid handle, up to the parameters. -/
def createFirst (params : List PkeParam) : Option PkeInstance :=
  match s.lacPkeReqPool.entryAlloc with
  | (.null, _) => some s
  | (.retry, _) => none
  | (.entry b, pool) =>
      some { s with
        lacPkeReqPool := pool
        cbInfo := Function.update s.cbInfo b s.numCreated
        building := ⟨s.numCreated, [], ⟨b, []⟩, params⟩ :: s.building
        numCreated := s.numCreated + 1 }

/-- `LacPke_CreateRequest` with the handle of a chain, which is already taken from `building`. -/
def createNext (params : List PkeParam) : Option PkeInstance :=
  if r.todo ≠ [] then none
  else
    match s.lacPkeReqPool.entryAlloc with
    | (.null, _) => some (s.destroyRequest r)
    | (.retry, _) => none
    | (.entry b, pool) =>
        some { s with
          lacPkeReqPool := pool
          cbInfo := Function.update s.cbInfo b r.tag
          building := { r with earlier := r.chain, current := ⟨b, []⟩, todo := params } ::
            s.building }

/-- One round of a loop of `LacPke_ResizeParams`. -/
def resizeParam : Option PkeInstance :=
  match r.todo with
  | [] => none
  | prm :: rest =>
      match icpLacBufferResize s.lacPkeAlignPool prm with
      | (.null, _) => some (s.destroyRequest r)
      | (.retry, _) => none
      | (.userBuffer, _) => some { s with building := { r with todo := rest } :: s.building }
      | (.workingBuffer b, pool) =>
          some { s with
            lacPkeAlignPool := pool
            building := { r with
              current := { r.current with buffers := r.current.buffers ++ [b] }
              todo := rest } :: s.building }

/-- `LacPke_SendRequest` up to the mark; the argument says whether the ring takes the message. -/
def sendRequest (put : Bool) : Option PkeInstance :=
  if r.todo ≠ [] then none
  else if put then
    some { s with
      sendSeq := s.sendSeq + 1
      ring := s.ring ++ [r]
      marking := s.marking ++ [(r.head, s.sendSeq)]
      accepted := s.accepted ++ [r.tag] }
  else some (s.destroyRequest r)

/-- The end of `LacPke_SendRequest`: the mark. -/
def markSent (m : Nat × Nat) : PkeInstance :=
  { s with
    lacPkeReqPool := s.lacPkeReqPool.setOpaque m.1 (some m.2)
    marking := s.marking.erase m }

/-- `LacPke_MsgCallback` on the response to a chain, which is already taken from the ring; `b` is the
    entry whose address the response carries. -/
def msgCallback (b : Nat) : PkeInstance :=
  { s.destroyRequest r with called := s.called ++ [s.cbInfo b] }

/-- `LacSwResp_GenResp` with `LacPke_SwRespMsgCallback`. It is called when the device does not answer any
    more: after the call that goes through the blocks nothing is left on the ring. -/
def genResp (s : PkeInstance) (memAlloc : Bool) : Option PkeInstance :=
  (s.lacPkeReqPool.genResp memAlloc).map fun r =>
    { s with
      lacPkeReqPool := r.pool
      ring := if s.lacPkeReqPool.Generates then [] else s.ring
      called := s.called ++ r.blks.map s.cbInfo }

/-- `SalCtrl_AsymReinit`. -/
def asymReinit : PkeInstance :=
  { s with
    lacPkeReqPool := s.lacPkeReqPool.enable.initCookies
    sendSeq := 0
    ring := [] }

end

/-- A chain under construction is taken out to be worked on. -/
def onBuilding (s : PkeInstance) (k : Nat) (f : PkeInstance → PkeRequest → Option PkeInstance) :
    Option PkeInstance :=
  (s.building[k]?).bind fun r => f { s with building := s.building.eraseIdx k } r

end PkeInstance

/-! ## The system -/

/-- What can happen on an instance; `k` is a chain under construction. -/
inductive PkeEvent where
  | createFirst (params : List PkeParam)
  | createNext (k : Nat) (params : List PkeParam)
  | resizeParam (k : Nat)
  | send (k : Nat) (put : Bool)
  /-- A sender marks the head of its chain. -/
  | mark (m : Nat × Nat)
  /-- The response to the `i`-th chain on the ring, which carries the address of its `j`-th
      request. -/
  | response (i j : Nat)
  | deviceError
  /-- `LacSwResp_GenResp`, with the answer of `osalMemAlloc`. -/
  | genResp (memAlloc : Bool)
  | restart

/-- One step of an instance; `LacSwResp_GenResp` has been called before a restart. -/
def PkeInstance.step (s : PkeInstance) : PkeEvent → Option PkeInstance
  | .createFirst params => s.createFirst params
  | .createNext k params => s.onBuilding k fun s r => s.createNext r params
  | .resizeParam k => s.onBuilding k fun s r => s.resizeParam r
  | .send k put => s.onBuilding k fun s r => s.sendRequest r put
  | .mark m => if s.marking.contains m then some (s.markSent m) else none
  | .response i j =>
      (s.ring[i]?).bind fun r => (r.blks[j]?).map fun b =>
        { s with ring := s.ring.eraseIdx i }.msgCallback r b
  | .deviceError => some { s with lacPkeReqPool := s.lacPkeReqPool.disable }
  | .genResp memAlloc => s.genResp memAlloc
  | .restart =>
      if s.lacPkeReqPool.active = false ∧ s.lacPkeReqPool.sync ≤ 0 then some s.asymReinit else none

/-- An instance from its start, with pools of any size. -/
def pkeInstance : System PkeInstance PkeEvent where
  Init s := (∃ n, s.lacPkeReqPool = MemPool.create n) ∧ (∃ n, s.lacPkeAlignPool = MemPool.create n) ∧
    s.sendSeq = 0 ∧ s.building = [] ∧ s.ring = [] ∧ s.marking = [] ∧ s.accepted = [] ∧ s.called = []
  step := PkeInstance.step

end Qatlib.Crypto
