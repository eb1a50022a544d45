import Qatlib.Lib.System
import Qatlib.Utils.MemPool
import Qatlib.Compression.Datapath
import Qatlib.Crypto.AlgChain.Perform

set_option autoImplicit false

/-! # Chained requests

`cpaDcChainPerformOp` sends a hash and a compression operation to the device as one request. The call
takes a chain cookie, and for each link of the session a cookie of the link's service and a response
entry; the addresses of all of them are kept in the chain cookie until `dcChainProcessResults` gives
them back. A call that fails gives back what it holds (`out_err`).

The symmetric link is built by `LacAlgChain_Perform` (`Qatlib.Crypto.AlgChain.Perform`), which is
handed a cookie here and allocates one of its own elsewhere. The library is built with parameter
checks, as by default; so only sessions of a hash link and a compression link get past the entry
point, and the symmetric session is one for plain or authenticated SHA. Statistics, the contents of
messages and the session of the compression link are left out. -/

namespace Qatlib.Compression

open Qatlib.Utils Qatlib.Crypto

/-! ## Data -/

/-- `CpaDcChainSessionType`. -/
inductive LinkType where
  | compressDecompress
  | symmetricCrypto
deriving DecidableEq

/-- The fields of `dc_chain_cookie_t` that refer to pool entries, with the session's handle. -/
structure ChainCookie where
  session : Nat
  dcRspAddr : Option Nat
  cyRspAddr : Option Nat
  dcCookieAddr : Option Nat
  cyCookieAddr : Option Nat

/-- A symmetric operation of a chain, with its session as the call finds it. -/
structure ChainSymOp where
  /-- `pCySymOp` is not null. -/
  present : Bool
  op : AlgChain.OpData
  session : AlgChain.Session
  /-- The buffers and the memory; `pVerifyResult` points into the results of the chain. -/
  env : AlgChain.Env

/-- A compression operation of a chain, with what the checks on it find. -/
structure ChainCompOp where
  /-- `pDcOpData`, its flush flag and `dcChainSession_CheckDcSessDesc`. -/
  paramsOk : Bool
  compressAndVerify : Bool
  /-- What `dcCreateRequest` returns. -/
  createRequest : CpaStatus

/-- A call of `cpaDcChainPerformOp`. -/
structure ChainCall where
  session : Nat
  /-- The link types stored behind the session's head. -/
  links : List LinkType
  numOpDatas : Nat
  /-- The operation is `CPA_DC_CHAIN_HASH_THEN_COMPRESS`. -/
  hashThenCompress : Bool
  /-- The other checks of the entry point: pointers, the instance, whether it runs. -/
  entryCheck : CpaStatus
  sym : ChainSymOp
  comp : ChainCompOp
  /-- What `SalQatMsg_transPutMsg` returns. -/
  put : CpaStatus

/-- The pools of a compression instance with a chain service, the contents of the chain cookies, and
    the requests on the ring by their cookies. -/
structure ChainService where
  dcChainCookiePool : MemPool
  compressionMemPool : MemPool
  lacSymCookiePool : MemPool
  dcChainServRespPool : MemPool
  cookie : Nat → ChainCookie
  ring : List Nat
  /-- By session. -/
  pendingChainCbCount : Nat → Int

/-- The local variables of `dcChainPerformOp` that its exit looks at. -/
structure ChainLocals where
  dcCookie : EntryAlloc
  cyCookie : EntryAlloc
  /-- `pDcSessDesc` is set. -/
  dcSessDesc : Bool

/-! ## The symmetric link -/

/-- `dcChainOp_MemPoolEntryFree`: null and `CPA_STATUS_RETRY` are skipped. -/
def freeEntries (pool : MemPool) (entries : List Nat) : MemPool :=
  entries.foldl MemPool.entryFree pool

/-- `LacAlgChain_Perform` with the cookie of a chained request. -/
def algChainPerform (pool : MemPool) (cookie : Nat) (sym : ChainSymOp) : CpaStatus × MemPool :=
  let call := AlgChain.lacAlgChainPerformLink { sym.env with verifyResult := true } sym.session
    sym.op cookie
  (call.status, freeEntries pool call.freed)

/-- `dcChainSession_CheckCySessDesc`. -/
def sessionCheckCySessDesc (s : AlgChain.Session) : Bool :=
  s.symOperation = .hash ∧ (s.hashMode = .plain ∨ s.hashMode = .auth) ∧ s.isAuthEncryptOp = false ∧
    (s.hashAlgorithm = .sha1 ∨ s.hashAlgorithm = .sha224 ∨ s.hashAlgorithm = .sha256) ∧
    s.laCmdId = .auth ∧ s.isCipher = false ∧ s.isAuth = true

/-- The checks of `dcChainPrepare_SymRequest` before the request is built. -/
def ChainSymOp.prepareCheck (sym : ChainSymOp) : Bool :=
  sym.present ∧ sym.op.packetType = .full ∧
    (sym.session.digestIsAppended ∨ sym.session.symOperation = .cipher ∨ sym.op.pDigestResult ≠ 0) ∧
    sessionCheckCySessDesc sym.session

namespace ChainService

variable (s : ChainService) (chain : Nat)

/-- Writes the cookie of a chained request. -/
def setCookie (f : ChainCookie → ChainCookie) : ChainService :=
  { s with cookie := Function.update s.cookie chain (f (s.cookie chain)) }

/-- `dcChainPrepare_SymRequest`. -/
def prepareSymRequest (cyCookie : Nat) (op : ChainSymOp) : CpaStatus × ChainService :=
  if ¬ op.prepareCheck then (.invalidParam, s)
  else
    let (status, pool) := algChainPerform s.lacSymCookiePool cyCookie op
    let s := { s with lacSymCookiePool := pool }
    if status ≠ .success then (status, s)
    else
      match s.dcChainServRespPool.entryAlloc with
      | (.null, _) => (.resource, s)
      | (.retry, _) => (.retry, s)
      | (.entry rsp, pool) =>
        (.success, { s with dcChainServRespPool := pool }.setCookie chain
          ({ · with cyRspAddr := some rsp, cyCookieAddr := some cyCookie }))

/-- `dcChainPrepare_CompRequest`. -/
def prepareCompRequest (dcCookie : Nat) (op : ChainCompOp) : CpaStatus × ChainService :=
  if ¬ op.paramsOk then (.invalidParam, s)
  else if ¬ op.compressAndVerify then (.unsupported, s)
  else if op.createRequest ≠ .success then (op.createRequest, s)
  else
    match s.dcChainServRespPool.entryAlloc with
    | (.null, _) => (.resource, s)
    | (.retry, _) => (.retry, s)
    | (.entry rsp, pool) =>
      (.success, { s with dcChainServRespPool := pool }.setCookie chain
        ({ · with dcRspAddr := some rsp, dcCookieAddr := some dcCookie }))

/-! ## The call -/

/-- One turn of the loop of `dcChainPerformOp`. -/
def prepareLink (call : ChainCall) (loc : ChainLocals) :
    LinkType → CpaStatus × ChainLocals × ChainService
  | .compressDecompress =>
    let (cookie, pool) := s.compressionMemPool.entryAlloc
    let loc := { loc with dcCookie := cookie, dcSessDesc := true }
    match cookie with
    | .null => (.resource, loc, s)
    | .retry => (.retry, loc, s)
    | .entry dcCookie =>
      let (status, s) :=
        { s with compressionMemPool := pool }.prepareCompRequest chain dcCookie call.comp
      (status, loc, s)
  | .symmetricCrypto =>
    let (cookie, pool) := s.lacSymCookiePool.entryAlloc
    let loc := { loc with cyCookie := cookie }
    match cookie with
    | .null => (.resource, loc, s)
    | .retry => (.retry, loc, s)
    | .entry cyCookie =>
      let (status, s) := { s with lacSymCookiePool := pool }.prepareSymRequest chain cyCookie call.sym
      (status, loc, s)

/-- The loop over the links; it ends at the first one that fails. -/
def prepareLinks (s : ChainService) (chain : Nat) (call : ChainCall) (loc : ChainLocals) :
    List LinkType → CpaStatus × ChainLocals × ChainService
  | [] => (.success, loc, s)
  | link :: links =>
    match s.prepareLink chain call loc link with
    | (.success, loc, s) => s.prepareLinks chain call loc links
    | failed => failed

/-- Adds to the counter of a session. -/
def addPending (session : Nat) (n : Int) : ChainService :=
  { s with
    pendingChainCbCount :=
      Function.update s.pendingChainCbCount session (s.pendingChainCbCount session + n) }

/-- The exit `out_err`. -/
def outErr (session : Nat) (loc : ChainLocals) : ChainService :=
  let s := s.addPending session (-1)
  { s with
    compressionMemPool := freeEntries s.compressionMemPool loc.dcCookie.toList
    lacSymCookiePool := freeEntries s.lacSymCookiePool loc.cyCookie.toList
    dcChainServRespPool := freeEntries s.dcChainServRespPool
      ((s.cookie chain).dcRspAddr.toList ++ (s.cookie chain).cyRspAddr.toList)
    dcChainCookiePool := s.dcChainCookiePool.entryFree chain }

/-- The chain cookie cleared and filled in, the session's counter incremented. -/
def startChain (session : Nat) : ChainService :=
  (s.setCookie chain fun _ => ⟨session, none, none, none, none⟩).addPending session 1

/-- `dcChainPerformOp`. -/
def dcChainPerformOp (call : ChainCall) : CpaStatus × ChainService :=
  match s.dcChainCookiePool.entryAlloc with
  | (.null, _) => (.resource, s)
  | (.retry, _) => (.retry, s)
  | (.entry chain, pool) =>
    let s := { s with dcChainCookiePool := pool }.startChain chain call.session
    match s.prepareLinks chain call ⟨.null, .null, false⟩ (call.links.take call.numOpDatas) with
    | (.success, loc, s) =>
      if ¬ loc.dcSessDesc then (.invalidParam, s.outErr chain call.session loc)
      else if call.put = .success then (.success, { s with ring := s.ring ++ [chain] })
      else (call.put, s.outErr chain call.session loc)
    | (status, loc, s) => (status, s.outErr chain call.session loc)

/-- `cpaDcChainPerformOp`, with `dcChainSession_CheckChainSessDesc`. -/
def cpaDcChainPerformOp (call : ChainCall) : CpaStatus × ChainService :=
  if call.numOpDatas ≠ 2 ∨ ¬ call.hashThenCompress ∨
      call.links ≠ [.symmetricCrypto, .compressDecompress] then (.invalidParam, s)
  else if call.entryCheck ≠ .success then (call.entryCheck, s)
  else s.dcChainPerformOp call

/-- `dcChainProcessResults` for the request with this cookie. -/
def dcChainProcessResults : ChainService :=
  let cookie := s.cookie chain
  { s with
    dcChainServRespPool :=
      freeEntries s.dcChainServRespPool (cookie.dcRspAddr.toList ++ cookie.cyRspAddr.toList)
    compressionMemPool := freeEntries s.compressionMemPool cookie.dcCookieAddr.toList
    lacSymCookiePool := freeEntries s.lacSymCookiePool cookie.cyCookieAddr.toList
    dcChainCookiePool := s.dcChainCookiePool.entryFree chain
    ring := s.ring.erase chain }.addPending cookie.session (-1)

end ChainService

/-! ## The system -/

/-- A call, or the response to a request on the ring. -/
inductive ChainEvent where
  | call (call : ChainCall)
  | response (chain : Nat)

/-- One step of the instance. -/
def ChainService.step (s : ChainService) : ChainEvent → Option ChainService
  | .call call => some (s.cpaDcChainPerformOp call).2
  | .response chain => if chain ∈ s.ring then some (s.dcChainProcessResults chain) else none

/-- A compression instance from its start on; its pools have any sizes and may be disabled. -/
def dcChain : System ChainService ChainEvent where
  Init s := s.dcChainCookiePool.Accounts [] ∧ s.compressionMemPool.Accounts [] ∧
    s.lacSymCookiePool.Accounts [] ∧ s.dcChainServRespPool.Accounts [] ∧
    s.ring = [] ∧ ∀ session, s.pendingChainCbCount session = 0
  step := ChainService.step

end Qatlib.Compression
