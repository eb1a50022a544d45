import Qatlib.Lib.TryEach

set_option autoImplicit false

/-! # The services of a device

`SalCtrl_ServiceEventRestarting` and `SalCtrl_ServiceEventRestarted` with the functions they call on
each crypto and compression instance (`sal_crypto.c`, `sal_compression.c`). The first resets the
transport handles and frees the chain services; the second makes the instances ready again, and when
that fails stops and shuts down everything.

What an instance owns is counted: how often each of its transport handles was released, its pools
destroyed and its chain service freed. Releasing a ring never fails (`adf_io_release_ring`), a null
handle is refused (`ICP_CHECK_FOR_NULL_PARAM`), and a pool that was destroyed is no longer in the
table of pools, so that a second `Lac_MemPoolDestroy` finds nothing. Which steps of re-initialising an
instance succeed is part of the instance; none of them asks for a retry. -/

namespace Qatlib.Sal

/-- `SAL_SERVICE_STATE_*`. -/
inductive ServiceState where
  | uninitialized | initializing | initialized | running | shuttingDown | shutdown | restarting
  | error
deriving DecidableEq

/-! ## What an instance owns -/

/-- A transport handle: whether the instance's pointer to it is set, and how often it was released. -/
structure Handle where
  ptr : Bool
  released : Nat
deriving DecidableEq

namespace Handle

/-- `icp_adf_transReleaseHandle`. -/
def release (h : Handle) : Bool × Handle :=
  if h.ptr then (true, { h with released := h.released + 1 }) else (false, h)

/-- `icp_adf_transReinitHandle`: when it fails the handle is released and the pointer cleared. -/
def reinit (ok : Bool) (h : Handle) : Bool × Handle :=
  if ok then (true, h) else (false, { h.release.2 with ptr := false })

/-- Release the handle if the pointer is set. -/
def releaseIfSet (h : Handle) : Handle := h.release.2

end Handle

/-- A memory pool: whether it is in the table of pools, and how often it was destroyed. -/
structure Pool where
  live : Bool
  destroyed : Nat
deriving DecidableEq

/-- `Lac_MemPoolDestroy`. -/
def Pool.destroy (p : Pool) : Pool := if p.live then ⟨false, p.destroyed + 1⟩ else p

/-! ## Compression instances -/

/-- Which steps of `SalCtrl_CompressionRestarted` succeed, and whether the firmware can chain. -/
structure DcAnswers where
  stats : Bool
  instInit : Bool
  concurrentReq : Bool
  parseTx : Bool
  reinitTx : Bool
  parseRx : Bool
  reinitRx : Bool
  debug : Bool
  chaining : Bool
  chainAlloc : Bool
  chainInit : Bool
  chainHash : Bool

/-- The chain service that the instance held when the restart began, or one made since. -/
inductive ChainRef where
  | held | fresh
deriving DecidableEq

/-- `sal_compression_service_t`. -/
structure CompressionService where
  state : ServiceState
  tx : Handle
  rx : Handle
  pool : Pool
  chain : Option ChainRef
  heldFreed : Nat
  freshFreed : Nat
  answers : DcAnswers

namespace CompressionService

variable (s : CompressionService)

def withState (state : ServiceState) : CompressionService := { s with state := state }

def withTx (tx : Handle) : CompressionService := { s with tx := tx }

def withRx (rx : Handle) : CompressionService := { s with rx := rx }

def withPool (pool : Pool) : CompressionService := { s with pool := pool }

def withChain (chain : Option ChainRef) : CompressionService := { s with chain := chain }

/-- The memory of a chain service made since the restart began is freed. -/
def freeFresh : CompressionService := { s with freshFreed := s.freshFreed + 1 }

/-- `dcChainServiceShutdown` and `LAC_OS_FREE`, which clears the pointer. -/
def freeChain : CompressionService :=
  match s.chain with
  | none => s
  | some .held => { s with chain := none, heldFreed := s.heldFreed + 1 }
  | some .fresh => s.freeFresh.withChain none

/-- `SalCtrl_CompressionRestarting`. Resetting a handle fails only for a null pointer. -/
def restarting (s : CompressionService) : Bool × CompressionService :=
  if s.state ≠ .running ∧ s.state ≠ .error then (false, s)
  else if s.tx.ptr = false then (false, s)
  else if s.rx.ptr = false then (false, s)
  else (true, s.freeChain.withState .restarting)

/-- The label `cleanup` of `SalCtrl_CompressionRestarted`. The pointers stay set. -/
def cleanup : CompressionService :=
  ((s.withTx s.tx.releaseIfSet).withRx s.rx.releaseIfSet).withPool s.pool.destroy

/-- `SalCtrl_CompressionRestarted`. -/
def restarted : Bool × CompressionService :=
  if s.state ≠ .uninitialized ∧ s.state ≠ .restarting then (false, s)
  else if s.answers.stats = false then (false, s.cleanup)
  else if s.answers.instInit = false then (false, s)
  else if s.answers.concurrentReq = false then (false, s.cleanup)
  else if s.answers.parseTx = false then (false, s)
  else
    let tx := s.tx.reinit s.answers.reinitTx
    let s := s.withTx tx.2
    if tx.1 = false then (false, s.cleanup)
    else if s.answers.parseRx = false then (false, s.cleanup)
    else
      let rx := s.rx.reinit s.answers.reinitRx
      let s := s.withRx rx.2
      if rx.1 = false then (false, s.cleanup)
      else if s.answers.debug = false then (false, s.cleanup)
      else
        let s := s.withChain none
        if s.answers.chaining = false then (true, s.withState .running)
        else if s.answers.chainAlloc = false then (false, s.cleanup)
        else if s.answers.chainInit = false then (false, s.cleanup.freeFresh)
        else if s.answers.chainHash = false then
          -- the chain service is freed, but the instance points to it already
          (false, (s.withChain (some .fresh)).cleanup.freeFresh)
        else (true, (s.withChain (some .fresh)).withState .running)

/-- `SalCtrl_CompressionStop`. -/
def stop : Bool × CompressionService :=
  if s.state ≠ .running then (false, s) else (true, s.withState .shuttingDown)

/-- `SalCtrl_CompressionShutdown`. It returns at the first handle that cannot be released. -/
def shutdown (s : CompressionService) : Bool × CompressionService :=
  if s.state ≠ .initialized ∧ s.state ≠ .shuttingDown ∧ s.state ≠ .restarting then (false, s)
  else
    let s := s.withPool s.pool.destroy
    if s.tx.release.1 = false then (false, s)
    else
      let s := s.withTx s.tx.release.2
      if s.rx.release.1 = false then (false, s)
      else (true, (s.withRx s.rx.release.2).freeChain.withState .shutdown)

end CompressionService

/-! ## Crypto instances -/

/-- Which steps of `SalCtrl_AsymReinit` or `SalCtrl_SymReinit` succeed. -/
structure SideAnswers where
  concurrentReq : Bool
  parseTx : Bool
  reinitTx : Bool
  parseRx : Bool
  reinitRx : Bool

/-- The asymmetric or the symmetric part of a crypto instance: its handles and its pools. -/
structure Side where
  tx : Handle
  rx : Handle
  pools : List Pool

namespace Side

/-- The pools and the handles of a part are freed. Handles that are not set are skipped, so this
    reports success. -/
def freeResources (s : Side) : Side :=
  ⟨s.tx.releaseIfSet, s.rx.releaseIfSet, s.pools.map Pool.destroy⟩

/-- The handles of a part are made ready again; any failure frees the part. -/
def reinitTransHandle (a : SideAnswers) (s : Side) : Bool × Side :=
  if a.parseTx = false then (false, s.freeResources)
  else
    let tx := s.tx.reinit a.reinitTx
    let s := { s with tx := tx.2 }
    if tx.1 = false then (false, s.freeResources)
    else if a.parseRx = false then (false, s.freeResources)
    else
      let rx := s.rx.reinit a.reinitRx
      let s := { s with rx := rx.2 }
      if rx.1 = false then (false, s.freeResources) else (true, s)

/-- A part is made ready again. -/
def reinit (a : SideAnswers) (s : Side) : Bool × Side :=
  if a.concurrentReq = false then (false, s) else s.reinitTransHandle a

end Side

/-- `SAL_SERVICE_TYPE_CRYPTO_ASYM`, `SAL_SERVICE_TYPE_CRYPTO_SYM`, `SAL_SERVICE_TYPE_CRYPTO`. -/
inductive CryptoType where
  | asym | sym | both
deriving DecidableEq

/-- Which steps of `SalCtrl_CryptoRestarted` succeed. -/
structure CryptoAnswers where
  instInit : Bool
  debug : Bool
  asym : SideAnswers
  sym : SideAnswers

/-- `sal_crypto_service_t`. -/
structure CryptoService where
  type : CryptoType
  state : ServiceState
  asym : Side
  sym : Side
  answers : CryptoAnswers

namespace CryptoService

variable (s : CryptoService)

def withState (state : ServiceState) : CryptoService := { s with state := state }

def withAsym (asym : Side) : CryptoService := { s with asym := asym }

def withSym (sym : Side) : CryptoService := { s with sym := sym }

/-- `SalCtrl_AsymFreeResources`. -/
def asymFreeResources : CryptoService := s.withAsym s.asym.freeResources

/-- `SalCtrl_SymFreeResources`. -/
def symFreeResources : CryptoService := s.withSym s.sym.freeResources

/-- `SalCtrl_AsymReinit`. -/
def asymReinit : Bool × CryptoService :=
  ((s.asym.reinit s.answers.asym).1, s.withAsym (s.asym.reinit s.answers.asym).2)

/-- `SalCtrl_SymReinit`. -/
def symReinit : Bool × CryptoService :=
  ((s.sym.reinit s.answers.sym).1, s.withSym (s.sym.reinit s.answers.sym).2)

/-- `SalCtrl_CryptoRestarting`. The handles that are set are reset. -/
def restarting (s : CryptoService) : Bool × CryptoService :=
  if s.state ≠ .running ∧ s.state ≠ .error then (false, s) else (true, s.withState .restarting)

/-- `SalCtrl_CryptoRestarted`. -/
def restarted : Bool × CryptoService :=
  if s.state ≠ .uninitialized ∧ s.state ≠ .restarting then (false, s)
  else
    let s := s.withState .initializing
    if s.answers.instInit = false then (false, s)
    else if s.answers.debug = false then (false, s)
    else
      match s.type with
      | .asym =>
          if s.asymReinit.1 = false then s.asymReinit
          else (true, s.asymReinit.2.withState .running)
      | .sym =>
          if s.symReinit.1 = false then s.symReinit
          else (true, s.symReinit.2.withState .running)
      | .both =>
          if s.asymReinit.1 = false then s.asymReinit
          else
            let s := s.asymReinit.2
            if s.symReinit.1 = false then (false, s.symReinit.2.asymFreeResources)
            else (true, s.symReinit.2.withState .running)

/-- `SalCtrl_CryptoStop`. A wrong state is logged and overwritten. -/
def stop : Bool × CryptoService := (true, s.withState .shuttingDown)

/-- `SalCtrl_CryptoShutdown`. -/
def shutdown (s : CryptoService) : Bool × CryptoService :=
  if s.state ≠ .initialized ∧ s.state ≠ .shuttingDown ∧ s.state ≠ .restarting then (false, s)
  else
    let s :=
      match s.type with
      | .asym => s.asymFreeResources
      | .sym => s.symFreeResources
      | .both => s.asymFreeResources.symFreeResources
    (true, s.withState .shutdown)

end CryptoService

/-! ## The device -/

/-- `sal_t`. A service that is not enabled has no instances. -/
structure Services where
  asym : List CryptoService
  sym : List CryptoService
  crypto : List CryptoService
  compression : List CompressionService

/-- What `SalCtrl_ServiceEventRestarted` itself meets: whether the device supports the services,
    whether there is memory for the version file and for the debug directory of each service. -/
structure EventAnswers where
  supported : Bool
  verFile : Bool
  asymDir : Bool
  symDir : Bool
  cyDir : Bool
  dcDir : Bool

/-- `SalCtrl_ServiceRestarted`. -/
def serviceRestarted {α : Type} (dir : Bool) (restarted : α → Bool × α) (l : List α) :
    Bool × List α :=
  if dir = false then (false, l) else tryEach restarted l

namespace Services

variable (e : EventAnswers) (s : Services)

/-- `SalCtrl_ServiceEventRestarting`. -/
def eventRestarting : Bool × Services :=
  let asym := tryEach CryptoService.restarting s.asym
  let s := { s with asym := asym.2 }
  if asym.1 = false then (false, s)
  else
    let sym := tryEach CryptoService.restarting s.sym
    let s := { s with sym := sym.2 }
    if sym.1 = false then (false, s)
    else
      let crypto := tryEach CryptoService.restarting s.crypto
      let s := { s with crypto := crypto.2 }
      if crypto.1 = false then (false, s)
      else
        let compression := tryEach CompressionService.restarting s.compression
        (compression.1, { s with compression := compression.2 })

/-- `SalCtrl_ServiceEventStop`. -/
def eventStop : Services :=
  ⟨(tryEach CryptoService.stop s.asym).2, (tryEach CryptoService.stop s.sym).2,
    (tryEach CryptoService.stop s.crypto).2, (tryEach CompressionService.stop s.compression).2⟩

/-- `SalCtrl_ServiceEventShutdown`. -/
def eventShutdown : Services :=
  ⟨(tryEach CryptoService.shutdown s.asym).2, (tryEach CryptoService.shutdown s.sym).2,
    (tryEach CryptoService.shutdown s.crypto).2,
    (tryEach CompressionService.shutdown s.compression).2⟩

/-- The part of `SalCtrl_ServiceEventRestarted` before the label `err_restarted`. -/
def restartServices : Bool × Services :=
  if e.verFile = false then (false, s)
  else
    let asym := serviceRestarted e.asymDir CryptoService.restarted s.asym
    let s := { s with asym := asym.2 }
    if asym.1 = false then (false, s)
    else
      let sym := serviceRestarted e.symDir CryptoService.restarted s.sym
      let s := { s with sym := sym.2 }
      if sym.1 = false then (false, s)
      else
        let crypto := serviceRestarted e.cyDir CryptoService.restarted s.crypto
        let s := { s with crypto := crypto.2 }
        if crypto.1 = false then (false, s)
        else
          let compression := serviceRestarted e.dcDir CompressionService.restarted s.compression
          (compression.1, { s with compression := compression.2 })

/-- `SalCtrl_ServiceEventRestarted`. -/
def eventRestarted : Bool × Services :=
  if e.supported = false then (false, s)
  else
    let r := s.restartServices e
    if r.1 then r else (false, r.2.eventStop.eventShutdown)

/-- The two events of a restart. -/
def restart : Bool × Services :=
  s.eventRestarting.2.eventRestarted e

end Services

end Qatlib.Sal
