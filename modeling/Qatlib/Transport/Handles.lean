import Mathlib.Data.Finset.Card
import Mathlib.Data.Finset.Range
import Mathlib.Logic.Function.Basic
import Qatlib.Lib.System
import Qatlib.Transport.Ring

set_option autoImplicit false

/-! # Ring handles and their banks

`adf_user_transport_ctrl.c`: the calls that create, reset, reinitialise and release the handle of a
ring. Handles of one bank share its bundle (the mapped registers), its table of handles and its
mask of reserved rings; the bank counts its handles to know when the bundle can go. All handles of a
device share one array of in-flight counters, with one cell for a request ring and its response
ring.

What the outside answers (memory, bundles, configuration, locks) is an argument of each call, so a
call may fail wherever the source checks. `none` stands for a call that writes through a null
pointer. Messages on the rings are in `Transport/Ring.lean`; here they are a step that may give the
running fields of a handle any value. -/

namespace Qatlib.Transport

open Function

/-- The constants of a device. -/
structure Device where
  maxNumRingsPerBank : Nat
  /-- `ring_mask` has 16 bits. -/
  rings_le : maxNumRingsPerBank ≤ 16

/-- `icp_resp_deliv_method`. -/
inductive RespDelivMethod where
  | none
  | irq
  | poll
  | delimit
deriving DecidableEq

/-- The arguments of a create or reinit call. -/
structure HandleArgs where
  bankNr : Nat
  resp : RespDelivMethod
  numMsgs : Nat
  msgSize : Nat

/-- What a create or reinit call is answered. -/
structure Answers where
  /-- `adf_io_get_bundle_from_accelid` finds a bundle. -/
  bundle : Bool
  /-- `adf_io_populate_bundle` succeeds. -/
  populate : Bool
  /-- Memory for the shadow registers. -/
  shadow : Bool
  /-- Memory for the table of handles. -/
  ringTable : Bool
  /-- The ring number configured for the service. -/
  cfgRing : Option Int
  /-- Memory for the handle. -/
  handle : Option Nat
  /-- Memory for the names and the lock of the handle, and a lock that can be initialised. -/
  names : Bool
  /-- Memory for the ring. -/
  ringBuffer : Option Nat
  /-- The ring memory has a physical address. -/
  phys : Bool
  /-- The bank's lock can be taken by `adf_reserve_ring`. -/
  reserveLock : Bool
  /-- The bank's lock can be taken by `adf_unreserve_ring`. -/
  unreserveLock : Bool

/-! ## Banks -/

/-- `adf_dev_bank_handle_t`. -/
structure Bank where
  /-- `bundle` is not null. -/
  bundle : Bool
  /-- The table of handles; `none` is a null pointer. -/
  rings : Option (Nat → Option Nat)
  /-- The bits of `ring_mask`. -/
  ringMask : Nat → Bool
  refs : Int
  /-- `csr_addr_shadow` is not null. -/
  csrAddrShadow : Bool

/-- A bank as `adf_proxy_populate_bank_ring_info` sets it up. -/
def Bank.empty : Bank :=
  { bundle := false, rings := none, ringMask := fun _ => false, refs := 0, csrAddrShadow := false }

section

variable (b : Bank)

/-- The handle recorded for a ring. -/
def Bank.slot (ring : Nat) : Option Nat := b.rings.bind fun table => table ring

/-- The number of handles recorded in `bank->rings`. -/
def Bank.recorded (d : Device) (b : Bank) : Nat :=
  ((Finset.range d.maxNumRingsPerBank).filter fun r => (b.slot r).isSome).card

/-- `init_bank_from_accel`. When there is no memory for the table the bundle is freed, but
    `bank->bundle` has been set by then and stays. -/
def Bank.initFromAccel (env : Answers) : Bool × Bank :=
  if env.bundle = false then (false, b)
  else if env.populate = false then (false, b)
  else if env.shadow = false then (false, { b with csrAddrShadow := false })
  else if env.ringTable = false then
    (false, { b with bundle := true, rings := none, csrAddrShadow := false })
  else (true, { b with bundle := true, rings := some fun _ => none, csrAddrShadow := true })

/-- `reinit_bank_from_accel`. The shadow registers are cleared without a check that they exist. -/
def Bank.reinitFromAccel (env : Answers) : Option (Bool × Bank) :=
  if env.bundle = false then some (false, b)
  else if env.populate = false then some (false, b)
  else if b.csrAddrShadow = false then none
  else if env.ringTable = false then some (false, { b with bundle := false, rings := none })
  else some (true, { b with bundle := true, rings := some fun _ => none })

/-- `adf_free_bundle`. -/
def Bank.freeBundle : Bank :=
  if b.refs ≠ 0 then b else { b with rings := none, bundle := false, csrAddrShadow := false }

/-- `adf_clean_bundle`. -/
def Bank.cleanBundle : Bank :=
  if b.refs = 0 then { b with rings := none, bundle := false } else b

/-- `adf_reserve_ring`. -/
def Bank.reserveRing (lock : Bool) (ring : Nat) : Option Bank :=
  if lock = false then none
  else if b.ringMask ring then none
  else some { b with ringMask := update b.ringMask ring true }

/-- `adf_unreserve_ring`. -/
def Bank.unreserveRing (lock : Bool) (ring : Nat) : Bank :=
  if lock = false then b else { b with ringMask := update b.ringMask ring false }

/-- A handle is recorded in an existing table, `(bank->rings)[ring_rnum] = pRingHandle`. -/
def Bank.record (ring a : Nat) : Option Bank :=
  b.rings.map fun table => { b with rings := some (update table ring (some a)) }

/-- The end of `icp_adf_transReleaseHandle`: with a table, the entry is cleared and the reference
    given back, and then the bundle may go. -/
def Bank.release (ring : Nat) : Bank :=
  match b.rings with
  | none => b.freeBundle
  | some table => { b with rings := some (update table ring none), refs := b.refs - 1 }.freeBundle

/-- The end of `icp_adf_transResetHandle`. -/
def Bank.reset (ring : Nat) : Bank :=
  match b.rings with
  | none => b
  | some table => { b with rings := some (update table ring none), refs := b.refs - 1 }.cleanBundle

end

/-! ## Handles -/

/-- `adf_dev_ring_handle_t`. -/
structure RingHandle where
  bankNum : Nat
  ringNum : Nat
  /-- `in_flight`, as an index into the counters of the device. -/
  inFlight : Nat
  head : Nat
  tail : Nat
  sendSeq : Nat
  config : RingConfig
  /-- `ring_virt_addr`. -/
  ringVirtAddr : Option Nat
  /-- Not in the program: the last call on the handle was a reset. -/
  wasReset : Bool

/-- A handle after `ICP_MEMSET`. -/
def RingHandle.zero : RingHandle :=
  { bankNum := 0
    ringNum := 0
    inFlight := 0
    head := 0
    tail := 0
    sendSeq := 0
    config := ⟨0, 0, 0, 0, 0⟩
    ringVirtAddr := none
    wasReset := false }

/-- The transport layer of one device: its banks, the in-flight counters, the handles that exist
    with their contents, and what is in the ring buffers. -/
structure DeviceState where
  banks : Nat → Bank
  ringInflights : Nat → Nat
  handles : List Nat
  handle : Nat → RingHandle
  buffer : Nat → Nat → UInt8

/-- One bank replaced. -/
def DeviceState.setBank (s : DeviceState) (nr : Nat) (b : Bank) : DeviceState :=
  { s with banks := update s.banks nr b }

/-- One handle's contents replaced. -/
def DeviceState.setHandle (s : DeviceState) (a : Nat) (h : RingHandle) : DeviceState :=
  { s with handle := update s.handle a h }

/-- `EMPTY_RING_SIG_BYTE` over the whole ring of a handle. -/
def fillRing (h : RingHandle) (buffer : Nat → Nat → UInt8) : Nat → Nat → UInt8 :=
  fun v i => if h.ringVirtAddr = some v ∧ i < h.config.ringSize then 0x7f else buffer v i

/-- The index of the cell that the ring and its partner share. -/
def inFlightIndex (d : Device) (bankNum ringNum : Nat) : Nat :=
  if ringNum < d.maxNumRingsPerBank / 2 then
    ((d.maxNumRingsPerBank * bankNum) >>> 1) + ringNum
  else ((d.maxNumRingsPerBank * bankNum) >>> 1) + (ringNum - d.maxNumRingsPerBank / 2)

/-- `adf_populate_ring_info_internal`: the cell is cleared before anything asks whether the ring is
    free. -/
def DeviceState.populateRingInfo (d : Device) (s : DeviceState) (a : Nat) (args : HandleArgs)
    (ring : Nat) : Bool × DeviceState :=
  let h := { s.handle a with bankNum := args.bankNr }
  if args.resp = .delimit then (false, s.setHandle a h)
  else
    let cell := inFlightIndex d args.bankNr ring
    let h := { h with
      ringNum := ring
      inFlight := cell
      config := { h.config with messageSize := args.msgSize } }
    (true, { s.setHandle a h with ringInflights := update s.ringInflights cell 0 })

/-- `adf_init_ring_internal`; `none` when the ring cannot be reserved. -/
def DeviceState.initRingInternal (s : DeviceState) (a : Nat) (args : HandleArgs) (ring : Nat)
    (lock : Bool) : Option DeviceState :=
  ((s.banks args.bankNr).reserveRing lock ring).map fun b =>
    let config := adfInitRing args.numMsgs args.msgSize
    let h := { s.handle a with
      head := 0, tail := 0, sendSeq := 0, ringNum := ring, config := config, wasReset := false }
    { (s.setBank args.bankNr b).setHandle a h with buffer := fillRing h s.buffer }

/-- `adf_init_ring`; `none` when there is no memory or the ring cannot be reserved. -/
def DeviceState.initRing (s : DeviceState) (a : Nat) (args : HandleArgs) (ring : Nat)
    (env : Answers) : Option DeviceState :=
  match env.ringBuffer with
  | none => none
  | some v =>
      if env.phys = false then none
      else
        (s.setHandle a { s.handle a with ringVirtAddr := some v }).initRingInternal a args ring
          env.reserveLock

/-- The configured ring, if it is one of the bank's. -/
def cfgRing (d : Device) (env : Answers) : Option Nat :=
  env.cfgRing.bind fun r => if r < 0 ∨ r ≥ (d.maxNumRingsPerBank : Int) then none else some r.toNat

/-! ## The calls -/

section

variable (d : Device) (s : DeviceState) (a : Nat)

variable (args : HandleArgs) (env : Answers)

/-- The start of `icp_adf_transCreateHandle`: the bank has a bundle or gets one. -/
def DeviceState.openBank (nr : Nat) (env : Answers) : Bool × DeviceState :=
  if (s.banks nr).bundle then (true, s)
  else
    (((s.banks nr).initFromAccel env).1, s.setBank nr ((s.banks nr).initFromAccel env).2)

/-- `adf_free_bundle` on one of the banks. -/
def DeviceState.freeBundle (s : DeviceState) (nr : Nat) : DeviceState :=
  s.setBank nr (s.banks nr).freeBundle

/-- The ring and the memory a create call is about to use, when it has both: the configured ring
    exists, and the handle, its names and its lock could be allocated. `adf_io_reserve_ring` always
    succeeds. -/
def chosen : Option (Nat × Nat) :=
  (cfgRing d env).bind fun ring =>
    env.handle.bind fun a => if env.names then some (a, ring) else none

/-- `icp_adf_transCreateHandle` from the populating of the handle on. -/
def DeviceState.finishCreate (ring : Nat) (env : Answers) : Option (Bool × DeviceState) :=
  let populated := (s.setHandle a RingHandle.zero).populateRingInfo d a args ring
  if populated.1 = false then some (false, populated.2.freeBundle args.bankNr)
  else
    match populated.2.initRing a args ring env with
    | none => some (false, populated.2.freeBundle args.bankNr)
    | some s' =>
        let b := s'.banks args.bankNr
        ({ b with refs := b.refs + 1 }.record ring a).map fun b' =>
          (true, { s'.setBank args.bankNr b' with handles := a :: s'.handles })

/-- `icp_adf_transCreateHandle`: whether it succeeded, and the state after it. -/
def DeviceState.createHandle : Option (Bool × DeviceState) :=
  let opened := s.openBank args.bankNr env
  if opened.1 = false then some (false, opened.2)
  else
    match chosen d env with
    | none => some (false, opened.2.freeBundle args.bankNr)
    | some (a, ring) => opened.2.finishCreate d a args ring env

/-- `icp_adf_transReleaseHandle`. -/
def DeviceState.releaseHandle (lock : Bool) : DeviceState :=
  let h := s.handle a
  let b := (s.banks h.bankNum).unreserveRing lock h.ringNum
  { s.setBank h.bankNum (b.release h.ringNum) with handles := s.handles.erase a }

/-- `icp_adf_transResetHandle`. -/
def DeviceState.resetHandle (lock : Bool) : DeviceState :=
  let h := s.handle a
  let b := (s.banks h.bankNum).unreserveRing lock h.ringNum
  { (s.setBank h.bankNum (b.reset h.ringNum)).setHandle a { h with wasReset := true } with
    buffer := fillRing h s.buffer }

/-- `icp_adf_transReinitHandle` once the bank has a bundle: the reference is taken first, and every
    failure after that goes through the release of the handle. -/
def DeviceState.finishReinit : Option (Bool × DeviceState) :=
  let b := s.banks args.bankNr
  let s := s.setBank args.bankNr { b with refs := b.refs + 1 }
  match cfgRing d env with
  | none => some (false, s.releaseHandle a env.unreserveLock)
  | some ring =>
      let populated := s.populateRingInfo d a args ring
      if populated.1 = false then some (false, populated.2.releaseHandle a env.unreserveLock)
      else
        match populated.2.initRingInternal a args ring env.reserveLock with
        | none => some (false, populated.2.releaseHandle a env.unreserveLock)
        | some s' =>
            ((s'.banks args.bankNr).record ring a).map fun b' => (true, s'.setBank args.bankNr b')

/-- `icp_adf_transReinitHandle`. -/
def DeviceState.reinitHandle : Option (Bool × DeviceState) :=
  if (s.banks args.bankNr).bundle then s.finishReinit d a args env
  else
    ((s.banks args.bankNr).reinitFromAccel env).bind fun answer =>
      if answer.1 = false then
        some (false, (s.setBank args.bankNr answer.2).releaseHandle a env.unreserveLock)
      else (s.setBank args.bankNr answer.2).finishReinit d a args env

end

/-! ## The system -/

/-- Memory that is answered is not in use. -/
def Answers.Fresh (env : Answers) (s : DeviceState) : Prop :=
  (∀ a ∈ env.handle, a ∉ s.handles) ∧
    ∀ v ∈ env.ringBuffer, ∀ a ∈ s.handles, (s.handle a).ringVirtAddr ≠ some v

instance (env : Answers) (s : DeviceState) : Decidable (env.Fresh s) :=
  inferInstanceAs (Decidable (_ ∧ _))

/-- What can happen to the handles of a device. -/
inductive HandleEvent where
  | create (args : HandleArgs) (env : Answers)
  | reset (a : Nat) (lock : Bool)
  | reinit (a : Nat) (args : HandleArgs) (env : Answers)
  | release (a : Nat) (lock : Bool)
  /-- Messages are put on the ring of a handle or taken from it. -/
  | traffic (a head tail sendSeq inFlight : Nat) (contents : Nat → UInt8)

/-- The handles of a device, before any was created. -/
def DeviceState.Initial (s : DeviceState) : Prop := (∀ nr, s.banks nr = Bank.empty) ∧ s.handles = []

/-- One call, or traffic. Only a handle that was reset is reinitialised, on its own bank. -/
def HandleEvent.step (d : Device) (s : DeviceState) : HandleEvent → Option DeviceState
  | .create args env => if env.Fresh s then (s.createHandle d args env).map Prod.snd else none
  | .reset a lock => if a ∈ s.handles then some (s.resetHandle a lock) else none
  | .reinit a args env =>
      if a ∈ s.handles ∧ (s.handle a).wasReset = true ∧ args.bankNr = (s.handle a).bankNum then
        (s.reinitHandle d a args env).map Prod.snd
      else none
  | .release a lock => if a ∈ s.handles then some (s.releaseHandle a lock) else none
  | .traffic a head tail sendSeq inFlight contents =>
      if a ∈ s.handles then
        let h := s.handle a
        some { s.setHandle a { h with head := head, tail := tail, sendSeq := sendSeq } with
          ringInflights := update s.ringInflights h.inFlight inFlight
          buffer := fun v => if h.ringVirtAddr = some v then contents else s.buffer v }
      else none

/-- The handles of a device as a system. -/
def transport (d : Device) : System DeviceState HandleEvent where
  Init := DeviceState.Initial
  step := HandleEvent.step d

end Qatlib.Transport
