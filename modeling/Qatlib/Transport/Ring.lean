import Qatlib.Lib.System
import Qatlib.Lib.CircularBuffer

set_option autoImplicit false

/-! # Request and response rings

The ring pair of `adf_user_ring.c` and `adf_user_ETring_mgr_dp.c`: a request ring written by the
put functions and read by the device, a response ring written by the device and read by the pollers,
and one `in_flight` counter shared by both, which alone keeps the two sides from running into each
other. Counters and offsets are `uint32_t` values.

Puts take the ring's lock or come from the one thread that uses the data plane, so a put function is
one step; a batch is its reservation followed by one step per message. A poll is cut at its loop: a
step for its start, one for each message, one for the bookkeeping after the loop. Device steps, puts
(also from inside a callback) and tail writes may come between any two of them. -/

namespace Qatlib.Transport

/-! ## Geometry -/

/-- `modulo`. -/
def modulo (data shift : Nat) : Nat := data - ((data >>> shift) <<< shift)

theorem modulo_eq (data shift : Nat) : modulo data shift = data % 2 ^ shift := by
  have h := Nat.div_add_mod data (2 ^ shift)
  rw [Nat.mul_comm] at h
  rw [modulo, Nat.shiftRight_eq_div_pow, Nat.shiftLeft_eq]
  omega

/-- `ICP_ET_SIZE_TO_BYTES`, kept in a `uint32_t`. -/
def icpEtSizeToBytes (size : Nat) : Nat := (64 <<< size) % 2 ^ 32

/-- The loop of `validateRingSize` that counts the bits of `kbytes`, a 32-bit number. -/
def countBits : Nat → Nat → Nat
  | 0, _ => 0
  | fuel + 1, kbytes => if kbytes > 0 then countBits fuel (kbytes >>> 1) + 1 else 0

/-- `validateRingSize`: the size configuration and the modulo shift. The test on `modulo(size, 4)`
    passes multiples of 16 only, since the second argument is a shift. -/
def validateRingSize (numMsgs msgSize : Nat) : Nat × Nat :=
  let sizeInBytes := numMsgs * msgSize % 2 ^ 32
  if numMsgs = 0 ∨ msgSize = 0 ∨ modulo msgSize 4 ≠ 0 then (8, 14)
  else if sizeInBytes ≤ icpEtSizeToBytes 16 then
    let kSize := countBits 32 (((sizeInBytes + 2 ^ 32 - 1) % 2 ^ 32) >>> 10)
    (4 + kSize, 10 + kSize)
  else (16, 22)

/-- The fields of `adf_dev_ring_handle_t` that stay as `adf_init_ring` sets them. -/
structure RingConfig where
  messageSize : Nat
  modulo : Nat
  ringSize : Nat
  maxRequestsInflight : Nat
  minRespsPerHeadWrite : Nat

/-- `adf_init_ring`: the constants of a ring of `numMsgs` messages. -/
def adfInitRing (numMsgs msgSize : Nat) : RingConfig :=
  let sizing := validateRingSize numMsgs msgSize
  let ringSizeBytes := icpEtSizeToBytes sizing.1
  { messageSize := msgSize
    modulo := sizing.2
    ringSize := ringSizeBytes
    maxRequestsInflight := (numMsgs + 2 ^ 32 - 1) % 2 ^ 32
    minRespsPerHeadWrite := min 32 ((ringSizeBytes / msgSize) >>> 1) }

/-- A message size the ring can be laid out for: a power of two, with all messages in at most 4 MB,
    and in at most 16 KB where `validateRingSize` falls back to its default. -/
structure Fits (numMsgs msgSize : Nat) : Prop where
  pow : ∃ k, msgSize = 2 ^ k
  max : numMsgs * msgSize ≤ 2 ^ 22
  small : msgSize < 16 → numMsgs * msgSize ≤ 2 ^ 14

theorem icpEtSizeToBytes_eq {size : Nat} (h : size < 26) :
    icpEtSizeToBytes size = 2 ^ (6 + size) := by
  have hlt : 2 ^ (6 + size) < 2 ^ 32 := Nat.pow_lt_pow_right Nat.one_lt_two (by omega)
  rw [icpEtSizeToBytes, Nat.shiftLeft_eq, show 64 = 2 ^ 6 from rfl, ← Nat.pow_add,
    Nat.mod_eq_of_lt hlt]

variable {fuel kbytes msgSize numMsgs : Nat}

theorem lt_two_pow_countBits (h : kbytes < 2 ^ fuel) : kbytes < 2 ^ countBits fuel kbytes := by
  induction fuel generalizing kbytes with
  | zero => simpa [countBits] using h
  | succ fuel ih =>
    rw [countBits]
    split
    · have hhalf : kbytes >>> 1 < 2 ^ fuel := by
        rw [Nat.shiftRight_eq_div_pow]
        omega
      have hrec := ih hhalf
      rw [Nat.shiftRight_eq_div_pow] at hrec ⊢
      rw [Nat.pow_succ]
      omega
    · omega

theorem countBits_le {b : Nat} (h : kbytes < 2 ^ b) : countBits fuel kbytes ≤ b := by
  induction fuel generalizing kbytes b with
  | zero => exact Nat.zero_le b
  | succ fuel ih =>
    rw [countBits]
    split
    · next hpos =>
      cases b with
      | zero => omega
      | succ b =>
        rw [Nat.pow_succ] at h
        have hrec := @ih (kbytes >>> 1) b (by rw [Nat.shiftRight_eq_div_pow]; omega)
        omega
    · exact Nat.zero_le b

/-- The shift is at most that of a ring of 4 MB, unless the size in bytes overflows to zero. -/
theorem validateRingSize_le (numMsgs msgSize : Nat) :
    (validateRingSize numMsgs msgSize).2 ≤ 22 ∨
      numMsgs * msgSize % 2 ^ 32 = 0 ∧ (validateRingSize numMsgs msgSize).2 = 32 := by
  unfold validateRingSize
  dsimp only
  split
  · exact .inl (by decide)
  split
  · next hle =>
    rw [icpEtSizeToBytes_eq (by decide)] at hle
    dsimp only
    generalize numMsgs * msgSize % 2 ^ 32 = bytes at hle ⊢
    rcases Nat.eq_zero_or_pos bytes with rfl | hpos
    · exact .inr ⟨rfl, by decide⟩
    · have hkb : ((bytes + 2 ^ 32 - 1) % 2 ^ 32) >>> 10 < 2 ^ 12 := by
        rw [Nat.shiftRight_eq_div_pow]
        omega
      have hbits := @countBits_le 32 _ _ hkb
      exact .inl (by omega)
  · exact .inl (by decide)

/-- The shift returned agrees with the size returned. -/
theorem validateRingSize_shift (numMsgs msgSize : Nat) :
    6 + (validateRingSize numMsgs msgSize).1 = (validateRingSize numMsgs msgSize).2 := by
  unfold validateRingSize
  dsimp only
  split
  · rfl
  · split
    · dsimp only
      omega
    · rfl

/-- The ring chosen has room for all messages. -/
theorem le_validateRingSize (h : Fits numMsgs msgSize) (hpos : 0 < numMsgs) :
    numMsgs * msgSize ≤ 2 ^ (validateRingSize numMsgs msgSize).2 := by
  obtain ⟨k, hk⟩ := h.pow
  have hmax := h.max
  have hsize : 0 < msgSize := hk ▸ Nat.two_pow_pos k
  have hprod : 0 < numMsgs * msgSize := Nat.mul_pos hpos hsize
  have hmod : numMsgs * msgSize % 2 ^ 32 = numMsgs * msgSize := Nat.mod_eq_of_lt (by omega)
  unfold validateRingSize
  dsimp only
  split
  · next hdefault =>
    -- a power of two that is no multiple of 16 is below 16
    refine h.small (Nat.lt_of_not_le fun hge => ?_)
    have hk4 : 4 ≤ k := (Nat.pow_le_pow_iff_right Nat.one_lt_two).mp (hk ▸ hge)
    have hdvd : 2 ^ 4 ∣ msgSize := hk ▸ Nat.pow_dvd_pow 2 hk4
    have hzero : modulo msgSize 4 = 0 := by rw [modulo_eq, Nat.mod_eq_zero_of_dvd hdvd]
    omega
  · rw [hmod, if_pos (by simpa [icpEtSizeToBytes] using hmax)]
    have hkb : (numMsgs * msgSize + 2 ^ 32 - 1) % 2 ^ 32 = numMsgs * msgSize - 1 := by omega
    rw [hkb, Nat.shiftRight_eq_div_pow]
    have hkb' : (numMsgs * msgSize - 1) / 2 ^ 10 < 2 ^ 32 := by omega
    have hbits := lt_two_pow_countBits hkb'
    rw [Nat.pow_add]
    omega

/-- The size of a ring is the modulus of its offsets, if the size in bytes did not overflow. -/
theorem adfInitRing_bytes (numMsgs msgSize : Nat) :
    (adfInitRing numMsgs msgSize).ringSize = 2 ^ (adfInitRing numMsgs msgSize).modulo ↔
      (adfInitRing numMsgs msgSize).modulo ≤ 22 := by
  have hshift := validateRingSize_shift numMsgs msgSize
  have hcases := validateRingSize_le numMsgs msgSize
  simp only [adfInitRing]
  refine ⟨fun h => hcases.resolve_right fun hwrap => ?_, fun h => ?_⟩
  · have hlt : icpEtSizeToBytes (validateRingSize numMsgs msgSize).1 < 2 ^ 32 :=
      Nat.mod_lt _ (by decide)
    rw [h, hwrap.2] at hlt
    exact absurd hlt (by decide)
  · rw [icpEtSizeToBytes_eq (by omega), hshift]

/-- **The geometry of a ring**: its size is the modulus of its offsets, a multiple of the message
    size, and it has a slot for each message. -/
theorem adfInitRing_geometry (h : Fits numMsgs msgSize) (hpos : 0 < numMsgs) :
    (adfInitRing numMsgs msgSize).ringSize = 2 ^ (adfInitRing numMsgs msgSize).modulo ∧
      msgSize ∣ (adfInitRing numMsgs msgSize).ringSize ∧
      numMsgs ≤ (adfInitRing numMsgs msgSize).ringSize / msgSize := by
  obtain ⟨k, hk⟩ := h.pow
  have hsize : 0 < msgSize := hk ▸ Nat.two_pow_pos k
  have hprod : 0 < numMsgs * msgSize := Nat.mul_pos hpos hsize
  have hmax := h.max
  have hshift : (adfInitRing numMsgs msgSize).modulo ≤ 22 :=
    (validateRingSize_le numMsgs msgSize).resolve_right fun hwrap => by omega
  have hbytes := (adfInitRing_bytes numMsgs msgSize).mpr hshift
  have hle : numMsgs * msgSize ≤ 2 ^ (adfInitRing numMsgs msgSize).modulo :=
    le_validateRingSize h hpos
  refine ⟨hbytes, ?_, ?_⟩
  · have hone : msgSize ≤ numMsgs * msgSize := Nat.le_mul_of_pos_left _ hpos
    have hexp := hone.trans hle
    rw [hbytes]
    generalize (adfInitRing numMsgs msgSize).modulo = m at hexp ⊢
    rw [hk] at hexp ⊢
    exact Nat.pow_dvd_pow 2 ((Nat.pow_le_pow_iff_right Nat.one_lt_two).mp hexp)
  · rw [hbytes]
    exact (Nat.le_div_iff_mul_le hsize).mpr hle

/-! ## State -/

/-- `EMPTY_RING_SIG_WORD`, as it lies in memory. -/
def emptyRingSigWord : List UInt8 := [0x7f, 0x7f, 0x7f, 0x7f]

/-- `ICP_NO_RESPONSE_QUOTA`. -/
def icpNoResponseQuota : Nat := 10000

/-- Which function polls. -/
inductive Poller where
  | notifyMsgs
  /-- `adf_user_notify_msgs_poll`, with the ring's response quota. -/
  | notifyMsgsPoll (quota : Nat)
  /-- `icp_adf_pollQueue`. -/
  | pollQueue (quota : Nat)
deriving DecidableEq

/-- The bound on the messages of one poll; a quota of zero stands for the default. -/
def Poller.quota : Poller → Option Nat
  | .notifyMsgs => none
  | .notifyMsgsPoll quota | .pollQueue quota =>
      some (if quota ≠ 0 then quota else icpNoResponseQuota)

/-- Only `adf_user_notify_msgs_poll` asks how the ring's responses are delivered. -/
def Poller.writesHeadOnIrq : Poller → Bool
  | .notifyMsgsPoll _ => true
  | _ => false

/-- A poll in progress: `msg_counter` messages have been handed over. -/
structure Poll where
  poller : Poller
  msgCounter : Nat
deriving DecidableEq

/-- A message: its bytes. -/
abbrev Msg := List UInt8

/-- The handle of a request ring, with the device that reads it. The last three fields are not in
    the program: where the device is, what was put on the ring and what the device has read. -/
structure RequestRing where
  tail : Nat
  csrTailOffset : Nat
  sendSeq : Nat
  /-- The tail register. -/
  csrTail : Nat
  memory : Nat → UInt8
  devHead : Nat
  placed : List Msg
  consumed : List Msg

/-- The handle of a response ring, with the device that writes it. The last three fields are not in
    the program: where the device is, what it has written and what the callback was given. -/
structure ResponseRing where
  head : Nat
  coalWriteCount : Nat
  /-- The head register. -/
  csrHead : Nat
  memory : Nat → UInt8
  devTail : Nat
  answered : List Msg
  handed : List Msg

/-- A ring pair. -/
structure RingPair where
  /-- The counter both handles point to. -/
  inFlight : Nat
  req : RequestRing
  resp : ResponseRing
  /-- Messages of the current batch that are reserved and not yet placed. -/
  batch : Nat
  poll : Option Poll

/-- The rings after `icp_adf_transCreateHandle`: offsets and counter zero, memory filled with the
    signature byte. -/
def RingPair.create : RingPair where
  inFlight := 0
  req :=
    { tail := 0, csrTailOffset := 0, sendSeq := 0, csrTail := 0, memory := fun _ => 0x7f
      devHead := 0, placed := [], consumed := [] }
  resp :=
    { head := 0, coalWriteCount := 0, csrHead := 0, memory := fun _ => 0x7f
      devTail := 0, answered := [], handed := [] }
  batch := 0
  poll := none

/-! ## Puts -/

section

variable (tx : RingConfig) (s : RingPair)

/-- Place a message at the shadow tail and advance the tail. -/
def RequestRing.place (r : RequestRing) (msg : Msg) : RequestRing :=
  { r with
    memory := writeBlock r.memory r.tail msg
    tail := modulo (r.tail + tx.messageSize) tx.modulo
    placed := r.placed ++ [msg] }

/-- `icp_adf_updateQueueTail`. -/
def icpAdfUpdateQueueTail (r : RequestRing) : RequestRing :=
  { r with csrTail := r.tail, csrTailOffset := r.tail }

/-- `CpaStatus` of a put. -/
inductive PutStatus where
  | success | retry | fail
deriving DecidableEq

/-- `adf_user_put_msg`. Only messages of 64 and 128 bytes can be copied; the exit for the others
    keeps the counter as it was incremented. -/
def adfUserPutMsg (msg : Msg) : PutStatus × RingPair :=
  let flight := (s.inFlight + 1) % 2 ^ 32
  if flight > tx.maxRequestsInflight then
    (.retry, { s with inFlight := (flight + 2 ^ 32 - 1) % 2 ^ 32 })
  else if tx.messageSize = 64 ∨ tx.messageSize = 128 then
    let req := icpAdfUpdateQueueTail (s.req.place tx msg)
    (.success, { s with inFlight := flight, req := { req with sendSeq := req.sendSeq + 1 } })
  else (.fail, { s with inFlight := flight })

/-- `icp_adf_getQueueMemory`: reserve a batch; `none` for a NULL address. -/
def icpAdfGetQueueMemory (numberRequests : Nat) : Option RingPair :=
  let inFlight := (s.inFlight + numberRequests) % 2 ^ 32
  if inFlight > tx.maxRequestsInflight then none else some { s with inFlight := inFlight }

/-- `icp_adf_getSingleQueueAddr`, followed by the write of the message to the address it returns. -/
def icpAdfGetSingleQueueAddr (msg : Msg) : Option RingPair :=
  let inFlight := (s.inFlight + 1) % 2 ^ 32
  if inFlight > tx.maxRequestsInflight then none
  else some { s with inFlight := inFlight, req := s.req.place tx msg }

end

/-! ## Polls -/

section

variable (rx : RingConfig) (irq : Bool) (r : ResponseRing) (p : Poll)

/-- The condition of the poll loop: the message at the head does not start with the signature, and
    the quota is not used up. -/
def pollCondition : Bool :=
  readBlock r.memory r.head 4 != emptyRingSigWord &&
    match p.poller.quota with
    | none => true
    | some quota => decide (p.msgCounter < quota)

/-- The body of the poll loop: callback, mark, advance. -/
def pollMessage : ResponseRing :=
  { r with
    handed := r.handed ++ [readBlock r.memory r.head rx.messageSize]
    memory := writeBlock r.memory r.head emptyRingSigWord
    head := modulo (r.head + rx.messageSize) rx.modulo }

/-- The head write after the poll loop, for `msgCounter` messages processed. It is left out until
    enough responses were processed since the last one; `adf_user_notify_msgs_poll` always does it
    for a ring with interrupts. -/
def coalesceHeadWrite : ResponseRing :=
  if p.msgCounter > r.coalWriteCount ∨ (irq && p.poller.writesHeadOnIrq) then
    { r with coalWriteCount := rx.minRespsPerHeadWrite, csrHead := r.head }
  else { r with coalWriteCount := r.coalWriteCount - p.msgCounter }

/-- What follows the poll loop. -/
def pollFinish (s : RingPair) (p : Poll) : RingPair :=
  if p.msgCounter > 0 then
    { s with
      inFlight := (s.inFlight + 2 ^ 32 - p.msgCounter) % 2 ^ 32
      resp := coalesceHeadWrite rx irq s.resp p
      poll := none }
  else { s with poll := none }

end

/-! ## The device -/

/-- The device reads the request at its head. -/
def RequestRing.consume (tx : RingConfig) (r : RequestRing) : RequestRing :=
  { r with
    consumed := r.consumed ++ [readBlock r.memory r.devHead tx.messageSize]
    devHead := (r.devHead + tx.messageSize) % tx.ringSize }

/-- The device writes a response at its tail. -/
def ResponseRing.respond (rx : RingConfig) (r : ResponseRing) (resp : Msg) : ResponseRing :=
  { r with
    memory := writeBlock r.memory r.devTail resp
    answered := r.answered ++ [resp]
    devTail := (r.devTail + rx.messageSize) % rx.ringSize }

/-! ## The system -/

/-- What can happen next. -/
inductive Event where
  /-- `adf_user_put_msg`. -/
  | put (msg : Msg)
  /-- `icp_adf_getSingleQueueAddr` and the write of the message. -/
  | putSingle (msg : Msg)
  /-- `icp_adf_getQueueMemory`. -/
  | batchStart (numberRequests : Nat)
  /-- The write of the next message of the batch and `icp_adf_getQueueNext`. -/
  | batchNext (msg : Msg)
  /-- `icp_adf_updateQueueTail`. -/
  | updateTail
  /-- The device reads the next request, up to the tail register. -/
  | consume
  /-- The device writes the response to the oldest unanswered request. -/
  | respond (resp : Msg)
  | pollStart (poller : Poller)
  | pollMsg
  | pollEnd

/-- The parameters of a pair: its number of messages and the two message sizes. -/
structure PairConfig where
  numMsgs : Nat
  txSize : Nat
  rxSize : Nat
  /-- The response ring delivers by interrupt. -/
  irq : Bool

/-- The request ring. -/
def PairConfig.tx (c : PairConfig) : RingConfig := adfInitRing c.numMsgs c.txSize

/-- The response ring. -/
def PairConfig.rx (c : PairConfig) : RingConfig := adfInitRing c.numMsgs c.rxSize

/-- One step of the pair. A message has the size of its ring; a response does not start with the
    signature; other puts do not come between the messages of a batch, and one poll runs at a
    time. -/
def RingPair.step (c : PairConfig) (s : RingPair) : Event → Option RingPair
  | .put msg =>
      if msg.length = c.txSize ∧ s.batch = 0 then some (adfUserPutMsg c.tx s msg).2 else none
  | .putSingle msg =>
      if msg.length = c.txSize ∧ s.batch = 0 then
        some ((icpAdfGetSingleQueueAddr c.tx s msg).getD s)
      else none
  | .batchStart n =>
      if s.batch = 0 then
        some (((icpAdfGetQueueMemory c.tx s n).map fun s => { s with batch := n }).getD s)
      else none
  | .batchNext msg =>
      if msg.length = c.txSize ∧ 0 < s.batch then
        some { s with req := s.req.place c.tx msg, batch := s.batch - 1 }
      else none
  | .updateTail => some { s with req := icpAdfUpdateQueueTail s.req }
  | .consume =>
      if s.req.devHead ≠ s.req.csrTail then some { s with req := s.req.consume c.tx } else none
  | .respond resp =>
      if resp.length = c.rxSize ∧ resp.take 4 ≠ emptyRingSigWord ∧
          s.resp.answered.length < s.req.consumed.length then
        some { s with resp := s.resp.respond c.rx resp }
      else none
  | .pollStart poller => if s.poll = none then some { s with poll := some ⟨poller, 0⟩ } else none
  | .pollMsg =>
      match s.poll with
      | some p =>
          if pollCondition s.resp p then
            some { s with
              resp := pollMessage c.rx s.resp
              poll := some { p with msgCounter := p.msgCounter + 1 } }
          else none
      | none => none
  | .pollEnd =>
      match s.poll with
      | some p => if pollCondition s.resp p then none else some (pollFinish c.rx c.irq s p)
      | none => none

/-- The pair as a system. -/
def ringPair (c : PairConfig) : System RingPair Event where
  Init s := s = RingPair.create
  step := RingPair.step c

end Qatlib.Transport
