import Qatlib.Transport.Ring

set_option autoImplicit false

/-! # The in-flight counter

The shared counter is the only guard on both rings. It counts the requests that are on the request
ring, with the device, or on the response ring, so it bounds the distance from the oldest response
not yet handed over to the newest request placed. Since it stays below the number of messages and
each ring has a slot for each message, neither writer reaches what the other side has not read.

This needs the counter to be exact. It is not on the exit of `adf_user_put_msg` for message sizes
that cannot be copied, which keeps its increment; and it says nothing about a ring that is smaller
than its messages, as the default of `validateRingSize` can be. -/

namespace Qatlib.Transport

/-! ## Supported pairs and steps -/

/-- A pair whose rings have room for their messages, with a response message of at least the word
    that marks it. -/
structure PairConfig.Supported (c : PairConfig) : Prop where
  numMsgs_pos : 0 < c.numMsgs
  tx : Fits c.numMsgs c.txSize
  rx : Fits c.numMsgs c.rxSize
  rx_word : 4 ≤ c.rxSize

/-- A step that keeps the counter exact: `adf_user_put_msg` on a ring it can copy to, and no batch
    so large that the 32-bit sum wraps. -/
def Event.Counted (c : PairConfig) (s : RingPair) : Event → Prop
  | .put _ => c.txSize = 64 ∨ c.txSize = 128
  | .batchStart n => s.inFlight + n < 2 ^ 32
  | _ => True

/-- The offset of the `i`-th request. -/
def PairConfig.txSlot (c : PairConfig) (i : Nat) : Nat := slotOffset c.txSize c.tx.ringSize i

/-- The offset of the `i`-th response. -/
def PairConfig.rxSlot (c : PairConfig) (i : Nat) : Nat := slotOffset c.rxSize c.rx.ringSize i

/-- The messages the poll in progress has handed over and not yet taken off the counter. -/
def RingPair.msgCounter (s : RingPair) : Nat := (s.poll.map Poll.msgCounter).getD 0

section Geometry

variable {c : PairConfig}

namespace PairConfig.Supported

variable (hc : c.Supported)
include hc

theorem numMsgs_le : c.numMsgs ≤ 2 ^ 22 := by
  obtain ⟨k, hk⟩ := hc.tx.pow
  have hsize : 0 < c.txSize := hk ▸ Nat.two_pow_pos k
  exact (Nat.le_mul_of_pos_right c.numMsgs hsize).trans hc.tx.max

theorem maxRequestsInflight_eq : c.tx.maxRequestsInflight = c.numMsgs - 1 := by
  have hpos := hc.numMsgs_pos
  have hle := hc.numMsgs_le
  show (c.numMsgs + 2 ^ 32 - 1) % 2 ^ 32 = c.numMsgs - 1
  omega

theorem modulo_txSlot (i : Nat) :
    modulo (c.txSlot i + c.tx.messageSize) c.tx.modulo = c.txSlot (i + 1) := by
  obtain ⟨hbytes, -, -⟩ := adfInitRing_geometry hc.tx hc.numMsgs_pos
  rw [modulo_eq, PairConfig.txSlot, PairConfig.tx, ← hbytes]
  exact slotOffset_succ _ _ _

theorem modulo_rxSlot (i : Nat) :
    modulo (c.rxSlot i + c.rx.messageSize) c.rx.modulo = c.rxSlot (i + 1) := by
  obtain ⟨hbytes, -, -⟩ := adfInitRing_geometry hc.rx hc.numMsgs_pos
  rw [modulo_eq, PairConfig.rxSlot, PairConfig.rx, ← hbytes]
  exact slotOffset_succ _ _ _

theorem tx_dvd : c.txSize ∣ c.tx.ringSize := (adfInitRing_geometry hc.tx hc.numMsgs_pos).2.1

theorem rx_dvd : c.rxSize ∣ c.rx.ringSize := (adfInitRing_geometry hc.rx hc.numMsgs_pos).2.1

end PairConfig.Supported

end Geometry

/-! ## The invariant -/

/-- The request ring: where its writer and the device are, and what its slots hold. -/
structure RequestRing.Inv (c : PairConfig) (r : RequestRing) : Prop where
  tail : r.tail = c.txSlot r.placed.length
  written : ∃ w, r.consumed.length ≤ w ∧ w ≤ r.placed.length ∧ r.csrTail = c.txSlot w
  devHead : r.devHead = c.txSlot r.consumed.length
  consumed : r.consumed <+: r.placed
  holds : Holds c.txSize c.tx.ringSize r.memory r.consumed.length r.placed

/-- The response ring: where the device and the poller are, what its slots hold, and that the slots
    the device writes next are marked empty. -/
structure ResponseRing.Inv (c : PairConfig) (r : ResponseRing) : Prop where
  head : r.head = c.rxSlot r.handed.length
  devTail : r.devTail = c.rxSlot r.answered.length
  handed : r.handed <+: r.answered
  holds : Holds c.rxSize c.rx.ringSize r.memory r.handed.length r.answered
  marked : Marked c.rxSize c.rx.ringSize r.memory emptyRingSigWord r.answered.length
    (r.handed.length + c.rx.ringSize / c.rxSize)
  valid : ∀ m ∈ r.answered, m.length = c.rxSize ∧ m.take 4 ≠ emptyRingSigWord

/-- The invariant of a pair: that of its rings, and the counter against their histories. -/
structure RingPair.Inv (c : PairConfig) (s : RingPair) : Prop where
  req : s.req.Inv c
  resp : s.resp.Inv c
  exact : s.inFlight + s.resp.handed.length = s.req.placed.length + s.batch + s.msgCounter
  lt : s.inFlight < c.numMsgs
  answered_le : s.resp.answered.length ≤ s.req.consumed.length

open RingPair

section Inv

variable {c : PairConfig} {s : RingPair}

namespace RingPair.Inv

variable (h : s.Inv c)
include h

/-- **The window.** The requests placed are less than a ring ahead of the responses handed over. -/
theorem window : s.req.placed.length < s.resp.handed.length + c.numMsgs := by
  have hexact := h.exact
  have hlt := h.lt
  omega

theorem handed_le : s.resp.handed.length ≤ s.req.consumed.length :=
  h.resp.handed.length_le.trans h.answered_le

/-- The tail is less than a ring ahead of the device. -/
theorem tx_room (hc : c.Supported) :
    s.req.placed.length < s.req.consumed.length + c.tx.ringSize / c.txSize := by
  have hslots : c.numMsgs ≤ c.tx.ringSize / c.txSize :=
    (adfInitRing_geometry hc.tx hc.numMsgs_pos).2.2
  have hwindow := h.window
  have hhanded := h.handed_le
  omega

/-- The device is less than a ring ahead of the poller. -/
theorem rx_room (hc : c.Supported) :
    s.resp.answered.length < s.resp.handed.length + c.rx.ringSize / c.rxSize := by
  have hslots : c.numMsgs ≤ c.rx.ringSize / c.rxSize :=
    (adfInitRing_geometry hc.rx hc.numMsgs_pos).2.2
  have hwindow := h.window
  have hanswered := h.answered_le
  have hconsumed := h.req.consumed.length_le
  omega

/-- What the poll in progress has handed over is still on the counter. -/
theorem msgCounter_le : s.msgCounter ≤ s.inFlight := by
  have hexact := h.exact
  have hhanded := h.handed_le
  have hconsumed := h.req.consumed.length_le
  omega

end RingPair.Inv

theorem RingPair.inv_create (hc : c.Supported) : create.Inv c := by
  refine ⟨⟨?_, ⟨0, ?_⟩, ?_, ?_, ?_⟩, ⟨?_, ?_, ?_, ?_, ?_, ?_⟩, ?_, hc.numMsgs_pos, ?_⟩
  all_goals simp [create, PairConfig.txSlot, PairConfig.rxSlot, Holds, msgCounter,
    Marked, emptyRingSigWord, readBlock, List.range_succ]

end Inv

variable {msg : Msg} {p : Poll}

/-! ## The request ring -/

section Requests

variable {c : PairConfig} {r : RequestRing}

theorem RequestRing.Inv.place (h : r.Inv c) (hc : c.Supported) (hmsg : msg.length = c.txSize)
    (hroom : r.placed.length < r.consumed.length + c.tx.ringSize / c.txSize) :
    (r.place c.tx msg).Inv c := by
  obtain ⟨w, hw₁, hw₂, hw₃⟩ := h.written
  refine ⟨?_, ⟨w, hw₁, ?_, hw₃⟩, h.devHead, ?_, ?_⟩
  · simp only [RequestRing.place, h.tail, hc.modulo_txSlot, List.length_append,
      List.length_singleton]
  · simp only [RequestRing.place, List.length_append]
    omega
  · exact h.consumed.trans (List.prefix_append _ _)
  · simp only [RequestRing.place, h.tail]
    exact h.holds.push hc.tx_dvd hmsg hroom

theorem RequestRing.Inv.updateTail (h : r.Inv c) : (icpAdfUpdateQueueTail r).Inv c :=
  ⟨h.tail, ⟨_, h.consumed.length_le, Nat.le_refl _, h.tail⟩, h.devHead, h.consumed, h.holds⟩

/-- What the device reads is the oldest request it has not read. -/
theorem RequestRing.Inv.consume (h : r.Inv c) (hne : r.devHead ≠ r.csrTail) :
    (r.consume c.tx).Inv c := by
  obtain ⟨w, hw₁, hw₂, hw₃⟩ := h.written
  have hw : w ≠ r.consumed.length := fun hw => hne (by rw [h.devHead, hw₃, hw])
  have hlt : r.consumed.length < r.placed.length := by omega
  have hread : readBlock r.memory r.devHead c.tx.messageSize = r.placed[r.consumed.length] := by
    rw [h.devHead]
    exact h.holds _ hlt (Nat.le_refl _)
  refine ⟨h.tail, ⟨w, ?_, hw₂, hw₃⟩, ?_, ?_, h.holds.mono ?_⟩
  · simp only [RequestRing.consume, List.length_append, List.length_singleton]
    omega
  · simp only [RequestRing.consume, List.length_append, List.length_singleton, h.devHead]
    exact slotOffset_succ _ _ _
  · simp only [RequestRing.consume, hread]
    exact prefix_snoc h.consumed hlt
  · simp [RequestRing.consume]

end Requests

/-! ## The response ring -/

section Responses

variable {c : PairConfig} {r : ResponseRing}

theorem ResponseRing.Inv.respond (h : r.Inv c) (hc : c.Supported) {resp : Msg}
    (hresp : resp.length = c.rxSize) (hword : resp.take 4 ≠ emptyRingSigWord)
    (hroom : r.answered.length < r.handed.length + c.rx.ringSize / c.rxSize) :
    (r.respond c.rx resp).Inv c := by
  have hle := h.handed.length_le
  refine ⟨h.head, ?_, h.handed.trans (List.prefix_append _ _), ?_, ?_, ?_⟩
  · simp only [ResponseRing.respond, List.length_append, List.length_singleton, h.devTail]
    exact slotOffset_succ _ _ _
  · simp only [ResponseRing.respond, h.devTail]
    exact h.holds.push hc.rx_dvd hresp hroom
  · simp only [ResponseRing.respond, h.devTail, List.length_append, List.length_singleton]
    exact h.marked.push hc.rx_dvd hc.rx_word hresp (by omega)
  · intro m hm
    rcases List.mem_append.mp hm with hold | hnew
    · exact h.valid m hold
    · rw [List.mem_singleton.mp hnew]
      exact ⟨hresp, hword⟩

/-- **The signature tells the poller what is there**: the word at the head is empty exactly when all
    responses have been handed over. -/
theorem ResponseRing.Inv.head_empty_iff (h : r.Inv c) (hc : c.Supported)
    (hroom : r.answered.length < r.handed.length + c.rx.ringSize / c.rxSize) :
    readBlock r.memory r.head 4 = emptyRingSigWord ↔ r.handed.length = r.answered.length := by
  have hle := h.handed.length_le
  rw [h.head]
  constructor
  · intro hempty
    refine Nat.le_antisymm hle (Nat.le_of_not_lt fun hlt => ?_)
    have hread := h.holds _ hlt (Nat.le_refl _)
    have hvalid := (h.valid _ (List.getElem_mem hlt)).2
    rw [← hread, take_readBlock hc.rx_word] at hvalid
    exact hvalid hempty
  · intro heq
    rw [heq]
    exact h.marked _ (Nat.le_refl _) (heq ▸ hroom)

theorem ResponseRing.Inv.pollMessage (h : r.Inv c) (hc : c.Supported)
    (hlt : r.handed.length < r.answered.length)
    (hroom : r.answered.length < r.handed.length + c.rx.ringSize / c.rxSize) :
    (pollMessage c.rx r).Inv c := by
  have hread : readBlock r.memory r.head c.rx.messageSize = r.answered[r.handed.length] := by
    rw [h.head]
    exact h.holds _ hlt (Nat.le_refl _)
  refine ⟨?_, h.devTail, ?_, ?_, ?_, h.valid⟩
  · simp only [Transport.pollMessage, List.length_append, List.length_singleton, h.head]
    exact hc.modulo_rxSlot _
  · simp only [Transport.pollMessage, hread]
    exact prefix_snoc h.handed hlt
  · simp only [Transport.pollMessage, List.length_append, List.length_singleton, h.head]
    exact h.holds.mark hc.rx_dvd hc.rx_word (Nat.le_of_lt hroom)
  · simp only [Transport.pollMessage, List.length_append, List.length_singleton, h.head]
    exact h.marked.mark hc.rx_dvd hc.rx_word hlt

/-- The head write leaves the ring itself alone. -/
theorem coalesceHeadWrite_eq (rx : RingConfig) (irq : Bool) (p : Poll) :
    ∃ count csr, coalesceHeadWrite rx irq r p =
      { r with coalWriteCount := count, csrHead := csr } := by
  unfold coalesceHeadWrite
  split
  · exact ⟨_, _, rfl⟩
  · exact ⟨_, _, rfl⟩

end Responses

/-! ## Steps -/

section Steps

variable {c : PairConfig} {s : RingPair}

section

variable (h : s.Inv c)
include h

theorem RingPair.Inv.place (hc : c.Supported) (hmsg : msg.length = c.txSize)
    (hmax : s.inFlight + 1 ≤ c.tx.maxRequestsInflight) :
    RingPair.Inv c { s with inFlight := s.inFlight + 1, req := s.req.place c.tx msg } := by
  have hexact := h.exact
  have hmax' := hc.maxRequestsInflight_eq
  have hpos := hc.numMsgs_pos
  refine ⟨h.req.place hc hmsg (h.tx_room hc), h.resp, ?_, ?_, h.answered_le⟩
  · simp only [RequestRing.place, msgCounter, List.length_append, List.length_singleton] at hexact ⊢
    omega
  · dsimp only
    omega

/-- A step of the request ring that places and reads nothing. -/
theorem RingPair.Inv.frame_req {req : RequestRing} (hreq : req.Inv c)
    (hplaced : req.placed = s.req.placed) (hconsumed : req.consumed = s.req.consumed) :
    RingPair.Inv c { s with req := req } :=
  ⟨hreq, h.resp, hplaced ▸ h.exact, h.lt, hconsumed ▸ h.answered_le⟩

namespace RingPair.Inv

variable (hc : c.Supported)
include hc

/-- `adf_user_put_msg`, on a ring it can copy to. -/
theorem putMsg (hmsg : msg.length = c.txSize)
    (hsize : c.txSize = 64 ∨ c.txSize = 128) : (adfUserPutMsg c.tx s msg).2.Inv c := by
  have hlt := h.lt
  have hle := hc.numMsgs_le
  have hflight : (s.inFlight + 1) % 2 ^ 32 = s.inFlight + 1 := Nat.mod_eq_of_lt (by omega)
  have hback : (s.inFlight + 1 + 2 ^ 32 - 1) % 2 ^ 32 = s.inFlight := by omega
  have hsize' : c.tx.messageSize = 64 ∨ c.tx.messageSize = 128 := hsize
  unfold adfUserPutMsg
  simp only [hflight, hback, if_pos hsize']
  split
  · exact h
  · next hmax =>
    have hput := h.place hc hmsg (by omega)
    have hreq := hput.req.updateTail
    exact hput.frame_req ⟨hreq.tail, hreq.written, hreq.devHead, hreq.consumed, hreq.holds⟩ rfl rfl

theorem putSingle (hmsg : msg.length = c.txSize) :
    ((icpAdfGetSingleQueueAddr c.tx s msg).getD s).Inv c := by
  have hlt := h.lt
  have hle := hc.numMsgs_le
  have hflight : (s.inFlight + 1) % 2 ^ 32 = s.inFlight + 1 := Nat.mod_eq_of_lt (by omega)
  unfold icpAdfGetSingleQueueAddr
  simp only [hflight]
  split
  · exact h
  · next hmax => exact h.place hc hmsg (by omega)

theorem batchStart {n : Nat} (hbatch : s.batch = 0) (hn : s.inFlight + n < 2 ^ 32) :
    (((icpAdfGetQueueMemory c.tx s n).map fun s => { s with batch := n }).getD s).Inv c := by
  have hmax := hc.maxRequestsInflight_eq
  have hpos := hc.numMsgs_pos
  unfold icpAdfGetQueueMemory
  simp only [Nat.mod_eq_of_lt hn]
  split
  · exact h
  · next hle =>
    have hexact := h.exact
    simp only [Option.map_some, Option.getD_some]
    refine ⟨h.req, h.resp, ?_, ?_, h.answered_le⟩
    · simp only [msgCounter] at hexact ⊢
      omega
    · dsimp only
      omega

theorem batchNext (hmsg : msg.length = c.txSize) (hbatch : 0 < s.batch) :
    RingPair.Inv c { s with req := s.req.place c.tx msg, batch := s.batch - 1 } := by
  have hexact := h.exact
  refine ⟨h.req.place hc hmsg (h.tx_room hc), h.resp, ?_, h.lt, h.answered_le⟩
  simp only [RequestRing.place, msgCounter, List.length_append, List.length_singleton] at hexact ⊢
  omega

theorem pollMsg (hp : s.poll = some p) (hcond : pollCondition s.resp p = true) :
    RingPair.Inv c { s with
      resp := pollMessage c.rx s.resp
      poll := some { p with msgCounter := p.msgCounter + 1 } } := by
  have hroom := h.rx_room hc
  have hword : readBlock s.resp.memory s.resp.head 4 ≠ emptyRingSigWord := by
    simp only [pollCondition, Bool.and_eq_true, bne_iff_ne] at hcond
    exact hcond.1
  have hlt : s.resp.handed.length < s.resp.answered.length :=
    Nat.lt_of_le_of_ne h.resp.handed.length_le fun heq =>
      hword ((h.resp.head_empty_iff hc hroom).mpr heq)
  refine ⟨h.req, h.resp.pollMessage hc hlt hroom, ?_, h.lt, h.answered_le⟩
  have hexact := h.exact
  simp only [pollMessage, msgCounter, hp, Option.map_some, Option.getD_some,
    List.length_append, List.length_singleton] at hexact ⊢
  omega

theorem pollEnd (hp : s.poll = some p) : (pollFinish c.rx c.irq s p).Inv c := by
  have hcounter := h.msgCounter_le
  have hexact := h.exact
  have hlt := h.lt
  have hle := hc.numMsgs_le
  simp only [msgCounter, hp, Option.map_some, Option.getD_some] at hexact hcounter
  have hsub : (s.inFlight + 2 ^ 32 - p.msgCounter) % 2 ^ 32 = s.inFlight - p.msgCounter := by omega
  unfold pollFinish
  split
  · obtain ⟨count, csr, heq⟩ := coalesceHeadWrite_eq (r := s.resp) c.rx c.irq p
    obtain ⟨hhead, hdevTail, hhanded, hholds, hmarked, hvalid⟩ := h.resp
    rw [heq, hsub]
    refine ⟨h.req, ⟨hhead, hdevTail, hhanded, hholds, hmarked, hvalid⟩, ?_, ?_, h.answered_le⟩
    · simp only [msgCounter, Option.map_none, Option.getD_none]
      omega
    · dsimp only
      omega
  · refine ⟨h.req, h.resp, ?_, hlt, h.answered_le⟩
    simp only [msgCounter, Option.map_none, Option.getD_none]
    omega

end RingPair.Inv

end

/-- **Every counted step keeps the invariant.** -/
theorem RingPair.Inv.step (hc : c.Supported) {s' : RingPair} {e : Event} (h : s.Inv c)
    (hok : e.Counted c s) (hstep : s.step c e = some s') : s'.Inv c := by
  cases e with
  | put msg =>
    obtain ⟨⟨hmsg, -⟩, ⟨⟩⟩ := Option.ite_none_right_eq_some.mp hstep
    exact h.putMsg hc hmsg hok
  | putSingle msg =>
    obtain ⟨⟨hmsg, -⟩, ⟨⟩⟩ := Option.ite_none_right_eq_some.mp hstep
    exact h.putSingle hc hmsg
  | batchStart n =>
    obtain ⟨hbatch, ⟨⟩⟩ := Option.ite_none_right_eq_some.mp hstep
    exact h.batchStart hc hbatch hok
  | batchNext msg =>
    obtain ⟨⟨hmsg, hbatch⟩, ⟨⟩⟩ := Option.ite_none_right_eq_some.mp hstep
    exact h.batchNext hc hmsg hbatch
  | updateTail =>
    cases hstep
    exact h.frame_req h.req.updateTail rfl rfl
  | consume =>
    obtain ⟨hne, ⟨⟩⟩ := Option.ite_none_right_eq_some.mp hstep
    refine ⟨h.req.consume hne, h.resp, h.exact, h.lt, h.answered_le.trans ?_⟩
    simp [RequestRing.consume]
  | respond resp =>
    obtain ⟨⟨hresp, hword, hlt⟩, ⟨⟩⟩ := Option.ite_none_right_eq_some.mp hstep
    refine ⟨h.req, h.resp.respond hc hresp hword (h.rx_room hc), h.exact, h.lt, ?_⟩
    simpa [ResponseRing.respond] using Nat.succ_le_of_lt hlt
  | pollStart poller =>
    obtain ⟨hp, ⟨⟩⟩ := Option.ite_none_right_eq_some.mp hstep
    have hexact := h.exact
    rw [RingPair.msgCounter, hp] at hexact
    exact ⟨h.req, h.resp, hexact, h.lt, h.answered_le⟩
  | pollMsg =>
    simp only [RingPair.step] at hstep
    split at hstep
    · next p hp =>
      obtain ⟨hcond, ⟨⟩⟩ := Option.ite_none_right_eq_some.mp hstep
      exact h.pollMsg hc hp hcond
    · exact absurd hstep (by simp)
  | pollEnd =>
    simp only [RingPair.step] at hstep
    split at hstep
    · next p hp =>
      obtain ⟨-, ⟨⟩⟩ := Option.ite_none_left_eq_some.mp hstep
      exact h.pollEnd hc hp
    · exact absurd hstep (by simp)

end Steps

/-! ## Every run -/

/-- What the counter guarantees in a state of the pair. -/
structure RingPair.Guarded (c : PairConfig) (s : RingPair) : Prop where
  /-- The counter is the number of requests placed, or reserved by a batch in progress, that were
      not handed to the callback; a poll takes its messages off the counter when it ends. -/
  inFlight_eq : s.inFlight + s.resp.handed.length = s.req.placed.length + s.batch + s.msgCounter
  inFlight_le : s.inFlight ≤ c.numMsgs - 1
  /-- What a poll takes off the counter is on it. -/
  no_wrap : s.msgCounter ≤ s.inFlight
  /-- The slot a put writes is no slot of a request the device has not read. -/
  put_free : ∀ i, s.req.consumed.length ≤ i → i < s.req.placed.length →
    BlocksDisjoint s.req.tail c.txSize (c.txSlot i) c.txSize
  /-- The slot the device writes is no slot of a response that was not polled. -/
  respond_free : ∀ i, s.resp.handed.length ≤ i → i < s.resp.answered.length →
    BlocksDisjoint s.resp.devTail c.rxSize (c.rxSlot i) c.rxSize
  /-- The device reads the requests as they were put, in order. -/
  consumed_prefix : s.req.consumed <+: s.req.placed
  /-- The callback gets the responses as they were written, in order, each once. -/
  handed_prefix : s.resp.handed <+: s.resp.answered
  /-- A poll stops on the signature only when there is no response left. -/
  drained : readBlock s.resp.memory s.resp.head 4 = emptyRingSigWord ↔
    s.resp.handed = s.resp.answered

theorem RingPair.Inv.guarded {c : PairConfig} {s : RingPair} (h : s.Inv c) (hc : c.Supported) :
    s.Guarded c where
  inFlight_eq := h.exact
  inFlight_le := Nat.le_sub_one_of_lt h.lt
  no_wrap := h.msgCounter_le
  put_free i hi₁ hi₂ := by
    have hroom := h.tx_room hc
    rw [h.req.tail]
    exact (slots_disjoint hc.tx_dvd hi₂ (by omega)).symm
  respond_free i hi₁ hi₂ := by
    have hroom := h.rx_room hc
    rw [h.resp.devTail]
    exact (slots_disjoint hc.rx_dvd hi₂ (by omega)).symm
  consumed_prefix := h.req.consumed
  handed_prefix := h.resp.handed
  drained := by
    rw [h.resp.head_empty_iff hc (h.rx_room hc)]
    exact ⟨h.resp.handed.eq_of_length, congrArg List.length⟩

/-- **In every run of counted steps the counter is exact and guards both rings.** -/
theorem inFlight_guards (c : PairConfig) (hc : c.Supported) {s : RingPair}
    (h : (ringPair c).ReachableBy (fun s e => e.Counted c s) s) : s.Guarded c := by
  refine RingPair.Inv.guarded (c := c) ?_ hc
  refine h.invariant (RingPair.Inv c) ?_ ?_
  · rintro s rfl
    exact inv_create hc
  · intro s e s' hinv hok hstep
    exact hinv.step hc hok hstep

/-- One request put, read, answered and polled while another one is on its way. -/
theorem inFlight_guards_round_trip :
    ∃ s, (ringPair ⟨64, 16, 16, false⟩).ReachableBy (fun s e => e.Counted ⟨64, 16, 16, false⟩ s) s ∧
      s.req.placed = [List.replicate 16 1, List.replicate 16 2] ∧
      s.resp.handed = [List.replicate 16 1] ∧ s.inFlight = 1 ∧
      s.Guarded ⟨64, 16, 16, false⟩ := by
  have hc : PairConfig.Supported ⟨64, 16, 16, false⟩ :=
    ⟨by decide, ⟨⟨4, rfl⟩, by decide, by decide⟩, ⟨⟨4, rfl⟩, by decide, by decide⟩, by decide⟩
  have hrun : (ringPair ⟨64, 16, 16, false⟩).Run (fun s e => e.Counted ⟨64, 16, 16, false⟩ s)
      create _ :=
    .head (e := .putSingle (List.replicate 16 1)) trivial rfl (.head (e := .updateTail) trivial rfl
      (.head (e := .putSingle (List.replicate 16 2)) trivial rfl
      (.head (e := .consume) trivial rfl
      (.head (e := .respond (List.replicate 16 1)) trivial rfl
      (.head (e := .pollStart (.pollQueue 0)) trivial rfl
      (.head (e := .pollMsg) trivial rfl
      (.head (e := .pollEnd) trivial rfl (.refl _))))))))
  exact ⟨_, ⟨_, rfl, hrun⟩, rfl, rfl, rfl, inFlight_guards _ hc ⟨_, rfl, hrun⟩⟩

/-- A put that cannot copy its message leaves it counted. -/
theorem put_leaves_count :
    ∃ s, (ringPair ⟨64, 32, 32, false⟩).Reachable s ∧ s.inFlight = 1 ∧ s.req.placed = [] ∧
      s.batch = 0 ∧ s.poll = none ∧ ¬s.Guarded ⟨64, 32, 32, false⟩ := by
  refine ⟨_, System.reachable_of_exec create [.put (List.replicate 32 0)] rfl rfl, rfl,
    rfl, rfl, rfl, fun h => ?_⟩
  exact absurd h.inFlight_eq (by decide)

end Qatlib.Transport
