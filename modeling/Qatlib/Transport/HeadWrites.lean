import Qatlib.Transport.InFlight

set_option autoImplicit false

/-! # Coalesced head writes

The pollers write the head register only now and then: `coal_write_count` is what is left of an
allowance of `min_resps_per_head_write` responses, and a poll that handed over more than that writes
the register and renews the allowance. Here the writes are recorded as a history variable of the ring
pair, and the allowance is accounted for along every run. A poll that is still in its loop has not
been accounted for: its messages are counted apart. -/

namespace Qatlib.Transport

/-- A write of the head register: its value, the shadow head and the number of responses processed at
    that moment. -/
structure HeadWrite where
  csr : Nat
  head : Nat
  processed : Nat

/-- The poll writes the head register when its loop is over. -/
def Poll.WritesHead (irq : Bool) (r : ResponseRing) (p : Poll) : Prop :=
  0 < p.msgCounter ∧ (p.msgCounter > r.coalWriteCount ∨ (irq && p.poller.writesHeadOnIrq) = true)

instance (irq : Bool) (r : ResponseRing) (p : Poll) : Decidable (p.WritesHead irq r) :=
  inferInstanceAs (Decidable (_ ∧ _))

def Event.isPollEnd : Event → Bool
  | .pollEnd => true
  | _ => false

section

variable (c : PairConfig) (writes : List HeadWrite)

/-- Record a head write. -/
def noteHeadWrite (s : RingPair) (e : Event) (t : RingPair) (writes : List HeadWrite) :
    List HeadWrite :=
  if e.isPollEnd && s.poll.any fun p => decide (p.WritesHead c.irq s.resp) then
    writes ++ [⟨t.resp.csrHead, t.resp.head, t.resp.handed.length⟩]
  else writes

/-- The ring pair with the record of its head writes. -/
def headWrites : System (RingPair × List HeadWrite) Event :=
  (ringPair c).observe [] (noteHeadWrite c)

/-- The number of responses processed when the head register was last written. -/
def processedAtWrite : Nat :=
  (writes.getLast?.map HeadWrite.processed).getD 0

/-- The value last written to the head register. -/
def csrAtWrite : Nat := (writes.getLast?.map HeadWrite.csr).getD 0

/-- What the pollers have left of their allowance; there is none before the first head write. -/
def allowance : Nat :=
  if writes = [] then 0 else c.rx.minRespsPerHeadWrite

/-- **The account of the head writes.** Responses processed since the last head write, apart from
    those of a poll still in its loop, and what `coal_write_count` has left make up the allowance. -/
structure HeadAccount (s : RingPair) (writes : List HeadWrite) : Prop where
  spent : processedAtWrite writes + s.msgCounter ≤ s.resp.handed.length
  credit : s.resp.coalWriteCount + s.resp.handed.length =
    allowance c writes + processedAtWrite writes + s.msgCounter
  register : s.resp.csrHead = csrAtWrite writes
  written : ∀ w ∈ writes, w.csr = w.head

end

/-! ## What puts leave alone -/

/-- A step that touches neither the response ring nor the poll. -/
def RingPair.Puts (s t : RingPair) : Prop :=
  ∃ flight req batch, t = { s with inFlight := flight, req := req, batch := batch }

section

variable (tx : RingConfig) (s : RingPair)

theorem adfUserPutMsg_puts (msg : Msg) : s.Puts (adfUserPutMsg tx s msg).2 := by
  unfold adfUserPutMsg
  dsimp only
  split
  · exact ⟨_, s.req, s.batch, rfl⟩
  · split <;> exact ⟨_, _, s.batch, rfl⟩

theorem icpAdfGetSingleQueueAddr_puts (msg : Msg) :
    s.Puts ((icpAdfGetSingleQueueAddr tx s msg).getD s) := by
  unfold icpAdfGetSingleQueueAddr
  dsimp only
  split
  · exact ⟨s.inFlight, s.req, s.batch, rfl⟩
  · exact ⟨_, _, s.batch, rfl⟩

theorem icpAdfGetQueueMemory_puts (n : Nat) :
    s.Puts (((icpAdfGetQueueMemory tx s n).map fun s => { s with batch := n }).getD s) := by
  unfold icpAdfGetQueueMemory
  dsimp only
  split
  · exact ⟨s.inFlight, s.req, s.batch, rfl⟩
  · exact ⟨_, s.req, _, rfl⟩

end

/-! ## The account along a run -/

section Account

variable {c : PairConfig} {s t : RingPair} {writes : List HeadWrite}

theorem noteHeadWrite_of_ne {e : Event} (he : e.isPollEnd = false) :
    noteHeadWrite c s e t writes = writes := by
  rw [noteHeadWrite, he]
  rfl

theorem processedAtWrite_snoc (w : HeadWrite) : processedAtWrite (writes ++ [w]) = w.processed := by
  rw [processedAtWrite, List.getLast?_concat]
  rfl

theorem csrAtWrite_snoc (w : HeadWrite) : csrAtWrite (writes ++ [w]) = w.csr := by
  rw [csrAtWrite, List.getLast?_concat]
  rfl

theorem allowance_le : allowance c writes ≤ c.rx.minRespsPerHeadWrite := by
  rw [allowance]
  split
  · exact Nat.zero_le _
  · exact Nat.le_refl _

namespace HeadAccount

variable (h : HeadAccount c s writes)
include h

section

variable {e : Event} (he : e.isPollEnd = false)
include he

theorem frame (hpoll : t.msgCounter = s.msgCounter) (hhanded : t.resp.handed = s.resp.handed)
    (hcoal : t.resp.coalWriteCount = s.resp.coalWriteCount)
    (hcsr : t.resp.csrHead = s.resp.csrHead) : HeadAccount c t (noteHeadWrite c s e t writes) := by
  rw [noteHeadWrite_of_ne he]
  obtain ⟨hspent, hcredit, hregister, hwritten⟩ := h
  refine ⟨?_, ?_, ?_, hwritten⟩
  · rw [hpoll, hhanded]
    exact hspent
  · rw [hpoll, hhanded, hcoal]
    exact hcredit
  · rw [hcsr]
    exact hregister

theorem puts (hputs : s.Puts t) : HeadAccount c t (noteHeadWrite c s e t writes) := by
  obtain ⟨flight, req, batch, rfl⟩ := hputs
  exact h.frame he rfl rfl rfl rfl

end

/-- A message of the poll loop is on the account of the poll. -/
theorem pollMsg {p : Poll} (hp : s.poll = some p) :
    HeadAccount c { s with
      resp := pollMessage c.rx s.resp
      poll := some { p with msgCounter := p.msgCounter + 1 } } writes := by
  obtain ⟨hspent, hcredit, hregister, hwritten⟩ := h
  simp only [RingPair.msgCounter, hp, Option.map_some, Option.getD_some] at hspent hcredit
  refine ⟨?_, ?_, hregister, hwritten⟩
  all_goals
    simp only [RingPair.msgCounter, pollMessage, Option.map_some, Option.getD_some,
      List.length_append, List.length_singleton]
    omega

/-- The end of a poll that writes the register renews the allowance. -/
theorem pollEnd_write {p : Poll} (hw : p.WritesHead c.irq s.resp) :
    HeadAccount c (pollFinish c.rx c.irq s p)
      (writes ++ [⟨(pollFinish c.rx c.irq s p).resp.csrHead, (pollFinish c.rx c.irq s p).resp.head,
        (pollFinish c.rx c.irq s p).resp.handed.length⟩]) := by
  have hresp : (pollFinish c.rx c.irq s p).resp =
      { s.resp with coalWriteCount := c.rx.minRespsPerHeadWrite, csrHead := s.resp.head } := by
    rw [pollFinish, if_pos hw.1]
    exact if_pos hw.2
  have hpoll : (pollFinish c.rx c.irq s p).msgCounter = 0 := by
    rw [pollFinish, if_pos hw.1]
    rfl
  refine ⟨?_, ?_, ?_, ?_⟩
  · rw [processedAtWrite_snoc, hpoll]
    exact Nat.le_refl _
  · rw [processedAtWrite_snoc, hpoll, hresp, allowance, if_neg (by simp)]
    rfl
  · rw [csrAtWrite_snoc]
  · intro w hmem
    rcases List.mem_append.mp hmem with hold | hnew
    · exact h.written w hold
    · rw [List.mem_singleton.mp hnew, hresp]

/-- The end of another poll takes its messages off the allowance. -/
theorem pollEnd_coalesce {p : Poll} (hp : s.poll = some p)
    (hw : ¬p.WritesHead c.irq s.resp) : HeadAccount c (pollFinish c.rx c.irq s p) writes := by
  obtain ⟨hspent, hcredit, hregister, hwritten⟩ := h
  simp only [RingPair.msgCounter, hp, Option.map_some, Option.getD_some] at hspent hcredit
  by_cases hpos : p.msgCounter > 0
  · have hkeep : ¬(p.msgCounter > s.resp.coalWriteCount ∨
        (c.irq && p.poller.writesHeadOnIrq) = true) := fun h => hw ⟨hpos, h⟩
    have hle : p.msgCounter ≤ s.resp.coalWriteCount :=
      Nat.le_of_not_lt fun hlt => hkeep (.inl hlt)
    rw [pollFinish, if_pos hpos, coalesceHeadWrite, if_neg hkeep]
    refine ⟨?_, ?_, hregister, hwritten⟩
    · show _ + 0 ≤ s.resp.handed.length
      omega
    · show s.resp.coalWriteCount - p.msgCounter + s.resp.handed.length = _ + 0
      omega
  · rw [pollFinish, if_neg hpos]
    have hzero : p.msgCounter = 0 := Nat.eq_zero_of_not_pos hpos
    rw [hzero] at hspent hcredit
    exact ⟨hspent, hcredit, hregister, hwritten⟩

/-- **Every step keeps the account.** -/
theorem step {e : Event} (hstep : s.step c e = some t) :
    HeadAccount c t (noteHeadWrite c s e t writes) := by
  cases e with
  | put msg =>
    obtain ⟨-, ⟨⟩⟩ := Option.ite_none_right_eq_some.mp hstep
    exact h.puts rfl (adfUserPutMsg_puts c.tx s msg)
  | putSingle msg =>
    obtain ⟨-, ⟨⟩⟩ := Option.ite_none_right_eq_some.mp hstep
    exact h.puts rfl (icpAdfGetSingleQueueAddr_puts c.tx s msg)
  | batchStart n =>
    obtain ⟨-, ⟨⟩⟩ := Option.ite_none_right_eq_some.mp hstep
    exact h.puts rfl (icpAdfGetQueueMemory_puts c.tx s n)
  | batchNext msg =>
    obtain ⟨-, ⟨⟩⟩ := Option.ite_none_right_eq_some.mp hstep
    exact h.puts rfl ⟨_, _, _, rfl⟩
  | updateTail =>
    cases hstep
    exact h.puts rfl ⟨_, _, _, rfl⟩
  | consume =>
    obtain ⟨-, ⟨⟩⟩ := Option.ite_none_right_eq_some.mp hstep
    exact h.puts rfl ⟨_, _, _, rfl⟩
  | respond resp =>
    obtain ⟨-, ⟨⟩⟩ := Option.ite_none_right_eq_some.mp hstep
    exact h.frame rfl rfl rfl rfl rfl
  | pollStart poller =>
    obtain ⟨hnone, ⟨⟩⟩ := Option.ite_none_right_eq_some.mp hstep
    refine h.frame rfl ?_ rfl rfl rfl
    rw [RingPair.msgCounter, RingPair.msgCounter, hnone]
    rfl
  | pollMsg =>
    rw [noteHeadWrite_of_ne rfl]
    rcases hp : s.poll with _ | p <;> simp only [RingPair.step, hp] at hstep
    · cases hstep
    · obtain ⟨-, ⟨⟩⟩ := Option.ite_none_right_eq_some.mp hstep
      exact h.pollMsg hp
  | pollEnd =>
    rcases hp : s.poll with _ | p <;> simp only [RingPair.step, hp] at hstep
    · cases hstep
    · obtain ⟨-, ⟨⟩⟩ := Option.ite_none_left_eq_some.mp hstep
      rw [noteHeadWrite, hp]
      by_cases hw : p.WritesHead c.irq s.resp
      · rw [if_pos (by simpa [Event.isPollEnd] using hw)]
        exact h.pollEnd_write hw
      · rw [if_neg (by simpa [Event.isPollEnd] using hw)]
        exact h.pollEnd_coalesce hp hw

end HeadAccount

theorem headAccount_of_reachable (h : (headWrites c).Reachable (s, writes)) :
    HeadAccount c s writes := by
  have hinv := h.invariant (fun o => HeadAccount c o.1 o.2) ?_ ?_
  · exact hinv
  · rintro ⟨s, writes⟩ ⟨hs, hwrites⟩
    dsimp only at hs hwrites ⊢
    rw [hwrites, show s = RingPair.create from hs]
    exact ⟨Nat.le_refl _, rfl, rfl, by simp⟩
  · rintro ⟨s, writes⟩ e ⟨t, writes'⟩ hs - hstep
    obtain ⟨u, hu, heq⟩ := Option.map_eq_some_iff.mp hstep
    obtain ⟨rfl, rfl⟩ := Prod.mk.inj heq
    exact hs.step hu

end Account

/-- **The head register lags by at most the allowance.** In every state of every run, whatever the
    pollers, their quotas and the steps between: the credit is at most `min_resps_per_head_write`, which
    is at most half the slots, and a poll that does not write the register takes no more than there is;
    all responses processed since the last head write are at most `min_resps_per_head_write`, not
    counting those of a poll still in its loop; every head write wrote the shadow head, and the register
    holds the last one. -/
theorem headWrites_coalesced (c : PairConfig) {s : RingPair} {writes : List HeadWrite}
    (h : (headWrites c).Reachable (s, writes)) :
    s.resp.coalWriteCount ≤ c.rx.minRespsPerHeadWrite ∧
      c.rx.minRespsPerHeadWrite ≤ c.rx.ringSize / c.rx.messageSize / 2 ∧
      (∀ p ∈ s.poll, ¬p.WritesHead c.irq s.resp → p.msgCounter ≤ s.resp.coalWriteCount) ∧
      s.resp.handed.length - processedAtWrite writes ≤ c.rx.minRespsPerHeadWrite + s.msgCounter ∧
      (∀ w ∈ writes, w.csr = w.head) ∧ s.resp.csrHead = csrAtWrite writes := by
  obtain ⟨hspent, hcredit, hregister, hwritten⟩ := headAccount_of_reachable h
  have hallow : allowance c writes ≤ c.rx.minRespsPerHeadWrite := allowance_le
  refine ⟨by omega, ?_, ?_, by omega, hwritten, hregister⟩
  · exact (Nat.min_le_right _ _).trans (Nat.le_of_eq (Nat.shiftRight_eq_div_pow _ 1))
  · intro p _ hw
    by_contra hlt
    exact hw ⟨by omega, .inl (by omega)⟩

/-- A request is put, consumed by the device and answered. -/
def sampleAnswered : List Event :=
  [.putSingle (List.replicate 128 1), .updateTail, .consume, .respond (List.replicate 32 1)]

/-- The first poll writes the register and fills the allowance, the second takes one from it. -/
theorem headWrites_coalesced_second_poll :
    ∃ s writes, (headWrites ⟨64, 128, 32, false⟩).Reachable (s, writes) ∧ s.resp.csrHead = 32 ∧
      s.resp.head = 64 ∧ s.resp.coalWriteCount = 31 ∧
      s.resp.handed.length - processedAtWrite writes = 1 ∧
      s.resp.handed.length - processedAtWrite writes ≤ 32 + s.msgCounter ∧
      (∀ w ∈ writes, w.csr = w.head) ∧ s.resp.csrHead = csrAtWrite writes := by
  obtain ⟨⟨s, writes⟩, hreach, hcsr, hhead, hcoal, hone⟩ := System.exists_reachable
    (S := headWrites ⟨64, 128, 32, false⟩) (s := (RingPair.create, []))
    (P := fun o => o.1.resp.csrHead = 32 ∧ o.1.resp.head = 64 ∧ o.1.resp.coalWriteCount = 31 ∧
      o.1.resp.handed.length - processedAtWrite o.2 = 1)
    (sampleAnswered ++ [.pollStart (.pollQueue 0), .pollMsg, .pollEnd] ++ sampleAnswered ++
      [.pollStart (.notifyMsgsPoll 1), .pollMsg, .pollEnd]) ⟨rfl, rfl⟩ (by decide +kernel)
  obtain ⟨-, -, -, hlag, hwritten, hregister⟩ := headWrites_coalesced _ hreach
  exact ⟨s, writes, hreach, hcsr, hhead, hcoal, hone, hlag, hwritten, hregister⟩

/-- Inside of its loop a poll has handed over more than the allowance, and nothing was written. -/
theorem headWrites_exceed_in_loop :
    ∃ s writes, (headWrites ⟨64, 128, 32, false⟩).Reachable (s, writes) ∧
      RingConfig.minRespsPerHeadWrite (PairConfig.rx ⟨64, 128, 32, false⟩) = 32 ∧
      s.resp.handed.length - processedAtWrite writes = 50 := by
  obtain ⟨⟨s, writes⟩, hreach, hlag⟩ := System.exists_reachable
    (S := headWrites ⟨64, 128, 32, false⟩) (s := (RingPair.create, []))
    (P := fun o => o.1.resp.handed.length - processedAtWrite o.2 = 50)
    ((List.replicate 50 sampleAnswered).flatten ++
      .pollStart (.pollQueue 0) :: List.replicate 50 .pollMsg) ⟨rfl, rfl⟩ (by decide +kernel)
  exact ⟨s, writes, hreach, by decide, hlag⟩

end Qatlib.Transport
