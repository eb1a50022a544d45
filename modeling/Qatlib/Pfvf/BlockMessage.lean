import Mathlib.Data.Nat.Bitwise
import Qatlib.Pfvf.Protocol

set_option autoImplicit false

/-! # What a block message request returns

The VF does not check that a message answers the request it has made, not even its type, so a late
answer or a notification can stand in for any byte. The checksum is compared at the end, but the
answer to the request for it may be late as well. When every message that the VF reads is the PF's
answer to its last request, a call that returns success has the first bytes of the block message, as
many as the buffer and the message have. Whatever it reads, a call returns. -/

namespace Qatlib.Pfvf

/-! ## Registers and requests -/

variable {a m : PfvfMessage} {n byte type : Nat} {isCrc : Bool}

/-- The PF reads what the VF asks for. -/
theorem blkmsgDataReq_spec (h : blkmsgDataReq type byte isCrc = some m) :
    byte < 128 ∧ m.blkmsgReq = some (type, byte, isCrc) := by
  have hbit : ∀ x, x / 512 % 2 = isCrc.toNat → decide (x / 512 % 2 = 1) = isCrc := by
    intro x hx
    rw [hx]
    cases isCrc <;> rfl
  have hlt : isCrc.toNat < 2 := by cases isCrc <;> decide
  unfold blkmsgDataReq at h
  split at h
  on_goal 2 => split at h
  on_goal 3 => split at h
  on_goal 4 => exact absurd h (by simp)
  all_goals
    obtain ⟨hbyte, ⟨⟩⟩ := Option.ite_none_left_eq_some.mp h
    simp only [PfvfMessage.blkmsgReq, Option.some.injEq, Prod.mk.injEq]
    exact ⟨by omega, by omega, by omega, hbit _ (by omega)⟩

theorem blkmsgResp_spec {kind : Nat} (h : kind < 4) (data : UInt8) :
    (blkmsgResp kind data).blkResp = kind ∧ (blkmsgResp kind data).respData = data := by
  constructor
  · simp only [blkmsgResp, PfvfMessage.blkResp]
    omega
  · simp only [blkmsgResp, PfvfMessage.respData]
    rw [show (kind + data.toNat * 4) / 4 = data.toNat by omega, UInt8.ofNat_toNat]

/-- **The answer to a request** that is not an error is about a byte of the block message, and is
    that byte unless the checksum was asked for. -/
theorem pfAnswer_request {blocks : Nat → List UInt8}
    (hreq : blkmsgDataReq type byte isCrc = some m) (hans : pfAnswer blocks m = some a)
    (hok : a.blkResp ≠ 2) :
    ∃ b, (blocks type)[byte]? = some b ∧ (isCrc = false → a.respData = b) := by
  rw [pfAnswer, (blkmsgDataReq_spec hreq).2] at hans
  cases hans
  cases hb : (blocks type)[byte]? with
  | none =>
    simp only [hb] at hok
    exact absurd (blkmsgResp_spec (show 2 < 4 by decide) _).1 hok
  | some b =>
    refine ⟨b, rfl, fun hcrc => ?_⟩
    subst hcrc
    simp only [hb, if_neg Bool.false_ne_true]
    exact (blkmsgResp_spec (show 0 < 4 by decide) b).2

/-! ## What the VF knows -/

/-- The buffer has the first bytes of the block message. -/
structure Fetched (buffer block : List UInt8) (n : Nat) : Prop where
  le : n ≤ block.length
  eq : buffer.take n = block.take n

variable {block buffer : List UInt8}

theorem Fetched.set {b : UInt8} (h : Fetched buffer block n) (hb : block[n]? = some b)
    (hlt : n < buffer.length) : Fetched (buffer.set n b) block (n + 1) := by
  obtain ⟨hn, -⟩ := List.getElem?_eq_some_iff.mp hb
  refine ⟨hn, ?_⟩
  rw [List.take_add_one, List.take_add_one, hb, List.take_set_of_le (Nat.le_refl n), h.eq,
    List.getElem?_set_self hlt]

/-- The length of the message that a buffer gets: its own, or that in the header. -/
def MsgLen (block : List UInt8) (size n : Nat) : Prop :=
  ∃ version length rest, block = version :: length :: rest ∧ n = min size (length.toNat + 2)

/-- What the VF knows while it waits for a part of the message. -/
def Vf.Known (block : List UInt8) (size : Nat) (vf : Vf) : Prop :=
  vf.buffer.length = size ∧ vf.bufferLen = size ∧ 2 ≤ size ∧
    match vf.awaited with
    | .version => True
    | .length => Fetched vf.buffer block 1
    | .payload index n => MsgLen block size n ∧ Fetched vf.buffer block index ∧ index < n ∧
        index ≤ 128
    | .crc n => MsgLen block size n ∧ Fetched vf.buffer block n

/-- The call has the first bytes of the block message, as many as there are or fit. -/
structure Received (block : List UInt8) (size : Nat) (vf : Vf) : Prop where
  length : MsgLen block size vf.bufferLen
  bytes : Fetched vf.buffer block vf.bufferLen

/-- The invariant of the call. -/
def Vf.Ok (blocks : Nat → List UInt8) (type size : Nat) (vf : Vf) : Prop :=
  vf.type = type ∧
    match vf.io with
    | .done ret => ret = 0 → Received (blocks type) size vf
    | .clear _ val => vf.Known (blocks type) size ∧
        ∃ m, vf.request = some m ∧ pfAnswer blocks m = some (PfvfMessage.ofRaw val)
    | _ => vf.Known (blocks type) size

section Keep

variable {blocks : Nat → List UInt8} {type size : Nat} {vf : Vf}

theorem Vf.Ok.ask {awaited : Awaited} (htype : vf.type = type)
    (h : Vf.Known (blocks type) size { vf with awaited := awaited }) :
    (vf.ask awaited).Ok blocks type size := by
  unfold Vf.ask
  split
  · exact ⟨htype, fun hret => absurd hret (by decide)⟩
  · exact ⟨htype, h⟩

theorem Vf.Ok.fail (htype : vf.type = type) {ret : Int} (hio : vf.io = .done ret) (hret : ret ≠ 0) :
    vf.Ok blocks type size := by
  refine ⟨htype, ?_⟩
  rw [hio]
  exact fun hzero => absurd hzero hret

theorem Vf.Ok.askPayload {index : Nat} (htype : vf.type = type) (hlen : vf.buffer.length = size)
    (hbuf : vf.bufferLen = size) (hsize : 2 ≤ size) (hn : MsgLen (blocks type) size n)
    (hfetched : Fetched vf.buffer (blocks type) index) (hle : index ≤ n) (hmax : index ≤ 128) :
    (vf.askPayload index n).Ok blocks type size := by
  unfold Vf.askPayload
  split
  · next hlt => exact Vf.Ok.ask htype ⟨hlen, hbuf, hsize, hn, hfetched, hlt, hmax⟩
  · next hge =>
    obtain rfl : index = n := by omega
    exact Vf.Ok.ask htype ⟨hlen, hbuf, hsize, hn, hfetched⟩

/-- **An answer to the request keeps the invariant.** -/
theorem Vf.Ok.accept (htype : vf.type = type) (h : vf.Known (blocks type) size)
    (hreq : vf.request = some m) (hans : pfAnswer blocks m = some a) (hok : a.blkResp ≠ 2) :
    (vf.accept a.respData).Ok blocks type size := by
  obtain ⟨hlen, hbuf, hsize, hknown⟩ := h
  rw [Vf.request, htype] at hreq
  obtain ⟨b, hb, hdata⟩ := pfAnswer_request hreq hans hok
  rw [Vf.accept]
  cases haw : vf.awaited with
  | version =>
    rw [haw] at hb hdata
    have hfetched : Fetched (vf.buffer.set 0 b) (blocks type) 1 :=
      Fetched.set ⟨Nat.zero_le _, rfl⟩ hb (by omega)
    simp only [hdata rfl]
    split
    · exact Vf.Ok.fail htype rfl (by decide)
    · exact Vf.Ok.ask htype ⟨by rw [List.length_set]; exact hlen, hbuf, hsize, hfetched⟩
  | length =>
    rw [haw] at hb hdata hknown
    have hfetched : Fetched (vf.buffer.set 1 b) (blocks type) 2 := hknown.set hb (by omega)
    have hmin : (if vf.bufferLen < 2 + b.toNat then vf.bufferLen else 2 + b.toNat) =
        min size (b.toNat + 2) := by
      rw [hbuf]
      split <;> omega
    have hmsg : MsgLen (blocks type) size (min size (b.toNat + 2)) := by
      obtain ⟨version, length, rest, heq⟩ : ∃ version length rest,
          blocks type = version :: length :: rest := by
        match hblock : blocks type with
        | [] => exact absurd hb (by simp [hblock])
        | [_] => exact absurd hb (by simp [hblock, Awaited.byte])
        | version :: length :: rest => exact ⟨version, length, rest, rfl⟩
      refine ⟨version, length, rest, heq, ?_⟩
      rw [heq] at hb
      rw [Option.some.inj hb]
    simp only [hdata rfl, hmin]
    split
    · exact Vf.Ok.fail htype rfl (by decide)
    · exact Vf.Ok.askPayload htype (by rw [List.length_set]; exact hlen) hbuf hsize hmsg hfetched
        (by omega) (by decide)
  | payload index n =>
    have hbyte := (blkmsgDataReq_spec hreq).1
    rw [haw] at hb hdata hknown hbyte
    obtain ⟨hmsg, hfetched, hlt, hmax⟩ := hknown
    -- the byte number is the index, since the bytes before it could be asked for
    have hindex : index < 128 := by
      rw [Awaited.byte] at hbyte
      omega
    have hbound : index < vf.buffer.length := by
      obtain ⟨_, _, _, _, hn⟩ := hmsg
      omega
    rw [Awaited.byte, Nat.mod_eq_of_lt (by omega)] at hb
    simp only [hdata rfl]
    exact Vf.Ok.askPayload htype (by rw [List.length_set]; exact hlen) hbuf hsize hmsg
      (hfetched.set hb hbound) hlt hindex
  | crc n =>
    rw [haw] at hknown
    simp only
    split
    · exact ⟨htype, fun _ => ⟨hknown.1, hknown.2⟩⟩
    · exact Vf.Ok.fail htype rfl (by decide)

theorem Vf.Ok.retry (htype : vf.type = type) (h : vf.Known (blocks type) size) (retries : Nat) :
    (vf.retry retries).Ok blocks type size := by
  unfold Vf.retry
  split
  · exact ⟨htype, h⟩
  · exact Vf.Ok.fail htype rfl (by decide)

theorem Vf.Ok.start (blocks : Nat → List UInt8) (type : Nat) (buffer : List UInt8) :
    (Vf.start type buffer).Ok blocks type buffer.length := by
  unfold Vf.start
  dsimp only
  split
  · exact ⟨rfl, fun hret => absurd hret (by decide)⟩
  · split
    · exact ⟨rfl, fun hret => absurd hret (by decide)⟩
    · next hsize => exact Vf.Ok.ask rfl ⟨rfl, rfl, by omega, trivial⟩

end Keep

/-! ## Runs -/

/-- The VF is about to read a message. -/
def Channel.reads (s : Channel) : Bool :=
  match s.vf.io with
  | .recv _ => interrupt s.remoteCsr
  | _ => false

/-- If the VF reads a message, it is the PF's answer to its last request. -/
def PfvfEvent.Answered (blocks : Nat → List UInt8) (s : Channel) : PfvfEvent → Prop
  | .vf => s.reads = true →
      s.vf.request.bind (pfAnswer blocks) = some (PfvfMessage.ofRaw s.remoteCsr)
  | _ => True

instance (blocks : Nat → List UInt8) (s : Channel) : (e : PfvfEvent) → Decidable (e.Answered blocks s)
  | .vf => inferInstanceAs (Decidable (_ → _))
  | .take | .answer _ | .notify _ => inferInstanceAs (Decidable True)

section Runs

variable {blocks : Nat → List UInt8} {type size : Nat} {s s' : Channel}

theorem Vf.Ok.vfStep (h : s.vf.Ok blocks type size) (hans : PfvfEvent.Answered blocks s .vf)
    (hstep : s.vfStep = some s') : s'.vf.Ok blocks type size := by
  obtain ⟨htype, hio⟩ := h
  unfold Channel.vfStep at hstep
  cases hcase : s.vf.io with
  | send retries =>
    rw [hcase] at hio
    simp only [hcase] at hstep
    split at hstep
    · exact absurd hstep (by simp)
    · split at hstep
      · cases hstep
        exact ⟨htype, hio⟩
      · cases hstep
        exact Vf.Ok.fail htype rfl (by decide)
  | poll retries count =>
    rw [hcase] at hio
    simp only [hcase] at hstep
    cases hstep
    split
    · split
      · exact ⟨htype, hio⟩
      · exact Vf.Ok.fail htype rfl (by decide)
    · exact ⟨htype, hio⟩
  | recv retries =>
    rw [hcase] at hio
    simp only [hcase] at hstep
    split at hstep
    · next hint =>
      cases hstep
      have hreads : s.reads = true := by
        rw [Channel.reads, hcase]
        exact hint
      obtain ⟨m, hreq, hanswer⟩ := Option.bind_eq_some_iff.mp (hans hreads)
      exact ⟨htype, hio, m, hreq, hanswer⟩
    · cases hstep
      exact Vf.Ok.retry htype hio retries
  | clear retries val =>
    rw [hcase] at hio
    obtain ⟨hknown, m, hreq, hanswer⟩ := hio
    simp only [hcase] at hstep
    cases hstep
    dsimp only
    split
    · unfold Vf.handle
      split
      · exact Vf.Ok.fail htype rfl (by decide)
      · next hok => exact Vf.Ok.accept htype hknown hreq hanswer hok
    · exact Vf.Ok.retry htype hknown retries
  | done ret =>
    simp only [hcase] at hstep
    exact absurd hstep (by simp)

/-- The PF leaves the VF alone. -/
theorem Channel.step_vf {e : PfvfEvent} (he : e ≠ .vf) (hstep : s.step blocks e = some s') :
    s'.vf = s.vf := by
  cases e with
  | vf => exact absurd rfl he
  | take =>
    obtain ⟨-, ⟨⟩⟩ := Option.ite_none_right_eq_some.mp hstep
    rfl
  | answer m =>
    obtain ⟨-, hmap⟩ := Option.ite_none_right_eq_some.mp hstep
    obtain ⟨a, -, rfl⟩ := Option.map_eq_some_iff.mp hmap
    rfl
  | notify m =>
    obtain ⟨-, ⟨⟩⟩ := Option.ite_none_right_eq_some.mp hstep
    rfl

theorem Vf.Ok.step {e : PfvfEvent} (h : s.vf.Ok blocks type size) (hans : e.Answered blocks s)
    (hstep : s.step blocks e = some s') : s'.vf.Ok blocks type size := by
  by_cases he : e = .vf
  · subst he
    exact h.vfStep hans hstep
  · exact Channel.step_vf he hstep ▸ h

end Runs

/-- **In every run in which the VF reads answers to its last request only, a call that returns success
    has the first bytes of the block message.** -/
theorem blkmsg_received {blocks : Nat → List UInt8} {type : Nat} {buffer : List UInt8} {s : Channel}
    (h : (pfvf blocks type buffer).ReachableBy (fun s e => e.Answered blocks s) s)
    (hdone : s.vf.io = .done 0) : Received (blocks type) buffer.length s.vf := by
  obtain ⟨-, hok⟩ : s.vf.Ok blocks type buffer.length := by
    refine h.invariant (fun s => s.vf.Ok blocks type buffer.length) ?_ ?_
    · intro s hs
      rw [show s.vf = Vf.start type buffer from hs]
      exact Vf.Ok.start blocks type buffer
    · intro s e s' hs hans hstep
      exact hs.step hans hstep
  rw [hdone] at hok
  exact hok rfl

/-! ## Runs -/

/-- The block message of a PF: version, length, and a payload that starts with a certain checksum. -/
def sampleBlock : List UInt8 := [1, 2, calcBlkmsgCrc [1, 1, 2], 0]

/-- A call for the ring to service map. -/
def sampleCall : Channel := ⟨Vf.start 3 [0, 0, 0, 0], 0, 0, []⟩

/-- The request for a byte of it. -/
def sampleRequest (byte : Nat) : PfvfMessage := ⟨0x09, 3 + byte * 16⟩

/-- A request that is taken and answered at once. -/
def fetchAnswered (m : PfvfMessage) : List PfvfEvent := [.vf, .take, .vf, .answer m, .vf, .vf]

/-- A request that is taken at once, and the message that is there read for its answer. -/
def fetchOther : List PfvfEvent := [.vf, .take, .vf, .vf, .vf]

/-- Every request is answered at once. -/
theorem blkmsg_received_at_once :
    ∃ s, (pfvf (fun _ => sampleBlock) 3 [0, 0, 0, 0]).ReachableBy
        (fun s e => e.Answered (fun _ => sampleBlock) s) s ∧ s.vf.io = .done 0 ∧
      Received sampleBlock 4 s.vf := by
  exact System.exists_reachableBy (P := fun s => s.vf.io = .done 0)
    (fetchAnswered (sampleRequest 0) ++ fetchAnswered (sampleRequest 1) ++
      fetchAnswered (sampleRequest 2) ++ fetchAnswered (sampleRequest 3) ++
      fetchAnswered ⟨0x09, 3 + 3 * 16 + 512⟩) (s := sampleCall) rfl (by decide +kernel)
    fun s hreach hdone => ⟨hdone, blkmsg_received hreach hdone⟩

/-- A block message whose payload is the checksum of what a notification leaves in its place. -/
def sampleShortBlock : List UInt8 := [1, 1, calcBlkmsgCrc [1, 1, 0]]

/-- A run of the call that ends in success with bytes other than those of the block message. -/
theorem not_received (h : ∃ s, (pfvf (fun _ => block) 3 [0, 0, 0, 0]).Reachable s ∧
      s.vf.io = .done 0 ∧ s.vf.bufferLen = n ∧ s.vf.buffer = buffer)
    (hne : buffer.take n ≠ block.take n) :
    ∃ s, (pfvf (fun _ => block) 3 [0, 0, 0, 0]).Reachable s ∧ s.vf.io = .done 0 ∧
      s.vf.bufferLen = n ∧ s.vf.buffer = buffer ∧ ¬Received block 4 s.vf := by
  obtain ⟨s, hreach, hdone, hlen, hbuffer⟩ := h
  refine ⟨s, hreach, hdone, hlen, hbuffer, fun hrec => ?_⟩
  have hbytes := hrec.bytes.eq
  rw [hlen, hbuffer] at hbytes
  exact hne hbytes

/-- Two calls that return success with the wrong bytes. In the first the answer for the version comes
    twice, and from then on every answer is one request late, the one for the checksum included. In
    the second the PF announces a restart while a byte of the payload is awaited: the notification is
    taken for that byte, and the answer that follows it for the checksum. -/
theorem late_answers_accepted :
    (∃ s, (pfvf (fun _ => sampleBlock) 3 [0, 0, 0, 0]).Reachable s ∧ s.vf.io = .done 0 ∧
      s.vf.bufferLen = 3 ∧ s.vf.buffer = [1, 1, 2, 0] ∧ ¬Received sampleBlock 4 s.vf) ∧
    ∃ s, (pfvf (fun _ => sampleShortBlock) 3 [0, 0, 0, 0]).Reachable s ∧ s.vf.io = .done 0 ∧
      s.vf.bufferLen = 3 ∧ s.vf.buffer = [1, 1, 0, 0] ∧ ¬Received sampleShortBlock 4 s.vf := by
  constructor
  · exact not_received (System.exists_reachable (s := sampleCall)
      (fetchAnswered (sampleRequest 0) ++ .answer (sampleRequest 0) :: fetchOther ++
        .answer (sampleRequest 1) :: fetchOther ++ .answer (sampleRequest 2) :: fetchOther) rfl
      (by decide +kernel)) (by decide)
  · exact not_received (System.exists_reachable (s := sampleCall)
      (fetchAnswered (sampleRequest 0) ++ fetchAnswered (sampleRequest 1) ++
        .notify ⟨0x01, 0⟩ :: fetchOther ++ .answer (sampleRequest 2) :: fetchOther) rfl
      (by decide +kernel)) (by decide)

/-! ## The call returns -/

/-- A bound for the requests that follow. -/
def Awaited.left : Awaited → Nat
  | .version => 258
  | .length => 257
  | .payload index msgLen => msgLen - index + 1
  | .crc _ => 0

/-- A bound for the accesses that follow the next one: a request is tried six times, and each time
    written, polled 500 times, read and acknowledged. -/
def Vf.left (vf : Vf) : Nat :=
  vf.awaited.left * 3018 +
    match vf.io with
    | .send retries => (5 - retries) * 503 + 502
    | .poll retries count => (5 - retries) * 503 + (499 - count) + 2
    | .recv retries => (5 - retries) * 503 + 1
    | .clear retries _ => (5 - retries) * 503
    | .done _ => 0

/-- The call has returned, or it has a request and at most so many accesses to make. -/
def Vf.Within (vf : Vf) (k : Nat) : Prop :=
  (∃ ret, vf.io = .done ret) ∨ vf.request ≠ none ∧ vf.left < k

def PfvfEvent.isVf : PfvfEvent → Bool
  | .vf => true
  | _ => false

section Returns

variable {blocks : Nat → List UInt8} {type k : Nat} {s s' t : Channel} {vf : Vf}
  {es : List PfvfEvent}

theorem Vf.within_ask (a : Awaited) (hk : (a.left + 1) * 3018 ≤ k) : (vf.ask a).Within k := by
  unfold Vf.ask
  split
  · exact .inl ⟨_, rfl⟩
  · next hreq =>
    refine .inr ⟨by simp [Vf.request, hreq], ?_⟩
    simp only [Vf.left]
    omega

theorem Vf.Within.mono {j : Nat} (h : vf.Within j) (hle : j ≤ k) : vf.Within k :=
  h.imp_right fun h => ⟨h.1, h.2.trans_le hle⟩

/-- After an answer fewer requests follow. -/
theorem Vf.within_accept (data : UInt8) : (vf.accept data).Within (vf.awaited.left * 3018) := by
  have hdata := data.toNat_lt
  unfold Vf.accept Vf.askPayload
  cases vf.awaited with
  | version =>
    dsimp only
    split
    · exact .inl ⟨_, rfl⟩
    · exact Vf.within_ask _ (by decide)
  | length =>
    dsimp only
    split
    · exact .inl ⟨_, rfl⟩
    · generalize hn : (if vf.bufferLen < 2 + data.toNat then vf.bufferLen else 2 + data.toNat) = n
      split <;> refine Vf.within_ask _ ?_ <;> simp only [Awaited.left] <;> grind
  | payload index msgLen =>
    dsimp only
    split <;> refine Vf.within_ask _ ?_ <;> simp only [Awaited.left] <;> omega
  | crc msgLen =>
    dsimp only
    split <;> exact .inl ⟨_, rfl⟩

theorem Vf.within_retry (hreq : vf.request ≠ none) (retries : Nat) :
    (vf.retry retries).Within (vf.awaited.left * 3018 + (5 - retries) * 503) := by
  unfold Vf.retry
  split
  · refine .inr ⟨hreq, ?_⟩
    simp only [Vf.left]
    omega
  · exact .inl ⟨_, rfl⟩

/-- An access leaves fewer accesses to be made. -/
theorem Channel.within_vfStep (hreq : s.vf.request ≠ none) (h : s.vfStep = some s') :
    s'.vf.Within s.vf.left := by
  unfold Channel.vfStep at h
  rw [Vf.left]
  cases hio : s.vf.io with
  | send retries =>
    simp only [hio] at h
    split at h
    · cases h
    · split at h <;> cases h
      · refine .inr ⟨hreq, ?_⟩
        simp only [Vf.left]
        omega
      · exact .inl ⟨_, rfl⟩
  | poll retries count =>
    simp only [hio] at h
    cases h
    dsimp only
    split
    · split
      · refine .inr ⟨hreq, ?_⟩
        simp only [Vf.left]
        omega
      · exact .inl ⟨_, rfl⟩
    · refine .inr ⟨hreq, ?_⟩
      simp only [Vf.left]
      omega
  | recv retries =>
    simp only [hio] at h
    split at h <;> cases h
    · refine .inr ⟨hreq, ?_⟩
      simp only [Vf.left]
      omega
    · exact (Vf.within_retry hreq retries).mono (Nat.le_succ _)
  | clear retries val =>
    simp only [hio] at h
    cases h
    dsimp only
    split
    · unfold Vf.handle
      split
      · exact .inl ⟨_, rfl⟩
      · exact (Vf.within_accept _).mono (by omega)
    · exact Vf.within_retry hreq retries
  | done ret =>
    simp only [hio] at h
    cases h

theorem Vf.Within.returned (h : s.vf.Within k) (hnone : s.vfStep = none) :
    ∃ ret, s.vf.io = .done ret := by
  refine h.elim id fun ⟨hreq, _⟩ => ?_
  obtain ⟨m, hm⟩ := Option.ne_none_iff_exists'.mp hreq
  cases hio : s.vf.io with
  | done ret => exact ⟨ret, rfl⟩
  | _ => simp [Channel.vfStep, hio, hm, ite_eq_iff] at hnone

theorem Vf.Within.exec (h : s.vf.Within k) (hrun : (pfvf blocks type buffer).exec s es = some t) :
    es.countP PfvfEvent.isVf ≤ k ∧ (t.vfStep = none → ∃ ret, t.vf.io = .done ret) := by
  induction es generalizing s k with
  | nil =>
    cases hrun
    exact ⟨Nat.zero_le k, h.returned⟩
  | cons e es ih =>
    obtain ⟨u, hu, hrest⟩ := Option.bind_eq_some_iff.mp hrun
    by_cases he : e = .vf
    · subst he
      rw [List.countP_cons_of_pos rfl]
      rcases h with ⟨ret, hret⟩ | ⟨hreq, hle⟩
      · have hnone : s.vfStep = none := by rw [Channel.vfStep, hret]
        cases hnone.symm.trans hu
      · obtain ⟨hcount, hend⟩ := ih (Channel.within_vfStep hreq hu) hrest
        exact ⟨by omega, hend⟩
    · have hother : ¬e.isVf := by cases e <;> simp_all [PfvfEvent.isVf]
      rw [List.countP_cons_of_neg hother]
      exact ih (Channel.step_vf he hu ▸ h) hrest

/-- **Every call returns.** Whatever the PF does, the VF makes at most 259 times 3018 accesses, and as
    long as the call has not returned it can make its next one. -/
theorem blkmsg_returns (hinit : s.vf = Vf.start type buffer)
    (hrun : (pfvf blocks type buffer).exec s es = some t) :
    es.countP PfvfEvent.isVf ≤ 259 * 3018 ∧ (t.vfStep = none → ∃ ret, t.vf.io = .done ret) := by
  refine Vf.Within.exec ?_ hrun
  rw [hinit]
  unfold Vf.start
  dsimp only
  split
  · exact .inl ⟨_, rfl⟩
  · split
    · exact .inl ⟨_, rfl⟩
    · exact Vf.within_ask _ le_rfl

end Returns

/-- A PF that does not answer. -/
theorem blkmsg_returns_unanswered :
    ∃ t, (pfvf (fun _ => sampleBlock) 3 [0, 0, 0, 0]).exec sampleCall (.replicate 501 .vf) = some t ∧
      t.vf.io = .done (-5) ∧ (t.vfStep = none → ∃ ret, t.vf.io = .done ret) := by
  have hexec : ((pfvf (fun _ => sampleBlock) 3 [0, 0, 0, 0]).exec sampleCall
      (.replicate 501 .vf)).map (fun s => s.vf.io) = some (.done (-5)) := by decide +kernel
  obtain ⟨t, hrun, hio⟩ := Option.map_eq_some_iff.mp hexec
  exact ⟨t, hrun, hio, (blkmsg_returns rfl hrun).2⟩

end Qatlib.Pfvf
