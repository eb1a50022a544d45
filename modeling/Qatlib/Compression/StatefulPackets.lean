import Qatlib.Compression.GzipStream

set_option autoImplicit false

/-! # Packets of a stateful decompression session

A stateful session decompresses a packet by several requests, one at a time. A request says whether it
starts a packet and whether it ends one; the session counts the bytes consumed since the packet was
started. The position in the stream is kept in `requestType`, which the request builder, the roll back
after a full ring and the callback all write.

The rule that the requests are to follow is stated over the history of the session alone
(`Position`), and compared with what the code does. -/

namespace Qatlib.Compression

open SessionDesc

/-! ## The rule -/

/-- What happens to a stateful session. -/
inductive PacketEntry where
  /-- A request is put on the ring with these flags. -/
  | sent (sop eop : Bool) (flush : Flush)
  /-- A request is answered by the software, or built and refused by a full ring. -/
  | unsent
  /-- The response to the request on the ring. -/
  | success (consumed : UInt32)
  | overflow (consumed : UInt32)
  | error
deriving DecidableEq

/-- The position in the stream: whether the next request starts a packet, whether the last request on
    the ring ended one, and the bytes consumed since the last start of a packet. -/
structure Position where
  start : Bool
  eop : Bool
  total : UInt64
deriving DecidableEq

/-- A packet is started by the first request, and by the one after a request that ended a packet and
    was answered with success. -/
def Position.next (p : Position) : PacketEntry → Position
  | .sent sop eop _ => ⟨false, eop, if sop then 0 else p.total⟩
  | .unsent => { p with total := if p.start then 0 else p.total }
  | .success consumed => { p with start := p.eop, total := p.total + consumed.toUInt64 }
  | .overflow consumed => { p with start := false, total := p.total + consumed.toUInt64 }
  | .error => { p with start := false }

/-- The position after a history. -/
def position (history : List PacketEntry) : Position := history.foldl Position.next ⟨true, false, 0⟩

@[simp] theorem position_snoc (history : List PacketEntry) (e : PacketEntry) :
    position (history ++ [e]) = (position history).next e := by
  simp [position]

/-- FINAL and FULL flushes end a packet. -/
def Flush.endsPacket (flush : Flush) : Bool := decide (flush = .final ∨ flush = .full)

/-- The flags of a request on the ring are those of its position and of its flush flag. -/
def FlagsRight (prior : List PacketEntry) : PacketEntry → Prop
  | .sent sop eop flush => sop = (position prior).start ∧ eop = flush.endsPacket
  | _ => True

/-! ## The session -/

/-- A call of `cpaDcDecompressData` or of `cpaDcDecompressData2`. -/
inductive DecompressCall where
  | decompressData (flush : Flush)
  | decompressData2 (op : OpData)

def DecompressCall.flushFlag : DecompressCall → Flush
  | .decompressData flush => flush
  | .decompressData2 op => op.flushFlag

/-- The call; the checksum in the results is not read by stateful requests. -/
def DecompressCall.call (checksum : Nat) : DecompressCall → Call
  | .decompressData flush => .decompressData flush checksum
  | .decompressData2 op => .decompressData2 op checksum

/-- The running check does not return success, and a put finds room on the ring or does not. -/
def SubmitEnv.Possible (env : SubmitEnv) : Prop :=
  env.notRunning ≠ some .success ∧ (env.putMsg = .success ∨ env.putMsg = .retry)

instance (env : SubmitEnv) : Decidable env.Possible := inferInstanceAs (Decidable (_ ∧ _))

/-- The call is answered by the software, or its request is built and finds the ring full. -/
def Unsent (svc : Service) (sess : SessionDesc) (env : SubmitEnv) (call : Call) : Bool :=
  match call.admission svc sess env with
  | .reject status _ => decide (status = .success)
  | .accept sess args =>
      (!sess.syncCb || decide (env.syncCookie = .success)) && env.poolActive &&
        (dcCreateRequest svc sess args env).isOk && decide (env.putMsg = .retry)

/-- The session, its results structure, its request on the ring, and what happened so far. -/
structure PacketState where
  session : SessionDesc
  results : Results
  inFlight : Option Cookie
  history : List PacketEntry

inductive PacketEvent where
  | issue (call : DecompressCall) (env : SubmitEnv)
  | respond (resp : Response)
  /-- A dummy response after a device error. -/
  | dummy

/-- What a response is to the user. -/
def Response.entry (resp : Response) (svc : Service) (sess : SessionDesc) (cookie : Cookie) :
    PacketEntry :=
  if resp.Answers svc sess cookie then
    if resp.Succeeds svc sess cookie then .success resp.inputByteCounter
    else .overflow resp.inputByteCounter
  else .error

/-- The session after a call. -/
def PacketState.issued (st : PacketState) (flush : Flush) (unsent : Bool) (out : Submitted) :
    PacketState :=
  match out.request with
  | some cookie =>
      { st with
        session := out.session
        inFlight := some cookie
        history := st.history ++ [.sent cookie.request.sop cookie.request.eop flush] }
  | none =>
      { st with
        session := out.session
        history := if unsent then st.history ++ [.unsent] else st.history }

/-- The session after the response to a request. -/
def PacketState.answered (svc : Service) (st : PacketState) (cookie : Cookie) (resp : Response) :
    PacketState :=
  let out := dcCompressionProcessCallback svc st.session cookie resp (some st.results)
  { session := out.1
    results := out.2.1.getD st.results
    inFlight := none
    history := st.history ++ [resp.entry svc st.session cookie] }

/-- The session after a dummy response. -/
def PacketState.dummied (st : PacketState) : PacketState :=
  { st with
    session := dcCompressionSwRespMsgCallback st.session
    inFlight := none
    history := st.history ++ [.error] }

/-- A stateful session that decompresses, from `dcInitSession` on, with one request at a time. -/
def packets (svc : Service) : System PacketState PacketEvent where
  Init st := st.session.sessState = .stateful ∧ st.session.sessDirection ≠ .compress ∧
    st.session.requestType = .first ∧ st.session.isSopForDecompressionProcessed = false ∧
    st.session.cumulativeConsumedBytes = 0 ∧ st.inFlight = none ∧ st.history = []
  step st
    | .issue c env =>
        let call := c.call st.results.checksum
        if st.inFlight.isNone ∧ env.Possible then
          some (st.issued c.flushFlag (Unsent svc st.session env call)
            (call.run svc st.session env))
        else none
    | .respond resp => st.inFlight.map fun cookie => st.answered svc cookie resp
    | .dummy => st.inFlight.map fun _ => st.dummied

/-! ## Issuing a request -/

/-- The part of a descriptor that the position in the stream is kept in. -/
structure StreamView where
  sessState : SessionState
  sessDirection : SessionDir
  requestType : RequestType
  sopProcessed : Bool
  total : UInt64

def SessionDesc.stream (sess : SessionDesc) : StreamView :=
  ⟨sess.sessState, sess.sessDirection, sess.requestType, sess.isSopForDecompressionProcessed,
    sess.cumulativeConsumedBytes⟩

/-- A first request restarts the count of the bytes consumed. -/
def StreamView.restart (v : StreamView) : StreamView :=
  { v with total := if v.requestType = .first then 0 else v.total }

/-- A request is built. -/
def StreamView.build (v : StreamView) (flush : Flush) : StreamView :=
  { v.restart with
    requestType := if flush.endsPacket then .first else .subsequent
    sopProcessed := true }

@[simp] theorem stream_decPending (sess : SessionDesc) : sess.decPending.stream = sess.stream := by
  unfold decPending
  split
  · rfl
  · rfl

@[simp] theorem stream_respPending (sess : SessionDesc) : sess.respPending.stream = sess.stream := by
  unfold respPending
  split
  · rfl
  · split
    · rfl
    · rfl

theorem stream_reset (sess : SessionDesc) : sess.reset.stream = sess.stream.restart := by
  unfold reset
  split
  · next hfirst => simp [stream, StreamView.restart, hfirst]
  · next hsub => simp [stream, StreamView.restart, hsub]

/-- What a call can do to a stateful session that decompresses. -/
inductive Issued (sess : SessionDesc) (flush : Flush) : Bool → Submitted → Prop where
  | refused {out : Submitted} (hreq : out.request = none) (hsess : out.session.stream = sess.stream) :
      Issued sess flush false out
  | unsent {out : Submitted} (sop : Bool) (hreq : out.request = none)
      (hsop : sop = true ∨ sop = sess.isSopForDecompressionProcessed)
      (hsess : out.session.stream = { sess.stream.restart with sopProcessed := sop }) :
      Issued sess flush true out
  | sent {out : Submitted} (cookie : Cookie) (hreq : out.request = some cookie)
      (hdir : cookie.compDecomp = .decompression) (hflush : cookie.flushFlag = flush)
      (hsop : cookie.request.sop = decide (sess.requestType = .first ∨
        sess.isSopForDecompressionProcessed = false))
      (heop : cookie.request.eop = flush.endsPacket)
      (hsess : out.session.stream = sess.stream.build flush)
      (hpending : out.session.pendingStatefulCbCount = 1) : Issued sess flush false out

variable {st st' : PacketState} {svc : Service} {sess : SessionDesc} {env : SubmitEnv}
  {flush : Flush} {cookie : Cookie} {v : StreamView} {history : List PacketEntry}

variable {out : Submitted} {args : ReqArgs} {resp : Response} {c : DecompressCall}

theorem Issued.with_status {unsent : Bool} (h : Issued sess flush unsent out) (status : CpaStatus) :
    Issued sess flush unsent { out with status := status } := by
  cases h with
  | refused hreq hsess => exact .refused hreq hsess
  | unsent sop hreq hsop hsess => exact .unsent sop hreq hsop hsess
  | sent cookie hreq hdir hflush hsop heop hsess hpending =>
      exact .sent cookie hreq hdir hflush hsop heop hsess hpending

theorem markPacket_stateful (sess : SessionDesc) (flush : Flush) (h : sess.sessState = .stateful) :
    (markPacket sess .decompression flush).1.stream = sess.stream.build flush ∧
      (markPacket sess .decompression flush).1.previousRequestType = sess.requestType ∧
      (markPacket sess .decompression flush).1.pendingStatefulCbCount = sess.pendingStatefulCbCount ∧
      (markPacket sess .decompression flush).2 =
        (decide (sess.requestType = .first ∨ sess.isSopForDecompressionProcessed = false),
          flush.endsPacket) := by
  unfold markPacket
  split
  · next hless =>
    rw [h] at hless
    cases hless
  · cases hreq : sess.requestType <;> cases flush <;> simp [setSopProcessed, sopProcessed, stream,
        StreamView.build, StreamView.restart, Flush.endsPacket, hreq]

theorem dcCreateRequest_packet {sess' : SessionDesc} (hdir : args.compDecomp = .decompression)
    (hflush : (args.opData.map OpData.flushFlag).getD args.flushFlag = flush)
    (h : dcCreateRequest svc sess args env = .ok (sess', cookie)) :
    sess' = (markPacket sess .decompression flush).1 ∧ cookie.compDecomp = .decompression ∧
      cookie.flushFlag = flush ∧
      cookie.request.sop = (markPacket sess .decompression flush).2.1 ∧
      cookie.request.eop = (markPacket sess .decompression flush).2.2 := by
  unfold dcCreateRequest at h
  split at h
  · cases h
  split at h
  · cases h
  dsimp only at h
  split at h
  · cases h
  rw [hflush, hdir] at h
  obtain ⟨hsess, hcookie⟩ := Prod.mk.inj (Except.ok.inj h)
  rw [← hcookie, ← hsess]
  exact ⟨rfl, rfl, rfl, rfl, rfl⟩

/-- The calls of a stateful session that decompresses: rejected by a check, or handled under the
    session lock. -/
theorem DecompressCall.admission_cases (svc : Service) (c : DecompressCall) (checksum : Nat)
    (hstate : sess.sessState = .stateful) (hrun : env.notRunning ≠ some .success) :
    (∃ status, status ≠ .success ∧ (c.call checksum).admission svc sess env = .reject status sess) ∨
    ∃ args empty, (c.call checksum).admission svc sess env = admitStateful sess env args empty ∧
      args.compDecomp = .decompression ∧ args.flushFlag = c.flushFlag ∧
      (args.opData.map OpData.flushFlag).getD args.flushFlag = c.flushFlag := by
  cases c with
  | decompressData flush =>
      rcases (admitDecompressData_ends svc sess env flush checksum).stateful hstate hrun with
        hreject | ⟨empty, hlocked⟩
      · exact .inl hreject
      · exact .inr ⟨_, empty, hlocked, rfl, rfl, rfl⟩
  | decompressData2 op =>
      rcases (admitDecompressData2_ends svc sess env op checksum).stateful hstate hrun with
        hreject | ⟨empty, hlocked⟩
      · exact .inl hreject
      · exact .inr ⟨_, empty, hlocked, rfl, rfl, rfl⟩

/-- Under the session lock: a request in flight, an answer of the software, or a request that is
    counted. -/
theorem admitStateful_cases (sess : SessionDesc) (env : SubmitEnv) (args : ReqArgs) (empty : Bool) :
    admitStateful sess env args empty = .reject .retry sess ∨
    admitStateful sess env args empty = .reject .success sess.reset ∨
    sess.pendingStatefulCbCount = 0 ∧ admitStateful sess env args empty =
      .accept { sess with pendingStatefulCbCount := 1 } args := by
  unfold admitStateful
  split
  · exact .inl rfl
  next hzero =>
    have hpending : sess.pendingStatefulCbCount = 0 := by simpa using hzero
    rw [hpending]
    dsimp only
    split
    · unfold dcZeroLengthRequests
      by_cases hfirst : sess.requestType = .first
      · rw [if_pos hfirst, reset, if_pos hfirst]
        exact .inr (.inl rfl)
      · rw [if_neg hfirst, reset, if_neg hfirst]
        by_cases hflush : args.flushFlag = .none ∨ args.flushFlag = .sync
        · rw [if_pos hflush]
          exact .inr (.inl rfl)
        · rw [if_neg hflush]
          exact .inr (.inr ⟨rfl, rfl⟩)
    · exact .inr (.inr ⟨rfl, rfl⟩)

theorem dcSendRequest_stateful {built : SessionDesc} (hstate : built.sessState = .stateful)
    (hput : env.putMsg = .success ∨ env.putMsg = .retry) :
    env.putMsg = .success ∧ dcSendRequest built.incStateless env = (.success, built) ∨
    env.putMsg = .retry ∧ dcSendRequest built.incStateless env =
      (.retry, { built with requestType := built.previousRequestType }) := by
  have hinc : built.incStateless = built := by
    rw [incStateless, hstate]
    rfl
  rw [hinc, dcSendRequest]
  rcases hput with hput | hput
  · rw [hput, if_neg (by simp)]
    exact .inl ⟨rfl, rfl⟩
  · rw [hput, if_pos ⟨hstate, rfl⟩]
    exact .inr ⟨rfl, rfl⟩

theorem dcCompDecompDataBody_issued (svc : Service) (hstate : sess.sessState = .stateful)
    (hput : env.putMsg = .success ∨ env.putMsg = .retry) (hdir : args.compDecomp = .decompression)
    (hflush : (args.opData.map OpData.flushFlag).getD args.flushFlag = flush) :
    Issued sess flush (env.poolActive &&
        (dcCreateRequest svc { sess with pendingStatefulCbCount := 1 } args env).isOk &&
        decide (env.putMsg = .retry))
      (dcCompDecompDataBody svc { sess with pendingStatefulCbCount := 1 } args env) := by
  unfold dcCompDecompDataBody
  cases hpool : env.poolActive with
  | false => exact .refused rfl rfl
  | true =>
      cases hcreate : dcCreateRequest svc { sess with pendingStatefulCbCount := 1 } args env with
      | error status => exact .refused rfl (stream_decPending _)
      | ok out =>
          obtain ⟨built, cookie⟩ := out
          obtain ⟨hbuilt, hcdir, hcflush, hsop, heop⟩ := dcCreateRequest_packet hdir hflush hcreate
          obtain ⟨hstream, hprev, hpend, hflags⟩ :=
            markPacket_stateful { sess with pendingStatefulCbCount := 1 } flush hstate
          rw [← hbuilt] at hstream hprev hpend
          have hkind : built.sessState = .stateful :=
            (congrArg StreamView.sessState hstream).trans hstate
          obtain ⟨hok, hsent⟩ | ⟨hfull, hsent⟩ := dcSendRequest_stateful hkind hput
          · simp only [hsent, hok]
            refine .sent cookie rfl hcdir hcflush ?_ ?_ hstream hpend
            · rw [hsop, hflags]
            · rw [heop, hflags]
          · simp only [hsent, hfull]
            refine .unsent true rfl (.inl rfl) ?_
            show ({ built with requestType := built.previousRequestType }).decPending.stream = _
            rw [stream_decPending]
            show ({ built.stream with requestType := built.previousRequestType } : StreamView) = _
            rw [hstream, hprev]
            rfl

/-- A synchronous session needs a cookie to wait on. -/
theorem dcCompDecompData_issued {counted : SessionDesc} {unsent : Bool}
    (hbody : Issued sess flush unsent (dcCompDecompDataBody svc counted args env))
    (hstream : counted.stream = sess.stream) :
    Issued sess flush ((!counted.syncCb || decide (env.syncCookie = .success)) && unsent)
      (dcCompDecompData svc counted args env) := by
  unfold dcCompDecompData
  cases hsync : counted.syncCb with
  | false => simpa using hbody
  | true =>
      by_cases hcookie : env.syncCookie = .success
      · rw [if_pos rfl, if_pos hcookie, decide_eq_true hcookie]
        dsimp only
        split
        · exact hbody.with_status _
        · exact hbody
      · rw [if_pos rfl, if_neg hcookie, decide_eq_false hcookie]
        exact .refused rfl hstream

/-- **What a call can do** to a stateful session that decompresses. -/
theorem DecompressCall.issued (c : DecompressCall) (svc : Service) (checksum : Nat)
    (hstate : sess.sessState = .stateful) (henv : env.Possible) :
    Issued sess c.flushFlag (Unsent svc sess env (c.call checksum))
      ((c.call checksum).run svc sess env) := by
  unfold Unsent Call.run
  obtain ⟨status, hne, hrej⟩ | ⟨args, empty, hadm, hdir, -, hflush⟩ :=
    c.admission_cases svc checksum hstate henv.1
  · simp only [hrej, decide_eq_false hne]
    exact .refused rfl rfl
  rw [hadm]
  obtain hretry | hzero | ⟨-, hacc⟩ := admitStateful_cases sess env args empty
  · rw [hretry]
    exact .refused rfl rfl
  · rw [hzero]
    exact .unsent sess.isSopForDecompressionProcessed rfl (.inr rfl) (stream_reset sess)
  · rw [hacc]
    have hbody := dcCompDecompDataBody_issued svc hstate henv.2 hdir hflush
    simpa only [Bool.and_assoc, Admission.submit] using dcCompDecompData_issued hbody rfl

/-! ## The response -/

/-- The software finds a checksum wrong. -/
def Response.IntegrityFails (resp : Response) (svc : Service) (cookie : Cookie) : Bool :=
  svc.integrityCrcCheck && cookie.integrityCrcCheck && cookie.hasCrcData &&
    decide (resp.integrity.1 = dcCrcIntegErr)

section

variable (v : StreamView) (svc : Service)

/-- The consumed bytes are added when both slices pass, before the integrity checksums are looked
    at. -/
theorem respResults_session (sess : SessionDesc) (cookie : Cookie) (resp : Response) (r : Results)
    (pass : Bool) (status : Int) :
    (respResults svc sess cookie resp (some r) pass status).1 =
      { sess with
        cumulativeConsumedBytes :=
          sess.cumulativeConsumedBytes + if pass then resp.inputByteCounter.toUInt64 else 0 } := by
  cases pass with
  | false => simp [respResults]
  | true =>
      unfold respResults
      dsimp only
      split
      · split
        · rfl
        · rfl
      · rfl

/-- What the callback does to the position. -/
def StreamView.answer (sess : SessionDesc) (cookie : Cookie) (resp : Response) : StreamView :=
  if resp.unsupported then v
  else
    { v with
      requestType := nextRequestType cookie.flushFlag (resp.Succeeds svc sess cookie)
      total := v.total + if resp.Passes svc sess cookie then resp.inputByteCounter.toUInt64 else 0 }

theorem StreamView.answer_keeps (sess : SessionDesc) (cookie : Cookie) (resp : Response) :
    (v.answer svc sess cookie resp).sessState = v.sessState ∧
      (v.answer svc sess cookie resp).sessDirection = v.sessDirection ∧
      (v.answer svc sess cookie resp).sopProcessed = v.sopProcessed := by
  unfold StreamView.answer
  split
  · exact ⟨rfl, rfl, rfl⟩
  · exact ⟨rfl, rfl, rfl⟩

theorem pending_respPending (hstate : sess.sessState = .stateful)
    (hone : sess.pendingStatefulCbCount = 1) : sess.respPending.pendingStatefulCbCount = 0 := by
  unfold respPending
  rw [if_neg (by rw [hstate]; decide), if_pos (by rw [hone]; decide), hone]
  rfl

/-- **The callback of a stateful session.** -/
theorem processCallback_stateful (cookie : Cookie) (resp : Response) (r : Results)
    (hstate : sess.sessState = .stateful) (hone : sess.pendingStatefulCbCount = 1) :
    (dcCompressionProcessCallback svc sess cookie resp (some r)).1.stream =
        sess.stream.answer svc sess cookie resp ∧
      (dcCompressionProcessCallback svc sess cookie resp (some r)).1.pendingStatefulCbCount = 0 := by
  cases hunsup : resp.unsupported with
  | true =>
      unfold dcCompressionProcessCallback StreamView.answer
      rw [if_pos hunsup, if_pos hunsup]
      exact ⟨stream_respPending sess, pending_respPending hstate hone⟩
  | false =>
      have hview : sess.stream.answer svc sess cookie resp = _ := if_neg (by simp [hunsup])
      rw [processCallback_supported hunsup, hview]
      dsimp only
      rw [respResults_session, stream_respPending]
      exact ⟨rfl, pending_respPending hstate hone⟩

/-! ## The position along a run -/

/-- Every request so far carried the flags of its position, and the session's count is that of its
    position. -/
def Right (st : PacketState) : Prop :=
  EachAfter FlagsRight st.history ∧ st.session.cumulativeConsumedBytes = (position st.history).total

/-- A stateful session that decompresses, and the history. -/
structure ViewOk (history : List PacketEntry) : Prop where
  kind : v.sessState = .stateful
  dir : v.sessDirection ≠ .compress
  flags : EachAfter FlagsRight history
  total : v.total = (position history).total
  fresh : v.sopProcessed = false → v.requestType = .first

/-- The request type says whether the next request starts a packet. -/
def StreamView.Placed (history : List PacketEntry) : Prop :=
  v.requestType = if (position history).start then .first else .subsequent

end

/-- A request is on the ring. -/
structure OnRing (v : StreamView) (history : List PacketEntry) (cookie : Cookie) : Prop where
  dir : cookie.compDecomp = .decompression
  type : v.requestType = if cookie.flushFlag.endsPacket then .first else .subsequent
  sop : v.sopProcessed = true
  start : (position history).start = false
  eop : (position history).eop = cookie.flushFlag.endsPacket

structure PacketsOk (st : PacketState) : Prop where
  view : ViewOk st.session.stream st.history
  idle : st.inFlight = none → st.session.stream.Placed st.history
  busy : ∀ cookie, st.inFlight = some cookie →
    OnRing st.session.stream st.history cookie ∧ st.session.pendingStatefulCbCount = 1

theorem PacketsOk.right (h : PacketsOk st) : Right st := ⟨h.view.flags, h.view.total⟩

theorem PacketsOk.init (h : (packets svc).Init st) : PacketsOk st := by
  obtain ⟨hstate, hdir, hfirst, hsop, hcum, hnone, hnil⟩ := h
  refine ⟨⟨hstate, hdir, ?_, ?_, fun _ => hfirst⟩, fun _ => ?_, ?_⟩
  · rw [hnil]
    exact eachAfter_nil _
  · rw [hnil]
    exact hcum
  · rw [hnil]
    exact hfirst
  · intro cookie hcookie
    rw [hnone] at hcookie
    cases hcookie

theorem packets_step_issue (h : (packets svc).step st (.issue c env) = some st') :
    st.inFlight = none ∧ env.Possible ∧
      st' = st.issued c.flushFlag (Unsent svc st.session env (c.call st.results.checksum))
        ((c.call st.results.checksum).run svc st.session env) := by
  dsimp only [packets] at h
  split at h
  · next hguard => exact ⟨Option.isNone_iff_eq_none.mp hguard.1, hguard.2, (Option.some.inj h).symm⟩
  · cases h

theorem StreamView.Placed.first_iff (h : v.Placed history) :
    v.requestType = .first ↔ (position history).start = true := by
  rw [h]
  cases (position history).start <;> simp

section

variable (h : ViewOk v history) (hplaced : v.Placed history)
include h hplaced

theorem ViewOk.restart_total :
    v.restart.total = if (position history).start then 0 else (position history).total := by
  unfold StreamView.restart
  dsimp only
  rw [h.total]
  exact if_congr hplaced.first_iff rfl rfl

theorem ViewOk.unsent {sop : Bool} (hsop : sop = true ∨ sop = v.sopProcessed) :
    ViewOk { v.restart with sopProcessed := sop } (history ++ [.unsent]) ∧
      ({ v.restart with sopProcessed := sop } : StreamView).Placed (history ++ [.unsent]) := by
  refine ⟨⟨h.kind, h.dir, h.flags.snoc trivial, ?_, ?_⟩, ?_⟩
  · rw [position_snoc]
    exact h.restart_total hplaced
  · intro hunset
    rcases hsop with rfl | rfl
    · cases hunset
    · exact h.fresh hunset
  · unfold StreamView.Placed
    rw [position_snoc]
    exact hplaced

theorem ViewOk.sop_eq :
    decide (v.requestType = .first ∨ v.sopProcessed = false) = (position history).start := by
  have hor : (v.requestType = .first ∨ v.sopProcessed = false) ↔ (position history).start = true := by
    rw [← hplaced.first_iff]
    exact ⟨fun hsop => hsop.elim id h.fresh, .inl⟩
  rw [Bool.eq_iff_iff, decide_eq_true_iff]
  exact hor

theorem ViewOk.sent (hdir : cookie.compDecomp = .decompression)
    (hflush : cookie.flushFlag = flush)
    (hsop : cookie.request.sop = decide (v.requestType = .first ∨ v.sopProcessed = false))
    (heop : cookie.request.eop = flush.endsPacket) :
    ViewOk (v.build flush) (history ++ [.sent cookie.request.sop cookie.request.eop flush]) ∧
      OnRing (v.build flush) (history ++ [.sent cookie.request.sop cookie.request.eop flush])
        cookie := by
  rw [hsop, heop, h.sop_eq hplaced]
  refine ⟨⟨h.kind, h.dir, h.flags.snoc ⟨rfl, rfl⟩, ?_, fun hunset => ?_⟩, ⟨hdir, ?_, rfl, ?_, ?_⟩⟩
  · rw [position_snoc]
    exact h.restart_total hplaced
  · cases hunset
  · rw [hflush]
    rfl
  · rw [position_snoc]
    rfl
  · rw [position_snoc, hflush]
    rfl

end

/-- **A call keeps the invariant**, whatever its outcome. -/
theorem PacketsOk.issued {unsent : Bool} (h : PacketsOk st) (hnone : st.inFlight = none)
    (hissued : Issued st.session flush unsent out) : PacketsOk (st.issued flush unsent out) := by
  have hplaced := h.idle hnone
  cases hissued with
  | refused hreq hsess =>
      have hst : st.issued flush false out = { st with session := out.session } := by
        simp [PacketState.issued, hreq]
      rw [hst]
      refine ⟨?_, ?_, ?_⟩
      · rw [hsess]
        exact h.view
      · rw [hsess]
        exact h.idle
      · intro cookie hcookie
        rw [hnone] at hcookie
        cases hcookie
  | unsent sop hreq hsop hsess =>
      have hst : st.issued flush true out =
          { st with session := out.session, history := st.history ++ [.unsent] } := by
        simp [PacketState.issued, hreq]
      obtain ⟨hview, hplaced⟩ := h.view.unsent hplaced hsop
      rw [← hsess] at hview hplaced
      rw [hst]
      refine ⟨hview, fun _ => hplaced, ?_⟩
      intro cookie hcookie
      rw [hnone] at hcookie
      cases hcookie
  | sent cookie hreq hdir hflush hsop heop hsess hpending =>
      have hst : st.issued flush false out =
          { st with
            session := out.session
            inFlight := some cookie
            history := st.history ++ [.sent cookie.request.sop cookie.request.eop flush] } := by
        simp [PacketState.issued, hreq]
      obtain ⟨hview, hring⟩ := h.view.sent hplaced hdir hflush hsop heop
      rw [← hsess] at hview hring
      rw [hst]
      refine ⟨hview, ?_, ?_⟩
      · intro hidle
        cases hidle
      · intro other hother
        cases hother
        exact ⟨hring, hpending⟩

theorem PacketsOk.issue (h : PacketsOk st)
    (hstep : (packets svc).step st (.issue c env) = some st') : PacketsOk st' := by
  obtain ⟨hnone, henv, rfl⟩ := packets_step_issue hstep
  exact h.issued hnone (c.issued svc st.results.checksum h.view.kind henv)

/-! ### Responses -/

/-- A response that the position survives. A request that ends a packet is supported by the device; a
    FULL request does not succeed; a response that fails the integrity check after both slices passed
    consumed nothing, and is no success of a FINAL request. -/
def Response.Fits (resp : Response) (svc : Service) (sess : SessionDesc) (cookie : Cookie) : Prop :=
  if resp.unsupported then cookie.flushFlag.endsPacket = false
  else if resp.IntegrityFails svc cookie then
    resp.Passes svc sess cookie → resp.inputByteCounter = 0 ∧
      ¬ (cookie.flushFlag = .final ∧ resp.Succeeds svc sess cookie)
  else ¬ (cookie.flushFlag = .full ∧ resp.Succeeds svc sess cookie)

instance (resp : Response) (svc : Service) (sess : SessionDesc) (cookie : Cookie) :
    Decidable (resp.Fits svc sess cookie) :=
  inferInstanceAs (Decidable (ite _ _ _))

/-- The steps that the position survives. A dummy response is for a request that ends no packet. -/
def Fits (svc : Service) (st : PacketState) : PacketEvent → Prop
  | .issue _ _ => True
  | .respond resp => ∀ cookie, st.inFlight = some cookie → resp.Fits svc st.session cookie
  | .dummy => ∀ cookie, st.inFlight = some cookie → cookie.flushFlag.endsPacket = false

/-- The verdict of the callback is the user's: success or overflow. -/
theorem Response.answers_eq (hstate : sess.sessState = .stateful) :
    resp.Answers svc sess cookie =
      (!resp.unsupported && resp.Passes svc sess cookie && !resp.IntegrityFails svc cookie) := by
  unfold Response.Answers Response.Overflows Response.Succeeds Response.Passes
    Response.IntegrityFails
  grind

theorem Response.passes_of_succeeds (h : resp.Succeeds svc sess cookie = true) :
    resp.Passes svc sess cookie = true := by
  unfold Response.Succeeds at h
  unfold Response.Passes
  grind

theorem nextRequestType_eq_subsequent (flush : Flush) (pass : Bool) :
    nextRequestType flush pass = .subsequent ↔ ¬ (flush = .final ∧ pass = true) := by
  unfold nextRequestType
  split
  · next h => simp [h]
  · next h => simp [h]

/-- A FULL request that succeeds is not followed by a first one. -/
theorem nextRequestType_eq_endsPacket (flush : Flush) :
    nextRequestType flush true = (if flush.endsPacket then .first else .subsequent) ↔
      flush ≠ .full := by
  cases flush <;> decide

section Answer

variable {v : StreamView} {history : List PacketEntry} {cookie : Cookie} {svc : Service}
  {sess : SessionDesc} {resp : Response}

/-- The count and the request type are those of the position after a response. -/
def AnswerRight (v : StreamView) (history : List PacketEntry) (svc : Service) (sess : SessionDesc)
    (cookie : Cookie) (resp : Response) : Prop :=
  (v.answer svc sess cookie resp).total =
      (position (history ++ [resp.entry svc sess cookie])).total ∧
    (v.answer svc sess cookie resp).Placed (history ++ [resp.entry svc sess cookie])

/-- An error that leaves the request type of the request in place. -/
theorem OnRing.error_iff (h : OnRing v history cookie) (hview : ViewOk v history) :
    (v.total = (position (history ++ [.error])).total ∧ v.Placed (history ++ [.error])) ↔
      cookie.flushFlag.endsPacket = false := by
  rw [StreamView.Placed, position_snoc]
  have htotal : v.total = ((position history).next .error).total := hview.total
  rw [and_iff_right htotal, h.type]
  cases cookie.flushFlag.endsPacket <;> simp [Position.next]

theorem OnRing.unsupported_iff (h : OnRing v history cookie) (hview : ViewOk v history)
    (hunsup : resp.unsupported = true) :
    AnswerRight v history svc sess cookie resp ↔ cookie.flushFlag.endsPacket = false := by
  have hentry : resp.entry svc sess cookie = .error := by
    simp [Response.entry, Response.Answers, hunsup]
  have hanswer : v.answer svc sess cookie resp = v := if_pos hunsup
  rw [AnswerRight, hentry, hanswer]
  exact h.error_iff hview

theorem ViewOk.integrity_iff (hview : ViewOk v history) (hsup : resp.unsupported = false)
    (hinteg : resp.IntegrityFails svc cookie = true) (hstate : sess.sessState = .stateful) :
    AnswerRight v history svc sess cookie resp ↔
      (resp.Passes svc sess cookie → resp.inputByteCounter = 0 ∧
        ¬ (cookie.flushFlag = .final ∧ resp.Succeeds svc sess cookie)) := by
  have hentry : resp.entry svc sess cookie = .error := by
    rw [Response.entry, Response.answers_eq hstate, hinteg]
    simp
  have hanswer : v.answer svc sess cookie resp = _ := if_neg (by simp [hsup])
  have htotal : ((position history).next .error).total = v.total := hview.total.symm
  have hstart : ((position history).next .error).start = false := rfl
  rw [AnswerRight, hentry, hanswer, StreamView.Placed, position_snoc, htotal, hstart]
  dsimp only
  rw [if_neg Bool.false_ne_true, nextRequestType_eq_subsequent]
  cases hpass : resp.Passes svc sess cookie with
  | true =>
      have hzero : resp.inputByteCounter.toUInt64 = 0 ↔ resp.inputByteCounter = 0 :=
        UInt32.toUInt64_inj (b := 0)
      simp [hzero]
  | false =>
      have hsucc : resp.Succeeds svc sess cookie = false := by
        by_contra hsucc
        rw [Response.passes_of_succeeds (by simpa using hsucc)] at hpass
        cases hpass
      simp [hsucc]

theorem OnRing.checked_iff (h : OnRing v history cookie) (hview : ViewOk v history)
    (hsup : resp.unsupported = false) (hinteg : resp.IntegrityFails svc cookie = false)
    (hstate : sess.sessState = .stateful) :
    AnswerRight v history svc sess cookie resp ↔
      ¬ (cookie.flushFlag = .full ∧ resp.Succeeds svc sess cookie) := by
  have hanswers : resp.Answers svc sess cookie = resp.Passes svc sess cookie := by
    rw [Response.answers_eq hstate, hsup, hinteg]
    simp
  have hanswer : v.answer svc sess cookie resp = _ := if_neg (by simp [hsup])
  rw [AnswerRight, Response.entry, hanswers, hanswer, StreamView.Placed, position_snoc]
  cases hsucc : resp.Succeeds svc sess cookie with
  | true =>
      rw [Response.passes_of_succeeds hsucc, if_pos rfl, if_pos rfl]
      simp only [Position.next, h.eop, hview.total, if_true, true_and, and_true]
      exact nextRequestType_eq_endsPacket _
  | false =>
      cases resp.Passes svc sess cookie with
      | true => simp [Position.next, hview.total, nextRequestType]
      | false => simp [Position.next, hview.total, nextRequestType]

/-- **A response** fits exactly when the count and the request type are again those of the
    position. -/
theorem OnRing.answer_iff (h : OnRing v history cookie) (hview : ViewOk v history)
    (hstate : sess.sessState = .stateful) :
    AnswerRight v history svc sess cookie resp ↔ resp.Fits svc sess cookie := by
  unfold Response.Fits
  split
  · next hunsup => exact h.unsupported_iff hview hunsup
  next hsup =>
    rw [Bool.not_eq_true] at hsup
    split
    · next hinteg => exact hview.integrity_iff hsup hinteg hstate
    · next hinteg => exact h.checked_iff hview hsup (by simpa using hinteg) hstate

end Answer

/-! ### The run -/

theorem packets_step_respond (h : (packets svc).step st (.respond resp) = some st') :
    ∃ cookie, st.inFlight = some cookie ∧ st' = st.answered svc cookie resp := by
  obtain ⟨cookie, hcookie, hst⟩ := Option.map_eq_some_iff.mp h
  exact ⟨cookie, hcookie, hst.symm⟩

theorem packets_step_dummy (h : (packets svc).step st .dummy = some st') :
    ∃ cookie, st.inFlight = some cookie ∧ st' = st.dummied := by
  obtain ⟨cookie, hcookie, hst⟩ := Option.map_eq_some_iff.mp h
  exact ⟨cookie, hcookie, hst.symm⟩

/-- A session between two requests, its lock free: a request can be sent. -/
structure Between (st : PacketState) : Prop where
  kind : st.session.sessState = .stateful
  dir : st.session.sessDirection ≠ .compress
  flags : EachAfter FlagsRight st.history
  sop : st.session.isSopForDecompressionProcessed = true
  idle : st.inFlight = none
  pending : st.session.pendingStatefulCbCount = 0

theorem Between.packetsOk (h : Between st)
    (htotal : st.session.stream.total = (position st.history).total)
    (hplaced : st.session.stream.Placed st.history) : PacketsOk st := by
  refine ⟨⟨h.kind, h.dir, h.flags, htotal, fun hunset => ?_⟩, fun _ => hplaced, ?_⟩
  · exact absurd (h.sop.symm.trans hunset) (by decide)
  · intro cookie hcookie
    rw [h.idle] at hcookie
    cases hcookie

theorem Between.sends (h : Between st) (svc : Service) (checksum : Nat) :
    (((DecompressCall.decompressData .none).call checksum).run svc st.session .ok).request.isSome := by
  have hdir : (st.session.sessDirection != .compress) = true := bne_iff_ne.mpr h.dir
  have hadm : ((DecompressCall.decompressData .none).call checksum).admission svc st.session .ok =
      .accept { st.session with pendingStatefulCbCount := 1 }
        ⟨.decompression, .none, none, .noCnv, checksum⟩ := by
    simp [DecompressCall.call, Call.admission, admitDecompressData, SubmitEnv.ok,
      dcCheckSourceData, dcCheckDestinationData, dcBufferMaxSize, admitStateful, lonelyByte, hdir,
      h.kind, h.pending]
  rw [Call.run, hadm]
  have hkind := h.kind
  cases hsync : st.session.syncCb <;>
    simp [Admission.submit, dcCompDecompData, dcCompDecompDataBody, dcCreateRequest, dcSendRequest,
      SubmitEnv.ok, hsync]

theorem Issued.sop_of_isSome {unsent : Bool} (h : Issued sess flush unsent out)
    (hsome : out.request.isSome) :
    ∃ cookie, out.request = some cookie ∧ cookie.request.sop =
      decide (sess.requestType = .first ∨ sess.isSopForDecompressionProcessed = false) := by
  cases h with
  | refused hreq _ =>
      rw [hreq] at hsome
      cases hsome
  | unsent _ hreq _ _ =>
      rw [hreq] at hsome
      cases hsome
  | sent cookie hreq _ _ hsop _ _ _ => exact ⟨cookie, hreq, hsop⟩

/-- **A wrong request type shows** in the next request. -/
theorem Between.placed (h : Between st)
    (hnext : ∀ c env st', (packets svc).step st (.issue c env) = some st' → Right st') :
    st.session.stream.Placed st.history := by
  have hpossible : SubmitEnv.ok.Possible := by decide
  obtain ⟨cookie, hreq, hsop⟩ := ((DecompressCall.decompressData .none).issued svc
    st.results.checksum h.kind hpossible).sop_of_isSome (h.sends svc st.results.checksum)
  have hright := hnext (.decompressData .none) .ok _ (if_pos ⟨by rw [h.idle]; rfl, hpossible⟩)
  have hflags : FlagsRight st.history (.sent cookie.request.sop cookie.request.eop .none) := by
    refine hright.1 st.history _ [] ?_
    simp only [PacketState.issued, hreq]
    rfl
  have hstart : decide (st.session.requestType = .first) = (position st.history).start := by
    rw [← hflags.1, hsop, h.sop]
    simp
  show st.session.requestType = _
  rw [← hstart]
  cases st.session.requestType <;> rfl

theorem PacketsOk.between_answered (h : PacketsOk st) (hcookie : st.inFlight = some cookie)
    (svc : Service) (resp : Response) :
    Between (st.answered svc cookie resp) ∧ (st.answered svc cookie resp).session.stream =
        st.session.stream.answer svc st.session cookie resp := by
  obtain ⟨hring, hone⟩ := h.busy cookie hcookie
  obtain ⟨hstream, hpending⟩ := processCallback_stateful svc cookie resp st.results h.view.kind hone
  have hkeeps := st.session.stream.answer_keeps svc st.session cookie resp
  rw [← hstream] at hkeeps
  refine ⟨⟨hkeeps.1.trans h.view.kind, ?_, ?_, hkeeps.2.2.trans hring.sop, rfl, hpending⟩, hstream⟩
  · exact fun hcompress => h.view.dir (hkeeps.2.1.symm.trans hcompress)
  · refine h.view.flags.snoc ?_
    unfold Response.entry
    split
    · split
      · trivial
      · trivial
    · trivial

theorem PacketsOk.between_dummied (h : PacketsOk st) (hcookie : st.inFlight = some cookie) :
    Between st.dummied ∧ st.dummied.session.stream = st.session.stream := by
  obtain ⟨hring, hone⟩ := h.busy cookie hcookie
  have hstream : st.dummied.session.stream = st.session.stream := stream_decPending st.session
  refine ⟨⟨?_, ?_, ?_, ?_, rfl, ?_⟩, hstream⟩
  · exact (congrArg StreamView.sessState hstream).trans h.view.kind
  · exact fun hcompress => h.view.dir ((congrArg StreamView.sessDirection hstream).symm.trans hcompress)
  · exact h.view.flags.snoc trivial
  · exact (congrArg StreamView.sopProcessed hstream).trans hring.sop
  · show st.session.decPending.pendingStatefulCbCount = 0
    rw [decPending, if_neg (by rw [show st.session.sessState = _ from h.view.kind]; decide)]
    dsimp only
    rw [hone]
    rfl

/-- The rule now, and after the next call whatever it is. -/
def RightOnward (svc : Service) (st : PacketState) : Prop :=
  Right st ∧ ∀ c env st', (packets svc).step st (.issue c env) = some st' → Right st'

theorem PacketsOk.onward (h : PacketsOk st) : RightOnward svc st :=
  ⟨h.right, fun _ _ _ hstep => (h.issue hstep).right⟩

theorem Between.fits_iff {P : Cookie → Prop} {cookie : Cookie} {inFlight : Option Cookie}
    (h : Between st) (svc : Service) (hcookie : inFlight = some cookie)
    (hiff : (st.session.stream.total = (position st.history).total ∧
      st.session.stream.Placed st.history) ↔ P cookie) :
    ((∀ c, inFlight = some c → P c) → PacketsOk st) ∧
      (RightOnward svc st → ∀ c, inFlight = some c → P c) := by
  refine ⟨fun hP => ?_, fun hright c hc => ?_⟩
  · obtain ⟨htotal, hplaced⟩ := hiff.mpr (hP cookie hcookie)
    exact h.packetsOk htotal hplaced
  · obtain rfl := Option.some.inj (hcookie.symm.trans hc)
    exact hiff.mp ⟨hright.1.2, h.placed hright.2⟩

/-- **One step**: the rule holds from then on exactly when the step fits. -/
theorem PacketsOk.step_iff {e : PacketEvent} (h : PacketsOk st)
    (hstep : (packets svc).step st e = some st') :
    (Fits svc st e → PacketsOk st') ∧ (RightOnward svc st' → Fits svc st e) := by
  cases e with
  | issue c env => exact ⟨fun _ => h.issue hstep, fun _ => trivial⟩
  | respond resp =>
      obtain ⟨cookie, hcookie, rfl⟩ := packets_step_respond hstep
      obtain ⟨hbetween, hstream⟩ := h.between_answered hcookie svc resp
      have hiff : AnswerRight _ _ svc st.session cookie resp ↔ _ :=
        (h.busy cookie hcookie).1.answer_iff h.view h.view.kind
      rw [AnswerRight, ← hstream] at hiff
      exact hbetween.fits_iff svc hcookie hiff
  | dummy =>
      obtain ⟨cookie, hcookie, rfl⟩ := packets_step_dummy hstep
      obtain ⟨hbetween, hstream⟩ := h.between_dummied hcookie
      have hiff := (h.busy cookie hcookie).1.error_iff h.view
      rw [← hstream] at hiff
      exact hbetween.fits_iff svc hcookie hiff

theorem packetsOk_of_reachable (hst : (packets svc).ReachableBy (Fits svc) st) : PacketsOk st := by
  refine hst.invariant PacketsOk (fun _ => PacketsOk.init) ?_
  intro s e t hs hfits hstep
  exact (hs.step_iff hstep).1 hfits

/-- **Packets of a stateful decompression session.** In every run whose steps all fit, every request
    on the ring carries the flags of its position in the stream and the session counts the bytes
    consumed since the last start of a packet. A step keeps it so, for now and for the next call,
    exactly when it fits. -/
theorem packets_right_iff (svc : Service) (st : PacketState)
    (hst : (packets svc).ReachableBy (Fits svc) st) :
    Right st ∧ ∀ e st', (packets svc).step st e = some st' →
      (RightOnward svc st' ↔ Fits svc st e) := by
  have hok := packetsOk_of_reachable hst
  refine ⟨hok.right, fun e st' hstep => ?_⟩
  have hiff := hok.step_iff hstep
  exact ⟨hiff.2, fun hfits => (hiff.1 hfits).onward⟩

/-- A packet of two requests, the first of which overflows and the second finds the ring full once;
    the next packet is started after it. -/
theorem packets_right_iff_overflow :
    ∃ st, (packets c4xxxService).ReachableBy (Fits c4xxxService) st ∧
      st.history = [.sent true false .sync, .overflow 40, .unsent, .sent false true .final,
        .success 24, .sent true false .none] ∧ Right st := by
  have hst : (packets c4xxxService).ReachableBy (Fits c4xxxService) _ :=
    ⟨⟨freshSession .stateful false, ⟨0, 0, 0, 0⟩, none, []⟩,
      ⟨rfl, by decide, rfl, rfl, rfl, rfl, rfl⟩,
      .head (e := .issue (.decompressData .sync) .ok) trivial rfl <|
      .head (e := .respond (sampleResponse true 40 7)) (by rintro _ ⟨⟩; decide) rfl <|
      .head (e := .issue (.decompressData .final) { SubmitEnv.ok with putMsg := .retry }) trivial rfl <|
      .head (e := .issue (.decompressData .final) .ok) trivial rfl <|
      .head (e := .respond (sampleResponse false 24 9)) (by rintro _ ⟨⟩; decide) rfl <|
      .head (e := .issue (.decompressData .none) .ok) trivial rfl <| .refl _⟩
  exact ⟨_, hst, rfl, (packets_right_iff c4xxxService _ hst).1⟩

/-- The steps that do not fit. After a FULL request that succeeded the next request does not start a
    packet; after a FINAL request that the device does not support it does; and a response that fails
    the integrity check is counted. -/
theorem packets_wrong :
    (∃ st, (packets c4xxxService).Reachable st ∧ ¬ Right st ∧
      st.history = [.sent true true .full, .success 64, .sent false true .final]) ∧
    (∃ st, (packets c4xxxService).Reachable st ∧ ¬ Right st ∧
      st.history = [.sent true true .final, .error, .sent true true .final]) ∧
    ∃ st, (packets c4xxxService).Reachable st ∧ ¬ Right st ∧
      st.history = [.sent true false .none, .error] ∧
      st.session.cumulativeConsumedBytes = 64 := by
  have hinit : (packets c4xxxService).Init ⟨freshSession .stateful false, ⟨0, 0, 0, 0⟩, none, []⟩ :=
    ⟨rfl, by decide, rfl, rfl, rfl, rfl, rfl⟩
  refine ⟨⟨_, System.reachable_of_exec _ [.issue (.decompressData .full) .ok,
      .respond (sampleResponse false 64 7), .issue (.decompressData .final) .ok] hinit rfl, ?_, rfl⟩,
    ⟨_, System.reachable_of_exec _ [.issue (.decompressData .final) .ok,
      .respond { sampleResponse false 0 0 with unsupported := true },
      .issue (.decompressData .final) .ok] hinit rfl, ?_, rfl⟩,
    ⟨_, System.reachable_of_exec _
      [.issue (.decompressData2 ⟨.none, false, false, true, false, true⟩) .ok,
        .respond { sampleResponse false 64 0 with integrity := (dcCrcIntegErr, 0) }] hinit rfl,
      ?_, rfl, rfl⟩⟩
  · intro hright
    have hflags : FlagsRight _ _ := hright.1 [.sent true true .full, .success 64] _ [] rfl
    exact absurd hflags.1 (by decide)
  · intro hright
    have hflags : FlagsRight _ _ := hright.1 [.sent true true .final, .error] _ [] rfl
    exact absurd hflags.1 (by decide)
  · intro hright
    exact absurd hright.2 (by decide)

end Qatlib.Compression
