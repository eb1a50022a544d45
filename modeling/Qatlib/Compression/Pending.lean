import Mathlib.Data.List.Basic
import Qatlib.Lib.System
import Qatlib.Compression.Datapath

set_option autoImplicit false

/-! # Pending callback counters of a traditional session

`pendingStatelessCbCount` and `pendingStatefulCbCount` are meant to count the requests of the
session that are on the ring and not yet answered. A stateful request is counted by the entry point
before `dcCompDecompData` runs, a stateless one inside it, just before the request is sent; both are
uncounted by the failure exit of `dcCompDecompData` and by the callbacks.

`pending_eq_inFlight` shows that the counters are right along every run in which each submission
leaves `dcCompDecompData` through an exit that fits where its request was counted. The other exits
are real: `pending_count_wrong` has a run through each of them. -/

namespace Qatlib.Compression

open SessionDesc

/-- The counter for requests of one kind. -/
def SessionDesc.pending (sess : SessionDesc) : SessionState → Int
  | .stateless => sess.pendingStatelessCbCount
  | .stateful => sess.pendingStatefulCbCount

/-- A session and its requests on the ring that wait for their response. -/
structure DcState where
  session : SessionDesc
  ring : List Cookie

/-- The number of requests of one kind in flight: the kind of a request is that of its session. -/
def DcState.inFlight (st : DcState) (kind : SessionState) : Nat :=
  if st.session.sessState = kind then st.ring.length else 0

/-- What can happen to the session. -/
inductive Event where
  | submit (call : Call) (env : SubmitEnv)
  /-- The device answers the `k`-th request in flight. -/
  | response (k : Nat) (resp : Response) (results : Option Results)
  /-- A dummy response is generated for the `k`-th request in flight. -/
  | swResponse (k : Nat)

/-- One step of the session. -/
def DcState.step (svc : Service) (st : DcState) : Event → Option DcState
  | .submit call env =>
      let out := call.run svc st.session env
      some ⟨out.session, st.ring ++ out.request.toList⟩
  | .response k resp results =>
      (st.ring[k]?).map fun cookie =>
        ⟨(dcCompressionProcessCallback svc st.session cookie resp results).1, st.ring.eraseIdx k⟩
  | .swResponse k =>
      (st.ring[k]?).map fun _ => ⟨dcCompressionSwRespMsgCallback st.session, st.ring.eraseIdx k⟩

/-- A session of a service, from `dcInitSession` on. -/
def dcSystem (svc : Service) : System DcState Event where
  Init st := st.ring = [] ∧ st.session.requestType = .first ∧
    st.session.pendingStatelessCbCount = 0 ∧ st.session.pendingStatefulCbCount = 0
  step := DcState.step svc

/-- The submission leaves `dcCompDecompData` through an exit that fits where its request was counted:
    a stateful request, counted by the entry point, gets past the synchronous cookie and the pool;
    a stateless request, counted when it is sent, is not given up while it is built. -/
def SubmitBalanced (svc : Service) (st : DcState) : Event → Prop
  | .submit call env =>
      match call.admission svc st.session env with
      | .reject _ _ => True
      | .accept sess args =>
          match sess.sessState with
          | .stateful => (sess.syncCb → env.syncCookie = .success) ∧ env.poolActive
          | .stateless => (sess.syncCb → env.syncCookie = .success) → env.poolActive →
              (dcCreateRequest svc sess args env).isOk
  | _ => True

/-! ## Effects on the counters -/

/-- Two descriptors of one session that agree on its kind and on both counters. -/
structure SameCounts (a b : SessionDesc) : Prop where
  kind : a.sessState = b.sessState
  stateless : a.pendingStatelessCbCount = b.pendingStatelessCbCount
  stateful : a.pendingStatefulCbCount = b.pendingStatefulCbCount

theorem SameCounts.refl (a : SessionDesc) : SameCounts a a := ⟨rfl, rfl, rfl⟩

theorem SameCounts.trans {a b c : SessionDesc} (hab : SameCounts a b) (hbc : SameCounts b c) :
    SameCounts a c :=
  ⟨hab.kind.trans hbc.kind, hab.stateless.trans hbc.stateless, hab.stateful.trans hbc.stateful⟩

theorem SameCounts.pending {a b : SessionDesc} (h : SameCounts a b) (kind : SessionState) :
    a.pending kind = b.pending kind := by
  cases kind with
  | stateful => exact h.stateful
  | stateless => exact h.stateless

theorem markPacket_same (sess : SessionDesc) (dir : RequestDir) (flush : Flush) :
    SameCounts (markPacket sess dir flush).1 sess := by
  unfold markPacket
  split
  · simp only
    split
    · exact ⟨rfl, rfl, rfl⟩
    · exact SameCounts.refl sess
  · simp only
    split <;> split <;> cases dir <;> exact ⟨rfl, rfl, rfl⟩

variable {sess : SessionDesc} {svc : Service} {env : SubmitEnv} {args : ReqArgs}

theorem dcCreateRequest_same {sess' : SessionDesc} {cookie : Cookie}
    (h : dcCreateRequest svc sess args env = .ok (sess', cookie)) : SameCounts sess' sess := by
  unfold dcCreateRequest at h
  split at h
  · exact absurd h (by simp)
  · split at h
    · exact absurd h (by simp)
    · simp only at h
      split at h
      · exact absurd h (by simp)
      · simp only [Except.ok.injEq, Prod.mk.injEq] at h
        exact h.1 ▸ markPacket_same sess args.compDecomp _

section

variable (sess : SessionDesc)

theorem dcSendRequest_same (env : SubmitEnv) :
    (dcSendRequest sess env).1 = env.putMsg ∧ SameCounts (dcSendRequest sess env).2 sess := by
  unfold dcSendRequest
  split
  · exact ⟨rfl, rfl, rfl, rfl⟩
  · exact ⟨rfl, SameCounts.refl sess⟩

@[simp] theorem decPending_kind : sess.decPending.sessState = sess.sessState := by
  unfold decPending
  split <;> rfl

@[simp] theorem incStateless_kind : sess.incStateless.sessState = sess.sessState := by
  unfold incStateless
  split <;> rfl

/-- The failure exit uncounts one request of the session's kind. -/
theorem decPending_pending (kind : SessionState) :
    sess.decPending.pending kind = sess.pending kind - if sess.sessState = kind then 1 else 0 := by
  cases hstate : sess.sessState <;> cases kind <;> simp [decPending, pending, hstate]

/-- A request is counted here only in a stateless session. -/
theorem incStateless_pending (kind : SessionState) :
    sess.incStateless.pending kind = sess.pending kind +
      if sess.sessState = kind ∧ kind = .stateless then 1 else 0 := by
  cases hstate : sess.sessState <;> cases kind <;> simp [incStateless, pending, hstate]

/-- A response uncounts one request of the session's kind, unless the stateful counter is already
    zero. -/
theorem respPending_spec (h : sess.sessState = .stateful → sess.pendingStatefulCbCount ≠ 0) :
    sess.respPending = sess.decPending := by
  unfold respPending decPending
  cases hstate : sess.sessState with
  | stateless => rfl
  | stateful => simp [h hstate]

end

/-- How a submission changes the counters from where `dcCompDecompData` is entered: a stateful
    request has been counted already. -/
def CountsFrom (sess : SessionDesc) (out : Submitted) : Prop :=
  out.session.sessState = sess.sessState ∧ ∀ kind, out.session.pending kind = sess.pending kind +
      if sess.sessState = kind then
        (out.request.toList.length : Int) - if kind = .stateful then 1 else 0
      else 0

/-- Leaving with the session as it was fits a stateless session only. -/
theorem countsFrom_unchanged (h : sess.sessState = .stateless) (status : CpaStatus) :
    CountsFrom sess ⟨status, sess, none⟩ := by
  refine ⟨rfl, fun kind => ?_⟩
  cases kind <;> simp [h]

/-- Leaving through the failure exit before the request is counted fits a stateful session only. -/
theorem countsFrom_failed (h : sess.sessState = .stateful) (status : CpaStatus) :
    CountsFrom sess ⟨status, sess.decPending, none⟩ := by
  refine ⟨decPending_kind sess, fun kind => ?_⟩
  rw [decPending_pending]
  cases kind <;> simp [h, Int.sub_eq_add_neg]

/-- Once the request is built, every exit fits. -/
theorem countsFrom_sent {built : SessionDesc} (hsame : SameCounts built sess) (env : SubmitEnv)
    (cookie : Cookie) :
    CountsFrom sess (if (dcSendRequest built.incStateless env).1 = .success then
        ⟨(dcSendRequest built.incStateless env).1, (dcSendRequest built.incStateless env).2,
          some cookie⟩
      else
        ⟨(dcSendRequest built.incStateless env).1,
          (dcSendRequest built.incStateless env).2.decPending, none⟩) := by
  obtain ⟨_, hsend⟩ := dcSendRequest_same built.incStateless env
  have hkind : (dcSendRequest built.incStateless env).2.sessState = sess.sessState := by
    rw [hsend.kind, incStateless_kind, hsame.kind]
  have hpend : ∀ kind, (dcSendRequest built.incStateless env).2.pending kind = sess.pending kind +
      if sess.sessState = kind ∧ kind = .stateless then 1 else 0 := by
    intro kind
    rw [hsend.pending, incStateless_pending, hsame.pending, hsame.kind]
  split
  · refine ⟨hkind, fun kind => ?_⟩
    rw [hpend kind]
    cases kind <;> simp
  · refine ⟨(decPending_kind _).trans hkind, fun kind => ?_⟩
    rw [decPending_pending, hpend kind, hkind]
    -- what was counted for a stateless request is taken back, and so is the stateful count
    cases kind <;> cases sess.sessState <;> (simp; try omega)

theorem dcCompDecompDataBody_counts (hpool : sess.sessState = .stateful → env.poolActive)
    (hcreate : sess.sessState = .stateless → env.poolActive → (dcCreateRequest svc sess args
      env).isOk) : CountsFrom sess (dcCompDecompDataBody svc sess args env) := by
  unfold dcCompDecompDataBody
  split
  · next hinactive =>
    cases hstate : sess.sessState with
    | stateful => exact absurd (hpool hstate) hinactive
    | stateless => exact countsFrom_unchanged hstate _
  · next hactive =>
    split
    · next status herr =>
      cases hstate : sess.sessState with
      | stateful => exact countsFrom_failed hstate status
      | stateless =>
          have hok := hcreate hstate (by simpa using hactive)
          rw [herr] at hok
          exact absurd hok (by simp [Except.isOk, Except.toBool])
    · next built cookie hok => exact countsFrom_sent (dcCreateRequest_same hok) env cookie

theorem dcCompDecompData_counts
    (hfull : sess.sessState = .stateful → (sess.syncCb → env.syncCookie = .success) ∧
      env.poolActive)
    (hless : sess.sessState = .stateless → (sess.syncCb → env.syncCookie = .success) →
      env.poolActive → (dcCreateRequest svc sess args env).isOk) :
    CountsFrom sess (dcCompDecompData svc sess args env) := by
  unfold dcCompDecompData
  split
  · next hsync =>
    split
    · next hcookie =>
      -- the wait for the callback changes the status of a sent request only
      have hbody : CountsFrom sess (dcCompDecompDataBody svc sess args env) :=
        dcCompDecompDataBody_counts (fun h => (hfull h).2) (fun h => hless h (fun _ => hcookie))
      simp only
      split
      · exact hbody
      · exact hbody
    · next hcookie =>
      cases hstate : sess.sessState with
      | stateful => exact absurd ((hfull hstate).1 hsync) hcookie
      | stateless => exact countsFrom_unchanged hstate _
  · next hasync =>
    exact dcCompDecompDataBody_counts (fun h => (hfull h).2)
      (fun h => hless h (fun hsync => absurd hsync hasync))

/-! ## Admission -/

/-- The checks of an entry point leave the counters alone, except that an accepted stateful request
    is counted, and it is accepted only when none is. -/
def AdmissionCounts (sess : SessionDesc) : Admission → Prop
  | .reject _ sess' => SameCounts sess' sess
  | .accept sess' _ => sess'.sessState = sess.sessState ∧
      ∀ kind, sess'.pending kind = sess.pending kind +
        if sess.sessState = kind ∧ kind = .stateful then 1 else 0

theorem admissionCounts_accept (h : ¬ sess.sessState = .stateful) (args : ReqArgs) :
    AdmissionCounts sess (.accept sess args) := by
  refine ⟨rfl, fun kind => ?_⟩
  cases kind <;> simp [h]

theorem admitStateful_counts (h : sess.sessState = .stateful) (env : SubmitEnv) (args : ReqArgs)
    (empty : Bool) : AdmissionCounts sess (admitStateful sess env args empty) := by
  have hcounted : AdmissionCounts sess (.accept
      { sess with pendingStatefulCbCount := sess.pendingStatefulCbCount + 1 } args) := by
    refine ⟨rfl, fun kind => ?_⟩
    cases kind <;> simp [pending, h]
  unfold admitStateful
  split
  · exact SameCounts.refl sess
  · simp only
    split
    · split
      · next sess' _ hzero =>
        unfold dcZeroLengthRequests at hzero
        split at hzero
        · cases hzero
          exact ⟨rfl, rfl, rfl⟩
        · split at hzero
          · cases hzero
            exact SameCounts.refl _
          · exact absurd hzero (by simp)
      · exact hcounted
    · exact hcounted

theorem Admission.Ends.counts {a : Admission} (h : a.Ends sess env args) :
    AdmissionCounts sess a := by
  rcases h with ⟨status, -, rfl⟩ | ⟨empty, rfl⟩
  · exact SameCounts.refl sess
  · split
    · next hstate => exact admitStateful_counts hstate env args empty
    · next hstate => exact admissionCounts_accept hstate args

theorem admission_counts (svc : Service) (sess : SessionDesc) (env : SubmitEnv) (call : Call) :
    AdmissionCounts sess (call.admission svc sess env) := by
  cases call with
  | compressData flush checksum => exact (admitCompressData_ends svc sess env flush checksum).counts
  | compressData2 op checksum =>
    rw [Call.admission]
    rcases admitCompressData2_ends svc sess env op checksum with
      ⟨status, -, hreject⟩ | ⟨-, hends⟩ | ⟨-, hends⟩
    · rw [hreject]
      exact SameCounts.refl sess
    · exact hends.counts
    · exact hends.counts
  | decompressData flush checksum =>
    exact (admitDecompressData_ends svc sess env flush checksum).counts
  | decompressData2 op checksum => exact (admitDecompressData2_ends svc sess env op checksum).counts

/-! ## Runs -/

/-- Each counter is the number of requests of its kind in flight. -/
def CountersExact (st : DcState) : Prop := ∀ kind, st.session.pending kind = st.inFlight kind

/-- A balanced submission keeps the counters exact. -/
theorem CountersExact.submit {st : DcState} {call : Call} (h : CountersExact st)
    (hbal : SubmitBalanced svc st (.submit call env)) :
    CountersExact ⟨(call.run svc st.session env).session,
      st.ring ++ (call.run svc st.session env).request.toList⟩ := by
  have hadmit := admission_counts svc st.session env call
  unfold Call.run
  simp only [SubmitBalanced] at hbal
  intro kind
  have hkind := h kind
  generalize call.admission svc st.session env = adm at hadmit hbal ⊢
  cases adm with
  | reject status sess =>
      have hsame : SameCounts sess st.session := hadmit
      simp only [Admission.submit, DcState.inFlight, Option.toList_none, List.append_nil]
      rw [hsame.pending, hkind, DcState.inFlight, hsame.kind]
  | accept sess args =>
      obtain ⟨hstate, hpend⟩ := hadmit
      have hcounts : CountsFrom sess (dcCompDecompData svc sess args env) := by
        refine dcCompDecompData_counts (fun hs => ?_) (fun hs => ?_)
        · simpa only [hs] using hbal
        · simpa only [hs] using hbal
      obtain ⟨hstate', hpend'⟩ := hcounts
      simp only [Admission.submit, DcState.inFlight, hstate', hstate, List.length_append]
      rw [hpend' kind, hpend kind, hkind, DcState.inFlight, hstate]
      -- a stateful request was counted on admission, a stateless one when it was sent
      by_cases hk : st.session.sessState = kind
      · cases kind with
        | stateful =>
          rw [if_pos hk, if_pos ⟨hk, rfl⟩, if_pos hk, if_pos rfl, if_pos hk]
          omega
        | stateless =>
          rw [if_pos hk, if_neg (by simp), if_pos hk, if_neg (by simp), if_pos hk]
          omega
      · simp [hk]

theorem CountersExact.answer {st : DcState} {k : Nat} {cookie : Cookie} (h : CountersExact st)
    (hk : st.ring[k]? = some cookie)
    (hsess : ∃ sess', SameCounts sess' st.session ∧ sess = sess'.decPending) :
    CountersExact ⟨sess, st.ring.eraseIdx k⟩ := by
  obtain ⟨sess', hsame, rfl⟩ := hsess
  obtain ⟨hlt, _⟩ := List.getElem?_eq_some_iff.mp hk
  intro kind
  have hkind := h kind
  simp only [DcState.inFlight, decPending_kind, hsame.kind, List.length_eraseIdx, hlt, if_true]
  rw [decPending_pending, hsame.pending, hkind, DcState.inFlight, hsame.kind]
  split <;> omega

theorem respResults_same (svc : Service) (sess : SessionDesc) (cookie : Cookie) (resp : Response)
    (results : Option Results) (pass : Bool) (status : Int) :
    SameCounts (respResults svc sess cookie resp results pass status).1 sess := by
  unfold respResults
  split
  · exact SameCounts.refl sess
  · exact SameCounts.refl sess
  · simp only
    split
    · split <;> exact ⟨rfl, rfl, rfl⟩
    · exact ⟨rfl, rfl, rfl⟩

/-- Whatever the device answers, the callback uncounts the request once. -/
theorem processCallback_session (svc : Service) (sess : SessionDesc) (cookie : Cookie)
    (resp : Response) (results : Option Results) :
    ∃ sess', SameCounts sess' sess ∧
      (dcCompressionProcessCallback svc sess cookie resp results).1 = sess'.respPending := by
  unfold dcCompressionProcessCallback
  split
  · exact ⟨sess, SameCounts.refl sess, rfl⟩
  · refine ⟨_, ?_, rfl⟩
    exact (respResults_same svc _ cookie resp results _ _).trans ⟨rfl, rfl, rfl⟩

theorem CountersExact.step {st st' : DcState} {e : Event} (h : CountersExact st)
    (hbal : SubmitBalanced svc st e) (hstep : st.step svc e = some st') : CountersExact st' := by
  cases e with
  | submit call env =>
      cases hstep
      exact h.submit hbal
  | response k resp results =>
      obtain ⟨cookie, hk, rfl⟩ := Option.map_eq_some_iff.mp hstep
      obtain ⟨sess', hsame, hresp⟩ := processCallback_session svc st.session cookie resp results
      refine h.answer hk ⟨sess', hsame, hresp.trans (respPending_spec sess' fun hstate => ?_)⟩
      -- a request of the session is in flight, so the stateful counter is not zero
      have hpos : st.session.pending .stateful = st.ring.length := by
        simpa [DcState.inFlight, ← hsame.kind, hstate] using h .stateful
      obtain ⟨hlt, _⟩ := List.getElem?_eq_some_iff.mp hk
      have hcount : sess'.pendingStatefulCbCount = st.ring.length := hsame.stateful.trans hpos
      omega
  | swResponse k =>
      obtain ⟨cookie, hk, rfl⟩ := Option.map_eq_some_iff.mp hstep
      exact h.answer hk ⟨st.session, SameCounts.refl _, rfl⟩

/-- **The counters count the requests in flight.** In every run of submissions and responses in which
    each submission is balanced, both counters equal the number of requests of their kind on the
    ring; with nothing in flight both are zero. -/
theorem pending_eq_inFlight (svc : Service) (st : DcState)
    (hst : (dcSystem svc).ReachableBy (SubmitBalanced svc) st) :
    st.session.pendingStatelessCbCount = st.inFlight .stateless ∧
      st.session.pendingStatefulCbCount = st.inFlight .stateful ∧
      (st.ring = [] → st.session.pendingStatelessCbCount = 0 ∧
        st.session.pendingStatefulCbCount = 0) := by
  have h : CountersExact st := by
    refine hst.invariant CountersExact (fun s hs kind => ?_) (fun _ _ _ => CountersExact.step)
    obtain ⟨hring, _, hless, hful⟩ := hs
    cases kind <;> simp [pending, DcState.inFlight, hring, hless, hful]
  refine ⟨h .stateless, h .stateful, fun hring => ⟨?_, ?_⟩⟩
  · simpa [pending, DcState.inFlight, hring] using h .stateless
  · simpa [pending, DcState.inFlight, hring] using h .stateful

/-- A generation 4 service with all capabilities. -/
def gen4Service : Service where
  paramCheck := true
  isGen4 := true
  integrityCrcCheck := true
  cnvCapability := true
  cnvnrCapability := true
  interBuffersDefined := true
  minInterBuffSizeInBytes := 0
  minOutputBuffSizeDynamic := 0
  minOutputBuffSize := 0
  oddByteDecompNobFinal := true
  oddByteDecompInterim := true

/-- A C4XXX device, which checks the integrity as well and, being older, has stateful sessions. -/
def c4xxxService : Service := { gen4Service with isGen4 := false, minOutputBuffSize := 47 }

/-- A session as `dcInitSession` leaves it; a stateful one can only decompress. -/
def freshSession (kind : SessionState) (syncCb : Bool) : SessionDesc where
  sessState := kind
  sessDirection := if kind = .stateful then .decompress else .combined
  compType := .deflate
  huffType := .static
  checksumType := .crc32
  syncCb := syncCb
  requestType := .first
  previousRequestType := .first
  isSopForCompressionProcessed := false
  isSopForDecompressionProcessed := false
  cumulativeConsumedBytes := 0
  pendingStatelessCbCount := 0
  pendingStatefulCbCount := 0

/-- A submission in which everything outside succeeds. -/
def SubmitEnv.ok : SubmitEnv where
  handlesOk := true
  notRunning := none
  srcBuffSize := some 64
  buffersOk := true
  destBuffSize := some 64
  syncCookie := .success
  syncStatus := .success
  poolActive := true
  srcDesc := .success
  srcTotalDataLenInBytes := 64
  dstDesc := .success
  dstTotalDataLenInBytes := 64
  crcAddrOk := true
  putMsg := .success
  stateChecksum := 0

/-- Two requests are sent, a third finds the ring full: two are in flight and counted. -/
theorem pending_eq_inFlight_two_sent :
    ∃ st, (dcSystem gen4Service).ReachableBy (SubmitBalanced gen4Service) st ∧
      st.ring.length = 2 ∧ st.session.pendingStatelessCbCount = 2 := by
  have hst : (dcSystem gen4Service).ReachableBy (SubmitBalanced gen4Service) _ :=
    ⟨⟨freshSession .stateless false, []⟩, ⟨rfl, rfl, rfl, rfl⟩,
      .head (e := .submit (.compressData .final 0) .ok) (fun _ _ => rfl) rfl <|
      .head (e := .submit (.decompressData .final 0) .ok) (fun _ _ => rfl) rfl <|
      .head (e := .submit (.compressData .final 0) { SubmitEnv.ok with putMsg := .retry })
        (fun _ _ => rfl) rfl <| .refl _⟩
  exact ⟨_, hst, rfl, (pending_eq_inFlight gen4Service _ hst).1.trans rfl⟩

/-- The exits that do not fit. With nothing in flight the stateless counter is -1 after a submission
    whose source descriptor cannot be written, and the stateful counter is 1 after a submission that
    finds the pool inactive or gets no cookie to wait on. -/
theorem pending_count_wrong :
    (∃ st, (dcSystem gen4Service).Reachable st ∧ st.ring = [] ∧
      st.session.pendingStatelessCbCount = -1) ∧
    (∃ st, (dcSystem c4xxxService).Reachable st ∧ st.ring = [] ∧
      st.session.pendingStatefulCbCount = 1) ∧
    ∃ st, (dcSystem c4xxxService).Reachable st ∧ st.session.syncCb ∧ st.ring = [] ∧
      st.session.pendingStatefulCbCount = 1 := by
  refine ⟨⟨_, System.reachable_of_exec ⟨freshSession .stateless false, []⟩
      [.submit (.compressData .final 0) { SubmitEnv.ok with srcDesc := .fail }]
      ⟨rfl, rfl, rfl, rfl⟩ rfl, rfl, rfl⟩,
    ⟨_, System.reachable_of_exec ⟨freshSession .stateful false, []⟩
      [.submit (.decompressData .final 0) { SubmitEnv.ok with poolActive := false }]
      ⟨rfl, rfl, rfl, rfl⟩ rfl, rfl, rfl⟩,
    ⟨_, System.reachable_of_exec ⟨freshSession .stateful true, []⟩
      [.submit (.decompressData .final 0) { SubmitEnv.ok with syncCookie := .resource }]
      ⟨rfl, rfl, rfl, rfl⟩ rfl, rfl, rfl, rfl⟩⟩

end Qatlib.Compression
