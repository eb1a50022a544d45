import Qatlib.Lib.ByteLayout
import Qatlib.Lib.History
import Qatlib.Compression.Pending
import Qatlib.Compression.NoSession

set_option autoImplicit false

/-! # One gzip stream over several requests

A stateless session with a CRC32 checksum compresses a stream by several requests, submitted one at a
time with one results structure. Its position in the stream is kept in `requestType` and in
`cumulativeConsumedBytes`: the counter is reset when a first request is built, the request type and
the counter are updated by the callback. `cpaDcGenerateFooter` closes the stream with what the last
response left. -/

namespace Qatlib.Compression

/-! ## The footer -/

/-- `DC_GZIP_FOOTER_SIZE`. -/
def dcGzipFooterSize : Nat := 8

/-- `DC_LZ4_FF_END_MARK`. -/
def dcLz4FfEndMark : BitVec 32 := 0

/-- Write a footer at the start of the destination and add its size to the produced bytes. -/
def writeFooter (svc : Service) (footer : List UInt8) (dest : List UInt8) (res : Results) :
    CpaStatus × List UInt8 × Results :=
  if svc.paramCheck && decide (dest.length < footer.length) then (.invalidParam, dest, res)
  else (.success, footer ++ dest.drop footer.length,
    { res with produced := (res.produced + footer.length) % 2 ^ 32 })

/-- `dc_lz4_generate_footer`. -/
def lz4Footer (res : Results) : List UInt8 :=
  bytesOf 4 dcLz4FfEndMark ++ bytesOf 4 (BitVec.ofNat 32 res.checksum)

/-- The CRC and the length of the uncompressed data, the lowest byte of each first. -/
def gzipFooter (sess : SessionDesc) (res : Results) : List UInt8 :=
  bytesOf 4 (BitVec.ofNat 32 res.checksum) ++ bytesOf 4 sess.cumulativeConsumedBytes.toBitVec

/-- The Adler checksum, its highest byte first. -/
def zlibFooter (res : Results) : List UInt8 := (bytesOf 4 (BitVec.ofNat 32 res.checksum)).reverse

section

variable (resp : Response) (svc : Service) (sess : SessionDesc) (cookie : Cookie)

/-- `cpaDcGenerateFooter`: the status, the destination buffer and the results. -/
def cpaDcGenerateFooter (handlesOk : Bool) (sess : SessionDesc) (dest : List UInt8)
    (res : Results) : CpaStatus × List UInt8 × Results :=
  if svc.paramCheck && (!handlesOk || decide (sess.sessDirection = .decompress)) then
    (.invalidParam, dest, res)
  else
    match sess.compType, sess.checksumType with
    | .deflate, .crc32 => writeFooter svc (gzipFooter sess res) dest res
    | .deflate, .adler32 => writeFooter svc (zlibFooter res) dest res
    | .lz4, _ => writeFooter svc (lz4Footer res) dest res
    | _, _ => (.success, dest, res)

/-! ## The stream -/

/-- A request of the stream: a call of `cpaDcCompressData` or of `cpaDcCompressData2`. -/
inductive StreamRequest where
  | compressData (flush : Flush)
  | compressData2 (op : OpData)

def StreamRequest.flushFlag : StreamRequest → Flush
  | .compressData flush => flush
  | .compressData2 op => op.flushFlag

/-- The call, with the checksum found in the results structure. -/
def StreamRequest.call (checksum : Nat) : StreamRequest → Call
  | .compressData flush => .compressData flush checksum
  | .compressData2 op => .compressData2 op checksum

/-- The request goes through the translator slice. -/
def Translates : Bool :=
  decide (cookie.compDecomp = .compression ∧ sess.huffType = .fullDynamic)

/-- Every slice reports success. -/
def Response.Succeeds : Bool :=
  (cancelIncomplete svc sess resp).1 && (!Translates sess cookie || resp.xlatStatOk)

/-- Not every slice reports success, and those that do not report an overflow. -/
def Response.Overflows : Bool :=
  !resp.Succeeds svc sess cookie && ((cancelIncomplete svc sess resp).1 ||
      decide ((cancelIncomplete svc sess resp).2 = dcOverflow)) &&
    (!Translates sess cookie || resp.xlatStatOk || decide (resp.xlatErr = dcOverflow))

/-- The response is success or overflow, and the software finds the integrity checksums right. -/
def Response.Answers : Bool :=
  !resp.unsupported && (resp.Succeeds svc sess cookie || resp.Overflows svc sess cookie) &&
    !(svc.integrityCrcCheck && cookie.integrityCrcCheck && cookie.hasCrcData &&
      decide (resp.integrity.1 = dcCrcIntegErr))

end

/-- What was sent and answered. -/
structure Served where
  flushFlag : Flush
  /-- The initial checksum of the request. -/
  initialCrc32 : Nat
  /-- The response was success and not overflow. -/
  succeeded : Bool
  /-- What the results said then. -/
  consumed : UInt32
  checksum : Nat

/-- A session with its results structure and the record of the stream. -/
structure StreamState where
  session : SessionDesc
  results : Results
  served : List Served

section

variable (svc : Service) (st : StreamState)

/-- The stream ends with a FINAL request that completes with success. -/
def StreamState.Ended : Bool :=
  st.served.getLast?.any fun r => decide (r.flushFlag = .final) && r.succeeded

/-- A request, what the outside answers while it is submitted, and the response if it is sent. -/
structure Exchange where
  request : StreamRequest
  env : SubmitEnv
  resp : Response

/-- The request was submitted, and answered if it was put on the ring. -/
def StreamState.exchange (x : Exchange) : Submitted → StreamState
  | ⟨_, sess, none⟩ => { st with session := sess }
  | ⟨_, sess, some cookie⟩ =>
      let out := dcCompressionProcessCallback svc sess cookie x.resp (some st.results)
      let results := out.2.1.getD st.results
      { session := out.1
        results := results
        served := st.served ++ [
          { flushFlag := x.request.flushFlag
            initialCrc32 := cookie.request.initialCrc32
            succeeded := x.resp.Succeeds svc sess cookie
            consumed := results.consumed
            checksum := results.checksum }] }

/-- The submission of the next request. -/
def StreamState.submit (req : StreamRequest) (env : SubmitEnv) : Submitted :=
  (req.call st.results.checksum).run svc st.session env

/-- One stream: a stateless session that is about to send a first request, whatever it was used for
    before. A request that the library or the ring refuses may be tried again. -/
def gzipStream : System StreamState Exchange where
  Init st := st.session.sessState = .stateless ∧ st.session.compType = .deflate ∧
    st.session.checksumType = .crc32 ∧ st.session.sessDirection ≠ .decompress ∧
    st.session.requestType = .first ∧ st.served = []
  step st x :=
    let out := st.submit svc x.request x.env
    if !st.Ended && out.request.all (fun cookie => x.resp.Answers svc out.session cookie) then
      some (st.exchange svc x out)
    else none

end

/-! ## Submission -/

/-- What building a request does to a stateless session: a first request resets the counter. -/
def SessionDesc.reset (sess : SessionDesc) : SessionDesc :=
  if sess.requestType = .first then { sess with cumulativeConsumedBytes := 0 } else sess

variable {sess sess' : SessionDesc} {svc : Service} {env : SubmitEnv} {cookie : Cookie}
  {st : StreamState} {args : ReqArgs} {resp : Response}

theorem markPacket_stateless (h : sess.sessState = .stateless) (dir : RequestDir) (flush : Flush) :
    markPacket sess dir flush = (sess.reset, true, true) := by
  unfold markPacket
  split
  · rfl
  · next hful =>
    rw [h] at hful
    cases hful

/-- A built request of a stateless session with a CRC32 checksum. -/
structure Built (sess : SessionDesc) (args : ReqArgs) (cookie : Cookie) : Prop where
  dir : cookie.compDecomp = args.compDecomp
  flush : cookie.flushFlag = (args.opData.map OpData.flushFlag).getD args.flushFlag
  seed : cookie.request.initialCrc32 =
    if sess.requestType = .subsequent then args.checksum else 0

theorem dcCreateRequest_built (hstate : sess.sessState = .stateless)
    (hcrc : sess.checksumType = .crc32)
    (h : Compression.dcCreateRequest svc sess args env = .ok (sess', cookie)) :
    sess' = sess.reset ∧ Built sess args cookie := by
  unfold Compression.dcCreateRequest at h
  split at h
  · cases h
  split at h
  · cases h
  dsimp only at h
  split at h
  · cases h
  rw [markPacket_stateless hstate] at h
  obtain ⟨hsess, hcookie⟩ := Prod.mk.inj (Except.ok.inj h)
  refine ⟨hsess.symm, ?_, ?_, ?_⟩
  · rw [← hcookie]
  · rw [← hcookie]
  · rw [← hcookie]
    simp [hstate, hcrc]

/-- The session after an attempt that put nothing on the ring: the counter of a stream that has begun
    is as it was. -/
def KeepsStream (sess sess' : SessionDesc) : Prop :=
  ∃ consumed pending, sess' = { sess with
      cumulativeConsumedBytes := consumed, pendingStatelessCbCount := pending } ∧
    (sess.requestType = .subsequent → consumed = sess.cumulativeConsumedBytes)

theorem KeepsStream.refl (sess : SessionDesc) : KeepsStream sess sess :=
  ⟨sess.cumulativeConsumedBytes, sess.pendingStatelessCbCount, rfl, fun _ => rfl⟩

theorem KeepsStream.decPending (hstate : sess.sessState = .stateless) (h : KeepsStream sess sess') :
    KeepsStream sess sess'.decPending := by
  obtain ⟨consumed, pending, rfl, hkeep⟩ := h
  refine ⟨consumed, pending - 1, ?_, hkeep⟩
  rw [SessionDesc.decPending, if_pos hstate]

theorem KeepsStream.incStateless (hstate : sess.sessState = .stateless)
    (h : KeepsStream sess sess') : KeepsStream sess sess'.incStateless := by
  obtain ⟨consumed, pending, rfl, hkeep⟩ := h
  refine ⟨consumed, pending + 1, ?_, hkeep⟩
  rw [SessionDesc.incStateless, if_pos hstate]

theorem keepsStream_reset (sess : SessionDesc) : KeepsStream sess sess.reset := by
  unfold SessionDesc.reset
  split
  · next hfirst =>
    exact ⟨0, sess.pendingStatelessCbCount, rfl, fun hsub => absurd (hfirst.symm.trans hsub) (by decide)⟩
  · exact KeepsStream.refl sess

/-- A submission to a stateless session with a CRC32 checksum: the session is left to the next
    attempt, and a request on the ring carries the seed of its place in the stream. -/
structure SubmitsStream (sess : SessionDesc) (args : ReqArgs) (out : Submitted) : Prop where
  keeps : KeepsStream sess out.session
  built : ∀ cookie, out.request = some cookie →
    (sess.requestType = .first → out.session.cumulativeConsumedBytes = 0) ∧ Built sess args cookie

theorem dcSendRequest_stateless (h : sess.sessState = .stateless) (env : SubmitEnv) :
    dcSendRequest sess env = (env.putMsg, sess) := by
  rw [dcSendRequest, if_neg]
  rw [h]
  simp

theorem dcCompDecompDataBody_stream (hstate : sess.sessState = .stateless)
    (hcrc : sess.checksumType = .crc32) :
    SubmitsStream sess args (dcCompDecompDataBody svc sess args env) := by
  unfold dcCompDecompDataBody
  split
  · exact ⟨KeepsStream.refl sess, fun _ h => by cases h⟩
  split
  · exact ⟨(KeepsStream.refl sess).decPending hstate, fun _ h => by cases h⟩
  next _ cookie hcreate =>
    obtain ⟨rfl, hbuilt⟩ := dcCreateRequest_built hstate hcrc hcreate
    have hkeeps : KeepsStream sess sess.reset.incStateless :=
      (keepsStream_reset sess).incStateless hstate
    have hstate' : sess.reset.incStateless.sessState = .stateless := by
      obtain ⟨_, _, heq, _⟩ := hkeeps
      rw [heq, ← hstate]
    simp only [dcSendRequest_stateless hstate']
    split
    · refine ⟨hkeeps, fun _ h => ?_⟩
      cases h
      refine ⟨fun hfirst => ?_, hbuilt⟩
      rw [SessionDesc.reset, if_pos hfirst, SessionDesc.incStateless, if_pos hstate]
    · exact ⟨hkeeps.decPending hstate, fun _ h => by cases h⟩

theorem dcCompDecompData_stream (hstate : sess.sessState = .stateless)
    (hcrc : sess.checksumType = .crc32) :
    SubmitsStream sess args (dcCompDecompData svc sess args env) := by
  have hbody : SubmitsStream sess args (dcCompDecompDataBody svc sess args env) :=
    dcCompDecompDataBody_stream hstate hcrc
  unfold dcCompDecompData
  split
  · split
    · dsimp only
      split
      · exact ⟨hbody.keeps, hbody.built⟩
      · exact hbody
    · exact ⟨KeepsStream.refl sess, fun _ h => by cases h⟩
  · exact hbody

variable {checksum : Nat} {status : CpaStatus} {req : StreamRequest} {x : Exchange}
  {dest : List UInt8}

section

variable (hstate : sess.sessState = .stateless)
include hstate

theorem admitCompressData2_reject {op : OpData}
    (h : admitCompressData2 svc sess env op checksum = .reject status sess') : sess' = sess := by
  rcases admitCompressData2_ends svc sess env op checksum with
    ⟨code, -, hreject⟩ | ⟨-, hplain⟩ | ⟨-, hverified⟩
  · rw [hreject] at h
    exact (Admission.reject.inj h).2.symm
  · exact hplain.rejected hstate h
  · exact hverified.rejected hstate h

theorem StreamRequest.reject
    (h : (req.call checksum).admission svc sess env = .reject status sess') : sess' = sess := by
  cases req with
  | compressData flush => exact (admitCompressData_ends ..).rejected hstate h
  | compressData2 op => exact admitCompressData2_reject hstate h

theorem StreamRequest.accept (h : (req.call checksum).admission svc sess env = .accept sess' args) :
    sess' = sess ∧ args.compDecomp = .compression ∧ args.checksum = checksum ∧
      (args.opData.map OpData.flushFlag).getD args.flushFlag = req.flushFlag := by
  cases req with
  | compressData flush =>
      obtain ⟨rfl, rfl⟩ := (admitCompressData_ends ..).accepted hstate h
      exact ⟨rfl, rfl, rfl, rfl⟩
  | compressData2 op =>
      obtain ⟨rfl, -, rfl | ⟨-, -, rfl⟩⟩ := Fw.admitCompressData2_accept hstate h
      · exact ⟨rfl, rfl, rfl, rfl⟩
      · exact ⟨rfl, rfl, rfl, rfl⟩

end

/-- A request on the ring: its direction, its flush flag, and the seed of its place in the stream. -/
structure StreamState.Sends (st : StreamState) (req : StreamRequest) (cookie : Cookie) : Prop where
  dir : cookie.compDecomp = .compression
  flush : cookie.flushFlag = req.flushFlag
  seed : cookie.request.initialCrc32 =
    if st.session.requestType = .subsequent then st.results.checksum else 0

theorem StreamState.submit_spec (st : StreamState) (svc : Service) (req : StreamRequest)
    (env : SubmitEnv) (hstate : st.session.sessState = .stateless)
    (hcrc : st.session.checksumType = .crc32) :
    KeepsStream st.session (st.submit svc req env).session ∧
      ∀ cookie, (st.submit svc req env).request = some cookie → (st.session.requestType = .first →
          (st.submit svc req env).session.cumulativeConsumedBytes = 0) ∧ st.Sends req cookie := by
  unfold StreamState.submit Call.run
  cases hadm : (req.call st.results.checksum).admission svc st.session env with
  | reject status sess' =>
      obtain rfl := StreamRequest.reject hstate hadm
      exact ⟨KeepsStream.refl _, fun _ h => by cases h⟩
  | accept sess' args =>
      obtain ⟨rfl, hdir, hsum, hflush⟩ := StreamRequest.accept hstate hadm
      have hsub : SubmitsStream st.session args (dcCompDecompData svc st.session args env) :=
        dcCompDecompData_stream hstate hcrc
      refine ⟨hsub.keeps, fun cookie hcookie => ?_⟩
      obtain ⟨hzero, hbuilt⟩ := hsub.built cookie hcookie
      exact ⟨hzero, hbuilt.dir.trans hdir, hbuilt.flush.trans hflush, hsum ▸ hbuilt.seed⟩

/-! ## The response -/

/-- Results of a request that passed: the consumed bytes are added to the session. -/
theorem respResults_pass
    (hinteg : (svc.integrityCrcCheck && cookie.integrityCrcCheck && cookie.hasCrcData && decide
      (resp.integrity.1 = dcCrcIntegErr)) = false) (sess : SessionDesc) (r : Results)
    (status : Int) :
    ∃ r' ret, r'.consumed = resp.inputByteCounter ∧
      respResults svc sess cookie resp (some r) true status = ({ sess with
          cumulativeConsumedBytes :=
            sess.cumulativeConsumedBytes + resp.inputByteCounter.toUInt64 },
          some r', ret) := by
  unfold respResults
  dsimp only
  split
  · next he2e =>
    split
    · next herr =>
      rw [he2e, herr] at hinteg
      exact absurd hinteg (by decide)
    · exact ⟨_, _, rfl, rfl⟩
  · exact ⟨_, _, rfl, rfl⟩

/-- The verdict of the callback on both slices, once the overflows are forgiven. -/
def Response.Passes (resp : Response) (svc : Service) (sess : SessionDesc) (cookie : Cookie) :
    Bool :=
  let overflowOk := decide (sess.sessState = .stateful ∨ cookie.compDecomp = .compression)
  let xlatErr := if Translates sess cookie then resp.xlatErr else 0
  ((cancelIncomplete svc sess resp).1 ||
      (overflowOk && decide ((cancelIncomplete svc sess resp).2 = dcOverflow))) &&
    ((!Translates sess cookie || resp.xlatStatOk) || (overflowOk && decide (xlatErr = dcOverflow)))

/-- The error code that the callback reports. -/
def Response.code (resp : Response) (svc : Service) (sess : SessionDesc) (cookie : Cookie) : Int :=
  let xlatErr := if Translates sess cookie then resp.xlatErr else 0
  let cmpErr := (cancelIncomplete svc sess resp).2
  if Translates sess cookie ∧ (cmpErr = 0 ∨ xlatErr = dcFatalErr) then xlatErr else cmpErr

theorem processCallback_supported (h : resp.unsupported = false) (results : Option Results) :
    dcCompressionProcessCallback svc sess cookie resp results =
      let out := respResults svc { sess with
          requestType := nextRequestType cookie.flushFlag (resp.Succeeds svc sess cookie) } cookie resp
        results (resp.Passes svc sess cookie) (resp.code svc sess cookie)
      (out.1.respPending, out.2) := by
  unfold dcCompressionProcessCallback
  rw [if_neg (by simp [h])]
  rfl

section

variable (hok : sess.sessState = .stateful ∨ cookie.compDecomp = .compression)
include hok

theorem Response.Answers.passes (h : resp.Answers svc sess cookie = true) :
    resp.unsupported = false ∧ resp.Passes svc sess cookie = true ∧
      (svc.integrityCrcCheck && cookie.integrityCrcCheck && cookie.hasCrcData &&
        decide (resp.integrity.1 = dcCrcIntegErr)) = false := by
  unfold Response.Answers Response.Overflows Response.Succeeds at h
  unfold Response.Passes
  grind

/-- **A response that is success or overflow**, where an overflow is a valid outcome. The consumed
    bytes are added, and the next request is a first one exactly after a FINAL request that
    succeeded. -/
theorem processCallback_answers (hans : resp.Answers svc sess cookie = true) (r : Results) :
    ∃ r' ret, r'.consumed = resp.inputByteCounter ∧
      dcCompressionProcessCallback svc sess cookie resp (some r) = ({ sess with
            requestType := nextRequestType cookie.flushFlag (resp.Succeeds svc sess cookie)
            cumulativeConsumedBytes :=
              sess.cumulativeConsumedBytes + resp.inputByteCounter.toUInt64 }.respPending, some r', ret) := by
  obtain ⟨hsup, hpass, hinteg⟩ := Response.Answers.passes hok hans
  obtain ⟨r', ret, hcons, hres⟩ := respResults_pass hinteg
    { sess with requestType := nextRequestType cookie.flushFlag (resp.Succeeds svc sess cookie) } r
    (resp.code svc sess cookie)
  refine ⟨r', ret, hcons, ?_⟩
  rw [processCallback_supported hsup, hpass, hres]

end

/-! ## The stream along a run -/

section

variable (served : List Served)

/-- The checksum of the last response of a record, 0 before the first. -/
def lastChecksum : Nat := (served.getLast?.map Served.checksum).getD 0

/-- The bytes consumed by the requests of a record. -/
def totalConsumed : Nat :=
  served.foldl (fun total r => total + r.consumed.toNat) 0

/-- The requests of a record chain their checksums. -/
def Chained : Prop :=
  EachAfter (fun prior r => r.initialCrc32 = lastChecksum prior) served

theorem lastChecksum_snoc (r : Served) : lastChecksum (served ++ [r]) = r.checksum := by
  rw [lastChecksum, List.getLast?_concat]
  rfl

theorem totalConsumed_snoc (r : Served) :
    totalConsumed (served ++ [r]) = totalConsumed served + r.consumed.toNat := by
  simp [totalConsumed]

/-- The stream so far: its position is that of the record, the counter and the results hold what the
    record adds up to. -/
structure StreamOk (st : StreamState) : Prop where
  kind : st.session.sessState = .stateless
  deflate : st.session.compType = .deflate
  crc : st.session.checksumType = .crc32
  dir : st.session.sessDirection ≠ .decompress
  position : st.session.requestType =
    if st.served = [] ∨ st.Ended = true then .first else .subsequent
  total : st.served ≠ [] → st.session.cumulativeConsumedBytes = .ofNat (totalConsumed st.served)
  last : st.served ≠ [] → st.results.checksum = lastChecksum st.served
  chained : Chained st.served

theorem StreamOk.refused (h : StreamOk st) (hopen : st.Ended = false)
    (hkeep : KeepsStream st.session sess) : StreamOk { st with session := sess } := by
  obtain ⟨consumed, pending, rfl, hcons⟩ := hkeep
  refine ⟨h.kind, h.deflate, h.crc, h.dir, h.position, fun hne => ?_, h.last, h.chained⟩
  have hsub : st.session.requestType = .subsequent := by
    rw [h.position, if_neg]
    simpa [hopen] using hne
  exact (hcons hsub).trans (h.total hne)

theorem StreamOk.answered (h : StreamOk st) (hopen : st.Ended = false)
    (hkeep : KeepsStream st.session sess)
    (hreset : st.session.requestType = .first → sess.cumulativeConsumedBytes = 0)
    (hsends : st.Sends x.request cookie) (hans : x.resp.Answers svc sess cookie = true) :
    StreamOk (st.exchange svc x ⟨status, sess, some cookie⟩) := by
  obtain ⟨consumed, pending, rfl, hcons⟩ := hkeep
  obtain ⟨r, ret, hr, hcallback⟩ := processCallback_answers (.inr hsends.dir) hans st.results
  -- where the request stands in the stream
  have hplace : st.session.requestType = if st.served = [] then .first else .subsequent := by
    simpa [hopen] using h.position
  have hconsumed : consumed = .ofNat (totalConsumed st.served) := by
    by_cases hnil : st.served = []
    · rw [if_pos hnil] at hplace
      rw [hnil]
      exact hreset hplace
    · rw [if_neg hnil] at hplace
      exact (hcons hplace).trans (h.total hnil)
  have hseed : cookie.request.initialCrc32 = lastChecksum st.served := by
    rw [hsends.seed, hplace]
    by_cases hnil : st.served = []
    · simp [hnil, lastChecksum]
    · simpa [hnil] using h.last hnil
  simp only [StreamState.exchange, hcallback, Option.getD_some]
  rw [SessionDesc.respPending, if_pos h.kind]
  refine ⟨h.kind, h.deflate, h.crc, h.dir, ?_, fun _ => ?_, fun _ => ?_, ?_⟩
  · simp [StreamState.Ended, nextRequestType, hsends.flush]
  · rw [totalConsumed_snoc, hr, hconsumed, UInt64.ofNat_add, UInt64.ofNat_uInt32ToNat]
  · rw [lastChecksum_snoc]
  · exact h.chained.snoc hseed

theorem StreamOk.step {st' : StreamState} (h : StreamOk st)
    (hstep : (gzipStream svc).step st x = some st') : StreamOk st' := by
  obtain ⟨hcond, hst'⟩ := Option.ite_none_right_eq_some.mp hstep
  obtain ⟨hopen, hans⟩ := Bool.and_eq_true_iff.mp hcond
  rw [Bool.not_eq_true'] at hopen
  cases hst'
  obtain ⟨hkeep, hsent⟩ := st.submit_spec svc x.request x.env h.kind h.crc
  generalize st.submit svc x.request x.env = out at hkeep hsent hans
  obtain ⟨status, sess, request⟩ := out
  cases request with
  | none => exact h.refused hopen hkeep
  | some cookie =>
      obtain ⟨hreset, hsends⟩ := hsent cookie rfl
      exact h.answered hopen hkeep hreset hsends hans

theorem streamOk_of_reachable (hst : (gzipStream svc).Reachable st) : StreamOk st := by
  refine hst.invariant StreamOk (fun s hs => ?_) (fun _ _ _ h _ => h.step)
  obtain ⟨hkind, hdeflate, hcrc, hdir, hfirst, hnil⟩ := hs
  refine ⟨hkind, hdeflate, hcrc, hdir, by simp [hnil, hfirst], absurd hnil, absurd hnil, ?_⟩
  rw [hnil]
  exact eachAfter_nil _

/-! ## The trailer -/

theorem writeFooter_fits {footer : List UInt8} (h : footer.length ≤ dest.length) (res : Results) :
    writeFooter svc footer dest res = (.success, footer ++ dest.drop footer.length,
      { res with produced := (res.produced + footer.length) % 2 ^ 32 }) := by
  rw [writeFooter, if_neg]
  simp [Nat.not_lt.mpr h]

/-- The footer of a stream: the last checksum and the total length modulo `2 ^ 32`. -/
def trailer : List UInt8 :=
  bytesOf 4 (BitVec.ofNat 32 (lastChecksum served)) ++
    bytesOf 4 (BitVec.ofNat 32 (totalConsumed served))

end

theorem StreamOk.footer (h : StreamOk st) (hne : st.served ≠ [])
    (hlen : dcGzipFooterSize ≤ dest.length) :
    cpaDcGenerateFooter svc true st.session dest st.results =
      (.success, trailer st.served ++ dest.drop dcGzipFooterSize,
        { st.results with produced := (st.results.produced + dcGzipFooterSize) % 2 ^ 32 }) := by
  have hfooter : gzipFooter st.session st.results = trailer st.served := by
    rw [gzipFooter, trailer, h.last hne, h.total hne]
    exact congrArg _ (bytesOf_ofNat (by decide) (by decide) _)
  have hsize : (trailer st.served).length = dcGzipFooterSize := by simp [trailer, dcGzipFooterSize]
  rw [cpaDcGenerateFooter, if_neg (by simp [h.dir]), h.deflate, h.crc]
  dsimp only
  rw [hfooter, writeFooter_fits (hsize ▸ hlen), hsize]

/-- A response of the device after which `consumed` bytes are used up. -/
def sampleResponse (overflow : Bool) (consumed : UInt32) (crc : Nat) : Response where
  unsupported := false
  cmpStatOk := !overflow
  xlatStatOk := true
  cmpErr := if overflow then dcOverflow else 0
  xlatErr := 0
  inputByteCounter := consumed
  outputByteCounter := 16
  currCrc32 := crc
  currAdler32 := 1
  integrity := (0, 0)

end Qatlib.Compression
