import Mathlib.Data.List.Range
import Qatlib.Compression.CookiePool
import Qatlib.Utils.SwResponses

set_option autoImplicit false

/-! # Device errors on a compression instance

On a device error the cookie pool is disabled (`SalCtrl_CompressionError`), the requests in flight are
answered by `LacSwResp_GenResp`, and a restart (`SalCtrl_CompressionRestarted`) enables the pool again
and starts with a new ring. `called` records the callbacks, and the requests are numbered in the order
in which they were accepted.

`DcInstance.Answered` is the invariant behind "exactly once, in order": the callbacks called so far
followed by the requests on the ring are all accepted requests in order, and the cookie of a
session-based request on the ring carries its sequence number or is about to be marked with it. Nothing
of the kind holds for the cookies of no-session requests. A request must not be answered before its
cookie is marked: the cookie may be that of a later request by then. -/

namespace Qatlib.Compression

open Qatlib.Utils Function

/-! ## The system -/

/-- What can happen on an instance whose device may fail. -/
inductive DcErrorEvent where
  | run (e : DcEvent)
  | deviceError
  /-- `LacSwResp_GenResp`, with the answer of `osalMemAlloc`. -/
  | genResp (memAlloc : Bool)
  | restart

namespace DcInstance

/-- One round of `dcCompression_SwRespMsgCallback`. `none`: `pSessionDesc` is NULL and read through. -/
def swRespMsgCallback (s : DcInstance) (b : Nat) : Option DcInstance :=
  match s.cookie b with
  | .session k _ tag =>
      some { s with
        sessions := update s.sessions k (dcCompressionSwRespMsgCallback (s.sessions k))
        waiting := s.waiting.filter (·.callbackTag ≠ tag)
        called := s.called ++ [tag] }
  | .dcns _ => none

/-- `LacSwResp_GenResp`. It is called when the device does not answer any more: after the call that
    goes through the blocks nothing is left on the ring. -/
def genResp (s : DcInstance) (memAlloc : Bool) : Option DcInstance :=
  (s.compressionMemPool.genResp memAlloc).bind fun r =>
    (r.blks.foldlM swRespMsgCallback s).map fun t =>
      { t with
        compressionMemPool := r.pool
        ring := if s.compressionMemPool.Generates then [] else s.ring }

/-- `SalCtrl_CompressionRestarted`. -/
def restarted (s : DcInstance) : DcInstance :=
  { s with
    compressionMemPool := s.compressionMemPool.enable.initCookies
    sendSeq := 0
    ring := [] }

/-- One step with a device that may fail; `LacSwResp_GenResp` has been called before a restart. -/
def errorStep (svc : Service) (s : DcInstance) : DcErrorEvent → Option DcInstance
  | .run e => s.step svc e
  | .deviceError => some { s with compressionMemPool := s.compressionMemPool.disable }
  | .genResp memAlloc => s.genResp memAlloc
  | .restart =>
      if s.compressionMemPool.active = false ∧ s.compressionMemPool.sync ≤ 0 then some s.restarted
      else none

end DcInstance

/-- A compression instance whose device may fail. -/
def dcWithErrors (svc : Service) : System DcInstance DcErrorEvent where
  Init := DcInstance.Fresh
  step := DcInstance.errorStep svc

/-- Responses come in the order of the ring, each after the cookie was marked, and no no-session caller
    gives up its wait. -/
def DcEvent.InRingOrder (s : DcInstance) (e : DcEvent) : Prop :=
  e.NsAnswered s ∧
    match e with
    | .response b _ _ => s.ring.head? = some b ∧ b ∉ s.marking.map Prod.fst
    | _ => True

/-- Steps in ring order; when dummy responses are generated there is memory for the bucket, no
    no-session request is in flight and no cookie is still to be marked. -/
def DcErrorEvent.SessionsInFlight (s : DcInstance) : DcErrorEvent → Prop
  | .run e => e.InRingOrder s
  | .genResp memAlloc => s.compressionMemPool.Generates →
      memAlloc = true ∧ s.marking = [] ∧ ∀ b ∈ s.ring, (s.cookie b).noSession = false
  | .deviceError | .restart => True

instance (s : DcInstance) : (e : DcEvent) → Decidable (e.InRingOrder s)
  | .response .. | .submit .. | .submitNs _ | .mark _ | .timeout _ =>
      inferInstanceAs (Decidable (_ ∧ _))

instance (s : DcInstance) : (e : DcErrorEvent) → Decidable (e.SessionsInFlight s)
  | .run e => inferInstanceAs (Decidable (e.InRingOrder s))
  | .genResp _ => inferInstanceAs (Decidable (_ → _))
  | .deviceError | .restart => inferInstanceAs (Decidable True)

variable {s : DcInstance} {b : Nat} {pool : MemPool}

/-! ## The invariant -/

namespace DcInstance

/-- The tag in a cookie. -/
def tag (s : DcInstance) (b : Nat) : Nat := (s.cookie b).callbackTag

/-- The session-based requests on the ring are marked with their sequence numbers, or about to be. -/
def RingMarked (s : DcInstance) : Prop :=
  s.compressionMemPool.RingMarks (fun b => (s.cookie b).noSession = false) s.marking s.ring s.sendSeq

/-- The accounts of an instance whose device may fail. -/
structure Answered (s : DcInstance) : Prop where
  cookies : s.CookiesOnRing
  marked : s.RingMarked
  /-- The callbacks called, then the requests on the ring: all accepted requests in order. -/
  log : s.called ++ s.ring.map s.tag = List.range s.numAccepted
  /-- Dummy responses are still to be generated, or they were and the ring is empty. -/
  phase : s.compressionMemPool.sync = 1 ∨
    s.compressionMemPool.active = false ∧ s.compressionMemPool.sync ≤ 0 ∧ s.ring = []

theorem Fresh.answered (h : s.Fresh) : s.Answered := by
  have hcookies := h.cookiesOnRing
  obtain ⟨⟨n, hpool⟩, -, hring, hmarking, -, hnum, hcalled⟩ := h
  refine ⟨hcookies, ?_, ?_, .inl ?_⟩
  · rw [RingMarked, hring, hmarking]
    exact .nil _ _ _
  · simp [hcalled, hring, hnum]
  · simp [hpool, MemPool.create]

namespace Answered

variable {svc : Service} {s t : DcInstance}

section

variable (h : s.Answered)
include h

/-- A pool that gives an entry still has its dummy responses to come. -/
theorem sync_of_entryAlloc (halloc : s.compressionMemPool.entryAlloc = (.entry b, pool)) :
    s.compressionMemPool.sync = 1 := by
  rcases h.phase with hsync | ⟨hinactive, -⟩
  · exact hsync
  · rw [(MemPool.entryAlloc_entry halloc).1] at hinactive
    exact absurd hinactive (by simp)

theorem accept (sessions : Nat → SessionDesc) {c : DcCookie} (sync : Bool)
    (htag : c.callbackTag = s.numAccepted)
    (halloc : s.compressionMemPool.entryAlloc = (.entry b, pool))
    (hcookies : ({ s with sessions := sessions }.accept pool b c sync).CookiesOnRing) :
    ({ s with sessions := sessions }.accept pool b c sync).Answered := by
  obtain ⟨-, -, hsync, hblk⟩ := MemPool.entryAlloc_entry halloc
  have hfresh : ∀ d ∈ s.ring, d ≠ b := by
    rintro d hd rfl
    exact (List.nodup_cons.mp (h.cookies.entryAlloc halloc).partition.held_nodup).1 hd
  refine ⟨hcookies, ?_, ?_, .inl (hsync.trans (h.sync_of_entryAlloc halloc))⟩
  · have hold : pool.RingMarks (fun d => (update s.cookie b c d).noSession = false) s.marking
        s.ring s.sendSeq := by
      refine h.marked.congr (fun d hd hsess => ?_) fun d _ => hblk d
      simpa [hfresh d hd] using hsess
    show pool.RingMarks (fun d => (update s.cookie b c d).noSession = false)
      (if c.noSession then s.marking else s.marking ++ [(b, s.sendSeq)]) (s.ring ++ [b]) (s.sendSeq + 1)
    cases hns : c.noSession with
    | true => exact hold.push (fun _ hm => hm) (fun _ hm => .inl hm) (by simp [hns])
    | false =>
      refine hold.push (fun m hm => List.mem_append_left _ hm) (fun m hm => ?_) fun _ => by simp
      simpa using hm
  · have hring : s.ring.map ({ s with sessions := sessions }.accept pool b c sync).tag =
        s.ring.map s.tag := by
      refine List.map_congr_left fun d hd => ?_
      simp [tag, DcInstance.accept, hfresh d hd]
    simp only [DcInstance.accept, List.map_append, List.map_singleton] at hring ⊢
    rw [hring, ← List.append_assoc, h.log, List.range_succ]
    simp [tag, htag]

theorem submits (hsub : s.Submits t) : t.Answered := by
  have hcookies := h.cookies.submits hsub
  cases hsub with
  | returned sessions => exact ⟨hcookies, h.marked, h.log, h.phase⟩
  | @gaveBack sessions b pool pool' halloc hmark =>
    obtain ⟨-, -, hsync, hblk⟩ := MemPool.entryAlloc_entry halloc
    have hb := (List.nodup_cons.mp (h.cookies.entryAlloc halloc).partition.held_nodup).1
    refine ⟨hcookies, h.marked.congr (fun _ _ hsess => hsess) fun d hd => ?_, h.log, .inl ?_⟩
    · have hne : d ≠ b := fun heq => hb (heq ▸ hd)
      rw [MemPool.entryFree_opaqueSeq]
      rcases hmark with rfl | rfl
      · exact hblk d
      · rw [pool.setOpaque_opaqueSeq_of_ne hne, hblk]
    · have hsync' : pool'.sync = pool.sync := by rcases hmark with rfl | rfl <;> rfl
      exact (hsync'.trans hsync).trans (h.sync_of_entryAlloc halloc)
  | @sent sessions c sync b pool htag halloc => exact h.accept sessions sync htag halloc hcookies

theorem markSent {m : Nat × Nat} (hm : m ∈ s.marking) : (s.markSent m).Answered :=
  ⟨h.cookies.setOpaque m.1 _, h.marked.mark h.cookies.partition.held_nodup hm, h.log, h.phase⟩

theorem processCallback (hb : s.ring.head? = some b) (hdone : b ∉ s.marking.map Prod.fst)
    (resp : Response) (results : Option Results) :
    (s.processCallback svc b resp results).Answered := by
  obtain ⟨rest, hring⟩ := List.head?_eq_some_iff.mp hb
  have hmem : b ∈ s.ring := hring ▸ List.mem_cons_self
  have herase : s.ring.erase b = rest := by rw [hring, List.erase_cons_head]
  have hmarked := h.marked
  rw [RingMarked, hring] at hmarked
  refine ⟨h.cookies.processCallback hmem resp results, ?_, ?_, ?_⟩
  · simp only [RingMarked, DcInstance.processCallback, herase]
    exact (hmarked.pop hdone).congr (fun _ _ hsess => hsess)
      fun d _ => MemPool.entryFree_opaqueSeq _ _ _
  · have hlog := h.log
    rw [hring, List.map_cons] at hlog
    simp only [DcInstance.processCallback, herase]
    rw [List.append_assoc, ← hlog]
    rfl
  · rcases h.phase with hsync | ⟨-, -, hnil⟩
    · exact .inl hsync
    · rw [hring] at hnil
      exact absurd hnil (by simp)

theorem waitTimedOut {w : SyncWait} (hw : w.noSession = false) : (s.waitTimedOut w).Answered := by
  have hpool : (s.waitTimedOut w).compressionMemPool = s.compressionMemPool := by
    simp [DcInstance.waitTimedOut, hw]
  refine ⟨?_, ?_, h.log, ?_⟩
  · rw [CookiesOnRing, hpool]
    exact h.cookies
  · rw [RingMarked, hpool]
    exact h.marked
  · rw [hpool]
    exact h.phase

theorem step {e : DcEvent} (hok : e.InRingOrder s) (hstep : s.step svc e = some t) :
    t.Answered := by
  cases e with
  | submit k call env => exact h.submits (submit_submits hstep)
  | submitNs c => exact h.submits (dcNsCompDecompData_submits hstep)
  | mark m =>
    obtain ⟨hm, ⟨⟩⟩ := Option.ite_none_right_eq_some.mp hstep
    exact h.markSent hm
  | response b resp results =>
    obtain ⟨-, ⟨⟩⟩ := Option.ite_none_right_eq_some.mp hstep
    exact h.processCallback hok.2.1 hok.2.2 resp results
  | timeout w =>
    obtain ⟨-, ⟨⟩⟩ := Option.ite_none_right_eq_some.mp hstep
    exact h.waitTimedOut hok.1

theorem disable : Answered { s with compressionMemPool := s.compressionMemPool.disable } := by
  refine ⟨⟨h.cookies.partition, h.cookies.avail, h.cookies.inUse⟩, h.marked, h.log, ?_⟩
  rcases h.phase with hsync | ⟨-, hsync, hring⟩
  · exact .inl hsync
  · exact .inr ⟨rfl, hsync, hring⟩

theorem restarted (hsync : s.compressionMemPool.sync ≤ 0) : s.restarted.Answered := by
  have hring : s.ring = [] := by
    rcases h.phase with hone | ⟨-, -, hring⟩
    · omega
    · exact hring
  have hacc := h.cookies
  rw [CookiesOnRing, hring] at hacc
  have hlog := h.log
  rw [hring] at hlog
  have hmarked := h.marked
  rw [RingMarked, hring] at hmarked
  refine ⟨⟨hacc.partition, hacc.avail, hacc.inUse⟩, ?_, hlog, .inl rfl⟩
  show MemPool.RingMarks _ _ s.marking [] 0
  rw [hmarked.marking_nil]
  exact .nil _ _ _

end

end Answered

/-! ## Dummy responses -/

/-- The callbacks of the dummy responses to requests of sessions: each is called, in order. -/
theorem foldlM_swRespMsgCallback {bs : List Nat} (h : ∀ b ∈ bs, (s.cookie b).noSession = false) :
    ∃ sessions waiting, bs.foldlM swRespMsgCallback s = some { s with
        sessions := sessions
        waiting := waiting
        called := s.called ++ bs.map s.tag } := by
  induction bs generalizing s with
  | nil => exact ⟨s.sessions, s.waiting, by simp⟩
  | cons b bs ih =>
    cases hc : s.cookie b with
    | dcns tag => exact absurd (h b List.mem_cons_self) (by simp [hc, DcCookie.noSession])
    | session k cookie tag =>
      obtain ⟨sess, wait, hstep⟩ : ∃ sessions waiting, s.swRespMsgCallback b = some { s with
          sessions := sessions, waiting := waiting, called := s.called ++ [s.tag b] } := by
        simp [swRespMsgCallback, hc, DcInstance.tag, DcCookie.callbackTag]
      obtain ⟨sessions, waiting, hrest⟩ := ih (s := { s with
          sessions := sess, waiting := wait, called := s.called ++ [s.tag b] })
        fun c hc' => h c (List.mem_cons_of_mem _ hc')
      refine ⟨sessions, waiting, ?_⟩
      rw [List.foldlM_cons, hstep]
      refine hrest.trans ?_
      simp only [List.map_cons, List.append_assoc, List.singleton_append]
      rfl

/-- The call of `LacSwResp_GenResp` that goes through the blocks returns, and with only session-based
    requests in flight it calls their callbacks in the order of sending. -/
theorem Answered.genResp_calls (h : s.Answered) (hgen : s.compressionMemPool.Generates)
    (hmarking : s.marking = []) (hsess : ∀ b ∈ s.ring, (s.cookie b).noSession = false) :
    ∃ sessions waiting pool, (pool.Accounts [] ∧ pool.active = false ∧ pool.sync = 0) ∧
      s.genResp true = some { s with
        sessions := sessions
        compressionMemPool := pool
        ring := []
        waiting := waiting
        called := s.called ++ s.ring.map s.tag } := by
  have hring := h.marked
  rw [RingMarked, hmarking] at hring
  obtain ⟨first, hmarks⟩ := hring.exists_first hsess
  have hacc : s.compressionMemPool.Accounts (s.ring ++ []) := by
    rw [List.append_nil]
    exact h.cookies
  have hmarked : s.compressionMemPool.Marked s.ring [] first :=
    ⟨hacc, hmarks, fun b hb => absurd hb List.not_mem_nil⟩
  obtain ⟨r, hr, hblks, hfree⟩ := MemPool.genResp_of_marked hmarked hgen
  obtain ⟨sessions, waiting, hcalls⟩ := foldlM_swRespMsgCallback hsess
  refine ⟨sessions, waiting, r.pool, hfree, ?_⟩
  rw [DcInstance.genResp, hr, Option.bind_some, hblks, hcalls, Option.map_some, if_pos hgen]

theorem Answered.genResp {t : DcInstance} (h : s.Answered) {memAlloc : Bool}
    (hok : s.compressionMemPool.Generates →
      memAlloc = true ∧ s.marking = [] ∧ ∀ b ∈ s.ring, (s.cookie b).noSession = false)
    (hstep : s.genResp memAlloc = some t) : t.Answered := by
  by_cases hgen : s.compressionMemPool.Generates
  · obtain ⟨rfl, hmarking, hsess⟩ := hok hgen
    obtain ⟨sessions, waiting, pool, ⟨hfree, hactive, hsync⟩, hcalls⟩ :=
      h.genResp_calls hgen hmarking hsess
    rw [hcalls] at hstep
    cases hstep
    refine ⟨hfree, ?_, ?_, .inr ⟨hactive, Int.le_of_eq hsync, rfl⟩⟩
    · rw [RingMarked, hmarking]
      exact .nil _ _ _
    · rw [List.map_nil, List.append_nil]
      exact h.log
  · obtain ⟨r, hr, hblks, hpool⟩ := MemPool.genResp_of_not_generates hgen memAlloc
    rw [DcInstance.genResp, hr, Option.bind_some, hblks] at hstep
    obtain rfl : { s with compressionMemPool := r.pool } = t := by simpa [hgen] using hstep
    rcases hpool with hpool | ⟨hinactive, hpool⟩
    · rw [hpool]
      exact h
    · rw [hpool]
      refine ⟨⟨h.cookies.partition, h.cookies.avail, h.cookies.inUse⟩, h.marked, h.log, ?_⟩
      rcases h.phase with hsync | ⟨-, hsync, hring⟩
      · exact absurd ⟨hinactive, hsync⟩ hgen
      · refine .inr ⟨hinactive, ?_, hring⟩
        change s.compressionMemPool.sync - 1 ≤ 0
        omega

end DcInstance

/-- The accounts hold in every run with the responses in ring order, none before its mark, and no
    no-session request in flight when dummy responses are generated. -/
theorem answered_of_reachable {svc : Service}
    (hs : (dcWithErrors svc).ReachableBy DcErrorEvent.SessionsInFlight s) : s.Answered := by
  refine hs.invariant DcInstance.Answered (fun _ => DcInstance.Fresh.answered) ?_
  intro s e t h hok hstep
  cases e with
  | run e => exact h.step hok hstep
  | deviceError =>
    cases hstep
    exact h.disable
  | genResp memAlloc => exact h.genResp hok hstep
  | restart =>
    obtain ⟨⟨-, hsync⟩, ⟨⟩⟩ := Option.ite_none_right_eq_some.mp hstep
    exact h.restarted hsync

end Qatlib.Compression
