import Mathlib.Data.List.Nodup
import Qatlib.Crypto.SymSession

set_option autoImplicit false

/-! # Order and blocking of a session's requests

The flag and the queue of a session keep its requests in order as long as nothing goes wrong: each
accepted request reaches the ring once, in the order of acceptance, and none while a partial packet
awaits its response; and when nothing of the session is on the ring, the flag is set and the queue
is empty.

A session does not recover from what goes wrong. A partial packet whose response reports an error
does not drain the queue and leaves the flag cleared. A drain that gives up leaves requests behind a
set flag, where only another partial packet's response would find them, and a put that succeeds at
the last attempt leaves its request in the queue although it is on the ring. A precompute that
fails leaves the flag cleared. A partial packet refused by a full ring sets the flag again even if
another thread has queued a request behind it meanwhile. -/

namespace Qatlib.Crypto

open SymSession

variable {r : SymRequest} {s t : SymSession} {full : SymRequest → Nat} {ok : Bool}

variable {p q : SymRequest × Bool} {e : SymEvent}

/-! ## Draining -/

namespace SymSession

theorem msgPut_eq {retries refusals : Nat} (h : retries + refusals + 1 ≤ dequeueMsgputMaxRetries) :
    msgPut retries refusals = (true, retries + refusals + 1) := by
  induction refusals generalizing retries with
  | zero => rfl
  | succ refusals ih =>
    rw [msgPut, if_pos (by omega), ih (by omega)]
    congr 1
    omega

/-- The ring has room for each request of a queue before the last attempt. -/
def Prompt (full : SymRequest → Nat) (queue : List SymRequest) : Prop :=
  ∀ r ∈ queue, full r + 1 < dequeueMsgputMaxRetries

theorem drain_cons {rest : List SymRequest} (h : full r + 1 < dequeueMsgputMaxRetries)
    (s : SymSession) (hflag : s.nonBlockingOpsInProgress = true) :
    drain full (r :: rest) s =
      if r.blocks then
        { s.place r with nonBlockingOpsInProgress := false, requestQueue := rest }
      else drain full rest (s.place r) := by
  have hput : msgPut 0 (full r) = (true, full r + 1) := by rw [msgPut_eq (by omega), Nat.zero_add]
  rw [drain, hput]
  cases r.blocks with
  | true => simp [place, partialAwaits, Nat.not_le.mpr h]
  | false => simp [place, hflag, Nat.not_le.mpr h]

/-- What a prompt drain of a queue does: a part of the queue goes to the ring, up to the first
    partial packet, and nothing else changes. -/
structure Drained (s : SymSession) (queue sent rest : List SymRequest) (t : SymSession) :
    Prop where
  split : queue = sent ++ rest
  queue : t.requestQueue = rest
  ring : t.ring = s.ring ++ sent
  placed : t.placed.map Prod.fst = s.placed.map Prod.fst ++ sent
  sending : t.sending = s.sending
  precompute : t.precompute = s.precompute
  accepted : t.accepted = s.accepted
  /-- The queue is empty, or a partial packet was sent. -/
  ends : (t.nonBlockingOpsInProgress = true ∧ rest = []) ∨
    (t.nonBlockingOpsInProgress = false ∧ sent.countP SymRequest.blocks = 1)
  /-- At most the last request sent is a partial packet. -/
  fullBefore : t.nonBlockingOpsInProgress = true → sent.countP SymRequest.blocks = 0
  exclusive : s.partialAwaits = false → ∀ p ∈ t.placed, p ∈ s.placed ∨ p.2 = false

theorem partialAwaits_place_of_full (h : r.blocks = false) :
    (s.place r).partialAwaits = s.partialAwaits := by
  simp [partialAwaits, place, h]

/-- A request put while no partial packet awaits its response. -/
theorem place_exclusive (hs : s.partialAwaits = false) (hp : p ∈ (s.place r).placed) :
    p ∈ s.placed ∨ p.2 = false := by
  rcases List.mem_append.mp hp with hp | hp
  · exact .inl hp
  · rw [List.mem_singleton.mp hp]
    exact .inr hs

theorem drained_of_prompt (queue : List SymRequest) (hprompt : Prompt full queue) (s : SymSession)
    (hflag : s.nonBlockingOpsInProgress = true) :
    ∃ sent rest, Drained s queue sent rest (drain full queue s) := by
  induction queue generalizing s with
  | nil =>
    refine ⟨[], [], rfl, rfl, ?_, ?_, rfl, rfl, rfl, .inl ⟨hflag, rfl⟩, fun _ => rfl,
      fun _ p hp => .inl hp⟩
    · exact (List.append_nil _).symm
    · exact (List.append_nil _).symm
  | cons r queue ih =>
    rw [drain_cons (hprompt r List.mem_cons_self) s hflag]
    by_cases hr : r.blocks = true
    · rw [if_pos hr]
      exact ⟨[r], queue, rfl, rfl, rfl, by simp [place], rfl, rfl, rfl, .inr ⟨rfl, by simp [hr]⟩,
        fun h => absurd h (by simp), fun hs p hp => place_exclusive hs hp⟩
    · rw [if_neg hr]
      have hr : r.blocks = false := by simpa using hr
      obtain ⟨sent, rest, h⟩ :=
        ih (fun q hq => hprompt q (List.mem_cons_of_mem r hq)) (s.place r) hflag
      have hcount : (r :: sent).countP SymRequest.blocks = sent.countP SymRequest.blocks := by
        simp [hr]
      refine ⟨r :: sent, rest, by rw [h.split]; rfl, h.queue, ?_, ?_, h.sending, h.precompute,
        h.accepted, hcount ▸ h.ends, hcount ▸ h.fullBefore, fun hs p hp => ?_⟩
      · rw [h.ring]
        simp [place]
      · rw [h.placed]
        simp [place]
      · have hs' : (s.place r).partialAwaits = false := by rw [partialAwaits_place_of_full hr, hs]
        exact (h.exclusive hs' p hp).elim (place_exclusive hs) .inr

/-- `LacSymCb_PendingReqsDequeue` in a prompt drain. -/
theorem pendingReqsDequeue_drained (hprompt : Prompt full s.requestQueue) :
    ∃ sent rest, Drained s s.requestQueue sent rest (s.pendingReqsDequeue full) := by
  obtain ⟨sent, rest, h⟩ := drained_of_prompt s.requestQueue hprompt
    { s with nonBlockingOpsInProgress := true } rfl
  exact ⟨sent, rest, h.split, h.queue, h.ring, h.placed, h.sending, h.precompute, h.accepted,
    h.ends, h.fullBefore, h.exclusive⟩

theorem partialAwaits_iff (s : SymSession) :
    s.partialAwaits = true ↔ 0 < s.ring.countP SymRequest.blocks := by
  simp [partialAwaits, List.countP_pos_iff]

end SymSession

/-! ## Blocking -/

/-- The submission of a request may overlap others on the direct way if all of them are full
    packets. -/
def SymRequest.MayOverlap (r : SymRequest) (sending : List (SymRequest × Bool)) : Prop :=
  sending = [] ∨ r.blocks = false ∧ ∀ p ∈ sending, p.1.blocks = false

instance (r : SymRequest) (sending : List (SymRequest × Bool)) : Decidable (r.MayOverlap sending) :=
  inferInstanceAs (Decidable (_ ∨ _ ∧ _))

/-- A step of a session that is used and served well: submissions do not overlap that of a partial
    packet, a partial packet's response reports no error, the ring has room for queued requests in
    time, and precomputes succeed. -/
def SymEvent.Smooth (s : SymSession) : SymEvent → Prop
  | .submit r => r.MayOverlap s.sending
  | .response r ok full => (r.blocks = true → ok = true) ∧ SymSession.Prompt full s.requestQueue
  | .precomputeDone full => SymSession.Prompt full s.requestQueue
  | .precomputeFailed => False
  | _ => True

instance (full : SymRequest → Nat) (queue : List SymRequest) :
    Decidable (SymSession.Prompt full queue) :=
  inferInstanceAs (Decidable (∀ r ∈ queue, full r + 1 < dequeueMsgputMaxRetries))

instance (s : SymSession) : (e : SymEvent) → Decidable (e.Smooth s)
  | .submit r => inferInstanceAs (Decidable (r.MayOverlap s.sending))
  | .response .. => inferInstanceAs (Decidable (_ ∧ _))
  | .precomputeDone full => inferInstanceAs (Decidable (SymSession.Prompt full s.requestQueue))
  | .precomputeFailed => inferInstanceAs (Decidable False)
  | .clearFlag _ | .put .. | .keyUpdate => inferInstanceAs (Decidable True)

/-- A partial packet has the direct way to itself with nobody waiting, and only such packets have
    cleared the flag. -/
structure SymSession.Direct (s : SymSession) : Prop where
  alone : ∀ p ∈ s.sending, p.1.blocks = true → s.sending = [p] ∧ s.requestQueue = []
  cleared : ∀ p ∈ s.sending, p.2 = true → p.1.blocks = true

/-- Requests wait only while the flag is cleared, and the flag is cleared only while something is
    under way that will set it again. -/
structure SymSession.Guarded (s : SymSession) : Prop extends SymSession.Direct s where
  queue : s.requestQueue ≠ [] → s.nonBlockingOpsInProgress = false
  flag : s.nonBlockingOpsInProgress = false →
    s.partialAwaits = true ∨ s.precompute = true ∨ ∃ r, (r, true) ∈ s.sending

theorem SymRequest.MayOverlap.all_full {sending : List (SymRequest × Bool)}
    (h : r.MayOverlap sending) : ∀ p ∈ sending, p.1.blocks = false := by
  intro p hp
  rcases h with rfl | ⟨-, hfull⟩
  · exact absurd hp List.not_mem_nil
  · exact hfull p hp

namespace SymSession.Direct

variable {s : SymSession}

/-- After a request has left the direct way, those that remain are full packets. -/
theorem full_of_mem_erase (h : s.Direct) (hp : p ∈ s.sending) (hq : q ∈ s.sending.erase p) :
    q.1.blocks = false := by
  by_contra hb
  obtain ⟨hone, -⟩ := h.alone q (List.mem_of_mem_erase hq) (by simpa using hb)
  rw [hone] at hp hq
  simp [List.mem_singleton.mp hp] at hq

theorem erase (h : s.Direct) (hp : p ∈ s.sending) :
    { s with sending := s.sending.erase p }.Direct :=
  ⟨fun _ hq hb => absurd (h.full_of_mem_erase hp hq) (by simp [hb]),
    fun q hq => h.cleared q (List.mem_of_mem_erase hq)⟩

end SymSession.Direct

namespace SymSession.Guarded

variable {s : SymSession}

theorem dequeue (hdirect : s.Direct) (hprompt : Prompt full s.requestQueue) :
    (s.pendingReqsDequeue full).Guarded := by
  obtain ⟨sent, rest, h⟩ := pendingReqsDequeue_drained hprompt
  refine ⟨⟨?_, h.sending ▸ hdirect.cleared⟩, fun hq => ?_, fun hflag => ?_⟩
  · intro p hp hb
    rw [h.sending] at hp ⊢
    obtain ⟨hone, hnil⟩ := hdirect.alone p hp hb
    rw [h.split] at hnil
    exact ⟨hone, h.queue.trans (List.append_eq_nil_iff.mp hnil).2⟩
  · rw [h.queue] at hq
    exact (h.ends.resolve_left fun hdone => hq hdone.2).1
  · have hone := (h.ends.resolve_left fun hdone => by simp [hflag] at hdone).2
    refine .inl ((partialAwaits_iff _).mpr ?_)
    rw [h.ring, List.countP_append]
    omega

theorem submit (h : s.Guarded) (hover : r.MayOverlap s.sending)
    (hstep : SymEvent.step s (.submit r) = some t) : t.Guarded := by
  obtain ⟨-, hstep⟩ := Option.ite_none_right_eq_some.mp hstep
  dsimp only at hstep
  split at hstep
  · next hblocked =>
    cases hstep
    have hflag : s.nonBlockingOpsInProgress = false := hblocked.elim id h.queue
    exact ⟨⟨fun p hp hb => absurd (hover.all_full p hp) (by simp [hb]), h.cleared⟩, fun _ => hflag,
      h.flag⟩
  · next hfree =>
    cases hstep
    refine ⟨⟨?_, ?_⟩, fun hq => absurd (.inr hq) hfree, fun hflag => absurd (.inl hflag) hfree⟩
    · intro p hp hb
      rcases List.mem_append.mp hp with hp | hp
      · exact absurd (hover.all_full p hp) (by simp [hb])
      · obtain rfl := List.mem_singleton.mp hp
        have hnil := hover.resolve_right fun hfull => by simp [hb] at hfull
        exact ⟨by simp [hnil], by simpa using fun hq => hfree (.inr hq)⟩
    · intro p hp hc
      rcases List.mem_append.mp hp with hp | hp
      · exact h.cleared p hp hc
      · simp [List.mem_singleton.mp hp] at hc

theorem clearFlag (h : s.Guarded) (hstep : SymEvent.step s (.clearFlag r) = some t) :
    t.Guarded := by
  obtain ⟨⟨hr, hmem⟩, ⟨⟩⟩ := Option.ite_none_right_eq_some.mp hstep
  obtain ⟨hone, hqueue⟩ := h.alone _ hmem hr
  refine ⟨⟨?_, ?_⟩, fun _ => rfl, fun _ => .inr (.inr ⟨r, by simp⟩)⟩
  · intro p hp _
    have hp : p = (r, true) := by simpa [hone] using hp
    exact ⟨by simp [hone, hp], hqueue⟩
  · intro p hp _
    have hp : p = (r, true) := by simpa [hone] using hp
    rw [hp, hr]

theorem put (h : s.Guarded) (hstep : SymEvent.step s (.put r ok) = some t) : t.Guarded := by
  obtain ⟨hmem, hstep⟩ := Option.ite_none_right_eq_some.mp hstep
  obtain ⟨halone, hcleared⟩ := h.toDirect.erase hmem
  -- another request that has cleared the flag stays on its way
  have hother (q : SymRequest) (hq : (q, true) ∈ s.sending) (hne : r.blocks = false) :
      (q, true) ∈ s.sending.erase (r, r.blocks) :=
    (List.mem_erase_of_ne (by simp [hne])).mpr hq
  dsimp only at hstep
  split at hstep
  · cases hstep
    refine ⟨⟨halone, hcleared⟩, h.queue, fun hflag => ?_⟩
    by_cases hr : r.blocks = true
    · exact .inl (by simp [partialAwaits, place, hr])
    · have hr : r.blocks = false := by simpa using hr
      rcases h.flag hflag with hpart | hpre | ⟨q, hq⟩
      · exact .inl (by simpa [partialAwaits, place, hr] using hpart)
      · exact .inr (.inl hpre)
      · exact .inr (.inr ⟨q, hother q hq hr⟩)
  · cases hstep
    refine ⟨⟨halone, hcleared⟩, fun hq => ?_, fun hflag => ?_⟩
    · -- a partial packet that is refused sets the flag, and nobody has come to wait meanwhile
      have hr : r.blocks = false := by
        by_contra hr
        exact hq (h.alone _ hmem (by simpa using hr)).2
      simpa [hr] using h.queue hq
    · obtain ⟨hflag, hr⟩ : s.nonBlockingOpsInProgress = false ∧ r.blocks = false := by
        simpa using hflag
      rcases h.flag hflag with hpart | hpre | ⟨q, hq⟩
      · exact .inl hpart
      · exact .inr (.inl hpre)
      · exact .inr (.inr ⟨q, hother q hq hr⟩)

/-- The response to a full packet leaves the partial packets on the ring. -/
theorem partialAwaits_erase (hr : r.blocks = false) (h : s.partialAwaits = true) :
    { s with ring := s.ring.erase r }.partialAwaits = true := by
  obtain ⟨q, hq, hblocks⟩ := List.any_eq_true.mp h
  refine List.any_eq_true.mpr ⟨q, (List.mem_erase_of_ne fun he => ?_).mpr hq, hblocks⟩
  simp [he, hr] at hblocks

theorem response (h : s.Guarded) (hsmooth : SymEvent.Smooth s (.response r ok full))
    (hstep : SymEvent.step s (.response r ok full) = some t) : t.Guarded := by
  obtain ⟨-, ⟨⟩⟩ := Option.ite_none_right_eq_some.mp hstep
  obtain ⟨hok, hprompt⟩ := hsmooth
  unfold processCallback
  dsimp only
  split
  · obtain ⟨⟨halone, hcleared⟩, hqueue, hflag⟩ :=
      dequeue (s := { s with ring := s.ring.erase r }) ⟨h.alone, h.cleared⟩ hprompt
    exact ⟨⟨halone, hcleared⟩, hqueue, hflag⟩
  · next hnot =>
    have hr : r.blocks = false := by
      by_contra hr
      have hr : r.blocks = true := by simpa using hr
      exact hnot ⟨hr, hok hr⟩
    exact ⟨⟨h.alone, h.cleared⟩, h.queue,
      fun hflag => (h.flag hflag).imp_left (partialAwaits_erase hr)⟩

theorem step (h : s.Guarded) (hsmooth : e.Smooth s) (hstep : e.step s = some t) : t.Guarded := by
  cases e with
  | submit r => exact h.submit hsmooth hstep
  | clearFlag r => exact h.clearFlag hstep
  | put r ok => exact h.put hstep
  | response r ok full => exact h.response hsmooth hstep
  | keyUpdate =>
    obtain ⟨-, ⟨⟩⟩ := Option.ite_none_right_eq_some.mp hstep
    exact ⟨⟨h.alone, h.cleared⟩, fun _ => rfl, fun _ => .inr (.inl rfl)⟩
  | precomputeDone full =>
    obtain ⟨-, ⟨⟩⟩ := Option.ite_none_right_eq_some.mp hstep
    exact dequeue (s := { s with precompute := false }) ⟨h.alone, h.cleared⟩ hsmooth
  | precomputeFailed => exact absurd hsmooth id

end SymSession.Guarded

theorem symSession_guarded (hs : symSession.ReachableBy SymEvent.Smooth s) : s.Guarded := by
  refine hs.invariant SymSession.Guarded ?_ fun s e t hinv hok hnext => hinv.step hok hnext
  rintro s rfl
  exact ⟨⟨by decide, by decide⟩, fun hq => absurd rfl hq, fun hflag => absurd hflag (by decide)⟩

/-- **An idle session is ready**: in every run of smooth steps, when no request of the session is
    on the ring or on its way there and no precompute is in progress, the flag is set and the queue
    is empty. -/
theorem idle_session_ready {s : SymSession} (hs : symSession.ReachableBy SymEvent.Smooth s)
    (hring : s.ring = []) (hprecompute : s.precompute = false) (hsending : s.sending = []) :
    s.nonBlockingOpsInProgress = true ∧ s.requestQueue = [] := by
  have h := symSession_guarded hs
  have hflag : s.nonBlockingOpsInProgress = true := by
    by_contra hflag
    rcases h.flag (by simpa using hflag) with hpart | hpre | ⟨r, hr⟩
    · simp [partialAwaits, hring] at hpart
    · simp [hprecompute] at hpre
    · simp [hsending] at hr
  refine ⟨hflag, ?_⟩
  by_contra hq
  exact absurd (h.queue hq) (by simp [hflag])

/-! ## Order -/

/-- An event of a run without key updates. -/
def SymEvent.isTraffic : SymEvent → Bool
  | .keyUpdate => false
  | _ => true

/-- A step of a smooth run without key updates. -/
def SymEvent.SmoothTraffic (s : SymSession) (e : SymEvent) : Prop := e.Smooth s ∧ e.isTraffic = true

instance (s : SymSession) (e : SymEvent) : Decidable (e.SmoothTraffic s) :=
  inferInstanceAs (Decidable (e.Smooth s ∧ e.isTraffic = true))

/-- What is said of the requests of a session: none is put twice, those put and those waiting are
    the accepted ones in order, none is put while a partial packet awaits its response, and only
    while one does are there requests waiting. -/
structure SymSession.Ordered (s : SymSession) : Prop where
  once : (s.placed.map Prod.fst).Nodup
  order : s.placed.map Prod.fst ++ s.requestQueue = s.accepted
  exclusive : ∀ p ∈ s.placed, p.2 = false
  served : s.partialAwaits = false → s.requestQueue = []

/-- The invariant of a session without key updates. -/
structure SymSession.InOrder (s : SymSession) : Prop extends SymSession.Guarded s where
  order : s.placed.map Prod.fst ++ s.requestQueue = s.accepted
  nodup : s.accepted.Nodup
  exclusive : ∀ p ∈ s.placed, p.2 = false
  noPrecompute : s.precompute = false
  distinct : (s.sending.map Prod.fst).Nodup
  fresh : ∀ p ∈ s.sending, p.1 ∉ s.accepted
  /-- At most one partial packet is on the ring, with the flag cleared. -/
  one : s.ring.countP SymRequest.blocks ≤ 1
  awaits : s.partialAwaits = true → s.nonBlockingOpsInProgress = false
  /-- A request on the direct way has the ring to itself as far as partial packets go. -/
  clear : ∀ p ∈ s.sending, s.partialAwaits = false ∧
    (p.2 = true → s.nonBlockingOpsInProgress = false)

namespace SymSession.InOrder

variable {s : SymSession}

section

variable (h : s.InOrder)
include h

/-- Whoever waits, waits for a partial packet on the ring. -/
theorem served (hpart : s.partialAwaits = false) : s.requestQueue = [] := by
  by_contra hq
  rcases h.flag (h.queue hq) with hp | hp | ⟨r, hr⟩
  · simp [hpart] at hp
  · simp [h.noPrecompute] at hp
  · exact hq (h.alone _ hr (h.cleared _ hr rfl)).2

theorem ordered : s.Ordered := by
  refine ⟨?_, h.order, h.exclusive, h.served⟩
  have hnodup := h.nodup
  rw [← h.order] at hnodup
  exact hnodup.of_append_left

/-- The requests that remain on the direct way are others than the one that has left it. -/
theorem erase_ne (hp : p ∈ s.sending) (hq : q ∈ s.sending.erase p) : q.1 ≠ p.1 := by
  have hperm := (List.perm_cons_erase hp).map Prod.fst
  have hnodup := hperm.nodup_iff.mp h.distinct
  rw [List.map_cons, List.nodup_cons] at hnodup
  exact fun he => hnodup.1 (he ▸ List.mem_map_of_mem hq)

theorem accepted_nodup (hr : r ∉ s.accepted) : (s.accepted ++ [r]).Nodup :=
  List.nodup_append.mpr ⟨h.nodup, List.nodup_singleton r, by
    rintro a ha b hb rfl
    exact hr (List.mem_singleton.mp hb ▸ ha)⟩

theorem submit (hover : r.MayOverlap s.sending) (hstep : SymEvent.step s (.submit r) = some t) :
    t.InOrder := by
  have hguarded := h.toGuarded.submit hover hstep
  obtain ⟨⟨-, hfresh, hother⟩, hstep⟩ := Option.ite_none_right_eq_some.mp hstep
  dsimp only at hstep
  split at hstep
  · cases hstep
    refine ⟨hguarded, ?_, h.accepted_nodup hfresh, h.exclusive, h.noPrecompute, h.distinct, ?_,
      h.one, h.awaits, h.clear⟩
    · rw [← List.append_assoc, h.order]
    · intro p hp hacc
      rcases List.mem_append.mp hacc with hacc | hacc
      · exact h.fresh p hp hacc
      · exact hother (List.mem_singleton.mp hacc ▸ List.mem_map_of_mem hp)
  · next hfree =>
    cases hstep
    have hpart : s.partialAwaits = false := by
      by_contra hp
      exact hfree (.inl (h.awaits (by simpa using hp)))
    refine ⟨hguarded, h.order, h.nodup, h.exclusive, h.noPrecompute, ?_, ?_, h.one, h.awaits, ?_⟩
    · rw [List.map_append]
      exact List.nodup_append.mpr ⟨h.distinct, List.nodup_singleton r, by
        rintro a ha b hb rfl
        obtain rfl : a = r := List.mem_singleton.mp hb
        exact hother ha⟩
    · intro p hp
      rcases List.mem_append.mp hp with hp | hp
      · exact h.fresh p hp
      · obtain rfl := List.mem_singleton.mp hp
        exact hfresh
    · intro p hp
      rcases List.mem_append.mp hp with hp | hp
      · exact h.clear p hp
      · exact ⟨hpart, fun hc => by simp [List.mem_singleton.mp hp] at hc⟩

theorem clearFlag (hstep : SymEvent.step s (.clearFlag r) = some t) : t.InOrder := by
  have hguarded := h.toGuarded.clearFlag hstep
  obtain ⟨⟨hr, hmem⟩, ⟨⟩⟩ := Option.ite_none_right_eq_some.mp hstep
  have hsending : s.sending.erase (r, false) = [] := by simp [(h.alone _ hmem hr).1]
  refine ⟨hguarded, h.order, h.nodup, h.exclusive, h.noPrecompute, by simp [hsending], ?_, h.one,
    fun _ => rfl, ?_⟩
  · intro p hp
    obtain rfl : p = (r, true) := by simpa [hsending] using hp
    exact h.fresh (r, false) hmem
  · exact fun _ _ => ⟨(h.clear (r, false) hmem).1, fun _ => rfl⟩

theorem put (hstep : SymEvent.step s (.put r ok) = some t) : t.InOrder := by
  have hguarded := h.toGuarded.put hstep
  obtain ⟨hmem, hstep⟩ := Option.ite_none_right_eq_some.mp hstep
  obtain ⟨hpart, hflag⟩ := h.clear _ hmem
  have hqueue := h.served hpart
  have hdistinct : ((s.sending.erase (r, r.blocks)).map Prod.fst).Nodup :=
    h.distinct.sublist (List.erase_sublist.map Prod.fst)
  have hkept (p) (hp : p ∈ s.sending.erase (r, r.blocks)) := List.mem_of_mem_erase hp
  dsimp only at hstep
  split at hstep
  · cases hstep
    have hnone : s.ring.countP SymRequest.blocks = 0 := by
      by_contra hpos
      exact absurd ((partialAwaits_iff s).mpr (by omega)) (by simp [hpart])
    have horder : s.placed.map Prod.fst = s.accepted := by
      have := h.order
      rwa [hqueue, List.append_nil] at this
    -- a full packet changes nothing for those that wait, nor for those still on the direct way
    have hsame (hr : r.blocks = false) : (s.place r).partialAwaits = false :=
      (partialAwaits_place_of_full hr).trans hpart
    refine ⟨hguarded, ?_, h.accepted_nodup (h.fresh _ hmem), ?_, h.noPrecompute, hdistinct, ?_, ?_,
      ?_, ?_⟩
    · simp [place, hqueue, horder]
    · exact fun p hp => (place_exclusive hpart hp).elim (h.exclusive p) id
    · intro p hp hacc
      rcases List.mem_append.mp hacc with hacc | hacc
      · exact h.fresh p (hkept p hp) hacc
      · exact h.erase_ne hmem hp (List.mem_singleton.mp hacc)
    · show (s.ring ++ [r]).countP SymRequest.blocks ≤ 1
      rw [List.countP_append, hnone, Nat.zero_add]
      exact List.countP_le_length
    · intro hawaits
      by_cases hr : r.blocks = true
      · exact hflag hr
      · exact absurd ((hsame (by simpa using hr)).symm.trans hawaits) (by simp)
    · intro p hp
      refine ⟨hsame ?_, (h.clear p (hkept p hp)).2⟩
      by_contra hr
      obtain ⟨hone, -⟩ := h.alone _ hmem (by simpa using hr)
      simp [place, hone] at hp
  · cases hstep
    refine ⟨hguarded, h.order, h.nodup, h.exclusive, h.noPrecompute, hdistinct,
      fun p hp => h.fresh p (hkept p hp), h.one, ?_, fun p hp => ⟨hpart, fun hc => ?_⟩⟩
    · exact fun hp => absurd (hpart.symm.trans hp) (by simp)
    · have hfull := h.full_of_mem_erase hmem hp
      simp [h.cleared p (hkept p hp) hc] at hfull

/-- Draining after the last partial packet has left the ring. -/
theorem dequeue {ring : List SymRequest} (hnone : ring.countP SymRequest.blocks = 0)
    (hsending : s.sending = []) (hprompt : Prompt full s.requestQueue) :
    ({ s with ring := ring }.pendingReqsDequeue full).InOrder := by
  have hguarded := Guarded.dequeue (s := { s with ring := ring }) ⟨h.alone, h.cleared⟩ hprompt
  obtain ⟨sent, rest, hd⟩ := pendingReqsDequeue_drained (s := { s with ring := ring }) hprompt
  have hpart : ({ s with ring := ring } : SymSession).partialAwaits = false := by
    by_contra hp
    have := (partialAwaits_iff { s with ring := ring }).mp (by simpa using hp)
    exact absurd hnone (Nat.pos_iff_ne_zero.mp this)
  generalize ({ s with ring := ring } : SymSession).pendingReqsDequeue full = t at hguarded hd ⊢
  have hring : t.ring.countP SymRequest.blocks = sent.countP SymRequest.blocks := by
    rw [hd.ring, List.countP_append, hnone, Nat.zero_add]
  have hsending' : t.sending = [] := hd.sending.trans hsending
  refine ⟨hguarded, ?_, hd.accepted ▸ h.nodup, ?_, hd.precompute.trans h.noPrecompute,
    by simp [hsending'], by simp [hsending'], ?_, ?_, by simp [hsending']⟩
  · rw [hd.placed, hd.queue, hd.accepted, List.append_assoc, ← hd.split, h.order]
  · exact fun p hp => (hd.exclusive hpart p hp).elim (h.exclusive p) id
  · rcases hd.ends with ⟨hflag, -⟩ | ⟨-, hone⟩
    · rw [hring, hd.fullBefore hflag]
      exact Nat.zero_le 1
    · omega
  · intro hawaits
    by_contra hflag
    have hzero := hd.fullBefore (by simpa using hflag)
    have hpos := (partialAwaits_iff t).mp hawaits
    omega

theorem setPending (n : Nat) : { s with pendingCbCount := n }.InOrder :=
  ⟨⟨⟨h.alone, h.cleared⟩, h.queue, h.flag⟩, h.order, h.nodup, h.exclusive, h.noPrecompute,
    h.distinct, h.fresh, h.one, h.awaits, h.clear⟩

theorem response (hsmooth : SymEvent.Smooth s (.response r ok full))
    (hstep : SymEvent.step s (.response r ok full) = some t) : t.InOrder := by
  have hguarded := h.toGuarded.response hsmooth hstep
  obtain ⟨hmem, ⟨⟩⟩ := Option.ite_none_right_eq_some.mp hstep
  obtain ⟨hok, hprompt⟩ := hsmooth
  by_cases hr : r.blocks = true
  · have hsending : s.sending = [] := by
      refine List.eq_nil_iff_forall_not_mem.mpr fun p hp => ?_
      have hpart : s.partialAwaits = true := List.any_eq_true.mpr ⟨r, hmem, hr⟩
      exact absurd (hpart.symm.trans (h.clear p hp).1) (by simp)
    have hnone : (s.ring.erase r).countP SymRequest.blocks = 0 := by
      have hone := h.one
      have hcount := (List.perm_cons_erase hmem).countP_eq SymRequest.blocks
      rw [List.countP_cons_of_pos hr] at hcount
      omega
    rw [processCallback, if_pos ⟨hr, hok hr⟩]
    exact (h.dequeue hnone hsending hprompt).setPending _
  · have hnot : ¬(r.blocks = true ∧ ok = true) := fun hboth => hr hboth.1
    rw [processCallback, if_neg hnot] at hguarded ⊢
    have hkept : ({ s with ring := s.ring.erase r } : SymSession).partialAwaits = true →
        s.partialAwaits = true := by
      intro hp
      obtain ⟨q, hq, hblocks⟩ := List.any_eq_true.mp hp
      exact List.any_eq_true.mpr ⟨q, List.mem_of_mem_erase hq, hblocks⟩
    refine ⟨hguarded, h.order, h.nodup, h.exclusive, h.noPrecompute, h.distinct, h.fresh, ?_,
      fun hp => h.awaits (hkept hp), fun p hp => ⟨?_, (h.clear p hp).2⟩⟩
    · exact Nat.le_trans List.erase_sublist.countP_le h.one
    · by_contra hc
      have hc : ({ s with ring := s.ring.erase r } : SymSession).partialAwaits = true := by
        simpa [partialAwaits] using hc
      exact absurd ((h.clear p hp).1.symm.trans (hkept hc)) (by simp)

theorem step (hsmooth : e.SmoothTraffic s) (hstep : e.step s = some t) : t.InOrder := by
  obtain ⟨hsmooth, hkey⟩ := hsmooth
  cases e with
  | submit r => exact h.submit hsmooth hstep
  | clearFlag r => exact h.clearFlag hstep
  | put r ok => exact h.put hstep
  | response r ok full => exact h.response hsmooth hstep
  | keyUpdate => exact absurd hkey (by decide)
  | precomputeDone full =>
    obtain ⟨hpre, -⟩ := Option.ite_none_right_eq_some.mp hstep
    exact absurd (h.noPrecompute.symm.trans hpre) (by simp)
  | precomputeFailed => exact absurd hsmooth id

end

end SymSession.InOrder

/-- **Requests reach the ring once and in order**, and none passes a partial packet, in every run of
    smooth steps without key updates. -/
theorem requests_placed_in_order {s : SymSession}
    (hs : symSession.ReachableBy SymEvent.SmoothTraffic s) : s.Ordered := by
  refine (hs.invariant SymSession.InOrder ?_
    fun s e t hinv hok hnext => hinv.step hok hnext).ordered
  rintro s rfl
  refine ⟨⟨⟨?_, ?_⟩, ?_, ?_⟩, ?_, ?_, ?_, ?_, ?_, ?_, ?_, ?_, ?_⟩ <;> simp [init, partialAwaits]

/-! ## Runs -/

/-- A partial packet. -/
def samplePartial : SymRequest := { id := 0, packetType := .partialPacket, stateOnSend := none }

/-- A full packet. -/
def sampleFull : SymRequest := { id := 1, packetType := .full, stateOnSend := none }

/-- The partial packet is on the ring and the full packet waits for its response. -/
def sampleWaiting : List SymEvent :=
  [.submit samplePartial, .clearFlag samplePartial, .put samplePartial true, .submit sampleFull]

/-- The response to the partial packet, with room on the ring for the other one. -/
def sampleResponse (ok : Bool) : SymEvent := .response samplePartial ok fun _ => 0

/-- The full packet is put when the partial packet's response has come. -/
theorem requests_placed_in_order_two :
    ∃ s, symSession.ReachableBy SymEvent.SmoothTraffic s ∧
      s.placed.map Prod.fst = [samplePartial, sampleFull] ∧ s.Ordered := by
  exact System.exists_reachableBy
    (P := fun s => s.placed.map Prod.fst = [samplePartial, sampleFull])
    (sampleWaiting ++ [sampleResponse true]) (s := init) rfl (by decide +kernel)
    fun s hreach hplaced => ⟨hplaced, requests_placed_in_order hreach⟩

/-- After a key update, a partial and a full packet the session is ready again. -/
theorem idle_session_ready_again :
    ∃ s, symSession.ReachableBy SymEvent.Smooth s ∧ s.placed.length = 2 ∧
      s.nonBlockingOpsInProgress = true ∧ s.requestQueue = [] := by
  exact System.exists_reachableBy
    (P := fun s => s.placed.length = 2 ∧ s.ring = [] ∧ s.precompute = false ∧ s.sending = [])
    (.keyUpdate :: .precomputeDone (fun _ => 0) :: sampleWaiting ++
      [sampleResponse true, .response sampleFull false fun _ => 0]) (s := init) rfl
    (by decide +kernel) fun s hreach ⟨hplaced, hring, hprecompute, hsending⟩ =>
      ⟨hplaced, idle_session_ready hreach hring hprecompute hsending⟩

/-- A session in which nothing is under way and the flag is cleared. -/
structure SymSession.Stuck (placed : List (SymRequest × Bool)) (s : SymSession) : Prop where
  flag : s.nonBlockingOpsInProgress = false
  sending : s.sending = []
  ring : s.ring = []
  precompute : s.precompute = false
  placed : s.placed = placed

/-- Such a session accepts requests, and puts none. -/
theorem SymSession.Stuck.step {placed : List (SymRequest × Bool)} (h : s.Stuck placed)
    (htraffic : e.isTraffic = true) (hstep : e.step s = some t) : t.Stuck placed := by
  cases e with
  | submit r =>
    obtain ⟨-, hstep⟩ := Option.ite_none_right_eq_some.mp hstep
    dsimp only at hstep
    rw [if_pos (.inl h.flag)] at hstep
    cases hstep
    exact ⟨h.flag, h.sending, h.ring, h.precompute, h.placed⟩
  | clearFlag r =>
    obtain ⟨⟨-, hmem⟩, -⟩ := Option.ite_none_right_eq_some.mp hstep
    simp [h.sending] at hmem
  | put r ok =>
    obtain ⟨hmem, -⟩ := Option.ite_none_right_eq_some.mp hstep
    simp [h.sending] at hmem
  | response r ok full =>
    obtain ⟨hmem, -⟩ := Option.ite_none_right_eq_some.mp hstep
    simp [h.ring] at hmem
  | keyUpdate => exact absurd htraffic (by decide)
  | precomputeDone | precomputeFailed =>
    obtain ⟨hpre, -⟩ := Option.ite_none_right_eq_some.mp hstep
    exact absurd (h.precompute.symm.trans hpre) (by simp)

/-- The response to the partial packet reports an error: the full packet was accepted, and no
    continuation of the run puts it on the ring. -/
theorem request_never_placed :
    ∃ s, symSession.ReachableBy (fun _ e => e.isTraffic = true) s ∧ sampleFull ∈ s.accepted ∧
      ∀ t, symSession.Run (fun _ e => e.isTraffic = true) s t →
        sampleFull ∉ t.placed.map Prod.fst := by
  refine System.exists_reachableBy (P := fun s => s.accepted = [samplePartial, sampleFull] ∧
      s.nonBlockingOpsInProgress = false ∧ s.sending = [] ∧ s.ring = [] ∧ s.precompute = false ∧
      s.placed = [(samplePartial, false)])
    (sampleWaiting ++ [sampleResponse false]) (s := init) rfl (by decide +kernel)
    fun s _ ⟨haccepted, hflag, hsending, hring, hprecompute, hplaced⟩ =>
      ⟨by simp [haccepted], fun t hcontinued => ?_⟩
  have hstuck : t.Stuck [(samplePartial, false)] :=
    hcontinued.invariant (SymSession.Stuck [(samplePartial, false)])
      (fun _ _ _ hinv hok hnext => hinv.step hok hnext)
      ⟨hflag, hsending, hring, hprecompute, hplaced⟩
  rw [hstuck.placed]
  decide

/-- With nothing on the ring and no precompute in progress, the flag is cleared: after an error
    response to a partial packet, with a request waiting, and after a precompute that failed. -/
theorem idle_session_blocked :
    (∃ s, symSession.Reachable s ∧ s.ring = [] ∧ s.precompute = false ∧ s.sending = [] ∧
      s.nonBlockingOpsInProgress = false ∧ s.requestQueue = [sampleFull]) ∧
    ∃ s, symSession.Reachable s ∧ s.ring = [] ∧ s.precompute = false ∧ s.sending = [] ∧
      s.nonBlockingOpsInProgress = false := by
  constructor
  · exact System.exists_reachable (sampleWaiting ++ [sampleResponse false]) (s := init) rfl
      (by decide +kernel)
  · exact System.exists_reachable [.keyUpdate, .precomputeFailed] (s := init) rfl
      (by decide +kernel)

end Qatlib.Crypto
