import Mathlib.Data.List.Basic
import Mathlib.Logic.Function.Basic
import Qatlib.Api
import Qatlib.Lib.History
import Qatlib.Lib.System

set_option autoImplicit false

/-! # Device events

The event loop of `adf_user_device.c`. `icp_adf_pollDeviceEvents` first drains the queues of all
devices, then takes the events that the proxy reports: an event is handled at once when the queue of
its device is empty, and put on the queue when it is not or when the subsystems ask for a retry. A
queued event that is older than ten seconds is given up.

The two loops are cut at their bodies: a step notifies the subsystems of one queued event, goes on to
the next device, or takes one event from the proxy. What the subsystems answer is an argument of the
step. Memory for queue nodes is there. -/

namespace Qatlib.Adf

/-- `enum adf_event`. -/
inductive AdfEvent where
  | init | start | stop | shutdown | restarting | restarted | error
deriving DecidableEq

/-- `adf_event_node_t`. -/
structure EventNode where
  event : AdfEvent
  start : Nat
  /-- Not in the program: the events of a device are numbered as they arrive. -/
  number : Nat
deriving DecidableEq

/-- What happened to the events of a device. -/
inductive Record where
  | notified (number : Nat) (event : AdfEvent) (status : CpaStatus)
  | finished (number : Nat)
deriving DecidableEq

/-- The queue of a device (`adf_event_queue`). The other fields are not in the program: how many
    events have arrived, and what happened to them. -/
structure DeviceEvents where
  queue : List EventNode
  arrived : Nat
  history : List Record
deriving DecidableEq

def DeviceEvents.empty : DeviceEvents := { queue := [], arrived := 0, history := [] }

def DeviceEvents.record (d : DeviceEvents) (r : Record) : DeviceEvents :=
  { d with history := d.history ++ [r] }

/-- `adf_event_enqueue`. -/
def DeviceEvents.enqueue (d : DeviceEvents) (node : EventNode) : DeviceEvents :=
  { d with queue := d.queue ++ [node] }

/-- `event_time > ADF_DEV_EVENT_TIMEOUT`; `event_time` has 32 bits. -/
def timedOut (start now : Nat) : Bool := (now - start) % 2 ^ 32 > 10

/-- Where the loop over a queue goes. -/
inductive Next where
  | again | nextDevice
deriving DecidableEq

/-- The body of the inner loop of `adf_poll_enqueued_events`, for the head of a queue. An event that
    fails and asks for no retry stays at the head, and the loop goes on with it. -/
def DeviceEvents.drainHead (d : DeviceEvents) (node : EventNode) (rest : List EventNode)
    (status : CpaStatus) (now : Nat) : DeviceEvents × Next :=
  let d := d.record (.notified node.number node.event status)
  if status = .success ∨ timedOut node.start now = true then
    ({ d with queue := rest }.record (.finished node.number), .again)
  else if status = .retry then (d, .nextDevice)
  else (d, .again)

/-- The body of the loop of `icp_adf_pollDeviceEvents`, for an event of the device. -/
def DeviceEvents.report (d : DeviceEvents) (event : AdfEvent) (status : CpaStatus) (now : Nat) :
    DeviceEvents :=
  let node : EventNode := { event := event, start := now, number := d.arrived }
  let d := { d with arrived := d.arrived + 1 }
  if d.queue = [] then
    let d := d.record (.notified node.number event status)
    if status = .retry then d.enqueue node else d.record (.finished node.number)
  else d.enqueue node

/-- Where the thread is. -/
inductive Phase where
  | idle
  /-- In `adf_poll_enqueued_events`, at a device. -/
  | draining (accelId : Nat)
  | polling
deriving DecidableEq

/-- The event queues and the thread that polls. -/
structure EventState where
  dev : Nat → DeviceEvents
  phase : Phase
  clock : Nat

/-- `ADF_MAX_DEVICES`. -/
def adfMaxDevices : Nat := 32 * 32

/-- The outer loop of `adf_poll_enqueued_events`. -/
def Phase.afterDevice (accelId : Nat) : Phase :=
  if accelId + 1 < adfMaxDevices then .draining (accelId + 1) else .polling

/-- One step of the thread; the clock does not go backwards. -/
inductive EventStep where
  /-- `icp_adf_pollDeviceEvents` is called. -/
  | call
  /-- The head of the queue is handled. -/
  | drain (status : CpaStatus) (now : Nat)
  /-- The queue of the device is empty. -/
  | skip
  /-- The proxy reports an event. -/
  | report (accelId : Nat) (event : AdfEvent) (status : CpaStatus) (now : Nat)
  /-- The proxy has no more events. -/
  | done

/-- A device's events after a step for it. -/
def EventState.update (s : EventState) (accelId : Nat) (d : DeviceEvents) (now : Nat) :
    EventState :=
  { s with dev := Function.update s.dev accelId d, clock := now }

def EventStep.step (s : EventState) : EventStep → Option EventState
  | .call => if s.phase = .idle then some { s with phase := .draining 0 } else none
  | .drain status now =>
      match s.phase with
      | .draining accelId =>
          match (s.dev accelId).queue with
          | node :: rest =>
              if s.clock ≤ now then
                let drained := (s.dev accelId).drainHead node rest status now
                let s := s.update accelId drained.1 now
                match drained.2 with
                | .again => some s
                | .nextDevice => some { s with phase := .afterDevice accelId }
              else none
          | [] => none
      | _ => none
  | .skip =>
      match s.phase with
      | .draining accelId =>
          if (s.dev accelId).queue = [] then some { s with phase := .afterDevice accelId } else none
      | _ => none
  | .report accelId event status now =>
      if s.phase = .polling ∧ s.clock ≤ now then
        if accelId ≥ adfMaxDevices then some s
        else some (s.update accelId ((s.dev accelId).report event status now) now)
      else none
  | .done => if s.phase = .polling then some { s with phase := .idle } else none

open DeviceEvents

/-- The event loop, from empty queues. -/
def eventLoop : System EventState EventStep where
  Init s := s.phase = .idle ∧ ∀ accelId, s.dev accelId = empty
  step := EventStep.step

/-! ## What a history has to satisfy -/

/-- An event is notified after every earlier one: each of those was notified and has finished. -/
def InOrder (pre : List Record) : Record → Prop
  | .notified n _ _ => ∀ m < n, (∃ event status, .notified m event status ∈ pre) ∧ .finished m ∈ pre
  | .finished _ => True

/-- The status of the last notification of an event. -/
def lastStatus (pre : List Record) (n : Nat) : Option CpaStatus :=
  (pre.filterMap fun
    | .notified m _ status => if m = n then some status else none
    | .finished _ => none).getLast?

/-- An event is notified again only when it asked for a retry. -/
def OnlyRetried (pre : List Record) : Record → Prop
  | .notified n _ _ => ∀ status ∈ lastStatus pre n, status = .retry
  | .finished _ => True

/-- A queued event that fails without asking for a retry has timed out. -/
def EventStep.RetriesOrEnds (s : EventState) : EventStep → Prop
  | .drain status now =>
      ∀ accelId, s.phase = .draining accelId → ∀ node ∈ (s.dev accelId).queue.head?,
        status = .success ∨ status = .retry ∨ timedOut node.start now = true
  | _ => True

/-! ## Order -/

/-- The first `f` events of the device have finished, the others are on the queue, and only the next
    one may have been notified. -/
structure DeviceEvents.Tracks (d : DeviceEvents) (f : Nat) : Prop where
  arrived : d.arrived = f + d.queue.length
  numbers : d.queue.map EventNode.number = List.range' f d.queue.length
  done : ∀ m < f, (∃ event status, .notified m event status ∈ d.history) ∧ .finished m ∈ d.history
  seen : ∀ {n event status}, .notified n event status ∈ d.history → n ≤ f ∧ n < d.arrived
  ordered : EachAfter InOrder d.history

variable {node : EventNode} {rest : List EventNode} {status : CpaStatus}

variable {event : AdfEvent} {n now : Nat} {s : EventState}

section Tracks

variable {d : DeviceEvents} {f : Nat}

theorem DeviceEvents.tracks_empty : empty.Tracks 0 :=
  ⟨rfl, rfl, fun _ h => absurd h (Nat.not_lt_zero _), fun h => absurd h (by simp [empty]),
    eachAfter_nil _⟩

section

variable (h : d.Tracks f)
include h

theorem DeviceEvents.Tracks.notify (hf : f < d.arrived) (event : AdfEvent) (status : CpaStatus) :
    (d.record (.notified f event status)).Tracks f where
  arrived := h.arrived
  numbers := h.numbers
  done := fun m hm =>
    have ⟨⟨event', status', hnotified⟩, hfinished⟩ := h.done m hm
    ⟨⟨event', status', List.mem_append_left _ hnotified⟩, List.mem_append_left _ hfinished⟩
  seen := fun hmem => by
    rcases List.mem_append.mp hmem with hold | hnew
    · exact h.seen hold
    · obtain ⟨rfl, -, -⟩ := Record.notified.inj (List.mem_singleton.mp hnew)
      exact ⟨Nat.le_refl _, hf⟩
  ordered := h.ordered.snoc h.done

theorem DeviceEvents.Tracks.finish (hqueue : d.queue = node :: rest)
    (hnotified : .notified f event status ∈ d.history) :
    ({ d with queue := rest }.record (.finished f)).Tracks (f + 1) where
  arrived := by
    have harrived := h.arrived
    rw [hqueue, List.length_cons] at harrived
    simp only [record]
    omega
  numbers := by
    have hnumbers := h.numbers
    rw [hqueue, List.map_cons, List.length_cons, List.range'_succ] at hnumbers
    exact (List.cons.inj hnumbers).2
  done := fun m hm => by
    rcases Nat.lt_succ_iff_lt_or_eq.mp hm with hlt | rfl
    · obtain ⟨⟨event', status', hmem⟩, hfinished⟩ := h.done m hlt
      exact ⟨⟨event', status', List.mem_append_left _ hmem⟩, List.mem_append_left _ hfinished⟩
    · exact ⟨⟨event, status, List.mem_append_left _ hnotified⟩,
        List.mem_append_right _ (List.mem_singleton_self _)⟩
  seen := fun hmem => by
    rcases List.mem_append.mp hmem with hold | hnew
    · obtain ⟨hle, hlt⟩ := h.seen hold
      exact ⟨Nat.le_succ_of_le hle, hlt⟩
    · exact absurd (List.mem_singleton.mp hnew) (by simp)
  ordered := h.ordered.snoc trivial

theorem DeviceEvents.Tracks.end (hf : f < d.arrived) (hqueue : d.queue = node :: rest)
    (event : AdfEvent) (status : CpaStatus) :
    ({ d.record (.notified f event status) with queue := rest }.record (.finished f)).Tracks
      (f + 1) :=
  (h.notify hf event status).finish hqueue (List.mem_append_right _ (List.mem_singleton_self _))

theorem DeviceEvents.Tracks.enqueue (event : AdfEvent) (now : Nat) :
    ({ d with arrived := d.arrived + 1 }.enqueue
      { event := event, start := now, number := d.arrived }).Tracks f where
  arrived := by
    have harrived := h.arrived
    simp only [DeviceEvents.enqueue, List.length_append, List.length_singleton]
    omega
  numbers := by
    simp only [DeviceEvents.enqueue, List.map_append, List.map_cons, List.map_nil,
      List.length_append, List.length_singleton, List.range'_concat, h.numbers, h.arrived,
      Nat.one_mul]
  done := h.done
  seen := fun hmem =>
    have ⟨hle, hlt⟩ := h.seen hmem
    ⟨hle, Nat.lt_succ_of_lt hlt⟩
  ordered := h.ordered

theorem DeviceEvents.Tracks.head (hqueue : d.queue = node :: rest) :
    node.number = f ∧ f < d.arrived := by
  have hnumbers := h.numbers
  have harrived := h.arrived
  rw [hqueue, List.length_cons] at harrived
  rw [hqueue, List.map_cons, List.length_cons, List.range'_succ] at hnumbers
  exact ⟨(List.cons.inj hnumbers).1, by omega⟩

end

/-- **Rule for an event from the proxy.** The event is put on the queue; on an empty one it is
    notified at once, and leaves the queue again unless it asks for a retry. -/
theorem DeviceEvents.report_rule {P : DeviceEvents → Nat → Prop}
    (harrived : d.arrived = f + d.queue.length)
    (hqueued : P ({ d with arrived := d.arrived + 1 }.enqueue
      { event := event, start := now, number := d.arrived }) f)
    (hretry : ∀ {d}, P d f → f < d.arrived → P (d.record (.notified f event .retry)) f)
    (hend : ∀ {d node rest}, P d f → f < d.arrived → d.queue = node :: rest →
      P ({ d.record (.notified f event status) with queue := rest }.record (.finished f)) (f + 1)) :
    ∃ f', P (d.report event status now) f' := by
  by_cases hqueue : d.queue = []
  · obtain rfl : d.arrived = f := by simpa [hqueue] using harrived
    simp only [report, hqueue, if_true]
    split
    · next hstatus =>
      subst hstatus
      have hnotified := hretry hqueued (Nat.lt_succ_self _)
      exact ⟨_, by simpa only [enqueue, record, hqueue] using hnotified⟩
    · have hended := @hend _ _ [] hqueued (Nat.lt_succ_self _) (by
        rw [enqueue, hqueue]
        rfl)
      exact ⟨_, by simpa only [enqueue, record, hqueue] using hended⟩
  · simp only [report, hqueue, if_false]
    exact ⟨f, hqueued⟩

/-- **One event of the loop over a queue.** -/
theorem DeviceEvents.Tracks.drainHead (h : d.Tracks f) (hqueue : d.queue = node :: rest)
    (status : CpaStatus) (now : Nat) : ∃ f', (d.drainHead node rest status now).1.Tracks f' := by
  obtain ⟨rfl, hlt⟩ := h.head hqueue
  have hnotify := h.notify hlt node.event status
  unfold drainHead
  dsimp only
  split
  · exact ⟨_, h.end hlt hqueue node.event status⟩
  split
  · exact ⟨_, hnotify⟩
  · exact ⟨_, hnotify⟩

/-- **One event from the proxy.** -/
theorem DeviceEvents.Tracks.report (h : d.Tracks f) (event : AdfEvent) (status : CpaStatus)
    (now : Nat) : ∃ f', (d.report event status now).Tracks f' :=
  report_rule (P := DeviceEvents.Tracks) h.arrived (h.enqueue event now)
    (fun h hf => h.notify hf event .retry) (fun h hf hqueue => h.end hf hqueue event status)

end Tracks

/-! ## Retries -/

section Retries

variable {d : DeviceEvents} {f : Nat}

theorem lastStatus_notified (pre : List Record) (m n : Nat) (event : AdfEvent) (status : CpaStatus) :
    lastStatus (pre ++ [.notified m event status]) n =
      if m = n then some status else lastStatus pre n := by
  unfold lastStatus
  rw [List.filterMap_append]
  split
  · next hmn => simp [hmn]
  · next hmn => simp [hmn]

theorem lastStatus_finished (pre : List Record) (m n : Nat) :
    lastStatus (pre ++ [.finished m]) n = lastStatus pre n := by
  simp [lastStatus, List.filterMap_append]

/-- The status of an event is that of one of its notifications. -/
theorem notified_of_lastStatus {pre : List Record} (h : lastStatus pre n = some status) :
    ∃ event, .notified n event status ∈ pre := by
  obtain ⟨r, hr, hstatus⟩ := List.mem_filterMap.mp (List.mem_of_getLast? h)
  cases r with
  | notified m event status' =>
    obtain ⟨rfl, hs⟩ := Option.ite_none_right_eq_some.mp hstatus
    cases hs
    exact ⟨event, hr⟩
  | finished m => exact absurd hstatus (by simp)

/-- Events have been notified again only for a retry, and the next event, if it was notified at all,
    has asked for one. -/
structure DeviceEvents.Retries (d : DeviceEvents) (f : Nat) : Prop where
  tracks : d.Tracks f
  only : EachAfter OnlyRetried d.history
  next : ∀ status ∈ lastStatus d.history f, status = .retry

/-- An event after the next has not been notified. -/
theorem DeviceEvents.Tracks.lastStatus_eq_none (h : d.Tracks f) (hn : f < n) :
    lastStatus d.history n = none := by
  refine Option.eq_none_iff_forall_ne_some.mpr fun status hstatus => ?_
  obtain ⟨event, hmem⟩ := notified_of_lastStatus hstatus
  exact absurd (h.seen hmem).1 (Nat.not_le.mpr hn)

section

variable (h : d.Retries f)
include h

theorem DeviceEvents.Retries.retry (hf : f < d.arrived) (event : AdfEvent) :
    (d.record (.notified f event .retry)).Retries f where
  tracks := h.tracks.notify hf event .retry
  only := h.only.snoc h.next
  next := fun status hstatus => by
    rw [Option.mem_def, record, lastStatus_notified, if_pos rfl] at hstatus
    exact (Option.some.inj hstatus).symm

theorem DeviceEvents.Retries.end (hf : f < d.arrived) (hqueue : d.queue = node :: rest)
    (event : AdfEvent) (status : CpaStatus) :
    ({ d.record (.notified f event status) with queue := rest }.record (.finished f)).Retries
      (f + 1) where
  tracks := h.tracks.end hf hqueue event status
  only := EachAfter.snoc (EachAfter.snoc h.only (r := .notified f event status) h.next) trivial
  next := fun status' hstatus => by
    have hnone := (h.tracks.notify hf event status).lastStatus_eq_none (Nat.lt_succ_self f)
    rw [Option.mem_def, record, lastStatus_finished] at hstatus
    exact absurd (hnone.symm.trans hstatus) (by simp)

theorem DeviceEvents.Retries.enqueue (event : AdfEvent) (now : Nat) :
    ({ d with arrived := d.arrived + 1 }.enqueue
      { event := event, start := now, number := d.arrived }).Retries f :=
  ⟨h.tracks.enqueue event now, h.only, h.next⟩

theorem DeviceEvents.Retries.drainHead (hqueue : d.queue = node :: rest)
    (hstatus : status = .success ∨ status = .retry ∨ timedOut node.start now = true) :
    ∃ f', (d.drainHead node rest status now).1.Retries f' := by
  obtain ⟨rfl, hlt⟩ := h.tracks.head hqueue
  unfold DeviceEvents.drainHead
  dsimp only
  split
  · exact ⟨_, h.end hlt hqueue node.event status⟩
  next hends =>
  split
  · next hretry =>
    subst hretry
    exact ⟨_, h.retry hlt node.event⟩
  · next hretry =>
    rcases hstatus with hs | hs | hs
    · exact absurd (.inl hs) hends
    · exact absurd hs hretry
    · exact absurd (.inr hs) hends

theorem DeviceEvents.Retries.report (event : AdfEvent) (status : CpaStatus) (now : Nat) :
    ∃ f', (d.report event status now).Retries f' :=
  report_rule (P := DeviceEvents.Retries) h.tracks.arrived (h.enqueue event now)
    (fun h hf => h.retry hf event) (fun h hf hqueue => h.end hf hqueue event status)

end

end Retries

/-! ## Runs -/

/-- What holds of the events of each device is kept by a step, if its handling of one event keeps
    it. -/
theorem EventState.devices_invariant {ok : EventState → EventStep → Prop} {P : DeviceEvents → Prop}
    (hempty : P empty)
    (hdrain : ∀ (s : EventState) accelId node rest status now, P (s.dev accelId) →
      s.phase = .draining accelId → (s.dev accelId).queue = node :: rest →
      ok s (.drain status now) → P ((s.dev accelId).drainHead node rest status now).1)
    (hreport : ∀ d event status now, P d → P (report d event status now))
    (h : eventLoop.ReachableBy ok s) (accelId : Nat) : P (s.dev accelId) := by
  have hupdate : ∀ (s : EventState) a d now, (∀ a, P (s.dev a)) → P d →
      ∀ a', P ((s.update a d now).dev a') := by
    intro s a d now hs hd a'
    rcases eq_or_ne a' a with rfl | hne
    · simpa [EventState.update] using hd
    · simpa [EventState.update, hne] using hs a'
  refine System.ReachableBy.invariant (fun s => ∀ a, P (s.dev a)) (fun s hinit a => ?_)
    (fun s e s' hs hok hstep => ?_) h accelId
  · rw [hinit.2 a]
    exact hempty
  · cases e with
    | call =>
      obtain ⟨-, hs'⟩ := Option.ite_none_right_eq_some.mp hstep
      exact Option.some.inj hs' ▸ hs
    | drain status now =>
      simp only [eventLoop, EventStep.step] at hstep
      split at hstep
      · next a hphase =>
        split at hstep
        · next node rest hqueue =>
          obtain ⟨-, hstep⟩ := Option.ite_none_right_eq_some.mp hstep
          have hd := hdrain s a node rest status now (hs a) hphase hqueue hok
          split at hstep <;> exact Option.some.inj hstep ▸ hupdate s a _ now hs hd
        · exact absurd hstep (by simp)
      · exact absurd hstep (by simp)
    | skip =>
      simp only [eventLoop, EventStep.step] at hstep
      split at hstep
      · obtain ⟨-, hs'⟩ := Option.ite_none_right_eq_some.mp hstep
        exact Option.some.inj hs' ▸ hs
      · exact absurd hstep (by simp)
    | report a event status now =>
      obtain ⟨-, hstep⟩ := Option.ite_none_right_eq_some.mp hstep
      split at hstep
      · exact Option.some.inj hstep ▸ hs
      · exact Option.some.inj hstep ▸ hupdate s a _ now hs (hreport _ event status now (hs a))
    | done =>
      obtain ⟨-, hs'⟩ := Option.ite_none_right_eq_some.mp hstep
      exact Option.some.inj hs' ▸ hs

/-- **Events are handled in order**: after any run, an event was notified only after every earlier
    event of its device was notified and had finished. In a run in which a queued event that fails
    without asking for a retry has timed out, an event was notified again only for a retry. -/
theorem events_in_order {s : EventState} (accelId : Nat) :
    (eventLoop.Reachable s → EachAfter InOrder (s.dev accelId).history) ∧
      (eventLoop.ReachableBy (fun s e => e.RetriesOrEnds s) s →
        EachAfter OnlyRetried (s.dev accelId).history) := by
  constructor
  · intro h
    obtain ⟨f, hf⟩ := EventState.devices_invariant (P := fun d => ∃ f, d.Tracks f) ⟨0, tracks_empty⟩
      (fun s a node rest status now ⟨f, hf⟩ _ hqueue _ => hf.drainHead hqueue status now)
      (fun d event status now ⟨f, hf⟩ => hf.report event status now) h accelId
    exact hf.ordered
  · intro h
    have hempty : empty.Retries 0 :=
      ⟨tracks_empty, eachAfter_nil _, fun _ hs => absurd hs (by simp [lastStatus, empty])⟩
    obtain ⟨f, hf⟩ := EventState.devices_invariant (P := fun d => ∃ f, d.Retries f) ⟨0, hempty⟩
      (fun s a node rest status now ⟨f, hf⟩ hphase hqueue hok =>
        hf.drainHead hqueue (hok a hphase node (by simp [hqueue])))
      (fun d event status now ⟨f, hf⟩ => hf.report event status now) h accelId
    exact hf.only

/-- Idle, with empty queues. -/
def sampleLoop : EventState := { dev := fun _ => empty, phase := .idle, clock := 0 }

theorem sampleLoop_init : eventLoop.Init sampleLoop := ⟨rfl, fun _ => rfl⟩

instance (s : EventState) (e : EventStep) : Decidable (e.RetriesOrEnds s) :=
  match e with
  | .drain status now =>
      match hphase : s.phase with
      | .draining accelId =>
          decidable_of_iff (∀ node ∈ (s.dev accelId).queue.head?,
            status = .success ∨ status = .retry ∨ timedOut node.start now = true)
            ⟨fun h a ha => by
              rw [hphase] at ha
              obtain rfl := Phase.draining.inj ha
              exact h, fun h => h accelId hphase⟩
      | .idle => .isTrue fun a ha => absurd (hphase.symm.trans ha) (by simp)
      | .polling => .isTrue fun a ha => absurd (hphase.symm.trans ha) (by simp)
  | .call | .skip | .report _ _ _ _ | .done => .isTrue trivial

/-- Requests are in flight when a device reports a fatal error, so a retry is asked for; the event is
    on the queue when the next call starts. -/
def sampleError : List EventStep :=
  .call :: List.replicate adfMaxDevices .skip ++ [.report 0 .error .retry 0, .done, .call]

section Sample

variable {ok : EventState → EventStep → Prop} [∀ s e, Decidable (ok s e)]

/-- With all queues empty the thread passes every device and starts polling. -/
theorem execIf_skips (hskip : ∀ s, ok s .skip) (hempty : ∀ a, (s.dev a).queue = [])
    {accelId k : Nat} (hphase : s.phase = .draining accelId) (hk : accelId + k + 1 = adfMaxDevices)
    (es : List EventStep) :
    eventLoop.execIf ok s (List.replicate (k + 1) .skip ++ es) =
      eventLoop.execIf ok { s with phase := .polling } es := by
  have hstep : eventLoop.step s .skip = some { s with phase := .afterDevice accelId } := by
    simp only [eventLoop, EventStep.step, hphase, hempty, if_true]
  induction k generalizing s accelId with
  | zero =>
    have hlast : Phase.afterDevice accelId = .polling := if_neg (by omega)
    rw [List.replicate_one, List.singleton_append, System.execIf, if_pos (hskip s), hstep,
      Option.bind_some, hlast]
  | succ k ih =>
    have hnext : Phase.afterDevice accelId = .draining (accelId + 1) := if_pos (by omega)
    rw [List.replicate_succ, List.cons_append, System.execIf, if_pos (hskip s), hstep,
      Option.bind_some, hnext]
    exact ih hempty rfl (by omega) (by simp only [eventLoop, EventStep.step, hempty, if_true])

theorem execIf_sampleError (hcall : ok sampleLoop .call) (hskip : ∀ s, ok s .skip)
    (es : List EventStep) :
    eventLoop.execIf ok sampleLoop (sampleError ++ es) =
      eventLoop.execIf ok { sampleLoop with phase := .polling }
        ([.report 0 .error .retry 0, .done, .call] ++ es) := by
  rw [sampleError, List.append_assoc, List.cons_append, System.execIf, if_pos hcall]
  exact execIf_skips (s := { sampleLoop with phase := .draining 0 }) hskip (fun _ => rfl) rfl rfl _

end Sample

/-- The retry succeeds. -/
theorem events_in_order_retry :
    ∃ s, eventLoop.ReachableBy (fun s e => e.RetriesOrEnds s) s ∧
      (s.dev 0).history = [.notified 0 .error .retry, .notified 0 .error .success,
        .finished 0] ∧ EachAfter OnlyRetried (s.dev 0).history := by
  refine System.exists_reachableBy (P := fun s => (s.dev 0).history =
      [.notified 0 .error .retry, .notified 0 .error .success, .finished 0])
    (sampleError ++ [.drain .success 1]) sampleLoop_init ?_
    fun s hreach hhistory => ⟨hhistory, (events_in_order 0).2 hreach⟩
  rw [execIf_sampleError trivial fun _ => trivial]
  decide +kernel

/-- The services cannot be looked up at the retry (the daemon is gone), and the subsystems are
    notified again at once. -/
theorem failed_event_repeated :
    ∃ s, eventLoop.Reachable s ∧
      (s.dev 0).history = [.notified 0 .error .retry, .notified 0 .error .fail,
        .notified 0 .error .fail] ∧ ¬EachAfter OnlyRetried (s.dev 0).history := by
  refine System.exists_reachableBy (P := fun s => (s.dev 0).history =
      [.notified 0 .error .retry, .notified 0 .error .fail, .notified 0 .error .fail])
    (sampleError ++ [.drain .fail 1, .drain .fail 1]) sampleLoop_init ?_
    fun s _ hhistory => ⟨hhistory, fun h => ?_⟩
  · rw [execIf_sampleError trivial fun _ => trivial]
    decide +kernel
  · rw [hhistory] at h
    exact absurd (h [_, _] _ [] rfl .fail rfl) (by simp)

end Qatlib.Adf
