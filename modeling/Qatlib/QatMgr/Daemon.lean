import Mathlib.Data.List.Basic
import Qatlib.Lib.System
import Qatlib.QatMgr.Sections

set_option autoImplicit false

/-! # The qatmgr daemon

The daemon accepts connections, starts a `handle_client` thread for each, and the threads handle
their messages in any order. Ownership of a section is recorded in the section (`assigned_tid`) and
in the thread that got it (`index`).

Every assigned section is backed by a connected client whose record would make `handle_client`
release it: the right index, the section's own name and the matching thread id (`SectionsBacked`).
This is kept by every step in which the name of a granted section could be allocated, and lost by the
first step in which it could not. While it holds, the two records of ownership never contradict each
other (`OwnershipAgrees`), and `sections_exclusive` reads exclusive ownership off that. -/

namespace Qatlib.QatMgr

/-- A handler thread; `connected` is false once `handle_client` has returned. -/
structure Client where
  conn : Conn
  connected : Bool

/-- The daemon: shared data, and the handler threads in the order they were started. -/
structure Daemon where
  mgr : Mgr
  clients : List Client

/-- What can happen next. -/
inductive Event where
  /-- `main` accepts a connection; the argument is what `pthread_self` returns in its thread. -/
  | connect (self : BitVec 64)
  /-- Client `c` sends a request. -/
  | message (c : Nat) (env : Env) (req : MsgReq)
  /-- The connection of client `c` ends. -/
  | disconnect (c : Nat)

/-- The locals of `handle_client` at its start: `pid_t tid = pthread_self()` keeps the low half. -/
def Conn.start (self : BitVec 64) : Conn where
  tid := self.setWidth 32
  sectionName := none
  index := -1

/-- One step of the daemon. -/
def Daemon.step (d : Daemon) : Event → Option Daemon
  | .connect self => some { d with clients := d.clients ++ [⟨Conn.start self, true⟩] }
  | .message c env req =>
      match d.clients[c]? with
      | some ⟨conn, true⟩ =>
          let out := handleMessage env d.mgr conn req
          some { mgr := out.mgr, clients := d.clients.set c ⟨out.conn, true⟩ }
      | _ => none
  | .disconnect c =>
      match d.clients[c]? with
      | some ⟨conn, true⟩ =>
          some { mgr := closeClient d.mgr conn, clients := d.clients.set c ⟨conn, false⟩ }
      | _ => none

/-- The daemon as a system: it starts without clients and with every section free, over any section
    configuration. -/
def daemon : System Daemon Event where
  Init d := d.clients = [] ∧ d.mgr.pidKnown = false ∧ ∀ sec ∈ d.mgr.sectionData, sec.assignedTid = 0
  step := Daemon.step

/-- Client `c` is connected and its thread has the locals `conn`. -/
def Daemon.Live (d : Daemon) (c : Nat) (conn : Conn) : Prop := d.clients[c]? = some ⟨conn, true⟩

/-- Section `i` is assigned to client `c`: the section carries the thread id of a connected
    client. -/
def Daemon.Holds (d : Daemon) (c i : Nat) : Prop :=
  ∃ conn sec, d.Live c conn ∧ d.mgr.sectionData[i]? = some sec ∧ sec.assignedTid = conn.owner

/-! ## Thread ids -/

variable {a old conn' : Conn} {c' k : Nat} {tid self : BitVec 64} {d' : Daemon} {e : Event}
  {mgr : Mgr}

theorem Conn.owner_inj {b : Conn} (h : a.owner = b.owner) : a.tid = b.tid := by
  have hw : ∀ x : BitVec 32, (x.signExtend 64).setWidth 32 = x := fun x => by
    ext i hi
    simp only [BitVec.getElem_setWidth, BitVec.getLsbD_signExtend, hi, if_true]
    simp [Nat.lt_trans hi (by decide : 32 < 64), hi]
  rw [← hw a.tid, ← hw b.tid]
  exact congrArg _ h

theorem Conn.owner_ne_zero (h : a.tid ≠ 0) : a.owner ≠ 0 := by
  intro h0
  exact h (Conn.owner_inj (b := ⟨0, none, -1⟩) (h0.trans (by decide)))

/-! ## Steps -/

variable {d : Daemon} {c : Nat} {new conn : Conn} {b : Bool} {mgr' : Mgr} {sec : SectionData}

/-- **What one step does**: a new client, an effect of one message on its sender's record, or the
    clean-up after a client. -/
theorem Daemon.step_cases (h : d.step e = some d') :
    (∃ self, e = .connect self ∧
        d' = { d with clients := d.clients ++ [⟨Conn.start self, true⟩] }) ∨
    (∃ c env req conn mgr' conn', e = .message c env req ∧ d.Live c conn ∧
        SectionEffect env d.mgr conn mgr' conn' ∧
        d' = ⟨mgr', d.clients.set c ⟨conn', true⟩⟩) ∨
    (∃ c conn, e = .disconnect c ∧ d.Live c conn ∧
        d' = ⟨closeClient d.mgr conn, d.clients.set c ⟨conn, false⟩⟩) := by
  cases e with
  | connect self => exact .inl ⟨self, rfl, by simpa [Daemon.step] using h.symm⟩
  | message c env req =>
      simp only [Daemon.step] at h
      split at h
      · next conn hlive =>
        exact .inr (.inl ⟨c, env, req, conn, _, _, rfl, hlive,
          handleMessage_effect env d.mgr conn req, by simpa using h.symm⟩)
      · exact absurd h (by simp)
  | disconnect c =>
      simp only [Daemon.step] at h
      split at h
      · next conn hlive => exact .inr (.inr ⟨c, conn, rfl, hlive, by simpa using h.symm⟩)
      · exact absurd h (by simp)

/-- The clean-up either finds nothing to release or frees the section under the client's index. -/
theorem closeClient_cases (mgr : Mgr) (conn : Conn) :
    closeClient mgr conn = mgr ∨
      ∃ sec, 0 ≤ conn.index ∧ mgr.sectionData[conn.index.toNat]? = some sec ∧
        sec.assignedTid = conn.owner ∧
        closeClient mgr conn =
          { mgr with sectionData := setAssigned mgr.sectionData conn.index.toNat 0 } := by
  unfold closeClient
  split
  · exact .inl rfl
  · next name _ =>
    split
    · exact .inl rfl
    · cases hrel : releaseSection mgr conn.index conn.owner name with
      | none => exact .inl rfl
      | some mgr' =>
          obtain ⟨hindex, ⟨sec, hget, howner⟩, rfl⟩ := releaseSection_eq_some hrel
          exact .inr ⟨sec, hindex, hget, howner, rfl⟩

theorem live_set (hc : d.Live c old) :
    (Daemon.mk mgr (d.clients.set c ⟨new, b⟩)).Live c' conn ↔
      (c' = c ∧ b = true ∧ conn = new) ∨ (c' ≠ c ∧ d.Live c' conn) := by
  obtain ⟨hlt, _⟩ := List.getElem?_eq_some_iff.mp hc
  unfold Daemon.Live
  rw [List.getElem?_set]
  by_cases hcc : c = c'
  · subst hcc
    simp [hlt, and_comm, eq_comm]
  · simp [hcc, Ne.symm hcc]

theorem Daemon.Live.eq (hc : d.Live c conn) (hc' : d.Live c conn') : conn = conn' := by
  rw [Daemon.Live] at hc hc'
  simpa [hc] using hc'

/-- Writing back the record of a connected client changes nothing. -/
theorem Daemon.Live.set_self (hc : d.Live c conn) : d.clients.set c ⟨conn, true⟩ = d.clients := by
  obtain ⟨hlt, hget⟩ := List.getElem?_eq_some_iff.mp hc
  rw [← hget, List.set_getElem_self]

theorem live_append (h : (Daemon.mk d.mgr (d.clients ++ [⟨new, true⟩])).Live c conn) :
    d.Live c conn ∨ (c = d.clients.length ∧ conn = new) := by
  unfold Daemon.Live at h ⊢
  rw [List.getElem?_append] at h
  split at h
  · exact .inl h
  · next hle =>
    obtain ⟨hz, hval⟩ := List.getElem?_eq_some_iff.mp h
    simp only [List.length_cons, List.length_nil] at hz
    refine .inr ⟨by omega, ?_⟩
    simpa [show c - d.clients.length = 0 by omega] using hval.symm

/-! ## Assigned sections are backed -/

theorem mem_setAssigned {l : List SectionData} (h : sec ∈ setAssigned l k tid) :
    sec ∈ l ∨ sec.assignedTid = tid := by
  obtain ⟨i, hi⟩ := List.mem_iff_getElem?.mp h
  rw [setAssigned_getElem?] at hi
  obtain ⟨old, hold, rfl⟩ := Option.map_eq_some_iff.mp hi
  split
  · exact .inr rfl
  · exact .inl (List.mem_of_getElem? hold)

/-- The `malloc` of a section name, if the message makes one, succeeds. -/
def NameAllocated (_ : Daemon) : Event → Prop
  | .message _ env _ => env.mallocOk = true
  | _ => True

/-- Every assigned section is backed by the record of a connected client. -/
structure SectionsBacked (d : Daemon) : Prop where
  backed : ∀ (i : Nat) sec, d.mgr.sectionData[i]? = some sec → sec.assignedTid ≠ 0 →
    ∃ c conn, d.Live c conn ∧ conn.index = i ∧ conn.sectionName = some sec.sectionName ∧
      sec.assignedTid = conn.owner
  /-- Before the first section request nothing is assigned. -/
  unknown : d.mgr.pidKnown = false → ∀ sec ∈ d.mgr.sectionData, sec.assignedTid = 0

/-- A section that client `c` does not back keeps its backing when the record of `c` is written. -/
theorem SectionsBacked.other (h : SectionsBacked d) {i : Nat} (hc : d.Live c old)
    (hget : d.mgr.sectionData[i]? = some sec) (hne : sec.assignedTid ≠ 0)
    (hold : ¬ (old.index = i ∧ old.sectionName = some sec.sectionName ∧
      sec.assignedTid = old.owner)) :
    ∃ c' conn, (Daemon.mk mgr (d.clients.set c ⟨new, b⟩)).Live c' conn ∧ conn.index = i ∧
      conn.sectionName = some sec.sectionName ∧ sec.assignedTid = conn.owner := by
  obtain ⟨c', conn, hlive, hindex, hname, howner⟩ := h.backed i sec hget hne
  have hcc : c' ≠ c := by
    rintro rfl
    obtain rfl := hc.eq hlive
    exact hold ⟨hindex, hname, howner⟩
  exact ⟨c', conn, (live_set hc).mpr (.inr ⟨hcc, hlive⟩), hindex, hname, howner⟩

/-- The section under a freed index is free; the others keep their backing. -/
theorem SectionsBacked.free (h : SectionsBacked d) (hc : d.Live c old)
    (hsec : mgr.sectionData = setAssigned d.mgr.sectionData old.index.toNat 0)
    (hpid : mgr.pidKnown = d.mgr.pidKnown) : SectionsBacked ⟨mgr, d.clients.set c ⟨new, b⟩⟩ := by
  refine ⟨fun i sec hi hne => ?_, fun hp sec hmem => ?_⟩
  · rw [hsec, setAssigned_getElem?] at hi
    obtain ⟨sec', hget, rfl⟩ := Option.map_eq_some_iff.mp hi
    by_cases hki : old.index.toNat = i
    · simp [hki] at hne
    · simp only [if_neg hki] at hne ⊢
      exact h.other hc hget hne (fun he => hki (by rw [he.1]; rfl))
  · rw [hsec] at hmem
    rcases mem_setAssigned hmem with hmem | hzero
    · exact h.unknown (hpid ▸ hp) sec hmem
    · exact hzero

/-- Something is assigned, so the process is known. -/
theorem SectionsBacked.known (h : SectionsBacked d) {i : Nat}
    (hget : d.mgr.sectionData[i]? = some sec) (hne : sec.assignedTid ≠ 0) :
    d.mgr.pidKnown = true := by
  by_contra hp
  exact hne (h.unknown (by simpa using hp) sec (List.mem_of_getElem? hget))

/-- A message keeps every assigned section backed when the name it needs can be allocated. -/
theorem SectionsBacked.message (h : SectionsBacked d) {env : Env} (hc : d.Live c conn)
    (hmalloc : env.mallocOk = true) (heff : SectionEffect env d.mgr conn mgr' conn') :
    SectionsBacked ⟨mgr', d.clients.set c ⟨conn', true⟩⟩ := by
  cases heff with
  | keep hsec hpid =>
      rw [hc.set_self]
      exact ⟨fun i sec hi => h.backed i sec (hsec ▸ hi),
        fun hp sec hmem => h.unknown (hpid ▸ hp) sec (hsec ▸ hmem)⟩
  | refuse hsec hpid =>
      refine ⟨fun i sec hi hne => ?_, fun hp => absurd (hpid.symm.trans hp) (by simp)⟩
      have hget : d.mgr.sectionData[i]? = some sec := hsec ▸ hi
      -- the record was not reset
      rw [h.known hget hne, Conn.forProcess, if_pos rfl, hc.set_self]
      exact h.backed i sec hget hne
  | @take k sec name hname hindex hget hfree _ hsec hpid hset =>
      refine ⟨fun i sec' hi hne => ?_, fun hp => absurd (hpid.symm.trans hp) (by simp)⟩
      rw [hsec, setAssigned_getElem?] at hi
      obtain ⟨old, hold, rfl⟩ := Option.map_eq_some_iff.mp hi
      by_cases hki : k = i
      · -- the new holder has recorded the index and the name
        subst hki
        obtain rfl : sec = old := by simpa [hget] using hold
        refine ⟨c, _, (live_set hc).mpr (.inl ⟨rfl, rfl, rfl⟩), rfl, ?_, ?_⟩
        · simp [hset, hmalloc]
        · simp [Conn.owner]
      · simp only [if_neg hki] at hne ⊢
        have hindex' : conn.index = -1 := by simpa [h.known hold hne, Conn.forProcess] using hindex
        exact h.other hc hold hne (fun he => by rw [hindex'] at he; omega)
  | release _ _ _ hsec hpid => exact h.free hc hsec hpid

/-- The clean-up after a client releases what its record backs. -/
theorem SectionsBacked.disconnect (h : SectionsBacked d) (hc : d.Live c conn) :
    SectionsBacked ⟨closeClient d.mgr conn, d.clients.set c ⟨conn, false⟩⟩ := by
  rcases closeClient_cases d.mgr conn with hkeep | ⟨_, _, _, _, hfree⟩
  · rw [hkeep]
    refine ⟨fun i sec hi hne => ?_, h.unknown⟩
    refine h.other hc hi hne fun ⟨hindex, hname, howner⟩ => hne ?_
    -- had the client backed this section, the clean-up would have released it
    have hpos : 0 ≤ conn.index := by omega
    have hget : d.mgr.sectionData[conn.index.toNat]? = some sec := by simpa [hindex] using hi
    have hclose : closeClient d.mgr conn =
        { d.mgr with sectionData := setAssigned d.mgr.sectionData conn.index.toNat 0 } := by
      unfold closeClient
      rw [hname]
      simp only [if_neg (show ¬ conn.index < 0 by omega),
        releaseSection_of_match hpos hget howner, Option.getD_some]
    have hnew : (closeClient d.mgr conn).sectionData[i]? = some { sec with assignedTid := 0 } := by
      rw [hclose, setAssigned_getElem?, hi]
      simp [hindex]
    rw [hkeep, hi] at hnew
    exact congrArg SectionData.assignedTid (Option.some.inj hnew)
  · rw [hfree]
    exact h.free hc rfl rfl

theorem SectionsBacked.connect (h : SectionsBacked d) (new : Conn) :
    SectionsBacked ⟨d.mgr, d.clients ++ [⟨new, true⟩]⟩ := by
  refine ⟨fun i sec hi hne => ?_, h.unknown⟩
  obtain ⟨c, conn, hc, hbacked⟩ := h.backed i sec hi hne
  obtain ⟨hlt, _⟩ := List.getElem?_eq_some_iff.mp hc
  exact ⟨c, conn, (List.getElem?_append_left hlt).trans hc, hbacked⟩

theorem SectionsBacked.step (h : SectionsBacked d)
    (hname : NameAllocated d e) (hstep : d.step e = some d') : SectionsBacked d' := by
  rcases Daemon.step_cases hstep with ⟨self, rfl, rfl⟩ |
    ⟨c, env, req, conn, mgr', conn', rfl, hc, heff, rfl⟩ | ⟨c, conn, rfl, hc, rfl⟩
  · exact h.connect _
  · exact h.message hc hname heff
  · exact h.disconnect hc

theorem SectionsBacked.init (h : daemon.Init d) : SectionsBacked d :=
  ⟨fun _ sec hi hne => absurd (h.2.2 sec (List.mem_of_getElem? hi)) hne, fun _ => h.2.2⟩

/-! ## Exclusive ownership -/

/-- The thread ids of the connected clients are nonzero and pairwise distinct. -/
structure Daemon.DistinctTids (d : Daemon) : Prop where
  nonzero : ∀ c conn, d.Live c conn → conn.tid ≠ 0
  distinct : ∀ c c' conn conn', d.Live c conn → d.Live c' conn' → conn.tid = conn'.tid → c = c'

/-- A connecting thread brings an id that is nonzero and that no connected client has. -/
def FreshTid (d : Daemon) : Event → Prop
  | .connect self => (Conn.start self).tid ≠ 0 ∧
      ∀ cl ∈ d.clients, cl.connected = true → cl.conn.tid ≠ (Conn.start self).tid
  | _ => True

instance (d : Daemon) : (e : Event) → Decidable (FreshTid d e)
  | .connect _ => inferInstanceAs (Decidable (_ ∧ _))
  | .message _ _ _ | .disconnect _ => .isTrue trivial

/-- The record of a client agrees with the sections. -/
structure Conn.Agrees (conn : Conn) (mgr : Mgr) : Prop where
  /-- The sections that carry its thread id are the one under its index. -/
  agree : ∀ (i : Nat) sec, mgr.sectionData[i]? = some sec →
    (sec.assignedTid = conn.owner ↔ conn.index = i)
  /-- A recorded index is in range. -/
  inRange : 0 ≤ conn.index → conn.index.toNat < mgr.sectionData.length
  /-- Before the first section request nothing is recorded. -/
  unknown : mgr.pidKnown = false → conn.index = -1 ∧ conn.sectionName = none

/-- The two records of ownership agree. -/
structure OwnershipAgrees (d : Daemon) : Prop where
  tids : d.DistinctTids
  agrees : ∀ c conn, d.Live c conn → conn.Agrees d.mgr

namespace Daemon.DistinctTids

variable (h : d.DistinctTids)
include h

theorem owner_ne_zero (hc : d.Live c conn) : conn.owner ≠ 0 :=
  Conn.owner_ne_zero (h.nonzero c conn hc)

theorem eq_of_owner (hc : d.Live c conn) (hc' : d.Live c' conn')
    (howner : conn.owner = conn'.owner) : c = c' :=
  h.distinct c c' conn conn' hc hc' (Conn.owner_inj howner)

theorem set (hc : d.Live c old) (htid : new.tid = old.tid) :
    (Daemon.mk mgr (d.clients.set c ⟨new, b⟩)).DistinctTids := by
  have hold : ∀ j conn, (Daemon.mk mgr (d.clients.set c ⟨new, b⟩)).Live j conn →
      ∃ x, d.Live j x ∧ x.tid = conn.tid := by
    intro j conn hj
    rcases (live_set hc).mp hj with ⟨rfl, -, rfl⟩ | ⟨-, hj⟩
    · exact ⟨old, hc, htid.symm⟩
    · exact ⟨conn, hj, rfl⟩
  refine ⟨fun j conn hj => ?_, fun j j' conn conn' hj hj' heq => ?_⟩
  · obtain ⟨x, hx, hxt⟩ := hold j conn hj
    exact hxt ▸ h.nonzero j x hx
  · obtain ⟨x, hx, hxt⟩ := hold j conn hj
    obtain ⟨x', hx', hxt'⟩ := hold j' conn' hj'
    exact h.distinct j j' x x' hx hx' (by rw [hxt, hxt', heq])

theorem append (hfresh : FreshTid d (.connect self)) :
    (Daemon.mk d.mgr (d.clients ++ [⟨Conn.start self, true⟩])).DistinctTids := by
  have hnew : ∀ j conn, d.Live j conn → conn.tid ≠ (Conn.start self).tid :=
    fun j conn hj => hfresh.2 _ (List.mem_of_getElem? hj) rfl
  refine ⟨fun j conn hj => ?_, fun j j' conn conn' hj hj' heq => ?_⟩
  · rcases live_append hj with hj | ⟨-, rfl⟩
    · exact h.nonzero j conn hj
    · exact hfresh.1
  · rcases live_append hj with hj | ⟨rfl, rfl⟩ <;> rcases live_append hj' with hj' | ⟨rfl, rfl⟩
    · exact h.distinct j j' conn conn' hj hj' heq
    · exact absurd heq (hnew j conn hj)
    · exact absurd heq.symm (hnew j' conn' hj')
    · rfl

end Daemon.DistinctTids

theorem Conn.Agrees.of_setAssigned
    (hsec : mgr'.sectionData = setAssigned mgr.sectionData k tid)
    (hagree : ∀ (i : Nat) sec, mgr.sectionData[i]? = some sec →
      ((if k = i then tid else sec.assignedTid) = conn.owner ↔ conn.index = i))
    (hrange : 0 ≤ conn.index → conn.index.toNat < mgr.sectionData.length)
    (hunknown : mgr'.pidKnown = false → conn.index = -1 ∧ conn.sectionName = none) :
    conn.Agrees mgr' := by
  refine ⟨fun i sec' hi => ?_, ?_, hunknown⟩
  · rw [hsec, setAssigned_getElem?] at hi
    obtain ⟨old, hold, rfl⟩ := Option.map_eq_some_iff.mp hi
    rw [← hagree i old hold]
    split <;> rfl
  · rw [hsec, setAssigned_length]
    exact hrange

/-- In a state whose records agree, the process check of a section request resets nothing. -/
theorem OwnershipAgrees.forProcess_eq (h : OwnershipAgrees d) (hc : d.Live c conn) :
    conn.forProcess d.mgr.pidKnown = conn := by
  cases hpid : d.mgr.pidKnown with
  | true => rfl
  | false =>
      obtain ⟨hindex, hname⟩ := (h.agrees c conn hc).unknown hpid
      simp [Conn.forProcess, ← hindex, ← hname]

section

variable (h : OwnershipAgrees d)
include h

namespace OwnershipAgrees

variable (hc : d.Live c conn)
include hc

theorem write (htid : new.tid = conn.tid)
    (hother : ∀ a x, a ≠ c → d.Live a x → x.Agrees mgr') (hself : b = true → new.Agrees mgr') :
    OwnershipAgrees ⟨mgr', d.clients.set c ⟨new, b⟩⟩ := by
  refine ⟨h.tids.set hc htid, fun a x hx => ?_⟩
  rcases (live_set hc).mp hx with ⟨rfl, hb, rfl⟩ | ⟨hne, hx⟩
  · exact hself hb
  · exact hother a x hne hx

/-- A section that is free or one client's is freed or given to that client: the records of the others
    stay in agreement. -/
theorem assign (htid : new.tid = conn.tid) (hget : d.mgr.sectionData[k]? = some sec)
    (hold : sec.assignedTid = 0 ∨ sec.assignedTid = conn.owner)
    (hnew : tid = 0 ∨ tid = conn.owner)
    (hsec : mgr'.sectionData = setAssigned d.mgr.sectionData k tid)
    (hpid : mgr'.pidKnown = false → d.mgr.pidKnown = false) (hself : b = true → new.Agrees mgr') :
    OwnershipAgrees ⟨mgr', d.clients.set c ⟨new, b⟩⟩ := by
  refine h.write hc htid (fun a x hne hx => ?_) hself
  -- the section carried no id or that of `c`, and so it does now: another client never records it
  have hothers : ∀ tid', tid' = 0 ∨ tid' = conn.owner → tid' ≠ x.owner := by
    rintro tid' (rfl | rfl) heq
    · exact h.tids.owner_ne_zero hx heq.symm
    · exact hne (h.tids.eq_of_owner hc hx heq).symm
  obtain ⟨hagree, hrange, hunknown⟩ := h.agrees a x hx
  refine .of_setAssigned hsec (fun i old hi => ?_) hrange fun hp => hunknown (hpid hp)
  split
  · next hki =>
    obtain rfl : sec = old := Option.some.inj (hget.symm.trans (hki ▸ hi))
    exact iff_of_false (hothers tid hnew) fun hindex => hothers _ hold ((hagree i _ hi).mpr hindex)
  · exact hagree i old hi

theorem keep (hsec : mgr'.sectionData = d.mgr.sectionData)
    (hpid : mgr'.pidKnown = false → d.mgr.pidKnown = false) :
    OwnershipAgrees ⟨mgr', d.clients.set c ⟨conn, b⟩⟩ := by
  have hkept : ∀ a x, d.Live a x → x.Agrees mgr' := by
    intro a x hx
    obtain ⟨hagree, hrange, hunknown⟩ := h.agrees a x hx
    rw [← hsec] at hagree hrange
    exact ⟨hagree, hrange, fun hp => hunknown (hpid hp)⟩
  exact h.write hc rfl (fun a x _ => hkept a x) fun _ => hkept c conn hc

theorem take (hindex : conn.index = -1) (hget : d.mgr.sectionData[k]? = some sec)
    (hfree : sec.assignedTid = 0)
    (hsec : mgr'.sectionData = setAssigned d.mgr.sectionData k conn.owner)
    (hpid : mgr'.pidKnown = true) (name : Option (CString qatmgrMaxStrlen)) :
    OwnershipAgrees ⟨mgr', d.clients.set c ⟨⟨conn.tid, name, k⟩, true⟩⟩ := by
  have hknown : mgr'.pidKnown ≠ false := by simp [hpid]
  refine h.assign hc rfl hget (.inl hfree) (.inr rfl) hsec (fun hp => absurd hp hknown)
    fun _ => .of_setAssigned hsec (fun i old hi => ?_) (fun _ => ?_) fun hp => absurd hp hknown
  · -- the taker had no section before and has exactly this one now
    have hold := (h.agrees c conn hc).agree i old hi
    rw [hindex] at hold
    split
    · next hki => exact iff_of_true rfl (congrArg Int.ofNat hki)
    · next hki =>
      refine iff_of_false (fun he => ?_) fun he => hki (Int.ofNat.inj he)
      have := hold.mp he
      omega
  · exact (List.getElem?_eq_some_iff.mp hget).1

theorem release (hget : d.mgr.sectionData[conn.index.toNat]? = some sec)
    (howner : sec.assignedTid = conn.owner)
    (hsec : mgr'.sectionData = setAssigned d.mgr.sectionData conn.index.toNat 0)
    (hpid : mgr'.pidKnown = d.mgr.pidKnown) :
    OwnershipAgrees ⟨mgr', d.clients.set c ⟨⟨conn.tid, none, -1⟩, true⟩⟩ := by
  refine h.assign hc rfl hget (.inr howner) (.inl rfl) hsec (fun hp => hpid ▸ hp)
    fun _ => .of_setAssigned hsec (fun i old hi => ?_)
      (fun hi : (0 : Int) ≤ -1 => absurd hi (by decide)) fun _ => ⟨rfl, rfl⟩
  refine iff_of_false ?_ (by show ¬ (-1 : Int) = i; omega)
  split
  · exact fun hzero => h.tids.owner_ne_zero hc hzero.symm
  · next hki =>
    intro he
    have hindex := ((h.agrees c conn hc).agree i old hi).mp he
    omega

theorem message {env : Env} (heff : SectionEffect env d.mgr conn mgr' conn') :
    OwnershipAgrees ⟨mgr', d.clients.set c ⟨conn', true⟩⟩ := by
  have hproc := h.forProcess_eq hc
  cases heff with
  | keep hsec hpid => exact h.keep hc hsec fun hp => hpid ▸ hp
  | refuse hsec hpid =>
      rw [hproc]
      exact h.keep hc hsec fun hp => absurd (hpid.symm.trans hp) (by simp)
  | @take k sec name _ hindex hget hfree _ hsec hpid _ =>
      rw [hproc] at hindex
      exact h.take hc hindex hget hfree hsec hpid name
  | release _ hget howner hsec hpid => exact h.release hc hget howner hsec hpid

theorem disconnect : OwnershipAgrees ⟨closeClient d.mgr conn, d.clients.set c ⟨conn, false⟩⟩ := by
  rcases closeClient_cases d.mgr conn with hkeep | ⟨sec, _, hget, howner, hfree⟩
  · rw [hkeep]
    exact h.keep hc rfl id
  · rw [hfree]
    exact h.assign hc rfl hget (.inr howner) (.inl rfl) rfl id fun hb => absurd hb (by simp)

end OwnershipAgrees

/-- A new client starts without a section: an assigned section carries the id of a client that is
    connected, and so another one. -/
theorem OwnershipAgrees.connect (hbacked : SectionsBacked d) (hfresh : FreshTid d (.connect self)) :
    OwnershipAgrees ⟨d.mgr, d.clients ++ [⟨Conn.start self, true⟩]⟩ := by
  have hnew : ∀ (i : Nat) sec, d.mgr.sectionData[i]? = some sec →
      sec.assignedTid ≠ (Conn.start self).owner := by
    intro i sec hi heq
    have hne : sec.assignedTid ≠ 0 := heq ▸ Conn.owner_ne_zero hfresh.1
    obtain ⟨c, conn, hc, -, -, hown⟩ := hbacked.backed i sec hi hne
    exact hfresh.2 _ (List.mem_of_getElem? hc) rfl (Conn.owner_inj (hown.symm.trans heq))
  refine ⟨h.tids.append hfresh, fun a x hx => ?_⟩
  rcases live_append hx with hx | ⟨rfl, rfl⟩
  · exact h.agrees a x hx
  · refine ⟨fun i sec hi => iff_of_false (hnew i sec hi) ?_,
      fun hi : (0 : Int) ≤ -1 => absurd hi (by decide), fun _ => ⟨rfl, rfl⟩⟩
    show ¬ (-1 : Int) = i
    omega

theorem OwnershipAgrees.step (hbacked : SectionsBacked d) (hfresh : FreshTid d e)
    (hstep : d.step e = some d') : OwnershipAgrees d' := by
  rcases Daemon.step_cases hstep with ⟨self, rfl, rfl⟩ |
    ⟨c, env, req, conn, mgr', conn', rfl, hc, heff, rfl⟩ | ⟨c, conn, rfl, hc, rfl⟩
  · exact h.connect hbacked hfresh
  · exact h.message hc heff
  · exact h.disconnect hc

end

theorem OwnershipAgrees.init (h : daemon.Init d) : OwnershipAgrees d := by
  have hnone : ∀ c conn, ¬d.Live c conn := fun c conn => by simp [Daemon.Live, h.1]
  exact ⟨⟨fun c conn hc => absurd hc (hnone c conn), fun c _ conn _ hc => absurd hc (hnone c conn)⟩,
    fun c conn hc => absurd hc (hnone c conn)⟩

/-- **Exclusive ownership.** In every run in which the connected clients have nonzero, pairwise
    distinct thread ids and the name of each granted section can be allocated, a section is never
    assigned to two connected clients, and a client whose recorded index is nonnegative holds the
    section with that index and no other. -/
theorem sections_exclusive (d : Daemon)
    (hd : daemon.ReachableBy (fun d e => FreshTid d e ∧ NameAllocated d e) d) :
    (∀ i c c', d.Holds c i → d.Holds c' i → c = c') ∧
      ∀ c conn, d.Live c conn → 0 ≤ conn.index → ∀ i : Nat, d.Holds c i ↔ conn.index = i := by
  obtain ⟨-, h⟩ := hd.invariant (fun d => SectionsBacked d ∧ OwnershipAgrees d)
    (fun _ hinit => ⟨.init hinit, .init hinit⟩)
    (fun _ _ _ h hok hstep => ⟨h.1.step hok.2 hstep, h.2.step h.1 hok.1 hstep⟩)
  constructor
  · rintro i c c' ⟨conn, sec, hc, hget, howner⟩ ⟨conn', sec', hc', hget', howner'⟩
    obtain rfl : sec = sec' := by simpa [hget] using hget'
    exact h.tids.eq_of_owner hc hc' (howner.symm.trans howner')
  · intro c conn hc hindex i
    constructor
    · rintro ⟨conn', sec, hc', hget, howner⟩
      obtain rfl := hc.eq hc'
      exact ((h.agrees c conn hc).agree i sec hget).mp howner
    · intro hi
      have hlt := (h.agrees c conn hc).inRange hindex
      rw [hi] at hlt
      have hget := List.getElem?_eq_getElem hlt
      exact ⟨conn, _, hc, hget, ((h.agrees c conn hc).agree _ _ hget).mpr (by simpa using hi)⟩

/-- A section request as `qatmgr_query` sends it, with an empty section name. -/
def sectionGetReq : MsgReq where
  len := 9
  version := thisLibVersion
  type := 1
  payload := []

/-- An environment in which every library call succeeds. -/
def Env.ok : Env where
  lockOk := true
  mallocOk := true
  numPfs := 0
  pfData := default

/-- A freshly started daemon over the given sections. -/
def Daemon.start (sectionData : List SectionData) : Daemon where
  mgr := ⟨sectionData, false, -1, default⟩
  clients := []

/-- Two clients of a daemon with two sections hold one each; the first leaves, and the next client,
    whose thread has the same id, gets its section. -/
theorem sections_exclusive_two_clients :
    ∃ d, daemon.ReachableBy (fun d e => FreshTid d e ∧ NameAllocated d e) d ∧ d.clients.length = 3 ∧
      d.Holds 1 1 ∧ d.Holds 2 0 ∧ ¬ d.Holds 2 1 := by
  have hd : daemon.ReachableBy (fun d e => FreshTid d e ∧ NameAllocated d e) _ :=
    ⟨Daemon.start [default, default], ⟨rfl, rfl, by decide⟩,
    .head (e := .connect 1) ⟨by decide, trivial⟩ rfl <|
    .head (e := .connect 2) ⟨by decide, trivial⟩ rfl <|
    .head (e := .message 0 .ok sectionGetReq) ⟨trivial, rfl⟩ rfl <|
    .head (e := .message 1 .ok sectionGetReq) ⟨trivial, rfl⟩ rfl <|
    .head (e := .disconnect 0) ⟨trivial, trivial⟩ rfl <|
    .head (e := .connect 1) ⟨by decide, trivial⟩ rfl <|
    .head (e := .message 2 .ok sectionGetReq) ⟨trivial, rfl⟩ rfl <| .refl _⟩
  refine ⟨_, hd, rfl, ⟨_, _, rfl, rfl, rfl⟩, ⟨_, _, rfl, rfl, rfl⟩, fun hheld => ?_⟩
  exact absurd (((sections_exclusive _ hd).2 2 _ rfl (by decide) 1).mp hheld) (by decide)

/-- The name of the section of the first client cannot be allocated, so the section keeps the thread
    id when the client leaves. The next client, whose thread has the same id, is given the other
    section and holds both. -/
theorem section_left_to_next_client :
    ∃ d conn, daemon.ReachableBy FreshTid d ∧ d.Live 1 conn ∧ conn.index = 1 ∧ d.Holds 1 0 ∧
      d.Holds 1 1 := by
  refine ⟨_, _, ⟨Daemon.start [default, default], ⟨rfl, rfl, by decide⟩,
    .head (e := .connect 1) (by decide) rfl <|
    .head (e := .message 0 { Env.ok with mallocOk := false } sectionGetReq) trivial rfl <|
    .head (e := .disconnect 0) trivial rfl <| .head (e := .connect 1) (by decide) rfl <|
    .head (e := .message 1 .ok sectionGetReq) trivial rfl <| .refl _⟩, rfl, rfl,
    ⟨_, _, rfl, rfl, rfl⟩, ⟨_, _, rfl, rfl, rfl⟩⟩

end Qatlib.QatMgr
