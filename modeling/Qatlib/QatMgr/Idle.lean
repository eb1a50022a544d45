import Mathlib.Data.List.Basic
import Qatlib.QatMgr.Daemon

set_option autoImplicit false

/-! # An idle daemon has every section free

Every assigned section is backed by a connected client as long as the names of granted sections can be
allocated, so without a client nothing is assigned; `section_lost` is a run in which a name could not
be allocated. -/

namespace Qatlib.QatMgr

variable {d : Daemon} {mgr : Mgr} {sec : SectionData}

/-! ## Later clients get every section -/

/-- `m` clients connect one after the other, the first as client number `n`, and each asks for a
    section. -/
def requestSections (selfs : Nat → BitVec 64) (n m : Nat) : List Event :=
  (List.range m).flatMap (fun j => [.connect (selfs j), .message (n + j) .ok sectionGetReq])

/-- A section request on a new connection is granted the first free section. -/
theorem handleMessage_grant {k : Nat} (self : BitVec 64) (hget : mgr.sectionData[k]? = some sec)
    (hfree : sec.assignedTid = 0)
    (hfirst : ∀ (j : Nat) sec', j < k → mgr.sectionData[j]? = some sec' → sec'.assignedTid ≠ 0) :
    (handleMessage .ok mgr (.start self) sectionGetReq).mgr.sectionData =
        setAssigned mgr.sectionData k (Conn.start self).owner ∧
      (handleMessage .ok mgr (.start self) sectionGetReq).conn =
        ⟨(Conn.start self).tid, some sec.sectionName, k⟩ := by
  obtain ⟨hk, hval⟩ := List.getElem?_eq_some_iff.mp hget
  have hfind : mgr.sectionData.findIdx? (fun sec => sec.assignedTid == 0) = some k := by
    refine List.findIdx?_eq_some_iff_getElem.mpr ⟨hk, by simp [hval, hfree], fun j hj => ?_⟩
    simpa using hfirst j _ hj (List.getElem?_eq_getElem (Nat.lt_trans hj hk))
  have hproc : ∀ b, (Conn.start self).forProcess b = Conn.start self := fun b => by cases b <;> rfl
  have hlen : ¬ sectionGetReq.len ≠ sizeofHdr + sectionGetReq.name.strlen + 1 := by decide
  have hnone : ¬ ((Conn.start self).sectionName.isSome = true ∨ (Conn.start self).index ≠ -1) := by
    simp [Conn.start]
  have hmsg : handleMessage .ok mgr (.start self) sectionGetReq =
      handleSectionRequest .ok mgr (.start self) sectionGetReq := rfl
  rw [hmsg, handleSectionRequest, if_neg hlen]
  simp only [hproc, if_neg hnone, getSection, Env.ok, if_true, hfind, setAssigned_getElem?, hget,
    Option.map_some, CString.strlcpy_self, and_self]

/-- From a state with every section free, the `m`-th newcomer is granted the `m`-th section. -/
theorem exec_requestSections {selfs : Nat → BitVec 64}
    (hself : ∀ j, (Conn.start (selfs j)).tid ≠ 0)
    (hzero : ∀ sec ∈ d.mgr.sectionData, sec.assignedTid = 0) (m : Nat)
    (hm : m ≤ d.mgr.sectionData.length) :
    ∃ d', daemon.exec d (requestSections selfs d.clients.length m) = some d' ∧
      d'.clients.length = d.clients.length + m ∧
      d'.mgr.sectionData.length = d.mgr.sectionData.length ∧
      (∀ (i : Nat) sec, d'.mgr.sectionData[i]? = some sec → (sec.assignedTid = 0 ↔ m ≤ i)) ∧
      ∀ k, m = k + 1 → ∃ conn, d'.Live (d.clients.length + k) conn ∧ conn.index = k := by
  induction m with
  | zero =>
      refine ⟨d, rfl, rfl, rfl, fun i sec hi => ?_, fun k hk => absurd hk (by omega)⟩
      simp [hzero sec (List.mem_of_getElem? hi)]
  | succ m ih =>
      obtain ⟨d₁, hexec, hclients, hlen, hfree, _⟩ := ih (by omega)
      have hlt : m < d₁.mgr.sectionData.length := by omega
      have hget := List.getElem?_eq_getElem hlt
      obtain ⟨hsec, hconn⟩ := handleMessage_grant (selfs m) hget ((hfree m _ hget).mpr (le_refl m))
        (fun j sec' hj hj' h0 => absurd ((hfree j sec' hj').mp h0) (by omega))
      have hnew : (d₁.clients ++ [⟨Conn.start (selfs m), true⟩])[d.clients.length + m]? =
          some ⟨Conn.start (selfs m), true⟩ := by
        rw [← hclients]
        simp
      -- the two events of the round: accept, then grant
      refine ⟨⟨(handleMessage .ok d₁.mgr (.start (selfs m)) sectionGetReq).mgr,
        (d₁.clients ++ [Client.mk (Conn.start (selfs m)) true]).set (d.clients.length + m)
          ⟨(handleMessage .ok d₁.mgr (.start (selfs m)) sectionGetReq).conn, true⟩⟩,
        ?_, ?_, ?_, ?_, ?_⟩
      · rw [requestSections, List.range_succ, List.flatMap_append]
        rw [← requestSections, System.exec_append, hexec]
        simp only [Option.bind_some, List.flatMap_cons, List.flatMap_nil, List.append_nil,
          System.exec, daemon, Daemon.step, hnew]
      · simp [hclients, Nat.add_assoc]
      · simp [hsec, hlen]
      · intro i sec hi
        simp only [hsec, setAssigned_getElem?] at hi
        obtain ⟨old, hold, rfl⟩ := Option.map_eq_some_iff.mp hi
        by_cases hmi : m = i
        · simp only [hmi, if_true]
          exact iff_of_false (Conn.owner_ne_zero (hself i)) (by omega)
        · simp only [if_neg hmi]
          exact (hfree i old hold).trans (by omega)
      · intro k hk
        obtain rfl : m = k := by omega
        refine ⟨_, ?_, congrArg Conn.index hconn⟩
        simp [Daemon.Live, ← hclients]

/-- **An idle daemon has every section free.** In every run in which the name of each granted
    section can be allocated, whenever no client is connected no section is assigned, and clients
    that connect later get every section. -/
theorem sections_free_when_idle (d : Daemon) (hd : daemon.ReachableBy NameAllocated d)
    (hidle : ∀ cl ∈ d.clients, cl.connected = false) :
    (∀ sec ∈ d.mgr.sectionData, sec.assignedTid = 0) ∧
      ∀ selfs : Nat → BitVec 64, (∀ j, (Conn.start (selfs j)).tid ≠ 0) →
        ∀ k < d.mgr.sectionData.length, ∃ d' conn,
          daemon.exec d (requestSections selfs d.clients.length (k + 1)) = some d' ∧
            d'.Live (d.clients.length + k) conn ∧ conn.index = k := by
  have h := hd.invariant SectionsBacked (fun _ => SectionsBacked.init)
    (fun _ _ _ => SectionsBacked.step)
  have hzero : ∀ sec ∈ d.mgr.sectionData, sec.assignedTid = 0 := by
    intro sec hsec
    by_contra hne
    obtain ⟨i, hi⟩ := List.mem_iff_getElem?.mp hsec
    obtain ⟨c, conn, hc, _⟩ := h.backed i sec hi hne
    exact absurd (hidle _ (List.mem_of_getElem? hc)) (by simp)
  refine ⟨hzero, fun selfs hself k hk => ?_⟩
  obtain ⟨d', hexec, _, _, _, hlast⟩ := exec_requestSections hself hzero (k + 1) hk
  obtain ⟨conn, hlive, hindex⟩ := hlast k rfl
  exact ⟨d', conn, hexec, hlive, hindex⟩

/-- A client takes the only section, gives it back and leaves; the next client gets it. -/
theorem sections_free_when_idle_one_client :
    ∃ d d' conn, daemon.ReachableBy NameAllocated d ∧
      daemon.exec d (requestSections (fun _ => 1) 1 1) = some d' ∧ d'.Live 1 conn ∧
      conn.index = 0 := by
  have hd : daemon.ReachableBy NameAllocated _ := ⟨Daemon.start [default], ⟨rfl, rfl, by decide⟩,
    .head (e := .connect 1) trivial rfl <|
    .head (e := .message 0 .ok sectionGetReq) rfl rfl <|
    .head (e := .disconnect 0) trivial rfl <| .refl _⟩
  obtain ⟨d', conn, hexec, hlive, hindex⟩ :=
    (sections_free_when_idle _ hd (by decide)).2 (fun _ => 1) (fun _ => by decide) 0 (by decide)
  exact ⟨_, d', conn, hd, hexec, hlive, hindex⟩

/-- The run that loses a section: the allocation of the granted section's name fails, and the client
    leaves. No client is connected, and the section stays assigned. -/
theorem section_lost :
    ∃ d sec, daemon.Reachable d ∧ (∀ cl ∈ d.clients, cl.connected = false) ∧
      d.mgr.sectionData = [sec] ∧ sec.assignedTid ≠ 0 := by
  have hd : daemon.Reachable _ := System.reachable_of_exec (Daemon.start [default])
    [.connect 1, .message 0 { Env.ok with mallocOk := false } sectionGetReq, .disconnect 0]
    ⟨rfl, rfl, by decide⟩ rfl
  exact ⟨_, _, hd, by decide, rfl, by decide⟩

end Qatlib.QatMgr
