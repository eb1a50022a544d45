import Qatlib.Usdm.IovaOwnership

set_option autoImplicit false

/-! # IOVA ranges and what the kernel permits

At registration the kernel reports the IOVA ranges a device may use; `filter_range` marks the IOVA
slabs in the gaps before and between them, and the marks keep later slabs out of the gaps. What is
handed out afterwards is inside one permitted range under the conditions collected here.

The conditions on the list of ranges: they ascend, one of them holds the last IOVA slab (the gap after
the last range is not marked), and no range ends where the next starts at an IOVA slab boundary (a slab
may lie across such a boundary). The conditions on the calls: the process was initialised before the
registration (the initialisation clears the bitmap), an exhausted creation does not release an excluded
IOVA slab, and no destroyed slab covers one. -/

namespace Qatlib.Usdm

/-! ## Lists of permitted ranges -/

/-- Ranges whose gaps registration marks completely. -/
structure Filterable (ranges : List PermittedRange) : Prop where
  ascending : ranges.Pairwise fun p q => p.last < q.start
  nonempty : ∀ p ∈ ranges, p.start ≤ p.last
  holdsLast : ∃ p ∈ ranges, p.HoldsLast
  apart : ∀ p ∈ ranges, ∀ q ∈ ranges, p.last + 1 = q.start → ¬2097152 ∣ q.start

/-- The range wholly inside a permitted one. -/
def PermittedRange.Contains (p : PermittedRange) (r : IovaRange) : Prop :=
  p.start ≤ r.iova ∧ r.iova + r.size ≤ p.last + 1

variable {p q : PermittedRange} {k : Nat} {r : IovaRange} {v : Vfio} {st : VfioState}
  {e : VfioEvent}

section Ranges

variable {ranges : List PermittedRange}

namespace Filterable

variable (h : Filterable ranges)
include h

theorem holds (hk : k < 262144) (hexcl : excludedBy [ranges] k = false) : ∃ p ∈ ranges, p.Holds k :=
  filterRange_holds (Nat.dvd_zero _) h.ascending h.nonempty (fun _ _ => Nat.zero_le _) h.holdsLast hk
    (Nat.zero_le _) hexcl

theorem ordered (hp : p ∈ ranges) (hq : q ∈ ranges) :
    p = q ∨ p.last < q.start ∨ q.last < p.start := by
  obtain ⟨i, hi, rfl⟩ := List.getElem_of_mem hp
  obtain ⟨j, hj, rfl⟩ := List.getElem_of_mem hq
  have hasc := List.pairwise_iff_getElem.mp h.ascending
  rcases Nat.lt_trichotomy i j with hlt | rfl | hlt
  · exact .inr (.inl (hasc i j hi hj hlt))
  · exact .inl rfl
  · exact .inr (.inr (hasc j i hj hi hlt))

/-- Adjacent IOVA slabs that are permitted are in one range. -/
theorem holds_succ (hp : p ∈ ranges) (hq : q ∈ ranges) (hpk : p.Holds k)
    (hqk : q.Holds (k + 1)) : p = q := by
  obtain ⟨hp₁, hp₂⟩ := hpk
  obtain ⟨hq₁, hq₂⟩ := hqk
  rcases h.ordered hp hq with rfl | hlt | hlt
  · rfl
  · -- the two ranges meet at the boundary between the IOVA slabs
    have hmeet : q.start = 2097152 * (k + 1) := by omega
    exact absurd ⟨k + 1, hmeet⟩ (h.apart p hp q hq (by omega))
  · omega

/-- **Permitted IOVA slabs that follow each other are in one range.** -/
theorem contains (hr : r.Valid)
    (hfree : ∀ k, r.Covers k → excludedBy [ranges] k = false) : ∃ p ∈ ranges, p.Contains r := by
  obtain ⟨hpos, -, -, ⟨a, ha⟩, hinside⟩ := hr
  have hcount : slabCount r.size * 2097152 < r.size + 2097152 ∧
      r.size ≤ slabCount r.size * 2097152 := by
    unfold slabCount
    omega
  have hcov : ∀ i < slabCount r.size, ∃ p ∈ ranges, p.Holds (a + i) := by
    intro i hi
    refine h.holds (by omega) (hfree _ ?_)
    unfold IovaRange.Covers
    omega
  -- the range of the first IOVA slab holds all of them
  have hall : ∀ p ∈ ranges, p.Holds a → ∀ i < slabCount r.size, p.Holds (a + i) := by
    intro p hp hpa i hi
    induction i with
    | zero => exact hpa
    | succ i ih =>
      obtain ⟨q, hq, hqi⟩ := hcov (i + 1) hi
      obtain rfl := h.holds_succ hp hq (ih (by omega)) hqi
      exact hqi
  obtain ⟨p, hp, hpa⟩ := hcov 0 (by omega)
  obtain ⟨-, hend⟩ := hall p hp hpa (slabCount r.size - 1) (by omega)
  refine ⟨p, hp, ?_, ?_⟩
  · obtain ⟨hstart, -⟩ := hpa
    omega
  · omega

end Filterable

end Ranges

/-! ## The marks along a run -/

/-- What holds in every state: `next_iova` and the slabs are inside the IOVA space. -/
structure VfioState.Sane (st : VfioState) : Prop where
  next : st.vfio.space.NextOk
  valid : ∀ d ∈ st.slabs, d.range.Valid

/-- A call that leaves the IOVA slabs excluded by these capabilities marked. -/
def VfioEvent.Spares (caps : List (List PermittedRange)) (st : VfioState) : VfioEvent → Prop
  | .alloc size alignment type env =>
      Exhausted st.vfio.initProcess env size alignment type →
        ∀ k < slabCount (roundUp size 4096), excludedBy caps k = false
  | .free slab _ => ∀ k, slab.range.Covers k → excludedBy caps k = false
  | .register _ _ _ => True
  | .unregister _ _ => True

/-- The excluded IOVA slabs are marked, and nothing handed out covers one. -/
structure Excluding (caps : List (List PermittedRange)) (st : VfioState) : Prop where
  sane : st.Sane
  pid : st.vfio.pidSeen = true
  marked : ∀ k, excludedBy caps k = true → st.vfio.space.iovaUsed.bit k = true
  handed : ∀ r ∈ st.handed, r.Valid ∧ ∀ k, r.Covers k → excludedBy caps k = false

theorem Vfio.initProcess_next (h : v.space.NextOk) : v.initProcess.space.NextOk := by
  unfold Vfio.initProcess
  split
  · exact h
  · exact IovaSpace.fresh_next

theorem VfioState.Sane.step {st' : VfioState} (h : st.Sane) (hstep : st.step e = some st') :
    st'.Sane := by
  obtain ⟨hnext, hvalid⟩ := h
  cases e with
  | alloc size alignment type env =>
    obtain ⟨⟨hpos, hsize, ha, hmax⟩, ⟨⟩⟩ := Option.ite_none_right_eq_some.mp hstep
    obtain ⟨res, v', heq, hnext', -, hcases⟩ :=
      ioctlAllocSlab_cases env type (Vfio.initProcess_next hnext) hpos hsize ha hmax
    rw [heq]
    refine ⟨hnext', fun d hd => ?_⟩
    rcases List.mem_append.mp hd with hnew | hold
    · obtain rfl := Option.mem_toList.mp hnew
      rcases hcases with ⟨hnone, -⟩ | ⟨hnone, -⟩ | ⟨d', hsome, -, -, -, -, htakes⟩
      · exact absurd hnone (by simp)
      · exact absurd hnone (by simp)
      · cases hsome
        exact htakes.valid
    · exact hvalid d hold
  | free slab unmapOk =>
    obtain ⟨hslab, ⟨⟩⟩ := Option.ite_none_right_eq_some.mp hstep
    obtain ⟨-, hnext', -⟩ := ioctlFreeSlab_space st.vfio.initProcess unmapOk (hvalid slab hslab)
    refine ⟨?_, fun d hd => hvalid d (List.mem_of_mem_erase hd)⟩
    rw [IovaSpace.NextOk, hnext']
    exact Vfio.initProcess_next hnext
  | register fd info mapOk =>
    cases info with
    | none =>
      cases hstep
      exact ⟨hnext, hvalid⟩
    | some caps =>
      cases hstep
      refine ⟨?_, hvalid⟩
      rw [(Vfio.register_space _ fd mapOk [st.slabs]).1]
      refine Vfio.initProcess_next ?_
      rw [IovaSpace.NextOk, Vfio.setUsed_next]
      exact hnext
  | unregister fd unmapOk =>
    cases hstep
    refine ⟨?_, hvalid⟩
    rw [(st.vfio.unregister_space fd unmapOk [st.slabs]).1]
    exact hnext

theorem sane_of_reachable (h : vfio.Reachable st) : st.Sane := by
  refine h.invariant VfioState.Sane ?_ ?_
  · rintro st rfl
    exact ⟨IovaSpace.fresh_next, by simp [VfioState.start]⟩
  · intro st e st' hsane _ hstep
    exact hsane.step hstep

section Steps

variable {caps : List (List PermittedRange)} {st st' : VfioState}

theorem Excluding.alloc (h : Excluding caps st) {size alignment : Nat} {type : SlabType}
    {env : SlabEnv} (hok : (VfioEvent.alloc size alignment type env).Spares caps st)
    (hstep : st.step (.alloc size alignment type env) = some st') : Excluding caps st' := by
  have hsane := h.sane.step hstep
  obtain ⟨⟨hpos, hsize, ha, hmax⟩, ⟨⟩⟩ := Option.ite_none_right_eq_some.mp hstep
  have hinit := Vfio.initProcess_seen h.pid
  obtain ⟨res, v', heq, -, hdev, hcases⟩ :=
    ioctlAllocSlab_cases env type (Vfio.initProcess_next h.sane.next) hpos hsize ha hmax
  rw [heq] at hsane ⊢
  rw [hinit] at hdev hcases
  have hpid := hdev.2.2.1.trans h.pid
  rcases hcases with ⟨rfl, hsame⟩ | ⟨rfl, hexh, hclear⟩ | ⟨d, rfl, -, -, -, -, htakes⟩
  · refine ⟨hsane, hpid, fun k hk => ?_, h.handed⟩
    rw [hsame k]
    exact h.marked k hk
  · refine ⟨hsane, hpid, fun k hk => ?_, h.handed⟩
    refine (hclear k).mpr ⟨fun hlt => ?_, h.marked k hk⟩
    have hspared := hok (by rw [hinit]; exact hexh) k hlt
    exact absurd (hk.symm.trans hspared) (by simp)
  · refine ⟨hsane, hpid, fun k hk => (htakes.bits k).mpr (.inr (h.marked k hk)), ?_⟩
    intro r hr
    rcases List.mem_cons.mp hr with rfl | hr
    · -- an excluded IOVA slab is marked, and only unmarked ones are taken
      refine ⟨htakes.valid, fun k hk => ?_⟩
      have hfree := htakes.free k hk
      by_contra hexcl
      rw [h.marked k (by simpa using hexcl)] at hfree
      exact absurd hfree (by simp)
    · exact h.handed r hr

theorem Excluding.free (h : Excluding caps st) {slab : SlabDesc} {unmapOk : Bool}
    (hok : (VfioEvent.free slab unmapOk).Spares caps st)
    (hstep : st.step (.free slab unmapOk) = some st') : Excluding caps st' := by
  have hsane := h.sane.step hstep
  obtain ⟨hslab, ⟨⟩⟩ := Option.ite_none_right_eq_some.mp hstep
  rw [Vfio.initProcess_seen h.pid] at hsane ⊢
  obtain ⟨hdev, -, hfree⟩ := ioctlFreeSlab_space st.vfio unmapOk (h.sane.valid slab hslab)
  refine ⟨hsane, hdev.2.2.1.trans h.pid, fun k hk => ?_, h.handed⟩
  refine (hfree k).mpr ⟨fun hcov => ?_, h.marked k hk⟩
  exact absurd (hk.symm.trans (hok k hcov)) (by simp)

/-- **Every call that spares the excluded IOVA slabs keeps them marked.** -/
theorem Excluding.step (h : Excluding caps st) (hok : e.Spares caps st)
    (hstep : st.step e = some st') : Excluding caps st' := by
  cases e with
  | alloc size alignment type env => exact h.alloc hok hstep
  | free slab unmapOk => exact h.free hok hstep
  | register fd info mapOk =>
    have hsane := h.sane.step hstep
    cases info with
    | none =>
      cases hstep
      exact h
    | some more =>
      obtain ⟨v', heq, hpid, -, hnew⟩ := VfioState.step_register h.pid fd more mapOk
      obtain rfl := Option.some.inj (heq.symm.trans hstep)
      exact ⟨hsane, hpid, fun k hk => (hnew k).mpr (.inr (h.marked k hk)), by simp⟩
  | unregister fd unmapOk =>
    have hsane := h.sane.step hstep
    cases hstep
    obtain ⟨hspace, hseen⟩ := st.vfio.unregister_space fd unmapOk [st.slabs]
    refine ⟨hsane, hseen.trans h.pid, fun k hk => ?_, h.handed⟩
    rw [hspace]
    exact h.marked k hk

end Steps

/-- **What is handed out after a registration is inside one permitted range**, in every run whose
    calls spare the IOVA slabs that the registration excluded. -/
theorem handed_out_permitted {st₀ st₁ st₂ : VfioState} (hreach : vfio.Reachable st₀)
    (hpid : st₀.vfio.pidSeen = true) {fd : Nat} {ranges : List PermittedRange}
    {mapOk : Nat → Bool} (hranges : Filterable ranges)
    (hreg : st₀.step (.register fd (some [ranges]) mapOk) = some st₁)
    (hrun : vfio.Run (fun st e => e.Spares [ranges] st) st₁ st₂) :
    ∀ r ∈ st₂.handed, ∃ p ∈ ranges, p.Contains r := by
  have hsane := (sane_of_reachable hreach).step hreg
  obtain ⟨v', heq, hpid', -, hnew⟩ := VfioState.step_register hpid fd [ranges] mapOk
  obtain rfl := Option.some.inj (heq.symm.trans hreg)
  have hstart : Excluding [ranges] _ :=
    ⟨hsane, hpid', fun k hk => (hnew k).mpr (.inl hk), by simp⟩
  have hend := hrun.invariant (Excluding [ranges])
    (fun st e st' h hok hstep => h.step hok hstep) hstart
  intro r hr
  obtain ⟨hvalid, hfree⟩ := hend.handed r hr
  exact hranges.contains hvalid hfree

/-- The variables of a process without slabs, initialised. -/
def Vfio.initialised : Vfio := { Vfio.start with pidSeen := true }

/-- The variables of a process without slabs and with one device. -/
def Vfio.registered (used : Bitmap 32) : Vfio :=
  { Vfio.initialised with
    space := ⟨used, Vfio.start.space.nextIova⟩
    vfioPidSeen := true
    containerFd := some 3
    containerRef := 1 }

/-- Registration after the initialisation keeps the marks. -/
theorem step_register_initialised (caps : List (List PermittedRange)) :
    VfioState.step ⟨Vfio.initialised, [], fun _ => false, []⟩
        (.register 3 (some caps) (fun _ => true)) =
      some ⟨Vfio.registered (filterDmaRanges Vfio.start.space.iovaUsed caps), [],
        fun k => false || excludedBy caps k, []⟩ := rfl

/-- Registration as the first call of the process forgets them. -/
theorem step_register_start (caps : List (List PermittedRange)) :
    VfioState.start.step (.register 3 (some caps) (fun _ => true)) =
      some ⟨Vfio.registered Vfio.start.space.iovaUsed, [],
        fun k => false || excludedBy caps k, []⟩ := rfl

/-- A small slab that gets a range. -/
theorem step_small_slab (excluded : Nat → Bool)
    (h : (ioctlAllocSlab v.initProcess ⟨some 4096, none, true⟩ 2097152 4096 .small).1.map
      SlabDesc.range = some r) :
    ∃ st', VfioState.step ⟨v, [], excluded, []⟩
        (.alloc 2097152 4096 .small ⟨some 4096, none, true⟩) = some st' ∧ st'.handed = [r] := by
  obtain ⟨d, hd, rfl⟩ := Option.map_eq_some_iff.mp h
  refine ⟨_, VfioState.step_alloc _ .small _ (by decide), ?_⟩
  simp only [hd]
  rfl

theorem filterDmaRanges_first (used : Bitmap 32) :
    filterDmaRanges used [[⟨2097152, 1099511627775⟩]] = used.setBit 0 := by
  have hlast : 549753716736 ≤ (⟨2097152, 1099511627775⟩ : PermittedRange).last :=
    show 549753716736 ≤ 1099511627775 by decide
  simp only [filterDmaRanges, List.foldl_cons, List.foldl_nil]
  rw [filterRange_above used 0 [] hlast, show min 2097152 549753716736 = 2097152 by decide,
    excludeBelow, if_pos (by decide), excludeBelow, if_neg (by decide)]
  rfl

theorem filterable_singleton (hne : p.start ≤ p.last) (hlast : p.HoldsLast) : Filterable [p] := by
  refine ⟨List.pairwise_singleton _ _, ?_, ⟨p, List.mem_singleton_self p, hlast⟩, ?_⟩
  · intro q hq
    obtain rfl := List.mem_singleton.mp hq
    exact hne
  · intro q hq q' hq' hmeet
    obtain rfl := List.mem_singleton.mp hq
    obtain rfl := List.mem_singleton.mp hq'
    omega

/-- The process is initialised by a slab that cannot be mapped; the kernel permits everything from the
    first IOVA slab on. -/
theorem handed_out_permitted_one_slab :
    ∃ st, vfio.Reachable st ∧ st.handed = [⟨2097152, 2097152⟩] ∧
      ∀ r ∈ st.handed, ∃ p ∈ [(⟨2097152, 1099511627775⟩ : PermittedRange)], p.Contains r := by
  have hfirst := VfioState.start.step_alloc .small ⟨none, none, true⟩
    (show 0 < 2097152 ∧ 2097152 ≤ 67108864 ∧ 0 < 4096 ∧ 4096 ≤ 4194304 by decide)
  have hreach : vfio.Reachable ⟨Vfio.initialised, [], fun _ => false, []⟩ :=
    vfio_reachable_step vfio_reachable_start hfirst
  have hreg := step_register_initialised [[⟨2097152, 1099511627775⟩]]
  rw [filterDmaRanges_first] at hreg
  generalize (fun k => false || excludedBy [[⟨2097152, 1099511627775⟩]] k) = excluded at hreg
  obtain ⟨st, hstep, hhanded⟩ := step_small_slab (r := ⟨2097152, 2097152⟩) excluded
    (v := Vfio.registered (Bitmap.setBit Vfio.start.space.iovaUsed 0)) (by decide +kernel)
  have hfound : (allocateIova (Vfio.registered (Bitmap.setBit Vfio.start.space.iovaUsed
      0)).initProcess.space (roundUp 2097152 4096) 4096).1 ≠ 0 := by decide +kernel
  refine ⟨st, vfio_reachable_step (vfio_reachable_step hreach hreg) hstep, hhanded, ?_⟩
  exact handed_out_permitted hreach rfl
    (filterable_singleton (show 2097152 ≤ 1099511627775 by decide) ⟨by decide, by decide⟩) hreg
    (.head (e := .alloc 2097152 4096 .small ⟨some 4096, none, true⟩)
      (fun hexh => absurd hexh.2 hfound) hstep (.refl _))

/-- Registration as the first call of the process: the initialisation clears the marks, and a slab
    gets an IOVA far below the only permitted range. -/
theorem first_registration_forgets :
    ∃ st₁ st₂, VfioState.start.step (.register 3 (some [[⟨274877906944, 549755813887⟩]])
        (fun _ => true)) = some st₁ ∧
      st₁.vfio.containerFd = some 3 ∧
      st₁.step (.alloc 2097152 4096 .small ⟨some 4096, none, true⟩) = some st₂ ∧
      Filterable [⟨274877906944, 549755813887⟩] ∧
      ∃ r ∈ st₂.handed, ∀ p ∈ [(⟨274877906944, 549755813887⟩ : PermittedRange)], ¬p.Contains r := by
  have hreg := step_register_start [[⟨274877906944, 549755813887⟩]]
  generalize (fun k => false || excludedBy [[⟨274877906944, 549755813887⟩]] k) = excluded at hreg
  obtain ⟨st₂, hstep, hhanded⟩ := step_small_slab (r := ⟨2097152, 2097152⟩) excluded
    (v := Vfio.registered Vfio.start.space.iovaUsed) (by decide +kernel)
  refine ⟨_, st₂, hreg, rfl, hstep, ?_, ⟨2097152, 2097152⟩, ?_, ?_⟩
  · exact filterable_singleton (show 274877906944 ≤ 549755813887 by decide) ⟨by decide, by decide⟩
  · rw [hhanded]
    exact List.mem_cons_self
  · simp [PermittedRange.Contains]

end Qatlib.Usdm
