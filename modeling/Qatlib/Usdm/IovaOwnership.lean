import Qatlib.Usdm.Vfio

set_option autoImplicit false

/-! # Who owns the IOVA space

The bitmap `iova_used` against the slabs that exist and the IOVA slabs excluded at device
registration, over any order of slab creations, slab destructions, registrations and
unregistrations.

Three things break the correspondence. A slab creation that finds no range releases the range at
address zero, whatever owns it. A slab that was created before an exclusion covering it clears the
exclusion when it is destroyed. And a registration that is the first call of the process excludes
before it initialises the process, which clears the bitmap. The runs below are those in which none of
the three happens. -/

namespace Qatlib.Usdm

/-! ## The machine -/

/-- The driver with the slabs that exist. The last three fields are not in the program: the IOVA
    slabs excluded at registration, and what was handed out since the last registration. -/
structure VfioState where
  vfio : Vfio
  slabs : List SlabDesc
  excluded : Nat → Bool
  handed : List IovaRange

/-- A call into the VFIO layer, with what the kernel answers. -/
inductive VfioEvent where
  | alloc (size alignment : Nat) (type : SlabType) (env : SlabEnv)
  | free (slab : SlabDesc) (unmapOk : Bool)
  | register (fd : Nat) (info : Option (List (List PermittedRange))) (mapOk : Nat → Bool)
  | unregister (fd : Nat) (unmapOk : Nat → Bool)

/-- The state of a process that has made no call. -/
def VfioState.start : VfioState := ⟨Vfio.start, [], fun _ => false, []⟩

/-- The IOVA slabs excluded by the capabilities reported at a registration. -/
def excludedBy (caps : List (List PermittedRange)) (k : Nat) : Bool :=
  (filterDmaRanges (fun _ => 0) caps).bit k

/-- One call. The sizes and alignments of slabs are those the memory API lets through; only a slab
    that exists is destroyed. -/
def VfioState.step (st : VfioState) : VfioEvent → Option VfioState
  | .alloc size alignment type env =>
      if 0 < size ∧ size ≤ 67108864 ∧ 0 < alignment ∧ alignment ≤ 4194304 then
        let r := ioctlAllocSlab st.vfio.initProcess env size alignment type
        some { st with
          vfio := r.2
          slabs := r.1.toList ++ st.slabs
          handed := r.1.toList.map SlabDesc.range ++ st.handed }
      else none
  | .free slab unmapOk =>
      if slab ∈ st.slabs then
        some { st with
          vfio := ioctlFreeSlab st.vfio.initProcess unmapOk slab.phyAddr slab.size
          slabs := st.slabs.erase slab }
      else none
  | .register fd info mapOk =>
      match info with
      | none => some st
      | some caps =>
          let v := (st.vfio.setUsed (filterDmaRanges st.vfio.space.iovaUsed caps)).initProcess
          some { st with
            vfio := (v.register fd mapOk [st.slabs]).2
            excluded := fun k => st.excluded k || excludedBy caps k
            handed := [] }
  | .unregister fd unmapOk => some { st with vfio := (st.vfio.unregister fd unmapOk [st.slabs]).2 }

open VfioState

/-- The VFIO layer as a system. -/
def vfio : System VfioState VfioEvent where
  Init st := st = start
  step := step

variable {st st' : VfioState} {e : VfioEvent} {size alignment : Nat}

theorem vfio_reachable_step (h : vfio.Reachable st) (hstep : st.step e = some st') :
    vfio.Reachable st' :=
  h.trans (.head (e := e) trivial hstep (.refl _))

theorem vfio_reachable_start : vfio.Reachable start := ⟨_, rfl, .refl _⟩

theorem VfioState.step_alloc (st : VfioState) (type : SlabType) (env : SlabEnv)
    (h : 0 < size ∧ size ≤ 67108864 ∧ 0 < alignment ∧ alignment ≤ 4194304) :
    st.step (.alloc size alignment type env) = some { st with
      vfio := (ioctlAllocSlab st.vfio.initProcess env size alignment type).2
      slabs := (ioctlAllocSlab st.vfio.initProcess env size alignment type).1.toList ++ st.slabs
      handed := (ioctlAllocSlab st.vfio.initProcess env size alignment type).1.toList.map
        SlabDesc.range ++ st.handed } := if_pos h

/-- Registering a device in an initialised process excludes and changes nothing else. -/
theorem VfioState.step_register (hpid : st.vfio.pidSeen = true) (fd : Nat)
    (caps : List (List PermittedRange)) (mapOk : Nat → Bool) :
    ∃ v', st.step (.register fd (some caps) mapOk) = some { st with
        vfio := v'
        excluded := fun k => st.excluded k || excludedBy caps k
        handed := [] } ∧
      v'.pidSeen = true ∧ v'.space.nextIova = st.vfio.space.nextIova ∧
      ∀ k, v'.space.iovaUsed.bit k = true ↔
        excludedBy caps k = true ∨ st.vfio.space.iovaUsed.bit k = true := by
  have hbits := bit_filterDmaRanges st.vfio.space.iovaUsed caps
  refine ⟨_, rfl, ?_⟩
  generalize filterDmaRanges st.vfio.space.iovaUsed caps = used at hbits ⊢
  have hinit : (st.vfio.setUsed used).initProcess = st.vfio.setUsed used :=
    Vfio.initProcess_seen (by rw [Vfio.setUsed_pidSeen, hpid])
  obtain ⟨hspace, hseen⟩ := (st.vfio.setUsed used).register_space fd mapOk [st.slabs]
  rw [hinit, hspace, hseen]
  exact ⟨hpid, rfl, hbits⟩

/-! ## The invariant -/

/-- The bitmap marks exactly what is covered by a slab or excluded, and the slabs do not overlap. -/
structure IovaOwned (st : VfioState) : Prop where
  /-- The ranges of the slabs have no IOVA slab in common. -/
  disjoint : st.slabs.Pairwise fun d d' => d.range.Disjoint d'.range
  bit_iff : ∀ k, st.vfio.space.iovaUsed.bit k = true ↔
    (∃ d ∈ st.slabs, d.range.Covers k) ∨ st.excluded k = true
  valid : ∀ d ∈ st.slabs, d.range.Valid

/-- The invariant, with what it needs of the other variables. -/
structure IovaInv (st : VfioState) : Prop where
  owned : IovaOwned st
  next : st.vfio.space.NextOk
  /-- Nothing happens before the process is initialised. -/
  fresh : st.vfio.pidSeen = false → st.slabs = [] ∧ st.excluded = fun _ => false

/-- A call that releases only what it owns: an exhausted creation finds the lowest IOVA slabs
    unmarked, a destroyed slab covers no excluded one, and a device is registered in an initialised
    process. -/
def VfioEvent.Releases (st : VfioState) : VfioEvent → Prop
  | .alloc size alignment type env =>
      Exhausted st.vfio.initProcess env size alignment type → ∀ k < slabCount (roundUp size 4096),
          st.vfio.initProcess.space.iovaUsed.bit k = false
  | .free slab _ => ∀ k, slab.range.Covers k → st.excluded k = false
  | .register _ _ _ => st.vfio.pidSeen = true
  | .unregister _ _ => True

theorem IovaInv.start : IovaInv VfioState.start := by
  refine ⟨⟨List.Pairwise.nil, fun k => ?_, by simp [VfioState.start]⟩, IovaSpace.fresh_next,
    fun _ => ⟨rfl, rfl⟩⟩
  simp [VfioState.start, Vfio.start, IovaSpace.fresh, Bitmap.bit]

/-- The initialisation of the process changes nothing that was used. -/
theorem IovaInv.initProcess (h : IovaInv st) :
    IovaInv { st with vfio := st.vfio.initProcess } ∧ st.vfio.initProcess.pidSeen = true := by
  unfold Vfio.initProcess
  split
  · next hseen => exact ⟨h, hseen⟩
  · next hseen =>
    obtain ⟨hslabs, hexcl⟩ := h.fresh (by simpa using hseen)
    refine ⟨⟨⟨h.owned.disjoint, fun k => ?_, h.owned.valid⟩, IovaSpace.fresh_next,
      fun hfalse => absurd hfalse (by simp)⟩, rfl⟩
    simp [hslabs, hexcl, IovaSpace.fresh, Bitmap.bit]

/-! ## Steps -/

section Steps

variable {st : VfioState}

/-- The slabs that are there cover only marked IOVA slabs, so a taken range is disjoint from them. -/
theorem IovaOwned.takes (h : IovaOwned st) {space' : IovaSpace} {d : SlabDesc}
    (htakes : st.vfio.space.Takes space' d.range) : ∀ d' ∈ st.slabs, d.range.Disjoint d'.range := by
  rintro d' hd' k ⟨hk, hk'⟩
  have hset := (h.bit_iff k).mpr (.inl ⟨d', hd', hk'⟩)
  rw [htakes.free k hk] at hset
  exact absurd hset (by simp)

section

variable (h : IovaInv st)
include h

theorem IovaInv.alloc (hpid : st.vfio.pidSeen = true) (hpos : 0 < size) (hsize : size ≤ 67108864)
    (ha : 0 < alignment) (hmax : alignment ≤ 4194304) (type : SlabType) (env : SlabEnv)
    (hok : Exhausted st.vfio env size alignment type →
      ∀ k < slabCount (roundUp size 4096), st.vfio.space.iovaUsed.bit k = false)
    (handed : List IovaRange) :
    IovaInv { st with
      vfio := (ioctlAllocSlab st.vfio env size alignment type).2
      slabs := (ioctlAllocSlab st.vfio env size alignment type).1.toList ++ st.slabs
      handed := handed } := by
  obtain ⟨res, v', heq, hnext, hdev, hcases⟩ :=
    ioctlAllocSlab_cases env type h.next hpos hsize ha hmax
  rw [heq]
  have hpid' : v'.pidSeen = true := hdev.2.2.1.trans hpid
  obtain ⟨hdis, hbits, hvalid⟩ := h.owned
  rcases hcases with ⟨rfl, hsame⟩ | ⟨rfl, hexh, hclear⟩ | ⟨d, rfl, -, -, -, -, htakes⟩
  · refine ⟨⟨hdis, fun k => ?_, hvalid⟩, hnext, fun hfalse => nomatch hpid'.symm.trans hfalse⟩
    rw [hsame k]
    exact hbits k
  · -- the release at address zero hits IOVA slabs that are not marked
    refine ⟨⟨hdis, fun k => ?_, hvalid⟩, hnext, fun hfalse => nomatch hpid'.symm.trans hfalse⟩
    rw [hclear k]
    refine (and_iff_right_of_imp fun hbit hlt => ?_).trans (hbits k)
    rw [hok hexh k hlt] at hbit
    exact absurd hbit (by simp)
  · refine ⟨⟨?_, fun k => ?_, ?_⟩, hnext, fun hfalse => nomatch hpid'.symm.trans hfalse⟩
    · exact List.pairwise_cons.mpr ⟨h.owned.takes htakes, hdis⟩
    · rw [htakes.bits k, hbits k]
      simp [or_assoc]
    · intro d' hd'
      rcases List.mem_cons.mp hd' with rfl | hd'
      · exact htakes.valid
      · exact hvalid d' hd'

theorem IovaInv.free (hpid : st.vfio.pidSeen = true) {slab : SlabDesc} (hslab : slab ∈ st.slabs)
    (unmapOk : Bool) (hok : ∀ k, slab.range.Covers k → st.excluded k = false) :
    IovaInv { st with
      vfio := ioctlFreeSlab st.vfio unmapOk slab.phyAddr slab.size
      slabs := st.slabs.erase slab } := by
  obtain ⟨hdis, hbits, hvalid⟩ := h.owned
  obtain ⟨hdev, hnext, hfree⟩ := ioctlFreeSlab_space st.vfio unmapOk (hvalid slab hslab)
  generalize ioctlFreeSlab st.vfio unmapOk slab.phyAddr slab.size = v' at hdev hnext hfree ⊢
  have hpid' := hdev.2.2.1.trans hpid
  -- a slab that covers nothing twice: the others are disjoint from this one
  have hother : ∀ d ∈ st.slabs.erase slab, d.range.Disjoint slab.range := by
    have hperm := List.perm_cons_erase hslab
    have hdis' := (hperm.pairwise_iff (fun {d d'} hd k hk => hd k hk.symm)).mp hdis
    intro d hd k hk
    exact (List.pairwise_cons.mp hdis').1 d hd k hk.symm
  refine ⟨⟨hdis.sublist List.erase_sublist, fun k => ?_,
    fun d hd => hvalid d (List.mem_of_mem_erase hd)⟩, ?_,
    fun hfalse => nomatch hpid'.symm.trans hfalse⟩
  · rw [hfree k, hbits k]
    constructor
    · rintro ⟨hout, ⟨d, hd, hcov⟩ | hexcl⟩
      · refine .inl ⟨d, ?_, hcov⟩
        refine (List.mem_erase_of_ne ?_).mpr hd
        rintro rfl
        exact hout hcov
      · exact .inr hexcl
    · rintro (⟨d, hd, hcov⟩ | hexcl)
      · exact ⟨fun hin => hother d hd k ⟨hcov, hin⟩, .inl ⟨d, List.mem_of_mem_erase hd, hcov⟩⟩
      · refine ⟨fun hin => ?_, .inr hexcl⟩
        rw [hok k hin] at hexcl
        exact absurd hexcl (by simp)
  · rw [IovaSpace.NextOk, hnext]
    exact h.next

theorem IovaInv.register {caps : List (List PermittedRange)} {v' : Vfio}
    (hpid : v'.pidSeen = true) (hnext : v'.space.nextIova = st.vfio.space.nextIova)
    (hnew : ∀ k, v'.space.iovaUsed.bit k = true ↔
      excludedBy caps k = true ∨ st.vfio.space.iovaUsed.bit k = true) :
    IovaInv { st with
      vfio := v'
      excluded := fun k => st.excluded k || excludedBy caps k
      handed := [] } := by
  obtain ⟨hdis, hbits, hvalid⟩ := h.owned
  refine ⟨⟨hdis, fun k => ?_, hvalid⟩, ?_, fun hfalse => nomatch hpid.symm.trans hfalse⟩
  · rw [hnew k, hbits k, Bool.or_eq_true, or_comm, or_assoc]
  · rw [IovaSpace.NextOk, hnext]
    exact h.next

/-- **Every call that releases only what it owns keeps the invariant.** -/
theorem IovaInv.step (hok : e.Releases st) (hstep : st.step e = some st') : IovaInv st' := by
  cases e with
  | alloc size alignment type env =>
    obtain ⟨⟨hpos, hsize, ha, hmax⟩, ⟨⟩⟩ := Option.ite_none_right_eq_some.mp hstep
    obtain ⟨hinit, hpid⟩ := h.initProcess
    exact hinit.alloc hpid hpos hsize ha hmax type env hok _
  | free slab unmapOk =>
    obtain ⟨hslab, ⟨⟩⟩ := Option.ite_none_right_eq_some.mp hstep
    obtain ⟨hinit, hpid⟩ := h.initProcess
    exact hinit.free hpid hslab unmapOk hok
  | register fd info mapOk =>
    cases info with
    | none =>
      cases hstep
      exact h
    | some caps =>
      obtain ⟨v', heq, hpid, hnext, hnew⟩ := step_register hok fd caps mapOk
      obtain rfl := Option.some.inj (heq.symm.trans hstep)
      exact h.register hpid hnext hnew
  | unregister fd unmapOk =>
    cases hstep
    obtain ⟨hspace, hseen⟩ := st.vfio.unregister_space fd unmapOk [st.slabs]
    obtain ⟨hdis, hbits, hvalid⟩ := h.owned
    refine ⟨⟨hdis, fun k => ?_, hvalid⟩, ?_, fun hfalse => h.fresh (hseen ▸ hfalse)⟩
    · rw [hspace]
      exact hbits k
    · rw [hspace]
      exact h.next

end

end Steps

/-- **In every run whose calls release only what they own, the bitmap marks exactly what the slabs
    cover and registration excluded, and the slabs do not overlap.** -/
theorem iova_owned {st : VfioState}
    (h : vfio.ReachableBy (fun st e => e.Releases st) st) : IovaOwned st := by
  refine (h.invariant IovaInv ?_ ?_).owned
  · rintro st rfl
    exact IovaInv.start
  · intro st e st' hinv hok hstep
    exact hinv.step hok hstep

/-- A small slab in a fresh process takes the first IOVA slab that can be handed out. -/
theorem step_first_slab :
    ∃ st d, start.step (.alloc 2097152 4096 .small ⟨some 4096, none, true⟩) = some st ∧
      st.slabs = [d] ∧ d.range = ⟨2097152, 2097152⟩ ∧ st.vfio.pidSeen = true ∧
      st.vfio.space.NextOk ∧ st.vfio.space.iovaUsed.bit 1 = true := by
  have hstep := start.step_alloc .small ⟨some 4096, none, true⟩
    (show 0 < 2097152 ∧ 2097152 ≤ 67108864 ∧ 0 < 4096 ∧ 4096 ≤ 4194304 by decide)
  have hsome : (ioctlAllocSlab start.vfio.initProcess ⟨some 4096, none, true⟩ 2097152
      4096 .small).1.map SlabDesc.range = some ⟨2097152, 2097152⟩ := by decide +kernel
  obtain ⟨d, hd, hrange⟩ := Option.map_eq_some_iff.mp hsome
  refine ⟨_, d, hstep, ?_, hrange, by decide +kernel, ⟨by decide +kernel, by decide +kernel⟩,
    by decide +kernel⟩
  rw [hd]
  rfl

/-- Two slabs in a fresh process, of which the first is destroyed. -/
theorem iova_owned_two_slabs :
    ∃ st, vfio.ReachableBy (fun st e => e.Releases st) st ∧
      st.slabs.map SlabDesc.range = [⟨4194304, 2097152⟩] ∧ st.vfio.space.iovaUsed.bit 1 = false ∧
      st.vfio.space.iovaUsed.bit 2 = true ∧ IovaOwned st := by
  have hvalid : 0 < 2097152 ∧ 2097152 ≤ 67108864 ∧ 0 < 4096 ∧ 4096 ≤ 4194304 := by decide
  have hfree (st : VfioState) (d : SlabDesc) (hd : d ∈ st.slabs) : vfio.step st (.free d true) =
      some { st with
        vfio := ioctlFreeSlab st.vfio.initProcess true d.phyAddr d.size
        slabs := st.slabs.erase d } := if_pos hd
  obtain ⟨st, hreach, hslabs, hbits⟩ : ∃ st, vfio.ReachableBy (fun st e => e.Releases st) st ∧
      st.slabs.map SlabDesc.range = [⟨4194304, 2097152⟩] ∧
      st.vfio.space.iovaUsed.bit 1 = false ∧ st.vfio.space.iovaUsed.bit 2 = true := by
    refine ⟨_, ⟨start, rfl, .head (e := .alloc 2097152 4096 .small ⟨some 4096, none, true⟩)
      ?_ (step_alloc _ _ _ hvalid)
      (.head (e := .alloc 2097152 4096 .small ⟨some 4198400, none, true⟩)
      ?_ (step_alloc _ _ _ hvalid)
      (.head ?_ (hfree _ ⟨4096, 4096, 2097152, 2097152, .small⟩ ?_) (.refl _)))⟩, ?_⟩
    · rintro ⟨-, hzero⟩
      exact absurd hzero (by decide +kernel)
    · rintro ⟨-, hzero⟩
      exact absurd hzero (by decide +kernel)
    · exact fun _ _ => rfl
    · decide +kernel
    · decide +kernel
  exact ⟨st, hreach, hslabs, hbits.1, hbits.2, iova_owned hreach⟩

/-- The gap between two permitted ranges is excluded. -/
theorem excludedBy_gap {p q : PermittedRange} (hp : p.last < 549753716736)
    (hq : 549753716736 ≤ q.last) {k : Nat} (hlo : p.last < k * 2097152)
    (hhi : k * 2097152 < min q.start 549753716736) : excludedBy [[p, q]] k = true := by
  have heq : filterDmaRanges (fun _ => 0) [[p, q]] = (excludeBelow (min q.start 549753716736)
      (excludeBelow (min p.start 549753716736) (fun _ => 0) 0).1
      ((p.last + 1) / 2097152 * 2097152)).1 := by
    simp only [filterDmaRanges, List.foldl_cons, List.foldl_nil]
    rw [filterRange_below _ _ _ hp, filterRange_above _ _ _ hq]
  rw [excludedBy, heq]
  refine (bit_excludeBelow _ (Nat.min_le_right _ _) (Nat.dvd_mul_left _ _) k).mpr (.inl ⟨?_, hhi⟩)
  omega

/-- No creation of 4 MB succeeds when all IOVA slabs but the first and the last are marked. -/
theorem allocateIova_none_adjacent {space : IovaSpace} (hnext : space.NextOk)
    (hbits : ∀ k, 1 ≤ k → k < 262143 → space.iovaUsed.bit k = true) :
    ∃ space', allocateIova space (roundUp 4194304 4096) 4096 = (0, space') := by
  obtain ⟨-, hpos, hsize, hle⟩ := roundUp_page (show 0 < 4194304 by decide) (by decide)
  obtain ⟨r, space', heq, -, ⟨rfl, -⟩ | ⟨-, htakes⟩⟩ :=
    allocateIova_cases hnext hpos hsize (show 0 < 4096 by decide) (by decide)
  · exact ⟨space', heq⟩
  · obtain ⟨-, -, hfirst, -, hinside⟩ := htakes.valid
    have hcount : 0 < slabCount (roundUp 4194304 4096) := by decide
    have hfree := htakes.free (r / 2097152) ⟨Nat.le_refl _, Nat.lt_add_of_pos_right hcount⟩
    simp only at hfirst hinside
    rw [hbits (r / 2097152) (by omega) (by omega)] at hfree
    exact absurd hfree (by simp)

/-- A creation of 4 MB that finds no range clears the mark of the first two IOVA slabs. -/
theorem step_alloc_none_adjacent (st : VfioState) (hpid : st.vfio.pidSeen = true)
    (hnext : st.vfio.space.NextOk)
    (hbits : ∀ k, 1 ≤ k → k < 262143 → st.vfio.space.iovaUsed.bit k = true) :
    ∃ st', st.step (.alloc 4194304 4096 .large ⟨some 8192, some 12288, true⟩) = some st' ∧
      st'.slabs = st.slabs ∧ st'.vfio.space.iovaUsed.bit 1 = false := by
  obtain ⟨space', halloc⟩ := allocateIova_none_adjacent hnext hbits
  have hmmap : SlabEnv.mmap ⟨some 8192, some 12288, true⟩ .large ≠ none := by simp [SlabEnv.mmap]
  have heq := ioctlAllocSlab_exhausted hmmap halloc
  have hstep := st.step_alloc .large ⟨some 8192, some 12288, true⟩
    (show 0 < 4194304 ∧ 4194304 ≤ 67108864 ∧ 0 < 4096 ∧ 4096 ≤ 4194304 by decide)
  rw [Vfio.initProcess_seen hpid, heq] at hstep
  refine ⟨_, hstep, rfl, ?_⟩
  have hclear := Vfio.bit_release_zero { st.vfio with space := space' }
    (show roundUp 4194304 4096 ≤ 67108864 by decide) 1
  rw [← Bool.not_eq_true, hclear]
  rintro ⟨hout, -⟩
  exact hout (by decide)

/-- A creation that finds no range frees the IOVA of a slab that is in use: a small slab, a
    registration that leaves no two adjacent IOVA slabs free, and a creation of 4 MB. -/
theorem iova_exhausted_releases_live :
    ∃ st, vfio.Reachable st ∧ ∃ d ∈ st.slabs, d.range.Covers 1 ∧
      st.vfio.space.iovaUsed.bit 1 = false := by
  obtain ⟨caps, hcaps⟩ : ∃ caps, ∀ k, 1 < k → k < 262143 → excludedBy caps k = true := by
    refine ⟨[[⟨2097152, 4194303⟩, ⟨1099511627776, 2199023255551⟩]], fun k hk hlast => ?_⟩
    refine excludedBy_gap (show 4194303 < 549753716736 by decide)
      (show 549753716736 ≤ 2199023255551 by decide) (show 4194303 < k * 2097152 by omega) ?_
    exact Nat.lt_min.mpr ⟨show k * 2097152 < 1099511627776 by omega, by omega⟩
  obtain ⟨st₁, d, hstep₁, hslabs, hrange, hpid, hnext, hone⟩ := step_first_slab
  -- the registration keeps the mark of the slab and excludes the others
  obtain ⟨v₂, hstep₂, hpid₂, hnext₂, hnew⟩ := step_register hpid 3 caps (fun _ => true)
  have hbits : ∀ k, 1 ≤ k → k < 262143 → v₂.space.iovaUsed.bit k = true := by
    intro k hk hlast
    refine (hnew k).mpr ?_
    rcases Nat.lt_or_ge 1 k with hgt | hle
    · exact .inl (hcaps k hgt hlast)
    · obtain rfl : k = 1 := by omega
      exact .inr hone
  have hok₂ : v₂.space.NextOk := by
    rw [IovaSpace.NextOk, hnext₂]
    exact hnext
  obtain ⟨st₃, hstep₃, hslabs₃, hbit₃⟩ := step_alloc_none_adjacent
    ⟨v₂, st₁.slabs, fun k => st₁.excluded k || excludedBy caps k, []⟩ hpid₂ hok₂ hbits
  have hreach := vfio_reachable_step (vfio_reachable_step (vfio_reachable_step
    vfio_reachable_start hstep₁) hstep₂) hstep₃
  refine ⟨st₃, hreach, d, ?_, ?_, hbit₃⟩
  · rw [hslabs₃, hslabs]
    exact List.mem_singleton_self d
  · rw [hrange]
    decide

end Qatlib.Usdm
