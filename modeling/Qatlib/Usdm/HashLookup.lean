import Qatlib.Usdm.AllocatorCalls

set_option autoImplicit false

/-! # Slab accounting and lookup

Every slab is on one list and one hash chain, the counters count and the cache is within its limit, in
every run. `find_slab_in_hash` goes through the page table, which `store_mmap_range` fills for each
new slab: when the kernel refuses memory for a level of the table, `store_addr` returns without a word
and the page has no entry. So the lookup finds the owner of an address in the runs in which every
level is mapped. -/

namespace Qatlib.Usdm

/-! ## Accounting -/

/-- The slabs of a hash chain, in order. -/
def Allocator.chain (s : Allocator) (key : Nat) : List Nat :=
  walk s.hash.next s.existing.length (s.slabList key).head

/-- What the lists, the counters and the cache say of the slabs that exist. -/
structure Accounted (cfg : Config) (s : Allocator) : Prop where
  /-- The three lists are well formed and have no slab in common. -/
  lists : IsDLists s.user s.lists s.slabs
  chains : IsDLists s.hash s.slabList s.chain
  onList : ∀ a, a ∈ s.existing ↔ ∃! k, a ∈ s.slabs k
  onChain : ∀ a, a ∈ s.existing ↔ ∃! key, a ∈ s.chain key
  counter : ∀ a ∈ s.existing, (s.info a).allocations = (s.live a).length
  inUse : ∀ k, ∀ a ∈ s.slabs k, 0 < (s.info a).allocations ↔ k ≠ .cache
  cacheSize : s.cacheSize = ((s.slabs .cache).map fun a => (s.info a).size).sum
  cacheMax : s.cacheSize ≤ cfg.maxCache

section Accounting

variable {cfg : Config} {s : Allocator} {L : ListKind → List Nat}

theorem Listed.chain {d : Option Nat} (h : Listed s L d) :
    IsDLists s.hash s.slabList s.chain ∧
      ∀ key a, a ∈ s.chain key ↔ a ∈ s.existing ∧ getKey (s.info a).phyAddr = key := by
  obtain ⟨H, hH, hmem⟩ := h.hash
  have hchain : s.chain = H := by
    funext key
    have hsub : H key ⊆ s.existing := fun a ha => ((hmem key a).mp ha).1
    exact (hH.list key).walk (((hH.list key).nodup.subperm hsub).length_le)
  rw [hchain]
  exact ⟨hH, hmem⟩

theorem Allocator.InList.counter {a : Nat} {k : ListKind} (h : s.InList a k) :
    (s.info a).allocations = (s.live a).length ∧ (0 < (s.info a).allocations ↔ k ≠ .cache) := by
  cases k with
  | user =>
    obtain ⟨-, -, hne, hcount⟩ := h
    refine ⟨hcount, fun _ => by decide, fun _ => ?_⟩
    rw [hcount]
    exact List.length_pos_iff.mpr hne
  | large =>
    obtain ⟨-, hlive, hcount⟩ := h
    rw [hlive, hcount]
    exact ⟨rfl, fun _ => by decide, fun _ => by decide⟩
  | cache =>
    obtain ⟨-, -, hlive, hcount⟩ := h
    rw [hlive, hcount]
    exact ⟨rfl, by simp⟩

theorem AllocatorOk.accounted (h : AllocatorOk cfg s L none) : Accounted cfg s := by
  have hslabs : s.slabs = L := funext h.listed.slabs
  obtain ⟨hchains, hmem⟩ := h.listed.chain
  refine ⟨by rw [hslabs]; exact h.listed.lists, hchains, fun a => ?_, fun a => ?_, fun a ha => ?_,
    fun k a ha => ?_, by rw [hslabs]; exact h.counted.cacheSize, h.counted.cacheMax⟩
  · rw [hslabs, h.listed.mem a]
    constructor
    · rintro (⟨k, hk⟩ | hnone)
      · refine ⟨k, hk, fun k' hk' => ?_⟩
        by_contra hne
        exact h.listed.lists.disjoint k' k hne a hk' hk
      · exact absurd hnone (by simp)
    · rintro ⟨k, hk, -⟩
      exact .inl ⟨k, hk⟩
  · constructor
    · intro ha
      exact ⟨_, (hmem _ a).mpr ⟨ha, rfl⟩, fun key hkey => ((hmem key a).mp hkey).2.symm⟩
    · rintro ⟨key, hkey, -⟩
      exact ((hmem key a).mp hkey).1
  · obtain ⟨k, hk⟩ | hnone := (h.listed.mem a).mp ha
    · exact (h.counted.slab k a hk).counter.1
    · exact absurd hnone (by simp)
  · rw [hslabs] at ha
    exact (h.counted.slab k a ha).counter.2

end Accounting

/-! ## The page table holds every slab -/

/-- Every slab is in the page table. -/
def Stored (s : Allocator) : Prop :=
  ∀ a ∈ s.existing, Mapped s.pageTable (s.info a).virtAddr (s.info a).phyAddr (s.info a).size

/-- Every level of the page table that the call needs is mapped. -/
def UsdmEvent.LevelsOk : UsdmEvent → Prop
  | .alloc _ _ _ env => ∀ i n, env.levelOk i n = true
  | _ => True

section Table

variable {cfg : Config} {s s' : Allocator} {L : ListKind → List Nat}

theorem IovaRange.Valid.page {r : IovaRange} (h : r.Valid) : 4096 ∣ r.iova :=
  Dvd.dvd.trans (by decide) h.aligned

theorem Stored.move {C : Creation → Prop} (hC : ∀ c, C c → ∀ i n, c.levelOk i n = true)
    (h : Stored s) (hmove : Move C s s') : Stored s' := by
  cases hmove with
  | touch htouch =>
    intro a ha
    rw [htouch.existing] at ha
    obtain ⟨hsize, -, hphy, hvirt⟩ := htouch.geometry a
    rw [htouch.pageTable, hsize, hphy, hvirt]
    exact h a ha
  | free unmapOk hplaced hnodup ha => exact fun b hb => h b (List.mem_of_mem_erase hb)
  | fail c hplaced hvalid hc hnone =>
    obtain ⟨-, hres, -⟩ := Creation.failed hplaced hvalid hnone
    rw [hres]
    exact h
  | create c hplaced hvalid hc hsome =>
    obtain ⟨d, rfl, -, hres, hnew, hfree, hslab, -⟩ := Creation.succeeded hplaced hvalid hsome
    rw [hres]
    obtain ⟨-, -, hapart⟩ := Allocator.freeRegion_spec hfree
    have hself := c.before.withSlab_info_self c.slab.2 d
    intro b hb
    show Mapped (storeMmapRange c.levelOk c.before.pageTable
      ((c.before.withSlab c.slab.2 d).info d.addr).virtAddr
      ((c.before.withSlab c.slab.2 d).info d.addr).phyAddr
      ((c.before.withSlab c.slab.2 d).info d.addr).size) ((c.before.withSlab c.slab.2 d).info b).virtAddr
      ((c.before.withSlab c.slab.2 d).info b).phyAddr ((c.before.withSlab c.slab.2 d).info b).size
    rw [hself]
    rcases List.mem_cons.mp hb with rfl | hb
    · rw [hself]
      exact mapped_storeMmapRange (hC c hc) _ hslab.aligned hslab.range.page hslab.inside
    · rw [c.before.withSlab_info c.slab.2 d (fun heq => hnew (heq ▸ hb))]
      exact (h b hb).storeMmapRange _ _ hslab.aligned hslab.pages (hplaced.slab b hb).inside
        hslab.inside (of_decide_eq_true (hapart b hb).2).symm

theorem Stored.openProcess (h : Stored s) (hok : AllocatorOk cfg s L none) :
    Stored s.openProcess := by
  unfold Allocator.openProcess
  split
  · exact h
  · next hseen =>
    intro a ha
    rw [show s.existing = [] from hok.placed.fresh (by simpa using hseen)] at ha
    exact absurd ha List.not_mem_nil

theorem Stored.step {e : UsdmEvent} (h : Stored s) (hok : AllocatorOk cfg s L none)
    (hlevels : e.LevelsOk) (hstep : s.step cfg e = some s') : Stored s' := by
  have hC : ∀ c, e.Creates s c → ∀ i n, c.levelOk i n = true := by
    cases e with
    | alloc size node alignment env =>
      intro c hc
      rw [hc.1]
      exact hlevels
    | _ => exact fun c hc => absurd hc id
  refine hok.call_invariant h hstep (fun _ _ hok hs => hs.openProcess hok)
    (fun _ _ hmove hs => Stored.move hC hs hmove) ?_ (fun _ => h) (fun _ _ _ _ _ h => h) fun _ _ => h
  rintro unmapOk rfl
  cases hstep
  intro a ha
  rw [(hok.memDestroy unmapOk fun _ => False).2.1] at ha
  exact absurd ha List.not_mem_nil

end Table

/-! ## Lookup -/

/-- The lookup returns the slab that an address is in. -/
def FindsOwner (s : Allocator) : Prop :=
  ∀ a ∈ s.existing, ∀ p, (s.info a).virtAddr ≤ p → p < (s.info a).virtAddr + (s.info a).size →
    s.findSlabInHash p = some a

section Lookup

variable {cfg : Config} {s : Allocator} {L : ListKind → List Nat}

/-- The test on `uintptr_t` that an address is in a region of user space. -/
theorem subWrap_lt_iff {p base size : Nat} (hp : p < 18446744073709551616)
    (hend : base + size ≤ 144115188075855872) :
    subWrap p base < size ↔ base ≤ p ∧ p < base + size := by
  unfold subWrap
  omega

/-- The one element of a list that passes a test is found. -/
theorem find?_unique {α : Type} {test : α → Bool} {l : List α} {x : α} (hin : x ∈ l)
    (hx : test x = true) (huniq : ∀ y ∈ l, test y = true → y = x) : l.find? test = some x := by
  obtain ⟨y, hfind⟩ := Option.isSome_iff_exists.mp (List.find?_isSome.mpr ⟨x, hin, hx⟩)
  rw [hfind, huniq y (List.mem_of_find?_eq_some hfind) (List.find?_some hfind)]

theorem AllocatorOk.findsOwner (h : AllocatorOk cfg s L none) (hstored : Stored s) :
    FindsOwner s := by
  intro a ha p hlo hhi
  obtain ⟨-, hmem⟩ := h.listed.chain
  have hplaced := h.placed.slab a ha
  have hp : p < 18446744073709551616 := by
    have := hplaced.inside
    omega
  have hkey := (hstored a ha).loadKey hplaced.range.page hlo hhi
  have hin : a ∈ s.chain (loadKey s.pageTable p) := (hmem _ a).mpr ⟨ha, hkey.symm⟩
  refine find?_unique (l := s.chain (loadKey s.pageTable p)) hin
    (decide_eq_true ((subWrap_lt_iff hp hplaced.inside).mpr ⟨hlo, hhi⟩)) fun b hb hsub => ?_
  -- another slab on the chain does not have the address
  obtain ⟨hb, -⟩ := (hmem _ b).mp hb
  obtain ⟨hlo', hhi'⟩ := (subWrap_lt_iff hp (h.placed.slab b hb).inside).mp (of_decide_eq_true hsub)
  by_contra hne
  have hapart : (s.info b).virtAddr + (s.info b).size ≤ (s.info a).virtAddr ∨
      (s.info a).virtAddr + (s.info a).size ≤ (s.info b).virtAddr :=
    of_decide_eq_true (h.placed.disjoint b hb a ha hne)
  omega

/-- **In every run in which the levels of the page table are mapped, the slabs are accounted for and
    the lookup finds the owner of every address.** -/
theorem slabs_accounted_and_found
    (h : (usdm cfg).ReachableBy (fun _ e => e.LevelsOk) s) : Accounted cfg s ∧ FindsOwner s := by
  obtain ⟨⟨L, hok⟩, hstored⟩ : (∃ L, AllocatorOk cfg s L none) ∧ Stored s := by
    refine h.invariant (fun s => (∃ L, AllocatorOk cfg s L none) ∧ Stored s) ?_ ?_
    · rintro s rfl
      exact ⟨⟨_, AllocatorOk.start cfg⟩, fun a ha => absurd ha List.not_mem_nil⟩
    · rintro s e s' ⟨⟨L, hok⟩, hstored⟩ hlevels hstep
      exact ⟨hok.step hstep, hstored.step hok hlevels hstep⟩
  exact ⟨hok.accounted, hok.findsOwner hstored⟩

end Lookup

/-- A block and a large slab are left. -/
theorem slabs_accounted_and_found_two_slabs :
    ∃ s, (usdm .driver).exec .start sampleCalls = some s ∧
      (usdm .driver).ReachableBy (fun _ e => e.LevelsOk) s ∧ s.existing = [8388608, 2097152] ∧
      s.live 2097152 = [6] ∧ Accounted .driver s ∧ FindsOwner s := by
  have hrun : ((usdm .driver).exec .start sampleCalls).any fun s =>
      s.existing = [8388608, 2097152] ∧ s.live 2097152 = [6] := by decide +kernel
  obtain ⟨s, hs, hex, hlive⟩ := System.exists_exec hrun
  have hlevels : ∀ e ∈ sampleCalls, Allocator → e.LevelsOk := by
    simp [sampleCalls, sampleRequest, UsdmEvent.LevelsOk]
  have hreach : (usdm .driver).ReachableBy (fun _ e => e.LevelsOk) s :=
    ⟨_, rfl, System.run_of_exec_forall hlevels hs⟩
  exact ⟨s, hs, hreach, hex, hlive, slabs_accounted_and_found hreach⟩

/-- Nothing is stored in the page table when no level of it can be mapped. -/
theorem Move.refused {C : Creation → Prop} (hC : ∀ c, C c → c.levelOk = fun _ _ => false)
    {s s' : Allocator} (hmove : Move C s s') (h : s.pageTable = PageTable.empty) :
    s'.pageTable = PageTable.empty := by
  cases hmove with
  | touch htouch => rw [htouch.pageTable, h]
  | free unmapOk hplaced hnodup ha => exact h
  | fail c hplaced hvalid hc hnone =>
    obtain ⟨-, hres, -⟩ := Creation.failed hplaced hvalid hnone
    rw [hres]
    exact h
  | create c hplaced hvalid hc hsome =>
    obtain ⟨d, -, -, hres, -⟩ := Creation.succeeded hplaced hvalid hsome
    rw [hres, hC c hc]
    show storeMmapRange (fun _ _ => false) c.before.pageTable _ _ _ = PageTable.empty
    rw [h, storeMmapRange_refused]

/-- The kernel refuses memory for the page table: the slab is in use and its address is in no entry,
    so the lookup, and with it the next free, does not find it. -/
theorem unmapped_level_hides_slab :
    ∃ s, (usdm .driver).Reachable s ∧ s.existing = [2097152] ∧
      (s.info 2097152).virtAddr = 2097152 ∧ (s.info 2097152).size = 2097152 ∧
      s.findSlabInHash 2102272 = none := by
  have hrun : ((usdm .driver).exec .start [sampleRequest 1024 2097152 false]).any fun s =>
      s.existing = [2097152] ∧ (s.info 2097152).virtAddr = 2097152 ∧
      (s.info 2097152).size = 2097152 ∧
      walk s.hash.next s.existing.length (s.slabList (loadKey PageTable.empty 2102272)).head = [] := by
    decide +kernel
  obtain ⟨s, hs, hex, hvirt, hsize, hwalk⟩ := System.exists_exec hrun
  have htable : s.pageTable = PageTable.empty := by
    obtain ⟨_, hstep, ⟨⟩⟩ := Option.bind_eq_some_iff.mp hs
    have hbecomes := (AllocatorOk.start .driver).becomes (e := sampleRequest 1024 2097152 false) hstep
      trivial
    exact hbecomes.1.invariant (fun _ _ hmove hs => hmove.refused (fun _ hc => hc.1) hs) rfl
  refine ⟨s, System.reachable_of_exec _ _ rfl hs, hex, hvirt, hsize, ?_⟩
  rw [Allocator.findSlabInHash, htable, hwalk]
  rfl

end Qatlib.Usdm
