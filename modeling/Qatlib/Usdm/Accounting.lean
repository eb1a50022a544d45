import Mathlib.Algebra.BigOperators.Group.List.Basic
import Mathlib.Logic.Relation
import Qatlib.Usdm.SlabLists

set_option autoImplicit false

/-! # The allocator's books

What the allocator knows of its slabs, kept by every call: where a slab is (`Listed`), what is in it
(`Counted`) and what memory it has (`Placed`). Besides, every call is a sequence of `Move`s, which say
what it does to the set of slabs; the results about the page table, the IOVA space and the DMA mappings
need nothing else of the calls. -/

namespace Qatlib.Usdm

open Function

/-! ## The invariant -/

/-- The memory of a slab. -/
structure SlabPlaced (i : DevMemInfo) (a : Nat) : Prop where
  range : IovaRange.Valid ⟨i.phyAddr, i.size⟩
  pages : 4096 ∣ i.size
  aligned : 4096 ∣ i.virtAddr
  inside : i.virtAddr + i.size ≤ 144115188075855872
  small : i.type = .small → i.virtAddr = a ∧ i.size = 2097152

/-- The memory of a slab as a region. -/
def Allocator.region (s : Allocator) (a : Nat) : Nat × Nat := ((s.info a).virtAddr, (s.info a).size)

/-- The slabs have their memory to themselves. -/
structure Placed (s : Allocator) : Prop where
  slab : ∀ a ∈ s.existing, SlabPlaced (s.info a) a
  disjoint : ∀ a ∈ s.existing, ∀ b ∈ s.existing, a ≠ b → apart (s.region a) (s.region b) = true
  next : s.vfio.space.NextOk
  fresh : s.vfio.pidSeen = false → s.existing = []

/-- A slab without blocks: its control block can be initialised. -/
structure Blank (ctrl : BlockCtrl) : Prop where
  bits : ∀ i < 2048, ctrl.bitmap.bit i = true → i < reserved
  sizes : ∀ j, ctrl.sizes j = 0

theorem Blank.zeroed : Blank BlockCtrl.zeroed :=
  ⟨by simp [BlockCtrl.zeroed, Bitmap.bit], by simp [BlockCtrl.zeroed]⟩

theorem SlabOk.blank {ctrl : BlockCtrl} (h : SlabOk ctrl []) : Blank ctrl := by
  constructor
  · intro i hi hbit
    simpa using (h.bit_iff i hi).mp hbit
  · intro j
    simpa using h.sizes_iff j

section

variable (cfg : Config) (s : Allocator) (L : ListKind → List Nat) (d : Option Nat)

/-- What a list says about the slabs on it: the blocks in use, and their number. -/
def Allocator.InList (a : Nat) : ListKind → Prop
  | .user => (s.info a).type = .small ∧ SlabOk (s.ctrl a) (s.live a) ∧ s.live a ≠ [] ∧
      (s.info a).allocations = (s.live a).length
  | .large => (s.info a).type = .large ∧ s.live a = [0] ∧ (s.info a).allocations = 1
  | .cache => (s.info a).type = .small ∧ SlabOk (s.ctrl a) [] ∧ s.live a = [] ∧
      (s.info a).allocations = 0

/-- A slab that the call in progress holds. -/
structure Allocator.Spare (a : Nat) : Prop where
  live : s.live a = []
  blank : (s.info a).type = .small → Blank (s.ctrl a)

/-- The contents of the slabs and the size of the cache. -/
structure Counted : Prop where
  slab : ∀ k, ∀ a ∈ L k, s.InList a k
  spare : ∀ a, d = some a → s.Spare a
  cacheSize : s.cacheSize = ((L .cache).map fun a => (s.info a).size).sum
  cacheMax : s.cacheSize ≤ cfg.maxCache

/-- The invariant of the allocator; `d` is a slab that the call in progress holds. -/
structure AllocatorOk : Prop where
  listed : Listed s L d
  counted : Counted cfg s L d
  placed : Placed s

end

/-! ## What calls do to the set of slabs -/

/-- The parts of the information block that stay as they are for the life of a slab. -/
structure SameGeometry (i i' : DevMemInfo) : Prop where
  size : i'.size = i.size
  type : i'.type = i.type
  phyAddr : i'.phyAddr = i.phyAddr
  virtAddr : i'.virtAddr = i.virtAddr

theorem SameGeometry.refl (i : DevMemInfo) : SameGeometry i i := ⟨rfl, rfl, rfl, rfl⟩

/-- A change that leaves the slabs and everything outside the allocator alone. -/
structure Allocator.Touches (s s' : Allocator) : Prop where
  existing : s'.existing = s.existing
  vfio : s'.vfio = s.vfio
  pageTable : s'.pageTable = s.pageTable
  geometry : ∀ a, SameGeometry (s.info a) (s'.info a)

/-- A slab creation. -/
structure Creation where
  before : Allocator
  env : SlabEnv
  size : Nat
  alignment : Nat
  type : SlabType
  levelOk : Nat → Nat → Bool

/-- The slab and the state after the creation. -/
def Creation.result (c : Creation) : Option Nat × Allocator :=
  c.before.allocSlab c.env c.size c.alignment c.type

/-- What the VFIO layer makes of the creation. -/
def Creation.slab (c : Creation) : Option SlabDesc × Vfio :=
  ioctlAllocSlab c.before.vfio (c.before.mmapAnswers c.env (roundUp c.size 4096) c.type) c.size
    c.alignment c.type

/-- The creation finds no IOVA range. -/
def Creation.Exhausted (c : Creation) : Prop :=
  Usdm.Exhausted c.before.vfio (c.before.mmapAnswers c.env (roundUp c.size 4096) c.type) c.size
    c.alignment c.type

/-- A creation with a size and an alignment that the API lets through. -/
structure Creation.Valid (c : Creation) : Prop where
  size_pos : 0 < c.size
  size_le : c.size ≤ 67108864
  alignment_pos : 0 < c.alignment
  alignment_le : c.alignment ≤ 4194304
  small : c.type = .small → c.size = 2097152

/-- One thing that a call does to the set of slabs; the creations meet `C`. -/
inductive Move (C : Creation → Prop) : Allocator → Allocator → Prop where
  | touch {s s' : Allocator} (h : s.Touches s') : Move C s s'
  | free {s : Allocator} {a : Nat} (unmapOk : Bool) (hplaced : Placed s)
      (hnodup : s.existing.Nodup) (ha : a ∈ s.existing) : Move C s (s.freeSlab unmapOk a)
  | fail (c : Creation) (hplaced : Placed c.before) (hvalid : c.Valid) (hc : C c)
      (hnone : c.result.1 = none) : Move C c.before c.result.2
  | create (c : Creation) (hplaced : Placed c.before) (hvalid : c.Valid) (hc : C c) {a : Nat}
      (hsome : c.result.1 = some a) : Move C c.before (c.result.2.storeSlab c.levelOk a)

/-- A sequence of moves. -/
abbrev Moves (C : Creation → Prop) : Allocator → Allocator → Prop := Relation.ReflTransGen (Move C)

/-- **Invariant rule**: what every move preserves, a sequence of moves preserves. -/
theorem Moves.invariant {C : Creation → Prop} {I : Allocator → Prop}
    (hmove : ∀ s s', Move C s s' → I s → I s') {s s' : Allocator} (h : Moves C s s') (hs : I s) :
    I s' := by
  induction h with
  | refl => exact hs
  | tail _ hlast ih => exact hmove _ _ hlast ih

variable {a b : Nat} {c : Creation} {d : SlabDesc}

/-! ## Frame lemmas -/

section Frame

variable {cfg : Config} {s s' : Allocator} {L L' : ListKind → List Nat} {d d' : Option Nat}

theorem Allocator.Touches.trans {s'' : Allocator} (h : s.Touches s') (h' : s'.Touches s'') :
    s.Touches s'' := by
  refine ⟨h'.existing.trans h.existing, h'.vfio.trans h.vfio, h'.pageTable.trans h.pageTable,
    fun a => ?_⟩
  obtain ⟨h₁, h₂, h₃, h₄⟩ := h.geometry a
  obtain ⟨h₁', h₂', h₃', h₄'⟩ := h'.geometry a
  exact ⟨h₁'.trans h₁, h₂'.trans h₂, h₃'.trans h₃, h₄'.trans h₄⟩

theorem Allocator.setCount_touches (s : Allocator) (a count : Nat) (live : List Nat) :
    s.Touches (s.setCount a count live) := by
  refine ⟨rfl, rfl, rfl, fun b => ?_⟩
  show SameGeometry (s.info b)
    (update s.info a { s.info a with allocations := count % 4294967296 } b)
  rw [update_apply]
  split
  · next heq =>
    subst heq
    exact ⟨rfl, rfl, rfl, rfl⟩
  · exact SameGeometry.refl _

theorem Allocator.setCount_allocations (s : Allocator) (a count : Nat) (live : List Nat) :
    ((s.setCount a count live).info a).allocations = count % 4294967296 := by
  simp [setCount]

theorem Allocator.setCount_live (s : Allocator) (a count : Nat) (live : List Nat) :
    (s.setCount a count live).live a = live :=
  update_self _ _ _

theorem SlabPlaced.congr {i i' : DevMemInfo} (h : SlabPlaced i a) (hgeo : SameGeometry i i') :
    SlabPlaced i' a := by
  obtain ⟨hsize, htype, hphy, hvirt⟩ := hgeo
  obtain ⟨h₁, h₂, h₃, h₄, h₅⟩ := h
  exact ⟨by rw [hsize, hphy]; exact h₁, by rw [hsize]; exact h₂, by rw [hvirt]; exact h₃,
    by rw [hsize, hvirt]; exact h₄, by rw [hsize, hvirt, htype]; exact h₅⟩

theorem Allocator.Touches.region (h : s.Touches s') (a : Nat) : s'.region a = s.region a := by
  obtain ⟨hsize, -, -, hvirt⟩ := h.geometry a
  rw [Allocator.region, Allocator.region, hsize, hvirt]

theorem Placed.touch (hp : Placed s) (h : s.Touches s') : Placed s' := by
  refine ⟨fun a ha => ?_, fun a ha b hb hne => ?_, by rw [h.vfio]; exact hp.next,
    by rw [h.vfio, h.existing]; exact hp.fresh⟩
  · rw [h.existing] at ha
    exact (hp.slab a ha).congr (h.geometry a)
  · rw [h.existing] at ha hb
    rw [h.region, h.region]
    exact hp.disjoint a ha b hb hne

/-- Nothing that the invariant reads of a slab has changed. -/
structure Allocator.SameAt (s s' : Allocator) (b : Nat) : Prop where
  info : s'.info b = s.info b
  ctrl : s'.ctrl b = s.ctrl b
  live : s'.live b = s.live b

theorem Allocator.InList.congr {k : ListKind} (h : s.InList b k) (hsame : s.SameAt s' b) :
    s'.InList b k := by
  unfold Allocator.InList at h ⊢
  rwa [hsame.info, hsame.ctrl, hsame.live]

theorem Counted.change (h : Counted cfg s L d) (a : Nat) (hother : ∀ b, b ≠ a → s.SameAt s' b)
    (hlists : ∀ k b, b ≠ a → b ∈ L' k → b ∈ L k) (hin : ∀ k, a ∈ L' k → s'.InList a k)
    (hspare : ∀ b, d' = some b → s'.Spare b)
    (hsum : s'.cacheSize = ((L' .cache).map fun b => (s'.info b).size).sum)
    (hmax : s'.cacheSize ≤ cfg.maxCache) : Counted cfg s' L' d' := by
  refine ⟨fun k b hb => ?_, hspare, hsum, hmax⟩
  rcases eq_or_ne b a with rfl | hne
  · exact hin k hb
  · exact (h.slab k b (hlists k b hne hb)).congr (hother b hne)

/-- The size of the cache when the cached slabs keep theirs. -/
theorem Counted.sum_congr (h : Counted cfg s L d) (hgeo : ∀ a, SameGeometry (s.info a) (s'.info a))
    (hcache : L' .cache = L .cache) (hsize : s'.cacheSize = s.cacheSize) :
    s'.cacheSize = ((L' .cache).map fun b => (s'.info b).size).sum := by
  rw [hsize, h.cacheSize, hcache]
  refine congrArg List.sum (List.map_congr_left fun a _ => ?_)
  exact (hgeo a).size.symm

end Frame

/-! ## Slabs come and go -/

section Slabs

variable {cfg : Config} {s : Allocator} {L : ListKind → List Nat}

/-- A slab that is on no list is destroyed; its contents do not matter. -/
theorem Listed.destroy (hlisted : Listed s L (some a)) (hcounted : Counted cfg s L none)
    (hplaced : Placed s) (unmapOk : Bool) : AllocatorOk cfg (s.freeSlab unmapOk a) L none := by
  have ha : a ∈ s.existing := (hlisted.mem a).mpr (.inr rfl)
  obtain ⟨hdev, hnext, -⟩ :=
    ioctlFreeSlab_space s.vfio unmapOk (d := s.desc a) (hplaced.slab a ha).range
  refine ⟨hlisted.freeSlab unmapOk, ?_, ?_⟩
  · refine hcounted.change a (fun b hne => ⟨rfl, rfl, update_of_ne hne _ _⟩)
      (fun _ _ _ hb => hb) (fun k hin => absurd hin (hlisted.detached a rfl k)) (by simp)
      (hcounted.sum_congr (fun b => SameGeometry.refl _) rfl rfl) hcounted.cacheMax
  · have hsub : ∀ b, b ∈ (s.freeSlab unmapOk a).existing → b ∈ s.existing := fun b hb =>
      List.mem_of_mem_erase hb
    refine ⟨fun b hb => hplaced.slab b (hsub b hb),
      fun b hb c hc hne => hplaced.disjoint b (hsub b hb) c (hsub c hc) hne, ?_, ?_⟩
    · show (ioctlFreeSlab s.vfio unmapOk (s.desc a).phyAddr (s.desc a).size).space.NextOk
      rw [IovaSpace.NextOk, hnext]
      exact hplaced.next
    · intro hpid
      have hpid' : s.vfio.pidSeen = false := hdev.2.2.1.symm.trans hpid
      rw [hplaced.fresh hpid'] at ha
      exact absurd ha List.not_mem_nil

theorem AllocatorOk.freeSlab (h : AllocatorOk cfg s L (some a)) (unmapOk : Bool) :
    AllocatorOk cfg (s.freeSlab unmapOk a) L none :=
  h.listed.destroy ⟨h.counted.slab, by simp, h.counted.cacheSize, h.counted.cacheMax⟩ h.placed unmapOk

theorem Allocator.freeRegion_spec {r : Nat × Nat} (h : s.freeRegion r = true) :
    4096 ∣ r.1 ∧ r.1 + r.2 ≤ 144115188075855872 ∧
      ∀ b ∈ s.existing, apart r (b, 4096) = true ∧ apart r (s.region b) = true := by
  obtain ⟨hbase, hall⟩ := Bool.and_eq_true_iff.mp h
  obtain ⟨-, hmod, hend⟩ := of_decide_eq_true hbase
  refine ⟨Nat.dvd_of_mod_eq_zero hmod, hend, fun b hb => ?_⟩
  have hb' := List.all_eq_true.mp (List.all_eq_true.mp hall b hb)
  exact ⟨hb' _ List.mem_cons_self, hb' _ (List.mem_cons_of_mem _ List.mem_cons_self)⟩

/-- What is known of the memory of a new slab. -/
theorem Allocator.mmapAnswers_spec {env : SlabEnv} {size : Nat} {type : SlabType}
    {addr virt : Nat} (hpos : 0 < size)
    (h : (s.mmapAnswers env size type).mmap type = some (addr, virt)) :
    s.freeRegion (virt, size) = true ∧ (type = .small → virt = addr) ∧ addr ∉ s.existing := by
  have hnew : ∀ n, 0 < n → s.freeRegion (addr, n) = true → addr ∉ s.existing := by
    intro n hn hfree hin
    obtain ⟨-, -, hall⟩ := Allocator.freeRegion_spec hfree
    have happart := of_decide_eq_true (hall addr hin).1
    simp only at happart
    omega
  cases type with
  | small =>
    obtain ⟨b, hb, heq⟩ := Option.map_eq_some_iff.mp h
    obtain ⟨rfl, rfl⟩ := Prod.mk.inj heq
    obtain ⟨-, hfree⟩ := Option.filter_eq_some_iff.mp hb
    exact ⟨hfree, fun _ => rfl, hnew size hpos hfree⟩
  | large =>
    obtain ⟨b, hb, hrest⟩ := Option.bind_eq_some_iff.mp h
    obtain ⟨c, hc, heq⟩ := Option.map_eq_some_iff.mp hrest
    obtain ⟨rfl, rfl⟩ := Prod.mk.inj heq
    obtain ⟨-, hctrl⟩ := Option.filter_eq_some_iff.mp hb
    obtain ⟨-, hdata⟩ := Option.filter_eq_some_iff.mp hc
    exact ⟨hdata, (fun htype => nomatch htype), hnew 4096 (by decide) hctrl⟩

/-- **What a creation does**: it fails and changes the VFIO layer at most, or there is a new slab, in
    the hash, in memory and at IOVAs of its own. -/
theorem Creation.cases (hnext : c.before.vfio.space.NextOk) (hvalid : c.Valid) :
    c.slab.2.space.NextOk ∧ c.before.vfio.SameDevice c.slab.2 ∧
      ((c.slab.1 = none ∧ c.result = (none, { c.before with vfio := c.slab.2 }) ∧
          (c.before.vfio.space.SameBits c.slab.2.space ∨
            c.Exhausted ∧ ∀ k, c.slab.2.space.iovaUsed.bit k = true ↔
              ¬k < slabCount (roundUp c.size 4096) ∧ c.before.vfio.space.iovaUsed.bit k = true)) ∨
        ∃ d : SlabDesc, c.slab.1 = some d ∧
          c.result = (some d.addr, (c.before.withSlab c.slab.2 d).addSlabToHash d.addr) ∧
          d.type = c.type ∧ d.addr ∉ c.before.existing ∧
          c.before.freeRegion (d.virtAddr, d.size) = true ∧ SlabPlaced d.info d.addr ∧
          c.before.vfio.space.Takes c.slab.2.space d.range) := by
  obtain ⟨hpos, hle, hapos, hale, hsmall⟩ := hvalid
  obtain ⟨hpages, hpos', -, -⟩ := roundUp_page hpos hle
  obtain ⟨res, v', heq, hnext', hdev, hcases⟩ := ioctlAllocSlab_cases
    (c.before.mmapAnswers c.env (roundUp c.size 4096) c.type) c.type hnext hpos hle hapos hale
  rw [Creation.result, Allocator.allocSlab, Creation.slab, heq]
  refine ⟨hnext', hdev, ?_⟩
  rcases hcases with ⟨rfl, hsame⟩ | ⟨rfl, hclear⟩ | ⟨d, rfl, hmmap, hsize, htype, -, htakes⟩
  · exact .inl ⟨rfl, rfl, .inl hsame⟩
  · exact .inl ⟨rfl, rfl, .inr hclear⟩
  · obtain ⟨hfree, hvirt, hnew⟩ := Allocator.mmapAnswers_spec hpos' hmmap
    rw [← hsize] at hfree hpages
    obtain ⟨haligned, hinside, -⟩ := Allocator.freeRegion_spec hfree
    refine .inr ⟨d, rfl, rfl, htype, hnew, hfree,
      ⟨htakes.valid, hpages, haligned, hinside, fun hd => ?_⟩, htakes⟩
    have hc : c.type = .small := htype.symm.trans hd
    refine ⟨hvirt hc, hsize.trans ?_⟩
    rw [hsmall hc]
    decide

theorem Creation.failed (hplaced : Placed c.before) (hvalid : c.Valid) (hnone : c.result.1 = none) :
    c.slab.1 = none ∧ c.result.2 = { c.before with vfio := c.slab.2 } ∧
      (c.before.vfio.space.SameBits c.slab.2.space ∨
        c.Exhausted ∧ ∀ k, c.slab.2.space.iovaUsed.bit k = true ↔
          ¬k < slabCount (roundUp c.size 4096) ∧ c.before.vfio.space.iovaUsed.bit k = true) := by
  obtain ⟨-, -, ⟨hslab, hres, hbits⟩ | ⟨d, -, hres, -⟩⟩ := Creation.cases hplaced.next hvalid
  · exact ⟨hslab, congrArg Prod.snd hres, hbits⟩
  · rw [hres] at hnone
    exact absurd hnone (by simp)

theorem Creation.succeeded (hplaced : Placed c.before) (hvalid : c.Valid)
    (hsome : c.result.1 = some a) :
    ∃ d : SlabDesc, d.addr = a ∧ c.slab.1 = some d ∧
      c.result.2 = (c.before.withSlab c.slab.2 d).addSlabToHash d.addr ∧
      d.addr ∉ c.before.existing ∧ c.before.freeRegion (d.virtAddr, d.size) = true ∧
      SlabPlaced d.info d.addr ∧ c.before.vfio.space.Takes c.slab.2.space d.range := by
  obtain ⟨-, -, ⟨-, hres, -⟩ | ⟨d, hslab, hres, -, hnew, hfree, hd, htakes⟩⟩ :=
    Creation.cases hplaced.next hvalid
  · rw [hres] at hsome
    exact absurd hsome (by simp)
  · rw [hres] at hsome
    exact ⟨d, Option.some.inj hsome, hslab, congrArg Prod.snd hres, hnew, hfree, hd, htakes⟩

theorem Allocator.withSlab_info (s : Allocator) (v : Vfio) (d : SlabDesc) (hne : b ≠ d.addr) :
    (s.withSlab v d).info b = s.info b :=
  update_of_ne hne _ _

theorem Allocator.withSlab_info_self (s : Allocator) (v : Vfio) (d : SlabDesc) :
    (s.withSlab v d).info d.addr = d.info :=
  update_self _ _ _

/-- The new slab has memory that no other slab has. -/
theorem Placed.withSlab (h : Placed s) (hpid : s.vfio.pidSeen = true) {v : Vfio}
    (hnext : v.space.NextOk) (hdev : s.vfio.SameDevice v) (hnew : d.addr ∉ s.existing)
    (hfree : s.freeRegion (d.virtAddr, d.size) = true) (hplaced : SlabPlaced d.info d.addr) :
    Placed (s.withSlab v d) := by
  obtain ⟨-, -, happart⟩ := Allocator.freeRegion_spec hfree
  have hold : ∀ b ∈ s.existing, b ≠ d.addr := by
    rintro b hb rfl
    exact hnew hb
  have hregion : ∀ b ∈ s.existing, (s.withSlab v d).region b = s.region b := by
    intro b hb
    rw [Allocator.region, s.withSlab_info v d (hold b hb)]
    rfl
  have hself : (s.withSlab v d).region d.addr = (d.virtAddr, d.size) := by
    rw [Allocator.region, s.withSlab_info_self]
    rfl
  have hsymm : ∀ r r', apart r r' = true → apart r' r = true := by
    intro r r' hr
    exact decide_eq_true (of_decide_eq_true hr).symm
  refine ⟨fun b hb => ?_, fun b hb b' hb' hne => ?_, hnext, fun hfalse => ?_⟩
  · rcases List.mem_cons.mp hb with rfl | hb
    · rw [s.withSlab_info_self]
      exact hplaced
    · rw [s.withSlab_info v d (hold b hb)]
      exact h.slab b hb
  · rcases List.mem_cons.mp hb with rfl | hb
    · rcases List.mem_cons.mp hb' with rfl | hb'
      · exact absurd rfl hne
      · rw [hself, hregion b' hb']
        exact (happart b' hb').2
    · rcases List.mem_cons.mp hb' with rfl | hb'
      · rw [hself, hregion b hb]
        exact hsymm _ _ (happart b hb).2
      · rw [hregion b hb, hregion b' hb']
        exact h.disjoint b hb b' hb' hne
  · exact nomatch (hdev.2.2.1.trans hpid).symm.trans hfalse

theorem Counted.withSlab (h : Counted cfg s L none) (hlists : ∀ k, ∀ b ∈ L k, b ∈ s.existing)
    (v : Vfio) (hnew : d.addr ∉ s.existing) :
    Counted cfg ((s.withSlab v d).addSlabToHash d.addr) L (some d.addr) := by
  have hold : ∀ k, ∀ b ∈ L k, b ≠ d.addr := by
    rintro k b hb rfl
    exact hnew (hlists k d.addr hb)
  refine h.change d.addr (fun b hne => ⟨s.withSlab_info v d hne, update_of_ne hne _ _,
    update_of_ne hne _ _⟩) (fun _ _ _ hb => hb)
    (fun k hin => absurd rfl (hold k d.addr hin)) ?_ ?_ h.cacheMax
  · intro b hb
    cases hb
    refine ⟨update_self _ _ _, fun _ => ?_⟩
    show Blank (update s.ctrl d.addr BlockCtrl.zeroed d.addr)
    rw [update_self]
    exact Blank.zeroed
  · refine h.cacheSize.trans (congrArg List.sum (List.map_congr_left fun b hb => ?_))
    exact congrArg DevMemInfo.size (s.withSlab_info v d (hold .cache b hb)).symm

theorem AllocatorOk.create (h : AllocatorOk cfg c.before L none)
    (hpid : c.before.vfio.pidSeen = true) (hvalid : c.Valid) :
    (c.result.1 = none ∧ AllocatorOk cfg c.result.2 L none) ∨
      ∃ a, c.result.1 = some a ∧ AllocatorOk cfg c.result.2 L (some a) ∧
        (c.result.2.info a).type = c.type := by
  obtain ⟨hnext, hdev, ⟨-, hres, -⟩ | ⟨d, -, hres, htype, hnew, hfree, hplaced, -⟩⟩ :=
    Creation.cases h.placed.next hvalid
  all_goals generalize c.slab.2 = v' at hnext hdev hres
  · refine .inl ⟨by rw [hres], ?_⟩
    rw [hres]
    refine ⟨h.listed.congr rfl rfl rfl rfl rfl fun _ _ => rfl, ?_, ?_⟩
    · exact ⟨h.counted.slab, fun b hb => absurd hb (by simp), h.counted.cacheSize,
        h.counted.cacheMax⟩
    · refine ⟨h.placed.slab, h.placed.disjoint, hnext, fun hfalse => ?_⟩
      exact nomatch (hdev.2.2.1.trans hpid).symm.trans hfalse
  · have hold : ∀ b ∈ c.before.existing, b ≠ d.addr := by
      rintro b hb rfl
      exact hnew hb
    refine .inr ⟨d.addr, by rw [hres], ?_, ?_⟩
    · rw [hres]
      have hphy : ∀ b ∈ c.before.existing,
          ((c.before.withSlab v' d).info b).phyAddr = (c.before.info b).phyAddr := fun b hb =>
        congrArg DevMemInfo.phyAddr (c.before.withSlab_info v' d (hold b hb))
      have hplaced' := h.placed.withSlab hpid hnext hdev hnew hfree hplaced
      exact ⟨h.listed.create hnew hphy rfl rfl rfl rfl rfl,
        h.counted.withSlab (fun k b hb => h.listed.mem_of_list hb) v' hnew,
        ⟨hplaced'.slab, hplaced'.disjoint, hplaced'.next, hplaced'.fresh⟩⟩
    · rw [hres]
      exact (congrArg DevMemInfo.type (c.before.withSlab_info_self v' d)).trans htype

end Slabs

end Qatlib.Usdm
