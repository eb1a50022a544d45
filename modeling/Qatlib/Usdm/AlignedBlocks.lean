import Qatlib.Usdm.HashLookup
import Qatlib.Usdm.SlabSearch

set_option autoImplicit false

/-! # Sizes and alignments

Which requests `qaeMemAllocNUMA` can serve when a fresh slab is to be had. A request gets a slab of
its own when the slab's 2 MB cannot hold it together with the control block, or when its alignment is
2 MB at least; the physical address of such a slab has the alignment. Every other request has to be
placed in a small slab, at a multiple of its alignment behind the control block. The choice between
the two does not look at size and alignment together, so there are requests that are sent to a small
slab and fit in none. -/

namespace Qatlib.Usdm

open Function

/-! ## Places in a small slab -/

/-- The first aligned unit behind the control block. -/
def firstUnit (align : Nat) : Nat :=
  if align = 0 then reserved else (reserved + align - 1) / align * align

/-- A request that has a slab of its own, or has a place in an empty small slab. -/
def Placeable (size alignment : Nat) : Prop :=
  largeRequest size alignment = true ∨ firstUnit (alignment / 1024) + divRoundUp size 1024 ≤ 2048

theorem firstUnit_spec (align : Nat) :
    reserved ≤ firstUnit align ∧ (align ≠ 0 → align ∣ firstUnit align) := by
  unfold firstUnit
  split
  · next hzero => exact ⟨Nat.le_refl _, fun h => absurd hzero h⟩
  · next hne =>
    refine ⟨?_, fun _ => Nat.dvd_mul_left _ _⟩
    have hdiv := Nat.div_add_mod (reserved + align - 1) align
    have hmod := Nat.mod_lt (reserved + align - 1) (Nat.pos_of_ne_zero hne)
    rw [Nat.mul_comm] at hdiv
    omega

variable {k s align first alignment : Nat}

theorem firstUnit_le (haligned : align ≠ 0 → align ∣ s) (hs : reserved ≤ s) :
    firstUnit align ≤ s := by
  unfold firstUnit
  split
  · exact hs
  · next hne =>
    obtain ⟨k, rfl⟩ := haligned hne
    rw [Nat.mul_comm align k] at hs ⊢
    refine Nat.mul_le_mul_right align ?_
    rw [Nat.div_le_iff_le_mul (Nat.pos_of_ne_zero hne)]
    omega

section Slabs

variable {ctrl : BlockCtrl} {live : List Nat} {align size : Nat}

theorem firstUnit_le_of_fits (h : SlabOk ctrl live) {required : Nat} (hpos : 0 < required)
    (hfits : Fits ctrl.bitmap align required s) : firstUnit align ≤ s :=
  firstUnit_le hfits.aligned (h.free_disjoint hpos hfits.inside hfits.free).1

/-- A request without a place in an empty slab has none in any slab. -/
theorem memAlloc_null (h : SlabOk ctrl live) (hsize : SmallRequest size)
    (hplace : ¬firstUnit align + divRoundUp size 1024 ≤ 2048) :
    (memAlloc ctrl size align).1 = none := by
  obtain ⟨hfirst, -⟩ := memAlloc_first_fit align h.barrier hsize.pos hsize.noWrap
  refine hfirst.null_iff.mpr fun s hfits => ?_
  have hpos := hsize.pos
  have hle := firstUnit_le_of_fits h (by omega) hfits
  have hend := hfits.inside
  rw [divRoundUp_eq hsize.noWrap] at hplace
  omega

/-- An empty slab has the places that there can be. -/
theorem memAlloc_placed (h : SlabOk ctrl []) (hsize : SmallRequest size)
    (hplace : firstUnit align + divRoundUp size 1024 ≤ 2048) :
    ∃ first, (memAlloc ctrl size align).1 = some first := by
  obtain ⟨hfirst, -⟩ := memAlloc_first_fit align h.barrier hsize.pos hsize.noWrap
  obtain ⟨hres, haligned⟩ := firstUnit_spec align
  rw [divRoundUp_eq hsize.noWrap] at hplace
  rw [← Option.ne_none_iff_exists']
  intro hnone
  refine hfirst.null_iff.mp hnone (firstUnit align) ⟨haligned, hplace, fun i hlo hhi => ?_⟩
  by_contra hset
  have hbit := (h.bit_iff i (by omega)).mp (by simpa using hset)
  rcases hbit with hlt | ⟨f, hf, -⟩
  · omega
  · exact absurd hf List.not_mem_nil

theorem memAlloc_block (h : SlabOk ctrl live) (hsize : SmallRequest size)
    (hsome : (memAlloc ctrl size align).1 = some first) :
    (align ≠ 0 → align ∣ first) ∧ size ≤ (memAlloc ctrl size align).2.sizes first * 1024 := by
  obtain ⟨hfirst, -⟩ := memAlloc_first_fit align h.barrier hsize.pos hsize.noWrap
  refine ⟨(hfirst.fits first hsome).aligned, ?_⟩
  rw [hfirst.recorded first hsome, update_self]
  omega

end Slabs

/-! ## Blocks -/

/-- A block in use, of a slab, with its first address and its length. -/
def Allocator.BlockAt (s : Allocator) (a p bytes : Nat) : Prop :=
  a ∈ s.existing ∧ match (s.info a).type with
    | .small => ∃ f ∈ s.live a, p = a + f * 1024 ∧ bytes = (s.ctrl a).sizes f * 1024
    | .large => p = (s.info a).virtAddr ∧ bytes = (s.info a).size

/-- A block in use of at least `size` bytes whose physical address has an alignment. -/
def Allocator.AlignedBlock (s : Allocator) (p size alignment : Nat) : Prop :=
  ∃ a bytes, s.BlockAt a p bytes ∧ size ≤ bytes ∧
    alignment ∣ (s.info a).phyAddr + (p - (s.info a).virtAddr)

/-- A fresh slab for the request can be obtained: its memory, its IOVA range and its mapping. -/
def Allocator.FreshSlab (s : Allocator) (env : AllocEnv) (size alignment : Nat) : Prop :=
  (if largeRequest size alignment then
    (largeCreation s.openProcess env (max size alignment) alignment).result.1
  else (smallCreation s.openProcess env alignment).result.1) ≠ none

/-- A power of two divides a larger one. -/
theorem dvd_of_aligned {m n : Nat} (h : k ≤ n) (hm : 2 ^ n ∣ m) : 2 ^ k ∣ m :=
  Nat.dvd_trans (Nat.pow_dvd_pow 2 h) hm

/-- A block that starts at an aligned unit of a slab at a multiple of 2 MB. -/
theorem aligned_unit {phys : Nat} (hk : k < 21) (hphys : 2097152 ∣ phys)
    (hfirst : 2 ^ k / 1024 ≠ 0 → 2 ^ k / 1024 ∣ first) : 2 ^ k ∣ phys + first * 1024 := by
  refine Nat.dvd_add (dvd_of_aligned (n := 21) (by omega) hphys) ?_
  rcases Nat.lt_or_ge k 10 with hlt | hge
  · exact Nat.dvd_mul_left_of_dvd (dvd_of_aligned (n := 10) (by omega) (Nat.dvd_refl 1024)) first
  · have hsplit : 2 ^ k = 2 ^ (k - 10) * 1024 := by
      rw [show (1024 : Nat) = 2 ^ 10 by decide, ← Nat.pow_add, Nat.sub_add_cancel hge]
    have hunit : 2 ^ k / 1024 = 2 ^ (k - 10) := by rw [hsplit, Nat.mul_div_cancel _ (by decide)]
    rw [hunit] at hfirst
    rw [hsplit]
    exact Nat.mul_dvd_mul_right (hfirst (Nat.pos_iff_ne_zero.mp (Nat.two_pow_pos _))) 1024

open Allocator

section Allocation

variable {cfg : Config} {s : Allocator} {L : ListKind → List Nat} {a : Nat} {size : Nat}

/-- A block just placed in a small slab. -/
theorem Placed.alignedBlock {s' : Allocator} (hplaced : Placed s) (htouch : s.Touches s')
    (ha : a ∈ s.existing) (hsmall : (s.info a).type = .small) {c : BlockCtrl}
    (hctrl : s'.ctrl a = c) (hlive : first ∈ s'.live a) (hk : k < 21)
    (hblock : (2 ^ k / 1024 ≠ 0 → 2 ^ k / 1024 ∣ first) ∧ size ≤ c.sizes first * 1024) :
    s'.AlignedBlock (a + first * 1024) size (2 ^ k) := by
  subst hctrl
  have ha' : a ∈ s'.existing := htouch.existing ▸ ha
  have hsmall' := (htouch.geometry a).type.trans hsmall
  have hslab := (hplaced.touch htouch).slab a ha'
  refine ⟨a, _, ⟨ha', ?_⟩, hblock.2, ?_⟩
  · rw [hsmall']
    exact ⟨first, hlive, rfl, rfl⟩
  · rw [(hslab.small hsmall').1, Nat.add_sub_cancel_left]
    exact aligned_unit hk hslab.range.aligned hblock.1

/-- The size and the alignment of a new slab. -/
theorem Creation.size_aligned {c : Creation} (hnext : c.before.vfio.space.NextOk)
    (hvalid : c.Valid) {d : SlabDesc} (hslab : c.slab.1 = some d) :
    c.size ≤ d.size ∧ roundUp c.alignment 2097152 ∣ d.phyAddr := by
  obtain ⟨hpos, hle, hapos, hale, -⟩ := hvalid
  obtain ⟨res, v', heq, -, -, hcases⟩ := ioctlAllocSlab_cases
    (c.before.mmapAnswers c.env (roundUp c.size 4096) c.type) c.type hnext hpos hle hapos hale
  rw [Creation.slab, heq] at hslab
  rcases hcases with ⟨rfl, -⟩ | ⟨rfl, -⟩ | ⟨d', rfl, -, hsize, -, haligned, -⟩
  · exact absurd hslab (by simp)
  · exact absurd hslab (by simp)
  · cases hslab
    have hround := (roundUp_spec (n := c.size) (s := 4096) (by decide) (by omega)).2.1
    exact ⟨hsize ▸ hround, haligned⟩

/-! ## Small slabs -/

section

variable (h : AllocatorOk cfg s L (some a)) (hsmall : (s.info a).type = .small)
include h hsmall

/-- The empty slab that a call holds, once it is initialised. -/
theorem AllocatorOk.initSlab : SlabOk (Usdm.initSlab (s.ctrl a)) [] :=
  have hblank := (h.counted.spare a rfl).blank hsmall
  SlabOk.init hblank.bits hblank.sizes

theorem AllocatorOk.initSlabAndAlloc_null (hsize : SmallRequest size)
    (hplace : ¬firstUnit align + divRoundUp size 1024 ≤ 2048) :
    (s.initSlabAndAlloc a size align).1 = none := by
  have hnone : (Usdm.initSlabAndAlloc (s.ctrl a) size align).1 = none :=
    memAlloc_null (h.initSlab hsmall) hsize hplace
  rw [Allocator.initSlabAndAlloc]
  simp only [hnone]

theorem AllocatorOk.initSlabAndAlloc_block (hsize : SmallRequest size)
    (hplace : firstUnit align + divRoundUp size 1024 ≤ 2048) :
    ∃ first c, s.initSlabAndAlloc a size align = (some first, (s.setCtrl a c).attach .user a) ∧
      (align ≠ 0 → align ∣ first) ∧ size ≤ c.sizes first * 1024 := by
  have hok := h.initSlab hsmall
  obtain ⟨first, hsome⟩ := memAlloc_placed hok hsize hplace
  have hsome' : (Usdm.initSlabAndAlloc (s.ctrl a) size align).1 = some first := hsome
  refine ⟨first, (Usdm.initSlabAndAlloc (s.ctrl a) size align).2, ?_, memAlloc_block hok hsize hsome⟩
  rw [Allocator.initSlabAndAlloc]
  simp only [hsome']
  rfl

end

variable {k : Nat}

namespace AllocatorOk

variable (h : AllocatorOk cfg s L none)
include h

theorem findSlab_block (hsize : SmallRequest size) (unmapOk : Bool) (node : Int)
    (hk : k < 21) (hplace : firstUnit (2 ^ k / 1024) + divRoundUp size 1024 ≤ 2048) :
    s.findSlab cfg unmapOk size node (2 ^ k / 1024) = (none, s) ∨
      ∃ a first s', s.findSlab cfg unmapOk size node (2 ^ k / 1024) = (some (a, first), s') ∧
        (s'.setCount a ((s'.info a).allocations + 1) (first :: s'.live a)).AlignedBlock
          (a + first * 1024) size (2 ^ k) := by
  rcases h.findSlab_cases unmapOk hsize node (2 ^ k / 1024) with
    heq | ⟨a, ha, first, c, halloc, heq⟩ | ⟨a, s₁, -, h₁, hsmall, -, heq⟩
  · exact .inl heq
  · obtain ⟨hsmall, hok, -, -⟩ := h.counted.slab .user a ha
    have hblock := memAlloc_block hok hsize (by rw [halloc])
    rw [halloc] at hblock
    refine .inr ⟨a, first, _, heq, h.placed.alignedBlock
      ((s.setCtrl_touches a c).trans (setCount_touches _ _ _ _)) (h.listed.mem_of_list ha)
      hsmall (update_self _ _ _) ?_ hk hblock⟩
    rw [setCount_live]
    exact List.mem_cons_self
  · obtain ⟨first, c, hinit, hblock⟩ := h₁.initSlabAndAlloc_block hsmall hsize hplace
    rw [hinit] at heq
    refine .inr ⟨a, first, _, heq, h₁.placed.alignedBlock
      ((s₁.setCtrl_attach_touches a c).trans (setCount_touches _ _ _ _))
      ((h₁.listed.mem a).mpr (.inr rfl)) hsmall (update_self _ _ _) ?_ hk hblock⟩
    rw [setCount_live]
    exact List.mem_cons_self

theorem createSmall_block (hpid : s.vfio.pidSeen = true) (env : AllocEnv)
    (hsize : SmallRequest size) (hk : k < 21) (hvalid : (smallCreation s env (2 ^ k)).Valid)
    (hplace : firstUnit (2 ^ k / 1024) + divRoundUp size 1024 ≤ 2048)
    (hfresh : (smallCreation s env (2 ^ k)).result.1 ≠ none) :
    ∃ p, (s.createSmall env size (2 ^ k)).1 = some p ∧
      (s.createSmall env size (2 ^ k)).2.AlignedBlock p size (2 ^ k) := by
  rcases h.createSmall_cases hpid env size hvalid (C := fun _ => True) trivial with
    ⟨s', hres, -⟩ | ⟨a, s', -, h', hsmall, -, heq⟩
  · exact absurd hres hfresh
  · obtain ⟨first, c, hinit, hblock⟩ := h'.initSlabAndAlloc_block hsmall hsize hplace
    rw [heq, hinit]
    have htouch : s'.Touches { (s'.setCtrl a c).attach .user a with
        live := update s'.live a [first] } :=
      ⟨rfl, rfl, rfl, fun b => SameGeometry.refl _⟩
    refine ⟨_, rfl, h'.placed.alignedBlock htouch ((h'.listed.mem a).mpr (.inr rfl)) hsmall
      (update_self _ _ _) ?_ hk hblock⟩
    show first ∈ update s'.live a [first] a
    rw [update_self]
    exact List.mem_singleton_self first

/-- A request without a place: no slab on the user list, no cached slab and no fresh slab has one. -/
theorem findSlab_null (hsize : SmallRequest size) (unmapOk : Bool) (node : Int)
    (hplace : ¬firstUnit align + divRoundUp size 1024 ≤ 2048) :
    (s.findSlab cfg unmapOk size node align).1 = none := by
  rcases h.findSlab_cases unmapOk hsize node align with
    heq | ⟨a, ha, first, c, halloc, heq⟩ | ⟨a, s₁, -, h₁, hsmall, -, heq⟩
  · rw [heq]
  · have hnone := memAlloc_null (h.counted.slab .user a ha).2.1 hsize hplace
    rw [halloc] at hnone
    exact absurd hnone (by simp)
  · rw [heq, h₁.initSlabAndAlloc_null hsmall hsize hplace]

theorem createSmall_null (hpid : s.vfio.pidSeen = true) (env : AllocEnv)
    (hsize : SmallRequest size) (hvalid : (smallCreation s env alignment).Valid)
    (hplace : ¬firstUnit (alignment / 1024) + divRoundUp size 1024 ≤ 2048) :
    (s.createSmall env size alignment).1 = none := by
  rcases h.createSmall_cases hpid env size hvalid (C := fun _ => True) trivial with
    ⟨s', -, heq, -⟩ | ⟨a, s', -, h', hsmall, -, heq⟩
  · rw [heq]
  · simp only [heq, h'.initSlabAndAlloc_null hsmall hsize hplace]

end AllocatorOk

/-! ## Large slabs -/

/-- An alignment divides what the IOVA of a slab is a multiple of. -/
theorem dvd_roundUp_iova (hk : k ≤ 22) : 2 ^ k ∣ roundUp (2 ^ k) 2097152 := by
  rcases Nat.lt_or_ge k 22 with hlt | hge
  · have hle : 2 ^ k ≤ 2 ^ 21 := Nat.pow_le_pow_right (by decide) (by omega)
    exact dvd_of_aligned (n := 21) (by omega) (roundUp_spec (by decide) (by omega)).1
  · obtain rfl : k = 22 := by omega
    decide

theorem Allocator.alignedBlock_large (ha : a ∈ s.existing) (htype : (s.info a).type = .large)
    (hsize : size ≤ (s.info a).size) (hphy : alignment ∣ (s.info a).phyAddr) :
    s.AlignedBlock (s.info a).virtAddr size alignment := by
  refine ⟨a, _, ⟨ha, ?_⟩, hsize, ?_⟩
  · rw [htype]
    exact ⟨rfl, rfl⟩
  · rwa [Nat.sub_self, Nat.add_zero]

theorem AllocatorOk.createLarge_block (h : AllocatorOk cfg s L none) (env : AllocEnv) (hk : k ≤ 22)
    (hvalid : validRequest size (2 ^ k) = true)
    (hfresh : (largeCreation s env (max size (2 ^ k)) (2 ^ k)).result.1 ≠ none) :
    ∃ p, (s.createLarge env (max size (2 ^ k)) (2 ^ k)).1 = some p ∧
      (s.createLarge env (max size (2 ^ k)) (2 ^ k)).2.AlignedBlock p size (2 ^ k) := by
  have hcreation := largeCreation_valid s env hvalid
  set c := largeCreation s env (max size (2 ^ k)) (2 ^ k)
  obtain ⟨-, hmax, -, hkmax⟩ := validRequest_spec hvalid
  obtain ⟨a, hsome⟩ := Option.ne_none_iff_exists'.mp hfresh
  obtain ⟨d, rfl, hslab, hres, -, -, -, -⟩ := Creation.succeeded h.placed hcreation hsome
  obtain ⟨hsize, haligned⟩ := Creation.size_aligned h.placed.next hcreation hslab
  have hbytes : size ≤ d.size := by
    refine Nat.le_trans ?_ hsize
    show size ≤ divRoundUp (max size (2 ^ k)) 1024 * 1024
    rw [divRoundUp_eq (by omega)]
    omega
  have htype : d.type = .large := by
    obtain ⟨-, -, ⟨hnone, -⟩ | ⟨d', hd', -, htype, -⟩⟩ := Creation.cases h.placed.next hcreation
    · exact absurd (hslab.symm.trans hnone) (by simp)
    · rw [Option.some.inj (hslab.symm.trans hd')]
      exact htype
  have hresult : s.allocSlab env.slab (divRoundUp (max size (2 ^ k)) 1024 * 1024) (2 ^ k) .large =
      (some d.addr, c.result.2) := Prod.ext hsome rfl
  have hinfo : c.result.2.info d.addr = d.info := by
    rw [hres]
    exact s.withSlab_info_self c.slab.2 d
  have hmem : d.addr ∈ c.result.2.existing := by
    rw [hres]
    exact List.mem_cons_self
  rw [Allocator.createLarge, hresult]
  simp only
  generalize c.result.2 = s₁ at hinfo hmem
  obtain ⟨hsize', htype', hphy', -⟩ :=
    ((s₁.storeSlab env.levelOk d.addr).setCount_touches d.addr 1 [0]).geometry d.addr
  rw [show (s₁.storeSlab env.levelOk d.addr).info d.addr = d.info from hinfo] at hsize' htype' hphy'
  refine ⟨_, rfl, Allocator.alignedBlock_large
    (s := ((s₁.storeSlab env.levelOk d.addr).setCount d.addr 1 [0]).attach .large d.addr)
    hmem (htype'.trans htype) ?_ ?_⟩
  · exact Nat.le_trans hbytes (Nat.le_of_eq hsize'.symm)
  · have hdvd : 2 ^ k ∣ d.info.phyAddr := Nat.dvd_trans (dvd_roundUp_iova hk) haligned
    rwa [← hphy'] at hdvd

/-! ## The call -/

theorem validRequest_pow (hpos : 0 < size) (hmax : size ≤ 67108864) (hk : k ≤ 22) :
    validRequest size (2 ^ k) = true := by
  have hpow := Nat.two_pow_pos k
  have hle : 2 ^ k ≤ 2 ^ 22 := Nat.pow_le_pow_right (by decide) hk
  refine decide_eq_true ⟨by omega, hmax, by omega, hle, ?_⟩
  rw [Nat.and_two_pow_sub_one_eq_mod, Nat.mod_self]

/-- The limit of `__qae_alloc_addr` is beyond what `qaeMemAllocNUMA` lets through. -/
theorem memAllocNUMA_eq (s : Allocator) (cfg : Config) (env : AllocEnv) (node : Int)
    (hvalid : validRequest size alignment = true) :
    s.memAllocNUMA cfg env size node alignment =
      if largeRequest size alignment then
        s.openProcess.createLarge env (max size alignment) alignment
      else
        match s.openProcess.findSlab cfg env.unmapCached size node (alignment / 1024) with
        | (some (a, first), s') =>
            (some (a + first * 1024),
              s'.setCount a ((s'.info a).allocations + 1) (first :: s'.live a))
        | (none, s') => s'.createSmall env size alignment := by
  obtain ⟨-, hmax, -, -⟩ := validRequest_spec hvalid
  have hreserved : reserved = 5 := by decide
  rw [memAllocNUMA, if_pos hvalid]
  unfold allocAddr
  dsimp only
  split
  · omega
  · split
    · rfl
    · rcases s.openProcess.findSlab cfg env.unmapCached size node (alignment / 1024) with
        ⟨_ | ⟨a, first⟩, s'⟩
      · rfl
      · rfl

/-- **Which requests are served.** In every state of the allocator in which a fresh slab can be
    obtained, a request of up to 64 MB with an alignment up to 4 MB gives a block of that size at a
    physical address with that alignment, if and only if it can be placed; otherwise the call returns
    no block. -/
theorem alloc_aligned_iff (h : (usdm cfg).Reachable s) (env : AllocEnv) (node : Int)
    (hpos : 0 < size) (hmax : size ≤ 67108864) (hk : k ≤ 22)
    (hfresh : s.FreshSlab env size (2 ^ k)) :
    (∃ p, (s.memAllocNUMA cfg env size node (2 ^ k)).1 = some p ∧
      (s.memAllocNUMA cfg env size node (2 ^ k)).2.AlignedBlock p size (2 ^ k)) ↔
      Placeable size (2 ^ k) := by
  have hvalid := validRequest_pow hpos hmax hk
  have hsize : SmallRequest size := ⟨hpos, by omega⟩
  obtain ⟨L₀, h₀⟩ := usdm_ok h
  obtain ⟨L, hok⟩ := h₀.openProcess
  have hpid := s.openProcess_pidSeen
  rw [memAllocNUMA_eq s cfg env node hvalid]
  unfold Allocator.FreshSlab at hfresh
  by_cases hlarge : largeRequest size (2 ^ k) = true
  · rw [if_pos hlarge] at hfresh ⊢
    exact ⟨fun _ => .inl hlarge, fun _ => hok.createLarge_block env hk hvalid hfresh⟩
  · rw [if_neg hlarge] at hfresh ⊢
    have hk' : k < 21 := by
      by_contra hge
      have hle : 2 ^ 21 ≤ 2 ^ k := Nat.pow_le_pow_right (by decide) (by omega)
      exact hlarge (decide_eq_true (.inr hle))
    by_cases hplace : firstUnit (2 ^ k / 1024) + divRoundUp size 1024 ≤ 2048
    · refine ⟨fun _ => .inr hplace, fun _ => ?_⟩
      rcases hok.findSlab_block hsize env.unmapCached node hk' hplace with
        heq | ⟨a, first, s', heq, hblock⟩
      · rw [heq]
        exact hok.createSmall_block hpid env hsize hk' (smallCreation_valid _ env hvalid) hplace
          hfresh
      · rw [heq]
        exact ⟨_, rfl, hblock⟩
    · refine ⟨?_, fun hplaceable => absurd hplaceable (not_or.mpr ⟨hlarge, hplace⟩)⟩
      rintro ⟨p, hp, -⟩
      obtain ⟨s', ⟨heq, -, hpid', L', hok'⟩ | ⟨a, first, heq, -⟩⟩ :=
        hok.findSlab hsize env.unmapCached node (2 ^ k / 1024) (fun _ => True)
      · rw [heq] at hp
        have hnull := hok'.createSmall_null (hpid'.trans hpid) env hsize
          (smallCreation_valid s' env hvalid) hplace
        exact absurd (hnull.symm.trans hp) (by simp)
      · have hnull := hok.findSlab_null hsize env.unmapCached node hplace
        rw [heq] at hnull
        exact absurd hnull (by simp)

end Allocation

/-- The first allocation of a process: 3000 bytes aligned to 4096. -/
theorem alloc_aligned_iff_first :
    ∃ p, (start.memAllocNUMA .driver ⟨⟨some 2097152, none, true⟩, fun _ _ => true, true, true⟩
        3000 0 (2 ^ 12)).1 = some p ∧
      (start.memAllocNUMA .driver ⟨⟨some 2097152, none, true⟩, fun _ _ => true, true, true⟩
        3000 0 (2 ^ 12)).2.AlignedBlock p 3000 (2 ^ 12) :=
  (alloc_aligned_iff ⟨_, rfl, .refl _⟩ _ 0 (by decide) (by decide) (by decide)
    (by unfold Allocator.FreshSlab; decide +kernel)).mpr (.inr (by decide))

/-- A request of 1.5 MB aligned to 1 MB is sent to a small slab and fits in none: no block is returned
    although a fresh slab is there. -/
theorem aligned_request_refused :
    start.FreshSlab ⟨⟨some 2097152, none, true⟩, fun _ _ => true, true, true⟩ 1572864 (2 ^ 20) ∧
      (start.memAllocNUMA .driver ⟨⟨some 2097152, none, true⟩, fun _ _ => true, true, true⟩
        1572864 0 (2 ^ 20)).1 = none :=
  ⟨by unfold Allocator.FreshSlab; decide +kernel, by decide +kernel⟩

/-! ## Blocks do not overlap -/

section Apart

variable {cfg : Config} {s : Allocator} {L : ListKind → List Nat} {a b p q n m : Nat}

theorem AllocatorOk.slabOk (h : AllocatorOk cfg s L none) (ha : a ∈ s.existing)
    (hsmall : (s.info a).type = .small) : SlabOk (s.ctrl a) (s.live a) := by
  obtain ⟨k, hk⟩ := ((h.listed.mem a).mp ha).resolve_right (by simp)
  cases k with
  | user => exact (h.counted.slab .user a hk).2.1
  | large => exact absurd (hsmall.symm.trans (h.counted.slab .large a hk).1) (by decide)
  | cache =>
    obtain ⟨-, hok, hlive, -⟩ := h.counted.slab .cache a hk
    exact hlive ▸ hok

theorem AllocatorOk.block_inside (h : AllocatorOk cfg s L none) (hp : s.BlockAt a p n) :
    (s.info a).virtAddr ≤ p ∧ p + n ≤ (s.info a).virtAddr + (s.info a).size := by
  obtain ⟨ha, hblock⟩ := hp
  cases htype : (s.info a).type with
  | small =>
    rw [htype] at hblock
    obtain ⟨f, hf, rfl, rfl⟩ := hblock
    have hend := ((h.slabOk ha htype).inside f hf).2
    obtain ⟨haddr, hsize⟩ := (h.placed.slab a ha).small htype
    omega
  | large =>
    rw [htype] at hblock
    omega

/-- **Blocks in use do not overlap**, in one slab or in two, in any state of the allocator. -/
theorem blocks_apart (h : (usdm cfg).Reachable s) (hp : s.BlockAt a p n) (hq : s.BlockAt b q m)
    (hne : (a, p) ≠ (b, q)) : p + n ≤ q ∨ q + m ≤ p := by
  obtain ⟨L, hok⟩ := usdm_ok h
  by_cases hab : a = b
  · subst hab
    obtain ⟨ha, hp⟩ := hp
    obtain ⟨-, hq⟩ := hq
    cases htype : (s.info a).type with
    | small =>
      rw [htype] at hp hq
      obtain ⟨f, hf, rfl, rfl⟩ := hp
      obtain ⟨g, hg, rfl, rfl⟩ := hq
      have hfg : f ≠ g := fun heq => hne (by rw [heq])
      have hdisjoint := (hok.slabOk ha htype).disjoint f hf g hg hfg
      omega
    | large =>
      rw [htype] at hp hq
      exact absurd (by rw [hp.1, hq.1]) hne
  · have hin := hok.block_inside hp
    have hin' := hok.block_inside hq
    have hapart := of_decide_eq_true (hok.placed.disjoint a hp.1 b hq.1 hab)
    simp only [region] at hapart
    omega

end Apart

/-- Two small allocations. -/
theorem blocks_apart_two :
    ∃ s, (usdm .driver).exec .start [sampleRequest 1024 2097152 true, sampleRequest 1024 0 true] =
        some s ∧ s.live 2097152 = [6, 5] ∧
      (2102272 + (s.ctrl 2097152).sizes 5 * 1024 ≤ 2103296 ∨
        2103296 + (s.ctrl 2097152).sizes 6 * 1024 ≤ 2102272) := by
  have hrun : ((usdm .driver).exec .start
      [sampleRequest 1024 2097152 true, sampleRequest 1024 0 true]).any fun s =>
      2097152 ∈ s.existing ∧ (s.info 2097152).type = .small ∧ s.live 2097152 = [6, 5] := by
    decide +kernel
  obtain ⟨s, hs, hex, htype, hlive⟩ := System.exists_exec hrun
  have hblock : ∀ f ∈ s.live 2097152, s.BlockAt 2097152 (2097152 + f * 1024)
      ((s.ctrl 2097152).sizes f * 1024) := fun f hf => ⟨hex, by rw [htype]; exact ⟨f, hf, rfl, rfl⟩⟩
  exact ⟨s, hs, hlive, blocks_apart (System.reachable_of_exec _ _ rfl hs)
    (hblock 5 (by simp [hlive])) (hblock 6 (by simp [hlive])) (by decide)⟩

end Qatlib.Usdm
