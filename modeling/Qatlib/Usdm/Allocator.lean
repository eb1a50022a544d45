import Qatlib.Lib.DList
import Qatlib.Usdm.PageTable
import Qatlib.Usdm.SlabInvariant
import Qatlib.Usdm.Vfio

set_option autoImplicit false

/-! # The memory allocator

`qaeMemAllocNUMA`, `qaeMemFreeNUMA` and the address translations of `qae_mem_utils_common.c`, over the
slabs of the VFIO layer. A slab is known by the address of its control block. Small slabs are cut into
blocks and move between the user list, when a block is in use, and the cache list; a large slab is one
allocation and is on the large list. Every slab is also on a chain of a hash table, whose key the page
table gives for any address inside the slab.

What the kernel answers is an argument of each call; an address that is taken, not page aligned or
outside user space is not one of its answers to `mmap`, and new memory is zeroed. A walk along a list
takes the number of slabs as its fuel, which is as long as any of the lists. Locks are left out, and so
is secure freeing, which only writes to the freed block. -/

namespace Qatlib.Usdm

open Function

/-! ## State -/

/-- `dev_mem_info_t` without its list pointers. -/
structure DevMemInfo where
  nodeId : Int
  size : Nat
  type : SlabType
  allocations : Nat
  phyAddr : Nat
  virtAddr : Nat

/-- The lists linked through `pPrev_user` and `pNext_user`. -/
inductive ListKind where
  | user | large | cache
deriving DecidableEq

/-- The variables that configure the allocator. -/
structure Config where
  /-- `g_max_cache`. -/
  maxCache : Nat
  /-- `g_max_lookup_num`. -/
  maxLookupNum : Nat
  /-- `g_strict_node`. -/
  strictNode : Bool
  /-- `g_cache_size` cannot overflow. -/
  noWrap : maxCache + 2097152 < 18446744073709551616

/-- The configuration of the driver. -/
def Config.driver : Config := ⟨8388608, 10, false, by decide⟩

/-- The allocator. -/
structure Allocator where
  /-- The information block of each slab. -/
  info : Nat → DevMemInfo
  /-- The rest of the control block of each small slab. -/
  ctrl : Nat → BlockCtrl
  user : Links Nat
  lists : ListKind → Ends Nat
  hash : Links Nat
  /-- `g_slab_list`. -/
  slabList : Nat → Ends Nat
  cacheSize : Nat
  pageTable : PageTable
  vfio : Vfio
  /-- Not in the program: the slabs that exist. -/
  existing : List Nat
  /-- Not in the program: the first units of the blocks in use, for each slab. -/
  live : Nat → List Nat

/-- The allocator of a process that has made no call. -/
def Allocator.start : Allocator where
  info := fun _ => ⟨0, 0, .small, 0, 0, 0⟩
  ctrl := fun _ => BlockCtrl.zeroed
  user := ⟨fun _ => none, fun _ => none⟩
  lists := fun _ => Ends.empty
  hash := ⟨fun _ => none, fun _ => none⟩
  slabList := fun _ => Ends.empty
  cacheSize := 0
  pageTable := PageTable.empty
  vfio := Vfio.start
  existing := []
  live := fun _ => []

/-- What the kernel answers during an allocation: the calls of a slab creation, the mapping of page
    table levels, and the unmap requests for a cached slab and for the new slab. -/
structure AllocEnv where
  slab : SlabEnv
  levelOk : Nat → Nat → Bool
  unmapCached : Bool
  unmapNew : Bool

/-- Subtraction on `uintptr_t`. -/
def subWrap (a b : Nat) : Nat := (a + 18446744073709551616 - b) % 18446744073709551616

section Functions

variable (s : Allocator)

/-! ## Lists and hash -/

/-- The slabs of a list, in order. -/
def Allocator.slabs (k : ListKind) : List Nat := walk s.user.next s.existing.length (s.lists k).head

/-- `ADD_ELEMENT_TO_HEAD_LIST` on the `_user` pointers. -/
def Allocator.attach (k : ListKind) (a : Nat) : Allocator :=
  let r := addToHead s.user (s.lists k) a
  { s with user := r.1, lists := update s.lists k r.2 }

/-- `REMOVE_ELEMENT_FROM_LIST` on the `_user` pointers. -/
def Allocator.detach (k : ListKind) (a : Nat) : Allocator :=
  let r := removeElement s.user (s.lists k) a
  { s with user := r.1, lists := update s.lists k r.2 }

/-- `add_slab_to_hash`. -/
def Allocator.addSlabToHash (a : Nat) : Allocator :=
  let key := getKey (s.info a).phyAddr
  let r := addToHead s.hash (s.slabList key) a
  { s with hash := r.1, slabList := update s.slabList key r.2 }

/-- `del_slab_from_hash`. -/
def Allocator.delSlabFromHash (a : Nat) : Allocator :=
  let key := getKey (s.info a).phyAddr
  let r := removeElement s.hash (s.slabList key) a
  { s with hash := r.1, slabList := update s.slabList key r.2 }

/-- `find_slab_in_hash`. -/
def Allocator.findSlabInHash (virt : Nat) : Option Nat :=
  let chain := walk s.hash.next s.existing.length (s.slabList (loadKey s.pageTable virt)).head
  chain.find? fun a => decide (subWrap virt (s.info a).virtAddr < (s.info a).size)

/-- `push_slab`; `true` for an error. -/
def Allocator.pushSlab (cfg : Config) (a : Nat) : Bool × Allocator :=
  let total := (s.cacheSize + (s.info a).size) % 18446744073709551616
  if total ≤ cfg.maxCache then (false, { s.attach .cache a with cacheSize := total })
  else (true, s)

/-- `pop_slab`. -/
def Allocator.popSlab (cfg : Config) (node : Int) : Option Nat × Allocator :=
  let fits := fun a => !(decide (node ≠ -1) && cfg.strictNode && decide (node ≠ (s.info a).nodeId))
  match (s.slabs .cache).find? fits with
  | none => (none, s)
  | some a => (some a, { s.detach .cache a with cacheSize := subWrap s.cacheSize (s.info a).size })

/-! ## Address translation -/

/-- `qaeVirtToPhysNUMA`. -/
def Allocator.virtToPhys (virt : Nat) : Nat := loadAddr s.pageTable virt

/-- `qaePhysToVirtNUMA`; it walks the user list only. -/
def Allocator.physToVirt (phys : Nat) : Option Nat :=
  let found := (s.slabs .user).find? fun a =>
    decide (subWrap phys (s.info a).phyAddr < (s.info a).size)
  found.map fun a => (s.info a).virtAddr + subWrap phys (s.info a).phyAddr

/-! ## Slabs -/

/-- The memory of a slab: its control page and its data. -/
def Allocator.regions (a : Nat) : List (Nat × Nat) :=
  [(a, 4096), ((s.info a).virtAddr, (s.info a).size)]

/-- Memory regions without a common address. -/
def apart (r r' : Nat × Nat) : Bool := decide (r.1 + r.2 ≤ r'.1 ∨ r'.1 + r'.2 ≤ r.1)

/-- A page aligned region of user space that no slab is in. -/
def Allocator.freeRegion (r : Nat × Nat) : Bool :=
  decide (0 < r.1 ∧ r.1 % 4096 = 0 ∧ r.1 + r.2 ≤ 144115188075855872) &&
    s.existing.all fun a => (s.regions a).all (apart r)

/-- The answers to the `mmap` calls that a kernel can give. -/
def Allocator.mmapAnswers (env : SlabEnv) (size : Nat) : SlabType → SlabEnv
  | .small => { env with ctrlAddr := env.ctrlAddr.filter fun a => s.freeRegion (a, size) }
  | .large =>
      { env with
        ctrlAddr := env.ctrlAddr.filter fun a => s.freeRegion (a, 4096)
        dataAddr := env.dataAddr.filter fun b => s.freeRegion (b, size) }

/-- The information block of a new slab. -/
def SlabDesc.info (d : SlabDesc) : DevMemInfo := ⟨0, d.size, d.type, 0, d.phyAddr, d.virtAddr⟩

/-- The slab as the VFIO layer sees it. -/
def Allocator.desc (a : Nat) : SlabDesc :=
  ⟨a, (s.info a).virtAddr, (s.info a).size, (s.info a).phyAddr, (s.info a).type⟩

/-- A new slab in zeroed memory. -/
def Allocator.withSlab (v : Vfio) (d : SlabDesc) : Allocator :=
  { s with
    vfio := v
    info := update s.info d.addr d.info
    ctrl := update s.ctrl d.addr BlockCtrl.zeroed
    existing := d.addr :: s.existing
    live := update s.live d.addr [] }

/-- `__qae_alloc_slab`. -/
def Allocator.allocSlab (env : SlabEnv) (size alignment : Nat) (type : SlabType) :
    Option Nat × Allocator :=
  let r := ioctlAllocSlab s.vfio (s.mmapAnswers env (roundUp size 4096) type) size alignment type
  match r.1 with
  | none => (none, { s with vfio := r.2 })
  | some d => (some d.addr, (s.withSlab r.2 d).addSlabToHash d.addr)

/-- `__qae_free_slab`. -/
def Allocator.freeSlab (unmapOk : Bool) (a : Nat) : Allocator :=
  let s := s.delSlabFromHash a
  { s with
    vfio := ioctlFreeSlab s.vfio unmapOk (s.info a).phyAddr (s.info a).size
    existing := s.existing.erase a
    live := update s.live a [] }

/-- `store_mmap_range` for the pages of a slab. -/
def Allocator.storeSlab (levelOk : Nat → Nat → Bool) (a : Nat) : Allocator :=
  let i := s.info a
  { s with pageTable := storeMmapRange levelOk s.pageTable i.virtAddr i.phyAddr i.size }

/-- Set the `allocations` counter, of 32 bits, and the blocks in use that it is to count. -/
def Allocator.setCount (a count : Nat) (live : List Nat) : Allocator :=
  { s with
    info := update s.info a { s.info a with allocations := count % 4294967296 }
    live := update s.live a live }

/-! ## Allocation -/

/-- The loop of `__qae_userMemLookupBySize`, over the slabs of the user list: the slab and the first
    unit of the block. -/
def lookupBySize (cfg : Config) (info : Nat → DevMemInfo) (size : Nat) (node : Int) (align : Nat) :
    Nat → List Nat → (Nat → BlockCtrl) → Option (Nat × Nat) × (Nat → BlockCtrl)
  | _, [], ctrl => (none, ctrl)
  | linkNum, a :: rest, ctrl =>
      if cfg.strictNode ∧ (info a).nodeId ≠ node then
        lookupBySize cfg info size node align linkNum rest ctrl
      else
        let r := memAlloc (ctrl a) size align
        let ctrl := update ctrl a r.2
        match r.1 with
        | some first => (some (a, first), ctrl)
        | none =>
            if linkNum + 1 ≥ cfg.maxLookupNum then (none, ctrl)
            else lookupBySize cfg info size node align (linkNum + 1) rest ctrl

/-- `init_slab_and_alloc`: the first unit of the block. -/
def Allocator.initSlabAndAlloc (a size align : Nat) : Option Nat × Allocator :=
  let r := Usdm.initSlabAndAlloc (s.ctrl a) size align
  let s := { s with ctrl := update s.ctrl a r.2 }
  match r.1 with
  | none => (none, s)
  | some first => (some first, s.attach .user a)

/-- `__qae_find_slab`. -/
def Allocator.findSlab (cfg : Config) (unmapOk : Bool) (size : Nat) (node : Int) (align : Nat) :
    Option (Nat × Nat) × Allocator :=
  let r := lookupBySize cfg s.info size node align 0 (s.slabs .user) s.ctrl
  let s := { s with ctrl := r.2 }
  match r.1 with
  | some b => (some b, s)
  | none =>
      let p := s.popSlab cfg node
      match p.1 with
      | none => (none, p.2)
      | some a =>
          let i := p.2.initSlabAndAlloc a size align
          match i.1 with
          | some first => (some (a, first), i.2)
          | none => (none, i.2.freeSlab unmapOk a)

/-- `qaeInitProcess`: a new process starts with empty control structures. -/
def Allocator.openProcess : Allocator :=
  if s.vfio.pidSeen then s
  else
    { s with
      pageTable := PageTable.empty
      slabList := fun _ => Ends.empty
      cacheSize := 0
      lists := fun _ => Ends.empty
      vfio := s.vfio.initProcess }

/-- The part of `__qae_alloc_addr` that creates a large slab. -/
def Allocator.createLarge (env : AllocEnv) (size alignment : Nat) : Option Nat × Allocator :=
  let r := s.allocSlab env.slab (divRoundUp size 1024 * 1024) alignment .large
  match r.1 with
  | none => (none, r.2)
  | some a =>
      let s := (r.2.storeSlab env.levelOk a).setCount a 1 [0]
      (some (s.info a).virtAddr, s.attach .large a)

/-- The part of `__qae_alloc_addr` that creates a small slab. -/
def Allocator.createSmall (env : AllocEnv) (size alignment : Nat) : Option Nat × Allocator :=
  let r := s.allocSlab env.slab (2048 * 1024) alignment .small
  match r.1 with
  | none => (none, r.2)
  | some a =>
      let s := (r.2.storeSlab env.levelOk a).setCount a 1 []
      if (s.info a).virtAddr % 4096 ≠ 0 then (none, s.freeSlab env.unmapNew a)
      else
        let i := s.initSlabAndAlloc a size (alignment / 1024)
        match i.1 with
        | some first => (some (a + first * 1024), { i.2 with live := update i.2.live a [first] })
        | none => (none, i.2.freeSlab env.unmapNew a)

/-- A request that `__qae_alloc_addr` gives a slab of its own. -/
def largeRequest (size alignment : Nat) : Bool :=
  decide (divRoundUp size 1024 + reserved > 2048 ∨ alignment ≥ 2097152)

/-- `__qae_alloc_addr`. -/
def Allocator.allocAddr (cfg : Config) (env : AllocEnv) (size : Nat) (node : Int)
    (alignment : Nat) : Option Nat × Allocator :=
  let s := s.openProcess
  if 18446744073709551615 - reserved - 1024 < size then (none, s)
  else if largeRequest size alignment then
    s.createLarge env (max size alignment) alignment
  else
    let f := s.findSlab cfg env.unmapCached size node (alignment / 1024)
    match f.1 with
    | some (a, first) =>
        (some (a + first * 1024),
          f.2.setCount a ((f.2.info a).allocations + 1) (first :: f.2.live a))
    | none => f.2.createSmall env size alignment

section

variable (cfg : Config) (unmapOk : Bool)

/-- The checks of `qaeMemAllocNUMA` on its arguments. -/
def validRequest (size alignment : Nat) : Bool :=
  decide (size ≠ 0 ∧ size ≤ 67108864 ∧ alignment ≠ 0 ∧ alignment ≤ 4194304 ∧
    alignment &&& (alignment - 1) = 0)

/-- `qaeMemAllocNUMA`. -/
def Allocator.memAllocNUMA (env : AllocEnv) (size : Nat) (node : Int) (alignment : Nat) :
    Option Nat × Allocator :=
  if validRequest size alignment then s.allocAddr cfg env size node alignment else (none, s)

/-! ## Freeing -/

/-- The part of `__qae_free_addr` that sends a small slab without blocks to the cache. -/
def Allocator.retire (a : Nat) : Allocator :=
  if (s.info a).allocations ≠ 0 then s
  else
    let p := (s.detach .user a).pushSlab cfg a
    if p.1 then p.2.freeSlab unmapOk a else p.2

/-- The end of `__qae_free_addr` for a small slab: the counter, and the slab when it is empty. -/
def Allocator.takeBack (a first : Nat) : Allocator :=
  (s.setCount a ((s.info a).allocations + 4294967295) ((s.live a).erase first)).retire cfg unmapOk a

/-- `__qae_free_addr`. -/
def Allocator.freeAddr (p : Nat) : Allocator :=
  let s := s.openProcess
  match s.findSlabInHash p with
  | none => s
  | some a =>
      match (s.info a).type with
      | .small =>
          let r := memFree (s.ctrl a) a p
          let s := { s with ctrl := update s.ctrl a r.2 }
          if r.1 then s.takeBack cfg unmapOk a ((p - a) / 1024) else s
      | .large => (s.detach .large a).freeSlab unmapOk a

/-- `qaeMemFreeNUMA`. -/
def Allocator.memFreeNUMA (p : Nat) : Allocator := if p = 0 then s else s.freeAddr cfg unmapOk p

end

/-- `__qae_destroyList`, over the slabs of a list. -/
def Allocator.destroyList (unmapOk : Nat → Bool) (l : List Nat) : Allocator :=
  l.foldl (fun s a => s.freeSlab (unmapOk a) a) s

/-- `__qae_reset_cache`. -/
def Allocator.resetCache (cfg : Config) (unmapOk : Nat → Bool) : Nat → Allocator → Allocator
  | 0, s => s
  | n + 1, s =>
      let p := s.popSlab cfg (-1)
      match p.1 with
      | none => p.2
      | some a => resetCache cfg unmapOk n (p.2.freeSlab (unmapOk a) a)

/-- `qaeMemDestroy`. -/
def Allocator.memDestroy (cfg : Config) (unmapOk : Nat → Bool) : Allocator :=
  let s := { s with pageTable := PageTable.empty }
  let s := Allocator.resetCache cfg unmapOk (s.existing.length + 1) s
  let s := s.destroyList unmapOk (s.slabs .user)
  let s := s.destroyList unmapOk (s.slabs .large)
  { s with lists := fun _ => Ends.empty }

/-! ## Devices -/

/-- The slabs in the order in which registration maps them. -/
def Allocator.slabLists : List (List SlabDesc) :=
  [(s.slabs .user).map s.desc, (s.slabs .large).map s.desc, (s.slabs .cache).map s.desc]

/-- `qaeRegisterDevice`, with what the kernel reports about the container. -/
def Allocator.registerDevice (fd : Nat) (info : Option (List (List PermittedRange)))
    (mapOk : Nat → Bool) : Int × Allocator :=
  match info with
  | none => (-1, s)
  | some caps =>
      let s := { s with vfio := s.vfio.setUsed (filterDmaRanges s.vfio.space.iovaUsed caps) }
      let s := s.openProcess
      let r := s.vfio.register fd mapOk s.slabLists
      (r.1, { s with vfio := r.2 })

/-- `qaeUnregisterDevice`. -/
def Allocator.unregisterDevice (fd : Nat) (unmapOk : Nat → Bool) : Int × Allocator :=
  let r := s.vfio.unregister fd unmapOk s.slabLists
  (r.1, { s with vfio := r.2 })

end Functions

/-! ## The machine -/

/-- A call, with what the kernel answers. -/
inductive UsdmEvent where
  | alloc (size : Nat) (node : Int) (alignment : Nat) (env : AllocEnv)
  | free (p : Nat) (unmapOk : Bool)
  | destroy (unmapOk : Nat → Bool)
  | register (fd : Nat) (info : Option (List (List PermittedRange))) (mapOk : Nat → Bool)
  | unregister (fd : Nat) (unmapOk : Nat → Bool)

/-- One call; pointers and sizes are 64-bit values. -/
def Allocator.step (cfg : Config) (s : Allocator) : UsdmEvent → Option Allocator
  | .alloc size node alignment env =>
      if size < 18446744073709551616 ∧ alignment < 18446744073709551616 then
        some (s.memAllocNUMA cfg env size node alignment).2
      else none
  | .free p unmapOk => if p < 18446744073709551616 then some (s.memFreeNUMA cfg unmapOk p) else none
  | .destroy unmapOk => some (s.memDestroy cfg unmapOk)
  | .register fd info mapOk => some (s.registerDevice fd info mapOk).2
  | .unregister fd unmapOk => some (s.unregisterDevice fd unmapOk).2

/-- The allocator as a system. -/
def usdm (cfg : Config) : System Allocator UsdmEvent where
  Init s := s = Allocator.start
  step := Allocator.step cfg

end Qatlib.Usdm
