import Qatlib.Lib.System
import Qatlib.Usdm.Iova

set_option autoImplicit false

/-! # The VFIO layer

Slab creation and destruction and the registration of devices, from `qae_mem_utils_vfio.c`. The
kernel's side of a VFIO container is modelled as far as the code relies on it: a map request adds a
mapping unless it overlaps one that is there (`EEXIST`, which the code takes for success), an unmap
request removes the mappings inside its range, and either may fail. Which of them fail, and what
`mmap` returns, is an argument of each call.

One process is modelled: `check_pid` reports a new process on its first call only. -/

namespace Qatlib.Usdm

/-! ## State -/

/-- `enum slabType`; huge pages are never enabled in this driver. -/
inductive SlabType where
  | small | large
deriving DecidableEq

/-- A mapping in a container. -/
structure DmaMapping where
  vaddr : Nat
  iova : Nat
  size : Nat
deriving DecidableEq

/-- Two mappings with a common IOVA. -/
def DmaMapping.overlaps (m m' : DmaMapping) : Bool :=
  decide (m.iova < m'.iova + m'.size ∧ m'.iova < m.iova + m.size)

/-- The static variables of the driver, and the containers of the kernel by file descriptor. -/
structure Vfio where
  space : IovaSpace
  containerFd : Option Nat
  containerRef : Nat
  /-- `check_pid` has seen this process. -/
  pidSeen : Bool
  /-- `vfio_pid` is this process. -/
  vfioPidSeen : Bool
  containers : Nat → List DmaMapping
  /-- Not in the program: some map or unmap request was refused. -/
  ioctlFailed : Bool

/-- The variables of a process that has made no call. -/
def Vfio.start : Vfio where
  space := IovaSpace.fresh
  containerFd := none
  containerRef := 0
  pidSeen := false
  vfioPidSeen := false
  containers := fun _ => []
  ioctlFailed := false

/-- The fields of `dev_mem_info_t` that slab creation sets, and the address they are at. -/
structure SlabDesc where
  addr : Nat
  virtAddr : Nat
  size : Nat
  phyAddr : Nat
  type : SlabType
deriving DecidableEq

section

variable (v : Vfio)

/-- The IOVA range of a slab. -/
def SlabDesc.range (d : SlabDesc) : IovaRange := ⟨d.phyAddr, d.size⟩

/-- The mapping of a slab. -/
def SlabDesc.mapping (d : SlabDesc) : DmaMapping := ⟨d.virtAddr, d.phyAddr, d.size⟩

/-! ## Mapping -/

/-- Replace the mappings of one container. -/
def Vfio.setContainer (fd : Nat) (ms : List DmaMapping) : Vfio :=
  { v with containers := Function.update v.containers fd ms }

/-- `dma_map_slab`; `true` for an error. -/
def dmaMapSlab (ok : Bool) (m : DmaMapping) : Bool × Vfio :=
  match v.containerFd with
  | none => (true, { v with ioctlFailed := true })
  | some fd =>
      if !ok then (true, { v with ioctlFailed := true })
      else if (v.containers fd).any m.overlaps then (false, { v with ioctlFailed := true })
      else (false, v.setContainer fd (m :: v.containers fd))

/-- `dma_unmap_slab`; `true` for an error. -/
def dmaUnmapSlab (ok : Bool) (iova size : Nat) : Bool × Vfio :=
  match v.containerFd with
  | none => (true, { v with ioctlFailed := true })
  | some fd =>
      if !ok then (true, { v with ioctlFailed := true })
      else (false, v.setContainer fd ((v.containers fd).filter fun m =>
        !decide (iova ≤ m.iova ∧ m.iova + m.size ≤ iova + size)))

/-- `dma_map_slabs`, over the slabs of a list. -/
def dmaMapSlabs (v : Vfio) (ok : Nat → Bool) : List SlabDesc → Bool × Vfio
  | [] => (false, v)
  | d :: ds =>
      let r := dmaMapSlab v (ok d.addr) d.mapping
      if r.1 then (true, r.2) else dmaMapSlabs r.2 ok ds

/-- `dma_unmap_slabs`, over the slabs of a list. -/
def dmaUnmapSlabs (v : Vfio) (ok : Nat → Bool) : List SlabDesc → Bool × Vfio
  | [] => (false, v)
  | d :: ds =>
      let r := dmaUnmapSlab v (ok d.addr) d.phyAddr d.size
      if r.1 then (true, r.2) else dmaUnmapSlabs r.2 ok ds

/-! ## Slabs -/

/-- What the kernel answers while a slab is created: the two `mmap` calls, the second for a large
    slab only, and the map request. -/
structure SlabEnv where
  ctrlAddr : Option Nat
  dataAddr : Option Nat
  mapOk : Bool

/-- The control block and the memory of a new slab; a small slab starts with its control block. -/
def SlabEnv.mmap (env : SlabEnv) : SlabType → Option (Nat × Nat)
  | .small => env.ctrlAddr.map fun a => (a, a)
  | .large => env.ctrlAddr.bind fun a => env.dataAddr.map fun b => (a, b)

/-- Replace `iova_used`. -/
def Vfio.setUsed (used : Bitmap 32) : Vfio := { v with space := { v.space with iovaUsed := used } }

/-- `iova_release`, on the driver's variables. -/
def Vfio.release (iova size : Nat) : Vfio := v.setUsed (iovaRelease v.space.iovaUsed iova size)

/-- `ioctl_alloc_slab` from the result of `allocate_iova` on. Both error exits release the IOVA range
    recorded in the slab, which is zero when none was found. -/
def finishSlab (mapOk : Bool) (d : SlabDesc) : Option SlabDesc × Vfio :=
  if d.phyAddr = 0 then (none, v.release d.phyAddr d.size)
  else
    match v.containerFd with
    | none => (some d, v)
    | some _ =>
        let m := dmaMapSlab v mapOk d.mapping
        if m.1 then (none, m.2.release d.phyAddr d.size) else (some d, m.2)

/-- `ioctl_alloc_slab`. -/
def ioctlAllocSlab (env : SlabEnv) (sizeR alignment : Nat) (type : SlabType) :
    Option SlabDesc × Vfio :=
  let size := roundUp sizeR 4096
  match env.mmap type with
  | none => (none, v)
  | some (addr, virt) =>
      let r := allocateIova v.space size alignment
      finishSlab { v with space := r.2 } env.mapOk ⟨addr, virt, size, r.1, type⟩

/-- `ioctl_free_slab`. -/
def ioctlFreeSlab (ok : Bool) (iova size : Nat) : Vfio :=
  let v := v.release iova size
  match v.containerFd with
  | none => v
  | some _ => (dmaUnmapSlab v ok iova size).2

/-! ## Devices -/

/-- The part of `qaeInitProcess` that concerns this layer. -/
def Vfio.initProcess : Vfio :=
  if v.pidSeen then v else { v with pidSeen := true, space := IovaSpace.fresh }

/-- Run a pass over three lists; it goes on after an error. -/
def overLists (pass : Vfio → List SlabDesc → Bool × Vfio) (v : Vfio)
    (lists : List (List SlabDesc)) : Bool × Vfio :=
  lists.foldl (fun acc l => let r := pass acc.2 l; (acc.1 || r.1, r.2)) (false, v)

/-- `qaeRegisterDevice` after its filter and the initialisation of the process, with the lists of
    slabs in the order they are mapped. -/
def Vfio.register (fd : Nat) (ok : Nat → Bool) (lists : List (List SlabDesc)) : Int × Vfio :=
  let v := if v.vfioPidSeen then v
    else { v with vfioPidSeen := true, containerFd := none, containerRef := 0 }
  match v.containerFd with
  | none =>
      let r := overLists (fun v l => dmaMapSlabs v ok l) { v with containerFd := some fd } lists
      if r.1 then (1, { r.2 with containerFd := none })
      else (0, { r.2 with containerRef := r.2.containerRef + 1 })
  | some c => if fd = c then (0, { v with containerRef := v.containerRef + 1 }) else (1, v)

/-- `qaeUnregisterDevice`. -/
def Vfio.unregister (fd : Nat) (ok : Nat → Bool) (lists : List (List SlabDesc)) : Int × Vfio :=
  if v.containerRef = 0 ∨ v.containerFd ≠ some fd then (1, v)
  else if !v.vfioPidSeen then (0, v)
  else
    let v := { v with containerRef := v.containerRef - 1 }
    if v.containerRef = 0 then
      let r := overLists (fun v l => dmaUnmapSlabs v ok l) v lists
      (if r.1 then 1 else 0, { r.2 with containerFd := none })
    else (0, v)

/-! ## What the passes leave alone -/

/-- Mapping and unmapping change nothing but the containers and the failure flag. -/
def Vfio.SameVars (v' : Vfio) : Prop :=
  v'.space = v.space ∧ v'.containerFd = v.containerFd ∧ v'.containerRef = v.containerRef ∧
    v'.pidSeen = v.pidSeen ∧ v'.vfioPidSeen = v.vfioPidSeen

theorem Vfio.SameVars.refl : v.SameVars v := ⟨rfl, rfl, rfl, rfl, rfl⟩

end

variable {v v' : Vfio} {sizeR : Nat} {d : SlabDesc}

theorem Vfio.SameVars.trans {v'' : Vfio} (h : v.SameVars v') (h' : v'.SameVars v'') :
    v.SameVars v'' := by
  obtain ⟨h₁, h₂, h₃, h₄, h₅⟩ := h
  obtain ⟨h₁', h₂', h₃', h₄', h₅'⟩ := h'
  exact ⟨h₁'.trans h₁, h₂'.trans h₂, h₃'.trans h₃, h₄'.trans h₄, h₅'.trans h₅⟩

theorem dmaMapSlab_sameVars (v : Vfio) (ok : Bool) (m : DmaMapping) :
    v.SameVars (dmaMapSlab v ok m).2 := by
  unfold dmaMapSlab
  split
  · exact ⟨rfl, rfl, rfl, rfl, rfl⟩
  · split
    · exact ⟨rfl, rfl, rfl, rfl, rfl⟩
    · split <;> exact ⟨rfl, rfl, rfl, rfl, rfl⟩

theorem dmaUnmapSlab_sameVars (v : Vfio) (ok : Bool) (iova size : Nat) :
    v.SameVars (dmaUnmapSlab v ok iova size).2 := by
  unfold dmaUnmapSlab
  split
  · exact ⟨rfl, rfl, rfl, rfl, rfl⟩
  · split <;> exact ⟨rfl, rfl, rfl, rfl, rfl⟩

theorem dmaMapSlabs_sameVars (v : Vfio) (ok : Nat → Bool) (ds : List SlabDesc) :
    v.SameVars (dmaMapSlabs v ok ds).2 := by
  induction ds generalizing v with
  | nil => exact .refl v
  | cons d ds ih =>
    rw [dmaMapSlabs]
    split
    · exact dmaMapSlab_sameVars v _ _
    · exact (dmaMapSlab_sameVars v _ _).trans (ih _)

theorem dmaUnmapSlabs_sameVars (v : Vfio) (ok : Nat → Bool) (ds : List SlabDesc) :
    v.SameVars (dmaUnmapSlabs v ok ds).2 := by
  induction ds generalizing v with
  | nil => exact .refl v
  | cons d ds ih =>
    rw [dmaUnmapSlabs]
    split
    · exact dmaUnmapSlab_sameVars v _ _ _
    · exact (dmaUnmapSlab_sameVars v _ _ _).trans (ih _)

theorem overLists_sameVars {pass : Vfio → List SlabDesc → Bool × Vfio}
    (hpass : ∀ (v : Vfio) l, v.SameVars (pass v l).2) (v : Vfio) (lists : List (List SlabDesc)) :
    v.SameVars (overLists pass v lists).2 := by
  unfold overLists
  generalize false = b
  induction lists generalizing v b with
  | nil => exact .refl v
  | cons l ls ih => exact (hpass v l).trans (ih _ _)

section

variable (v : Vfio)

theorem Vfio.register_space (fd : Nat) (ok : Nat → Bool) (lists : List (List SlabDesc)) :
    (v.register fd ok lists).2.space = v.space ∧
      (v.register fd ok lists).2.pidSeen = v.pidSeen := by
  have hpass (v : Vfio) := overLists_sameVars (fun v l => dmaMapSlabs_sameVars v ok l) v lists
  unfold Vfio.register
  dsimp only
  generalize hv : (if v.vfioPidSeen = true then v else
    { v with vfioPidSeen := true, containerFd := none, containerRef := 0 }) = w
  have hw : w.space = v.space ∧ w.pidSeen = v.pidSeen := by
    subst hv
    split <;> exact ⟨rfl, rfl⟩
  split
  · obtain ⟨hspace, -, -, hpid, -⟩ := hpass { w with containerFd := some fd }
    split <;> exact ⟨hspace.trans hw.1, hpid.trans hw.2⟩
  · split <;> exact hw

theorem Vfio.unregister_space (fd : Nat) (ok : Nat → Bool) (lists : List (List SlabDesc)) :
    (v.unregister fd ok lists).2.space = v.space ∧
      (v.unregister fd ok lists).2.pidSeen = v.pidSeen := by
  have hpass (v : Vfio) := overLists_sameVars (fun v l => dmaUnmapSlabs_sameVars v ok l) v lists
  unfold Vfio.unregister
  split
  · exact ⟨rfl, rfl⟩
  · split
    · exact ⟨rfl, rfl⟩
    · dsimp only
      split
      · obtain ⟨hspace, -, -, hpid, -⟩ := hpass { v with containerRef := v.containerRef - 1 }
        exact ⟨hspace, hpid⟩
      · exact ⟨rfl, rfl⟩

/-! ## What slab creation and destruction do to the IOVA space -/

section

variable (used : Bitmap 32)

@[simp] theorem Vfio.setUsed_used : (v.setUsed used).space.iovaUsed = used := rfl

@[simp] theorem Vfio.setUsed_next : (v.setUsed used).space.nextIova = v.space.nextIova := rfl

@[simp] theorem Vfio.setUsed_pidSeen : (v.setUsed used).pidSeen = v.pidSeen := rfl

@[simp] theorem Vfio.setUsed_failed : (v.setUsed used).ioctlFailed = v.ioctlFailed := rfl

end

end

/-- The driver's variables other than the IOVA space. -/
def Vfio.SameDevice (v v' : Vfio) : Prop :=
  v'.containerFd = v.containerFd ∧ v'.containerRef = v.containerRef ∧
    v'.pidSeen = v.pidSeen ∧ v'.vfioPidSeen = v.vfioPidSeen

theorem Vfio.SameVars.sameDevice (h : v.SameVars v') : v.SameDevice v' := h.2

theorem Vfio.initProcess_seen (h : v.pidSeen = true) : v.initProcess = v := if_pos h

theorem Vfio.SameDevice.setUsed (h : v.SameDevice v') (used : Bitmap 32) :
    v.SameDevice (v'.setUsed used) := h

/-- A slab creation that finds no IOVA range. -/
def Exhausted (v : Vfio) (env : SlabEnv) (sizeR alignment : Nat) (type : SlabType) : Prop :=
  env.mmap type ≠ none ∧ (allocateIova v.space (roundUp sizeR 4096) alignment).1 = 0

theorem roundUp_page (hpos : 0 < sizeR) (hmax : sizeR ≤ 67108864) :
    4096 ∣ roundUp sizeR 4096 ∧ 0 < roundUp sizeR 4096 ∧ roundUp sizeR 4096 ≤ 67108864 ∧
      sizeR ≤ roundUp sizeR 4096 := by
  obtain ⟨hdvd, hlo, hhi⟩ := roundUp_spec (n := sizeR) (s := 4096) (by omega) (by omega)
  exact ⟨hdvd, by omega, by omega, hlo⟩

/-- Releasing at address zero clears the lowest IOVA slabs. -/
theorem Vfio.bit_release_zero (v : Vfio) {size : Nat} (hsize : size ≤ 67108864) (k : Nat) :
    (v.release 0 size).space.iovaUsed.bit k = true ↔
      ¬k < slabCount size ∧ v.space.iovaUsed.bit k = true := by
  have h := bit_iovaRelease v.space.iovaUsed (r := ⟨0, size⟩) (show 0 < 549755813888 by decide) hsize k
  rw [Vfio.release, Vfio.setUsed_used, h]
  simp [IovaRange.Covers]

variable {space space' : IovaSpace} {alignment : Nat}

theorem IovaSpace.Takes.release {r : IovaRange} (h : space.Takes space' r) (k : Nat) :
    (iovaRelease space'.iovaUsed r.iova r.size).bit k = space.iovaUsed.bit k := by
  have hpos := h.valid.size_pos
  have hend := h.valid.inside
  rw [Bool.eq_iff_iff, bit_iovaRelease _ (by omega) h.valid.size_le, h.bits]
  exact cleared_iff fun hin => by rw [h.free k hin]; decide

theorem finishSlab_zero (mapOk : Bool) (h : d.phyAddr = 0) :
    finishSlab v mapOk d = (none, v.release 0 d.size) := by
  rw [finishSlab, if_pos h, h]

/-- A slab whose range was taken is returned, or its range is released again. -/
theorem finishSlab_cases (mapOk : Bool) (htakes : space.Takes v.space d.range) :
    ∃ res v', finishSlab v mapOk d = (res, v') ∧ v'.space.nextIova = v.space.nextIova ∧
      v.SameDevice v' ∧
      ((res = none ∧ space.SameBits v'.space) ∨ (res = some d ∧ v'.space = v.space)) := by
  have hne : d.phyAddr ≠ 0 := by
    have hfirst : 2097152 ≤ d.phyAddr := htakes.valid.first
    omega
  unfold finishSlab
  rw [if_neg hne]
  split
  · exact ⟨_, _, rfl, rfl, ⟨rfl, rfl, rfl, rfl⟩, .inr ⟨rfl, rfl⟩⟩
  · have hsame := dmaMapSlab_sameVars v mapOk d.mapping
    generalize dmaMapSlab v mapOk d.mapping = m at hsame
    dsimp only
    split
    · refine ⟨none, _, rfl, ?_, hsame.sameDevice.setUsed _, .inl ⟨rfl, fun k => ?_⟩⟩
      · rw [Vfio.release, Vfio.setUsed_next, hsame.1]
      · rw [Vfio.release, Vfio.setUsed_used, hsame.1]
        exact htakes.release k
    · exact ⟨_, _, rfl, by rw [hsame.1], hsame.sameDevice, .inr ⟨rfl, hsame.1⟩⟩

/-- A slab creation that finds no range releases the range at address zero. -/
theorem ioctlAllocSlab_exhausted {env : SlabEnv} {type : SlabType} (hmmap : env.mmap type ≠ none)
    (halloc : allocateIova v.space (roundUp sizeR 4096) alignment = (0, space')) :
    ioctlAllocSlab v env sizeR alignment type =
      (none, Vfio.release { v with space := space' } 0 (roundUp sizeR 4096)) := by
  obtain ⟨p, hp⟩ := Option.ne_none_iff_exists'.mp hmmap
  simp only [ioctlAllocSlab, hp, halloc]
  exact finishSlab_zero env.mapOk rfl

/-- **What slab creation does to the IOVA space**: nothing; or, when no range is found, it clears
    the lowest IOVA slabs; or it takes the range of the slab it returns. -/
theorem ioctlAllocSlab_cases (env : SlabEnv) (type : SlabType) (hnext : v.space.NextOk)
    (hpos : 0 < sizeR) (hsize : sizeR ≤ 67108864) (ha : 0 < alignment) (hmax : alignment ≤ 4194304) :
    ∃ res v', ioctlAllocSlab v env sizeR alignment type = (res, v') ∧ v'.space.NextOk ∧
      v.SameDevice v' ∧
      ((res = none ∧ v.space.SameBits v'.space) ∨
        (res = none ∧ Exhausted v env sizeR alignment type ∧ ∀ k, v'.space.iovaUsed.bit k = true ↔
            ¬k < slabCount (roundUp sizeR 4096) ∧ v.space.iovaUsed.bit k = true) ∨
        ∃ d, res = some d ∧ env.mmap type = some (d.addr, d.virtAddr) ∧
          d.size = roundUp sizeR 4096 ∧ d.type = type ∧
          roundUp alignment 2097152 ∣ d.phyAddr ∧ v.space.Takes v'.space d.range) := by
  obtain ⟨-, hpos', hsize', -⟩ := roundUp_page hpos hsize
  obtain ⟨r, space', halloc, hnext', hcases⟩ := allocateIova_cases hnext hpos' hsize' ha hmax
  cases hmmap : env.mmap type with
  | none =>
    refine ⟨none, v, ?_, hnext, ⟨rfl, rfl, rfl, rfl⟩, .inl ⟨rfl, fun _ => rfl⟩⟩
    simp only [ioctlAllocSlab, hmmap]
  | some p =>
    have heq : ioctlAllocSlab v env sizeR alignment type = finishSlab { v with space := space' }
        env.mapOk ⟨p.1, p.2, roundUp sizeR 4096, r, type⟩ := by
      simp only [ioctlAllocSlab, hmmap, halloc]
    rw [heq]
    rcases hcases with ⟨hzero, hsame⟩ | ⟨hal, htakes⟩
    · refine ⟨none, _, finishSlab_zero env.mapOk hzero, ?_, ?_,
        .inr (.inl ⟨rfl, ⟨by rw [hmmap]; simp, by rw [halloc]; exact hzero⟩, fun k => ?_⟩)⟩
      · rw [IovaSpace.NextOk, Vfio.release, Vfio.setUsed_next]
        exact hnext'
      · exact Vfio.SameDevice.setUsed ⟨rfl, rfl, rfl, rfl⟩ _
      · rw [Vfio.bit_release_zero _ hsize', hsame k]
    · obtain ⟨res, v', hfinish, hnextIova, hdev, hres⟩ := finishSlab_cases
        (v := { v with space := space' }) env.mapOk
        (d := ⟨p.1, p.2, roundUp sizeR 4096, r, type⟩) htakes
      refine ⟨res, v', hfinish, ?_, hdev, ?_⟩
      · rw [IovaSpace.NextOk, hnextIova]
        exact hnext'
      · rcases hres with hnone | ⟨hsome, hspace⟩
        · exact .inl hnone
        · refine .inr (.inr ⟨_, hsome, rfl, rfl, rfl, hal, ?_⟩)
          rw [hspace]
          exact htakes

/-- **What slab destruction does to the IOVA space**: it clears what the slab covers. -/
theorem ioctlFreeSlab_space (v : Vfio) (ok : Bool) (hd : d.range.Valid) :
    v.SameDevice (ioctlFreeSlab v ok d.phyAddr d.size) ∧
    (ioctlFreeSlab v ok d.phyAddr d.size).space.nextIova = v.space.nextIova ∧
    ∀ k, (ioctlFreeSlab v ok d.phyAddr d.size).space.iovaUsed.bit k = true ↔
      ¬d.range.Covers k ∧ v.space.iovaUsed.bit k = true := by
  have hiova : d.range.iova < 549755813888 := by
    have hpos := hd.size_pos
    have hend := hd.inside
    omega
  have hsame := dmaUnmapSlab_sameVars (v.release d.phyAddr d.size) ok d.phyAddr d.size
  have hrelease : v.SameDevice (v.release d.phyAddr d.size) :=
    Vfio.SameDevice.setUsed ⟨rfl, rfl, rfl, rfl⟩ _
  have hnext : (v.release d.phyAddr d.size).space.nextIova = v.space.nextIova := by
    rw [Vfio.release, Vfio.setUsed_next]
  have hbits : ∀ k, (v.release d.phyAddr d.size).space.iovaUsed.bit k = true ↔
      ¬d.range.Covers k ∧ v.space.iovaUsed.bit k = true := by
    intro k
    rw [Vfio.release, Vfio.setUsed_used]
    exact bit_iovaRelease v.space.iovaUsed hiova hd.size_le k
  unfold ioctlFreeSlab
  generalize v.release d.phyAddr d.size = w at hsame hrelease hnext hbits
  dsimp only
  split
  · exact ⟨hrelease, hnext, hbits⟩
  · obtain ⟨hspace, h₂, h₃, h₄, h₅⟩ := hsame
    obtain ⟨g₂, g₃, g₄, g₅⟩ := hrelease
    rw [hspace]
    exact ⟨⟨h₂.trans g₂, h₃.trans g₃, h₄.trans g₄, h₅.trans g₅⟩, hnext, hbits⟩

end Qatlib.Usdm
