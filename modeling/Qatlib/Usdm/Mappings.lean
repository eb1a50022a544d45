import Mathlib.Data.List.Pairwise
import Qatlib.Usdm.AllocatorCalls

set_option autoImplicit false

/-! # DMA mappings

While a device is registered, every slab is mapped in the container and nothing else is. A slab is
mapped when it is created or when the first device is registered, and unmapped when it is freed or when
the last device is unregistered; the registrations walk the three lists of slabs.

A map request over an existing mapping is refused by the kernel, and the driver takes the refusal for
success. `ioctlFailed` records any refusal, so the results are about the runs in which it is not
set. -/

namespace Qatlib.Usdm

open Function

variable {n : Int} {m : DmaMapping} {size : Nat} {d : SlabDesc} {pass : Vfio → List SlabDesc → Bool × Vfio}
  {lists : List (List SlabDesc)}

/-! ## Single requests -/

section Requests

variable {v : Vfio} {ok : Bool} {fd : Nat}

theorem dmaMapSlab_done (hfd : v.containerFd = some fd)
    (h : (dmaMapSlab v ok m).2.ioctlFailed = false) :
    v.ioctlFailed = false ∧ (v.containers fd).any m.overlaps = false ∧
      dmaMapSlab v ok m = (false, v.setContainer fd (m :: v.containers fd)) := by
  unfold dmaMapSlab at h ⊢
  simp only [hfd] at h ⊢
  split at h
  · exact absurd h (by simp)
  · next hok =>
    split at h
    · exact absurd h (by simp)
    · next hfree =>
      rw [if_neg hok, if_neg hfree]
      exact ⟨h, by simpa using hfree, rfl⟩

theorem dmaUnmapSlab_done {iova : Nat} (hfd : v.containerFd = some fd)
    (h : (dmaUnmapSlab v ok iova size).2.ioctlFailed = false) :
    v.ioctlFailed = false ∧ dmaUnmapSlab v ok iova size =
      (false, v.setContainer fd ((v.containers fd).filter fun m =>
        !decide (iova ≤ m.iova ∧ m.iova + m.size ≤ iova + size))) := by
  unfold dmaUnmapSlab at h ⊢
  simp only [hfd] at h ⊢
  split at h
  · exact absurd h (by simp)
  · next hok =>
    rw [if_neg hok]
    exact ⟨h, rfl⟩

end Requests

/-! ## The container and a list of mappings -/

/-- Two mappings without a common IOVA. -/
def DmaMapping.Apart (m m' : DmaMapping) : Prop := m.overlaps m' = false

theorem DmaMapping.apart_iff {m' : DmaMapping} :
    m.Apart m' ↔ ¬(m.iova < m'.iova + m'.size ∧ m'.iova < m.iova + m.size) :=
  decide_eq_false_iff_not

instance : Std.Symm DmaMapping.Apart :=
  ⟨fun _ _ h => DmaMapping.apart_iff.mpr fun hover => DmaMapping.apart_iff.mp h hover.symm⟩

/-- Mappings of positive size without a common IOVA. -/
structure Separate (ms : List DmaMapping) : Prop where
  apart : ms.Pairwise DmaMapping.Apart
  positive : ∀ m ∈ ms, 0 < m.size

/-- With `n` registrations, the container holds exactly `ms` while there are any, and nothing
    otherwise. -/
structure Mirrors (n : Int) (v : Vfio) (ms : List DmaMapping) : Prop where
  mapped : ∀ fd, v.containerFd = some fd → (v.containers fd).Perm ms ∧ Separate (v.containers fd)
  others : ∀ fd, v.containerFd ≠ some fd → v.containers fd = []
  count : v.containerRef = n
  registered : 0 < n ↔ v.containerFd ≠ none
  seen : v.containerFd ≠ none → v.vfioPidSeen = true

section Lists

variable {v v' : Vfio} {ms ms' : List DmaMapping}

namespace Separate

variable (h : Separate ms)
include h

theorem cons (hm : ms.any m.overlaps = false) (hpos : 0 < m.size) : Separate (m :: ms) := by
  refine ⟨List.pairwise_cons.mpr ⟨fun m' hm' => ?_, h.apart⟩, ?_⟩
  · rw [List.any_eq_false] at hm
    exact Bool.eq_false_iff.mpr (hm m' hm')
  · intro m' hm'
    rcases List.mem_cons.mp hm' with rfl | hm'
    · exact hpos
    · exact h.positive m' hm'

theorem nodup : ms.Nodup := by
  refine h.apart.imp_of_mem fun {m m'} hm _ hapart heq => ?_
  subst heq
  have hpos := h.positive m hm
  exact DmaMapping.apart_iff.mp hapart ⟨by omega, by omega⟩

theorem filter (keep : DmaMapping → Bool) : Separate (ms.filter keep) :=
  ⟨h.apart.sublist List.filter_sublist, fun m hm => h.positive m (List.mem_of_mem_filter hm)⟩

/-- Unmapping the range of a mapping removes that mapping. -/
theorem filter_erase (hm : m ∈ ms) :
    (ms.filter fun m' => !decide (m.iova ≤ m'.iova ∧ m'.iova + m'.size ≤ m.iova + m.size)) =
      ms.erase m := by
  rw [h.nodup.erase_eq_filter]
  refine List.filter_congr fun m' hm' => ?_
  by_cases heq : m' = m
  · subst heq
    simp
  · have hapart := DmaMapping.apart_iff.mp (h.apart.forall hm hm' (Ne.symm heq))
    have hpos := h.positive m' hm'
    have houtside : ¬(m.iova ≤ m'.iova ∧ m'.iova + m'.size ≤ m.iova + m.size) := by omega
    rw [decide_eq_false houtside]
    simpa using heq

end Separate

theorem Mirrors.congr (h : Mirrors n v ms) (hfd : v'.containerFd = v.containerFd)
    (hcont : v'.containers = v.containers) (href : v'.containerRef = v.containerRef)
    (hpid : v'.vfioPidSeen = v.vfioPidSeen) (hms : ms'.Perm ms) : Mirrors n v' ms' := by
  obtain ⟨hmapped, hothers, hcount, hreg, hseen⟩ := h
  refine ⟨fun fd hsome => ?_, fun fd hne => ?_, href ▸ hcount, by rwa [hfd], by rwa [hfd, hpid]⟩
  · rw [hfd] at hsome
    rw [hcont]
    exact ⟨(hmapped fd hsome).1.trans hms.symm, (hmapped fd hsome).2⟩
  · rw [hfd] at hne
    rw [hcont]
    exact hothers fd hne

end Lists

/-! ## Slabs -/

/-- The mapping of a slab. -/
def Allocator.mapping (s : Allocator) (a : Nat) : DmaMapping := (s.desc a).mapping

/-- The mappings of the slabs that exist. -/
def Allocator.mappings (s : Allocator) : List DmaMapping := s.existing.map s.mapping

/-- The container mirrors the slabs, unless a request was refused. -/
def MirrorsSlabs (n : Int) (s : Allocator) : Prop :=
  s.vfio.ioctlFailed = false → Mirrors n s.vfio s.mappings

section Slabs

variable {v : Vfio} {ms : List DmaMapping}

/-- The container of the registered device gets other mappings. -/
theorem Mirrors.setContainer (h : Mirrors n v ms) {fd : Nat} (hfd : v.containerFd = some fd)
    {ms' ms'' : List DmaMapping} (hperm : ms''.Perm ms') (hsep : Separate ms'') :
    Mirrors n (v.setContainer fd ms'') ms' := by
  refine ⟨fun fd' hfd' => ?_, fun fd' hne => ?_, h.count, h.registered, h.seen⟩
  · obtain rfl : fd = fd' := Option.some.inj (hfd.symm.trans hfd')
    rw [show (v.setContainer fd ms'').containers fd = ms'' from update_self _ _ _]
    exact ⟨hperm, hsep⟩
  · have hne' : fd' ≠ fd := by
      rintro rfl
      exact hne hfd
    exact (update_of_ne hne' _ _).trans (h.others fd' hne)

/-- Without a device, the containers are empty whatever the slabs are. -/
theorem Mirrors.no_device (h : Mirrors n v ms) (hfd : v.containerFd = none) (ms' : List DmaMapping) :
    Mirrors n v ms' :=
  ⟨fun fd hsome => absurd (hfd.symm.trans hsome) (by simp), h.others, h.count, h.registered, h.seen⟩

theorem Mirrors.setUsed (h : Mirrors n v ms) (used : Bitmap 32) : Mirrors n (v.setUsed used) ms :=
  h.congr rfl rfl rfl rfl (.refl _)

theorem Vfio.release_failed (v : Vfio) (iova size : Nat) :
    (v.release iova size).ioctlFailed = v.ioctlFailed := by
  rw [Vfio.release, Vfio.setUsed_failed]

section

variable (h : v.ioctlFailed = false → Mirrors n v ms)
include h

/-- The last part of a creation without refusal maps the slab it returns, if a device is registered. -/
theorem Mirrors.finishSlab (hpos : 0 < d.size) (mapOk : Bool)
    (hdone : (finishSlab v mapOk d).2.ioctlFailed = false) :
    Mirrors n (finishSlab v mapOk d).2
      ((finishSlab v mapOk d).1.toList.map SlabDesc.mapping ++ ms) := by
  by_cases hzero : d.phyAddr = 0
  · rw [finishSlab_zero mapOk hzero] at hdone ⊢
    rw [Vfio.release_failed] at hdone
    exact (h hdone).setUsed _
  cases hfd : v.containerFd with
  | none =>
    have heq : Usdm.finishSlab v mapOk d = (some d, v) := by rw [Usdm.finishSlab, if_neg hzero, hfd]
    rw [heq] at hdone ⊢
    exact (h hdone).no_device hfd _
  | some fd =>
    have heq : Usdm.finishSlab v mapOk d = if (dmaMapSlab v mapOk d.mapping).1 = true then
        (none, (dmaMapSlab v mapOk d.mapping).2.release d.phyAddr d.size)
        else (some d, (dmaMapSlab v mapOk d.mapping).2) := by
      rw [Usdm.finishSlab, if_neg hzero, hfd]
    have hfalse : (dmaMapSlab v mapOk d.mapping).2.ioctlFailed = false := by
      rw [heq] at hdone
      split at hdone
      · rw [Vfio.release_failed] at hdone
        exact hdone
      · exact hdone
    obtain ⟨hok, hfree, hmap⟩ := dmaMapSlab_done hfd hfalse
    obtain ⟨hperm, hsep⟩ := (h hok).mapped fd hfd
    rw [heq, hmap, if_neg Bool.false_ne_true]
    exact (h hok).setContainer hfd (hperm.cons _) (hsep.cons hfree hpos)

theorem Mirrors.alloc (env : SlabEnv) (alignment : Nat) (type : SlabType)
    (hpos : 0 < roundUp size 4096)
    (hdone : (ioctlAllocSlab v env size alignment type).2.ioctlFailed = false) :
    Mirrors n (ioctlAllocSlab v env size alignment type).2
      ((ioctlAllocSlab v env size alignment type).1.toList.map SlabDesc.mapping ++ ms) := by
  rw [ioctlAllocSlab] at hdone ⊢
  generalize allocateIova v.space (roundUp size 4096) alignment = r at hdone ⊢
  generalize env.mmap type = answer at hdone ⊢
  cases answer with
  | none => exact h hdone
  | some p =>
    exact Mirrors.finishSlab (v := { v with space := r.2 })
      (d := ⟨p.1, p.2, roundUp size 4096, r.1, type⟩)
      (fun hok => (h hok).congr rfl rfl rfl rfl (.refl _)) hpos _ hdone

/-- Freeing a slab without refusal unmaps it, if a device is registered. -/
theorem Mirrors.free (ok : Bool) (hm : m ∈ ms)
    (hdone : (ioctlFreeSlab v ok m.iova m.size).ioctlFailed = false) :
    Mirrors n (ioctlFreeSlab v ok m.iova m.size) (ms.erase m) := by
  unfold ioctlFreeSlab at hdone ⊢
  have hrel : (v.release m.iova m.size).ioctlFailed = false →
      Mirrors n (v.release m.iova m.size) ms := by
    rw [Vfio.release_failed]
    exact fun hok => (h hok).setUsed _
  generalize v.release m.iova m.size = w at hdone hrel ⊢
  cases hfd : w.containerFd with
  | none =>
    simp only [hfd] at hdone ⊢
    exact (hrel hdone).no_device hfd _
  | some fd =>
    simp only [hfd] at hdone ⊢
    obtain ⟨hok, heq⟩ := dmaUnmapSlab_done hfd hdone
    obtain ⟨hperm, hsep⟩ := (hrel hok).mapped fd hfd
    have hin : m ∈ w.containers fd := hperm.mem_iff.mpr hm
    rw [heq, hsep.filter_erase hin]
    exact (hrel hok).setContainer hfd (hperm.erase m) (hsep.filter_erase hin ▸ hsep.filter _)

end

end Slabs

open Allocator

section Moves

variable {cfg : Config} {s s' : Allocator} {L : ListKind → List Nat}

theorem Allocator.mappings_congr (hex : s'.existing = s.existing)
    (hgeo : ∀ a ∈ s.existing, SameGeometry (s.info a) (s'.info a)) : s'.mappings = s.mappings := by
  rw [mappings, mappings, hex]
  refine List.map_congr_left fun a ha => ?_
  obtain ⟨hsize, -, hphy, hvirt⟩ := hgeo a ha
  simp only [mapping, SlabDesc.mapping, desc, hsize, hphy, hvirt]

/-- The mapping of a new slab comes before those of the slabs that are there. -/
theorem Allocator.withSlab_mappings (s : Allocator) (v : Vfio) (hnew : d.addr ∉ s.existing) :
    (s.withSlab v d).mappings = d.mapping :: s.mappings := by
  have hself : (s.withSlab v d).mapping d.addr = d.mapping := by
    rw [mapping, desc, s.withSlab_info_self]
    rfl
  rw [mappings, show (s.withSlab v d).existing = d.addr :: s.existing from rfl,
    List.map_cons, hself]
  refine congrArg _ (List.map_congr_left fun b hb => ?_)
  rw [mapping, desc, s.withSlab_info v d (fun heq => hnew (heq ▸ hb))]
  rfl

theorem MirrorsSlabs.slab {c : Creation} (h : MirrorsSlabs n c.before) (hvalid : c.Valid)
    (hok : c.slab.2.ioctlFailed = false) :
    Mirrors n c.slab.2 (c.slab.1.toList.map SlabDesc.mapping ++ c.before.mappings) :=
  Mirrors.alloc h _ _ _ (roundUp_page hvalid.size_pos hvalid.size_le).2.1 hok

theorem MirrorsSlabs.move {C : Creation → Prop} (h : MirrorsSlabs n s) (hmove : Move C s s') :
    MirrorsSlabs n s' := by
  intro hok
  cases hmove with
  | touch htouch =>
    rw [htouch.vfio] at hok ⊢
    rw [mappings_congr htouch.existing fun a _ => htouch.geometry a]
    exact h hok
  | @free _ a unmapOk hplaced hnodup ha =>
    have hin : s.mapping a ∈ s.mappings := List.mem_map_of_mem ha
    have hfree := Mirrors.free h unmapOk hin hok
    refine hfree.congr rfl rfl rfl rfl ?_
    -- the slabs but `a` have the mappings but that of `a`
    have hperm := ((List.perm_cons_erase ha).map s.mapping).erase (s.mapping a)
    rw [List.map_cons, List.erase_cons_head] at hperm
    exact hperm.symm
  | fail c hplaced hvalid hc hnone =>
    obtain ⟨hslab, hres, -⟩ := Creation.failed hplaced hvalid hnone
    rw [hres] at hok ⊢
    have halloc := h.slab hvalid hok
    rw [hslab] at halloc
    exact halloc
  | create c hplaced hvalid hc hsome =>
    obtain ⟨d, rfl, hslab, hres, hnew, -⟩ := Creation.succeeded hplaced hvalid hsome
    rw [hres] at hok ⊢
    have halloc := h.slab hvalid hok
    rw [hslab] at halloc
    refine halloc.congr rfl rfl rfl rfl ?_
    exact .of_eq (c.before.withSlab_mappings c.slab.2 hnew)

end Moves

/-! ## Devices -/

section Devices

variable {v : Vfio} {fd : Nat} {ok : Nat → Bool} {ms : List DmaMapping}

theorem Vfio.setContainer_self (v : Vfio) (fd : Nat) : v.setContainer fd (v.containers fd) = v := by
  rw [Vfio.setContainer, update_eq_self]

theorem Vfio.setContainer_idem (v : Vfio) (fd : Nat) (ms ms' : List DmaMapping) :
    (v.setContainer fd ms).setContainer fd ms' = v.setContainer fd ms' := by
  simp only [Vfio.setContainer, update_idem]

theorem Vfio.setContainer_containers (v : Vfio) (fd : Nat) (ms : List DmaMapping) :
    (v.setContainer fd ms).containers fd = ms := update_self _ _ _

/-- What a pass over a list of slabs makes of the mappings of the container. -/
abbrev Effect := List SlabDesc → List DmaMapping → List DmaMapping → Prop

/-- A pass that, without refusal, has an effect on the container and nothing else. -/
def Performs (pass : Vfio → List SlabDesc → Bool × Vfio) (R : Effect) (fd : Nat) : Prop :=
  ∀ v l, v.containerFd = some fd → (pass v l).2.ioctlFailed = false → v.ioctlFailed = false ∧
      ∃ ms, pass v l = (false, v.setContainer fd ms) ∧ R l (v.containers fd) ms

/-- An effect that can be had list by list. -/
structure Effect.Composes (R : Effect) : Prop where
  nil : ∀ ms, R [] ms ms
  append : ∀ l l' ms ms' ms'', R l ms ms' → R l' ms' ms'' → R (l ++ l') ms ms''

/-- The three lists are passed over as one. -/
theorem Performs.overLists {R : Effect} (h : Performs pass R fd) (hR : R.Composes)
    (hvars : ∀ (v : Vfio) l, v.SameVars (pass v l).2) (hfd : v.containerFd = some fd)
    (lists : List (List SlabDesc)) (hdone : (overLists pass v lists).2.ioctlFailed = false) :
    v.ioctlFailed = false ∧ ∃ ms, overLists pass v lists = (false, v.setContainer fd ms) ∧
      R lists.flatten (v.containers fd) ms := by
  suffices hfold : ∀ (b : Bool),
      (lists.foldl (fun acc l => (acc.1 || (pass acc.2 l).1, (pass acc.2 l).2)) (b, v)).2.ioctlFailed =
        false → v.ioctlFailed = false ∧ ∃ ms,
      lists.foldl (fun acc l => (acc.1 || (pass acc.2 l).1, (pass acc.2 l).2)) (b, v) =
        (b, v.setContainer fd ms) ∧ R lists.flatten (v.containers fd) ms from hfold false hdone
  clear hdone
  induction lists generalizing v with
  | nil => exact fun b hdone => ⟨hdone, _, by rw [Vfio.setContainer_self]; rfl, hR.nil _⟩
  | cons l ls ih =>
    intro b hdone
    rw [List.foldl_cons] at hdone ⊢
    have hfd' : (pass v l).2.containerFd = some fd := (hvars v l).2.1.trans hfd
    obtain ⟨hfirst, -⟩ := ih hfd' _ hdone
    obtain ⟨hok, ms, heq, heff⟩ := h v l hfd hfirst
    simp only [heq, Bool.or_false] at hdone ⊢
    obtain ⟨-, ms', heq', heff'⟩ := ih (v := v.setContainer fd ms) hfd _ hdone
    rw [Vfio.setContainer_idem] at heq'
    rw [Vfio.setContainer_containers] at heff'
    exact ⟨hok, ms', heq', hR.append _ _ _ _ _ heff heff'⟩

/-- A pass that makes one request for each slab and stops at the first error. -/
theorem Performs.of_request {request : Vfio → SlabDesc → Bool × Vfio} {R : Effect}
    (hR : R.Composes) (hnil : ∀ v, pass v [] = (false, v)) (hcons : ∀ v d ds, pass v (d :: ds) =
      if (request v d).1 = true then (true, (request v d).2) else pass (request v d).2 ds)
    (hvars : ∀ (v : Vfio) d, v.SameVars (request v d).2)
    (h : ∀ v d, v.containerFd = some fd → (request v d).2.ioctlFailed = false →
      v.ioctlFailed = false ∧
        ∃ ms, request v d = (false, v.setContainer fd ms) ∧ R [d] (v.containers fd) ms) :
    Performs pass R fd := by
  intro v l hfd hdone
  induction l generalizing v with
  | nil =>
    rw [hnil] at hdone ⊢
    exact ⟨hdone, _, by rw [Vfio.setContainer_self], hR.nil _⟩
  | cons d ds ih =>
    have hfirst : (request v d).2.ioctlFailed = false := by
      rw [hcons] at hdone
      split at hdone
      · exact hdone
      · exact (ih _ ((hvars v d).2.1.trans hfd) hdone).1
    obtain ⟨hok, ms, heq, heff⟩ := h v d hfd hfirst
    rw [hcons, heq, if_neg Bool.false_ne_true] at hdone ⊢
    obtain ⟨-, ms', heq', heff'⟩ := ih (v.setContainer fd ms) hfd hdone
    rw [Vfio.setContainer_idem] at heq'
    rw [Vfio.setContainer_containers] at heff'
    exact ⟨hok, ms', heq', hR.append [d] ds _ _ _ heff heff'⟩

/-- The effect of `dma_map_slabs`. -/
def MapEffect : Effect := fun l ms ms' =>
  ms'.Perm (l.map SlabDesc.mapping ++ ms) ∧ ((∀ d ∈ l, 0 < d.size) → Separate ms → Separate ms')

/-- The effect of `dma_unmap_slabs`. -/
def UnmapEffect : Effect := fun l ms ms' =>
  ∀ m ∈ ms', m ∈ ms ∧ ∀ d ∈ l, ¬(d.phyAddr ≤ m.iova ∧ m.iova + m.size ≤ d.phyAddr + d.size)

theorem mapEffect_composes : Effect.Composes MapEffect := by
  constructor
  · exact fun ms => ⟨.refl _, fun _ h => h⟩
  · rintro l l' ms ms' ms'' ⟨hperm, hsep⟩ ⟨hperm', hsep'⟩
    refine ⟨?_, fun hpos h => hsep' (fun d hd => hpos d (List.mem_append_right l hd))
      (hsep (fun d hd => hpos d (List.mem_append_left l' hd)) h)⟩
    rw [List.map_append, List.append_assoc]
    refine hperm'.trans ((hperm.append_left _).trans ?_)
    rw [← List.append_assoc, ← List.append_assoc]
    exact List.perm_append_comm.append_right _

theorem unmapEffect_composes : Effect.Composes UnmapEffect := by
  constructor
  · exact fun ms m hm => ⟨hm, fun d hd => absurd hd List.not_mem_nil⟩
  · intro l l' ms ms' ms'' h h' m hm
    obtain ⟨hm', hout'⟩ := h' m hm
    obtain ⟨hm, hout⟩ := h m hm'
    refine ⟨hm, fun d hd => ?_⟩
    rcases List.mem_append.mp hd with hd | hd
    · exact hout d hd
    · exact hout' d hd

theorem dmaMapSlabs_performs (ok : Nat → Bool) (fd : Nat) :
    Performs (fun v l => dmaMapSlabs v ok l) MapEffect fd := by
  refine Performs.of_request mapEffect_composes (fun _ => rfl) (fun _ _ _ => rfl)
    (fun v d => dmaMapSlab_sameVars v (ok d.addr) d.mapping) fun v d hfd hdone => ?_
  obtain ⟨hok, hfree, heq⟩ := dmaMapSlab_done hfd hdone
  refine ⟨hok, _, heq, .refl _, fun hpos hsep => hsep.cons hfree (hpos d List.mem_cons_self)⟩

theorem dmaUnmapSlabs_performs (ok : Nat → Bool) (fd : Nat) :
    Performs (fun v l => dmaUnmapSlabs v ok l) UnmapEffect fd := by
  refine Performs.of_request unmapEffect_composes (fun _ => rfl) (fun _ _ _ => rfl)
    (fun v d => dmaUnmapSlab_sameVars v (ok d.addr) d.phyAddr d.size) fun v d hfd hdone => ?_
  obtain ⟨hok, heq⟩ := dmaUnmapSlab_done hfd hdone
  refine ⟨hok, _, heq, fun m hm => ?_⟩
  obtain ⟨hm, hout⟩ := List.mem_filter.mp hm
  refine ⟨hm, fun d' hd' => ?_⟩
  rw [List.mem_singleton.mp hd']
  simpa only [Bool.not_eq_true', decide_eq_false_iff_not] using hout

/-- Registering a device maps the slabs, if it is the first one. -/
theorem Mirrors.register (h : v.ioctlFailed = false → Mirrors n v ms)
    (hlists : (lists.flatten.map SlabDesc.mapping).Perm ms)
    (hpos : ∀ d ∈ lists.flatten, 0 < d.size)
    (hdone : (v.register fd ok lists).2.ioctlFailed = false) :
    Mirrors (if (v.register fd ok lists).1 = 0 then n + 1 else n) (v.register fd ok lists).2 ms := by
  unfold Vfio.register at hdone ⊢
  dsimp only at hdone ⊢
  generalize hw : (if v.vfioPidSeen = true then v
    else { v with vfioPidSeen := true, containerFd := none, containerRef := 0 }) = w at hdone ⊢
  have hseen : w.vfioPidSeen = true := by
    rw [← hw]
    split
    · next hseen => exact hseen
    · rfl
  have hmirrors : w.ioctlFailed = false → Mirrors n w ms := by
    rw [← hw]
    split
    · exact h
    · next hunseen =>
      -- no device was registered, so nothing is mapped
      intro hok
      obtain ⟨-, hothers, hcount, hreg, hseen⟩ := h hok
      have hnone : v.containerFd = none := by
        by_contra hne
        exact hunseen (hseen hne)
      have hzero : ¬0 < n := fun hlt => hreg.mp hlt hnone
      refine ⟨fun fd' hsome => absurd hsome (by simp), fun fd' _ => hothers fd' (by simp [hnone]),
        by simp; omega, by simpa using hzero, fun _ => rfl⟩
  rcases w.containerFd.eq_none_or_eq_some with hfd | ⟨c, hfd⟩
  · simp only [hfd] at hdone ⊢
    have hpass : (overLists (fun v l => dmaMapSlabs v ok l) { w with containerFd := some fd }
        lists).2.ioctlFailed = false := by
      split at hdone
      · exact hdone
      · exact hdone
    obtain ⟨hok, ms', heq, hperm, hsep⟩ := (dmaMapSlabs_performs ok fd).overLists mapEffect_composes
      (fun v l => dmaMapSlabs_sameVars v ok l) (v := { w with containerFd := some fd }) rfl lists hpass
    obtain ⟨-, hothers, hcount, -, -⟩ := hmirrors hok
    have hempty : ∀ fd', w.containers fd' = [] := fun fd' => hothers fd' (by simp [hfd])
    rw [show Vfio.containers { w with containerFd := some fd } fd = [] from hempty fd] at hperm hsep
    rw [List.append_nil] at hperm
    rw [heq, if_neg Bool.false_ne_true, if_pos rfl]
    refine ⟨fun fd' hfd' => ?_, fun fd' hne => ?_, congrArg (· + 1) hcount,
      iff_of_true (by omega) (by simp [Vfio.setContainer]), fun _ => hseen⟩
    · obtain rfl : fd = fd' := Option.some.inj hfd'
      rw [show Vfio.containers _ fd = ms' from update_self _ _ _]
      exact ⟨hperm.trans hlists, hsep hpos ⟨.nil, by simp⟩⟩
    · have hne' : fd' ≠ fd := by
        rintro rfl
        exact hne rfl
      exact (update_of_ne hne' _ _).trans (hempty fd')
  · simp only [hfd] at hdone ⊢
    split at hdone
    · next heq =>
      obtain ⟨hmapped, hothers, hcount, -, -⟩ := hmirrors hdone
      rw [if_pos heq, if_pos rfl]
      exact ⟨fun fd' hfd' => hmapped fd' (hfd.trans hfd'), fun fd' hne => hothers fd' (hfd ▸ hne),
        congrArg (· + 1) hcount, iff_of_true (by omega) (by simp), fun _ => hseen⟩
    · next hne =>
      rw [if_neg hne]
      exact hmirrors hdone

/-- Unregistering a device unmaps the slabs, if it is the last one. -/
theorem Mirrors.unregister (h : v.ioctlFailed = false → Mirrors n v ms)
    (hlists : (lists.flatten.map SlabDesc.mapping).Perm ms)
    (hdone : (v.unregister fd ok lists).2.ioctlFailed = false) :
    Mirrors (if (v.unregister fd ok lists).1 = 0 then n - 1 else n) (v.unregister fd ok lists).2
      ms := by
  unfold Vfio.unregister at hdone ⊢
  split at hdone
  · next hbad =>
    rw [if_pos hbad]
    exact h hdone
  · next hgood =>
    rw [if_neg hgood]
    obtain ⟨href, hfd⟩ := not_or.mp hgood
    have hfd : v.containerFd = some fd := Decidable.not_not.mp hfd
    split at hdone
    · next hunseen => exact absurd ((h hdone).seen (by simp [hfd])) (by simpa using hunseen)
    · next hseen =>
      rw [if_neg hseen]
      dsimp only at hdone ⊢
      split at hdone
      · next hlast =>
        rw [if_pos hlast]
        obtain ⟨hok, ms', heq, heff⟩ := (dmaUnmapSlabs_performs ok fd).overLists unmapEffect_composes
          (fun v l => dmaUnmapSlabs_sameVars v ok l)
          (v := { v with containerRef := v.containerRef - 1 }) hfd lists hdone
        obtain ⟨hmapped, hothers, hcount, -, -⟩ := h hok
        -- every mapping is that of a slab, so none is left
        have hnil : ms' = [] := by
          refine List.eq_nil_iff_forall_not_mem.mpr fun m hm => ?_
          obtain ⟨hm, hout⟩ := heff m hm
          obtain ⟨d, hd, rfl⟩ := List.mem_map.mp
            (hlists.mem_iff.mpr ((hmapped fd hfd).1.mem_iff.mp hm))
          exact hout d hd ⟨Nat.le_refl _, Nat.le_refl _⟩
        subst hnil
        rw [heq, if_neg Bool.false_ne_true, if_pos rfl]
        refine ⟨fun fd' hsome => absurd hsome (by simp), fun fd' _ => ?_, ?_,
          iff_of_false (by omega) (by simp), by simp⟩
        · rcases eq_or_ne fd' fd with rfl | hne
          · exact update_self _ _ _
          · refine (update_of_ne hne _ _).trans (hothers fd' ?_)
            rw [hfd]
            exact fun heq => hne (Option.some.inj heq).symm
        · show ((v.containerRef - 1 : Nat) : Int) = n - 1
          omega
      · next hmore =>
        obtain ⟨hmapped, hothers, hcount, -, hpid⟩ := h hdone
        rw [if_neg hmore, if_pos rfl]
        refine ⟨hmapped, hothers, ?_, iff_of_true (by omega) (by simp [hfd]), hpid⟩
        show ((v.containerRef - 1 : Nat) : Int) = n - 1
        omega

end Devices

/-! ## Whole runs -/

section Runs

variable {cfg : Config} {s s' : Allocator} {L : ListKind → List Nat}

/-- The three lists hold the slabs that exist. -/
theorem Listed.perm (h : Listed s L none) : (L .user ++ (L .large ++ L .cache)).Perm s.existing := by
  have hdis := h.lists.disjoint
  have hnodup : (L .user ++ (L .large ++ L .cache)).Nodup := by
    refine List.nodup_append.mpr ⟨(h.lists.list .user).nodup, List.nodup_append.mpr
      ⟨(h.lists.list .large).nodup, (h.lists.list .cache).nodup, ?_⟩, ?_⟩
    · rintro a ha b hb rfl
      exact hdis .large .cache (by decide) a ha hb
    · rintro a ha b hb rfl
      rcases List.mem_append.mp hb with hb | hb
      · exact hdis .user .large (by decide) a ha hb
      · exact hdis .user .cache (by decide) a ha hb
  refine (List.perm_ext_iff_of_nodup hnodup h.nodup).mpr fun a => ?_
  rw [h.mem a, List.mem_append, List.mem_append]
  constructor
  · rintro (ha | ha | ha)
    · exact .inl ⟨.user, ha⟩
    · exact .inl ⟨.large, ha⟩
    · exact .inl ⟨.cache, ha⟩
  · rintro (⟨k, ha⟩ | hnone)
    · cases k with
      | user => exact .inl ha
      | large => exact .inr (.inl ha)
      | cache => exact .inr (.inr ha)
    · exact absurd hnone (by simp)

/-- Registration passes over the slabs that exist. -/
theorem AllocatorOk.slabLists (h : AllocatorOk cfg s L none) :
    (s.slabLists.flatten.map SlabDesc.mapping).Perm s.mappings ∧
      ∀ d ∈ s.slabLists.flatten, 0 < d.size := by
  have hflat : s.slabLists.flatten = (L .user ++ (L .large ++ L .cache)).map s.desc := by
    simp only [Allocator.slabLists, h.listed.slabs, List.flatten_cons, List.flatten_nil,
      List.append_nil, List.map_append]
  rw [hflat]
  constructor
  · rw [List.map_map]
    exact h.listed.perm.map _
  · intro d hd
    obtain ⟨a, ha, rfl⟩ := List.mem_map.mp hd
    exact (h.placed.slab a (h.listed.perm.mem_iff.mp ha)).range.size_pos

theorem MirrorsSlabs.openProcess (h : MirrorsSlabs n s) : MirrorsSlabs n s.openProcess := by
  unfold Allocator.openProcess
  split
  · exact h
  · next hseen =>
    intro hok
    have heq : s.vfio.initProcess = { s.vfio with pidSeen := true, space := IovaSpace.fresh } :=
      if_neg hseen
    rw [heq] at hok ⊢
    exact (h hok).congr rfl rfl rfl rfl (.refl _)

theorem MirrorsSlabs.base (h : MirrorsSlabs n s) (e : UsdmEvent) : MirrorsSlabs n (e.base s) := by
  unfold UsdmEvent.base
  split
  · split
    · exact h.openProcess
    · exact h
  · split
    · exact h
    · exact h.openProcess
  all_goals exact h

/-- The number of registrations: calls that returned 0, less the unregistrations that did. -/
def noteDevices (s : Allocator) (e : UsdmEvent) (_ : Allocator) (n : Int) : Int :=
  match e with
  | .register fd info mapOk => if (s.registerDevice fd info mapOk).1 = 0 then n + 1 else n
  | .unregister fd unmapOk => if (s.unregisterDevice fd unmapOk).1 = 0 then n - 1 else n
  | _ => n

/-- The allocator with the number of registrations. -/
def usdmDevices (cfg : Config) : System (Allocator × Int) UsdmEvent :=
  (usdm cfg).observe 0 noteDevices

/-- **Every call keeps the container in step with the slabs.** -/
theorem MirrorsSlabs.step {e : UsdmEvent} (h : MirrorsSlabs n s) (hok : AllocatorOk cfg s L none)
    (hstep : s.step cfg e = some s') : MirrorsSlabs (noteDevices s e s' n) s' := by
  have hslabs (he : e.OnSlabs) : MirrorsSlabs n s' :=
    (hok.becomes hstep he).1.invariant (fun _ _ hmove hs => hs.move hmove) (h.base e)
  cases e with
  | alloc | free | destroy => exact hslabs trivial
  | register fd info mapOk =>
    cases hstep
    cases info with
    | none => exact h
    | some caps =>
      have hused : MirrorsSlabs n { s with
          vfio := s.vfio.setUsed (filterDmaRanges s.vfio.space.iovaUsed caps) } :=
        fun hdone => (h hdone).setUsed _
      obtain ⟨L', hok'⟩ := (hok.setVfio
        (v := s.vfio.setUsed (filterDmaRanges s.vfio.space.iovaUsed caps)) hok.placed.next
        id).openProcess
      exact Mirrors.register hused.openProcess hok'.slabLists.1 hok'.slabLists.2
  | unregister fd unmapOk =>
    cases hstep
    exact Mirrors.unregister h hok.slabLists.1

/-- The mappings of the VFIO containers: with `n` registrations of devices, those of the slabs, each
    once, in the container of the devices; none in any other container, and none at all without a
    registration. -/
structure ContainerExact (n : Int) (s : Allocator) : Prop where
  registered : 0 < n → ∃ fd, s.vfio.containerFd = some fd ∧
    (s.vfio.containers fd).Perm s.mappings ∧ (s.vfio.containers fd).Nodup ∧
    ∀ fd', fd' ≠ fd → s.vfio.containers fd' = []
  unregistered : n ≤ 0 → ∀ fd, s.vfio.containers fd = []

/-- **In every run in which no map or unmap request is refused, the container has exactly the
    mappings of the slabs while a device is registered, and is empty after the last one.** -/
theorem container_exact (h : (usdmDevices cfg).Reachable (s, n)) (hok : s.vfio.ioctlFailed = false) :
    ContainerExact n s := by
  obtain ⟨-, hmirrors⟩ : (∃ L, AllocatorOk cfg s L none) ∧ MirrorsSlabs n s := by
    refine h.invariant (fun o => (∃ L, AllocatorOk cfg o.1 L none) ∧ MirrorsSlabs o.2 o.1) ?_ ?_
    · rintro ⟨s, n⟩ ⟨rfl, rfl⟩
      refine ⟨⟨_, AllocatorOk.start cfg⟩, fun _ => ?_⟩
      exact ⟨fun fd hsome => absurd hsome (by simp [start, Vfio.start]), fun _ _ => rfl,
        rfl, by simp [start, Vfio.start], by simp [start, Vfio.start]⟩
    · rintro ⟨s, n⟩ e ⟨s', n'⟩ ⟨⟨L, hbooks⟩, hmirrors⟩ - hstep
      obtain ⟨t, ht, heq⟩ := Option.map_eq_some_iff.mp hstep
      obtain ⟨rfl, rfl⟩ := Prod.mk.inj heq
      exact ⟨hbooks.step ht, hmirrors.step hbooks ht⟩
  obtain ⟨hmapped, hothers, -, hreg, -⟩ := hmirrors hok
  constructor
  · intro hpos
    obtain ⟨fd, hfd⟩ := Option.ne_none_iff_exists'.mp (hreg.mp hpos)
    obtain ⟨hperm, hsep⟩ := hmapped fd hfd
    refine ⟨fd, hfd, hperm, hsep.nodup, fun fd' hne => hothers fd' ?_⟩
    rw [hfd]
    exact fun heq => hne (Option.some.inj heq).symm
  · intro hzero fd
    refine hothers fd fun hsome => ?_
    have hpos := hreg.mpr (by rw [hsome]; simp)
    omega

end Runs

/-- A small slab before the device is registered and a large one after it. -/
def sampleDevice : List UsdmEvent :=
  [sampleRequest 1024 2097152 true, .register 3 (some []) fun _ => true,
    sampleRequest 4194304 8388608 true]

/-- Both slabs are mapped; when the device is unregistered, they are still there and nothing is
    mapped. -/
theorem container_exact_two_slabs :
    ∃ s s', (usdmDevices .driver).exec (.start, 0) sampleDevice = some (s, 1) ∧
      s.vfio.ioctlFailed = false ∧ s.mappings =
        [⟨10485760, 4194304, 4194304⟩, ⟨2097152, 2097152, 2097152⟩] ∧ ContainerExact 1 s ∧
      (usdmDevices .driver).exec (.start, 0) (sampleDevice ++ [.unregister 3 fun _ => true]) =
        some (s', 0) ∧
      s'.vfio.ioctlFailed = false ∧ s'.existing.length = 2 ∧ ContainerExact 0 s' := by
  have hrun : ((usdmDevices .driver).exec (.start, 0) sampleDevice).any fun o =>
      o.2 = 1 ∧ o.1.vfio.ioctlFailed = false ∧
      o.1.mappings = [⟨10485760, 4194304, 4194304⟩, ⟨2097152, 2097152, 2097152⟩] := by decide +kernel
  have hrun' : ((usdmDevices .driver).exec (.start, 0)
      (sampleDevice ++ [.unregister 3 fun _ => true])).any fun o =>
      o.2 = 0 ∧ o.1.vfio.ioctlFailed = false ∧ o.1.existing.length = 2 := by decide +kernel
  obtain ⟨⟨s, n⟩, hs, rfl, hok, hmapped⟩ := System.exists_exec hrun
  obtain ⟨⟨s', n'⟩, hs', rfl, hok', hlength⟩ := System.exists_exec hrun'
  have hinit : (usdmDevices .driver).Init (.start, 0) := ⟨rfl, rfl⟩
  have hreach := System.reachable_of_exec _ _ hinit hs
  have hreach' := System.reachable_of_exec _ _ hinit hs'
  exact ⟨s, s', hs, hok, hmapped, container_exact hreach hok, hs', hok', hlength,
    container_exact hreach' hok'⟩

end Qatlib.Usdm
