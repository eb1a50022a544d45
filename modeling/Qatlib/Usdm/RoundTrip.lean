import Qatlib.Usdm.HashLookup

set_option autoImplicit false

/-! # Address translation

`qaeVirtToPhysNUMA` reads the page table and `qaePhysToVirtNUMA` walks the user list. The second
returns what the first was given for the blocks of small slabs; a large allocation is on a list that
it does not walk, and for its addresses it returns no address at all.

The way back takes the first slab whose IOVA range has the address, so the ranges must not overlap.
They do not as long as the bitmap marks what the slabs cover, which a creation without a free range
can break: it releases the lowest IOVA slabs, whoever has them. -/

namespace Qatlib.Usdm

/-! ## The IOVA ranges of the slabs -/

/-- The IOVA range of a slab. -/
def Allocator.range (s : Allocator) (a : Nat) : IovaRange := ⟨(s.info a).phyAddr, (s.info a).size⟩

/-- The slabs have IOVA ranges of their own, and the bitmap knows. -/
structure Marked (s : Allocator) : Prop where
  disjoint : ∀ a ∈ s.existing, ∀ b ∈ s.existing, a ≠ b → (s.range a).Disjoint (s.range b)
  marked : ∀ a ∈ s.existing, ∀ k, (s.range a).Covers k → s.vfio.space.iovaUsed.bit k = true

/-- If it finds no range, the creation releases no IOVA slab that a slab covers. -/
def Creation.ReleasesFree (c : Creation) : Prop :=
  c.Exhausted → ∀ k < slabCount (roundUp c.size 4096), ∀ a ∈ c.before.existing,
    ¬(c.before.range a).Covers k

/-- The levels of the page table are mapped, and a large creation that finds no range releases no
    IOVA slab that a slab covers. -/
def UsdmEvent.Translates (s : Allocator) : UsdmEvent → Prop
  | .alloc size _ alignment env => (∀ i n, env.levelOk i n = true) ∧
      (largeRequest size alignment = true →
        (largeCreation s.openProcess env (max size alignment) alignment).ReleasesFree)
  | _ => True

variable {a b p x : Nat} {v : Vfio}

section Ranges

variable {cfg : Config} {s s' : Allocator} {L : ListKind → List Nat}

theorem Marked.of_empty (h : s.existing = []) : Marked s := by
  have hnone (a : Nat) : a ∉ s.existing := h ▸ List.not_mem_nil
  exact ⟨fun a ha => absurd ha (hnone a), fun a ha => absurd ha (hnone a)⟩

/-- The slabs stay and no mark of theirs is lost. -/
theorem Marked.congr (h : Marked s) (hex : ∀ a ∈ s'.existing, a ∈ s.existing)
    (hrange : ∀ a ∈ s'.existing, s'.range a = s.range a)
    (hbits : ∀ a ∈ s'.existing, ∀ k, (s.range a).Covers k →
      s.vfio.space.iovaUsed.bit k = true → s'.vfio.space.iovaUsed.bit k = true) : Marked s' := by
  constructor
  · intro a ha b hb hne
    rw [hrange a ha, hrange b hb]
    exact h.disjoint a (hex a ha) b (hex b hb) hne
  · intro a ha k hk
    rw [hrange a ha] at hk
    exact hbits a ha k hk (h.marked a (hex a ha) k hk)

/-- A small creation releases the first IOVA slab at most, which is never handed out. -/
theorem Creation.releasesFree_small {c : Creation} (hplaced : Placed c.before) (hvalid : c.Valid)
    (hsmall : c.type = .small) : c.ReleasesFree := by
  intro _ k hk a ha hcover
  rw [hvalid.small hsmall, show slabCount (roundUp 2097152 4096) = 1 by decide] at hk
  have hfirst : 2097152 ≤ (c.before.info a).phyAddr := (hplaced.slab a ha).range.first
  have hlo : (c.before.info a).phyAddr / 2097152 ≤ k := hcover.1
  omega

/-- A new slab on IOVAs that were free. -/
theorem Marked.withSlab (h : Marked s) {d : SlabDesc} (hnew : d.addr ∉ s.existing)
    (htakes : s.vfio.space.Takes v.space d.range) : Marked (s.withSlab v d) := by
  have hself : (s.withSlab v d).range d.addr = d.range := by
    rw [Allocator.range, s.withSlab_info_self]
    rfl
  have hold : ∀ b ∈ s.existing, (s.withSlab v d).range b = s.range b := by
    intro b hb
    rw [Allocator.range, s.withSlab_info v d (fun heq => hnew (heq ▸ hb))]
    rfl
  -- the range was free, so the slabs that are there do not cover it
  have hapart : ∀ b ∈ s.existing, (s.range b).Disjoint d.range := by
    rintro b hb k ⟨hk, hk'⟩
    have hbit := h.marked b hb k hk
    rw [htakes.free k hk'] at hbit
    exact absurd hbit (by simp)
  constructor
  · intro b hb b' hb' hne
    rcases List.mem_cons.mp hb with rfl | hb
    · rcases List.mem_cons.mp hb' with rfl | hb'
      · exact absurd rfl hne
      · rw [hself, hold b' hb']
        exact fun k hk => hapart b' hb' k hk.symm
    · rcases List.mem_cons.mp hb' with rfl | hb'
      · rw [hself, hold b hb]
        exact hapart b hb
      · rw [hold b hb, hold b' hb']
        exact h.disjoint b hb b' hb' hne
  · intro b hb k hk
    rcases List.mem_cons.mp hb with rfl | hb
    · rw [hself] at hk
      exact (htakes.bits k).mpr (.inl hk)
    · rw [hold b hb] at hk
      exact (htakes.bits k).mpr (.inr (h.marked b hb k hk))

theorem Marked.move {C : Creation → Prop}
    (hC : ∀ c, C c → Placed c.before → c.Valid → c.ReleasesFree)
    (h : Marked s) (hmove : Move C s s') : Marked s' := by
  cases hmove with
  | touch htouch =>
    refine h.congr (fun a ha => htouch.existing ▸ ha) (fun a _ => ?_) fun a _ k _ hbit => ?_
    · rw [Allocator.range, (htouch.geometry a).phyAddr, (htouch.geometry a).size]
      rfl
    · rw [htouch.vfio]
      exact hbit
  | @free _ a unmapOk hplaced hnodup ha =>
    obtain ⟨-, -, hbits⟩ :=
      ioctlFreeSlab_space s.vfio unmapOk (d := s.desc a) (hplaced.slab a ha).range
    refine h.congr (fun b hb => List.mem_of_mem_erase hb) (fun _ _ => rfl) fun b hb k hk hbit => ?_
    obtain ⟨hne, hb⟩ := hnodup.mem_erase_iff.mp hb
    exact (hbits k).mpr ⟨fun hcover => h.disjoint b hb a ha hne k ⟨hk, hcover⟩, hbit⟩
  | fail c hplaced hvalid hc hnone =>
    obtain ⟨-, hres, hbits⟩ := Creation.failed hplaced hvalid hnone
    rw [hres]
    refine h.congr (fun a ha => ha) (fun _ _ => rfl) fun a ha k hk hbit => ?_
    rcases hbits with hsame | ⟨hexh, hclear⟩
    · exact (hsame k).trans hbit
    · exact (hclear k).mpr ⟨fun hlt => hC c hc hplaced hvalid hexh k hlt a ha hk, hbit⟩
  | create c hplaced hvalid hc hsome =>
    obtain ⟨d, rfl, -, hres, hnew, -, -, htakes⟩ := Creation.succeeded hplaced hvalid hsome
    rw [hres]
    have hmarked := h.withSlab hnew htakes
    exact ⟨hmarked.disjoint, hmarked.marked⟩

theorem Marked.setSpace (h : Marked s) (hspace : v.space = s.vfio.space) :
    Marked { s with vfio := v } := by
  refine h.congr (fun _ ha => ha) (fun _ _ => rfl) fun _ _ k _ hbit => ?_
  rw [hspace]
  exact hbit

theorem Marked.openProcess (h : Marked s) (hok : AllocatorOk cfg s L none) :
    Marked s.openProcess := by
  unfold Allocator.openProcess
  split
  · exact h
  · next hseen => exact Marked.of_empty (hok.placed.fresh (by simpa using hseen))

theorem Marked.step {e : UsdmEvent} (h : Marked s) (hok : AllocatorOk cfg s L none)
    (he : e.Translates s) (hstep : s.step cfg e = some s') : Marked s' := by
  have hC : ∀ c, e.Creates s c → Placed c.before → c.Valid → c.ReleasesFree := by
    cases e with
    | alloc size node alignment env =>
      intro c hc hplaced hvalid
      rcases hc.2 with hsmall | ⟨hlarge, rfl⟩
      · exact c.releasesFree_small hplaced hvalid hsmall
      · exact he.2 hlarge
    | _ => exact fun c hc => absurd hc id
  refine hok.call_invariant h hstep (fun _ _ hok hs => hs.openProcess hok)
    (fun _ _ hmove hs => Marked.move hC hs hmove) ?_ (fun caps => ?_) ?_ fun fd unmapOk => ?_
  · rintro unmapOk rfl
    obtain rfl := Option.some.inj hstep
    exact Marked.of_empty (hok.memDestroy unmapOk fun _ => False).2.1
  · exact h.congr (fun _ ha => ha) (fun _ _ => rfl) fun _ _ k _ hbit =>
      (bit_filterDmaRanges s.vfio.space.iovaUsed caps k).mpr (.inr hbit)
  · rintro s L fd mapOk - h
    exact h.setSpace (s.vfio.register_space fd mapOk s.slabLists).1
  · exact h.setSpace (s.vfio.unregister_space fd unmapOk s.slabLists).1

end Ranges

/-! ## Translation and back -/

/-- An address of a block that is in use. -/
def Allocator.InBlock (s : Allocator) (a p : Nat) : Prop :=
  a ∈ s.existing ∧ match (s.info a).type with
    | .small => ∃ f ∈ s.live a, a + f * 1024 ≤ p ∧ p < a + (f + (s.ctrl a).sizes f) * 1024
    | .large => (s.info a).virtAddr ≤ p ∧ p < (s.info a).virtAddr + (s.info a).size

section Translation

variable {cfg : Config} {s : Allocator} {L : ListKind → List Nat}

theorem IovaRange.Valid.covers {r : IovaRange} (h : r.Valid) (hlo : r.iova ≤ x)
    (hhi : x < r.iova + r.size) : r.Covers (x / 2097152) := by
  have haligned := h.aligned
  unfold IovaRange.Covers slabCount
  omega

/-- An IOVA is in the range of one slab. -/
theorem Marked.unique (h : Marked s) (hplaced : Placed s) (ha : a ∈ s.existing)
    (hb : b ∈ s.existing) (hax : (s.info a).phyAddr ≤ x)
    (hax' : x < (s.info a).phyAddr + (s.info a).size) (hbx : (s.info b).phyAddr ≤ x)
    (hbx' : x < (s.info b).phyAddr + (s.info b).size) : b = a := by
  by_contra hne
  refine h.disjoint b hb a ha hne (x / 2097152) ⟨?_, ?_⟩
  · exact (hplaced.slab b hb).range.covers hbx hbx'
  · exact (hplaced.slab a ha).range.covers hax hax'

section

variable (h : AllocatorOk cfg s L none)
include h

/-- A block in use is on the user list, inside its slab. -/
theorem AllocatorOk.inBlock (hin : s.InBlock a p) :
    (s.info a).virtAddr ≤ p ∧ p < (s.info a).virtAddr + (s.info a).size ∧
      (a ∈ L .user ↔ (s.info a).type = .small) := by
  obtain ⟨ha, hin⟩ := hin
  obtain ⟨k, hk⟩ | hnone := (h.listed.mem a).mp ha
  swap
  · exact absurd hnone (by simp)
  have hlist := h.counted.slab k a hk
  cases k with
  | user =>
    obtain ⟨htype, hok, -⟩ := hlist
    obtain ⟨hvirt, hsize⟩ := (h.placed.slab a ha).small htype
    rw [htype] at hin
    obtain ⟨f, hf, hlo, hhi⟩ := hin
    obtain ⟨-, hend⟩ := hok.inside f hf
    exact ⟨by omega, by omega, fun _ => htype, fun _ => hk⟩
  | large =>
    obtain ⟨htype, -⟩ := hlist
    rw [htype] at hin
    refine ⟨hin.1, hin.2, fun huser => (h.counted.slab .user a huser).1, fun hsmall => ?_⟩
    rw [htype] at hsmall
    exact absurd hsmall (by decide)
  | cache =>
    obtain ⟨htype, -, hlive, -⟩ := hlist
    rw [htype, hlive] at hin
    obtain ⟨f, hf, -⟩ := hin
    exact absurd hf List.not_mem_nil

/-- The slabs of the user list that have the IOVA of an address. -/
theorem AllocatorOk.physToVirt_iff (hmarked : Marked s) (ha : a ∈ s.existing)
    (hb : b ∈ s.existing) (hax : (s.info a).phyAddr ≤ x)
    (hax' : x < (s.info a).phyAddr + (s.info a).size) :
    decide (subWrap x (s.info b).phyAddr < (s.info b).size) = true ↔ b = a := by
  have hinside : ∀ b ∈ s.existing, (s.info b).phyAddr + (s.info b).size ≤ 144115188075855872 := by
    intro b hb
    exact Nat.le_trans (h.placed.slab b hb).range.inside (by decide)
  have hx : x < 18446744073709551616 :=
    Nat.lt_trans (Nat.lt_of_lt_of_le hax' (hinside a ha)) (by decide)
  rw [decide_eq_true_iff, subWrap_lt_iff hx (hinside b hb)]
  constructor
  · rintro ⟨hbx, hbx'⟩
    exact hmarked.unique h.placed ha hb hax hax' hbx hbx'
  · rintro rfl
    exact ⟨hax, hax'⟩

theorem AllocatorOk.roundTrip (hstored : Stored s) (hmarked : Marked s) (hin : s.InBlock a p) :
    s.physToVirt (s.virtToPhys p) = if (s.info a).type = .small then some p else none := by
  obtain ⟨hlo, hhi, huser⟩ := h.inBlock hin
  obtain ⟨ha, -⟩ := hin
  have hplaced := h.placed.slab a ha
  have hphys : s.virtToPhys p = (s.info a).phyAddr + (p - (s.info a).virtAddr) :=
    (hstored a ha).loadAddr hplaced.aligned hplaced.range.page hlo hhi
  have hiff := fun b (hb : b ∈ L .user) => h.physToVirt_iff hmarked (x := s.virtToPhys p) ha
    (h.listed.mem_of_list hb) (by omega) (by omega)
  rw [Allocator.physToVirt, h.listed.slabs .user]
  split
  · next hsmall =>
    have hau := huser.mpr hsmall
    have hfind := find?_unique hau ((hiff a hau).mpr rfl) fun b hb hb' => (hiff b hb).mp hb'
    have hback : subWrap (s.virtToPhys p) (s.info a).phyAddr = p - (s.info a).virtAddr := by
      rw [hphys]
      refine subWrap_add (Nat.lt_of_lt_of_le (m := 549755813888 + 144115188075855872) ?_ (by decide))
      have hend := hplaced.range.inside
      have hinside := hplaced.inside
      simp only at hend
      omega
    simp only [hfind, Option.map_some, hback]
    rw [Nat.add_sub_cancel' hlo]
  · next hlarge =>
    -- the slab is not on the list, and no other slab has the IOVA
    have hnone : (L .user).find? (fun b =>
        decide (subWrap (s.virtToPhys p) (s.info b).phyAddr < (s.info b).size)) = none := by
      refine List.find?_eq_none.mpr fun b hb hsub => hlarge (huser.mp ?_)
      rw [← (hiff b hb).mp hsub]
      exact hb
    simp only [hnone, Option.map_none]

end

/-- **Translation and back**, in every run in which the levels of the page table are mapped and large
    creations without a free range release no IOVA of a slab: the address itself in a small slab, and
    nothing in a large one. -/
theorem phys_virt_round_trip (h : (usdm cfg).ReachableBy (fun s e => e.Translates s) s) {a p : Nat}
    (hin : s.InBlock a p) :
    s.physToVirt (s.virtToPhys p) = if (s.info a).type = .small then some p else none := by
  obtain ⟨⟨L, hok⟩, hstored, hmarked⟩ : (∃ L, AllocatorOk cfg s L none) ∧ Stored s ∧ Marked s := by
    refine h.invariant (fun s => (∃ L, AllocatorOk cfg s L none) ∧ Stored s ∧ Marked s) ?_ ?_
    · rintro s rfl
      exact ⟨⟨_, AllocatorOk.start cfg⟩, fun a ha => absurd ha List.not_mem_nil,
        Marked.of_empty rfl⟩
    · rintro s e s' ⟨⟨L, hok⟩, hstored, hmarked⟩ he hstep
      have hlevels : e.LevelsOk := by
        cases e with
        | alloc size node alignment env => exact he.1
        | _ => trivial
      exact ⟨hok.step hstep, hstored.step hok hlevels hstep, hmarked.step hok he hstep⟩
  exact hok.roundTrip hstored hmarked hin

end Translation

/-- The block that is left in the small slab. -/
theorem phys_virt_round_trip_two_slabs :
    ∃ s, (usdm .driver).exec .start sampleCalls = some s ∧
      (usdm .driver).ReachableBy (fun s e => e.Translates s) s ∧
      s.existing = [8388608, 2097152] ∧ s.InBlock 2097152 2103296 ∧
      s.physToVirt (s.virtToPhys 2103296) = some 2103296 := by
  have hfound : ((usdm .driver).exec .start (sampleCalls.take 2)).any fun s =>
      (allocateIova s.openProcess.vfio.space (roundUp 4194304 4096) 1024).1 ≠ 0 := by decide +kernel
  have hrun : ((usdm .driver).exec .start sampleCalls).any fun s =>
      s.existing = [8388608, 2097152] ∧ s.live 2097152 = [6] ∧
      (s.info 2097152).type = .small ∧ (s.ctrl 2097152).sizes 6 = 1 := by decide +kernel
  obtain ⟨s, hs, hex, hlive, htype, hsize⟩ := System.exists_exec hrun
  have hreach : (usdm .driver).ReachableBy (fun s e => e.Translates s) s := by
    obtain ⟨s₂, hs₂, hfound⟩ := System.exists_exec hfound
    have hsplit := System.exec_append (S := usdm .driver) .start (sampleCalls.take 2)
      (sampleCalls.drop 2)
    rw [hs₂, Option.bind_some] at hsplit
    obtain ⟨s₃, hlarge, hrest⟩ := Option.bind_eq_some_iff.mp (hsplit.symm.trans hs)
    obtain ⟨_, hfree, ⟨⟩⟩ := Option.bind_eq_some_iff.mp hrest
    -- the two requests for a small block ask nothing of the IOVA space, and there is room for the
    -- large slab
    have hsmall : ∀ e ∈ sampleCalls.take 2, ∀ s, e.Translates s := by
      simp [sampleCalls, sampleRequest, UsdmEvent.Translates,
        show largeRequest 1024 1024 = false by decide]
    have hroom : (sampleRequest 4194304 8388608 true).Translates s₂ :=
      ⟨fun _ _ => rfl, fun _ hexh => absurd hexh.2 hfound⟩
    exact ⟨_, rfl, ((System.run_of_exec_forall hsmall hs₂).step hroom hlarge).step
      (e := .free 2102272 true) trivial hfree⟩
  have hblock : s.InBlock 2097152 2103296 := by
    refine ⟨by simp [hex], ?_⟩
    rw [htype]
    exact ⟨6, by simp [hlive], by decide, by rw [hsize]; decide⟩
  refine ⟨s, hs, hreach, hex, hblock, ?_⟩
  rw [phys_virt_round_trip hreach hblock, htype]
  rfl

/-- A large allocation has no way back: its slab is not on the list that is walked. -/
theorem large_block_not_translated :
    ∃ s, (usdm .driver).Reachable s ∧ s.InBlock 4096 2097152 ∧ ∀ phys, s.physToVirt phys = none := by
  have hreach : (usdm .driver).Reachable (Allocator.start.memAllocNUMA .driver
      ⟨⟨some 4096, some 2097152, true⟩, fun _ _ => true, true, true⟩ 4194304 0 4096).2 :=
    ⟨_, rfl, .head (e := .alloc 4194304 0 4096
      ⟨⟨some 4096, some 2097152, true⟩, fun _ _ => true, true, true⟩) trivial rfl (.refl _)⟩
  refine ⟨_, hreach, ⟨by decide +kernel, ?_⟩, fun phys => ?_⟩
  · rw [show ((Allocator.start.memAllocNUMA .driver ⟨⟨some 4096, some 2097152, true⟩,
      fun _ _ => true, true, true⟩ 4194304 0 4096).2.info 4096).type = .large by decide +kernel]
    exact ⟨by decide +kernel, by decide +kernel⟩
  · rw [Allocator.physToVirt, show (Allocator.start.memAllocNUMA .driver
      ⟨⟨some 4096, some 2097152, true⟩, fun _ _ => true, true, true⟩ 4194304 0 4096).2.slabs .user =
      [] by decide +kernel]
    rfl

end Qatlib.Usdm
