import Qatlib.Usdm.Accounting

set_option autoImplicit false

/-! # Calls keep the books

`qaeMemAllocNUMA`, `qaeMemFreeNUMA` and the other entry points keep the allocator's invariant, and
each is a sequence of moves. Every function of the allocator has one lemma that says both. -/

namespace Qatlib.Usdm

open Function

/-! ## Changes to one slab -/

/-- The linked lists and the size of the cache are as they were. -/
structure Allocator.SameLists (s s' : Allocator) : Prop where
  user : s'.user = s.user
  lists : s'.lists = s.lists
  hash : s'.hash = s.hash
  slabList : s'.slabList = s.slabList
  cacheSize : s'.cacheSize = s.cacheSize

variable {a b size alignment : Nat} {k : ListKind} {C : Creation → Prop} {c : BlockCtrl}
  {d : Option Nat} {s' : Allocator} {e : UsdmEvent}

section Change

variable {cfg : Config} {s s' : Allocator} {L : ListKind → List Nat} {d : Option Nat} {a : Nat}

theorem Listed.touch (h : Listed s L d) (htouch : s.Touches s') (hlists : s.SameLists s') :
    Listed s' L d :=
  h.congr hlists.user hlists.lists hlists.hash hlists.slabList htouch.existing
    fun b _ => (htouch.geometry b).phyAddr

theorem AllocatorOk.touch (h : AllocatorOk cfg s L d) (htouch : s.Touches s')
    (hlists : s.SameLists s') (hother : ∀ b, b ≠ a → s.SameAt s' b)
    (hin : ∀ k, a ∈ L k → s'.InList a k) (hspare : ∀ b, d = some b → s'.Spare b) :
    AllocatorOk cfg s' L d := by
  refine ⟨h.listed.touch htouch hlists, ?_, h.placed.touch htouch⟩
  refine h.counted.change a hother (fun _ _ _ hb => hb) hin hspare
    (h.counted.sum_congr htouch.geometry rfl hlists.cacheSize) ?_
  rw [hlists.cacheSize]
  exact h.counted.cacheMax

/-- The held slab goes on a list other than the cache. -/
theorem AllocatorOk.place (h : AllocatorOk cfg s L (some a)) (hk : k ≠ .cache)
    (hlisted : Listed s' (update L k (a :: L k)) none) (htouch : s.Touches s')
    (hother : ∀ b, b ≠ a → s.SameAt s' b) (hsize : s'.cacheSize = s.cacheSize)
    (hin : s'.InList a k) : AllocatorOk cfg s' (update L k (a :: L k)) none := by
  refine ⟨hlisted, ?_, h.placed.touch htouch⟩
  refine h.counted.change a hother (fun k' b hne hb => ?_) (fun k' hb => ?_) (by simp)
    (h.counted.sum_congr htouch.geometry (update_of_ne hk.symm _ _) hsize) ?_
  · exact (mem_update_cons.mp hb).resolve_left fun heq => hne heq.2
  · obtain ⟨rfl, -⟩ := (mem_update_cons.mp hb).resolve_right (h.listed.detached a rfl k')
    exact hin
  · rw [hsize]
    exact h.counted.cacheMax

/-- The number of blocks in use fits the counter. -/
theorem SlabOk.length_le {ctrl : BlockCtrl} {live : List Nat} (h : SlabOk ctrl live) :
    live.length ≤ 2048 := by
  have hsub : live ⊆ List.range 2048 := fun f hf => List.mem_range.mpr (h.first_lt hf)
  have hle := (h.nodup.subperm hsub).length_le
  rwa [List.length_range] at hle

end Change

/-! ## Taking and giving back blocks -/

open Allocator

section Blocks

variable {cfg : Config} {s : Allocator} {L : ListKind → List Nat} {a : Nat}

/-- The control blocks after a change of one of them. -/
def Allocator.setCtrl (s : Allocator) (a : Nat) (c : BlockCtrl) : Allocator :=
  { s with ctrl := update s.ctrl a c }

namespace Allocator

variable (s : Allocator)

theorem setCtrl_touches (a : Nat) (c : BlockCtrl) : s.Touches (s.setCtrl a c) :=
  ⟨rfl, rfl, rfl, fun _ => .refl _⟩

theorem setCtrl_attach_touches (a : Nat) (c : BlockCtrl) :
    s.Touches ((s.setCtrl a c).attach .user a) :=
  ⟨rfl, rfl, rfl, fun _ => .refl _⟩

theorem setCount_sameAt (c : BlockCtrl) (count : Nat) (live : List Nat) (hne : b ≠ a) :
    s.SameAt ((s.setCtrl a c).setCount a count live) b :=
  ⟨update_of_ne hne _ _, update_of_ne hne _ _, update_of_ne hne _ _⟩

theorem setCount_self (a : Nat) (live : List Nat) (h : (s.info a).allocations < 4294967296) :
    s.setCount a (s.info a).allocations live =
      { s with live := update s.live a live } := by
  rw [setCount, Nat.mod_eq_of_lt h, update_eq_self]

end Allocator

theorem Allocator.inList_user {count : Nat} {live : List Nat} (hsmall : (s.info a).type = .small)
    (hok : SlabOk c live) (hne : live ≠ []) (hcount : count % 4294967296 = live.length) :
    ((s.setCtrl a c).setCount a count live).InList a .user := by
  have htype := (((s.setCtrl a c).setCount_touches a count live).geometry a).type
  refine ⟨htype.trans hsmall, ?_, ?_, ?_⟩
  · show SlabOk (update s.ctrl a c a) (update s.live a live a)
    rw [update_self, update_self]
    exact hok
  · rw [setCount_live]
    exact hne
  · rw [setCount_live, setCount_allocations]
    exact hcount

/-- The blocks of a slab in use change, with their number. -/
theorem AllocatorOk.setBlocks (h : AllocatorOk cfg s L none) (ha : a ∈ L .user) {live : List Nat}
    (hok : SlabOk c live) (hne : live ≠ []) {count : Nat}
    (hcount : count % 4294967296 = live.length) :
    AllocatorOk cfg ((s.setCtrl a c).setCount a count live) L none := by
  have htouch := (s.setCtrl_touches a c).trans ((s.setCtrl a c).setCount_touches a count live)
  obtain ⟨hsmall, -⟩ := h.counted.slab .user a ha
  refine h.touch (a := a) htouch ⟨rfl, rfl, rfl, rfl, rfl⟩
    (fun b hb => s.setCount_sameAt c count live hb) ?_ (by simp)
  intro k hk
  have huser : k = .user := by
    by_contra hne
    exact h.listed.lists.disjoint k .user hne a hk ha
  subst huser
  exact inList_user hsmall hok hne hcount

end Blocks

/-- Moves that lead to a state in which the books are kept. -/
def Allocator.Becomes (cfg : Config) (C : Creation → Prop) (s s' : Allocator) : Prop :=
  Moves C s s' ∧ ∃ L, AllocatorOk cfg s' L none

/-! ## Allocation -/

/-- A request that `div_round_up` rounds up without overflow, and of at least a byte. -/
structure SmallRequest (size : Nat) : Prop where
  pos : 0 < size
  noWrap : size + 1023 < 2 ^ 64

/-- The lookup finds nothing and changes nothing, or it takes a block in a slab it visits. -/
theorem lookupBySize_cases (cfg : Config) (info : Nat → DevMemInfo) (hsize : SmallRequest size)
    (node : Int) (align linkNum : Nat) (slabs : List Nat) (ctrl : Nat → BlockCtrl) :
    lookupBySize cfg info size node align linkNum slabs ctrl = (none, ctrl) ∨
      ∃ a ∈ slabs, ∃ first c, memAlloc (ctrl a) size align = (some first, c) ∧
        lookupBySize cfg info size node align linkNum slabs ctrl =
          (some (a, first), update ctrl a c) := by
  induction slabs generalizing linkNum with
  | nil => exact .inl rfl
  | cons a rest ih =>
    have hrest : ∀ n, lookupBySize cfg info size node align n rest ctrl = (none, ctrl) ∨
        ∃ b ∈ a :: rest, ∃ first c, memAlloc (ctrl b) size align = (some first, c) ∧
          lookupBySize cfg info size node align n rest ctrl =
            (some (b, first), update ctrl b c) := by
      intro n
      rcases ih n with hnone | ⟨b, hb, hfound⟩
      · exact .inl hnone
      · exact .inr ⟨b, List.mem_cons_of_mem a hb, hfound⟩
    rw [lookupBySize]
    split
    · exact hrest linkNum
    · rcases @memAlloc_cases (ctrl a) size align hsize.pos hsize.noWrap with
        heq | ⟨first, required, -, -, -, -, heq⟩
      · -- no block here: the control block is as it was
        have hsame : update ctrl a (ctrl a) = ctrl := update_eq_self a ctrl
        simp only [heq, hsame]
        split
        · exact .inl rfl
        · exact hrest (linkNum + 1)
      · simp only [heq]
        exact .inr ⟨a, List.mem_cons_self, first, _, heq, rfl⟩

section Allocation

variable {cfg : Config} {s : Allocator} {L : ListKind → List Nat} {a : Nat}

theorem subWrap_add {x y : Nat} (h : x + y < 18446744073709551616) : subWrap (x + y) x = y := by
  unfold subWrap
  omega

theorem AllocatorOk.popSlab (h : AllocatorOk cfg s L none) (node : Int) :
    s.popSlab cfg node = (none, s) ∨ ∃ a s', s.popSlab cfg node = (some a, s') ∧ s.Touches s' ∧
        AllocatorOk cfg s' (update L .cache ((L .cache).erase a)) (some a) ∧
        (s'.info a).type = .small ∧ (s'.info a).allocations = 0 := by
  rw [Allocator.popSlab]
  simp only
  cases hfind : (s.slabs .cache).find? (fun a =>
      !(decide (node ≠ -1) && cfg.strictNode && decide (node ≠ (s.info a).nodeId))) with
  | none => exact .inl rfl
  | some a =>
    have ha : a ∈ L .cache := by
      rw [← h.listed.slabs .cache]
      exact List.mem_of_find?_eq_some hfind
    obtain ⟨hsmall, hok, hlive, hcount⟩ := h.counted.slab .cache a ha
    have htouch : s.Touches { s.detach .cache a with
        cacheSize := subWrap s.cacheSize (s.info a).size } :=
      ⟨rfl, rfl, rfl, fun _ => .refl _⟩
    -- the sizes of the other cached slabs
    have hsum : s.cacheSize =
        (s.info a).size + (((L .cache).erase a).map fun b => (s.info b).size).sum := by
      rw [h.counted.cacheSize, ((List.perm_cons_erase ha).map _).sum_eq]
      rfl
    have hrest : subWrap s.cacheSize (s.info a).size =
        (((L .cache).erase a).map fun b => (s.info b).size).sum := by
      rw [hsum]
      refine subWrap_add ?_
      rw [← hsum]
      exact Nat.lt_of_le_of_lt h.counted.cacheMax (by have := cfg.noWrap; omega)
    have hlisted := h.listed.detach ha
    refine .inr ⟨a, _, rfl, htouch, ⟨?_, ?_, h.placed.touch htouch⟩, hsmall, hcount⟩
    · exact hlisted.congr rfl rfl rfl rfl rfl fun _ _ => rfl
    · refine h.counted.change a (fun b _ => ⟨rfl, rfl, rfl⟩) (fun k b hne hb => ?_)
        (fun k hin => absurd hin (hlisted.detached a rfl k)) (fun b hb => ?_) ?_ ?_
      · exact ((h.listed.lists.mem_update_erase ha).mp hb).2
      · cases hb
        exact ⟨hlive, fun _ => hok.blank⟩
      · rw [update_self]
        exact hrest
      · refine Nat.le_trans ?_ h.counted.cacheMax
        show subWrap s.cacheSize (s.info a).size ≤ s.cacheSize
        omega

namespace AllocatorOk

variable (h : AllocatorOk cfg s L (some a))
include h

/-- What initialising the held slab gives: no block, or its first block and a place on the user
    list. -/
theorem initSlabAndAlloc (hsmall : (s.info a).type = .small)
    (hsize : SmallRequest size) (align : Nat) :
    ∃ c, (s.initSlabAndAlloc a size align = (none, s.setCtrl a c) ∧
        AllocatorOk cfg (s.setCtrl a c) L (some a)) ∨
      ∃ first, s.initSlabAndAlloc a size align = (some first, (s.setCtrl a c).attach .user a) ∧
        Listed ((s.setCtrl a c).attach .user a) (update L .user (a :: L .user)) none ∧
        SlabOk c [first] := by
  have hspare := h.counted.spare a rfl
  have hblank := hspare.blank hsmall
  have hok := (SlabOk.init hblank.bits hblank.sizes).memAlloc align hsize.pos hsize.noWrap
  have htouch := s.setCtrl_touches a (Usdm.initSlabAndAlloc (s.ctrl a) size align).2
  rw [← Usdm.initSlabAndAlloc, List.append_nil] at hok
  refine ⟨(Usdm.initSlabAndAlloc (s.ctrl a) size align).2, ?_⟩
  rw [Allocator.initSlabAndAlloc]
  generalize Usdm.initSlabAndAlloc (s.ctrl a) size align = r at hok htouch
  obtain ⟨res, c⟩ := r
  cases res with
  | none =>
    refine .inl ⟨rfl, h.touch (a := a) htouch ⟨rfl, rfl, rfl, rfl, rfl⟩
      (fun b hne => ⟨rfl, update_of_ne hne _ _, rfl⟩)
      (fun k hin => absurd hin (h.listed.detached a rfl k)) fun b hb => ?_⟩
    cases hb
    refine ⟨hspare.live, fun _ => ?_⟩
    show Blank (update s.ctrl a c a)
    rw [update_self]
    exact SlabOk.blank hok
  | some first =>
    have hlisted : Listed (s.setCtrl a c) L (some a) :=
      h.listed.touch htouch ⟨rfl, rfl, rfl, rfl, rfl⟩
    exact .inr ⟨first, rfl, hlisted.attach .user, hok⟩

/-- The held slab with its first block on the user list. -/
theorem placeUser (hsmall : (s.info a).type = .small) {first count : Nat}
    (hlisted : Listed ((s.setCtrl a c).attach .user a) (update L .user (a :: L .user)) none)
    (hok : SlabOk c [first]) (hcount : count = 1) :
    AllocatorOk cfg (((s.setCtrl a c).attach .user a).setCount a count [first])
      (update L .user (a :: L .user)) none := by
  subst hcount
  have htouch : s.Touches (((s.setCtrl a c).attach .user a).setCount a 1 [first]) :=
    (s.setCtrl_attach_touches a c).trans
      (((s.setCtrl a c).attach .user a).setCount_touches a 1 [first])
  refine h.place (by decide) ?_ htouch (fun b hne => ⟨update_of_ne hne _ _,
    update_of_ne hne _ _, update_of_ne hne _ _⟩) rfl ?_
  · exact hlisted.touch (((s.setCtrl a c).attach .user a).setCount_touches a 1 [first])
      ⟨rfl, rfl, rfl, rfl, rfl⟩
  · exact inList_user hsmall hok (List.cons_ne_nil _ _) rfl

theorem freeSlab_pidSeen (unmapOk : Bool) :
    (s.freeSlab unmapOk a).vfio.pidSeen = s.vfio.pidSeen := by
  have ha : a ∈ s.existing := (h.listed.mem a).mpr (.inr rfl)
  obtain ⟨hdev, -⟩ := ioctlFreeSlab_space s.vfio unmapOk (d := s.desc a) (h.placed.slab a ha).range
  exact hdev.2.2.1

theorem move_free (unmapOk : Bool) : Move C s (s.freeSlab unmapOk a) :=
  .free unmapOk h.placed h.listed.nodup ((h.listed.mem a).mpr (.inr rfl))

end AllocatorOk

/-- What the search for a slab does: it finds none and no cached slab either, takes a block on the user
    list, or tries a cached slab. -/
theorem AllocatorOk.findSlab_cases (h : AllocatorOk cfg s L none) (unmapOk : Bool)
    (hsize : SmallRequest size) (node : Int) (align : Nat) :
    s.findSlab cfg unmapOk size node align = (none, s) ∨
      (∃ a ∈ L .user, ∃ first c, memAlloc (s.ctrl a) size align = (some first, c) ∧
        s.findSlab cfg unmapOk size node align = (some (a, first), s.setCtrl a c)) ∨
      ∃ a s', s.Touches s' ∧ AllocatorOk cfg s' (update L .cache ((L .cache).erase a)) (some a) ∧
        (s'.info a).type = .small ∧ (s'.info a).allocations = 0 ∧
        s.findSlab cfg unmapOk size node align =
          match (s'.initSlabAndAlloc a size align).1 with
          | some first => (some (a, first), (s'.initSlabAndAlloc a size align).2)
          | none => (none, (s'.initSlabAndAlloc a size align).2.freeSlab unmapOk a) := by
  rw [findSlab]
  simp only
  rcases lookupBySize_cases cfg s.info hsize node align 0 (s.slabs .user) s.ctrl with
    heq | ⟨a, ha, first, c, halloc, heq⟩
  · rw [heq]
    rcases h.popSlab node with hpop | ⟨a, s', hpop, htouch, h', hsmall, hcount⟩
    · rw [hpop]
      exact .inl rfl
    · rw [hpop]
      exact .inr (.inr ⟨a, s', htouch, h', hsmall, hcount, rfl⟩)
  · rw [heq]
    rw [h.listed.slabs .user] at ha
    exact .inr (.inl ⟨a, ha, first, c, halloc, rfl⟩)

theorem AllocatorOk.findSlab (h : AllocatorOk cfg s L none) (hsize : SmallRequest size)
    (unmapOk : Bool) (node : Int) (align : Nat) (C : Creation → Prop) :
    ∃ s', (s.findSlab cfg unmapOk size node align = (none, s') ∧ Moves C s s' ∧
        s'.vfio.pidSeen = s.vfio.pidSeen ∧ ∃ L', AllocatorOk cfg s' L' none) ∨
      ∃ a first, s.findSlab cfg unmapOk size node align = (some (a, first), s') ∧
        s.Becomes cfg C (s'.setCount a ((s'.info a).allocations + 1) (first :: s'.live a)) := by
  rcases h.findSlab_cases unmapOk hsize node align with
    heq | ⟨a, ha, first, c, halloc, heq⟩ | ⟨a, s₁, htouch, h₁, hsmall, hcount, heq⟩
  · -- nothing on the user list and nothing in the cache
    exact ⟨s, .inl ⟨heq, .refl, rfl, L, h⟩⟩
  · -- a block of a slab on the user list
    rw [heq]
    obtain ⟨-, hok, -, hcount⟩ := h.counted.slab .user a ha
    have hok' := hok.memAlloc align hsize.pos hsize.noWrap
    rw [halloc] at hok'
    refine ⟨_, .inr ⟨a, first, rfl, .single (.touch ?_), L, ?_⟩⟩
    · exact (s.setCtrl_touches a c).trans (setCount_touches _ _ _ _)
    · refine h.setBlocks ha hok' (by simp) ?_
      show ((s.info a).allocations + 1) % 4294967296 = (first :: s.live a).length
      have hlen := hok.length_le
      rw [hcount, List.length_cons]
      omega
  · -- a cached slab
    rw [heq]
    obtain ⟨c, ⟨hinit, h₂⟩ | ⟨first, hinit, hlisted, hok⟩⟩ := h₁.initSlabAndAlloc hsmall hsize align
    · rw [hinit]
      refine ⟨_, .inl ⟨rfl, ?_, ?_, _, h₂.freeSlab unmapOk⟩⟩
      · exact .tail (.single (.touch (htouch.trans (s₁.setCtrl_touches a c))))
          (h₂.move_free unmapOk)
      · exact (h₂.freeSlab_pidSeen unmapOk).trans (congrArg Vfio.pidSeen htouch.vfio)
    · rw [hinit]
      have hlive := (h₁.counted.spare a rfl).live
      have hplace := h₁.placeUser hsmall hlisted hok
        (show (s₁.info a).allocations + 1 = 1 by rw [hcount])
      rw [show [first] = first :: s₁.live a by rw [hlive]] at hplace
      refine ⟨_, .inr ⟨a, first, rfl, .single (.touch ?_), _, hplace⟩⟩
      exact (htouch.trans (s₁.setCtrl_attach_touches a c)).trans (setCount_touches _ _ _ _)

theorem AllocatorOk.setPageTable (h : AllocatorOk cfg s L d) (t : PageTable) :
    AllocatorOk cfg { s with pageTable := t } L d := by
  refine ⟨h.listed.congr rfl rfl rfl rfl rfl fun _ _ => rfl, ?_, ?_⟩
  · exact ⟨h.counted.slab, fun b hb => ⟨(h.counted.spare b hb).live, (h.counted.spare b hb).blank⟩,
      h.counted.cacheSize, h.counted.cacheMax⟩
  · exact ⟨h.placed.slab, h.placed.disjoint, h.placed.next, h.placed.fresh⟩

theorem AllocatorOk.setCount (h : AllocatorOk cfg s L (some a)) (count : Nat) :
    AllocatorOk cfg (s.setCount a count []) L (some a) := by
  have htouch := s.setCount_touches a count []
  refine h.touch (a := a) htouch ⟨rfl, rfl, rfl, rfl, rfl⟩
    (fun b hne => ⟨update_of_ne hne _ _, rfl, update_of_ne hne _ _⟩)
    (fun k hin => absurd hin (h.listed.detached a rfl k)) fun b hb => ?_
  cases hb
  refine ⟨s.setCount_live _ _ _, fun htype => (h.counted.spare a rfl).blank ?_⟩
  exact (htouch.geometry a).type.symm.trans htype

/-- The creation of a small slab in an allocation. -/
def smallCreation (s : Allocator) (env : AllocEnv) (alignment : Nat) : Creation :=
  ⟨s, env.slab, 2048 * 1024, alignment, .small, env.levelOk⟩

/-- The creation of a large slab in an allocation. -/
def largeCreation (s : Allocator) (env : AllocEnv) (size alignment : Nat) : Creation :=
  ⟨s, env.slab, divRoundUp size 1024 * 1024, alignment, .large, env.levelOk⟩

/-- A creation as a move, with its slab in the page table. -/
theorem AllocatorOk.creation {c : Creation} (h : AllocatorOk cfg c.before L none)
    (hpid : c.before.vfio.pidSeen = true) (hvalid : c.Valid) (hC : C c) :
    (∃ s', c.result = (none, s') ∧ Move C c.before s' ∧ AllocatorOk cfg s' L none) ∨
      ∃ a s' s₁, c.result = (some a, s') ∧ s'.storeSlab c.levelOk a = s₁ ∧ Move C c.before s₁ ∧
        AllocatorOk cfg s₁ L (some a) ∧ (s₁.info a).type = c.type := by
  rcases h.create hpid hvalid with ⟨hnone, h'⟩ | ⟨a, hsome, h', htype⟩
  · exact .inl ⟨c.result.2, Prod.ext hnone rfl, .fail c h.placed hvalid hC hnone, h'⟩
  · exact .inr ⟨a, c.result.2, _, Prod.ext hsome rfl, rfl, .create c h.placed hvalid hC hsome,
      h'.setPageTable _, htype⟩

section

variable (h : AllocatorOk cfg s L none) (hpid : s.vfio.pidSeen = true)
include h hpid

theorem AllocatorOk.createLarge (env : AllocEnv)
    (hvalid : (largeCreation s env size alignment).Valid)
    (hC : C (largeCreation s env size alignment)) :
    s.Becomes cfg C (s.createLarge env size alignment).2 := by
  rw [Allocator.createLarge]
  have hcreate := AllocatorOk.creation h hpid hvalid hC
  dsimp only [largeCreation, Creation.result] at hcreate
  rcases hcreate with ⟨s', hres, hmove, h'⟩ | ⟨a, s', s₁, hres, hstore, hmove, h', htype⟩
  · rw [hres]
    exact ⟨.single hmove, L, h'⟩
  · simp only [hres, hstore]
    have htouch := s₁.setCount_touches a 1 [0]
    have hlisted := h'.listed.touch htouch ⟨rfl, rfl, rfl, rfl, rfl⟩
    have htouch' : s₁.Touches ((s₁.setCount a 1 [0]).attach .large a) :=
      htouch.trans ⟨rfl, rfl, rfl, fun _ => .refl _⟩
    refine ⟨.tail (.single hmove) (.touch htouch'), _,
      h'.place (by decide) (hlisted.attach .large) htouch' (fun b hne => ?_) rfl ?_⟩
    · exact ⟨update_of_ne hne _ _, rfl, update_of_ne hne _ _⟩
    · exact ⟨(htouch.geometry a).type.trans htype, s₁.setCount_live a 1 [0],
        s₁.setCount_allocations a 1 [0]⟩

/-- What the part for small slabs does: no slab is had, or a fresh one, with its counter at one, is
    initialised. -/
theorem AllocatorOk.createSmall_cases (env : AllocEnv) (size : Nat)
    (hvalid : (smallCreation s env alignment).Valid) (hC : C (smallCreation s env alignment)) :
    (∃ s', (smallCreation s env alignment).result.1 = none ∧
        s.createSmall env size alignment = (none, s') ∧ Move C s s' ∧ AllocatorOk cfg s' L none) ∨
      ∃ a s', Moves C s s' ∧ AllocatorOk cfg s' L (some a) ∧ (s'.info a).type = .small ∧
        (s'.info a).allocations = 1 ∧ s.createSmall env size alignment =
          let i := s'.initSlabAndAlloc a size (alignment / 1024)
          match i.1 with
          | some first => (some (a + first * 1024), { i.2 with live := update i.2.live a [first] })
          | none => (none, i.2.freeSlab env.unmapNew a) := by
  rw [createSmall]
  have hcreate := AllocatorOk.creation h hpid hvalid hC
  dsimp only [smallCreation, Creation.result] at hcreate
  rcases hcreate with ⟨s', hres, hmove, h'⟩ | ⟨a, s', s₁, hres, hstore, hmove, h', htype⟩
  · rw [hres]
    exact .inl ⟨s', congrArg Prod.fst hres, rfl, hmove, h'⟩
  · simp only [hres, hstore]
    have htouch := s₁.setCount_touches a 1 []
    have h₂ := h'.setCount 1
    have ha := (h₂.listed.mem a).mpr (.inr rfl)
    -- a slab starts at a page, so the check of its address passes
    rw [if_neg (not_not.mpr (Nat.mod_eq_zero_of_dvd (h₂.placed.slab a ha).aligned))]
    exact .inr ⟨a, _, .tail (.single hmove) (.touch htouch), h₂,
      (htouch.geometry a).type.trans htype, s₁.setCount_allocations a 1 [], rfl⟩

theorem AllocatorOk.createSmall (env : AllocEnv) (hsize : SmallRequest size)
    (hvalid : (smallCreation s env alignment).Valid) (hC : C (smallCreation s env alignment)) :
    s.Becomes cfg C (s.createSmall env size alignment).2 := by
  rcases h.createSmall_cases hpid env size hvalid hC with
    ⟨s', -, heq, hmove, h'⟩ | ⟨a, s', hmoves, h', hsmall, hcount, heq⟩
  · rw [heq]
    exact ⟨.single hmove, L, h'⟩
  · rw [heq]
    obtain ⟨c, ⟨hinit, h₂⟩ | ⟨first, hinit, hlisted, hok⟩⟩ :=
      h'.initSlabAndAlloc hsmall hsize (alignment / 1024)
    · rw [hinit]
      exact ⟨.tail (.tail hmoves (.touch (s'.setCtrl_touches a c)))
        (h₂.move_free env.unmapNew), L, h₂.freeSlab env.unmapNew⟩
    · rw [hinit]
      have hset := ((s'.setCtrl a c).attach .user a).setCount_self a [first]
        (hcount.trans_lt (by decide))
      simp only [← hset]
      exact ⟨.tail hmoves (.touch ((s'.setCtrl_attach_touches a c).trans
        (setCount_touches _ _ _ _))), _, h'.placeUser hsmall hlisted hok hcount⟩

end

end Allocation

/-! ## Entry points -/

section Calls

variable {cfg : Config} {s : Allocator} {L : ListKind → List Nat}

theorem Allocator.openProcess_pidSeen (s : Allocator) : s.openProcess.vfio.pidSeen = true := by
  unfold openProcess
  split
  · next hseen => exact hseen
  · next hseen =>
    show (s.vfio.initProcess).pidSeen = true
    rw [Vfio.initProcess, if_neg hseen]

theorem AllocatorOk.openProcess (h : AllocatorOk cfg s L none) :
    ∃ L', AllocatorOk cfg s.openProcess L' none := by
  unfold Allocator.openProcess
  split
  · exact ⟨L, h⟩
  · next hseen =>
    have hex := h.placed.fresh (by simpa using hseen)
    refine ⟨fun _ => [], Listed.of_empty hex rfl rfl, ⟨by simp, by simp, rfl, Nat.zero_le _⟩, ?_⟩
    have hnot : ∀ a, a ∉ s.existing := fun a => by simp [hex]
    refine ⟨fun a ha => absurd ha (hnot a), fun a ha => absurd ha (hnot a), ?_, fun _ => hex⟩
    · show s.vfio.initProcess.space.NextOk
      rw [Vfio.initProcess, if_neg hseen]
      exact IovaSpace.fresh_next

/-- The creations of an allocation request. -/
def CallCreation (s : Allocator) (env : AllocEnv) (size alignment : Nat) (c : Creation) : Prop :=
  c.levelOk = env.levelOk ∧ (c.type = .small ∨ largeRequest size alignment = true ∧
      c = largeCreation s.openProcess env (max size alignment) alignment)

section

variable (s : Allocator) (env : AllocEnv) (h : validRequest size alignment = true)
include h

theorem validRequest_spec : 0 < size ∧ size ≤ 67108864 ∧ 0 < alignment ∧ alignment ≤ 4194304 := by
  obtain ⟨hsize, hmax, halign, halignMax, -⟩ := of_decide_eq_true h
  exact ⟨Nat.pos_of_ne_zero hsize, hmax, Nat.pos_of_ne_zero halign, halignMax⟩

theorem largeCreation_valid : (largeCreation s env (max size alignment) alignment).Valid := by
  obtain ⟨hpos, hmax, halign, halignMax⟩ := validRequest_spec h
  have hle : max size alignment ≤ 67108864 := max_le hmax (by omega)
  have hlt : 0 < max size alignment := Nat.lt_of_lt_of_le hpos (Nat.le_max_left _ _)
  have hround : (max size alignment + 1023) / 1024 ≤ 65536 := by omega
  refine ⟨?_, ?_, halign, halignMax, fun htype => nomatch htype⟩
  · show 0 < divRoundUp (max size alignment) 1024 * 1024
    rw [divRoundUp_eq (by omega)]
    omega
  · show divRoundUp (max size alignment) 1024 * 1024 ≤ 67108864
    rw [divRoundUp_eq (by omega)]
    omega

theorem smallCreation_valid : (smallCreation s env alignment).Valid := by
  obtain ⟨-, -, halign, halignMax⟩ := validRequest_spec h
  exact ⟨show 0 < 2048 * 1024 by decide, show 2048 * 1024 ≤ 67108864 by decide, halign, halignMax,
    fun _ => rfl⟩

end

/-- **An allocation** keeps the books and is a sequence of moves. -/
theorem AllocatorOk.allocAddr (h : AllocatorOk cfg s L none) (env : AllocEnv) (node : Int)
    (hvalid : validRequest size alignment = true) :
    s.openProcess.Becomes cfg (CallCreation s env size alignment)
      (s.allocAddr cfg env size node alignment).2 := by
  obtain ⟨hpos, hmax, -, -⟩ := validRequest_spec hvalid
  have hsize : SmallRequest size := ⟨hpos, by omega⟩
  obtain ⟨L₁, h₁⟩ := h.openProcess
  have hpid := s.openProcess_pidSeen
  unfold Allocator.allocAddr
  dsimp only
  split
  · exact ⟨.refl, L₁, h₁⟩
  · split
    · next hlarge =>
      exact h₁.createLarge hpid env (largeCreation_valid _ env hvalid) ⟨rfl, .inr ⟨hlarge, rfl⟩⟩
    · obtain ⟨s₂, ⟨heq, hmoves, hpid₂, L₂, h₂⟩ | ⟨a, first, heq, hmoves, hok⟩⟩ :=
        h₁.findSlab hsize env.unmapCached node (alignment / 1024)
          (CallCreation s env size alignment)
      · rw [heq]
        obtain ⟨hmoves', hok⟩ := h₂.createSmall (hpid₂.trans hpid) env hsize
          (smallCreation_valid s₂ env hvalid) (C := CallCreation s env size alignment)
          ⟨rfl, .inl rfl⟩
        exact ⟨hmoves.trans hmoves', hok⟩
      · rw [heq]
        exact ⟨hmoves, hok⟩

/-! ## Freeing -/

theorem Allocator.detach_touches (s : Allocator) (k : ListKind) (a : Nat) :
    s.Touches (s.detach k a) :=
  ⟨rfl, rfl, rfl, fun _ => .refl _⟩

theorem AllocatorOk.detach (h : AllocatorOk cfg s L none) (hk : k ≠ .cache) (ha : a ∈ L k) :
    Listed (s.detach k a) (update L k ((L k).erase a)) (some a) ∧
      Counted cfg (s.detach k a) (update L k ((L k).erase a)) none ∧
      Placed (s.detach k a) := by
  have hlisted := h.listed.detach ha
  refine ⟨hlisted, ?_, h.placed.touch (s.detach_touches k a)⟩
  refine h.counted.change a (fun b _ => ⟨rfl, rfl, rfl⟩) (fun k' b _ hb => ?_)
    (fun k' hin => absurd hin (hlisted.detached a rfl k')) (by simp)
    (h.counted.sum_congr (fun _ => .refl _) (update_of_ne hk.symm _ _) rfl)
    h.counted.cacheMax
  exact ((h.listed.lists.mem_update_erase ha).mp hb).2

/-- The held slab goes to the cache, or the cache is full. -/
theorem AllocatorOk.pushSlab (h : AllocatorOk cfg s L (some a)) (hin : s.InList a .cache) :
    s.pushSlab cfg a = (true, s) ∨ ∃ s', s.pushSlab cfg a = (false, s') ∧ s.Touches s' ∧
      AllocatorOk cfg s' (update L .cache (a :: L .cache)) none := by
  have ha : a ∈ s.existing := (h.listed.mem a).mpr (.inr rfl)
  obtain ⟨-, hsize⟩ := (h.placed.slab a ha).small hin.1
  have hlt : s.cacheSize + (s.info a).size < 18446744073709551616 := by
    rw [hsize]
    exact Nat.lt_of_le_of_lt (Nat.add_le_add_right h.counted.cacheMax _) cfg.noWrap
  rw [Allocator.pushSlab]
  simp only [Nat.mod_eq_of_lt hlt]
  split
  · next hmax =>
    have htouch : s.Touches { s.attach .cache a with
        cacheSize := s.cacheSize + (s.info a).size } :=
      ⟨rfl, rfl, rfl, fun _ => .refl _⟩
    refine .inr ⟨_, rfl, htouch, ?_, ?_, h.placed.touch htouch⟩
    · exact (h.listed.attach .cache).congr rfl rfl rfl rfl rfl fun _ _ => rfl
    · refine h.counted.change a (fun b _ => ⟨rfl, rfl, rfl⟩) (fun k b hne hb => ?_)
        (fun k hb => ?_) (by simp) ?_ hmax
      · exact (mem_update_cons.mp hb).resolve_left fun heq => hne heq.2
      · obtain ⟨rfl, -⟩ := (mem_update_cons.mp hb).resolve_right (h.listed.detached a rfl k)
        exact hin
      · rw [update_self, List.map_cons, List.sum_cons]
        show s.cacheSize + (s.info a).size = _
        rw [h.counted.cacheSize, Nat.add_comm]
        rfl
  · exact .inl rfl

/-- A slab whose last block was given back leaves the user list. -/
theorem AllocatorOk.retire {s₀ : Allocator} (h : AllocatorOk cfg s₀ L none) (ha : a ∈ L .user)
    (htouch : s₀.Touches s) (hlists : s₀.SameLists s) (hother : ∀ b, b ≠ a → s₀.SameAt s b)
    (hin : s.InList a .cache) (unmapOk : Bool) (C : Creation → Prop) :
    s.Becomes cfg C (s.retire cfg unmapOk a) := by
  have hlisted := (h.listed.touch htouch hlists).detach ha
  have htouch' := s.detach_touches .user a
  have hheld : AllocatorOk cfg (s.detach .user a)
      (update L .user ((L .user).erase a)) (some a) := by
    refine ⟨hlisted, ?_, (h.placed.touch htouch).touch htouch'⟩
    refine h.counted.change a (fun b hne => ⟨(hother b hne).info, (hother b hne).ctrl,
      (hother b hne).live⟩) (fun k b _ hb => ?_)
      (fun k hin => absurd hin (hlisted.detached a rfl k)) (fun b hb => ?_)
      (h.counted.sum_congr htouch.geometry (update_of_ne (by decide) _ _)
        hlists.cacheSize) (by show s.cacheSize ≤ _; rw [hlists.cacheSize]; exact h.counted.cacheMax)
    · exact ((h.listed.lists.mem_update_erase ha).mp hb).2
    · cases hb
      exact ⟨hin.2.2.1, fun _ => hin.2.1.blank⟩
  rw [Allocator.retire, if_neg (by rw [hin.2.2.2]; simp)]
  simp only
  rcases hheld.pushSlab hin with hfull | ⟨s', hpush, htouch'', hok⟩
  · rw [hfull]
    exact ⟨.tail (.single (.touch htouch')) (hheld.move_free unmapOk), _, hheld.freeSlab unmapOk⟩
  · rw [hpush]
    exact ⟨.single (.touch (htouch'.trans htouch'')), _, hok⟩

/-- A block goes back to its slab. -/
theorem AllocatorOk.takeBack {first : Nat} (h : AllocatorOk cfg s L none) (ha : a ∈ L .user)
    (hfirst : first ∈ s.live a) (hok : SlabOk c ((s.live a).erase first)) (unmapOk : Bool)
    (C : Creation → Prop) :
    s.Becomes cfg C ((s.setCtrl a c).takeBack cfg unmapOk a first) := by
  obtain ⟨hsmall, hok₀, -, hcount⟩ := h.counted.slab .user a ha
  have hmod : ((s.info a).allocations + 4294967295) % 4294967296 =
      ((s.live a).erase first).length := by
    have hlen := List.length_erase_of_mem hfirst
    have hpos := List.length_pos_of_mem hfirst
    have hmax := hok₀.length_le
    omega
  show s.Becomes cfg C (Allocator.retire ((s.setCtrl a c).setCount a
    ((s.info a).allocations + 4294967295) ((s.live a).erase first)) cfg unmapOk a)
  have htouch := (s.setCtrl_touches a c).trans ((s.setCtrl a c).setCount_touches a
    ((s.info a).allocations + 4294967295) ((s.live a).erase first))
  have hcount' : (((s.setCtrl a c).setCount a ((s.info a).allocations + 4294967295)
      ((s.live a).erase first)).info a).allocations = ((s.live a).erase first).length :=
    (setCount_allocations ..).trans hmod
  by_cases hnil : (s.live a).erase first = []
  · rw [hnil] at hok hcount' htouch ⊢
    have hctrl : SlabOk (update s.ctrl a c a) [] := by
      rw [update_self]
      exact hok
    obtain ⟨hmoves, hok'⟩ := h.retire ha htouch ⟨rfl, rfl, rfl, rfl, rfl⟩
      (fun b hb => s.setCount_sameAt c _ _ hb) ⟨(htouch.geometry a).type.trans hsmall, hctrl,
        Allocator.setCount_live _ _ _ _, hcount'⟩ unmapOk C
    exact ⟨.head (.touch htouch) hmoves, hok'⟩
  · rw [Allocator.retire, if_pos]
    · exact ⟨.single (.touch htouch), L, h.setBlocks ha hok hnil hmod⟩
    · rw [hcount']
      exact fun hzero => hnil (List.eq_nil_of_length_eq_zero hzero)

theorem Listed.findSlabInHash (h : Listed s L d) {virt : Nat}
    (hfind : s.findSlabInHash virt = some a) : a ∈ s.existing := by
  obtain ⟨H, hH, hmem⟩ := h.hash
  have hsub : H (loadKey s.pageTable virt) ⊆ s.existing := fun b hb => ((hmem _ b).mp hb).1
  have hwalk := (hH.list (loadKey s.pageTable virt)).walk
    (((hH.list (loadKey s.pageTable virt)).nodup.subperm hsub).length_le)
  rw [Allocator.findSlabInHash, hwalk] at hfind
  exact hsub (List.mem_of_find?_eq_some hfind)

/-- **A free** keeps the books and is a sequence of moves. -/
theorem AllocatorOk.freeAddr (h : AllocatorOk cfg s L none) (unmapOk : Bool) (p : Nat)
    (C : Creation → Prop) :
    s.openProcess.Becomes cfg C (s.freeAddr cfg unmapOk p) := by
  obtain ⟨L₁, h₁⟩ := h.openProcess
  rw [Allocator.freeAddr]
  generalize s.openProcess = s₁ at h₁ ⊢
  simp only
  cases hfind : s₁.findSlabInHash p with
  | none => exact ⟨.refl, L₁, h₁⟩
  | some a =>
    obtain ⟨k, ha⟩ | hnone := (h₁.listed.mem a).mp (h₁.listed.findSlabInHash hfind)
    swap
    · exact absurd hnone (by simp)
    have hsame : update s₁.ctrl a (s₁.ctrl a) = s₁.ctrl := update_eq_self a s₁.ctrl
    have hin := h₁.counted.slab k a ha
    cases k with
    | large =>
      simp only [hin.1]
      obtain ⟨hlisted, hcounted, hplaced⟩ := h₁.detach (by decide) ha
      exact ⟨.tail (.single (.touch (s₁.detach_touches .large a)))
        (.free unmapOk hplaced hlisted.nodup (h₁.listed.mem_of_list ha)), _,
        hlisted.destroy hcounted hplaced unmapOk⟩
    | user =>
      obtain ⟨htype, hok, -⟩ := hin
      simp only [htype]
      split
      · next hfree =>
        obtain ⟨hfirst, hok'⟩ := hok.memFree_true hfree
        exact h₁.takeBack ha hfirst hok' unmapOk C
      · next hfree =>
        rw [memFree_false (Bool.eq_false_iff.mpr hfree), hsame]
        exact ⟨.refl, L₁, h₁⟩
    | cache =>
      -- a cached slab has no block to free
      obtain ⟨htype, hok, -⟩ := hin
      have hfree : (memFree (s₁.ctrl a) a p).1 = false := Bool.eq_false_iff.mpr fun hfree =>
        absurd (hok.memFree_true hfree).1 List.not_mem_nil
      simp only [htype, hfree, memFree_false hfree, hsame]
      exact ⟨.refl, L₁, h₁⟩

/-! ## Destroying the allocator -/

/-- The allocator with other pointers in its `_user` lists. -/
def Allocator.relink (s : Allocator) (user : Links Nat) (lists : ListKind → Ends Nat) : Allocator :=
  { s with user := user, lists := lists }

/-- The slabs of a list are freed while they are linked; up to the links, each leaves its list
    first. -/
theorem AllocatorOk.destroyList (hk : k ≠ .cache) (unmapOk : Nat → Bool) (C : Creation → Prop)
    (user : Links Nat) (lists : ListKind → Ends Nat) {l : List Nat} (h : AllocatorOk cfg s L none)
    (hl : L k = l) :
    ∃ s', (s.relink user lists).destroyList unmapOk l = s'.relink user lists ∧
      Moves C (s.relink user lists) (s'.relink user lists) ∧
      AllocatorOk cfg s' (update L k []) none := by
  induction l generalizing s L with
  | nil =>
    refine ⟨s, rfl, .refl, ?_⟩
    rw [← hl, update_eq_self]
    exact h
  | cons a rest ih =>
    have ha : a ∈ L k := by
      rw [hl]
      exact List.mem_cons_self
    obtain ⟨hlisted, hcounted, hplaced⟩ := h.detach hk ha
    have h₁ := hlisted.destroy hcounted hplaced (unmapOk a)
    obtain ⟨s', heq, hmoves, h'⟩ := ih h₁ (by rw [update_self, hl, List.erase_cons_head])
    rw [update_idem] at h'
    exact ⟨s', heq, .head (.free (s := s.relink user lists) (unmapOk a)
      ⟨h.placed.slab, h.placed.disjoint, h.placed.next, h.placed.fresh⟩ h.listed.nodup
      (h.listed.mem_of_list ha)) hmoves, h'⟩

/-- Any slab of the cache serves a request for any node. -/
theorem Allocator.popSlab_any (s : Allocator) (cfg : Config) :
    (s.popSlab cfg (-1)).1 = (s.slabs .cache).head? := by
  rw [popSlab]
  cases s.slabs .cache with
  | nil => rfl
  | cons a rest => simp

/-- The cache is emptied slab by slab. -/
theorem AllocatorOk.resetCache (unmapOk : Nat → Bool) (C : Creation → Prop) {n : Nat}
    (h : AllocatorOk cfg s L none) (hn : (L .cache).length < n) :
    Moves C s (resetCache cfg unmapOk n s) ∧
      AllocatorOk cfg (resetCache cfg unmapOk n s) (update L .cache []) none := by
  induction n generalizing s L with
  | zero => exact absurd hn (Nat.not_lt_zero _)
  | succ n ih =>
    have hany := s.popSlab_any cfg
    rw [h.listed.slabs .cache] at hany
    rw [resetCache]
    rcases h.popSlab (-1) with hpop | ⟨a, s₁, hpop, htouch, h₁, -, -⟩
    · rw [hpop] at hany ⊢
      rw [← List.head?_eq_none_iff.mp hany.symm, update_eq_self]
      exact ⟨.refl, h⟩
    · rw [hpop] at hany ⊢
      obtain ⟨rest, hrest⟩ := List.head?_eq_some_iff.mp hany.symm
      rw [hrest, List.erase_cons_head] at h₁
      rw [hrest, List.length_cons] at hn
      obtain ⟨hmoves, hok⟩ := ih (h₁.freeSlab (unmapOk a))
        (by rw [update_self]; exact Nat.lt_of_succ_lt_succ hn)
      rw [update_idem] at hok
      exact ⟨.head (.touch htouch) (.head (h₁.move_free (unmapOk a)) hmoves), hok⟩

namespace AllocatorOk

variable (h : AllocatorOk cfg s L none)
include h

theorem clearLists (hex : s.existing = []) (user : Links Nat) :
    AllocatorOk cfg (s.relink user fun _ => Ends.empty) (fun _ => []) none := by
  refine ⟨⟨IsDLists.empty _, h.listed.hash, h.listed.nodup, fun a => ?_, by simp⟩, ?_,
    h.placed.slab, h.placed.disjoint, h.placed.next, h.placed.fresh⟩
  · show a ∈ s.existing ↔ _
    simp [hex]
  · have hcache := h.counted.cacheSize
    rw [h.listed.empty hex .cache] at hcache
    exact ⟨by simp, by simp, hcache, h.counted.cacheMax⟩

/-- **Destroying the allocator** frees every slab. -/
theorem memDestroy (unmapOk : Nat → Bool) (C : Creation → Prop) :
    Moves C { s with pageTable := PageTable.empty } (s.memDestroy cfg unmapOk) ∧
      (s.memDestroy cfg unmapOk).existing = [] ∧
      AllocatorOk cfg (s.memDestroy cfg unmapOk) (fun _ => []) none := by
  have h₀ := h.setPageTable PageTable.empty
  have hlen : (L .cache).length < s.existing.length + 1 := by
    have hsub : L .cache ⊆ s.existing := fun a ha => h.listed.mem_of_list ha
    exact Nat.lt_succ_of_le (((h.listed.lists.list .cache).nodup.subperm hsub).length_le)
  rw [Allocator.memDestroy]
  simp only
  obtain ⟨hmoves₁, h₁⟩ := h₀.resetCache unmapOk C hlen
  generalize Allocator.resetCache cfg unmapOk (s.existing.length + 1)
    { s with pageTable := PageTable.empty } = s₁ at hmoves₁ h₁ ⊢
  have huser : update L .cache [] .user = L .user := update_of_ne (by decide) _ _
  obtain ⟨s₂, heq₂, hmoves₂, h₂⟩ := h₁.destroyList (by decide) unmapOk C s₁.user s₁.lists huser
  -- the large list is linked as it was before the slabs of the user list were freed
  have hlarge : update (update L .cache []) .user [] .large = L .large := by
    rw [update_of_ne (by decide), update_of_ne (by decide)]
  have hwalk : (s₂.relink s₁.user s₁.lists).slabs .large = L .large := by
    have hlist := h₁.listed.lists.list .large
    rw [update_of_ne (by decide)] at hlist
    refine hlist.walk ((hlist.nodup.subperm fun a ha => ?_).length_le)
    exact h₂.listed.mem_of_list (by rw [hlarge]; exact ha)
  obtain ⟨s₃, heq₃, hmoves₃, h₃⟩ := h₂.destroyList (by decide) unmapOk C s₁.user s₁.lists hlarge
  have hempty : ∀ k, update (update (update L .cache []) .user []) .large [] k = [] := by
    intro k
    cases k <;> rfl
  have hex : s₃.existing = [] := by
    refine List.eq_nil_iff_forall_not_mem.mpr fun a ha => ?_
    obtain ⟨k, hk⟩ | hnone := (h₃.listed.mem a).mp ha
    · rw [hempty k] at hk
      exact absurd hk List.not_mem_nil
    · exact absurd hnone (by simp)
  have hfinal := h₃.clearLists hex s₁.user
  change s₁.destroyList unmapOk (L .user) = _ at heq₂
  rw [h₁.listed.slabs .user, huser, heq₂, hwalk, heq₃]
  exact ⟨(hmoves₁.trans (hmoves₂.trans hmoves₃)).tail
    (.touch ⟨rfl, rfl, rfl, fun _ => .refl _⟩), hex, hfinal⟩

/-! ## Devices and whole runs -/

theorem setVfio {v : Vfio} (hnext : v.space.NextOk)
    (hpid : v.pidSeen = false → s.vfio.pidSeen = false) :
    AllocatorOk cfg { s with vfio := v } L none :=
  ⟨h.listed.congr rfl rfl rfl rfl rfl fun _ _ => rfl,
    ⟨h.counted.slab, by simp, h.counted.cacheSize, h.counted.cacheMax⟩,
    ⟨h.placed.slab, h.placed.disjoint, hnext, fun hfalse => h.placed.fresh (hpid hfalse)⟩⟩

theorem registerDevice (fd : Nat) (info : Option (List (List PermittedRange)))
    (mapOk : Nat → Bool) : ∃ L', AllocatorOk cfg (s.registerDevice fd info mapOk).2 L' none := by
  cases info with
  | none => exact ⟨L, h⟩
  | some caps =>
    rw [Allocator.registerDevice]
    generalize filterDmaRanges s.vfio.space.iovaUsed caps = used
    have h₁ : AllocatorOk cfg { s with vfio := s.vfio.setUsed used } L none :=
      h.setVfio h.placed.next id
    obtain ⟨L', h₂⟩ := h₁.openProcess
    generalize Allocator.openProcess _ = s₂ at h₂ ⊢
    obtain ⟨hspace, hseen⟩ := s₂.vfio.register_space fd mapOk s₂.slabLists
    refine ⟨L', h₂.setVfio ?_ fun hfalse => hseen.symm.trans hfalse⟩
    rw [hspace]
    exact h₂.placed.next

theorem unregisterDevice (fd : Nat) (unmapOk : Nat → Bool) :
    AllocatorOk cfg (s.unregisterDevice fd unmapOk).2 L none := by
  obtain ⟨hspace, hseen⟩ := s.vfio.unregister_space fd unmapOk s.slabLists
  refine h.setVfio ?_ fun hfalse => hseen.symm.trans hfalse
  rw [hspace]
  exact h.placed.next

end AllocatorOk

/-- The state after an allocation, a free or a destruction is reached by moves from the state the
    call starts on. -/
def UsdmEvent.base (s : Allocator) : UsdmEvent → Allocator
  | .alloc size _ alignment _ => if validRequest size alignment then s.openProcess else s
  | .free p _ => if p = 0 then s else s.openProcess
  | .destroy _ => { s with pageTable := PageTable.empty }
  | .register _ _ _ => s
  | .unregister _ _ => s

/-- The creations of a call. -/
def UsdmEvent.Creates (s : Allocator) : UsdmEvent → Creation → Prop
  | .alloc size _ alignment env => CallCreation s env size alignment
  | _ => fun _ => False

/-- A call on slabs, other than on devices. -/
def UsdmEvent.OnSlabs : UsdmEvent → Prop
  | .register _ _ _ => False
  | .unregister _ _ => False
  | _ => True

section

variable (h : AllocatorOk cfg s L none)
include h

/-- **A call on slabs** keeps the books and is a sequence of moves. -/
theorem AllocatorOk.becomes (hstep : s.step cfg e = some s') (he : e.OnSlabs) :
    (e.base s).Becomes cfg (e.Creates s) s' := by
  cases e with
  | alloc size node alignment env =>
    obtain ⟨-, ⟨⟩⟩ := Option.ite_none_right_eq_some.mp hstep
    rw [memAllocNUMA, UsdmEvent.base]
    split
    · next hvalid => exact h.allocAddr env node hvalid
    · exact ⟨.refl, L, h⟩
  | free p unmapOk =>
    obtain ⟨-, ⟨⟩⟩ := Option.ite_none_right_eq_some.mp hstep
    rw [memFreeNUMA, UsdmEvent.base]
    split
    · exact ⟨.refl, L, h⟩
    · exact h.freeAddr unmapOk p _
  | destroy unmapOk =>
    cases hstep
    obtain ⟨hmoves, -, hok⟩ := h.memDestroy unmapOk (UsdmEvent.Creates s (.destroy unmapOk))
    exact ⟨hmoves, _, hok⟩
  | register | unregister => exact absurd he id

/-- **Every call keeps the books.** -/
theorem AllocatorOk.step (hstep : s.step cfg e = some s') : ∃ L', AllocatorOk cfg s' L' none := by
  cases e with
  | alloc | free | destroy => exact (h.becomes hstep trivial).2
  | register fd info mapOk =>
    cases hstep
    exact h.registerDevice fd info mapOk
  | unregister fd unmapOk =>
    cases hstep
    exact ⟨L, h.unregisterDevice fd unmapOk⟩

/-- **Invariant rule for calls**: what the moves of a call, the opening of the process and the calls
    on devices preserve and the destruction ends with, every call preserves. -/
theorem AllocatorOk.call_invariant {I : Allocator → Prop} (hs : I s)
    (hstep : s.step cfg e = some s')
    (hopen : ∀ s L, AllocatorOk cfg s L none → I s → I s.openProcess)
    (hmove : ∀ s₁ s₂, Move (e.Creates s) s₁ s₂ → I s₁ → I s₂)
    (hdestroy : ∀ unmapOk, e = .destroy unmapOk → I s')
    (hused : ∀ caps, I { s with vfio := s.vfio.setUsed (filterDmaRanges s.vfio.space.iovaUsed caps) })
    (hregister : ∀ s L fd mapOk, AllocatorOk cfg s L none → I s →
      I { s with vfio := (s.vfio.register fd mapOk s.slabLists).2 })
    (hunregister : ∀ fd unmapOk, I (s.unregisterDevice fd unmapOk).2) : I s' := by
  cases e with
  | alloc size node alignment env =>
    refine (h.becomes hstep trivial).1.invariant hmove ?_
    rw [UsdmEvent.base]
    split
    · exact hopen s L h hs
    · exact hs
  | free p unmapOk =>
    refine (h.becomes hstep trivial).1.invariant hmove ?_
    rw [UsdmEvent.base]
    split
    · exact hs
    · exact hopen s L h hs
  | destroy unmapOk => exact hdestroy unmapOk rfl
  | register fd info mapOk =>
    cases hstep
    cases info with
    | none => exact hs
    | some caps =>
      have hok : AllocatorOk cfg { s with
          vfio := s.vfio.setUsed (filterDmaRanges s.vfio.space.iovaUsed caps) } L none :=
        h.setVfio h.placed.next id
      obtain ⟨L', hok'⟩ := hok.openProcess
      exact hregister _ L' fd mapOk hok' (hopen _ L hok (hused caps))
  | unregister fd unmapOk =>
    cases hstep
    exact hunregister fd unmapOk

end

theorem AllocatorOk.start (cfg : Config) : AllocatorOk cfg start (fun _ => []) none := by
  refine ⟨Listed.of_empty rfl rfl rfl, ⟨by simp, by simp, rfl, Nat.zero_le _⟩, ?_⟩
  exact ⟨fun a ha => absurd ha List.not_mem_nil, fun a ha => absurd ha List.not_mem_nil,
    IovaSpace.fresh_next, fun _ => rfl⟩

/-- **The books are kept in every run.** -/
theorem usdm_ok {ok : Allocator → UsdmEvent → Prop} (h : (usdm cfg).ReachableBy ok s) :
    ∃ L, AllocatorOk cfg s L none := by
  refine h.invariant (fun s => ∃ L, AllocatorOk cfg s L none) ?_ ?_
  · rintro s rfl
    exact ⟨_, AllocatorOk.start cfg⟩
  · rintro s e s' ⟨L, hs⟩ - hstep
    exact hs.step hstep

end Calls

/-- A request, with the answers of the kernel: the address of a slab, before that of its memory if it
    is a large one, and whether levels of the page table can be mapped. -/
def sampleRequest (size addr : Nat) (levels : Bool) : UsdmEvent :=
  .alloc size 0 1024 ⟨⟨some addr, some (addr + 2097152), true⟩, fun _ _ => levels, true, true⟩

/-- Two blocks in a small slab and a large slab; the first block is freed. -/
def sampleCalls : List UsdmEvent :=
  [sampleRequest 1024 2097152 true, sampleRequest 1024 0 true, sampleRequest 4194304 8388608 true,
    .free 2102272 true]

end Qatlib.Usdm
