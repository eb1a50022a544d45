import Mathlib.Data.List.Forall2
import Qatlib.Sal.Services

set_option autoImplicit false

/-! # Restarting the services of a device

What a restart that fails releases. Each instance is stopped and shut down in the state in which the
failed restart has left it, whatever was released there already. Everything is given back exactly once
when the restart fails early: before it gets to the handles of an instance, or at the transmit ring of
the last compression instance. -/

namespace Qatlib.Sal

open Handle

/-! ## Releasing once -/

/-- A handle that was held has been released once since. -/
def Handle.Once (h h' : Handle) : Prop := h.ptr = true → h'.released = h.released + 1

/-- A pool that was in use has been destroyed once since. -/
def Pool.Once (p p' : Pool) : Prop := p.live = true → p'.destroyed = p.destroyed + 1

/-- What the instance held has been released once since. -/
structure CompressionService.Once (s s' : CompressionService) : Prop where
  tx : s.tx.Once s'.tx
  rx : s.rx.Once s'.rx
  pool : s.pool.Once s'.pool
  chain : s.chain = some .held → s'.heldFreed = s.heldFreed + 1

structure Side.Once (s s' : Side) : Prop where
  tx : s.tx.Once s'.tx
  rx : s.rx.Once s'.rx
  pools : List.Forall₂ Pool.Once s.pools s'.pools

/-- What the instance held has been released once since. -/
structure CryptoService.Once (s s' : CryptoService) : Prop where
  asym : s.asym.Once s'.asym
  sym : s.sym.Once s'.sym

/-- What the device's instances held has been released once since. -/
structure Services.ReleasedOnce (s s' : Services) : Prop where
  asym : List.Forall₂ CryptoService.Once s.asym s'.asym
  sym : List.Forall₂ CryptoService.Once s.sym s'.sym
  crypto : List.Forall₂ CryptoService.Once s.crypto s'.crypto
  compression : List.Forall₂ CompressionService.Once s.compression s'.compression

/-- An instance in use: it has its handles, and has made no chain service during a restart. -/
structure CompressionService.InUse (s : CompressionService) : Prop where
  state : s.state = .running ∨ s.state = .error
  tx : s.tx.ptr = true
  rx : s.rx.ptr = true
  chain : s.chain ≠ some .fresh

/-- A part in use has its handles. -/
structure Side.InUse (s : Side) : Prop where
  tx : s.tx.ptr = true
  rx : s.rx.ptr = true

/-- A part that the instance does not have. -/
structure Side.Unused (s : Side) : Prop where
  tx : s.tx.ptr = false
  rx : s.rx.ptr = false
  pools : ∀ p ∈ s.pools, p.live = false

/-- An instance in use has the parts of its type. -/
structure CryptoService.InUse (s : CryptoService) : Prop where
  state : s.state = .running ∨ s.state = .error
  asym : if s.type = .sym then s.asym.Unused else s.asym.InUse
  sym : if s.type = .asym then s.sym.Unused else s.sym.InUse

/-- The device is in use. -/
structure Services.InUse (s : Services) : Prop where
  asym : ∀ i ∈ s.asym, i.InUse
  sym : ∀ i ∈ s.sym, i.InUse
  crypto : ∀ i ∈ s.crypto, i.InUse
  compression : ∀ i ∈ s.compression, i.InUse

/-! ## Where a restart may fail -/

/-- Every step succeeds. -/
def DcAnswers.ok (a : DcAnswers) : Bool :=
  a.stats && a.instInit && a.concurrentReq && a.parseTx && a.reinitTx && a.parseRx && a.reinitRx &&
    a.debug && (!a.chaining || a.chainAlloc && a.chainInit && a.chainHash)

/-- The first step that fails is one that returns at once: reading the parameters of the instance, or
    parsing the name of the transmit ring. -/
def DcAnswers.untouched (a : DcAnswers) : Bool :=
  a.stats && (!a.instInit || a.concurrentReq && !a.parseTx)

/-- The first step that fails is the re-initialisation of the transmit ring. -/
def DcAnswers.txLost (a : DcAnswers) : Bool :=
  a.stats && a.instInit && a.concurrentReq && a.parseTx && !a.reinitTx

def SideAnswers.ok (a : SideAnswers) : Bool :=
  a.concurrentReq && a.parseTx && a.reinitTx && a.parseRx && a.reinitRx

/-- Every step that an instance of the type needs succeeds. -/
def CryptoAnswers.ok (type : CryptoType) (a : CryptoAnswers) : Bool :=
  a.instInit && a.debug &&
    match type with
    | .asym => a.asym.ok
    | .sym => a.sym.ok
    | .both => a.asym.ok && a.sym.ok

/-- The first step that fails comes before the handles of the first part. -/
def CryptoAnswers.untouched (type : CryptoType) (a : CryptoAnswers) : Bool :=
  !a.instInit || !a.debug ||
    match type with
    | .asym | .both => !a.asym.concurrentReq
    | .sym => !a.sym.concurrentReq

/-- The first compression instance that fails does so before its handles are touched; or it cannot
    re-initialise its transmit ring, and is the last. -/
def FailsEarlyDc : List CompressionService → Prop
  | [] => True
  | s :: rest =>
      if s.answers.ok = true then FailsEarlyDc rest
      else s.answers.untouched = true ∨ (s.answers.txLost = true ∧ rest = [])

/-- The first crypto instance that fails does so before its handles are touched. -/
def FailsEarlyCy : List CryptoService → Prop
  | [] => True
  | s :: rest =>
      if s.answers.ok s.type = true then FailsEarlyCy rest else s.answers.untouched s.type = true

namespace Services

variable (e : EventAnswers) (s : Services)

/-- The services that `SalCtrl_ServiceEventRestarted` gets to. -/
def reachesAsym : Bool := e.verFile && e.asymDir

def reachesSym : Bool := reachesAsym e && s.asym.all (fun i => i.answers.ok i.type) && e.symDir

def reachesCrypto : Bool := s.reachesSym e && s.sym.all (fun i => i.answers.ok i.type) && e.cyDir

def reachesCompression : Bool :=
  s.reachesCrypto e && s.crypto.all (fun i => i.answers.ok i.type) && e.dcDir

/-- In each service that is reached, the first instance that fails does so early. -/
structure FailsEarly : Prop where
  asym : reachesAsym e = true → FailsEarlyCy s.asym
  sym : s.reachesSym e = true → FailsEarlyCy s.sym
  crypto : s.reachesCrypto e = true → FailsEarlyCy s.crypto
  compression : s.reachesCompression e = true → FailsEarlyDc s.compression

end Services

/-! ## One compression instance -/

theorem Pool.once_destroy (p : Pool) : p.Once p.destroy := by
  intro h
  simp [Pool.destroy, h]

theorem Handle.release_of_ptr {h : Handle} (hptr : h.ptr = true) :
    h.release = (true, { h with released := h.released + 1 }) := by
  rw [release, if_pos hptr]

variable {l : List CompressionService}

open CompressionService

namespace CompressionService

variable {s x : CompressionService}

section

variable (s : CompressionService)

@[simp] theorem freeChain_keeps : s.freeChain.tx = s.tx ∧ s.freeChain.rx = s.rx ∧
    s.freeChain.pool = s.pool ∧ s.freeChain.answers = s.answers := by
  unfold freeChain
  split <;> exact ⟨rfl, rfl, rfl, rfl⟩

@[simp] theorem freeChain_chain : s.freeChain.chain = none := by
  unfold freeChain
  split <;> simp_all [withChain]

end

theorem freeChain_heldFreed_of_ne (h : s.chain ≠ some .held) :
    s.freeChain.heldFreed = s.heldFreed := by
  unfold freeChain
  split <;> simp_all [withChain, freeFresh]

/-- The instance between the two events of a restart. -/
def reset (s : CompressionService) : CompressionService := s.freeChain.withState .restarting

theorem InUse.restarting_eq (h : s.InUse) : s.restarting = (true, s.reset) := by
  rw [restarting, if_neg (by rcases h.state with h | h <;> simp [h]), if_neg (by simp [h.tx]),
    if_neg (by simp [h.rx])]
  rfl

/-- The instance still holds what it held before the restart, except for the chain service. -/
structure Kept (s x : CompressionService) : Prop where
  tx : x.tx = s.tx
  rx : x.rx = s.rx
  pool : x.pool = s.pool
  chain : x.chain ≠ some .held
  freed : s.chain = some .held → x.heldFreed = s.heldFreed + 1

theorem kept_reset (s : CompressionService) : s.Kept s.reset where
  tx := s.freeChain_keeps.1
  rx := s.freeChain_keeps.2.1
  pool := s.freeChain_keeps.2.2.1
  chain := by simp [reset, withState]
  freed h := by simp [reset, withState, freeChain, h]

theorem shutdown_eq (hstate : x.state = .shuttingDown ∨ x.state = .restarting)
    (htx : x.tx.ptr = true) (hrx : x.rx.ptr = true) :
    x.shutdown = (true, (((x.withPool x.pool.destroy).withTx x.tx.release.2).withRx
      x.rx.release.2).freeChain.withState .shutdown) := by
  rw [shutdown, if_neg (by rcases hstate with h | h <;> simp [h])]
  simp [withPool, withTx, release_of_ptr htx, release_of_ptr hrx]

theorem Kept.shutdown (h : s.Kept x) (hs : s.InUse)
    (hstate : x.state = .shuttingDown ∨ x.state = .restarting) :
    x.shutdown.1 = true ∧ s.Once x.shutdown.2 := by
  have htx : x.tx.ptr = true := by rw [h.tx, hs.tx]
  have hrx : x.rx.ptr = true := by rw [h.rx, hs.rx]
  rw [shutdown_eq hstate htx hrx]
  refine ⟨rfl, fun _ => ?_, fun _ => ?_, fun hlive => ?_, fun hchain => ?_⟩
  · simp [withState, withRx, withTx, h.tx, release_of_ptr hs.tx]
  · simp [withState, withRx, h.rx, release_of_ptr hs.rx]
  · simpa [withState, withRx, withTx, withPool, h.pool] using s.pool.once_destroy hlive
  · have hfreed := freeChain_heldFreed_of_ne
      (s := ((x.withPool x.pool.destroy).withTx x.tx.release.2).withRx x.rx.release.2) h.chain
    simp only [withState, hfreed]
    exact h.freed hchain

/-- The transmit handle of an instance that is shut down is released, if it is set. -/
theorem shutdown_tx (hstate : x.state = .restarting) (htx : x.tx.ptr = true) :
    x.shutdown.2.tx.released = x.tx.released + 1 := by
  rw [shutdown, if_neg (by simp [hstate])]
  simp only [withPool, withTx, release_of_ptr htx, Bool.true_eq_false, ↓reduceIte]
  split <;> simp [withState, withRx]

/-- The instance was released, and still points to its transmit handle. -/
structure Dangling (s x : CompressionService) : Prop where
  state : x.state = .restarting
  tx : x.tx.ptr = true
  released : x.tx.released = s.tx.released + 1

theorem InUse.dangling_cleanup (h : s.InUse) (hstate : x.state = .restarting) (htx : x.tx = s.tx) :
    s.Dangling x.cleanup where
  state := hstate
  tx := by simp [cleanup, withTx, withRx, withPool, releaseIfSet, htx, release_of_ptr h.tx, h.tx]
  released := by simp [cleanup, withTx, withRx, withPool, releaseIfSet, htx, release_of_ptr h.tx]

theorem Dangling.freeFresh (h : s.Dangling x) : s.Dangling x.freeFresh :=
  ⟨h.state, h.tx, h.released⟩

/-- Where re-initialising an instance ends: it runs; it is as it was; its transmit handle is lost and
    the rest released; or it was released with the transmit handle still set. -/
theorem InUse.restarted_cases (h : s.InUse) :
    (s.answers.ok = true ∧ s.reset.restarted.1 = true ∧ s.Kept s.reset.restarted.2 ∧
        s.reset.restarted.2.state = .running) ∨
      (s.answers.ok = false ∧ s.answers.untouched = true ∧ s.reset.restarted = (false, s.reset)) ∨
      (s.answers.ok = false ∧ s.answers.untouched = false ∧ s.answers.txLost = true ∧
        s.reset.restarted = (false, (s.reset.withTx ⟨false, s.tx.released + 1⟩).cleanup)) ∨
      (s.answers.ok = false ∧ s.answers.untouched = false ∧ s.answers.txLost = false ∧
        s.reset.restarted.1 = false ∧ s.Dangling s.reset.restarted.2) := by
  obtain ⟨htx, hrx, -, hanswers⟩ :
      s.reset.tx = s.tx ∧ s.reset.rx = s.rx ∧ _ ∧ s.reset.answers = s.answers := s.freeChain_keeps
  have hkept := s.kept_reset
  have hnone : none ≠ some ChainRef.held := by simp
  have hfresh : some ChainRef.fresh ≠ some ChainRef.held := by simp
  have hclean : ∀ {x : CompressionService}, x.state = .restarting → x.tx = s.tx →
      s.Dangling x.cleanup := h.dangling_cleanup
  unfold DcAnswers.ok DcAnswers.untouched DcAnswers.txLost
  rw [restarted, if_neg (by simp [reset, withState])]
  simp only [hanswers, htx, hrx, withTx, withRx, withChain]
  -- one split for each step, in the order of the source
  cases s.answers.stats
  · exact .inr (.inr (.inr ⟨rfl, rfl, rfl, rfl, hclean rfl htx⟩))
  cases s.answers.instInit
  · exact .inr (.inl ⟨rfl, rfl, rfl⟩)
  cases s.answers.concurrentReq
  · exact .inr (.inr (.inr ⟨rfl, rfl, rfl, rfl, hclean rfl htx⟩))
  cases s.answers.parseTx
  · exact .inr (.inl ⟨rfl, rfl, rfl⟩)
  cases s.answers.reinitTx
  · exact .inr (.inr (.inl ⟨rfl, rfl, rfl, by simp [reinit, release_of_ptr h.tx]⟩))
  cases s.answers.parseRx
  · exact .inr (.inr (.inr ⟨rfl, rfl, rfl, rfl, hclean rfl rfl⟩))
  cases s.answers.reinitRx
  · exact .inr (.inr (.inr ⟨rfl, rfl, rfl, rfl, hclean rfl rfl⟩))
  cases s.answers.debug
  · exact .inr (.inr (.inr ⟨rfl, rfl, rfl, rfl, hclean rfl rfl⟩))
  cases s.answers.chaining
  · exact .inl ⟨rfl, rfl, ⟨rfl, rfl, hkept.pool, hnone, hkept.freed⟩, rfl⟩
  cases s.answers.chainAlloc
  · exact .inr (.inr (.inr ⟨rfl, rfl, rfl, rfl, hclean rfl rfl⟩))
  cases s.answers.chainInit
  · exact .inr (.inr (.inr ⟨rfl, rfl, rfl, rfl, .freeFresh (hclean rfl rfl)⟩))
  cases s.answers.chainHash
  · exact .inr (.inr (.inr ⟨rfl, rfl, rfl, rfl, .freeFresh (hclean rfl rfl)⟩))
  · exact .inl ⟨rfl, rfl, ⟨rfl, rfl, hkept.pool, hfresh, hkept.freed⟩, rfl⟩

/-! ## All compression instances -/

/-- What stopping and shutting down makes of the instances. -/
def down (l : List CompressionService) : List CompressionService :=
  (tryEach shutdown (tryEach stop l).2).2

theorem restarting_all (h : ∀ i ∈ l, i.InUse) :
    tryEach restarting l = (true, l.map reset) :=
  tryEach_eq_map fun i hi => (h i hi).restarting_eq

theorem shutdown_reset (h : ∀ i ∈ l, i.InUse) :
    List.Forall₂ Once l (tryEach shutdown (l.map reset)).2 := by
  have hone : ∀ i ∈ l, i.reset.shutdown.1 = true ∧ i.Once i.reset.shutdown.2 :=
    fun i hi => i.kept_reset.shutdown (h i hi) (.inr rfl)
  have hall : ∀ x ∈ l.map reset, x.shutdown = (true, x.shutdown.2) := by
    intro x hx
    obtain ⟨i, hi, rfl⟩ := List.mem_map.mp hx
    exact Prod.ext (hone i hi).1 rfl
  rw [tryEach_eq_map hall, List.map_map, List.forall₂_map_right_iff, List.forall₂_same]
  exact fun i hi => (hone i hi).2

/-- Instances that were not reached are released once. -/
theorem down_reset (h : ∀ i ∈ l, i.InUse) : List.Forall₂ Once l (down (l.map reset)) := by
  have hstop : ∀ x ∈ l.map reset, x.stop = (false, x) := by
    intro x hx
    obtain ⟨i, -, rfl⟩ := List.mem_map.mp hx
    rfl
  rw [down, tryEach_of_refused hstop]
  exact shutdown_reset h

/-- An instance that is left as it is after the reset is not released. -/
theorem InUse.not_once_reset (h : s.InUse) : ¬s.Once s.reset := by
  intro honce
  have htx := honce.tx h.tx
  rw [s.kept_reset.tx] at htx
  omega

/-- An instance that has lost its transmit handle refuses the shutdown, and is released once. -/
theorem InUse.shutdown_lost (h : s.InUse) :
    (s.reset.withTx ⟨false, s.tx.released + 1⟩).cleanup.shutdown.1 = false ∧
      s.Once (s.reset.withTx ⟨false, s.tx.released + 1⟩).cleanup.shutdown.2 := by
  have heq : (s.reset.withTx ⟨false, s.tx.released + 1⟩).cleanup.shutdown =
      (false, (s.reset.withTx ⟨false, s.tx.released + 1⟩).cleanup.withPool
        s.reset.pool.destroy.destroy) := rfl
  rw [heq]
  refine ⟨rfl, fun _ => rfl, fun _ => ?_, fun hlive => ?_, s.kept_reset.freed⟩
  · simp [withPool, cleanup, withRx, withTx, releaseIfSet, s.kept_reset.rx, release_of_ptr h.rx]
  · rw [s.kept_reset.pool]
    simp [withPool, Pool.destroy, hlive]

/-- The instances are released once exactly when the first failure comes early. -/
theorem down_restarted (h : ∀ i ∈ l, i.InUse) :
    List.Forall₂ Once l (down (tryEach restarted (l.map reset)).2) ↔ FailsEarlyDc l := by
  induction l with
  | nil => exact iff_of_true .nil trivial
  | cons s l ih =>
    obtain ⟨hs, hl⟩ := List.forall_mem_cons.mp h
    rw [List.map_cons, FailsEarlyDc, down]
    rcases hs.restarted_cases with ⟨hok, hfst, hkept, hstate⟩ | ⟨hok, huntouched, heq⟩ |
      ⟨hok, huntouched, hlost, heq⟩ | ⟨hok, huntouched, hlost, hfst, hdangling⟩
    · -- the instance runs: it is stopped and shut down
      have hstop : s.reset.restarted.2.stop =
          (true, s.reset.restarted.2.withState .shuttingDown) := by
        rw [stop, if_neg (by simp [hstate])]
      have hkept' : s.Kept (s.reset.restarted.2.withState .shuttingDown) :=
        ⟨hkept.tx, hkept.rx, hkept.pool, hkept.chain, hkept.freed⟩
      obtain ⟨hdown, honce⟩ := hkept'.shutdown hs (.inl rfl)
      rw [tryEach_cons_of_true hfst, tryEach_cons_of_true (by rw [hstop]), hstop,
        tryEach_cons_of_true hdown, List.forall₂_cons, if_pos hok, ← ih hl]
      exact and_iff_right honce
    · -- it is as before: shutting down releases it, and those behind it
      obtain ⟨hdown, honce⟩ := s.kept_reset.shutdown hs (.inr rfl)
      have hstop : s.reset.stop = (false, s.reset) := rfl
      rw [tryEach_cons_of_false (by rw [heq]), heq, tryEach_cons_of_false (by rw [hstop]), hstop,
        tryEach_cons_of_true hdown, List.forall₂_cons, if_neg (by simp [hok])]
      exact iff_of_true ⟨honce, shutdown_reset hl⟩ (.inl huntouched)
    · -- the shutdown refuses the lost handle, and those behind are not shut down
      obtain ⟨hdown, honce⟩ := hs.shutdown_lost
      have hstop : (s.reset.withTx ⟨false, s.tx.released + 1⟩).cleanup.stop =
          (false, (s.reset.withTx ⟨false, s.tx.released + 1⟩).cleanup) := rfl
      rw [tryEach_cons_of_false (by rw [heq]), heq, tryEach_cons_of_false (by rw [hstop]), hstop,
        tryEach_cons_of_false hdown, List.forall₂_cons, if_neg (by simp [hok])]
      have hrest : List.Forall₂ Once l (l.map reset) ↔ l = [] := by
        cases l with
        | nil => exact iff_of_true .nil rfl
        | cons i l =>
          refine iff_of_false (fun hrest => ?_) (by simp)
          exact (hl i List.mem_cons_self).not_once_reset (List.forall₂_cons.mp hrest).1
      rw [hrest]
      simp [honce, huntouched, hlost]
    · -- the transmit handle is released again
      have hstop : s.reset.restarted.2.stop = (false, s.reset.restarted.2) := by
        rw [stop, if_pos (by simp [hdangling.state])]
      have hreleased := shutdown_tx hdangling.state hdangling.tx
      rw [tryEach_cons_of_false hfst, tryEach_cons_of_false (by rw [hstop]), hstop,
        if_neg (by simp [hok])]
      obtain ⟨rest, hrest⟩ := tryEach_cons_snd shutdown s.reset.restarted.2 (l.map reset)
      rw [hrest, List.forall₂_cons]
      refine iff_of_false (fun honce => ?_) (by simp [huntouched, hlost])
      have htx := honce.1.tx hs.tx
      rw [hreleased, hdangling.released] at htx
      omega

end CompressionService

/-! ## One crypto instance -/

namespace Side

variable {s : Side} {a : SideAnswers}

theorem once_freeResources (h : s.InUse) : s.Once s.freeResources where
  tx _ := by simp [freeResources, releaseIfSet, release_of_ptr h.tx]
  rx _ := by simp [freeResources, releaseIfSet, release_of_ptr h.rx]
  pools := by
    rw [freeResources, List.forall₂_map_right_iff, List.forall₂_same]
    exact fun p _ => p.once_destroy

/-- A part that the instance does not have needs no release. -/
theorem Unused.once (h : s.Unused) : s.Once s where
  tx hptr := absurd hptr (by simp [h.tx])
  rx hptr := absurd hptr (by simp [h.rx])
  pools := by
    rw [List.forall₂_same]
    exact fun p hp hlive => absurd hlive (by simp [h.pools p hp])

/-- A part is released once by freeing it, if the instance has it. -/
theorem once_ite {P : Prop} [Decidable P] (h : if P then s.Unused else s.InUse) :
    s.Once (if P then s else s.freeResources) := by
  split at h
  next hP => exact if_pos hP ▸ h.once
  next hP => exact if_neg hP ▸ once_freeResources h

/-! Freeing a part twice releases each handle twice that is set. -/

theorem InUse.not_once_tx (h : s.InUse) (rx : Handle) (pools : List Pool) :
    ¬s.Once (freeResources (freeResources ⟨s.tx, rx, pools⟩)) := by
  intro honce
  have htx := honce.tx h.tx
  simp [freeResources, releaseIfSet, release_of_ptr, h.tx] at htx

theorem InUse.not_once_rx (h : s.InUse) (tx : Handle) (pools : List Pool) :
    ¬s.Once (freeResources (freeResources ⟨tx, s.rx, pools⟩)) := by
  intro honce
  have hrx := honce.rx h.rx
  simp [freeResources, releaseIfSet, release_of_ptr, h.rx] at hrx

/-- Where re-initialising a part ends: it is as it was; or it was freed, and freeing it again
    releases one of its handles a second time. -/
theorem InUse.reinit_cases (h : s.InUse) (a : SideAnswers) :
    (a.ok = true ∧ s.reinit a = (true, s)) ∨
      (a.ok = false ∧ a.concurrentReq = false ∧ s.reinit a = (false, s)) ∨
      (a.ok = false ∧ a.concurrentReq = true ∧ (s.reinit a).1 = false ∧
        ¬s.Once (s.reinit a).2.freeResources) := by
  unfold SideAnswers.ok reinit reinitTransHandle
  cases a.concurrentReq
  · exact .inr (.inl ⟨rfl, rfl, rfl⟩)
  cases a.parseTx
  · exact .inr (.inr ⟨rfl, rfl, rfl, h.not_once_tx _ _⟩)
  cases a.reinitTx
  · exact .inr (.inr ⟨rfl, rfl, rfl, h.not_once_rx _ _⟩)
  cases a.parseRx
  · exact .inr (.inr ⟨rfl, rfl, rfl, h.not_once_tx _ _⟩)
  cases a.reinitRx
  · exact .inr (.inr ⟨rfl, rfl, rfl, h.not_once_tx _ _⟩)
  · exact .inl ⟨rfl, rfl⟩

end Side

namespace CryptoService

variable {s x : CryptoService}

/-- The instance between the two events of a restart. -/
def reset (s : CryptoService) : CryptoService := s.withState .restarting

theorem InUse.restarting_eq (h : s.InUse) : s.restarting = (true, s.reset) := by
  rw [restarting, if_neg (by rcases h.state with h | h <;> simp [h])]
  rfl

/-- The instance after it was stopped and shut down. -/
def final (s : CryptoService) : CryptoService := s.stop.2.shutdown.2

theorem final_eq (s : CryptoService) :
    s.stop.2.shutdown = (true, s.final) ∧
      s.final.asym = (if s.type = .sym then s.asym else s.asym.freeResources) ∧
      s.final.sym = (if s.type = .asym then s.sym else s.sym.freeResources) := by
  have hshutdown : s.stop.2.shutdown = (true, s.final) := by simp [final, stop, shutdown, withState]
  refine ⟨hshutdown, ?_⟩
  cases htype : s.type <;>
    simp [final, stop, shutdown, withState, htype, asymFreeResources, symFreeResources, withAsym,
      withSym]

theorem InUse.once_final (h : s.InUse) (htype : x.type = s.type) (hasym : x.asym = s.asym)
    (hsym : x.sym = s.sym) : s.Once x.final := by
  obtain ⟨-, hfinalAsym, hfinalSym⟩ := x.final_eq
  rw [htype, hasym] at hfinalAsym
  rw [htype, hsym] at hfinalSym
  exact ⟨hfinalAsym ▸ Side.once_ite h.asym, hfinalSym ▸ Side.once_ite h.sym⟩

/-- A part that is released twice by the shutdown. -/
theorem not_once_asym (htype : x.type ≠ .sym) (h : ¬s.asym.Once x.asym.freeResources) :
    ¬s.Once x.final := by
  intro honce
  have hasym := honce.asym
  rw [x.final_eq.2.1, if_neg htype] at hasym
  exact h hasym

theorem not_once_sym (htype : x.type ≠ .asym) (h : ¬s.sym.Once x.sym.freeResources) :
    ¬s.Once x.final := by
  intro honce
  have hsym := honce.sym
  rw [x.final_eq.2.2, if_neg htype] at hsym
  exact h hsym

/-- Where re-initialising an instance ends: it runs; it is as it was; or one of its handles will be
    released twice. -/
def RestartEnds (s : CryptoService) : Prop :=
  (s.answers.ok s.type = true ∧ s.reset.restarted.1 = true ∧ s.Once s.reset.restarted.2.final) ∨
    (s.answers.ok s.type = false ∧ s.answers.untouched s.type = true ∧
      s.reset.restarted.1 = false ∧ s.Once s.reset.restarted.2.final) ∨
    (s.answers.ok s.type = false ∧ s.answers.untouched s.type = false ∧
      s.reset.restarted.1 = false ∧ ¬s.Once s.reset.restarted.2.final)

/-- An instance whose first part decides. -/
theorem RestartEnds.of_part {part : Side} {a : SideAnswers} (huse : part.InUse)
    (hok : s.answers.ok s.type = a.ok) (huntouched : s.answers.untouched s.type = !a.concurrentReq)
    (hfst : s.reset.restarted.1 = (part.reinit a).1)
    (hkept : (part.reinit a).2 = part → s.Once s.reset.restarted.2.final)
    (htwice : ¬part.Once (part.reinit a).2.freeResources → ¬s.Once s.reset.restarted.2.final) :
    s.RestartEnds := by
  rw [RestartEnds, hok, huntouched, hfst]
  rcases huse.reinit_cases a with ⟨hok, heq⟩ | ⟨hok, hreq, heq⟩ | ⟨hok, hreq, hfalse, hnot⟩
  · exact .inl ⟨hok, by rw [heq], hkept (by rw [heq])⟩
  · exact .inr (.inl ⟨hok, by simp [hreq], by rw [heq], hkept (by rw [heq])⟩)
  · exact .inr (.inr ⟨hok, by simp [hreq], hfalse, htwice hnot⟩)

/-! What `SalCtrl_CryptoRestarted` does once the parameters are read, by type. -/

section Read

variable (hread : s.answers.instInit = true ∧ s.answers.debug = true)
include hread

theorem restarted_asym (htype : s.type = .asym) :
    s.reset.restarted.1 = (s.asym.reinit s.answers.asym).1 ∧ s.reset.restarted.2.type = .asym ∧
      s.reset.restarted.2.asym = (s.asym.reinit s.answers.asym).2 ∧
      s.reset.restarted.2.sym = s.sym := by
  cases hfst : (s.asym.reinit s.answers.asym).1 <;>
    simp [restarted, reset, withState, asymReinit, withAsym, htype, hread, hfst]

theorem restarted_sym (htype : s.type = .sym) :
    s.reset.restarted.1 = (s.sym.reinit s.answers.sym).1 ∧ s.reset.restarted.2.type = .sym ∧
      s.reset.restarted.2.asym = s.asym ∧
      s.reset.restarted.2.sym = (s.sym.reinit s.answers.sym).2 := by
  cases hfst : (s.sym.reinit s.answers.sym).1 <;>
    simp [restarted, reset, withState, symReinit, withSym, htype, hread, hfst]

theorem restarted_both_of_false (htype : s.type = .both)
    (hfst : (s.asym.reinit s.answers.asym).1 = false) :
    s.reset.restarted.1 = false ∧ s.reset.restarted.2.type = .both ∧
      s.reset.restarted.2.asym = (s.asym.reinit s.answers.asym).2 ∧
      s.reset.restarted.2.sym = s.sym := by
  simp [restarted, reset, withState, asymReinit, withAsym, htype, hread, hfst]

/-- A failure of the symmetric part frees the asymmetric part as well. -/
theorem restarted_both (htype : s.type = .both)
    (heq : s.asym.reinit s.answers.asym = (true, s.asym)) :
    s.reset.restarted.1 = (s.sym.reinit s.answers.sym).1 ∧ s.reset.restarted.2.type = .both ∧
      s.reset.restarted.2.asym =
        (if (s.sym.reinit s.answers.sym).1 then s.asym else s.asym.freeResources) ∧
      s.reset.restarted.2.sym = (s.sym.reinit s.answers.sym).2 := by
  cases hfst : (s.sym.reinit s.answers.sym).1 <;>
    simp [restarted, reset, withState, asymReinit, symReinit, withAsym, withSym,
      asymFreeResources, htype, hread, heq, hfst]

theorem InUse.restartEnds_asym (h : s.InUse) (htype : s.type = .asym) : s.RestartEnds := by
  obtain ⟨hfst, htype', hasym, hsym⟩ := restarted_asym hread htype
  refine .of_part (by simpa [htype] using h.asym) ?_ ?_ hfst (fun heq => ?_) fun hnot => ?_
  · simp [CryptoAnswers.ok, htype, hread]
  · simp [CryptoAnswers.untouched, htype, hread]
  · exact h.once_final (htype'.trans htype.symm) (hasym.trans heq) hsym
  · exact not_once_asym (by simp [htype']) (hasym ▸ hnot)

theorem InUse.restartEnds_sym (h : s.InUse) (htype : s.type = .sym) : s.RestartEnds := by
  obtain ⟨hfst, htype', hasym, hsym⟩ := restarted_sym hread htype
  refine .of_part (by simpa [htype] using h.sym) ?_ ?_ hfst (fun heq => ?_) fun hnot => ?_
  · simp [CryptoAnswers.ok, htype, hread]
  · simp [CryptoAnswers.untouched, htype, hread]
  · exact h.once_final (htype'.trans htype.symm) hasym (hsym.trans heq)
  · exact not_once_sym (by simp [htype']) (hsym ▸ hnot)

theorem InUse.restartEnds_both (h : s.InUse) (htype : s.type = .both) : s.RestartEnds := by
  have huse : s.asym.InUse := by simpa [htype] using h.asym
  have huseSym : s.sym.InUse := by simpa [htype] using h.sym
  have hok : s.answers.ok s.type = (s.answers.asym.ok && s.answers.sym.ok) := by
    simp [CryptoAnswers.ok, htype, hread]
  have huntouched : s.answers.untouched s.type = !s.answers.asym.concurrentReq := by
    simp [CryptoAnswers.untouched, htype, hread]
  rw [RestartEnds, hok, huntouched]
  rcases huse.reinit_cases s.answers.asym with ⟨hok, heq⟩ | ⟨hok, hreq, heq⟩ |
    ⟨hok, hreq, hfalse, htwice⟩
  · obtain ⟨hfst, htype', hasym, hsym⟩ := restarted_both hread htype heq
    have hreq : s.answers.asym.concurrentReq = true := by
      simp only [SideAnswers.ok, Bool.and_eq_true] at hok
      exact hok.1.1.1.1
    rw [hfst, hok, hreq, Bool.true_and]
    have htwice : (s.sym.reinit s.answers.sym).1 = false → ¬s.Once s.reset.restarted.2.final := by
      intro hfalse
      rw [hfalse, if_neg (by simp)] at hasym
      refine not_once_asym (by simp [htype']) ?_
      rw [hasym]
      exact huse.not_once_tx s.asym.rx s.asym.pools
    rcases huseSym.reinit_cases s.answers.sym with ⟨hok, heq⟩ | ⟨hok, -, heq⟩ | ⟨hok, -, hfalse, -⟩
    · rw [heq] at hasym hsym ⊢
      exact .inl ⟨hok, rfl, h.once_final (htype'.trans htype.symm) hasym hsym⟩
    · exact .inr (.inr ⟨hok, rfl, by rw [heq], htwice (by rw [heq])⟩)
    · exact .inr (.inr ⟨hok, rfl, hfalse, htwice hfalse⟩)
  · obtain ⟨hfst, htype', hasym, hsym⟩ := restarted_both_of_false hread htype (by rw [heq])
    rw [heq] at hasym
    exact .inr (.inl ⟨by simp [hok], by simp [hreq], hfst,
      h.once_final (htype'.trans htype.symm) hasym hsym⟩)
  · obtain ⟨hfst, htype', hasym, hsym⟩ := restarted_both_of_false hread htype hfalse
    rw [← hasym] at htwice
    exact .inr (.inr ⟨by simp [hok], by simp [hreq], hfst, not_once_asym (by simp [htype']) htwice⟩)

end Read

theorem InUse.restartEnds (h : s.InUse) : s.RestartEnds := by
  by_cases hread : s.answers.instInit = true ∧ s.answers.debug = true
  · cases htype : s.type with
    | asym => exact h.restartEnds_asym hread htype
    | sym => exact h.restartEnds_sym hread htype
    | both => exact h.restartEnds_both hread htype
  · -- the parameters cannot be read: nothing has been touched
    have hrestarted : s.reset.restarted = (false, s.withState .initializing) := by
      rw [restarted, if_neg (by simp [reset, withState])]
      by_cases hinst : s.answers.instInit = true
      · simp [reset, withState, hinst, show s.answers.debug = false by simpa [hinst] using hread]
      · simp [reset, withState, hinst]
    rw [RestartEnds, hrestarted]
    refine .inr (.inl ⟨?_, ?_, rfl, h.once_final rfl rfl rfl⟩)
    · simp only [CryptoAnswers.ok, Bool.and_eq_false_imp, Bool.and_eq_true]
      exact fun h => absurd h hread
    · by_cases hinst : s.answers.instInit = true
      · simp [CryptoAnswers.untouched, show s.answers.debug = false by simpa [hinst] using hread]
      · simp [CryptoAnswers.untouched, hinst]

/-! ## All crypto instances -/

variable {l : List CryptoService}

theorem restarting_all (h : ∀ i ∈ l, i.InUse) :
    tryEach CryptoService.restarting l = (true, l.map reset) :=
  tryEach_eq_map fun i hi => (h i hi).restarting_eq

theorem down_eq (l : List CryptoService) :
    (tryEach CryptoService.shutdown (tryEach CryptoService.stop l).2).2 = l.map final := by
  have hstop : tryEach CryptoService.stop l = (true, l.map fun i => i.stop.2) :=
    tryEach_eq_map fun _ _ => rfl
  have hshutdown : ∀ x ∈ l.map fun i => i.stop.2, x.shutdown = (true, x.shutdown.2) := by
    intro x hx
    obtain ⟨i, -, rfl⟩ := List.mem_map.mp hx
    exact i.final_eq.1
  rw [hstop, tryEach_eq_map hshutdown, List.map_map]
  rfl

/-- Instances that were not reached are released once. -/
theorem final_reset (h : ∀ i ∈ l, i.InUse) :
    List.Forall₂ Once l ((l.map reset).map final) := by
  rw [List.map_map, List.forall₂_map_right_iff, List.forall₂_same]
  exact fun i hi => (h i hi).once_final rfl rfl rfl

theorem restarted_all_fst (h : ∀ i ∈ l, i.InUse) :
    (tryEach restarted (l.map reset)).1 = l.all fun i => i.answers.ok i.type := by
  induction l with
  | nil => rfl
  | cons s l ih =>
    obtain ⟨hs, hl⟩ := List.forall_mem_cons.mp h
    rw [List.map_cons, List.all_cons]
    rcases hs.restartEnds with ⟨hok, hfst, -⟩ | ⟨hok, -, hfst, -⟩ | ⟨hok, -, hfst, -⟩
    · rw [tryEach_cons_of_true hfst, ih hl, hok, Bool.true_and]
    all_goals rw [tryEach_cons_of_false hfst, hok, Bool.false_and]

/-- The instances are released once exactly when the first failure comes early. -/
theorem final_restarted (h : ∀ i ∈ l, i.InUse) :
    List.Forall₂ Once l ((tryEach restarted (l.map reset)).2.map final) ↔ FailsEarlyCy l := by
  induction l with
  | nil => exact iff_of_true .nil trivial
  | cons s l ih =>
    obtain ⟨hs, hl⟩ := List.forall_mem_cons.mp h
    rw [List.map_cons, FailsEarlyCy]
    rcases hs.restartEnds with ⟨hok, hfst, honce⟩ | ⟨hok, huntouched, hfst, honce⟩ |
      ⟨hok, huntouched, hfst, hnot⟩
    · rw [tryEach_cons_of_true hfst, List.map_cons, List.forall₂_cons, if_pos hok, ← ih hl]
      exact and_iff_right honce
    · rw [tryEach_cons_of_false hfst, List.map_cons, List.forall₂_cons, if_neg (by simp [hok])]
      exact iff_of_true ⟨honce, final_reset hl⟩ huntouched
    · rw [tryEach_cons_of_false hfst, List.map_cons, List.forall₂_cons, if_neg (by simp [hok])]
      exact iff_of_false (fun honce => hnot honce.1) (by simp [huntouched])

end CryptoService

/-! ## The whole device -/

namespace Services

variable {s : Services} {e : EventAnswers}

/-- The device between the two events of a restart. -/
def reset (s : Services) : Services :=
  ⟨s.asym.map CryptoService.reset, s.sym.map CryptoService.reset, s.crypto.map CryptoService.reset,
    s.compression.map CompressionService.reset⟩

theorem InUse.eventRestarting_eq (h : s.InUse) : s.eventRestarting = (true, s.reset) := by
  simp [eventRestarting, CryptoService.restarting_all h.asym, CryptoService.restarting_all h.sym,
    CryptoService.restarting_all h.crypto, CompressionService.restarting_all h.compression, reset]

/-- The instances of a service after its turn, if it has one. -/
def afterTurn {α : Type} (reached : Bool) (restarted : α → Bool × α) (l : List α) : List α :=
  if reached then (tryEach restarted l).2 else l

/-- The services are restarted one after the other, up to the first that fails. -/
theorem InUse.restartServices_snd (h : s.InUse) :
    (s.reset.restartServices e).2 = ⟨afterTurn (reachesAsym e) CryptoService.restarted s.reset.asym,
        afterTurn (s.reachesSym e) CryptoService.restarted s.reset.sym,
        afterTurn (s.reachesCrypto e) CryptoService.restarted s.reset.crypto,
        afterTurn (s.reachesCompression e) CompressionService.restarted s.reset.compression⟩ := by
  have hasym := CryptoService.restarted_all_fst h.asym
  have hsym := CryptoService.restarted_all_fst h.sym
  have hcrypto := CryptoService.restarted_all_fst h.crypto
  unfold restartServices serviceRestarted afterTurn reachesCompression reachesCrypto reachesSym
    reachesAsym reset
  cases e.verFile
  · rfl
  cases e.asymDir
  · rfl
  cases hasymOk : s.asym.all fun i => i.answers.ok i.type
  · simp [hasym, hasymOk]
  cases e.symDir
  · simp [hasym, hasymOk]
  cases hsymOk : s.sym.all fun i => i.answers.ok i.type
  · simp [hasym, hasymOk, hsym, hsymOk]
  cases e.cyDir
  · simp [hasym, hasymOk, hsym, hsymOk]
  cases hcryptoOk : s.crypto.all fun i => i.answers.ok i.type
  · simp [hasym, hasymOk, hsym, hsymOk, hcrypto, hcryptoOk]
  cases e.dcDir <;> simp [hasym, hasymOk, hsym, hsymOk, hcrypto, hcryptoOk]

theorem final_afterTurn {l : List CryptoService} (h : ∀ i ∈ l, i.InUse) (reached : Bool) :
    List.Forall₂ CryptoService.Once l
        ((afterTurn reached CryptoService.restarted (l.map CryptoService.reset)).map
          CryptoService.final) ↔ (reached = true → FailsEarlyCy l) := by
  cases reached with
  | false => exact iff_of_true (CryptoService.final_reset h) (by simp)
  | true => simpa [afterTurn] using CryptoService.final_restarted h

theorem down_afterTurn (h : ∀ i ∈ l, i.InUse) (reached : Bool) :
    List.Forall₂ CompressionService.Once l (CompressionService.down
          (afterTurn reached CompressionService.restarted (l.map CompressionService.reset))) ↔
      (reached = true → FailsEarlyDc l) := by
  cases reached with
  | false => exact iff_of_true (CompressionService.down_reset h) (by simp)
  | true => simpa [afterTurn] using CompressionService.down_restarted h

end Services

/-- **Releasing after a failed restart.** When the restart of a device in use fails, what the
    instances held has been released exactly once if and only if the instance that failed did so
    early. -/
theorem restart_releases_once_iff {s : Services} {e : EventAnswers} (h : s.InUse)
    (hsupported : e.supported = true) (hfailed : (s.restart e).1 = false) :
    s.ReleasedOnce (s.restart e).2 ↔ s.FailsEarly e := by
  have hfst : (s.reset.restartServices e).1 = false := by
    by_contra hok
    rw [Bool.not_eq_false] at hok
    simp [Services.restart, h.eventRestarting_eq, Services.eventRestarted, hsupported, hok]
      at hfailed
  have hfinal : (s.restart e).2 = (s.reset.restartServices e).2.eventStop.eventShutdown := by
    simp [Services.restart, h.eventRestarting_eq, Services.eventRestarted, hsupported, hfst]
  rw [hfinal, h.restartServices_snd]
  have hasym := Services.final_afterTurn h.asym (Services.reachesAsym e)
  have hsym := Services.final_afterTurn h.sym (s.reachesSym e)
  have hcrypto := Services.final_afterTurn h.crypto (s.reachesCrypto e)
  have hdc := Services.down_afterTurn h.compression (s.reachesCompression e)
  rw [← CryptoService.down_eq] at hasym hsym hcrypto
  constructor
  · intro hreleased
    exact ⟨hasym.mp hreleased.asym, hsym.mp hreleased.sym, hcrypto.mp hreleased.crypto,
      hdc.mp hreleased.compression⟩
  · intro hearly
    exact ⟨hasym.mpr hearly.asym, hsym.mpr hearly.sym, hcrypto.mpr hearly.crypto,
      hdc.mpr hearly.compression⟩

/-- Every step succeeds. -/
def sampleAnswers : DcAnswers :=
  ⟨true, true, true, true, true, true, true, true, true, true, true, true⟩

/-- A compression instance in use, with a chain service. -/
def sampleInstance (a : DcAnswers) : CompressionService :=
  ⟨.running, ⟨true, 0⟩, ⟨true, 0⟩, ⟨true, 0⟩, some .held, 0, 0, a⟩

theorem sampleInstance_inUse (a : DcAnswers) : (sampleInstance a).InUse :=
  ⟨.inl rfl, rfl, rfl, by simp [sampleInstance]⟩

/-- Two compression instances with the given answers. -/
def sampleServices (a a' : DcAnswers) : Services :=
  ⟨[], [], [], [sampleInstance a, sampleInstance a']⟩

theorem sampleServices_inUse (a a' : DcAnswers) : (sampleServices a a').InUse := by
  refine ⟨by simp [sampleServices], by simp [sampleServices], by simp [sampleServices], ?_⟩
  simp [sampleServices, sampleInstance_inUse]

/-- Nothing fails but instances. -/
def sampleEvent : EventAnswers := ⟨true, true, true, true, true, true⟩

/-- The parameters of the second instance cannot be read. -/
theorem restart_releases_once_two :
    (sampleServices sampleAnswers { sampleAnswers with instInit := false }).ReleasedOnce
      ((sampleServices sampleAnswers { sampleAnswers with instInit := false }).restart
        sampleEvent).2 :=
  (restart_releases_once_iff (sampleServices_inUse _ _) rfl (by decide)).mpr
    ⟨fun _ => trivial, fun _ => trivial, fun _ => trivial, fun _ => by
      simp [sampleServices, FailsEarlyDc, sampleInstance, sampleAnswers, DcAnswers.ok,
        DcAnswers.untouched]⟩

/-- The receive ring of the second instance cannot be re-initialised: its transmit handle is released
    twice. The transmit ring of the first cannot be re-initialised: the handles of the second are
    never released. -/
theorem restart_releases_twice :
    (∃ s', (sampleServices sampleAnswers { sampleAnswers with reinitRx := false }).restart
        sampleEvent = (false, s') ∧ s'.compression.map (fun i => i.tx.released) = [1, 2] ∧
        ¬(sampleServices sampleAnswers { sampleAnswers with reinitRx := false }).ReleasedOnce s') ∧
      ∃ s', (sampleServices { sampleAnswers with reinitTx := false } sampleAnswers).restart
        sampleEvent = (false, s') ∧ s'.compression.map (fun i => i.tx.released) = [1, 0] := by
  refine ⟨⟨_, rfl, by decide, fun honce => ?_⟩, _, rfl, by decide⟩
  have hsecond := (List.forall₂_cons.mp (List.forall₂_cons.mp honce.compression).2).1
  exact absurd (hsecond.tx rfl) (by decide)

end Qatlib.Sal
