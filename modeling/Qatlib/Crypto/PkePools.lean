import Mathlib.Data.List.Perm.Basic
import Qatlib.Crypto.Pke

set_option autoImplicit false

/-! # The pools of the public key service

Every entry of the request pool is free or belongs to a chain that is not finished, under
construction or on the ring, and so is every entry of the alignment pool. `ReqsOk` is the invariant
for the request pool.

After a device error the accounts need not hold. `LacPke_SwRespMsgCallback` frees the head of a chain and
`LacSwResp_MemBlkBucketCreate` its other requests, but nobody frees the alignment buffers
(`dummy_response_loses_buffer`); and the entries of a chain that is still under construction are put
on the stack while its owner goes on using them. `pke_pools_balanced` is for the runs in which, when
dummy responses are generated, every chain has been sent and holds no alignment buffer, the heads of
the chains on the ring and no others are marked with sequence numbers without a gap, and there is
memory for the bucket. -/

namespace Qatlib.Crypto

open Qatlib.Utils

/-! ## Chains -/

namespace PkeRequest

/-- What chains hold, by what each of them holds. -/
def held (rs : List PkeRequest) (f : PkeRequest → List Nat) : List Nat := rs.flatMap f

theorem held_perm {rs rs' : List PkeRequest} (h : rs.Perm rs') (f : PkeRequest → List Nat) :
    (held rs f).Perm (held rs' f) :=
  h.flatMap_right f

theorem blks_eq (r : PkeRequest) : r.blks = r.head :: r.tail := by
  cases h : r.earlier with
  | nil => simp [tail, blks, chain, head, h]
  | cons first rest => simp [tail, blks, chain, head, h]

theorem head_mem_blks (r : PkeRequest) : r.head ∈ r.blks := by
  rw [blks_eq]
  exact List.mem_cons_self

/-- The heads, then the other entries. -/
theorem held_blks_perm (rs : List PkeRequest) :
    (held rs blks).Perm (rs.map head ++ held rs tail) := by
  induction rs with
  | nil => exact List.Perm.refl _
  | cons r rs ih =>
    simp only [held, List.flatMap_cons, List.map_cons, List.cons_append] at ih ⊢
    rw [blks_eq, List.cons_append]
    refine List.Perm.cons _ ((ih.append_left r.tail).trans ?_)
    rw [← List.append_assoc, ← List.append_assoc]
    exact List.perm_append_comm.append_right _

end PkeRequest

variable {pool pool' : MemPool} {b k : Nat} {blks : List Nat} {params : List PkeParam}

/-- The chain at an index of a list, then the others. -/
theorem perm_cons_eraseIdx {α : Type} {rs : List α} {r : α} (h : rs[k]? = some r) :
    rs.Perm (r :: rs.eraseIdx k) := by
  obtain ⟨hk, rfl⟩ := List.getElem?_eq_some_iff.mp h
  exact (List.getElem_cons_eraseIdx_perm hk).symm

/-! ## Destroying a chain -/

theorem freeChain_accounts {held : List Nat} (h : pool.Accounts (blks ++ held)) :
    (freeChain pool blks).Accounts held := by
  induction blks generalizing pool with
  | nil => exact h
  | cons b blks ih => exact ih (h.setOpaque b none).entryFree

theorem freeChain_enabled (pool : MemPool) (blks : List Nat) :
    (freeChain pool blks).active = pool.active ∧ (freeChain pool blks).sync = pool.sync := by
  induction blks generalizing pool with
  | nil => exact ⟨rfl, rfl⟩
  | cons b blks ih => exact ih ((pool.setOpaque b none).entryFree b)

theorem freeChain_opaqueSeq_of_not_mem {c : Nat} (h : c ∉ blks) :
    ((freeChain pool blks).blk c).opaqueSeq = (pool.blk c).opaqueSeq := by
  induction blks generalizing pool with
  | nil => rfl
  | cons b blks ih =>
    rw [List.mem_cons, not_or] at h
    obtain ⟨hne, hrest⟩ := h
    refine (ih hrest).trans ?_
    rw [MemPool.entryFree_opaqueSeq, pool.setOpaque_opaqueSeq_of_ne hne]

theorem freeChain_opaqueSeq_of_mem {c : Nat} (h : c ∈ blks) :
    ((freeChain pool blks).blk c).opaqueSeq = none := by
  induction blks generalizing pool with
  | nil => exact absurd h List.not_mem_nil
  | cons b blks ih =>
    by_cases hc : c ∈ blks
    · exact ih hc
    · obtain rfl : c = b := by simpa [hc] using h
      refine (freeChain_opaqueSeq_of_not_mem hc).trans ?_
      rw [MemPool.entryFree_opaqueSeq, MemPool.setOpaque_opaqueSeq_self]

theorem freeChain_opaqueSeq_none {c : Nat} (h : c ∉ blks → (pool.blk c).opaqueSeq = none) :
    ((freeChain pool blks).blk c).opaqueSeq = none := by
  by_cases hmem : c ∈ blks
  · exact freeChain_opaqueSeq_of_mem hmem
  · exact (freeChain_opaqueSeq_of_not_mem hmem).trans (h hmem)

/-! ## The request pool -/

/-- The request pool with chains under construction and on the ring. -/
structure ReqsOk (pool : MemPool) (building ring : List PkeRequest) : Prop where
  accounts : pool.Accounts (PkeRequest.held (building ++ ring) PkeRequest.blks)
  /-- Dummy responses are still to be generated, or they were and every chain is finished. -/
  phase : pool.sync = 1 ∨ pool.active = false ∧ pool.sync ≤ 0 ∧ building = [] ∧ ring = []

open PkeRequest

namespace ReqsOk

variable {pool : MemPool} {building building' ring ring' : List PkeRequest} {r r' : PkeRequest}

theorem create (n : Nat) : ReqsOk (MemPool.create n) [] [] := ⟨.create n, .inl rfl⟩

theorem congr (h : ReqsOk pool building ring) (hb : building.Perm building')
    (hr : ring.Perm ring') : ReqsOk pool building' ring' where
  accounts := h.accounts.congr (held_perm (hb.append hr) _)
  phase := by
    rcases h.phase with hsync | ⟨hactive, hsync, rfl, rfl⟩
    · exact .inl hsync
    · exact .inr ⟨hactive, hsync, hb.nil_eq.symm, hr.nil_eq.symm⟩

/-- There is a chain, so dummy responses are still to be generated. -/
theorem sync_of_building (h : ReqsOk pool (r :: building) ring) : pool.sync = 1 := by
  rcases h.phase with hsync | ⟨-, -, hnil, -⟩
  · exact hsync
  · exact absurd hnil (by simp)

theorem sync_of_ring (h : ReqsOk pool building (r :: ring)) : pool.sync = 1 := by
  rcases h.phase with hsync | ⟨-, -, -, hnil⟩
  · exact hsync
  · exact absurd hnil (by simp)

theorem sync_of_entryAlloc (h : ReqsOk pool building ring)
    (halloc : pool.entryAlloc = (.entry b, pool')) : pool.sync = 1 := by
  rcases h.phase with hsync | ⟨hinactive, -⟩
  · exact hsync
  · rw [(MemPool.entryAlloc_entry halloc).1] at hinactive
    exact absurd hinactive (by simp)

theorem alloc (h : ReqsOk pool building ring) (halloc : pool.entryAlloc = (.entry b, pool'))
    (hblks : (b :: PkeRequest.held building PkeRequest.blks).Perm
      (PkeRequest.held building' PkeRequest.blks)) : ReqsOk pool' building' ring := by
  obtain ⟨-, -, hsync, -⟩ := MemPool.entryAlloc_entry halloc
  refine ⟨(h.accounts.entryAlloc halloc).congr ?_, .inl ?_⟩
  · simp only [PkeRequest.held, List.flatMap_append] at hblks ⊢
    exact hblks.append_right _
  · rw [hsync, h.sync_of_entryAlloc halloc]

theorem replace (h : ReqsOk pool (r :: building) ring) (hblks : r'.blks = r.blks) :
    ReqsOk pool (r' :: building) ring where
  accounts := by
    have hacc := h.accounts
    simp only [held, List.cons_append, List.flatMap_cons] at hacc ⊢
    rwa [hblks]
  phase := .inl h.sync_of_building

theorem destroy (h : ReqsOk pool (r :: building) ring) :
    ReqsOk (freeChain pool r.blks) building ring := by
  obtain ⟨-, hsync⟩ := freeChain_enabled pool r.blks
  exact ⟨freeChain_accounts h.accounts, .inl (hsync.trans h.sync_of_building)⟩

theorem answer (h : ReqsOk pool building (r :: ring)) :
    ReqsOk (freeChain pool r.blks) building ring := by
  obtain ⟨-, hsync⟩ := freeChain_enabled pool r.blks
  have hacc := h.accounts.congr (held_perm List.perm_middle _)
  exact ⟨freeChain_accounts hacc, .inl (hsync.trans h.sync_of_ring)⟩

theorem send (h : ReqsOk pool (r :: building) ring) : ReqsOk pool building (ring ++ [r]) := by
  refine ⟨h.accounts.congr (held_perm ?_ _), .inl h.sync_of_building⟩
  rw [List.cons_append, ← List.append_assoc]
  exact (List.perm_append_singleton r _).symm

theorem mark (h : ReqsOk pool building ring) (b : Nat) (seq : Option Nat) :
    ReqsOk (pool.setOpaque b seq) building ring :=
  ⟨h.accounts.setOpaque b seq, h.phase⟩

theorem disable (h : ReqsOk pool building ring) : ReqsOk pool.disable building ring where
  accounts := ⟨h.accounts.partition, h.accounts.avail, h.accounts.inUse⟩
  phase := by
    rcases h.phase with hsync | ⟨-, hsync, hnil⟩
    · exact .inl hsync
    · exact .inr ⟨rfl, hsync, hnil⟩

theorem asymReinit (h : ReqsOk pool building ring) (hsync : pool.sync ≤ 0) :
    building = [] ∧ ring = [] ∧ ReqsOk pool.enable.initCookies [] [] := by
  rcases h.phase with hone | ⟨-, -, rfl, rfl⟩
  · omega
  · exact ⟨rfl, rfl, ⟨h.accounts.partition, h.accounts.avail, h.accounts.inUse⟩, .inl rfl⟩

/-- **A call of `LacSwResp_GenResp`** that goes through the blocks finishes every chain, in the order of
    sending, when every chain has been sent, the numbers of the heads on the ring have no gap, and no
    other request of a chain is marked. -/
theorem genResp (h : ReqsOk pool [] ring) (hgen : pool.Generates) {first : Nat}
    (hmarks : ∀ e ∈ (ring.map head).zipIdx first, (pool.blk e.1).opaqueSeq = some e.2)
    (hothers : ∀ b ∈ held ring tail, (pool.blk b).opaqueSeq = none) :
    ∃ g, pool.genResp true = some g ∧ g.blks = ring.map head ∧ ReqsOk g.pool [] [] ∧
      g.pool.sync = 0 := by
  have hmarked : pool.Marked (ring.map head) (held ring tail)
      first := ⟨h.accounts.congr (held_blks_perm ring), hmarks, hothers⟩
  obtain ⟨g, hg, hblks, hacc, hactive, hsync⟩ := MemPool.genResp_of_marked hmarked hgen
  exact ⟨g, hg, hblks, ⟨hacc, .inr ⟨hactive, Int.le_of_eq hsync, rfl, rfl⟩⟩, hsync⟩

/-- Any other call changes nothing but `sync`. -/
theorem genResp_again (h : ReqsOk pool building ring) (hgen : ¬ pool.Generates) (memAlloc : Bool) :
    ∃ g, pool.genResp memAlloc = some g ∧ g.blks = [] ∧ ReqsOk g.pool building ring ∧
      g.pool.blk = pool.blk ∧ (g.pool.sync = 1 → pool.sync = 1) := by
  obtain ⟨g, hg, hblks, hpool⟩ := MemPool.genResp_of_not_generates hgen memAlloc
  refine ⟨g, hg, hblks, ?_⟩
  rcases hpool with hpool | ⟨hinactive, hpool⟩
  · rw [hpool]
    exact ⟨h, rfl, id⟩
  · rw [hpool]
    rcases h.phase with hsync | ⟨hactive, hsync, hnil⟩
    · exact absurd ⟨hinactive, hsync⟩ hgen
    · refine ⟨⟨⟨h.accounts.partition, h.accounts.avail, h.accounts.inUse⟩,
        .inr ⟨hactive, ?_, hnil⟩⟩, rfl, fun (hone : pool.sync - 1 = 1) => ?_⟩
      · change pool.sync - 1 ≤ 0
        omega
      · omega

end ReqsOk

/-! ## What a step does to a chain under construction -/

namespace PkeInstance

/-- The effects of a step on a chain that was taken out of `building`. -/
inductive Works (s : PkeInstance) (r : PkeRequest) : PkeInstance → Prop where
  | destroyed : Works s r (s.destroyRequest r)
  | chained (params : List PkeParam) {b : Nat} {pool : MemPool}
      (halloc : s.lacPkeReqPool.entryAlloc = (.entry b, pool)) :
      Works s r { s with
        lacPkeReqPool := pool
        cbInfo := Function.update s.cbInfo b r.tag
        building := { r with earlier := r.chain, current := ⟨b, []⟩, todo := params } ::
          s.building }
  | unpadded (rest : List PkeParam) :
      Works s r { s with building := { r with todo := rest } :: s.building }
  | padded (rest : List PkeParam) {b : Nat} {pool : MemPool}
      (halloc : s.lacPkeAlignPool.entryAlloc = (.entry b, pool)) :
      Works s r { s with
        lacPkeAlignPool := pool
        building := { r with
          current := { r.current with buffers := r.current.buffers ++ [b] }
          todo := rest } :: s.building }
  | sent :
      Works s r { s with
        sendSeq := s.sendSeq + 1
        ring := s.ring ++ [r]
        marking := s.marking ++ [(r.head, s.sendSeq)]
        accepted := s.accepted ++ [r.tag] }

variable {s t : PkeInstance} {r : PkeRequest}

theorem createNext_works (h : s.createNext r params = some t) : s.Works r t := by
  unfold createNext at h
  split at h
  · exact absurd h (by simp)
  · split at h
    · cases h
      exact .destroyed
    · exact absurd h (by simp)
    · next halloc =>
      cases h
      exact .chained params halloc

theorem icpLacBufferResize_workingBuffer {prm : PkeParam}
    (h : icpLacBufferResize pool prm = (.workingBuffer b, pool')) :
    pool.entryAlloc = (.entry b, pool') := by
  unfold icpLacBufferResize at h
  split at h
  · exact absurd h (by simp)
  · split at h
    · exact absurd h (by simp)
    · split at h
      · split at h
        · exact absurd h (by simp)
        · exact absurd h (by simp)
        · next halloc =>
          simp only [Prod.mk.injEq, Resized.workingBuffer.injEq] at h
          obtain ⟨rfl, rfl⟩ := h
          exact halloc
      · split at h <;> exact absurd h (by simp)

theorem resizeParam_works (h : s.resizeParam r = some t) : s.Works r t := by
  unfold resizeParam at h
  split at h
  · exact absurd h (by simp)
  · next prm rest htodo =>
    split at h
    · cases h
      exact .destroyed
    · exact absurd h (by simp)
    · cases h
      exact .unpadded rest
    · next hresize =>
      cases h
      exact .padded rest (icpLacBufferResize_workingBuffer hresize)

theorem sendRequest_works {put : Bool} (h : s.sendRequest r put = some t) : s.Works r t := by
  unfold sendRequest at h
  split at h
  · exact absurd h (by simp)
  · split at h
    · cases h
      exact .sent
    · cases h
      exact .destroyed

/-- What `onBuilding` does, with the chain that it takes out. -/
theorem onBuilding_works {f : PkeInstance → PkeRequest → Option PkeInstance}
    (hf : ∀ s r t, f s r = some t → s.Works r t) (h : s.onBuilding k f = some t) :
    ∃ r, s.building.Perm (r :: s.building.eraseIdx k) ∧
      Works { s with building := s.building.eraseIdx k } r t := by
  obtain ⟨r, hr, hstep⟩ := Option.bind_eq_some_iff.mp h
  exact ⟨r, perm_cons_eraseIdx hr, hf _ _ _ hstep⟩

/-- The entries of a request pool through a step on a chain under construction. -/
theorem Works.reqsOk (hworks : s.Works r t) (h : ReqsOk s.lacPkeReqPool (r :: s.building) s.ring) :
    ReqsOk t.lacPkeReqPool t.building t.ring := by
  cases hworks with
  | destroyed => exact h.destroy
  | chained params halloc =>
    refine h.alloc halloc ?_
    simp only [held, List.flatMap_cons, blks, chain, List.map_append, List.map_singleton]
    rw [← List.cons_append]
    exact (List.perm_append_singleton _ _).symm.append_right _
  | unpadded rest => exact h.replace rfl
  | padded rest halloc =>
    refine h.replace ?_
    simp [blks, chain]
  | sent => exact h.send

theorem createFirst_cases (h : s.createFirst params = some t) :
    t = s ∨ ∃ b pool, s.lacPkeReqPool.entryAlloc = (.entry b, pool) ∧ t = { s with
      lacPkeReqPool := pool
      cbInfo := Function.update s.cbInfo b s.numCreated
      building := ⟨s.numCreated, [], ⟨b, []⟩, params⟩ :: s.building
      numCreated := s.numCreated + 1 } := by
  unfold createFirst at h
  split at h
  · exact .inl (Option.some.inj h).symm
  · exact absurd h (by simp)
  · next b pool halloc => exact .inr ⟨b, pool, halloc, (Option.some.inj h).symm⟩

/-! ## Both pools -/

/-- The two pools of an instance and the chains that are not finished. -/
structure PoolsOk (s : PkeInstance) : Prop where
  reqs : ReqsOk s.lacPkeReqPool s.building s.ring
  buffers : s.lacPkeAlignPool.Accounts (PkeRequest.held (s.building ++ s.ring) PkeRequest.buffers)

/-- The sequence number of the oldest chain on the ring. -/
def firstSeq (s : PkeInstance) : Nat :=
  ((s.ring.head?).bind fun r => (s.lacPkeReqPool.blk r.head).opaqueSeq).getD 0

/-- The chains on the ring have consecutive sequence numbers, and only their heads are marked. -/
def NoGap (s : PkeInstance) : Prop :=
  (∀ e ∈ (s.ring.map head).zipIdx s.firstSeq, (s.lacPkeReqPool.blk e.1).opaqueSeq = some e.2) ∧
  ∀ b ∈ held s.ring tail, (s.lacPkeReqPool.blk b).opaqueSeq = none

instance (s : PkeInstance) : Decidable s.NoGap := inferInstanceAs (Decidable (_ ∧ _))

end PkeInstance

/-- When dummy responses are generated, every chain has been sent and holds no alignment buffer, there
    is no gap on the ring, and there is memory for the bucket. -/
def PkeEvent.NothingLost (s : PkeInstance) : PkeEvent → Prop
  | .genResp memAlloc => s.lacPkeReqPool.Generates →
      memAlloc = true ∧ s.building = [] ∧ (∀ r ∈ s.ring, r.buffers = []) ∧ s.NoGap
  | _ => True

instance (s : PkeInstance) : (e : PkeEvent) → Decidable (e.NothingLost s)
  | .genResp _ => inferInstanceAs (Decidable (_ → _))
  | .createFirst _ | .createNext _ _ | .resizeParam _ | .send _ _ | .mark _ | .response _ _
  | .deviceError | .restart => inferInstanceAs (Decidable True)

namespace PkeInstance

namespace PoolsOk

variable {s t : PkeInstance} {r : PkeRequest}

section

variable (h : s.PoolsOk)
include h

theorem works (hperm : s.building.Perm (r :: s.building.eraseIdx k))
    (hworks : Works { s with building := s.building.eraseIdx k } r t) : t.PoolsOk := by
  refine ⟨hworks.reqsOk (h.reqs.congr hperm (List.Perm.refl _)), ?_⟩
  have hbuf := h.buffers.congr (PkeRequest.held_perm (hperm.append_right s.ring) _)
  rw [List.cons_append] at hbuf
  cases hworks with
  | destroyed => exact hbuf.foldl_entryFree
  | chained params halloc =>
    simpa [PkeRequest.held, PkeRequest.buffers, PkeRequest.chain] using hbuf
  | unpadded rest => exact hbuf
  | @padded rest b pool halloc =>
    have hpad : PkeRequest.buffers { r with
        current := { r.current with buffers := r.current.buffers ++ [b] }
        todo := rest } = r.buffers ++ [b] := by
      simp [PkeRequest.buffers, PkeRequest.chain]
    refine (hbuf.entryAlloc halloc).congr ?_
    simp only [PkeRequest.held, List.cons_append, List.flatMap_cons, hpad]
    rw [← List.cons_append]
    exact (List.perm_append_singleton b r.buffers).symm.append_right _
  | sent =>
    refine hbuf.congr (PkeRequest.held_perm ?_ _)
    rw [← List.append_assoc]
    exact (List.perm_append_singleton r _).symm

theorem createFirst (hstep : s.createFirst params = some t) : t.PoolsOk := by
  rcases createFirst_cases hstep with rfl | ⟨b, pool, halloc, rfl⟩
  · exact h
  · refine ⟨h.reqs.alloc halloc ?_, ?_⟩
    · simp [PkeRequest.held, PkeRequest.blks, PkeRequest.chain]
    · simpa [PkeRequest.held, PkeRequest.buffers, PkeRequest.chain] using h.buffers

theorem response {i : Nat} (hr : s.ring[i]? = some r) (b : Nat) :
    ({ s with ring := s.ring.eraseIdx i }.msgCallback r b).PoolsOk := by
  have hperm := perm_cons_eraseIdx hr
  refine ⟨(h.reqs.congr (List.Perm.refl _) hperm).answer, ?_⟩
  have hheld := (hperm.append_left s.building).trans List.perm_middle
  exact (h.buffers.congr (held_perm hheld _)).foldl_entryFree

theorem genResp {memAlloc : Bool}
    (hok : s.lacPkeReqPool.Generates →
      memAlloc = true ∧ s.building = [] ∧ (∀ r ∈ s.ring, r.buffers = []) ∧ s.NoGap)
    (hstep : s.genResp memAlloc = some t) : t.PoolsOk := by
  by_cases hgen : s.lacPkeReqPool.Generates
  · obtain ⟨rfl, hbuilding, hnone, hgap⟩ := hok hgen
    have hreqs := h.reqs
    rw [hbuilding] at hreqs
    obtain ⟨g, hg, -, hfree, -⟩ := hreqs.genResp hgen hgap.1 hgap.2
    rw [PkeInstance.genResp, hg, Option.map_some, if_pos hgen] at hstep
    cases hstep
    have hheld : PkeRequest.held (s.building ++ s.ring) PkeRequest.buffers = [] := by
      rw [hbuilding, List.nil_append]
      exact List.flatMap_eq_nil_iff.mpr hnone
    have hbuf := h.buffers
    rw [hheld] at hbuf
    refine ⟨?_, ?_⟩
    · rw [hbuilding]
      exact hfree
    · rw [hbuilding]
      exact hbuf
  · obtain ⟨g, hg, -, hsame, -⟩ := h.reqs.genResp_again hgen memAlloc
    rw [PkeInstance.genResp, hg, Option.map_some, if_neg hgen] at hstep
    cases hstep
    exact ⟨hsame, h.buffers⟩

theorem restart (hsync : s.lacPkeReqPool.sync ≤ 0) : s.asymReinit.PoolsOk := by
  obtain ⟨hbuilding, hring, hreqs⟩ := h.reqs.asymReinit hsync
  refine ⟨?_, ?_⟩
  · change ReqsOk _ s.building []
    rw [hbuilding]
    exact hreqs
  · have hbuf := h.buffers
    rw [hring] at hbuf
    exact hbuf

theorem step {e : PkeEvent} (hok : e.NothingLost s) (hstep : s.step e = some t) : t.PoolsOk := by
  cases e with
  | createFirst params => exact h.createFirst hstep
  | createNext k params =>
    obtain ⟨r, hperm, hworks⟩ := onBuilding_works (fun _ _ _ => createNext_works) hstep
    exact h.works hperm hworks
  | resizeParam k =>
    obtain ⟨r, hperm, hworks⟩ := onBuilding_works (fun _ _ _ => resizeParam_works) hstep
    exact h.works hperm hworks
  | send k put =>
    obtain ⟨r, hperm, hworks⟩ := onBuilding_works (fun _ _ _ => sendRequest_works) hstep
    exact h.works hperm hworks
  | mark m =>
    obtain ⟨-, ⟨⟩⟩ := Option.ite_none_right_eq_some.mp hstep
    exact ⟨h.reqs.mark _ _, h.buffers⟩
  | response i j =>
    obtain ⟨r, hr, hmap⟩ := Option.bind_eq_some_iff.mp hstep
    obtain ⟨b, -, rfl⟩ := Option.map_eq_some_iff.mp hmap
    exact h.response hr b
  | deviceError =>
    cases hstep
    exact ⟨h.reqs.disable, h.buffers⟩
  | genResp memAlloc => exact h.genResp hok hstep
  | restart =>
    obtain ⟨⟨-, hsync⟩, ⟨⟩⟩ := Option.ite_none_right_eq_some.mp hstep
    exact h.restart hsync

end

end PoolsOk

end PkeInstance

/-- **Both pools are in order** in every run in which, when dummy responses are generated, every
    chain has been sent, holds no alignment buffer, and the ring has no gap: each entry is free, or it
    is held by one request that is not finished. -/
theorem pke_pools_balanced {s : PkeInstance} (hs : pkeInstance.ReachableBy PkeEvent.NothingLost s) :
    Partition s.lacPkeReqPool.stack (PkeRequest.held (s.building ++ s.ring) PkeRequest.blks)
        (List.range s.lacPkeReqPool.numElementsInPool) ∧
      Partition s.lacPkeAlignPool.stack (PkeRequest.held (s.building ++ s.ring) PkeRequest.buffers)
        (List.range s.lacPkeAlignPool.numElementsInPool) := by
  have hok : s.PoolsOk := by
    refine hs.invariant PkeInstance.PoolsOk ?_ fun s e t h hok hstep => h.step hok hstep
    rintro s ⟨⟨n, hreq⟩, ⟨m, halign⟩, -, hbuilding, hring, -⟩
    refine ⟨?_, ?_⟩
    · rw [hreq, hbuilding, hring]
      exact .create n
    · rw [halign, hbuilding, hring]
      exact .create m
  exact ⟨hok.reqs.accounts.partition, hok.buffers.partition⟩

/-! ## A buffer that is lost -/

/-- An instance with two entries in each pool. -/
def samplePkeInstance : PkeInstance :=
  { lacPkeReqPool := MemPool.create 2
    lacPkeAlignPool := MemPool.create 2
    cbInfo := fun _ => 0
    sendSeq := 0
    building := []
    ring := []
    marking := []
    numCreated := 0
    accepted := []
    called := [] }

theorem samplePkeInstance_init : pkeInstance.Init samplePkeInstance :=
  ⟨⟨2, rfl⟩, ⟨2, rfl⟩, rfl, rfl, rfl, rfl, rfl, rfl⟩

/-- A parameter of so many bytes. -/
def samplePkeParam (len : UInt32) : PkeParam :=
  { pData := true, dataLenInBytes := len, argSize := 0 }

/-- A chain of two requests is answered by a dummy response; after the restart one with a padded
    parameter is in flight. -/
theorem pke_pools_balanced_after_restart :
    ∃ s, pkeInstance.ReachableBy PkeEvent.NothingLost s ∧ s.called = [0] ∧
      s.lacPkeReqPool.stack = [0] ∧ s.lacPkeAlignPool.stack = [0] ∧
      Partition s.lacPkeAlignPool.stack (held (s.building ++ s.ring) buffers) (List.range 2) := by
  refine System.exists_reachableBy (P := fun s => s.called = [0] ∧ s.lacPkeReqPool.stack = [0] ∧
      s.lacPkeAlignPool.stack = [0] ∧ s.lacPkeAlignPool.numElementsInPool = 2)
    [.createFirst [samplePkeParam 8], .resizeParam 0, .createNext 0 [samplePkeParam 16],
      .resizeParam 0, .send 0 true, .mark (1, 0), .deviceError, .genResp true, .restart,
      .createFirst [samplePkeParam 5], .resizeParam 0, .send 0 true] samplePkeInstance_init
    (by decide +kernel) fun s hreach ⟨hcalled, hreq, halign, hnum⟩ => ⟨hcalled, hreq, halign, ?_⟩
  exact hnum ▸ (pke_pools_balanced hreach).2

/-- **The alignment buffer of a request that gets a dummy response is lost**: a parameter of 5 bytes
    is padded, the device fails, and after the restart the buffer is neither free nor held. And **the
    entry of a request that is not sent yet is freed while it is held**. -/
theorem dummy_response_loses_buffer :
    (∃ s, pkeInstance.Reachable s ∧ s.called = [0] ∧ s.lacPkeAlignPool.stack = [0] ∧
      PkeRequest.held (s.building ++ s.ring) PkeRequest.buffers = [] ∧
      ¬ Partition s.lacPkeAlignPool.stack
        (PkeRequest.held (s.building ++ s.ring) PkeRequest.buffers)
        (List.range s.lacPkeAlignPool.numElementsInPool)) ∧
    ∃ s, pkeInstance.Reachable s ∧ s.lacPkeReqPool.stack = [1, 0] ∧
      PkeRequest.held (s.building ++ s.ring) PkeRequest.blks = [1] := by
  constructor
  · obtain ⟨s, hreach, hcalled, halign, hheld, hnum⟩ := System.exists_reachable (S := pkeInstance)
      (P := fun s => s.called = [0] ∧ s.lacPkeAlignPool.stack = [0] ∧
        PkeRequest.held (s.building ++ s.ring) PkeRequest.buffers = [] ∧
        s.lacPkeAlignPool.numElementsInPool = 2)
      [.createFirst [samplePkeParam 5], .resizeParam 0, .send 0 true, .mark (1, 0), .deviceError,
        .genResp true, .restart] samplePkeInstance_init (by decide +kernel)
    refine ⟨s, hreach, hcalled, halign, hheld, fun hpart => ?_⟩
    have hlen := hpart.length_eq
    rw [halign, hheld, hnum] at hlen
    exact absurd hlen (by decide)
  · exact System.exists_reachable [.createFirst [samplePkeParam 5], .deviceError, .genResp true]
      samplePkeInstance_init (by decide +kernel)

end Qatlib.Crypto
