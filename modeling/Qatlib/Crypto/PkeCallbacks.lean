import Qatlib.Crypto.PkePools

set_option autoImplicit false

/-! # The callbacks of the public key service

`PkeInstance.Called` extends the accounts of the request pool by what the callbacks need: the heads
of the chains on the ring carry consecutive sequence numbers or are about to be marked with them, no
other entry is marked, every entry of a chain names the chain's operation, and the callbacks called so
far followed by the operations on the ring are the accepted operations, in order and each once. It
holds when responses come in the order of the ring, a chain is answered after its head was marked, and,
when dummy responses are generated, no chain is under construction or to be marked. -/

namespace Qatlib.Crypto

open Qatlib.Utils Function PkeRequest

/-- Responses come in the order of the ring, each after the head of its chain was marked; when dummy
    responses are generated, every chain has been sent and marked and there is memory for the
    bucket. -/
def PkeEvent.AllSent (s : PkeInstance) : PkeEvent → Prop
  | .response i _ => i = 0 ∧ ∀ r ∈ s.ring.head?, r.head ∉ s.marking.map Prod.fst
  | .genResp memAlloc => s.lacPkeReqPool.Generates →
      memAlloc = true ∧ s.building = [] ∧ s.marking = []
  | _ => True

instance (s : PkeInstance) : (e : PkeEvent) → Decidable (e.AllSent s)
  | .response _ _ => inferInstanceAs (Decidable (_ ∧ _))
  | .genResp _ => inferInstanceAs (Decidable (_ → _))
  | .createFirst _ | .createNext _ _ | .resizeParam _ | .send _ _ | .mark _ | .deviceError
  | .restart => inferInstanceAs (Decidable True)

variable {pool : MemPool} {ring building : List PkeRequest} {b : Nat}

theorem ReqsOk.disjoint {rest : List PkeRequest} {r q : PkeRequest} (h : ReqsOk pool building ring)
    (hperm : (building ++ ring).Perm (r :: rest)) (hb : b ∈ r.blks) (hq : q ∈ rest) :
    b ∉ q.blks := by
  have hnodup := (h.accounts.congr (held_perm hperm _)).partition.held_nodup
  simp only [held, List.flatMap_cons] at hnodup
  intro hmem
  exact List.disjoint_of_nodup_append hnodup hb (List.mem_flatMap.mpr ⟨q, hq, hmem⟩)

theorem ReqsOk.alloc_fresh {pool' : MemPool} {q : PkeRequest} (h : ReqsOk pool building ring)
    (halloc : pool.entryAlloc = (.entry b, pool')) (hq : q ∈ building ++ ring) : b ∉ q.blks := by
  have hnodup := (h.accounts.entryAlloc halloc).partition.held_nodup
  intro hmem
  exact (List.nodup_cons.mp hnodup).1 (List.mem_flatMap.mpr ⟨q, hq, hmem⟩)

/-- The heads of the chains on the ring, and their other entries. -/
theorem ReqsOk.heads_nodup (h : ReqsOk pool building ring) :
    (ring.map head ++ held ring tail).Nodup := by
  have hnodup := h.accounts.partition.held_nodup
  rw [held, List.flatMap_append] at hnodup
  exact (held_blks_perm ring).nodup_iff.mp hnodup.of_append_right

namespace PkeInstance

/-- The accounts of the callbacks. -/
structure Called (s : PkeInstance) : Prop where
  reqs : ReqsOk s.lacPkeReqPool s.building s.ring
  /-- Only the heads of chains on the ring are marked, until dummy responses are generated. -/
  clean : s.lacPkeReqPool.sync = 1 → ∀ b ∉ s.ring.map head, (s.lacPkeReqPool.blk b).opaqueSeq = none
  marked : s.lacPkeReqPool.RingMarks (fun _ => True) s.marking (s.ring.map head) s.sendSeq
  cbInfo : ∀ r ∈ s.building ++ s.ring, ∀ b ∈ r.blks, s.cbInfo b = r.tag
  /-- The callbacks called, then the operations on the ring: all accepted ones in order. -/
  log : s.called ++ s.ring.map tag = s.accepted
  fresh : (s.building.map tag ++ s.accepted).Nodup
  bound : ∀ n ∈ s.building.map tag ++ s.accepted, n < s.numCreated

namespace Called

variable {s t : PkeInstance} {r : PkeRequest}

theorem init (h : pkeInstance.Init s) : s.Called := by
  obtain ⟨⟨n, hreq⟩, -, -, hbuilding, hring, hmarking, haccepted, hcalled⟩ := h
  refine ⟨?_, fun _ _ _ => by rw [hreq]; rfl, ?_, ?_, ?_, ?_, ?_⟩
  · rw [hreq, hbuilding, hring]
    exact .create n
  · rw [hring, hmarking]
    exact .nil _ _ _
  all_goals simp [hbuilding, hring, haccepted, hcalled]

theorem marks_congr (h : s.Called)
    (hsame : ∀ q ∈ s.ring, (pool.blk q.head).opaqueSeq = (s.lacPkeReqPool.blk q.head).opaqueSeq) :
    pool.RingMarks (fun _ => True) s.marking (s.ring.map head) s.sendSeq :=
  h.marked.congr (fun _ _ _ => trivial) (List.forall_mem_map.mpr hsame)

theorem congr (h : s.Called) (hperm : s.building.Perm building) :
    Called { s with building := building } where
  reqs := h.reqs.congr hperm (List.Perm.refl _)
  clean := h.clean
  marked := h.marked
  cbInfo q hq := h.cbInfo q ((hperm.append_right _).mem_iff.mpr hq)
  log := h.log
  fresh := ((hperm.map _).append_right _).nodup_iff.mp h.fresh
  bound n hn := h.bound n (((hperm.map _).append_right _).mem_iff.mpr hn)

/-- An entry is allocated for an operation. The chains are those before and one that contains the
    new entry. -/
theorem cbInfo_update {pool' : MemPool} {tag : Nat} {old new : List PkeRequest}
    {cbInfo : Nat → Nat} (hreqs : ReqsOk pool old ring)
    (halloc : pool.entryAlloc = (.entry b, pool'))
    (h : ∀ q ∈ old ++ ring, ∀ c ∈ q.blks, cbInfo c = q.tag)
    (hnew : ∀ q ∈ new, q ∈ old ∨ q.tag = tag ∧ ∀ c ∈ q.blks, c = b ∨ cbInfo c = tag) :
    ∀ q ∈ new ++ ring, ∀ c ∈ q.blks, update cbInfo b tag c = q.tag := by
  have hold (q : PkeRequest) (hq : q ∈ old ++ ring) (c : Nat) (hc : c ∈ q.blks) :
      update cbInfo b tag c = q.tag := by
    have hne : c ≠ b := fun heq => hreqs.alloc_fresh halloc hq (heq ▸ hc)
    rw [update_of_ne hne, h q hq c hc]
  intro q hq c hc
  rcases List.mem_append.mp hq with hq | hq
  · rcases hnew q hq with hq | ⟨htag, hblks⟩
    · exact hold q (List.mem_append_left _ hq) c hc
    · by_cases hcb : c = b
      · rw [hcb, update_self, htag]
      · rw [update_of_ne hcb, htag]
        exact (hblks c hc).resolve_left hcb
  · exact hold q (List.mem_append_right _ hq) c hc

theorem works (h : Called { s with building := r :: s.building }) (hworks : s.Works r t) :
    t.Called := by
  have hreqs : ReqsOk s.lacPkeReqPool (r :: s.building) s.ring := h.reqs
  have hreqs' := hworks.reqsOk hreqs
  have hcb : ∀ q ∈ r :: s.building ++ s.ring, ∀ b ∈ q.blks, s.cbInfo b = q.tag := h.cbInfo
  have hclean : ∀ c ∉ s.ring.map head, (s.lacPkeReqPool.blk c).opaqueSeq = none :=
    h.clean hreqs.sync_of_building
  -- a parameter was resized: the chain keeps its entries and its operation
  have hreplace (r' : PkeRequest) (htag : r'.tag = r.tag) (hblks : r'.blks = r.blks) :
      ∀ q ∈ r' :: s.building ++ s.ring, ∀ b ∈ q.blks, s.cbInfo b = q.tag := by
    intro q hq b hb
    rcases List.mem_cons.mp hq with rfl | hq
    · rw [htag]
      exact hcb r List.mem_cons_self b (hblks ▸ hb)
    · exact hcb q (List.mem_cons_of_mem _ hq) b hb
  cases hworks with
  | destroyed =>
    refine ⟨hreqs', fun _ c hc => freeChain_opaqueSeq_none (fun _ => hclean c hc),
      h.marks_congr fun q hq => ?_, fun q hq => hcb q (List.mem_cons_of_mem _ hq), h.log,
      (List.nodup_cons.mp h.fresh).2, fun n hn => h.bound n (List.mem_cons_of_mem _ hn)⟩
    refine freeChain_opaqueSeq_of_not_mem fun hmem => ?_
    exact hreqs.disjoint (List.Perm.refl _) hmem (List.mem_append_right _ hq) q.head_mem_blks
  | @chained params b pool halloc =>
    obtain ⟨-, -, -, hblk⟩ := MemPool.entryAlloc_entry halloc
    refine ⟨hreqs', fun _ c hc => (hblk c).trans (hclean c hc), h.marks_congr fun q _ => hblk q.head,
      cbInfo_update hreqs halloc hcb fun q hq => ?_, h.log, h.fresh, h.bound⟩
    rcases List.mem_cons.mp hq with rfl | hq
    · refine .inr ⟨rfl, fun c hc => ?_⟩
      have hc' : c ∈ r.blks ∨ c = b := by simpa [blks, chain, or_assoc] using hc
      rcases hc' with hc' | rfl
      · exact .inr (hcb r List.mem_cons_self c hc')
      · exact .inl rfl
    · exact .inl (List.mem_cons_of_mem _ hq)
  | unpadded rest => exact ⟨hreqs', h.clean, h.marked, hreplace _ rfl rfl, h.log, h.fresh, h.bound⟩
  | padded rest halloc =>
    exact ⟨hreqs', h.clean, h.marked, hreplace _ rfl (by simp [blks, chain]),
      h.log, h.fresh, h.bound⟩
  | sent =>
    have hperm : (r.tag :: (s.building.map tag ++ s.accepted)).Perm
        (s.building.map tag ++ (s.accepted ++ [r.tag])) := by
      rw [← List.append_assoc]
      exact (List.perm_append_singleton r.tag _).symm
    refine ⟨hreqs', fun _ c hc => hclean c fun hmem => hc ?_, ?_, fun q hq => hcb q ?_, ?_,
      hperm.nodup_iff.mp h.fresh, fun n hn => h.bound n (hperm.mem_iff.mpr hn)⟩
    · rw [List.map_append]
      exact List.mem_append_left _ hmem
    · rw [List.map_append, List.map_singleton]
      refine h.marked.push (fun m hm => List.mem_append_left _ hm) (fun m hm => ?_) fun _ => by simp
      simpa using hm
    · simp only [List.mem_append, List.mem_cons, List.not_mem_nil, or_false] at hq ⊢
      tauto
    · change s.called ++ (s.ring ++ [r]).map tag = s.accepted ++ [r.tag]
      rw [List.map_append, ← List.append_assoc]
      exact congrArg (· ++ [r.tag]) h.log

section

variable (h : s.Called)
include h

theorem createFirst {params : List PkeParam} (hstep : s.createFirst params = some t) :
    t.Called := by
  rcases createFirst_cases hstep with rfl | ⟨b, pool, halloc, rfl⟩
  · exact h
  · obtain ⟨-, -, hsync, hblk⟩ := MemPool.entryAlloc_entry halloc
    refine ⟨h.reqs.alloc halloc ?_, fun hone c hc => (hblk c).trans (h.clean (hsync ▸ hone) c hc),
      h.marks_congr fun q _ => hblk q.head, cbInfo_update h.reqs halloc h.cbInfo fun q hq => ?_, h.log,
      ?_, ?_⟩
    · simp [held, blks, chain]
    · rcases List.mem_cons.mp hq with rfl | hq
      · exact .inr ⟨rfl, fun c hc => .inl (by simpa [blks, chain] using hc)⟩
      · exact .inl hq
    · exact List.nodup_cons.mpr ⟨fun hmem => Nat.lt_irrefl _ (h.bound _ hmem), h.fresh⟩
    · intro n hn
      rcases List.mem_cons.mp hn with rfl | hn
      · exact Nat.lt_succ_self _
      · exact Nat.lt_succ_of_lt (h.bound n hn)

theorem markSent {m : Nat × Nat} (hm : m ∈ s.marking) : (s.markSent m).Called := by
  obtain ⟨first, -, hmarking, -⟩ := h.marked
  have hhead : m.1 ∈ s.ring.map head := List.fst_mem_of_mem_zipIdx (hmarking m hm)
  refine ⟨h.reqs.mark _ _, fun hone c hc => ?_, h.marked.mark h.reqs.heads_nodup.of_append_left hm,
    h.cbInfo, h.log, h.fresh, h.bound⟩
  have hne : c ≠ m.1 := fun heq => hc (heq ▸ hhead)
  exact (s.lacPkeReqPool.setOpaque_opaqueSeq_of_ne hne _).trans (h.clean hone c hc)

theorem response (hring : s.ring = r :: ring) (hb : b ∈ r.blks)
    (hdone : r.head ∉ s.marking.map Prod.fst) :
    ({ s with ring := ring }.msgCallback r b).Called := by
  have hreqs : ReqsOk s.lacPkeReqPool s.building (r :: ring) := hring ▸ h.reqs
  have hmarked : s.lacPkeReqPool.RingMarks (fun _ => True) s.marking
      ((r :: ring).map head) s.sendSeq := hring ▸ h.marked
  have hcb : ∀ q ∈ s.building ++ r :: ring, ∀ b ∈ q.blks, s.cbInfo b = q.tag := hring ▸ h.cbInfo
  have hlog : s.called ++ (r :: ring).map tag = s.accepted := hring ▸ h.log
  have hother : ∀ q ∈ ring, q.head ∉ r.blks := fun q hq hmem =>
    hreqs.disjoint List.perm_middle hmem (List.mem_append_right _ hq) q.head_mem_blks
  refine ⟨hreqs.answer, fun _ c hc => freeChain_opaqueSeq_none fun hmem => ?_,
    (hmarked.pop hdone).congr (fun _ _ _ => trivial) ?_, fun q hq => hcb q ?_, ?_, h.fresh, h.bound⟩
  · refine h.clean hreqs.sync_of_ring c ?_
    rw [hring, List.map_cons]
    exact List.not_mem_cons_of_ne_of_not_mem (fun heq => hmem (heq ▸ r.head_mem_blks)) hc
  · exact List.forall_mem_map.mpr fun q hq => freeChain_opaqueSeq_of_not_mem (hother q hq)
  · rcases List.mem_append.mp hq with hq | hq
    · exact List.mem_append_left _ hq
    · exact List.mem_append_right _ (List.mem_cons_of_mem _ hq)
  · have htag : s.cbInfo b = r.tag := hcb r (List.mem_append_right _ List.mem_cons_self) b hb
    rw [← hlog]
    simp [msgCallback, destroyRequest, htag]

/-- The call of `LacSwResp_GenResp` that goes through the blocks returns, and calls the callbacks of the
    operations on the ring in order. -/
theorem genResp_calls (hgen : s.lacPkeReqPool.Generates) (hbuilding : s.building = [])
    (hmarking : s.marking = []) :
    ∃ pool, (ReqsOk pool [] [] ∧ pool.sync = 0) ∧ s.genResp true = some { s with
      lacPkeReqPool := pool
      ring := []
      called := s.called ++ s.ring.map tag } := by
  have hmarked := h.marked
  rw [hmarking] at hmarked
  obtain ⟨first, hmarks⟩ := hmarked.exists_first fun _ _ => trivial
  have hothers : ∀ b ∈ held s.ring tail,
      (s.lacPkeReqPool.blk b).opaqueSeq = none := fun b hb => h.clean hgen.2 b fun hhead =>
    List.disjoint_of_nodup_append h.reqs.heads_nodup hhead hb
  have hreqs := h.reqs
  rw [hbuilding] at hreqs
  obtain ⟨g, hg, hblks, hfree⟩ := hreqs.genResp hgen hmarks hothers
  -- the head of a chain names the chain's operation
  have htags : g.blks.map s.cbInfo = s.ring.map tag := by
    rw [hblks, List.map_map]
    exact List.map_congr_left fun q hq =>
      h.cbInfo q (List.mem_append_right _ hq) q.head q.head_mem_blks
  refine ⟨g.pool, hfree, ?_⟩
  rw [PkeInstance.genResp, hg, Option.map_some, if_pos hgen, htags]

theorem genResp {memAlloc : Bool}
    (hok : s.lacPkeReqPool.Generates → memAlloc = true ∧ s.building = [] ∧ s.marking = [])
    (hstep : s.genResp memAlloc = some t) : t.Called := by
  by_cases hgen : s.lacPkeReqPool.Generates
  · obtain ⟨rfl, hbuilding, hmarking⟩ := hok hgen
    obtain ⟨pool, ⟨hfree, hsync⟩, hcalls⟩ := h.genResp_calls hgen hbuilding hmarking
    rw [hcalls] at hstep
    cases hstep
    refine ⟨?_, fun hone => ?_, ?_, fun q hq => ?_, ?_, h.fresh, h.bound⟩
    · rw [hbuilding]
      exact hfree
    · exact absurd (hsync.symm.trans hone) (by decide)
    · rw [hmarking]
      exact .nil _ _ _
    · rw [hbuilding] at hq
      exact absurd hq List.not_mem_nil
    · rw [List.map_nil, List.append_nil]
      exact h.log
  · obtain ⟨g, hg, hblks, hsame, hblk, hsync⟩ := h.reqs.genResp_again hgen memAlloc
    rw [PkeInstance.genResp, hg, Option.map_some, if_neg hgen, hblks, List.map_nil,
      List.append_nil] at hstep
    cases hstep
    refine ⟨hsame, fun hone c hc => ?_, h.marks_congr fun q _ => by rw [hblk], h.cbInfo, h.log,
      h.fresh, h.bound⟩
    rw [hblk]
    exact h.clean (hsync hone) c hc

theorem restart (hsync : s.lacPkeReqPool.sync ≤ 0) : s.asymReinit.Called := by
  obtain ⟨hbuilding, hring, hreqs⟩ := h.reqs.asymReinit hsync
  have hlog := h.log
  rw [hring] at hlog
  have hmarked := h.marked
  rw [hring] at hmarked
  refine ⟨?_, fun _ _ _ => rfl, ?_, fun q hq => ?_, hlog, h.fresh, h.bound⟩
  · change ReqsOk _ s.building []
    rw [hbuilding]
    exact hreqs
  · change MemPool.RingMarks _ _ s.marking [] 0
    rw [hmarked.marking_nil]
    exact .nil _ _ _
  · have hq' : q ∈ s.building ++ [] := hq
    rw [hbuilding] at hq'
    exact absurd hq' List.not_mem_nil

theorem step {e : PkeEvent} (hok : e.AllSent s) (hstep : s.step e = some t) : t.Called := by
  cases e with
  | createFirst params => exact h.createFirst hstep
  | createNext k params =>
    obtain ⟨r, hperm, hworks⟩ := onBuilding_works (fun _ _ _ => createNext_works) hstep
    exact (h.congr hperm).works hworks
  | resizeParam k =>
    obtain ⟨r, hperm, hworks⟩ := onBuilding_works (fun _ _ _ => resizeParam_works) hstep
    exact (h.congr hperm).works hworks
  | send k put =>
    obtain ⟨r, hperm, hworks⟩ := onBuilding_works (fun _ _ _ => sendRequest_works) hstep
    exact (h.congr hperm).works hworks
  | mark m =>
    obtain ⟨hm, ⟨⟩⟩ := Option.ite_none_right_eq_some.mp hstep
    exact h.markSent (List.contains_iff_mem.mp hm)
  | response i j =>
    obtain ⟨r, hr, hmap⟩ := Option.bind_eq_some_iff.mp hstep
    obtain ⟨b, hb, rfl⟩ := Option.map_eq_some_iff.mp hmap
    obtain ⟨rfl, hdone⟩ := hok
    rw [← List.head?_eq_getElem?] at hr
    obtain ⟨ring, hring⟩ := List.head?_eq_some_iff.mp hr
    have herase : s.ring.eraseIdx 0 = ring := by rw [hring, List.eraseIdx_cons_zero]
    rw [herase]
    exact h.response hring (List.mem_of_getElem? hb) (hdone r hr)
  | deviceError =>
    cases hstep
    exact ⟨h.reqs.disable, h.clean, h.marked, h.cbInfo, h.log, h.fresh, h.bound⟩
  | genResp memAlloc => exact h.genResp hok hstep
  | restart =>
    obtain ⟨⟨-, hsync⟩, ⟨⟩⟩ := Option.ite_none_right_eq_some.mp hstep
    exact h.restart hsync

end

end Called

end PkeInstance

/-- The accounts of the callbacks hold in every run with the responses in ring order, none before its
    mark, and no chain under construction when dummy responses are generated. -/
theorem called_of_reachable {s : PkeInstance} (hs : pkeInstance.ReachableBy PkeEvent.AllSent s) :
    s.Called :=
  hs.invariant PkeInstance.Called (fun _ => PkeInstance.Called.init)
    fun _ _ _ h hok hstep => h.step hok hstep

end Qatlib.Crypto
