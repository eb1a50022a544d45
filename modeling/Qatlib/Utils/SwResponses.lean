import Mathlib.Data.List.Nodup
import Qatlib.Api
import Qatlib.Lib.SlotTable
import Qatlib.Utils.MemPool

set_option autoImplicit false

/-! # Dummy responses

After a device error the requests in flight are answered by the library itself
(`lac_sw_responses.c`). They are found by the blocks of their pool: a block in use with a sequence
number belongs to a request on the ring, a block in use without one is put back on the free stack.
The marked blocks are sorted by a bucket with a slot for every block in use, indexed by the sequence
number modulo its size, and the service's callback goes through it from the least number on.

`genResp_of_marked` says when this is right: the marks are the consecutive numbers of the requests
on the ring, and every other block in use can be given back. -/

namespace Qatlib.Utils

/-- `lac_memblk_bucket_t`: `mem_blk` is `slot`, `startIndex` is `start`, `numBucketBlks` is `size` and
    `numBlksInRing` is `count`; `least` is the variable `seq` of the loop. -/
abbrev MemBlkBucket := SlotTable Nat

/-- A call of `LacSwResp_GenResp`: its status, the pool, and the blocks of the requests whose callback
    was called, in order. -/
structure GenResp where
  status : CpaStatus
  pool : MemPool
  blks : List Nat

namespace MemPool

section

variable (p : MemPool)

/-- One round of the loop of `LacSwResp_MemBlkBucketCreate`. -/
def bucketStep (st : MemPool × MemBlkBucket) (b : Nat) : MemPool × MemBlkBucket :=
  if (st.1.blk b).isInUse then
    match (st.1.blk b).opaqueSeq with
    | none => (st.1.entryFree b, st.2)
    | some seq => (st.1, st.2.put b seq)
  else st

/-- `LacSwResp_MemBlkBucketCreate`, once the memory for the bucket is allocated. -/
def memBlkBucketCreate : MemPool × MemBlkBucket :=
  (List.range p.numElementsInPool).foldl bucketStep
    (p, SlotTable.empty (p.numElementsInPool - p.availBlks))

/-- `LacPke_SwRespMsgCallback` and `dcCompression_SwRespMsgCallback`, which go through the bucket in the
    same way and free each block after its callback. `none`: an empty slot of the bucket is taken
    for a block and read through. -/
def genRespMsgCallback (bucket : MemBlkBucket) : Option GenResp :=
  let blks := bucket.read.filterMap id
  if bucket.read.all Option.isSome then
    some ⟨if blks = [] then .retry else .success, blks.foldl entryFree p, blks⟩
  else none

/-- `LacSwResp_GenResp` on a pool whose blocks are tracked; the argument says whether `osalMemAlloc`
    gives memory for the bucket. -/
def genResp (memAlloc : Bool) : Option GenResp :=
  if p.active then some ⟨.invalidParam, p, []⟩
  else
    let p := { p with sync := p.sync - 1 }
    if p.sync ≠ 0 then some ⟨.retry, p, []⟩
    else if p.numElementsInPool < p.availBlks then some ⟨.fatal, p, []⟩
    else if p.numElementsInPool = p.availBlks then some ⟨.retry, p, []⟩
    else if !memAlloc then some ⟨.resource, p, []⟩
    else genRespMsgCallback p.memBlkBucketCreate.1 p.memBlkBucketCreate.2

/-- The call of `LacSwResp_GenResp` in this state is the one that goes through the blocks. -/
def Generates : Prop := p.active = false ∧ p.sync = 1

instance : Decidable p.Generates :=
  inferInstanceAs (Decidable (p.active = false ∧ p.sync = 1))

/-! ## The bucket -/

/-- The block is in use without a sequence number. -/
def unsent (b : Nat) : Bool := (p.blk b).isInUse && (p.blk b).opaqueSeq.isNone

/-- The block with its sequence number, if it is in use and has one. -/
def inFlight (b : Nat) : Option (Nat × Nat) :=
  if (p.blk b).isInUse then (p.blk b).opaqueSeq.map (b, ·) else none

/-- The loop frees the blocks without a number and puts the others into the bucket. -/
theorem foldl_bucketStep {bs : List Nat} (hbs : bs.Nodup) (p : MemPool) (bucket : MemBlkBucket) :
    bs.foldl bucketStep (p, bucket) =
      ((bs.filter p.unsent).foldl entryFree p, bucket.fill (bs.filterMap p.inFlight)) := by
  induction bs generalizing p bucket with
  | nil => rfl
  | cons b bs ih =>
    obtain ⟨hb, hbs'⟩ := List.nodup_cons.mp hbs
    rw [List.foldl_cons]
    cases huse : (p.blk b).isInUse with
    | false =>
      have hstep : bucketStep (p, bucket) b = (p, bucket) := by simp [bucketStep, huse]
      rw [hstep, ih hbs']
      simp [unsent, inFlight, huse]
    | true =>
      cases hseq : (p.blk b).opaqueSeq with
      | none =>
        have hstep : bucketStep (p, bucket) b = (p.entryFree b, bucket) := by
          simp [bucketStep, huse, hseq]
        -- the blocks still to come are not changed by freeing this one
        have hsame : ∀ c ∈ bs, (p.entryFree b).blk c = p.blk c := fun c hc =>
          p.entryFree_blk_of_ne (fun heq => hb (heq ▸ hc))
        have hfilter : bs.filter (p.entryFree b).unsent = bs.filter p.unsent :=
          List.filter_congr fun c hc => by rw [unsent, unsent, hsame c hc]
        have hmap : bs.filterMap (p.entryFree b).inFlight = bs.filterMap p.inFlight :=
          List.filterMap_congr fun c hc => by rw [inFlight, inFlight, hsame c hc]
        rw [hstep, ih hbs', hfilter, hmap]
        simp [unsent, inFlight, huse, hseq]
      | some seq =>
        have hstep : bucketStep (p, bucket) b = (p, bucket.put b seq) := by
          simp [bucketStep, huse, hseq]
        rw [hstep, ih hbs']
        simp [unsent, inFlight, huse, hseq]

/-- The requests on the ring, by their first blocks in the order of sending, are marked with
    consecutive numbers, the other blocks in use are not. -/
structure Marked (heads others : List Nat) (first : Nat) : Prop where
  accounts : p.Accounts (heads ++ others)
  heads : ∀ e ∈ heads.zipIdx first, (p.blk e.1).opaqueSeq = some e.2
  others : ∀ b ∈ others, (p.blk b).opaqueSeq = none

end

namespace Marked

variable {p : MemPool} {heads others : List Nat} {first : Nat}

section

variable (h : p.Marked heads others first)
include h

theorem inUse_iff {b : Nat} :
    b < p.numElementsInPool ∧ (p.blk b).isInUse = true ↔ b ∈ heads ∨ b ∈ others := by
  rw [← List.mem_append]
  constructor
  · rintro ⟨hb, huse⟩
    exact (h.accounts.inUse b hb).mp huse
  · intro hb
    exact ⟨h.accounts.lt hb, (h.accounts.inUse b (h.accounts.lt hb)).mpr hb⟩

/-- A first block has a number. -/
theorem exists_seq {b : Nat} (hb : b ∈ heads) :
    ∃ seq, (b, seq) ∈ heads.zipIdx first ∧ (p.blk b).opaqueSeq = some seq := by
  rw [← List.zipIdx_map_fst first heads] at hb
  obtain ⟨⟨c, seq⟩, hmem, rfl⟩ := List.mem_map.mp hb
  exact ⟨seq, hmem, h.heads _ hmem⟩

/-- The blocks that the loop frees are the other ones. -/
theorem filter_unsent_perm : ((List.range p.numElementsInPool).filter p.unsent).Perm others := by
  have hothers : others.Nodup := h.accounts.partition.held_nodup.of_append_right
  refine (List.perm_ext_iff_of_nodup (List.nodup_range.filter _) hothers).mpr fun b => ?_
  simp only [List.mem_filter, List.mem_range, unsent, Bool.and_eq_true, Option.isNone_iff_eq_none]
  rw [← and_assoc, h.inUse_iff]
  constructor
  · rintro ⟨hb | hb, hnone⟩
    · obtain ⟨seq, -, hseq⟩ := h.exists_seq hb
      rw [hseq] at hnone
      exact absurd hnone (by simp)
    · exact hb
  · intro hb
    exact ⟨.inr hb, h.others b hb⟩

/-- The blocks that the loop puts into the bucket are the first ones with their numbers. -/
theorem filterMap_inFlight_perm :
    ((List.range p.numElementsInPool).filterMap p.inFlight).Perm (heads.zipIdx first) := by
  have hmem (b c seq : Nat) : p.inFlight b = some (c, seq) ↔
      (p.blk b).isInUse = true ∧ (p.blk b).opaqueSeq = some seq ∧ b = c := by
    simp [inFlight]
  have hzip : (heads.zipIdx first).Nodup := by
    refine List.Nodup.of_map Prod.fst ?_
    rw [List.zipIdx_map_fst]
    exact h.accounts.partition.held_nodup.of_append_left
  have hnodup : ((List.range p.numElementsInPool).filterMap p.inFlight).Nodup := by
    refine List.Nodup.filterMap (fun b b' e hb hb' => ?_) List.nodup_range
    obtain ⟨-, -, rfl⟩ := (hmem b e.1 e.2).mp hb
    obtain ⟨-, -, hb'⟩ := (hmem b' e.1 e.2).mp hb'
    exact hb'.symm
  refine (List.perm_ext_iff_of_nodup hnodup hzip).mpr fun ⟨b, seq⟩ => ?_
  simp only [List.mem_filterMap, List.mem_range, hmem]
  constructor
  · rintro ⟨c, hlt, huse, hseq, rfl⟩
    rcases h.inUse_iff.mp ⟨hlt, huse⟩ with hc | hc
    · obtain ⟨seq', hzip', hseq'⟩ := h.exists_seq hc
      obtain rfl : seq' = seq := by simpa [hseq'] using hseq
      exact hzip'
    · rw [h.others c hc] at hseq
      exact absurd hseq (by simp)
  · intro hmem'
    obtain ⟨hlt, huse⟩ := h.inUse_iff.mpr (.inl (List.fst_mem_of_mem_zipIdx hmem'))
    exact ⟨b, hlt, huse, h.heads _ hmem', rfl⟩

/-- The bucket holds the first blocks in the order of sending, and the other ones are free. -/
theorem memBlkBucketCreate :
    p.memBlkBucketCreate.2.read = heads.map some ∧ p.memBlkBucketCreate.1.Accounts heads ∧
      p.memBlkBucketCreate.1.active = p.active ∧ p.memBlkBucketCreate.1.sync = p.sync := by
  rw [MemPool.memBlkBucketCreate, foldl_bucketStep List.nodup_range]
  have hroom : heads.length ≤ p.numElementsInPool - p.availBlks := by
    have hlen := h.accounts.partition.length_eq
    rw [List.length_range, List.length_append, ← h.accounts.avail] at hlen
    omega
  refine ⟨SlotTable.read_fill_of_perm h.filterMap_inFlight_perm hroom, ?_,
    foldl_entryFree_enabled _ p⟩
  refine (h.accounts.congr ?_).foldl_entryFree
  exact List.perm_append_comm.trans (h.filter_unsent_perm.symm.append_right heads)

end

end Marked

/-! ## Marks along a run

The blocks of the requests on the ring carry the sequence numbers with which the requests were sent,
up to the next number of the ring. A sender learns the number when its request is on the ring, and
marks the block after that, without a lock: until then the block and its number are in `marking`. A
service may leave out the blocks of some of its requests. -/

/-- The blocks, in the order of sending, carry consecutive numbers up to the next one or are still to
    be marked with them, where `need` asks for it. -/
def RingMarks (p : MemPool) (need : Nat → Prop) (marking : List (Nat × Nat)) (blks : List Nat)
    (sendSeq : Nat) : Prop :=
  ∃ first, sendSeq = first + blks.length ∧ (∀ m ∈ marking, m ∈ blks.zipIdx first) ∧
    ∀ e ∈ blks.zipIdx first, need e.1 → e ∈ marking ∨ (p.blk e.1).opaqueSeq = some e.2

namespace RingMarks

variable {p p' : MemPool} {need need' : Nat → Prop} {marking marking' : List (Nat × Nat)}
  {blks : List Nat} {b sendSeq : Nat}

theorem nil (p : MemPool) (need : Nat → Prop) (sendSeq : Nat) : p.RingMarks need [] [] sendSeq :=
  ⟨sendSeq, rfl, fun _ hm => absurd hm List.not_mem_nil, fun _ he => absurd he List.not_mem_nil⟩

/-- Without a request on the ring nobody is about to mark a block. -/
theorem marking_nil (h : p.RingMarks need marking [] sendSeq) : marking = [] := by
  obtain ⟨first, -, hmarking, -⟩ := h
  exact List.eq_nil_iff_forall_not_mem.mpr fun m hm => List.not_mem_nil (hmarking m hm)

theorem congr (h : p.RingMarks need marking blks sendSeq) (hneed : ∀ b ∈ blks, need' b → need b)
    (hsame : ∀ b ∈ blks, (p'.blk b).opaqueSeq = (p.blk b).opaqueSeq) :
    p'.RingMarks need' marking blks sendSeq := by
  obtain ⟨first, hseq, hmarking, hmarks⟩ := h
  refine ⟨first, hseq, hmarking, fun e he hn => ?_⟩
  have hmem : e.1 ∈ blks := List.fst_mem_of_mem_zipIdx he
  rw [hsame e.1 hmem]
  exact hmarks e he (hneed e.1 hmem hn)

/-- A request joins the ring; its sender is to mark the block with the next number. -/
theorem push (h : p.RingMarks need marking blks sendSeq)
    (hold : ∀ m ∈ marking, m ∈ marking')
    (hnew : ∀ m ∈ marking', m ∈ marking ∨ m = (b, sendSeq))
    (hb : need b → (b, sendSeq) ∈ marking') :
    p.RingMarks need marking' (blks ++ [b]) (sendSeq + 1) := by
  obtain ⟨first, hseq, hmarking, hmarks⟩ := h
  have hzip : (blks ++ [b]).zipIdx first = blks.zipIdx first ++ [(b, sendSeq)] := by
    rw [List.zipIdx_append, List.zipIdx_singleton, hseq]
  refine ⟨first, ?_, fun m hm => ?_, fun e he hn => ?_⟩
  · rw [List.length_append, List.length_singleton]
    omega
  · rw [hzip, List.mem_append, List.mem_singleton]
    exact (hnew m hm).imp_left (hmarking m)
  · rw [hzip, List.mem_append, List.mem_singleton] at he
    rcases he with he | rfl
    · exact (hmarks e he hn).imp_left (hold e)
    · exact .inl (hb hn)

/-- A sender marks the block of its request, which is still on the ring. -/
theorem mark (h : p.RingMarks need marking blks sendSeq) (hblks : blks.Nodup) {m : Nat × Nat}
    (hm : m ∈ marking) :
    (p.setOpaque m.1 (some m.2)).RingMarks need (marking.erase m) blks sendSeq := by
  obtain ⟨first, hseq, hmarking, hmarks⟩ := h
  refine ⟨first, hseq, fun m' hm' => hmarking m' (List.mem_of_mem_erase hm'), fun e he hn => ?_⟩
  by_cases heq : e = m
  · rw [heq, setOpaque_opaqueSeq_self]
    exact .inr rfl
  · have hne : e.1 ≠ m.1 := fun hfst => heq (List.inj_on_of_nodup_map
      (by rwa [List.zipIdx_map_fst]) he (hmarking m hm) hfst)
    rw [p.setOpaque_opaqueSeq_of_ne hne, List.mem_erase_of_ne heq]
    exact hmarks e he hn

/-- The oldest request leaves the ring when its block has been marked. -/
theorem pop (h : p.RingMarks need marking (b :: blks) sendSeq) (hb : b ∉ marking.map Prod.fst) :
    p.RingMarks need marking blks sendSeq := by
  obtain ⟨first, hseq, hmarking, hmarks⟩ := h
  refine ⟨first + 1, ?_, fun m hm => ?_, fun e he => hmarks e ?_⟩
  · rw [List.length_cons] at hseq
    omega
  · have hmem := hmarking m hm
    rw [List.zipIdx_cons] at hmem
    refine (List.mem_cons.mp hmem).resolve_left ?_
    rintro rfl
    exact hb (List.mem_map_of_mem hm)
  · rw [List.zipIdx_cons]
    exact List.mem_cons_of_mem _ he

theorem exists_first (h : p.RingMarks need [] blks sendSeq) (hneed : ∀ b ∈ blks, need b) :
    ∃ first, ∀ e ∈ blks.zipIdx first, (p.blk e.1).opaqueSeq = some e.2 := by
  obtain ⟨first, -, -, hmarks⟩ := h
  refine ⟨first, fun e he => ?_⟩
  exact (hmarks e he (hneed e.1 (List.fst_mem_of_mem_zipIdx he))).resolve_left List.not_mem_nil

end RingMarks

/-! ## The call -/

/-- A call that does not go through the blocks calls no callback and changes at most `sync`. -/
theorem genResp_of_not_generates {p : MemPool} (hp : ¬ p.Generates) (memAlloc : Bool) :
    ∃ r, p.genResp memAlloc = some r ∧ r.blks = [] ∧
      (r.pool = p ∨ p.active = false ∧ r.pool = { p with sync := p.sync - 1 }) := by
  by_cases hactive : p.active = true
  · exact ⟨⟨.invalidParam, p, []⟩, by simp [genResp, hactive], rfl, .inl rfl⟩
  · rw [Bool.not_eq_true] at hactive
    have hsync : p.sync - 1 ≠ 0 := fun h0 => hp ⟨hactive, by omega⟩
    exact ⟨⟨.retry, { p with sync := p.sync - 1 }, []⟩, by simp [genResp, hactive, hsync], rfl,
      .inr ⟨hactive, rfl⟩⟩

/-- The callbacks for a bucket without empty slots in the part that is read. -/
theorem genRespMsgCallback_of_read {p : MemPool} {bucket : MemBlkBucket} {blks : List Nat}
    (hread : bucket.read = blks.map some) (h : p.Accounts blks) :
    ∃ r, genRespMsgCallback p bucket = some r ∧ r.blks = blks ∧ r.pool.Accounts [] ∧
      r.pool.active = p.active ∧ r.pool.sync = p.sync := by
  have hblks : bucket.read.filterMap id = blks := by
    rw [hread, List.filterMap_map]
    exact List.filterMap_some
  have hisSome : bucket.read.all Option.isSome = true := by simp [hread]
  rw [← List.append_nil blks] at h
  refine ⟨_, if_pos hisSome, hblks, ?_⟩
  rw [hblks]
  exact ⟨h.foldl_entryFree, foldl_entryFree_enabled blks p⟩

/-- **With consecutive marks the dummy responses come in the order of sending**, one for each
    request on the ring, and every block is free afterwards. -/
theorem genResp_of_marked {p : MemPool} {heads others : List Nat} {first : Nat}
    (h : p.Marked heads others first) (hp : p.Generates) :
    ∃ r, p.genResp true = some r ∧ r.blks = heads ∧ r.pool.Accounts [] ∧ r.pool.active = false ∧
      r.pool.sync = 0 := by
  obtain ⟨hactive, hsync⟩ := hp
  have hzero : p.sync - 1 = 0 := by omega
  have hlen := h.accounts.partition.length_eq
  rw [List.length_range, ← h.accounts.avail] at hlen
  have hle : ¬ p.numElementsInPool < p.availBlks := by omega
  let p' : MemPool := { p with sync := p.sync - 1 }
  have h' : p'.Marked heads others first :=
    ⟨⟨h.accounts.partition, h.accounts.avail, h.accounts.inUse⟩, h.heads, h.others⟩
  by_cases hall : p.numElementsInPool = p.availBlks
  · -- nothing is in use
    obtain ⟨hheads, hothers⟩ : heads = [] ∧ others = [] := by
      rw [← List.append_eq_nil_iff, ← List.length_eq_zero_iff]
      omega
    refine ⟨⟨.retry, p', []⟩, ?_, hheads.symm, ?_, hactive, hzero⟩
    · simp [genResp, hactive, hzero, hall, p']
    · have hacc := h'.accounts
      rwa [hheads, hothers] at hacc
  · have hcall : p.genResp true =
        genRespMsgCallback p'.memBlkBucketCreate.1 p'.memBlkBucketCreate.2 := by
      simp [genResp, hactive, hzero, hle, hall, p']
    obtain ⟨hread, hacc, hactive', hsync'⟩ := h'.memBlkBucketCreate
    rw [hcall]
    obtain ⟨r, hr, hblks, hfree, hract, hrsync⟩ := genRespMsgCallback_of_read hread hacc
    exact ⟨r, hr, hblks, hfree, hract.trans (hactive'.trans hactive),
      hrsync.trans (hsync'.trans hzero)⟩

end MemPool

end Qatlib.Utils
