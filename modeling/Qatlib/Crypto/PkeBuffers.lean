import Mathlib.Data.List.Forall2
import Qatlib.Lib.BigEndian
import Qatlib.Lib.ByteMemory
import Qatlib.Crypto.Pke

set_option autoImplicit false

/-! # The bytes of public key requests

What `LacPke_CreateRequest` does to the client's buffers. Each parameter is given to the device as a
whole number of quadwords (`LacPke_ResizeParams`, `icp_LacBufferResize`): the client's own bytes when
they are such a number, or else a copy in an entry of the alignment pool, with zeros in front. When
the request is destroyed the outputs that were copied are copied back (`LacPke_RestoreParams`,
`icp_LacBufferRestore`).

Memory is one memory of bytes, in which the client's buffers and the entries of the pool lie; 0 is
NULL. The entries that the loops around `Lac_MemPoolEntryAlloc` end with are given in advance; the
pools themselves are in `Qatlib.Crypto.PkePools`. -/

namespace Qatlib.Crypto

open Memory (Apart Frame)

/-! ## Parameters -/

/-- A `CpaFlatBuffer`, with its entries of the list of argument sizes and of the list that says which
    buffers are the driver's own. -/
structure BufferParam where
  pData : Nat
  dataLenInBytes : UInt32
  argSize : UInt32
  internal : Bool

namespace BufferParam

variable (b : BufferParam)

def pke : PkeParam := ⟨b.pData != 0, b.dataLenInBytes, b.argSize⟩

/-- The length of the client's buffer. -/
def dataLen : Nat := b.dataLenInBytes.toNat

/-- The argument size, which is the client's length if the list has 0. -/
def argLen : Nat := if b.argSize = 0 then b.dataLen else b.argSize.toNat

def pUserBuffer : Nat := b.pData + b.pke.offset.toNat

def userLen : Nat := b.pke.userLen.toNat

def workingLen : Nat := b.pke.workingLen.toNat

def padSize : Nat := b.workingLen - b.userLen

end BufferParam

/-- Memory, what the coming calls for an entry of the alignment pool give, and the entries that were
    freed. -/
structure BufferState where
  mem : Memory
  allocs : List (Option Nat)
  freed : List Nat

section

variable (s : BufferState)

/-- The entries that will be handed out. -/
def BufferState.entries : List Nat := s.allocs.filterMap id

/-- `icp_LacBufferResize`; `none` is NULL. -/
def bufferResize (b : BufferParam) : Option Nat × BufferState :=
  if b.userLen > 0 ∧ b.pUserBuffer = 0 then (none, s)
  else if b.workingLen < b.userLen then (none, s)
  else if b.padSize > 0 then
    match s.allocs with
    | [] => (none, s)
    | none :: rest => (none, { s with allocs := rest })
    | some w :: rest =>
        let mem := s.mem.write w (List.replicate b.padSize 0)
        let mem :=
          if b.userLen > 0 then mem.write (w + b.padSize) (mem.read b.pUserBuffer b.userLen) else mem
        (some w, { s with mem := mem, allocs := rest })
  else (if b.pUserBuffer = 0 then none else some b.pUserBuffer, s)

/-- `icp_LacBufferRestore`, for a working buffer that is not NULL. -/
def bufferRestore (b : BufferParam) (working : Nat) (copyBuf : Bool) : Bool × BufferState :=
  if b.workingLen < b.userLen then (false, s)
  else if b.pUserBuffer ≠ working then
    let mem :=
      if copyBuf then s.mem.write b.pUserBuffer (s.mem.read (working + b.padSize) b.userLen) else s.mem
    (true, { s with mem := mem, freed := s.freed ++ [working] })
  else (true, s)

/-! ## Requests -/

/-- A parameter with its entry of `pkeInputParams` or `pkeOutputParams`, the buffer that the device
    is given. -/
structure PkeArg where
  param : BufferParam
  ptr : Nat

/-- The entry of the list of internal buffers after the resize, which selects the translation of the
    address. -/
def PkeArg.internal (x : PkeArg) : Bool := x.param.internal || decide (x.param.padSize > 0)

/-- `lac_pke_qat_req_data_t`, up to the first NULL parameter of each kind. -/
structure PkeReq where
  functionalityId : UInt32
  inputs : List PkeArg
  outputs : List PkeArg

/-- A loop of `LacPke_ResizeParams`, up to the first NULL. -/
def resizeEach (s : BufferState) : List BufferParam → Bool × List PkeArg × BufferState
  | [] => (true, [], s)
  | b :: bs =>
      match bufferResize s b with
      | (none, s) => (false, [], s)
      | (some p, s) =>
          let rest := resizeEach s bs
          (rest.1, ⟨b, p⟩ :: rest.2.1, rest.2.2)

/-- `LacPke_ResizeParams`. -/
def resizeParams (inputs outputs : List BufferParam) :
    Bool × (List PkeArg × List PkeArg) × BufferState :=
  let i := resizeEach s inputs
  if i.1 = false then (false, (i.2.1, []), i.2.2)
  else
    let o := resizeEach i.2.2 outputs
    (o.1, (i.2.1, o.2.1), o.2.2)

/-- A loop of `LacPke_RestoreParams`. -/
def restoreEach (copyBuf : Bool) (s : BufferState) : List PkeArg → Bool × BufferState
  | [] => (true, s)
  | x :: xs =>
      let r := bufferRestore s x.param x.ptr copyBuf
      if r.1 = false then r else restoreEach copyBuf r.2 xs

/-- `LacPke_RestoreParams`. -/
def restoreParams (r : PkeReq) : Bool × BufferState :=
  let i := restoreEach false s r.inputs
  if i.1 = false then i else restoreEach true i.2 r.outputs

/-- `LacPke_DestroyRequest`, which goes on after errors. -/
def destroyChain (chain : List PkeReq) : BufferState :=
  chain.foldl (fun s r => (restoreParams s r).2) s

/-- The arguments of one call of `LacPke_CreateRequest`; `entry` says whether there is an entry of the
    request pool. -/
structure ReqSpec where
  entry : Bool
  functionalityId : UInt32
  inputs : List BufferParam
  outputs : List BufferParam

def ReqSpec.params (r : ReqSpec) : List BufferParam := r.inputs ++ r.outputs

/-- `LacPke_CreateRequest` with the handle of a chain, which is empty for an invalid handle. -/
def createRequest (chain : List PkeReq) (r : ReqSpec) : Bool × List PkeReq × BufferState :=
  if r.entry = false then (false, [], destroyChain s chain)
  else
    let p := resizeParams s r.inputs r.outputs
    let chain := chain ++ [⟨r.functionalityId, p.2.1.1, p.2.1.2⟩]
    if p.1 then (true, chain, p.2.2) else (false, [], destroyChain p.2.2 chain)

end

/-- The calls that build a chain, up to the first that fails. -/
def createChain (s : BufferState) (chain : List PkeReq) :
    List ReqSpec → Bool × List PkeReq × BufferState
  | [] => (true, chain, s)
  | r :: rs =>
      let c := createRequest s chain r
      if c.1 then createChain c.2.2 c.2.1 rs else c

/-- All parameters of a chain, in the order in which they were resized. -/
def args (chain : List PkeReq) : List PkeArg := chain.flatMap fun r => r.inputs ++ r.outputs

/-! ## The lengths -/

namespace BufferParam

variable {b : BufferParam}

theorem workingLen_eq (h : b.argLen + 7 < 2 ^ 32) : b.workingLen = (b.argLen + 7) / 8 * 8 := by
  have hround : b.pke.dataRoundLen.toNat = b.argLen := by
    unfold PkeParam.dataRoundLen argLen pke dataLen
    dsimp only
    split <;> simp_all
  unfold workingLen PkeParam.workingLen
  rw [toNat_alignPow2Roundup (k := 3) (by decide) rfl, hround]
  exact congrArg (· / 8 * 8) (Nat.mod_eq_of_lt h)

section

variable (b : BufferParam)

theorem offset_eq : b.pke.offset.toNat = b.dataLen - b.argLen := by
  unfold PkeParam.offset argLen pke dataLen
  dsimp only
  by_cases hsize : b.argSize = 0
  · simp [hsize]
  · rw [if_neg hsize]
    by_cases hlt : b.dataLenInBytes > b.argSize
    · rw [if_pos ⟨hsize, hlt⟩, UInt32.toNat_sub_of_le _ _ (UInt32.le_of_lt hlt)]
    · rw [if_neg (fun h => hlt h.2)]
      have hle : b.dataLenInBytes.toNat ≤ b.argSize.toNat := by
        rw [gt_iff_lt, UInt32.lt_iff_toNat_lt] at hlt
        omega
      simp
      omega

theorem userLen_eq : b.userLen = min b.dataLen b.argLen := by
  have hoffset := b.offset_eq
  have hle : b.pke.offset ≤ b.pke.dataLenInBytes := by
    rw [UInt32.le_iff_toNat_le, hoffset]
    exact Nat.sub_le _ _
  unfold userLen PkeParam.userLen
  rw [UInt32.toNat_sub_of_le _ _ hle, hoffset]
  show b.dataLen - (b.dataLen - b.argLen) = _
  omega

theorem pUserBuffer_eq : b.pUserBuffer = b.pData + (b.dataLen - b.userLen) := by
  have huser := b.userLen_eq
  unfold pUserBuffer
  rw [b.offset_eq]
  omega

theorem userLen_le_dataLen : b.userLen ≤ b.dataLen := by
  rw [userLen_eq]
  omega

end

theorem userLen_le (h : b.argLen + 7 < 2 ^ 32) : b.userLen ≤ b.workingLen := by
  rw [userLen_eq, workingLen_eq h]
  omega

/-- The client's bytes that are used lie at the end of the buffer. -/
theorem read_client (b : BufferParam) (m : Memory) :
    m.read b.pData b.dataLen =
      m.read b.pData (b.dataLen - b.userLen) ++ m.read b.pUserBuffer b.userLen := by
  have hle := b.userLen_le_dataLen
  rw [pUserBuffer_eq, ← Memory.read_append, Nat.sub_add_cancel hle]

end BufferParam

/-! ## Resizing -/

/-- The entries of the pool are apart from each other and from the client's buffers, and large enough. -/
structure Laid (entrySize : Nat) (entries : List Nat) (bs : List BufferParam) : Prop where
  size_lt : entrySize < 2 ^ 32
  fits : ∀ b ∈ bs, (b.argLen + 7) / 8 * 8 ≤ entrySize
  separate : entries.Pairwise fun w w' => Apart w entrySize w' entrySize
  client : ∀ b ∈ bs, ∀ w ∈ entries, Apart b.pData b.dataLen w entrySize

variable {p w entrySize : Nat} {chain : List PkeReq}

namespace Laid

variable {entrySize : Nat} {entries : List Nat} {bs : List BufferParam} {b : BufferParam}

section

variable (h : Laid entrySize entries bs)
include h

theorem argLen_lt (hb : b ∈ bs) : b.argLen + 7 < 2 ^ 32 := by
  have hsize := h.size_lt
  have hfits := h.fits b hb
  omega

theorem workingLen_le (hb : b ∈ bs) : b.workingLen ≤ entrySize := by
  rw [BufferParam.workingLen_eq (h.argLen_lt hb)]
  exact h.fits b hb

theorem user (hb : b ∈ bs) (hw : w ∈ entries) : Apart b.pUserBuffer b.userLen w entrySize := by
  have hle := b.userLen_le_dataLen
  have huser := b.pUserBuffer_eq
  exact (h.client b hb w hw).mono (by omega) (by omega) (Nat.le_refl w) (Nat.le_refl _)

end

theorem tail (h : Laid entrySize (w :: entries) (b :: bs)) : Laid entrySize entries bs where
  size_lt := h.size_lt
  fits c hc := h.fits c (List.mem_cons_of_mem b hc)
  separate := (List.pairwise_cons.mp h.separate).2
  client c hc v hv := h.client c (List.mem_cons_of_mem b hc) v (List.mem_cons_of_mem w hv)

theorem sublist {cs : List BufferParam} (h : Laid entrySize entries bs) (hsub : cs.Sublist bs) :
    Laid entrySize entries cs where
  size_lt := h.size_lt
  fits c hc := h.fits c (hsub.subset hc)
  separate := h.separate
  client c hc := h.client c (hsub.subset hc)

end Laid

variable {s s' : BufferState} {b : BufferParam} {bs : List BufferParam}

/-- The two ways in which a resize succeeds: the client's own bytes, or a copy. -/
theorem bufferResize_some (hlaid : Laid entrySize s.entries (b :: bs))
    (h : bufferResize s b = (some p, s')) :
    (b.padSize = 0 ∧ p = b.pUserBuffer ∧ s' = s) ∨ (0 < b.padSize ∧ s.entries = p :: s'.entries ∧
        s'.mem = s.mem.write p (List.replicate b.padSize 0 ++ s.mem.read b.pUserBuffer b.userLen)) := by
  unfold bufferResize at h
  split at h
  · cases h
  split at h
  · cases h
  split at h
  next hpad =>
    split at h
    · cases h
    · cases h
    · rename_i w rest hallocs
      simp only [Prod.mk.injEq, Option.some.injEq] at h
      obtain ⟨rfl, rfl⟩ := h
      refine .inr ⟨hpad, by simp [BufferState.entries, hallocs], ?_⟩
      have hentry : w ∈ s.entries := by simp [BufferState.entries, hallocs]
      have happart : Apart b.pUserBuffer b.userLen w b.padSize := by
        have hle := hlaid.workingLen_le (List.mem_cons_self ..)
        have hpadle : b.padSize ≤ b.workingLen := Nat.sub_le _ _
        exact (hlaid.user (List.mem_cons_self ..) hentry).mono (Nat.le_refl _) (Nat.le_refl _)
          (Nat.le_refl w) (by omega)
      dsimp only
      rw [Memory.write_append, List.length_replicate,
        Memory.read_write_apart (by rw [List.length_replicate]; exact happart)]
      split
      · rfl
      · rename_i huser
        have hzero : b.userLen = 0 := by omega
        rw [hzero, Memory.read_zero, Memory.write_nil]
  next hpad =>
    simp only [Prod.mk.injEq] at h
    obtain ⟨hp, rfl⟩ := h
    split at hp
    · cases hp
    · exact .inl ⟨by omega, (Option.some.inj hp).symm, rfl⟩

/-- A resize that fails does not write, and hands out no entry. -/
theorem bufferResize_none (h : bufferResize s b = (none, s')) :
    s'.mem = s.mem ∧ s'.entries = s.entries := by
  unfold bufferResize at h
  split at h
  · cases h
    exact ⟨rfl, rfl⟩
  split at h
  · cases h
    exact ⟨rfl, rfl⟩
  split at h
  · split at h
    · cases h
      exact ⟨rfl, rfl⟩
    · next hallocs =>
      cases h
      simp [BufferState.entries, hallocs]
    · cases h
  · obtain rfl : s = s' := congrArg Prod.snd h
    exact ⟨rfl, rfl⟩

/-- A parameter that was resized with the given entries. -/
def PkeArg.At (x : PkeArg) (used : List Nat) : Prop :=
  (x.param.padSize = 0 ∧ x.ptr = x.param.pUserBuffer) ∨ (0 < x.param.padSize ∧ x.ptr ∈ used)

/-- The bytes that the device is given for a parameter. -/
def BufferParam.given (b : BufferParam) (m : Memory) : List UInt8 :=
  List.replicate b.padSize 0 ++ m.read b.pUserBuffer b.userLen

/-- What a sequence of resizes has done. -/
structure Resize (entrySize : Nat) (s : BufferState) (bs : List BufferParam) (xs : List PkeArg)
    (s' : BufferState) (used : List Nat) : Prop where
  entries : s.entries = used ++ s'.entries
  params : xs.map PkeArg.param = bs
  frame : Frame (used.map fun w => (w, entrySize)) s.mem s'.mem
  given : ∀ x ∈ xs, s'.mem.read x.ptr x.param.workingLen = x.param.given s.mem
  placed : ∀ x ∈ xs, x.At used
  copies : xs.Pairwise fun x y => 0 < x.param.padSize → 0 < y.param.padSize →
    Apart x.ptr entrySize y.ptr entrySize

section Cons

variable {entrySize : Nat} {s s' s'' : BufferState} {b : BufferParam} {bs : List BufferParam}
  {xs : List PkeArg} {used : List Nat}

theorem Resize.mem_entries (hr : Resize entrySize s bs xs s' used) (hw : w ∈ used) :
    w ∈ s.entries := by
  rw [hr.entries]
  exact List.mem_append_left _ hw

theorem Resize.cons_own (hr : Resize entrySize s bs xs s' used)
    (hlaid : Laid entrySize s.entries (b :: bs)) (hpad : b.padSize = 0) :
    Resize entrySize s (b :: bs) (⟨b, b.pUserBuffer⟩ :: xs) s' used := by
  have hmem : b ∈ b :: bs := List.mem_cons_self ..
  have hworking := BufferParam.userLen_le (hlaid.argLen_lt hmem)
  have hlen : b.workingLen = b.userLen := by
    have hsub : b.workingLen - b.userLen = 0 := hpad
    omega
  refine ⟨hr.entries, by rw [List.map_cons, hr.params], hr.frame, ?_, ?_, ?_⟩
  · rw [List.forall_mem_cons]
    refine ⟨?_, hr.given⟩
    rw [BufferParam.given, hpad, List.replicate_zero, List.nil_append, hlen]
    apply hr.frame
    intro r hmap
    obtain ⟨w, hw, rfl⟩ := List.mem_map.mp hmap
    exact hlaid.user hmem (hr.mem_entries hw)
  · rw [List.forall_mem_cons]
    exact ⟨.inl ⟨hpad, rfl⟩, hr.placed⟩
  · rw [List.pairwise_cons]
    exact ⟨fun y _ hx => absurd hx (by simp [hpad]), hr.copies⟩

theorem Resize.cons_copy (hr : Resize entrySize s' bs xs s'' used)
    (hlaid : Laid entrySize (p :: s'.entries) (b :: bs)) (hpad : 0 < b.padSize)
    (hentries : s.entries = p :: s'.entries) (hwrite : s'.mem = s.mem.write p (b.given s.mem)) :
    Resize entrySize s (b :: bs) (⟨b, p⟩ :: xs) s'' (p :: used) := by
  have hmem : b ∈ b :: bs := List.mem_cons_self ..
  have hworking := BufferParam.userLen_le (hlaid.argLen_lt hmem)
  have hfirst := (List.pairwise_cons.mp hlaid.separate).1
  have hle := hlaid.workingLen_le hmem
  have hgiven : (b.given s.mem).length = b.workingLen := by
    rw [BufferParam.given, List.length_append, List.length_replicate, Memory.length_read]
    exact Nat.sub_add_cancel hworking
  have hframe : Frame [(p, entrySize)] s.mem s'.mem := by
    rw [hwrite]
    refine Memory.frame_write (Nat.le_refl p) ?_
    rw [hgiven]
    exact Nat.add_le_add_left hle p
  refine ⟨by rw [hentries, hr.entries, List.cons_append], by rw [List.map_cons, hr.params],
    (hframe.mono (by simp)).trans (hr.frame.mono (by simp +contextual)), ?_, ?_, ?_⟩
  · rw [List.forall_mem_cons]
    constructor
    · -- the later entries are apart from this one
      have hkept : s''.mem.read p b.workingLen = s'.mem.read p b.workingLen := by
        apply hr.frame
        intro r hmap
        obtain ⟨w, hw, rfl⟩ := List.mem_map.mp hmap
        exact (hfirst w (hr.mem_entries hw)).mono (Nat.le_refl p) (Nat.add_le_add_left hle p)
          (Nat.le_refl w) (Nat.le_refl _)
      rw [hkept, hwrite, ← hgiven]
      exact Memory.read_write_self _ _ _
    · intro x hx
      have hxmem : x.param ∈ b :: bs := by
        rw [← hr.params]
        exact List.mem_cons_of_mem b (List.mem_map_of_mem hx)
      have huser : s'.mem.read x.param.pUserBuffer x.param.userLen =
          s.mem.read x.param.pUserBuffer x.param.userLen := by
        apply hframe
        intro r hsingle
        rw [List.mem_singleton.mp hsingle]
        exact hlaid.user hxmem (List.mem_cons_self ..)
      rw [hr.given x hx, BufferParam.given, BufferParam.given, huser]
  · rw [List.forall_mem_cons]
    refine ⟨.inr ⟨hpad, List.mem_cons_self ..⟩, fun x hx => ?_⟩
    rcases hr.placed x hx with hown | ⟨hx', hin⟩
    · exact .inl hown
    · exact .inr ⟨hx', List.mem_cons_of_mem p hin⟩
  · rw [List.pairwise_cons]
    refine ⟨fun y hy _ hypad => ?_, hr.copies⟩
    rcases hr.placed y hy with ⟨hzero, -⟩ | ⟨-, hin⟩
    · omega
    · exact hfirst y.ptr (hr.mem_entries hin)

end Cons

theorem resizeEach_cons_some (h : bufferResize s b = (some p, s')) (bs : List BufferParam) :
    resizeEach s (b :: bs) =
      ((resizeEach s' bs).1, ⟨b, p⟩ :: (resizeEach s' bs).2.1, (resizeEach s' bs).2.2) := by
  rw [resizeEach, h]

theorem resizeEach_cons_none (h : bufferResize s b = (none, s')) (bs : List BufferParam) :
    resizeEach s (b :: bs) = (false, [], s') := by
  rw [resizeEach, h]

/-- A loop has resized the parameters up to the one at which it fails. -/
theorem resizeEach_resize (hlaid : Laid entrySize s.entries bs) :
    ((resizeEach s bs).2.1.map PkeArg.param).Sublist bs ∧
      ∃ used, Resize entrySize s ((resizeEach s bs).2.1.map PkeArg.param) (resizeEach s bs).2.1
        (resizeEach s bs).2.2 used := by
  have hnil {s s' : BufferState} (hmem : s'.mem = s.mem) (hentries : s'.entries = s.entries) :
      Resize entrySize s [] [] s' [] :=
    ⟨hentries.symm, rfl, hmem ▸ Frame.refl _ _, nofun, nofun, .nil⟩
  induction bs generalizing s with
  | nil => exact ⟨.refl [], [], hnil rfl rfl⟩
  | cons b bs ih =>
    rcases hresize : bufferResize s b with ⟨_ | p, s'⟩
    · obtain ⟨hmem, hentries⟩ := bufferResize_none hresize
      rw [resizeEach_cons_none hresize]
      exact ⟨List.nil_sublist _, [], hnil hmem hentries⟩
    rw [resizeEach_cons_some hresize]
    rcases bufferResize_some hlaid hresize with ⟨hpad, rfl, rfl⟩ | ⟨hpad, hentries, hwrite⟩
    · obtain ⟨hsub, used, hr⟩ := ih (hlaid.sublist (List.sublist_cons_self b bs))
      exact ⟨hsub.cons_cons b, used, hr.cons_own (hlaid.sublist (hsub.cons_cons b)) hpad⟩
    · rw [hentries] at hlaid
      obtain ⟨hsub, used, hr⟩ := ih hlaid.tail
      exact ⟨hsub.cons_cons b, p :: used,
        hr.cons_copy (hlaid.sublist (hsub.cons_cons b)) hpad hentries hwrite⟩

theorem resizeEach_params (h : (resizeEach s bs).1 = true) :
    (resizeEach s bs).2.1.map PkeArg.param = bs := by
  induction bs generalizing s with
  | nil => rfl
  | cons b bs ih =>
    rcases hresize : bufferResize s b with ⟨_ | p, s'⟩
    · rw [resizeEach_cons_none hresize] at h
      cases h
    · rw [resizeEach_cons_some hresize] at h ⊢
      rw [List.map_cons, ih h]

/-- A loop that comes to its end has resized all its parameters. -/
theorem resizeEach_ok (hlaid : Laid entrySize s.entries bs) (hok : (resizeEach s bs).1 = true) :
    ∃ used, Resize entrySize s bs (resizeEach s bs).2.1 (resizeEach s bs).2.2 used := by
  have hresize := (resizeEach_resize hlaid).2
  rwa [resizeEach_params hok] at hresize

/-! ## Chains -/

theorem resizeEach_append (s : BufferState) (bs cs : List BufferParam) :
    resizeEach s (bs ++ cs) =
      if (resizeEach s bs).1 then
        ((resizeEach (resizeEach s bs).2.2 cs).1,
          (resizeEach s bs).2.1 ++ (resizeEach (resizeEach s bs).2.2 cs).2.1,
          (resizeEach (resizeEach s bs).2.2 cs).2.2)
      else resizeEach s bs := by
  induction bs generalizing s with
  | nil => rfl
  | cons b bs ih =>
    rcases hresize : bufferResize s b with ⟨_ | p, s'⟩
    · rw [List.cons_append, resizeEach_cons_none hresize, resizeEach_cons_none hresize]
      rfl
    · rw [List.cons_append, resizeEach_cons_some hresize, resizeEach_cons_some hresize, ih s']
      split
      · rfl
      · rfl

/-- Both loops are one over all parameters. -/
theorem resizeParams_eq (s : BufferState) (inputs outputs : List BufferParam) :
    resizeEach s (inputs ++ outputs) = ((resizeParams s inputs outputs).1,
        (resizeParams s inputs outputs).2.1.1 ++ (resizeParams s inputs outputs).2.1.2,
        (resizeParams s inputs outputs).2.2) := by
  rw [resizeEach_append, resizeParams]
  by_cases hin : (resizeEach s inputs).1 = true
  · simp [hin]
  · have hin' : (resizeEach s inputs).1 = false := by simpa using hin
    simp [← hin']

theorem resizeParams_ok {inputs outputs : List BufferParam}
    (h : (resizeParams s inputs outputs).1 = true) :
    (resizeParams s inputs outputs).2.1.1.map PkeArg.param = inputs ∧
      (resizeParams s inputs outputs).2.1.2.map PkeArg.param = outputs := by
  unfold resizeParams at h ⊢
  dsimp only at h ⊢
  by_cases hin : (resizeEach s inputs).1 = false
  · rw [if_pos hin] at h
    cases h
  · rw [if_neg hin] at h ⊢
    exact ⟨resizeEach_params (by simpa using hin), resizeEach_params h⟩

/-- A request has the function and the parameters of the call that made it. -/
structure MadeBy (r : ReqSpec) (c : PkeReq) : Prop where
  functionalityId : c.functionalityId = r.functionalityId
  inputs : c.inputs.map PkeArg.param = r.inputs
  outputs : c.outputs.map PkeArg.param = r.outputs

theorem createRequest_ok {r : ReqSpec} (h : (createRequest s chain r).1 = true) :
    ∃ c, MadeBy r c ∧ (createRequest s chain r).2.1 = chain ++ [c] ∧
      resizeEach s r.params = (true, c.inputs ++ c.outputs, (createRequest s chain r).2.2) := by
  unfold createRequest at h ⊢
  by_cases hentry : r.entry = false
  · rw [if_pos hentry] at h
    cases h
  rw [if_neg hentry] at h ⊢
  dsimp only at h ⊢
  by_cases hresize : (resizeParams s r.inputs r.outputs).1 = true
  · rw [if_pos hresize]
    obtain ⟨hinputs, houtputs⟩ := resizeParams_ok hresize
    exact ⟨_, ⟨rfl, hinputs, houtputs⟩, rfl, hresize ▸ resizeParams_eq s r.inputs r.outputs⟩
  · rw [if_neg hresize] at h
    cases h

/-- A chain is built by resizing all parameters of its requests one after the other. -/
theorem createChain_ok {specs : List ReqSpec} (h : (createChain s chain specs).1 = true) :
    ∃ requests, List.Forall₂ MadeBy specs requests ∧
      (createChain s chain specs).2.1 = chain ++ requests ∧
      resizeEach s (specs.flatMap ReqSpec.params) =
        (true, args requests, (createChain s chain specs).2.2) := by
  induction specs generalizing s chain with
  | nil => exact ⟨[], List.Forall₂.nil, by simp [createChain], rfl⟩
  | cons r specs ih =>
    rw [createChain] at h ⊢
    by_cases hfirst : (createRequest s chain r).1 = true
    · rw [if_pos hfirst] at h ⊢
      obtain ⟨c, hmade, hchain, hresize⟩ := createRequest_ok hfirst
      obtain ⟨requests, hall, hrest, hresizes⟩ := ih h
      refine ⟨c :: requests, List.Forall₂.cons hmade hall, ?_, ?_⟩
      · rw [hrest, hchain, List.append_assoc]
        rfl
      · rw [List.flatMap_cons, resizeEach_append, hresize, if_pos rfl, hresizes]
        rfl
    · rw [if_neg hfirst] at h
      exact absurd h hfirst

/-- A chain that is not completed is destroyed with what was resized. -/
theorem createChain_failed {specs : List ReqSpec} (h : (createChain s chain specs).1 = false) :
    ∃ requests bs, bs.Sublist (specs.flatMap ReqSpec.params) ∧
      (resizeEach s bs).2.1 = args requests ∧
      (createChain s chain specs).2.2 = destroyChain (resizeEach s bs).2.2 (chain ++ requests) := by
  induction specs generalizing s chain with
  | nil => cases h
  | cons r specs ih =>
    rw [createChain] at h ⊢
    rw [List.flatMap_cons]
    by_cases hfirst : (createRequest s chain r).1 = true
    · rw [if_pos hfirst] at h ⊢
      obtain ⟨c, -, hchain, hresize⟩ := createRequest_ok hfirst
      obtain ⟨requests, bs, hsub, hargs, hfinal⟩ := ih h
      refine ⟨c :: requests, r.params ++ bs, hsub.append_left r.params, ?_, ?_⟩
      · rw [resizeEach_append, hresize, if_pos rfl]
        exact congrArg ((c.inputs ++ c.outputs) ++ ·) hargs
      · rw [resizeEach_append, hresize, if_pos rfl, hfinal, hchain, List.append_assoc]
        rfl
    · rw [if_neg hfirst]
      unfold createRequest at hfirst ⊢
      by_cases hentry : r.entry = false
      · rw [if_pos hentry]
        exact ⟨[], [], List.nil_sublist _, rfl, by rw [List.append_nil]; rfl⟩
      · rw [if_neg hentry] at hfirst ⊢
        dsimp only at hfirst ⊢
        have hresize : ¬(resizeParams s r.inputs r.outputs).1 = true := fun hresize =>
          hfirst (by rw [if_pos hresize])
        rw [if_neg hresize]
        refine ⟨[⟨r.functionalityId, (resizeParams s r.inputs r.outputs).2.1.1,
          (resizeParams s r.inputs r.outputs).2.1.2⟩], r.params,
          List.sublist_append_left r.params _, ?_, ?_⟩
        · rw [ReqSpec.params, resizeParams_eq]
          exact (List.append_nil _).symm
        · rw [ReqSpec.params, resizeParams_eq]

end Qatlib.Crypto
