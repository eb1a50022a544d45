import Qatlib.Crypto.PkeBuffers

set_option autoImplicit false

/-! # What the device is given, and what the client gets back

A chain of requests is built, the device writes its outputs, and the chain is destroyed. The device is
given whole quadwords with the values of the client's inputs; afterwards the client's inputs are as
before, and each output has the low-order bytes of what the device wrote. -/

namespace Qatlib.Crypto

open Memory (Apart Frame)

/-! ## The values of the inputs -/

theorem BufferParam.given_value (b : BufferParam) (m : Memory) :
    beValue (b.given m) = beValue (m.read b.pData b.dataLen) % 256 ^ b.argLen := by
  have hlen : (m.read b.pUserBuffer b.userLen).length = b.userLen := Memory.length_read ..
  rw [BufferParam.given, beValue_replicate_append, b.read_client]
  rcases Nat.lt_or_ge b.argLen b.dataLen with hlt | hle
  · -- the first bytes are left out
    have huser : b.userLen = b.argLen := by
      rw [b.userLen_eq]
      omega
    have hmod := beValue_append_mod (m.read b.pData (b.dataLen - b.userLen))
      (m.read b.pUserBuffer b.userLen)
    rw [hlen, huser] at hmod
    rw [huser, hmod]
  · have huser : b.userLen = b.dataLen := by
      rw [b.userLen_eq]
      omega
    have hlt : beValue (m.read b.pUserBuffer b.userLen) < 256 ^ b.argLen := by
      refine Nat.lt_of_lt_of_le (beValue_lt _) (Nat.pow_le_pow_right (by decide) ?_)
      omega
    rw [huser, Nat.sub_self, Memory.read_zero, List.nil_append, ← huser, Nat.mod_eq_of_lt hlt]

/-! ## Restoring -/

/-- What restoring an output does to memory. -/
def restoreOutput (m : Memory) (x : PkeArg) : Memory :=
  if x.param.pUserBuffer ≠ x.ptr then
    m.write x.param.pUserBuffer (m.read (x.ptr + x.param.padSize) x.param.userLen)
  else m

variable {x : PkeArg} {a n entrySize : Nat} {writes : List (PkeArg × List UInt8)}

section Restore

variable {s : BufferState} {xs : List PkeArg}

theorem bufferRestore_mem {b : BufferParam} (h : b.userLen ≤ b.workingLen) (working : Nat)
    (copyBuf : Bool) :
    (bufferRestore s b working copyBuf).1 = true ∧ (bufferRestore s b working copyBuf).2.mem =
        if copyBuf then restoreOutput s.mem ⟨b, working⟩ else s.mem := by
  unfold bufferRestore restoreOutput
  rw [if_neg (by omega)]
  by_cases hown : b.pUserBuffer = working
  · simp [hown]
  · simp [hown]

theorem restoreEach_mem (h : ∀ x ∈ xs, x.param.userLen ≤ x.param.workingLen) (copyBuf : Bool) :
    (restoreEach copyBuf s xs).1 = true ∧
      (restoreEach copyBuf s xs).2.mem = if copyBuf then xs.foldl restoreOutput s.mem else s.mem := by
  induction xs generalizing s with
  | nil => simp [restoreEach]
  | cons x xs ih =>
    obtain ⟨hfirst, hrest⟩ := List.forall_mem_cons.mp h
    obtain ⟨hok, hmem⟩ := bufferRestore_mem (s := s) hfirst x.ptr copyBuf
    rw [restoreEach, if_neg (by simp [hok])]
    obtain ⟨hok', hmem'⟩ := ih hrest
    refine ⟨hok', hmem'.trans ?_⟩
    rw [hmem]
    cases copyBuf <;> rfl

theorem destroyChain_mem {chain : List PkeReq}
    (h : ∀ x ∈ args chain, x.param.userLen ≤ x.param.workingLen) :
    (destroyChain s chain).mem = (chain.flatMap PkeReq.outputs).foldl restoreOutput s.mem := by
  induction chain generalizing s with
  | nil => rfl
  | cons r chain ih =>
    have hr : ∀ x ∈ r.inputs ++ r.outputs, x.param.userLen ≤ x.param.workingLen :=
      fun x hx => h x (List.mem_append_left _ hx)
    have hrest : ∀ x ∈ args chain, x.param.userLen ≤ x.param.workingLen :=
      fun x hx => h x (List.mem_append_right _ hx)
    obtain ⟨hin, hinMem⟩ := restoreEach_mem (s := s)
      (fun x hx => hr x (List.mem_append_left r.outputs hx)) false
    have hmem : (restoreParams s r).2.mem = r.outputs.foldl restoreOutput s.mem := by
      unfold restoreParams
      rw [if_neg (by simp [hin])]
      obtain ⟨-, houtMem⟩ := restoreEach_mem (s := (restoreEach false s r.inputs).2)
        (fun x hx => hr x (List.mem_append_right r.inputs hx)) true
      rw [houtMem, hinMem]
      rfl
    rw [List.flatMap_cons, List.foldl_append, ← hmem]
    exact ih hrest

/-- The client's bytes of an output are the buffer of the device itself, or apart from it. -/
def PkeArg.Own (x : PkeArg) : Prop :=
  (x.param.padSize = 0 ∧ x.ptr = x.param.pUserBuffer) ∨
    Apart x.param.pUserBuffer x.param.userLen x.ptr x.param.workingLen

/-- Two outputs share neither the client's bytes nor the device's buffers. -/
structure PkeArg.Separate (x y : PkeArg) : Prop where
  users : Apart x.param.pUserBuffer x.param.userLen y.param.pUserBuffer y.param.userLen
  left : Apart x.param.pUserBuffer x.param.userLen y.ptr y.param.workingLen
  right : Apart y.param.pUserBuffer y.param.userLen x.ptr x.param.workingLen

theorem frame_restoreOutput (m : Memory) (x : PkeArg) :
    Frame [(x.param.pUserBuffer, x.param.userLen)] m (restoreOutput m x) := by
  unfold restoreOutput
  split
  · exact Memory.frame_write (Nat.le_refl _) (by rw [Memory.length_read])
  · exact Frame.refl _ m

theorem read_restoreOutput (hx : x.Own) (hle : x.param.userLen ≤ x.param.workingLen) (m : Memory) :
    (restoreOutput m x).read x.param.pUserBuffer x.param.userLen =
      m.read (x.ptr + x.param.padSize) x.param.userLen := by
  unfold restoreOutput
  split
  · have hself := Memory.read_write_self m x.param.pUserBuffer
      (m.read (x.ptr + x.param.padSize) x.param.userLen)
    rwa [Memory.length_read] at hself
  · rename_i hsame
    have hptr : x.param.pUserBuffer = x.ptr := not_not.mp hsame
    rcases hx with ⟨hpad, -⟩ | hapart
    · rw [hpad, hptr, Nat.add_zero]
    · -- the same address and yet apart: there are no bytes
      have hzero : x.param.userLen = 0 := by
        unfold Apart at hapart
        omega
      rw [hzero, Memory.read_zero, Memory.read_zero]

/-- Restoring outputs that are separate copies back the end of each buffer and changes nothing else. -/
theorem foldl_restoreOutput (hsep : xs.Pairwise PkeArg.Separate) (hown : ∀ x ∈ xs, x.Own)
    (hle : ∀ x ∈ xs, x.param.userLen ≤ x.param.workingLen) (m : Memory) :
    Frame (xs.map fun x => (x.param.pUserBuffer, x.param.userLen)) m (xs.foldl restoreOutput m) ∧
      ∀ x ∈ xs, (xs.foldl restoreOutput m).read x.param.pUserBuffer x.param.userLen =
        m.read (x.ptr + x.param.padSize) x.param.userLen := by
  induction xs generalizing m with
  | nil => exact ⟨Frame.refl _ m, fun x hx => (by cases hx)⟩
  | cons x xs ih =>
    obtain ⟨hfirst, hrest⟩ := List.pairwise_cons.mp hsep
    obtain ⟨hownFirst, hownRest⟩ := List.forall_mem_cons.mp hown
    obtain ⟨hleFirst, hleRest⟩ := List.forall_mem_cons.mp hle
    obtain ⟨hframe, hreads⟩ := ih hrest hownRest hleRest (restoreOutput m x)
    have hframeFirst := frame_restoreOutput m x
    rw [List.foldl_cons]
    refine ⟨(hframeFirst.mono (by simp)).trans (hframe.mono (by simp +contextual)), ?_⟩
    rw [List.forall_mem_cons]
    constructor
    · have hkept := hframe x.param.pUserBuffer x.param.userLen (by
        intro r hr
        obtain ⟨y, hy, rfl⟩ := List.mem_map.mp hr
        exact (hfirst y hy).users)
      rw [hkept, read_restoreOutput hownFirst hleFirst]
    · intro y hy
      have hlen := hleRest y hy
      have hpad : y.param.padSize + y.param.userLen = y.param.workingLen := Nat.sub_add_cancel hlen
      rw [hreads y hy]
      apply hframeFirst
      intro r hr
      rw [List.mem_singleton.mp hr]
      exact ((hfirst y hy).left.symm).mono (by omega) (by omega) (Nat.le_refl _) (Nat.le_refl _)

end Restore

/-! ## The round trip -/

/-- The device writes its outputs. -/
def deviceWrites (m : Memory) (writes : List (PkeArg × List UInt8)) : Memory :=
  m.writeAll (writes.map fun w => (w.1.ptr, w.2))

/-- The client's buffers: the outputs are apart from each other and from the inputs, and all are apart
    from the entries of the pool, which are large enough. -/
structure ClientLayout (entrySize : Nat) (s : BufferState) (specs : List ReqSpec) : Prop where
  laid : Laid entrySize s.entries (specs.flatMap ReqSpec.params)
  outputs : (specs.flatMap ReqSpec.outputs).Pairwise fun b c =>
    Apart b.pData b.dataLen c.pData c.dataLen
  inputs : ∀ b ∈ specs.flatMap ReqSpec.inputs, ∀ c ∈ specs.flatMap ReqSpec.outputs,
    Apart b.pData b.dataLen c.pData c.dataLen

section Chain

variable {specs : List ReqSpec} {chain : List PkeReq}

theorem params_of_madeBy (h : List.Forall₂ MadeBy specs chain) :
    (chain.flatMap PkeReq.inputs).map PkeArg.param = specs.flatMap ReqSpec.inputs ∧
      (chain.flatMap PkeReq.outputs).map PkeArg.param = specs.flatMap ReqSpec.outputs := by
  induction h with
  | nil => exact ⟨rfl, rfl⟩
  | cons hmade _ ih =>
    simp only [List.flatMap_cons, List.map_append, hmade.inputs, hmade.outputs, ih.1, ih.2,
      and_self]

theorem inputs_subset_args (chain : List PkeReq) :
    ∀ x ∈ chain.flatMap PkeReq.inputs, x ∈ args chain := by
  intro x hx
  obtain ⟨r, hr, hin⟩ := List.mem_flatMap.mp hx
  exact List.mem_flatMap.mpr ⟨r, hr, List.mem_append_left _ hin⟩

theorem outputs_sublist_args (chain : List PkeReq) :
    (chain.flatMap PkeReq.outputs).Sublist (args chain) := by
  induction chain with
  | nil => exact List.Sublist.slnil
  | cons r chain ih =>
    rw [args, List.flatMap_cons, List.flatMap_cons]
    exact (List.sublist_append_right r.inputs r.outputs).append ih

end Chain

/-- A run apart from the client's buffer and from the entries is apart from the device's buffer. -/
theorem PkeArg.At.apart {used : List Nat} (hx : x.At used)
    (hle : x.param.userLen ≤ x.param.workingLen) (hfits : x.param.workingLen ≤ entrySize)
    (hclient : Apart a n x.param.pUserBuffer x.param.userLen)
    (hentries : ∀ w ∈ used, Apart a n w entrySize) : Apart a n x.ptr x.param.workingLen := by
  rcases hx with ⟨hpad, hptr⟩ | ⟨-, hin⟩
  · have hlen : x.param.workingLen = x.param.userLen := by
      have hsub : x.param.workingLen - x.param.userLen = 0 := hpad
      omega
    rw [hptr, hlen]
    exact hclient
  · exact (hentries x.ptr hin).mono (Nat.le_refl a) (Nat.le_refl _) (Nat.le_refl _)
      (Nat.add_le_add_left hfits _)

/-- The client's bytes that are used are apart from a run that is apart from the client's buffer. -/
theorem apart_user {b : BufferParam} (h : Apart a n b.pData b.dataLen) :
    Apart a n b.pUserBuffer b.userLen := by
  have hle := b.userLen_le_dataLen
  have huser := b.pUserBuffer_eq
  exact h.mono (Nat.le_refl a) (Nat.le_refl _) (by omega) (by omega)

/-- A chain that was built for a client. -/
structure Created (entrySize : Nat) (s : BufferState) (specs : List ReqSpec) (chain : List PkeReq)
    (s' : BufferState) (used : List Nat) : Prop where
  layout : ClientLayout entrySize s specs
  made : List.Forall₂ MadeBy specs chain
  resize : Resize entrySize s (specs.flatMap ReqSpec.params) (args chain) s' used

namespace Created

variable {entrySize : Nat} {s s' : BufferState} {specs : List ReqSpec} {chain : List PkeReq}
  {used : List Nat} {x : PkeArg}

section

variable (h : Created entrySize s specs chain s' used) (hx : x ∈ args chain)
include h hx

theorem param_mem : x.param ∈ specs.flatMap ReqSpec.params := by
  rw [← h.resize.params]
  exact List.mem_map_of_mem hx

theorem userLen_le : x.param.userLen ≤ x.param.workingLen :=
  BufferParam.userLen_le (h.layout.laid.argLen_lt (h.param_mem hx))

theorem fits : x.param.workingLen ≤ entrySize := h.layout.laid.workingLen_le (h.param_mem hx)

theorem client_apart : ∀ w ∈ used, Apart x.param.pData x.param.dataLen w entrySize :=
  fun w hw => h.layout.laid.client x.param (h.param_mem hx) w (h.resize.mem_entries hw)

theorem user_apart : ∀ w ∈ used, Apart x.param.pUserBuffer x.param.userLen w entrySize :=
  fun _ hw => h.layout.laid.user (h.param_mem hx) (h.resize.mem_entries hw)

end

theorem output_mem (hx : x ∈ chain.flatMap PkeReq.outputs) : x ∈ args chain :=
  (outputs_sublist_args chain).subset hx

section

variable (h : Created entrySize s specs chain s' used)
include h

theorem own (hx : x ∈ args chain) : x.Own := by
  rcases h.resize.placed x hx with hsame | ⟨hpad, hin⟩
  · exact .inl hsame
  · exact .inr ((h.user_apart hx x.ptr hin).mono (Nat.le_refl _) (Nat.le_refl _) (Nat.le_refl _)
      (Nat.add_le_add_left (h.fits hx) _))

theorem outputs_pairwise :
    (chain.flatMap PkeReq.outputs).Pairwise fun x y =>
      Apart x.param.pData x.param.dataLen y.param.pData y.param.dataLen := by
  have hclient := h.layout.outputs
  rw [← (params_of_madeBy h.made).2, List.pairwise_map] at hclient
  exact hclient

theorem separate : (chain.flatMap PkeReq.outputs).Pairwise PkeArg.Separate := by
  refine h.outputs_pairwise.imp_of_mem fun {x y} hx hy hxy => ?_
  have hx := output_mem hx
  have hy := output_mem hy
  have husers : Apart x.param.pUserBuffer x.param.userLen y.param.pUserBuffer y.param.userLen :=
    (apart_user (apart_user hxy).symm).symm
  exact ⟨husers,
    (h.resize.placed y hy).apart (h.userLen_le hy) (h.fits hy) husers (h.user_apart hx),
    (h.resize.placed x hx).apart (h.userLen_le hx) (h.fits hx) husers.symm (h.user_apart hy)⟩

theorem devices :
    (chain.flatMap PkeReq.outputs).Pairwise fun x y =>
      Apart x.ptr x.param.workingLen y.ptr y.param.workingLen := by
  have hcopies := h.resize.copies.sublist (outputs_sublist_args chain)
  refine (hcopies.and h.separate).imp_of_mem fun {x y} hx hy hxy => ?_
  obtain ⟨hcopy, hsep⟩ := hxy
  have hx := output_mem hx
  have hy := output_mem hy
  rcases h.resize.placed x hx with ⟨hpad, hptr⟩ | ⟨hpadx, hinx⟩
  · have hlen : x.param.workingLen = x.param.userLen := by
      have hle := h.userLen_le hx
      have hsub : x.param.workingLen - x.param.userLen = 0 := hpad
      omega
    rw [hptr, hlen]
    exact hsep.left
  · rcases h.resize.placed y hy with ⟨hpad, hptr⟩ | ⟨hpady, hiny⟩
    · have hlen : y.param.workingLen = y.param.userLen := by
        have hle := h.userLen_le hy
        have hsub : y.param.workingLen - y.param.userLen = 0 := hpad
        omega
      rw [hptr, hlen]
      exact hsep.right.symm
    · exact (hcopy hpadx hpady).mono (Nat.le_refl _) (Nat.add_le_add_left (h.fits hx) _)
        (Nat.le_refl _) (Nat.add_le_add_left (h.fits hy) _)

section

variable (hfst : writes.map Prod.fst = chain.flatMap PkeReq.outputs)
variable (hlen : ∀ w ∈ writes, w.2.length = w.1.param.workingLen)
include hfst hlen

/-- What is apart from the entries and from the outputs' bytes is as before at the end. -/
theorem kept (hentries : ∀ w ∈ used, Apart a n w entrySize)
    (hothers : ∀ y ∈ chain.flatMap PkeReq.outputs, Apart a n y.param.pUserBuffer y.param.userLen) :
    (destroyChain { s' with mem := deviceWrites s'.mem writes } chain).mem.read a n =
      s.mem.read a n := by
  have hwritten : ∀ w ∈ writes, w.1 ∈ chain.flatMap PkeReq.outputs := fun w hw => by
    rw [← hfst]
    exact List.mem_map_of_mem hw
  rw [destroyChain_mem fun x hx => h.userLen_le hx]
  have hrestore := (foldl_restoreOutput h.separate (fun x hx => h.own (output_mem hx))
    (fun x hx => h.userLen_le (output_mem hx)) (deviceWrites s'.mem writes)).1
  rw [hrestore a n (by
    intro r hr
    obtain ⟨y, hy, rfl⟩ := List.mem_map.mp hr
    exact hothers y hy)]
  have hdevice := Memory.frame_writeAll s'.mem (writes.map fun w => (w.1.ptr, w.2))
  rw [deviceWrites, hdevice a n (by
    intro r hr
    rw [List.map_map] at hr
    obtain ⟨w, hw, rfl⟩ := List.mem_map.mp hr
    have hy := output_mem (hwritten w hw)
    dsimp only [Function.comp_apply]
    rw [hlen w hw]
    exact (h.resize.placed w.1 hy).apart (h.userLen_le hy) (h.fits hy)
      (hothers w.1 (hwritten w hw)) hentries)]
  apply h.resize.frame
  intro r hr
  obtain ⟨w, hw, rfl⟩ := List.mem_map.mp hr
  exact hentries w hw

/-- The client's bytes of an output at the end: the first ones as before, then the end of what the
    device wrote. -/
theorem output {w : PkeArg × List UInt8} (hw : w ∈ writes) :
    (destroyChain { s' with mem := deviceWrites s'.mem writes } chain).mem.read
        w.1.param.pUserBuffer w.1.param.userLen = w.2.drop w.1.param.padSize := by
  have hout : w.1 ∈ chain.flatMap PkeReq.outputs := by
    rw [← hfst]
    exact List.mem_map_of_mem hw
  have hle := h.userLen_le (output_mem hout)
  have hsplit : w.1.param.padSize + w.1.param.userLen = w.1.param.workingLen :=
    Nat.sub_add_cancel hle
  rw [destroyChain_mem fun x hx => h.userLen_le hx]
  have hrestore := (foldl_restoreOutput h.separate (fun x hx => h.own (output_mem hx))
    (fun x hx => h.userLen_le (output_mem hx)) (deviceWrites s'.mem writes)).2 w.1 hout
  have hpairwise : (writes.map fun w => (w.1.ptr, w.2)).Pairwise fun v v' =>
      Apart v.1 v.2.length v'.1 v'.2.length := by
    have hdevices := h.devices
    rw [← hfst, List.pairwise_map] at hdevices
    rw [List.pairwise_map]
    refine hdevices.imp_of_mem fun {v v'} hv hv' hapart => ?_
    rw [hlen v hv, hlen v' hv']
    exact hapart
  have hread := Memory.read_writeAll hpairwise s'.mem
    (List.mem_map_of_mem (f := fun w : PkeArg × List UInt8 => (w.1.ptr, w.2)) hw)
  dsimp only at hread
  rw [hlen w hw, ← hsplit] at hread
  rw [hrestore, ← Memory.drop_read, deviceWrites, hread]

/-- The first bytes of an output, which are not used. -/
theorem front_kept (hx : x ∈ chain.flatMap PkeReq.outputs) :
    (destroyChain { s' with mem := deviceWrites s'.mem writes } chain).mem.read x.param.pData
        (x.param.dataLen - x.param.userLen) =
      s.mem.read x.param.pData (x.param.dataLen - x.param.userLen) := by
  have hclient := h.client_apart (output_mem hx)
  refine h.kept hfst hlen (fun w hw => ?_) fun y hy => ?_
  · exact (hclient w hw).mono (Nat.le_refl _) (by omega) (Nat.le_refl w) (Nat.le_refl _)
  · by_cases hxy : x = y
    · -- its own bytes that are used come after them
      subst hxy
      rw [x.param.pUserBuffer_eq]
      exact .inl (Nat.le_refl _)
    · have hsymm : Std.Symm fun x y : PkeArg =>
          Apart x.param.pData x.param.dataLen y.param.pData y.param.dataLen :=
        ⟨fun _ _ hapart => hapart.symm⟩
      have hapart := h.outputs_pairwise.forall hx hy hxy
      exact apart_user (hapart.mono (Nat.le_refl _) (by omega) (Nat.le_refl _) (Nat.le_refl _))

end

end

end Created

/-- What is copied back to a parameter that the device did not write is what was copied from it. -/
theorem Resize.restoreOutput_eq {s s' : BufferState} {bs : List BufferParam} {xs : List PkeArg}
    {used : List Nat} (hr : Resize entrySize s bs xs s' used) (hlaid : Laid entrySize s.entries bs)
    (hx : x ∈ xs) : restoreOutput s'.mem x = s'.mem := by
  have hparam : x.param ∈ bs := hr.params ▸ List.mem_map_of_mem hx
  have hsplit : x.param.padSize + x.param.userLen = x.param.workingLen :=
    Nat.sub_add_cancel (BufferParam.userLen_le (hlaid.argLen_lt hparam))
  have hkept : s'.mem.read x.param.pUserBuffer x.param.userLen =
      s.mem.read x.param.pUserBuffer x.param.userLen := by
    apply hr.frame
    intro r hmap
    obtain ⟨w, hw, rfl⟩ := List.mem_map.mp hmap
    exact hlaid.user hparam (hr.mem_entries hw)
  have hend : s'.mem.read (x.ptr + x.param.padSize) x.param.userLen =
      s'.mem.read x.param.pUserBuffer x.param.userLen := by
    rw [← Memory.drop_read, hsplit, hr.given x hx, BufferParam.given,
      List.drop_left' (List.length_replicate ..), hkept]
  unfold restoreOutput
  split
  · rw [hend, Memory.write_read_self]
  · rfl

/-- A chain that cannot be completed leaves everything but the entries as it was. -/
theorem createChain_failed_frame {s : BufferState} {specs : List ReqSpec}
    (hlaid : Laid entrySize s.entries (specs.flatMap ReqSpec.params))
    (hfailed : (createChain s [] specs).1 = false) :
    Frame (s.entries.map fun w => (w, entrySize)) s.mem (createChain s [] specs).2.2.mem := by
  obtain ⟨requests, bs, hsub, hargs, hfinal⟩ := createChain_failed hfailed
  have hbs := hlaid.sublist hsub
  obtain ⟨hdone, used, hr⟩ := resizeEach_resize hbs
  have hdone := hbs.sublist hdone
  rw [hargs] at hr hdone
  have hle : ∀ x ∈ args requests, x.param.userLen ≤ x.param.workingLen := fun x hx =>
    BufferParam.userLen_le (hdone.argLen_lt (List.mem_map_of_mem hx))
  have hback : ∀ xs : List PkeArg, (∀ x ∈ xs, x ∈ args requests) →
      xs.foldl restoreOutput (resizeEach s bs).2.2.mem = (resizeEach s bs).2.2.mem := by
    intro xs hxs
    induction xs with
    | nil => rfl
    | cons x xs ih =>
      obtain ⟨hx, hrest⟩ := List.forall_mem_cons.mp hxs
      rw [List.foldl_cons, hr.restoreOutput_eq hdone hx, ih hrest]
  rw [hfinal, List.nil_append, destroyChain_mem hle,
    hback _ fun x hx => (outputs_sublist_args requests).subset hx]
  refine hr.frame.mono fun r hmap => ?_
  obtain ⟨w, hw, rfl⟩ := List.mem_map.mp hmap
  exact List.mem_map_of_mem (hr.mem_entries hw)

/-- **What the device is given and what the client gets back.** If the chain cannot be created,
    everything but the entries of the pool is as before. -/
theorem pke_buffers_round_trip (entrySize : Nat) (s : BufferState) (specs : List ReqSpec)
    (hlayout : ClientLayout entrySize s specs) :
    let chain := (createChain s [] specs).2.1
    let s' := (createChain s [] specs).2.2
    ((createChain s [] specs).1 = false →
      Frame (s.entries.map fun w => (w, entrySize)) s.mem s'.mem) ∧
    ((createChain s [] specs).1 = true →
    List.Forall₂ MadeBy specs chain ∧
    (∀ x ∈ args chain, x.param.workingLen = (x.param.argLen + 7) / 8 * 8) ∧
    (∀ x ∈ chain.flatMap PkeReq.inputs, beValue (s'.mem.read x.ptr x.param.workingLen) =
        beValue (s.mem.read x.param.pData x.param.dataLen) % 256 ^ x.param.argLen) ∧
    ∀ writes : List (PkeArg × List UInt8), writes.map Prod.fst = chain.flatMap PkeReq.outputs →
      (∀ w ∈ writes, w.2.length = w.1.param.workingLen) →
      let final := destroyChain { s' with mem := deviceWrites s'.mem writes } chain
      (∀ x ∈ chain.flatMap PkeReq.inputs,
        final.mem.read x.param.pData x.param.dataLen = s.mem.read x.param.pData x.param.dataLen) ∧
      ∀ w ∈ writes, final.mem.read w.1.param.pData w.1.param.dataLen =
        s.mem.read w.1.param.pData (w.1.param.dataLen - min w.1.param.dataLen w.1.param.argLen) ++
          w.2.drop (w.2.length - min w.1.param.dataLen w.1.param.argLen)) := by
  intro chain s'
  refine ⟨createChain_failed_frame hlayout.laid, fun hok => ?_⟩
  obtain ⟨requests, hmade, hchain, hresizes⟩ := createChain_ok hok
  rw [List.nil_append] at hchain
  obtain ⟨used, hresize⟩ := resizeEach_ok hlayout.laid (by rw [hresizes])
  rw [hresizes] at hresize
  have hcreated : Created entrySize s specs chain s' used := by
    have hchain' : chain = requests := hchain
    rw [hchain']
    exact ⟨hlayout, hmade, hresize⟩
  refine ⟨hcreated.made, fun x hx => ?_, fun x hx => ?_, fun writes hfst hlen => ⟨?_, ?_⟩⟩
  · exact BufferParam.workingLen_eq (hlayout.laid.argLen_lt (hcreated.param_mem hx))
  · rw [hcreated.resize.given x (inputs_subset_args chain x hx)]
    exact x.param.given_value s.mem
  · intro x hx
    have hin : x.param ∈ specs.flatMap ReqSpec.inputs := by
      rw [← (params_of_madeBy hcreated.made).1]
      exact List.mem_map_of_mem hx
    refine hcreated.kept hfst hlen (hcreated.client_apart (inputs_subset_args chain x hx)) ?_
    intro y hy
    have hy' : y.param ∈ specs.flatMap ReqSpec.outputs := by
      rw [← (params_of_madeBy hcreated.made).2]
      exact List.mem_map_of_mem hy
    exact apart_user (hlayout.inputs x.param hin y.param hy')
  · intro w hw
    have hout : w.1 ∈ chain.flatMap PkeReq.outputs := by
      rw [← hfst]
      exact List.mem_map_of_mem hw
    have hpad : w.1.param.padSize = w.2.length - w.1.param.userLen := by
      rw [hlen w hw]
      rfl
    rw [w.1.param.read_client, hcreated.output hfst hlen hw, hpad, ← w.1.param.userLen_eq,
      hcreated.front_kept hfst hlen hout]

/-- An input of 5 bytes for an argument of 8, and an output of 6 bytes for an argument of 4. -/
def sampleSpecs : List ReqSpec := [⟨true, 1, [⟨100, 5, 8, false⟩], [⟨200, 6, 4, false⟩]⟩]

def sampleBufferState (allocs : List (Option Nat)) : BufferState where
  mem := (Memory.zero.write 100 [1, 2, 3, 4, 5]).write 200 [6, 7, 8, 9, 10, 11]
  allocs := allocs
  freed := []

/-- The device writes the bytes from 1 to 8, and the last 4 of them are copied back. Without a second
    entry the request is not created, and the output keeps its bytes. -/
theorem pke_buffers_round_trip_two :
    (∃ x y : PkeArg,
      (createChain (sampleBufferState [some 1024, some 2048]) [] sampleSpecs).2.1 = [⟨1, [x], [y]⟩] ∧
      (destroyChain { (createChain (sampleBufferState [some 1024, some 2048]) [] sampleSpecs).2.2 with
          mem := deviceWrites
            (createChain (sampleBufferState [some 1024, some 2048]) [] sampleSpecs).2.2.mem
            [(y, [1, 2, 3, 4, 5, 6, 7, 8])] } [⟨1, [x], [y]⟩]).mem.read 200 6 =
        [6, 7, 5, 6, 7, 8]) ∧
    (createChain (sampleBufferState [some 1024, none]) [] sampleSpecs).1 = false ∧
      (createChain (sampleBufferState [some 1024, none]) [] sampleSpecs).2.2.mem.read 200 6 =
        [6, 7, 8, 9, 10, 11] := by
  refine ⟨⟨⟨⟨100, 5, 8, false⟩, 1024⟩, ⟨⟨200, 6, 4, false⟩, 2048⟩, rfl, ?_⟩, rfl, ?_⟩
  · obtain ⟨-, -, -, hback⟩ := (pke_buffers_round_trip 512 (sampleBufferState [some 1024, some 2048])
      sampleSpecs ⟨⟨by decide, by decide, by decide, by decide⟩, by decide, by decide⟩).2 rfl
    exact (hback [(⟨⟨200, 6, 4, false⟩, 2048⟩, [1, 2, 3, 4, 5, 6, 7, 8])] rfl (by simp; decide)).2 _
      (List.mem_singleton_self _)
  · exact (pke_buffers_round_trip 512 (sampleBufferState [some 1024, none]) sampleSpecs
      ⟨⟨by decide, by decide, by decide, by decide⟩, by decide, by decide⟩).1 rfl 200 6 (by decide)

end Qatlib.Crypto
