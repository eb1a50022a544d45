import Mathlib.Data.List.Perm.Basic
import Qatlib.Compression.Chain

set_option autoImplicit false

/-! # The pools of chained requests

Between calls, a chain cookie is on its free stack or belongs to a request on the ring, and the
other pools' entries are on their stacks or stand in the cookie of such a request. Inside a call some
entries are the call's own: `InCall` says which, `prepareLink` keeps it, and both exits lead back to
`Balanced`.

One path breaks the accounts: when `LacHash_PerformParamCheck` refuses the hash parameters,
`LacAlgChain_Perform` frees the symmetric cookie and `dcChainPerformOp` frees it again
(`sym_cookie_freed_twice`). `chain_pools_balanced` is for the runs in which no hash operation that
gets there is refused. -/

namespace Qatlib.Compression

open Qatlib.Utils Qatlib.Crypto Function

/-- The response entries of a request. -/
def ChainCookie.responses (c : ChainCookie) : List Nat := c.dcRspAddr.toList ++ c.cyRspAddr.toList

/-- The hash parameters of an operation are not refused by `LacHash_PerformParamCheck`, should it get
    that far. -/
def ChainSymOp.Checked (sym : ChainSymOp) : Prop :=
  let env := { sym.env with verifyResult := true }
  sym.prepareCheck → AlgChain.descStatus env sym.session = .success →
    AlgChain.hashPerformParamCheck env sym.session sym.op

instance (sym : ChainSymOp) : Decidable sym.Checked := inferInstanceAs (Decidable (_ → _ → _))

section

variable (s : ChainService) (call : ChainCall)

/-- The call gets past the entry point and finds the cookies for `dcChainPrepare_SymRequest`. -/
def ChainService.Prepares : Prop :=
  call.numOpDatas = 2 ∧ call.hashThenCompress ∧
    call.links = [.symmetricCrypto, .compressDecompress] ∧ call.entryCheck = .success ∧
    s.dcChainCookiePool.entryAlloc.1.toList ≠ [] ∧ s.lacSymCookiePool.entryAlloc.1.toList ≠ []

instance : Decidable (s.Prepares call) :=
  inferInstanceAs (Decidable (_ ∧ _ ∧ _ ∧ _ ∧ _ ∧ _))

/-- A step whose hash operation, if `LacAlgChain_Perform` gets to check it, is not refused there. -/
def ChainEvent.HashChecked : ChainEvent → Prop
  | .call c => s.Prepares c → c.sym.Checked
  | .response _ => True

instance : (e : ChainEvent) → Decidable (e.HashChecked s)
  | .call _ => inferInstanceAs (Decidable (_ → _))
  | .response _ => inferInstanceAs (Decidable True)

end

namespace ChainService

/-! ## Accounts between calls -/

/-- What the requests on the ring hold, by what each cookie refers to. -/
def held (s : ChainService) (f : ChainCookie → List Nat) : List Nat :=
  s.ring.flatMap fun chain => f (s.cookie chain)

/-- The requests of a session on the ring. -/
def inFlight (s : ChainService) (session : Nat) : Nat :=
  s.ring.countP fun chain => (s.cookie chain).session = session

/-- The accounts of the four pools and of the sessions' counters. -/
structure Balanced (s : ChainService) : Prop where
  chainCookies : s.dcChainCookiePool.Accounts s.ring
  dcCookies : s.compressionMemPool.Accounts (s.held (·.dcCookieAddr.toList))
  cyCookies : s.lacSymCookiePool.Accounts (s.held (·.cyCookieAddr.toList))
  responses : s.dcChainServRespPool.Accounts (s.held (·.responses))
  pending : ∀ session, s.pendingChainCbCount session = s.inFlight session

/-! ## Accounts inside a call -/

/-- A call of `session` holds the chain cookie `chain`, and what its local variables and the chain
    cookie say. -/
structure InCall (s : ChainService) (chain session : Nat) (loc : ChainLocals) : Prop where
  chainCookies : s.dcChainCookiePool.Accounts (chain :: s.ring)
  dcCookies : s.compressionMemPool.Accounts (loc.dcCookie.toList ++ s.held (·.dcCookieAddr.toList))
  cyCookies : s.lacSymCookiePool.Accounts (loc.cyCookie.toList ++ s.held (·.cyCookieAddr.toList))
  responses : s.dcChainServRespPool.Accounts ((s.cookie chain).responses ++ s.held (·.responses))
  pending : ∀ n, s.pendingChainCbCount n = s.inFlight n + if n = session then 1 else 0
  cookieSession : (s.cookie chain).session = session

variable {s : ChainService} {chain session : Nat} {loc : ChainLocals} {pool : MemPool}
  {desc : Bool}

theorem InCall.fresh (h : s.InCall chain session loc) : chain ∉ s.ring :=
  (List.nodup_cons.mp h.chainCookies.partition.held_nodup).1

/-- The cookie of a request that is not on the ring may be written. -/
theorem held_setCookie (hfresh : chain ∉ s.ring) (g : ChainCookie → ChainCookie)
    (f : ChainCookie → List Nat) : (s.setCookie chain g).held f = s.held f := by
  refine List.flatMap_congr fun c hc => ?_
  have hne : c ≠ chain := fun h => hfresh (h ▸ hc)
  simp [setCookie, hne]

theorem inFlight_setCookie (hfresh : chain ∉ s.ring) (g : ChainCookie → ChainCookie) (n : Nat) :
    (s.setCookie chain g).inFlight n = s.inFlight n := by
  refine List.countP_congr fun c hc => ?_
  have hne : c ≠ chain := fun h => hfresh (h ▸ hc)
  simp [setCookie, hne]

theorem Balanced.startChain (h : s.Balanced) (session : Nat)
    (halloc : s.dcChainCookiePool.entryAlloc = (.entry chain, pool)) :
    ({ s with dcChainCookiePool := pool }.startChain chain session).InCall chain session
      ⟨.null, .null, false⟩ := by
  have hchain := h.chainCookies.entryAlloc halloc
  have hfresh : chain ∉ s.ring := (List.nodup_cons.mp hchain.partition.held_nodup).1
  let t : ChainService := { s with dcChainCookiePool := pool }
  have hheld : ∀ f, (t.startChain chain session).held f = s.held f :=
    fun f => held_setCookie (s := t) hfresh (fun _ => ⟨session, none, none, none, none⟩) f
  have hflight : ∀ n, (t.startChain chain session).inFlight n = s.inFlight n :=
    fun n => inFlight_setCookie (s := t) hfresh (fun _ => ⟨session, none, none, none, none⟩) n
  have hcookie : (t.startChain chain session).cookie chain = ⟨session, none, none, none, none⟩ :=
    update_self ..
  refine ⟨hchain, ?_, ?_, ?_, fun n => ?_, ?_⟩
  · rw [hheld]
    exact h.dcCookies
  · rw [hheld]
    exact h.cyCookies
  · rw [hheld, hcookie]
    exact h.responses
  · rw [hflight, ← h.pending]
    by_cases hn : n = session <;> simp [ChainService.startChain, addPending, setCookie, hn]
  · rw [hcookie]

section

variable (h : s.InCall chain session loc)
include h

/-- `out_err` gives everything back. -/
theorem InCall.outErr : (s.outErr chain session loc).Balanced where
  chainCookies := h.chainCookies.entryFree
  dcCookies := h.dcCookies.foldl_entryFree
  cyCookies := h.cyCookies.foldl_entryFree
  responses := h.responses.foldl_entryFree
  pending n := by
    have hn := h.pending n
    have hflight : (s.outErr chain session loc).inFlight n = s.inFlight n := rfl
    rw [hflight]
    by_cases hs : n = session
    · subst hs
      simp only [ChainService.outErr, addPending, update_self]
      rw [hn, if_pos rfl]
      omega
    · simp only [ChainService.outErr, addPending, update_of_ne hs]
      rw [hn, if_neg hs]
      omega

theorem InCall.put (hdc : (s.cookie chain).dcCookieAddr.toList = loc.dcCookie.toList)
    (hcy : (s.cookie chain).cyCookieAddr.toList = loc.cyCookie.toList) :
    { s with ring := s.ring ++ [chain] }.Balanced := by
  have hheld : ∀ f : ChainCookie → List Nat,
      (f (s.cookie chain) ++ s.held f).Perm ({ s with ring := s.ring ++ [chain] }.held f) := by
    intro f
    change (f (s.cookie chain) ++ s.held f).Perm
      ((s.ring ++ [chain]).flatMap fun c => f (s.cookie c))
    rw [List.flatMap_append, List.flatMap_singleton]
    exact List.perm_append_comm
  refine ⟨?_, ?_, ?_, ?_, fun n => ?_⟩
  · exact h.chainCookies.congr (List.perm_append_singleton chain s.ring).symm
  · exact (hdc ▸ h.dcCookies).congr (hheld (·.dcCookieAddr.toList))
  · exact (hcy ▸ h.cyCookies).congr (hheld (·.cyCookieAddr.toList))
  · exact h.responses.congr (hheld (·.responses))
  · have hflight : { s with ring := s.ring ++ [chain] }.inFlight n =
        s.inFlight n + if n = session then 1 else 0 := by
      simp only [inFlight, List.countP_append, List.countP_singleton, h.cookieSession,
        decide_eq_true_eq, eq_comm (a := session)]
    change s.pendingChainCbCount n = _
    rw [hflight, h.pending n]
    split <;> simp

/-- A response entry is allocated and written to the chain cookie, as the address `g` sets. -/
theorem InCall.setResponse {rsp : Nat} {g : ChainCookie → ChainCookie}
    (halloc : s.dcChainServRespPool.entryAlloc = (.entry rsp, pool))
    (hsession : (g (s.cookie chain)).session = (s.cookie chain).session)
    (hrsp : (rsp :: (s.cookie chain).responses).Perm (g (s.cookie chain)).responses) :
    ({ s with dcChainServRespPool := pool }.setCookie chain g).InCall chain session loc := by
  let t : ChainService := { s with dcChainServRespPool := pool }
  have hheld : ∀ f, (t.setCookie chain g).held f = s.held f :=
    fun f => held_setCookie (s := t) h.fresh g f
  have hcookie : (t.setCookie chain g).cookie chain = g (s.cookie chain) := update_self ..
  refine ⟨h.chainCookies, ?_, ?_, ?_, fun n => ?_, ?_⟩
  · rw [hheld]
    exact h.dcCookies
  · rw [hheld]
    exact h.cyCookies
  · rw [hheld, hcookie]
    exact (h.responses.entryAlloc halloc).congr (hrsp.append_right _)
  · rw [show (t.setCookie chain g).inFlight n = s.inFlight n from
      inFlight_setCookie (s := t) h.fresh g n]
    exact h.pending n
  · rw [hcookie, hsession]
    exact h.cookieSession

end

/-! ## The links -/

variable {op : ChainSymOp} {cy dc : EntryAlloc}

/-- Unless the hash parameters are refused, `LacAlgChain_Perform` leaves the caller's cookie alone. -/
theorem algChainPerform_keeps (pool : MemPool) (cookie : Nat) (hop : op.Checked)
    (hprepare : op.prepareCheck) : (algChainPerform pool cookie op).2 = pool := by
  obtain ⟨-, -, -, hsession⟩ := of_decide_eq_true hprepare
  obtain ⟨-, -, -, halg, hcmd, -, -⟩ := of_decide_eq_true hsession
  have hother {alg : HashAlg} (h : alg ≠ .sha1 ∧ alg ≠ .sha224 ∧ alg ≠ .sha256) :
      op.session.hashAlgorithm ≠ alg := by
    rintro rfl
    exact halg.elim h.1 (·.elim h.2.1 h.2.2)
  have hfreed := AlgChain.lacAlgChainPerformLink_freed (hother (by decide)) (hother (by decide))
    (hother (by decide)) (hother (by decide)) hcmd (hop hprepare) cookie
  simp only [algChainPerform, hfreed]
  rfl

/-- A link was prepared, or the call keeps what it had: after a success the chain cookie is as `P`
    says. -/
def Prepared (chain session : Nat) (loc : ChainLocals) (P : ChainCookie → Prop)
    (out : CpaStatus × ChainService) : Prop :=
  out.2.InCall chain session loc ∧ (out.1 = .success → P (out.2.cookie chain))

section

variable {P : ChainCookie → Prop} (h : s.InCall chain session loc)
include h

theorem InCall.failed {status : CpaStatus} (hne : status ≠ .success) :
    Prepared chain session loc P (status, s) :=
  ⟨h, fun hs => absurd hs hne⟩

theorem InCall.prepareSymRequest (cy : Nat) (hop : op.Checked)
    (hclear : (s.cookie chain).cyRspAddr = none) :
    Prepared chain session loc (fun c => c.cyCookieAddr.toList = [cy] ∧
      c.dcRspAddr = (s.cookie chain).dcRspAddr) (s.prepareSymRequest chain cy op) := by
  unfold ChainService.prepareSymRequest
  split
  · exact h.failed (by simp)
  · next hprepare =>
    simp only [algChainPerform_keeps _ cy hop (not_not.mp hprepare)]
    split
    · next hne => exact h.failed hne
    · rcases halloc : s.dcChainServRespPool.entryAlloc with ⟨_ | _ | rsp, pool⟩
      · exact h.failed (by simp)
      · exact h.failed (by simp)
      · dsimp only [Prepared]
        refine ⟨h.setResponse halloc rfl ?_, fun _ => by simp [setCookie]⟩
        simp only [ChainCookie.responses, hclear, Option.toList_none, Option.toList_some,
          List.append_nil]
        exact (List.perm_append_singleton rsp _).symm

theorem InCall.prepareCompRequest (dc : Nat) (op : ChainCompOp)
    (hclear : (s.cookie chain).dcRspAddr = none) :
    Prepared chain session loc (fun c => c.dcCookieAddr.toList = [dc] ∧
      c.cyCookieAddr = (s.cookie chain).cyCookieAddr) (s.prepareCompRequest chain dc op) := by
  unfold ChainService.prepareCompRequest
  split
  · exact h.failed (by simp)
  · split
    · exact h.failed (by simp)
    · split
      · next hne => exact h.failed hne
      · rcases halloc : s.dcChainServRespPool.entryAlloc with ⟨_ | _ | rsp, pool⟩
        · exact h.failed (by simp)
        · exact h.failed (by simp)
        · dsimp only [Prepared]
          exact ⟨h.setResponse halloc rfl (by simp [ChainCookie.responses, hclear]),
            fun _ => by simp [setCookie]⟩

end

theorem InCall.symLink (h : s.InCall chain session ⟨dc, .null, desc⟩) (call : ChainCall)
    (hop : s.lacSymCookiePool.entryAlloc.1.toList ≠ [] → call.sym.Checked)
    (hclear : (s.cookie chain).cyRspAddr = none) :
    ∃ status r t, s.prepareLink chain call ⟨dc, .null, desc⟩ .symmetricCrypto =
        (status, ⟨dc, r, desc⟩, t) ∧
      Prepared chain session ⟨dc, r, desc⟩ (fun c => c.cyCookieAddr.toList = r.toList ∧
        c.dcRspAddr = (s.cookie chain).dcRspAddr) (status, t) := by
  cases halloc : s.lacSymCookiePool.entryAlloc with
  | mk r pool =>
    have hin : { s with lacSymCookiePool := pool }.InCall chain session ⟨dc, r, desc⟩ :=
      { h with cyCookies := h.cyCookies.alloc halloc }
    simp only [ChainService.prepareLink, halloc]
    cases r with
    | entry cy =>
      have hop := hop (by simp [halloc, EntryAlloc.toList])
      exact ⟨_, _, _, rfl, hin.prepareSymRequest cy hop hclear⟩
    | _ =>
      rw [MemPool.Accounts.entryAlloc_none halloc rfl] at hin
      exact ⟨_, _, _, rfl, hin.failed (by simp)⟩

theorem InCall.compLink (h : s.InCall chain session ⟨.null, cy, desc⟩) (call : ChainCall)
    (hclear : (s.cookie chain).dcRspAddr = none) :
    ∃ status r t, s.prepareLink chain call ⟨.null, cy, desc⟩ .compressDecompress =
        (status, ⟨r, cy, true⟩, t) ∧
      Prepared chain session ⟨r, cy, true⟩ (fun c => c.dcCookieAddr.toList = r.toList ∧
        c.cyCookieAddr = (s.cookie chain).cyCookieAddr) (status, t) := by
  cases halloc : s.compressionMemPool.entryAlloc with
  | mk r pool =>
    have hin : { s with compressionMemPool := pool }.InCall chain session ⟨r, cy, true⟩ :=
      { h with dcCookies := h.dcCookies.alloc halloc }
    simp only [ChainService.prepareLink, halloc]
    cases r with
    | entry dc => exact ⟨_, _, _, rfl, hin.prepareCompRequest dc call.comp hclear⟩
    | _ =>
      rw [MemPool.Accounts.entryAlloc_none halloc rfl] at hin
      exact ⟨_, _, _, rfl, hin.failed (by simp)⟩

/-! ## Steps and runs -/

/-- The loop over a hash link and a compression link. -/
theorem InCall.prepareLinks {call : ChainCall} (h : s.InCall chain session ⟨.null, .null, false⟩)
    (hop : s.lacSymCookiePool.entryAlloc.1.toList ≠ [] → call.sym.Checked)
    (hclear : s.cookie chain = ⟨session, none, none, none, none⟩)
    {status : CpaStatus} {t : ChainService}
    (ht : s.prepareLinks chain call ⟨.null, .null, false⟩ [.symmetricCrypto, .compressDecompress]
      = (status, loc, t)) :
    t.InCall chain session loc ∧
      (status = .success → (t.cookie chain).dcCookieAddr.toList = loc.dcCookie.toList ∧
        (t.cookie chain).cyCookieAddr.toList = loc.cyCookie.toList) := by
  obtain ⟨status₁, cy, s₁, hlink₁, hin₁, haddr₁⟩ := h.symLink call hop (by rw [hclear])
  simp only [ChainService.prepareLinks, hlink₁] at ht
  by_cases hs₁ : status₁ = .success
  · subst hs₁
    obtain ⟨hcy, hdcRsp⟩ := haddr₁ rfl
    rw [hclear] at hdcRsp
    obtain ⟨status₂, dc, s₂, hlink₂, hin₂, haddr₂⟩ := hin₁.compLink call hdcRsp
    simp only [hlink₂] at ht
    have hout : (status₂, (⟨dc, cy, true⟩ : ChainLocals), s₂) = (status, loc, t) := by
      cases status₂ <;> exact ht
    obtain ⟨rfl, rfl, rfl⟩ : status₂ = status ∧ ⟨dc, cy, true⟩ = loc ∧ s₂ = t := by simpa using hout
    refine ⟨hin₂, fun hs => ?_⟩
    obtain ⟨hdc, hcyKept⟩ := haddr₂ hs
    exact ⟨hdc, hcyKept ▸ hcy⟩
  · have hout : (status₁, (⟨.null, cy, false⟩ : ChainLocals), s₁) = (status, loc, t) := by
      cases status₁ <;> first | exact absurd rfl hs₁ | exact ht
    obtain ⟨rfl, rfl, rfl⟩ : status₁ = status ∧ ⟨.null, cy, false⟩ = loc ∧ s₁ = t := by
      simpa using hout
    exact ⟨hin₁, fun hs => absurd hs hs₁⟩

theorem Balanced.call {call : ChainCall} (h : s.Balanced)
    (hop : s.Prepares call → call.sym.Checked) : (s.cpaDcChainPerformOp call).2.Balanced := by
  unfold ChainService.cpaDcChainPerformOp
  split
  · exact h
  · next hshape =>
    simp only [not_or, not_not] at hshape
    obtain ⟨hnum, hop2, hlinks⟩ := hshape
    split
    · exact h
    · next hentry =>
      unfold ChainService.dcChainPerformOp
      cases halloc : s.dcChainCookiePool.entryAlloc with
      | mk r pool =>
        cases r with
        | null => exact h
        | retry => exact h
        | entry chain =>
          have hstart := h.startChain call.session halloc
          have hop : ({ s with dcChainCookiePool := pool }.startChain chain
              call.session).lacSymCookiePool.entryAlloc.1.toList ≠ [] → call.sym.Checked :=
            fun hcy => hop ⟨hnum, hop2, hlinks, not_not.mp hentry,
              by simp [halloc, EntryAlloc.toList], hcy⟩
          have hclear : ({ s with dcChainCookiePool := pool }.startChain chain
              call.session).cookie chain = ⟨call.session, none, none, none, none⟩ :=
            update_self ..
          simp only [hnum, hlinks, List.take_succ_cons, List.take_zero]
          generalize { s with dcChainCookiePool := pool }.startChain chain call.session = s₁ at *
          cases hloop : s₁.prepareLinks chain call ⟨.null, .null, false⟩
              [.symmetricCrypto, .compressDecompress] with
          | mk status rest =>
            obtain ⟨loc, s₂⟩ := rest
            obtain ⟨hin, haddr⟩ := hstart.prepareLinks hop hclear hloop
            cases status with
            | success =>
              dsimp only
              split
              · exact hin.outErr
              · split
                · exact hin.put (haddr rfl).1 (haddr rfl).2
                · exact hin.outErr
            | _ => exact hin.outErr

theorem Balanced.response (h : s.Balanced) (hmem : chain ∈ s.ring) :
    (s.dcChainProcessResults chain).Balanced := by
  have hperm := List.perm_cons_erase hmem
  have hheld : ∀ f : ChainCookie → List Nat, (s.held f).Perm
      (f (s.cookie chain) ++ (s.dcChainProcessResults chain).held f) :=
    fun f => hperm.flatMap_right _
  refine ⟨?_, ?_, ?_, ?_, fun n => ?_⟩
  · exact (h.chainCookies.congr hperm).entryFree
  · exact (h.dcCookies.congr (hheld _)).foldl_entryFree
  · exact (h.cyCookies.congr (hheld _)).foldl_entryFree
  · exact (h.responses.congr (hheld _)).foldl_entryFree
  · have hn := h.pending n
    have hflight : s.inFlight n = (s.dcChainProcessResults chain).inFlight n +
        if (s.cookie chain).session = n then 1 else 0 := by
      rw [inFlight, hperm.countP_eq, List.countP_cons]
      simp only [decide_eq_true_eq]
      rfl
    by_cases hsession : n = (s.cookie chain).session
    · rw [hflight, if_pos hsession.symm] at hn
      have hval : (s.dcChainProcessResults chain).pendingChainCbCount n =
          s.pendingChainCbCount n + -1 := by
        simp [dcChainProcessResults, addPending, hsession]
      rw [hval, hn]
      omega
    · rw [hflight, if_neg (fun e => hsession e.symm)] at hn
      have hval : (s.dcChainProcessResults chain).pendingChainCbCount n =
          s.pendingChainCbCount n := by
        simp [dcChainProcessResults, addPending, hsession]
      rw [hval, hn]
      rfl

end ChainService

/-- **The pools and counters are in order** in every run in which no hash operation is refused by
    `LacHash_PerformParamCheck`: in each pool the free stack and what the requests on the ring hold
    partition the entries, and each session's counter is the number of its requests on the ring. -/
theorem chain_pools_balanced {s : ChainService} (hs : dcChain.ReachableBy ChainEvent.HashChecked s) :
    Partition s.dcChainCookiePool.stack s.ring (List.range s.dcChainCookiePool.numElementsInPool) ∧
      Partition s.compressionMemPool.stack (s.held (·.dcCookieAddr.toList))
        (List.range s.compressionMemPool.numElementsInPool) ∧
      Partition s.lacSymCookiePool.stack (s.held (·.cyCookieAddr.toList))
        (List.range s.lacSymCookiePool.numElementsInPool) ∧
      Partition s.dcChainServRespPool.stack (s.held (·.responses))
        (List.range s.dcChainServRespPool.numElementsInPool) ∧
      ∀ session, s.pendingChainCbCount session = s.inFlight session := by
  have hbal : s.Balanced := by
    refine hs.invariant ChainService.Balanced ?_ ?_
    · rintro s ⟨hchain, hdc, hcy, hrsp, hring, hpending⟩
      refine ⟨?_, ?_, ?_, ?_, fun n => ?_⟩ <;>
        simp only [ChainService.held, ChainService.inFlight, hring, List.flatMap_nil,
          List.countP_nil] <;> first | assumption | exact hpending n
    · intro s e t h hok hstep
      cases e with
      | call c =>
        obtain rfl : (s.cpaDcChainPerformOp c).2 = t := Option.some.inj hstep
        exact h.call hok
      | response chain =>
        obtain ⟨hmem, ⟨⟩⟩ := Option.ite_none_right_eq_some.mp hstep
        exact h.response hmem
  exact ⟨hbal.chainCookies.partition, hbal.dcCookies.partition, hbal.cyCookies.partition,
    hbal.responses.partition, hbal.pending⟩

/-! ## A cookie freed twice -/

/-- An instance with pools of two entries, four for the responses. -/
def sampleChainService : ChainService :=
  { dcChainCookiePool := MemPool.create 2
    compressionMemPool := MemPool.create 2
    lacSymCookiePool := MemPool.create 2
    dcChainServRespPool := MemPool.create 4
    cookie := fun _ => ⟨0, none, none, none, none⟩
    ring := []
    pendingChainCbCount := fun _ => 0 }

/-- A hash with SHA-256. -/
def sampleHashSetup : AlgChain.Setup :=
  { symOperation := .hash
    cipherSetup := ⟨.none, 0, .encrypt⟩
    hashSetup := ⟨.sha256, .plain, 32, 0, 0, .none, [], []⟩
    algChainOrder := .cipherThenHash
    digestIsAppended := false
    verifyDigest := false }

/-- Hash and compress a source buffer of 64 bytes, with so many bytes to hash. -/
def sampleChainCall (messageLenToHashInBytes : UInt32) : ChainCall :=
  { session := 7
    links := [.symmetricCrypto, .compressDecompress]
    numOpDatas := 2
    hashThenCompress := true
    entryCheck := .success
    sym :=
      { present := true
        op :=
          { packetType := .full
            pIv := 0
            ivLenInBytes := 0
            cryptoStartSrcOffsetInBytes := 0
            messageLenToCipherInBytes := 0
            hashStartSrcOffsetInBytes := 0
            messageLenToHashInBytes := messageLenToHashInBytes
            pDigestResult := 0x1100
            pAdditionalAuthData := 0 }
        session := AlgChain.sessionInit AlgChain.gen4Service sampleHashSetup (by decide) false false 0
        env := AlgChain.gcmCall }
    comp := { paramsOk := true, compressAndVerify := true, createRequest := .success }
    put := .success }

theorem sampleChainService_init : dcChain.Init sampleChainService :=
  ⟨.create 2, .create 2, .create 2, .create 4, rfl, fun _ => rfl⟩

/-- Two requests sent and one answered: one of each cookie and two response entries are held. -/
theorem chain_pools_balanced_one_in_flight :
    ∃ s, dcChain.ReachableBy ChainEvent.HashChecked s ∧ s.ring = [0] ∧
      Partition s.dcChainServRespPool.stack (s.held (·.responses)) (List.range 4) ∧
      s.pendingChainCbCount 7 = s.inFlight 7 := by
  refine System.exists_reachableBy
    (P := fun s => s.ring = [0] ∧ s.dcChainServRespPool.numElementsInPool = 4)
    [.call (sampleChainCall 64), .call (sampleChainCall 32), .response 1] sampleChainService_init
    (by decide +kernel) fun s hreach ⟨hring, hnum⟩ => ⟨hring, ?_⟩
  obtain ⟨-, -, -, hrsp, hpending⟩ := chain_pools_balanced hreach
  exact ⟨hnum ▸ hrsp, hpending 7⟩

/-- **A hash region past the end of the source buffer puts the symmetric cookie on its stack
    twice.** -/
theorem sym_cookie_freed_twice :
    ∃ s, dcChain.Reachable s ∧ s.ring = [] ∧ s.lacSymCookiePool.stack.count 1 = 2 ∧
      ¬ Partition s.lacSymCookiePool.stack (s.held (·.cyCookieAddr.toList))
        (List.range s.lacSymCookiePool.numElementsInPool) := by
  obtain ⟨s, hreach, hring, htwice⟩ := System.exists_reachable (S := dcChain)
    (P := fun s => s.ring = [] ∧ s.lacSymCookiePool.stack.count 1 = 2) [.call (sampleChainCall 65)]
    sampleChainService_init (by decide +kernel)
  refine ⟨s, hreach, hring, htwice, fun hpart => ?_⟩
  have honce := List.nodup_iff_count_le_one.mp hpart.free_nodup 1
  omega

end Qatlib.Compression
