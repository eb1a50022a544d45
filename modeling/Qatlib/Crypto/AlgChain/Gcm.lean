import Qatlib.Crypto.AlgChain.Perform

set_option autoImplicit false

/-! # The two models of `LacAlgChain_Perform`

`Qatlib.Crypto.GcmMessage` says what message a full packet of a GCM session becomes, and
`Qatlib.Crypto.AlgChain.Perform` on which way any operation leaves the function. On the sessions of
both they check the hash parameters alike, and an operation enters the session alike. -/

namespace Qatlib.Crypto.AlgChain

/-- The algorithm of the API. -/
def gcmHashAlg : GcmHash → HashAlg
  | .gcm => .aesGcm
  | .gmac => .aesGmac

/-- A GCM session in the two models, of a library built with parameter checks. -/
structure SameSession (svc : Service) (g : GcmSession) (s : Session) : Prop where
  paramCheck : g.paramCheck = true
  aesGcmSpc : g.aesGcmSpc = svc.aesGcmSpc
  cipherAlgorithm : s.cipherAlgorithm = .aesGcm
  hashAlgorithm : s.hashAlgorithm = gcmHashAlg g.hashAlgorithm
  digestIsAppended : g.digestIsAppended = s.digestIsAppended
  digestVerify : g.digestVerify = s.digestVerify
  aadLenInBytes : g.aadLenInBytes = s.aadLenInBytes.toNat
  singlePassState : g.singlePassState = s.singlePassState
  laCmdId : g.laCmdId = s.laCmdId
  isAuthEncryptOp : g.isAuthEncryptOp = s.isAuthEncryptOp
  chained : s.symOperation ≠ .hash

/-- What the checks read of a full packet in the two models. -/
structure SameOp (env : Env) (isSync : Bool) (op : SymOp) (o : OpData) : Prop where
  packetType : o.packetType = .full
  ivLenInBytes : op.ivLenInBytes = o.ivLenInBytes.toNat
  hashStart : op.hashStartSrcOffsetInBytes = o.hashStartSrcOffsetInBytes.toNat
  hashLen : op.messageLenToHashInBytes = o.messageLenToHashInBytes.toNat
  additionalAuthData : op.additionalAuthData.isSome = !decide (o.pAdditionalAuthData = 0)
  digestResult : op.digestResult.isSome = !decide (o.pDigestResult = 0)
  srcPktSize : op.srcPktSize = env.src.totalSize
  verifyResultOk : op.verifyResultOk = (!isSync || env.verifyResult)

variable {svc : Service} {g : GcmSession} {env : Env} {s : Session} {op : SymOp} {o : OpData}

/-- New sessions correspond if they are set up alike. -/
theorem sameSession_init {c : GcmSetup} {st : Setup} (hcheck : st.check svc = true)
    (isDPSession isSync : Bool) (cipherPartialOpState : Nat) (hparam : c.paramCheck = true)
    (hspc : c.aesGcmSpc = svc.aesGcmSpc) (hpoly : c.chachaPoly = svc.chachaPoly)
    (hop : st.symOperation = .algorithmChaining) (hcipher : st.cipherSetup.cipherAlgorithm = .aesGcm)
    (hhash : st.hashSetup.hashAlgorithm = gcmHashAlg c.hashAlgorithm)
    (hdir : st.cipherSetup.cipherDirection = c.cipherDirection)
    (happ : st.digestIsAppended = c.digestIsAppended)
    (haad : c.aadLenInBytes = st.hashSetup.aadLenInBytes.toNat) :
    SameSession svc (GcmSession.init c)
      (sessionInit svc st hcheck isDPSession isSync cipherPartialOpState) := by
  have hc : st.cipher = .aesGcm := by simp [Setup.cipher, hop, hcipher]
  have hh : st.hash = gcmHashAlg c.hashAlgorithm := by simp [Setup.hash, hop, hhash]
  have hae : st.isAuthEncryptOp = true := by simp [Setup.isAuthEncryptOp, hop, hc]
  refine ⟨hparam, hspc, hc, hh, ?_, ?_, ?_, ?_, ?_, hae.symm, ?_⟩
  · simp [GcmSession.init, sessionInit, happ, hc]
  · simp [GcmSession.init, sessionInit, Setup.digestVerify, hop, hc, hdir]
  · simp [GcmSession.init, sessionInit, hae, haad]
  · simp only [GcmSession.init, sessionInit, hop, if_true, Crypto.getSpcState, getSpcState, hc, hh,
      hpoly]
    cases c.hashAlgorithm <;> cases svc.chachaPoly <;> rfl
  · simp only [GcmSession.init, sessionInit, Setup.laCmdId, hop, Setup.chainOrder, hc, hdir]
    cases c.cipherDirection <;> rfl
  · simp [sessionInit, hop]

section

variable (hs : SameSession svc g s)
include hs

/-- **The hash parameters are checked alike.** -/
theorem hashParamCheck_eq (ho : SameOp env s.isSync op o) :
    g.hashParamCheck op = hashPerformParamCheck env s o := by
  have hadd (a b : UInt32) : add32 a.toNat b.toNat = (a + b).toNat := by simp [add32]
  have haad : 0 < s.aadLenInBytes ↔ g.aadLenInBytes ≠ 0 := by
    rw [hs.aadLenInBytes, UInt32.lt_iff_toNat_lt]
    exact Nat.pos_iff_ne_zero
  unfold GcmSession.hashParamCheck hashPerformParamCheck
  simp only [hs.digestIsAppended, hs.digestVerify, haad, ho.digestResult, ho.verifyResultOk,
    ho.additionalAuthData, ho.hashStart, ho.hashLen, ho.srcPktSize, hadd, hs.hashAlgorithm,
    ho.packetType]
  cases g.hashAlgorithm <;>
    simp [gcmHashAlg, hs.chained, Bool.and_assoc, ← Nat.not_lt, -UInt32.toNat_add, -not_lt]

theorem SameSession.setAadLen (hlen : op.messageLenToHashInBytes = o.messageLenToHashInBytes.toNat) :
    SameSession svc (g.setAadLen op.messageLenToHashInBytes) (s.setAadLen o) := by
  unfold GcmSession.setAadLen Session.setAadLen
  have halg := hs.hashAlgorithm
  cases hg : g.hashAlgorithm with
  | gcm =>
    rw [if_neg (by rw [halg, hg]; decide)]
    exact hs
  | gmac =>
    rw [if_pos (by rw [halg, hg]; rfl)]
    exact { hs with hashAlgorithm := halg.trans (by rw [hg]), aadLenInBytes := hlen }

theorem SameSession.convert : SameSession svc g.startConversion s.convert :=
  { hs with
    singlePassState := rfl
    laCmdId := rfl
    isAuthEncryptOp := rfl
    chained := by simp [Session.convert] }

theorem converts_eq (hlen : op.ivLenInBytes = o.ivLenInBytes.toNat) :
    g.converts op.ivLenInBytes = s.converts svc o := by
  have h12 : o.ivLenInBytes = 12 ↔ op.ivLenInBytes = 12 := by
    rw [hlen, ← UInt32.toNat_inj]
    rfl
  simp only [GcmSession.converts, Session.converts, Session.isSpGcm, Session.isSpCcp,
    Session.isSpCcm, hs.cipherAlgorithm, hs.hashAlgorithm, hs.singlePassState, hs.aesGcmSpc, h12]
  cases g.hashAlgorithm <;> simp [gcmHashAlg, Bool.and_assoc]

/-- **An operation enters the session alike**: both models refuse it, or both go on, with sessions that
    correspond again. -/
theorem perform_enter (ho : SameOp env s.isSync op o) :
    match s.enter svc o with
    | .error t => ∃ g', g.perform op = (.error .invalidParam, g') ∧ SameSession svc g' t
    | .ok t => ∃ g', g.perform op = (g'.performMsg op, g') ∧ SameSession svc g' t := by
  have hset := hs.setAadLen ho.hashLen
  obtain ⟨halg, hlen, hconv⟩ : (s.setAadLen o).hashAlgorithm = s.hashAlgorithm ∧
      (s.hashAlgorithm = .aesGmac → (s.setAadLen o).aadLenInBytes = o.messageLenToHashInBytes) ∧
      (s.setAadLen o).converts svc o = s.converts svc o := by
    unfold Session.setAadLen
    split
    · exact ⟨rfl, fun _ => rfl, rfl⟩
    · next hne => exact ⟨rfl, fun h => absurd h hne, rfl⟩
  unfold GcmSession.perform Session.enter
  dsimp only
  generalize g.setAadLen op.messageLenToHashInBytes = g at hset
  rw [← hconv, ← converts_eq hset ho.ivLenInBytes]
  have hgmac : g.hashAlgorithm = .gmac ↔ s.hashAlgorithm = .aesGmac := by
    rw [← halg, hset.hashAlgorithm]
    cases g.hashAlgorithm <;> simp [gcmHashAlg]
  have hrefused : (g.hashAlgorithm = .gmac ∧ g.paramCheck = true ∧ (op.messageLenToHashInBytes = 0 ∨
      op.additionalAuthData.isSome = true)) ↔ (s.hashAlgorithm = .aesGmac ∧
        (o.messageLenToHashInBytes = 0 ∨ o.pAdditionalAuthData ≠ 0)) := by
    rw [hgmac, hset.paramCheck, ho.hashLen, ho.additionalAuthData, ← UInt32.toNat_inj]
    simp
  have htooLong : (g.hashAlgorithm = .gmac ∧ g.paramCheck = true ∧ 0x3FFF < g.aadLenInBytes) ↔
      (s.hashAlgorithm = .aesGmac ∧ o.messageLenToHashInBytes > 0x3FFF) := by
    rw [hgmac, hset.paramCheck, hset.aadLenInBytes]
    refine and_congr_right fun h => ?_
    rw [hlen h, gt_iff_lt, UInt32.lt_iff_toNat_lt]
    simp
  simp only [hrefused, htooLong, hs.cipherAlgorithm, reduceCtorEq, false_and, if_false]
  split_ifs
  · exact ⟨_, rfl, hset⟩
  · exact ⟨_, rfl, hset.convert⟩
  · exact ⟨_, rfl, { hset.convert with }⟩
  · exact ⟨_, rfl, hset⟩

end

end Qatlib.Crypto.AlgChain
