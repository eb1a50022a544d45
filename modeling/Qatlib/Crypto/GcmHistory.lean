import Mathlib.Data.List.Induction
import Qatlib.Crypto.GcmMessage

set_option autoImplicit false

/-! # The messages of a GCM session and its history

Does the message of an operation depend on the operations before it? Building one writes two things
into the session: the AAD length of GMAC, which the next operation overwrites before it reads it, and
the conversion to single pass, which is never undone. So a session is, up to that length, in one of
three phases, and converting from any of them leads to the same session. An operation with a 12-byte
IV converts first and builds the same message in each phase; one with another IV gets the message of
a fresh session only while no 12-byte IV has been seen: after one the command is another. -/

namespace Qatlib.Crypto

variable {s t : GcmSession} {c : GcmSetup}

open GcmSession

namespace GcmSession

/-! ## What an operation reads -/

section

variable (s : GcmSession)

theorem converts_setAadLen (n len : Nat) : (s.setAadLen n).converts len = s.converts len := by
  unfold setAadLen
  cases s.hashAlgorithm <;> rfl

theorem startConversion_setAadLen (n : Nat) :
    s.startConversion.setAadLen n = (s.setAadLen n).startConversion := by
  obtain ⟨_, _, hash⟩ := s
  cases hash <;> rfl

theorem finishConversion_setAadLen (n : Nat) :
    s.finishConversion.setAadLen n = (s.setAadLen n).finishConversion := by
  obtain ⟨_, _, hash⟩ := s
  cases hash <;> rfl

theorem setAadLen_setAadLen (m n : Nat) : (s.setAadLen m).setAadLen n = s.setAadLen n := by
  obtain ⟨_, _, hash⟩ := s
  cases hash <;> rfl

end

/-- Two sessions that differ at most in an AAD length that the next operation overwrites. -/
def SameUpToAad (s t : GcmSession) : Prop := ∀ n, s.setAadLen n = t.setAadLen n

theorem SameUpToAad.setAadLen (s : GcmSession) (n : Nat) : SameUpToAad (s.setAadLen n) s :=
  fun m => s.setAadLen_setAadLen n m

namespace SameUpToAad

variable (h : SameUpToAad s t)
include h

theorem converts (len : Nat) : s.converts len = t.converts len := by
  rw [← s.converts_setAadLen 0, h 0, t.converts_setAadLen]

theorem perform (op : SymOp) : s.perform op = t.perform op := by
  unfold GcmSession.perform
  rw [h]

theorem writeRingMsgFull (op : SymDpOp) : s.writeRingMsgFull op = t.writeRingMsgFull op := by
  unfold GcmSession.writeRingMsgFull
  rw [startConversion_setAadLen, startConversion_setAadLen, h.converts, h]

/-- An operation cannot tell them apart. -/
theorem submit (op : GcmOp) : s.submit op = t.submit op := by
  cases op with
  | perform op => exact h.perform op
  | enqueue op => simp only [GcmSession.submit, h.writeRingMsgFull]

end SameUpToAad

end GcmSession

/-! ## Phases -/

/-- How far the conversion of a session has come. -/
inductive Phase where
  | fresh
  | started
  | converted
deriving DecidableEq

/-- The session of a setup in each phase. -/
def Phase.session (c : GcmSetup) : Phase → GcmSession
  | .fresh => init c
  | .started => (init c).startConversion
  | .converted => (init c).startConversion.finishConversion

open Phase

section

variable (c : GcmSetup)

/-- A refusal in the middle of a conversion leaves a session in a later phase. -/
theorem Phase.startConversion_session (p : Phase) :
    (p.session c).startConversion = started.session c ∨
      (p.session c).startConversion = converted.session c := by
  cases p
  · exact .inl rfl
  · exact .inl rfl
  · exact .inr rfl

/-- Converting leads from every phase to the same session. -/
theorem Phase.convert_session (p : Phase) :
    (p.session c).startConversion.finishConversion = converted.session c := by
  cases p <;> rfl

/-- The extended protocol flag that the data plane clears is clear in every phase. -/
theorem Phase.clear_extended (p : Phase) (n : Nat) :
    { (p.session c).startConversion.setAadLen n with extendedProtocol := false } =
      (p.session c).startConversion.setAadLen n := by
  obtain ⟨_, _, _, _, hash⟩ := c
  cases p <;> cases hash <;> rfl

theorem Phase.converts_session (p : Phase) (hp : p ≠ .fresh → (init c).converts 12) :
    (p.session c).converts 12 = (init c).converts 12 := by
  cases p with
  | fresh => rfl
  | started =>
    have h := hp (by simp)
    simp only [converts, Bool.and_eq_true] at h
    simp [session, converts, startConversion, h]
  | converted =>
    have h := hp (by simp)
    simp only [converts, Bool.and_eq_true] at h
    simp [session, converts, startConversion, finishConversion, h]

end

/-- A session in a phase, up to the AAD length. Only a device with single pass leaves `fresh`. -/
structure AtPhase (c : GcmSetup) (s : GcmSession) (p : Phase) : Prop where
  same : GcmSession.SameUpToAad s (p.session c)
  capable : p ≠ .fresh → (GcmSession.init c).converts 12

theorem AtPhase.init (c : GcmSetup) : AtPhase c (init c) .fresh :=
  ⟨fun _ => rfl, fun h => absurd rfl h⟩

variable {p : Phase}

/-- The session of a phase with another AAD length is in that phase. -/
theorem AtPhase.of_setAadLen (n : Nat) (hp : p ≠ .fresh → (GcmSession.init c).converts 12) :
    AtPhase c ((p.session c).setAadLen n) p :=
  ⟨GcmSession.SameUpToAad.setAadLen _ n, hp⟩

section

variable (hp : p ≠ .fresh → (GcmSession.init c).converts 12)
include hp

/-- A converting operation finds the device capable. -/
theorem Phase.capable_of_converts {len : Nat} (h : (p.session c).converts len) :
    len = 12 ∧ (init c).converts 12 := by
  have hlen : len = 12 := by
    simp only [converts, Bool.and_eq_true, decide_eq_true_eq] at h
    exact h.1.2
  rw [hlen, converts_session c p hp] at h
  exact ⟨hlen, h⟩

end

/-! ## One operation -/

/-- The phases that an operation can lead to. `fresh` is left by an operation with a 12-byte IV for
    which a capable device builds a message, by none with another IV, and for good. -/
structure Phase.Moves (c : GcmSetup) (ivLenInBytes : Nat) (builds : Prop) (p q : Phase) : Prop where
  stays : ivLenInBytes ≠ 12 → p = .fresh → q = .fresh
  leaves : p ≠ .fresh ∨ (ivLenInBytes = 12 ∧ (GcmSession.init c).converts 12 ∧ builds) → q ≠ .fresh

section

variable {len : Nat} {builds : Prop}

theorem Phase.Moves.of_converts {q : Phase} (hlen : len = 12) (hq : q ≠ .fresh) :
    Phase.Moves c len builds p q :=
  ⟨fun h => absurd hlen h, fun _ => hq⟩

variable (hp : p ≠ .fresh → (GcmSession.init c).converts 12)
include hp

/-- An operation that does not, because it is refused first or because of the device or the IV. -/
theorem Phase.Moves.refl (h : builds → ¬ (p.session c).converts len) :
    Phase.Moves c len builds p p := by
  refine ⟨fun _ h => h, fun hor => ?_⟩
  rcases hor with hne | ⟨rfl, hcap, hbuilds⟩
  · exact hne
  · exact absurd ((converts_session c p hp).trans hcap) (h hbuilds)

theorem AtPhase.perform (op : SymOp) :
    ∃ q, AtPhase c ((p.session c).perform op).2 q ∧
      p.Moves c op.ivLenInBytes (∃ msg, ((p.session c).perform op).1 = .ok msg) q := by
  simp only [GcmSession.perform, GcmSession.converts_setAadLen]
  split
  · exact ⟨p, AtPhase.of_setAadLen _ hp, .refl hp fun ⟨_, h⟩ => nomatch h⟩
  · split
    · next hconv =>
      obtain ⟨hlen, hcap⟩ := capable_of_converts hp hconv
      split
      · rw [← GcmSession.startConversion_setAadLen]
        rcases startConversion_session c p with h | h
        · rw [h]
          exact ⟨.started, AtPhase.of_setAadLen _ fun _ => hcap, .of_converts hlen nofun⟩
        · rw [h]
          exact ⟨.converted, AtPhase.of_setAadLen _ fun _ => hcap, .of_converts hlen nofun⟩
      · rw [← GcmSession.startConversion_setAadLen, ← GcmSession.finishConversion_setAadLen,
          convert_session]
        exact ⟨.converted, AtPhase.of_setAadLen _ fun _ => hcap, .of_converts hlen nofun⟩
    · next hconv => exact ⟨p, AtPhase.of_setAadLen _ hp, .refl hp fun _ => hconv⟩

theorem AtPhase.writeRingMsgFull (op : SymDpOp) :
    ∃ q, AtPhase c ((p.session c).writeRingMsgFull op).2 q ∧
      p.Moves c op.ivLenInBytes builds q := by
  unfold GcmSession.writeRingMsgFull
  rw [clear_extended]
  split
  · next hconv =>
    obtain ⟨hlen, hcap⟩ := capable_of_converts hp hconv
    rw [← GcmSession.finishConversion_setAadLen, convert_session]
    exact ⟨.converted, AtPhase.of_setAadLen _ fun _ => hcap, .of_converts hlen nofun⟩
  · next hconv => exact ⟨p, AtPhase.of_setAadLen _ hp, .refl hp fun _ => hconv⟩

end

theorem AtPhase.submit (h : AtPhase c s p) (op : GcmOp) :
    ∃ q, AtPhase c (s.submit op).2 q ∧
      p.Moves c op.ivLenInBytes (∃ msg, s.message op = .ok msg) q := by
  rw [message, h.same.submit]
  cases op with
  | perform op => exact AtPhase.perform h.capable op
  | enqueue op => exact AtPhase.writeRingMsgFull h.capable op

/-- Two sessions that convert to the same one refuse alike and build the same message. -/
theorem GcmSession.perform_of_convert {op : SymOp}
    (h : s.startConversion.finishConversion = t.startConversion.finishConversion)
    (hs : s.converts op.ivLenInBytes) (ht : t.converts op.ivLenInBytes) :
    (s.perform op).1 = (t.perform op).1 := by
  have hset : ∀ n, (s.setAadLen n).startConversion.finishConversion =
      (t.setAadLen n).startConversion.finishConversion := by
    intro n
    rw [← startConversion_setAadLen, ← finishConversion_setAadLen, h,
      finishConversion_setAadLen, startConversion_setAadLen]
  have hhash : ∀ n, (s.setAadLen n).hashAlgorithm = (t.setAadLen n).hashAlgorithm :=
    fun n => (congrArg hashAlgorithm (hset n) :)
  have hcheck : ∀ n, (s.setAadLen n).paramCheck = (t.setAadLen n).paramCheck :=
    fun n => (congrArg paramCheck (hset n) :)
  have haad : ∀ n, (s.setAadLen n).aadLenInBytes = (t.setAadLen n).aadLenInBytes :=
    fun n => (congrArg aadLenInBytes (hset n) :)
  unfold perform
  simp only [converts_setAadLen, hs, ht, if_true, hhash, hcheck, haad, hset]
  split
  · rfl
  · split <;> rfl

/-- With a 12-byte IV the message is the same in every phase. -/
theorem Phase.message_session (hp : p ≠ .fresh → (init c).converts 12) (op : GcmOp)
    (hlen : op.ivLenInBytes = 12) : (p.session c).message op = (init c).message op := by
  by_cases hcap : (init c).converts 12
  · have hconv : ∀ q : Phase, (q.session c).converts 12 := by
      intro q
      rw [converts_session c q fun _ => hcap]
      exact hcap
    have hsame : (p.session c).startConversion.finishConversion =
        (fresh.session c).startConversion.finishConversion := by
      rw [convert_session, convert_session]
    cases op with
    | perform op =>
      refine perform_of_convert hsame ?_ ?_
      · rw [show op.ivLenInBytes = 12 from hlen]
        exact hconv p
      · rw [show op.ivLenInBytes = 12 from hlen]
        exact hconv .fresh
    | enqueue op =>
      have hmsg : ∀ q : Phase, (q.session c).message (.enqueue op) =
          .ok (((converted.session c).setAadLen op.messageLenToHashInBytes).ringMsg op) := by
        intro q
        simp only [message, submit, writeRingMsgFull,
          show op.ivLenInBytes = 12 from hlen, hconv q, if_true]
        rw [clear_extended, ← finishConversion_setAadLen, convert_session]
      rw [hmsg p, ← hmsg .fresh]
      rfl
  · have hfresh : p = .fresh := by
      by_contra h
      exact hcap (hp h)
    rw [hfresh]
    rfl

theorem AtPhase.message (h : AtPhase c s p) (op : GcmOp) :
    s.message op = (p.session c).message op := by
  rw [GcmSession.message, h.same.submit]
  rfl

theorem AtPhase.message_eq (h : AtPhase c s p) {op : GcmOp} (hlen : op.ivLenInBytes = 12) :
    s.message op = (GcmSession.init c).message op :=
  (h.message op).trans (message_session h.capable op hlen)

/-! ## Commands

Nothing that is filled in after the template touches the command, so a message built without
converting has that of the phase. -/

/-- Every message that is built has this command. -/
def Sends (cmd : LaCmdId) (r : Except CpaStatus QatMsg) : Prop :=
  ∀ msg, r = .ok msg → msg.hdr.serviceCmdId = cmd

namespace Sends

variable {cmd : LaCmdId}

theorem error (e : CpaStatus) : Sends cmd (.error e) := fun _ h => nomatch h

theorem ok {msg : QatMsg} (h : msg.hdr.serviceCmdId = cmd) : Sends cmd (.ok msg) := by
  rintro _ ⟨⟩
  exact h

theorem ite {b : Prop} [Decidable b] {x y : Except CpaStatus QatMsg} (hx : Sends cmd x)
    (hy : Sends cmd y) : Sends cmd (if b then x else y) := by
  split
  · exact hx
  · exact hy

theorem bind {α : Type} {x : Except CpaStatus α} {f : α → Except CpaStatus QatMsg}
    (h : ∀ a, x = .ok a → Sends cmd (f a)) : Sends cmd (x >>= f) := by
  cases x with
  | error e => exact error e
  | ok a => exact h a rfl

/-- A choice of how to go on to the same rest. -/
theorem ite_bind {α : Type} {b : Prop} [Decidable b] {x y : Except CpaStatus α}
    {f : α → Except CpaStatus QatMsg} (h : ∀ a, x = .ok a ∨ y = .ok a → Sends cmd (f a)) :
    Sends cmd (if b then x >>= f else y >>= f) :=
  .ite (.bind fun a ha => h a (.inl ha)) (.bind fun a ha => h a (.inr ha))

end Sends

theorem QatMsg.cipherRequestParamsPopulate_cmd (msg : QatMsg) (offset len ivPhys : Nat)
    (iv : Option (List UInt8)) :
    (msg.cipherRequestParamsPopulate offset len ivPhys iv).hdr.serviceCmdId =
      msg.hdr.serviceCmdId := by
  unfold cipherRequestParamsPopulate
  cases iv with
  | none => rfl
  | some bytes => dsimp only; split <;> rfl

namespace GcmSession

/-- The command of the template in use. -/
def templateCmd (s : GcmSession) : LaCmdId :=
  if s.singlePassState = .yes then s.reqSpcCacheHdr.serviceCmdId else s.reqCacheHdr.serviceCmdId

section

variable (s : GcmSession) (op : SymOp) (msg : QatMsg)

theorem template_cmd (opaqueData src dst : Nat) (sgl : Bool) (srcLen dstLen : Nat) :
    (s.template opaqueData src dst sgl srcLen dstLen).hdr.serviceCmdId = s.templateCmd := by
  unfold template templateCmd
  dsimp only
  split <;> rfl

theorem templateCmd_setAadLen (n : Nat) : (s.setAadLen n).templateCmd = s.templateCmd := by
  unfold setAadLen
  split <;> rfl

theorem cipherPart_sends : Sends msg.hdr.serviceCmdId (s.cipherPart op msg) :=
  .ite (.error _) (.ite (.error _) (.ite (.error _) (.ok (msg.cipherRequestParamsPopulate_cmd ..))))

theorem spcPart_sends : Sends msg.hdr.serviceCmdId (s.spcPart op msg) :=
  .ite (.error _) (.ite (.error _) (.ite (.ite (.error _) (.ok rfl)) (.ite (.error _) (.ok rfl))))

theorem hashPart_sends : Sends msg.hdr.serviceCmdId (s.hashPart op msg) :=
  .ite (.error _) (.ite (.error _) (.ite (.error _) (.ok rfl)))

theorem performMsg_sends (op : SymOp) : Sends s.templateCmd (s.performMsg op) := by
  unfold performMsg
  refine .ite (.error _) ?_
  cases op.cookie with
  | none => exact .error _
  | some cookie =>
    refine .bind fun src _ => .ite_bind fun dst _ => .ite_bind fun msg hmsg => ?_
    have hcmd : msg.hdr.serviceCmdId = s.templateCmd := by
      rcases hmsg with h | h
      · cases h
        exact s.template_cmd cookie src dst true 0 0
      · exact (s.cipherPart_sends op _ msg h).trans (s.template_cmd cookie src dst true 0 0)
    rw [← hcmd]
    refine .ite_bind fun msg' hmsg' => ?_
    have hcmd' : msg'.hdr.serviceCmdId = msg.hdr.serviceCmdId := by
      rcases hmsg' with h | h
      · exact s.spcPart_sends op msg msg' h
      · cases h
        rfl
    rw [← hcmd']
    exact .ite (.ok rfl) (s.hashPart_sends op msg')

theorem ringMsg_cmd (op : SymDpOp) : (s.ringMsg op).hdr.serviceCmdId = s.templateCmd := by
  simp only [ringMsg, apply_ite QatMsg.hdr, apply_ite ReqHeader.serviceCmdId, QatMsg.spcParams,
    QatMsg.cipherRequestParamsPopulate_cmd, QatMsg.mapFlags, template_cmd, ite_self]

/-- Without a conversion an operation gets the command of the template in use. -/
theorem message_sends (op : GcmOp) (hlen : op.ivLenInBytes ≠ 12) :
    Sends s.templateCmd (s.message op) := by
  cases op with
  | perform op =>
    have hconv : s.converts op.ivLenInBytes = false := by
      simp [converts, show op.ivLenInBytes ≠ 12 from hlen]
    simp only [message, submit, perform, converts_setAadLen, hconv, Bool.false_eq_true, if_false]
    rw [← s.templateCmd_setAadLen op.messageLenToHashInBytes]
    split
    · exact .error _
    · exact performMsg_sends _ op
  | enqueue op =>
    have hconv : s.converts op.ivLenInBytes = false := by
      simp [converts, show op.ivLenInBytes ≠ 12 from hlen]
    simp only [message, submit, writeRingMsgFull, hconv, Bool.false_eq_true, if_false]
    rw [← s.templateCmd_setAadLen op.messageLenToHashInBytes]
    exact .ok (ringMsg_cmd ..)

end

end GcmSession

/-- A message for another IV has the chained command in a fresh session and no other. -/
theorem Phase.message_ne {p : Phase} (hp : p ≠ .fresh) {op : GcmOp} (hlen : op.ivLenInBytes ≠ 12)
    {msg : QatMsg} (h : (init c).message op = .ok msg) :
    (p.session c).message op ≠ (init c).message op := by
  intro hsame
  have hchain := (init c).message_sends op hlen msg h
  have hcipher := (p.session c).message_sends op hlen msg (hsame.trans h)
  rw [hchain] at hcipher
  have hfresh : (init c).templateCmd = chainCmdId c.cipherDirection := by
    cases hcap : c.chachaPoly <;> simp [templateCmd, init, getSpcState, hcap, ReqHeader.cmnHdrWrite]
  have hlater : (p.session c).templateCmd = .cipher := by
    cases p with
    | fresh => exact absurd rfl hp
    | started => rfl
    | converted => rfl
  rw [hfresh, hlater] at hcipher
  cases hdir : c.cipherDirection <;> rw [hdir] at hcipher <;> cases hcipher

/-! ## Sequences of operations -/

/-- After any operations a session is in some phase: still `fresh` if none had a 12-byte IV, and no
    longer if one had for which a capable device builds a message. -/
theorem after_atPhase (c : GcmSetup) (ops : List GcmOp) :
    ∃ p, AtPhase c ((init c).after ops) p ∧ ((∀ o ∈ ops, o.ivLenInBytes ≠ 12) → p = .fresh) ∧
      ((init c).converts 12 →
        (∃ o ∈ ops, o.ivLenInBytes = 12 ∧ ∃ msg, (init c).message o = .ok msg) →
        p ≠ .fresh) := by
  induction ops using List.reverseRecOn with
  | nil => exact ⟨.fresh, AtPhase.init c, fun _ => rfl, fun _ ⟨_, ho, _⟩ => nomatch ho⟩
  | append_singleton ops op ih =>
    obtain ⟨p, hp, hfresh, hleft⟩ := ih
    obtain ⟨q, hq, hmoves⟩ := hp.submit op
    refine ⟨q, ?_, fun h => ?_, fun hcap ⟨o, ho, hlen, msg, hmsg⟩ => hmoves.leaves ?_⟩
    · rw [after, List.foldl_append]
      exact hq
    · refine hmoves.stays (h op (by simp)) (hfresh fun o ho => h o ?_)
      exact List.mem_append_left _ ho
    · rcases List.mem_append.mp ho with hmem | hlast
      · exact .inl (hleft hcap ⟨o, hmem, hlen, msg, hmsg⟩)
      · obtain rfl := List.mem_singleton.mp hlast
        exact .inr ⟨hlen, hcap, msg, (hp.message_eq hlen).trans hmsg⟩

/-- **The message of an operation is that of a fresh session** if the operation has a 12-byte IV or
    none before it had one. On a device with single pass, and for operations that a fresh session
    builds messages for, only then. -/
theorem message_after (c : GcmSetup) (ops : List GcmOp) (op : GcmOp) :
    ((op.ivLenInBytes = 12 ∨ ∀ o ∈ ops, o.ivLenInBytes ≠ 12) →
      ((init c).after ops).message op = (init c).message op) ∧
    ((init c).converts 12 → (∀ o ∈ op :: ops, ∃ msg, (init c).message o = .ok msg) →
      ((init c).after ops).message op = (init c).message op →
      op.ivLenInBytes = 12 ∨ ∀ o ∈ ops, o.ivLenInBytes ≠ 12) := by
  obtain ⟨p, hp, hfresh, hleft⟩ := after_atPhase c ops
  constructor
  · rintro (hlen | hnone)
    · exact hp.message_eq hlen
    · rw [hp.message, hfresh hnone]
      rfl
  · intro hcap hvalid hsame
    by_contra hcon
    push Not at hcon
    obtain ⟨hlen, o, ho, hlen'⟩ := hcon
    obtain ⟨msg, hmsg⟩ := hvalid op (by simp)
    have hne := hleft hcap ⟨o, ho, hlen', hvalid o (by simp [ho])⟩
    exact message_ne hne hlen hmsg ((hp.message op) ▸ hsame)

/-- A traditional session for encryption on a device with single pass. -/
def sampleSetup : GcmSetup :=
  { paramCheck := true
    chachaPoly := true
    aesGcmSpc := true
    isDPSession := false
    hashAlgorithm := .gcm
    cipherDirection := .encrypt
    digestIsAppended := false
    digestResultLenInBytes := 16
    aadLenInBytes := 16
    contentDescAddr := 0x1000
    contentDescParamsSz := 9
    spcContentDescParamsSz := 3
    ftr := { aadSz := 16, hashStateSz := 0, authResSz := 0, cipherStateSz := 2, cdCtrl := [1] }
    spcFtr := { aadSz := 0, hashStateSz := 0, authResSz := 0, cipherStateSz := 2, cdCtrl := [2] } }

/-- The encryption of 64 bytes with an IV of the given length. -/
def sampleOp (ivLenInBytes : Nat) : GcmOp :=
  .perform
    { iv := some (List.replicate 16 7)
      ivPhys := 0x2000
      ivLenInBytes := ivLenInBytes
      cryptoStartSrcOffsetInBytes := 0
      messageLenToCipherInBytes := 64
      hashStartSrcOffsetInBytes := 0
      messageLenToHashInBytes := 0
      additionalAuthData := some 0x3000
      digestResult := some 0x4000
      cookie := some 0x5000
      src := .ok 0x6000
      inPlace := true
      dst := .ok 0
      srcPktSize := 64
      dstPktSize := 64
      verifyResultOk := true }

/-- After an IV of 16 bytes and one of 12, one of 12 bytes gets the message of a fresh session and
    one of 16 does not. -/
theorem message_after_mixed :
    ((init sampleSetup).after [sampleOp 16, sampleOp 12]).message (sampleOp 12) =
        (init sampleSetup).message (sampleOp 12) ∧
      ((init sampleSetup).after [sampleOp 16, sampleOp 12]).message (sampleOp 16) ≠
        (init sampleSetup).message (sampleOp 16) := by
  refine ⟨(message_after _ _ _).1 (.inl rfl), fun hsame => ?_⟩
  have hvalid : ∀ o ∈ [sampleOp 16, sampleOp 16, sampleOp 12],
      ∃ msg, (init sampleSetup).message o = .ok msg := by
    simp only [List.forall_mem_cons, List.not_mem_nil, false_imp_iff, implies_true, and_true]
    exact ⟨⟨_, rfl⟩, ⟨_, rfl⟩, ⟨_, rfl⟩⟩
  rcases (message_after _ _ _).2 rfl hvalid hsame with hlen | hnone
  · exact absurd hlen (by decide)
  · exact hnone (sampleOp 12) (by simp) rfl

/-- The command and the single-pass flag of a message that was built. -/
def builtCommand : Except CpaStatus QatMsg → Option (LaCmdId × Bool)
  | .ok msg => some (msg.hdr.serviceCmdId, msg.hdr.servSpecifFlags.singlePass)
  | .error _ => none

/-- **A 16-byte IV after a 12-byte one goes out as a single-pass cipher command**, which the
    hardware has for 12-byte IVs only; a fresh session sends the chained command. -/
theorem message_after_conversion :
    builtCommand (((init sampleSetup).after [sampleOp 12]).message (sampleOp 16)) =
        some (.cipher, true) ∧
      builtCommand ((init sampleSetup).message (sampleOp 16)) = some (.cipherHash, false) := by
  decide

end Qatlib.Crypto
