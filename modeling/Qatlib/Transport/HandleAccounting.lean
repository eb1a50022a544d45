import Qatlib.Lib.Slots
import Qatlib.Transport.Handles

set_option autoImplicit false

/-! # What a bank knows about its handles

Two results about the calls of `Handles.lean`. A create call that fails leaves the handles that
exist alone, except for one thing: it clears the in-flight cell of the ring it was configured for
before it asks whether the ring is free, so a handle on that ring or on its partner loses its count.

The bank's count, its mask and its bundle agree with its table of handles as long as calls come in
order. They drift apart when the table cannot be allocated, since the bundle stays set; when a
handle that is no longer in the table is reset or released, since the reference is given back a
second time; when a handle is reinitialised on a ring that another one has taken, since the failure
releases that ring; and when the lock cannot be taken to clear a mask bit.

Each call touches one bank. `Bank.Create` and `Bank.Reinit` list what a call can make of it, and
both results are read off these lists. -/

namespace Qatlib.Transport

open Function DeviceState

/-! ## What a call makes of its bank -/

/-- The bank has a bundle, or gets one from `init_bank_from_accel`. -/
def Bank.Opens (env : Answers) (b b' : Bank) : Prop :=
  (b.bundle = true ∧ b' = b) ∨ (b.bundle = false ∧ b.initFromAccel env = (true, b'))

/-- The bank has a bundle, or gets one from `reinit_bank_from_accel`. -/
def Bank.Reopens (env : Answers) (b b' : Bank) : Prop :=
  (b.bundle = true ∧ b' = b) ∨ (b.bundle = false ∧ b.reinitFromAccel env = some (true, b'))

/-- What both leave: the bank as it was, or a bundle with an empty table of rings. -/
def Bank.Opened (b b' : Bank) : Prop :=
  (b.bundle = true ∧ b' = b) ∨ (b.bundle = false ∧ ∃ shadow,
    b' = { b with bundle := true, rings := some fun _ => none, csrAddrShadow := shadow })

variable {a n ring : Nat} {ok lock : Bool} {b b' : Bank} {d : Device} {env : Answers}

open Bank

theorem Bank.Opens.opened (h : b.Opens env b') : b.Opened b' := by
  refine h.imp_right fun ⟨hbundle, hinit⟩ => ⟨hbundle, true, ?_⟩
  simp only [initFromAccel] at hinit
  split_ifs at hinit <;> cases hinit
  rfl

theorem Bank.Reopens.opened (h : b.Reopens env b') : b.Opened b' := by
  refine h.imp_right fun ⟨hbundle, hinit⟩ => ⟨hbundle, b.csrAddrShadow, ?_⟩
  simp only [reinitFromAccel] at hinit
  split_ifs at hinit <;> cases hinit
  rfl

/-- What a create call makes of the bank, with the outcome of the call. -/
inductive Bank.Create (d : Device) (env : Answers) (b : Bank) : Bool → Bank → Prop where
  | refused {b' : Bank} (hbundle : b.bundle = false) (hinit : b.initFromAccel env = (false, b')) :
      Create d env b false b'
  | failed {b₁ : Bank} (hopen : b.Opens env b₁) : Create d env b false b₁.freeBundle
  | created {b₁ b₂ b' : Bank} {ring a : Nat} (hopen : b.Opens env b₁)
      (hring : ring < d.maxNumRingsPerBank)
      (hreserve : b₁.reserveRing env.reserveLock ring = some b₂)
      (hrecord : { b₂ with refs := b₂.refs + 1 }.record ring a = some b') : Create d env b true b'

/-- What a reinit call of a handle on ring `old` makes of the bank. -/
inductive Bank.Reinit (d : Device) (env : Answers) (old : Nat) (b : Bank) : Bool → Bank → Prop where
  | refused {b₁ : Bank} (hbundle : b.bundle = false)
      (hinit : b.reinitFromAccel env = some (false, b₁)) :
      Reinit d env old b false ((b₁.unreserveRing env.unreserveLock old).release old)
  | failed {b₁ : Bank} {ring : Nat} (hopen : b.Reopens env b₁)
      (hring : ring = old ∨ cfgRing d env = some ring) :
      Reinit d env old b false
        (({ b₁ with refs := b₁.refs + 1 }.unreserveRing env.unreserveLock ring).release ring)
  | reinitialised {b₁ b₂ b' : Bank} {ring a : Nat} (hopen : b.Reopens env b₁)
      (hring : ring < d.maxNumRingsPerBank)
      (hreserve : { b₁ with refs := b₁.refs + 1 }.reserveRing env.reserveLock ring = some b₂)
      (hrecord : b₂.record ring a = some b') : Reinit d env old b true b'

theorem cfgRing_lt (h : cfgRing d env = some ring) : ring < d.maxNumRingsPerBank := by
  obtain ⟨r, -, hr⟩ := Option.bind_eq_some_iff.mp h
  obtain ⟨hrange, hring⟩ := Option.ite_none_left_eq_some.mp hr
  obtain rfl : r.toNat = ring := Option.some.inj hring
  omega

theorem chosen_eq (h : chosen d env = some (a, ring)) :
    cfgRing d env = some ring ∧ env.handle = some a := by
  obtain ⟨r, hr, h⟩ := Option.bind_eq_some_iff.mp h
  obtain ⟨x, hx, h⟩ := Option.bind_eq_some_iff.mp h
  obtain ⟨-, h⟩ := Option.ite_none_right_eq_some.mp h
  cases h
  exact ⟨hr, hx⟩

variable {s : DeviceState} {table : Nat → Option Nat} {nr old : Nat}

section Frames

variable {d : Device} {s s' : DeviceState} {args : HandleArgs} {env : Answers}

theorem DeviceState.openBank_opens (h : (s.openBank nr env).1 = true) :
    ∃ b, (s.banks nr).Opens env b ∧ (s.openBank nr env).2 = s.setBank nr b := by
  unfold openBank at h ⊢
  split
  · next hbundle => exact ⟨_, .inl ⟨hbundle, rfl⟩, by simp [setBank]⟩
  · next hbundle =>
    rw [if_neg hbundle] at h
    exact ⟨_, .inr ⟨by simpa using hbundle, Prod.ext h rfl⟩, rfl⟩

theorem DeviceState.openBank_refused (h : (s.openBank nr env).1 = false) :
    ∃ b, (s.banks nr).bundle = false ∧ (s.banks nr).initFromAccel env = (false, b) ∧
      (s.openBank nr env).2 = s.setBank nr b := by
  unfold openBank at h ⊢
  split
  · next hbundle => simp [hbundle] at h
  · next hbundle =>
    rw [if_neg hbundle] at h
    exact ⟨_, by simpa using hbundle, Prod.ext h rfl, rfl⟩

section

variable (d : Device) (s : DeviceState) (args : HandleArgs)

/-- The in-flight cell that a create call clears, if it comes that far. -/
def DeviceState.clearedCell (env : Answers) : Option Nat :=
  if (s.openBank args.bankNr env).1 = false then none
  else
    (chosen d env).bind fun choice =>
      if args.resp = .delimit then none else some (inFlightIndex d args.bankNr choice.2)

/-- What a create call that fails leaves as it was, and the cell that it clears. -/
structure DeviceState.FailedCreate (env : Answers) (s s' : DeviceState) : Prop where
  handles : s'.handles = s.handles
  handle : ∀ a, env.handle ≠ some a → s'.handle a = s.handle a
  buffer : s'.buffer = s.buffer
  inflights : ∀ cell, s'.ringInflights cell =
    if s.clearedCell d args env = some cell then 0 else s.ringInflights cell

/-- Everything but one handle, its bank and the in-flight cell of its ring is as it was. -/
structure DeviceState.Apart (a ring : Nat) (s s' : DeviceState) : Prop where
  handles : s'.handles = s.handles
  handle : ∀ x, x ≠ a → s'.handle x = s.handle x
  buffer : s'.buffer = s.buffer
  inflights : ∀ cell, s'.ringInflights cell =
    if args.resp ≠ .delimit ∧ inFlightIndex d args.bankNr ring = cell then 0
    else s.ringInflights cell

/-! ### The parts of a call -/

@[simp] theorem DeviceState.setHandle_banks (a : Nat) (h : RingHandle) :
    (s.setHandle a h).banks = s.banks := rfl

@[simp] theorem DeviceState.setBank_banks (nr : Nat) (b : Bank) :
    (s.setBank nr b).banks = update s.banks nr b := rfl

end

namespace DeviceState

@[simp] theorem freeBundle_banks (s : DeviceState) (nr : Nat) :
    (s.freeBundle nr).banks = update s.banks nr (s.banks nr).freeBundle := rfl

@[simp] theorem populateRingInfo_banks (a ring : Nat) :
    (s.populateRingInfo d a args ring).2.banks = s.banks := by
  unfold populateRingInfo
  dsimp only
  split <;> rfl

theorem populateRingInfo_ringNum (h : (s.populateRingInfo d a args ring).1 = true) :
    ((s.populateRingInfo d a args ring).2.handle a).ringNum = ring := by
  unfold populateRingInfo at h ⊢
  dsimp only at h ⊢
  split at h
  · simp at h
  · next hresp => simp [hresp, setHandle]

/-- A handle that cannot be populated keeps its ring. -/
theorem populateRingInfo_refused (h : (s.populateRingInfo d a args ring).1 = false) :
    args.resp = .delimit ∧
      ((s.populateRingInfo d a args ring).2.handle a).ringNum = (s.handle a).ringNum := by
  unfold populateRingInfo at h ⊢
  dsimp only at h ⊢
  split at h
  · next hresp => simp [hresp, setHandle]
  · simp at h

@[simp] theorem populateRingInfo_bankNum (a ring : Nat) :
    ((s.populateRingInfo d a args ring).2.handle a).bankNum = args.bankNr := by
  unfold populateRingInfo
  dsimp only
  split <;> simp [setHandle]

theorem initRingInternal_eq_some (h : s.initRingInternal a args ring lock = some s') :
    ∃ b, (s.banks args.bankNr).reserveRing lock ring = some b ∧
      s'.banks = update s.banks args.bankNr b := by
  obtain ⟨b, hb, rfl⟩ := Option.map_eq_some_iff.mp h
  exact ⟨b, hb, rfl⟩

theorem initRing_eq_some (h : s.initRing a args ring env = some s') :
    ∃ b, (s.banks args.bankNr).reserveRing env.reserveLock ring = some b ∧
      s'.banks = update s.banks args.bankNr b := by
  unfold initRing at h
  split at h
  · simp at h
  · obtain ⟨-, h⟩ := Option.ite_none_left_eq_some.mp h
    obtain ⟨b, hreserve, hbanks⟩ := initRingInternal_eq_some h
    exact ⟨b, hreserve, hbanks⟩

/-- Populating a handle changes that handle and clears its cell. -/
theorem populateRingInfo_apart (a ring : Nat) :
    Apart d args a ring s (s.populateRingInfo d a args ring).2 := by
  unfold populateRingInfo
  dsimp only
  split
  · next hresp =>
    exact ⟨rfl, fun x hx => update_of_ne hx _ _, rfl, fun cell => (if_neg fun h => h.1 hresp).symm⟩
  · next hresp =>
    refine ⟨rfl, fun x hx => update_of_ne hx _ _, rfl, fun cell => ?_⟩
    simp [update_apply, hresp, eq_comm]

theorem finishCreate_spec (hopen : b.Opens env (s.banks args.bankNr))
    (hring : ring < d.maxNumRingsPerBank) (h : s.finishCreate d a args ring env = some (ok, s')) :
    (∃ b', s'.banks = update s.banks args.bankNr b' ∧ b.Create d env ok b') ∧
      (ok = false → Apart d args a ring s s') := by
  obtain ⟨hhandles, hhandle, hbuffer, hcells⟩ :=
    @populateRingInfo_apart d (s.setHandle a RingHandle.zero) args a ring
  have hapart : Apart d args a ring s
      (((s.setHandle a RingHandle.zero).populateRingInfo d a args ring).2.freeBundle args.bankNr) :=
    ⟨hhandles, fun x hx => (hhandle x hx).trans (update_of_ne hx _ _), hbuffer, hcells⟩
  unfold finishCreate at h
  dsimp only at h
  split at h
  · cases h
    exact ⟨⟨_, by simp, .failed hopen⟩, fun _ => hapart⟩
  split at h
  · cases h
    exact ⟨⟨_, by simp, .failed hopen⟩, fun _ => hapart⟩
  next s₁ hinit =>
  obtain ⟨b₂, hreserve, hbanks⟩ := initRing_eq_some hinit
  simp only [populateRingInfo_banks, setHandle_banks] at hreserve hbanks
  obtain ⟨b', hrecord, hs'⟩ := Option.map_eq_some_iff.mp h
  obtain ⟨rfl, rfl⟩ := Prod.mk.inj hs'
  simp only [hbanks, update_self] at hrecord
  exact ⟨⟨b', by simp [hbanks], .created hopen hring hreserve hrecord⟩, by simp⟩

/-- **A create call, as its bank sees it**; a call that fails leaves everything but its own handle, its
    bank and the cleared cell. -/
theorem createHandle_spec (h : s.createHandle d args env = some (ok, s')) :
    (∃ b, s'.banks = update s.banks args.bankNr b ∧ (s.banks args.bankNr).Create d env ok b) ∧
      (ok = false → FailedCreate d args env s s') := by
  unfold createHandle at h
  dsimp only at h
  split at h
  · next hopen =>
    cases h
    obtain ⟨b, hbundle, hinit, hs⟩ := openBank_refused hopen
    rw [hs]
    refine ⟨⟨b, setBank_banks _ _ _, .refused hbundle hinit⟩,
      fun _ => ⟨rfl, fun _ _ => rfl, rfl, fun cell => ?_⟩⟩
    simp [clearedCell, hopen, setBank]
  next hopen =>
  obtain ⟨b, hb, hs⟩ := openBank_opens (by simpa using hopen)
  rw [hs] at h
  split at h
  · next hchosen =>
    cases h
    refine ⟨⟨b.freeBundle, by simp, .failed hb⟩, fun _ => ⟨rfl, fun _ _ => rfl, rfl, fun cell => ?_⟩⟩
    simp [clearedCell, hchosen, freeBundle, setBank]
  · next a ring hchosen =>
    have hb' : (s.banks args.bankNr).Opens env ((s.setBank args.bankNr b).banks args.bankNr) := by
      simpa using hb
    obtain ⟨⟨b', hbanks, hcreate⟩, hapart⟩ :=
      finishCreate_spec hb' (cfgRing_lt (chosen_eq hchosen).1) h
    refine ⟨⟨b', by simpa using hbanks, hcreate⟩, fun hok => ?_⟩
    obtain ⟨hhandles, hhandle, hbuffer, hcells⟩ := hapart hok
    refine ⟨hhandles, fun x hx => hhandle x fun he => hx (he ▸ (chosen_eq hchosen).2), hbuffer,
      fun cell => (hcells cell).trans ?_⟩
    simp [clearedCell, hopen, hchosen, setBank]

/-- The end of a reinit call that fails: the handle is released on the ring it has by then. -/
theorem releaseHandle_banks (s : DeviceState) (a : Nat) (lock : Bool) :
    (s.releaseHandle a lock).banks = update s.banks (s.handle a).bankNum
      (((s.banks (s.handle a).bankNum).unreserveRing lock (s.handle a).ringNum).release
        (s.handle a).ringNum) := rfl

theorem finishReinit_bank (hbank : args.bankNr = (s.handle a).bankNum)
    (hopen : b.Reopens env (s.banks args.bankNr)) (h : s.finishReinit d a args env = some (ok, s')) :
    ∃ b', s'.banks = update s.banks args.bankNr b' ∧ b.Reinit d env (s.handle a).ringNum ok b' := by
  unfold finishReinit at h
  dsimp only at h
  split at h
  · cases h
    refine ⟨_, ?_, .failed hopen (.inl rfl)⟩
    rw [releaseHandle_banks]
    simp [setBank, ← hbank]
  next ring hcfg =>
  split at h
  · next hrefused =>
    cases h
    obtain ⟨-, hring⟩ := populateRingInfo_refused hrefused
    refine ⟨_, ?_, .failed hopen (.inl rfl)⟩
    rw [releaseHandle_banks, hring]
    simp [setBank]
  next hpopulated =>
  have hring := populateRingInfo_ringNum (by simpa using hpopulated)
  split at h
  · cases h
    refine ⟨_, ?_, .failed hopen (.inr hcfg)⟩
    rw [releaseHandle_banks, hring]
    simp [setBank]
  next s₁ hinit =>
  obtain ⟨b₂, hreserve, hbanks⟩ := initRingInternal_eq_some hinit
  simp only [populateRingInfo_banks, setBank_banks, update_self] at hreserve hbanks
  obtain ⟨b', hrecord, hs'⟩ := Option.map_eq_some_iff.mp h
  obtain ⟨rfl, rfl⟩ := Prod.mk.inj hs'
  simp only [hbanks, update_self] at hrecord
  exact ⟨b', by simp [hbanks], .reinitialised hopen (cfgRing_lt hcfg) hreserve hrecord⟩

/-- **A reinit call, as its bank sees it.** -/
theorem reinitHandle_bank (hbank : args.bankNr = (s.handle a).bankNum)
    (h : s.reinitHandle d a args env = some (ok, s')) :
    ∃ b, s'.banks = update s.banks args.bankNr b ∧
      (s.banks args.bankNr).Reinit d env (s.handle a).ringNum ok b := by
  unfold reinitHandle at h
  split at h
  · next hbundle => exact finishReinit_bank hbank (.inl ⟨hbundle, rfl⟩) h
  next hbundle =>
  obtain ⟨⟨fine, b₁⟩, hinit, h⟩ := Option.bind_eq_some_iff.mp h
  have hclosed : (s.banks args.bankNr).bundle = false := by simpa using hbundle
  split at h
  · next hfine =>
    obtain rfl : fine = false := hfine
    cases h
    refine ⟨_, ?_, .refused hclosed hinit⟩
    rw [releaseHandle_banks]
    simp [setBank, ← hbank]
  · next hfine =>
    obtain rfl : fine = true := by simpa using hfine
    have hopen : (s.banks args.bankNr).Reopens env
        ((s.setBank args.bankNr b₁).banks args.bankNr) := .inr ⟨hclosed, by simpa using hinit⟩
    obtain ⟨b', hbanks, hreinit⟩ := finishReinit_bank (s := s.setBank args.bankNr b₁) hbank hopen h
    exact ⟨b', by simpa using hbanks, hreinit⟩

end DeviceState

end Frames

/-- What an event makes of the bank it is about. -/
def HandleEvent.Effect (d : Device) (s : DeviceState) : HandleEvent → Nat → Bank → Prop
  | .create args env, nr, b => nr = args.bankNr ∧ ∃ ok, (s.banks nr).Create d env ok b
  | .reset a lock, nr, b =>
      nr = (s.handle a).bankNum ∧
        b = ((s.banks nr).unreserveRing lock (s.handle a).ringNum).reset (s.handle a).ringNum
  | .reinit a args env, nr, b =>
      nr = (s.handle a).bankNum ∧ nr = args.bankNr ∧
        ∃ ok, (s.banks nr).Reinit d env (s.handle a).ringNum ok b
  | .release a lock, nr, b =>
      nr = (s.handle a).bankNum ∧
        b = ((s.banks nr).unreserveRing lock (s.handle a).ringNum).release (s.handle a).ringNum
  | .traffic .., nr, b => b = s.banks nr

/-- **One bank per call.** -/
theorem HandleEvent.step_banks {s' : DeviceState} {e : HandleEvent} (h : e.step d s = some s') :
    ∃ nr b, s'.banks = update s.banks nr b ∧ e.Effect d s nr b := by
  cases e with
  | create args env =>
    obtain ⟨-, h⟩ := Option.ite_none_right_eq_some.mp h
    obtain ⟨⟨ok, t⟩, hcall, rfl⟩ := Option.map_eq_some_iff.mp h
    obtain ⟨⟨b, hbanks, hb⟩, -⟩ := createHandle_spec hcall
    exact ⟨_, b, hbanks, rfl, ok, hb⟩
  | reset a lock =>
    obtain ⟨-, ⟨⟩⟩ := Option.ite_none_right_eq_some.mp h
    exact ⟨_, _, rfl, rfl, rfl⟩
  | reinit a args env =>
    obtain ⟨⟨-, -, hbank⟩, h⟩ := Option.ite_none_right_eq_some.mp h
    obtain ⟨⟨ok, t⟩, hcall, rfl⟩ := Option.map_eq_some_iff.mp h
    obtain ⟨b, hbanks, hb⟩ := reinitHandle_bank hbank hcall
    exact ⟨_, b, hbanks, hbank, rfl, ok, hb⟩
  | release a lock =>
    obtain ⟨-, ⟨⟩⟩ := Option.ite_none_right_eq_some.mp h
    exact ⟨_, _, rfl, rfl, rfl⟩
  | traffic a head tail sendSeq inFlight contents =>
    obtain ⟨-, ⟨⟩⟩ := Option.ite_none_right_eq_some.mp h
    exact ⟨0, _, (update_eq_self 0 s.banks).symm, rfl⟩

/-- **Invariant rule for banks**: what holds of an empty bank and is kept by every effect holds of
    every bank in every reachable state. -/
theorem banks_invariant {ok : DeviceState → HandleEvent → Prop} (P : Bank → Prop)
    (hempty : P empty) (hstep : ∀ s e nr b, P (s.banks nr) → ok s e → e.Effect d s nr b → P b)
    (hs : (transport d).ReachableBy ok s) (nr : Nat) : P (s.banks nr) := by
  refine hs.invariant (fun s => ∀ nr, P (s.banks nr)) ?_ ?_ nr
  · intro s hinit nr
    rw [hinit.1 nr]
    exact hempty
  · intro s e t hP hok hnext nr
    obtain ⟨n, b, hbanks, heffect⟩ := HandleEvent.step_banks hnext
    rw [hbanks, update_apply]
    split
    · exact hstep s e n b (hP n) hok heffect
    · exact hP nr

/-! ## Banks in any run -/

/-- What holds of a bank whatever the calls: without a bundle it has nothing, and a table is held
    by at least one reference. -/
structure Bank.Grounded (b : Bank) : Prop where
  closed : b.bundle = false → b.rings = none ∧ b.refs = 0
  held : b.rings ≠ none → 1 ≤ b.refs

/-- A bank in the middle of a call. -/
structure Bank.Open (b : Bank) : Prop where
  bundle : b.bundle = true
  held : b.rings ≠ none → 0 ≤ b.refs

theorem Bank.reserveRing_eq_some (h : b.reserveRing lock n = some b') :
    b.ringMask n = false ∧ b' = { b with ringMask := update b.ringMask n true } := by
  obtain ⟨-, h⟩ := Option.ite_none_left_eq_some.mp h
  obtain ⟨hfree, ⟨⟩⟩ := Option.ite_none_left_eq_some.mp h
  exact ⟨by simpa using hfree, rfl⟩

theorem Bank.Open.reserveRing (h : b.Open) (hb : b.reserveRing lock n = some b') : b'.Open := by
  obtain ⟨-, rfl⟩ := reserveRing_eq_some hb
  exact ⟨h.bundle, h.held⟩

theorem Bank.Open.grounded (h : b.Open) (hrefs : b.refs ≠ 0) : b.Grounded := by
  refine ⟨fun hc => absurd (h.bundle.symm.trans hc) (by simp), fun hr => ?_⟩
  have := h.held hr
  omega

namespace Bank.Grounded

variable {d : Device} {env : Answers} {b b' : Bank}

theorem opened (h : b.Grounded) (hopen : b.Opened b') : b'.Open := by
  rcases hopen with ⟨hbundle, rfl⟩ | ⟨hbundle, shadow, rfl⟩
  · exact ⟨hbundle, fun hr => by have := h.held hr; omega⟩
  · exact ⟨rfl, fun _ => (h.closed hbundle).2.ge⟩

theorem of_open_succ (h : b.Open) : { b with refs := b.refs + 1 }.Grounded :=
  ⟨fun hc => absurd (h.bundle.symm.trans hc) (by simp), fun hr => by
    have := h.held hr
    dsimp only
    omega⟩

theorem freeBundle_of_open (h : b.Open) : b.freeBundle.Grounded := by
  unfold freeBundle
  split
  · next hrefs => exact h.grounded hrefs
  · next hrefs => exact ⟨fun _ => ⟨rfl, by simpa using hrefs⟩, fun hr => absurd rfl hr⟩

theorem cleanBundle_of_open (h : b.Open) : b.cleanBundle.Grounded := by
  unfold cleanBundle
  split
  · next hrefs => exact ⟨fun _ => ⟨rfl, hrefs⟩, fun hr => absurd rfl hr⟩
  · next hrefs => exact h.grounded hrefs

section

variable (h : b.Grounded)
include h

theorem freeBundle : b.freeBundle.Grounded := by
  unfold Bank.freeBundle
  split
  · exact h
  · next hrefs => exact ⟨fun _ => ⟨rfl, by simpa using hrefs⟩, fun hr => absurd rfl hr⟩

theorem unreserveRing (lock : Bool) (n : Nat) : (b.unreserveRing lock n).Grounded := by
  unfold Bank.unreserveRing
  split
  · exact h
  · exact ⟨h.closed, h.held⟩

theorem drop (htable : b.rings = some table) (table' : Nat → Option Nat) :
    { b with rings := some table', refs := b.refs - 1 }.Open := by
  have hheld := h.held (by simp [htable])
  refine ⟨?_, fun _ => by dsimp only; omega⟩
  by_contra hbundle
  simpa [htable] using (h.closed (by simpa using hbundle)).1

theorem release (n : Nat) : (b.release n).Grounded := by
  unfold Bank.release
  split
  · exact h.freeBundle
  · next table htable => exact freeBundle_of_open (h.drop htable _)

theorem reset (n : Nat) : (b.reset n).Grounded := by
  unfold Bank.reset
  split
  · exact h
  · next table htable => exact cleanBundle_of_open (h.drop htable _)

theorem reserveRing (hb : b.reserveRing lock n = some b') : b'.Grounded := by
  obtain ⟨-, rfl⟩ := reserveRing_eq_some hb
  exact ⟨h.closed, h.held⟩

theorem record (hb : b.record n a = some b') : b'.Grounded := by
  obtain ⟨table, htable, rfl⟩ := Option.map_eq_some_iff.mp hb
  have hheld := h.held (by simp [htable])
  refine ⟨fun hc => ?_, fun _ => hheld⟩
  simpa [htable] using (h.closed hc).1

theorem create (hb : b.Create d env ok b') : b'.Grounded := by
  cases hb with
  | refused hbundle hinit =>
    obtain ⟨hrings, hrefs⟩ := h.closed hbundle
    simp only [initFromAccel] at hinit
    split_ifs at hinit <;> cases hinit
    · exact h
    · exact h
    · exact ⟨h.closed, h.held⟩
    · exact ⟨fun _ => ⟨rfl, hrefs⟩, fun hr => absurd rfl hr⟩
  | failed hopen => exact freeBundle_of_open (h.opened hopen.opened)
  | created hopen _ hreserve hrecord =>
    exact (of_open_succ ((h.opened hopen.opened).reserveRing hreserve)).record hrecord

theorem reinit (hb : b.Reinit d env old ok b') : b'.Grounded := by
  cases hb with
  | refused hbundle hinit =>
    refine (unreserveRing ?_ _ _).release _
    obtain ⟨-, hrefs⟩ := h.closed hbundle
    simp only [reinitFromAccel] at hinit
    split_ifs at hinit <;> cases hinit
    · exact h
    · exact h
    · exact ⟨fun _ => ⟨rfl, hrefs⟩, fun hr => absurd rfl hr⟩
  | failed hopen _ => exact ((of_open_succ (h.opened hopen.opened)).unreserveRing _ _).release _
  | reinitialised hopen _ hreserve hrecord =>
    exact ((of_open_succ (h.opened hopen.opened)).reserveRing hreserve).record hrecord

end

end Bank.Grounded

theorem banks_grounded (hs : (transport d).Reachable s) (nr : Nat) : (s.banks nr).Grounded := by
  refine banks_invariant Bank.Grounded ⟨fun _ => ⟨rfl, rfl⟩, fun hr => absurd rfl hr⟩ ?_ hs nr
  intro s e nr b hb _ heffect
  cases e with
  | create args env =>
    obtain ⟨-, ok, hcreate⟩ := heffect
    exact hb.create hcreate
  | reset a lock =>
    obtain ⟨-, rfl⟩ := heffect
    exact (hb.unreserveRing lock _).reset _
  | reinit a args env =>
    obtain ⟨-, -, ok, hreinit⟩ := heffect
    exact hb.reinit hreinit
  | release a lock =>
    obtain ⟨-, rfl⟩ := heffect
    exact (hb.unreserveRing lock _).release _
  | traffic => exact heffect ▸ hb

/-! ## Failed create calls -/

/-- What a create call that fails must not touch: the handle and its in-flight count, its ring and
    what is recorded about its bank. -/
structure DeviceState.Keeps (s s' : DeviceState) (a : Nat) : Prop where
  exists_ : a ∈ s'.handles
  handle : s'.handle a = s.handle a
  inFlight : s'.ringInflights (s.handle a).inFlight = s.ringInflights (s.handle a).inFlight
  buffer : ∀ v, (s.handle a).ringVirtAddr = some v → s'.buffer v = s.buffer v
  ringMask : (s'.banks (s.handle a).bankNum).ringMask = (s.banks (s.handle a).bankNum).ringMask
  rings : (s'.banks (s.handle a).bankNum).rings = (s.banks (s.handle a).bankNum).rings

/-- Opening a bank and giving it up again leaves its mask and its table. -/
theorem Bank.Grounded.create_failed (h : b.Grounded) (hb : b.Create d env false b') :
    b'.ringMask = b.ringMask ∧ b'.rings = b.rings := by
  cases hb with
  | refused hbundle hinit =>
    obtain ⟨hrings, -⟩ := h.closed hbundle
    simp only [Bank.initFromAccel] at hinit
    split_ifs at hinit <;> cases hinit <;> simp [hrings]
  | failed hopen =>
    rcases hopen with ⟨hbundle, he⟩ | ⟨hbundle, hinit⟩
    · rw [he]
      unfold Bank.freeBundle
      split
      · exact ⟨rfl, rfl⟩
      · next hrefs =>
        have hrings : b.rings = none := by
          by_contra hr
          have := h.held hr
          omega
        exact ⟨rfl, hrings.symm⟩
    · obtain ⟨hrings, hrefs⟩ := h.closed hbundle
      simp only [Bank.initFromAccel] at hinit
      split_ifs at hinit <;> cases hinit
      simp [Bank.freeBundle, hrefs, hrings]

/-- **A create call that fails leaves the handles that exist alone**, exactly when no message is in
    flight in the cell that the call clears, for any handle that uses it. -/
theorem create_failed_keeps_handles {d : Device} {s s' : DeviceState} {args : HandleArgs}
    {env : Answers} (hs : (transport d).Reachable s) (hfresh : env.Fresh s)
    (hcall : s.createHandle d args env = some (false, s')) :
    (∀ a ∈ s.handles, s.Keeps s' a) ↔ ∀ cell, s.clearedCell d args env = some cell →
      ∀ a ∈ s.handles, (s.handle a).inFlight = cell → s.ringInflights cell = 0 := by
  obtain ⟨⟨b, hbanks, hb⟩, hfailed⟩ := createHandle_spec hcall
  obtain ⟨hhandles, hhandle, hbuffer, hinflights⟩ := hfailed rfl
  obtain ⟨hmask, hrings⟩ := (banks_grounded hs args.bankNr).create_failed hb
  constructor
  · rintro hkeeps cell hcell a ha rfl
    have hkept := (hkeeps a ha).inFlight
    rw [hinflights, if_pos hcell] at hkept
    exact hkept.symm
  intro hzero a ha
  refine ⟨hhandles ▸ ha, hhandle a fun he => hfresh.1 a he ha, ?_, fun v _ => by rw [hbuffer], ?_, ?_⟩
  · rw [hinflights]
    split
    · next hcell => exact (hzero _ hcell a ha rfl).symm
    · rfl
  · rw [hbanks, update_apply]
    split
    · next he => rw [hmask, he]
    · rfl
  · rw [hbanks, update_apply]
    split
    · next he => rw [hrings, he]
    · rfl

/-- A device with 16 rings in a bank. -/
def sampleDevice : Device := ⟨16, Nat.le_refl 16⟩

def sampleIdle : DeviceState :=
  { banks := fun _ => empty
    ringInflights := fun _ => 0
    handles := []
    handle := fun _ => RingHandle.zero
    buffer := fun _ _ => 0 }

/-- A polled ring of 64 messages of 64 bytes on bank 0. -/
def samplePolled : HandleArgs := { bankNr := 0, resp := .poll, numMsgs := 64, msgSize := 64 }

/-- Everything is granted, for a handle at `a` on a configured ring. -/
def sampleGranted (a : Nat) (ring : Int) : Answers :=
  { bundle := true
    populate := true
    shadow := true
    ringTable := true
    cfgRing := some ring
    handle := some a
    names := true
    ringBuffer := some a
    phys := true
    reserveLock := true
    unreserveLock := true }

/-- A handle on ring 0 has been created, and one message put on its ring. -/
def sampleOneRing : List HandleEvent :=
  [.create samplePolled (sampleGranted 1 0), .traffic 1 0 64 1 1 fun _ => 0]

theorem sampleIdle_initial : (transport sampleDevice).Init sampleIdle := ⟨fun _ => rfl, rfl⟩

/-- A second create call for ring 0 fails since the ring is taken. -/
theorem create_failed_clears_in_flight :
    ∃ (d : Device) (s s' : DeviceState) (args : HandleArgs) (env : Answers) (a : Nat),
      (transport d).Reachable s ∧ env.Fresh s ∧ s.createHandle d args env = some (false, s') ∧
      a ∈ s.handles ∧ s.ringInflights (s.handle a).inFlight = 1 ∧
      s'.ringInflights (s.handle a).inFlight = 0 := by
  obtain ⟨s, hreach, hhandles, hfresh, hone, hcall⟩ := System.exists_reachable
    (S := transport sampleDevice) (P := fun s => s.handles = [1] ∧ (sampleGranted 2 0).Fresh s ∧
      s.ringInflights (s.handle 1).inFlight = 1 ∧
      (s.createHandle sampleDevice samplePolled (sampleGranted 2 0)).map (fun r =>
        (r.1, r.2.ringInflights (s.handle 1).inFlight)) = some (false, 0))
    sampleOneRing sampleIdle_initial (by decide +kernel)
  obtain ⟨⟨ok, s'⟩, hcall, hr⟩ := Option.map_eq_some_iff.mp hcall
  obtain ⟨rfl, hzero⟩ := Prod.mk.inj hr
  exact ⟨sampleDevice, s, s', samplePolled, sampleGranted 2 0, 1, hreach, hfresh, hcall,
    by simp [hhandles], hone, hzero⟩

/-- No memory for a ring of handle 3 on ring 8, the partner of ring 0. -/
def sampleNoBuffer : Answers := { sampleGranted 3 8 with ringBuffer := none }

/-- Handles on rings 0 and 1, the second with a message in flight. A create call for the partner of
    ring 0 gets no ring memory: it clears the cell of ring 0, in which nothing is in flight. -/
theorem create_failed_keeps_two_rings :
    ∃ s s' : DeviceState, (transport sampleDevice).Reachable s ∧ s.handles = [2, 1] ∧
      s.createHandle sampleDevice samplePolled sampleNoBuffer = some (false, s') ∧
      s.clearedCell sampleDevice samplePolled sampleNoBuffer = some (s.handle 1).inFlight ∧
      s.ringInflights (s.handle 2).inFlight = 1 ∧ s.Keeps s' 1 ∧ s.Keeps s' 2 := by
  obtain ⟨s, hreach, hhandles, hfresh, hone, hcleared, hzero, hcall⟩ := System.exists_reachable
    (S := transport sampleDevice) (P := fun s => s.handles = [2, 1] ∧ sampleNoBuffer.Fresh s ∧
      s.ringInflights (s.handle 2).inFlight = 1 ∧
      s.clearedCell sampleDevice samplePolled sampleNoBuffer = some (s.handle 1).inFlight ∧
      s.ringInflights (s.handle 1).inFlight = 0 ∧
      (s.createHandle sampleDevice samplePolled sampleNoBuffer).map Prod.fst = some false)
    [.create samplePolled (sampleGranted 1 0), .create samplePolled (sampleGranted 2 1),
      .traffic 2 0 64 1 1 fun _ => 0] sampleIdle_initial (by decide +kernel)
  obtain ⟨⟨ok, s'⟩, hcall, rfl⟩ := Option.map_eq_some_iff.mp hcall
  have hkeeps : ∀ a ∈ s.handles, s.Keeps s' a := by
    refine (create_failed_keeps_handles hreach hfresh hcall).mpr fun cell hcell _ _ _ => ?_
    obtain rfl := Option.some.inj (hcleared.symm.trans hcell)
    exact hzero
  exact ⟨s, s', hreach, hhandles, hcall, hcleared, hone, hkeeps 1 (by simp [hhandles]),
    hkeeps 2 (by simp [hhandles])⟩

/-! ## Counts -/

/-- What a bank says about its handles: the number of references, the mask and the bundle all agree
    with the table. -/
structure Bank.Counts (d : Device) (b : Bank) : Prop where
  refs : b.refs = b.recorded d
  ringMask : ∀ r, b.ringMask r = true ↔ (b.slot r).isSome
  bundle : b.bundle = true ↔ 0 < b.recorded d

/-- A call in order. The table of a fresh bank can be allocated; a handle that is reset or released
    is in the table, or the bank has none; a handle is reinitialised when neither its ring nor the
    one configured for it is in use; the lock can be taken to clear a mask bit. -/
def HandleEvent.Orderly (d : Device) (s : DeviceState) : HandleEvent → Prop
  | .create args env =>
      (s.banks args.bankNr).bundle = false → env.bundle = true → env.populate = true →
        env.shadow = true → env.ringTable = true
  | .reset a lock | .release a lock =>
      let b := s.banks (s.handle a).bankNum
      lock = true ∧ (b.slot (s.handle a).ringNum = some a ∨ b.rings = none)
  | .reinit a _ env =>
      let b := s.banks (s.handle a).bankNum
      env.unreserveLock = true ∧ b.slot (s.handle a).ringNum = none ∧
        ∀ ring ∈ cfgRing d env, b.slot ring = none
  | .traffic .. => True

instance (d : Device) (s : DeviceState) : (e : HandleEvent) → Decidable (e.Orderly d s)
  | .create _ _ => inferInstanceAs (Decidable (_ → _))
  | .reset _ _ | .release _ _ | .reinit _ _ _ => inferInstanceAs (Decidable (_ ∧ _))
  | .traffic .. => inferInstanceAs (Decidable True)

/-- `Counts` in the middle of a call, when a bank may have been opened for its first handle. -/
structure Bank.Agrees (d : Device) (b : Bank) : Prop where
  refs : b.refs = b.recorded d
  ringMask : ∀ r, b.ringMask r = true ↔ (b.slot r).isSome
  inRange : ∀ r, (b.slot r).isSome → r < d.maxNumRingsPerBank
  table : b.rings ≠ none ↔ b.bundle = true

/-- `Counts` between calls. -/
structure Bank.Settled (d : Device) (b : Bank) : Prop extends Bank.Agrees d b where
  used : b.bundle = true → 0 < b.recorded d

section Counting

variable {d : Device} {env : Answers} {b b' : Bank}

theorem Bank.recorded_eq_zero (hrange : ∀ r, (b.slot r).isSome → r < d.maxNumRingsPerBank) :
    b.recorded d = 0 ↔ ∀ r, b.slot r = none := by
  rw [recorded, Finset.card_eq_zero, Finset.filter_eq_empty_iff]
  constructor
  · intro h r
    by_contra hr
    have hsome : (b.slot r).isSome := Option.isSome_iff_ne_none.mpr hr
    exact h (Finset.mem_range.mpr (hrange r hsome)) hsome
  · intro h r _
    simp [h r]

theorem Bank.recorded_congr (h : ∀ r, b'.slot r = b.slot r) : b'.recorded d = b.recorded d := by
  simp only [recorded, h]

theorem Bank.recorded_insert (hn : n < d.maxNumRingsPerBank) (hfree : b.slot n = none)
    (h : ∀ r, b'.slot r = if r = n then some a else b.slot r) :
    b'.recorded d = b.recorded d + 1 := by
  have hslot : b'.slot = update b.slot n (some a) := by
    funext r
    rw [h r, update_apply]
  rw [recorded, hslot]
  exact filled_update_some hn hfree a

theorem Bank.recorded_erase (hn : n < d.maxNumRingsPerBank) (hused : (b.slot n).isSome)
    (h : ∀ r, b'.slot r = if r = n then none else b.slot r) : b'.recorded d + 1 = b.recorded d := by
  have hslot : b'.slot = update b.slot n none := by
    funext r
    rw [h r, update_apply]
  rw [recorded, hslot]
  exact filled_update_none hn hused

theorem Bank.Settled.counts (h : b.Settled d) : b.Counts d := by
  refine ⟨h.refs, h.ringMask, h.used, fun hpos => ?_⟩
  obtain ⟨r, hr⟩ := Finset.card_pos.mp hpos
  refine h.table.mp fun hnone => ?_
  simp [slot, hnone] at hr

namespace Bank.Agrees

variable (h : b.Agrees d)
include h

/-- A bank without a bundle records nothing. -/
theorem slot_of_closed (hbundle : b.bundle = false) (r : Nat) : b.slot r = none := by
  have hrings : b.rings = none := by
    by_contra hr
    exact absurd (h.table.mp hr) (by simp [hbundle])
  simp [slot, hrings]

/-- Giving up the bundle when the last reference is gone. -/
theorem close (hrefs : b.refs = 0) (shadow : Bool) :
    { b with rings := none, bundle := false, csrAddrShadow := shadow }.Settled d := by
  have hzero : b.recorded d = 0 := by
    have := h.refs
    omega
  have hslots := (recorded_eq_zero h.inRange).mp hzero
  have hnone (r : Nat) :
      ({ b with rings := none, bundle := false, csrAddrShadow := shadow } : Bank).slot r = none :=
    rfl
  refine ⟨⟨?_, fun r => ?_, fun r hr => ?_, by simp⟩, by simp⟩
  · rw [(recorded_eq_zero fun r hr => by simp [hnone r] at hr).mpr hnone]
    exact hrefs
  · rw [hnone, h.ringMask, hslots]
  · simp [hnone r] at hr

theorem freeBundle : b.freeBundle.Settled d := by
  unfold Bank.freeBundle
  split
  · next hrefs =>
    refine ⟨h, fun _ => ?_⟩
    have := h.refs
    omega
  · next hrefs => exact h.close (by simpa using hrefs) false

theorem cleanBundle : b.cleanBundle.Settled d := by
  unfold Bank.cleanBundle
  split
  · next hrefs => exact h.close hrefs b.csrAddrShadow
  · next hrefs =>
    refine ⟨h, fun _ => ?_⟩
    have := h.refs
    omega

/-- `Agrees` speaks of the slots, the mask and the count only. -/
theorem congr (hslot : ∀ r, b'.slot r = b.slot r) (hmask : ∀ r, b'.ringMask r = b.ringMask r)
    (hrefs : b'.refs = b.refs) (htable : b'.rings ≠ none ↔ b'.bundle = true) : b'.Agrees d := by
  refine ⟨?_, fun r => ?_, fun r hr => h.inRange r (hslot r ▸ hr), htable⟩
  · rw [recorded_congr hslot, hrefs, h.refs]
  · rw [hslot, hmask, h.ringMask]

theorem clear (htable : b.rings = some table) (n : Nat) {refs : Int}
    (hrefs : refs + (if (b.slot n).isSome then 1 else 0) = b.refs) :
    { b with
      rings := some (update table n none)
      ringMask := update b.ringMask n false
      refs := refs }.Agrees d := by
  set c : Bank := { b with
    rings := some (update table n none)
    ringMask := update b.ringMask n false
    refs := refs } with hc
  have hslot (r : Nat) : c.slot r = if r = n then none else b.slot r := by
    simp [hc, slot, htable, update_apply]
  refine ⟨?_, fun r => ?_, fun r hr => ?_, by simp [hc, ← h.table, htable]⟩
  · have hb := h.refs
    split at hrefs
    · next hused =>
      have := recorded_erase (h.inRange n hused) hused hslot
      show refs = _
      omega
    · next hfree =>
      have hsame (r : Nat) : c.slot r = b.slot r := by
        rw [hslot]
        split
        · next hr => simpa [hr] using Eq.symm (by simpa using hfree : b.slot n = none)
        · rfl
      show refs = _
      rw [recorded_congr hsame]
      omega
  · rw [hslot]
    by_cases hr : r = n
    · simp [hc, hr]
    · simpa [hc, hr] using h.ringMask r
  · rw [hslot] at hr
    split at hr
    · simp at hr
    · exact h.inRange r hr

theorem unreserveRing (hfree : b.slot n = none) (lock : Bool) :
    (b.unreserveRing lock n).Agrees d := by
  unfold Bank.unreserveRing
  split
  · exact h
  refine h.congr (fun _ => rfl) (fun r => ?_) rfl h.table
  by_cases hr : r = n
  · have hmask : b.ringMask n = false := by simpa [hfree] using h.ringMask n
    simp [hr, hmask]
  · exact update_of_ne hr _ _

/-- What a reset or a release of a handle in order does to the table. -/
theorem drop (htable : b.rings = some table) (hin : b.slot n = some a) :
    { b.unreserveRing true n with
      rings := some (update table n none)
      refs := (b.unreserveRing true n).refs - 1 }.Agrees d :=
  h.clear htable n (by simp [hin, Bank.unreserveRing])

end Bank.Agrees

/-- Releasing or resetting a handle that is in its table, or in a bank without one. -/
theorem Bank.Settled.release_reset (h : b.Settled d) (hin : b.slot n = some a ∨ b.rings = none) :
    ((b.unreserveRing true n).release n).Settled d ∧
      ((b.unreserveRing true n).reset n).Settled d := by
  have hrings : (b.unreserveRing true n).rings = b.rings := rfl
  unfold Bank.release Bank.reset
  cases htable : b.rings with
  | none =>
    have hfree := h.toAgrees.unreserveRing (n := n) (by simp [Bank.slot, htable]) true
    simp only [hrings, htable]
    exact ⟨hfree.freeBundle, hfree, h.used⟩
  | some table =>
    have hdrop := h.toAgrees.drop htable (hin.resolve_right (by simp [htable]))
    simp only [hrings, htable]
    exact ⟨hdrop.freeBundle, hdrop.cleanBundle⟩

theorem Bank.Agrees.fresh (h : b.Agrees d) (hbundle : b.bundle = false) (shadow : Bool) :
    { b with bundle := true, rings := some fun _ => none, csrAddrShadow := shadow }.Agrees d := by
  refine h.congr (fun r => ?_) (fun _ => rfl) rfl (by simp)
  rw [h.slot_of_closed hbundle]
  rfl

/-- A bank that was opened, for the first time or after a device error. -/
theorem Bank.Agrees.opened (h : b.Agrees d) (hopen : b.Opened b') :
    b'.Agrees d ∧ b'.bundle = true ∧ ∀ r, b'.slot r = b.slot r := by
  rcases hopen with ⟨hbundle, rfl⟩ | ⟨hbundle, shadow, rfl⟩
  · exact ⟨h, hbundle, fun _ => rfl⟩
  · exact ⟨h.fresh hbundle shadow, rfl, fun r => (h.slot_of_closed hbundle r).symm⟩

/-- A handle is recorded on a ring that was free, with a reference taken before or after the
    reservation. -/
theorem Bank.Agrees.record (h : b.Agrees d) (hn : n < d.maxNumRingsPerBank)
    (hfree : b.ringMask n = false)
    (hb : { b with refs := b.refs + 1, ringMask := update b.ringMask n true }.record n a
      = some b') : b'.Settled d := by
  obtain ⟨table, htable, rfl⟩ := Option.map_eq_some_iff.mp hb
  have htable : b.rings = some table := htable
  have hempty : b.slot n = none := by
    by_contra hs
    have := (h.ringMask n).mpr (Option.isSome_iff_ne_none.mpr hs)
    simp [hfree] at this
  set c : Bank := { b with
    rings := some (update table n (some a))
    ringMask := update b.ringMask n true
    refs := b.refs + 1 } with hc
  have hslot (r : Nat) : c.slot r = if r = n then some a else b.slot r := by
    simp [hc, slot, htable, update_apply]
  have hrecorded := recorded_insert hn hempty hslot
  have hrefs := h.refs
  refine ⟨⟨?_, fun r => ?_, fun r hr => ?_, by simp [hc, ← h.table, htable]⟩, fun _ => ?_⟩
  · show b.refs + 1 = ((c.recorded d : Nat) : Int)
    omega
  · show c.ringMask r = true ↔ (c.slot r).isSome
    rw [hslot]
    by_cases hr : r = n
    · simp [hc, hr]
    · simpa [hc, hr] using h.ringMask r
  · have hr : (c.slot r).isSome := hr
    rw [hslot] at hr
    split at hr
    · next he => exact he ▸ hn
    · exact h.inRange r hr
  · show 0 < c.recorded d
    omega

/-- A reinit call that gets no bundle leaves the bank. -/
theorem Bank.reinitFromAccel_refused (hbundle : b.bundle = false) (hrings : b.rings = none)
    (hinit : b.reinitFromAccel env = some (false, b')) : b' = b := by
  cases b
  simp only [reinitFromAccel] at hinit
  split_ifs at hinit <;> cases hinit
  · rfl
  · rfl
  · simp_all

/-- The release at the end of a failed reinit call gives back the reference taken at its start. -/
theorem Bank.Agrees.release_failed (h : b.Agrees d) (hbundle : b.bundle = true)
    (hlock : lock = true) (hfree : b.slot n = none) :
    (({ b with refs := b.refs + 1 }.unreserveRing lock n).release n).Settled d := by
  obtain ⟨table, htable⟩ := Option.ne_none_iff_exists'.mp (h.table.mpr hbundle)
  have hrings : ({ b with refs := b.refs + 1 }.unreserveRing lock n).rings = some table := by
    simpa [Bank.unreserveRing, hlock] using htable
  unfold Bank.release
  simp only [hrings]
  subst hlock
  exact (h.clear htable n (by simp [hfree, Bank.unreserveRing])).freeBundle

theorem Bank.Settled.create (h : b.Settled d) (hb : b.Create d env ok b')
    (hok : b.bundle = false → env.bundle = true → env.populate = true → env.shadow = true →
      env.ringTable = true) : b'.Settled d := by
  cases hb with
  | refused hbundle hinit =>
    simp only [initFromAccel] at hinit
    split_ifs at hinit with hget hpop hshadow htable <;> cases hinit
    · exact h
    · exact h
    · exact ⟨⟨h.refs, h.ringMask, h.inRange, h.table⟩, h.used⟩
    · have := hok hbundle (by simpa using hget) (by simpa using hpop) (by simpa using hshadow)
      simp [this] at htable
  | failed hopen => exact (h.toAgrees.opened hopen.opened).1.freeBundle
  | created hopen hring hreserve hrecord =>
    obtain ⟨hfree, rfl⟩ := reserveRing_eq_some hreserve
    exact (h.toAgrees.opened hopen.opened).1.record hring hfree hrecord

theorem Bank.Settled.reinit (h : b.Settled d) (hb : b.Reinit d env old ok b')
    (hlock : env.unreserveLock = true) (hold : b.slot old = none)
    (hcfg : ∀ ring ∈ cfgRing d env, b.slot ring = none) : b'.Settled d := by
  cases hb with
  | refused hbundle hinit =>
    have hrings : b.rings = none := by simpa [hbundle] using h.table
    rw [reinitFromAccel_refused hbundle hrings hinit, hlock]
    exact (h.release_reset (a := 0) (.inr hrings)).1
  | failed hopen hring =>
    obtain ⟨hagrees, hbundle, hslots⟩ := h.toAgrees.opened hopen.opened
    exact hagrees.release_failed hbundle hlock
      ((hslots _).trans (hring.elim (fun he => he ▸ hold) fun he => hcfg _ he))
  | reinitialised hopen hring hreserve hrecord =>
    obtain ⟨hfree, rfl⟩ := reserveRing_eq_some hreserve
    exact (h.toAgrees.opened hopen.opened).1.record hring hfree hrecord

end Counting

/-- **A bank agrees with its table** in every run of calls in order. -/
theorem bank_counts_handles {d : Device} {s : DeviceState}
    (hs : (transport d).ReachableBy (HandleEvent.Orderly d) s) (nr : Nat) :
    (s.banks nr).Counts d := by
  have hempty : empty.Settled d := by
    have hzero : empty.recorded d = 0 :=
      (recorded_eq_zero fun r hr => by simp [slot, empty] at hr).mpr fun _ => rfl
    refine ⟨⟨by rw [hzero]; rfl, ?_, ?_, ?_⟩, ?_⟩ <;> simp [empty, slot]
  refine (banks_invariant (Bank.Settled d) hempty ?_ hs nr).counts
  intro s e nr b hb hok heffect
  cases e with
  | create args env =>
    obtain ⟨rfl, ok, hcreate⟩ := heffect
    exact hb.create hcreate hok
  | reset a lock =>
    obtain ⟨rfl, rfl⟩ := heffect
    obtain ⟨rfl, hin⟩ := hok
    exact (hb.release_reset hin).2
  | reinit a args env =>
    obtain ⟨rfl, -, ok, hreinit⟩ := heffect
    obtain ⟨hlock, hold, hcfg⟩ := hok
    exact hb.reinit hreinit hlock hold hcfg
  | release a lock =>
    obtain ⟨rfl, rfl⟩ := heffect
    obtain ⟨rfl, hin⟩ := hok
    exact (hb.release_reset hin).1
  | traffic => exact heffect ▸ hb

/-- Two handles are created on rings 0 and 1; the first is reset and reinitialised. -/
theorem bank_counts_two_handles :
    ∃ s, (transport sampleDevice).ReachableBy (HandleEvent.Orderly sampleDevice) s ∧
      (s.banks 0).refs = 2 ∧ (s.banks 0).Counts sampleDevice := by
  exact System.exists_reachableBy (P := fun s => (s.banks 0).refs = 2)
    [.create samplePolled (sampleGranted 1 0), .create samplePolled (sampleGranted 2 1),
      .reset 1 true, .reinit 1 samplePolled (sampleGranted 3 0)] sampleIdle_initial
    (by decide +kernel) fun s hreach hrefs => ⟨hrefs, bank_counts_handles hreach 0⟩

/-- Out of order: no memory for the table of a fresh bank leaves a bundle without handles, and a
    handle that is released after it was reset takes the table away from another one, whose mask
    bit stays. -/
theorem bank_counts_lost :
    (∃ s, (transport sampleDevice).Reachable s ∧ (s.banks 0).bundle = true ∧
      (s.banks 0).recorded sampleDevice = 0) ∧
    ∃ s, (transport sampleDevice).Reachable s ∧ (s.banks 0).ringMask 1 = true ∧
      (s.banks 0).slot 1 = none ∧ 2 ∈ s.handles := by
  constructor
  · exact System.exists_reachable
      [.create samplePolled { sampleGranted 1 0 with ringTable := false }] sampleIdle_initial
      (by decide +kernel)
  · exact System.exists_reachable
      [.create samplePolled (sampleGranted 1 0), .create samplePolled (sampleGranted 2 1),
        .reset 1 true, .release 1 true] sampleIdle_initial (by decide +kernel)

end Qatlib.Transport
