import Mathlib.Data.Nat.Prime.Basic
import Qatlib.Transport.HandleAccounting

set_option autoImplicit false

/-! # The size of a ring

What a create call makes of the number and the size of the messages it is asked for. The in-flight
guard of the put functions counts messages and never looks at the ring, so it is enough only on a
ring with a slot for every message it lets through. -/

namespace Qatlib.Transport

/-! ## Numbers of concurrent requests -/

/-- The loop of `validateConcurrRequest`, from `baseReq` on. -/
def nextBaseReq (numConcurrRequests : Nat) : Nat → Nat → Nat
  | 0, baseReq => baseReq
  | fuel + 1, baseReq =>
      if 65536 ≥ baseReq then
        if baseReq ≠ numConcurrRequests then nextBaseReq numConcurrRequests fuel (baseReq <<< 1)
        else baseReq
      else baseReq

/-- `validateConcurrRequest`: the numbers of concurrent requests an instance may be configured
    with. The loop doubles `baseReq` at most eleven times. -/
def validateConcurrRequest (numConcurrRequests : Nat) : Bool :=
  if 64 > numConcurrRequests then false
  else if 65536 < nextBaseReq numConcurrRequests 11 64 then false
  else true

theorem nextBaseReq_le_iff {n fuel k : Nat} (hfuel : k + fuel = 17) :
    nextBaseReq n fuel (2 ^ k) ≤ 65536 ↔ ∃ j, k ≤ j ∧ j ≤ 16 ∧ n = 2 ^ j := by
  induction fuel generalizing k with
  | zero =>
    obtain rfl : k = 17 := hfuel
    exact ⟨fun h => absurd h (by simp [nextBaseReq]), fun ⟨j, hk, hj, _⟩ => by omega⟩
  | succ fuel ih =>
    have hle : 2 ^ k ≤ 65536 := Nat.pow_le_pow_right (by decide) (show k ≤ 16 by omega)
    rw [nextBaseReq, if_pos hle, Nat.shiftLeft_eq, ← Nat.pow_succ]
    split
    · next hne =>
      rw [ih (by omega)]
      constructor
      · rintro ⟨j, hk, hj, rfl⟩
        exact ⟨j, by omega, hj, rfl⟩
      · rintro ⟨j, hk, hj, rfl⟩
        have hjk : k ≠ j := fun h => hne (h ▸ rfl)
        exact ⟨j, by omega, hj, rfl⟩
    · next heq => exact ⟨fun _ => ⟨k, Nat.le_refl k, by omega, (not_not.mp heq).symm⟩, fun _ => hle⟩

/-- The configuration check lets through the powers of two from 64 to 65536. -/
theorem validateConcurrRequest_iff (n : Nat) :
    validateConcurrRequest n = true ↔ ∃ j, 6 ≤ j ∧ j ≤ 16 ∧ n = 2 ^ j := by
  have hloop := @nextBaseReq_le_iff n 11 6 rfl
  rw [← hloop]
  unfold validateConcurrRequest
  split
  · next hsmall =>
    refine ⟨fun h => absurd h (by simp), fun h => ?_⟩
    obtain ⟨j, hj, -, rfl⟩ := hloop.mp h
    have hge : 2 ^ 6 ≤ 2 ^ j := Nat.pow_le_pow_right (by decide) hj
    omega
  · split
    · next hlt => exact ⟨fun h => absurd h (by simp), fun h => absurd hlt (Nat.not_lt.mpr h)⟩
    · next hle => exact ⟨fun _ => Nat.not_lt.mp hle, fun _ => rfl⟩

/-! ## Sound rings -/

/-- A ring on which the in-flight guard is enough: a message `n` that it lets through, with message
    `i` still in flight, goes to another slot. -/
structure RingConfig.Sound (c : RingConfig) : Prop where
  bytes : c.ringSize = 2 ^ c.modulo
  divides : c.messageSize ∣ c.ringSize
  holds : c.maxRequestsInflight + 1 ≤ c.ringSize / c.messageSize
  noLap : ∀ {i n : Nat}, i < n → n - i ≤ c.maxRequestsInflight →
    BlocksDisjoint (slotOffset c.messageSize c.ringSize i) c.messageSize
      (slotOffset c.messageSize c.ringSize n) c.messageSize

/-- The first three conditions give the last. -/
theorem RingConfig.Sound.of_holds {c : RingConfig} (hbytes : c.ringSize = 2 ^ c.modulo)
    (hdvd : c.messageSize ∣ c.ringSize)
    (hholds : c.maxRequestsInflight + 1 ≤ c.ringSize / c.messageSize) : c.Sound :=
  ⟨hbytes, hdvd, hholds, fun hin hguard => slots_disjoint hdvd hin (by omega)⟩

/-- The largest ring has 4 MB, the default one 16 KB. -/
theorem Fits.of_sound {numMsgs msgSize : Nat} (hpos : 0 < numMsgs) (hlt : numMsgs < 2 ^ 32)
    (h : (adfInitRing numMsgs msgSize).Sound) : Fits numMsgs msgSize := by
  have hshift := (adfInitRing_bytes numMsgs msgSize).mp h.bytes
  have hdvd : msgSize ∣ 2 ^ (adfInitRing numMsgs msgSize).modulo := h.bytes ▸ h.divides
  obtain ⟨k, -, hk⟩ := (Nat.dvd_prime_pow Nat.prime_two).mp hdvd
  have hsize : 0 < msgSize := hk ▸ Nat.two_pow_pos k
  have hle : numMsgs * msgSize ≤ 2 ^ (adfInitRing numMsgs msgSize).modulo := by
    have hholds : (numMsgs + 2 ^ 32 - 1) % 2 ^ 32 + 1 ≤
        (adfInitRing numMsgs msgSize).ringSize / msgSize := h.holds
    rw [h.bytes] at hholds
    exact (Nat.le_div_iff_mul_le hsize).mp (by omega)
  refine ⟨⟨k, hk⟩, hle.trans (Nat.pow_le_pow_right (by decide) hshift), fun hsmall => ?_⟩
  have hmod : modulo msgSize 4 ≠ 0 := by
    rw [modulo_eq]
    omega
  have hdefault : (adfInitRing numMsgs msgSize).modulo = 14 := by
    simp only [adfInitRing, validateRingSize]
    rw [if_pos (.inr (.inr hmod))]
  rwa [hdefault] at hle

theorem adfInitRing_sound_iff {numMsgs : Nat} (hlt : numMsgs < 2 ^ 32) (msgSize : Nat) :
    (adfInitRing numMsgs msgSize).Sound ↔ 0 < numMsgs ∧ Fits numMsgs msgSize := by
  constructor
  · intro h
    have hpos : 0 < numMsgs := by
      refine Nat.pos_of_ne_zero ?_
      rintro rfl
      -- `num_msgs - 1` is the largest 32-bit number
      have hshift := (adfInitRing_bytes 0 msgSize).mp h.bytes
      have hle : (0 + 2 ^ 32 - 1) % 2 ^ 32 + 1 ≤ (adfInitRing 0 msgSize).ringSize / msgSize :=
        h.holds
      have hring := hle.trans (Nat.div_le_self _ _)
      rw [h.bytes] at hring
      have hmax : 2 ^ (adfInitRing 0 msgSize).modulo ≤ 2 ^ 22 :=
        Nat.pow_le_pow_right (by decide) hshift
      omega
    exact ⟨hpos, Fits.of_sound hpos hlt h⟩
  · rintro ⟨hpos, hfits⟩
    obtain ⟨hbytes, hdvd, hholds⟩ := adfInitRing_geometry hfits hpos
    refine .of_holds hbytes hdvd ?_
    have hinflight : (adfInitRing numMsgs msgSize).maxRequestsInflight + 1 = numMsgs := by
      simp only [adfInitRing]
      omega
    rw [hinflight]
    exact hholds

/-! ## Create calls -/

section Create

variable {d : Device} {s s' : DeviceState} {args : HandleArgs} {env : Answers}

theorem DeviceState.initRing_config {a ring : Nat} (h : s.initRing a args ring env = some s') :
    (s'.handle a).config = adfInitRing args.numMsgs args.msgSize := by
  unfold DeviceState.initRing at h
  split at h
  · simp at h
  · obtain ⟨-, h⟩ := Option.ite_none_left_eq_some.mp h
    obtain ⟨b, -, rfl⟩ := Option.map_eq_some_iff.mp h
    simp [DeviceState.setHandle, DeviceState.setBank]

theorem DeviceState.finishCreate_config {a ring : Nat}
    (h : s.finishCreate d a args ring env = some (true, s')) :
    a ∈ s'.handles ∧ (s'.handle a).config = adfInitRing args.numMsgs args.msgSize := by
  unfold DeviceState.finishCreate at h
  dsimp only at h
  split at h
  · simp at h
  split at h
  · simp at h
  next s₁ hinit =>
  have hconfig := DeviceState.initRing_config hinit
  obtain ⟨b, -, hs'⟩ := Option.map_eq_some_iff.mp h
  obtain ⟨-, rfl⟩ := Prod.mk.inj hs'
  exact ⟨List.mem_cons_self, hconfig⟩

/-- A create call that succeeds has filled the memory it was given for the handle. -/
theorem DeviceState.createHandle_config (h : s.createHandle d args env = some (true, s')) :
    ∃ a ∈ s'.handles, env.handle = some a ∧
      (s'.handle a).config = adfInitRing args.numMsgs args.msgSize := by
  unfold DeviceState.createHandle at h
  dsimp only at h
  split at h
  · simp at h
  split at h
  · simp at h
  next a ring hchosen =>
  obtain ⟨hmem, hconfig⟩ := DeviceState.finishCreate_config h
  exact ⟨a, hmem, (chosen_eq hchosen).2, hconfig⟩

end Create

/-- **The rings a create call makes**: the new handle's ring is one on which the in-flight guard is
    enough, exactly when there are messages and they fit. -/
theorem createHandle_sound_iff {d : Device} {s s' : DeviceState} {args : HandleArgs} {env : Answers}
    {a : Nat} (hcreate : s.createHandle d args env = some (true, s')) (ha : env.handle = some a)
    (hmsgs : args.numMsgs < 2 ^ 32) :
    (s'.handle a).config.Sound ↔ 0 < args.numMsgs ∧ Fits args.numMsgs args.msgSize := by
  obtain ⟨a', -, ha', hconfig⟩ := DeviceState.createHandle_config hcreate
  obtain rfl : a = a' := Option.some.inj (ha.symm.trans ha')
  rw [hconfig]
  exact adfInitRing_sound_iff hmsgs args.msgSize

/-- 64 messages of 128 bytes. -/
theorem createHandle_sound_small :
    ∃ s', sampleIdle.createHandle sampleDevice { samplePolled with numMsgs := 64, msgSize := 128 }
        (sampleGranted 1 0) = some (true, s') ∧
      (s'.handle 1).config.Sound := by
  have hok : ((sampleIdle.createHandle sampleDevice
      { samplePolled with numMsgs := 64, msgSize := 128 } (sampleGranted 1 0)).map Prod.fst) =
        some true := by decide +kernel
  obtain ⟨⟨ok, s'⟩, hcreate, rfl⟩ := Option.map_eq_some_iff.mp hok
  have hfits : Fits 64 128 := ⟨⟨7, rfl⟩, by decide, by decide⟩
  exact ⟨s', hcreate, (createHandle_sound_iff hcreate rfl (by decide)).mpr ⟨by decide, hfits⟩⟩

/-- The largest number of requests that the configuration check lets through does not fit for
    requests of 128 bytes: the guard admits 65535 messages to a ring of 32768 slots. -/
theorem createHandle_unsound_large :
    validateConcurrRequest 65536 = true ∧ ∃ s', sampleIdle.createHandle sampleDevice
          { samplePolled with numMsgs := 65536, msgSize := 128 } (sampleGranted 1 0) =
            some (true, s') ∧
        (s'.handle 1).config.maxRequestsInflight = 65535 ∧
        (s'.handle 1).config.ringSize / (s'.handle 1).config.messageSize = 32768 ∧
        ¬(s'.handle 1).config.Sound := by
  refine ⟨by decide, ?_⟩
  have hok : ((sampleIdle.createHandle sampleDevice
      { samplePolled with numMsgs := 65536, msgSize := 128 } (sampleGranted 1 0)).map
        fun r => (r.1, (r.2.handle 1).config.maxRequestsInflight,
          (r.2.handle 1).config.ringSize / (r.2.handle 1).config.messageSize)) =
        some (true, 65535, 32768) := by decide +kernel
  obtain ⟨⟨ok, s'⟩, hcreate, h⟩ := Option.map_eq_some_iff.mp hok
  simp only [Prod.mk.injEq] at h
  obtain ⟨rfl, hmax, hslots⟩ := h
  refine ⟨s', hcreate, hmax, hslots, fun hsound => ?_⟩
  have hholds := hsound.holds
  omega

end Qatlib.Transport
