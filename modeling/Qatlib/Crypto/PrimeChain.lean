import Qatlib.Crypto.PrimeTest

set_option autoImplicit false

/-! # The chain that a prime test sends

The requests of the chain are those that the client selected, in order, and the device finds the
candidate and the random numbers as their arguments. The invariant of the loops says so of the
requests created so far, and that no entry of the alignment pool that is still to be handed out
touches what these requests point to. -/

namespace Qatlib.Crypto

open PrimeTestOpData FlatBuffer

open Memory (Apart Frame)

/-! ## What is asked for -/

/-- The number that the device finds as an argument. -/
def PkeArg.value (x : PkeArg) (m : Memory) : Nat := beValue (m.read x.ptr x.param.workingLen)

namespace PrimeTestOpData

variable (opData : PrimeTestOpData) (m : Memory)

/-- The requests a client selects: tests, and the numbers of their rounds. -/
def requests : List (PrimeTest × Nat) :=
  (if opData.performGcdTest then [(.gcd, 1)] else []) ++
    ((if opData.performFermatTest then [(.fermat, 1)] else []) ++
      ((List.range' 1 opData.numMillerRabinRounds.toNat).map (Prod.mk .millerRabin) ++
        if opData.performLucasTest then [(.lucas, 1)] else []))

def candidate : Nat := beValue (opData.primeCandidate.bytes m)

def bitLength : Nat := Nat.size (opData.candidate m)

/-- The random numbers lie one after the other, each in 64 bytes or in as many as the candidate
    needs. -/
def randomSize : Nat := max 64 ((opData.bitLength m + 7) / 8)

def random (round : Nat) : Nat :=
  beValue (m.read (opData.millerRabinRandomInput.pData + (round - 1) * opData.randomSize m)
    (opData.randomSize m))

/-- The arguments of a request, in the order of the firmware's structures. -/
def arguments : PrimeTest × Nat → List Nat
  | (.millerRabin, round) => [opData.random m round, opData.candidate m]
  | _ => [opData.candidate m]

end PrimeTestOpData

/-- A request makes a round of a test on the client's numbers in `m`; the device finds its arguments
    in `m'`. -/
structure Tests (opData : PrimeTestOpData) (m m' : Memory) (t : PrimeTest × Nat) (c : PkeReq) :
    Prop where
  function : t.1.FunctionFor (opData.bitLength m) c.functionalityId
  arguments : c.inputs.map (PkeArg.value · m') = opData.arguments m t
  sizes : ∀ x ∈ c.inputs, x.param.workingLen = (t.1.opBytes (UInt32.ofNat (opData.bitLength m))).toNat
  outputs : c.outputs = []

/-- The entries of the alignment pool, of 1024 bytes, are apart from each other and from the client's
    buffers. -/
structure PrimeLayout (opData : PrimeTestOpData) (s : BufferState) : Prop where
  separate : s.entries.Pairwise fun w w' => Apart w 1024 w' 1024
  candidate : ∀ w ∈ s.entries,
    Apart opData.primeCandidate.pData opData.primeCandidate.dataLenInBytes.toNat w 1024
  randoms : ∀ w ∈ s.entries,
    Apart opData.millerRabinRandomInput.pData opData.millerRabinRandomInput.dataLenInBytes.toNat w 1024

/-! ## One request -/

/-- No entry that is still to be handed out touches the bytes. -/
def Spared (s : BufferState) (a n : Nat) : Prop := ∀ w ∈ s.entries, Apart a n w 1024

section Request

variable {s s' : BufferState} {bs : List BufferParam} {xs : List PkeArg} {used : List Nat} {a n : Nat}

section

variable (hr : Resize 1024 s bs xs s' used)
include hr

theorem Resize.spared (h : Spared s a n) : Spared s' a n := by
  intro w hw
  apply h w
  rw [hr.entries]
  exact List.mem_append_right used hw

theorem Resize.read_spared (h : Spared s a n) : s'.mem.read a n = s.mem.read a n := by
  apply hr.frame
  intro r hmap
  obtain ⟨w, hw, rfl⟩ := List.mem_map.mp hmap
  exact h w (hr.mem_entries hw)

/-- What the device is given is not touched by later requests. -/
theorem Resize.spared_arg (hlaid : Laid 1024 s.entries bs) {x : PkeArg} (hx : x ∈ xs) :
    Spared s' x.ptr x.param.workingLen := by
  have hparam : x.param ∈ bs := by
    rw [← hr.params]
    exact List.mem_map_of_mem hx
  intro w hw
  have hentry : w ∈ s.entries := by
    rw [hr.entries]
    exact List.mem_append_right used hw
  rcases hr.placed x hx with ⟨hpad, hptr⟩ | ⟨-, hin⟩
  · have hle := BufferParam.userLen_le (hlaid.argLen_lt hparam)
    have hlen : x.param.workingLen = x.param.userLen := by
      have hsub : x.param.workingLen - x.param.userLen = 0 := hpad
      omega
    rw [hptr, hlen]
    exact hlaid.user hparam hentry
  · have hseparate := hlaid.separate
    rw [hr.entries, List.pairwise_append] at hseparate
    exact (hseparate.2.2 x.ptr hin w hw).mono (Nat.le_refl _)
      (Nat.add_le_add_left (hlaid.workingLen_le hparam) _) (Nat.le_refl w) (Nat.le_refl _)

end

/-- A request whose parameters have room for their numbers gives these numbers to the device. -/
theorem createRequest_values {chain : List PkeReq} {r : ReqSpec}
    (hlaid : Laid 1024 s.entries r.inputs) (houtputs : r.outputs = [])
    (hfit : ∀ b ∈ r.inputs, beValue (s.mem.read b.pData b.dataLen) < 256 ^ b.argLen)
    (hok : (createRequest s chain r).1 = true) :
    ∃ c used, c.functionalityId = r.functionalityId ∧ c.outputs = [] ∧
      (createRequest s chain r).2.1 = chain ++ [c] ∧
      Resize 1024 s r.inputs c.inputs (createRequest s chain r).2.2 used ∧
      c.inputs.map (PkeArg.value · (createRequest s chain r).2.2.mem) =
        r.inputs.map fun b => beValue (s.mem.read b.pData b.dataLen) := by
  obtain ⟨c, hmade, hchain, hresize⟩ := createRequest_ok hok
  have hnone : c.outputs = [] := by
    have houts := hmade.outputs
    rw [houtputs] at houts
    exact List.map_eq_nil_iff.mp houts
  have hparams : r.params = r.inputs := by rw [ReqSpec.params, houtputs, List.append_nil]
  rw [hparams, hnone, List.append_nil] at hresize
  obtain ⟨used, hr⟩ := resizeEach_ok hlaid (by rw [hresize])
  rw [hresize] at hr
  refine ⟨c, used, hmade.functionalityId, hnone, hchain, hr, ?_⟩
  rw [← hmade.inputs, List.map_map]
  apply List.map_congr_left
  intro x hx
  have hparam : x.param ∈ r.inputs := by
    rw [← hmade.inputs]
    exact List.mem_map_of_mem hx
  show beValue _ = beValue _
  rw [hr.given x hx, x.param.given_value, Nat.mod_eq_of_lt (hfit x.param hparam)]

end Request

/-! ## The loops -/

/-- The invariant of the loops, after the requests `made` of a call that began with `s`. -/
structure PrimeChain (opData : PrimeTestOpData) (s : BufferState) (bits : UInt32)
    (made : List (PrimeTest × Nat)) (l : PrimeLoop) : Prop where
  entries : l.s.entries <:+ s.entries
  frame : Frame (s.entries.map fun w => (w, 1024)) s.mem l.s.mem
  prime : Spared l.s l.pBuffPrimeInternal.pData l.pBuffPrimeInternal.dataLenInBytes.toNat
  primeValue : beValue (l.pBuffPrimeInternal.bytes l.s.mem) = opData.candidate s.mem
  /-- The first test other than GCD takes care of a candidate that is too short. -/
  first : l.pBuffPrimeInternal.dataLenInBytes < PrimeTest.fermat.opBytes bits →
    made = [] ∨ made = [(.gcd, 1)]
  requests : List.Forall₂ (fun t c => Tests opData s.mem l.s.mem t c ∧
    ∀ x ∈ c.inputs, Spared l.s x.ptr x.param.workingLen) made l.chain

/-- A random number lies in the client's buffer, and is less than the candidate. -/
structure GoodRandom (opData : PrimeTestOpData) (s : BufferState) (mrRoundSizeInBytes : UInt32)
    (round : Nat) : Prop where
  spared : Spared s (opData.randomNumber mrRoundSizeInBytes round).pData mrRoundSizeInBytes.toNat
  value : beValue ((opData.randomNumber mrRoundSizeInBytes round).bytes s.mem) =
    opData.random s.mem round
  lt_candidate : opData.random s.mem round < opData.candidate s.mem

theorem lacPrimePopulateParam_params (testId : PrimeTest) (opSize : UInt32) (a : PrimeArgs)
    (internal : Bool) (prime randomNumber : FlatBuffer) :
    (lacPrimePopulateParam testId opSize a internal prime randomNumber).params =
      (if testId = .millerRabin then
        [⟨randomNumber.pData, randomNumber.dataLenInBytes, opSize, false⟩] else []) ++
      [⟨prime.pData, prime.dataLenInBytes, opSize, internal⟩] := by
  cases testId <;> simp [lacPrimePopulateParam, PrimeArgs.params]

theorem arguments_eq (opData : PrimeTestOpData) (m : Memory) (testId : PrimeTest) (round : Nat) :
    opData.arguments m (testId, round) =
      (if testId = .millerRabin then [opData.random m round] else []) ++ [opData.candidate m] := by
  cases testId <;> rfl

variable {a n : Nat} {opSize : UInt32} {m : Memory} {c : PkeReq} {s' : BufferState}
  {bs : List BufferParam} {used : List Nat} {tests : List PrimeTest}

section Loops

variable {opData : PrimeTestOpData} {s : BufferState} {bits mrSize : UInt32} {testId : PrimeTest}
  {round : Nat} {made : List (PrimeTest × Nat)} {l : PrimeLoop}

theorem spared_of_suffix (hsuffix : l.s.entries <:+ s.entries) (h : Spared s a n) :
    Spared l.s a n :=
  fun w hw => h w (hsuffix.subset hw)

namespace PrimeChain

variable (h : PrimeChain opData s bits made l)
include h

theorem read_eq (hs : Spared s a n) : l.s.mem.read a n = s.mem.read a n := by
  apply h.frame
  intro r hmap
  obtain ⟨w, hw, rfl⟩ := List.mem_map.mp hmap
  exact hs w hw

theorem modulus (hlaid : PrimeLayout opData s) (testId : PrimeTest) :
    let prime := if testId = .gcd then opData.primeCandidate else l.pBuffPrimeInternal
    Spared l.s prime.pData prime.dataLenInBytes.toNat ∧
      beValue (prime.bytes l.s.mem) = opData.candidate s.mem := by
  by_cases hgcd : testId = .gcd
  · simp only [hgcd, if_true]
    refine ⟨spared_of_suffix h.entries hlaid.candidate, ?_⟩
    rw [bytes, len, h.read_eq hlaid.candidate]
    rfl
  · simp only [hgcd, if_false]
    exact ⟨h.prime, h.primeValue⟩

theorem randomNumber (hrandom : GoodRandom opData s mrSize round) :
    Spared l.s (opData.randomNumber mrSize round).pData mrSize.toNat ∧
      beValue ((opData.randomNumber mrSize round).bytes l.s.mem) = opData.random s.mem round := by
  refine ⟨spared_of_suffix h.entries hrandom.spared, ?_⟩
  rw [← hrandom.value]
  exact congrArg beValue (h.read_eq hrandom.spared)

/-- The parameters of a round: their numbers are those asked for. -/
theorem params (hlaid : PrimeLayout opData s)
    (hrandom : testId = .millerRabin → GoodRandom opData s mrSize round) (opSize : UInt32) :
    let bs := (roundArgs opData mrSize testId opSize round l).params
    (bs.map fun b => beValue (l.s.mem.read b.pData b.dataLen)) =
        opData.arguments s.mem (testId, round) ∧
      ∀ b ∈ bs, b.argSize = opSize ∧ Spared l.s b.pData b.dataLen ∧
        beValue (l.s.mem.read b.pData b.dataLen) ≤ opData.candidate s.mem := by
  have hmod := h.modulus hlaid testId
  unfold roundArgs
  dsimp only at hmod ⊢
  generalize (if testId = .gcd then opData.primeCandidate else l.pBuffPrimeInternal) = prime at hmod ⊢
  rw [lacPrimePopulateParam_params, arguments_eq]
  have hlast : beValue (l.s.mem.read prime.pData prime.dataLenInBytes.toNat) =
      opData.candidate s.mem := hmod.2
  by_cases hmr : testId = .millerRabin
  · have hrand := h.randomNumber (hrandom hmr)
    have hlt := (hrandom hmr).lt_candidate
    have hvalue : beValue (l.s.mem.read (opData.randomNumber mrSize round).pData mrSize.toNat) =
      opData.random s.mem round := hrand.2
    rw [if_pos hmr, if_pos hmr]
    refine ⟨?_, ?_⟩
    · exact congrArg₂ (fun x y => [x, y]) hvalue hlast
    · rw [List.forall_mem_append, List.forall_mem_singleton, List.forall_mem_singleton]
      exact ⟨⟨rfl, hrand.1, (hvalue.trans_lt hlt).le⟩, rfl, hmod.1, hlast.le⟩
  · rw [if_neg hmr, if_neg hmr, List.nil_append, List.nil_append]
    refine ⟨congrArg (fun x => [x]) hlast, ?_⟩
    rw [List.forall_mem_singleton]
    exact ⟨rfl, hmod.1, hlast.le⟩

end PrimeChain

theorem BufferParam.sized {b : BufferParam} (hsize : b.argSize = opSize) (hpos : 0 < opSize.toNat)
    (hle : opSize.toNat ≤ 512) (hdvd : 8 ∣ opSize.toNat) :
    b.argLen = opSize.toNat ∧ b.workingLen = opSize.toNat := by
  have harg : b.argLen = opSize.toNat := by
    have hne : opSize ≠ 0 := by
      rintro rfl
      exact absurd hpos (by decide)
    rw [BufferParam.argLen, hsize, if_neg hne]
  refine ⟨harg, ?_⟩
  rw [BufferParam.workingLen_eq (by omega), harg]
  omega

theorem candidate_lt (hbits : bits.toNat = opData.bitLength s.mem)
    (hvalid : (lacPrimeGetFuncID testId bits).1 ≠ lacPkeInvalidFuncId) :
    opData.candidate s.mem < 256 ^ (testId.opBytes bits).toNat := by
  have hroom := (opBytes_spec hvalid).1
  calc opData.candidate s.mem < 2 ^ opData.bitLength s.mem := Nat.lt_size_self _
    _ ≤ 2 ^ (8 * (testId.opBytes bits).toNat) := Nat.pow_le_pow_right (by decide) (by omega)
    _ = 256 ^ (testId.opBytes bits).toNat := by rw [pow_mul]; rfl

/-- The request that a round creates. -/
theorem PrimeChain.create (h : PrimeChain opData s bits made l) (hlaid : PrimeLayout opData s)
    (hbits : bits.toNat = opData.bitLength s.mem)
    (hvalid : (lacPrimeGetFuncID testId bits).1 ≠ lacPkeInvalidFuncId)
    (hrandom : testId = .millerRabin → GoodRandom opData s mrSize round) {entry : Bool}
    {r : Bool × List PkeReq × BufferState}
    (hr : createRequest l.s l.chain ⟨entry, (lacPrimeGetFuncID testId bits).1,
      (roundArgs opData mrSize testId (testId.opBytes bits) round l).params, []⟩ = r)
    (hok : r.1 = true) :
    ∃ c used, r.2.1 = l.chain ++ [c] ∧ Tests opData s.mem r.2.2.mem (testId, round) c ∧
      (∀ x ∈ c.inputs, Spared r.2.2 x.ptr x.param.workingLen) ∧
      Resize 1024 l.s (roundArgs opData mrSize testId (testId.opBytes bits) round l).params c.inputs
        r.2.2 used := by
  subst hr
  obtain ⟨hvalues, hparams⟩ := h.params hlaid hrandom (testId.opBytes bits)
  obtain ⟨-, hpos, hle, hdvd⟩ := opBytes_spec hvalid
  have hsized := fun b hb => BufferParam.sized (hparams b hb).1 hpos hle hdvd
  have hlaid' : Laid 1024 l.s.entries
      (roundArgs opData mrSize testId (testId.opBytes bits) round l).params :=
    { size_lt := by decide
      fits := fun b hb => by
        rw [(hsized b hb).1]
        omega
      separate := hlaid.separate.sublist h.entries.sublist
      client := fun b hb => (hparams b hb).2.1 }
  have hroom := candidate_lt hbits hvalid
  obtain ⟨c, used, hid, hout, hchain, hresize, hmap⟩ := createRequest_values hlaid' rfl
    (fun b hb => by
      rw [(hsized b hb).1]
      exact (hparams b hb).2.2.trans_lt hroom) hok
  refine ⟨c, used, hchain, ⟨?_, ?_, ?_, hout⟩, fun x hx => hresize.spared_arg hlaid' hx, hresize⟩
  · rw [hid, ← hbits]
    exact functionFor_of_valid hvalid
  · rw [hmap, hvalues]
  · intro x hx
    have hparam : x.param ∈ c.inputs.map PkeArg.param := List.mem_map_of_mem hx
    rw [hresize.params] at hparam
    rw [(hsized _ hparam).2, ← hbits, UInt32.ofNat_toNat]

theorem primeRound_fst {functionalityId : UInt32} :
    (primeRound opData mrSize testId functionalityId opSize round l).1 =
      (createRequest l.s l.chain ⟨l.requestEntries.headD false, functionalityId,
        (roundArgs opData mrSize testId opSize round l).params, []⟩).1 := by
  unfold primeRound
  dsimp only
  split
  · next h => exact h.1.symm
  · rfl

/-- The last input of a request is the candidate. -/
theorem Tests.modulus {m' : Memory} (h : Tests opData m m' (testId, round) c) :
    ∃ x ∈ c.inputs, c.inputs[testId.modulusIndex]? = some x ∧ x.value m' = opData.candidate m := by
  have hargs := h.arguments
  rw [arguments_eq] at hargs
  cases testId with
  | millerRabin =>
    obtain ⟨y, x, hinputs, -, hx⟩ : ∃ y x, c.inputs = [y, x] ∧ y.value m' = opData.random m round ∧
        x.value m' = opData.candidate m := by
      simpa [List.map_eq_cons_iff] using hargs
    exact ⟨x, by simp [hinputs], by rw [hinputs]; rfl, hx⟩
  | gcd | fermat | lucas =>
    obtain ⟨x, hinputs, hx⟩ : ∃ x, c.inputs = [x] ∧ x.value m' = opData.candidate m := by
      simpa [List.map_eq_cons_iff] using hargs
    exact ⟨x, by simp [hinputs], by rw [hinputs]; rfl, hx⟩

section

variable (h : PrimeChain opData s bits made l)
include h

theorem PrimeChain.requests_kept {xs : List PkeArg} (hr : Resize 1024 l.s bs xs s' used) :
    List.Forall₂ (fun t c => Tests opData s.mem s'.mem t c ∧
      ∀ x ∈ c.inputs, Spared s' x.ptr x.param.workingLen) made l.chain := by
  refine h.requests.imp fun t c hc => ?_
  obtain ⟨htests, hspared⟩ := hc
  refine ⟨{ htests with arguments := ?_ }, fun x hx => hr.spared (hspared x hx)⟩
  rw [← htests.arguments]
  apply List.map_congr_left
  intro x hx
  exact congrArg beValue (hr.read_spared (hspared x hx))

/-- The request is the first of a test other than GCD as long as the candidate is too short. -/
theorem PrimeChain.firstNotGcd_eq
    (hshort : l.pBuffPrimeInternal.dataLenInBytes < PrimeTest.fermat.opBytes bits) (c : PkeReq) :
    firstNotGcd (l.chain ++ [c]) = some c := by
  have hrequests := h.requests
  rcases h.first hshort with hmade | hmade
  · rw [hmade, List.forall₂_nil_left_iff] at hrequests
    rw [hrequests]
    rfl
  · rw [hmade, List.forall₂_cons_left_iff] at hrequests
    obtain ⟨g, rest, -, hrest, hchain⟩ := hrequests
    rw [List.forall₂_nil_left_iff] at hrest
    rw [hchain, hrest]
    rfl

/-- A request is added, and the candidate is taken from `prime` afterwards. -/
theorem PrimeChain.add {t : PrimeTest × Nat} (hr : Resize 1024 l.s bs c.inputs s' used)
    (htests : Tests opData s.mem s'.mem t c)
    (hspared : ∀ x ∈ c.inputs, Spared s' x.ptr x.param.workingLen) {l' : PrimeLoop}
    (hs : l'.s = s') (hchain : l'.chain = l.chain ++ [c])
    (hprime : Spared s' l'.pBuffPrimeInternal.pData l'.pBuffPrimeInternal.dataLenInBytes.toNat)
    (hvalue : beValue (l'.pBuffPrimeInternal.bytes s'.mem) = opData.candidate s.mem)
    (hfirst : l'.pBuffPrimeInternal.dataLenInBytes < PrimeTest.fermat.opBytes bits →
      made ++ [t] = [(.gcd, 1)]) : PrimeChain opData s bits (made ++ [t]) l' := by
  subst hs
  refine ⟨?_, ?_, hprime, hvalue, fun hshort => .inr (hfirst hshort), ?_⟩
  · refine List.IsSuffix.trans ?_ h.entries
    rw [hr.entries]
    exact List.suffix_append used _
  · refine h.frame.trans (hr.frame.mono fun r hmap => ?_)
    obtain ⟨w, hw, rfl⟩ := List.mem_map.mp hmap
    exact List.mem_map_of_mem (h.entries.subset (hr.mem_entries hw))
  · rw [hchain]
    exact List.rel_append (h.requests_kept hr) (.cons ⟨htests, hspared⟩ .nil)

end

/-- **A round of a test** adds its request to the chain. -/
theorem primeRound_chain (hlaid : PrimeLayout opData s) (hbits : bits.toNat = opData.bitLength s.mem)
    (hvalid : (lacPrimeGetFuncID testId bits).1 ≠ lacPkeInvalidFuncId)
    (hrandom : testId = .millerRabin → GoodRandom opData s mrSize round)
    (hgcd : testId = .gcd → made = [] ∧ round = 1) (h : PrimeChain opData s bits made l)
    (hok : (primeRound opData mrSize testId (lacPrimeGetFuncID testId bits).1 (testId.opBytes bits)
      round l).1 = true) :
    PrimeChain opData s bits (made ++ [(testId, round)])
      (primeRound opData mrSize testId (lacPrimeGetFuncID testId bits).1 (testId.opBytes bits)
        round l).2 := by
  rw [primeRound_fst] at hok
  unfold primeRound
  dsimp only
  generalize hr : createRequest l.s l.chain _ = r at hok ⊢
  obtain ⟨c, used, hchain, htests, hspared, hresize⟩ := h.create hlaid hbits hvalid hrandom hr hok
  by_cases hcopy : testId ≠ .gcd ∧ l.pBuffPrimeInternal.dataLenInBytes < testId.opBytes bits
  · -- the copy of the candidate in this request is used from here on
    have hfermat := opBytes_eq_fermat hcopy.1 bits
    have hfound : firstNotGcd r.2.1 = some c := by
      rw [hchain]
      apply h.firstNotGcd_eq
      rw [← hfermat]
      exact hcopy.2
    obtain ⟨x, hx, hindex, hvalue⟩ := htests.modulus
    have hsize : x.param.workingLen = (testId.opBytes bits).toNat := by
      rw [htests.sizes x hx, ← hbits, UInt32.ofNat_toNat]
    rw [if_pos ⟨hok, hcopy⟩, hfound, Option.map_some, Option.getD_some, hindex, Option.map_some,
      Option.getD_some]
    refine h.add hresize htests hspared rfl hchain ?_ ?_ ?_
    · rw [← hsize]
      exact hspared x hx
    · rw [bytes, len, ← hsize]
      exact hvalue
    · rw [hfermat]
      exact fun hshort => absurd hshort (UInt32.lt_irrefl _)
  · rw [if_neg fun h => hcopy h.2]
    refine h.add hresize htests hspared rfl hchain (hresize.spared h.prime) ?_ ?_
    · rw [bytes, len, hresize.read_spared h.prime]
      exact h.primeValue
    · intro hshort
      by_cases hfirst : testId = .gcd
      · obtain ⟨rfl, rfl⟩ := hgcd hfirst
        rw [hfirst, List.nil_append]
      · rw [← opBytes_eq_fermat hfirst bits] at hshort
        exact absurd ⟨hfirst, hshort⟩ hcopy

/-- **The rounds of a test** add their requests. -/
theorem primeRounds_chain (hlaid : PrimeLayout opData s)
    (hbits : bits.toNat = opData.bitLength s.mem) {rounds : List Nat}
    (hvalid : rounds ≠ [] → (lacPrimeGetFuncID testId bits).1 ≠ lacPkeInvalidFuncId)
    (hrandom : testId = .millerRabin → ∀ round ∈ rounds, GoodRandom opData s mrSize round)
    (hgcd : testId = .gcd → rounds = [] ∨ (made = [] ∧ rounds = [1]))
    (h : PrimeChain opData s bits made l)
    (hok : (primeRounds opData mrSize testId (lacPrimeGetFuncID testId bits).1 (testId.opBytes bits)
      rounds l).1 = true) :
    PrimeChain opData s bits (made ++ rounds.map (Prod.mk testId))
      (primeRounds opData mrSize testId (lacPrimeGetFuncID testId bits).1 (testId.opBytes bits)
        rounds l).2 := by
  induction rounds generalizing made l with
  | nil =>
    rw [List.map_nil, List.append_nil]
    exact h
  | cons round rounds ih =>
    rw [primeRounds] at hok ⊢
    by_cases hround : (primeRound opData mrSize testId (lacPrimeGetFuncID testId bits).1
        (testId.opBytes bits) round l).1 = true
    · rw [if_pos hround] at hok ⊢
      have hfirst : testId = .gcd → made = [] ∧ round = 1 ∧ rounds = [] := by
        intro htest
        rcases hgcd htest with hnil | ⟨hmade, hrounds⟩
        · cases hnil
        · exact ⟨hmade, by simpa using hrounds⟩
      have hnext := primeRound_chain hlaid hbits (hvalid (List.cons_ne_nil _ _))
        (fun htest => hrandom htest round (List.mem_cons_self ..))
        (fun htest => ⟨(hfirst htest).1, (hfirst htest).2.1⟩) h hround
      have hrest := ih (fun _ => hvalid (List.cons_ne_nil _ _))
        (fun htest r hr => hrandom htest r (List.mem_cons_of_mem round hr))
        (fun htest => .inl (hfirst htest).2.2) hnext hok
      rw [List.append_assoc] at hrest
      exact hrest
    · rw [if_neg hround] at hok
      exact absurd hok hround

/-- The requests of one test. -/
def PrimeTestOpData.requestsOf (opData : PrimeTestOpData) (testId : PrimeTest) :
    List (PrimeTest × Nat) :=
  (List.range' 1 (opData.numRounds testId)).map (Prod.mk testId)

/-- What the client selects, test by test in the order of the loop. -/
theorem PrimeTestOpData.requests_eq (opData : PrimeTestOpData) :
    opData.requests = [] ++ opData.requestsOf .gcd ++ opData.requestsOf .fermat ++
      opData.requestsOf .millerRabin ++ opData.requestsOf .lucas := by
  unfold requests requestsOf
  cases hg : opData.performGcdTest <;> cases hf : opData.performFermatTest <;>
    cases hl : opData.performLucasTest <;> simp [numRounds, hg, hf, hl]

/-- A test that is done adds its requests, and the loop goes on. -/
theorem primeTests_cons (hlaid : PrimeLayout opData s)
    (hbits : bits.toNat = opData.bitLength s.mem)
    (hrandom : ∀ round ∈ List.range' 1 opData.numMillerRabinRounds.toNat,
      GoodRandom opData s mrSize round) (hgcd : testId = .gcd → made = [])
    (h : PrimeChain opData s bits made l)
    (hok : (primeTests opData bits mrSize (testId :: tests) l).1 = .success) :
    ∃ l', PrimeChain opData s bits (made ++ opData.requestsOf testId) l' ∧
      primeTests opData bits mrSize (testId :: tests) l = primeTests opData bits mrSize tests l' := by
  rw [primeTests] at hok ⊢
  dsimp only at hok ⊢
  split at hok
  · cases hok
  rename_i hsupported
  rw [if_neg hsupported]
  by_cases hrounds : (primeRounds opData mrSize testId (lacPrimeGetFuncID testId bits).1
      (testId.opBytes bits) (List.range' 1 (opData.numRounds testId)) l).1 = true
  · refine ⟨_, primeRounds_chain hlaid hbits (fun hne hid => hsupported ⟨?_, hid⟩) ?_ ?_ h hrounds,
      if_pos hrounds⟩
    · by_contra hzero
      exact hne (by rw [Nat.eq_zero_of_not_pos hzero]; rfl)
    · rintro rfl
      exact hrandom
    · rintro rfl
      by_cases hselected : opData.performGcdTest = true
      · exact .inr ⟨hgcd rfl, by simp [numRounds, hselected]⟩
      · exact .inl (by simp [numRounds, hselected])
  · rw [if_neg hrounds] at hok
    cases hok

theorem primeTests_chain (hlaid : PrimeLayout opData s)
    (hbits : bits.toNat = opData.bitLength s.mem)
    (hrandom : ∀ round ∈ List.range' 1 opData.numMillerRabinRounds.toNat,
      GoodRandom opData s mrSize round) (h : PrimeChain opData s bits [] l)
    (hok : (primeTests opData bits mrSize [.gcd, .fermat, .millerRabin, .lucas] l).1 = .success) :
    PrimeChain opData s bits opData.requests
      (primeTests opData bits mrSize [.gcd, .fermat, .millerRabin, .lucas] l).2 := by
  obtain ⟨l₁, h₁, heq₁⟩ := primeTests_cons hlaid hbits hrandom (fun _ => rfl) h hok
  rw [heq₁] at hok
  obtain ⟨l₂, h₂, heq₂⟩ := primeTests_cons hlaid hbits hrandom (by simp) h₁ hok
  rw [heq₂] at hok
  obtain ⟨l₃, h₃, heq₃⟩ := primeTests_cons hlaid hbits hrandom (by simp) h₂ hok
  rw [heq₃] at hok
  obtain ⟨l₄, h₄, heq₄⟩ := primeTests_cons hlaid hbits hrandom (by simp) h₃ hok
  rw [heq₁, heq₂, heq₃, heq₄]
  rw [opData.requests_eq]
  exact h₄

/-- The length is found unsupported for all tests or for none. -/
theorem primeTests_unsupported (h : (primeTests opData bits mrSize tests l).1 = .unsupportedLength) :
    (∀ testId, (lacPrimeGetFuncID testId bits).1 = lacPkeInvalidFuncId) ∧
      (primeTests opData bits mrSize tests l).2 = l := by
  induction tests generalizing l with
  | nil => cases h
  | cons testId tests ih =>
    rw [primeTests] at h ⊢
    dsimp only at h ⊢
    by_cases hinvalid : 0 < opData.numRounds testId ∧
        (lacPrimeGetFuncID testId bits).1 = lacPkeInvalidFuncId
    · rw [if_pos hinvalid]
      refine ⟨fun t => ?_, rfl⟩
      rw [lacPrimeGetFuncID_invalid_iff]
      exact lacPrimeGetFuncID_invalid_iff.mp hinvalid.2
    · rw [if_neg hinvalid] at h ⊢
      split at h
      · next hrounds =>
        obtain ⟨hall, hsame⟩ := ih h
        -- a test with a round would have stopped the loop
        have hnone : opData.numRounds testId = 0 := by
          by_contra hpos
          exact hinvalid ⟨Nat.pos_of_ne_zero hpos, hall testId⟩
        refine ⟨hall, ?_⟩
        rw [if_pos hrounds, hsame, hnone]
        rfl
      · cases h

end Loops

/-! ## The call -/

section Call

variable {opData : PrimeTestOpData} {s : BufferState}

theorem getLastD_eq_zero_of_beValue {bs : List UInt8} (h : beValue bs = 0) : bs.getLastD 0 = 0 := by
  rcases List.eq_nil_or_concat' bs with rfl | ⟨init, b, rfl⟩
  · rfl
  · rw [beValue_append] at h
    have hb : b.toNat = 0 := by
      have hlast : beValue [b] = b.toNat := by simp [beValue_cons]
      omega
    rw [List.getLastD_concat]
    exact UInt8.toNat_inj.mp hb

/-- An accepted candidate is odd, and there are at most 50 rounds. -/
theorem lacPrimeParameterCheck_spec (h : lacPrimeParameterCheck m opData = true) :
    opData.candidate m ≠ 0 ∧ opData.numMillerRabinRounds.toNat ≤ 50 := by
  unfold lacPrimeParameterCheck at h
  dsimp only at h
  split_ifs at h with hnull hlen hmin hodd hselected hrounds
  · refine ⟨fun hzero => hodd ?_, ?_⟩
    · rw [getLastD_eq_zero_of_beValue hzero]
      rfl
    · simp only [Bool.and_eq_true, decide_eq_true_eq] at h
      exact UInt32.le_iff_toNat_le.mp h.1.1
  · refine ⟨fun hzero => hodd ?_, ?_⟩
    · rw [getLastD_eq_zero_of_beValue hzero]
      rfl
    · rw [gt_iff_lt, UInt32.lt_iff_toNat_lt] at hrounds
      have hzero : (0 : UInt32).toNat = 0 := rfl
      omega

/-- A random number that passes the comparison is less than the candidate. -/
theorem lt_of_lacPkeCompare {as bs : List UInt8} (hne : 0 < as.length)
    (h : lacPkeCompare ⟨as⟩ 0 ⟨bs⟩ (-1) < 0) : beValue as < beValue bs := by
  have hsign : (lacPkeCompareIntPtrs as 0 bs (-1)).toInt.sign = _ :=
    lacPkeCompareIntPtrs_sign (by decide) (by decide) (by omega)
  have hneg : (lacPkeCompareIntPtrs as 0 bs (-1)).toInt < 0 := Int32.lt_iff_toInt_lt.mp h
  rw [carryLost_eq_zero (by decide) (by decide), sub_zero, Int.sign_eq_neg_one_of_neg hneg] at hsign
  split at hsign
  · cases hsign
  · have hdiff := Int.sign_eq_neg_one_iff_neg.mp hsign.symm
    have hone : (-1 : Int32).toInt = -1 := rfl
    have hzero : (0 : Int32).toInt = 0 := rfl
    rw [difference, hone, hzero] at hdiff
    omega

/-- The random numbers of an accepted call. -/
theorem goodRandom_of_check (hlaid : PrimeLayout opData s) {mrSize : UInt32}
    (hsize : mrSize.toNat = opData.randomSize s.mem) (hle : mrSize.toNat ≤ 512)
    (hrounds : opData.numMillerRabinRounds.toNat ≤ 50)
    (hcheck : opData.numMillerRabinRounds > 0 → randomInputCheck s.mem opData mrSize = true) :
    ∀ round ∈ List.range' 1 opData.numMillerRabinRounds.toNat, GoodRandom opData s mrSize round := by
  intro round hmem
  have hsome : opData.numMillerRabinRounds > 0 := by
    rw [List.mem_range'_1] at hmem
    rw [gt_iff_lt, UInt32.lt_iff_toNat_lt]
    show 0 < _
    omega
  have hall := hcheck hsome
  unfold randomInputCheck at hall
  rw [decide_eq_true_eq, List.all_eq_true] at hall
  obtain ⟨hlen, hall⟩ := hall
  have hcompare := hall round hmem
  rw [decide_eq_true_eq] at hcompare
  rw [List.mem_range'_1] at hmem
  have htotal : opData.millerRabinRandomInput.dataLenInBytes.toNat =
      opData.numMillerRabinRounds.toNat * mrSize.toNat := by
    rw [hlen, UInt32.toNat_mul]
    apply Nat.mod_eq_of_lt
    calc opData.numMillerRabinRounds.toNat * mrSize.toNat ≤ 50 * 512 := Nat.mul_le_mul hrounds hle
      _ < 2 ^ 32 := by decide
  have hvalue : beValue ((opData.randomNumber mrSize round).bytes s.mem) =
      opData.random s.mem round := by
    unfold bytes len randomNumber random
    rw [hsize]
  refine ⟨fun w hw => ?_, hvalue, ?_⟩
  · have hend : (round - 1) * mrSize.toNat + mrSize.toNat ≤
        opData.numMillerRabinRounds.toNat * mrSize.toNat := by
      rw [← Nat.succ_mul]
      exact Nat.mul_le_mul_right _ (by omega)
    refine (hlaid.randoms w hw).mono ?_ ?_ (Nat.le_refl w) (Nat.le_refl _)
    · exact Nat.le_add_right _ _
    · show _ + (round - 1) * mrSize.toNat + mrSize.toNat ≤ _
      omega
  · rw [← hvalue]
    refine lt_of_lacPkeCompare ?_ hcompare.2
    unfold bytes len
    rw [Memory.length_read]
    show 0 < mrSize.toNat
    rw [hsize, randomSize]
    omega

theorem PrimeChain.start (hlaid : PrimeLayout opData s) (bits : UInt32) (requestEntries : List Bool) :
    PrimeChain opData s bits [] (PrimeLoop.start opData s requestEntries) where
  entries := List.suffix_refl _
  frame := Frame.refl _ _
  prime := hlaid.candidate
  primeValue := rfl
  first _ := .inl rfl
  requests := List.Forall₂.nil

/-- The lengths that are computed from the candidate. -/
theorem lacPkeGetBitPos_lengths {pos : BitPos} (hcandidate : opData.candidate s.mem ≠ 0)
    (hpos : lacPkeGetBitPos ⟨opData.primeCandidate.bytes s.mem⟩ = some pos) :
    let inputLenInBytes := opData.primeCandidate.dataLenInBytes - pos.indexMsb
    let mrSize := if inputLenInBytes > 64 then inputLenInBytes else 64
    (pos.bitPos + 1).toNat = opData.bitLength s.mem ∧ mrSize.toNat = opData.randomSize s.mem ∧
      mrSize.toNat ≤ 512 := by
  have hlength : (opData.primeCandidate.bytes s.mem).length =
      opData.primeCandidate.dataLenInBytes.toNat := Memory.length_read ..
  have hlt := opData.primeCandidate.dataLenInBytes.toNat_lt
  obtain ⟨hbits, hmax, hindex⟩ := lacPkeGetBitPos_spec hcandidate (by omega) hpos
  have hle : pos.indexMsb ≤ opData.primeCandidate.dataLenInBytes := by
    rw [UInt32.le_iff_toNat_le]
    omega
  have hbytes : (opData.primeCandidate.dataLenInBytes - pos.indexMsb).toNat =
      (opData.bitLength s.mem + 7) / 8 := by
    have hsub := UInt32.toNat_sub_of_le _ _ hle
    unfold bitLength candidate
    omega
  have hmax' : opData.bitLength s.mem ≤ 4096 := hmax
  refine ⟨hbits, ?_⟩
  unfold randomSize
  split
  · next hlong =>
    rw [gt_iff_lt, UInt32.lt_iff_toNat_lt] at hlong
    have h64 : (64 : UInt32).toNat = 64 := rfl
    omega
  · next hshort =>
    rw [gt_iff_lt, UInt32.lt_iff_toNat_lt] at hshort
    have h64 : (64 : UInt32).toNat = 64 := rfl
    omega

/-- A call ends before the loops, without a request, or with what they end with. -/
theorem cpaCyPrimeTest_loops (opData : PrimeTestOpData) (s : BufferState)
    (requestEntries : List Bool) (primeEntry sent : Bool) :
    let out := cpaCyPrimeTest opData s requestEntries primeEntry sent
    (out.status ≠ .success ∧ out.chain = []) ∨
      ∃ bits mrSize : UInt32, bits.toNat = opData.bitLength s.mem ∧
        (PrimeLayout opData s → ∀ round ∈ List.range' 1 opData.numMillerRabinRounds.toNat,
          GoodRandom opData s mrSize round) ∧
        let r := primeTests opData bits mrSize [.gcd, .fermat, .millerRabin, .lucas]
          (PrimeLoop.start opData s requestEntries)
        (out.status = .success → r.1 = .success) ∧
          (out.status = .unsupportedLength → r.1 = .unsupportedLength) ∧
          out.chain = r.2.chain ∧ out.s = r.2.s := by
  dsimp only
  unfold cpaCyPrimeTest
  by_cases hparams : lacPrimeParameterCheck s.mem opData = false
  · exact .inl (by simp [if_pos hparams])
  rw [if_neg hparams]
  obtain ⟨hcandidate, hrounds⟩ := lacPrimeParameterCheck_spec (by simpa using hparams)
  rcases hpos : lacPkeGetBitPos ⟨opData.primeCandidate.bytes s.mem⟩ with _ | pos
  · exact .inl (by simp)
  obtain ⟨hbits, hsize, hmax⟩ := lacPkeGetBitPos_lengths hcandidate hpos
  dsimp only at hsize hmax ⊢
  generalize hmr : (if opData.primeCandidate.dataLenInBytes - pos.indexMsb > 64 then
    opData.primeCandidate.dataLenInBytes - pos.indexMsb else 64) = mrSize at hsize hmax ⊢
  split
  · exact .inl ⟨fun h => (by cases h), rfl⟩
  split
  · exact .inl ⟨fun h => (by cases h), rfl⟩
  rename_i hcheck
  split
  · exact .inl ⟨fun h => (by cases h), rfl⟩
  refine .inr ⟨_, mrSize, hbits, fun hlaid => ?_, ?_⟩
  · refine goodRandom_of_check hlaid hsize hmax hrounds fun hsome => ?_
    simpa using fun h => hcheck ⟨hsome, h⟩
  · split
    · next hsuccess => exact ⟨fun _ => hsuccess, fun h => (by split at h <;> cases h), rfl, rfl⟩
    · exact ⟨id, id, rfl, rfl⟩

end Call

/-- **The chain of a prime test.** The chain that an accepted call sends has one request for each
    round of each test that the client selected, in order, with the function of the candidate's bit
    length; the device finds the candidate as modulus and the random number of the round as base.
    When the bit length is found unsupported no request has been created. -/
theorem cpaCyPrimeTest_chain (opData : PrimeTestOpData) (s : BufferState) (requestEntries : List Bool)
    (primeEntry sent : Bool) :
    (PrimeLayout opData s →
      (cpaCyPrimeTest opData s requestEntries primeEntry sent).status = .success → List.Forall₂
          (Tests opData s.mem (cpaCyPrimeTest opData s requestEntries primeEntry sent).s.mem)
          opData.requests (cpaCyPrimeTest opData s requestEntries primeEntry sent).chain) ∧
      ((cpaCyPrimeTest opData s requestEntries primeEntry sent).status = .unsupportedLength →
        (cpaCyPrimeTest opData s requestEntries primeEntry sent).chain = []) := by
  rcases cpaCyPrimeTest_loops opData s requestEntries primeEntry sent with
    ⟨hfailed, hnone⟩ | ⟨bits, mrSize, hbits, hrandom, hsuccess, hunsupported, hchain, hstate⟩
  · exact ⟨fun _ h => absurd h hfailed, fun _ => hnone⟩
  · refine ⟨fun hlaid h => ?_, fun h => ?_⟩
    · have hfinal := primeTests_chain hlaid hbits (hrandom hlaid)
        (PrimeChain.start hlaid bits requestEntries) (hsuccess h)
      rw [hchain, hstate]
      exact hfinal.requests.imp fun _ _ hc => hc.1
    · rw [hchain, (primeTests_unsupported (hunsupported h)).2]
      rfl

/-- All tests of 7, two bytes long, with the bases 3 and 4. -/
def primeTestOfSeven : PrimeTestOpData where
  primeCandidate := ⟨100, 2⟩
  performGcdTest := true
  performFermatTest := true
  numMillerRabinRounds := 2
  millerRabinRandomInput := ⟨200, 128⟩
  performLucasTest := true

def memoryOfSeven : BufferState where
  mem a := if a = 101 then 7 else if a = 263 then 3 else if a = 327 then 4 else 0
  allocs := [some 1024, some 2048]
  freed := []

theorem cpaCyPrimeTest_chain_seven :
    (cpaCyPrimeTest primeTestOfSeven memoryOfSeven [true, true, true, true, true] true true).status =
        .success ∧
      List.Forall₂
        (Tests primeTestOfSeven memoryOfSeven.mem (cpaCyPrimeTest primeTestOfSeven memoryOfSeven
          [true, true, true, true, true] true true).s.mem)
        [(.gcd, 1), (.fermat, 1), (.millerRabin, 1), (.millerRabin, 2), (.lucas, 1)]
        (cpaCyPrimeTest primeTestOfSeven memoryOfSeven [true, true, true, true, true] true
          true).chain := by
  have hstatus : (cpaCyPrimeTest primeTestOfSeven memoryOfSeven [true, true, true, true, true] true
      true).status = .success := by decide +kernel
  have hlaid : PrimeLayout primeTestOfSeven memoryOfSeven := ⟨by decide, by decide, by decide⟩
  have hrequests : primeTestOfSeven.requests =
      [(.gcd, 1), (.fermat, 1), (.millerRabin, 1), (.millerRabin, 2), (.lucas, 1)] := by decide
  have hchain := (cpaCyPrimeTest_chain primeTestOfSeven memoryOfSeven [true, true, true, true, true]
    true true).1 hlaid hstatus
  rw [hrequests] at hchain
  exact ⟨hstatus, hchain⟩

end Qatlib.Crypto
