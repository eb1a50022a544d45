import Mathlib.Data.Nat.Size
import Qatlib.Crypto.PkeUtils
import Qatlib.Crypto.PkeRoundTrip

set_option autoImplicit false

/-! # The prime test

`cpaCyPrimeTest` of `lac_prime.c` builds one chain of requests: a GCD, a Fermat, any number of
Miller-Rabin and a Lucas request, as the client selects them. The candidate is resized for each
request by `LacPke_CreateRequest`; once a test other than GCD had to copy it, the copy is used by the
rest of the chain. The library is built with `ICP_PARAM_CHECK`, and the call is asynchronous. -/

namespace Qatlib.Crypto

open Function

open Memory (Apart Frame)

/-! ## Function ids -/

/-- `lac_prime_test_t`. -/
inductive PrimeTest where
  | gcd | fermat | millerRabin | lucas
deriving DecidableEq, Repr

/-- `lacGcdSizeIdMap`, with the ids `PKE_GCD_PT_192` to `PKE_GCD_PT_4096`. -/
def lacGcdSizeIdMap : List (UInt32 × UInt32) :=
  [(160, 0x19201fcd), (192, 0x19201fcd), (256, 0x19201ff7), (384, 0x19202021), (512, 0x1b1b204b),
    (768, 0x170c2070), (1024, 0x130f2085), (1536, 0x1d0c2094), (2048, 0x210c20a5),
    (3072, 0x290c20b6), (4096, 0x310c20c7)]

/-- `lacFermatSizeIdMap`, with the ids `PKE_FERMAT_PT_160` to `PKE_FERMAT_PT_4096`. -/
def lacFermatSizeIdMap : List (UInt32 × UInt32) :=
  [(160, 0x0e1120d8), (512, 0x121120ee), (768, 0x19112124), (1024, 0x1f11213a), (1536, 0x2b112150),
    (2048, 0x3b112166), (3072, 0x3a11217c), (4096, 0x4a112192)]

/-- `lacLucasSizeIdMap`, with the ids `PKE_LUCAS_PT_160` to `PKE_LUCAS_PT_4096`. -/
def lacLucasSizeIdMap : List (UInt32 × UInt32) :=
  [(160, 0x0e0c227e), (512, 0x110c228f), (768, 0x130c22a0), (1024, 0x150c22b1), (1536, 0x190c22c2),
    (2048, 0x1d0c22d3), (3072, 0x250c22e4), (4096, 0x661522f5)]

/-- `lacMrSizeIdMap`, with the ids `PKE_MR_PT_160` to `PKE_MR_PT_4096`. -/
def lacMrSizeIdMap : List (UInt32 × UInt32) :=
  [(160, 0x0e1221a8), (512, 0x111221bf), (768, 0x1d0d21d6), (1024, 0x250d21ed), (1536, 0x350d2204),
    (2048, 0x490d221b), (3072, 0x4d0d2232), (4096, 0x650d2249)]

def PrimeTest.sizeIdMap : PrimeTest → List (UInt32 × UInt32)
  | gcd => lacGcdSizeIdMap
  | fermat => lacFermatSizeIdMap
  | millerRabin => lacMrSizeIdMap
  | lucas => lacLucasSizeIdMap

/-- `PKE_GCD_PT_512` or the `PKE_*_PT_L512` of the test, for the other lengths below 512 bits. -/
def PrimeTest.less512 : PrimeTest → UInt32
  | gcd => 0x1b1b204b
  | fermat => 0x19162104
  | millerRabin => 0x18182260
  | lucas => 0x1617230a

/-- `LAC_PKE_INVALID_FUNC_ID`. -/
def lacPkeInvalidFuncId : UInt32 := 0

/-- `LacPke_GetMmpId`. -/
def lacPkeGetMmpId (sizeInBits : UInt32) (sizeIdTable : List (UInt32 × UInt32)) : UInt32 :=
  match sizeIdTable.find? fun row => row.1 = sizeInBits with
  | some row => row.2
  | none => lacPkeInvalidFuncId

/-- `LacPrimeGetFuncID`: the function id and the new length in bits. -/
def lacPrimeGetFuncID (testId : PrimeTest) (opLenInBits : UInt32) : UInt32 × UInt32 :=
  let functionalityId := lacPkeGetMmpId opLenInBits testId.sizeIdMap
  if functionalityId = lacPkeInvalidFuncId ∧ opLenInBits < 512 then (testId.less512, 512)
  else (functionalityId, opLenInBits)

/-- `dataOpLenInBytes`: the number of bytes of the arguments of a test, in whole quadwords. -/
def PrimeTest.opBytes (testId : PrimeTest) (inputLenInBits : UInt32) : UInt32 :=
  alignPow2Roundup ((lacPrimeGetFuncID testId inputLenInBits).2 >>> 3) 8

/-! ## Large integers -/

/-- `LacPke_CompareZero`. -/
def lacPkeCompareZero (largeInteger : LargeInteger) (delta : Int32) : Int32 :=
  if largeInteger.pData.dropLast.any (· ≠ 0) then 1
  else promote (largeInteger.pData.getLastD 0) + delta

/-- `LacPke_GetMinBytes`. -/
def lacPkeGetMinBytes (buffer : LargeInteger) : Nat :=
  buffer.pData.length - (buffer.pData.takeWhile (· = 0)).length

/-- The loop that locates the most significant bit in its byte. It ends for a byte that is not 0,
    after seven turns at most. -/
def locateMsb : Nat → UInt8 → UInt32 → UInt32
  | 0, _, bitPosition => bitPosition
  | n + 1, msByte, bitPosition =>
      if msByte &&& 0x80 = 0 then locateMsb n (msByte <<< 1) (bitPosition - 1) else bitPosition

/-- What `LacPke_GetBitPos` writes; `isZero` is not used by its caller. -/
structure BitPos where
  bitPos : UInt32
  indexMsb : UInt32

/-- `LacPke_GetBitPos`; `none` is `CPA_STATUS_INVALID_PARAM`. -/
def lacPkeGetBitPos (buffer : LargeInteger) : Option BitPos :=
  let numBytes := lacPkeGetMinBytes buffer
  let indexMsb := UInt32.ofNat (buffer.pData.length - numBytes)
  if numBytes = 0 then some ⟨0, indexMsb - 1⟩
  else if numBytes > 512 then none
  else
    some ⟨locateMsb 8 (buffer.pData.getD (buffer.pData.length - numBytes) 0)
      (UInt32.ofNat numBytes * 8 - 1), indexMsb⟩

/-! ## The call -/

/-- `CpaCyPrimeTestOpData`. -/
structure PrimeTestOpData where
  primeCandidate : FlatBuffer
  performGcdTest : Bool
  performFermatTest : Bool
  numMillerRabinRounds : UInt32
  millerRabinRandomInput : FlatBuffer
  performLucasTest : Bool

/-- `LacPrimeParameterCheck`, for pointers to the callback and the result that are not NULL. -/
def lacPrimeParameterCheck (m : Memory) (opData : PrimeTestOpData) : Bool :=
  let candidate := opData.primeCandidate.bytes m
  if opData.primeCandidate.pData = 0 then false
  else if opData.primeCandidate.dataLenInBytes = 0 then false
  -- the bound is `LAC_MAX_PRIME_SIZE_IN_BITS`, compared with a length in bytes
  else if lacPkeGetMinBytes ⟨candidate⟩ > 4096 then false
  else if candidate.getLastD 0 &&& 0x01 = 0 then false
  else if !(opData.performGcdTest || opData.performFermatTest ||
      opData.numMillerRabinRounds != 0 || opData.performLucasTest) then false
  else if opData.numMillerRabinRounds > 0 then
    decide (opData.numMillerRabinRounds ≤ 50) && opData.millerRabinRandomInput.pData != 0 &&
      opData.millerRabinRandomInput.dataLenInBytes != 0
  else true

/-- `pBuffInputMillerRabin[round]`, for rounds from 1 on. -/
def PrimeTestOpData.randomNumber (opData : PrimeTestOpData) (mrRoundSizeInBytes : UInt32)
    (round : Nat) : FlatBuffer :=
  ⟨opData.millerRabinRandomInput.pData + (round - 1) * mrRoundSizeInBytes.toNat, mrRoundSizeInBytes⟩

/-- The checks of the random numbers. -/
def randomInputCheck (m : Memory) (opData : PrimeTestOpData) (mrRoundSizeInBytes : UInt32) : Bool :=
  opData.millerRabinRandomInput.dataLenInBytes = opData.numMillerRabinRounds * mrRoundSizeInBytes ∧
    (List.range' 1 opData.numMillerRabinRounds.toNat).all fun round =>
      let randomNumber := (opData.randomNumber mrRoundSizeInBytes round).bytes m
      lacPkeCompareZero ⟨randomNumber⟩ (-1) > 0 ∧
        lacPkeCompare ⟨randomNumber⟩ 0 ⟨opData.primeCandidate.bytes m⟩ (-1) < 0

/-- The lists of arguments, which are used for all requests; the pointers are those up to the first
    NULL. -/
structure PrimeArgs where
  inArgList : List FlatBuffer
  inArgSizeList : Nat → UInt32
  internalMemInList : Nat → Bool

/-- `LacPrimePopulateParam`, for a list of pointers that was set to zeros. -/
def lacPrimePopulateParam (testId : PrimeTest) (opSizeInBytes : UInt32) (a : PrimeArgs)
    (internalPrimeMem : Bool) (primeBuff randomNumber : FlatBuffer) : PrimeArgs :=
  match testId with
  | .gcd | .fermat | .lucas =>
      { inArgList := [primeBuff]
        inArgSizeList := update a.inArgSizeList 0 opSizeInBytes
        internalMemInList := update a.internalMemInList 0 internalPrimeMem }
  | .millerRabin =>
      { inArgList := [randomNumber, primeBuff]
        inArgSizeList := update (update a.inArgSizeList 0 opSizeInBytes) 1 opSizeInBytes
        internalMemInList := update (update a.internalMemInList 0 false) 1 internalPrimeMem }

/-- The parameters that the lists describe. -/
def PrimeArgs.params (a : PrimeArgs) : List BufferParam :=
  a.inArgList.mapIdx fun i b =>
    ⟨b.pData, b.dataLenInBytes, a.inArgSizeList i, a.internalMemInList i⟩

/-- `LacPke_ResizeParams` notes in the list which parameters it copied. -/
def PrimeArgs.resized (a : PrimeArgs) (inputs : List PkeArg) : PrimeArgs :=
  { a with internalMemInList := fun i =>
      match inputs[i]? with
      | some x => x.internal
      | none => a.internalMemInList i }

/-- The locals of the loops, memory, and what the coming calls for an entry of the request pool
    give. -/
structure PrimeLoop where
  s : BufferState
  requestEntries : List Bool
  chain : List PkeReq
  args : PrimeArgs
  pBuffPrimeInternal : FlatBuffer
  internalPrimeMem : Bool

section

variable (opData : PrimeTestOpData)

/-- The locals before the loops. -/
def PrimeLoop.start (s : BufferState) (requestEntries : List Bool) : PrimeLoop :=
  { s := s, requestEntries := requestEntries, chain := [],
    args := ⟨[], fun _ => 0, fun _ => false⟩,
    pBuffPrimeInternal := opData.primeCandidate, internalPrimeMem := false }

/-- The index of the modulus in the list of inputs. -/
def PrimeTest.modulusIndex : PrimeTest → Nat
  | millerRabin => 1
  | gcd | fermat | lucas => 0

/-- The second request of the chain if there is one, and else the head. -/
def firstNotGcd : List PkeReq → Option PkeReq
  | [] => none
  | [head] => some head
  | _ :: next :: _ => some next

/-- The lists of arguments in a round of a test. -/
def roundArgs (mrRoundSizeInBytes : UInt32) (testId : PrimeTest) (dataOpLenInBytes : UInt32)
    (round : Nat) (l : PrimeLoop) : PrimeArgs :=
  lacPrimePopulateParam testId dataOpLenInBytes l.args l.internalPrimeMem
    (if testId = .gcd then opData.primeCandidate else l.pBuffPrimeInternal)
    (opData.randomNumber mrRoundSizeInBytes round)

/-- One round of a test. -/
def primeRound (mrRoundSizeInBytes : UInt32) (testId : PrimeTest)
    (functionalityId dataOpLenInBytes : UInt32) (round : Nat) (l : PrimeLoop) : Bool × PrimeLoop :=
  let args := roundArgs opData mrRoundSizeInBytes testId dataOpLenInBytes round l
  let r := createRequest l.s l.chain
    ⟨l.requestEntries.headD false, functionalityId, args.params, []⟩
  let inputs := (r.2.1.getLast?.map PkeReq.inputs).getD []
  let next : PrimeLoop :=
    { l with s := r.2.2, requestEntries := l.requestEntries.tail, chain := r.2.1,
             args := args.resized inputs }
  if r.1 ∧ testId ≠ .gcd ∧ l.pBuffPrimeInternal.dataLenInBytes < dataOpLenInBytes then
    let inputs := ((firstNotGcd r.2.1).map PkeReq.inputs).getD []
    let pData := (inputs[testId.modulusIndex]?.map PkeArg.ptr).getD 0
    (true, { next with pBuffPrimeInternal := ⟨pData, dataOpLenInBytes⟩, internalPrimeMem := true })
  else (r.1, next)

/-- The rounds of a test, up to the first that fails. -/
def primeRounds (opData : PrimeTestOpData) (mrRoundSizeInBytes : UInt32) (testId : PrimeTest)
    (functionalityId dataOpLenInBytes : UInt32) : List Nat → PrimeLoop → Bool × PrimeLoop
  | [], l => (true, l)
  | round :: rounds, l =>
      let r := primeRound opData mrRoundSizeInBytes testId functionalityId dataOpLenInBytes round l
      if r.1 then
        primeRounds opData mrRoundSizeInBytes testId functionalityId dataOpLenInBytes rounds r.2
      else r

/-- How `cpaCyPrimeTest` ends. `unsupportedLength` is `CPA_STATUS_INVALID_PARAM` with the message
    about the bit length of the candidate. -/
inductive PrimeStatus where
  | success | invalidParam | unsupportedLength | resource | requestFailed | sendFailed
deriving DecidableEq, Repr

def PrimeTestOpData.numRounds : PrimeTest → Nat
  | .gcd => if opData.performGcdTest then 1 else 0
  | .fermat => if opData.performFermatTest then 1 else 0
  | .millerRabin => opData.numMillerRabinRounds.toNat
  | .lucas => if opData.performLucasTest then 1 else 0

/-- The loop over the tests. -/
def primeTests (opData : PrimeTestOpData) (inputLenInBits mrRoundSizeInBytes : UInt32) :
    List PrimeTest → PrimeLoop → PrimeStatus × PrimeLoop
  | [], l => (.success, l)
  | testId :: tests, l =>
      let f := lacPrimeGetFuncID testId inputLenInBits
      if 0 < opData.numRounds testId ∧ f.1 = lacPkeInvalidFuncId then (.unsupportedLength, l)
      else
        let r := primeRounds opData mrRoundSizeInBytes testId f.1 (testId.opBytes inputLenInBits)
          (List.range' 1 (opData.numRounds testId)) l
        if r.1 then primeTests opData inputLenInBits mrRoundSizeInBytes tests r.2
        else (.requestFailed, r.2)

/-- The status, the requests that were created, and memory. -/
structure PrimeOutcome where
  status : PrimeStatus
  chain : List PkeReq
  s : BufferState

/-- `cpaCyPrimeTest`. The prime pool has an entry if `primeEntry`, and `LacPke_SendRequest` succeeds
    if `sent`. -/
def cpaCyPrimeTest (s : BufferState) (requestEntries : List Bool) (primeEntry sent : Bool) :
    PrimeOutcome :=
  if lacPrimeParameterCheck s.mem opData = false then ⟨.invalidParam, [], s⟩
  else
    match lacPkeGetBitPos ⟨opData.primeCandidate.bytes s.mem⟩ with
    | none => ⟨.invalidParam, [], s⟩
    | some pos =>
        let inputLenInBits := pos.bitPos + 1
        let inputLenInBytes := opData.primeCandidate.dataLenInBytes - pos.indexMsb
        let mrRoundSizeInBytes := if inputLenInBytes > 64 then inputLenInBytes else 64
        if opData.numMillerRabinRounds > 0 ∧
            (lacPrimeGetFuncID .fermat inputLenInBits).1 = lacPkeInvalidFuncId then
          ⟨.unsupportedLength, [], s⟩
        else if opData.numMillerRabinRounds > 0 ∧
            randomInputCheck s.mem opData mrRoundSizeInBytes = false then
          ⟨.invalidParam, [], s⟩
        else if primeEntry = false then ⟨.resource, [], s⟩
        else
          let r := primeTests opData inputLenInBits mrRoundSizeInBytes
            [.gcd, .fermat, .millerRabin, .lucas] (PrimeLoop.start opData s requestEntries)
          if r.1 = .success then ⟨if sent then .success else .sendFailed, r.2.chain, r.2.s⟩
          else ⟨r.1, r.2.chain, r.2.s⟩

end

/-! ## Bit lengths -/

/-- The turns of the loop that locates the most significant bit. -/
def leadingZeros : Nat → UInt8 → Nat
  | 0, _ => 0
  | n + 1, b => if b &&& 0x80 = 0 then leadingZeros n (b <<< 1) + 1 else 0

theorem leadingZeros_spec : ∀ b : UInt8, b ≠ 0 →
    leadingZeros 8 b ≤ 7 ∧ 2 ^ (7 - leadingZeros 8 b) ≤ b.toNat ∧
      b.toNat < 2 ^ (8 - leadingZeros 8 b) := by
  have h : ∀ n : Fin 256, UInt8.ofNat n.val ≠ 0 → leadingZeros 8 (UInt8.ofNat n.val) ≤ 7 ∧
        2 ^ (7 - leadingZeros 8 (UInt8.ofNat n.val)) ≤ (UInt8.ofNat n.val).toNat ∧
        (UInt8.ofNat n.val).toNat < 2 ^ (8 - leadingZeros 8 (UInt8.ofNat n.val)) := by
    decide +kernel
  intro b hb
  have hval := h ⟨b.toNat, b.toNat_lt⟩
  simp only [UInt8.ofNat_toNat] at hval
  exact hval hb

theorem locateMsb_toNat (n : Nat) (b : UInt8) (pos : UInt32) (h : leadingZeros n b ≤ pos.toNat) :
    (locateMsb n b pos).toNat = pos.toNat - leadingZeros n b := by
  induction n generalizing b pos with
  | zero => rfl
  | succ n ih =>
    rw [locateMsb, leadingZeros] at *
    split
    · next hzero =>
      rw [if_pos hzero] at h
      have hsub : (pos - 1).toNat = pos.toNat - 1 := by
        apply UInt32.toNat_sub_of_le
        rw [UInt32.le_iff_toNat_le]
        exact Nat.le_trans (Nat.le_add_left 1 _) h
      rw [ih _ _ (by omega), hsub]
      omega
    · rfl

section BitLength

variable {bs : List UInt8}

theorem lacPkeGetMinBytes_zero_cons (bs : List UInt8) :
    lacPkeGetMinBytes ⟨0 :: bs⟩ = lacPkeGetMinBytes ⟨bs⟩ := by
  simp [lacPkeGetMinBytes]

theorem lacPkeGetMinBytes_cons {b : UInt8} (hb : b ≠ 0) (bs : List UInt8) :
    lacPkeGetMinBytes ⟨b :: bs⟩ = bs.length + 1 := by
  simp [lacPkeGetMinBytes, hb]

/-- A number that is not 0: zeros, a byte that is not 0, and the bytes after it. -/
theorem exists_msByte (h : beValue bs ≠ 0) :
    ∃ k b rest, bs = List.replicate k 0 ++ b :: rest ∧ b ≠ 0 ∧
      lacPkeGetMinBytes ⟨bs⟩ = rest.length + 1 := by
  induction bs with
  | nil => exact absurd rfl h
  | cons a as ih =>
    by_cases ha : a = 0
    · subst ha
      have hrest : beValue as ≠ 0 := by
        rw [beValue_cons] at h
        simpa using h
      obtain ⟨k, b, rest, rfl, hb, hmin⟩ := ih hrest
      exact ⟨k + 1, b, rest, rfl, hb, by rw [lacPkeGetMinBytes_zero_cons, hmin]⟩
    · exact ⟨0, a, as, rfl, ha, lacPkeGetMinBytes_cons ha as⟩

/-- The bit length of a number from its first byte. -/
theorem size_beValue_cons {b : UInt8} (hb : b ≠ 0) (rest : List UInt8) :
    Nat.size (beValue (b :: rest)) = 8 * (rest.length + 1) - leadingZeros 8 b := by
  obtain ⟨hzeros, hlow, hhigh⟩ := leadingZeros_spec b hb
  have hrest := beValue_lt rest
  have hpow : (256 : Nat) ^ rest.length = 2 ^ (8 * rest.length) := by rw [pow_mul]; rfl
  rw [hpow] at hrest
  rw [beValue_cons, hpow]
  apply Nat.le_antisymm
  · rw [Nat.size_le]
    calc b.toNat * 2 ^ (8 * rest.length) + beValue rest
        < (b.toNat + 1) * 2 ^ (8 * rest.length) := by rw [Nat.add_mul]; omega
      _ ≤ 2 ^ (8 - leadingZeros 8 b) * 2 ^ (8 * rest.length) := Nat.mul_le_mul_right _ hhigh
      _ = 2 ^ (8 * (rest.length + 1) - leadingZeros 8 b) := by
          rw [← pow_add]
          congr 1
          omega
  · have hlt : 8 * (rest.length + 1) - leadingZeros 8 b - 1 <
        Nat.size (b.toNat * 2 ^ (8 * rest.length) + beValue rest) := by
      rw [Nat.lt_size]
      calc 2 ^ (8 * (rest.length + 1) - leadingZeros 8 b - 1)
          = 2 ^ (7 - leadingZeros 8 b) * 2 ^ (8 * rest.length) := by
            rw [← pow_add]
            congr 1
            omega
        _ ≤ b.toNat * 2 ^ (8 * rest.length) := Nat.mul_le_mul_right _ hlow
        _ ≤ _ := Nat.le_add_right _ _
    omega

/-- The position of the most significant bit gives the bit length, and its byte the byte length. -/
theorem lacPkeGetBitPos_spec {pos : BitPos} (h : beValue bs ≠ 0) (hlen : bs.length < 2 ^ 32)
    (hpos : lacPkeGetBitPos ⟨bs⟩ = some pos) :
    (pos.bitPos + 1).toNat = Nat.size (beValue bs) ∧ Nat.size (beValue bs) ≤ 4096 ∧
      pos.indexMsb.toNat + (Nat.size (beValue bs) + 7) / 8 = bs.length := by
  obtain ⟨k, b, rest, rfl, hb, hmin⟩ := exists_msByte h
  have hlength : (List.replicate k (0 : UInt8) ++ b :: rest).length = k + (rest.length + 1) := by simp
  have hindex : k + (rest.length + 1) - (rest.length + 1) = k := by omega
  have hmsByte : (List.replicate k (0 : UInt8) ++ b :: rest).getD k 0 = b := by simp
  unfold lacPkeGetBitPos at hpos
  dsimp only at hpos
  rw [hmin, hlength, hindex, if_neg (by omega), hmsByte] at hpos
  split at hpos
  · cases hpos
  rename_i hshort
  cases hpos
  have hzeros := (leadingZeros_spec b hb).1
  have hsize : Nat.size (beValue (List.replicate k 0 ++ b :: rest)) =
      8 * (rest.length + 1) - leadingZeros 8 b := by
    rw [beValue_replicate_append, size_beValue_cons hb]
  have hstart : (UInt32.ofNat (rest.length + 1) * 8 - 1).toNat = 8 * (rest.length + 1) - 1 := by
    have hmul : (UInt32.ofNat (rest.length + 1) * 8).toNat = 8 * (rest.length + 1) := by
      have hnum : (UInt32.ofNat (rest.length + 1)).toNat = rest.length + 1 := by
        rw [UInt32.toNat_ofNat']
        omega
      rw [UInt32.toNat_mul, hnum]
      show (rest.length + 1) * 8 % 2 ^ 32 = _
      omega
    rw [UInt32.toNat_sub_of_le _ _ (by rw [UInt32.le_iff_toNat_le, hmul]; simp; omega), hmul]
    rfl
  have hbit := locateMsb_toNat 8 b (UInt32.ofNat (rest.length + 1) * 8 - 1) (by omega)
  rw [hlength] at hlen ⊢
  refine ⟨?_, by omega, ?_⟩
  · show (locateMsb 8 b _ + 1).toNat = _
    rw [UInt32.toNat_add, hbit, hstart, hsize]
    simp
    omega
  · show (UInt32.ofNat k).toNat + _ = _
    rw [UInt32.toNat_ofNat', hsize]
    omega

end BitLength

/-! ## Supported lengths -/

/-- The function id of a bit length: the one of the table, or the one for the other lengths below
    512. -/
def PrimeTest.FunctionFor (testId : PrimeTest) (bits : Nat) (functionalityId : UInt32) : Prop :=
  (∃ row ∈ testId.sizeIdMap, row.1.toNat = bits ∧ row.2 = functionalityId) ∨
    (bits < 512 ∧ (∀ row ∈ testId.sizeIdMap, row.1.toNat ≠ bits) ∧ functionalityId = testId.less512)

section FunctionId

variable {testId : PrimeTest} {sizeInBits : UInt32}

theorem lacPkeGetMmpId_cases (sizeInBits : UInt32) (table : List (UInt32 × UInt32)) :
    (∃ row ∈ table, row.1 = sizeInBits ∧ lacPkeGetMmpId sizeInBits table = row.2) ∨
      ((∀ row ∈ table, row.1 ≠ sizeInBits) ∧
        lacPkeGetMmpId sizeInBits table = lacPkeInvalidFuncId) := by
  unfold lacPkeGetMmpId
  rcases hfind : table.find? fun row => row.1 = sizeInBits with _ | row
  · exact .inr ⟨by simpa using hfind, by rw [hfind]⟩
  · exact .inl ⟨row, List.mem_of_find?_eq_some hfind, by simpa using List.find?_some hfind,
      by rw [hfind]⟩

/-- What holds of all entries of a table is decided entry by entry, not over their type. -/
theorem forall_mem_of_all {α : Type} {P : α → Prop} [DecidablePred P] {table : List α}
    (h : (table.all fun entry => decide (P entry)) = true) : ∀ entry ∈ table, P entry :=
  fun entry hmem => of_decide_eq_true (List.all_eq_true.mp h entry hmem)

theorem PrimeTest.sizeIdMap_valid (testId : PrimeTest) :
    testId.less512 ≠ lacPkeInvalidFuncId ∧
      ∀ row ∈ testId.sizeIdMap, row.2 ≠ lacPkeInvalidFuncId := by
  refine ⟨?_, forall_mem_of_all ?_⟩ <;> cases testId <;> decide

/-- A function is found for a length of the table and for every length below 512. -/
theorem lacPrimeGetFuncID_cases (testId : PrimeTest) (sizeInBits : UInt32) :
    (∃ row ∈ testId.sizeIdMap, row.1 = sizeInBits ∧
        lacPrimeGetFuncID testId sizeInBits = (row.2, sizeInBits)) ∨
      ((∀ row ∈ testId.sizeIdMap, row.1 ≠ sizeInBits) ∧
        ((sizeInBits < 512 ∧ lacPrimeGetFuncID testId sizeInBits = (testId.less512, 512)) ∨
          (¬ sizeInBits < 512 ∧
            lacPrimeGetFuncID testId sizeInBits = (lacPkeInvalidFuncId, sizeInBits)))) := by
  unfold lacPrimeGetFuncID
  rcases lacPkeGetMmpId_cases sizeInBits testId.sizeIdMap with ⟨row, hrow, hsize, hid⟩ | ⟨hnone, hid⟩
  · refine .inl ⟨row, hrow, hsize, ?_⟩
    rw [hid]
    exact if_neg fun h => testId.sizeIdMap_valid.2 row hrow h.1
  · refine .inr ⟨hnone, ?_⟩
    rw [hid]
    by_cases hlt : sizeInBits < 512
    · exact .inl ⟨hlt, if_pos ⟨rfl, hlt⟩⟩
    · exact .inr ⟨hlt, if_neg fun h => hlt h.2⟩

theorem functionFor_of_valid (h : (lacPrimeGetFuncID testId sizeInBits).1 ≠ lacPkeInvalidFuncId) :
    testId.FunctionFor sizeInBits.toNat (lacPrimeGetFuncID testId sizeInBits).1 := by
  rcases lacPrimeGetFuncID_cases testId sizeInBits with
    ⟨row, hrow, hsize, hid⟩ | ⟨hnone, ⟨hlt, hid⟩ | ⟨-, hid⟩⟩
  · rw [hid]
    exact .inl ⟨row, hrow, congrArg UInt32.toNat hsize, rfl⟩
  · rw [hid]
    refine .inr ⟨by simpa [UInt32.lt_iff_toNat_lt] using hlt, fun row hrow heq => ?_, rfl⟩
    exact hnone row hrow (UInt32.toNat_inj.mp heq)
  · rw [hid] at h
    exact absurd rfl h

/-- All tests support the same lengths. -/
theorem lacPrimeGetFuncID_invalid_iff :
    (lacPrimeGetFuncID testId sizeInBits).1 = lacPkeInvalidFuncId ↔
      512 ≤ sizeInBits ∧ sizeInBits ∉ [512, 768, 1024, 1536, 2048, 3072, 4096] := by
  have hsmall : ∀ row ∈ testId.sizeIdMap,
      row.1 < 512 ∨ row.1 ∈ [512, 768, 1024, 1536, 2048, 3072, 4096] := by
    refine forall_mem_of_all ?_
    cases testId <;> decide
  have hlarge : ∀ size ∈ [512, 768, 1024, 1536, 2048, 3072, 4096],
      size ∈ testId.sizeIdMap.map Prod.fst := by
    refine forall_mem_of_all ?_
    cases testId <;> decide
  rcases lacPrimeGetFuncID_cases testId sizeInBits with
    ⟨row, hrow, rfl, hid⟩ | ⟨hnone, ⟨hlt, hid⟩ | ⟨hge, hid⟩⟩
  · rw [hid]
    refine ⟨fun h => absurd h (testId.sizeIdMap_valid.2 row hrow), fun h => ?_⟩
    rcases hsmall row hrow with hlt | hmem
    · exact absurd h.1 (UInt32.not_le.mpr hlt)
    · exact absurd hmem h.2
  · rw [hid]
    exact ⟨fun h => absurd h testId.sizeIdMap_valid.1, fun h => absurd hlt (UInt32.not_lt.mpr h.1)⟩
  · rw [hid]
    refine ⟨fun _ => ⟨UInt32.not_lt.mp hge, fun hmem => ?_⟩, fun _ => rfl⟩
    obtain ⟨row, hrow, heq⟩ := List.mem_map.mp (hlarge sizeInBits hmem)
    exact hnone row hrow heq

/-- A length that is not in the table is replaced if it is below 512. -/
theorem opLen_eq (testId : PrimeTest) (sizeInBits : UInt32) :
    (lacPrimeGetFuncID testId sizeInBits).2 =
      if sizeInBits ∉ testId.sizeIdMap.map Prod.fst ∧ sizeInBits < 512 then 512 else sizeInBits := by
  rcases lacPrimeGetFuncID_cases testId sizeInBits with
    ⟨row, hrow, hsize, hid⟩ | ⟨hnone, ⟨hlt, hid⟩ | ⟨hge, hid⟩⟩
  · rw [hid, if_neg fun h => h.1 (List.mem_map.mpr ⟨row, hrow, hsize⟩)]
  · have hmem : sizeInBits ∉ testId.sizeIdMap.map Prod.fst := by
      rw [List.mem_map]
      rintro ⟨row, hrow, heq⟩
      exact hnone row hrow heq
    rw [hid, if_pos ⟨hmem, hlt⟩]
  · rw [hid, if_neg fun h => hge h.2]

/-- The tests other than GCD have the same size of arguments. -/
theorem opLen_eq_fermat (h : testId ≠ .gcd) :
    (lacPrimeGetFuncID testId sizeInBits).2 = (lacPrimeGetFuncID .fermat sizeInBits).2 := by
  have hsizes : testId.sizeIdMap.map Prod.fst = PrimeTest.fermat.sizeIdMap.map Prod.fst := by
    cases testId with
    | gcd => exact absurd rfl h
    | fermat => rfl
    | millerRabin => rfl
    | lucas => rfl
  rw [opLen_eq, opLen_eq, hsizes]

theorem opBytes_eq_fermat (h : testId ≠ .gcd) (sizeInBits : UInt32) :
    testId.opBytes sizeInBits = PrimeTest.fermat.opBytes sizeInBits := by
  rw [PrimeTest.opBytes, opLen_eq_fermat h, PrimeTest.opBytes]

/-- The arguments have room for every number of a supported length, and are whole quadwords. -/
theorem opBytes_spec (h : (lacPrimeGetFuncID testId sizeInBits).1 ≠ lacPkeInvalidFuncId) :
    sizeInBits.toNat ≤ 8 * (testId.opBytes sizeInBits).toNat ∧ 0 < (testId.opBytes sizeInBits).toNat ∧
      (testId.opBytes sizeInBits).toNat ≤ 512 ∧ 8 ∣ (testId.opBytes sizeInBits).toNat := by
  have hsizes : ∀ row ∈ testId.sizeIdMap, row.1.toNat ≤ 8 * (alignPow2Roundup (row.1 >>> 3) 8).toNat ∧
      0 < (alignPow2Roundup (row.1 >>> 3) 8).toNat ∧ (alignPow2Roundup (row.1 >>> 3) 8).toNat ≤ 512 ∧
      8 ∣ (alignPow2Roundup (row.1 >>> 3) 8).toNat := by
    refine forall_mem_of_all ?_
    cases testId <;> decide
  unfold PrimeTest.opBytes
  rcases lacPrimeGetFuncID_cases testId sizeInBits with
    ⟨row, hrow, rfl, hid⟩ | ⟨-, ⟨hlt, hid⟩ | ⟨-, hid⟩⟩
  · rw [hid]
    exact hsizes row hrow
  · have h512 : (alignPow2Roundup ((512 : UInt32) >>> 3) 8).toNat = 64 := by decide
    have hbits : sizeInBits.toNat < 512 := UInt32.lt_iff_toNat_lt.mp hlt
    rw [hid, h512]
    omega
  · rw [hid] at h
    exact absurd rfl h

end FunctionId

end Qatlib.Crypto
