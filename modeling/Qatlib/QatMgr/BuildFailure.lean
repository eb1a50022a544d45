import Qatlib.QatMgr.SectionRuns

set_option autoImplicit false

/-! # What a failed call leaves behind

Every failing exit of `qat_mgr_build_data` after the allocation of the section table calls
`qat_mgr_cleanup_cfg`, except the one for an unknown configuration of a device. The exit that is taken
depends on the first VF whose set-up fails. This module says in terms of the answers of the environment
which VFs are set up, in particular which capabilities a VF has when those of its PF are cached, and
derives when a failed call leaves nothing behind. -/

namespace Qatlib.QatMgr

/-! ## The capabilities of a VF -/

section

variable (env : BuildEnv) (devList : List DevData)

variable (vm : Bool) (k : Nat) (vf : DevData)

/-- The capabilities that the PF reports when the `k`-th VF asks, if it does. -/
def capAnswer : Option Nat :=
  if env.vf2pfAvailable k then
    match env.getCapabilities k with
    | .answer _ capabilities => some capabilities
    | _ => none
  else none

/-- The PF finds itself incompatible when the `k`-th VF asks. -/
def capRefused : Bool :=
  if env.vf2pfAvailable k then
    match env.getCapabilities k with
    | .failed _ compatible => !compatible
    | _ => false
  else false

/-- The first answer of a PF to one of the first `n` VFs. -/
def firstAnswer (env : BuildEnv) (devList : List DevData) (pf : BitVec 32) : Nat → Option Nat
  | 0 => none
  | n + 1 =>
      (firstAnswer env devList pf n).or
        (if (devList[n]?).map (fun vf => pfKey vf.bdf) = some pf then capAnswer env n else none)

/-- The `k`-th VF asks its PF: always in a virtual machine, and otherwise if no VF before got an
    answer. -/
def Asks : Prop :=
  vm = true ∨ firstAnswer env devList (pfKey vf.bdf) k = none

/-- The capabilities of the `k`-th VF. -/
def vfCapabilities : Nat :=
  if vm then (capAnswer env k).getD fallbackCapabilities
  else (firstAnswer env devList (pfKey vf.bdf) (k + 1)).getD fallbackCapabilities

/-- The capabilities of the `k`-th VF can be set. -/
def CapsSet : Prop :=
  Asks env devList vm k vf → capRefused env k = false ∧
      (vm = false → (capAnswer env k).isSome = true → env.callocCache k = true)

/-- The cache holds the first answer of every PF. -/
def CacheHolds (cache : List PfCapabilities) : Prop :=
  ∀ pf, (cache.find? fun caps => caps.pf = pf).map PfCapabilities.capabilities =
    firstAnswer env devList pf k

end

variable {env : BuildEnv} {cfg : Cfg} {devList : List DevData} {vm staticCfg : Bool}
  {policy numSectionData : Int} {pfsPerVfGroup sizes : List Nat} {k n : Nat} {vf : DevData}
  {device : DeviceData} {cache : List PfCapabilities}

section Capabilities

theorem firstAnswer_succ (hvf : devList[k]? = some vf) (pf : BitVec 32) :
    firstAnswer env devList pf (k + 1) =
      (firstAnswer env devList pf k).or (if pfKey vf.bdf = pf then capAnswer env k else none) := by
  simp only [firstAnswer, hvf, Option.map_some, Option.some.injEq]

/-- A VF that gets no answer changes nothing for those behind it. -/
theorem CacheHolds.next (h : CacheHolds env devList k cache) (hvf : devList[k]? = some vf)
    (hnone : firstAnswer env devList (pfKey vf.bdf) k = none → capAnswer env k = none) :
    CacheHolds env devList (k + 1) cache := by
  intro pf
  rw [h pf, firstAnswer_succ hvf]
  by_cases hpf : pfKey vf.bdf = pf
  · subst hpf
    rw [if_pos rfl]
    cases hfirst : firstAnswer env devList (pfKey vf.bdf) k with
    | none => rw [hnone hfirst]; rfl
    | some caps => rfl
  · rw [if_neg hpf, Option.or_none]

theorem CacheHolds.cons {extDcCaps capabilities : Nat} (h : CacheHolds env devList k cache)
    (hvf : devList[k]? = some vf) (hfirst : firstAnswer env devList (pfKey vf.bdf) k = none)
    (hanswer : capAnswer env k = some capabilities) :
    CacheHolds env devList (k + 1) (⟨pfKey vf.bdf, extDcCaps, capabilities⟩ :: cache) := by
  intro pf
  rw [firstAnswer_succ hvf]
  by_cases hpf : pfKey vf.bdf = pf
  · subst hpf
    simp [hfirst, hanswer]
  · rw [if_neg hpf, Option.or_none, ← h pf]
    simp [hpf]

/-- Nothing is found in the cache exactly when the VF asks. -/
theorem cachedFor_eq_none_iff (hcache : vm = false → CacheHolds env devList k cache) :
    cachedFor vm vf cache = none ↔ Asks env devList vm k vf := by
  unfold cachedFor Asks
  cases vm with
  | true => simp
  | false =>
    rw [← hcache rfl (pfKey vf.bdf)]
    simp

/-- A PF that is asked finds itself incompatible, gives no answer, or answers. -/
theorem askCapabilities_cases (env : BuildEnv) (vm : Bool) (vf : DevData) (k : Nat)
    (device : DeviceData) (cache : List PfCapabilities) :
    (capRefused env k = true ∧ ∃ e, askCapabilities env vm vf k device cache = .error e) ∨
      capRefused env k = false ∧
        ((capAnswer env k = none ∧ ∃ groupFd, askCapabilities env vm vf k device cache =
            .ok ({ device with groupFd := groupFd }, cache)) ∨
          ∃ capabilities extDcCaps, capAnswer env k = some capabilities ∧
            askCapabilities env vm vf k device cache =
              if vm = true ∨ env.callocCache k = true then
                .ok ({ device with
                    groupFd := -1
                    accelCapabilities := capabilities
                    extendedCapabilities := extDcCaps },
                  if vm then cache else ⟨pfKey vf.bdf, extDcCaps, capabilities⟩ :: cache)
              else .error eagain) := by
  unfold capRefused capAnswer askCapabilities
  split
  · cases env.getCapabilities k with
    | openFailed => exact .inr ⟨rfl, .inl ⟨rfl, device.groupFd, rfl⟩⟩
    | failed ret compatible =>
      cases compatible with
      | false => exact .inl ⟨rfl, .ret ret, rfl⟩
      | true => exact .inr ⟨rfl, .inl ⟨rfl, -1, rfl⟩⟩
    | answer extDcCaps capabilities =>
      refine .inr ⟨rfl, .inr ⟨capabilities, extDcCaps, rfl, ?_⟩⟩
      cases vm <;> simp
  · exact .inr ⟨rfl, .inl ⟨rfl, device.groupFd, rfl⟩⟩

/-- A VF whose capabilities can be set has those of `vfCapabilities`. -/
theorem setCapabilities_of_set (device : DeviceData) (hvf : devList[k]? = some vf)
    (hcache : vm = false → CacheHolds env devList k cache)
    (hdevice : device.accelCapabilities = fallbackCapabilities)
    (hset : CapsSet env devList vm k vf) :
    ∃ device' cache', setCapabilities env vm vf k device cache = .ok (device', cache') ∧
      device'.accelCapabilities = vfCapabilities env devList vm k vf ∧
      (vm = false → CacheHolds env devList (k + 1) cache') := by
  unfold setCapabilities
  cases hcached : cachedFor vm vf cache with
  | some caps =>
    -- the PF has answered before
    obtain rfl : vm = false := by
      cases vm with
      | false => rfl
      | true => cases hcached
    have hfirst : firstAnswer env devList (pfKey vf.bdf) k = some caps.capabilities := by
      have hfind : (cache.find? fun caps => caps.pf = pfKey vf.bdf) = some caps := hcached
      rw [← hcache rfl, hfind]
      rfl
    refine ⟨_, _, rfl, ?_, fun _ => (hcache rfl).next hvf (by simp [hfirst])⟩
    simp [vfCapabilities, firstAnswer_succ hvf, hfirst]
  | none =>
    have hasks := (cachedFor_eq_none_iff hcache).mp hcached
    obtain ⟨hrefused, halloc⟩ := hset hasks
    have hfirst : vm = false → firstAnswer env devList (pfKey vf.bdf) k = none :=
      fun hvm => hasks.resolve_left (by simp [hvm])
    have hcaps : vfCapabilities env devList vm k vf =
        (capAnswer env k).getD fallbackCapabilities := by
      unfold vfCapabilities
      cases vm with
      | true => rfl
      | false => simp [firstAnswer_succ hvf, hfirst rfl]
    dsimp only
    rcases askCapabilities_cases env vm vf k device cache with ⟨hrefused', -⟩ |
      ⟨-, ⟨hanswer, groupFd, hask⟩ | ⟨capabilities, extDcCaps, hanswer, hask⟩⟩
    · exact absurd (hrefused.symm.trans hrefused') (by simp)
    · refine ⟨_, _, hask, ?_, fun hvm => (hcache hvm).next hvf fun _ => hanswer⟩
      rw [hcaps, hanswer]
      exact hdevice
    · have hroom : vm = true ∨ env.callocCache k = true := by
        cases vm with
        | true => exact .inl rfl
        | false => exact .inr (halloc rfl (by rw [hanswer]; rfl))
      rw [if_pos hroom] at hask
      refine ⟨_, _, hask, by rw [hcaps, hanswer]; rfl, ?_⟩
      rintro rfl
      exact (hcache rfl).cons hvf (hfirst rfl) hanswer

theorem setCapabilities_of_not_set (device : DeviceData)
    (hcache : vm = false → CacheHolds env devList k cache) (hset : ¬ CapsSet env devList vm k vf) :
    ∃ e, setCapabilities env vm vf k device cache = .error e := by
  obtain ⟨hasks, hfail⟩ := Classical.not_imp.mp hset
  unfold setCapabilities
  rw [(cachedFor_eq_none_iff hcache).mpr hasks]
  dsimp only
  rcases askCapabilities_cases env vm vf k device cache with ⟨-, hask⟩ |
    ⟨hrefused, ⟨hanswer, -⟩ | ⟨capabilities, extDcCaps, hanswer, hask⟩⟩
  · exact hask
  · exact absurd ⟨hrefused, by simp [hanswer]⟩ hfail
  · have hroom : ¬ (vm = true ∨ env.callocCache k = true) := by
      rintro (rfl | hcalloc)
      · exact hfail ⟨hrefused, by simp⟩
      · exact hfail ⟨hrefused, fun _ _ => hcalloc⟩
    rw [if_neg hroom] at hask
    exact ⟨_, hask⟩

end Capabilities

/-! ## The set-up of a VF -/

/-- The three ways a part of the call can end: an unknown configuration, which leaves something
    behind, another failure, which does not, or success. -/
structure Ends {α β : Type} (r : Except (BuildFailure α) β) (unknown ready : Prop) (ok : β → Prop) :
    Prop where
  of_unknown : unknown → ∃ code left, r = .error ⟨.ret code, some left⟩
  of_failed : ¬ unknown → ¬ ready → ∃ e, r = .error ⟨e, none⟩
  of_ready : ready → ∃ b, r = .ok b ∧ ok b

/-- A part after another, with what the first leaves kept in what both leave. -/
theorem Ends.andThen {α α' β γ : Type} {r : Except (BuildFailure α) β}
    {r' : Except (BuildFailure α') γ} {keep : α → α'} {unknown ready unknown' ready' : Prop}
    {ok : β → Prop} {ok' : γ → Prop} (h : Ends r unknown ready ok)
    (herror : ∀ f, r = .error f → r' = .error ⟨f.error, f.left.map keep⟩)
    (hok : ∀ b, r = .ok b → ok b → Ends r' unknown' ready' ok') :
    Ends r' (unknown ∨ ready ∧ unknown') (ready ∧ ready') ok' := by
  constructor
  · rintro (hunknown | ⟨hready, hunknown⟩)
    · obtain ⟨code, left, heq⟩ := h.of_unknown hunknown
      exact ⟨code, keep left, herror _ heq⟩
    · obtain ⟨b, heq, hb⟩ := h.of_ready hready
      exact (hok b heq hb).of_unknown hunknown
  · intro hknown hfails
    by_cases hready : ready
    · obtain ⟨b, heq, hb⟩ := h.of_ready hready
      exact (hok b heq hb).of_failed (fun hunknown => hknown (.inr ⟨hready, hunknown⟩))
        fun hready' => hfails ⟨hready, hready'⟩
    · obtain ⟨e, heq⟩ := h.of_failed (fun hunknown => hknown (.inl hunknown)) hready
      exact ⟨e, herror _ heq⟩
  · rintro ⟨hready, hready'⟩
    obtain ⟨b, heq, hb⟩ := h.of_ready hready
    exact (hok b heq hb).of_ready hready'

section SetUp

variable (env cfg devList)

section

variable (k : Nat) (vf : DevData)

/-- The set-up of the `k`-th VF gets as far as its configuration. -/
def VfPrepared : Prop :=
  (getPkgId cfg.numPfs cfg.pfData vf.bdf).isSome = true ∧ CapsSet env devList cfg.vm k vf

/-- The services of the `k`-th VF. -/
def vfServices : Nat := servicesOf (vfCapabilities env devList cfg.vm k vf)

/-- The services of the `k`-th VF are one of the configurations. -/
def VfKnown : Prop :=
  (instanceCounts (vfServices env cfg devList k vf)).isSome = true

/-- There is memory for the instances of the `k`-th VF. -/
def VfAllocated : Prop :=
  ∀ numSym numAsym numCy numDc,
    instanceCounts (vfServices env cfg devList k vf) = some (numSym, numAsym, numCy, numDc) →
    (numDc ≠ 0 → env.callocDc k = true) ∧ (numCy ≠ 0 → env.callocCy k = true)

end

/-- The first `n` VFs from the `k`-th on are set up without a failure. -/
def AllReady (k n : Nat) : Prop :=
  ∀ j < n, ∀ vf, devList[k + j]? = some vf →
    VfPrepared env cfg devList (k + j) vf ∧ VfKnown env cfg devList (k + j) vf ∧
      VfAllocated env cfg devList (k + j) vf

/-- One of the first `n` VFs from the `k`-th on is the first that fails, and fails because its
    configuration is unknown. -/
def UnknownAmong (k n : Nat) : Prop :=
  ∃ j < n, AllReady env cfg devList k j ∧ ∃ vf, devList[k + j]? = some vf ∧
    VfPrepared env cfg devList (k + j) vf ∧ ¬ VfKnown env cfg devList (k + j) vf

/-- A VF with an unknown configuration is reached in sections of the given sizes, from the `i`-th
    section and the `k`-th VF on. -/
def UnknownReached : List Nat → Nat → Nat → Prop
  | [], _, _ => False
  | n :: sizes, i, k =>
      env.callocDevices i = true ∧ (UnknownAmong env cfg devList k n ∨
          AllReady env cfg devList k n ∧ UnknownReached sizes (i + 1) (k + n))

/-- All sections of the given sizes are built. -/
def SectionsReady : List Nat → Nat → Nat → Prop
  | [], _, _ => True
  | n :: sizes, i, k =>
      env.callocDevices i = true ∧ AllReady env cfg devList k n ∧ SectionsReady sizes (i + 1) (k + n)

variable {env cfg devList}

theorem configureDevice_ends (accelid : Nat) (p : Progress)
    (hservices : device.services = vfServices env cfg devList k vf)
    (hcache : cfg.vm = false → CacheHolds env devList (k + 1) p.cache) :
    Ends (configureDevice env device k accelid p) (¬ VfKnown env cfg devList k vf)
      (VfKnown env cfg devList k vf ∧ VfAllocated env cfg devList k vf)
      (fun b => cfg.vm = false → CacheHolds env devList (k + 1) b.2.cache) := by
  unfold configureDevice VfKnown VfAllocated
  rw [hservices]
  cases hcounts : instanceCounts (vfServices env cfg devList k vf) with
  | none =>
    exact ⟨fun _ => ⟨-1, _, rfl⟩, fun h => absurd (by simp) h, fun h => absurd h.1 (by simp)⟩
  | some counts =>
    obtain ⟨numSym, numAsym, numCy, numDc⟩ := counts
    dsimp only
    constructor
    · exact fun h => absurd rfl h
    · intro _ hnot
      split_ifs with hdc hcy
      · exact ⟨eagain, rfl⟩
      · exact ⟨eagain, rfl⟩
      · refine absurd ⟨rfl, ?_⟩ hnot
        rintro _ _ _ _ ⟨⟩
        simp only [not_and, Bool.not_eq_false] at hdc hcy
        exact ⟨hdc, hcy⟩
    · rintro ⟨-, halloc⟩
      obtain ⟨hdc, hcy⟩ := halloc _ _ _ _ rfl
      rw [if_neg (by simpa using hdc), if_neg (by simpa using hcy)]
      exact ⟨_, rfl, hcache⟩

theorem buildDevice_ends {p : Progress} (accelid : Nat) (hvf : devList[k]? = some vf)
    (hcache : cfg.vm = false → CacheHolds env devList k p.cache) :
    Ends (buildDevice env cfg vf k accelid p)
      (VfPrepared env cfg devList k vf ∧ ¬ VfKnown env cfg devList k vf)
      (VfPrepared env cfg devList k vf ∧ VfKnown env cfg devList k vf ∧
        VfAllocated env cfg devList k vf)
      (fun b => cfg.vm = false → CacheHolds env devList (k + 1) b.2.cache) := by
  unfold buildDevice
  cases hpkg : getPkgId cfg.numPfs cfg.pfData vf.bdf with
  | none =>
    have hnot : ¬ VfPrepared env cfg devList k vf := by simp [VfPrepared, hpkg]
    exact ⟨fun h => absurd h.1 hnot, fun _ _ => ⟨eagain, rfl⟩, fun h => absurd h.1 hnot⟩
  | some vfPkgId =>
    dsimp only
    by_cases hset : CapsSet env devList cfg.vm k vf
    · obtain ⟨device, cache, hcaps, haccel, hcache'⟩ := setCapabilities_of_set
        (deviceOf vf (devicePkgId vfPkgId accelid)) hvf hcache rfl hset
      have hprepared : VfPrepared env cfg devList k vf := ⟨by rw [hpkg]; rfl, hset⟩
      have hservices : (identify vf device).services = vfServices env cfg devList k vf := by
        rw [vfServices, ← haccel]
        rfl
      have hends := configureDevice_ends accelid { p with cache := cache } hservices hcache'
      rw [hcaps]
      dsimp only
      exact ⟨fun h => hends.of_unknown h.2,
        fun h1 h2 => hends.of_failed (fun h => h1 ⟨hprepared, h⟩) (fun h => h2 ⟨hprepared, h⟩),
        fun h => hends.of_ready h.2⟩
    · have hnot : ¬ VfPrepared env cfg devList k vf := fun h => hset h.2
      obtain ⟨e, hcaps⟩ := setCapabilities_of_not_set
        (deviceOf vf (devicePkgId vfPkgId accelid)) hcache hset
      rw [hcaps]
      exact ⟨fun h => absurd h.1 hnot, fun _ _ => ⟨e, rfl⟩, fun h => absurd h.1 hnot⟩

/-! ## The loops -/

theorem allReady_zero (k : Nat) : AllReady env cfg devList k 0 :=
  fun _ hj => absurd hj (Nat.not_lt_zero _)

/-- The first VF is set up, and then those behind it. -/
theorem allReady_succ (hvf : devList[k]? = some vf) :
    AllReady env cfg devList k (n + 1) ↔
      (VfPrepared env cfg devList k vf ∧ VfKnown env cfg devList k vf ∧
        VfAllocated env cfg devList k vf) ∧ AllReady env cfg devList (k + 1) n := by
  constructor
  · intro h
    refine ⟨by simpa using h 0 (by omega) vf (by simpa using hvf), fun j hj vf' hvf' => ?_⟩
    have hshift : k + (j + 1) = k + 1 + j := by omega
    have hnext := h (j + 1) (by omega) vf'
    rw [hshift] at hnext
    exact hnext hvf'
  · rintro ⟨hfirst, hrest⟩ j hj vf' hvf'
    cases j with
    | zero =>
      rw [Nat.add_zero, hvf, Option.some.injEq] at hvf'
      subst hvf'
      simpa using hfirst
    | succ j =>
      have hshift : k + (j + 1) = k + 1 + j := by omega
      rw [hshift] at hvf' ⊢
      exact hrest j (by omega) vf' hvf'

theorem unknownAmong_succ (hvf : devList[k]? = some vf) :
    UnknownAmong env cfg devList k (n + 1) ↔
      (VfPrepared env cfg devList k vf ∧ ¬ VfKnown env cfg devList k vf) ∨
      (VfPrepared env cfg devList k vf ∧ VfKnown env cfg devList k vf ∧
        VfAllocated env cfg devList k vf) ∧ UnknownAmong env cfg devList (k + 1) n := by
  constructor
  · rintro ⟨j, hj, hready, vf', hvf', hprepared, hknown⟩
    cases j with
    | zero =>
      rw [Nat.add_zero] at hvf' hprepared hknown
      rw [hvf, Option.some.injEq] at hvf'
      subst hvf'
      exact .inl ⟨hprepared, hknown⟩
    | succ j =>
      have hshift : k + (j + 1) = k + 1 + j := by omega
      obtain ⟨hfirst, hrest⟩ := (allReady_succ hvf).mp hready
      rw [hshift] at hvf' hprepared hknown
      exact .inr ⟨hfirst, j, by omega, hrest, vf', hvf', hprepared, hknown⟩
  · rintro (⟨hprepared, hknown⟩ | ⟨hfirst, j, hj, hrest, vf', hvf', hprepared, hknown⟩)
    · exact ⟨0, by omega, allReady_zero k, vf, by simpa using hvf, by simpa using hprepared,
        by simpa using hknown⟩
    · have hshift : k + (j + 1) = k + 1 + j := by omega
      refine ⟨j + 1, by omega, (allReady_succ hvf).mpr ⟨hfirst, hrest⟩, vf', ?_⟩
      rw [hshift]
      exact ⟨hvf', hprepared, hknown⟩

/-- How the loop over the VFs of a section ends depends on the first VF that fails. -/
theorem buildDevices_ends {vfs : List DevData} (j : Nat) (p : Progress) (devices : List DeviceData)
    (hvfs : ∀ i vf, vfs[i]? = some vf → devList[k + i]? = some vf)
    (hcache : cfg.vm = false → CacheHolds env devList k p.cache) :
    Ends (buildDevices env cfg vfs k j p devices) (UnknownAmong env cfg devList k vfs.length)
      (AllReady env cfg devList k vfs.length)
      (fun b => cfg.vm = false → CacheHolds env devList (k + vfs.length) b.2.cache) := by
  induction vfs generalizing k j p devices with
  | nil =>
    have hready : AllReady env cfg devList k 0 := allReady_zero k
    refine ⟨?_, fun _ h => absurd hready h, fun _ => ⟨_, rfl, hcache⟩⟩
    rintro ⟨_, hlt, -⟩
    exact absurd hlt (Nat.not_lt_zero _)
  | cons vf vfs ih =>
    have hvf : devList[k]? = some vf := by simpa using hvfs 0 vf rfl
    have hrest : ∀ i vf', vfs[i]? = some vf' → devList[k + 1 + i]? = some vf' := by
      intro i vf' h
      have hshift : k + 1 + i = k + (i + 1) := by omega
      rw [hshift]
      exact hvfs (i + 1) vf' h
    have hshift : k + (vfs.length + 1) = k + 1 + vfs.length := by omega
    rw [List.length_cons, unknownAmong_succ hvf, allReady_succ hvf, hshift]
    apply (buildDevice_ends j hvf hcache).andThen
    · intro f hfail
      rw [buildDevices, hfail]
    · intro b hbuild hcache'
      rw [buildDevices, hbuild]
      exact ih _ _ _ hrest hcache'

/-- How the loop over the sections ends. -/
theorem buildSections_ends {i : Nat} (core : Nat) (sections : List SectionData)
    (hsizes : SizesFrom policy pfsPerVfGroup devList.length i k sizes)
    (hcache : cfg.vm = false → CacheHolds env devList k cache) :
    Ends (buildSections env cfg devList policy pfsPerVfGroup sizes.length i k core cache sections)
      (UnknownReached env cfg devList sizes i k) (SectionsReady env cfg devList sizes i k)
      (fun _ => True) := by
  induction sizes generalizing i k core cache sections with
  | nil => exact ⟨False.elim, fun _ h => absurd trivial h, fun _ => ⟨_, rfl, trivial⟩⟩
  | cons n sizes ih =>
    obtain ⟨hnum, hle, hrest⟩ := hsizes
    have hlen : ((devList.drop k).take n).length = n := by
      rw [List.length_take, List.length_drop]
      omega
    have hvfs : ∀ j vf, ((devList.drop k).take n)[j]? = some vf → devList[k + j]? = some vf := by
      intro j vf h
      rw [List.getElem?_take] at h
      split at h
      · rwa [List.getElem?_drop] at h
      · cases h
    have hdevices := buildDevices_ends 0 ⟨core, 0, 0, 0, cache⟩ [] hvfs hcache
    rw [hlen] at hdevices
    rw [List.length_cons, buildSections]
    simp only [hnum, Int.toNat_natCast]
    cases hcalloc : env.callocDevices i with
    | false =>
      rw [if_pos (.inr rfl)]
      refine ⟨fun h => ?_, fun _ _ => ⟨eagain, rfl⟩, fun h => ?_⟩
      · exact absurd h.1 (by simp [hcalloc])
      · exact absurd h.1 (by simp [hcalloc])
    | true =>
      rw [if_neg (by simp)]
      simp only [UnknownReached, SectionsReady, hcalloc, true_and]
      apply hdevices.andThen
      · intro f hfail
        rw [hfail]
      · intro b hbuild hcache'
        rw [hbuild]
        exact ih _ _ hrest hcache'

end SetUp

/-! ## A failed call -/

/-- The section table is NULL and has no sections. -/
def Cfg.NothingLeft (cfg : Cfg) : Prop := cfg.sectionData = none ∧ cfg.numSectionData = 0

theorem Cfg.cleanup_nothingLeft (h : cfg.sectionData.isSome = true) : cfg.cleanup.NothingLeft :=
  ⟨rfl, if_pos h⟩

/-- The sizes of the sections: the groups, or the policy. -/
def plannedSizes (policy : Int) (pfsPerVfGroup : List Nat) (numSectionData : Int) : List Nat :=
  if policy = 0 then
    (List.range numSectionData.toNat).map fun i => pfsPerVfGroup.getD i 0
  else List.replicate numSectionData.toNat policy.toNat

section

variable (h : Planned env cfg devList policy staticCfg pfsPerVfGroup numSectionData)
include h

/-- The sizes are those of the loop over the sections. -/
theorem Planned.sizesFrom (hpolicy : 0 ≤ policy) (hnum : 0 < numSectionData) :
    SizesFrom policy pfsPerVfGroup devList.length 0 0
        (plannedSizes policy pfsPerVfGroup numSectionData) ∧
      numSectionData = (plannedSizes policy pfsPerVfGroup numSectionData).length := by
  rcases Int.lt_or_eq_of_le hpolicy with hpos | rfl
  · obtain ⟨n, rfl⟩ := Int.eq_ofNat_of_zero_le hpolicy
    obtain ⟨m, rfl, hle, -⟩ := h.policy (by omega)
    rw [plannedSizes, if_neg (by omega), Int.toNat_natCast, Int.toNat_natCast]
    exact ⟨sizesFrom_policy pfsPerVfGroup 0 (by omega) (by omega), by simp⟩
  · rw [plannedSizes, if_pos rfl]
    refine ⟨?_, by simp; omega⟩
    cases staticCfg with
    | false =>
      obtain ⟨hgroups, hcount⟩ := h.daemon rfl
      obtain ⟨groups, hflat, rfl, -, -⟩ := countVfGroups_ok h.devList_ne hgroups
      have hsame : ((List.range numSectionData.toNat).map fun i =>
          (groups.map List.length).getD i 0) = groups.map List.length := by
        rw [hcount]
        apply List.ext_getElem
        · simp
        · intro i h1 h2
          have hi : i < groups.length := by simpa using h2
          simp [hi]
      rw [hsame]
      exact sizesFrom_groups [] (by rw [← hflat]; omega)
    | true =>
      obtain ⟨-, rfl, rfl⟩ := h.process rfl
      exact ⟨rfl, Nat.zero_le _, trivial⟩

/-- A negative policy gives a positive number of sections only to a process that builds its own
    table. -/
theorem Planned.eq_one_of_negative (hpolicy : policy < 0) (hnum : 0 < numSectionData) :
    numSectionData = 1 := by
  cases staticCfg with
  | true => exact (h.process rfl).2.2
  | false =>
    obtain ⟨-, hcount⟩ := h.daemon rfl
    rw [if_neg (by omega)] at hcount
    have hle : Int.tdiv devList.length policy ≤ 0 :=
      Int.tdiv_nonpos_of_nonneg_of_nonpos (Int.natCast_nonneg _) (by omega)
    omega

end

/-- A table that cannot be filled is removed, unless a VF with an unknown configuration is
    reached. -/
theorem fillSections_failure_iff (hsizes : SizesFrom policy pfsPerVfGroup devList.length 0 0 sizes)
    (hnum : cfg.numSectionData = sizes.length) (hcache : cfg.pfCapabilities = []) :
    (∀ code, (fillSections env cfg devList policy pfsPerVfGroup).1 = .error (.ret code) →
        (fillSections env cfg devList policy pfsPerVfGroup).2.NothingLeft) ↔
      (env.callocSections = true → ¬ UnknownReached env cfg devList sizes 0 0) := by
  have hleft : cfg.numSectionData.toNat = sizes.length := by rw [hnum, Int.toNat_natCast]
  have hholds : CacheHolds env devList 0 cfg.pfCapabilities := by
    intro pf
    rw [hcache]
    rfl
  obtain ⟨hunknown, hfailed, hready⟩ := buildSections_ends 0 [] hsizes (fun _ => hholds)
  unfold fillSections
  rw [hleft]
  cases hcalloc : env.callocSections with
  | false =>
    refine ⟨fun _ h => absurd h (by simp), fun _ _ _ => ?_⟩
    rw [if_pos rfl]
    exact ⟨rfl, rfl⟩
  | true =>
    rw [if_neg (by simp)]
    by_cases hreached : UnknownReached env cfg devList sizes 0 0
    · obtain ⟨code, left, hbuild⟩ := hunknown hreached
      rw [hbuild]
      refine ⟨fun h => ?_, fun h => absurd hreached (h rfl)⟩
      have hnone := (h code rfl).1
      cases hnone
    · refine ⟨fun _ _ => hreached, fun _ code => ?_⟩
      by_cases hall : SectionsReady env cfg devList sizes 0 0
      · obtain ⟨b, hbuild, -⟩ := hready hall
        rw [hbuild]
        rintro ⟨⟩
      · obtain ⟨e, hbuild⟩ := hfailed hreached hall
        rw [hbuild]
        exact fun _ => Cfg.cleanup_nothingLeft rfl

/-- With a negative policy there is no memory for a section. -/
theorem fillSections_negative (hpolicy : policy < 0) (hnum : cfg.numSectionData = 1) :
    (fillSections env cfg devList policy pfsPerVfGroup).2.NothingLeft := by
  have hsize : numVfsThisSection policy pfsPerVfGroup devList.length 0 0 < 0 := by
    unfold numVfsThisSection
    rw [if_pos (by omega), if_neg (by omega)]
    exact hpolicy
  unfold fillSections
  rw [hnum]
  split
  · exact ⟨rfl, rfl⟩
  · rw [show (1 : Int).toNat = 0 + 1 from rfl, buildSections]
    simp only [hsize, true_or, if_true]
    exact Cfg.cleanup_nothingLeft rfl

/-- The call does not end at a negative number of sections, and the first VF whose set-up fails does not
    fail because its configuration is unknown. -/
def FailsCleanly (env : BuildEnv) (cfg : Cfg) (devList : List DevData) (policy : Int)
    (staticCfg : Bool) : Prop :=
  ∀ pfsPerVfGroup numSectionData,
    Planned env cfg devList policy staticCfg pfsPerVfGroup numSectionData →
    0 ≤ numSectionData ∧ (0 < numSectionData → env.callocSections = true →
        ¬ UnknownReached env { cfg.withPfs env with numSectionData := numSectionData } devList
          (plannedSizes policy pfsPerVfGroup numSectionData) 0 0)

/-- The part of the call after the sections are planned. -/
theorem planned_failure_iff {num : Int} (hempty : cfg.NothingLeft)
    (hcache : cfg.pfCapabilities = [])
    (h : Planned env cfg devList policy staticCfg pfsPerVfGroup num) :
    let result := if num ≤ 0 then
        (.error einval, { cfg.withPfs env with numSectionData := num })
      else
        fillSections env { cfg.withPfs env with numSectionData := num } devList policy pfsPerVfGroup
    (∀ code, result.1 = .error (.ret code) → result.2.NothingLeft) ↔
      (0 ≤ num ∧ (0 < num → env.callocSections = true →
        ¬ UnknownReached env { cfg.withPfs env with numSectionData := num } devList
          (plannedSizes policy pfsPerVfGroup num) 0 0)) := by
  intro result
  obtain ⟨htable, hcapabilities⟩ : (cfg.withPfs env).sectionData = none ∧
      (cfg.withPfs env).pfCapabilities = [] := by
    unfold Cfg.withPfs
    split <;> exact ⟨hempty.1, hcache⟩
  by_cases hnum : num ≤ 0
  · have hresult : result = (.error einval, { cfg.withPfs env with numSectionData := num }) :=
      if_pos hnum
    rw [hresult]
    constructor
    · intro hleft
      have hzero : num = 0 := (hleft _ rfl).2
      exact ⟨by omega, fun hpos => by omega⟩
    · rintro ⟨hle, -⟩ code -
      exact ⟨htable, by dsimp only; omega⟩
  · have hresult : result = fillSections env { cfg.withPfs env with numSectionData := num } devList
        policy pfsPerVfGroup := if_neg hnum
    rw [hresult]
    have hpos : 0 < num := by omega
    by_cases hpolicy : 0 ≤ policy
    · obtain ⟨hsizes, hlength⟩ := h.sizesFrom hpolicy hpos
      have hcount : ({ cfg.withPfs env with numSectionData := num } : Cfg).numSectionData =
          (plannedSizes policy pfsPerVfGroup num).length := hlength
      refine (fillSections_failure_iff hsizes hcount hcapabilities).trans ?_
      exact ⟨fun hclean => ⟨by omega, fun _ => hclean⟩, fun hclean => hclean.2 hpos⟩
    · obtain rfl := h.eq_one_of_negative (by omega) hpos
      refine ⟨fun _ => ⟨by omega, fun _ _ hunknown => ?_⟩, fun _ _ _ => ?_⟩
      · have hsize : policy.toNat = 0 := by omega
        rw [plannedSizes, if_neg (by omega), hsize] at hunknown
        -- the one section has no VFs
        obtain ⟨-, ⟨j, hj, -⟩ | ⟨-, hnil⟩⟩ := hunknown
        · exact absurd hj (Nat.not_lt_zero j)
        · exact hnil
      · exact fillSections_negative (by omega) rfl

/-- **A failed call leaves nothing behind exactly when it fails cleanly.** -/
theorem qatMgrBuildData_failure_iff (env : BuildEnv) (cfg : Cfg) (devList : List DevData)
    (policy : Int) (staticCfg : Bool) (hempty : cfg.NothingLeft) (hcache : cfg.pfCapabilities = []) :
    (∀ code, (qatMgrBuildData env cfg devList policy staticCfg).1 = .error (.ret code) →
        (qatMgrBuildData env cfg devList policy staticCfg).2.NothingLeft) ↔
      FailsCleanly env cfg devList policy staticCfg := by
  by_cases hplanned : ∃ pfsPerVfGroup numSectionData,
      Planned env cfg devList policy staticCfg pfsPerVfGroup numSectionData
  · constructor
    · intro hleft groups num h
      rw [qatMgrBuildData_of_planned h] at hleft
      exact (planned_failure_iff hempty hcache h).mp hleft
    · intro hclean
      obtain ⟨groups, num, h⟩ := hplanned
      rw [qatMgrBuildData_of_planned h]
      exact (planned_failure_iff hempty hcache h).mpr (hclean groups num h)
  · have hnone : ∀ groups num, ¬ Planned env cfg devList policy staticCfg groups num :=
      fun groups num h => hplanned ⟨groups, num, h⟩
    obtain ⟨e, cfg', hcall, htable, hcount⟩ := qatMgrBuildData_of_not_planned hnone
    rw [hcall]
    refine ⟨fun _ groups num h => absurd h (hnone groups num), fun _ _ _ => ?_⟩
    exact ⟨htable.trans hempty.1, hcount.trans hempty.2⟩

/-- The PFs of the sample machine, which answer that they do symmetric and asymmetric crypto and
    compression. -/
def answeringBuildEnv : BuildEnv :=
  { sampleBuildEnv with
    vf2pfAvailable := fun _ => true
    getCapabilities := fun _ => .answer 0 0x23 }

/-- The sample machine without memory for the crypto instances of the second VF. -/
def scarceBuildEnv : BuildEnv := { sampleBuildEnv with callocCy := fun k => k = 0 }

/-- A call that fails in the second section leaves nothing. -/
theorem qatMgrBuildData_failure_iff_second_section :
    (qatMgrBuildData scarceBuildEnv sampleCfg [sampleVf 0x6b08, sampleVf 0x7008] 1 false).1 =
        .error eagain ∧
      (qatMgrBuildData scarceBuildEnv sampleCfg [sampleVf 0x6b08, sampleVf 0x7008] 1
        false).2.NothingLeft ∧
      FailsCleanly scarceBuildEnv sampleCfg [sampleVf 0x6b08, sampleVf 0x7008] 1 false := by
  have hleft : (qatMgrBuildData scarceBuildEnv sampleCfg [sampleVf 0x6b08, sampleVf 0x7008] 1
      false).2.NothingLeft := ⟨rfl, rfl⟩
  exact ⟨rfl, hleft, (qatMgrBuildData_failure_iff scarceBuildEnv sampleCfg
    [sampleVf 0x6b08, sampleVf 0x7008] 1 false ⟨rfl, rfl⟩ rfl).mp fun _ _ => hleft⟩

/-- A VF whose PF offers all three services ends the call with its table in place, and a negative
    policy with a negative number of sections. -/
theorem qatMgrBuildData_failure_leaves :
    (qatMgrBuildData answeringBuildEnv sampleCfg [sampleVf 0x6b08] 0 false).1 = .error (.ret (-1)) ∧
      (qatMgrBuildData answeringBuildEnv sampleCfg [sampleVf 0x6b08] 0 false).2.sectionData.isSome =
        true ∧
      (qatMgrBuildData answeringBuildEnv sampleCfg [sampleVf 0x6b08] 0 false).2.numSectionData = 1 ∧
      (qatMgrBuildData sampleBuildEnv sampleCfg [sampleVf 0x6b08] (-1) false).1 = .error einval ∧
      (qatMgrBuildData sampleBuildEnv sampleCfg [sampleVf 0x6b08] (-1) false).2.numSectionData = -1 :=
  ⟨rfl, rfl, rfl, rfl, rfl⟩

end Qatlib.QatMgr
