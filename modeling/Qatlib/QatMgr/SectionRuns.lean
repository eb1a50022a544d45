import Mathlib.Data.List.Forall2
import Mathlib.Data.List.Flatten
import Mathlib.Data.List.Nodup
import Mathlib.Tactic.Ring
import Qatlib.QatMgr.BuildData

set_option autoImplicit false

/-! # The sections share out the virtual functions

What the table that `qat_mgr_build_data` builds looks like when the call succeeds: the devices of the
sections are runs of the list of VFs that follow one another, cut by the policy, and the instances of a
device use different banks. -/

namespace Qatlib.QatMgr

/-! ## One device -/

/-- The banks of all instances of a device. -/
def deviceBanks (device : DeviceData) : List Int :=
  (List.range device.numAsymInst.toNat).map (fun k => (device.cyInstanceData k).asym.bankNumber) ++
    (List.range device.numSymInst.toNat).map (fun k => (device.cyInstanceData k).sym.bankNumber) ++
    (List.range device.numDcInst.toNat).map (fun k => (device.dcInstanceData k).bankNumber)

/-- A device is built for a VF. -/
structure BuiltFor (vf : DevData) (device : DeviceData) : Prop where
  deviceId : device.deviceId = deviceText (bdfText vf.bdf)
  deviceFile : device.deviceFile = deviceText vf.vfioFile.bytes
  pciId : device.pciId = (vf.devid.setWidth 16).toNat
  banks_nodup : (deviceBanks device).Nodup
  banks_lt : ∀ b ∈ deviceBanks device, 0 ≤ b ∧ b < device.maxBanks

/-- The banks `calculate_bank_number` gives to the instances of a device. -/
def calculatedBanks (device : DeviceData) : List Int :=
  (List.range device.numAsymInst.toNat).map
      (fun k : Nat => calculateBankNumber device servTypeAsym k) ++
    (List.range device.numSymInst.toNat).map
      (fun k : Nat => calculateBankNumber device servTypeSym k) ++
    (List.range device.numDcInst.toNat).map (fun k : Nat => calculateBankNumber device servTypeDc k)

theorem deviceBanks_fillInstances (env : BuildEnv) (device : DeviceData) (accelid : Nat)
    (p : Progress) : deviceBanks (fillInstances env device accelid p).1 = calculatedBanks device := by
  have hmap {n : Nat} {f : Nat → InstanceData} {g : Nat → Int}
      (h : ∀ k < n, (f k).bankNumber = g k) :
      (List.range n).map (fun k => (f k).bankNumber) = (List.range n).map g :=
    List.map_congr_left fun k hk => h k (List.mem_range.mp hk)
  unfold deviceBanks calculatedBanks
  refine congrArg₂ _ (congrArg₂ _ (hmap fun k hk => ?_) (hmap fun k hk => ?_)) (hmap fun k hk => ?_)
  · have hk' : k < device.numAsymInst.toNat := hk
    simp only [fillInstances, if_pos hk', instanceData]
  · have hk' : k < device.numSymInst.toNat := hk
    simp only [fillInstances, if_pos hk', instanceData]
  · have hk' : k < device.numDcInst.toNat := hk
    simp only [fillInstances, if_pos hk', instanceData]

variable {env : BuildEnv} {vfIdx : Nat} {cfg : Cfg} {device : DeviceData} {vf : DevData}
  {devList : List DevData} {pfsPerVfGroup : List Nat}

/-- In every configuration the instances use the four banks once. -/
theorem calculatedBanks_perm
    (h : instanceCounts device.services = some (device.numSymInst, device.numAsymInst,
      device.numCyInst, device.numDcInst)) : (calculatedBanks device).Perm [0, 1, 2, 3] := by
  unfold instanceCounts instancesPerDevice at h
  split_ifs at h with hserv hserv hserv hserv hserv hserv <;>
  · simp only [Option.some.injEq, Prod.mk.injEq] at h
    obtain ⟨hsym, hasym, hcy, hdc⟩ := h
    simp only [calculatedBanks, calculateBankNumber, hserv, ← hsym, ← hasym, ← hcy, ← hdc]
    decide

variable {p p' : Progress} {vfs current : List DevData} {i n accelid numVfDevices : Nat}
  {runs : List (List DevData)} {device' : DeviceData} {cache cache' : List PfCapabilities}
  {devices : List DeviceData} {sizes : List Nat} {g g' : Groups}

theorem setCapabilities_keeps {vm : Bool}
    (h : setCapabilities env vm vf vfIdx device cache = .ok (device', cache')) :
    device'.deviceId = device.deviceId ∧ device'.deviceFile = device.deviceFile ∧
      device'.maxBanks = device.maxBanks := by
  unfold setCapabilities at h
  split at h
  · cases h
    exact ⟨rfl, rfl, rfl⟩
  · unfold askCapabilities at h
    split at h
    · split at h
      · cases h
        exact ⟨rfl, rfl, rfl⟩
      · split at h <;> cases h
        exact ⟨rfl, rfl, rfl⟩
      · dsimp only at h
        split at h
        · cases h
          exact ⟨rfl, rfl, rfl⟩
        · split at h <;> cases h
          exact ⟨rfl, rfl, rfl⟩
    · cases h
      exact ⟨rfl, rfl, rfl⟩

/-- A device that is configured keeps its names and spreads its instances over the banks. -/
theorem configureDevice_ok (hid : device.deviceId = deviceText (bdfText vf.bdf))
    (hfile : device.deviceFile = deviceText vf.vfioFile.bytes)
    (hpci : device.pciId = (vf.devid.setWidth 16).toNat) (hmax : device.maxBanks = 4)
    (h : configureDevice env device vfIdx accelid p = .ok (device', p')) : BuiltFor vf device' := by
  unfold configureDevice at h
  split at h
  · cases h
  · next numSym numAsym numCy numDc hcounts =>
    dsimp only at h
    split_ifs at h
    set dev := { device with
      numSymInst := numSym, numAsymInst := numAsym, numCyInst := numCy, numDcInst := numDc }
    obtain rfl : (fillInstances env dev accelid p).1 = device' :=
      congrArg Prod.fst (Except.ok.inj h)
    have hperm : (calculatedBanks dev).Perm [0, 1, 2, 3] := calculatedBanks_perm hcounts
    refine ⟨hid, hfile, hpci, ?_, ?_⟩
    · rw [deviceBanks_fillInstances]
      exact hperm.nodup_iff.mpr (by decide)
    · rw [deviceBanks_fillInstances]
      intro b hb
      have hb' : b ∈ [(0 : Int), 1, 2, 3] := hperm.mem_iff.mp hb
      have hmax' : (fillInstances env dev accelid p).1.maxBanks = 4 := hmax
      rw [hmax']
      simp only [List.mem_cons, List.not_mem_nil, or_false] at hb'
      omega

/-- A device that is built without an error is built for its VF. -/
theorem buildDevice_ok (h : buildDevice env cfg vf vfIdx accelid p = .ok (device, p')) :
    BuiltFor vf device := by
  unfold buildDevice at h
  split at h
  · cases h
  · split at h
    · cases h
    · next dev cache hcaps =>
      obtain ⟨hid, hfile, hmax⟩ := setCapabilities_keeps hcaps
      have hid' : (identify vf dev).deviceId = deviceText (bdfText vf.bdf) := hid
      exact configureDevice_ok hid' hfile rfl hmax h

/-! ## The devices of a section -/

/-- The loop over the VFs adds a device for each of them. -/
theorem buildDevices_ok {j : Nat} {devices' : List DeviceData}
    (h : buildDevices env cfg vfs vfIdx j p devices = .ok (devices', p')) :
    ∃ new, devices' = devices ++ new ∧ List.Forall₂ BuiltFor vfs new := by
  induction vfs generalizing vfIdx j p devices with
  | nil =>
    rw [buildDevices, Except.ok.injEq, Prod.mk.injEq] at h
    exact ⟨[], by simp [h.1], .nil⟩
  | cons vf vfs ih =>
    rw [buildDevices] at h
    split at h
    · cases h
    · next device p₁ hdevice =>
      obtain ⟨new, hnew, hbuilt⟩ := ih h
      exact ⟨device :: new, by simp [hnew], .cons (buildDevice_ok hdevice) hbuilt⟩

/-- A section has the devices of a run of VFs. -/
structure SectionHas (run : List DevData) (sec : SectionData) : Prop where
  numDevices : sec.numDevices = run.length
  device : ∀ j vf, run[j]? = some vf → BuiltFor vf (sec.deviceData j)

theorem sectionHas_sectionOf {run : List DevData} (i : Nat) (h : List.Forall₂ BuiltFor run devices) :
    SectionHas run (sectionOf i run.length devices) := by
  refine ⟨rfl, fun j vf hvf => ?_⟩
  obtain ⟨hj, rfl⟩ := List.getElem?_eq_some_iff.mp hvf
  have hj' : j < devices.length := h.length_eq ▸ hj
  have hget : devices.getD j default = devices[j] := by simp [hj']
  show BuiltFor run[j] (devices.getD j default)
  rw [hget]
  exact h.get hj hj'

/-! ## The sections -/

/-- The sizes of the sections from the `i`-th on, the next VF being the `vfIdx`-th: what
    `num_vfs_this_section` becomes, and the list has as many VFs left. -/
def SizesFrom (policy : Int) (pfsPerVfGroup : List Nat) (numVfDevices : Nat) :
    Nat → Nat → List Nat → Prop
  | _, _, [] => True
  | i, vfIdx, n :: sizes =>
      numVfsThisSection policy pfsPerVfGroup numVfDevices vfIdx i = n ∧ vfIdx + n ≤ numVfDevices ∧
        SizesFrom policy pfsPerVfGroup numVfDevices (i + 1) (vfIdx + n) sizes

/-- The loop over the sections cuts the list of VFs into runs of the sizes. -/
theorem buildSections_ok {policy : Int} {core : Nat} {sections sections' : List SectionData}
    (hsizes : SizesFrom policy pfsPerVfGroup devList.length i vfIdx sizes)
    (h : buildSections env cfg devList policy pfsPerVfGroup sizes.length i vfIdx core cache
      sections = .ok (sections', cache')) :
    ∃ new runs rest, sections' = sections ++ new ∧ List.Forall₂ SectionHas runs new ∧
      devList.drop vfIdx = runs.flatten ++ rest ∧ runs.map List.length = sizes := by
  induction sizes generalizing i vfIdx core cache sections with
  | nil =>
    rw [List.length_nil, buildSections, Except.ok.injEq, Prod.mk.injEq] at h
    exact ⟨[], [], devList.drop vfIdx, by simp [h.1], .nil, by simp, rfl⟩
  | cons n sizes ih =>
    obtain ⟨hnum, hle, hrest⟩ := hsizes
    rw [List.length_cons, buildSections] at h
    simp only [hnum, Int.toNat_natCast] at h
    split at h
    · cases h
    · split at h
      · cases h
      · next devices p hdevices =>
        obtain ⟨new, runs, rest, hnew, hhas, hflat, hlen⟩ := ih hrest h
        obtain ⟨devs, hdevs, hbuilt⟩ := buildDevices_ok hdevices
        set run := (devList.drop vfIdx).take n with hrun
        have hrunlen : run.length = n := by
          rw [hrun, List.length_take, List.length_drop]
          omega
        have hsec := sectionHas_sectionOf i hbuilt
        rw [List.nil_append] at hdevs
        rw [hrunlen, ← hdevs] at hsec
        refine ⟨sectionOf i n devices :: new, run :: runs, rest, by simp [hnew], .cons hsec hhas, ?_,
          by simp [hlen, hrunlen]⟩
        rw [List.flatten_cons, List.append_assoc, ← hflat, ← List.drop_drop, hrun,
          List.take_append_drop]

/-! ## The sizes -/

/-- With policy 0 the sizes are the counts of the groups. -/
theorem sizesFrom_groups (before : List Nat) (h : vfIdx + runs.flatten.length ≤ numVfDevices) :
    SizesFrom 0 (before ++ runs.map List.length) numVfDevices before.length vfIdx
      (runs.map List.length) := by
  induction runs generalizing before vfIdx with
  | nil => trivial
  | cons run runs ih =>
    rw [List.flatten_cons, List.length_append] at h
    refine ⟨?_, by omega, ?_⟩
    · simp [numVfsThisSection]
    · have hle : vfIdx + run.length + runs.flatten.length ≤ numVfDevices := by omega
      simpa using ih (before ++ [run.length]) hle

/-- With policy `n` every section has `n` VFs, as long as there are enough. -/
theorem sizesFrom_policy {m : Nat} (pfsPerVfGroup : List Nat) (i : Nat) (hn : 0 < n)
    (h : vfIdx + m * n ≤ numVfDevices) :
    SizesFrom n pfsPerVfGroup numVfDevices i vfIdx (List.replicate m n) := by
  induction m generalizing i vfIdx with
  | zero => trivial
  | succ m ih =>
    have hsplit : (m + 1) * n = n + m * n := by ring
    refine ⟨?_, by omega, ih (i + 1) (by omega)⟩
    rw [numVfsThisSection, if_pos (by omega), if_neg (by omega)]

/-! ## The groups -/

/-- The physical function of a VF: its PCI domain and bus. -/
def DevData.pf (vf : DevData) : BitVec 32 × BitVec 32 := (bdfNode vf.bdf, bdfBus vf.bdf)

/-- What the counting loop has found in the VFs before: runs with one VF of each PF. -/
structure GroupsOf (vfs : List DevData) (g : Groups) (runs : List (List DevData))
    (current : List DevData) : Prop where
  split : vfs = runs.flatten ++ current
  earlier : g.earlier = runs.map List.length
  current_length : g.current = current.length
  table : g.table = (current.map fun vf => pfKey vf.bdf).reverse
  runs_ne : ∀ run ∈ runs, run ≠ []
  runs_nodup : ∀ run ∈ runs, (run.map fun vf => pfKey vf.bdf).Nodup
  current_nodup : (current.map fun vf => pfKey vf.bdf).Nodup

/-- One turn puts the VF into the current run, or into a new one if its PF is in the current run. -/
theorem GroupsOf.count (hg : GroupsOf vfs g runs current) (h : g.count env i vf = .ok g') :
    ∃ runs' current', GroupsOf (vfs ++ [vf]) g' runs' current' ∧ current' ≠ [] := by
  unfold Groups.count at h
  dsimp only at h
  split at h
  · cases h
  · by_cases hfound : pfKey vf.bdf ∈ g.table
    · simp only [if_pos hfound] at h
      split_ifs at h
      rw [Except.ok.injEq] at h
      subst h
      have hcur : current ≠ [] := by
        rintro rfl
        rw [hg.table] at hfound
        simp at hfound
      refine ⟨runs ++ [current], [vf], ⟨?_, ?_, rfl, rfl, ?_, ?_, by simp⟩, by simp⟩
      · simp [hg.split]
      · simp [Groups.pfsPerVfGroup, hg.earlier, hg.current_length]
      · exact List.forall_mem_append.mpr ⟨hg.runs_ne, List.forall_mem_singleton.mpr hcur⟩
      · exact List.forall_mem_append.mpr
          ⟨hg.runs_nodup, List.forall_mem_singleton.mpr hg.current_nodup⟩
    · simp only [if_neg hfound] at h
      split_ifs at h
      rw [Except.ok.injEq] at h
      subst h
      refine ⟨runs, current ++ [vf], ⟨?_, hg.earlier, ?_, ?_, hg.runs_ne, hg.runs_nodup, ?_⟩,
        by simp⟩
      · simp [hg.split]
      · simp [hg.current_length]
      · simp [hg.table]
      · rw [hg.table, List.mem_reverse] at hfound
        rw [List.map_append, List.map_singleton, ← List.concat_eq_append, List.nodup_concat]
        exact ⟨hfound, hg.current_nodup⟩

theorem GroupsOf.countAll {todo : List DevData} (hg : GroupsOf vfs g runs current)
    (hcur : current ≠ [] ∨ todo ≠ []) (h : Groups.countAll env i todo g = .ok g') :
    ∃ runs' current', GroupsOf (vfs ++ todo) g' runs' current' ∧ current' ≠ [] := by
  induction todo generalizing i vfs g runs current with
  | nil =>
    rw [Groups.countAll, Except.ok.injEq] at h
    subst h
    exact ⟨runs, current, by simpa using hg, by simpa using hcur⟩
  | cons vf todo ih =>
    rw [Groups.countAll] at h
    split at h
    · cases h
    · next g₁ hcount =>
      obtain ⟨runs₁, current₁, hg₁, hne₁⟩ := hg.count hcount
      obtain ⟨runs', current', hg', hne'⟩ := ih hg₁ (.inl hne₁) h
      exact ⟨runs', current', by simpa using hg', hne'⟩

/-- **The VF groups** cut the list into runs with one VF of each PF. -/
theorem countVfGroups_ok (hne : devList ≠ []) (h : countVfGroups env devList = .ok pfsPerVfGroup) :
    ∃ runs : List (List DevData), devList = runs.flatten ∧ pfsPerVfGroup = runs.map List.length ∧
      (∀ run ∈ runs, run ≠ []) ∧ ∀ run ∈ runs, (run.map DevData.pf).Nodup := by
  unfold countVfGroups at h
  split at h
  · cases h
  · cases hall : Groups.countAll env 0 devList ⟨[], 0, []⟩ with
    | error e =>
      rw [hall] at h
      cases h
    | ok g =>
      rw [hall] at h
      have hpfs : pfsPerVfGroup = g.pfsPerVfGroup := (Except.ok.inj h).symm
      have hstart : GroupsOf [] ⟨[], 0, []⟩ [] [] := ⟨rfl, rfl, rfl, rfl, by simp, by simp, by simp⟩
      obtain ⟨runs, current, hg, hcur⟩ := hstart.countAll (.inr hne) hall
      -- the key of a VF depends on its PF only, so that different keys are different PFs
      have hpf (run : List DevData) (hrun : (run.map fun vf => pfKey vf.bdf).Nodup) :
          (run.map DevData.pf).Nodup := by
        apply List.Nodup.of_map (fun pf : BitVec 32 × BitVec 32 => pf.2 + (pf.1 <<< 8))
        rwa [List.map_map]
      refine ⟨runs ++ [current], ?_, ?_, ?_, ?_⟩
      · simpa using hg.split
      · rw [hpfs, Groups.pfsPerVfGroup, hg.earlier, hg.current_length]
        simp
      · exact List.forall_mem_append.mpr ⟨hg.runs_ne, List.forall_mem_singleton.mpr hcur⟩
      · exact List.forall_mem_append.mpr ⟨fun run hrun => hpf run (hg.runs_nodup run hrun),
          List.forall_mem_singleton.mpr (hpf current hg.current_nodup)⟩

/-! ## The table -/

/-- The sections of a table are the runs, in their order. -/
structure TableHas (cfg : Cfg) (runs : List (List DevData)) : Prop where
  sections : ∃ sections, cfg.sectionData = some sections ∧
    cfg.numSectionData = sections.length ∧ List.Forall₂ SectionHas runs sections

/-- The table is filled with runs of the sizes that were planned. -/
theorem fillSections_ok {policy : Int}
    (hsizes : SizesFrom policy pfsPerVfGroup devList.length 0 0 sizes)
    (hnum : cfg.numSectionData = sizes.length)
    (h : (fillSections env cfg devList policy pfsPerVfGroup).1 = .ok ()) :
    ∃ runs rest, TableHas (fillSections env cfg devList policy pfsPerVfGroup).2 runs ∧
      devList = runs.flatten ++ rest ∧ runs.map List.length = sizes := by
  have hleft : cfg.numSectionData.toNat = sizes.length := by rw [hnum, Int.toNat_natCast]
  unfold fillSections at h ⊢
  split_ifs at h ⊢
  rw [hleft] at h ⊢
  cases hbuild : buildSections env cfg devList policy pfsPerVfGroup sizes.length 0 0 0
      cfg.pfCapabilities [] with
  | error f =>
    rw [hbuild] at h
    obtain ⟨e, left⟩ := f
    cases left <;> cases h
  | ok result =>
    obtain ⟨sections, cache⟩ := result
    obtain ⟨new, runs, rest, hnew, hhas, hsplit, hlen⟩ := buildSections_ok hsizes hbuild
    rw [List.nil_append] at hnew
    subst hnew
    refine ⟨runs, rest, ⟨sections, rfl, ?_, hhas⟩, by simpa using hsplit, hlen⟩
    show cfg.numSectionData = sections.length
    rw [hnum, ← hlen, List.length_map, hhas.length_eq]

/-- With a policy `n` the number of sections is planned so that the VFs suffice. -/
theorem Planned.policy {staticCfg : Bool} {numSectionData : Int} (hn : 0 < n)
    (h : Planned env cfg devList n staticCfg pfsPerVfGroup numSectionData) :
    ∃ m : Nat, numSectionData = m ∧ m * n ≤ devList.length ∧
      (m : Int) = if staticCfg then 1 else (devList.length : Int) / n := by
  cases staticCfg with
  | false =>
    obtain ⟨-, hnum⟩ := h.daemon rfl
    rw [if_neg (by omega), Int.tdiv_eq_ediv_of_nonneg (Int.natCast_nonneg _)] at hnum
    refine ⟨devList.length / n, by rw [hnum, Int.natCast_ediv], Nat.div_mul_le_self _ _, ?_⟩
    rw [if_neg Bool.false_ne_true, Int.natCast_ediv]
  | true =>
    obtain ⟨hle, -, hnum⟩ := h.process rfl
    exact ⟨1, hnum, by omega, by rw [if_pos rfl]; rfl⟩

/-- **The sections share out the VFs**: they have runs of the list that follow one another, cut at the
    VF groups with policy 0 and of `n` VFs each with policy `n`. A process that builds the table for
    itself builds one section. -/
theorem qatMgrBuildData_sections (env : BuildEnv) (cfg : Cfg) (devList : List DevData) (policy : Int)
    (staticCfg : Bool) (hok : (qatMgrBuildData env cfg devList policy staticCfg).1 = .ok ())
    (hcfg : staticCfg = true → 0 < policy) :
    ∃ runs rest, TableHas (qatMgrBuildData env cfg devList policy staticCfg).2 runs ∧
      devList = runs.flatten ++ rest ∧ (∀ run ∈ runs, run ≠ []) ∧
      (policy = 0 → rest = [] ∧ ∀ run ∈ runs, (run.map DevData.pf).Nodup) ∧
      (policy ≠ 0 → (∀ run ∈ runs, (run.length : Int) = policy) ∧
        (runs.length : Int) = if staticCfg then 1 else devList.length / policy) := by
  by_cases hplanned : ∃ pfsPerVfGroup numSectionData,
      Planned env cfg devList policy staticCfg pfsPerVfGroup numSectionData
  swap
  · obtain ⟨e, cfg', hbuild, -, -⟩ := qatMgrBuildData_of_not_planned
      (fun groups num h => hplanned ⟨groups, num, h⟩)
    rw [hbuild] at hok
    cases hok
  obtain ⟨pfsPerVfGroup, numSectionData, hplan⟩ := hplanned
  rw [qatMgrBuildData_of_planned hplan] at hok ⊢
  by_cases hnum : numSectionData ≤ 0
  · rw [if_pos hnum] at hok
    cases hok
  rw [if_neg hnum] at hok ⊢
  -- a process that builds the table for itself has a positive policy
  have hdaemon (hle : policy ≤ 0) : staticCfg = false := by
    cases staticCfg with
    | false => rfl
    | true => exact absurd (hcfg rfl) (by omega)
  rcases Int.lt_trichotomy policy 0 with hneg | rfl | hpos
  · -- a negative policy gives no section
    obtain ⟨-, hcount⟩ := hplan.daemon (hdaemon (by omega))
    rw [if_neg (by omega)] at hcount
    have := Int.tdiv_nonpos_of_nonneg_of_nonpos (a := devList.length) (b := policy) (by omega)
      (by omega)
    omega
  · -- the runs are the groups, since they have the same lengths
    obtain ⟨hgroups, hcount⟩ := hplan.daemon (hdaemon (Int.le_refl 0))
    obtain ⟨groups, hflat, rfl, hgne, hgnodup⟩ := countVfGroups_ok hplan.devList_ne hgroups
    have hsizes : SizesFrom 0 (groups.map List.length) devList.length 0 0
        (groups.map List.length) :=
      sizesFrom_groups [] (by rw [← hflat]; omega)
    obtain ⟨runs, rest, htable, hsplit, hlens⟩ := fillSections_ok hsizes hcount hok
    have hrest : rest = [] := by
      have hlen := congrArg List.length hsplit
      rw [List.length_append, List.length_flatten, hlens, ← List.length_flatten, ← hflat] at hlen
      exact List.length_eq_zero_iff.mp (by omega)
    have hruns : runs = groups := by
      rw [hrest, List.append_nil] at hsplit
      exact List.eq_iff_flatten_eq.mpr ⟨hsplit ▸ hflat, hlens⟩
    subst hruns
    exact ⟨runs, rest, htable, hsplit, hgne, fun _ => ⟨hrest, hgnodup⟩, fun h => absurd rfl h⟩
  · obtain ⟨n, rfl⟩ := Int.eq_ofNat_of_zero_le (by omega : 0 ≤ policy)
    obtain ⟨m, rfl, hle, hm⟩ := hplan.policy (by omega)
    have hsizes : SizesFrom n pfsPerVfGroup devList.length 0 0 (List.replicate m n) :=
      sizesFrom_policy pfsPerVfGroup 0 (by omega) (by omega)
    obtain ⟨runs, rest, htable, hsplit, hlens⟩ := fillSections_ok hsizes (by simp) hok
    have hlength : ∀ run ∈ runs, run.length = n := by
      intro run hrun
      have hmem : run.length ∈ runs.map List.length := List.mem_map_of_mem hrun
      rw [hlens] at hmem
      exact List.eq_of_mem_replicate hmem
    have hcount : runs.length = m := by
      have := congrArg List.length hlens
      simpa using this
    refine ⟨runs, rest, htable, hsplit, ?_, fun h => absurd h (by omega), fun _ => ⟨?_, ?_⟩⟩
    · rintro run hrun rfl
      have := hlength [] hrun
      simp only [List.length_nil] at this
      omega
    · intro run hrun
      rw [hlength run hrun]
    · rw [hcount, hm]

/-- A machine with two PFs that are not asked, whose allocations succeed. -/
def sampleBuildEnv : BuildEnv where
  numProcs := 2
  sysfs := .entries [⟨0, 0x6b, 0, 0⟩, ⟨0, 0x70, 0, 0⟩]
  hcreate := fun _ => true
  hsearchEnter := fun _ => true
  callocSections := true
  callocDevices := fun _ => true
  callocCache := fun _ => true
  callocDc := fun _ => true
  callocCy := fun _ => true
  vf2pfAvailable := fun _ => false
  getCapabilities := fun _ => .openFailed

/-- The static variables at the start. -/
def sampleCfg : Cfg where
  sectionData := none
  numSectionData := 0
  numPfs := -1
  pfData := fun _ => default
  pfCapabilities := []

def sampleVf (bdf : BitVec 32) : DevData := ⟨bdf, default, -1, 0x4941⟩

theorem qatMgrBuildData_sections_policy_zero :
    ∃ runs rest, TableHas (qatMgrBuildData sampleBuildEnv sampleCfg
        [sampleVf 0x6b08, sampleVf 0x7008, sampleVf 0x6b09] 0 false).2 runs ∧
      [sampleVf 0x6b08, sampleVf 0x7008, sampleVf 0x6b09] = runs.flatten ++ rest ∧
      (∀ run ∈ runs, run ≠ []) ∧ rest = [] := by
  obtain ⟨runs, rest, htable, hsplit, hne, hzero, -⟩ := qatMgrBuildData_sections sampleBuildEnv
    sampleCfg [sampleVf 0x6b08, sampleVf 0x7008, sampleVf 0x6b09] 0 false rfl (by decide)
  exact ⟨runs, rest, htable, hsplit, hne, (hzero rfl).1⟩

/-- Twelve VFs of one PF. -/
def sampleVfs : List DevData := (List.range 12).map fun i => sampleVf (0x6b08 + BitVec.ofNat 32 i)

/-- A process without a policy that builds the table for itself uses six VFs at most; of twelve VFs it
    gets one section, not two. -/
theorem qatMgrBuildData_static_one_section :
    (qatMgrBuildData sampleBuildEnv sampleCfg sampleVfs 6 true).1 = .ok () ∧
      (qatMgrBuildData sampleBuildEnv sampleCfg sampleVfs 6 true).2.numSectionData = 1 ∧
      sampleVfs.length / 6 = 2 :=
  ⟨rfl, rfl, rfl⟩

end Qatlib.QatMgr
