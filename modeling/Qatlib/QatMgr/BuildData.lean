import Mathlib.Logic.Function.Iterate
import Qatlib.QatMgr.PfTable

set_option autoImplicit false

/-! # Building the section table

`qat_mgr_build_data` of `qat_mgr_lib.c` distributes the virtual functions over the sections of the
table that `qatmgr` serves. With policy 0 a section gets a VF of each PF: the list of VFs is cut
whenever a PF comes up again, which an `hsearch` hash table tells. With policy `n` a section gets `n`
VFs. A process without `qatmgr` builds a single section for itself (`static_cfg`). Each VF then becomes
a device with its capabilities and its instances, every instance on a bank of its own.

What the C library and the devices answer are fields of `BuildEnv`. The table is filled in place: a
call that fails either calls `qat_mgr_cleanup_cfg` or leaves the table as it is. -/

namespace Qatlib.QatMgr

/-! ## Data -/

/-- `struct qatmgr_dev_data`: a virtual function. -/
structure DevData where
  bdf : BitVec 32
  vfioFile : CString 32
  groupFd : Int
  devid : BitVec 32

/-- `PF`: the PF of a VF, as a key. -/
def pfKey (bdf : BitVec 32) : BitVec 32 := bdfBus bdf + (bdfNode bdf <<< 8)

/-- `struct pf_capabilities`. -/
structure PfCapabilities where
  pf : BitVec 32
  extDcCaps : Nat
  capabilities : Nat

/-- What `qat_mgr_get_device_capabilities` finds. -/
inductive CapQuery where
  /-- `open_vfio_dev` fails. -/
  | openFailed
  /-- The device is open, and the version check or the query fails. -/
  | failed (ret : Int) (compatible : Bool)
  | answer (extDcCaps capabilities : Nat)

/-- What the C library, sysfs and the devices answer during a call. -/
structure BuildEnv where
  /-- `get_nprocs`. -/
  numProcs : Nat
  sysfs : Sysfs
  /-- The `k`-th `hcreate` succeeds. -/
  hcreate : Nat → Bool
  /-- The hash table has room for the PF of the `i`-th VF. -/
  hsearchEnter : Nat → Bool
  callocSections : Bool
  /-- `calloc` of the devices of the `i`-th section. -/
  callocDevices : Nat → Bool
  /-- `calloc` of a cache entry, of the dc and of the cy instances, for the `k`-th VF. -/
  callocCache : Nat → Bool
  callocDc : Nat → Bool
  callocCy : Nat → Bool
  /-- `adf_vf2pf_available` when the `k`-th VF is set up. -/
  vf2pfAvailable : Nat → Bool
  /-- `qat_mgr_get_device_capabilities` for the `k`-th VF. -/
  getCapabilities : Nat → CapQuery

/-- The static variables of `qat_mgr_lib.c`. -/
structure Cfg where
  /-- `section_data`, which may be NULL. -/
  sectionData : Option (List SectionData)
  numSectionData : Int
  numPfs : Int
  pfData : Nat → PfInfo
  /-- The list at `pf_capabilities_head`. -/
  pfCapabilities : List PfCapabilities

/-- `qat_mgr_cleanup_cfg`. -/
def Cfg.cleanup (cfg : Cfg) : Cfg :=
  { cfg with
    sectionData := none
    numSectionData := if cfg.sectionData.isSome then 0 else cfg.numSectionData
    pfCapabilities := [] }

/-- Why a call does not return 0. -/
inductive BuildError where
  | ret (code : Int)
  /-- An access outside `pfs_per_vf_group`. -/
  | undefinedBehaviour
deriving DecidableEq

def einval : BuildError := .ret (-22)
def enomem : BuildError := .ret (-12)
def eagain : BuildError := .ret (-11)

/-! ## VF groups -/

/-- The loop that counts the VF groups: the counts of the groups before the current one, its own count
    and the PFs in the hash table, which are those of the current group. -/
structure Groups where
  earlier : List Nat
  current : Nat
  table : List (BitVec 32)

/-- `pfs_per_vf_group`, up to `num_vf_groups`. -/
def Groups.pfsPerVfGroup (g : Groups) : List Nat := g.earlier ++ [g.current]

/-- One turn of the loop, for the `i`-th VF. -/
def Groups.count (env : BuildEnv) (i : Nat) (vf : DevData) (g : Groups) : Except BuildError Groups :=
  let pf := pfKey vf.bdf
  let found := pf ∈ g.table
  if found ∧ env.hcreate (g.earlier.length + 1) = false then .error enomem
  else
    let g := if found then ⟨g.pfsPerVfGroup, 0, []⟩ else g
    -- outside of `pfs_per_vf_group`
    if adfMaxDevices ≤ g.earlier.length then .error .undefinedBehaviour
    else if env.hsearchEnter i = false then .error enomem
    else .ok { g with current := g.current + 1, table := pf :: g.table }

def Groups.countAll (env : BuildEnv) : Nat → List DevData → Groups → Except BuildError Groups
  | _, [], g => .ok g
  | i, vf :: vfs, g =>
      match g.count env i vf with
      | .error e => .error e
      | .ok g => Groups.countAll env (i + 1) vfs g

/-- `pfs_per_vf_group` after the loop. -/
def countVfGroups (env : BuildEnv) (devList : List DevData) : Except BuildError (List Nat) :=
  if env.hcreate 0 = false then .error enomem
  else (Groups.countAll env 0 devList ⟨[], 0, []⟩).map Groups.pfsPerVfGroup

/-! ## One device -/

/-- Lower case hexadecimal digits, as many as given. -/
def hexDigits (width n : Nat) : List UInt8 :=
  (List.range width).reverse.map fun i =>
    let d := n / 16 ^ i % 16
    UInt8.ofNat (if d < 10 then 48 + d else 87 + d)

/-- `%d` of a number that is not negative. -/
def decDigits (n : Nat) : List UInt8 := (Nat.toDigits 10 n).map fun c => UInt8.ofNat c.toNat

/-- `%04x:%02x:%02x.%01x` of an address. -/
def bdfText (bdf : BitVec 32) : List UInt8 :=
  hexDigits 4 (bdfNode bdf).toNat ++ [58] ++ hexDigits 2 (bdfBus bdf).toNat ++ [58] ++
    hexDigits 2 (bdfDev bdf).toNat ++ [46] ++ hexDigits 1 (bdfFun bdf).toNat

theorem deviceNameSize_pos : 0 < deviceNameSize := by decide

/-- `snprintf` into the name of a device. -/
def deviceText (bytes : List UInt8) : CString deviceNameSize :=
  .sanitize deviceNameSize deviceNameSize_pos bytes

/-- `qat_device_name`. -/
def qatDeviceName (devid : BitVec 32) : String :=
  if devid = 0x4941 then "4xxxvf"
  else if devid = 0x4943 then "401xxvf"
  else if devid = 0x4945 then "402xxvf"
  else if devid = 0x4947 then "420xxvf"
  else "unknown"

/-- `qat_device_type`, with the numbers of `DEVICE_4XXXVF` and `DEVICE_420XXVF`. -/
def qatDeviceType (devid : BitVec 32) : Int :=
  if devid = 0x4941 ∨ devid = 0x4943 ∨ devid = 0x4945 then 14
  else if devid = 0x4947 then 16
  else 0

/-- The capabilities of a device whose PF is not asked. -/
def fallbackCapabilities : Nat :=
  0x01 ||| 0x02 ||| 0x04 ||| 0x08 ||| 0x200 ||| 0x8000 ||| 0x1000 ||| 0x2000 ||| 0x20000 |||
    0x10000 ||| 0x4000000

def servTypeDc : Nat := 1
def servTypeSym : Nat := 2
def servTypeAsym : Nat := 4
def servTypeCy : Nat := servTypeSym + servTypeAsym
def servTypeSymDc : Nat := servTypeSym + servTypeDc
def servTypeAsymDc : Nat := servTypeAsym + servTypeDc

/-- The services that capabilities stand for. -/
def servicesOf (capabilities : Nat) : Nat :=
  (if capabilities &&& 0x01 ≠ 0 then servTypeSym else 0) |||
    (if capabilities &&& 0x02 ≠ 0 then servTypeAsym else 0) |||
    (if capabilities &&& 0x20 ≠ 0 then servTypeDc else 0)

/-- `INSTANCES_PER_DEVICE`. -/
def instancesPerDevice : Int := 4

/-- The numbers of sym, asym, cy and dc instances; `none` is the unknown configuration. -/
def instanceCounts (services : Nat) : Option (Int × Int × Int × Int) :=
  if services = servTypeCy then
    some (instancesPerDevice / 2, instancesPerDevice / 2, instancesPerDevice / 2, 0)
  else if services = servTypeSym then some (instancesPerDevice, 0, instancesPerDevice, 0)
  else if services = servTypeAsym then some (0, instancesPerDevice, instancesPerDevice, 0)
  else if services = servTypeDc then some (0, 0, 0, instancesPerDevice)
  else if services = servTypeAsymDc then
    some (0, instancesPerDevice / 2, instancesPerDevice / 2, instancesPerDevice / 2)
  else if services = servTypeSymDc then
    some (instancesPerDevice / 2, 0, instancesPerDevice / 2, instancesPerDevice / 2)
  else none

/-- `calculate_bank_number`. -/
def calculateBankNumber (device : DeviceData) (instanceService : Nat) (instIdx : Int) : Int :=
  if device.services = servTypeCy then
    if instanceService = servTypeAsym then (instIdx % device.numCyInst) * 2
    else (instIdx % device.numCyInst) * 2 + 1
  else if device.services = servTypeSym then instIdx % device.numSymInst
  else if device.services = servTypeAsym then instIdx % device.numAsymInst
  else if device.services = servTypeDc then instIdx % device.numDcInst
  else if device.services = servTypeAsymDc then
    if instanceService = servTypeAsym then (instIdx % device.numAsymInst) * 2 + 1
    else (instIdx % device.numDcInst) * 2
  else if device.services = servTypeSymDc then
    if instanceService = servTypeSym then (instIdx % device.numSymInst) * 2 + 1
    else (instIdx % device.numDcInst) * 2
  else instIdx % instancesPerDevice

/-- What is carried from one device to the next: the next core, the numbers of instances in the section
    and the cached capabilities. -/
structure Progress where
  core : Nat
  numSymInst : Nat
  numAsymInst : Nat
  numDcInst : Nat
  cache : List PfCapabilities

/-- The core of the instance after one on the given core. -/
def nextCore (env : BuildEnv) (core : Nat) : Nat := (core + 1) % env.numProcs

section

variable (env : BuildEnv) (vm : Bool) (vf : DevData)

/-- The data of the `k`-th instance of a service. -/
def instanceData (device : DeviceData) (accelid : Nat) (service : Nat) (name : String)
    (firstName firstCore k : Nat) (numConcurrentRequests : Int) : InstanceData where
  name := .sanitize qatmgrMaxStrlen qatmgrMaxStrlen_pos
    (name.toUTF8.toList ++ decDigits (firstName + k))
  accelid := accelid
  bankNumber := calculateBankNumber device service k
  ringTx := 0
  ringRx := 1
  isPolled := 1
  numConcurrentRequests := numConcurrentRequests
  coreAffinity := (Nat.iterate (nextCore env) k firstCore : Nat)

section

variable (vfIdx : Nat) (device : DeviceData) (cache : List PfCapabilities)

/-- The loops that fill the instances: asym, then sym, then dc. -/
def fillInstances (accelid : Nat) (p : Progress) : DeviceData × Progress :=
  let numAsym := device.numAsymInst.toNat
  let numSym := device.numSymInst.toNat
  let numDc := device.numDcInst.toNat
  let asymCore := p.core
  let symCore := Nat.iterate (nextCore env) numAsym asymCore
  let dcCore := Nat.iterate (nextCore env) numSym symCore
  let cyInstance : Nat → CyInstanceData := fun k =>
    { asym :=
        if k < numAsym then
          instanceData env device accelid servTypeAsym "asym" p.numAsymInst asymCore k 64
        else default
      sym :=
        if k < numSym then
          instanceData env device accelid servTypeSym "sym" p.numSymInst symCore k 512
        else default }
  let dcInstance : Nat → InstanceData := fun k =>
    if k < numDc then instanceData env device accelid servTypeDc "dc" p.numDcInst dcCore k 512
    else default
  ({ device with cyInstanceData := cyInstance, dcInstanceData := dcInstance },
    { p with
      core := Nat.iterate (nextCore env) numDc dcCore
      numSymInst := p.numSymInst + numSym
      numAsymInst := p.numAsymInst + numAsym
      numDcInst := p.numDcInst + numDc })

/-- The PF is asked for the capabilities of a device; an answer is cached on a host. An error has been
    followed by `qat_mgr_cleanup_cfg`. -/
def askCapabilities : Except BuildError (DeviceData × List PfCapabilities) :=
  if env.vf2pfAvailable vfIdx then
    match env.getCapabilities vfIdx with
    | .openFailed => .ok (device, cache)
    | .failed ret compatible =>
        if compatible then .ok ({ device with groupFd := -1 }, cache) else .error (.ret ret)
    | .answer extDcCaps capabilities =>
        let device := { device with
          groupFd := -1
          accelCapabilities := capabilities
          extendedCapabilities := extDcCaps }
        if vm then .ok (device, cache)
        else if env.callocCache vfIdx then
          .ok (device, ⟨pfKey vf.bdf, extDcCaps, capabilities⟩ :: cache)
        else .error eagain
  else .ok (device, cache)

/-- `find_pf_capabilities`, which is not called in a virtual machine. -/
def cachedFor : Option PfCapabilities :=
  if vm then none else cache.find? fun caps => caps.pf = pfKey vf.bdf

/-- The capabilities of a device: cached ones, those its PF reports, or the fallback that is already
    there. -/
def setCapabilities : Except BuildError (DeviceData × List PfCapabilities) :=
  match cachedFor vm vf cache with
  | some caps =>
      .ok ({ device with
        accelCapabilities := caps.capabilities, extendedCapabilities := caps.extDcCaps }, cache)
  | none => askCapabilities env vm vf vfIdx device cache

end

end

/-- The fields of a device that come from the VF and from constants. -/
def deviceOf (vf : DevData) (pkgId : Nat) : DeviceData :=
  { (default : DeviceData) with
    deviceId := deviceText (bdfText vf.bdf)
    deviceFile := deviceText vf.vfioFile.bytes
    groupFd := vf.groupFd
    node := (bdfNode vf.bdf).toNat
    pkgId := pkgId
    maxBanks := 4
    maxRingsPerBank := 2
    arbMask := 1
    accelCapabilities := fallbackCapabilities
    extendedCapabilities := 0 }

/-- The fields that come from the device id and the capabilities. -/
def identify (vf : DevData) (device : DeviceData) : DeviceData :=
  { device with
    name := deviceText (qatDeviceName vf.devid).toUTF8.toList
    deviceType := qatDeviceType vf.devid
    pciId := (vf.devid.setWidth 16).toNat
    services := servicesOf device.accelCapabilities }

/-- A failing exit; `left` is what stays in memory, if `qat_mgr_cleanup_cfg` is not called. -/
structure BuildFailure (α : Type) where
  error : BuildError
  left : Option α

/-- The numbers of instances of a device, memory for them and their data. -/
def configureDevice (env : BuildEnv) (device : DeviceData) (vfIdx accelid : Nat) (p : Progress) :
    Except (BuildFailure (DeviceData × List PfCapabilities)) (DeviceData × Progress) :=
  match instanceCounts device.services with
  | none => .error ⟨.ret (-1), some (device, p.cache)⟩
  | some (numSym, numAsym, numCy, numDc) =>
      let device := { device with
        numSymInst := numSym, numAsymInst := numAsym, numCyInst := numCy, numDcInst := numDc }
      if numDc ≠ 0 ∧ env.callocDc vfIdx = false then .error ⟨eagain, none⟩
      else if numCy ≠ 0 ∧ env.callocCy vfIdx = false then .error ⟨eagain, none⟩
      else .ok (fillInstances env device accelid p)

/-- The package id of a device; without PFs it is the number of the device in its section. -/
def devicePkgId (vfPkgId accelid : Nat) : Nat :=
  if vfPkgId = vmPackageIdNone then accelid else vfPkgId

section

variable (env : BuildEnv) (cfg : Cfg)

/-- Running without PFs is taken for running in a virtual machine. -/
def Cfg.vm : Bool := cfg.numPfs = 0

/-- The body of the loop over the VFs of a section. -/
def buildDevice (vf : DevData) (vfIdx accelid : Nat) (p : Progress) :
    Except (BuildFailure (DeviceData × List PfCapabilities)) (DeviceData × Progress) :=
  match getPkgId cfg.numPfs cfg.pfData vf.bdf with
  | none => .error ⟨eagain, none⟩
  | some vfPkgId =>
      match setCapabilities env cfg.vm vf vfIdx (deviceOf vf (devicePkgId vfPkgId accelid))
          p.cache with
      | .error e => .error ⟨e, none⟩
      | .ok (device, cache) =>
          configureDevice env (identify vf device) vfIdx accelid { p with cache := cache }

/-! ## Sections -/

/-- The loop over the VFs of a section; `devices` are those already done. -/
def buildDevices (env : BuildEnv) (cfg : Cfg) :
    List DevData → Nat → Nat → Progress → List DeviceData →
      Except (BuildFailure (List DeviceData × List PfCapabilities)) (List DeviceData × Progress)
  | [], _, _, p, devices => .ok (devices, p)
  | vf :: vfs, vfIdx, j, p, devices =>
      match buildDevice env cfg vf vfIdx j p with
      | .error f => .error ⟨f.error, f.left.map fun left => (devices ++ [left.1], left.2)⟩
      | .ok (device, p) => buildDevices env cfg vfs (vfIdx + 1) (j + 1) p (devices ++ [device])

/-- `num_vfs_this_section`. -/
def numVfsThisSection (policy : Int) (pfsPerVfGroup : List Nat) (numVfDevices vfIdx i : Nat) : Int :=
  if policy ≠ 0 then
    if policy > (numVfDevices : Int) - vfIdx then (numVfDevices : Int) - vfIdx else policy
  else pfsPerVfGroup.getD i 0

/-- A section with the devices that are done. -/
def sectionOf (i : Nat) (numDevices : Nat) (devices : List DeviceData) : SectionData where
  sectionName := .sanitize qatmgrMaxStrlen qatmgrMaxStrlen_pos
    ("SSL_INT_".toUTF8.toList ++ decDigits i)
  assignedTid := 0
  numDevices := numDevices
  deviceData := fun j => devices.getD j default

/-- The loop over the sections, of which `left` are to be done. A negative number of devices is more
    than `calloc` can give. The VFs of a section are never more than the list has left. -/
def buildSections (env : BuildEnv) (cfg : Cfg) (devList : List DevData) (policy : Int)
    (pfsPerVfGroup : List Nat) :
    Nat → Nat → Nat → Nat → List PfCapabilities → List SectionData →
      Except (BuildFailure (List SectionData × List PfCapabilities))
        (List SectionData × List PfCapabilities)
  | 0, _, _, _, cache, sections => .ok (sections, cache)
  | left + 1, i, vfIdx, core, cache, sections =>
      let num := numVfsThisSection policy pfsPerVfGroup devList.length vfIdx i
      if num < 0 ∨ env.callocDevices i = false then .error ⟨eagain, none⟩
      else
        match buildDevices env cfg ((devList.drop vfIdx).take num.toNat) vfIdx 0
            ⟨core, 0, 0, 0, cache⟩ [] with
        | .error f =>
            .error ⟨f.error, f.left.map fun half =>
              (sections ++ [sectionOf i num.toNat half.1] ++ List.replicate left default, half.2)⟩
        | .ok (devices, p) =>
            buildSections env cfg devList policy pfsPerVfGroup left (i + 1) (vfIdx + num.toNat) p.core
              p.cache (sections ++ [sectionOf i num.toNat devices])

/-- The PF table is read from sysfs by the first call that needs it. -/
def Cfg.withPfs (env : BuildEnv) : Cfg :=
  if cfg.numPfs = -1 then
    let pfs := adfVfioInitPfsInfo cfg.pfData env.sysfs
    { cfg with numPfs := pfs.1, pfData := pfs.2 }
  else cfg

/-- `qat_mgr_build_data` from the allocation of the table on. -/
def fillSections (devList : List DevData) (policy : Int) (pfsPerVfGroup : List Nat) :
    Except BuildError Unit × Cfg :=
  if env.callocSections = false then
    (.error eagain, { cfg with sectionData := none, numSectionData := 0 }.cleanup)
  else
    match buildSections env cfg devList policy pfsPerVfGroup cfg.numSectionData.toNat 0 0 0
        cfg.pfCapabilities [] with
    | .ok (sections, cache) =>
        (.ok (), { cfg with sectionData := some sections, pfCapabilities := cache })
    | .error ⟨e, none⟩ => (.error e, { cfg with sectionData := some [] }.cleanup)
    | .error ⟨e, some (sections, cache)⟩ =>
        (.error e, { cfg with sectionData := some sections, pfCapabilities := cache })

/-- `qat_mgr_build_data`. -/
def qatMgrBuildData (devList : List DevData) (policy : Int) (staticCfg : Bool) :
    Except BuildError Unit × Cfg :=
  if devList.length = 0 then (.error einval, cfg)
  else
    let cfg := cfg.withPfs env
    if cfg.numPfs < 0 ∨ cfg.numPfs > adfMaxPfDevices then (.error (.ret (-1)), cfg)
    else if staticCfg = false then
      match countVfGroups env devList with
      | .error e => (.error e, cfg)
      | .ok pfsPerVfGroup =>
          let numSectionData : Int :=
            if policy = 0 then pfsPerVfGroup.length else Int.tdiv devList.length policy
          let cfg := { cfg with numSectionData := numSectionData }
          if numSectionData ≤ 0 then (.error einval, cfg)
          else fillSections env cfg devList policy pfsPerVfGroup
    else if (devList.length : Int) ≥ policy then
      fillSections env { cfg with numSectionData := 1 } devList policy []
    else (.error einval, cfg)

/-! ## What a call does -/

/-- A call gets as far as a number of sections. -/
structure Planned (devList : List DevData) (policy : Int) (staticCfg : Bool)
    (pfsPerVfGroup : List Nat) (numSectionData : Int) : Prop where
  devList_ne : devList ≠ []
  pfs : 0 ≤ (cfg.withPfs env).numPfs ∧ (cfg.withPfs env).numPfs ≤ adfMaxPfDevices
  daemon : staticCfg = false → countVfGroups env devList = .ok pfsPerVfGroup ∧
    numSectionData = if policy = 0 then (pfsPerVfGroup.length : Int)
      else Int.tdiv devList.length policy
  process : staticCfg = true → policy ≤ devList.length ∧ pfsPerVfGroup = [] ∧ numSectionData = 1

end

variable {env : BuildEnv} {cfg : Cfg} {devList : List DevData} {policy : Int} {staticCfg : Bool}

theorem qatMgrBuildData_of_planned {pfsPerVfGroup : List Nat} {numSectionData : Int}
    (h : Planned env cfg devList policy staticCfg pfsPerVfGroup numSectionData) :
    qatMgrBuildData env cfg devList policy staticCfg =
      if numSectionData ≤ 0 then
        (.error einval, { cfg.withPfs env with numSectionData := numSectionData })
      else
        fillSections env { cfg.withPfs env with numSectionData := numSectionData } devList policy
          pfsPerVfGroup := by
  have hlen : ¬ devList.length = 0 := fun h0 => h.devList_ne (List.length_eq_zero_iff.mp h0)
  have hpfs : ¬ ((cfg.withPfs env).numPfs < 0 ∨ (cfg.withPfs env).numPfs > adfMaxPfDevices) := by
    have := h.pfs
    omega
  unfold qatMgrBuildData
  rw [if_neg hlen]
  dsimp only
  rw [if_neg hpfs]
  cases staticCfg with
  | false =>
    obtain ⟨hgroups, hnum⟩ := h.daemon rfl
    rw [if_pos rfl, hgroups]
    dsimp only
    rw [← hnum]
  | true =>
    obtain ⟨hle, rfl, rfl⟩ := h.process rfl
    rw [if_neg (by decide), if_pos hle, if_neg (by decide)]

/-- A call that does not get so far fails and leaves the section table alone. -/
theorem qatMgrBuildData_of_not_planned
    (h : ∀ pfsPerVfGroup numSectionData,
      ¬ Planned env cfg devList policy staticCfg pfsPerVfGroup numSectionData) :
    ∃ e cfg', qatMgrBuildData env cfg devList policy staticCfg = (.error e, cfg') ∧
      cfg'.sectionData = cfg.sectionData ∧ cfg'.numSectionData = cfg.numSectionData := by
  have hkeep : (cfg.withPfs env).sectionData = cfg.sectionData ∧
      (cfg.withPfs env).numSectionData = cfg.numSectionData := by
    unfold Cfg.withPfs
    split <;> exact ⟨rfl, rfl⟩
  unfold qatMgrBuildData
  by_cases hlen : devList.length = 0
  · rw [if_pos hlen]
    exact ⟨_, _, rfl, rfl, rfl⟩
  rw [if_neg hlen]
  dsimp only
  by_cases hpfs : (cfg.withPfs env).numPfs < 0 ∨ (cfg.withPfs env).numPfs > adfMaxPfDevices
  · rw [if_pos hpfs]
    exact ⟨_, _, rfl, hkeep⟩
  have hne : devList ≠ [] := fun h0 => hlen (by rw [h0]; rfl)
  rw [if_neg hpfs]
  cases staticCfg with
  | false =>
    rw [if_pos rfl]
    cases hgroups : countVfGroups env devList with
    | error e => exact ⟨_, _, rfl, hkeep⟩
    | ok pfsPerVfGroup =>
      exact absurd ⟨hne, by omega, fun _ => ⟨hgroups, rfl⟩, by simp⟩ (h pfsPerVfGroup _)
  | true =>
    rw [if_neg (by decide)]
    by_cases hge : (devList.length : Int) ≥ policy
    · exact absurd ⟨hne, by omega, by simp, fun _ => ⟨hge, rfl, rfl⟩⟩ (h [] 1)
    · rw [if_neg hge]
      exact ⟨_, _, rfl, hkeep⟩

end Qatlib.QatMgr
