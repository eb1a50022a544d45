import Mathlib.Tactic.IntervalCases
import Qatlib.QatMgr.Sections

set_option autoImplicit false

/-! # The table of physical functions

`adf_vfio_init_pfs_info` of `adf_vfio_pf.c` lists the physical functions that sysfs shows, and
`get_pkg_id` of `qat_mgr_lib.c` looks up the one a virtual function belongs to. A virtual function's
address has 32 bits, with the PCI domain in the upper 16; the table keeps the domain in a field of its
own and only 16 bits of the address. -/

namespace Qatlib.QatMgr

/-! ## Addresses -/

/-- A PCI address, `n:b:d.f` in sysfs. -/
structure PciAddress where
  node : BitVec 32
  bus : BitVec 8
  dev : BitVec 5
  func : BitVec 3
deriving DecidableEq

/-- The packing of an address, as `qat_mgr_get_dev_list` and `adf_vfio_init_pfs_info` compute it. -/
def PciAddress.bdf (addr : PciAddress) : BitVec 32 :=
  (addr.node <<< 16) + ((0xFF &&& addr.bus.setWidth 32) <<< 8) +
    ((0x1F &&& addr.dev.setWidth 32) <<< 3) + (0x07 &&& addr.func.setWidth 32)

/-- `BDF_NODE`. -/
def bdfNode (bdf : BitVec 32) : BitVec 32 := bdf >>> 16

/-- `BDF_BUS`. -/
def bdfBus (bdf : BitVec 32) : BitVec 32 := (bdf >>> 8) &&& 0xFF

/-- `BDF_DEV`. -/
def bdfDev (bdf : BitVec 32) : BitVec 32 := (bdf >>> 3) &&& 0x1F

/-- `BDF_FUN`. -/
def bdfFun (bdf : BitVec 32) : BitVec 32 := bdf &&& 0x7

/-- `BDF_PF`. -/
def bdfPf (bdf : BitVec 32) : BitVec 32 := bdf &&& 0xFFFFFF00

/-! ## The table -/

/-- What `scandir` finds in the directory of the PF driver. -/
inductive Sysfs where
  /-- Neither directory exists. -/
  | noDirectory
  | scanFailed
  /-- The entries of the form `n:b:d.f`, in the order of `alphasort`. -/
  | entries (pfs : List PciAddress)

/-- `QAT_GEN4_STR`. -/
def qatGen4Str : List UInt8 := "4xxx".toUTF8.toList

/-- An entry of the table; `domain` and `bdf` are of type `Cpa16U`. -/
def pfInfo (i : Nat) (addr : PciAddress) : PfInfo where
  pkgId := i
  domain := (addr.node.setWidth 16).toNat
  bdf := (addr.bdf.setWidth 16).toNat
  deviceGen := qatGen4Str

/-- `adf_vfio_init_pfs_info` on the array `pf_data`: its return value and the array. -/
def adfVfioInitPfsInfo (pfData : Nat → PfInfo) : Sysfs → Int × (Nat → PfInfo)
  | .noDirectory => (0, pfData)
  | .scanFailed => (-1, pfData)
  | .entries pfs =>
      if adfMaxPfDevices < pfs.length then (-4, pfData)
      else
        (pfs.length, fun i =>
          match pfs[i]? with
          | some addr => pfInfo i addr
          | none => pfData i)

/-- `VM_PACKAGE_ID_NONE`. -/
def vmPackageIdNone : Nat := 0xFFFF

/-- The loop of `get_pkg_id`, over the entries not yet looked at. -/
def pkgIdLoop (pfData : Nat → PfInfo) (pfBdf : BitVec 16) : Nat → Nat → Option Nat
  | 0, _ => none
  | left + 1, pkgId =>
      if (pfData pkgId).bdf = pfBdf.toNat then some pkgId
      else pkgIdLoop pfData pfBdf left (pkgId + 1)

/-- `get_pkg_id`; the local `pf_bdf` is a `uint16_t`. `none` is the failing return value. -/
def getPkgId (numPfs : Int) (pfData : Nat → PfInfo) (vfBdf : BitVec 32) : Option Nat :=
  if numPfs = 0 then some vmPackageIdNone
  else pkgIdLoop pfData ((bdfPf vfBdf).setWidth 16) numPfs.toNat 0

/-! ## Fields of an address -/

theorem mask_toNat {w : Nat} (n : Nat) (x : BitVec w) (hn : n < w) :
    (BitVec.ofNat w (2 ^ n - 1) &&& x).toNat = x.toNat % 2 ^ n := by
  have hlt : 2 ^ n - 1 < 2 ^ w := (Nat.sub_le _ _).trans_lt (Nat.pow_lt_pow_right (by decide) hn)
  rw [BitVec.toNat_and, BitVec.toNat_ofNat, Nat.mod_eq_of_lt hlt, Nat.and_comm,
    Nat.and_two_pow_sub_one_eq_mod]

/-- A mask as wide as the field it is applied to changes nothing. -/
theorem mask_field {n : Nat} (x : BitVec n) (hn : n < 32) :
    (BitVec.ofNat 32 (2 ^ n - 1) &&& x.setWidth 32).toNat = x.toNat := by
  have hlt : x.toNat < 2 ^ 32 := x.isLt.trans (Nat.pow_lt_pow_right (by decide) hn)
  rw [mask_toNat n _ hn, BitVec.toNat_setWidth, Nat.mod_eq_of_lt hlt, Nat.mod_eq_of_lt x.isLt]

/-- The 16 bits that the table keeps of an address. -/
theorem bdf_setWidth_toNat (addr : PciAddress) :
    (addr.bdf.setWidth 16).toNat = addr.bus.toNat * 256 + addr.dev.toNat * 8 + addr.func.toNat := by
  have hbus := addr.bus.isLt
  have hdev := addr.dev.isLt
  have hfunc := addr.func.isLt
  have hmbus : (0xFF &&& addr.bus.setWidth 32 : BitVec 32).toNat = addr.bus.toNat :=
    mask_field addr.bus (by decide)
  have hmdev : (0x1F &&& addr.dev.setWidth 32 : BitVec 32).toNat = addr.dev.toNat :=
    mask_field addr.dev (by decide)
  have hmfunc : (0x07 &&& addr.func.setWidth 32 : BitVec 32).toNat = addr.func.toNat :=
    mask_field addr.func (by decide)
  simp only [PciAddress.bdf, BitVec.toNat_setWidth, BitVec.toNat_add, BitVec.toNat_shiftLeft,
    Nat.shiftLeft_eq, hmbus, hmdev, hmfunc]
  omega

section

variable (addr : PciAddress) (vfBdf : BitVec 32)

/-- The 16 bits that `get_pkg_id` searches for: the domain is lost. -/
theorem bdfPf_setWidth_toNat : ((bdfPf vfBdf).setWidth 16).toNat = (bdfBus vfBdf).toNat * 256 := by
  have hshift : bdfPf vfBdf = (vfBdf >>> 8) <<< 8 := by
    apply BitVec.eq_of_getLsbD_eq
    intro i hi
    interval_cases i <;> simp [bdfPf]
  have hbus : (bdfBus vfBdf).toNat = vfBdf.toNat / 256 % 256 := by
    rw [bdfBus, BitVec.and_comm]
    simpa [Nat.shiftRight_eq_div_pow] using mask_toNat 8 (vfBdf >>> 8) (by decide)
  rw [hshift, hbus]
  simp only [BitVec.toNat_setWidth, BitVec.toNat_shiftLeft, BitVec.toNat_ushiftRight,
    Nat.shiftRight_eq_div_pow, Nat.shiftLeft_eq]
  omega

/-! ## The look-up -/

/-- A physical function in the domain and on the bus of a virtual function. -/
def PciAddress.Owns : Prop := addr.node = bdfNode vfBdf ∧ addr.bus.setWidth 32 = bdfBus vfBdf

/-- A physical function that the search stops at: on the bus of the virtual function, with device and
    function number 0. -/
def PciAddress.FirstOnBus : Prop :=
  addr.bus.setWidth 32 = bdfBus vfBdf ∧ addr.dev = 0 ∧ addr.func = 0

instance : Decidable (addr.Owns vfBdf) :=
  inferInstanceAs <| Decidable <| addr.node = bdfNode vfBdf ∧ addr.bus.setWidth 32 = bdfBus vfBdf

instance : Decidable (addr.FirstOnBus vfBdf) :=
  inferInstanceAs <| Decidable <| addr.bus.setWidth 32 = bdfBus vfBdf ∧ addr.dev = 0 ∧ addr.func = 0

end

/-- The physical functions of a table that was built. -/
def Sysfs.pfs : Sysfs → List PciAddress
  | .entries pfs => pfs
  | _ => []

theorem pfInfo_bdf_eq_iff (i : Nat) (addr : PciAddress) (vfBdf : BitVec 32) :
    (pfInfo i addr).bdf = ((bdfPf vfBdf).setWidth 16).toNat ↔ addr.FirstOnBus vfBdf := by
  have hbus := addr.bus.isLt
  have hdev := addr.dev.isLt
  have hfunc := addr.func.isLt
  have hwidth : (addr.bus.setWidth 32).toNat = addr.bus.toNat := by
    rw [BitVec.toNat_setWidth]
    omega
  have hzero (w : Nat) : (0 : BitVec w).toNat = 0 := BitVec.toNat_zero
  rw [pfInfo, bdf_setWidth_toNat, bdfPf_setWidth_toNat]
  simp only [PciAddress.FirstOnBus, ← BitVec.toNat_inj, hwidth, hzero]
  omega

variable {pfData : Nat → PfInfo} {pfs : List PciAddress}

/-- The loop finds the first physical function it can stop at. -/
theorem pkgIdLoop_eq {k : Nat} (vfBdf : BitVec 32)
    (hdata : ∀ i addr, pfs[i]? = some addr → pfData (k + i) = pfInfo (k + i) addr) :
    pkgIdLoop pfData ((bdfPf vfBdf).setWidth 16) pfs.length k =
      (pfs.findIdx? (fun addr => addr.FirstOnBus vfBdf)).map (k + ·) := by
  induction pfs generalizing k with
  | nil => rfl
  | cons addr pfs ih =>
    have hhead : (pfData k).bdf = ((bdfPf vfBdf).setWidth 16).toNat ↔ addr.FirstOnBus vfBdf := by
      have hk := hdata 0 addr rfl
      rw [Nat.add_zero] at hk
      rw [hk]
      exact pfInfo_bdf_eq_iff k addr vfBdf
    have htail := ih (k := k + 1) fun i addr' h => by
      rw [Nat.add_assoc, Nat.add_comm 1 i]
      exact hdata (i + 1) addr' h
    rw [List.length_cons, pkgIdLoop, htail, List.findIdx?_cons]
    by_cases hstop : addr.FirstOnBus vfBdf
    · simp [hhead.mpr hstop, hstop]
    · simp only [mt hhead.mp hstop, hstop, if_false, decide_false, Bool.false_eq_true,
        Option.map_map]
      congr 1
      funext i
      simp only [Function.comp_apply]
      omega

/-- A table that was built holds the physical functions in their order. -/
theorem adfVfioInitPfsInfo_built {sysfs : Sysfs} (hbuilt : 0 ≤ (adfVfioInitPfsInfo pfData sysfs).1) :
    sysfs.pfs.length ≤ 32 ∧ ∃ data, adfVfioInitPfsInfo pfData sysfs = ((sysfs.pfs.length : Int), data) ∧
      ∀ i addr, sysfs.pfs[i]? = some addr → data i = pfInfo i addr := by
  cases sysfs with
  | noDirectory => exact ⟨by simp [Sysfs.pfs], pfData, rfl, by simp [Sysfs.pfs]⟩
  | scanFailed => exact absurd hbuilt (by simp [adfVfioInitPfsInfo])
  | entries pfs =>
    by_cases hlen : adfMaxPfDevices < pfs.length
    · exact absurd hbuilt (by simp [adfVfioInitPfsInfo, hlen])
    · refine ⟨?_, _, by simp only [adfVfioInitPfsInfo, if_neg hlen]; rfl, ?_⟩
      · simp only [adfMaxPfDevices, Sysfs.pfs] at hlen ⊢
        omega
      · intro i addr haddr
        have haddr' : pfs[i]? = some addr := haddr
        simp [haddr']

theorem getPkgId_eq {data : Nat → PfInfo} (vfBdf : BitVec 32)
    (hdata : ∀ i addr, pfs[i]? = some addr → data i = pfInfo i addr) :
    getPkgId pfs.length data vfBdf =
      if pfs = [] then some vmPackageIdNone
      else pfs.findIdx? (fun addr => addr.FirstOnBus vfBdf) := by
  rw [getPkgId]
  by_cases hnil : pfs = []
  · simp [hnil]
  · rw [if_neg (by simpa using hnil), if_neg hnil, Int.toNat_natCast, pkgIdLoop_eq vfBdf]
    · simp
    · simpa using hdata

/-- What the look-up is for: the index of a physical function that owns the virtual function, if the
    table has one. -/
def PkgIdRight (pfs : List PciAddress) (vfBdf : BitVec 32) (found : Option Nat) : Prop :=
  (∀ pkgId, found = some pkgId → pkgId ≠ vmPackageIdNone →
      ∃ addr, pfs[pkgId]? = some addr ∧ addr.Owns vfBdf) ∧
    ((∃ addr ∈ pfs, addr.Owns vfBdf) → ∃ pkgId, found = some pkgId ∧ pkgId ≠ vmPackageIdNone)

/-- The first physical function on the bus of the virtual function with device and function number 0
    is in the domain of the virtual function; if there is none, no physical function of that domain is
    on the bus. -/
def FirstOnBusOwns (pfs : List PciAddress) (vfBdf : BitVec 32) : Prop :=
  (∀ addr, pfs.find? (fun addr => addr.FirstOnBus vfBdf) = some addr → addr.node = bdfNode vfBdf) ∧
    ((∀ addr ∈ pfs, ¬ addr.FirstOnBus vfBdf) → ∀ addr ∈ pfs, ¬ addr.Owns vfBdf)

/-- **`get_pkg_id` finds the owner exactly when the search, which does not see the domain and stops
    only at device and function 0, stops at it.** -/
theorem getPkgId_right_iff (pfData : Nat → PfInfo) (sysfs : Sysfs) (vfBdf : BitVec 32)
    (hbuilt : 0 ≤ (adfVfioInitPfsInfo pfData sysfs).1) :
    PkgIdRight sysfs.pfs vfBdf
        (getPkgId (adfVfioInitPfsInfo pfData sysfs).1 (adfVfioInitPfsInfo pfData sysfs).2 vfBdf) ↔
      FirstOnBusOwns sysfs.pfs vfBdf := by
  obtain ⟨hlen, data, htable, hdata⟩ := adfVfioInitPfsInfo_built hbuilt
  rw [htable, getPkgId_eq vfBdf hdata]
  generalize sysfs.pfs = pfs at hlen ⊢
  by_cases hnil : pfs = []
  · simp [hnil, PkgIdRight, FirstOnBusOwns]
  rw [if_neg hnil]
  cases hfind : pfs.findIdx? (fun addr => addr.FirstOnBus vfBdf) with
  | none =>
    have hno : ∀ addr ∈ pfs, ¬ addr.FirstOnBus vfBdf := by
      simpa using List.findIdx?_eq_none_iff.mp hfind
    have hfind' : pfs.find? (fun addr => addr.FirstOnBus vfBdf) = none := by simpa using hno
    simp only [PkgIdRight, FirstOnBusOwns, hfind', reduceCtorEq, false_implies, implies_true,
      true_and, false_and, exists_const, imp_false, not_exists, not_and]
    exact ⟨fun h _ => h, fun h => h hno⟩
  | some pkgId =>
    obtain ⟨hi, hstop, hfirst⟩ := List.findIdx?_eq_some_iff_getElem.mp hfind
    have hstop' : pfs[pkgId].FirstOnBus vfBdf := by simpa using hstop
    have hfind' : pfs.find? (fun addr => addr.FirstOnBus vfBdf) = some pfs[pkgId] :=
      List.find?_eq_some_iff_getElem.mpr ⟨hstop, pkgId, hi, rfl, by simpa using hfirst⟩
    have hne : pkgId ≠ vmPackageIdNone := by
      unfold vmPackageIdNone
      omega
    constructor
    · rintro ⟨hright, -⟩
      obtain ⟨addr, haddr, hnode, -⟩ := hright pkgId rfl hne
      rw [List.getElem?_eq_getElem hi, Option.some.injEq] at haddr
      refine ⟨fun addr' h => ?_, fun h => absurd hstop' (h _ (List.getElem_mem hi))⟩
      rw [hfind', Option.some.injEq, haddr] at h
      rw [← h, hnode]
    · rintro ⟨hnode, -⟩
      refine ⟨?_, fun _ => ⟨pkgId, rfl, hne⟩⟩
      rintro _ ⟨⟩ -
      exact ⟨pfs[pkgId], List.getElem?_eq_getElem hi, hnode _ hfind', hstop'.1⟩

theorem getPkgId_right_iff_domain_zero :
    FirstOnBusOwns [⟨0, 0x6b, 0, 0⟩, ⟨0, 0x70, 0, 0⟩] 0x7008 ∧
      PkgIdRight [⟨0, 0x6b, 0, 0⟩, ⟨0, 0x70, 0, 0⟩] 0x7008 (some 1) := by
  have hfirst : FirstOnBusOwns [⟨0, 0x6b, 0, 0⟩, ⟨0, 0x70, 0, 0⟩] 0x7008 := by
    unfold FirstOnBusOwns
    decide
  exact ⟨hfirst, (getPkgId_right_iff (fun _ => default)
    (.entries [⟨0, 0x6b, 0, 0⟩, ⟨0, 0x70, 0, 0⟩]) 0x7008 (by decide)).mpr hfirst⟩

/-- Two physical functions on bus `6b` of the domains 0 and 1: for a virtual function of domain 1 the
    one of domain 0 is found. A physical function that is not at device 0 is not found at all. -/
theorem getPkgId_wrong_domain :
    (getPkgId (adfVfioInitPfsInfo (fun _ => default)
          (.entries [⟨0, 0x6b, 0, 0⟩, ⟨1, 0x6b, 0, 0⟩])).1
        (adfVfioInitPfsInfo (fun _ => default)
          (.entries [⟨0, 0x6b, 0, 0⟩, ⟨1, 0x6b, 0, 0⟩])).2 0x16b08 = some 0 ∧
      ¬ PciAddress.Owns ⟨0, 0x6b, 0, 0⟩ 0x16b08 ∧ PciAddress.Owns ⟨1, 0x6b, 0, 0⟩ 0x16b08) ∧
    getPkgId (adfVfioInitPfsInfo (fun _ => default) (.entries [⟨0, 0x6b, 1, 0⟩])).1
        (adfVfioInitPfsInfo (fun _ => default) (.entries [⟨0, 0x6b, 1, 0⟩])).2 0x6b10 = none ∧
      PciAddress.Owns ⟨0, 0x6b, 1, 0⟩ 0x6b10 := by
  decide

end Qatlib.QatMgr
