import Mathlib.Data.Finset.Card
import Mathlib.Data.Finset.Insert
import Mathlib.Logic.Function.Basic
import Qatlib.Lib.System

set_option autoImplicit false

/-! # The VFIO container

`vfio_lib.c` and its callers: all devices of a process share one container, kept open by
`container_fd` and counted by `container_fd_ref`. A device belongs to a group, the group is attached
to the container, and the first group attached lets the IOMMU type be set, without which no device
descriptor may be requested.

On the kernel's side a group stays attached while its descriptor or the descriptor of its device is
open, and goes with the last of the two, whether or not `VFIO_GROUP_UNSET_CONTAINER` succeeded. A
descriptor is a number that is not used again; the descriptor of a device is named after its group.
The mapped regions are left out, and so is the test for a forked child: there is one process. -/

namespace Qatlib.Vfio

/-- The descriptors of `vfio_dev_info_t`; `none` is `-1`. -/
structure VfioDev where
  groupFd : Option Nat
  devFd : Option Nat
deriving DecidableEq

/-- A process and what the kernel holds for it. -/
structure VfioState where
  containerFd : Option Nat
  containerFdRef : Int
  /-- The devices of the process, with their `vfio_dev_info_t`. -/
  devs : Nat → Option VfioDev
  /-- The next descriptor. -/
  next : Nat
  groupFds : Finset Nat
  devFds : Finset Nat
  /-- The groups attached to a container. -/
  attached : Finset Nat
  containerOf : Nat → Nat
  /-- The containers whose IOMMU type has been set. -/
  iommu : Nat → Bool
  /-- Not in the program: a device descriptor was requested before the IOMMU type was set. -/
  early : Bool

/-- What the system calls of an open answer. A group descriptor that qatmgr passes stands for one
    that is opened. -/
structure OpenAnswers where
  /-- The queries to qatmgr and the memory of the caller. -/
  queries : Bool
  container : Bool
  apiVersion : Bool
  extension : Bool
  group : Bool
  status : Bool
  viable : Bool
  setContainer : Bool
  setIommu : Bool
  deviceFd : Bool
  /-- `PCI_COMMAND_MEMORY` can be set. -/
  memory : Bool
  info : Bool
  /-- `PCI_COMMAND_MASTER` can be set. -/
  master : Bool
  reset : Bool
  /-- `qaeRegisterDevice` succeeds. -/
  register : Bool

/-! ## Closing -/

namespace VfioState

variable (s : VfioState)

/-- A group without descriptors leaves its container. -/
def reap (g : Nat) : VfioState :=
  if g ∈ s.groupFds ∨ g ∈ s.devFds then s else { s with attached := s.attached.erase g }

/-- `close` of a group descriptor. -/
def closeGroup : Option Nat → VfioState
  | none => s
  | some g => { s with groupFds := s.groupFds.erase g }.reap g

/-- `close` of a device descriptor. -/
def closeDev : Option Nat → VfioState
  | none => s
  | some g => { s with devFds := s.devFds.erase g }.reap g

/-- The container is closed when the count is zero. -/
def closeUnused : VfioState :=
  { s with containerFd := if s.containerFdRef = 0 then none else s.containerFd }

/-- `remove_and_close_group`. -/
def removeAndCloseGroup (dev : VfioDev) : VfioState × VfioDev :=
  (({ s with containerFdRef := s.containerFdRef - 1 }.closeGroup dev.groupFd).closeUnused,
    { dev with groupFd := none })

/-- `close_vfio_dev`. -/
def closeVfioDev (dev : VfioDev) : VfioState × VfioDev :=
  (s.closeDev dev.devFd).removeAndCloseGroup { dev with devFd := none }

/-! ## Opening -/

/-- The start of `open_vfio_dev`: the container and whether it was open before (`already_enabled`).
    When a check fails the new container stays open. -/
def openContainer (a : OpenAnswers) : Option (Nat × Bool) × VfioState :=
  match s.containerFd with
  | some c => (some (c, true), s)
  | none =>
      if a.container = false then (none, s)
      else
        let s' := { s with containerFd := some s.next, next := s.next + 1 }
        if a.apiVersion = false then (none, s')
        else if a.extension = false then (none, s')
        else (some (s.next, false), s')

/-- `VFIO_GROUP_GET_DEVICE_FD` is called. -/
def requestDevice (c : Nat) : VfioState := { s with early := s.early || !s.iommu c }

/-- The descriptor of a device is open. -/
def withDevice (g : Nat) : VfioState := { s with devFds := insert g s.devFds }

/-- The IOMMU type of a container is set. -/
def withIommu (c : Nat) : VfioState := { s with iommu := Function.update s.iommu c true }

/-- The end of `open_vfio_dev`, from the request for the device descriptor on. -/
def setupDevice (c g : Nat) (dev : VfioDev) (a : OpenAnswers) :
    Bool × VfioState × VfioDev :=
  let s := s.requestDevice c
  if a.deviceFd = false then (false, s.removeAndCloseGroup { dev with devFd := none })
  else
    let s := s.withDevice g
    let dev := { dev with devFd := some g }
    if a.memory = false ∨ a.info = false then
      (false, (s.closeDev dev.devFd).removeAndCloseGroup dev)
    else if a.master = false ∨ a.reset = false then (false, s.closeVfioDev dev)
    else (true, s, dev)

/-- The IOMMU type is set, for a container that was not open before. -/
def enableAndSetup (c g : Nat) (alreadyEnabled : Bool) (dev : VfioDev) (a : OpenAnswers) :
    Bool × VfioState × VfioDev :=
  if alreadyEnabled then s.setupDevice c g dev a
  else if a.setIommu = false then (false, s.removeAndCloseGroup dev)
  else (s.withIommu c).setupDevice c g dev a

/-- A group descriptor is open and the group attached to the container, and counted. -/
def withGroup (c g : Nat) : VfioState :=
  { s with
    groupFds := insert g s.groupFds
    attached := insert g s.attached
    containerOf := Function.update s.containerOf g c
    containerFdRef := s.containerFdRef + 1 }

/-- The middle of `open_vfio_dev`: the group is opened, tested and attached. -/
def openGroup (c : Nat) (alreadyEnabled : Bool) (dev : VfioDev) (a : OpenAnswers) :
    Bool × VfioState × VfioDev :=
  if a.group = false then (false, s, { dev with groupFd := none })
  else
    let g := s.next
    let dev := { dev with groupFd := some g }
    let s := { s with next := g + 1 }
    if a.status = false ∨ a.viable = false ∨ a.setContainer = false then
      (false, { s with groupFds := insert g s.groupFds }.closeGroup dev.groupFd, dev)
    else (s.withGroup c g).enableAndSetup c g alreadyEnabled dev a

/-- `open_vfio_dev`: whether it succeeds, and what becomes of the device's descriptors. -/
def openVfioDev (dev : VfioDev) (a : OpenAnswers) : Bool × VfioState × VfioDev :=
  match s.openContainer a with
  | (none, s) => (false, s, dev)
  | (some (c, alreadyEnabled), s) => s.openGroup c alreadyEnabled dev a

/-! ## The callers -/

/-- `open_vfio_dev`, and the registration with USDM: when that fails, only the group descriptor is
    closed. -/
def openAndRegister (dev : VfioDev) (a : OpenAnswers) : Bool × VfioState × VfioDev :=
  let opened := s.openVfioDev dev a
  if opened.1 = false then opened
  else if a.register = false then
    (false, opened.2.1.closeGroup opened.2.2.groupFd, opened.2.2)
  else opened

def setDev (i : Nat) (dev : Option VfioDev) : VfioState :=
  { s with devs := Function.update s.devs i dev }

/-- `adf_io_create_accel`: a device that cannot be opened and registered is freed. -/
def createAccel (i : Nat) (a : OpenAnswers) : VfioState :=
  if a.queries = false then s
  else
    let opened := s.openAndRegister ⟨none, none⟩ a
    if opened.1 = false then opened.2.1 else opened.2.1.setDev i (some opened.2.2)

/-- `reopen_vfio_dev`: the device keeps what the attempt left in it. -/
def reopenVfioDev (i : Nat) (dev : VfioDev) (a : OpenAnswers) : VfioState :=
  if a.queries = false then s
  else
    let opened := s.openAndRegister dev a
    opened.2.1.setDev i (some opened.2.2)

end VfioState

/-- What can happen to the devices of the process. -/
inductive VfioEvent where
  | create (i : Nat) (a : OpenAnswers)
  /-- `adf_io_vf2pf_notify_restarting_complete`. -/
  | restarting (i : Nat)
  | reopen (i : Nat) (a : OpenAnswers)
  /-- `adf_io_destroy_accel`, and the failing exit of `adf_io_reinit_accel`. -/
  | destroy (i : Nat)

section

variable (s : VfioState)

def VfioEvent.step : VfioEvent → Option VfioState
  | .create i a =>
      match s.devs i with
      | none => some (s.createAccel i a)
      | some _ => none
  | .restarting i =>
      (s.devs i).map fun dev => (s.closeVfioDev dev).1.setDev i (some (s.closeVfioDev dev).2)
  | .reopen i a => (s.devs i).map fun dev => s.reopenVfioDev i dev a
  | .destroy i => (s.devs i).map fun dev => (s.closeVfioDev dev).1.setDev i none

/-- A process without devices. -/
def VfioState.Initial : Prop :=
  s.containerFd = none ∧ s.containerFdRef = 0 ∧ (∀ i, s.devs i = none) ∧ s.groupFds = ∅ ∧
    s.devFds = ∅ ∧ s.attached = ∅ ∧ s.early = false

def vfio : System VfioState VfioEvent where
  Init := VfioState.Initial
  step := VfioEvent.step

/-- The count is that of the attached groups, they are attached to the container that is open, and
    every device descriptor was requested with the IOMMU type set. -/
structure VfioState.Counts : Prop where
  ref : s.containerFdRef = s.attached.card
  container : ∀ g ∈ s.attached, s.containerFd = some (s.containerOf g)
  iommu : s.early = false

/-! ## Orderly runs -/

/-- An open that creates the container gets as far as attaching the group. -/
def OpenAnswers.Attaches (a : OpenAnswers) (s : VfioState) : Prop :=
  s.containerFd = none → a.container = true →
    a.apiVersion = true ∧ a.extension = true ∧ a.group = true ∧ a.status = true ∧
      a.viable = true ∧ a.setContainer = true

/-- An open that creates the container attaches the group, a device is opened again only while its
    group is closed, and closed only while it is open. -/
def VfioEvent.Orderly : VfioEvent → Prop
  | .create _ a => a.Attaches s
  | .reopen i a => a.Attaches s ∧ ∀ dev ∈ s.devs i, ∀ g ∈ dev.groupFd, g ∉ s.groupFds
  | .restarting i | .destroy i => ∀ dev ∈ s.devs i, ∃ g ∈ dev.devFd, g ∈ s.devFds

/-- The descriptors of a device are not new, and where it has one of the two descriptors of an open
    group it has the other. -/
structure VfioDev.Fits (dev : VfioDev) (s : VfioState) : Prop where
  old : ∀ g, dev.devFd = some g ∨ dev.groupFd = some g → g < s.next
  pairs : ∀ g ∈ s.groupFds, dev.devFd = some g ↔ dev.groupFd = some g

/-- Between the calls each attached group has its device open, and the container is open exactly
    while there are such groups. -/
structure VfioState.Ok : Prop where
  counts : s.Counts
  empty : s.attached = ∅ → s.containerFd = none
  enabled : ∀ c ∈ s.containerFd, s.iommu c = true
  groupFds : s.groupFds ⊆ s.attached
  devFds : s.devFds = s.attached
  fresh : ∀ g ∈ s.attached, g < s.next
  devs : ∀ i, ∀ dev ∈ s.devs i, dev.Fits s

end

/-! ## What an open does -/

open VfioState

section Descriptors

variable {s : VfioState} {c g : Nat} {dev : VfioDev}

theorem VfioState.closeGroup_insert (hg : g ∉ s.groupFds) (ha : g ∉ s.attached) :
    { s with groupFds := insert g s.groupFds }.closeGroup (some g) = s := by
  simp only [closeGroup, Finset.erase_insert hg, reap]
  split
  · rfl
  · rw [Finset.erase_eq_of_notMem ha]

theorem VfioState.closeDev_withDevice (hd : g ∉ s.devFds) (hg : g ∈ s.groupFds) :
    (s.withDevice g).closeDev (some g) = s := by
  simp only [closeDev, withDevice, Finset.erase_insert hd, reap]
  rw [if_pos (.inl hg)]

theorem VfioState.requestDevice_enabled (h : s.iommu c = true) : s.requestDevice c = s := by
  simp [requestDevice, h]

/-- The state after a group was attached and removed again; the container goes with the last
    group. -/
def VfioState.withoutGroup (s : VfioState) (c g : Nat) : VfioState :=
  { s with
    containerOf := Function.update s.containerOf g c
    containerFd := if s.containerFdRef = 0 then none else s.containerFd }

theorem VfioState.removeAndCloseGroup_withGroup (hdev : dev.groupFd = some g)
    (hg : g ∉ s.groupFds) (hd : g ∉ s.devFds) (ha : g ∉ s.attached) :
    (s.withGroup c g).removeAndCloseGroup dev =
      (s.withoutGroup c g, { dev with groupFd := none }) := by
  simp only [removeAndCloseGroup, withGroup, hdev, closeGroup,
    reap, Finset.erase_insert hg, hg, hd, Finset.erase_insert ha, or_self, if_false,
    Int.add_sub_cancel, withoutGroup, closeUnused]

/-- The rest of an open, once the group is attached: it fails and the group is removed again, or the
    device is there, on a container with its IOMMU type set. -/
def VfioState.SetUp (s : VfioState) (c g : Nat) (devFd : Option Nat)
    (r : Bool × VfioState × VfioDev) : Prop :=
  (r.1 = false ∧ r.2.1 = s.withoutGroup c g ∧ r.2.2.groupFd = none ∧
      (r.2.2.devFd = devFd ∨ r.2.2.devFd = none ∨ r.2.2.devFd = some g)) ∨
    (s.iommu c = true ∧ r = (true, (s.withGroup c g).withDevice g, ⟨some g, some g⟩))

/-- From the request for the device descriptor on. -/
theorem VfioState.setupDevice_spec {a : OpenAnswers} (hdev : dev.groupFd = some g)
    (hg : g ∉ s.groupFds) (hd : g ∉ s.devFds) (ha : g ∉ s.attached) (hiommu : s.iommu c = true) :
    s.SetUp c g dev.devFd ((s.withGroup c g).setupDevice c g dev a) := by
  have hrequest : (s.withGroup c g).requestDevice c = s.withGroup c g :=
    requestDevice_enabled hiommu
  have hclose : ((s.withGroup c g).withDevice g).closeDev (some g) = s.withGroup c g :=
    closeDev_withDevice hd (Finset.mem_insert_self g s.groupFds)
  have hremove : ∀ d, (s.withGroup c g).removeAndCloseGroup ⟨some g, d⟩ =
      (s.withoutGroup c g, ⟨none, d⟩) := fun d =>
    removeAndCloseGroup_withGroup rfl hg hd ha
  unfold setupDevice closeVfioDev
  simp only [hrequest, hdev, hclose, hremove]
  split
  · exact .inl ⟨rfl, rfl, rfl, .inr (.inl rfl)⟩
  split
  · exact .inl ⟨rfl, rfl, rfl, .inr (.inr rfl)⟩
  split
  · exact .inl ⟨rfl, rfl, rfl, .inr (.inl rfl)⟩
  · exact .inr ⟨hiommu, rfl⟩

/-- A container that was open before has its IOMMU type set. -/
theorem VfioState.enableAndSetup_spec {a : OpenAnswers} {alreadyEnabled : Bool}
    (hdev : dev.groupFd = some g) (hg : g ∉ s.groupFds) (hd : g ∉ s.devFds) (ha : g ∉ s.attached)
    (henabled : alreadyEnabled = true → s.iommu c = true) :
    ∃ s₁, (s₁ = s ∨ s₁ = s.withIommu c) ∧
      s₁.SetUp c g dev.devFd ((s.withGroup c g).enableAndSetup c g alreadyEnabled dev a) := by
  unfold enableAndSetup
  split
  · next halready => exact ⟨s, .inl rfl, setupDevice_spec hdev hg hd ha (henabled halready)⟩
  split
  · refine ⟨s, .inl rfl, .inl ?_⟩
    rw [removeAndCloseGroup_withGroup hdev hg hd ha]
    exact ⟨rfl, rfl, rfl, .inl rfl⟩
  · refine ⟨s.withIommu c, .inr rfl, ?_⟩
    exact setupDevice_spec (s := s.withIommu c) hdev hg hd ha (by simp [withIommu])

end Descriptors

/-- An open that failed: what it did was taken back. -/
structure VfioState.Reverts (s s' : VfioState) : Prop where
  containerFd : s'.containerFd = s.containerFd
  ref : s'.containerFdRef = s.containerFdRef
  devs : s'.devs = s.devs
  groupFds : s'.groupFds = s.groupFds
  devFds : s'.devFds = s.devFds
  attached : s'.attached = s.attached
  early : s'.early = s.early
  next : s.next ≤ s'.next
  containerOf : ∀ g ∈ s.attached, s'.containerOf g = s.containerOf g
  iommu : ∀ c, s.iommu c = true → s'.iommu c = true

/-- An open that succeeded, for a group `g` on the container `c`. -/
structure VfioState.Opens (s : VfioState) (c g : Nat) (s' : VfioState) : Prop where
  containerFd : s'.containerFd = some c
  same : ∀ c' ∈ s.containerFd, c' = c
  ref : s'.containerFdRef = s.containerFdRef + 1
  devs : s'.devs = s.devs
  groupFds : s'.groupFds = insert g s.groupFds
  devFds : s'.devFds = insert g s.devFds
  attached : s'.attached = insert g s.attached
  early : s'.early = s.early
  next : s.next ≤ g ∧ g < s'.next
  containerOf : s'.containerOf g = c ∧ ∀ g' ∈ s.attached, s'.containerOf g' = s.containerOf g'
  iommu : s'.iommu c = true

/-- The state in which a group is about to be attached to the container `c`. -/
structure VfioState.Starts (s : VfioState) (c : Nat) (s' : VfioState) : Prop where
  containerFd : s'.containerFd = some c
  ref : s'.containerFdRef = s.containerFdRef
  devs : s'.devs = s.devs
  groupFds : s'.groupFds = s.groupFds
  devFds : s'.devFds = s.devFds
  attached : s'.attached = s.attached
  containerOf : s'.containerOf = s.containerOf
  early : s'.early = s.early
  next : s.next ≤ s'.next
  iommu : ∀ c, s.iommu c = true → s'.iommu c = true

section Open

variable {s s' : VfioState} {c g : Nat}

theorem VfioState.Starts.withIommu (h : s.Starts c s') : s.Starts c (s'.withIommu c) := by
  refine { h with iommu := fun c' hc' => ?_ }
  rcases eq_or_ne c' c with rfl | hne
  · simp [VfioState.withIommu]
  · simp [VfioState.withIommu, hne, h.iommu c' hc']

theorem VfioState.Starts.reverts (h : s.Starts c s')
    (hfd : s.containerFd = if s.containerFdRef = 0 then none else some c) (hg : g ∉ s.attached) :
    s.Reverts (s'.withoutGroup c g) where
  containerFd := by simp only [withoutGroup, h.ref, h.containerFd, hfd]
  ref := h.ref
  devs := h.devs
  groupFds := h.groupFds
  devFds := h.devFds
  attached := h.attached
  early := h.early
  next := h.next
  containerOf := fun g' hg' => by
    have hne : g' ≠ g := fun he => hg (he ▸ hg')
    simp [withoutGroup, hne, h.containerOf]
  iommu := h.iommu

theorem VfioState.Starts.opens (h : s.Starts c s') (hsame : ∀ c' ∈ s.containerFd, c' = c)
    (hnext : s.next ≤ g ∧ g < s'.next) (hg : g ∉ s.attached) (hiommu : s'.iommu c = true) :
    s.Opens c g ((s'.withGroup c g).withDevice g) where
  containerFd := h.containerFd
  same := hsame
  ref := congrArg (· + 1) h.ref
  devs := h.devs
  groupFds := congrArg (insert g) h.groupFds
  devFds := congrArg (insert g) h.devFds
  attached := congrArg (insert g) h.attached
  early := h.early
  next := hnext
  containerOf := by
    refine ⟨by simp [withDevice, withGroup], fun g' hg' => ?_⟩
    have hne : g' ≠ g := fun he => hg (he ▸ hg')
    simp [withDevice, withGroup, hne, h.containerOf]
  iommu := hiommu

/-- The result of an open: it takes back what it did, and leaves no new open descriptor in the
    device, or it adds a group with its device. -/
def VfioState.Opened (s : VfioState) (dev : VfioDev) (r : Bool × VfioState × VfioDev) : Prop :=
  (r.1 = false ∧ s.Reverts r.2.1 ∧
      (∀ g, r.2.2.groupFd = some g → dev.groupFd = some g ∨ g ∉ s.groupFds ∧ g < r.2.1.next) ∧
      ∀ g, r.2.2.devFd = some g → dev.devFd = some g ∨ g ∉ s.devFds ∧ g < r.2.1.next) ∨
    ∃ c g, s.Opens c g r.2.1 ∧ r.1 = true ∧ r.2.2 = ⟨some g, some g⟩

/-- The open from where the group is attached. -/
theorem VfioState.Starts.opened (h : s.Starts c s')
    (hfd : s.containerFd = if s.containerFdRef = 0 then none else some c)
    (hnext : s.next ≤ g ∧ g < s'.next) (hg : g ∉ s.groupFds) (hd : g ∉ s.devFds)
    (ha : g ∉ s.attached) {alreadyEnabled : Bool}
    (henabled : alreadyEnabled = true → s.iommu c = true) {dev : VfioDev} {a : OpenAnswers} :
    s.Opened dev ((s'.withGroup c g).enableAndSetup c g alreadyEnabled
      { dev with groupFd := some g } a) := by
  obtain ⟨s₁, hs₁, hcases⟩ := @enableAndSetup_spec s' c g { dev with groupFd := some g } a
    alreadyEnabled rfl (h.groupFds ▸ hg) (h.devFds ▸ hd) (h.attached ▸ ha)
    fun he => h.iommu c (henabled he)
  have hstarts : s.Starts c s₁ := by
    rcases hs₁ with rfl | rfl
    · exact h
    · exact h.withIommu
  have hnext₁ : s.next ≤ g ∧ g < s₁.next := by
    rcases hs₁ with rfl | rfl
    · exact hnext
    · exact hnext
  rcases hcases with ⟨hfail, hstate, hgroup, hdevFd⟩ | ⟨hiommu, hok⟩
  · refine .inl ⟨hfail, hstate ▸ hstarts.reverts hfd ha, fun g' hg' => ?_, fun g' hg' => ?_⟩
    · exact absurd (hgroup.symm.trans hg') (by simp)
    · rcases hdevFd with hold | hnone | hnew
      · exact .inl (hold.symm.trans hg')
      · exact absurd (hnone.symm.trans hg') (by simp)
      · obtain rfl := Option.some.inj (hnew.symm.trans hg')
        exact .inr ⟨hd, hstate ▸ hnext₁.2⟩
  · have hsame : ∀ c' ∈ s.containerFd, c' = c := by
      intro c' hc'
      rw [hfd] at hc'
      split at hc'
      · exact absurd hc' (by simp)
      · exact (Option.some.inj hc').symm
    exact .inr ⟨c, g, hok ▸ hstarts.opens hsame hnext₁ ha hiommu, by rw [hok], by rw [hok]⟩

theorem VfioState.Reverts.refl (s : VfioState) : s.Reverts s :=
  ⟨rfl, rfl, rfl, rfl, rfl, rfl, rfl, Nat.le_refl _, fun _ _ => rfl, fun _ h => h⟩

theorem VfioState.Ok.fresh_next (h : s.Ok) {n : Nat} (hn : s.next ≤ n) :
    n ∉ s.groupFds ∧ n ∉ s.devFds ∧ n ∉ s.attached := by
  have ha : n ∉ s.attached := fun hmem => Nat.not_lt.mpr hn (h.fresh n hmem)
  exact ⟨fun hmem => ha (h.groupFds hmem), h.devFds ▸ ha, ha⟩

theorem VfioState.Ok.attached_of_none (h : s.Ok) (hnone : s.containerFd = none) :
    s.attached = ∅ ∧ s.containerFdRef = 0 := by
  have hempty : s.attached = ∅ := by
    refine Finset.eq_empty_of_forall_notMem fun g hg => ?_
    exact absurd (hnone.symm.trans (h.counts.container g hg)) (by simp)
  exact ⟨hempty, by rw [h.counts.ref, hempty]; rfl⟩

theorem VfioState.Ok.ref_ne_zero (h : s.Ok) (hsome : s.containerFd = some c) :
    s.containerFdRef ≠ 0 := by
  intro hzero
  have hcard : s.attached.card = 0 := by
    have href := h.counts.ref
    omega
  exact absurd (hsome.symm.trans (h.empty (Finset.card_eq_zero.mp hcard))) (by simp)

/-- **One open**, from a state between calls. -/
theorem VfioState.Ok.openVfioDev (h : s.Ok) (dev : VfioDev) {a : OpenAnswers}
    (hattach : a.Attaches s) : s.Opened dev (s.openVfioDev dev a) := by
  unfold VfioState.openVfioDev VfioState.openContainer
  cases hfd : s.containerFd with
  | some c =>
    have hne := h.ref_ne_zero hfd
    obtain ⟨hg, hd, ha⟩ := h.fresh_next (Nat.le_refl s.next)
    have hbegin : s.Starts c { s with next := s.next + 1 } :=
      ⟨hfd, rfl, rfl, rfl, rfl, rfl, rfl, rfl, Nat.le_succ _, fun _ h => h⟩
    dsimp only
    unfold VfioState.openGroup
    split
    · exact .inl ⟨rfl, .refl s, fun g hg => absurd hg (by simp), fun g hg => .inl hg⟩
    dsimp only
    split
    · have hclose := @VfioState.closeGroup_insert { s with next := s.next + 1 } s.next hg ha
      dsimp only at hclose
      rw [hclose]
      refine .inl ⟨rfl, { VfioState.Reverts.refl s with next := Nat.le_succ _ }, fun g hg' => ?_,
        fun g hg' => .inl hg'⟩
      cases hg'
      exact .inr ⟨hg, Nat.lt_succ_self _⟩
    · exact hbegin.opened (by rw [hfd, if_neg hne]) ⟨Nat.le_refl _, Nat.lt_succ_self _⟩ hg hd ha
        fun _ => h.enabled c hfd
  | none =>
    obtain ⟨hempty, hzero⟩ := h.attached_of_none hfd
    dsimp only
    by_cases hcontainer : a.container = false
    · rw [if_pos hcontainer]
      exact .inl ⟨rfl, .refl s, fun g hg => .inl hg, fun g hg => .inl hg⟩
    · obtain ⟨hapi, hext, hgroup, hstatus, hviable, hset⟩ := hattach hfd (by simpa using hcontainer)
      obtain ⟨hg, hd, ha⟩ := h.fresh_next (Nat.le_succ s.next)
      have hbegin : s.Starts s.next { s with containerFd := some s.next, next := s.next + 1 + 1 } :=
        ⟨rfl, rfl, rfl, rfl, rfl, rfl, rfl, rfl, by dsimp only; omega, fun _ h => h⟩
      simp only [hcontainer, hapi, hext, hgroup, hstatus, hviable, hset, VfioState.openGroup,
        Bool.true_eq_false, or_self, if_false]
      exact hbegin.opened (by rw [hfd, if_pos hzero]) ⟨Nat.le_succ _, Nat.lt_succ_self _⟩ hg hd ha
        fun he => absurd he (by simp)

end Open

/-! ## Orderly calls keep the count -/

section Keep

variable {s s' : VfioState} {c g i : Nat} {dev : VfioDev} {a : OpenAnswers}

theorem VfioDev.fits_closed (s : VfioState) : (⟨none, none⟩ : VfioDev).Fits s :=
  ⟨fun g hg => absurd hg (by simp), fun g _ => by simp⟩

theorem VfioDev.Fits.mono (h : dev.Fits s) (hnext : s.next ≤ s'.next)
    (hgroup : s'.groupFds ⊆ s.groupFds) : dev.Fits s' :=
  ⟨fun g hg => Nat.lt_of_lt_of_le (h.old g hg) hnext, fun g hg => h.pairs g (hgroup hg)⟩

namespace VfioState.Ok

variable (h : s.Ok)
include h

theorem setDev {d : Option VfioDev} (hd : ∀ dev ∈ d, dev.Fits s) : (s.setDev i d).Ok := by
  have hfits : ∀ dev : VfioDev, dev.Fits s → dev.Fits (s.setDev i d) :=
    fun dev hdev => ⟨hdev.old, hdev.pairs⟩
  refine { h with counts := ⟨h.counts.ref, h.counts.container, h.counts.iommu⟩, devs := ?_ }
  intro j dev hdev
  rcases eq_or_ne j i with rfl | hne
  · exact hfits dev (hd dev (by simpa [VfioState.setDev] using hdev))
  · exact hfits dev (h.devs j dev (by simpa [VfioState.setDev, hne] using hdev))

theorem reverts (hr : s.Reverts s') : s'.Ok where
  counts := by
    refine ⟨by rw [hr.ref, hr.attached, h.counts.ref], fun g hg => ?_,
      hr.early.trans h.counts.iommu⟩
    rw [hr.attached] at hg
    rw [hr.containerFd, hr.containerOf g hg, h.counts.container g hg]
  empty := by
    rw [hr.attached, hr.containerFd]
    exact h.empty
  enabled := fun c hc => hr.iommu c (h.enabled c (hr.containerFd ▸ hc))
  groupFds := by
    rw [hr.groupFds, hr.attached]
    exact h.groupFds
  devFds := by rw [hr.devFds, hr.attached, h.devFds]
  fresh := fun g hg => Nat.lt_of_lt_of_le (h.fresh g (hr.attached ▸ hg)) hr.next
  devs := fun i dev hdev => (h.devs i dev (hr.devs ▸ hdev)).mono hr.next hr.groupFds.subset

theorem opens (ho : s.Opens c g s') : s'.Ok where
  counts := by
    have ha : g ∉ s.attached := (h.fresh_next ho.next.1).2.2
    refine ⟨?_, fun g' hg' => ?_, ho.early.trans h.counts.iommu⟩
    · rw [ho.ref, ho.attached, Finset.card_insert_of_notMem ha, h.counts.ref, Int.natCast_succ]
    · rw [ho.attached, Finset.mem_insert] at hg'
      rcases hg' with rfl | hg'
      · rw [ho.containerFd, ho.containerOf.1]
      · rw [ho.containerFd, ho.containerOf.2 g' hg', ho.same _ (h.counts.container g' hg')]
  empty := fun hempty => absurd hempty (by simp [ho.attached])
  enabled := fun c' hc' => by
    obtain rfl := Option.some.inj (ho.containerFd.symm.trans hc')
    exact ho.iommu
  groupFds := by
    rw [ho.groupFds, ho.attached]
    exact Finset.insert_subset_insert g h.groupFds
  devFds := by rw [ho.devFds, ho.attached, h.devFds]
  fresh := fun g' hg' => by
    rw [ho.attached, Finset.mem_insert] at hg'
    have hnext := ho.next
    rcases hg' with rfl | hg'
    · exact hnext.2
    · have hlt := h.fresh g' hg'
      omega
  devs := fun i dev hdev => by
    have hfits := h.devs i dev (ho.devs ▸ hdev)
    have hnext := ho.next
    refine ⟨fun g' hg' => ?_, fun g' hg' => ?_⟩
    · have hlt := hfits.old g' hg'
      omega
    · rw [ho.groupFds, Finset.mem_insert] at hg'
      rcases hg' with rfl | hg'
      · -- no device has had the new descriptor
        have hnew : ∀ {d : Option Nat}, d = some g' → dev.devFd = d ∨ dev.groupFd = d → False := by
          rintro d rfl hd
          have hlt := hfits.old g' hd
          omega
        exact ⟨fun hd => (hnew rfl (.inl hd)).elim, fun hd => (hnew rfl (.inr hd)).elim⟩
      · exact hfits.pairs g' hg'

theorem closeGroup (hg : g ∈ s.devFds) : (s.closeGroup (some g)).Ok := by
  have hstate : s.closeGroup (some g) = { s with groupFds := s.groupFds.erase g } := by
    simp only [VfioState.closeGroup, VfioState.reap]
    rw [if_pos (.inr hg)]
  rw [hstate]
  have hsub : s.groupFds.erase g ⊆ s.groupFds := Finset.erase_subset g s.groupFds
  exact { h with
    counts := ⟨h.counts.ref, h.counts.container, h.counts.iommu⟩
    groupFds := hsub.trans h.groupFds
    devs := fun i dev hdev => (h.devs i dev hdev).mono (Nat.le_refl _) hsub }

/-- An open with its registration, of a device whose group is closed. -/
theorem openAndRegister (hdev : dev.Fits s)
    (hclosed : ∀ g ∈ dev.groupFd, g ∉ s.groupFds) (hattach : a.Attaches s) :
    let r := s.openAndRegister dev a
    r.2.1.Ok ∧ r.2.2.Fits r.2.1 := by
  dsimp only
  unfold VfioState.openAndRegister
  rcases h.openVfioDev dev hattach with ⟨hfail, hr, hgroup, hdevFd⟩ | ⟨c, g, ho, hok, hnew⟩
  · dsimp only
    rw [if_pos hfail]
    refine ⟨h.reverts hr, ⟨fun g hg => ?_, fun g hg => ?_⟩⟩
    · rcases hg with hg | hg
      · rcases hdevFd g hg with hold | hnew
        · exact Nat.lt_of_lt_of_le (hdev.old g (.inl hold)) hr.next
        · exact hnew.2
      · rcases hgroup g hg with hold | hnew
        · exact Nat.lt_of_lt_of_le (hdev.old g (.inr hold)) hr.next
        · exact hnew.2
    · -- neither field names an open group
      rw [hr.groupFds] at hg
      refine iff_of_false (fun hd => ?_) fun hd => ?_
      · rcases hdevFd g hd with hold | hnew
        · exact hclosed g ((hdev.pairs g hg).mp hold) hg
        · exact hnew.1 (h.devFds ▸ h.groupFds hg)
      · rcases hgroup g hd with hold | hnew
        · exact hclosed g hold hg
        · exact hnew.1 hg
  · have hopen := h.opens ho
    have hfits : (⟨some g, some g⟩ : VfioDev).Fits (s.openVfioDev dev a).2.1 :=
      ⟨fun g' hg' => by
        obtain rfl : g = g' := by simpa using hg'
        exact ho.next.2, fun g' _ => Iff.rfl⟩
    dsimp only
    rw [if_neg (by simp [hok])]
    split
    · rw [hnew]
      have hmem : g ∈ (s.openVfioDev dev a).2.1.devFds := by
        rw [ho.devFds]
        exact Finset.mem_insert_self g _
      have hclose := hopen.closeGroup hmem
      refine ⟨hclose, hfits.mono ?_ ?_⟩
      · simp only [VfioState.closeGroup, VfioState.reap]
        rw [if_pos (.inr hmem)]
      · simp only [VfioState.closeGroup, VfioState.reap]
        rw [if_pos (.inr hmem)]
        exact Finset.erase_subset g _
    · exact ⟨hopen, hnew ▸ hfits⟩

/-- **Closing an open device** detaches its group, and closes the container after the last one. -/
theorem closeVfioDev_eq (hdev : dev.Fits s) (hfd : dev.devFd = some g) :
    s.closeVfioDev dev = ({ s with
        devFds := s.devFds.erase g
        groupFds := s.groupFds.erase g
        attached := s.attached.erase g
        containerFdRef := s.containerFdRef - 1
        containerFd := if s.containerFdRef - 1 = 0 then none else s.containerFd }, ⟨none, none⟩) := by
  have hd : g ∉ s.devFds.erase g := Finset.notMem_erase g s.devFds
  by_cases hgroup : g ∈ s.groupFds
  · have hfd' := (hdev.pairs g hgroup).mp hfd
    simp only [VfioState.closeVfioDev, VfioState.removeAndCloseGroup, VfioState.closeDev,
      VfioState.closeGroup, VfioState.reap, hfd, hfd', hgroup, hd, Finset.notMem_erase, true_or,
      or_self, if_true, if_false, VfioState.closeUnused]
  · -- the group descriptor was closed when the registration failed
    have herase : s.groupFds.erase g = s.groupFds := Finset.erase_eq_of_notMem hgroup
    have hrest : ∀ g' ∈ dev.groupFd, g' ∉ s.groupFds := by
      intro g' hg' hmem
      obtain rfl := Option.some.inj (hfd.symm.trans ((hdev.pairs g' hmem).mpr hg'))
      exact hgroup hmem
    simp only [VfioState.closeVfioDev, VfioState.removeAndCloseGroup, VfioState.closeDev,
      VfioState.reap, hfd, hgroup, hd, or_self, if_false, herase]
    cases hfd' : dev.groupFd with
    | none => rfl
    | some g' =>
      have hmem := hrest g' hfd'
      have hkeep : g' ∉ s.devFds.erase g → (s.attached.erase g).erase g' = s.attached.erase g :=
        fun hnot => Finset.erase_eq_of_notMem (h.devFds ▸ hnot)
      simp only [VfioState.closeGroup, VfioState.reap, Finset.erase_eq_of_notMem hmem, hmem,
        false_or]
      split
      · rfl
      · next hnot =>
        rw [hkeep hnot]
        rfl

theorem closeVfioDev (hdev : dev.Fits s) (hfd : dev.devFd = some g)
    (hg : g ∈ s.devFds) : (s.closeVfioDev dev).1.Ok ∧ (s.closeVfioDev dev).2 = ⟨none, none⟩ := by
  have ha : g ∈ s.attached := h.devFds ▸ hg
  have hcard := Finset.card_erase_of_mem ha
  have hpos := Finset.card_pos.mpr ⟨g, ha⟩
  have href := h.counts.ref
  rw [h.closeVfioDev_eq hdev hfd]
  refine ⟨?_, rfl⟩
  constructor
  case counts =>
    refine ⟨by dsimp only; omega, fun g' hg' => ?_, h.counts.iommu⟩
    have hne : s.containerFdRef - 1 ≠ 0 := by
      have hpos' := Finset.card_pos.mpr ⟨g', hg'⟩
      dsimp only at hpos'
      omega
    dsimp only
    rw [if_neg hne]
    exact h.counts.container g' (Finset.mem_of_mem_erase hg')
  case empty =>
    intro hempty
    have hzero : (s.attached.erase g).card = 0 := Finset.card_eq_zero.mpr hempty
    exact if_pos (by omega)
  case enabled =>
    intro c hc
    dsimp only at hc ⊢
    split at hc
    · exact absurd hc (by simp)
    · exact h.enabled c hc
  case groupFds => exact Finset.erase_subset_erase g h.groupFds
  case devFds => exact congrArg (Finset.erase · g) h.devFds
  case fresh => exact fun g' hg' => h.fresh g' (Finset.mem_of_mem_erase hg')
  case devs =>
    exact fun i dev hdev => (h.devs i dev hdev).mono (Nat.le_refl _) (Finset.erase_subset g _)

theorem step {e : VfioEvent} (hok : e.Orderly s) (hstep : e.step s = some s') : s'.Ok := by
  cases e with
  | create i a =>
    simp only [VfioEvent.step] at hstep
    split at hstep
    · cases hstep
      unfold createAccel
      split
      · exact h
      · obtain ⟨hopen, hfits⟩ := h.openAndRegister (VfioDev.fits_closed s) (by simp) hok
        dsimp only
        split
        · exact hopen
        · exact hopen.setDev fun dev hdev => Option.some.inj hdev ▸ hfits
    · exact absurd hstep (by simp)
  | restarting i =>
    obtain ⟨dev, hdev, rfl⟩ := Option.map_eq_some_iff.mp hstep
    obtain ⟨g, hfd, hg⟩ := hok dev hdev
    obtain ⟨hclosed, hnone⟩ := h.closeVfioDev (h.devs i dev hdev) hfd hg
    rw [hnone]
    exact hclosed.setDev fun dev hdev => Option.some.inj hdev ▸ VfioDev.fits_closed _
  | reopen i a =>
    obtain ⟨dev, hdev, rfl⟩ := Option.map_eq_some_iff.mp hstep
    obtain ⟨hattach, hclosed⟩ := hok
    unfold reopenVfioDev
    split
    · exact h
    · obtain ⟨hopen, hfits⟩ := h.openAndRegister (h.devs i dev hdev) (hclosed dev hdev) hattach
      exact hopen.setDev fun dev hdev => Option.some.inj hdev ▸ hfits
  | destroy i =>
    obtain ⟨dev, hdev, rfl⟩ := Option.map_eq_some_iff.mp hstep
    obtain ⟨g, hfd, hg⟩ := hok dev hdev
    exact (h.closeVfioDev (h.devs i dev hdev) hfd hg).1.setDev (by simp)

end VfioState.Ok

end Keep

theorem VfioState.Initial.ok {s : VfioState} (h : s.Initial) : s.Ok := by
  obtain ⟨hfd, href, hdevs, hgroup, hdevFds, hattached, hearly⟩ := h
  constructor
  case counts => exact ⟨by simp [href, hattached], by simp [hattached], hearly⟩
  all_goals simp [hfd, hdevs, hgroup, hdevFds, hattached]

/-- **The container is counted**: in every run in which an open that creates the container attaches
    its group, a device is opened again only while its group is closed, and closed only while it is
    open. -/
theorem container_counts {s : VfioState} (h : vfio.ReachableBy (fun s e => e.Orderly s) s) :
    s.Counts :=
  (System.ReachableBy.invariant VfioState.Ok (fun _ hinit => VfioState.Initial.ok hinit)
    (fun _ _ _ hok horderly hstep => hok.step horderly hstep) h).counts

def sampleVfio : VfioState where
  containerFd := none
  containerFdRef := 0
  devs := fun _ => none
  next := 0
  groupFds := ∅
  devFds := ∅
  attached := ∅
  containerOf := fun _ => 0
  iommu := fun _ => false
  early := false

/-- Every system call succeeds. -/
def sampleAnswers : OpenAnswers where
  queries := true
  container := true
  apiVersion := true
  extension := true
  group := true
  status := true
  viable := true
  setContainer := true
  setIommu := true
  deviceFd := true
  memory := true
  info := true
  master := true
  reset := true
  register := true

theorem sampleVfio_initial : vfio.Init sampleVfio := ⟨rfl, rfl, fun _ => rfl, rfl, rfl, rfl, rfl⟩

instance (a : OpenAnswers) (s : VfioState) : Decidable (a.Attaches s) :=
  inferInstanceAs (Decidable (_ → _))

instance (s : VfioState) : (e : VfioEvent) → Decidable (e.Orderly s)
  | .create _ a => inferInstanceAs (Decidable (a.Attaches s))
  | .reopen _ _ => inferInstanceAs (Decidable (_ ∧ _))
  | .restarting _ | .destroy _ => inferInstanceAs (Decidable (∀ _ ∈ _, _))

/-- Two devices; the first is reset and opened again. -/
theorem container_counts_two :
    ∃ s, vfio.ReachableBy (fun s e => e.Orderly s) s ∧ s.containerFdRef = 2 ∧ s.Counts := by
  exact System.exists_reachableBy (P := fun s => s.containerFdRef = 2)
    [.create 0 sampleAnswers, .create 1 sampleAnswers, .restarting 0, .reopen 0 sampleAnswers]
    sampleVfio_initial (by decide +kernel) fun s hreach href => ⟨href, container_counts hreach⟩

/-- Out of order. A first open that cannot open its group leaves the container open, and the next
    one requests a device descriptor without ever setting the IOMMU type. A device that is destroyed
    after it was closed for a reset takes the container away from another one. -/
theorem container_miscounted :
    (∃ s, vfio.Reachable s ∧ s.early = true) ∧
      ∃ s, vfio.Reachable s ∧ s.containerFdRef = 0 ∧ s.attached.card = 1 ∧ s.containerFd = none := by
  constructor
  · exact System.exists_reachable
      [.create 0 { sampleAnswers with group := false }, .create 0 sampleAnswers] sampleVfio_initial
      (by decide +kernel)
  · exact System.exists_reachable
      [.create 0 sampleAnswers, .create 1 sampleAnswers, .restarting 0, .destroy 0]
      sampleVfio_initial (by decide +kernel)

end Qatlib.Vfio
