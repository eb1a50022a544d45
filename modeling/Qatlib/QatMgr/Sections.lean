import Mathlib.Data.List.Basic
import Qatlib.QatMgr.Messages

set_option autoImplicit false

/-! # Section assignment in qatmgr

The handlers of `qat_mgr_lib.c` that change the daemon's data (`get_section`, `release_section`,
`handle_section_request`, `handle_section_release` and the lazy PF tables), the dispatcher
`handle_message`, and the clean-up at the end of `handle_client` in `qat_mgr.c`.

A section is owned twice over: `assigned_tid` in the section and `index`/`section_name` among the
locals of the client's handler thread. `SectionEffect` states everything a message can do to the
two, and `handleMessage_effect` proves it once for all handlers. -/

namespace Qatlib.QatMgr

/-- `ADF_MAX_DEVICES`. -/
def adfMaxDevices : Nat := 32 * 32

/-- The data shared by the handler threads of the daemon. -/
structure Mgr where
  sectionData : List SectionData
  /-- The `static pid_t pid` of `handle_section_request` equals `getpid()`: false until the first
      request of the process. -/
  pidKnown : Bool
  /-- `num_pfs`, `PF_INFO_UNINITIALISED` being `-1`. -/
  numPfs : Int
  pfData : Nat → PfInfo

/-- The locals of one `handle_client` thread; `tid` is a `pid_t` initialised by `pthread_self`. -/
structure Conn where
  tid : BitVec 32
  sectionName : Option (CString qatmgrMaxStrlen)
  index : Int

/-- What the C library and sysfs answer while one message is handled. -/
structure Env where
  /-- `pthread_mutex_lock` succeeds. -/
  lockOk : Bool
  /-- `malloc` of the section name succeeds. -/
  mallocOk : Bool
  /-- The return value of `adf_vfio_init_pfs_info`. -/
  numPfs : Int
  /-- The table `adf_vfio_init_pfs_info` fills. -/
  pfData : Nat → PfInfo

/-- The conversion of the `pid_t tid` to the `pthread_t` parameter of `get_section` and
    `release_section`. -/
def Conn.owner (conn : Conn) : BitVec 64 := conn.tid.signExtend 64

/-! ## Handlers -/

/-- Write `assigned_tid` of one section. -/
def setAssigned (sectionData : List SectionData) (i : Nat) (tid : BitVec 64) : List SectionData :=
  sectionData.modify i (fun sec => { sec with assignedTid := tid })

/-- `get_section`: take the first section without an assigned thread. -/
def getSection (env : Env) (mgr : Mgr) (tid : BitVec 64) : Option Nat × Mgr :=
  if env.lockOk then
    match mgr.sectionData.findIdx? (fun sec => sec.assignedTid == 0) with
    | some i => (some i, { mgr with sectionData := setAssigned mgr.sectionData i tid })
    | none => (none, mgr)
  else (none, mgr)

/-- `release_section`: the index, the name and the thread must all match; `none` is the failing
    return value. -/
def releaseSection (mgr : Mgr) (index : Int) (tid : BitVec 64) (name : CString qatmgrMaxStrlen) :
    Option Mgr :=
  if index < 0 then none
  else
    match mgr.sectionData[index.toNat]? with
    | none => none
    | some sec =>
        if name.strlen ≠ sec.sectionName.strlen ∨
            name.bytes ≠ sec.sectionName.bytes.take name.strlen then none
        else if sec.assignedTid ≠ tid then none
        else some { mgr with sectionData := setAssigned mgr.sectionData index.toNat 0 }

/-- The reply, the shared data and the connection after a message. -/
structure Outcome where
  reply : Reply
  mgr : Mgr
  conn : Conn

/-- The reset of a connection record that an earlier process left behind. -/
def Conn.forProcess (conn : Conn) (pidKnown : Bool) : Conn :=
  if pidKnown then conn else { conn with index := -1, sectionName := none }

section

variable (env : Env) (mgr : Mgr) (conn : Conn) (req : MsgReq)

/-- `handle_section_request`. When `malloc` fails the section stays assigned and `index` stays
    set. -/
def handleSectionRequest : Outcome :=
  if req.len ≠ sizeofHdr + req.name.strlen + 1 then ⟨.fail "Inconsistent length", mgr, conn⟩
  else
    let conn := conn.forProcess mgr.pidKnown
    let mgr := { mgr with pidKnown := true }
    if conn.sectionName.isSome ∨ conn.index ≠ -1 then
      ⟨.fail "Section already allocated", mgr, conn⟩
    else
      match getSection env mgr conn.owner with
      | (none, mgr) => ⟨.fail "No section available", mgr, conn⟩
      | (some i, mgr) =>
          match mgr.sectionData[i]? with
          | none => ⟨.fail "No section available", mgr, conn⟩
          | some sec =>
              let name := sec.sectionName.strlcpy qatmgrMaxStrlen qatmgrMaxStrlen_pos
              let conn := { conn with index := i }
              if env.mallocOk then
                ⟨.answer .sectionGet (name.strlen + 1) (.name name), mgr,
                  { conn with sectionName := some name }⟩
              else ⟨.fail "malloc failed", mgr, conn⟩

/-- `handle_section_release`: a refused release is answered with an error text but returns 0. -/
def handleSectionRelease : Outcome :=
  if req.len ≠ sizeofHdr + req.name.strlen + 1 then ⟨.fail "Inconsistent length", mgr, conn⟩
  else if conn.sectionName.isNone then ⟨.fail "Section not allocated", mgr, conn⟩
  else
    match releaseSection mgr conn.index conn.owner req.name with
    | none => ⟨⟨0, errMsg "Failed to release section"⟩, mgr, conn⟩
    | some mgr =>
        ⟨.answer .sectionPut 0 .empty, mgr, { conn with sectionName := none, index := -1 }⟩

/-- `ADF_MAX_PF_DEVICES`. -/
def adfMaxPfDevices : Int := 32

/-- The PF tables are read from sysfs by the first query that needs them. -/
def Mgr.withPfs (env : Env) : Mgr :=
  if mgr.numPfs = -1 then { mgr with numPfs := env.numPfs, pfData := env.pfData } else mgr

/-- `handle_get_num_pf_devices`. -/
def handleGetNumPfDevices : Outcome :=
  if req.len ≠ sizeofHdr then ⟨.fail "Inconsistent length", mgr, conn⟩
  else
    let mgr := mgr.withPfs env
    if mgr.numPfs < 0 ∨ mgr.numPfs > adfMaxPfDevices then
      ⟨.fail "Unable to init pfs info", mgr, conn⟩
    else ⟨.answer .numPfDevs 2 (.numDevices (u16 mgr.numPfs)), mgr, conn⟩

/-- `handle_get_pf_device_info`. -/
def handleGetPfDeviceInfo : Outcome :=
  if req.len ≠ sizeofHdr + 2 then ⟨.fail "Inconsistent length", mgr, conn⟩
  else
    let mgr := mgr.withPfs env
    if mgr.numPfs < 0 ∨ mgr.numPfs > adfMaxPfDevices then
      ⟨.fail "Unable to init pfs info", mgr, conn⟩
    else if (req.deviceNum : Int) ≥ mgr.numPfs then ⟨.fail "Invalid device number", mgr, conn⟩
    else ⟨.answer .pfDevInfo 28 (.pfInfo (mgr.pfData req.deviceNum)), mgr, conn⟩

/-- `handle_message`. -/
def handleMessage : Outcome :=
  if req.version ≠ thisLibVersion then
    ⟨.fail "Incompatible. qatmgr received msg vX from qatlib vY\n", mgr, conn⟩
  else
    match req.type with
    | 1 => handleSectionRequest env mgr conn req
    | 2 => handleSectionRelease mgr conn req
    | 3 => ⟨handleGetNumDevices mgr.sectionData req conn.index, mgr, conn⟩
    | 4 => ⟨handleGetDeviceInfo mgr.sectionData req conn.index, mgr, conn⟩
    | 5 => ⟨handleGetDeviceId mgr.sectionData req conn.index, mgr, conn⟩
    | 7 => ⟨handleGetInstanceInfo mgr.sectionData req conn.index, mgr, conn⟩
    | 8 => ⟨handleGetInstanceName mgr.sectionData req conn.index, mgr, conn⟩
    | 9 => ⟨handleGetVfioName mgr.sectionData req conn.index, mgr, conn⟩
    | 10 => handleGetNumPfDevices env mgr conn req
    | 11 => handleGetPfDeviceInfo env mgr conn req
    | _ => ⟨.fail "Unknown message", mgr, conn⟩

/-- The end of `handle_client`: a section still held is released, provided the connection has both
    an index and a name. -/
def closeClient : Mgr :=
  match conn.sectionName with
  | none => mgr
  | some name =>
      if conn.index < 0 then mgr else (releaseSection mgr conn.index conn.owner name).getD mgr

end

/-! ## What a message can do to section ownership -/

@[simp] theorem setAssigned_length (l : List SectionData) (i : Nat) (tid : BitVec 64) :
    (setAssigned l i tid).length = l.length := by
  simp [setAssigned]

theorem setAssigned_getElem? (l : List SectionData) (i j : Nat) (tid : BitVec 64) :
    (setAssigned l i tid)[j]? =
      (l[j]?).map (fun sec => if i = j then { sec with assignedTid := tid } else sec) := by
  simp only [setAssigned, List.getElem?_modify]
  split <;> simp

/-- The effect of one message on the sections, the `static pid` and the sender's record. -/
inductive SectionEffect (env : Env) (mgr : Mgr) (conn : Conn) : Mgr → Conn → Prop where
  /-- Nothing about ownership changes. -/
  | keep {mgr' : Mgr} (hsec : mgr'.sectionData = mgr.sectionData)
      (hpid : mgr'.pidKnown = mgr.pidKnown) : SectionEffect env mgr conn mgr' conn
  /-- A section request that takes no section: only a stale record is reset. -/
  | refuse {mgr' : Mgr} (hsec : mgr'.sectionData = mgr.sectionData) (hpid : mgr'.pidKnown = true) :
      SectionEffect env mgr conn mgr' (conn.forProcess mgr.pidKnown)
  /-- A section request that takes the first free section. -/
  | take {mgr' : Mgr} {i : Nat} {sec : SectionData} {name : Option (CString qatmgrMaxStrlen)}
      (hname : (conn.forProcess mgr.pidKnown).sectionName = none)
      (hindex : (conn.forProcess mgr.pidKnown).index = -1)
      (hget : mgr.sectionData[i]? = some sec) (hfree : sec.assignedTid = 0)
      (hfirst : ∀ j < i, ∀ sec', mgr.sectionData[j]? = some sec' → sec'.assignedTid ≠ 0)
      (hsec : mgr'.sectionData = setAssigned mgr.sectionData i conn.owner)
      (hpid : mgr'.pidKnown = true)
      (hset : name = if env.mallocOk then some sec.sectionName else none) :
      SectionEffect env mgr conn mgr' ⟨conn.tid, name, i⟩
  /-- A section release that succeeds. -/
  | release {mgr' : Mgr} {sec : SectionData} (hindex : 0 ≤ conn.index)
      (hget : mgr.sectionData[conn.index.toNat]? = some sec)
      (howner : sec.assignedTid = conn.owner)
      (hsec : mgr'.sectionData = setAssigned mgr.sectionData conn.index.toNat 0)
      (hpid : mgr'.pidKnown = mgr.pidKnown) : SectionEffect env mgr conn mgr' ⟨conn.tid, none, -1⟩

@[simp] theorem Conn.forProcess_tid (conn : Conn) (b : Bool) :
    (conn.forProcess b).tid = conn.tid := by
  cases b <;> rfl

section

variable (env : Env) (mgr : Mgr) (conn : Conn)

@[simp] theorem Conn.forProcess_owner (b : Bool) : (conn.forProcess b).owner = conn.owner := by
  simp [Conn.owner]

/-- `get_section` returns the first free section and assigns it, or changes nothing. -/
theorem getSection_spec (tid : BitVec 64) :
    getSection env mgr tid = (none, mgr) ∨
      ∃ i sec, mgr.sectionData[i]? = some sec ∧ sec.assignedTid = 0 ∧
        (∀ j < i, ∀ sec', mgr.sectionData[j]? = some sec' → sec'.assignedTid ≠ 0) ∧
        getSection env mgr tid =
          (some i, { mgr with sectionData := setAssigned mgr.sectionData i tid }) := by
  unfold getSection
  split
  · next hlock =>
    split
    · next i hfind =>
      obtain ⟨hi, hfree, hfirst⟩ := List.findIdx?_eq_some_iff_getElem.mp hfind
      refine .inr ⟨i, mgr.sectionData[i], List.getElem?_eq_getElem hi, by simpa using hfree,
        fun j hj sec' hsec' => ?_, rfl⟩
      obtain ⟨hj', rfl⟩ := List.getElem?_eq_some_iff.mp hsec'
      simpa using hfirst j hj
    · exact .inl rfl
  · exact .inl rfl

/-- A successful `release_section` found the section under the caller's index, name and thread. -/
theorem releaseSection_eq_some {mgr mgr' : Mgr} {index : Int} {tid : BitVec 64}
    {name : CString qatmgrMaxStrlen} (h : releaseSection mgr index tid name = some mgr') :
    0 ≤ index ∧ (∃ sec, mgr.sectionData[index.toNat]? = some sec ∧ sec.assignedTid = tid) ∧
      mgr' = { mgr with sectionData := setAssigned mgr.sectionData index.toNat 0 } := by
  unfold releaseSection at h
  split at h
  · exact absurd h (by simp)
  · next hindex =>
    split at h
    · exact absurd h (by simp)
    · next sec hget =>
      split at h
      · exact absurd h (by simp)
      · split at h
        · exact absurd h (by simp)
        · next howner =>
          refine ⟨by omega, ⟨sec, hget, by simpa using howner⟩, ?_⟩
          simpa using h.symm

/-- Releasing under the record that `handle_section_request` left always succeeds. -/
theorem releaseSection_of_match {mgr : Mgr} {index : Int} {tid : BitVec 64} {sec : SectionData}
    (hindex : 0 ≤ index) (hget : mgr.sectionData[index.toNat]? = some sec)
    (howner : sec.assignedTid = tid) :
    releaseSection mgr index tid sec.sectionName =
      some { mgr with sectionData := setAssigned mgr.sectionData index.toNat 0 } := by
  have hname : sec.sectionName.bytes = sec.sectionName.bytes.take sec.sectionName.strlen := by
    simp [CString.strlen]
  unfold releaseSection
  rw [if_neg (by omega), hget]
  simp only
  rw [if_neg (by simpa using hname), if_neg (by simpa using howner)]

theorem handleSectionRequest_effect (req : MsgReq) :
    SectionEffect env mgr conn (handleSectionRequest env mgr conn req).mgr
      (handleSectionRequest env mgr conn req).conn := by
  unfold handleSectionRequest
  split
  · exact .keep rfl rfl
  · simp only
    split
    · exact .refuse rfl rfl
    · next hfree =>
      obtain ⟨hname, hindex⟩ := not_or.mp hfree
      have hname' : (conn.forProcess mgr.pidKnown).sectionName = none := by simpa using hname
      have hindex' : (conn.forProcess mgr.pidKnown).index = -1 := by simpa using hindex
      rcases getSection_spec env { mgr with pidKnown := true } (conn.forProcess mgr.pidKnown).owner
        with hnone | ⟨i, sec, hget, hzero, hfirst, htake⟩
      · rw [hnone]
        exact .refuse rfl rfl
      · rw [htake]
        simp only [setAssigned_getElem?, hget, Option.map_some, if_true]
        -- the name is copied from the section just taken, whose name the assignment keeps
        by_cases hmalloc : env.mallocOk = true
        · simp only [hmalloc, if_true, Conn.forProcess_tid, Conn.forProcess_owner]
          exact .take hname' hindex' hget hzero hfirst rfl rfl (by simp [hmalloc])
        · simp only [hmalloc, Conn.forProcess_tid, Conn.forProcess_owner]
          exact .take hname' hindex' hget hzero hfirst rfl rfl (by simp [hmalloc, hname'])

theorem handleSectionRelease_effect (req : MsgReq) :
    SectionEffect env mgr conn (handleSectionRelease mgr conn req).mgr
      (handleSectionRelease mgr conn req).conn := by
  unfold handleSectionRelease
  split
  · exact .keep rfl rfl
  · split
    · exact .keep rfl rfl
    · split
      · exact .keep rfl rfl
      · next mgr' hrel =>
        obtain ⟨hindex, ⟨sec, hget, howner⟩, rfl⟩ := releaseSection_eq_some hrel
        exact .release hindex hget howner rfl rfl

theorem Mgr.withPfs_keep (env : Env) :
    (mgr.withPfs env).sectionData = mgr.sectionData ∧
      (mgr.withPfs env).pidKnown = mgr.pidKnown := by
  unfold Mgr.withPfs
  split <;> exact ⟨rfl, rfl⟩

/-- **Every message acts on ownership as `SectionEffect` says.** -/
theorem handleMessage_effect (req : MsgReq) :
    SectionEffect env mgr conn (handleMessage env mgr conn req).mgr
      (handleMessage env mgr conn req).conn := by
  unfold handleMessage
  split
  · exact .keep rfl rfl
  · split
    · exact handleSectionRequest_effect env mgr conn req
    · exact handleSectionRelease_effect env mgr conn req
    all_goals try exact .keep rfl rfl
    -- the PF queries may fill the PF tables, which no section depends on
    · obtain ⟨hsec, hpid⟩ := mgr.withPfs_keep env
      unfold handleGetNumPfDevices
      split
      · exact .keep rfl rfl
      · simp only
        split <;> exact .keep hsec hpid
    · obtain ⟨hsec, hpid⟩ := mgr.withPfs_keep env
      unfold handleGetPfDeviceInfo
      split
      · exact .keep rfl rfl
      · simp only
        split
        · exact .keep hsec hpid
        · split <;> exact .keep hsec hpid

end

end Qatlib.QatMgr
