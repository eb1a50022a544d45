import Qatlib.Adf.Events
import Qatlib.Lib.Slots

set_option autoImplicit false

/-! # The device table

`accel_tbl` of `adf_user_device.c` with its counter `num_of_instances`, the running flag that each
device carries and the status bits that each registered subsystem keeps for it. Discovery
(`adf_proxy_get_device`), the device events (`subsystem_notify`, with the functions of
`adf_user_init.c` that forward them) and the clean-up (`adf_cleanup_device`) change them. The loops
over the devices are cut at their bodies: a step is one event or one device.

What a subsystem's handler, the transport, qatmgr and the VFIO device answer are arguments of the
step. The mutex of the table can be taken. A device's `accelId` is its index in the table: qatmgr
answers a query for a device with the device's own number. -/

namespace Qatlib.Adf

open Function

/-! ## The subsystems -/

/-- `subsystem_status_t`, the bits that a subsystem keeps for one device. -/
structure StatusBits where
  init : Bool
  start : Bool
  failed : Bool
deriving DecidableEq

/-- `subsystemStatus` of a registered subsystem, by device. -/
abbrev SubsystemStatus := Nat → StatusBits

/-- Change the bits of one device. -/
def SubsystemStatus.modify (hdl : SubsystemStatus) (accelId : Nat) (f : StatusBits → StatusBits) :
    SubsystemStatus :=
  update hdl accelId (f (hdl accelId))

/-- What the event handler of each registered subsystem returns, in the order of registration. -/
abbrev Handlers := Nat → CpaStatus

section

variable (accelId : Nat) (ask : Handlers) (hdls : List SubsystemStatus)

/-- The handlers behind the first. -/
def Handlers.tail : Handlers := fun i => ask (i + 1)

/-- Send an event to the subsystems up to the first that fails, which gets the failed bit. -/
def sendInOrder (accelId : Nat) (before done : StatusBits → StatusBits) :
    Handlers → CpaStatus → List SubsystemStatus → CpaStatus × List SubsystemStatus
  | _, status, [] => (status, [])
  | ask, _, hdl :: rest =>
      let hdl := hdl.modify accelId before
      if ask 0 = .success then
        let sent := sendInOrder accelId before done ask.tail .success rest
        (sent.1, hdl.modify accelId done :: sent.2)
      else
        (ask 0, hdl.modify accelId ({ · with failed := true }) :: rest)

/-- `adf_user_subsystemInit`. -/
def userSubsystemInit : CpaStatus × List SubsystemStatus :=
  sendInOrder accelId ({ · with failed := false }) ({ · with init := true }) ask .fail hdls

/-- `adf_user_subsystemStart`. -/
def userSubsystemStart : CpaStatus × List SubsystemStatus :=
  sendInOrder accelId id ({ · with start := true }) ask .fail hdls

/-- Send an event to the subsystems that are started. One that succeeds or asks for a retry has its
    bits cleared; a retry is reported unless a later subsystem fails. -/
def sendToStarted (accelId : Nat) (clear : StatusBits → StatusBits) :
    Handlers → CpaStatus → Bool → List SubsystemStatus → CpaStatus × List SubsystemStatus
  | _, status, pending, [] => (if status = .success ∧ pending = true then .retry else status, [])
  | ask, status, pending, hdl :: rest =>
      if (hdl accelId).start then
        let sent := sendToStarted accelId clear ask.tail (ask 0) (pending || ask 0 == .retry) rest
        (sent.1,
          (if ask 0 = .success ∨ ask 0 = .retry then hdl.modify accelId clear else hdl) :: sent.2)
      else
        let sent := sendToStarted accelId clear ask.tail status pending rest
        (sent.1, hdl :: sent.2)

/-- `adf_user_subsystemStop`. -/
def userSubsystemStop : CpaStatus × List SubsystemStatus :=
  sendToStarted accelId ({ · with start := false }) ask .fail false hdls

end

/-- `adf_user_subsystemShutdown`, with the status so far. -/
def userSubsystemShutdown (accelId : Nat) :
    Handlers → CpaStatus → List SubsystemStatus → CpaStatus × List SubsystemStatus
  | _, status, [] => (status, [])
  | ask, status, hdl :: rest =>
      if (hdl accelId).init then
        let sent := userSubsystemShutdown accelId ask.tail (ask 0) rest
        (sent.1,
          (if ask 0 = .success then hdl.modify accelId ({ · with init := false }) else hdl) ::
            sent.2)
      else
        let sent := userSubsystemShutdown accelId ask.tail status rest
        (sent.1, hdl :: sent.2)

section

variable (paramCheck : Bool) (accelId : Nat)

/-- `ICP_CHECK_PARAM_LT_MAX(accelId, ADF_MAX_DEVICES - 1)` fails, in a build with parameter checks. -/
def checkFails : Bool := paramCheck && decide (adfMaxDevices - 1 ≤ accelId)

/-- `adf_subsystemRestarting`. -/
def subsystemRestarting (ask : Handlers) (hdls : List SubsystemStatus) :
    CpaStatus × List SubsystemStatus :=
  if checkFails paramCheck accelId then (.invalidParam, hdls)
  else sendToStarted accelId ({ · with start := false, init := false }) ask .success false hdls

/-- `adf_subsystemError`. -/
def subsystemError (ask : Handlers) (hdls : List SubsystemStatus) :
    CpaStatus × List SubsystemStatus :=
  if checkFails paramCheck accelId then (.invalidParam, hdls)
  else sendToStarted accelId id ask .success false hdls

/-- The loop of `adf_subsystemRestarted`: every handler is called, whatever the others return. -/
def sendRestarted (accelId : Nat) : Handlers → List SubsystemStatus → List SubsystemStatus
  | _, [] => []
  | ask, hdl :: rest =>
      (if ask 0 = .fail then hdl else hdl.modify accelId fun _ => ⟨true, true, false⟩) ::
        sendRestarted accelId ask.tail rest

/-- `adf_subsystemRestarted`. -/
def subsystemRestarted (ask : Handlers) (hdls : List SubsystemStatus) :
    CpaStatus × List SubsystemStatus :=
  if checkFails paramCheck accelId then (.invalidParam, hdls)
  else (.success, sendRestarted accelId ask hdls)

end

/-! ## The table -/

/-- `icp_accel_dev_t`. -/
structure AccelDev where
  adfSubsystemStatus : Bool
deriving DecidableEq

/-- `accel_tbl`, `num_of_instances`, `accel_dev_restarting_state`, `accel_dev_error_stat` and the
    registered subsystems. -/
structure DeviceTable where
  accelTbl : Nat → Option AccelDev
  numOfInstances : Nat
  restartingState : Nat → Bool
  errorStat : Nat → Bool
  subsystems : List SubsystemStatus

namespace DeviceTable

variable (t : DeviceTable)

def withSubsystems (hdls : List SubsystemStatus) : DeviceTable := { t with subsystems := hdls }

def withEntry (devId : Nat) (entry : Option AccelDev) : DeviceTable :=
  { t with accelTbl := update t.accelTbl devId entry }

def withNum (num : Nat) : DeviceTable := { t with numOfInstances := num }

def withRestarting (accelId : Nat) (b : Bool) : DeviceTable :=
  { t with restartingState := update t.restartingState accelId b }

def withError (accelId : Nat) (b : Bool) : DeviceTable :=
  { t with errorStat := update t.errorStat accelId b }

/-- `adf_start_system` on the entry of a device. -/
def startSystem (accelId : Nat) : DeviceTable :=
  t.withEntry accelId ((t.accelTbl accelId).map fun _ => ⟨true⟩)

/-- `adf_stop_system` on the entry of a device. -/
def stopSystem (accelId : Nat) : DeviceTable :=
  t.withEntry accelId ((t.accelTbl accelId).map fun _ => ⟨false⟩)

/-- `adf_cleanup_device`. Whether the transport was left without an error does not matter to the
    table; `num_of_instances` is 16 bits wide. -/
def cleanupDevice (devId : Nat) : DeviceTable :=
  match t.accelTbl devId with
  | none => t
  | some _ => (t.withEntry devId none).withNum ((t.numOfInstances + 2 ^ 16 - 1) % 2 ^ 16)

end DeviceTable

/-- What a notification meets: the handlers' answers, and for a restart whether qatmgr still knows
    the device, whether its record can be filled again and what the transport returns. -/
structure NotifyAnswers where
  handlers : Handlers
  exist : Bool
  reinit : Bool
  transport : Int

/-- `ENOMEM`. -/
def enomem : Int := 12

/-- The value of a `CpaStatus`. -/
def statusCode : CpaStatus → Int
  | .success => 0
  | .fail => -1
  | .retry => -2
  | .resource => -3
  | .invalidParam => -4
  | .fatal => -5
  | .unsupported => -6
  | .restarting => -7

section

variable (paramCheck : Bool) (t : DeviceTable)

/-- `adf_proxy_restart_device`. Filling the record again clears the running flag. -/
def DeviceTable.restartDevice (devId : Nat) (a : NotifyAnswers) : Int × DeviceTable :=
  if adfMaxDevices ≤ devId then (0, t)
  else if a.exist = false then (0, t)
  else if a.reinit = false then (enomem, t.withEntry devId none)
  else
    let t := t.stopSystem devId
    if a.transport ≠ 0 then (a.transport, t.withEntry devId none)
    else
      let sent := subsystemRestarted paramCheck devId a.handlers t.subsystems
      let t := t.withSubsystems sent.2
      if statusCode sent.1 ≠ 0 then (statusCode sent.1, t.withEntry devId none) else (0, t)

/-- `subsystem_notify`. -/
def DeviceTable.subsystemNotify (accelId : Nat) (event : AdfEvent) (a : NotifyAnswers) :
    Int × DeviceTable :=
  if t.accelTbl accelId = none then (statusCode .invalidParam, t)
  else
    match event with
    | .init =>
        let sent := userSubsystemInit accelId a.handlers t.subsystems
        (statusCode sent.1, t.withSubsystems sent.2)
    | .start =>
        -- the device is marked as running whatever the handlers return
        let sent := userSubsystemStart accelId a.handlers t.subsystems
        (statusCode sent.1, (t.withSubsystems sent.2).startSystem accelId)
    | .stop =>
        let sent := userSubsystemStop accelId a.handlers t.subsystems
        (statusCode sent.1, (t.stopSystem accelId).withSubsystems sent.2)
    | .shutdown =>
        let sent := userSubsystemShutdown accelId a.handlers .fail t.subsystems
        (statusCode sent.1, (t.withSubsystems sent.2).cleanupDevice accelId)
    | .restarting =>
        let t := (t.withRestarting accelId true).stopSystem accelId
        let sent := subsystemRestarting paramCheck accelId a.handlers t.subsystems
        (statusCode sent.1, t.withSubsystems sent.2)
    | .restarted =>
        let restarted := (t.withRestarting accelId false).restartDevice paramCheck accelId a
        if restarted.1 = 0 then (0, (restarted.2.startSystem accelId).withError accelId false)
        else (restarted.1, restarted.2.withError accelId false)
    | .error =>
        let sent := subsystemError paramCheck accelId a.handlers t.subsystems
        (statusCode sent.1, (t.withSubsystems sent.2).withError accelId true)

/-- What discovery meets: whether qatmgr knows the device, whether it can be created, what the
    transport returns, and the handlers' answers to the INIT and START events. -/
structure DiscoverAnswers where
  exist : Bool
  create : Bool
  transport : Int
  init : Handlers
  start : Handlers

/-- The answers to a notification that restarts nothing. -/
def Handlers.answers (ask : Handlers) : NotifyAnswers := ⟨ask, true, true, 0⟩

/-- `adf_proxy_get_dev_events`: the results of the two notifications are not looked at. -/
def DeviceTable.getDevEvents (devId : Nat) (a : DiscoverAnswers) : DeviceTable :=
  let t := (t.subsystemNotify paramCheck devId .init a.init.answers).2
  (t.subsystemNotify paramCheck devId .start a.start.answers).2

/-- `adf_proxy_get_device`. -/
def DeviceTable.getDevice (devId : Nat) (a : DiscoverAnswers) : Int × DeviceTable :=
  if adfMaxDevices ≤ devId ∨ t.accelTbl devId ≠ none then (0, t)
  else if a.exist = false then (0, t)
  else if a.create = false then (enomem, t)
  else if a.transport ≠ 0 then (a.transport, t)
  else
    let t := (t.withEntry devId (some ⟨false⟩)).getDevEvents paramCheck devId a
    (0, t.withNum ((t.numOfInstances + 1) % 2 ^ 16))

/-! ## Runs -/

/-- One step of the process. -/
inductive TableEvent where
  /-- Discovery comes to a device. -/
  | getDevice (devId : Nat) (a : DiscoverAnswers)
  /-- An event of a device is forwarded. -/
  | notify (accelId : Nat) (event : AdfEvent) (a : NotifyAnswers)
  /-- Clean-up comes to a device. -/
  | cleanup (devId : Nat)

/-- The process with its devices. Registering a subsystem clears its bits. -/
def deviceTable : System DeviceTable TableEvent where
  Init t := t.accelTbl = (fun _ => none) ∧ t.numOfInstances = 0 ∧
    ∀ hdl ∈ t.subsystems, hdl = fun _ => ⟨false, false, false⟩
  step t
    | .getDevice devId a => some (t.getDevice paramCheck devId a).2
    | .notify accelId event a =>
        if accelId < adfMaxDevices then some (t.subsystemNotify paramCheck accelId event a).2
        else none
    | .cleanup devId => if devId < adfMaxDevices then some (t.cleanupDevice devId) else none

/-- The counter is the number of devices in the table. -/
def DeviceTable.Counted : Prop := t.numOfInstances = filled adfMaxDevices t.accelTbl

end

/-- Every subsystem has the init and start bits of a device set. -/
def AllSet (hdls : List SubsystemStatus) (accelId : Nat) : Prop :=
  ∀ hdl ∈ hdls, (hdl accelId).init = true ∧ (hdl accelId).start = true

instance (hdls : List SubsystemStatus) (accelId : Nat) : Decidable (AllSet hdls accelId) :=
  inferInstanceAs (Decidable (∀ _ ∈ _, _))

/-- A device that runs is initialised and started in every subsystem. -/
def DeviceTable.RunningSet (t : DeviceTable) : Prop :=
  ∀ i, ∀ dev ∈ t.accelTbl i, dev.adfSubsystemStatus = true → AllSet t.subsystems i

/-- A restart of a device that is there succeeds in filling its record and in starting the transport
    again, and passes the parameter check. -/
def TableEvent.Restores (paramCheck : Bool) : TableEvent → Prop
  | .notify accelId .restarted a =>
      a.exist = true → a.reinit = true ∧ a.transport = 0 ∧ checkFails paramCheck accelId = false
  | _ => True

/-- A device is made to run only when every handler does its part: at discovery INIT and START
    succeed, at a START event the device is initialised and START succeeds, at a restart qatmgr knows
    the device and no handler fails; or everything was set before. -/
def TableEvent.Starts (t : DeviceTable) : TableEvent → Prop
  | .getDevice _ a =>
      a.exist = true → a.create = true → a.transport = 0 →
        ∀ i < t.subsystems.length, a.init i = .success ∧ a.start i = .success
  | .notify accelId .start a =>
      AllSet t.subsystems accelId ∨ ((∀ hdl ∈ t.subsystems, (hdl accelId).init = true) ∧
        ∀ i < t.subsystems.length, a.handlers i = .success)
  | .notify accelId .restarted a =>
      AllSet t.subsystems accelId ∨ (a.exist = true ∧
        ∀ i < t.subsystems.length, a.handlers i ≠ .fail)
  | _ => True

instance (paramCheck : Bool) (e : TableEvent) : Decidable (e.Restores paramCheck) := by
  unfold TableEvent.Restores
  split <;> infer_instance

instance (t : DeviceTable) (e : TableEvent) : Decidable (e.Starts t) := by
  unfold TableEvent.Starts
  split <;> infer_instance

/-! ## What the subsystems' bits become -/

section Bits

variable {accelId d : Nat} {f before done : StatusBits → StatusBits} {ask : Handlers}
  {hdls hdls' : List SubsystemStatus}

@[simp] theorem SubsystemStatus.modify_self (hdl : SubsystemStatus) :
    hdl.modify accelId f accelId = f (hdl accelId) :=
  update_self ..

theorem SubsystemStatus.modify_of_ne (h : d ≠ accelId) (hdl : SubsystemStatus) :
    hdl.modify accelId f d = hdl d :=
  update_of_ne h ..

/-- The bits of a device decide whether they are all set. -/
theorem AllSet.congr (h : hdls'.map (· d) = hdls.map (· d)) (hset : AllSet hdls d) :
    AllSet hdls' d := by
  intro hdl hmem
  have hbits : hdl d ∈ hdls'.map (· d) := List.mem_map_of_mem hmem
  rw [h] at hbits
  obtain ⟨hdl', hmem', heq⟩ := List.mem_map.mp hbits
  rw [← heq]
  exact hset hdl' hmem'

/-! An event for one device leaves the bits of the others alone. -/

section

variable (h : d ≠ accelId) (ask : Handlers)
include h

section

variable (status : CpaStatus) (hdls : List SubsystemStatus)

theorem sendInOrder_frame :
    (sendInOrder accelId before done ask status hdls).2.map (· d) = hdls.map (· d) := by
  induction hdls generalizing ask status with
  | nil => rfl
  | cons hdl rest ih =>
    rw [sendInOrder]
    split <;> simp [SubsystemStatus.modify_of_ne h, ih]

theorem sendToStarted_frame (pending : Bool) (hdls : List SubsystemStatus) :
    (sendToStarted accelId f ask status pending hdls).2.map (· d) = hdls.map (· d) := by
  induction hdls generalizing ask status pending with
  | nil => rfl
  | cons hdl rest ih =>
    rw [sendToStarted]
    split
    · simp only [List.map_cons, ih]
      split <;> simp [SubsystemStatus.modify_of_ne h]
    · simp [ih]

theorem userSubsystemShutdown_frame :
    (userSubsystemShutdown accelId ask status hdls).2.map (· d) = hdls.map (· d) := by
  induction hdls generalizing ask status with
  | nil => rfl
  | cons hdl rest ih =>
    rw [userSubsystemShutdown]
    split
    · simp only [List.map_cons, ih]
      split <;> simp [SubsystemStatus.modify_of_ne h]
    · simp [ih]

theorem sendRestarted_frame : (sendRestarted accelId ask hdls).map (· d) = hdls.map (· d) := by
  induction hdls generalizing ask with
  | nil => rfl
  | cons hdl rest ih =>
    simp only [sendRestarted, List.map_cons, ih]
    split <;> simp [SubsystemStatus.modify_of_ne h]

end

end

section

variable (paramCheck : Bool)

theorem subsystemRestarting_frame (h : d ≠ accelId) (ask : Handlers) (hdls : List SubsystemStatus) :
    (subsystemRestarting paramCheck accelId ask hdls).2.map (· d) = hdls.map (· d) := by
  unfold subsystemRestarting
  split
  · rfl
  · exact sendToStarted_frame h _ _ _ _

theorem subsystemRestarted_frame (h : d ≠ accelId) (ask : Handlers) (hdls : List SubsystemStatus) :
    (subsystemRestarted paramCheck accelId ask hdls).2.map (· d) = hdls.map (· d) := by
  unfold subsystemRestarted
  split
  · rfl
  · exact sendRestarted_frame h _ _

theorem subsystemError_snd (accelId : Nat) (ask : Handlers) (hdls : List SubsystemStatus) :
    (subsystemError paramCheck accelId ask hdls).2 = hdls := by
  have hsent : ∀ (ask : Handlers) (status : CpaStatus) (pending : Bool),
      (sendToStarted accelId id ask status pending hdls).2 = hdls := by
    induction hdls with
    | nil => exact fun _ _ _ => rfl
    | cons hdl rest ih =>
      intro ask status pending
      rw [sendToStarted]
      split
      · simp [ih, SubsystemStatus.modify]
      · simp [ih]
  unfold subsystemError
  split
  · rfl
  · exact hsent _ _ _

end

theorem sendInOrder_of_success (h : ∀ i < hdls.length, ask i = .success) (status : CpaStatus) :
    (sendInOrder accelId before done ask status hdls).2 =
      hdls.map fun hdl => (hdl.modify accelId before).modify accelId done := by
  induction hdls generalizing ask status with
  | nil => rfl
  | cons hdl rest ih =>
    have hrest : ∀ i < rest.length, ask.tail i = .success :=
      fun i hi => h (i + 1) (Nat.succ_lt_succ hi)
    simp [sendInOrder, h 0 (Nat.zero_lt_succ _), ih hrest]

/-- Bits that are set stay set. -/
def Raises (f : StatusBits → StatusBits) : Prop :=
  ∀ b, b.init = true → b.start = true → (f b).init = true ∧ (f b).start = true

theorem sendInOrder_allSet (hbefore : Raises before) (hdone : Raises done) (ask : Handlers)
    (status : CpaStatus) (h : AllSet hdls accelId) :
    AllSet (sendInOrder accelId before done ask status hdls).2 accelId := by
  induction hdls generalizing ask status with
  | nil => exact h
  | cons hdl rest ih =>
    obtain ⟨hhdl, hrest⟩ := List.forall_mem_cons.mp h
    have hfirst := hbefore _ hhdl.1 hhdl.2
    rw [sendInOrder]
    split
    · refine List.forall_mem_cons.mpr ⟨?_, ih _ _ hrest⟩
      simpa using hdone _ hfirst.1 hfirst.2
    · refine List.forall_mem_cons.mpr ⟨?_, hrest⟩
      simpa using hfirst

theorem userSubsystemInit_allSet (ask : Handlers) (h : AllSet hdls accelId) :
    AllSet (userSubsystemInit accelId ask hdls).2 accelId := by
  have hbefore : Raises ({ · with failed := false }) := fun _ hi hs => ⟨hi, hs⟩
  have hdone : Raises ({ · with init := true }) := fun _ _ hs => ⟨rfl, hs⟩
  exact sendInOrder_allSet hbefore hdone _ _ h

/-- Everything is set after a START event if it was before, or if the device was initialised and
    every handler succeeds. -/
theorem userSubsystemStart_allSet
    (h : AllSet hdls accelId ∨
      ((∀ hdl ∈ hdls, (hdl accelId).init = true) ∧ ∀ i < hdls.length, ask i = .success)) :
    AllSet (userSubsystemStart accelId ask hdls).2 accelId := by
  rcases h with h | ⟨hinit, hask⟩
  · have hdone : Raises ({ · with start := true }) := fun _ hi _ => ⟨hi, rfl⟩
    exact sendInOrder_allSet (fun _ hi hs => ⟨hi, hs⟩) hdone _ _ h
  · rw [userSubsystemStart, sendInOrder_of_success hask]
    intro hdl hmem
    obtain ⟨hdl', hmem', rfl⟩ := List.mem_map.mp hmem
    simpa using hinit hdl' hmem'

/-- Every device is initialised by an INIT event to which all handlers answer with success. -/
theorem userSubsystemInit_init (h : ∀ i < hdls.length, ask i = .success) :
    ∀ hdl ∈ (userSubsystemInit accelId ask hdls).2, (hdl accelId).init = true := by
  rw [userSubsystemInit, sendInOrder_of_success h]
  intro hdl hmem
  obtain ⟨hdl', -, rfl⟩ := List.mem_map.mp hmem
  simp

theorem userSubsystemInit_length (accelId : Nat) (h : ∀ i < hdls.length, ask i = .success) :
    (userSubsystemInit accelId ask hdls).2.length = hdls.length := by
  rw [userSubsystemInit, sendInOrder_of_success h, List.length_map]

theorem sendRestarted_allSet (h : AllSet hdls accelId ∨ ∀ i < hdls.length, ask i ≠ .fail) :
    AllSet (sendRestarted accelId ask hdls) accelId := by
  induction hdls generalizing ask with
  | nil => exact fun _ hmem => absurd hmem (by simp [sendRestarted])
  | cons hdl rest ih =>
    have hrest : AllSet rest accelId ∨ ∀ i < rest.length, ask.tail i ≠ .fail :=
      h.imp (fun h => (List.forall_mem_cons.mp h).2) fun h i hi => h (i + 1) (Nat.succ_lt_succ hi)
    refine List.forall_mem_cons.mpr ⟨?_, ih hrest⟩
    split
    next hfail =>
      rcases h with h | h
      · exact (List.forall_mem_cons.mp h).1
      · exact absurd hfail (h 0 (Nat.zero_lt_succ _))
    next => simp

end Bits

/-! ## The counter -/

namespace DeviceTable

variable {t t' : DeviceTable} {accelId : Nat} {paramCheck : Bool}

@[simp] theorem withSubsystems_subsystems (hdls : List SubsystemStatus) :
    (t.withSubsystems hdls).subsystems = hdls := rfl

/-- The same devices with the same counter. -/
structure SameDevices (t t' : DeviceTable) : Prop where
  num : t'.numOfInstances = t.numOfInstances
  entries : ∀ i, (t'.accelTbl i).isSome = (t.accelTbl i).isSome

variable {a : NotifyAnswers} {t'' : DeviceTable} {event : AdfEvent} {hdls : List SubsystemStatus}

theorem SameDevices.trans (h : t.SameDevices t') (h' : t'.SameDevices t'') : t.SameDevices t'' :=
  ⟨h'.num.trans h.num, fun i => (h'.entries i).trans (h.entries i)⟩

theorem Counted.of_same (h : t.Counted) (hsame : t.SameDevices t') : t'.Counted := by
  rw [Counted, hsame.num, filled_congr hsame.entries]
  exact h

section

variable (t : DeviceTable)

theorem sameDevices_withSubsystems (hdls : List SubsystemStatus) :
    t.SameDevices (t.withSubsystems hdls) := ⟨rfl, fun _ => rfl⟩

section

variable (accelId : Nat)

theorem sameDevices_withRestarting (b : Bool) :
    t.SameDevices (t.withRestarting accelId b) := ⟨rfl, fun _ => rfl⟩

theorem sameDevices_withError (b : Bool) :
    t.SameDevices (t.withError accelId b) := ⟨rfl, fun _ => rfl⟩

theorem sameDevices_mapEntry (dev : AccelDev) :
    t.SameDevices (t.withEntry accelId ((t.accelTbl accelId).map fun _ => dev)) := by
  refine ⟨rfl, fun i => ?_⟩
  by_cases hi : i = accelId
  · simp [withEntry, hi]
  · simp [withEntry, update_of_ne hi]

theorem sameDevices_startSystem :
    t.SameDevices (t.startSystem accelId) := t.sameDevices_mapEntry accelId _

theorem sameDevices_stopSystem :
    t.SameDevices (t.stopSystem accelId) := t.sameDevices_mapEntry accelId _

end

end

theorem Counted.cleanupDevice (h : t.Counted) (hid : accelId < adfMaxDevices) :
    (t.cleanupDevice accelId).Counted := by
  unfold DeviceTable.cleanupDevice
  split
  · exact h
  next dev hdev =>
    have hcount := filled_update_none hid (f := t.accelTbl) (by simp [hdev])
    have hle : filled adfMaxDevices t.accelTbl ≤ 1024 := filled_le
    have hnum : t.numOfInstances = filled adfMaxDevices t.accelTbl := h
    simp only [Counted, withNum, withEntry]
    omega

/-- A restart that is carried out, or not attempted, keeps the device. -/
theorem sameDevices_restartDevice
    (h : a.exist = true →
      a.reinit = true ∧ a.transport = 0 ∧ checkFails paramCheck accelId = false) :
    t.SameDevices (t.restartDevice paramCheck accelId a).2 := by
  unfold restartDevice
  split_ifs with hmax hexist hreinit htransport
  · exact ⟨rfl, fun _ => rfl⟩
  · exact ⟨rfl, fun _ => rfl⟩
  · exact absurd (h (by simpa using hexist)).1 (by simp [hreinit])
  · exact absurd (h (by simpa using hexist)).2.1 htransport
  · have hcheck := (h (by simpa using hexist)).2.2
    simp only [subsystemRestarted, hcheck, statusCode, Bool.false_eq_true, ↓reduceIte, ne_eq,
      not_true_eq_false]
    exact (t.sameDevices_stopSystem accelId).trans (sameDevices_withSubsystems _ _)

/-- An event other than SHUTDOWN keeps the devices, if a restart brings its device back. -/
theorem sameDevices_subsystemNotify (t : DeviceTable) (event : AdfEvent) (hevent : event ≠ .shutdown)
    (hrestores : (TableEvent.notify accelId event a).Restores paramCheck) :
    t.SameDevices (t.subsystemNotify paramCheck accelId event a).2 := by
  unfold DeviceTable.subsystemNotify
  split
  · exact ⟨rfl, fun _ => rfl⟩
  · cases event with
    | init => exact t.sameDevices_withSubsystems _
    | start => exact (t.sameDevices_withSubsystems _).trans (sameDevices_startSystem _ _)
    | stop => exact (t.sameDevices_stopSystem accelId).trans (sameDevices_withSubsystems _ _)
    | shutdown => exact absurd rfl hevent
    | restarting =>
      exact ((t.sameDevices_withRestarting accelId _).trans
        (sameDevices_stopSystem _ _)).trans (sameDevices_withSubsystems _ _)
    | restarted =>
      have hsame := (t.sameDevices_withRestarting accelId false).trans
        (sameDevices_restartDevice (t := t.withRestarting accelId false) hrestores)
      simp only
      split
      · exact (hsame.trans (sameDevices_startSystem _ _)).trans (sameDevices_withError _ _ _)
      · exact hsame.trans (sameDevices_withError _ _ _)
    | error => exact (t.sameDevices_withSubsystems _).trans (sameDevices_withError _ _ _)

theorem Counted.subsystemNotify (h : t.Counted) (hid : accelId < adfMaxDevices)
    (hrestores : (TableEvent.notify accelId event a).Restores paramCheck) :
    (t.subsystemNotify paramCheck accelId event a).2.Counted := by
  by_cases hevent : event = .shutdown
  · subst hevent
    unfold DeviceTable.subsystemNotify
    split
    · exact h
    · exact (h.of_same (t.sameDevices_withSubsystems _)).cleanupDevice hid
  · exact h.of_same (t.sameDevices_subsystemNotify event hevent hrestores)

theorem Counted.getDevice (h : t.Counted) (devId : Nat) (a : DiscoverAnswers) :
    (t.getDevice paramCheck devId a).2.Counted := by
  unfold DeviceTable.getDevice
  split_ifs with hskip hexist hcreate htransport
  all_goals try exact h
  obtain ⟨hid, hfree⟩ := not_or.mp hskip
  have hsame : (t.withEntry devId (some ⟨false⟩)).SameDevices
      ((t.withEntry devId (some ⟨false⟩)).getDevEvents paramCheck devId a) :=
    (sameDevices_subsystemNotify _ .init (by simp) trivial).trans
      (sameDevices_subsystemNotify _ .start (by simp) trivial)
  have hcount := filled_update_some (Nat.lt_of_not_le hid) (not_not.mp hfree) ⟨false⟩
  have hle : filled adfMaxDevices t.accelTbl ≤ 1024 := filled_le
  have hnum : t.numOfInstances = filled adfMaxDevices t.accelTbl := h
  have hentries := filled_congr (n := adfMaxDevices) hsame.entries
  have hnum' := hsame.num
  simp only [Counted, withNum]
  rw [hnum', hentries]
  simp only [withEntry]
  omega

/-! ## The running devices -/

/-- Other devices keep their entries and their bits. -/
structure Only (accelId : Nat) (t t' : DeviceTable) : Prop where
  entries : ∀ d ≠ accelId, t'.accelTbl d = t.accelTbl d
  bits : ∀ d ≠ accelId, t'.subsystems.map (· d) = t.subsystems.map (· d)

theorem Only.refl (accelId : Nat) (t : DeviceTable) : Only accelId t t :=
  ⟨fun _ _ => rfl, fun _ _ => rfl⟩

namespace Only

variable (h : Only accelId t t')
include h

theorem trans (h' : Only accelId t' t'') : Only accelId t t'' :=
  ⟨fun d hd => (h'.entries d hd).trans (h.entries d hd),
    fun d hd => (h'.bits d hd).trans (h.bits d hd)⟩

theorem withEntry (entry : Option AccelDev) : Only accelId t (t'.withEntry accelId entry) :=
  ⟨fun d hd => (update_of_ne hd _ _).trans (h.entries d hd), h.bits⟩

theorem withSubsystems (hbits : ∀ d ≠ accelId, hdls.map (· d) = t'.subsystems.map (· d)) :
    Only accelId t (t'.withSubsystems hdls) :=
  ⟨h.entries, fun d hd => (hbits d hd).trans (h.bits d hd)⟩

theorem withNum (num : Nat) : Only accelId t (t'.withNum num) := ⟨h.entries, h.bits⟩

theorem withRestarting (b : Bool) : Only accelId t (t'.withRestarting accelId b) :=
  ⟨h.entries, h.bits⟩

theorem withError (b : Bool) : Only accelId t (t'.withError accelId b) := ⟨h.entries, h.bits⟩

theorem startSystem : Only accelId t (t'.startSystem accelId) := h.withEntry _

theorem stopSystem : Only accelId t (t'.stopSystem accelId) := h.withEntry _

end Only

/-- The device of the step runs only with all its bits set. -/
def OwnSet (accelId : Nat) (t : DeviceTable) : Prop :=
  ∀ dev ∈ t.accelTbl accelId, dev.adfSubsystemStatus = true → AllSet t.subsystems accelId

theorem RunningSet.of_only (h : t.RunningSet) (honly : Only accelId t t')
    (hown : OwnSet accelId t') : t'.RunningSet := by
  intro i dev hdev hrunning
  by_cases hi : i = accelId
  · subst hi
    exact hown dev hdev hrunning
  · rw [honly.entries i hi] at hdev
    exact (h i dev hdev hrunning).congr (honly.bits i hi)

theorem ownSet_of_none (h : t.accelTbl accelId = none) : OwnSet accelId t :=
  fun _ hdev => absurd hdev (by simp [h])

theorem ownSet_of_allSet (h : AllSet t.subsystems accelId) : OwnSet accelId t := fun _ _ _ => h

theorem stopSystem_stopped (t : DeviceTable) (accelId : Nat) :
    ∀ dev ∈ (t.stopSystem accelId).accelTbl accelId, dev.adfSubsystemStatus = false := by
  intro dev hdev
  simp only [stopSystem, DeviceTable.withEntry, update_self, Option.mem_def,
    Option.map_eq_some_iff] at hdev
  obtain ⟨-, -, rfl⟩ := hdev
  rfl

theorem ownSet_of_stopped : OwnSet accelId ((t.stopSystem accelId).withSubsystems hdls) :=
  fun dev hdev hrunning => absurd hrunning (by simp [t.stopSystem_stopped accelId dev hdev])

theorem only_cleanupDevice (t : DeviceTable) (accelId : Nat) :
    Only accelId t (t.cleanupDevice accelId) ∧
      (t.cleanupDevice accelId).accelTbl accelId = none := by
  unfold DeviceTable.cleanupDevice
  split
  next hnone => exact ⟨.refl _ _, hnone⟩
  next => exact ⟨((Only.refl _ _).withEntry _).withNum _, update_self ..⟩

theorem RunningSet.cleanupDevice (h : t.RunningSet) (accelId : Nat) :
    (t.cleanupDevice accelId).RunningSet :=
  h.of_only (t.only_cleanupDevice accelId).1 (ownSet_of_none (t.only_cleanupDevice accelId).2)

/-- A restart changes only its device. One that reports success leaves all bits set if they were, or
    if qatmgr knows the device and no handler fails; one that reports an error has lost the device. -/
theorem restartDevice_spec (paramCheck : Bool) (t : DeviceTable) (a : NotifyAnswers)
    (hid : accelId < adfMaxDevices) :
    Only accelId t (t.restartDevice paramCheck accelId a).2 ∧
      ((t.restartDevice paramCheck accelId a).1 = 0 → (AllSet t.subsystems accelId ∨
          (a.exist = true ∧ ∀ i < t.subsystems.length, a.handlers i ≠ .fail)) →
        AllSet (t.restartDevice paramCheck accelId a).2.subsystems accelId) ∧
      ((t.restartDevice paramCheck accelId a).1 ≠ 0 →
        (t.restartDevice paramCheck accelId a).2.accelTbl accelId = none) := by
  have hlost : ∀ t' : DeviceTable, (t'.withEntry accelId none).accelTbl accelId = none :=
    fun _ => update_self ..
  have hself := Only.refl accelId t
  rw [restartDevice, if_neg (by omega)]
  by_cases hexist : a.exist = false
  · rw [if_pos hexist]
    refine ⟨hself, fun _ hset => ?_, fun h => absurd rfl h⟩
    rcases hset with hset | ⟨hexist', -⟩
    · exact hset
    · exact absurd hexist' (by simp [hexist])
  rw [if_neg hexist]
  by_cases hreinit : a.reinit = false
  · rw [if_pos hreinit]
    exact ⟨hself.withEntry _, fun h => absurd h (by simp [enomem]), fun _ => hlost _⟩
  rw [if_neg hreinit]
  by_cases htransport : a.transport ≠ 0
  · simp only [if_pos htransport]
    exact ⟨hself.stopSystem.withEntry _, fun h => absurd h htransport, fun _ => hlost _⟩
  simp only [if_neg htransport]
  have honly := hself.stopSystem.withSubsystems
    fun d hd => subsystemRestarted_frame paramCheck hd a.handlers (t.stopSystem accelId).subsystems
  split_ifs with hcode
  · exact ⟨honly.withEntry _, fun h => absurd h hcode, fun _ => hlost _⟩
  · refine ⟨honly, fun _ hset => ?_, fun h => absurd rfl h⟩
    have hcheck : ¬checkFails paramCheck accelId = true := by
      intro hcheck
      exact hcode (by simp [subsystemRestarted, hcheck, statusCode])
    rw [withSubsystems_subsystems, subsystemRestarted, if_neg hcheck]
    exact sendRestarted_allSet (hset.imp_right And.right)

theorem RunningSet.subsystemNotify (h : t.RunningSet) (hid : accelId < adfMaxDevices)
    (hstarts : (TableEvent.notify accelId event a).Starts t) :
    (t.subsystemNotify paramCheck accelId event a).2.RunningSet := by
  have hself := Only.refl accelId t
  unfold DeviceTable.subsystemNotify
  split
  · exact h
  · cases event with
    | init =>
      refine h.of_only (hself.withSubsystems fun d hd => sendInOrder_frame hd _ _ _) ?_
      exact fun dev hdev hrunning => userSubsystemInit_allSet _ (h accelId dev hdev hrunning)
    | start =>
      refine h.of_only (hself.withSubsystems fun d hd => sendInOrder_frame hd _ _ _).startSystem ?_
      exact ownSet_of_allSet (userSubsystemStart_allSet hstarts)
    | stop =>
      exact h.of_only (hself.stopSystem.withSubsystems fun d hd => sendToStarted_frame hd _ _ _ _)
        ownSet_of_stopped
    | shutdown =>
      have honly := hself.withSubsystems fun d hd =>
        userSubsystemShutdown_frame hd a.handlers .fail t.subsystems
      obtain ⟨honly', hnone⟩ := only_cleanupDevice
        (t.withSubsystems (userSubsystemShutdown accelId a.handlers .fail t.subsystems).2) accelId
      exact h.of_only (honly.trans honly') (ownSet_of_none hnone)
    | restarting =>
      exact h.of_only ((hself.withRestarting true).stopSystem.withSubsystems
        fun d hd => subsystemRestarting_frame paramCheck hd _ _) ownSet_of_stopped
    | restarted =>
      obtain ⟨honly, hset, hlost⟩ :=
        restartDevice_spec paramCheck (t.withRestarting accelId false) a hid
      have honly := (hself.withRestarting false).trans honly
      simp only
      split_ifs with hcode
      · exact h.of_only (honly.startSystem.withError _) (ownSet_of_allSet (hset hcode hstarts))
      · exact h.of_only (honly.withError _) (ownSet_of_none (hlost hcode))
    | error =>
      have hbits := subsystemError_snd paramCheck accelId a.handlers t.subsystems
      refine h.of_only ((hself.withSubsystems fun d _ => by rw [hbits]).withError _) ?_
      intro dev hdev hrunning
      simp only [DeviceTable.withError, withSubsystems_subsystems, hbits]
      exact h accelId dev hdev hrunning

theorem RunningSet.getDevice {devId : Nat} {a : DiscoverAnswers} (h : t.RunningSet)
    (hstarts : (TableEvent.getDevice devId a).Starts t) :
    (t.getDevice paramCheck devId a).2.RunningSet := by
  unfold DeviceTable.getDevice
  split_ifs with hskip hexist hcreate htransport
  all_goals try exact h
  obtain ⟨hid, hfree⟩ := not_or.mp hskip
  have hask := hstarts (by simpa using hexist) (by simpa using hcreate) (not_not.mp htransport)
  have hnew : (t.withEntry devId (some ⟨false⟩)).RunningSet := by
    refine h.of_only ((Only.refl _ _).withEntry _) fun dev hdev hrunning => ?_
    obtain rfl : AccelDev.mk false = dev := by simpa [DeviceTable.withEntry] using hdev
    exact absurd hrunning (by simp)
  have hinit : ((t.withEntry devId (some ⟨false⟩)).subsystemNotify paramCheck devId .init
      a.init.answers).2.RunningSet :=
    hnew.subsystemNotify (Nat.lt_of_not_le hid) trivial
  have hpresent : (t.withEntry devId (some ⟨false⟩)).accelTbl devId ≠ none := by
    simp [DeviceTable.withEntry]
  refine hinit.subsystemNotify (Nat.lt_of_not_le hid) (.inr ?_)
  rw [DeviceTable.subsystemNotify, if_neg hpresent]
  have hinitAsk : ∀ i < t.subsystems.length, a.init i = .success := fun i hi => (hask i hi).1
  refine ⟨userSubsystemInit_init hinitAsk, fun i hi => (hask i ?_).2⟩
  have hlength := userSubsystemInit_length devId hinitAsk
  exact hlength ▸ hi

end DeviceTable

/-- **The device table is counted and its running devices are set up.** The counter is right in every
    run in which each restart that is attempted succeeds in bringing the device back, whatever else
    fails. A running device has all its bits set in every run in which a device is made to run only
    when all handlers do their part. -/
theorem devices_counted {paramCheck : Bool} {t : DeviceTable} :
    ((deviceTable paramCheck).ReachableBy (fun _ e => e.Restores paramCheck) t → t.Counted) ∧
      ((deviceTable paramCheck).ReachableBy (fun t e => e.Starts t) t → t.RunningSet) := by
  constructor
  · refine System.ReachableBy.invariant DeviceTable.Counted ?_ ?_
    · rintro t ⟨htbl, hnum, -⟩
      rw [DeviceTable.Counted, htbl, hnum, filled_none]
    · intro t e t' hcounted hrestores hstep
      cases e with
      | getDevice devId a => exact Option.some.inj hstep ▸ hcounted.getDevice devId a
      | notify accelId event a =>
        obtain ⟨hid, hstep⟩ := Option.ite_none_right_eq_some.mp hstep
        exact Option.some.inj hstep ▸ hcounted.subsystemNotify hid hrestores
      | cleanup devId =>
        obtain ⟨hid, hstep⟩ := Option.ite_none_right_eq_some.mp hstep
        exact Option.some.inj hstep ▸ hcounted.cleanupDevice hid
  · refine System.ReachableBy.invariant DeviceTable.RunningSet ?_ ?_
    · rintro t ⟨htbl, -, -⟩ i dev hdev
      exact absurd hdev (by simp [htbl])
    · intro t e t' hrunning hstarts hstep
      cases e with
      | getDevice devId a => exact Option.some.inj hstep ▸ hrunning.getDevice hstarts
      | notify accelId event a =>
        obtain ⟨hid, hstep⟩ := Option.ite_none_right_eq_some.mp hstep
        exact Option.some.inj hstep ▸ hrunning.subsystemNotify hid hstarts
      | cleanup devId =>
        obtain ⟨-, hstep⟩ := Option.ite_none_right_eq_some.mp hstep
        exact Option.some.inj hstep ▸ hrunning.cleanupDevice devId

/-- No devices, one subsystem. -/
def sampleTable : DeviceTable where
  accelTbl := fun _ => none
  numOfInstances := 0
  restartingState := fun _ => false
  errorStat := fun _ => false
  subsystems := [fun _ => ⟨false, false, false⟩]

/-- Every handler succeeds. -/
def sampleHandlers : Handlers := fun _ => .success

/-- A device that comes up. -/
def sampleFound : DiscoverAnswers := ⟨true, true, 0, sampleHandlers, sampleHandlers⟩

theorem sampleTable_init (paramCheck : Bool) : (deviceTable paramCheck).Init sampleTable :=
  ⟨rfl, rfl, by simp [sampleTable]⟩

/-- A device is found, restarted and runs. -/
theorem devices_counted_restart :
    ∃ t, (deviceTable true).ReachableBy (fun t e => e.Restores true ∧ e.Starts t) t ∧
      (t.accelTbl 0).map AccelDev.adfSubsystemStatus = some true ∧ t.Counted ∧ t.RunningSet := by
  refine System.exists_reachableBy
    (P := fun t => (t.accelTbl 0).map AccelDev.adfSubsystemStatus = some true)
    [.getDevice 0 sampleFound, .notify 0 .restarting sampleHandlers.answers,
      .notify 0 .restarted sampleHandlers.answers] (sampleTable_init true) (by decide +kernel)
    fun t ⟨s, hs, hrun⟩ hrunning => ⟨hrunning, ?_, ?_⟩
  · exact devices_counted.1 ⟨s, hs, hrun.mono fun _ _ h => h.1⟩
  · exact devices_counted.2 ⟨s, hs, hrun.mono fun _ _ h => h.2⟩

/-- A restart that cannot fill the device's record loses the device and not its count, and a device
    whose START handler fails runs all the same. -/
theorem devices_miscounted :
    (∃ t, (deviceTable true).Reachable t ∧ ¬t.Counted) ∧
      (∃ t, (deviceTable true).Reachable t ∧ ¬t.RunningSet) := by
  constructor
  · exact System.exists_reachable
      (P := fun t => t.numOfInstances ≠ filled adfMaxDevices t.accelTbl)
      [.getDevice 0 sampleFound, .notify 0 .restarting sampleHandlers.answers,
        .notify 0 .restarted ⟨sampleHandlers, true, false, 0⟩] (sampleTable_init true)
      (by decide +kernel)
  · obtain ⟨t, ht, hdev, hbits⟩ := System.exists_reachable
      (P := fun t => t.accelTbl 0 = some ⟨true⟩ ∧ t.subsystems.map (· 0) = [⟨true, false, true⟩])
      [.getDevice 0 { sampleFound with start := fun _ => .fail }] (sampleTable_init true)
      (by decide +kernel)
    refine ⟨t, ht, fun h => ?_⟩
    obtain ⟨hdl, hmem, heq⟩ := List.mem_map.mp (hbits ▸ List.mem_singleton_self _)
    have hset := (h 0 ⟨true⟩ hdev rfl hdl hmem).2
    exact absurd (heq ▸ hset) (by decide)

end Qatlib.Adf
