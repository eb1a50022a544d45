import Mathlib.Data.List.Infix
import Qatlib.Lib.System
import Qatlib.QatMgr.Sections

set_option autoImplicit false

/-! # Configuration lookups of a client

`adf_io_cfgGetParamValue` reads a parameter of a device from qatmgr. Each thread keeps the last
response it received and answers from it while a lookup asks for the same thing again: the same
device, or the same device, service and instance. Nothing tells that response apart from one that
belongs to a section the process has given back since.

A process reaches qatmgr over a socket, or, without a daemon, by calling `handle_message` on data of
its own. A response that is read is read whole. A `read` that fails is not noticed, since its result is
compared as an unsigned number; it leaves the response on the socket for the query after it. -/

namespace Qatlib.QatMgr

/-! ## Queries -/

/-- The bit codes of `enum serv_type`. -/
def ServType.code : ServType → Nat
  | .dc => 1
  | .sym => 2
  | .asym => 4
  | .cy => 6

/-- A `uint16_t` of a request, in memory order. -/
def le16 (n : Nat) : List UInt8 := [UInt8.ofNat (n % 2 ^ 8), UInt8.ofNat (n / 2 ^ 8 % 2 ^ 8)]

/-- The header that `qatmgr_query` writes. -/
def MsgReq.ofType (type : MsgType) (sizeTx : Nat) (payload : List UInt8) : MsgReq where
  len := u16 (sizeofHdr + sizeTx)
  version := thisLibVersion
  type := type.code
  payload := payload

/-- The queries that lookups make. The number of an instance is an `unsigned`, the field of the
    request has 16 bits. -/
inductive Query where
  | device (accelId : Nat)
  | info (type : ServType) (servNum accelId : Nat)
  | name (type : ServType) (servNum accelId : Nat)
deriving DecidableEq

def Query.type : Query → MsgType
  | .device _ => .deviceInfo
  | .info _ _ _ => .instanceInfo
  | .name _ _ _ => .instanceName

def Query.req : Query → MsgReq
  | .device accelId => .ofType .deviceInfo 2 (le16 accelId)
  | .info type servNum accelId =>
      .ofType .instanceInfo 8 (le16 type.code ++ le16 0 ++ le16 servNum ++ le16 accelId)
  | .name type servNum accelId =>
      .ofType .instanceName 8 (le16 type.code ++ le16 0 ++ le16 servNum ++ le16 accelId)

/-! ## Parameter names -/

/-- What `sscanf` reads for `%u`: white space, a sign, digits. -/
def scanU (s : List Char) : Option Nat :=
  let s := s.dropWhile fun c => c.toNat = 32 ∨ 9 ≤ c.toNat ∧ c.toNat ≤ 13
  let neg := s.head? = some '-'
  let digits := (if neg ∨ s.head? = some '+' then s.tail else s).takeWhile Char.isDigit
  let n := digits.foldl (fun acc c => acc * 10 + (c.toNat - '0'.toNat)) 0
  if digits = [] then none
  else if n > 2 ^ 64 - 1 then some (2 ^ 32 - 1)
  else if neg then some ((2 ^ 64 - n) % 2 ^ 32)
  else some (n % 2 ^ 32)

section

variable (pParamName : List Char) (rsp : MsgRsp)

/-- `sscanf` with a two-letter word before `%u`. -/
def scanInstance (word pParamName : List Char) : Option Nat :=
  if word <+: pParamName then scanU (pParamName.drop word.length) else none

/-- The query for a parameter of an instance. -/
def instanceQuery (type : ServType) (servNum accelId : Nat) : Query :=
  if "Name".toList <:+: pParamName then .name type servNum accelId else .info type servNum accelId

/-- Which query a lookup stands for: `GENERAL` parameters and numbers of instances are in the
    device information, the rest belongs to an instance. -/
def lookupQuery (accelId : Nat) (pSection pParamName : List Char) : Option Query :=
  let dc := "Dc".toList
  let cy := "Cy".toList
  if pSection = "GENERAL".toList ∨ "Number".toList <+: pParamName then some (.device accelId)
  else if dc <+: pParamName ∨ cy <+: pParamName then
    match scanInstance dc pParamName with
    | some servNum => some (instanceQuery pParamName .dc servNum accelId)
    | none =>
        match scanInstance cy pParamName with
        | some servNum => some (instanceQuery pParamName .cy servNum accelId)
        | none => none
  else none

/-- The name of an instance parameter, past the `Dc<n>` or `Cy<n>`. -/
def instanceParam : String :=
  String.ofList ((pParamName.drop 2).dropWhile Char.isDigit)

/-! ## Parameter values -/

/-- A parameter value: the text that `snprintf` makes of a number, a fixed text, or a name. -/
inductive ParamValue where
  | decimal (n : Nat)
  | hex (n : Nat)
  | text (s : String)
  | name (bytes : List UInt8)
deriving DecidableEq

/-- The parameter `ServicesEnabled`. -/
def servicesEnabled (services : Nat) : String :=
  if services &&& 1 ≠ 0 then
    if services &&& 6 = 6 then "dc;cy"
    else if services &&& 2 ≠ 0 then "dc;sym"
    else if services &&& 4 ≠ 0 then "dc;asym"
    else "dc"
  else if services &&& 6 = 6 then "cy"
  else if services &&& 2 ≠ 0 then "sym"
  else if services &&& 4 ≠ 0 then "asym"
  else ""

/-- `cfg_getValueFromDeviceInfo`. -/
def cfgGetValueFromDeviceInfo : Option ParamValue :=
  match rsp.payload with
  | .deviceInfo info =>
      match String.ofList pParamName with
      | "Device_Max_Banks" => some (.decimal info.maxBanks)
      | "Device_Capabilities_Mask" => some (.hex info.capabilityMask)
      | "Device_DcExtendedFeatures" => some (.hex info.extendedCapabilities)
      | "ServicesEnabled" => some (.text (servicesEnabled info.services))
      | "statsGeneral" => some (.text "1")
      | "Device_PkgId" => some (.decimal info.pkgId)
      | "Device_NodeId" => some (.decimal info.nodeId)
      | "HW_RevId" => some (.text "N/A")
      | "Firmware_UofVer" => some (.text "N/A")
      | "Firmware_MmpVer" => some (.text "N/A")
      | "NumberCyInstances" => some (.decimal info.numCyInstances)
      | "NumberDcInstances" => some (.decimal info.numDcInstances)
      | _ => none
  | _ => none

/-- The parameter `Name`: 128 bytes (`ADF_CFG_MAX_VAL_LEN_IN_BYTES`) hold 127 of the name, and a
    name of 128 is cut without an error. -/
def instanceNameValue : Option ParamValue :=
  match rsp.payload with
  | .name name => if name.strlen > 128 then none else some (.name (name.bytes.take 127))
  | _ => none

/-- `cfg_getDcInstanceValue`. -/
def cfgGetDcInstanceValue : Option ParamValue :=
  match instanceParam pParamName, rsp.payload with
  | "BankNumber", .instanceDc dc => some (.decimal dc.bankNumber)
  | "IsPolled", .instanceDc dc => some (.decimal dc.isPolled)
  | "CoreAffinity", .instanceDc dc => some (.decimal dc.coreAffinity)
  | "NumConcurrentRequests", .instanceDc dc => some (.decimal dc.numConcurrentRequests)
  | "RingTx", .instanceDc dc => some (.decimal dc.ringTx)
  | "RingRx", .instanceDc dc => some (.decimal dc.ringRx)
  | "Name", _ => instanceNameValue rsp
  | _, _ => none

/-- `cfg_getCyInstanceValue`. -/
def cfgGetCyInstanceValue : Option ParamValue :=
  match instanceParam pParamName, rsp.payload with
  | "BankNumber", .instanceCy sym _ _ => some (.decimal sym.bankNumber)
  | "BankNumberAsym", .instanceCy _ asym _ => some (.decimal asym.bankNumber)
  | "BankNumberSym", .instanceCy sym _ _ => some (.decimal sym.bankNumber)
  | "IsPolled", .instanceCy _ _ isPolled => some (.decimal (isPolled % 2 ^ 32).toNat)
  | "CoreAffinity", .instanceCy sym _ _ => some (.decimal sym.coreAffinity)
  | "NumConcurrentAsymRequests", .instanceCy _ asym _ => some (.decimal asym.numConcurrentRequests)
  | "NumConcurrentSymRequests", .instanceCy sym _ _ => some (.decimal sym.numConcurrentRequests)
  | "RingSymTx", .instanceCy sym _ _ => some (.decimal sym.ringTx)
  | "RingAsymTx", .instanceCy _ asym _ => some (.decimal asym.ringTx)
  | "RingSymRx", .instanceCy sym _ _ => some (.decimal sym.ringRx)
  | "RingAsymRx", .instanceCy _ asym _ => some (.decimal asym.ringRx)
  | "Name", _ => instanceNameValue rsp
  | _, _ => none

/-- The value a lookup reads from the response to its query. -/
def Query.value : Query → Option ParamValue
  | .device _ => cfgGetValueFromDeviceInfo pParamName rsp
  | .info .dc _ _ | .name .dc _ _ => cfgGetDcInstanceValue pParamName rsp
  | .info _ _ _ | .name _ _ _ => cfgGetCyInstanceValue pParamName rsp

end

/-! ## The cache -/

/-- `UINT32_MAX`. -/
def uint32Max : Nat := 2 ^ 32 - 1

/-- The variables of `adf_io_cfgGetParamValue` that each thread has one of. -/
structure Cache where
  accelId : Nat
  servType : Nat
  servNum : Nat
  rsp : MsgRsp

/-- Their initial values. -/
def Cache.initial : Cache where
  accelId := uint32Max
  servType := 0
  servNum := 2 ^ 16 - 1
  rsp := { len := 0, version := 0, type := 0, payload := .empty }

def Cache.withRsp (c : Cache) (rsp : MsgRsp) : Cache := { c with rsp := rsp }

/-- The test for an instance. -/
def Cache.hitsInstance (c : Cache) (msgType : MsgType) (type : ServType) (servNum accelId : Nat) :
    Bool :=
  msgType.code = c.rsp.type ∧ type.code = c.servType ∧ servNum = c.servNum ∧ accelId = c.accelId

/-- The lookup is answered from the cache. -/
def Cache.hits (c : Cache) : Query → Bool
  | .device accelId => accelId = c.accelId ∧ c.rsp.type = MsgType.deviceInfo.code
  | .info type servNum accelId => c.hitsInstance .instanceInfo type servNum accelId
  | .name type servNum accelId => c.hitsInstance .instanceName type servNum accelId

/-- The keys recorded after a query that succeeded; `c_serv_num` has 16 bits. -/
def Cache.remember (c : Cache) : Query → Cache
  | .device accelId => { c with accelId := accelId }
  | .info type servNum accelId | .name type servNum accelId =>
      { c with accelId := accelId, servType := type.code, servNum := servNum % 2 ^ 16 }

/-! ## A process -/

/-- What becomes of a request on the socket. -/
inductive Wire where
  | delivered
  /-- The request cannot be written. -/
  | notSent
  /-- The daemon has closed the connection. -/
  | closed
  /-- `read` returns -1. -/
  | readFailed
deriving DecidableEq

/-- A process and the qatmgr that answers it, with the cache of one of its threads. `conn` is the
    record of the process's connection, or the static variables of `qatmgr_query`. -/
structure Process where
  /-- `qatmgr_sock` is connected. -/
  sock : Bool
  mgr : Mgr
  conn : Conn
  cache : Cache
  /-- The responses on the socket that no `read` has taken. -/
  unread : List MsgRsp
  /-- Not in the program: the response in the cache was received from the section held now, for the
      query whose keys are recorded. -/
  current : Bool

section

variable (s : Process)

/-- A query as qatmgr answers it. -/
def Process.ask (q : Query) : Reply :=
  match q.type with
  | .deviceInfo => handleGetDeviceInfo s.mgr.sectionData q.req s.conn.index
  | .instanceName => handleGetInstanceName s.mgr.sectionData q.req s.conn.index
  | _ => handleGetInstanceInfo s.mgr.sectionData q.req s.conn.index

/-- The checks of `qatmgr_query` on the header of a response. -/
def MsgRsp.accepted (rsp : MsgRsp) (q : Query) : Bool :=
  rsp.version = thisLibVersion ∧ rsp.type = q.type.code

/-- The end of `qatmgr_query` when `read` takes the first of the responses on the socket; it returns 0
    when there is none. -/
def Process.readRsp (q : Query) (queue : List MsgRsp) : Bool × Process :=
  match queue with
  | [] => (false, s)
  | rsp :: rest =>
      (rsp.accepted q,
        { s with cache := s.cache.withRsp rsp, unread := rest, current := s.unread.isEmpty })

/-- `qatmgr_query`, for the queries of a lookup: whether it succeeds, and the response buffer. -/
def Process.qatmgrQuery (env : Env) (wire : Wire) (q : Query) : Bool × Process :=
  let out := handleMessage env s.mgr s.conn q.req
  let s' := { s with mgr := out.mgr, conn := out.conn }
  if s.sock = false then
    (out.reply.ret = 0, { s' with cache := s.cache.withRsp out.reply.rsp, current := true })
  else
    match wire with
    | .notSent => (false, s)
    | .closed => s.readRsp q s.unread
    | .delivered => s'.readRsp q (s.unread ++ [out.reply.rsp])
    | .readFailed =>
        -- `numchars` is -1, and not less than a `size_t`
        (s.cache.rsp.accepted q,
          { s' with unread := s.unread ++ [out.reply.rsp], current := false })

/-- `adf_io_cfgGetParamValue`. -/
def Process.cfgGetParamValue (env : Env) (wire : Wire) (accelId : Nat)
    (pSection pParamName : List Char) : Option ParamValue × Process :=
  match lookupQuery accelId pSection pParamName with
  | none => (none, s)
  | some q =>
      if s.cache.hits q then (q.value pParamName s.cache.rsp, s)
      else
        let queried := s.qatmgrQuery env wire q
        let s' := queried.2
        if queried.1 = false then (none, { s' with cache := { s'.cache with accelId := uint32Max } })
        else (q.value pParamName s'.cache.rsp, { s' with cache := s'.cache.remember q })

/-- `qatmgr_close`: without a daemon the process's own data is freed, and no section is left to
    ask about. -/
def Process.qatmgrClose (conn : Conn) : Process :=
  { s with
    sock := false
    mgr := { s.mgr with sectionData := [] }
    conn := conn
    unread := []
    current := false }

/-- `adf_io_userProcessStop`: the section is given back. -/
def Process.userProcessStop (env : Env) (name : CString qatmgrMaxStrlen) : Process :=
  let req := MsgReq.ofType .sectionPut (name.strlen + 1) (name.bytes ++ [0])
  let out := handleMessage env s.mgr s.conn req
  { s with mgr := out.mgr }.qatmgrClose out.conn

/-- `adf_io_userProcessToStart`: a section is requested over a new connection, from the qatmgr that
    is there now. -/
def Process.userProcessToStart (sock : Bool) (mgr : Mgr) (conn : Conn) (env : Env) (wire : Wire)
    (nameIn : CString qatmgrMaxStrlen) (nameLen : Nat) : Process :=
  let req := MsgReq.ofType .sectionGet (nameIn.strlen + 1) (nameIn.bytes ++ [0])
  let out := handleMessage env mgr conn req
  let s' := { s with
    sock := sock, mgr := out.mgr, conn := out.conn, unread := [], current := false }
  if sock = true ∧ wire ≠ .delivered then s'.qatmgrClose conn
  else
    match out.reply.rsp.payload with
    | .name name => if name.strlen ≥ nameLen then s'.qatmgrClose out.conn else s'
    | _ => s'.qatmgrClose out.conn

/-- What can happen to the process. -/
inductive ProcessEvent where
  /-- The thread looks up a parameter of a device. -/
  | lookup (env : Env) (wire : Wire) (accelId : Nat) (pSection pParamName : List Char)
  | stop (env : Env) (name : CString qatmgrMaxStrlen)
  | start (sock : Bool) (mgr : Mgr) (conn : Conn) (env : Env) (wire : Wire)
      (nameIn : CString qatmgrMaxStrlen) (nameLen : Nat)
  /-- qatmgr handles a message of another process. -/
  | other (env : Env) (conn : Conn) (req : MsgReq)

/-- One event; the devices are those of the device table. -/
def ProcessEvent.step : ProcessEvent → Option Process
  | .lookup env wire accelId pSection pParamName =>
      if accelId < adfMaxDevices then
        some (s.cfgGetParamValue env wire accelId pSection pParamName).2
      else none
  | .stop env name => some (s.userProcessStop env name)
  | .start sock mgr conn env wire nameIn nameLen =>
      some (s.userProcessToStart sock mgr conn env wire nameIn nameLen)
  | .other env conn req => some { s with mgr := (handleMessage env s.mgr conn req).mgr }

/-- A process whose thread has not looked anything up yet. -/
def client : System Process ProcessEvent where
  Init s := s.cache = Cache.initial
  step := ProcessEvent.step

/-- The value that a query to qatmgr would give now. -/
def Process.freshValue (accelId : Nat) (pSection pParamName : List Char) : Option ParamValue :=
  (lookupQuery accelId pSection pParamName).bind fun q =>
    if (s.ask q).ret = 0 then q.value pParamName (s.ask q).rsp else none

end

/-! ## Answers -/

/-- The response to a query carries the type of the query, unless the query fails. -/
def Reply.Tagged (type : MsgType) (r : Reply) : Prop := r.ret = 0 ↔ r.rsp.type = type.code

variable {type : MsgType} {s : Process} {c : Cache} {q : Query}

theorem Reply.tagged_fail (h : type.code ≠ 999) (text : String) : (Reply.fail text).Tagged type :=
  ⟨fun hret => absurd hret (by simp [Reply.fail]), fun htype => absurd htype.symm h⟩

theorem Reply.tagged_answer (type : MsgType) (size : Nat) (payload : RspPayload) :
    (Reply.answer type size payload).Tagged type :=
  iff_of_true rfl rfl

variable {l : List SectionData} {env : Env} {s' : Process} {pParamName : List Char} {accelId : Nat}

theorem withSection_tagged (h : type.code ≠ 999) {req : MsgReq} {size : Nat} {index : Int}
    {answer : SectionData → Reply} (hanswer : ∀ sec, (answer sec).Tagged type) :
    (withSection l req size index answer).Tagged type := by
  unfold withSection
  split
  · exact Reply.tagged_fail h _
  split
  · exact Reply.tagged_fail h _
  split
  · exact Reply.tagged_fail h _
  · exact hanswer _

theorem withDevice_tagged (h : type.code ≠ 999) {sec : SectionData} {deviceNum : Nat}
    {answer : DeviceData → Reply} (hanswer : ∀ dev, (answer dev).Tagged type) :
    (withDevice sec deviceNum answer).Tagged type := by
  unfold withDevice
  split
  · exact Reply.tagged_fail h _
  · exact hanswer _

theorem withInstance_tagged (h : type.code ≠ 999) {n : Nat} {count : Int} {text : String}
    {answer : Reply} (hanswer : answer.Tagged type) :
    (withInstance n count text answer).Tagged type := by
  unfold withInstance
  split
  · exact Reply.tagged_fail h _
  · exact hanswer

theorem Process.ask_tagged (s : Process) (q : Query) : (s.ask q).Tagged q.type := by
  have h : q.type.code ≠ 999 := by cases q <;> simp [Query.type, MsgType.code]
  cases q with
  | device accelId =>
    exact withSection_tagged h fun sec => withDevice_tagged h fun dev => Reply.tagged_answer _ _ _
  | info type servNum accelId | name type servNum accelId =>
    refine withSection_tagged h fun sec => withDevice_tagged h fun dev => ?_
    dsimp only
    split
    -- An unknown service type fails; the others differ in the instance count only.
    on_goal 5 => exact Reply.tagged_fail h _
    all_goals exact withInstance_tagged h (Reply.tagged_answer _ _ _)

theorem handleMessage_query (env : Env) (s : Process) (q : Query) :
    handleMessage env s.mgr s.conn q.req = ⟨s.ask q, s.mgr, s.conn⟩ := by
  cases q <;> rfl

/-- The same devices in the same sections, whoever has them. -/
def SameDevices (l l' : List SectionData) : Prop :=
  l'.map (fun sec => (sec.numDevices, sec.deviceData)) =
    l.map (fun sec => (sec.numDevices, sec.deviceData))

theorem sameDevices_setAssigned (l : List SectionData) (i : Nat) (tid : BitVec 64) :
    SameDevices l (setAssigned l i tid) := by
  refine List.ext_getElem? fun j => ?_
  simp only [List.getElem?_map, setAssigned_getElem?, Option.map_map]
  congr 1
  funext sec
  simp only [Function.comp]
  split <;> rfl

/-- A message of any process leaves the devices of every section. -/
theorem SectionEffect.sameDevices {mgr mgr' : Mgr} {conn conn' : Conn}
    (h : SectionEffect env mgr conn mgr' conn') : SameDevices mgr.sectionData mgr'.sectionData := by
  cases h with
  | keep hsec => exact hsec ▸ rfl
  | refuse hsec => exact hsec ▸ rfl
  | take _ _ _ _ _ hsec => exact hsec ▸ sameDevices_setAssigned _ _ _
  | release _ _ _ hsec => exact hsec ▸ sameDevices_setAssigned _ _ _

theorem withSection_congr {l' : List SectionData} (h : SameDevices l l') (req : MsgReq)
    (size : Nat) (index : Int) (deviceNum : Nat) (answer : DeviceData → Reply) :
    withSection l' req size index (fun sec => withDevice sec deviceNum answer) =
      withSection l req size index (fun sec => withDevice sec deviceNum answer) := by
  have hget : (l'[index.toNat]?).map (fun sec => (sec.numDevices, sec.deviceData)) =
      (l[index.toNat]?).map (fun sec => (sec.numDevices, sec.deviceData)) := by
    rw [← List.getElem?_map, ← List.getElem?_map, h]
  unfold withSection
  split
  · rfl
  split
  · rfl
  cases hl : l[index.toNat]? with
  | none =>
    rw [hl, Option.map_none, Option.map_eq_none_iff] at hget
    rw [hget]
  | some sec =>
    rw [hl, Option.map_some] at hget
    obtain ⟨sec', hl', hpair⟩ := Option.map_eq_some_iff.mp hget
    obtain ⟨hnum, hdata⟩ := Prod.mk.inj hpair
    simp only [hl', withDevice, hnum, hdata]

/-- What a query is answered depends on the devices of the section and on its index. -/
theorem Process.ask_congr (h : SameDevices s.mgr.sectionData s'.mgr.sectionData)
    (hconn : s'.conn.index = s.conn.index) (q : Query) : s'.ask q = s.ask q := by
  cases q with
  | device accelId =>
    simp only [Process.ask, Query.type, handleGetDeviceInfo, hconn]
    exact withSection_congr h _ _ _ _ _
  | info type servNum accelId =>
    simp only [Process.ask, Query.type, handleGetInstanceInfo, hconn]
    exact withSection_congr h _ _ _ _ _
  | name type servNum accelId =>
    simp only [Process.ask, Query.type, handleGetInstanceName, hconn]
    exact withSection_congr h _ _ _ _ _

/-! ## The cache and the section -/

/-- A current response in the cache is the answer to every query it is used for. -/
def Process.Agrees (s : Process) : Prop :=
  s.current = true → s.cache.accelId ≠ uint32Max →
    ∀ q, s.cache.hits q = true → s.cache.rsp = (s.ask q).rsp

@[simp] theorem le16_mod (n : Nat) : le16 (n % 2 ^ 16) = le16 n := by
  have hlow : n % 2 ^ 16 % 2 ^ 8 = n % 2 ^ 8 := Nat.mod_mod_of_dvd n (by decide)
  have hhigh : n % 2 ^ 16 / 2 ^ 8 % 2 ^ 8 = n / 2 ^ 8 % 2 ^ 8 := by omega
  rw [le16, le16, hlow, hhigh]

theorem ServType.code_inj {a b : ServType} (h : a.code = b.code) : a = b := by
  cases a <;> cases b <;> first | rfl | exact absurd h (by decide)

theorem Cache.type_of_hits (h : c.hits q = true) : c.rsp.type = q.type.code := by
  cases q with
  | device accelId => exact (of_decide_eq_true h).2
  | info type servNum accelId => exact (of_decide_eq_true h).1.symm
  | name type servNum accelId => exact (of_decide_eq_true h).1.symm

theorem Cache.accelId_of_hits_instance {type : ServType} {servNum : Nat}
    (h : c.hits (instanceQuery pParamName type servNum accelId) = true) : c.accelId = accelId := by
  unfold instanceQuery at h
  split at h
  · exact (of_decide_eq_true h).2.2.2.symm
  · exact (of_decide_eq_true h).2.2.2.symm

theorem Cache.accelId_of_hits {pSection : List Char}
    (hq : lookupQuery accelId pSection pParamName = some q) (h : c.hits q = true) :
    c.accelId = accelId := by
  unfold lookupQuery at hq
  dsimp only at hq
  split at hq
  · cases hq
    exact (of_decide_eq_true h).1.symm
  split at hq
  · split at hq
    · cases hq
      exact Cache.accelId_of_hits_instance h
    split at hq
    · cases hq
      exact Cache.accelId_of_hits_instance h
    · exact absurd hq (by simp)
  · exact absurd hq (by simp)

/-- After a query the cache answers only lookups that would make the same request. -/
theorem Cache.req_of_remember {q' : Query} (htype : c.rsp.type = q.type.code)
    (h : (c.remember q).hits q' = true) : q'.type = q.type ∧ q'.req = q.req := by
  have htype' := Cache.type_of_hits h
  -- The response in the cache is one to a lookup of this kind.
  cases q <;> cases q' <;> simp [Cache.remember, htype, Query.type, MsgType.code] at htype'
  all_goals simp only [Cache.remember] at h
  case device.device =>
    obtain rfl := (of_decide_eq_true h).1
    exact ⟨rfl, rfl⟩
  all_goals
    obtain ⟨-, hcode, rfl, rfl⟩ := of_decide_eq_true h
    obtain rfl := ServType.code_inj hcode
    exact ⟨rfl, by simp only [Query.req, le16_mod]⟩

/-- A query is answered in this state: without a socket, or by a `read` that does not fail on a socket
    without older responses. -/
def Process.Answered (s : Process) (wire : Wire) : Prop :=
  s.sock = false ∨ wire ≠ .readFailed ∧ s.unread = []

/-- **A query that succeeds** fills the cache with the answer, or leaves it with another response. -/
theorem Process.qatmgrQuery_ok {wire : Wire} (h : s.qatmgrQuery env wire q = (true, s')) :
    ((s.ask q).ret = 0 ∧ s'.cache = s.cache.withRsp (s.ask q).rsp ∧ ∀ q', s'.ask q' = s.ask q') ∨
      (s'.current = false ∧ ¬s.Answered wire) := by
  unfold Process.qatmgrQuery at h
  simp only [handleMessage_query] at h
  split at h
  · obtain ⟨hret, rfl⟩ := Prod.mk.inj h
    exact .inl ⟨of_decide_eq_true hret, rfl, fun _ => rfl⟩
  next hsock =>
  have hread {s₁ : Process} {queue : List MsgRsp} (hne : s.unread ≠ [])
      (hs : s₁.readRsp q queue = (true, s')) (hsame : s₁.unread = s.unread) :
      s'.current = false ∧ ¬s.Answered wire := by
    unfold Process.readRsp at hs
    split at hs
    · exact absurd (Prod.mk.inj hs).1 (by simp)
    · obtain ⟨-, rfl⟩ := Prod.mk.inj hs
      exact ⟨by simp [hsame, hne], fun hans => hans.elim hsock fun hans => hne hans.2⟩
  cases wire with
  | notSent => exact absurd (Prod.mk.inj h).1 (by simp)
  | closed =>
    by_cases hne : s.unread = []
    · rw [hne] at h
      exact absurd (Prod.mk.inj h).1 (by simp)
    · exact .inr (hread hne h rfl)
  | delivered =>
    by_cases hne : s.unread = []
    · rw [hne, List.nil_append] at h
      obtain ⟨haccepted, rfl⟩ := Prod.mk.inj h
      exact .inl ⟨(s.ask_tagged q).mpr (of_decide_eq_true haccepted).2, rfl, fun _ => rfl⟩
    · exact .inr (hread hne h rfl)
  | readFailed =>
    obtain ⟨-, rfl⟩ := Prod.mk.inj h
    exact .inr ⟨rfl, fun hans => hans.elim hsock fun hans => hans.1 rfl⟩

/-- A lookup: answered from the cache, by a query, with another response, or not at all. -/
theorem Process.cfgGetParamValue_cases (s : Process) (env : Env) (wire : Wire) (accelId : Nat)
    (pSection pParamName : List Char) :
    let r := s.cfgGetParamValue env wire accelId pSection pParamName
    (r.1 = none ∧ (r.2 = s ∨ r.2.cache.accelId = uint32Max)) ∨
      ∃ q, lookupQuery accelId pSection pParamName = some q ∧
        (s.cache.hits q = true ∧ r = (q.value pParamName s.cache.rsp, s) ∨
          s.cache.hits q = false ∧ ((s.ask q).ret = 0 ∧ r.1 = q.value pParamName (s.ask q).rsp ∧
              r.2.cache = (s.cache.withRsp (s.ask q).rsp).remember q ∧ (∀ q', r.2.ask q' = s.ask q') ∨
            r.2.current = false ∧ ¬s.Answered wire)) := by
  dsimp only
  unfold Process.cfgGetParamValue
  split
  · exact .inl ⟨rfl, .inl rfl⟩
  next q hq =>
  split
  · next hhit => exact .inr ⟨q, hq, .inl ⟨hhit, rfl⟩⟩
  · next hmiss =>
    dsimp only
    split
    · exact .inl ⟨rfl, .inr rfl⟩
    · next hok =>
      refine .inr ⟨q, hq, .inr ⟨by simpa using hmiss, ?_⟩⟩
      rcases Process.qatmgrQuery_ok (Prod.ext (by simpa using hok) rfl) with
        ⟨hret, hcache, hask⟩ | hother
      · exact .inl ⟨hret, by rw [hcache]; rfl, by rw [hcache], hask⟩
      · exact .inr hother

theorem Process.Agrees.lookup (h : s.Agrees) (env : Env) (wire : Wire) (accelId : Nat)
    (pSection pParamName : List Char) :
    (s.cfgGetParamValue env wire accelId pSection pParamName).2.Agrees := by
  rcases s.cfgGetParamValue_cases env wire accelId pSection pParamName with
    ⟨-, hs | hmax⟩ | ⟨q, -, ⟨-, hr⟩ | ⟨-, ⟨hret, -, hcache, hask⟩ | ⟨hother, -⟩⟩⟩
  · exact hs.symm ▸ h
  · exact fun _ hne => absurd hmax hne
  · exact hr.symm ▸ h
  · intro _ _ q' hhit
    rw [hcache] at hhit ⊢
    obtain ⟨htype, hreq⟩ := Cache.req_of_remember ((s.ask_tagged q).mp hret) hhit
    have hsame : s.ask q' = s.ask q := by simp only [Process.ask, htype, hreq]
    have hrsp : ((s.cache.withRsp (s.ask q).rsp).remember q).rsp = (s.ask q).rsp := by
      cases q <;> rfl
    rw [hask, hsame, hrsp]
  · exact fun hcurrent => absurd (hother.symm.trans hcurrent) (by simp)

/-- **The cache agrees with the section**, in every run of the process. -/
theorem agrees_of_reachable (h : client.Reachable s) : s.Agrees := by
  refine System.ReachableBy.invariant Process.Agrees (fun s hinit => ?_)
    (fun s e s' hs _ hstep => ?_) h
  · have hcache : s.cache = Cache.initial := hinit
    exact fun _ hne => absurd (by rw [hcache]; rfl) hne
  · cases e with
    | lookup env wire accelId pSection pParamName =>
      obtain ⟨-, hstep⟩ := Option.ite_none_right_eq_some.mp hstep
      exact Option.some.inj hstep ▸ hs.lookup env wire accelId pSection pParamName
    | stop env name =>
      cases hstep
      exact fun hcurrent => absurd hcurrent (by simp [Process.userProcessStop, Process.qatmgrClose])
    | start sock mgr conn env wire nameIn nameLen =>
      cases hstep
      have hcurrent : (s.userProcessToStart sock mgr conn env wire nameIn nameLen).current =
          false := by
        unfold Process.userProcessToStart
        dsimp only
        split
        · rfl
        split
        · split <;> rfl
        · rfl
      exact fun htrue => absurd htrue (by simp [hcurrent])
    | other env conn req =>
      cases hstep
      intro hcurrent hne q hhit
      have hask := @Process.ask_congr s { s with mgr := (handleMessage env s.mgr conn req).mgr }
        (handleMessage_effect env s.mgr conn req).sameDevices rfl q
      rw [hask]
      exact hs hcurrent hne q hhit

/-- The lookup is not answered with a response that was received from another section or for another
    query: not from the cache, and not after a `read` that fails or has failed. -/
def Process.HitsCurrent (s : Process) (wire : Wire) (accelId : Nat) (pSection pParamName : List Char) :
    Prop :=
  ∀ q ∈ lookupQuery accelId pSection pParamName,
    if s.cache.hits q = true then s.current = true else s.Answered wire

/-- **Lookups are fresh**: after any run, a lookup that is not answered with an older response returns,
    if it succeeds, what a query would give. -/
theorem lookup_fresh {s : Process} (h : client.Reachable s) {env : Env} {wire : Wire}
    {accelId : Nat} {pSection pParamName : List Char} {v : ParamValue}
    (hdevice : accelId < adfMaxDevices) (hhits : s.HitsCurrent wire accelId pSection pParamName)
    (hv : (s.cfgGetParamValue env wire accelId pSection pParamName).1 = some v) :
    s.freshValue accelId pSection pParamName = some v := by
  have hagrees := agrees_of_reachable h
  rcases s.cfgGetParamValue_cases env wire accelId pSection pParamName with
    ⟨hnone, -⟩ | ⟨q, hq, ⟨hhit, hr⟩ | ⟨hmiss, ⟨hret, hr, -⟩ | ⟨-, hunanswered⟩⟩⟩
  · exact absurd (hnone.symm.trans hv) (by simp)
  · have hcurrent : s.current = true := by simpa [hhit] using hhits q hq
    have hne : s.cache.accelId ≠ uint32Max := by
      rw [Cache.accelId_of_hits hq hhit]
      simp only [adfMaxDevices, uint32Max] at hdevice ⊢
      omega
    have hrsp := hagrees hcurrent hne q hhit
    have hret : (s.ask q).ret = 0 := (s.ask_tagged q).mpr (hrsp ▸ Cache.type_of_hits hhit)
    rw [hr, hrsp] at hv
    rw [Process.freshValue, hq, Option.bind_some, if_pos hret]
    exact hv
  · rw [hr] at hv
    rw [Process.freshValue, hq, Option.bind_some, if_pos hret]
    exact hv
  · exact absurd (by simpa [hmiss] using hhits q hq) hunanswered

/-! ## Two sections -/

/-- A section with one device, which has `n` compression instances; its name ends in `digit`. -/
def sampleSection (digit : UInt8) (hdigit : digit ≠ 0) (n : Int) (tid : BitVec 64) :
    SectionData where
  sectionName := ⟨[83, 83, 76, digit], by simp [hdigit.symm], (by decide : 4 < 256)⟩
  assignedTid := tid
  numDevices := 1
  deviceData := fun _ => { (default : DeviceData) with numDcInst := n }

/-- Two sections; `tid` is the thread that has the first one. -/
def sampleSections (tid : BitVec 64) : Mgr where
  sectionData := [sampleSection 48 (by decide) 1 tid, sampleSection 49 (by decide) 2 0]
  pidKnown := false
  numPfs := -1
  pfData := default

def sampleEnv : Env := { lockOk := true, mallocOk := true, numPfs := 0, pfData := default }

/-- A process before it has a section. -/
def sampleProcess : Process where
  sock := false
  mgr := { sampleSections 0 with sectionData := [] }
  conn := ⟨7, none, -1⟩
  cache := Cache.initial
  unread := []
  current := true

def sampleSsl : CString qatmgrMaxStrlen := ⟨[83, 83, 76], by decide, by decide⟩

/-- The process asks for a section while `tid` has the first one. -/
def sampleStart (tid : BitVec 64) : ProcessEvent :=
  .start true (sampleSections tid) ⟨7, none, -1⟩ sampleEnv .delivered sampleSsl 64

/-- A lookup of the number of compression instances of device 0. -/
def sampleLookup : ProcessEvent :=
  .lookup sampleEnv .delivered 0 "SSL".toList "NumberDcInstances".toList

/-- A first lookup, and the same again. -/
theorem lookup_fresh_twice :
    ∃ s, client.exec sampleProcess [sampleStart 0, sampleLookup] = some s ∧
      (s.cfgGetParamValue sampleEnv .delivered 0 "SSL".toList "NumberDcInstances".toList).1 =
        some (.decimal 1) ∧
      s.freshValue 0 "SSL".toList "NumberDcInstances".toList = some (.decimal 1) := by
  have hrun : (client.exec sampleProcess [sampleStart 0, sampleLookup]).any fun s =>
      s.current = true ∧ s.unread.length = 0 ∧ (s.cfgGetParamValue sampleEnv .delivered 0
        "SSL".toList "NumberDcInstances".toList).1 = some (.decimal 1) := by decide +kernel
  obtain ⟨s, hexec, hcurrent, hunread, hv⟩ := System.exists_exec hrun
  have hreach := System.reachable_of_exec sampleProcess _ rfl hexec
  refine ⟨s, hexec, hv, lookup_fresh hreach (by decide) (fun q _ => ?_) hv⟩
  split
  · exact hcurrent
  · exact .inr ⟨by decide, List.length_eq_zero_iff.mp hunread⟩

/-- The process gives its section back and gets the second one, since another process has taken the
    first in the meantime. The number of instances is still that of the first section. -/
theorem lookup_stale :
    ∃ s, client.Reachable s ∧
      (s.cfgGetParamValue sampleEnv .delivered 0 "SSL".toList "NumberDcInstances".toList).1 =
        some (.decimal 1) ∧
      s.freshValue 0 "SSL".toList "NumberDcInstances".toList = some (.decimal 2) :=
  System.exists_reachable [sampleStart 0, sampleLookup,
    .stop sampleEnv (sampleSection 48 (by decide) 1 0).sectionName, sampleStart 9]
    (s := sampleProcess) rfl (by decide +kernel)

end Qatlib.QatMgr
