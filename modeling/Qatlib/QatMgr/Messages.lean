import Mathlib.Algebra.Group.Int.Defs
import Mathlib.Algebra.Group.Nat.Defs
import Mathlib.Data.List.TakeWhile
import Mathlib.Order.Basic

set_option autoImplicit false

/-! # Messages and query handlers of qatmgr

The data that `qatmgr` keeps for its clients (`qat_mgr.h`), the request and response messages, and
the handlers of `qat_mgr_lib.c` that only read that data. A request carries its payload as the
bytes read from the socket: the members of the C union are decodings of the same bytes. A response
records the union member that the handler has written. Log output and `dump_message` are left out:
they read messages only. -/

namespace Qatlib.QatMgr

/-! ## Strings in fixed-size arrays -/

/-- A C string held in a `char` array of `cap` bytes: no NUL among its bytes, and room for the
    terminating one. -/
structure CString (cap : Nat) where
  bytes : List UInt8
  noNul : (0 : UInt8) ∉ bytes
  fits : bytes.length < cap
deriving DecidableEq

namespace CString

/-- `ICP_ARRAY_STRLEN_SANITIZE`: the string of a `char` array whose last byte is forced to NUL when
    no NUL was found. -/
def sanitize (cap : Nat) (hcap : 0 < cap) (buf : List UInt8) : CString cap where
  bytes := (buf.take (cap - 1)).takeWhile (fun b => b ≠ 0)
  noNul := fun h => by simpa using List.mem_takeWhile_imp h
  fits := by
    have htake := List.length_take_le (cap - 1) buf
    have hwhile := (List.takeWhile_prefix (l := buf.take (cap - 1)) (fun b => b ≠ 0)).length_le
    omega

/-- `ICP_STRLCPY`: copy as much as the destination array can hold. -/
def strlcpy {cap : Nat} (dst : Nat) (hdst : 0 < dst) (src : CString cap) : CString dst where
  bytes := src.bytes.take (dst - 1)
  noNul := fun h => src.noNul (List.mem_of_mem_take h)
  fits := by
    have h := List.length_take_le (dst - 1) src.bytes
    omega

/-- The length `strlen` reports. -/
def strlen {cap : Nat} (s : CString cap) : Nat := s.bytes.length

theorem ext_bytes {cap : Nat} {s t : CString cap} (h : s.bytes = t.bytes) : s = t := by
  cases s
  cases t
  simpa using h

/-- A copy into an array of the same size is the string itself. -/
@[simp] theorem strlcpy_self {cap : Nat} (hcap : 0 < cap) (s : CString cap) :
    strlcpy cap hcap s = s :=
  ext_bytes (List.take_of_length_le (Nat.le_sub_one_of_lt s.fits))

instance (n : Nat) : Inhabited (CString (n + 1)) := ⟨⟨[], by simp, by simp⟩⟩

end CString

/-- `QATMGR_MAX_STRLEN`. -/
abbrev qatmgrMaxStrlen : Nat := 256

theorem qatmgrMaxStrlen_pos : 0 < qatmgrMaxStrlen := by decide

/-- `DEVICE_NAME_SIZE`. -/
abbrev deviceNameSize : Nat := 64

/-- Conversion of an `int` to `uint16_t`. -/
def u16 (x : Int) : Nat := (x % 2 ^ 16).toNat

/-- Conversion of a `uint64_t` to `uint32_t`. -/
def u32 (x : Nat) : Nat := x % 2 ^ 32

/-! ## Configuration data -/

/-- `struct qatmgr_instance_data`. -/
structure InstanceData where
  name : CString qatmgrMaxStrlen
  accelid : Int
  bankNumber : Int
  ringTx : Int
  ringRx : Int
  isPolled : Int
  numConcurrentRequests : Int
  coreAffinity : Int
deriving Inhabited

/-- `struct qatmgr_cy_instance_data`. -/
structure CyInstanceData where
  asym : InstanceData
  sym : InstanceData
deriving Inhabited

/-- `struct qatmgr_device_data`. -/
structure DeviceData where
  deviceId : CString deviceNameSize
  deviceFile : CString deviceNameSize
  groupFd : Int
  name : CString deviceNameSize
  node : Int
  maxBanks : Int
  maxRingsPerBank : Int
  arbMask : Int
  accelCapabilities : Nat
  extendedCapabilities : Nat
  deviceType : Int
  pciId : Nat
  pkgId : Nat
  services : Nat
  numCyInst : Int
  numSymInst : Int
  numAsymInst : Int
  numDcInst : Int
  dcInstanceData : Nat → InstanceData
  cyInstanceData : Nat → CyInstanceData
deriving Inhabited

/-- `struct qatmgr_section_data`; `assigned_tid` is a `pthread_t`. -/
structure SectionData where
  sectionName : CString qatmgrMaxStrlen
  assignedTid : BitVec 64
  numDevices : Nat
  deviceData : Nat → DeviceData
deriving Inhabited

/-- `icp_accel_pf_info_t`. -/
structure PfInfo where
  pkgId : Nat
  domain : Nat
  bdf : Nat
  deviceGen : List UInt8
deriving Inhabited

/-! ## Messages -/

/-- The message types of `qat_mgr.h`. -/
inductive MsgType where
  | sectionGet | sectionPut | numDevices | deviceInfo | deviceId | instanceInfo | instanceName
  | vfioFile | numPfDevs | pfDevInfo | bad
deriving DecidableEq

/-- The numeric code of a message type. -/
def MsgType.code : MsgType → Nat
  | .sectionGet => 1
  | .sectionPut => 2
  | .numDevices => 3
  | .deviceInfo => 4
  | .deviceId => 5
  | .instanceInfo => 7
  | .instanceName => 8
  | .vfioFile => 9
  | .numPfDevs => 10
  | .pfDevInfo => 11
  | .bad => 999

/-- `THIS_LIB_VERSION`: major number 24, minor number 2. -/
def thisLibVersion : Nat := 24 * 2 ^ 8 + 2

/-- `sizeof(struct qatmgr_msg_hdr)`. -/
def sizeofHdr : Nat := 8

/-- `struct qatmgr_msg_req`: the header fields the handlers read and the bytes of the union. -/
structure MsgReq where
  len : Nat
  version : Nat
  type : Nat
  payload : List UInt8

section

variable (req : MsgReq)

/-- A little-endian 16-bit field of the payload. -/
def MsgReq.field16 (offset : Nat) : Nat :=
  (req.payload.getD offset 0).toNat + 2 ^ 8 * (req.payload.getD (offset + 1) 0).toNat

/-- The union member `name`, as `ICP_ARRAY_STRLEN_SANITIZE` leaves it. -/
def MsgReq.name : CString qatmgrMaxStrlen :=
  CString.sanitize qatmgrMaxStrlen qatmgrMaxStrlen_pos req.payload

/-- The union member `device_num`. -/
def MsgReq.deviceNum : Nat := req.field16 0

/-- `inst.type`, an `enum serv_type` of four bytes. -/
def MsgReq.instType : Nat := req.field16 0 + 2 ^ 16 * req.field16 2

/-- `inst.num`. -/
def MsgReq.instNum : Nat := req.field16 4

/-- `inst.device_num`. -/
def MsgReq.instDeviceNum : Nat := req.field16 6

end

/-- `struct ring_info`. -/
structure RingInfo where
  accelid : Nat
  bankNumber : Nat
  isPolled : Nat
  coreAffinity : Nat
  numConcurrentRequests : Nat
  ringTx : Nat
  ringRx : Nat
deriving DecidableEq

/-- The response member `device_info`. -/
structure DeviceInfo where
  deviceNum : Nat
  deviceType : Nat
  devicePciId : Nat
  capabilityMask : Nat
  extendedCapabilities : Nat
  maxBanks : Nat
  maxRingsPerBank : Nat
  arbMask : Nat
  services : Nat
  pkgId : Nat
  nodeId : Nat
  numCyInstances : Nat
  numDcInstances : Nat
  deviceName : CString deviceNameSize
deriving DecidableEq

/-- The union member a handler has written into the response. -/
inductive RspPayload where
  | empty
  | errorText (text : String)
  | name (name : CString qatmgrMaxStrlen)
  | vfioFile (fd : Int) (name : CString qatmgrMaxStrlen)
  | numDevices (n : Nat)
  | deviceInfo (info : DeviceInfo)
  | deviceId (id : CString qatmgrMaxStrlen)
  | instanceDc (dc : RingInfo)
  | instanceCy (sym asym : RingInfo) (isPolled : Int)
  | instanceSym (sym : RingInfo)
  | instanceAsym (asym : RingInfo)
  | pfInfo (info : PfInfo)

/-- `struct qatmgr_msg_rsp`. -/
structure MsgRsp where
  len : Nat
  version : Nat
  type : Nat
  payload : RspPayload

/-- What a handler leaves behind: its return value and the response. -/
structure Reply where
  ret : Int
  rsp : MsgRsp

section

variable (text : String) (type : MsgType) (payloadSize : Nat) (payload : RspPayload)

/-- `build_msg_header`. -/
def buildMsgHeader : MsgRsp where
  len := u16 (sizeofHdr + payloadSize)
  version := thisLibVersion
  type := type.code
  payload := payload

/-- `err_msg`: the response carries a text instead of data. -/
def errMsg : MsgRsp := buildMsgHeader .bad (text.length + 1) (.errorText text)

/-- The exit of a handler that answers with an error text. -/
def Reply.fail : Reply where
  ret := -1
  rsp := errMsg text

/-- The exit of a handler that answers with data. -/
def Reply.answer : Reply where
  ret := 0
  rsp := buildMsgHeader type payloadSize payload

end

/-! ## Query handlers -/

section

variable (sectionData : List SectionData) (req : MsgReq) (index : Int)

/-- The checks every handler of a section query starts with: the length the message type
    prescribes, then the section index of the connection. -/
def withSection (payloadSize : Nat) (index : Int) (answer : SectionData → Reply) : Reply :=
  if req.len ≠ sizeofHdr + payloadSize then .fail "Inconsistent length"
  else if index < 0 then .fail "Invalid index"
  else
    match sectionData[index.toNat]? with
    | none => .fail "Invalid index"
    | some sec => answer sec

/-- The device number check of the section queries. -/
def withDevice (sec : SectionData) (deviceNum : Nat) (answer : DeviceData → Reply) : Reply :=
  if deviceNum ≥ sec.numDevices then .fail "Invalid device number"
  else answer (sec.deviceData deviceNum)

/-- `handle_get_num_devices`. -/
def handleGetNumDevices : Reply :=
  withSection sectionData req 0 index fun sec =>
    .answer .numDevices 2 (.numDevices (u16 sec.numDevices))

/-- `handle_get_device_info`. -/
def handleGetDeviceInfo : Reply :=
  withSection sectionData req 2 index fun sec =>
    withDevice sec req.deviceNum fun dev =>
      .answer .deviceInfo 96 (.deviceInfo
        { deviceNum := req.deviceNum
          deviceType := u16 dev.deviceType
          devicePciId := dev.pciId
          capabilityMask := u32 dev.accelCapabilities
          extendedCapabilities := u32 dev.extendedCapabilities
          maxBanks := u16 dev.maxBanks
          maxRingsPerBank := u16 dev.maxRingsPerBank
          arbMask := u16 dev.arbMask
          services := dev.services
          pkgId := dev.pkgId
          nodeId := u16 dev.node
          numCyInstances := u16 dev.numCyInst
          numDcInstances := u16 dev.numDcInst
          deviceName := dev.name.strlcpy deviceNameSize (by decide) })

/-- `handle_get_device_id`. -/
def handleGetDeviceId : Reply :=
  withSection sectionData req 2 index fun sec =>
    withDevice sec req.deviceNum fun dev =>
      let id := dev.deviceId.strlcpy qatmgrMaxStrlen qatmgrMaxStrlen_pos
      .answer .deviceId (id.strlen + 1) (.deviceId id)

/-- `handle_get_vfio_name`; the file descriptor is stored as an `int16_t`. -/
def handleGetVfioName : Reply :=
  withSection sectionData req 2 index fun sec =>
    withDevice sec req.deviceNum fun dev =>
      let name := dev.deviceFile.strlcpy qatmgrMaxStrlen qatmgrMaxStrlen_pos
      .answer .vfioFile (2 + name.strlen + 1) (.vfioFile (dev.groupFd.bmod (2 ^ 16)) name)

end

/-- `enum serv_type`. -/
inductive ServType where
  | dc | sym | asym | cy
deriving DecidableEq

/-- The instance types a query may name, by their bit codes. -/
def ServType.ofCode : Nat → Option ServType
  | 1 => some .dc
  | 2 => some .sym
  | 4 => some .asym
  | 6 => some .cy
  | _ => none

/-- `SERV_TYPE_ASYM` or `SERV_TYPE_ASYM_DC`: the services without symmetric crypto. -/
def asymOnly (services : Nat) : Bool := services == 4 || services == 5

/-- The instance number check of the instance queries, with the count and the text of the type. -/
def withInstance (instanceNum : Nat) (count : Int) (text : String) (answer : Reply) : Reply :=
  if (instanceNum : Int) ≥ count then .fail text else answer

/-- The reply of `handle_get_instance_name` for a name. -/
def instanceNameReply (name : CString qatmgrMaxStrlen) : Reply :=
  let copy := name.strlcpy qatmgrMaxStrlen qatmgrMaxStrlen_pos
  .answer .instanceName (copy.strlen + 1) (.name copy)

/-- `handle_get_instance_name`. -/
def handleGetInstanceName (sectionData : List SectionData) (req : MsgReq) (index : Int) : Reply :=
  withSection sectionData req 8 index fun sec =>
    withDevice sec req.instDeviceNum fun dev =>
      let n := req.instNum
      match ServType.ofCode req.instType with
      | some .dc =>
          withInstance n dev.numDcInst "Invalid DC instance number"
            (instanceNameReply (dev.dcInstanceData n).name)
      | some .cy =>
          withInstance n dev.numCyInst "Invalid CY instance number" (instanceNameReply
              (if asymOnly dev.services then (dev.cyInstanceData n).asym.name
              else (dev.cyInstanceData n).sym.name))
      | some .sym =>
          withInstance n dev.numSymInst "Invalid SYM instance number"
            (instanceNameReply (dev.cyInstanceData n).sym.name)
      | some .asym =>
          withInstance n dev.numAsymInst "Invalid ASYM instance number"
            (instanceNameReply (dev.cyInstanceData n).asym.name)
      | none => .fail "Unknown instance type"

/-- The `struct ring_info` of an instance. -/
def InstanceData.ringInfo (inst : InstanceData) : RingInfo where
  accelid := u16 inst.accelid
  bankNumber := u16 inst.bankNumber
  isPolled := u16 inst.isPolled
  coreAffinity := u16 inst.coreAffinity
  numConcurrentRequests := u16 inst.numConcurrentRequests
  ringTx := u16 inst.ringTx
  ringRx := u16 inst.ringRx

/-- `handle_get_instance_info`. The response has the size of the whole union member whichever part
    of it is written. -/
def handleGetInstanceInfo (sectionData : List SectionData) (req : MsgReq) (index : Int) : Reply :=
  withSection sectionData req 8 index fun sec =>
    withDevice sec req.instDeviceNum fun dev =>
      let n := req.instNum
      let cy := dev.cyInstanceData n
      match ServType.ofCode req.instType with
      | some .dc =>
          withInstance n dev.numDcInst "Invalid DC instance number"
            (.answer .instanceInfo 32 (.instanceDc (dev.dcInstanceData n).ringInfo))
      | some .cy =>
          withInstance n dev.numCyInst "Invalid CY instance number"
            (.answer .instanceInfo 32 (.instanceCy cy.sym.ringInfo cy.asym.ringInfo
              (if asymOnly dev.services then cy.asym.isPolled else cy.sym.isPolled)))
      | some .sym =>
          withInstance n dev.numSymInst "Invalid SYM instance number"
            (.answer .instanceInfo 32 (.instanceSym cy.sym.ringInfo))
      | some .asym =>
          withInstance n dev.numAsymInst "Invalid ASYM instance number"
            (.answer .instanceInfo 32 (.instanceAsym cy.asym.ringInfo))
      | none => .fail "Unknown instance type"

end Qatlib.QatMgr
