import Mathlib.Algebra.Group.Nat.Defs
import Qatlib.Lib.System

set_option autoImplicit false

/-! # Block messages between a VF and its PF

A virtual function (VF) reads a block message of the physical function (PF) byte by byte, over a pair
of registers (`adf_pfvf_proto.c`). Each side writes its messages to a register of its own with the
interrupt bit set, and the reader clears the bit. The VF asks for a byte, waits for the bit of its own
register to be cleared, sleeps, and takes whatever message is then in the other register for the
answer.

The VF is modelled as a machine whose steps are its accesses to the registers, so that the PF can act
between any two of them. The PF is known by what it may do: take a request that is there, answer any
request it has taken, at any time and any number of times, and write a notification. -/

namespace Qatlib.Pfvf

/-! ## Messages -/

/-- `struct pfvf_message`. -/
structure PfvfMessage where
  type : Nat
  data : Nat
deriving DecidableEq

/-- The checks of `adf_send_vf2pf_msg` against the masks of the device. -/
def PfvfMessage.inRange (m : PfvfMessage) : Bool :=
  decide (m.type &&& 0x3f = m.type ∧ m.data &&& 0xffffff = m.data)

/-- The register value that carries a message, with the interrupt and the origin bit. -/
def PfvfMessage.raw (m : PfvfMessage) : Nat := (m.type <<< 2) ||| (m.data <<< 8) ||| 3

/-- The interrupt bit of a register. -/
def interrupt (val : Nat) : Bool := decide (val &&& 1 ≠ 0)

/-- A register value with the interrupt bit cleared. -/
def acknowledged (val : Nat) : Nat := val &&& 0xfffffffe

/-- The message in a register value. -/
def PfvfMessage.ofRaw (val : Nat) : PfvfMessage := ⟨(val >>> 2) &&& 0x3f, (val >>> 8) &&& 0xffffff⟩

/-- The request that `adf_vf2pf_blkmsg_data_req` builds: one of three layouts, by the type of the
    block message. There is none for an invalid type or byte. -/
def blkmsgDataReq (type byte : Nat) (isCrc : Bool) : Option PfvfMessage :=
  if type ≤ 15 then
    if byte ≥ 30 + 2 then none else some ⟨0x09, type + byte * 16 + isCrc.toNat * 512⟩
  else if type ≤ 23 then
    if byte ≥ 62 + 2 then none else some ⟨0x08, (type - 16) + byte * 8 + isCrc.toNat * 512⟩
  else if type ≤ 27 then
    if byte ≥ 126 + 2 then none else some ⟨0x07, (type - 24) + byte * 4 + isCrc.toNat * 512⟩
  else none

/-- The kind of a `pf2vf_blkmsg_resp`. -/
def PfvfMessage.blkResp (m : PfvfMessage) : Nat := m.data % 4

/-- The byte in a `pf2vf_blkmsg_resp`. -/
def PfvfMessage.respData (m : PfvfMessage) : UInt8 := UInt8.ofNat (m.data / 4)

/-! ## Checksum -/

/-- `pfvf_crc8_table`. -/
def pfvfCrc8Table : List UInt8 :=
  [
  0x00, 0x97, 0xb9, 0x2e, 0xe5, 0x72, 0x5c, 0xcb, 0x5d, 0xca, 0xe4, 0x73, 0xb8, 0x2f, 0x01, 0x96,
  0xba, 0x2d, 0x03, 0x94, 0x5f, 0xc8, 0xe6, 0x71, 0xe7, 0x70, 0x5e, 0xc9, 0x02, 0x95, 0xbb, 0x2c,
  0xe3, 0x74, 0x5a, 0xcd, 0x06, 0x91, 0xbf, 0x28, 0xbe, 0x29, 0x07, 0x90, 0x5b, 0xcc, 0xe2, 0x75,
  0x59, 0xce, 0xe0, 0x77, 0xbc, 0x2b, 0x05, 0x92, 0x04, 0x93, 0xbd, 0x2a, 0xe1, 0x76, 0x58, 0xcf,
  0x51, 0xc6, 0xe8, 0x7f, 0xb4, 0x23, 0x0d, 0x9a, 0x0c, 0x9b, 0xb5, 0x22, 0xe9, 0x7e, 0x50, 0xc7,
  0xeb, 0x7c, 0x52, 0xc5, 0x0e, 0x99, 0xb7, 0x20, 0xb6, 0x21, 0x0f, 0x98, 0x53, 0xc4, 0xea, 0x7d,
  0xb2, 0x25, 0x0b, 0x9c, 0x57, 0xc0, 0xee, 0x79, 0xef, 0x78, 0x56, 0xc1, 0x0a, 0x9d, 0xb3, 0x24,
  0x08, 0x9f, 0xb1, 0x26, 0xed, 0x7a, 0x54, 0xc3, 0x55, 0xc2, 0xec, 0x7b, 0xb0, 0x27, 0x09, 0x9e,
  0xa2, 0x35, 0x1b, 0x8c, 0x47, 0xd0, 0xfe, 0x69, 0xff, 0x68, 0x46, 0xd1, 0x1a, 0x8d, 0xa3, 0x34,
  0x18, 0x8f, 0xa1, 0x36, 0xfd, 0x6a, 0x44, 0xd3, 0x45, 0xd2, 0xfc, 0x6b, 0xa0, 0x37, 0x19, 0x8e,
  0x41, 0xd6, 0xf8, 0x6f, 0xa4, 0x33, 0x1d, 0x8a, 0x1c, 0x8b, 0xa5, 0x32, 0xf9, 0x6e, 0x40, 0xd7,
  0xfb, 0x6c, 0x42, 0xd5, 0x1e, 0x89, 0xa7, 0x30, 0xa6, 0x31, 0x1f, 0x88, 0x43, 0xd4, 0xfa, 0x6d,
  0xf3, 0x64, 0x4a, 0xdd, 0x16, 0x81, 0xaf, 0x38, 0xae, 0x39, 0x17, 0x80, 0x4b, 0xdc, 0xf2, 0x65,
  0x49, 0xde, 0xf0, 0x67, 0xac, 0x3b, 0x15, 0x82, 0x14, 0x83, 0xad, 0x3a, 0xf1, 0x66, 0x48, 0xdf,
  0x10, 0x87, 0xa9, 0x3e, 0xf5, 0x62, 0x4c, 0xdb, 0x4d, 0xda, 0xf4, 0x63, 0xa8, 0x3f, 0x11, 0x86,
  0xaa, 0x3d, 0x13, 0x84, 0x4f, 0xd8, 0xf6, 0x61, 0xf7, 0x60, 0x4e, 0xd9, 0x12, 0x85, 0xab, 0x3c
  ]

/-- `adf_pfvf_crc`. -/
def pfvfCrc (start : UInt8) (bytes : List UInt8) : UInt8 :=
  bytes.foldl (fun crc b => pfvfCrc8Table.getD (crc ^^^ b).toNat 0) start

/-- `adf_pfvf_calc_blkmsg_crc`. -/
def calcBlkmsgCrc (bytes : List UInt8) : UInt8 := pfvfCrc 0xff bytes

/-! ## The VF -/

/-- The part of the block message that is asked for. -/
inductive Awaited where
  | version
  | length
  | payload (index msgLen : Nat)
  | crc (msgLen : Nat)
deriving DecidableEq

/-- The byte number of a request, an `uint8_t`. -/
def Awaited.byte : Awaited → Nat
  | .version => 0
  | .length => 1
  | .payload index _ => index % 256
  | .crc msgLen => (msgLen % 256 + 255) % 256

/-- Whether the checksum is asked for. -/
def Awaited.isCrc : Awaited → Bool
  | .crc _ => true
  | _ => false

/-- Where `adf_send_vf2pf_req` is; the first number counts its retries. -/
inductive Io where
  /-- About to write the request. -/
  | send (retries : Nat)
  /-- Waiting for the acknowledgement. -/
  | poll (retries count : Nat)
  /-- About to read the answer. -/
  | recv (retries : Nat)
  /-- About to acknowledge the value that was read. -/
  | clear (retries val : Nat)
  /-- Returned, with a status. -/
  | done (ret : Int)
deriving DecidableEq

/-- A call of `adf_send_vf2pf_blkmsg_req`. -/
structure Vf where
  type : Nat
  buffer : List UInt8
  bufferLen : Nat
  awaited : Awaited
  io : Io

/-- The request for what is awaited. -/
def Vf.request (vf : Vf) : Option PfvfMessage :=
  blkmsgDataReq vf.type vf.awaited.byte vf.awaited.isCrc

/-- Begin `adf_vf2pf_blkmsg_data_req`. -/
def Vf.ask (vf : Vf) (awaited : Awaited) : Vf :=
  match blkmsgDataReq vf.type awaited.byte awaited.isCrc with
  | none => { vf with awaited := awaited, io := .done (-22) }
  | some _ => { vf with awaited := awaited, io := .send 0 }

/-- The call with its checks of the type and the length. -/
def Vf.start (type : Nat) (buffer : List UInt8) : Vf :=
  let vf : Vf := ⟨type, buffer, buffer.length, .version, .done (-22)⟩
  if type > 27 then vf
  else if buffer.length < 2 then vf
  else vf.ask .version

/-- The loop over the payload, and the checksum after it. -/
def Vf.askPayload (vf : Vf) (index msgLen : Nat) : Vf :=
  if index < msgLen then vf.ask (.payload index msgLen) else vf.ask (.crc msgLen)

/-- What the call does with the byte of an answer. -/
def Vf.accept (vf : Vf) (data : UInt8) : Vf :=
  match vf.awaited with
  | .version =>
      let vf := { vf with buffer := vf.buffer.set 0 data }
      if data = 0 then { vf with io := .done (-14) } else vf.ask .length
  | .length =>
      let vf := { vf with buffer := vf.buffer.set 1 data }
      if data = 0 then { vf with io := .done (-14) }
      else
        let msgLen := 2 + data.toNat
        vf.askPayload 2 (if vf.bufferLen < msgLen then vf.bufferLen else msgLen)
  | .payload index msgLen =>
      let vf := { vf with buffer := vf.buffer.set index data }
      vf.askPayload (index + 1) msgLen
  | .crc msgLen =>
      if calcBlkmsgCrc (vf.buffer.take (msgLen % 256)) = data then
        { vf with bufferLen := msgLen, io := .done 0 }
      else { vf with io := .done (-5) }

/-- What `adf_vf2pf_blkmsg_data_req` does with a message; its type is not looked at. -/
def Vf.handle (vf : Vf) (m : PfvfMessage) : Vf :=
  if m.blkResp = 2 then { vf with io := .done (-5) } else vf.accept m.respData

/-- No message was there: another request, or the end. -/
def Vf.retry (vf : Vf) (retries : Nat) : Vf :=
  { vf with io := if retries < 5 then .send (retries + 1) else .done (-5) }

/-! ## The system -/

/-- The registers, the VF, and the requests that the PF has taken. -/
structure Channel where
  vf : Vf
  localCsr : Nat
  remoteCsr : Nat
  taken : List PfvfMessage

/-- One access of the VF to a register. -/
def Channel.vfStep (s : Channel) : Option Channel :=
  match s.vf.io with
  | .send retries =>
      match s.vf.request with
      | none => none
      | some req =>
          if req.inRange then
            some { s with vf := { s.vf with io := .poll retries 0 }, localCsr := req.raw }
          else some { s with vf := { s.vf with io := .done (-22) } }
  | .poll retries count =>
      some { s with
        vf := { s.vf with
          io := if interrupt s.localCsr then
              if count + 1 < 500 then .poll retries (count + 1) else .done (-5)
            else .recv retries } }
  | .recv retries =>
      if interrupt s.remoteCsr then
        some { s with vf := { s.vf with io := .clear retries s.remoteCsr } }
      else some { s with vf := s.vf.retry retries }
  | .clear retries val =>
      let m := PfvfMessage.ofRaw val
      some { s with
        remoteCsr := acknowledged val
        vf := if m.type ≠ 0 then s.vf.handle m else s.vf.retry retries }
  | .done _ => none

/-- The request that a message of a VF makes: the type of the block message, the byte and whether
    the checksum is asked for. -/
def PfvfMessage.blkmsgReq (m : PfvfMessage) : Option (Nat × Nat × Bool) :=
  match m.type with
  | 0x09 => some (m.data % 16, m.data / 16 % 32, decide (m.data / 512 % 2 = 1))
  | 0x08 => some (m.data % 8 + 16, m.data / 8 % 64, decide (m.data / 512 % 2 = 1))
  | 0x07 => some (m.data % 4 + 24, m.data / 4 % 128, decide (m.data / 512 % 2 = 1))
  | _ => none

/-- A block response. -/
def blkmsgResp (kind : Nat) (data : UInt8) : PfvfMessage := ⟨0x03, kind + data.toNat * 4⟩

/-- The answer of a PF that publishes the given block messages, to a block request: a byte, the
    checksum of the bytes up to a byte, or an error. -/
def pfAnswer (blocks : Nat → List UInt8) (m : PfvfMessage) : Option PfvfMessage :=
  m.blkmsgReq.map fun (type, byte, isCrc) =>
    match (blocks type)[byte]? with
    | none => blkmsgResp 2 (if (blocks type).isEmpty then 0 else 1)
    | some b =>
        if isCrc then blkmsgResp 1 (calcBlkmsgCrc ((blocks type).take (byte + 1)))
        else blkmsgResp 0 b

/-- An access of the VF, or an action of the PF. -/
inductive PfvfEvent where
  | vf
  | take
  | answer (m : PfvfMessage)
  | notify (m : PfvfMessage)

/-- One step. Notifications are restarting, fatal error and restarted. -/
def Channel.step (blocks : Nat → List UInt8) (s : Channel) : PfvfEvent → Option Channel
  | .vf => s.vfStep
  | .take =>
      if interrupt s.localCsr then
        some { s with
          localCsr := acknowledged s.localCsr
          taken := PfvfMessage.ofRaw s.localCsr :: s.taken }
      else none
  | .answer m =>
      if m ∈ s.taken then
        (pfAnswer blocks m).map fun a => { s with remoteCsr := a.raw }
      else none
  | .notify m =>
      if m.type ∈ [1, 4, 5] ∧ m.data < 2 ^ 24 then some { s with remoteCsr := m.raw } else none

/-- A call of the VF for a block message, with anything left over from before: values in the
    registers and requests not yet answered. -/
def pfvf (blocks : Nat → List UInt8) (type : Nat) (buffer : List UInt8) :
    System Channel PfvfEvent where
  Init s := s.vf = Vf.start type buffer
  step := Channel.step blocks

end Qatlib.Pfvf
