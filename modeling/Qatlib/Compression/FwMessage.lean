import Qatlib.Compression.Datapath

set_option autoImplicit false

/-! # The firmware request message of the compression service

`icp_qat_fw_comp_req_t`, the 32 long words that a compression request puts on the ring, with the
macros that build its flags and its hardware configuration words (`icp_qat_fw.h`,
`icp_qat_fw_comp.h`, `icp_qat_hw.h`, `icp_qat_hw_20_comp.h`), and the two writers that all services
share (`sal_qat_cmn_msg.c`). A field has the width of its C type; a union is the words it covers, so
the two readings of the CRC words are one pair of long words here.

The instance side is the device data that `SalCtrl_CompressionInit_CompData` fills in by device type,
and the setup data of a caller. -/

namespace Qatlib.Compression.Fw

/-! ## Fields of a word -/

/-- The value of a flag. -/
def flag (b : Bool) : BitVec 32 := if b then 1 else 0

/-- `((val) & (mask)) << (bitpos)`, one field of a word that is built by or-ing. -/
def fieldBits (val : BitVec 32) (bitpos : Nat) (mask : BitVec 32) : BitVec 32 :=
  (val &&& mask) <<< bitpos

/-- `QAT_FIELD_SET`. -/
def fieldSet (flags val : BitVec 32) (bitpos : Nat) (mask : BitVec 32) : BitVec 32 :=
  (flags &&& ~~~(mask <<< bitpos)) ||| fieldBits val bitpos mask

/-- `BYTE_SWAP_32`. -/
def byteSwap32 (v : BitVec 32) : BitVec 32 :=
  v.extractLsb' 0 8 ++ v.extractLsb' 8 8 ++ v.extractLsb' 16 8 ++ v.extractLsb' 24 8

/-! ## The message -/

/-- `icp_qat_fw_comn_req_hdr_t`, long words 0 and 1. -/
@[ext]
structure ComnHdr where
  resrvd1 : BitVec 8
  serviceCmdId : BitVec 8
  serviceType : BitVec 8
  hdrFlags : BitVec 8
  servSpecifFlags : BitVec 16
  comnReqFlags : BitVec 8
  extendedServSpecifFlags : BitVec 8
deriving DecidableEq

/-- `icp_qat_fw_comp_req_hdr_cd_pars_t`, long words 2 to 5, read as the slice configuration word and
    the two reserved long words after it. -/
@[ext]
structure CdPars where
  lowerVal : BitVec 32
  upperVal : BitVec 32
  contentDescResrvd4 : BitVec 32
  contentDescResrvd3 : BitVec 32
deriving DecidableEq

/-- `icp_qat_fw_comn_req_mid_t`, long words 6 to 13. -/
@[ext]
structure ComnMid where
  opaqueData : BitVec 64
  srcDataAddr : BitVec 64
  destDataAddr : BitVec 64
  srcLength : BitVec 32
  dstLength : BitVec 32
deriving DecidableEq

/-- `icp_qat_fw_comp_req_params_t`, long words 14 to 19. `initialCrc32` and `initialAdler` are also
    the low and the high half of `crc_data_addr`. -/
@[ext]
structure CompPars where
  compLen : BitVec 32
  outBufferSz : BitVec 32
  initialCrc32 : BitVec 32
  initialAdler : BitVec 32
  reqParFlags : BitVec 32
  rsrvd : BitVec 32
deriving DecidableEq

/-- `icp_qat_fw_comp_cd_hdr_t`, long words 24 to 29. -/
@[ext]
structure CompCdCtrl where
  ramBankFlags : BitVec 16
  compCfgOffset : BitVec 8
  nextCurrId : BitVec 8
  resrvd : BitVec 32
  compStateAddr : BitVec 64
  ramBanksAddr : BitVec 64
deriving DecidableEq

/-- `icp_qat_fw_xlt_cd_hdr_t`, long words 30 and 31. -/
@[ext]
structure XltCdCtrl where
  resrvd1 : BitVec 16
  resrvd2 : BitVec 8
  nextCurrId : BitVec 8
  resrvd3 : BitVec 32
deriving DecidableEq

/-- `icp_qat_fw_comp_req_t`. -/
@[ext]
structure CompRequest where
  comnHdr : ComnHdr
  cdPars : CdPars
  comnMid : ComnMid
  compPars : CompPars
  /-- `u1.xlt_pars.inter_buff_ptr`, long words 20 and 21. -/
  interBuffPtr : BitVec 64
  /-- `u3`, long words 22 and 23. -/
  resrvd3 : BitVec 64
  compCdCtrl : CompCdCtrl
  /-- `u2.xlt_cd_ctrl`. -/
  xltCdCtrl : XltCdCtrl
deriving DecidableEq

/-- The translator header with every byte cleared. -/
def XltCdCtrl.zero : XltCdCtrl := ⟨0, 0, 0, 0⟩

/-- A message with every byte cleared. -/
def CompRequest.zero : CompRequest where
  comnHdr := ⟨0, 0, 0, 0, 0, 0, 0⟩
  cdPars := ⟨0, 0, 0, 0⟩
  comnMid := ⟨0, 0, 0, 0, 0⟩
  compPars := ⟨0, 0, 0, 0, 0, 0⟩
  interBuffPtr := 0
  resrvd3 := 0
  compCdCtrl := ⟨0, 0, 0, 0, 0, 0⟩
  xltCdCtrl := .zero

/-! ## Slices and flags -/

/-- The members of `icp_qat_fw_slice_t` that compression chains. -/
inductive Slice where
  | dramWr | comp | xlat
deriving DecidableEq

/-- The value of `icp_qat_fw_slice_t`. -/
def Slice.id : Slice → BitVec 8
  | .dramWr => 4
  | .comp => 5
  | .xlat => 6

/-- `ICP_QAT_FW_COMN_NEXT_ID_SET` on the byte. -/
def nextIdSet (nextCurrId : BitVec 8) (slice : Slice) : BitVec 8 :=
  (nextCurrId &&& 0x0F) ||| ((slice.id <<< 4) &&& 0xF0)

/-- `ICP_QAT_FW_COMN_CURR_ID_SET` on the byte. -/
def currIdSet (nextCurrId : BitVec 8) (slice : Slice) : BitVec 8 :=
  (nextCurrId &&& 0xF0) ||| (slice.id &&& 0x0F)

/-- `ICP_QAT_FW_COMN_FLAGS_BUILD(cdt, ptr)`. -/
def comnFlagsBuild (cdt ptr : BitVec 8) : BitVec 8 := ((cdt &&& 1) <<< 1) ||| (ptr &&& 1)

/-- `ICP_QAT_FW_COMP_FLAGS_BUILD`. -/
def compFlagsBuild (sessType autoSelect enhancedAsb retUncomp secureRam : Bool) : BitVec 16 :=
  (fieldBits (flag sessType) 2 1 ||| fieldBits (flag autoSelect) 3 1 |||
    fieldBits (flag enhancedAsb) 4 1 ||| fieldBits (flag retUncomp) 5 1 |||
    fieldBits (flag secureRam) 7 1).setWidth 16

/-- `ICP_QAT_FW_COMP_REQ_PARAM_FLAGS_BUILD`. -/
def reqParamFlagsBuild (sop eop bFinal cnv cnvnr cnvDfx crc : Bool) : BitVec 32 :=
  fieldBits (flag sop) 0 1 ||| fieldBits (flag eop) 1 1 ||| fieldBits (flag bFinal) 6 1 |||
    fieldBits (flag cnv) 16 1 ||| fieldBits (flag cnvnr) 17 1 ||| fieldBits (flag cnvDfx) 18 1 |||
    fieldBits (flag crc) 19 1

/-- `ICP_QAT_FW_COMP_XXHASH_ACC_MODE_SET`. -/
def xxhashAccModeSet (flags : BitVec 32) (val : Bool) : BitVec 32 := fieldSet flags (flag val) 20 1

/-- `ICP_QAT_FW_COMP_RAM_FLAGS_BUILD`, bank I first. -/
def ramFlagsBuild (i h g f e d c b a : Bool) : BitVec 16 :=
  (fieldBits (flag i) 8 1 ||| fieldBits (flag h) 7 1 ||| fieldBits (flag g) 6 1 |||
    fieldBits (flag f) 5 1 ||| fieldBits (flag e) 4 1 ||| fieldBits (flag d) 3 1 |||
    fieldBits (flag c) 2 1 ||| fieldBits (flag b) 1 1 ||| fieldBits (flag a) 0 1).setWidth 16

/-! ## Hardware configuration words -/

/-- `icp_qat_hw_compression_config_t`. -/
structure CompConfig where
  lowerVal : BitVec 32
  upperVal : BitVec 32
deriving DecidableEq

/-- `ICP_QAT_HW_COMPRESSION_CONFIG_BUILD`. -/
def compressionConfigBuild (dir delayed algo depth filetype : BitVec 32) : BitVec 32 :=
  fieldBits dir 4 0x7 ||| fieldBits delayed 16 1 ||| fieldBits algo 31 1 |||
    fieldBits depth 28 0x7 ||| fieldBits filetype 24 0xF

/-- `icp_qat_hw_comp_20_config_csr_lower_t`. -/
structure CompCsrLower where
  edmm : BitVec 32
  algo : BitVec 32
  sd : BitVec 32
  hbs : BitVec 32
  abd : BitVec 32
  lllbd : BitVec 32
  mmctrl : BitVec 32
  hashCol : BitVec 32
  hashUpdate : BitVec 32
  skipCtrl : BitVec 32

/-- `icp_qat_hw_comp_20_config_csr_upper_t`. -/
structure CompCsrUpper where
  scbCtrl : BitVec 32
  rmbCtrl : BitVec 32
  somCtrl : BitVec 32
  skipHashCtrl : BitVec 32
  scbUnloadCtrl : BitVec 32
  disableTokenFusionCtrl : BitVec 32
  lbms : BitVec 32
  scbModeReset : BitVec 32
  lazy : BitVec 32
  nice : BitVec 32

/-- `icp_qat_hw_decomp_20_config_csr_lower_t`. -/
structure DecompCsrLower where
  hbs : BitVec 32
  lbms : BitVec 32
  algo : BitVec 32
  mmctrl : BitVec 32
  lbc : BitVec 32

/-- `ICP_QAT_FW_COMP_20_BUILD_CONFIG_LOWER`. -/
def CompCsrLower.build (csr : CompCsrLower) : BitVec 32 :=
  let val32 := fieldSet 0 csr.algo 5 0x7
  let val32 := fieldSet val32 csr.sd 8 0xF
  let val32 := fieldSet val32 csr.edmm 0 1
  let val32 := fieldSet val32 csr.hbs 14 0x7
  let val32 := fieldSet val32 csr.mmctrl 4 1
  let val32 := fieldSet val32 csr.hashCol 3 1
  let val32 := fieldSet val32 csr.hashUpdate 2 1
  let val32 := fieldSet val32 csr.skipCtrl 1 1
  let val32 := fieldSet val32 csr.abd 13 1
  byteSwap32 (fieldSet val32 csr.lllbd 12 1)

/-- `ICP_QAT_FW_COMP_20_BUILD_CONFIG_UPPER`. -/
def CompCsrUpper.build (csr : CompCsrUpper) : BitVec 32 :=
  let val32 := fieldSet 0 csr.scbCtrl 31 1
  let val32 := fieldSet val32 csr.rmbCtrl 30 1
  let val32 := fieldSet val32 csr.somCtrl 28 0x3
  let val32 := fieldSet val32 csr.skipHashCtrl 27 1
  let val32 := fieldSet val32 csr.scbUnloadCtrl 26 1
  let val32 := fieldSet val32 csr.disableTokenFusionCtrl 21 1
  let val32 := fieldSet val32 csr.lbms 19 0x3
  let val32 := fieldSet val32 csr.scbModeReset 18 1
  let val32 := fieldSet val32 csr.lazy 9 0x1FF
  byteSwap32 (fieldSet val32 csr.nice 0 0x1FF)

/-- `ICP_QAT_FW_DECOMP_20_BUILD_CONFIG_LOWER`. -/
def DecompCsrLower.build (csr : DecompCsrLower) : BitVec 32 :=
  let val32 := fieldSet 0 csr.hbs 14 0x7
  let val32 := fieldSet val32 csr.lbms 8 0x3
  let val32 := fieldSet val32 csr.algo 5 0x7
  let val32 := fieldSet val32 csr.mmctrl 4 1
  byteSwap32 (fieldSet val32 csr.lbc 3 1)

/-! ## The common writers -/

/-- `SalQatMsg_CmnHdrWrite`. -/
def CompRequest.cmnHdrWrite (msg : CompRequest) (serviceType serviceCmdId cmnFlags : BitVec 8)
    (serviceCmdFlags : BitVec 16) (extServiceCmdFlags : BitVec 8) : CompRequest :=
  { msg with
    comnHdr :=
      { resrvd1 := 0
        serviceCmdId := serviceCmdId
        serviceType := serviceType
        hdrFlags := (1 &&& 1 : BitVec 8) <<< 7
        servSpecifFlags := serviceCmdFlags
        comnReqFlags := cmnFlags
        extendedServSpecifFlags := extServiceCmdFlags } }

/-- `QAT_COMN_PTR_TYPE_FLAT` and `QAT_COMN_PTR_TYPE_SGL`. -/
inductive PtrType where
  | flat | sgl
deriving DecidableEq

/-- `ICP_QAT_FW_COMN_PTR_TYPE_SET` on the flag byte. -/
def ptrTypeSet (flags val : BitVec 8) : BitVec 8 := (flags &&& ~~~1) ||| (val &&& 1)

/-- `SalQatMsg_CmnMidWrite`. With scatter-gather lists the two lengths are not written: the source
    assumes that they are zero. -/
def CompRequest.cmnMidWrite (msg : CompRequest) (opaqueData : BitVec 64) (format : PtrType)
    (srcBuffer dstBuffer : BitVec 64) (srcLength dstLength : BitVec 32) : CompRequest :=
  let mid :=
    { msg.comnMid with
      opaqueData := opaqueData
      srcDataAddr := srcBuffer
      destDataAddr := if dstBuffer = 0 then srcBuffer else dstBuffer }
  let flags := msg.comnHdr.comnReqFlags &&& (1 <<< 1 : BitVec 8)
  match format with
  | .sgl =>
      { msg with
        comnHdr := { msg.comnHdr with comnReqFlags := ptrTypeSet flags 1 }
        comnMid := mid }
  | .flat =>
      { msg with
        comnHdr := { msg.comnHdr with comnReqFlags := ptrTypeSet flags 0 }
        comnMid := { mid with srcLength := srcLength, dstLength := dstLength } }

/-! ## Setup data -/

/-- `CpaDcAutoSelectBest`. -/
inductive AutoSelectBest where
  | disabled | staticDynamic | uncompStaticDynamicWithStoredHdrs | uncompStaticDynamicWithNoHdrs
  | enabled
deriving DecidableEq

/-- `CpaDcSessionSetupData`, which is `CpaDcNsSetupData` too. `compLevel` is the number of the level;
    the window size is not read. -/
structure SetupData where
  compLevel : Nat
  compType : CompType
  huffType : HuffType
  autoSelectBestHuffmanTree : AutoSelectBest
  sessDirection : SessionDir
  sessState : SessionState
  minMatch : BitVec 32
  lz4BlockMaxSize : BitVec 32
  lz4BlockChecksum : Bool
  lz4BlockIndependence : Bool
  checksum : ChecksumType
  accumulateXXHash : Bool

/-- `dcCheckSessionData`. The range checks on the enumerations that are types here have nothing left
    to reject. -/
def dcCheckSessionData (data : SetupData) : CpaStatus :=
  if data.compLevel < 1 ∨ 12 < data.compLevel then .invalidParam
  else if data.huffType = .precomp then .invalidParam
  else if data.checksum = .xxhash32 ∧ data.compType = .deflate then .invalidParam
  else if data.compType = .lz4 ∧ data.checksum ≠ .xxhash32 ∧ data.checksum ≠ .none then
    .invalidParam
  else if data.compType = .lz4s ∧ data.checksum ≠ .none ∧ data.checksum ≠ .xxhash32 then
    .invalidParam
  else if data.compType = .lz4 ∧ 3 < data.lz4BlockMaxSize then .invalidParam
  else if data.compType = .lz4s ∧ 1 < data.minMatch then .invalidParam
  else .success

/-! ## The instance -/

/-- The device types that `SalCtrl_CompressionInit_CompData` knows. -/
inductive DeviceType where
  | unknown | dh895xcc | dh895xccvf | c62x | c62xvf | c3xxx | c3xxxvf | d15xx | d15xxvf
  | dev200xx | dev200xxvf | c4xxx | c4xxxvf | dev4xxx | dev4xxxvf | dev420xx | dev420xxvf
deriving DecidableEq

/-- `IS_QAT_GEN4`. -/
def DeviceType.isGen4 : DeviceType → Bool
  | .dev4xxx | .dev4xxxvf | .dev420xx | .dev420xxvf => true
  | _ => false

/-- `enum dev_sku_info`. -/
inductive DevSku where
  | sku1 | sku2 | sku3 | sku4 | skuVf | skuUnknown
deriving DecidableEq

/-- `ICP_ACCEL_CAPABILITIES_INLINE` in a capabilities mask. -/
def hasInline (capabilitiesMask : BitVec 32) : Bool := capabilitiesMask &&& 0x200000 != 0

/-- The members of `sal_compression_device_data_t` that go into a message. `useDevRam` is set for
    `ICP_QAT_FW_COMP_DISABLE_SECURE_RAM_USED_AS_INTMD_BUF`. -/
structure CompDeviceData where
  useDevRam : Bool
  enableDmm : Bool
  highestHwCompressionDepth : BitVec 32

/-- `ICP_QAT_HW_COMPRESSION_DEPTH_16`. -/
def depth16 : BitVec 32 := 3

/-- `ICP_QAT_HW_COMPRESSION_DEPTH_128`. -/
def depth128 : BitVec 32 := 4

/-- `ICP_QAT_HW_COMP_20_SEARCH_DEPTH_LEVEL_9`. -/
def searchDepthLevel9 : BitVec 32 := 4

/-- `SalCtrl_CompressionInit_CompData`, by device type; a C4XXX of an unknown stock keeping unit and
    an unknown device fail. -/
def compressionInitCompData (device : DeviceType) (sku : DevSku) (capabilitiesMask : BitVec 32) :
    Option CompDeviceData :=
  match device with
  | .dh895xcc | .dh895xccvf => some ⟨false, false, depth16⟩
  | .c3xxx | .c3xxxvf | .dev200xx | .dev200xxvf => some ⟨true, true, depth16⟩
  | .c62x | .c62xvf | .d15xx | .d15xxvf => some ⟨false, true, depth16⟩
  | .dev4xxx | .dev4xxxvf | .dev420xx | .dev420xxvf => some ⟨false, true, searchDepthLevel9⟩
  | .c4xxx | .c4xxxvf =>
      match sku with
      | .sku1 | .skuVf | .sku2 | .sku3 => some ⟨hasInline capabilitiesMask, true, depth128⟩
      | .sku4 | .skuUnknown => none
  | .unknown => none

/-- The instance as the message builders see it: the fields that the data path reads, and the device
    behind them. -/
structure FwService extends Service where
  device : DeviceType
  sku : DevSku
  capabilitiesMask : BitVec 32
  /-- `pInterBuffPtrsArray` is not NULL. -/
  pInterBuffPtrsArray : Bool
  pInterBuffPtrsArrayPhyAddr : BitVec 64
  nsIsCnvErrorInjection : Bool
  /-- The context sizes of the device, for stateful sessions. -/
  inflateContextSize : Nat
  lz4DecompContextSize : Nat
  compDeviceData : CompDeviceData
  isGen4_eq : isGen4 = device.isGen4
  interBuffers_eq : interBuffersDefined = (pInterBuffPtrsArray && pInterBuffPtrsArrayPhyAddr != 0)
  /-- The device data is that of the device, `enableDmm` apart: `cpaDcUpdateSession` writes it. -/
  compDeviceData_eq : ∃ enableDmm, compressionInitCompData device sku capabilitiesMask =
    some { compDeviceData with enableDmm := enableDmm }

/-- The physical addresses of one request, next to what the outside answers while it is built. -/
structure FwEnv extends SubmitEnv where
  srcAddrPhys : BitVec 64
  dstAddrPhys : BitVec 64
  /-- The address of the cookie. -/
  cookieAddr : BitVec 64
  /-- The physical address of the cookie's CRC buffer; zero when it is not found. -/
  crcDataAddr : BitVec 64
  crcAddr_ok : crcAddrOk = (crcDataAddr != 0)

namespace FwService

/-- `enableDmm` as a field value: both generations use 1 for enabled. -/
def dmm (svc : FwService) : BitVec 32 := flag svc.compDeviceData.enableDmm

/-- Before generation 4 only the C4XXX searches deeper than 16. -/
theorem depth_eq_of_ne_c4xxx (svc : FwService) (hgen : svc.isGen4 = false)
    (hdev : svc.device ≠ .c4xxx ∧ svc.device ≠ .c4xxxvf) :
    svc.compDeviceData.highestHwCompressionDepth = depth16 := by
  obtain ⟨_, hdata⟩ := svc.compDeviceData_eq
  rw [svc.isGen4_eq] at hgen
  cases hd : svc.device <;> simp_all [DeviceType.isGen4, compressionInitCompData]

end FwService

end Qatlib.Compression.Fw
