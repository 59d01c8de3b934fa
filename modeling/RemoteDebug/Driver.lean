import RemoteDebug.Packet
import RemoteDebug.Mmio
import RemoteDebug.Lib.CString
import Mathlib.Logic.Function.Basic

/-!
# The driver of the streaming debug IP

`intel_st_debug_if_st_dbg_ip_driver.c` and the circular allocator of
`intel_st_debug_if_st_dbg_ip_allocator.h`. Unsigned C integers are natural numbers reduced modulo
their width; `size_t` has 64 bits. The file-scope variables of the driver are the fields of
`Driver`. The H2T and the MGMT halves of the driver are the same code on their own variables and
registers, so each pair of functions is one definition applied to the two `DescriptorRing`s.
-/

namespace RemoteDebug

open CString

/-! ## The circular allocator -/

/-- `CIRCLE_BUFF`. -/
structure CircleBuff where
  rawBuff : Nat
  span : Nat
  writeOffset : Nat
  readOffset : Nat
  spaceAvailable : Nat
  deriving DecidableEq

/-- `cbuff_init`. -/
def cbuffInit (rawBuff rawBuffSz : Nat) : CircleBuff where
  rawBuff := rawBuff
  span := rawBuffSz
  writeOffset := 0
  readOffset := 0
  spaceAvailable := rawBuffSz

/-- `cbuff_free`. -/
def cbuffFree (cbuff : CircleBuff) (amt : Nat) : CircleBuff :=
  { cbuff with
    spaceAvailable := (cbuff.spaceAvailable + amt) % 2 ^ 64
    readOffset := (cbuff.readOffset + amt) % 2 ^ 64 % cbuff.span }

/-- `cbuff_alloc`: the 32-bit address of the allocation. -/
def cbuffAlloc (cbuff : CircleBuff) (amt : Nat) : Nat × CircleBuff :=
  ((cbuff.rawBuff + cbuff.writeOffset) % 2 ^ 32,
    { cbuff with
      spaceAvailable := (cbuff.spaceAvailable + 2 ^ 64 - amt) % 2 ^ 64
      writeOffset := (cbuff.writeOffset + amt) % 2 ^ 64 % cbuff.span })

/-- `GET_ALIGNED_SZ`, with `ST_DBG_IP_BUFF_ALIGN_POW_2 = 3`. -/
def getAlignedSz (n : Nat) : Nat := ((n + (1 <<< 3) - 1) >>> 3) <<< 3

/-! ## State -/

/-- `MAX_H2T_DESCRIPTOR_DEPTH`, `MAX_MGMT_DESCRIPTOR_DEPTH`. -/
def maxDescriptorDepth : Nat := 128

/-- The variables `g_h2t_descriptor_*` with `g_h2t_rx_cbuff`, or `g_mgmt_descriptor_*` with
`g_mgmt_rx_cbuff`. The chain is indexed by integers: what an index outside `0..127` reads is
whatever memory surrounds the array. -/
structure DescriptorRing where
  slotsAvailable : Nat
  chain : Int → Nat
  writeIdx : Nat
  readIdx : Nat
  cbuff : CircleBuff

/-- `ST_DBG_IP_DESIGN_INFO`. -/
structure DesignInfo where
  h2tMemBaseAddr : Nat
  h2tMemSz : Nat
  t2hMemBaseAddr : Nat
  t2hMemSz : Nat
  mgmtMemBaseAddr : Nat
  mgmtMemSz : Nat
  mgmtRspMemBaseAddr : Nat
  mgmtRspMemSz : Nat
  deriving DecidableEq

/-- What is fixed while the program runs: `g_std_dbg_ip_info` and the signedness of plain `char`. -/
structure Config where
  info : DesignInfo
  charSigned : Bool
  deriving DecidableEq

/-- The file-scope variables of the driver. -/
structure Driver where
  dbgInfoSet : Bool
  h2t : DescriptorRing
  mgmt : DescriptorRing
  t2hSop : Bool
  mgmtRspSop : Bool

/-- The variables before any call. -/
def DescriptorRing.static : DescriptorRing where
  slotsAvailable := 0
  chain := fun _ => 0
  writeIdx := 0
  readIdx := 0
  cbuff := cbuffInit 0 0

/-- The variables after `set_design_info`. -/
def Driver.static : Driver where
  dbgInfoSet := true
  h2t := .static
  mgmt := .static
  t2hSop := true
  mgmtRspSop := true

variable {D : Type}

/-! ## Initialisation -/

def supportedType : Nat := 0x5244444D
def supportedVersion : Nat := 0x0
def initErrorCodeMissingInfo : Int := -1
def initErrorCodeIncompatibleIp : Int := -2

/-- `check_version_and_type`. -/
def checkVersionAndType (io : Mmio D) (d : D) : Int × D :=
  let typeVersion := io.read64 stDbgIpConfigType d
  let type := typeVersion.1 % 2 ^ 32
  let version := typeVersion.1 / 2 ^ 32 % 2 ^ 32
  if type ≠ supportedType ∨ version ≠ supportedVersion then (-1, typeVersion.2)
  else (0, typeVersion.2)

/-- `assert_h2t_t2h_reset`. -/
def assertH2tT2hReset (io : Mmio D) (d : D) : D :=
  io.write32 stDbgIpConfigResetAndLoopback stDbgIpConfigH2tT2hResetField d

/-- The ring variables as `init_driver` leaves them; the chain keeps its entries. -/
def DescriptorRing.init (r : DescriptorRing) (slots base sz : Nat) : DescriptorRing where
  slotsAvailable := slots % 2 ^ 16
  chain := r.chain
  writeIdx := 0
  readIdx := 0
  cbuff := cbuffInit base sz

/-- `init_driver`. -/
def initDriver (io : Mmio D) (info : DesignInfo) (drv : Driver) (d : D) : Int × Driver × D :=
  if drv.dbgInfoSet = false then (initErrorCodeMissingInfo, drv, d)
  else
    let check := checkVersionAndType io d
    if check.1 ≠ 0 then (initErrorCodeIncompatibleIp, drv, check.2)
    else
      let h2tSlots := io.read32 stDbgIpH2tAvailableSlots (assertH2tT2hReset io check.2)
      let mgmtSlots := io.read32 stDbgIpMgmtAvailableSlots h2tSlots.2
      (0,
        { drv with
          h2t := drv.h2t.init h2tSlots.1 info.h2tMemBaseAddr info.h2tMemSz
          mgmt := drv.mgmt.init mgmtSlots.1 info.mgmtMemBaseAddr info.mgmtMemSz
          t2hSop := true
          mgmtRspSop := true },
        mgmtSlots.2)

/-! ## H2T and MGMT descriptors -/

/-- The value of the `char` with the byte `c`. -/
def charVal (charSigned : Bool) (c : Nat) : Int :=
  if charSigned ∧ 128 ≤ c then (c : Int) - 256 else c

/-- The loop of `get_h2t_buffer` over the freed descriptors,
`for (char i = 0; i < freed_descriptor_slots; ++i)`. The comparison converts `i` to `uint32_t`, the
index is the C remainder of an `int`. After 256 iterations `i` is back at its first value, so that
a loop that is still running then runs for ever: `none`. -/
def reclaimLoop (charSigned : Bool) (chain : Int → Nat) (readIdx freed : Nat) :
    (fuel c bytesFreed : Nat) → Option Nat
  | 0, _, _ => none
  | fuel + 1, c, bytesFreed =>
    let i := charVal charSigned c
    if (i % 2 ^ 32).toNat < freed then
      reclaimLoop charSigned chain readIdx freed fuel ((c + 1) % 256)
        (bytesFreed + chain (((readIdx : Int) + i).tmod maxDescriptorDepth))
    else some bytesFreed

/-- The first half of `get_h2t_buffer`: gives back what the IP has processed since the last call,
`slots` being the value of the available-slots register. -/
def reclaim (charSigned : Bool) (slots : Nat) (r : DescriptorRing) : Option DescriptorRing :=
  let freed := (slots + 2 ^ 32 - r.slotsAvailable) % 2 ^ 32
  if 0 < freed then
    (reclaimLoop charSigned r.chain r.readIdx freed 257 0 0).map fun bytesFreed =>
      { r with
        slotsAvailable := (r.slotsAvailable + freed) % 2 ^ 16
        readIdx := (r.readIdx + freed) % 2 ^ 32 % maxDescriptorDepth
        cbuff := cbuffFree r.cbuff bytesFreed }
  else some r

/-- The second half of `get_h2t_buffer`: a buffer for `sz` bytes if there is a descriptor slot and
enough space, else address `0`. -/
def takeBuffer (sz : Nat) (r : DescriptorRing) : Nat × DescriptorRing :=
  let alignedSz := getAlignedSz sz
  if 0 < r.slotsAvailable ∧ alignedSz ≤ r.cbuff.spaceAvailable then
    ((cbuffAlloc r.cbuff alignedSz).1,
      { r with
        chain := Function.update r.chain (r.writeIdx % maxDescriptorDepth : Nat)
          (alignedSz % 2 ^ 16)
        writeIdx := (r.writeIdx + 1) % 2 ^ 16
        cbuff := (cbuffAlloc r.cbuff alignedSz).2 })
  else (0, r)

/-- The common text of `get_h2t_buffer` and `get_mgmt_buffer`; `none` if the call never returns. -/
def getBuffer (io : Mmio D) (charSigned : Bool) (slotsReg sz : Nat) (r : DescriptorRing) (d : D) :
    Option (Nat × DescriptorRing × D) :=
  let slots := io.read32 slotsReg d
  (reclaim charSigned slots.1 r).map fun r' =>
    ((takeBuffer sz r').1, (takeBuffer sz r').2, slots.2)

/-- The common text of `push_h2t_data` and `push_mgmt_data`: two register writes. -/
def pushData (io : Mmio D) (howLongReg pushReg howlongWhere pushWord : Nat) (r : DescriptorRing)
    (d : D) : DescriptorRing × D :=
  ({ r with slotsAvailable := (r.slotsAvailable + 2 ^ 16 - 1) % 2 ^ 16 },
    io.write64 pushReg pushWord (io.write64 howLongReg howlongWhere d))

/-- `howlong_where` of a descriptor for the packet `header` with its payload at `payload`. -/
def howlongWhere (header : H2tPacketHeader) (payload : Nat) : Nat :=
  ((header.dataLenBytes.toNat &&& stDbgIpHowLongMask)
    ||| (if header.eop then stDbgIpLastDescriptorMask else 0)) ||| (payload <<< 32)

/-- `connid_channelpush`. -/
def connidChannelpush (header : H2tPacketHeader) : Nat :=
  header.connId.toNat ||| (header.channel.toNat <<< 32)

/-- `channel_id_push`. -/
def channelIdPush (header : MgmtPacketHeader) : Nat := header.channel.toNat <<< 32

/-- `get_h2t_buffer`. -/
def getH2tBuffer (io : Mmio D) (cfg : Config) (sz : Nat) (drv : Driver) (d : D) :
    Option (Nat × Driver × D) :=
  (getBuffer io cfg.charSigned stDbgIpH2tAvailableSlots sz drv.h2t d).map fun x =>
    (x.1, { drv with h2t := x.2.1 }, x.2.2)

/-- `push_h2t_data`, which returns `0` on every path. -/
def pushH2tData (io : Mmio D) (header : H2tPacketHeader) (payload : Nat) (drv : Driver) (d : D) :
    Driver × D :=
  let x := pushData io stDbgIpH2tHowLong stDbgIpH2tConnectionId (howlongWhere header payload)
    (connidChannelpush header) drv.h2t d
  ({ drv with h2t := x.1 }, x.2)

/-- `get_mgmt_buffer`. -/
def getMgmtBuffer (io : Mmio D) (cfg : Config) (sz : Nat) (drv : Driver) (d : D) :
    Option (Nat × Driver × D) :=
  (getBuffer io cfg.charSigned stDbgIpMgmtAvailableSlots sz drv.mgmt d).map fun x =>
    (x.1, { drv with mgmt := x.2.1 }, x.2.2)

/-- `push_mgmt_data`, which returns `0` on every path. -/
def pushMgmtData (io : Mmio D) (header : MgmtPacketHeader) (payload : Nat) (drv : Driver)
    (d : D) : Driver × D :=
  let x := pushData io stDbgIpMgmtHowLong (stDbgIpMgmtChannelIdPush - 0x4)
    (howlongWhere header payload) (channelIdPush header) drv.mgmt d
  ({ drv with mgmt := x.1 }, x.2)

/-! ## T2H and MGMT_RSP descriptors -/

/-- The `SOP_EOP` byte of an acquired packet. -/
def sopEopOf (sop last : Bool) : UInt8 :=
  (if sop then packetHeaderMaskSop else 0) ||| (if last then packetHeaderMaskEop else 0)

/-- The part of `get_t2h_data` and `get_mgmt_rsp_data` up to `SOP_EOP`: the new header, the payload
address (`none` if there is no data) and the new SOP flag. -/
def acquire (base howlongWhere : Nat) (header : H2tPacketHeader) (sop : Bool) :
    H2tPacketHeader × Option Nat × Bool :=
  let lastHowlong := howlongWhere % 2 ^ 32
  let where_ := howlongWhere / 2 ^ 32 % 2 ^ 32
  let dataLenBytes := UInt16.ofNat (lastHowlong &&& stDbgIpHowLongMask)
  if dataLenBytes = 0 then ({ header with dataLenBytes := 0 }, none, sop)
  else
    let last : Bool := lastHowlong &&& stDbgIpLastDescriptorMask ≠ 0
    ({ header with dataLenBytes := dataLenBytes, sopEop := sopEopOf sop last },
      some ((where_ + base) % 2 ^ 32), last)

/-- `get_t2h_data`, which returns `0` on every path. -/
def getT2hData (io : Mmio D) (info : DesignInfo) (header : H2tPacketHeader) (drv : Driver)
    (d : D) : H2tPacketHeader × Option Nat × Driver × D :=
  let howlongWhere := io.read64 stDbgIpT2hHowLong d
  match acquire info.t2hMemBaseAddr howlongWhere.1 header drv.t2hSop with
  | (header, none, _) => (header, none, drv, howlongWhere.2)
  | (header, some payload, sop) =>
    let connidChannelid := io.read64 stDbgIpT2hConnectionId howlongWhere.2
    ({ header with
        connId := UInt8.ofNat connidChannelid.1
        channel := UInt16.ofNat (connidChannelid.1 / 2 ^ 32) },
      some payload, { drv with t2hSop := sop }, connidChannelid.2)

/-- `t2h_data_complete`. -/
def t2hDataComplete (io : Mmio D) (d : D) : D := io.write32 stDbgIpT2hDescriptorsDone 1 d

/-- `get_mgmt_rsp_data`, which returns `0` on every path. -/
def getMgmtRspData (io : Mmio D) (info : DesignInfo) (header : MgmtPacketHeader) (drv : Driver)
    (d : D) : MgmtPacketHeader × Option Nat × Driver × D :=
  let howlongWhere := io.read64 stDbgIpMgmtRspHowLong d
  match acquire info.mgmtRspMemBaseAddr howlongWhere.1 header drv.mgmtRspSop with
  | (header, none, _) => (header, none, drv, howlongWhere.2)
  | (header, some payload, sop) =>
    let channelId := io.read64 (stDbgIpMgmtRspChannelIdAdvance - 0x4) howlongWhere.2
    ({ header with channel := UInt16.ofNat (channelId.1 / 2 ^ 32 % 2 ^ 32) },
      some payload, { drv with mgmtRspSop := sop }, channelId.2)

/-- `mgmt_rsp_data_complete`. -/
def mgmtRspDataComplete (io : Mmio D) (d : D) : D :=
  io.write32 stDbgIpMgmtRspDescriptorsDone 1 d

/-! ## Driver parameters -/

/-- `set_loopback_mode`. -/
def setLoopbackMode (io : Mmio D) (val : Nat) (d : D) : D :=
  let rd := io.read32 stDbgIpConfigResetAndLoopback d
  if val = 1 then
    io.write32 stDbgIpConfigResetAndLoopback
      (rd.1 ||| stDbgIpConfigLoopbackField ||| stDbgIpConfigH2tT2hResetField) rd.2
  else
    io.write32 stDbgIpConfigResetAndLoopback
      ((rd.1 &&& (2 ^ 32 - 1 - stDbgIpConfigLoopbackField)) ||| stDbgIpConfigH2tT2hResetField) rd.2

/-- `get_loopback_mode`. -/
def getLoopbackMode (io : Mmio D) (d : D) : Nat × D :=
  let rd := io.read32 stDbgIpConfigResetAndLoopback d
  (if 0 < rd.1 &&& stDbgIpConfigLoopbackField then 1 else 0, rd.2)

/-- `get_mgmt_support`. -/
def getMgmtSupport (io : Mmio D) (d : D) : Nat × D :=
  let rd := io.read32 stDbgIpConfigMgmtMgmtRspDescDepth d
  (if 0 < rd.1 then 1 else 0, rd.2)

/-- `HW_LOOPBACK_PARAM`, `HW_LOOPBACK_PARAM_LEN`. -/
def hwLoopbackParam : List UInt8 := ascii "#HW_LOOPBACK"
def hwLoopbackParamLen : Nat := 13

/-- `MGMT_SUPPORT_PARAM`, `MGMT_SUPPORT_PARAM_LEN`. -/
def mgmtSupportParam : List UInt8 := ascii "MGMT_SUPPORT"
def mgmtSupportParamLen : Nat := 13

/-- `set_driver_param`, which returns `0` whenever it returns. The value is `none` for a pointer
that must not be dereferenced; the result is `none` if it is. -/
def setDriverParam (io : Mmio D) (param : List UInt8) (val : Option (List UInt8)) (d : D) :
    Option D :=
  if strncmpEq hwLoopbackParamLen param hwLoopbackParam then
    val.map fun val =>
      if strncmpEq 1 val (ascii "1") then setLoopbackMode io 1 d else setLoopbackMode io 0 d
  else some d

/-- `get_driver_param`; `none` for NULL. -/
def getDriverParam (io : Mmio D) (param : List UInt8) (d : D) : Option (List UInt8) × D :=
  if strncmpEq hwLoopbackParamLen param hwLoopbackParam then
    let mode := getLoopbackMode io d
    (some (if mode.1 = 0 then ascii "0" else ascii "1"), mode.2)
  else if strncmpEq mgmtSupportParamLen param mgmtSupportParam then
    let support := getMgmtSupport io d
    (some (if support.1 = 1 then ascii "1" else ascii "0"), support.2)
  else (none, d)

end RemoteDebug
