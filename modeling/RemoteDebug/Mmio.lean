import Mathlib.Algebra.Group.Nat.Defs

/-!
# The memory-mapped bus

The MMIO functions of `intel_fpga_api_uio.h` and the register offsets of
`intel_st_debug_if_st_dbg_ip_driver.h`. What sits behind the bus is not part of the sources: the
driver is modelled over an arbitrary bus state `D`. A read may change the bus state, since reading
some registers has side effects and the hardware proceeds on its own between two accesses.
-/

namespace RemoteDebug

/-- `fpga_read_32`, `fpga_read_64`, `fpga_write_32` and `fpga_write_64` on a bus with states `D`. -/
structure Mmio (D : Type) where
  read32 : (offset : Nat) → D → Nat × D
  read64 : (offset : Nat) → D → Nat × D
  write32 : (offset value : Nat) → D → D
  write64 : (offset value : Nat) → D → D

/-- The bus of `FPGA_PLATFORM_FORCE_64BIT_MMIO_EMULATION_WITH_32BIT`: a 64-bit access is two 32-bit
ones, the low half first. Offsets are `uint32_t`. -/
def Mmio.emulated {D : Type} (io : Mmio D) : Mmio D where
  read32 := io.read32
  read64 offset d :=
    let lo := io.read32 offset d
    let hi := io.read32 ((offset + 4) % 2 ^ 32) lo.2
    (lo.1 ||| hi.1 <<< 32, hi.2)
  write32 := io.write32
  write64 offset value d :=
    io.write32 ((offset + 4) % 2 ^ 32) (value / 2 ^ 32 % 2 ^ 32)
      (io.write32 offset (value % 2 ^ 32) d)

/-! ## Registers -/

def stDbgIpConfigType : Nat := 0x0
def stDbgIpConfigResetAndLoopback : Nat := 0x20
def stDbgIpConfigH2tT2hResetField : Nat := 0x1
def stDbgIpConfigLoopbackField : Nat := 0x2
def stDbgIpConfigEnableIntField : Nat := 0x4
def stDbgIpConfigMgmtMgmtRspDescDepth : Nat := 0x30

def stDbgIpH2tAvailableSlots : Nat := 0x100
def stDbgIpH2tHowLong : Nat := 0x108
def stDbgIpH2tConnectionId : Nat := 0x110
def stDbgIpH2tChannelIdPush : Nat := 0x114

def stDbgIpT2hHowLong : Nat := 0x208
def stDbgIpT2hConnectionId : Nat := 0x210
def stDbgIpT2hChannelIdAdvance : Nat := 0x214
def stDbgIpT2hDescriptorsDone : Nat := 0x218

def stDbgIpMgmtAvailableSlots : Nat := 0x1100
def stDbgIpMgmtHowLong : Nat := 0x1108
def stDbgIpMgmtChannelIdPush : Nat := 0x1114

def stDbgIpMgmtRspHowLong : Nat := 0x1208
def stDbgIpMgmtRspChannelIdAdvance : Nat := 0x1214
def stDbgIpMgmtRspDescriptorsDone : Nat := 0x1218

def stDbgIpLastDescriptorMask : Nat := 0x80000000
def stDbgIpHowLongMask : Nat := 0x7FFFFFFF

end RemoteDebug
