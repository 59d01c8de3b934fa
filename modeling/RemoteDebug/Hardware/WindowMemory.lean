import RemoteDebug.Hardware.AccessRun
import RemoteDebug.Hardware.H2tRun
import RemoteDebug.Lib.CyclicRegion

/-!
# The memory of the H2T window

What the H2T path relies on: words that start in the window are stored and read back, and the registers
of the channel are no memory. The payload of a packet is to land in the region that the driver has
allocated for it and nowhere else, or to come back as it was.
-/

namespace RemoteDebug

open Bytes Cyclic Script

variable {D : Type}

/-- The memory behind the bus as the host has written it: what the hardware stores on its own does not
count. A word that starts in the H2T window is stored and reads back. -/
structure WindowMemory (io : Mmio D) (info : DesignInfo) where
  mem : D → Nat → UInt8
  store : ∀ i w d, i < info.h2tMemSz →
    mem (io.write64 (windowAddr info.h2tMemBaseAddr i) w d) =
      store64 (mem d) (windowAddr info.h2tMemBaseAddr i) w
  load : ∀ i d, i < info.h2tMemSz →
    (io.read64 (windowAddr info.h2tMemBaseAddr i) d).1 =
        word64 (mem d) (windowAddr info.h2tMemBaseAddr i) ∧
      mem (io.read64 (windowAddr info.h2tMemBaseAddr i) d).2 = mem d

/-- The registers of the H2T channel are no memory. -/
structure H2tMemory (io : Mmio D) (info : DesignInfo) extends WindowMemory io info where
  slots : ∀ d, mem (io.read32 stDbgIpH2tAvailableSlots d).2 = mem d
  push : ∀ v w d,
    mem (io.write64 stDbgIpH2tConnectionId w (io.write64 stDbgIpH2tHowLong v d)) = mem d

/-- The payload of the next packet, as far as it arrives. -/
def nextH2tPayload (s : Srv D) : List UInt8 :=
  (pending (payloadStream s)).take (nextH2tHeader s).dataLenBytes.toNat

/-- The next packet arrives completely. -/
structure PacketArrives (s : Srv D) : Prop where
  header : HeaderArrives s
  payload : (nextH2tHeader s).dataLenBytes.toNat ≤ (pending (payloadStream s)).length

/-- The memory goes from `m` to `m'`: the payload is at `where_`, wrapped around the end of the window,
and all bytes outside the region that is allocated for it are unchanged. -/
structure Landed (base span where_ : Nat) (payload : List UInt8) (m m' : Nat → UInt8) : Prop where
  stored : ∀ i (h : i < payload.length), m' (base + (where_ - base + i) % span) = payload[i]
  others : ∀ a, (∀ x ∈ Region.cells span ⟨where_ - base, getAlignedSz payload.length⟩, a ≠ base + x) →
    m' a = m a

/-- The bytes of the next H2T header with its guardband. -/
def nextHeaderBytes (s : Srv D) : List UInt8 :=
  if s.conn.h2tWaiting then s.conn.h2tHeaderBuff.bytes else (pending (s.client .h2tData).rx).take 10

/-- With windows of `memSize` bytes, what a successful call in loopback mode sends for a packet of `len`
bytes is the packet. -/
def EchoesFaithfully (memSize len : Nat) : Prop :=
  ∀ (D : Type) (io : Mmio D) (charSigned : Bool) (_ : WindowMemory io (getDesignInfo memSize))
    (s s' : Srv D), s.conn.loopbackMode = true → PacketArrives s →
    (nextH2tHeader s).dataLenBytes.toNat = len →
    processH2tData io ⟨getDesignInfo memSize, charSigned⟩ s = some (.ok, s') →
    wire s'.log = wire s.log ++ (nextHeaderBytes s ++ nextH2tPayload s).map some

end RemoteDebug
