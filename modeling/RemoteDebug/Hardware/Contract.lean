import RemoteDebug.Driver

/-!
# What the driver relies on

The streaming debug IP is not part of the sources. This file states what the driver relies on: the
IP takes descriptors of the two channels H2T and MGMT from two queues, processes them in the order in
which they were pushed, and shows in the available-slots registers how many it has not processed.
The IP may complete descriptors between any two accesses and during each of them.
-/

namespace RemoteDebug

/-- The two channels from the host to the FPGA. -/
inductive Channel where
  | h2t
  | mgmt
  deriving DecidableEq

namespace Channel

/-- The available-slots register. -/
def slotsReg : Channel → Nat
  | h2t => stDbgIpH2tAvailableSlots
  | mgmt => stDbgIpMgmtAvailableSlots

/-- The register for `HOW_LONG` and `WHERE`. -/
def howLongReg : Channel → Nat
  | h2t => stDbgIpH2tHowLong
  | mgmt => stDbgIpMgmtHowLong

/-- The register whose upper half pushes the descriptor. -/
def pushReg : Channel → Nat
  | h2t => stDbgIpH2tConnectionId
  | mgmt => stDbgIpMgmtChannelIdPush - 0x4

/-- The start of the window of the channel. -/
def base (info : DesignInfo) : Channel → Nat
  | h2t => info.h2tMemBaseAddr
  | mgmt => info.mgmtMemBaseAddr

/-- The size of the window of the channel. -/
def span (info : DesignInfo) : Channel → Nat
  | h2t => info.h2tMemSz
  | mgmt => info.mgmtMemSz

end Channel

/-- A descriptor as the IP receives it: the values of the two 64-bit register writes. -/
@[ext]
structure Descriptor where
  howlongWhere : Nat
  pushWord : Nat
  deriving DecidableEq

namespace Descriptor

/-- The length of the payload. -/
def howLong (x : Descriptor) : Nat := x.howlongWhere % 2 ^ 31

/-- Whether the descriptor ends a packet. -/
def last (x : Descriptor) : Bool := x.howlongWhere / 2 ^ 31 % 2 = 1

/-- The address of the payload. -/
def addr (x : Descriptor) : Nat := x.howlongWhere / 2 ^ 32

/-- The connection. -/
def connId (x : Descriptor) : Nat := x.pushWord % 2 ^ 32

/-- The channel of the packet. -/
def channel (x : Descriptor) : Nat := x.pushWord / 2 ^ 32

/-- The number of bytes that the driver allocates for the descriptor. -/
def alignedLen (x : Descriptor) : Nat := getAlignedSz x.howLong

end Descriptor

/-- The descriptor queue of one channel of the debug IP behind the bus `io`: `uncompleted` are the
descriptors that the IP has not processed, oldest first. -/
structure QueueIp {D : Type} (io : Mmio D) (ch : Channel) where
  depth : Nat
  uncompleted : D → List Descriptor
  depth_le : depth ≤ 128
  room : ∀ d, (uncompleted d).length ≤ depth
  /-- The slots register shows the number of free descriptor slots. -/
  slots : ∀ d, (io.read32 ch.slotsReg d).1 = depth - (uncompleted d).length
  /-- A read pushes nothing. -/
  reads32 : ∀ o d, uncompleted (io.read32 o d).2 <:+ uncompleted d
  reads64 : ∀ o d, uncompleted (io.read64 o d).2 <:+ uncompleted d
  /-- A reset completes everything. -/
  reset : ∀ v d, v % 2 = 1 → uncompleted (io.write32 stDbgIpConfigResetAndLoopback v d) = []
  /-- The two writes of a push append one descriptor if there is room. -/
  pushes : ∀ v w d, (uncompleted d).length < depth →
    uncompleted (io.write64 ch.pushReg w (io.write64 ch.howLongReg v d)) <:+ uncompleted d ++ [⟨v, w⟩]

/-- One channel of the debug IP with the other accesses of the server. `committed` are all descriptors ever
pushed. -/
structure ChannelIp {D : Type} (io : Mmio D) (info : DesignInfo) (ch : Channel) extends
    QueueIp io ch where
  committed : D → List Descriptor
  committed_read32 : ∀ o d, committed (io.read32 o d).2 = committed d
  committed_read64 : ∀ o d, committed (io.read64 o d).2 = committed d
  /-- A 32-bit write to a control register pushes nothing. -/
  write32 : ∀ o v d,
    o ∈ [stDbgIpConfigResetAndLoopback, stDbgIpT2hDescriptorsDone, stDbgIpMgmtRspDescriptorsDone] →
    uncompleted (io.write32 o v d) <:+ uncompleted d ∧ committed (io.write32 o v d) = committed d
  /-- A store into the H2T window, or up to 64 bytes behind it, pushes nothing. -/
  store : ∀ o v d, info.h2tMemBaseAddr ≤ o → o < info.h2tMemBaseAddr + info.h2tMemSz + 64 →
    uncompleted (io.write64 o v d) <:+ uncompleted d ∧ committed (io.write64 o v d) = committed d
  committed_push : ∀ v w d, (uncompleted d).length < depth →
    committed (io.write64 ch.pushReg w (io.write64 ch.howLongReg v d)) = committed d ++ [⟨v, w⟩]

namespace ChannelIp

variable {D : Type} {io : Mmio D} {info : DesignInfo} {ch : Channel} (ip : ChannelIp io info ch)

/-- The IP, or the bus, may have gone from `d` to `d'` without a push: some of the oldest descriptors
have been completed. Whatever else the IP keeps may have changed. -/
def Proceeds (d d' : D) : Prop :=
  ip.uncompleted d' <:+ ip.uncompleted d ∧ ip.committed d' = ip.committed d

theorem Proceeds.refl (d : D) : ip.Proceeds d d := ⟨List.suffix_refl _, rfl⟩

variable {ip} in
theorem Proceeds.trans {d d' d'' : D} (h : ip.Proceeds d d') (h' : ip.Proceeds d' d'') :
    ip.Proceeds d d'' :=
  ⟨h'.1.trans h.1, h'.2.trans h.2⟩

theorem read32 (o : Nat) (d : D) : ip.Proceeds d (io.read32 o d).2 :=
  ⟨ip.reads32 o d, ip.committed_read32 o d⟩

theorem read64 (o : Nat) (d : D) : ip.Proceeds d (io.read64 o d).2 :=
  ⟨ip.reads64 o d, ip.committed_read64 o d⟩

/-- A 64-bit store into the H2T window, or up to `room` bytes behind it, pushes nothing. -/
def Quiet (room : Nat) : Prop :=
  ∀ o v d, info.h2tMemBaseAddr ≤ o → o < info.h2tMemBaseAddr + info.h2tMemSz + room →
    ip.Proceeds d (io.write64 o v d)

theorem quiet : ip.Quiet 64 := ip.store

end ChannelIp

end RemoteDebug
