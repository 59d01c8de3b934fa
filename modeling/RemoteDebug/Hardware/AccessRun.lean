import RemoteDebug.Hardware.ServerRun

/-!
# The accesses of the server

The bus with a list of the accesses that have been made, the registers that the server uses, and what
the sizes on the command line have to meet.
-/

namespace RemoteDebug

open Bytes

variable {D : Type} {io : Mmio D}

/-- An access to `width` bytes from `offset` on. -/
structure BusAccess where
  offset : Nat
  width : Nat
  deriving DecidableEq

/-- The bus that notes every access. -/
def Mmio.traced (io : Mmio D) : Mmio (D × List BusAccess) where
  read32 offset x :=
    let y := io.read32 offset x.1
    (y.1, y.2, x.2 ++ [⟨offset, 4⟩])
  read64 offset x :=
    let y := io.read64 offset x.1
    (y.1, y.2, x.2 ++ [⟨offset, 8⟩])
  write32 offset v x := (io.write32 offset v x.1, x.2 ++ [⟨offset, 4⟩])
  write64 offset v x := (io.write64 offset v x.1, x.2 ++ [⟨offset, 8⟩])

/-- The access lies in the mapping of `span` bytes, above the start address. -/
def InSpan (start span : Nat) (a : BusAccess) : Prop := start + a.offset + a.width ≤ span

/-- The contract does not depend on the notes. -/
def ChannelIp.traced {info : DesignInfo} {ch : Channel} (ip : ChannelIp io info ch) :
    ChannelIp io.traced info ch where
  depth := ip.depth
  uncompleted x := ip.uncompleted x.1
  depth_le := ip.depth_le
  room x := ip.room x.1
  slots x := ip.slots x.1
  reads32 o x := ip.reads32 o x.1
  reads64 o x := ip.reads64 o x.1
  reset v x h := ip.reset v x.1 h
  pushes v w x h := ip.pushes v w x.1 h
  committed x := ip.committed x.1
  committed_read32 o x := ip.committed_read32 o x.1
  committed_read64 o x := ip.committed_read64 o x.1
  write32 o v x h := ip.write32 o v x.1 h
  store o v x h h' := ip.store o v x.1 h h'
  committed_push v w x h := ip.committed_push v w x.1 h

/-- What the hardware does on its own is no access. -/
def ProceedsUnnoted {info : DesignInfo} {ch : Channel} (ip : ChannelIp io info ch)
    (x x' : D × List BusAccess) : Prop :=
  ip.Proceeds x.1 x'.1 ∧ x'.2 = x.2

/-! ## Layout -/

/-- The registers that the server uses without `ENABLE_MGMT`. -/
def registers : List BusAccess :=
  [⟨stDbgIpConfigType, 8⟩, ⟨stDbgIpConfigResetAndLoopback, 4⟩,
    ⟨stDbgIpConfigMgmtMgmtRspDescDepth, 4⟩, ⟨stDbgIpH2tAvailableSlots, 4⟩, ⟨stDbgIpH2tHowLong, 8⟩,
    ⟨stDbgIpH2tConnectionId, 8⟩, ⟨stDbgIpT2hHowLong, 8⟩, ⟨stDbgIpT2hConnectionId, 8⟩,
    ⟨stDbgIpT2hDescriptorsDone, 4⟩, ⟨stDbgIpMgmtAvailableSlots, 4⟩]

/-- The address of byte `i` of a window: addresses are `uint32_t`. -/
def windowAddr (base i : Nat) : Nat := (base + i) % 2 ^ 32

/-- The windows are where the formula of `get_design_info` puts them in exact arithmetic, and they
share no address with each other or with a register. -/
structure LayoutOk (memSize : Nat) : Prop where
  h2t_exact : ∀ i < memSize, windowAddr (getDesignInfo memSize).h2tMemBaseAddr i =
    (if jopMemSize2k < memSize then memSize else h2tMemBase2k) + i
  t2h_exact : ∀ i < memSize, windowAddr (getDesignInfo memSize).t2hMemBaseAddr i =
    (if jopMemSize2k < memSize then 2 * memSize else t2hMemBase4k) + i
  windows : ∀ i < memSize, ∀ j < memSize, windowAddr (getDesignInfo memSize).h2tMemBaseAddr i ≠
    windowAddr (getDesignInfo memSize).t2hMemBaseAddr j
  csrs : ∀ r ∈ registers, ∀ k < r.width, ∀ i < memSize,
    r.offset + k ≠ windowAddr (getDesignInfo memSize).h2tMemBaseAddr i ∧
      r.offset + k ≠ windowAddr (getDesignInfo memSize).t2hMemBaseAddr i
  apart : registers.Pairwise fun r r' => r.offset + r.width ≤ r'.offset

/-- The windows lie behind the registers and fit 32 bits, or end before the last register. -/
def LayoutFits (memSize : Nat) : Prop :=
  memSize ≤ 256 ∨ (0x1104 ≤ memSize ∧ 3 * memSize ≤ 2 ^ 32)

/-- The mapping covers the registers and the windows. -/
def SpanCovers (info : DesignInfo) (start span : Nat) : Prop :=
  start + 0x1104 ≤ span ∧ start + info.t2hMemBaseAddr + info.t2hMemSz ≤ span

/-! ## Runs -/

/-- `handle_client` only serves MGMT_RSP with `ENABLE_MGMT`. -/
def MgmtRspEnabled (_ : ServerState D) (a : ServerAction) : Prop := a = .mgmtRsp → enableMgmt = true

/-- The payload that `process_t2h_data` sends ends, in whole words, in the first `size` bytes from the
start of the T2H window. Its length is that of the descriptor modulo 64 KiB. -/
def T2hFits (io : Mmio D) (info : DesignInfo) (size : Nat) (s : ServerState D) (a : ServerAction) :
    Prop :=
  a = .t2h → (frontT2h io s.srv.dev).howLong % 2 ^ 16 ≠ 0 →
    (frontT2h io s.srv.dev).addr + wordBytes (min ((frontT2h io s.srv.dev).howLong % 2 ^ 16)
      (info.t2hMemSz - (frontT2h io s.srv.dev).addr)) ≤ size

/-- What a run over the traced bus has to meet: T2H descriptors lie in their window, and what is sent
and echoed in whole words ends in the mapping. -/
structure AccessGuard (io : Mmio D) (info : DesignInfo) (start span : Nat) (s : ServerState D)
    (a : ServerAction) : Prop where
  mgmtRsp : MgmtRspEnabled s a
  t2hInWindow : T2hInWindow io info s a
  t2h : T2hFits io info (span - start - info.t2hMemBaseAddr) s a
  echo : EchoFits (span - start - info.h2tMemBaseAddr) s a

end RemoteDebug
