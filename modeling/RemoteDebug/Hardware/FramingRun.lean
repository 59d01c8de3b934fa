import RemoteDebug.Driver
import RemoteDebug.Lib.Runs

/-!
# Runs of the packet framing

The calls of `init_driver`, `get_t2h_data`, `get_mgmt_rsp_data` and `set_driver_param` on
`#HW_LOOPBACK`, in any order, against any hardware. The trace of a run has the emitted headers and the
resets of the IP.
-/

namespace RemoteDebug

variable {D : Type}

/-- The two channels from the FPGA to the host. -/
inductive Outbound where
  | t2h
  | mgmtRsp
  deriving DecidableEq

/-- The register with the first word of a descriptor. -/
def Outbound.howLongReg : Outbound → Nat
  | t2h => stDbgIpT2hHowLong
  | mgmtRsp => stDbgIpMgmtRspHowLong

/-- `get_t2h_data` or `get_mgmt_rsp_data`. -/
def Outbound.getData (io : Mmio D) (info : DesignInfo) (o : Outbound) (header : H2tPacketHeader)
    (drv : Driver) (d : D) : H2tPacketHeader × Option Nat × Driver × D :=
  match o with
  | t2h => getT2hData io info header drv d
  | mgmtRsp => getMgmtRspData io info header drv d

/-- `g_t2h_sop` or `g_mgmt_rsp_sop`. -/
def Driver.sop (drv : Driver) : Outbound → Bool
  | .t2h => drv.t2hSop
  | .mgmtRsp => drv.mgmtRspSop

/-- The LAST bit of the first word of a descriptor. -/
def lastSet (howlongWhere : Nat) : Bool := howlongWhere / 2 ^ 31 % 2 = 1

inductive FrameEvent where
  /-- A header was emitted for a descriptor with this LAST bit. -/
  | emit (header : H2tPacketHeader) (last : Bool)
  /-- The H2T and T2H reset was asserted. -/
  | reset
  deriving DecidableEq

/-- The driver, the hardware and the trace of each channel. -/
structure FramingState (D : Type) where
  drv : Driver
  dev : D
  trace : Outbound → List FrameEvent

namespace FramingState

/-- The state when the program starts. -/
def start (d : D) : FramingState D := ⟨.static, d, fun _ => []⟩

/-- `init_driver`, which asserts the reset unless it fails. -/
def init (io : Mmio D) (info : DesignInfo) (s : FramingState D) : FramingState D :=
  let x := initDriver io info s.drv s.dev
  ⟨x.2.1, x.2.2, if x.1 = 0 then fun o => s.trace o ++ [.reset] else s.trace⟩

/-- A call of `get_t2h_data` or `get_mgmt_rsp_data` on a header buffer with the header `header`. -/
def get (io : Mmio D) (info : DesignInfo) (o : Outbound) (header : H2tPacketHeader)
    (s : FramingState D) : FramingState D :=
  let x := o.getData io info header s.drv s.dev
  ⟨x.2.2.1, x.2.2.2,
    if x.2.1.isSome then
      Function.update s.trace o
        (s.trace o ++ [.emit x.1 (lastSet (io.read64 o.howLongReg s.dev).1)])
    else s.trace⟩

end FramingState

inductive FramingAction where
  | init
  | get (o : Outbound)
  | setLoopback
  | hardware
  deriving DecidableEq

/-- One step; the hardware may do anything on its own. -/
inductive FramingStep (io : Mmio D) (info : DesignInfo) :
    FramingState D → FramingAction → FramingState D → Prop
  | init (s : FramingState D) : FramingStep io info s .init (s.init io info)
  | get (s : FramingState D) (o : Outbound) (header : H2tPacketHeader) :
      FramingStep io info s (.get o) (s.get io info o header)
  | setLoopback {s : FramingState D} {val : List UInt8} {d : D}
      (hcall : setDriverParam io hwLoopbackParam (some val) s.dev = some d) :
      FramingStep io info s .setLoopback ⟨s.drv, d, fun o => s.trace o ++ [.reset]⟩
  | hardware (s : FramingState D) (d : D) : FramingStep io info s .hardware { s with dev := d }

/-- Whether the next header is to start a packet: nothing has been emitted since the latest reset, or
the previous header ended a packet. -/
def expectSop (trace : List FrameEvent) : Bool :=
  match trace.getLast? with
  | none => true
  | some .reset => true
  | some (.emit header _) => header.eop

/-- Every emitted header starts a packet exactly if one is to start, and ends it exactly if its
descriptor is the last one. -/
def Framed (trace : List FrameEvent) : Prop :=
  ∀ before header last after, trace = before ++ .emit header last :: after →
    header.sop = expectSop before ∧ header.eop = last

end RemoteDebug
