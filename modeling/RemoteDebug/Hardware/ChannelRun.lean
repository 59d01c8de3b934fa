import RemoteDebug.Hardware.Contract
import RemoteDebug.Lib.CyclicRegion
import RemoteDebug.Lib.Runs

/-!
# Runs of the buffer allocation

The calls of `init_driver` and `get_h2t_buffer` with `push_h2t_data`, or their MGMT siblings, in any order,
with the IP completing descriptors at any time.
-/

namespace RemoteDebug

open Cyclic

variable {D : Type} {io : Mmio D}

/-- The variables of the driver for a channel. -/
def Driver.ring (drv : Driver) : Channel → DescriptorRing
  | .h2t => drv.h2t
  | .mgmt => drv.mgmt

/-- The driver with new variables for a channel. -/
def Driver.setRing (drv : Driver) (ch : Channel) (r : DescriptorRing) : Driver :=
  match ch with
  | .h2t => { drv with h2t := r }
  | .mgmt => { drv with mgmt := r }

/-- `get_h2t_buffer` or `get_mgmt_buffer`. -/
def Channel.getBuffer (io : Mmio D) (cfg : Config) (ch : Channel) (sz : Nat) (drv : Driver) (d : D) :
    Option (Nat × Driver × D) :=
  match ch with
  | .h2t => getH2tBuffer io cfg sz drv d
  | .mgmt => getMgmtBuffer io cfg sz drv d

/-- `push_h2t_data` or `push_mgmt_data`. -/
def Channel.pushData (io : Mmio D) (ch : Channel) (header : H2tPacketHeader) (payload : Nat)
    (drv : Driver) (d : D) : Driver × D :=
  match ch with
  | .h2t => pushH2tData io header payload drv d
  | .mgmt => pushMgmtData io header payload drv d

/-- The value that a push of the packet `header` writes to the push register. -/
def Channel.pushWord (ch : Channel) (header : H2tPacketHeader) : Nat :=
  match ch with
  | .h2t => connidChannelpush header
  | .mgmt => channelIdPush header

/-- The bus after the two writes of a push. -/
def Channel.pushWrites (io : Mmio D) (ch : Channel) (header : H2tPacketHeader) (payload : Nat)
    (d : D) : D :=
  io.write64 ch.pushReg (ch.pushWord header)
    (io.write64 ch.howLongReg (howlongWhere header payload) d)

/-- The descriptor of the packet `header` with its payload at `payload`. -/
def Channel.descriptor (ch : Channel) (header : H2tPacketHeader) (payload : Nat) : Descriptor where
  howlongWhere := howlongWhere header payload
  pushWord := ch.pushWord header

/-- The region of the window that the driver has allocated for a descriptor. -/
def Descriptor.region (base : Nat) (x : Descriptor) : Region where
  start := x.addr - base
  len := x.alignedLen

/-- The driver and the IP, with the descriptors of the channel whose completion the driver has not
observed. -/
structure ChannelState (D : Type) where
  drv : Driver
  dev : D
  unobserved : List Descriptor

/-- What happens in one step. -/
inductive ChannelAction where
  | init
  | get (header : H2tPacketHeader)
  | outside
  deriving DecidableEq

namespace ChannelState

/-- The state before any descriptor is pushed. -/
def fresh (drv : Driver) (d : D) : ChannelState D := ⟨drv, d, []⟩

/-- `init_driver`. If it succeeds nothing is outstanding. -/
def init (io : Mmio D) (cfg : Config) (s : ChannelState D) : ChannelState D :=
  let x := initDriver io cfg.info s.drv s.dev
  ⟨x.2.1, x.2.2, if x.1 = 0 then [] else s.unobserved⟩

/-- `get_h2t_buffer` for the packet `header`, immediately followed by `push_h2t_data` if a buffer is
granted, or the same on the MGMT channel. The call observes all completions up to its read. -/
def get {ch : Channel} (cfg : Config) (ip : QueueIp io ch) (header : H2tPacketHeader)
    (s : ChannelState D) : Option (ChannelState D) :=
  (ch.getBuffer io cfg header.dataLenBytes.toNat s.drv s.dev).map fun x =>
    if x.1 ≠ 0 then
      let y := ch.pushData io header x.1 x.2.1 x.2.2
      ⟨y.1, y.2, ip.uncompleted s.dev ++ [ch.descriptor header x.1]⟩
    else ⟨x.2.1, x.2.2, ip.uncompleted s.dev⟩

end ChannelState

/-- One step: `init_driver`, a packet for which a buffer is asked, or something that does not concern the
channel but for completions: the IP proceeds on its own, the driver serves other channels. -/
inductive ChannelStep {ch : Channel} (cfg : Config) (ip : QueueIp io ch) :
    ChannelState D → ChannelAction → ChannelState D → Prop
  | init (s : ChannelState D) : ChannelStep cfg ip s .init (s.init io cfg)
  | get {s s' : ChannelState D} {header : H2tPacketHeader} (hcall : s.get cfg ip header = some s') :
      ChannelStep cfg ip s (.get header) s'
  | outside {s : ChannelState D} {drv : Driver} {d : D} (hring : drv.ring ch = s.drv.ring ch)
      (hproc : ip.uncompleted d <:+ ip.uncompleted s.dev) :
      ChannelStep cfg ip s .outside { s with drv := drv, dev := d }

/-- The descriptors whose completion the next `get_h2t_buffer` or `get_mgmt_buffer` observes. -/
def ChannelState.observed {ch : Channel} (ip : QueueIp io ch) (s : ChannelState D) : List Descriptor :=
  s.unobserved.take (s.unobserved.length - (ip.uncompleted s.dev).length)

/-- The window of the channel has a nonzero size and its addresses are nonzero and fit 32 bits. -/
structure WindowOk (info : DesignInfo) (ch : Channel) : Prop where
  base_pos : 0 < ch.base info
  span_pos : 0 < ch.span info
  fits : ch.base info + ch.span info ≤ 2 ^ 32

end RemoteDebug
