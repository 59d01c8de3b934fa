import RemoteDebug.Hardware.LoopbackRun
import RemoteDebug.Hardware.WindowMemory
import Mathlib.Data.List.ReduceOption

/-!
# Sessions with the hardware loopback

What the data path relies on while the loopback field of the debug IP is set: the IP takes the H2T
descriptors in the order in which they were pushed, copies each payload from the H2T window and presents
it with the words of its descriptor on the T2H channel. The runs are calls of `process_h2t_data` and
`process_t2h_data` in any order, between which and during which the IP proceeds.
-/

namespace RemoteDebug

open Bytes Script

variable {D : Type}

/-- A packet inside the IP: its descriptor, and the payload that was found at the address of it. -/
structure Looped where
  descriptor : Descriptor
  payload : List UInt8
  deriving DecidableEq

/-- The address of byte `i` of the payload of a descriptor, wrapped around the end of the H2T window. -/
def Descriptor.byteAddr (info : DesignInfo) (x : Descriptor) (i : Nat) : Nat :=
  info.h2tMemBaseAddr + (x.addr - info.h2tMemBaseAddr + i) % info.h2tMemSz

/-- The packet `l` is what the IP makes of the descriptor `x` while the memory goes from `m` to `m'`: each
byte is copied before or after the change. -/
structure LoopedAs (info : DesignInfo) (m m' : Nat → UInt8) (x : Descriptor) (l : Looped) : Prop where
  descriptor : l.descriptor = x
  length : l.payload.length = x.howLong
  bytes : ∀ i (h : i < l.payload.length),
    l.payload[i] = m (x.byteAddr info i) ∨ l.payload[i] = m' (x.byteAddr info i)

/-- From `d` to `d'` the IP has looped some of the oldest of the descriptors `live` behind the packets
`back`; the others are left. -/
def Loops {io : Mmio D} {info : DesignInfo} (ip : ChannelIp io info .h2t) (mem : D → Nat → UInt8)
    (looped : D → List Looped) (live : List Descriptor) (back : List Looped) (d d' : D) : Prop :=
  ∃ taken more, live = taken ++ ip.uncompleted d' ∧ looped d' = back ++ more ∧
    List.Forall₂ (LoopedAs info (mem d) (mem d')) taken more

/-- The debug IP in loopback. `memory` is what the host has written to the H2T window, `looped` are the
packets that have been copied and not yet been taken from the T2H channel, oldest first. -/
structure LoopIp (io : Mmio D) (info : DesignInfo) where
  h2t : ChannelIp io info .h2t
  memory : H2tMemory io info
  t2h : T2hIp io info
  looped : D → List Looped
  slots : ∀ d, Loops h2t memory.mem looped (h2t.uncompleted d) (looped d) d
    (io.read32 stDbgIpH2tAvailableSlots d).2
  store : ∀ i w d, i < info.h2tMemSz → Loops h2t memory.mem looped (h2t.uncompleted d) (looped d) d
    (io.write64 (windowAddr info.h2tMemBaseAddr i) w d)
  push : ∀ v w d, (h2t.uncompleted d).length < h2t.depth →
    Loops h2t memory.mem looped (h2t.uncompleted d ++ [⟨v, w⟩]) (looped d) d
      (io.write64 stDbgIpH2tConnectionId w (io.write64 stDbgIpH2tHowLong v d))
  /-- Reading the length takes nothing away. -/
  howLong : ∀ d, Loops h2t memory.mem looped (h2t.uncompleted d) (looped d) d
      (io.read64 stDbgIpT2hHowLong d).2 ∧
    memory.mem (io.read64 stDbgIpT2hHowLong d).2 = memory.mem d
  /-- Reading the connection and the channel takes the oldest packet. -/
  advance : ∀ d, Loops h2t memory.mem looped (h2t.uncompleted d) (looped d).tail d
      (io.read64 stDbgIpT2hConnectionId d).2 ∧
    memory.mem (io.read64 stDbgIpT2hConnectionId d).2 = memory.mem d
  load : ∀ a d, info.t2hMemBaseAddr ≤ a → a < info.t2hMemBaseAddr + info.t2hMemSz →
    Loops h2t memory.mem looped (h2t.uncompleted d) (looped d) d (io.read64 a d).2 ∧
      memory.mem (io.read64 a d).2 = memory.mem d
  done : ∀ d, Loops h2t memory.mem looped (h2t.uncompleted d) (looped d) d
      (io.write32 stDbgIpT2hDescriptorsDone 1 d) ∧
    memory.mem (io.write32 stDbgIpT2hDescriptorsDone 1 d) = memory.mem d
  /-- The T2H registers show nothing, or the oldest packet with the words of its descriptor and its
  payload in the T2H window. -/
  front : ∀ d, (frontT2h io d).howLong = 0 ∨
    ∃ l rest, looped (io.read64 stDbgIpT2hHowLong d).2 = l :: rest ∧
      (frontT2h io d).howlongWhere % 2 ^ 32 = l.descriptor.howlongWhere % 2 ^ 32 ∧
      (frontT2h io d).pushWord = l.descriptor.pushWord ∧
      (frontT2h io d).howLong ≤ info.t2hMemSz ∧ (frontT2h io d).addr < info.t2hMemSz ∧
      t2h.payload d = l.payload

namespace LoopIp

variable {io : Mmio D} {info : DesignInfo} (ip : LoopIp io info)

/-- The memory as the host has written it. -/
def mem : D → Nat → UInt8 := ip.memory.mem

/-- What the IP may do on its own. -/
structure Proceeds (d d' : D) : Prop where
  h2t : ip.h2t.Proceeds d d'
  loops : Loops ip.h2t ip.mem ip.looped (ip.h2t.uncompleted d) (ip.looped d) d d'
  mem : ip.mem d' = ip.mem d

end LoopIp

inductive RoundTripAction where
  | h2t
  | t2h
  | hardware
  deriving DecidableEq

/-- One step: a call of `process_h2t_data`, a successful call of `process_t2h_data`, or the IP proceeds
on its own. -/
inductive RoundTripStep {io : Mmio D} (cfg : Config) (ip : LoopIp io cfg.info) :
    Srv D → RoundTripAction → Srv D → Prop
  | h2t {s : Srv D} {x : ReturnCode × Srv D} (hcall : processH2tData io cfg s = some x) :
      RoundTripStep cfg ip s .h2t x.2
  | t2h {s s' : Srv D} (hcall : processT2hData io cfg s = (.ok, s')) : RoundTripStep cfg ip s .t2h s'
  | hardware {s : Srv D} {d : D} (hproc : ip.Proceeds s.dev d) :
      RoundTripStep cfg ip s .hardware { s with dev := d }

/-- The payload of the packet is in the memory `m` where its descriptor says. -/
structure Stored (info : DesignInfo) (m : Nat → UInt8) (p : H2tPacket) (x : Descriptor) : Prop where
  descriptor : ∃ addr, x = Channel.h2t.descriptor p.header addr
  bytes : ∀ i (h : i < p.payload.length), m (x.byteAddr info i) = p.payload[i]

/-- The packet has been looped back as it was. -/
structure Returned (p : H2tPacket) (l : Looped) : Prop where
  descriptor : ∃ addr, l.descriptor = Channel.h2t.descriptor p.header addr
  payload : l.payload = p.payload

/-- The bytes that have gone out on the T2H socket. -/
def t2hBytes (log : List Event) : List UInt8 := (wire log).reduceOption

end RemoteDebug
