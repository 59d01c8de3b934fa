import RemoteDebug.Hardware.DebugIp
import RemoteDebug.Hardware.FramingRun
import RemoteDebug.Lib.Interleaving
import RemoteDebug.Sockets

/-!
# The debug IP behind 32-bit words

The debug IP as the bus sees it: the words of its descriptor registers, and memory at all other
addresses. A write that covers `CHANNEL_ID_PUSH` commits the descriptor that has been staged, a read
that covers `CHANNEL_ID_ADVANCE` takes the oldest descriptor towards the host away. The IP may present
new descriptors, store their payload and complete others before every access.
-/

namespace RemoteDebug

open Bytes Interleaving

/-! ## Registers -/

/-- `ST_DBG_IP_T2H_CHANNEL_ID_ADVANCE`, `ST_DBG_IP_MGMT_RSP_CHANNEL_ID_ADVANCE`. -/
def Outbound.advanceReg : Outbound → Nat
  | t2h => stDbgIpT2hChannelIdAdvance
  | mgmtRsp => stDbgIpMgmtRspChannelIdAdvance

/-- `ST_DBG_IP_T2H_DESCRIPTORS_DONE`, `ST_DBG_IP_MGMT_RSP_DESCRIPTORS_DONE`. -/
def Outbound.doneReg : Outbound → Nat
  | t2h => stDbgIpT2hDescriptorsDone
  | mgmtRsp => stDbgIpMgmtRspDescriptorsDone

/-- The 32-bit registers of the descriptors. `MGMT` and `MGMT_RSP` have nothing in the place of
`CONNECTION_ID`; the driver writes `0` there and ignores what it reads. -/
inductive Csr where
  | howLong (ch : Channel)
  | where_ (ch : Channel)
  | connectionId (ch : Channel)
  | channelIdPush (ch : Channel)
  | outHowLong (o : Outbound)
  | outWhere (o : Outbound)
  | outConnectionId (o : Outbound)
  | channelIdAdvance (o : Outbound)
  | descriptorsDone (o : Outbound)
  deriving DecidableEq

def Csr.offset : Csr → Nat
  | howLong ch => ch.howLongReg
  | where_ ch => ch.howLongReg + 0x4
  | connectionId ch => ch.pushReg
  | channelIdPush ch => ch.pushReg + 0x4
  | outHowLong o => o.howLongReg
  | outWhere o => o.howLongReg + 0x4
  | outConnectionId o => o.advanceReg - 0x4
  | channelIdAdvance o => o.advanceReg
  | descriptorsDone o => o.doneReg

def Csr.all : List Csr :=
  [Channel.h2t, .mgmt].flatMap (fun ch => [howLong ch, where_ ch, connectionId ch, channelIdPush ch])
    ++ [Outbound.t2h, .mgmtRsp].flatMap fun o =>
      [outHowLong o, outWhere o, outConnectionId o, channelIdAdvance o, descriptorsDone o]

/-- The register at an offset. -/
def csrAt (offset : Nat) : Option Csr := Csr.all.find? fun r => r.offset = offset

/-- The eight bytes from `offset` on are memory. -/
def MemoryWord (offset : Nat) : Prop :=
  offset + 8 ≤ 2 ^ 32 ∧ ∀ r : Csr, r.offset + 4 ≤ offset ∨ offset + 8 ≤ r.offset

/-! ## State -/

/-- The words that have been written of the next descriptor. -/
structure Staged where
  howLong : Nat
  where_ : Nat
  connectionId : Nat
  deriving DecidableEq

/-- The state of the IP. `queue` has the descriptors that it has not completed, `waiting` those towards
the host that have not been taken; `done` counts the descriptors that the host has given back. -/
structure CsrIp where
  staged : Channel → Staged
  queue : Channel → List Descriptor
  committed : Channel → List Descriptor
  waiting : Outbound → List Descriptor
  popped : Outbound → List Descriptor
  done : Outbound → Nat
  mem : Nat → UInt8

/-- What the IP does on its own. -/
inductive IpStep where
  | complete (ch : Channel)
  | present (o : Outbound) (x : Descriptor)
  /-- A byte of a payload is stored in the memory. -/
  | store (addr : Nat) (b : UInt8)
  deriving DecidableEq

namespace CsrIp

def step : IpStep → CsrIp → CsrIp
  | .complete ch, d => { d with queue := Function.update d.queue ch (d.queue ch).tail }
  | .present o x, d => { d with waiting := Function.update d.waiting o (d.waiting o ++ [x]) }
  | .store addr b, d => { d with mem := Function.update d.mem addr b }

/-- The value of a register; without a descriptor the outbound registers are `0`. -/
def csr (d : CsrIp) : Csr → Nat
  | .howLong ch => (d.staged ch).howLong
  | .where_ ch => (d.staged ch).where_
  | .connectionId ch => (d.staged ch).connectionId
  | .outHowLong o => DebugIp.frontHowlong (d.waiting o) % 2 ^ 32
  | .outWhere o => DebugIp.frontHowlong (d.waiting o) / 2 ^ 32 % 2 ^ 32
  | .outConnectionId o => DebugIp.frontWord (d.waiting o) % 2 ^ 32
  | .channelIdAdvance o => DebugIp.frontWord (d.waiting o) / 2 ^ 32 % 2 ^ 32
  | .channelIdPush _ | .descriptorsDone _ => 0

/-- Takes the oldest descriptor towards the host away. -/
def pop (o : Outbound) (d : CsrIp) : CsrIp :=
  match d.waiting o with
  | [] => d
  | x :: l =>
    { d with
      waiting := Function.update d.waiting o l
      popped := Function.update d.popped o (d.popped o ++ [x]) }

/-- Commits the staged descriptor of the channel with the word `v` of `CHANNEL_ID_PUSH`. -/
def commit (ch : Channel) (v : Nat) (d : CsrIp) : CsrIp :=
  let x : Descriptor :=
    ⟨(d.staged ch).howLong + 2 ^ 32 * (d.staged ch).where_,
      (d.staged ch).connectionId + 2 ^ 32 * v⟩
  { d with
    queue := Function.update d.queue ch (d.queue ch ++ [x])
    committed := Function.update d.committed ch (d.committed ch ++ [x]) }

/-- A write of `v` to a register. -/
def setCsr (v : Nat) (d : CsrIp) : Csr → CsrIp
  | .howLong ch =>
    { d with staged := Function.update d.staged ch { d.staged ch with howLong := v } }
  | .where_ ch =>
    { d with staged := Function.update d.staged ch { d.staged ch with where_ := v } }
  | .connectionId ch =>
    { d with staged := Function.update d.staged ch { d.staged ch with connectionId := v } }
  | .channelIdPush ch => d.commit ch v
  | .descriptorsDone o => { d with done := Function.update d.done o (d.done o + v) }
  | .outHowLong _ | .outWhere _ | .outConnectionId _ | .channelIdAdvance _ => d

/-! ## The bus -/

/-- A read of the word at `offset`. -/
def readWord (offset : Nat) : Access CsrIp Nat where
  read d :=
    match csrAt offset with
    | some r => d.csr r
    | none => word32 d.mem offset
  effect d :=
    match csrAt offset with
    | some (.channelIdAdvance o) => d.pop o
    | _ => d

/-- A write of `v` to the word at `offset`. -/
def writeWord (offset v : Nat) : Access CsrIp Unit where
  read _ := ()
  effect d :=
    match csrAt offset with
    | some r => d.setCsr v r
    | none => { d with mem := store32 d.mem offset v }

/-- The IP with what it is going to do before each access. -/
abbrev Bus := CsrIp × List (List IpStep)

/-- The native bus: both words of a 64-bit access are accessed at once. -/
def bus : Mmio Bus where
  read32 offset := (readWord offset).run step
  read64 offset x :=
    let w := ((readWord offset).both (readWord (offset + 4))).run step x
    (w.1.1 ||| w.1.2 <<< 32, w.2)
  write32 offset v x := ((writeWord offset v).run step x).2
  write64 offset v x :=
    (((writeWord offset (v % 2 ^ 32)).both (writeWord (offset + 4) (v / 2 ^ 32 % 2 ^ 32))).run
      step x).2

end CsrIp

/-! ## Calls of the driver -/

/-- A call of the driver: with the header buffer for what is received, and with the host buffer for a
copy. -/
inductive DriverCall where
  | pushH2tData (header : H2tPacketHeader) (payload : Nat)
  | pushMgmtData (header : MgmtPacketHeader) (payload : Nat)
  | getT2hData (header : H2tPacketHeader)
  | getMgmtRspData (header : MgmtPacketHeader)
  | t2hDataComplete
  | mgmtRspDataComplete
  | memcpy64Fpga2host (fpgaBuff len : Nat) (host : Staging)
  | memcpy64Host2fpga (host : Staging) (fpgaBuff len : Nat)

/-- What a call returns: the header with the payload address, or the host buffer. -/
inductive CallResult where
  | done
  | header (header : H2tPacketHeader) (payload : Option Nat)
  | host (host : Staging)

variable {D : Type}

namespace DriverCall

/-- The call with the driver `drv`. -/
def run (io : Mmio D) (info : DesignInfo) (drv : Driver) (d : D) :
    DriverCall → (CallResult × Driver) × D
  | pushH2tData header payload =>
    let x := RemoteDebug.pushH2tData io header payload drv d
    ((.done, x.1), x.2)
  | pushMgmtData header payload =>
    let x := RemoteDebug.pushMgmtData io header payload drv d
    ((.done, x.1), x.2)
  | getT2hData header =>
    let x := RemoteDebug.getT2hData io info header drv d
    ((.header x.1 x.2.1, x.2.2.1), x.2.2.2)
  | getMgmtRspData header =>
    let x := RemoteDebug.getMgmtRspData io info header drv d
    ((.header x.1 x.2.1, x.2.2.1), x.2.2.2)
  | t2hDataComplete => ((.done, drv), RemoteDebug.t2hDataComplete io d)
  | mgmtRspDataComplete => ((.done, drv), RemoteDebug.mgmtRspDataComplete io d)
  | memcpy64Fpga2host fpgaBuff len host =>
    let x := RemoteDebug.memcpy64Fpga2host io fpgaBuff len host d
    ((.host x.1, drv), x.2)
  | memcpy64Host2fpga host fpgaBuff len =>
    ((.done, drv), RemoteDebug.memcpy64Host2fpga io host fpgaBuff len d)

/-- All words of a copy are memory. -/
def InMemory : DriverCall → Prop
  | memcpy64Fpga2host fpgaBuff len _ | memcpy64Host2fpga _ fpgaBuff len =>
    ∀ i < (len + 7) / 8, MemoryWord ((fpgaBuff + 8 * i) % 2 ^ 32)
  | _ => True

end DriverCall

/-- The calls one after the other, with what each of them returns. -/
def runCalls (io : Mmio D) (info : DesignInfo) :
    List DriverCall → Driver → D → (List CallResult × Driver) × D
  | [], drv, d => (([], drv), d)
  | c :: calls, drv, d =>
    let x := c.run io info drv d
    let y := runCalls io info calls x.1.2 x.2
    ((x.1.1 :: y.1.1, y.1.2), y.2)

end RemoteDebug
