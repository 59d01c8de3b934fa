import RemoteDebug.Hardware.Contract
import RemoteDebug.Server.Data
import RemoteDebug.Lib.Runs

/-!
# Runs of T2H packets

What the T2H path relies on: the IP presents a descriptor in two registers and leaves the bytes of its
payload in the T2H window alone until the descriptor is done. The runs are calls of
`process_t2h_data`, between which the hardware may do anything.
-/

namespace RemoteDebug

open Bytes

variable {D : Type}

/-- The T2H descriptor that the IP presents, as `get_t2h_data` reads it. -/
def frontT2h (io : Mmio D) (d : D) : Descriptor where
  howlongWhere := (io.read64 stDbgIpT2hHowLong d).1
  pushWord := (io.read64 stDbgIpT2hConnectionId (io.read64 stDbgIpT2hHowLong d).2).1

/-- The memory of the IP. The contents at the addresses `held` do not change while the host reads. -/
structure T2hIp (io : Mmio D) (info : DesignInfo) where
  mem : D → Nat → UInt8
  held : D → Set Nat
  /-- The payload of the presented descriptor is held, wrapped around the end of the window. -/
  held_front : ∀ d i, i < (frontT2h io d).howLong →
    info.t2hMemBaseAddr + ((frontT2h io d).addr + i) % info.t2hMemSz ∈ held d
  /-- A read in the T2H window delivers the memory. -/
  read : ∀ a d, info.t2hMemBaseAddr ≤ a → a < info.t2hMemBaseAddr + info.t2hMemSz →
    (io.read64 a d).1 = word64 (mem d) a
  keeps : ∀ o d a, a ∈ held d → mem (io.read64 o d).2 a = mem d a ∧ a ∈ held (io.read64 o d).2

/-- The IP presents no descriptor, or one of at most 65535 bytes that lies in the T2H window. -/
def ValidFront (io : Mmio D) (info : DesignInfo) (d : D) : Prop :=
  (frontT2h io d).howLong = 0 ∨
    ((frontT2h io d).howLong < 2 ^ 16 ∧ (frontT2h io d).howLong ≤ info.t2hMemSz ∧
      (frontT2h io d).addr < info.t2hMemSz)

/-- The T2H window lies below 2 GiB. -/
def T2hWindowOk (info : DesignInfo) : Prop := info.t2hMemBaseAddr + info.t2hMemSz ≤ 2 ^ 31

/-- The payload of the presented descriptor. -/
def T2hIp.payload {io : Mmio D} {info : DesignInfo} (ip : T2hIp io info) (d : D) : List UInt8 :=
  (List.range (frontT2h io d).howLong).map fun i =>
    ip.mem d (info.t2hMemBaseAddr + ((frontT2h io d).addr + i) % info.t2hMemSz)

/-- The packet for the presented descriptor, if there is one: guardband, the header as `get_t2h_data`
fills it, payload. -/
def T2hIp.presented {io : Mmio D} {cfg : Config} (ip : T2hIp io cfg.info) (s : Srv D) :
    List (List UInt8) :=
  if (frontT2h io s.dev).howLong = 0 then []
  else
    [packetGuardband
      ++ (getT2hData io cfg.info (headerOf s.conn.t2hHeaderBuff) s.drv s.dev).1.toBytes
      ++ ip.payload s.dev]

/-- What goes out for an event: the bytes sent on the T2H socket, and `none` for each call of
`t2h_data_complete`. -/
def wireEvent : Event → List (Option UInt8)
  | .sent .t2hData bs => bs.map some
  | .t2hDataComplete => [none]
  | _ => []

/-- What has gone out. -/
def wire (log : List Event) : List (Option UInt8) := log.flatMap wireEvent

/-- A packet that has gone out with its completion. -/
def wirePacket (packet : List UInt8) : List (Option UInt8) := packet.map some ++ [none]

/-- The IP presents a descriptor that fits a T2H window of `span` bytes. -/
structure PresentsFitting (io : Mmio D) (span : Nat) (d : D) : Prop where
  howLong_pos : 0 < (frontT2h io d).howLong
  howLong_le : (frontT2h io d).howLong ≤ span
  addr_lt : (frontT2h io d).addr < span

/-- From `s` to `s'` one packet has gone out: the length in its header and that of its payload are the
length of the presented descriptor, and it has been completed once. -/
def SendsWhole (io : Mmio D) (s s' : Srv D) : Prop :=
  ∃ header payload, header.dataLenBytes.toNat = (frontT2h io s.dev).howLong ∧
    payload.length = (frontT2h io s.dev).howLong ∧
    wire s'.log = wire s.log ++
      wirePacket ((putHeader s.conn.t2hHeaderBuff header).bytes ++ payload)

/-- The server with the packets acquired so far. -/
structure T2hState (D : Type) where
  srv : Srv D
  acquired : List (List UInt8)

inductive T2hAction where
  | process
  | hardware
  deriving DecidableEq

/-- One step: a successful call of `process_t2h_data`, or the hardware does anything. -/
inductive T2hStep {io : Mmio D} (cfg : Config) (ip : T2hIp io cfg.info) :
    T2hState D → T2hAction → T2hState D → Prop
  | process {s : T2hState D} {s' : Srv D} (hvalid : ValidFront io cfg.info s.srv.dev)
      (hcall : processT2hData io cfg s.srv = (.ok, s')) :
      T2hStep cfg ip s .process ⟨s', s.acquired ++ ip.presented s.srv⟩
  | hardware (s : T2hState D) (d : D) :
      T2hStep cfg ip s .hardware { s with srv := { s.srv with dev := d } }

end RemoteDebug
