import RemoteDebug.Hardware.T2hRun

/-!
# Runs of the hardware loopback

The words that `push_h2t_data` writes come back in the T2H registers and are taken by `get_t2h_data`.
The hardware presents the length with the LAST bit and the connection with the channel as they were
written, in their order; the payload may be at any address.
-/

namespace RemoteDebug

variable {D : Type}

/-- The bus that records the 64-bit writes: register and value, oldest first. -/
def Mmio.recording (io : Mmio D) : Mmio (D × List (Nat × Nat)) where
  read32 offset x := ((io.read32 offset x.1).1, (io.read32 offset x.1).2, x.2)
  read64 offset x := ((io.read64 offset x.1).1, (io.read64 offset x.1).2, x.2)
  write32 offset v x := (io.write32 offset v x.1, x.2)
  write64 offset v x := (io.write64 offset v x.1, x.2 ++ [(offset, v)])

/-- The values that have been written to a register. -/
def writtenTo (reg : Nat) (writes : List (Nat × Nat)) : List Nat :=
  (writes.filter fun w => w.1 = reg).map Prod.snd

/-- The T2H registers show the words of the descriptor that was pushed behind `k` others. -/
def PresentsPushed (io : Mmio D) (k : Nat) (d : D) (writes : List (Nat × Nat)) : Prop :=
  ∃ howlong connid, (writtenTo stDbgIpH2tHowLong writes)[k]? = some howlong ∧
    (writtenTo stDbgIpH2tConnectionId writes)[k]? = some connid ∧
    (frontT2h io d).howlongWhere % 2 ^ 32 = howlong % 2 ^ 32 ∧ (frontT2h io d).pushWord = connid

/-- The driver and the recorded bus, with the headers that were pushed and those that came back. -/
structure LoopbackState (D : Type) where
  drv : Driver
  dev : D × List (Nat × Nat)
  sent : List H2tPacketHeader
  received : List H2tPacketHeader

namespace LoopbackState

/-- The state behind `init_driver`. -/
def start (drv : Driver) (d : D) : LoopbackState D where
  drv := drv
  dev := (d, [])
  sent := []
  received := []

/-- `push_h2t_data`. -/
def push (io : Mmio D) (header : H2tPacketHeader) (payload : Nat) (s : LoopbackState D) :
    LoopbackState D :=
  let x := pushH2tData io.recording header payload s.drv s.dev
  ⟨x.1, x.2, s.sent ++ [header], s.received⟩

/-- `get_t2h_data` into a header buffer with the header `buff`. -/
def get (io : Mmio D) (info : DesignInfo) (buff : H2tPacketHeader) (s : LoopbackState D) :
    LoopbackState D :=
  let x := getT2hData io.recording info buff s.drv s.dev
  ⟨x.2.2.1, x.2.2.2, s.sent, s.received ++ [x.1]⟩

@[simp] theorem push_sent (io : Mmio D) (header : H2tPacketHeader) (payload : Nat)
    (s : LoopbackState D) : (s.push io header payload).sent = s.sent ++ [header] := by
  cases s
  rfl

@[simp] theorem push_received (io : Mmio D) (header : H2tPacketHeader) (payload : Nat)
    (s : LoopbackState D) : (s.push io header payload).received = s.received := by
  cases s
  rfl

@[simp] theorem get_sent (io : Mmio D) (info : DesignInfo) (buff : H2tPacketHeader)
    (s : LoopbackState D) : (s.get io info buff).sent = s.sent := by
  cases s
  rfl

end LoopbackState

inductive LoopbackAction where
  | push
  | get
  | hardware
  deriving DecidableEq

/-- One step: `push_h2t_data` for any header with its payload anywhere, `get_t2h_data` for the next
descriptor, or the hardware does anything. -/
inductive LoopbackStep (io : Mmio D) (info : DesignInfo) :
    LoopbackState D → LoopbackAction → LoopbackState D → Prop
  | push (s : LoopbackState D) (header : H2tPacketHeader) (payload : Nat) :
      LoopbackStep io info s .push (s.push io header payload)
  | get {s : LoopbackState D} (buff : H2tPacketHeader)
      (hpresents : PresentsPushed io s.received.length s.dev.1 s.dev.2) :
      LoopbackStep io info s .get (s.get io info buff)
  | hardware (s : LoopbackState D) (d : D) :
      LoopbackStep io info s .hardware { s with dev := (d, s.dev.2) }

/-- Whether the header behind these is to start a packet. -/
def startsPacket (headers : List H2tPacketHeader) : Bool :=
  (headers.getLast?.map H2tPacketHeader.eop).getD true

/-- Headers of nonempty pieces of packets, with SOP on the first piece of each packet and no other bits
than SOP and EOP. -/
structure WellFramed (headers : List H2tPacketHeader) : Prop where
  sop : ∀ before header after, headers = before ++ header :: after →
    header.sop = startsPacket before
  flags : ∀ header ∈ headers, header.sopEop.toNat < 4
  nonempty : ∀ header ∈ headers, header.dataLenBytes ≠ 0

end RemoteDebug
