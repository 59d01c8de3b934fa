import RemoteDebug.Hardware.LoopbackRun
import RemoteDebug.Server.Session

/-!
# Runs of addresses

The addresses that `get_h2t_buffer` returns and those that `push_h2t_data` gives to the hardware, for a
size from the command line.
-/

namespace RemoteDebug

variable {D : Type}

/-- The driver and the recorded bus, with the addresses that `get_h2t_buffer` has returned. -/
structure AddressState (D : Type) where
  drv : Driver
  dev : D × List (Nat × Nat)
  returned : List Nat

/-- The state when the program starts. -/
def AddressState.start (d : D) : AddressState D := ⟨.static, (d, []), []⟩

inductive AddressAction where
  | init
  | get
  | push
  | hardware
  deriving DecidableEq

/-- One step: `init_driver`, `get_h2t_buffer` for a packet of any length, `push_h2t_data` at an address
that was returned, or the hardware does anything. -/
inductive AddressStep (io : Mmio D) (cfg : Config) :
    AddressState D → AddressAction → AddressState D → Prop
  | init (s : AddressState D) :
      AddressStep io cfg s .init
        ⟨(initDriver io.recording cfg.info s.drv s.dev).2.1,
          (initDriver io.recording cfg.info s.drv s.dev).2.2, s.returned⟩
  | get {s : AddressState D} {len : UInt16} {addr : Nat} {drv : Driver} {dev : D × List (Nat × Nat)}
      (hcall : getH2tBuffer io.recording cfg len.toNat s.drv s.dev = some (addr, drv, dev)) :
      AddressStep io cfg s .get ⟨drv, dev, s.returned ++ [addr]⟩
  | push {s : AddressState D} (header : H2tPacketHeader) {addr : Nat} (hmem : addr ∈ s.returned) :
      AddressStep io cfg s .push
        ⟨(pushH2tData io.recording header addr s.drv s.dev).1,
          (pushH2tData io.recording header addr s.drv s.dev).2, s.returned⟩
  | hardware (s : AddressState D) (d : D) :
      AddressStep io cfg s .hardware { s with dev := (d, s.dev.2) }

/-- The law beside `ST_DBG_IP_BUFF_ALIGN_POW_2`: returned addresses and the `WHERE` of every push are
multiples of 8. -/
structure AddressesAligned (s : AddressState D) : Prop where
  returned : ∀ addr ∈ s.returned, 8 ∣ addr
  wheres : ∀ howlongWhere ∈ writtenTo stDbgIpH2tHowLong s.dev.2, 8 ∣ howlongWhere / 2 ^ 32

/-- With windows of this size all addresses are aligned, whatever the hardware does. -/
def AlwaysAligned (memSize : Nat) : Prop :=
  ∀ (D : Type) (io : Mmio D) (charSigned : Bool) (d : D) (s : AddressState D),
    Runs.Reach (AddressStep io ⟨getDesignInfo memSize, charSigned⟩) Runs.always (.start d) s →
    AddressesAligned s

/-- The size is a multiple of 8, or too small for any payload. -/
def SizeAligned (memSize : Nat) : Prop := 8 ∣ memSize ∨ memSize < 8

end RemoteDebug
