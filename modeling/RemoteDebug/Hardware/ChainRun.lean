import RemoteDebug.Hardware.ChannelRun

/-!
# The descriptor chain

What the driver expects of the chain between `get_h2t_buffer` and `push_h2t_data`, and of the loop that
reclaims its entries, also when the bus returns anything.
-/

namespace RemoteDebug

variable {D : Type} {io : Mmio D} {cfg : Config}

/-! ## With a debug IP behind the bus -/

/-- The entry of a descriptor in the chain, an `unsigned short`. -/
def Descriptor.chainEntry (x : Descriptor) : Nat := x.alignedLen % 2 ^ 16

/-- `freed_descriptor_slots` for the value `slots` of the available-slots register. -/
def DescriptorRing.freedSlots (r : DescriptorRing) (slots : Nat) : Nat :=
  (slots + 2 ^ 32 - r.slotsAvailable) % 2 ^ 32

/-- The slot counter, the two indices and the chain of `r` agree with the descriptors `live`, oldest
first, that have been allocated and whose completion has not been observed. -/
structure ChainFaithful (depth : Nat) (r : DescriptorRing) (live : List Descriptor) : Prop where
  slots : (r.slotsAvailable : Int) = depth - live.length
  indices : ((r.writeIdx : Int) - r.readIdx) % 128 = live.length % 128
  entries : ∀ i (h : i < live.length), r.chain ((r.readIdx + i) % 128 : Nat) = live[i].chainEntry

/-- What a call of `get_h2t_buffer` or `get_mgmt_buffer` does in the state `s`: the loop adds up exactly
the entries of the completions that the call observes; and when a buffer is granted, a slot is left for
the push and the entries of the descriptors that are still live are as they were. -/
structure CallFaithful {ch : Channel} (cfg : Config) (ip : QueueIp io ch) (s : ChannelState D)
    (sz : Nat) : Prop where
  reclaims : reclaimLoop cfg.charSigned (s.drv.ring ch).chain (s.drv.ring ch).readIdx
      ((s.drv.ring ch).freedSlots (io.read32 ch.slotsReg s.dev).1) 257 0 0 =
    some ((s.observed ip).map Descriptor.chainEntry).sum
  grants : ∀ addr drv d, ch.getBuffer io cfg sz s.drv s.dev = some (addr, drv, d) → addr ≠ 0 →
    0 < (drv.ring ch).slotsAvailable ∧
      ∀ i < (ip.uncompleted s.dev).length,
        (drv.ring ch).chain (((drv.ring ch).readIdx + i) % 128 : Nat) =
          (s.drv.ring ch).chain (((drv.ring ch).readIdx + i) % 128 : Nat)

/-! ## With any bus -/

/-- The indices of the chain that the reclaim loop computes in its first `fuel` iterations. -/
def reclaimIndices (charSigned : Bool) (readIdx freed : Nat) : (fuel c : Nat) → List Int
  | 0, _ => []
  | fuel + 1, c =>
    let i := charVal charSigned c
    if (i % 2 ^ 32).toNat < freed then
      ((readIdx : Int) + i).tmod maxDescriptorDepth ::
        reclaimIndices charSigned readIdx freed fuel ((c + 1) % 256)
    else []

/-- The driver and the bus. -/
structure DriverState (D : Type) where
  drv : Driver
  dev : D

inductive DriverAction where
  | init
  | get (ch : Channel)
  | push (ch : Channel)
  | acquire
  | hardware
  deriving DecidableEq

/-- One step: a call of the driver with any arguments, or the bus does anything. -/
inductive DriverStep (io : Mmio D) (cfg : Config) :
    DriverState D → DriverAction → DriverState D → Prop
  | init (s : DriverState D) :
      DriverStep io cfg s .init
        ⟨(initDriver io cfg.info s.drv s.dev).2.1, (initDriver io cfg.info s.drv s.dev).2.2⟩
  | get {s : DriverState D} {ch : Channel} {sz addr : Nat} {drv : Driver} {d : D}
      (hcall : ch.getBuffer io cfg sz s.drv s.dev = some (addr, drv, d)) :
      DriverStep io cfg s (.get ch) ⟨drv, d⟩
  | push (s : DriverState D) (ch : Channel) (header : H2tPacketHeader) (payload : Nat) :
      DriverStep io cfg s (.push ch)
        ⟨(ch.pushData io header payload s.drv s.dev).1, (ch.pushData io header payload s.drv s.dev).2⟩
  | t2h (s : DriverState D) (header : H2tPacketHeader) :
      DriverStep io cfg s .acquire
        ⟨(getT2hData io cfg.info header s.drv s.dev).2.2.1,
          (getT2hData io cfg.info header s.drv s.dev).2.2.2⟩
  | mgmtRsp (s : DriverState D) (header : MgmtPacketHeader) :
      DriverStep io cfg s .acquire
        ⟨(getMgmtRspData io cfg.info header s.drv s.dev).2.2.1,
          (getMgmtRspData io cfg.info header s.drv s.dev).2.2.2⟩
  | hardware (s : DriverState D) (d : D) : DriverStep io cfg s .hardware ⟨s.drv, d⟩

/-- With the value `slots` in the register the reclaim loop ends, and all its indices are indices of the
chain. -/
structure ReclaimSafe (charSigned : Bool) (slots : Nat) (r : DescriptorRing) : Prop where
  ends : ∃ fuel, (reclaimLoop charSigned r.chain r.readIdx (r.freedSlots slots) fuel 0 0).isSome
  indices : ∀ fuel, ∀ i ∈ reclaimIndices charSigned r.readIdx (r.freedSlots slots) fuel 0,
    0 ≤ i ∧ i < maxDescriptorDepth

/-- The register shows a value that the `char` can follow, the counter of the driver being compared with
it modulo `2 ^ 32`: an unsigned one follows up to 255 above the counter, a signed one whatever is not 1 to
127 below it, or 1 to 126 below if the read index is 0. -/
def SlotsFollowed (charSigned : Bool) (slots : Nat) (r : DescriptorRing) : Prop :=
  match charSigned with
  | false => r.slotsAvailable ≤ slots ∧ slots ≤ r.slotsAvailable + 255
  | true => slots + 128 ≤ r.slotsAvailable ∨
      (r.slotsAvailable ≤ slots ∧ slots + 128 ≤ r.slotsAvailable + 2 ^ 32) ∨
      (r.readIdx = 0 ∧ (slots + 127 = r.slotsAvailable ∨ slots + 127 = r.slotsAvailable + 2 ^ 32))

end RemoteDebug
