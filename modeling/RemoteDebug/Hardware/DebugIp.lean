import RemoteDebug.Hardware.Contract
import RemoteDebug.Lib.Bytes
import Mathlib.Tactic.Linarith

/-!
# A small debug IP

An executable debug IP that meets the contract: two queues of four descriptors, the descriptors of
the opposite direction, the configuration register, and a memory at all other addresses. It completes
nothing on its own.
-/

namespace RemoteDebug

open Bytes

/-- The state of the IP. -/
structure DebugIp where
  queue : Channel → List Descriptor
  /-- A queue has four places. -/
  room : ∀ ch, (queue ch).length ≤ 4
  pushed : Channel → List Descriptor
  latch : Channel → Nat
  config : Nat
  t2h : List Descriptor
  mgmtRsp : List Descriptor
  mem : Nat → UInt8

namespace DebugIp

/-- The IP after power-up with the given descriptors towards the host. -/
def start (t2h mgmtRsp : List Descriptor) (mem : Nat → UInt8) : DebugIp where
  queue := fun _ => []
  room := fun _ => by simp
  pushed := fun _ => []
  latch := fun _ => 0
  config := 0
  t2h := t2h
  mgmtRsp := mgmtRsp
  mem := mem

/-- The IP completes the oldest descriptor of the channel. -/
def complete (d : DebugIp) (ch : Channel) : DebugIp :=
  { d with
    queue := Function.update d.queue ch (d.queue ch).tail
    room := fun ch' => by
      by_cases h : ch' = ch
      · subst h
        have hr := d.room ch'
        simp only [Function.update_self, List.length_tail]
        omega
      · simpa [Function.update_of_ne h] using d.room ch' }

/-- The push of the latched descriptor with the second word `w`; a full queue drops it. -/
def push (d : DebugIp) (ch : Channel) (w : Nat) : DebugIp :=
  if h : (d.queue ch).length < 4 then
    { d with
      queue := Function.update d.queue ch (d.queue ch ++ [⟨d.latch ch, w⟩])
      pushed := Function.update d.pushed ch (d.pushed ch ++ [⟨d.latch ch, w⟩])
      room := fun ch' => by
        by_cases hc : ch' = ch
        · subst hc
          simp only [Function.update_self, List.length_append, List.length_singleton]
          omega
        · simpa [Function.update_of_ne hc] using d.room ch' }
  else d

/-- A write to the configuration register; the reset field empties everything and clears itself. -/
def configure (d : DebugIp) (v : Nat) : DebugIp :=
  if v % 2 = 1 then
    { d with
      queue := fun _ => []
      room := fun _ => by simp
      t2h := []
      mgmtRsp := []
      config := v - 1 }
  else { d with config := v }

/-- The first word of the oldest descriptor, `0` if there is none. -/
def frontHowlong (l : List Descriptor) : Nat := (l.head?.map Descriptor.howlongWhere).getD 0

/-- The second word of the oldest descriptor. -/
def frontWord (l : List Descriptor) : Nat := (l.head?.map Descriptor.pushWord).getD 0

end DebugIp

/-- The bus with the IP behind it. -/
def debugIp : Mmio DebugIp where
  read32 o d :=
    (if o = stDbgIpH2tAvailableSlots then 4 - (d.queue .h2t).length
      else if o = stDbgIpMgmtAvailableSlots then 4 - (d.queue .mgmt).length
      else if o = stDbgIpConfigResetAndLoopback then d.config
      else if o = stDbgIpConfigMgmtMgmtRspDescDepth then 0
      else word32 d.mem o, d)
  read64 o d :=
    (if o = stDbgIpConfigType then supportedType
      else if o = stDbgIpT2hHowLong then DebugIp.frontHowlong d.t2h
      else if o = stDbgIpT2hConnectionId then DebugIp.frontWord d.t2h
      else if o = stDbgIpMgmtRspHowLong then DebugIp.frontHowlong d.mgmtRsp
      else if o = stDbgIpMgmtRspChannelIdAdvance - 0x4 then DebugIp.frontWord d.mgmtRsp
      else word64 d.mem o, d)
  write32 o v d :=
    if o = stDbgIpConfigResetAndLoopback then d.configure v
    else if o = stDbgIpT2hDescriptorsDone then { d with t2h := d.t2h.tail }
    else if o = stDbgIpMgmtRspDescriptorsDone then { d with mgmtRsp := d.mgmtRsp.tail }
    else d
  write64 o v d :=
    if o = Channel.howLongReg .h2t then { d with latch := Function.update d.latch .h2t v }
    else if o = Channel.howLongReg .mgmt then { d with latch := Function.update d.latch .mgmt v }
    else if o = Channel.pushReg .h2t then d.push .h2t v
    else if o = Channel.pushReg .mgmt then d.push .mgmt v
    else { d with mem := store64 d.mem o v }

namespace DebugIp

/-- Completing a descriptor is something the IP may do on its own. -/
theorem complete_suffix (d : DebugIp) (ch ch' : Channel) :
    (d.complete ch).queue ch' <:+ d.queue ch' ∧ (d.complete ch).pushed ch' = d.pushed ch' := by
  by_cases h : ch' = ch
  · subst h
    simp [complete, List.tail_suffix]
  · simp [complete, Function.update_of_ne h]

theorem write32_frame (o v : Nat) (ch : Channel) (d : DebugIp) :
    (debugIp.write32 o v d).queue ch <:+ d.queue ch ∧
      (debugIp.write32 o v d).pushed ch = d.pushed ch := by
  simp only [debugIp, configure]
  split_ifs <;> simp

theorem write64_howLong (ch : Channel) (v : Nat) (d : DebugIp) :
    debugIp.write64 ch.howLongReg v d = { d with latch := Function.update d.latch ch v } := by
  cases ch <;> rfl

theorem write64_push (ch : Channel) (w : Nat) (d : DebugIp) :
    debugIp.write64 ch.pushReg w d = d.push ch w := by
  cases ch <;> rfl

/-- Behind the registers there is memory. -/
theorem write64_mem {o : Nat} (h : 0x2000 ≤ o) (v : Nat) (d : DebugIp) :
    debugIp.write64 o v d = { d with mem := store64 d.mem o v } := by
  have hne : ∀ ch : Channel, o ≠ ch.howLongReg ∧ o ≠ ch.pushReg := fun ch => by
    cases ch <;> simp only [Channel.howLongReg, Channel.pushReg, stDbgIpH2tHowLong,
      stDbgIpMgmtHowLong, stDbgIpH2tConnectionId, stDbgIpMgmtChannelIdPush] <;> omega
  simp only [debugIp, (hne .h2t).1, (hne .h2t).2, (hne .mgmt).1, (hne .mgmt).2, if_false]

theorem read64_mem {o : Nat} (h : 0x2000 ≤ o) (d : DebugIp) : debugIp.read64 o d = (word64 d.mem o, d) := by
  have hne : o ≠ stDbgIpConfigType ∧ o ≠ stDbgIpT2hHowLong ∧ o ≠ stDbgIpT2hConnectionId ∧
      o ≠ stDbgIpMgmtRspHowLong ∧ o ≠ stDbgIpMgmtRspChannelIdAdvance - 0x4 := by
    simp only [stDbgIpConfigType, stDbgIpT2hHowLong, stDbgIpT2hConnectionId, stDbgIpMgmtRspHowLong,
      stDbgIpMgmtRspChannelIdAdvance]
    omega
  simp only [debugIp, hne.1, hne.2.1, hne.2.2.1, hne.2.2.2.1, hne.2.2.2.2, if_false]

theorem push_room {ch : Channel} {w : Nat} {d : DebugIp} (h : (d.queue ch).length < 4) :
    (d.push ch w).queue ch = d.queue ch ++ [⟨d.latch ch, w⟩] ∧
      (d.push ch w).pushed ch = d.pushed ch ++ [⟨d.latch ch, w⟩] := by
  simp [push, h]

/-- The descriptor queue of a channel. -/
def queueIp (ch : Channel) : QueueIp debugIp ch where
  depth := 4
  uncompleted d := d.queue ch
  depth_le := by decide
  room d := d.room ch
  slots _ := by cases ch <;> rfl
  reads32 _ _ := List.suffix_refl _
  reads64 _ _ := List.suffix_refl _
  reset v d hv := by simp [debugIp, configure, hv]
  pushes v w d hroom := by
    rw [write64_howLong, write64_push,
      (push_room (w := w) (d := { d with latch := Function.update d.latch ch v }) hroom).1]
    simp

/-- The small debug IP meets the contract if its window lies behind the registers. -/
def channelIp (info : DesignInfo) (h : 0x2000 ≤ info.h2tMemBaseAddr) (ch : Channel) :
    ChannelIp debugIp info ch where
  toQueueIp := queueIp ch
  committed d := d.pushed ch
  committed_read32 _ _ := rfl
  committed_read64 _ _ := rfl
  write32 o v d _ := write32_frame o v ch d
  store o v d h1 _ := by
    rw [write64_mem (h.trans h1)]
    exact ⟨List.suffix_refl _, rfl⟩
  committed_push v w d hroom := by
    rw [write64_howLong, write64_push,
      (push_room (w := w) (d := { d with latch := Function.update d.latch ch v }) hroom).2]
    simp

/-- A design with four windows of 64 KiB behind the registers. -/
def design : Config where
  info :=
    { h2tMemBaseAddr := 0x20000, h2tMemSz := 0x10000
      t2hMemBaseAddr := 0x40000, t2hMemSz := 0x10000
      mgmtMemBaseAddr := 0x60000, mgmtMemSz := 0x10000
      mgmtRspMemBaseAddr := 0x80000, mgmtRspMemSz := 0x10000 }
  charSigned := true

/-- The contract of the H2T channel for this design. -/
def h2tIp : ChannelIp debugIp design.info .h2t := channelIp design.info (by decide) .h2t

/-- The IP after power-up with nothing to deliver. -/
def idle : DebugIp := start [] [] fun _ => 0

end DebugIp

end RemoteDebug
