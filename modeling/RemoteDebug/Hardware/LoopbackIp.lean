import RemoteDebug.Hardware.DebugSession
import RemoteDebug.Hardware.RoundTripRun
import Mathlib.Data.List.GetD

/-!
# A small debug IP in loopback

An executable debug IP that loops H2T packets back: a queue of four descriptors, the packets that have been
copied, and the payload that is in the T2H window. It presents every packet at the start of that window,
the next one when the host has given the previous one back.
-/

namespace RemoteDebug

open Bytes

/-- The state of the IP. `inFlight` is the payload of a packet that has been taken and not given back. -/
structure LoopbackIp where
  queue : List Descriptor
  /-- The queue has four places. -/
  room : queue.length ≤ 4
  pushed : List Descriptor
  latch : Nat
  mem : Nat → UInt8
  returned : List Looped
  /-- A packet fits the window. -/
  fits : ∀ l ∈ returned, l.payload.length = l.descriptor.howLong ∧ l.descriptor.howLong ≤ 0x10000
  inFlight : Option (List UInt8)

namespace LoopbackIp

/-- The IP after power-up. -/
def start : LoopbackIp where
  queue := []
  room := by simp
  pushed := []
  latch := 0
  mem := fun _ => 0
  returned := []
  fits := by simp
  inFlight := none

/-- The payload in the T2H window: the packet that has been taken, else the oldest one. -/
def inWindow (d : LoopbackIp) : List UInt8 :=
  d.inFlight.getD ((d.returned.head?.map Looped.payload).getD [])

/-- The T2H window. -/
def t2hMem (d : LoopbackIp) (a : Nat) : UInt8 :=
  d.inWindow.getD (a - DebugIp.design.info.t2hMemBaseAddr) 0

/-- The first word of the T2H channel. -/
def frontHowLong (d : LoopbackIp) : Nat :=
  if d.inFlight.isSome then 0
  else (d.returned.head?.map fun l => l.descriptor.howlongWhere % 2 ^ 32).getD 0

/-- The second word of the T2H channel. -/
def frontWord (d : LoopbackIp) : Nat := (d.returned.head?.map fun l => l.descriptor.pushWord).getD 0

/-- The oldest packet is taken. -/
def take (d : LoopbackIp) : LoopbackIp :=
  { d with
    inFlight := some d.inWindow
    returned := d.returned.tail
    fits := fun l hl => d.fits l (List.mem_of_mem_tail hl) }

/-- The push of the latched descriptor; a full queue drops it. -/
def push (d : LoopbackIp) (w : Nat) : LoopbackIp :=
  if h : d.queue.length < 4 then
    { d with
      queue := d.queue ++ [⟨d.latch, w⟩]
      pushed := d.pushed ++ [⟨d.latch, w⟩]
      room := by
        rw [List.length_append, List.length_singleton]
        omega }
  else d

/-- A reset completes everything. -/
def configure (d : LoopbackIp) (v : Nat) : LoopbackIp :=
  if v % 2 = 1 then { d with queue := [], room := by simp, returned := [], fits := by simp } else d

/-- What the IP makes of a descriptor. -/
def copied (d : LoopbackIp) (x : Descriptor) : Looped where
  descriptor := x
  payload := (List.range x.howLong).map fun i => d.mem (x.byteAddr DebugIp.design.info i)

/-- The IP loops its oldest descriptor back. -/
def loop (d : LoopbackIp) : LoopbackIp :=
  match h : d.queue with
  | [] => d
  | x :: queue =>
    if hfits : x.howLong ≤ 0x10000 then
      { d with
        queue := queue
        room := by
          have hroom := d.room
          rw [h, List.length_cons] at hroom
          omega
        returned := d.returned ++ [d.copied x]
        fits := by
          intro l hl
          rcases List.mem_append.mp hl with hl | hl
          · exact d.fits l hl
          · rw [List.mem_singleton.mp hl]
            exact ⟨by simp [copied], hfits⟩ }
    else d

end LoopbackIp

/-- The bus with the IP behind it. -/
def loopbackIp : Mmio LoopbackIp where
  read32 o d := (if o = stDbgIpH2tAvailableSlots then 4 - d.queue.length else 0, d)
  read64 o d :=
    if o = stDbgIpT2hConnectionId then (d.frontWord, d.take)
    else
      (if o = stDbgIpConfigType then supportedType
        else if o = stDbgIpT2hHowLong then d.frontHowLong
        else if 0x40000 ≤ o then word64 d.t2hMem o
        else word64 d.mem o, d)
  write32 o v d :=
    if o = stDbgIpConfigResetAndLoopback then d.configure v
    else if o = stDbgIpT2hDescriptorsDone then { d with inFlight := none }
    else d
  write64 o v d :=
    if o = stDbgIpH2tHowLong then { d with latch := v }
    else if o = stDbgIpH2tConnectionId then d.push v
    else { d with mem := store64 d.mem o v }

namespace LoopbackIp

theorem configure_suffix (d : LoopbackIp) (v : Nat) :
    (d.configure v).queue <:+ d.queue ∧ (d.configure v).pushed = d.pushed := by
  unfold configure
  split
  · exact ⟨List.nil_suffix, rfl⟩
  · exact ⟨List.suffix_refl _, rfl⟩

theorem write32_suffix (o v : Nat) (d : LoopbackIp) :
    (loopbackIp.write32 o v d).queue <:+ d.queue ∧ (loopbackIp.write32 o v d).pushed = d.pushed := by
  unfold loopbackIp
  dsimp only
  split
  · exact configure_suffix d v
  · split
    · exact ⟨List.suffix_refl _, rfl⟩
    · exact ⟨List.suffix_refl _, rfl⟩

theorem read64_queue (o : Nat) (d : LoopbackIp) :
    (loopbackIp.read64 o d).2.queue = d.queue ∧ (loopbackIp.read64 o d).2.pushed = d.pushed ∧
      (loopbackIp.read64 o d).2.mem = d.mem := by
  unfold loopbackIp
  dsimp only
  split
  · exact ⟨rfl, rfl, rfl⟩
  · exact ⟨rfl, rfl, rfl⟩

theorem push_room {d : LoopbackIp} (h : d.queue.length < 4) (w : Nat) :
    (d.push w).queue = d.queue ++ [⟨d.latch, w⟩] ∧
      (d.push w).pushed = d.pushed ++ [⟨d.latch, w⟩] ∧
      (d.push w).mem = d.mem ∧ (d.push w).returned = d.returned := by
  unfold push
  rw [dif_pos h]
  exact ⟨rfl, rfl, rfl, rfl⟩

theorem write64_mem {o : Nat} (h : 0x200 ≤ o) (v : Nat) (d : LoopbackIp) :
    loopbackIp.write64 o v d = { d with mem := store64 d.mem o v } := by
  unfold loopbackIp
  dsimp only
  rw [if_neg (by unfold stDbgIpH2tHowLong; omega), if_neg (by unfold stDbgIpH2tConnectionId; omega)]

theorem write64_push (v w : Nat) (d : LoopbackIp) :
    loopbackIp.write64 stDbgIpH2tConnectionId w (loopbackIp.write64 stDbgIpH2tHowLong v d) =
      { d with latch := v }.push w := rfl

/-- The contract of the H2T channel. -/
def channel : ChannelIp loopbackIp DebugIp.design.info .h2t where
  depth := 4
  uncompleted := queue
  depth_le := Nat.le_of_ble_eq_true rfl
  room := room
  slots _ := rfl
  reads32 _ _ := List.suffix_refl _
  reads64 o d := (read64_queue o d).1 ▸ List.suffix_refl _
  reset v d hv := by
    show (d.configure v).queue = []
    unfold configure
    rw [if_pos hv]
  pushes v w d hroom := (push_room (d := { d with latch := v }) hroom w).1 ▸ List.suffix_refl _
  committed := pushed
  committed_read32 _ _ := rfl
  committed_read64 o d := (read64_queue o d).2.1
  write32 o v d _ := write32_suffix o v d
  store o v d hlo _ := by
    have hbase : DebugIp.design.info.h2tMemBaseAddr = 0x20000 := rfl
    rw [write64_mem (by omega)]
    exact ⟨List.suffix_refl _, rfl⟩
  committed_push v w d hroom := (push_room (d := { d with latch := v }) hroom w).2.1

/-- The H2T window is memory. -/
def memory : H2tMemory loopbackIp DebugIp.design.info where
  mem := mem
  store i w d hi := by
    have hbase : DebugIp.design.info.h2tMemBaseAddr = 0x20000 := rfl
    have hspan : DebugIp.design.info.h2tMemSz = 0x10000 := rfl
    rw [write64_mem (by unfold windowAddr; omega)]
  load i d hi := by
    have hbase : DebugIp.design.info.h2tMemBaseAddr = 0x20000 := rfl
    have hspan : DebugIp.design.info.h2tMemSz = 0x10000 := rfl
    have haddr : windowAddr DebugIp.design.info.h2tMemBaseAddr i = 0x20000 + i :=
      Nat.mod_eq_of_lt (by omega)
    rw [haddr]
    unfold loopbackIp stDbgIpT2hConnectionId stDbgIpConfigType stDbgIpT2hHowLong
    dsimp only
    rw [if_neg (by omega), if_neg (by omega), if_neg (by omega), if_neg (by omega)]
    exact ⟨rfl, rfl⟩
  slots _ := rfl
  push v w d := by
    rw [write64_push]
    unfold push
    split
    · rfl
    · rfl

/-- Taking a packet leaves it in the window. -/
theorem take_t2hMem (d : LoopbackIp) : d.take.t2hMem = d.t2hMem := rfl

/-- The T2H window does not change while the host reads. -/
def t2h : T2hIp loopbackIp DebugIp.design.info where
  mem := t2hMem
  held _ := Set.univ
  held_front _ _ _ := Set.mem_univ _
  read a d hlo _ := by
    have hbase : DebugIp.design.info.t2hMemBaseAddr = 0x40000 := rfl
    unfold loopbackIp stDbgIpT2hConnectionId stDbgIpConfigType stDbgIpT2hHowLong
    dsimp only
    rw [if_neg (by omega), if_neg (by omega), if_neg (by omega), if_pos (by omega)]
  keeps o d a _ := by
    unfold loopbackIp
    dsimp only
    split
    · exact ⟨congrFun (take_t2hMem d) a, Set.mem_univ _⟩
    · exact ⟨rfl, Set.mem_univ _⟩

/-- An access at which the IP loops nothing. -/
theorem loops_none {descs : List Descriptor} {looped : List Looped} {d d' : LoopbackIp}
    (hqueue : d'.queue = descs) (hreturned : d'.returned = looped) :
    Loops channel LoopbackIp.mem returned descs looped d d' :=
  ⟨[], [], hqueue.symm, by rw [hreturned, List.append_nil], .nil⟩

theorem frontHowLong_mod (d : LoopbackIp) : d.frontHowLong < 2 ^ 32 := by
  unfold frontHowLong
  split
  · omega
  · cases d.returned.head? with
    | none => simp
    | some l => exact Nat.mod_lt _ (by omega)

/-- What the T2H channel shows of the oldest packet. -/
theorem front_cases (d : LoopbackIp) : d.frontHowLong = 0 ∨
    ∃ l rest, d.returned = l :: rest ∧ d.inFlight = none ∧
      d.frontHowLong = l.descriptor.howlongWhere % 2 ^ 32 ∧ d.frontWord = l.descriptor.pushWord ∧
      d.inWindow = l.payload := by
  unfold frontHowLong frontWord inWindow
  cases hflight : d.inFlight with
  | some bs => exact .inl rfl
  | none =>
    cases hreturned : d.returned with
    | nil => exact .inl rfl
    | cons l rest => exact .inr ⟨l, rest, rfl, rfl, rfl, rfl, rfl⟩

theorem frontT2h_eq (d : LoopbackIp) : frontT2h loopbackIp d = ⟨d.frontHowLong, d.frontWord⟩ := rfl

/-- What is shown is the oldest packet with its payload at the start of the window. -/
theorem front_shown (d : LoopbackIp) : (frontT2h loopbackIp d).howLong = 0 ∨
    ∃ l rest, d.returned = l :: rest ∧
      (frontT2h loopbackIp d).howlongWhere % 2 ^ 32 = l.descriptor.howlongWhere % 2 ^ 32 ∧
      (frontT2h loopbackIp d).pushWord = l.descriptor.pushWord ∧
      (frontT2h loopbackIp d).howLong ≤ 0x10000 ∧ (frontT2h loopbackIp d).addr < 0x10000 ∧
      t2h.payload d = l.payload := by
  rcases front_cases d with hzero | ⟨l, rest, hreturned, -, hword, hpush, hwindow⟩
  · left
    rw [frontT2h_eq, Descriptor.howLong, hzero]
    rfl
  · right
    obtain ⟨hlen, hle⟩ := d.fits l (by rw [hreturned]; exact List.mem_cons_self)
    have hlong : (frontT2h loopbackIp d).howLong = l.descriptor.howLong := by
      rw [frontT2h_eq]
      show d.frontHowLong % 2 ^ 31 = l.descriptor.howlongWhere % 2 ^ 31
      rw [hword]
      omega
    have haddr : (frontT2h loopbackIp d).addr = 0 := Nat.div_eq_of_lt (frontHowLong_mod d)
    refine ⟨l, rest, hreturned, ?_, hpush, hlong ▸ hle, by omega, ?_⟩
    · rw [frontT2h_eq, hword, Nat.mod_mod]
    · unfold T2hIp.payload
      rw [hlong, haddr, ← hlen]
      refine List.ext_getElem (by simp) ?_
      intro i hi hi'
      rw [List.getElem_map, List.getElem_range, Nat.zero_add]
      have hspan : DebugIp.design.info.t2hMemSz = 0x10000 := rfl
      show d.inWindow.getD (DebugIp.design.info.t2hMemBaseAddr + i % DebugIp.design.info.t2hMemSz -
        DebugIp.design.info.t2hMemBaseAddr) 0 = l.payload[i]
      rw [Nat.mod_eq_of_lt (by omega), Nat.add_sub_cancel_left, hwindow, List.getD_eq_getElem _ _ hi']

/-- The contract of the loopback. -/
def contract : LoopIp loopbackIp DebugIp.design.info where
  h2t := channel
  memory := memory
  t2h := t2h
  looped := returned
  slots _ := loops_none rfl rfl
  store i w d hi := by
    have hbase : DebugIp.design.info.h2tMemBaseAddr = 0x20000 := rfl
    have hspan : DebugIp.design.info.h2tMemSz = 0x10000 := rfl
    rw [write64_mem (by unfold windowAddr; omega)]
    exact ⟨[], [], rfl, (List.append_nil _).symm, .nil⟩
  push v w d hroom := by
    obtain ⟨hqueue, -, -, hreturned⟩ := push_room (d := { d with latch := v }) hroom w
    exact loops_none hqueue hreturned
  howLong _ := ⟨loops_none rfl rfl, rfl⟩
  advance _ := ⟨loops_none rfl rfl, rfl⟩
  load a d hlo hhi := by
    have hbase : DebugIp.design.info.t2hMemBaseAddr = 0x40000 := rfl
    have hread : (loopbackIp.read64 a d).2 = d := by
      unfold loopbackIp stDbgIpT2hConnectionId
      dsimp only
      rw [if_neg (by omega)]
    rw [hread]
    exact ⟨loops_none rfl rfl, rfl⟩
  done _ := ⟨loops_none rfl rfl, rfl⟩
  front := front_shown

/-- Looping a packet back is something the IP may do on its own. -/
theorem loop_proceeds (d : LoopbackIp) : contract.Proceeds d d.loop := by
  have hmem : d.loop.mem = d.mem := by
    unfold loop
    split
    · rfl
    · split
      · rfl
      · rfl
  refine ⟨?_, ?_, hmem⟩
  · show d.loop.queue <:+ d.queue ∧ d.loop.pushed = d.pushed
    unfold loop
    split
    · exact ⟨List.suffix_refl _, rfl⟩
    · next x queue hqueue =>
      split
      · exact ⟨⟨[x], hqueue.symm⟩, rfl⟩
      · exact ⟨List.suffix_refl _, rfl⟩
  · show Loops channel LoopbackIp.mem returned d.queue d.returned d d.loop
    unfold loop
    split
    · exact loops_none rfl rfl
    · next x queue hqueue =>
      split
      · refine ⟨[x], [d.copied x], hqueue, rfl, .cons ⟨rfl, by simp [copied], ?_⟩ .nil⟩
        intro i hi
        left
        simp only [copied, List.getElem_map, List.getElem_range]
      · exact loops_none rfl rfl

end LoopbackIp

end RemoteDebug
