import RemoteDebug.Hardware.AddressRun
import RemoteDebug.Proofs.LoopbackProofs

/-!
# Proofs: alignment of the addresses

The addresses are aligned as long as the base, the write offset and the span of the allocator are. The
offset is reduced modulo the span, so that a span that is no multiple of 8 breaks the alignment as soon
as the window wraps; one below 8 never grants a byte.
-/

namespace RemoteDebug

open Runs

variable {D : Type} {io : Mmio D} {memSize : Nat} {r r' : DescriptorRing}

/-! ## The allocator -/

theorem dvd_getAlignedSz (n : Nat) : 8 ∣ getAlignedSz n := by
  rw [getAlignedSz_eq]
  exact Nat.dvd_mul_left 8 _

theorem dvd_mod {a m n : Nat} (ha : a ∣ n) (hm : a ∣ m) : a ∣ n % m :=
  (Nat.dvd_mod_iff hm).mpr ha

/-- What the alignment of the next address rests on, in a window of `memSize` bytes. -/
structure RingAligned (memSize : Nat) (r : DescriptorRing) : Prop where
  base : 8 ∣ r.cbuff.rawBuff
  offset : 8 ∣ r.cbuff.writeOffset
  span : 8 ∣ memSize → 8 ∣ r.cbuff.span
  small : memSize < 8 →
    r.cbuff.writeOffset = 0 ∧ r.cbuff.spaceAvailable < 8 ∧ ∀ i, r.chain i = 0

theorem ringAligned_static : RingAligned memSize .static := by
  constructor
  · exact Nat.dvd_zero 8
  · exact Nat.dvd_zero 8
  · intro _
    exact Nat.dvd_zero 8
  · intro _
    exact ⟨rfl, Nat.zero_lt_succ 7, fun _ => rfl⟩

theorem RingAligned.init (h : RingAligned memSize r) {base : Nat} (hbase : 8 ∣ base) (slots : Nat) :
    RingAligned memSize (r.init slots base memSize) := by
  constructor
  · exact hbase
  · exact Nat.dvd_zero 8
  · intro hdvd
    exact hdvd
  · intro hsmall
    exact ⟨rfl, hsmall, (h.small hsmall).2.2⟩

/-- A chain of empty allocations gives nothing back. -/
theorem reclaimLoop_zero {charSigned : Bool} {chain : Int → Nat} (hchain : ∀ i, chain i = 0)
    {readIdx freed fuel c acc bytesFreed : Nat}
    (h : reclaimLoop charSigned chain readIdx freed fuel c acc = some bytesFreed) :
    bytesFreed = acc := by
  induction fuel generalizing c with
  | zero => exact absurd h (by simp [reclaimLoop])
  | succ fuel ih =>
    rw [reclaimLoop] at h
    rw [hchain, Nat.add_zero] at h
    split at h
    · exact ih h
    · exact (Option.some.inj h).symm

theorem RingAligned.reclaim (h : RingAligned memSize r) {charSigned : Bool} {slots : Nat}
    (hcall : reclaim charSigned slots r = some r') : RingAligned memSize r' := by
  unfold RemoteDebug.reclaim at hcall
  dsimp only at hcall
  split at hcall
  · obtain ⟨bytesFreed, hloop, rfl⟩ := Option.map_eq_some_iff.mp hcall
    constructor
    · exact h.base
    · exact h.offset
    · exact h.span
    · intro hsmall
      obtain ⟨hoffset, hspace, hchain⟩ := h.small hsmall
      have hzero : bytesFreed = 0 := reclaimLoop_zero hchain hloop
      refine ⟨hoffset, ?_, hchain⟩
      change (r.cbuff.spaceAvailable + bytesFreed) % 2 ^ 64 < 8
      omega
  · rwa [← Option.some.inj hcall]

/-- **One allocation** returns an aligned address and keeps the next one aligned. -/
theorem RingAligned.take (h : RingAligned memSize r) (hsize : SizeAligned memSize) (sz : Nat) :
    8 ∣ (takeBuffer sz r).1 ∧ RingAligned memSize (takeBuffer sz r).2 := by
  have hsz := dvd_getAlignedSz sz
  unfold takeBuffer
  dsimp only
  split
  · next hgrant =>
    have haddr : 8 ∣ (cbuffAlloc r.cbuff (getAlignedSz sz)).1 :=
      dvd_mod (Nat.dvd_add h.base h.offset) (Nat.pow_dvd_pow 2 (by omega : 3 ≤ 32))
    have hsum : 8 ∣ (r.cbuff.writeOffset + getAlignedSz sz) % 2 ^ 64 :=
      dvd_mod (Nat.dvd_add h.offset hsz) (Nat.pow_dvd_pow 2 (by omega : 3 ≤ 64))
    -- a window below 8 bytes only grants allocations of nothing
    have hempty : memSize < 8 → getAlignedSz sz = 0 := by
      intro hsmall
      have hspace := (h.small hsmall).2.1
      omega
    refine ⟨haddr, h.base, ?_, h.span, ?_⟩
    · change 8 ∣ (r.cbuff.writeOffset + getAlignedSz sz) % 2 ^ 64 % r.cbuff.span
      rcases hsize with hdvd | hsmall
      · exact dvd_mod hsum (h.span hdvd)
      · rw [hempty hsmall, (h.small hsmall).1]
        exact ⟨0, by rw [Nat.add_zero, Nat.zero_mod, Nat.zero_mod]⟩
    · intro hsmall
      obtain ⟨hoffset, hspace, hchain⟩ := h.small hsmall
      refine ⟨?_, ?_, ?_⟩
      · change (r.cbuff.writeOffset + getAlignedSz sz) % 2 ^ 64 % r.cbuff.span = 0
        rw [hempty hsmall, hoffset, Nat.add_zero, Nat.zero_mod, Nat.zero_mod]
      · change (r.cbuff.spaceAvailable + 2 ^ 64 - getAlignedSz sz) % 2 ^ 64 < 8
        have hzero := hempty hsmall
        omega
      · intro i
        change Function.update r.chain _ (getAlignedSz sz % 2 ^ 16) i = 0
        rw [hempty hsmall, Function.update_apply]
        split
        · rfl
        · exact hchain i
  · exact ⟨Nat.dvd_zero 8, h⟩

theorem RingAligned.takeSlot (h : RingAligned memSize r) : RingAligned memSize r.takeSlot := by
  have hchain : r.takeSlot.chain = r.chain := by
    cases r
    rfl
  constructor
  · rw [takeSlot_cbuff]
    exact h.base
  · rw [takeSlot_cbuff]
    exact h.offset
  · rw [takeSlot_cbuff]
    exact h.span
  · rw [takeSlot_cbuff, hchain]
    exact h.small

theorem RingAligned.get (h : RingAligned memSize r) (hsize : SizeAligned memSize)
    {charSigned : Bool} {reg sz addr : Nat} {d d' : D}
    (hcall : getBuffer io charSigned reg sz r d = some (addr, r', d')) :
    8 ∣ addr ∧ RingAligned memSize r' := by
  obtain ⟨r₁, hreclaim, heq⟩ := Option.map_eq_some_iff.mp hcall
  injection heq with haddr heq
  injection heq with hring _
  rw [← haddr, ← hring]
  exact (h.reclaim hreclaim).take hsize sz

/-! ## Runs -/

/-- The state after `init_driver`: the H2T ring is as before or freshly initialised, and no 64-bit
register has been written. -/
theorem initDriver_h2t (io : Mmio D) (info : DesignInfo) (drv : Driver) (dev : D × List (Nat × Nat)) :
    ((initDriver io.recording info drv dev).2.1.h2t = drv.h2t ∨
      ∃ slots, (initDriver io.recording info drv dev).2.1.h2t =
        drv.h2t.init slots info.h2tMemBaseAddr info.h2tMemSz) ∧
    (initDriver io.recording info drv dev).2.2.2 = dev.2 := by
  unfold initDriver
  split
  · exact ⟨.inl rfl, rfl⟩
  · have hcheck : (checkVersionAndType io.recording dev).2.2 = dev.2 := by
      unfold checkVersionAndType
      dsimp only
      split <;> rfl
    dsimp only
    split
    · exact ⟨.inl rfl, hcheck⟩
    · exact ⟨.inr ⟨_, rfl⟩, hcheck⟩

theorem getDesignInfo_aligned (h : SizeAligned memSize) :
    8 ∣ (getDesignInfo memSize).h2tMemBaseAddr := by
  unfold getDesignInfo
  dsimp only
  split
  · next hlarge =>
    have hdvd : 8 ∣ memSize := by
      rcases h with hdvd | hsmall
      · exact hdvd
      · unfold jopMemSize2k at hlarge
        omega
    exact dvd_mod hdvd (Nat.pow_dvd_pow 2 (by omega : 3 ≤ 32))
  · exact ⟨0x100, rfl⟩

/-- The invariant of a run with windows of an aligned size. -/
structure AddressInv (memSize : Nat) (s : AddressState D) : Prop where
  ring : RingAligned memSize s.drv.h2t
  aligned : AddressesAligned s

theorem addressInv_start (d : D) : AddressInv memSize (.start d) := by
  constructor
  · exact ringAligned_static
  · constructor
    · intro addr hmem
      exact absurd hmem List.not_mem_nil
    · intro w hmem
      exact absurd hmem List.not_mem_nil

/-- A push of an aligned address writes an aligned `WHERE`. -/
theorem AddressesAligned.push {s : AddressState D} (h : AddressesAligned s)
    (header : H2tPacketHeader) {addr : Nat} (hmem : addr ∈ s.returned) {w : Nat}
    (hw : w ∈ writtenTo stDbgIpH2tHowLong (pushH2tData io.recording header addr s.drv s.dev).2.2) :
    8 ∣ w / 2 ^ 32 := by
  have hwrites : (pushH2tData io.recording header addr s.drv s.dev).2.2 = s.dev.2 ++
      [(stDbgIpH2tHowLong, howlongWhere header addr)] ++
        [(stDbgIpH2tConnectionId, connidChannelpush header)] := rfl
  rw [hwrites, writtenTo_append, writtenTo_append, writtenTo_self, writtenTo_other (by decide),
    List.append_nil] at hw
  rcases List.mem_append.mp hw with hold | hnew
  · exact h.wheres w hold
  · have haddr := h.returned addr hmem
    have hlen := header.dataLenBytes.toNat_lt
    rw [List.mem_singleton.mp hnew, howlongWhere_eq]
    split <;> omega

/-- **One step** keeps the addresses aligned. -/
theorem addressInv_step (hsize : SizeAligned memSize) {charSigned : Bool} {s s' : AddressState D}
    {a : AddressAction} (h : AddressInv memSize s)
    (hstep : AddressStep io ⟨getDesignInfo memSize, charSigned⟩ s a s') : AddressInv memSize s' := by
  cases hstep with
  | init =>
    obtain ⟨hring, hwrites⟩ := initDriver_h2t io (getDesignInfo memSize) s.drv s.dev
    constructor
    · rcases hring with heq | ⟨slots, heq⟩
      · exact heq ▸ h.ring
      · exact heq ▸ h.ring.init (getDesignInfo_aligned hsize) slots
    · constructor
      · exact h.aligned.returned
      · intro w hmem
        exact h.aligned.wheres w (hwrites ▸ hmem)
  | get hcall =>
    obtain ⟨⟨addr', r', dev'⟩, hbuffer, heq⟩ := Option.map_eq_some_iff.mp hcall
    obtain ⟨rfl, rfl, rfl⟩ := heq
    obtain ⟨haddr, hring⟩ := h.ring.get hsize hbuffer
    have hwrites : dev'.2 = s.dev.2 := by
      obtain ⟨_, _, heq⟩ := Option.map_eq_some_iff.mp hbuffer
      rw [← congrArg (fun x => x.2.2.2) heq]
      rfl
    constructor
    · exact hring
    · constructor
      · intro a hmem
        rcases List.mem_append.mp hmem with hold | hnew
        · exact h.aligned.returned a hold
        · rwa [List.mem_singleton.mp hnew]
      · intro w hmem
        exact h.aligned.wheres w (hwrites ▸ hmem)
  | @push header addr hmem =>
    have hring : (pushH2tData io.recording header addr s.drv s.dev).1.h2t = s.drv.h2t.takeSlot := rfl
    constructor
    · rw [hring]
      exact h.ring.takeSlot
    · constructor
      · exact h.aligned.returned
      · intro w hw
        exact h.aligned.push header hmem hw
  | hardware d =>
    constructor
    · exact h.ring
    · exact ⟨h.aligned.returned, h.aligned.wheres⟩

theorem alwaysAligned_of_size (hsize : SizeAligned memSize) : AlwaysAligned memSize := by
  intro D io charSigned d s hrun
  have hinv : AddressInv memSize s :=
    hrun.invariant (AddressInv memSize) (fun _ _ _ h _ hstep => addressInv_step hsize h hstep)
      (addressInv_start d)
  exact hinv.aligned

/-! ## Sizes that break the alignment -/

/-- A bus with the expected type that always shows one free slot. -/
def readyBus : Mmio Unit where
  read32 _ d := (1, d)
  read64 _ d := (supportedType, d)
  write32 _ _ d := d
  write64 _ _ d := d

/-- On that bus nothing is uncompleted, the whole window of `memSize` bytes is free and the next
allocation is at `offset`. -/
structure ReadyAt (base memSize offset : Nat) (r : DescriptorRing) : Prop where
  chain : ChainInv 1 r []
  rawBuff : r.cbuff.rawBuff = base
  span : r.cbuff.span = memSize
  writeOffset : r.cbuff.writeOffset = offset
  space : r.cbuff.spaceAvailable = memSize

/-- The driver is there as soon as it has looked at the slots. -/
def ReadyNext (base memSize offset : Nat) (r : DescriptorRing) : Prop :=
  ∃ r', reclaim false 1 r = some r' ∧ ReadyAt base memSize offset r'

variable {base offset : Nat}

theorem ReadyAt.next (h : ReadyAt base memSize offset r) : ReadyNext base memSize offset r :=
  ⟨_, h.chain.reclaim_eq (by omega) false (Nat.le_refl 0), h⟩

theorem takeBuffer_granted {sz : Nat}
    (h : 0 < r.slotsAvailable ∧ getAlignedSz sz ≤ r.cbuff.spaceAvailable) :
    (takeBuffer sz r).1 = (r.cbuff.rawBuff + r.cbuff.writeOffset) % 2 ^ 32 ∧
      (takeBuffer sz r).2.cbuff = (cbuffAlloc r.cbuff (getAlignedSz sz)).2 := by
  unfold takeBuffer
  dsimp only
  rw [if_pos h]
  exact ⟨rfl, rfl⟩

theorem ReadyAt.grant (h : ReadyAt base memSize offset r) {n : Nat}
    (hfit : getAlignedSz n ≤ memSize) :
    0 < r.slotsAvailable ∧ getAlignedSz n ≤ r.cbuff.spaceAvailable := by
  have hslots : r.slotsAvailable = 1 := h.chain.slots
  rw [hslots, h.space]
  exact ⟨Nat.one_pos, hfit⟩

theorem giveBack_one_cbuff (r : DescriptorRing) (bytesFreed : Nat) :
    (r.giveBack 1 bytesFreed).cbuff = cbuffFree r.cbuff bytesFreed := by
  cases r
  rfl

/-- A packet of `n` bytes that the hardware completes moves the offset. -/
theorem ReadyAt.cycle (h : ReadyAt base memSize offset r) {n : Nat}
    (hfit : getAlignedSz n ≤ memSize) (hsmall : memSize ≤ 2048) (hoffset : offset < memSize) :
    ReadyNext base memSize ((offset + getAlignedSz n) % memSize)
      (takeBuffer n r).2.takeSlot := by
  have hgrant := h.grant hfit
  have hchain := h.chain.take (by omega) hgrant
  rw [List.nil_append] at hchain
  have hreclaim := hchain.reclaim_eq (Nat.le_add_right 1 127) false (n := 0) (Nat.zero_le _)
  rw [List.length_singleton, Nat.sub_zero] at hreclaim
  refine ⟨_, hreclaim, ?_⟩
  have hbytes : chainBytes (List.take 1 [getAlignedSz n]) = getAlignedSz n := by
    change getAlignedSz n % 2 ^ 16 + 0 = getAlignedSz n
    omega
  have hcbuff : ((takeBuffer n r).2.takeSlot.giveBack 1 (getAlignedSz n)).cbuff =
      cbuffFree (cbuffAlloc r.cbuff (getAlignedSz n)).2 (getAlignedSz n) := by
    rw [giveBack_one_cbuff, takeSlot_cbuff, (takeBuffer_granted hgrant).2]
  rw [hbytes]
  constructor
  · exact hchain.giveBack (Nat.le_refl 1) _
  · rw [hcbuff]
    exact h.rawBuff
  · rw [hcbuff]
    exact h.span
  · rw [hcbuff]
    simp only [cbuffFree, cbuffAlloc, h.span, h.writeOffset]
    rw [Nat.mod_eq_of_lt (by omega : offset + getAlignedSz n < 2 ^ 64)]
  · rw [hcbuff]
    simp only [cbuffFree, cbuffAlloc, h.space]
    omega

/-- The run that one cycle after the other is made of. -/
abbrev ReadyStep (memSize : Nat) :=
  AddressStep readyBus ⟨getDesignInfo memSize, false⟩

theorem ready_init (memSize : Nat) : ∃ s, ReadyStep memSize (.start ()) .init s ∧
    ReadyNext (getDesignInfo memSize).h2tMemBaseAddr memSize 0 s.drv.h2t := by
  refine ⟨_, .init _, ?_⟩
  have hring : ReadyAt (getDesignInfo memSize).h2tMemBaseAddr memSize 0
      (DescriptorRing.static.init 1 (getDesignInfo memSize).h2tMemBaseAddr memSize) := by
    constructor
    · constructor
      · rfl
      · exact Nat.zero_lt_succ 127
      · exact Nat.two_pow_pos 16
      · rfl
      · intro i hi
        exact absurd hi (Nat.not_lt_zero i)
    · rfl
    · rfl
    · rfl
    · rfl
  exact hring.next

/-- `get_h2t_buffer` returns the next address, whatever was returned before. -/
theorem ready_get {s : AddressState Unit} (h : ReadyNext base memSize offset s.drv.h2t) (len : UInt16)
    (hfit : getAlignedSz len.toNat ≤ memSize) :
    ∃ s' r', ReadyStep memSize s .get s' ∧ (base + offset) % 2 ^ 32 ∈ s'.returned ∧
      ReadyAt base memSize offset r' ∧ s'.drv.h2t = (takeBuffer len.toNat r').2 := by
  obtain ⟨r', hreclaim, hready⟩ := h
  have hcall : getH2tBuffer readyBus.recording ⟨getDesignInfo memSize, false⟩ len.toNat s.drv s.dev =
      some ((takeBuffer len.toNat r').1, { s.drv with h2t := (takeBuffer len.toNat r').2 }, s.dev) := by
    unfold getH2tBuffer getBuffer
    dsimp only
    rw [show (readyBus.recording.read32 stDbgIpH2tAvailableSlots s.dev).1 = 1 from rfl, hreclaim]
    rfl
  refine ⟨_, r', .get hcall, ?_, hready, rfl⟩
  rw [(takeBuffer_granted (hready.grant hfit)).1, hready.rawBuff, hready.writeOffset]
  exact List.mem_append_right _ (List.mem_singleton_self _)

/-- A packet that is pushed there and completed. -/
theorem ready_cycle {s : AddressState Unit} (h : ReadyNext base memSize offset s.drv.h2t)
    (len : UInt16) (hfit : getAlignedSz len.toNat ≤ memSize) (hsmall : memSize ≤ 2048)
    (hoffset : offset < memSize) :
    ∃ s', Reach (ReadyStep memSize) always s s' ∧
      ReadyNext base memSize ((offset + getAlignedSz len.toNat) % memSize) s'.drv.h2t := by
  obtain ⟨s₁, r', hget, hmem, hready, hring⟩ := ready_get h len hfit
  refine ⟨_, (Reach.single (a := .get) trivial hget).tail (a := .push) trivial
    (.push ⟨0, 0, 0, len⟩ hmem), ?_⟩
  have hpush := hready.cycle hfit hsmall hoffset
  rw [← hring] at hpush
  exact hpush

/-- An address that the bus leads to is aligned if all are. -/
theorem AlwaysAligned.ready (h : AlwaysAligned memSize) {s : AddressState Unit}
    (hrun : Reach (ReadyStep memSize) always (.start ()) s)
    (hnext : ReadyNext base memSize offset s.drv.h2t) : 8 ∣ (base + offset) % 2 ^ 32 := by
  obtain ⟨s', _, hget, hmem, -⟩ := ready_get hnext 0 (Nat.zero_le memSize)
  have haligned := h Unit readyBus false () s' (hrun.tail (a := .get) trivial hget)
  exact haligned.returned _ hmem

/-- Above 2048 bytes the first address is the size itself. -/
theorem AlwaysAligned.large (h : AlwaysAligned memSize) (hlarge : 2048 < memSize) : 8 ∣ memSize := by
  obtain ⟨s, hinit, hnext⟩ := ready_init memSize
  have hbase : (getDesignInfo memSize).h2tMemBaseAddr = memSize % 2 ^ 32 := if_pos hlarge
  have hdvd := h.ready (Reach.single (a := .init) trivial hinit) hnext
  rw [hbase] at hdvd
  omega

/-- Up to 2048 bytes the address behind the wrap is what the last allocation exceeds the size by. -/
theorem AlwaysAligned.small (h : AlwaysAligned memSize) (hsmall : memSize ≤ 2048)
    (hsize : 8 ≤ memSize) : 8 ∣ memSize := by
  have hbase : (getDesignInfo memSize).h2tMemBaseAddr = 0x800 := if_neg (Nat.not_lt.mpr hsmall)
  obtain ⟨s, hinit, hnext⟩ := ready_init memSize
  rw [hbase] at hnext
  -- one packet up to the last whole word, one of eight bytes across the end of the window
  have hwhole : (UInt16.ofNat (memSize / 8 * 8)).toNat = memSize / 8 * 8 := by
    rw [UInt16.toNat_ofNat']
    omega
  have hsz : getAlignedSz (UInt16.ofNat (memSize / 8 * 8)).toNat = memSize / 8 * 8 := by
    rw [getAlignedSz_eq, hwhole]
    omega
  obtain ⟨s₁, hrun₁, hnext₁⟩ := ready_cycle hnext (UInt16.ofNat (memSize / 8 * 8))
    (by omega) hsmall (by omega)
  rw [hsz, Nat.zero_add] at hnext₁
  have hword : getAlignedSz (UInt16.ofNat 8).toNat = 8 := rfl
  obtain ⟨s₂, hrun₂, hnext₂⟩ := ready_cycle hnext₁ (UInt16.ofNat 8) (by omega) hsmall
    (Nat.mod_lt _ (by omega))
  rw [hword] at hnext₂
  have hdvd := h.ready (((Reach.single (a := .init) trivial hinit).trans hrun₁).trans hrun₂) hnext₂
  by_contra hne
  have hoffset : memSize / 8 * 8 % memSize = memSize / 8 * 8 := Nat.mod_eq_of_lt (by omega)
  have hwrap : (memSize / 8 * 8 + 8) % memSize = memSize / 8 * 8 + 8 - memSize := by
    rw [Nat.mod_eq_sub_mod (by omega), Nat.mod_eq_of_lt (by omega)]
  rw [hoffset, hwrap] at hdvd
  omega

/-- **Alignment**: every address that is returned, and every `WHERE` that is pushed, is a multiple of 8
in every run exactly if the size of the windows is, or if it is below 8. -/
theorem addresses_aligned_iff (memSize : Nat) : AlwaysAligned memSize ↔ SizeAligned memSize := by
  constructor
  · intro h
    rcases Nat.lt_or_ge memSize 8 with hlt | hge
    · exact .inr hlt
    · rcases Nat.lt_or_ge 2048 memSize with hlarge | hsmall
      · exact .inl (h.large hlarge)
      · exact .inl (h.small hsmall hge)
  · exact alwaysAligned_of_size

/-- With windows of 4100 bytes the first payload is at address 4100. -/
theorem addresses_unaligned_of_4100 : ¬ AlwaysAligned 4100 := by
  intro h
  obtain ⟨k, hk⟩ := h.large (by omega)
  omega

end RemoteDebug
