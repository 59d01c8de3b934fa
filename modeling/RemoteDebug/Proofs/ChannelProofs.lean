import RemoteDebug.Hardware.ChannelRun
import RemoteDebug.Proofs.RingProofs

/-!
# Buffer allocation against the hardware

`RingInv` ties the ring of a channel to the descriptors that the driver takes for uncompleted. Every
call preserves it, whenever the IP completes descriptors.
-/

namespace RemoteDebug

open Cyclic Runs

/-! ## The words of a descriptor -/

theorem or_shiftLeft {a n : Nat} (b : Nat) (h : a < 2 ^ n) : a ||| (b <<< n) = a + b * 2 ^ n := by
  rw [Nat.or_comm, ← Nat.shiftLeft_add_eq_or_of_lt h, Nat.shiftLeft_eq]
  omega

theorem howlongWhere_eq (header : H2tPacketHeader) (payload : Nat) :
    howlongWhere header payload =
      header.dataLenBytes.toNat + (if header.eop then 2 ^ 31 else 0) + payload * 2 ^ 32 := by
  have hlen := header.dataLenBytes.toNat_lt
  have hmask : header.dataLenBytes.toNat &&& stDbgIpHowLongMask = header.dataLenBytes.toNat := by
    rw [show stDbgIpHowLongMask = 2 ^ 31 - 1 from rfl, Nat.and_two_pow_sub_one_eq_mod,
      Nat.mod_eq_of_lt (by omega)]
  have hlast : header.dataLenBytes.toNat ||| (if header.eop then stDbgIpLastDescriptorMask else 0)
      = header.dataLenBytes.toNat + (if header.eop then 2 ^ 31 else 0) := by
    cases header.eop with
    | false => simp
    | true =>
      have h := or_shiftLeft 1 (by omega : header.dataLenBytes.toNat < 2 ^ 31)
      simpa [stDbgIpLastDescriptorMask] using h
  rw [howlongWhere, hmask, hlast, or_shiftLeft]
  split <;> omega

section Descriptor

variable (ch : Channel) (header : H2tPacketHeader) (payload : Nat)

/-- The descriptor carries the length of the packet. -/
theorem descriptor_howLong :
    (ch.descriptor header payload).howLong = header.dataLenBytes.toNat := by
  have hlen := header.dataLenBytes.toNat_lt
  simp only [Channel.descriptor, Descriptor.howLong, howlongWhere_eq]
  split <;> omega

/-- The descriptor carries the end-of-packet bit. -/
theorem descriptor_last : (ch.descriptor header payload).last = header.eop := by
  have hlen := header.dataLenBytes.toNat_lt
  simp only [Channel.descriptor, Descriptor.last, howlongWhere_eq]
  cases header.eop with
  | false => simp only [Bool.false_eq_true, if_false, decide_eq_false_iff_not]; omega
  | true => simp only [if_true, decide_eq_true_eq]; omega

/-- The descriptor carries the address of the payload. -/
theorem descriptor_addr : (ch.descriptor header payload).addr = payload := by
  have hlen := header.dataLenBytes.toNat_lt
  simp only [Channel.descriptor, Descriptor.addr, howlongWhere_eq]
  split <;> omega

/-- An H2T descriptor carries the connection and the channel of the packet. -/
theorem descriptor_connId_channel :
    (Channel.h2t.descriptor header payload).connId = header.connId.toNat ∧
      (Channel.h2t.descriptor header payload).channel = header.channel.toNat := by
  have hconn := header.connId.toNat_lt
  have hword : connidChannelpush header = header.connId.toNat + header.channel.toNat * 2 ^ 32 :=
    or_shiftLeft _ (by omega)
  simp only [Channel.descriptor, Descriptor.connId, Descriptor.channel, Channel.pushWord, hword]
  omega

theorem descriptor_alignedLen :
    (ch.descriptor header payload).alignedLen = getAlignedSz header.dataLenBytes.toNat := by
  rw [Descriptor.alignedLen, descriptor_howLong]

theorem descriptor_region (base : Nat) :
    (ch.descriptor header payload).region base =
      ⟨payload - base, getAlignedSz header.dataLenBytes.toNat⟩ := by
  rw [Descriptor.region, descriptor_addr, descriptor_alignedLen]

end Descriptor

/-! ## The ring and the hardware -/

variable {D : Type} {io : Mmio D} {info : DesignInfo} {ch : Channel}
  {ip : QueueIp io ch} {r : DescriptorRing} {d d' : D} {live : List Descriptor} {lost : Nat}

/-- The bytes of the descriptors that are not given back with them: the part of the aligned sizes
that a 16-bit chain entry cannot hold. -/
def leak (observed : List Descriptor) : Nat :=
  (observed.map fun x => x.alignedLen - x.alignedLen % 2 ^ 16).sum

/-- The ring `r` of the channel agrees with the list `live` of the descriptors whose completion has
not been observed, oldest first; `lost` bytes have leaked so far. -/
structure RingInv (info : DesignInfo) (ip : QueueIp io ch) (r : DescriptorRing) (d : D)
    (live : List Descriptor) (lost : Nat) : Prop where
  chain : ChainInv (ip.depth) r (live.map Descriptor.alignedLen)
  space : SpaceInv (ch.base info) (ch.span info) r.cbuff
    (live.map (Descriptor.region (ch.base info))) lost
  addr_ge : ∀ x ∈ live, ch.base info ≤ x.addr
  uncompleted : ip.uncompleted d <:+ live

/-- A buffer of `sz` bytes at `addr` has been granted and not yet been pushed. -/
structure Granted (info : DesignInfo) (ip : QueueIp io ch) (r : DescriptorRing) (d : D)
    (live : List Descriptor) (lost sz addr : Nat) : Prop where
  slot : live.length < ip.depth
  chain : ChainInv (ip.depth) r.takeSlot (live.map Descriptor.alignedLen ++ [getAlignedSz sz])
  space : SpaceInv (ch.base info) (ch.span info) r.cbuff
    (live.map (Descriptor.region (ch.base info)) ++ [⟨addr - ch.base info, getAlignedSz sz⟩]) lost
  addr_ge : ∀ x ∈ live, ch.base info ≤ x.addr
  base_le : ch.base info ≤ addr
  uncompleted : ip.uncompleted d <:+ live

theorem total_regions (base : Nat) (live : List Descriptor) :
    total (live.map (Descriptor.region base)) = (live.map Descriptor.alignedLen).sum := by
  simp only [total, List.map_map]
  rfl

/-- What is given back for the descriptors and what leaks is all that was allocated for them. -/
theorem chainBytes_add_leak (l : List Descriptor) :
    (l.map Descriptor.alignedLen).sum = chainBytes (l.map Descriptor.alignedLen) + leak l := by
  induction l with
  | nil => rfl
  | cons x l ih =>
    have hx := Nat.mod_le x.alignedLen (2 ^ 16)
    simp only [chainBytes, leak, List.map_cons, List.sum_cons] at ih ⊢
    omega

/-- Nothing leaks for packets of at most 65528 bytes. -/
theorem leak_eq_zero {l : List Descriptor} (h : ∀ x ∈ l, x.howLong ≤ 65528) : leak l = 0 := by
  induction l with
  | nil => rfl
  | cons x l ih =>
    have hx : x.alignedLen < 2 ^ 16 := getAlignedSz_lt_iff.mpr (h x (by simp))
    have hl := ih fun y hy => h y (List.mem_cons_of_mem _ hy)
    simp only [leak, List.map_cons, List.sum_cons, Nat.mod_eq_of_lt hx, Nat.sub_self] at hl ⊢
    omega

theorem RingInv.proceeds (h : RingInv info ip r d live lost)
    (hp : ip.uncompleted d' <:+ ip.uncompleted d) : RingInv info ip r d' live lost :=
  ⟨h.chain, h.space, h.addr_ge, hp.trans h.uncompleted⟩

theorem Granted.proceeds {sz addr : Nat} (h : Granted info ip r d live lost sz addr)
    (hp : ip.uncompleted d' <:+ ip.uncompleted d) : Granted info ip r d' live lost sz addr :=
  ⟨h.slot, h.chain, h.space, h.addr_ge, h.base_le, hp.trans h.uncompleted⟩

/-- The ring behind a successful `init_driver`. -/
theorem ringInv_init (hok : WindowOk info ch) (hd : ip.uncompleted d = []) :
    RingInv info ip (r.init (ip.depth) (ch.base info) (ch.span info)) d [] 0 := by
  have hle := ip.depth_le
  have hslots : ip.depth % 2 ^ 16 = ip.depth := by omega
  refine ⟨⟨?_, ?_, ?_, rfl, ?_⟩, spaceInv_init hok.base_pos hok.span_pos hok.fits, by simp,
    by simp [hd]⟩
  · simp only [DescriptorRing.init, hslots, List.map_nil, List.length_nil, Nat.add_zero]
  · simp [DescriptorRing.init]
  · simp [DescriptorRing.init]
  · simp

/-- Reading the slots register and giving back what has been completed. -/
theorem RingInv.reclaim (h : RingInv info ip r d live lost) (charSigned : Bool) :
    ∃ r', reclaim charSigned (io.read32 ch.slotsReg d).1 r = some r' ∧
      RingInv info ip r' (io.read32 ch.slotsReg d).2 (ip.uncompleted d)
        (lost + leak (live.take (live.length - (ip.uncompleted d).length))) := by
  have hle := h.uncompleted.length_le
  have hdrop : ip.uncompleted d = live.drop (live.length - (ip.uncompleted d).length) :=
    List.suffix_iff_eq_drop.mp h.uncompleted
  set k := live.length - (ip.uncompleted d).length with hk
  have hn : (ip.uncompleted d).length ≤ (live.map Descriptor.alignedLen).length := by simpa
  have hk' : (live.map Descriptor.alignedLen).length - (ip.uncompleted d).length = k := by
    simp [hk]
  have hkl : k ≤ (live.map Descriptor.alignedLen).length := by simp [hk]
  have hrec := h.chain.reclaim_eq (ip.depth_le) charSigned hn
  rw [hk', ← ip.slots] at hrec
  refine ⟨_, hrec, ?_, ?_, ?_, ?_⟩
  · rw [hdrop, List.map_drop]
    exact h.chain.giveBack hkl _
  · have htot : total ((live.map (Descriptor.region (ch.base info))).take k)
        = chainBytes ((live.map Descriptor.alignedLen).take k) + leak (live.take k) := by
      rw [← List.map_take, ← List.map_take, total_regions, chainBytes_add_leak]
    rw [hdrop, List.map_drop]
    unfold DescriptorRing.giveBack
    split
    · next h0 =>
      rw [h0] at htot ⊢
      simpa [leak] using h.space
    · exact h.space.free htot
  · exact fun x hx => h.addr_ge x (h.uncompleted.subset hx)
  · exact ip.reads32 _ d

/-- The ring when the buffer is taken. -/
theorem RingInv.takeBuffer (h : RingInv info ip r d live lost) (sz : Nat) :
    ((takeBuffer sz r).1 = 0 ∧ (takeBuffer sz r).2 = r ∧
        ¬ (0 < r.slotsAvailable ∧ getAlignedSz sz ≤ r.cbuff.spaceAvailable)) ∨
      ((takeBuffer sz r).1 ≠ 0 ∧ Granted info ip (takeBuffer sz r).2 d live lost sz
        (takeBuffer sz r).1) := by
  by_cases hgrant : 0 < r.slotsAvailable ∧ getAlignedSz sz ≤ r.cbuff.spaceAvailable
  · have hchain := h.chain.take (ip.depth_le) hgrant
    obtain ⟨haddr, hspace⟩ := h.space.alloc hgrant.2
    have hbase := h.space.base_pos
    have hslots := h.chain.slots
    rw [List.length_map] at hslots
    have h1 : (RemoteDebug.takeBuffer sz r).1 = ch.base info + r.cbuff.writeOffset := by
      simp only [RemoteDebug.takeBuffer, hgrant, and_self, if_true, haddr]
    have h2 : (RemoteDebug.takeBuffer sz r).2.cbuff = (cbuffAlloc r.cbuff (getAlignedSz sz)).2 := by
      simp [RemoteDebug.takeBuffer, hgrant]
    refine Or.inr ⟨by omega, by omega, hchain, ?_, h.addr_ge, by omega, h.uncompleted⟩
    rw [h2, h1, Nat.add_sub_cancel_left]
    exact hspace
  · exact Or.inl (by simp [RemoteDebug.takeBuffer, hgrant])

/-- **`get_h2t_buffer` and `get_mgmt_buffer`** return; afterwards exactly the descriptors that were
uncompleted at the read are taken for uncompleted. -/
theorem RingInv.getBuffer (h : RingInv info ip r d live lost) (charSigned : Bool) (sz : Nat) :
    ∃ addr r' d', getBuffer io charSigned ch.slotsReg sz r d = some (addr, r', d') ∧
      d' = (io.read32 ch.slotsReg d).2 ∧
      ((addr = 0 ∧ RingInv info ip r' d' (ip.uncompleted d)
          (lost + leak (live.take (live.length - (ip.uncompleted d).length))) ∧
          ¬ (0 < r'.slotsAvailable ∧ getAlignedSz sz ≤ r'.cbuff.spaceAvailable)) ∨
        (addr ≠ 0 ∧ Granted info ip r' d' (ip.uncompleted d)
          (lost + leak (live.take (live.length - (ip.uncompleted d).length))) sz addr)) := by
  obtain ⟨r', hrec, hinv⟩ := h.reclaim charSigned
  refine ⟨_, _, _, by simp only [RemoteDebug.getBuffer, hrec, Option.map_some]; rfl, rfl, ?_⟩
  rcases hinv.takeBuffer sz with ⟨h0, hr, hrefused⟩ | ⟨hne, hg⟩
  · rw [hr]
    exact Or.inl ⟨h0, hinv, hrefused⟩
  · exact Or.inr ⟨hne, hg⟩

/-- The granted buffer lies in the window and is not larger than it. -/
theorem Granted.bounds {sz addr : Nat} (h : Granted info ip r d live lost sz addr) :
    addr < ch.base info + ch.span info ∧ getAlignedSz sz ≤ ch.span info := by
  have hstart := h.space.laid.start_lt h.space.span_pos ⟨addr - ch.base info, getAlignedSz sz⟩
    (by simp)
  have hspace := h.space.space
  have hbase := h.base_le
  simp only [total_append, total_cons, total_nil] at hspace
  simp only at hstart
  omega

/-- **`push_h2t_data` and `push_mgmt_data`** on a granted buffer. -/
theorem Granted.push {header : H2tPacketHeader} {addr : Nat}
    (h : Granted info ip r d live lost header.dataLenBytes.toNat addr) :
    RingInv info ip r.takeSlot (ch.pushWrites io header addr d)
      (live ++ [ch.descriptor header addr]) lost := by
  have hroom : (ip.uncompleted d).length < ip.depth :=
    h.uncompleted.length_le.trans_lt h.slot
  have hun := ip.pushes (howlongWhere header addr) (ch.pushWord header) d hroom
  refine ⟨?_, ?_, ?_, ?_⟩
  · rw [List.map_append, List.map_singleton, descriptor_alignedLen]
    exact h.chain
  · rw [takeSlot_cbuff, List.map_append, List.map_singleton, descriptor_region]
    exact h.space
  · intro x hx
    rcases List.mem_append.mp hx with hx | hx
    · exact h.addr_ge x hx
    · rw [List.mem_singleton.mp hx, descriptor_addr]
      exact h.base_le
  · obtain ⟨t, ht⟩ := h.uncompleted
    refine hun.trans ⟨t, ?_⟩
    rw [← ht, List.append_assoc]
    rfl

/-- A push on a granted buffer is noted once. -/
theorem Granted.committed {ip : ChannelIp io info ch} {header : H2tPacketHeader} {addr : Nat}
    (h : Granted info ip.toQueueIp r d live lost header.dataLenBytes.toNat addr) :
    ip.committed (ch.pushWrites io header addr d) = ip.committed d ++ [ch.descriptor header addr] :=
  ip.committed_push (howlongWhere header addr) (ch.pushWord header) d
    (h.uncompleted.length_le.trans_lt h.slot)

/-! ## The calls of the driver -/

variable {cfg : Config} {drv drv' : Driver} {rc : Int}

@[simp] theorem ring_setRing (drv : Driver) (ch : Channel) (r : DescriptorRing) :
    (drv.setRing ch r).ring ch = r := by
  cases ch <;> rfl

theorem ring_setRing_of_ne (drv : Driver) {ch ch' : Channel} (h : ch' ≠ ch) (r : DescriptorRing) :
    (drv.setRing ch r).ring ch' = drv.ring ch' := by
  cases ch <;> cases ch' <;> first | rfl | exact absurd rfl h

theorem channel_getBuffer_eq (io : Mmio D) (cfg : Config) (ch : Channel) (sz : Nat) (drv : Driver) (d : D) :
    ch.getBuffer io cfg sz drv d =
      (getBuffer io cfg.charSigned ch.slotsReg sz (drv.ring ch) d).map fun x =>
        (x.1, drv.setRing ch x.2.1, x.2.2) := by
  cases ch <;> rfl

theorem channel_pushData_eq (io : Mmio D) (ch : Channel) (header : H2tPacketHeader) (payload : Nat)
    (drv : Driver) (d : D) :
    ch.pushData io header payload drv d =
      (drv.setRing ch (drv.ring ch).takeSlot, ch.pushWrites io header payload d) := by
  cases ch <;> rfl

theorem pushH2tData_eq (io : Mmio D) (header : H2tPacketHeader) (payload : Nat) (drv : Driver) (d : D) :
    pushH2tData io header payload drv d =
      ({ drv with h2t := drv.h2t.takeSlot }, Channel.h2t.pushWrites io header payload d) := rfl

/-- **`get_h2t_buffer`** returns, with a granted buffer or with none. -/
theorem RingInv.getH2tBuffer (cfg : Config) {ip : ChannelIp io cfg.info .h2t}
    (h : RingInv cfg.info ip.toQueueIp drv.h2t d live lost) (sz : Nat) :
    ∃ addr r' d', getH2tBuffer io cfg sz drv d = some (addr, { drv with h2t := r' }, d') ∧
      ip.Proceeds d d' ∧ ∃ live' lost', (addr = 0 ∧ RingInv cfg.info ip.toQueueIp r' d' live' lost') ∨
        (addr ≠ 0 ∧ Granted cfg.info ip.toQueueIp r' d' live' lost' sz addr) := by
  obtain ⟨addr, r', d', hget, rfl, hcases⟩ := h.getBuffer cfg.charSigned sz
  refine ⟨addr, r', _, ?_, ip.read32 _ d, _, _, hcases.imp (fun h0 => ⟨h0.1, h0.2.1⟩) id⟩
  have heq := channel_getBuffer_eq io cfg .h2t sz drv d
  simp only [Channel.getBuffer, Driver.ring, hget, Option.map_some] at heq
  exact heq

/-- `init_driver` either fails and changes nothing, or leaves a fresh ring and an idle IP. -/
theorem initDriver_queue (ip : QueueIp io ch) (hcall : initDriver io info drv d = (rc, drv', d')) :
    (rc ≠ 0 ∧ drv' = drv ∧ ip.uncompleted d' <:+ ip.uncompleted d) ∨
      (rc = 0 ∧ ip.uncompleted d' = [] ∧
        drv'.ring ch = (drv.ring ch).init ip.depth (ch.base info) (ch.span info)) := by
  have hread (o : Nat) {x : D} (hx : ip.uncompleted x = []) :
      ip.uncompleted (io.read32 o x).2 = [] := by
    have h := ip.reads32 o x
    rwa [hx, List.suffix_nil] at h
  have hslots {x : D} (hx : ip.uncompleted x = []) : (io.read32 ch.slotsReg x).1 = ip.depth := by
    rw [ip.slots, hx]
    rfl
  unfold initDriver at hcall
  split at hcall
  · obtain ⟨rfl, rfl, rfl⟩ := by simpa using hcall
    exact Or.inl ⟨by decide, rfl, List.suffix_refl _⟩
  · have hcheck : ip.uncompleted (checkVersionAndType io d).2 <:+ ip.uncompleted d := by
      simp only [checkVersionAndType]
      split <;> exact ip.reads64 _ _
    dsimp only at hcall
    split at hcall
    · obtain ⟨rfl, rfl, rfl⟩ := by simpa using hcall
      exact Or.inl ⟨by decide, rfl, hcheck⟩
    · set d1 := (checkVersionAndType io d).2
      have hreset : ip.uncompleted (assertH2tT2hReset io d1) = [] := ip.reset _ d1 rfl
      set d2 := assertH2tT2hReset io d1
      have hd3 : ip.uncompleted (io.read32 stDbgIpH2tAvailableSlots d2).2 = [] := hread _ hreset
      obtain ⟨rfl, rfl, rfl⟩ := by simpa using hcall
      refine Or.inr ⟨rfl, hread _ hd3, ?_⟩
      cases ch with
      | h2t =>
        have h := hslots hreset
        simp only [Channel.slotsReg] at h
        simp only [Driver.ring, h]
        rfl
      | mgmt =>
        have h := hslots hd3
        simp only [Channel.slotsReg] at h
        simp only [Driver.ring, h]
        rfl

theorem initDriver_proceeds (ip : ChannelIp io info ch) (drv : Driver) (d : D) :
    ip.Proceeds d (initDriver io info drv d).2.2 := by
  have hcheck : ip.Proceeds d (checkVersionAndType io d).2 := by
    simp only [checkVersionAndType]
    split <;> exact ip.read64 _ _
  have hreset (d1 : D) : ip.Proceeds d1 (assertH2tT2hReset io d1) := ip.write32 _ _ d1 (by simp)
  unfold initDriver
  dsimp only
  split
  · exact ChannelIp.Proceeds.refl ip d
  · split
    · exact hcheck
    · exact ((hcheck.trans (hreset _)).trans (ip.read32 _ _)).trans (ip.read32 _ _)

/-- The same with the descriptors that have ever been pushed. -/
theorem initDriver_cases (ip : ChannelIp io info ch)
    (hcall : initDriver io info drv d = (rc, drv', d')) :
    (rc ≠ 0 ∧ drv' = drv ∧ ip.Proceeds d d') ∨
      (rc = 0 ∧ ip.Proceeds d d' ∧ ip.uncompleted d' = [] ∧
        drv'.ring ch = (drv.ring ch).init ip.depth (ch.base info) (ch.span info)) := by
  have hproc := initDriver_proceeds ip drv d
  rw [hcall] at hproc
  rcases initDriver_queue ip.toQueueIp hcall with ⟨hrc, hdrv, -⟩ | ⟨hrc, hidle, hring⟩
  · exact Or.inl ⟨hrc, hdrv, hproc⟩
  · exact Or.inr ⟨hrc, hproc, hidle, hring⟩

end RemoteDebug
