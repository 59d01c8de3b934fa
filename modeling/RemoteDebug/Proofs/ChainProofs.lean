import RemoteDebug.Hardware.ChainRun
import RemoteDebug.Proofs.AllocationProofs

/-!
# The descriptor chain is a faithful FIFO

`RingInv` already ties the chain to the descriptors whose completion has not been observed. Here it is
read off for every reachable state and for every call in it.
-/

namespace RemoteDebug

open Runs

variable {D : Type} {io : Mmio D} {info : DesignInfo} {ch : Channel} {ip : QueueIp io ch}
  {r : DescriptorRing} {d : D} {live : List Descriptor} {depth lost : Nat}

theorem chainBytes_map (l : List Descriptor) :
    chainBytes (l.map Descriptor.alignedLen) = (l.map Descriptor.chainEntry).sum := by
  unfold chainBytes
  rw [List.map_map]
  rfl

theorem ChainInv.faithful (h : ChainInv depth r (live.map Descriptor.alignedLen)) :
    ChainFaithful depth r live := by
  have hslots := h.slots
  have hidx := h.idx
  rw [List.length_map] at hslots hidx
  refine ⟨by omega, by omega, ?_⟩
  intro i hi
  have hentry := h.chain i (by simpa using hi)
  rwa [List.getElem_map] at hentry

/-- The loop of the next call. -/
theorem RingInv.reclaims (h : RingInv info ip r d live lost) (charSigned : Bool) :
    reclaimLoop charSigned r.chain r.readIdx (r.freedSlots (io.read32 ch.slotsReg d).1) 257 0 0 =
      some ((live.take (live.length - (ip.uncompleted d).length)).map Descriptor.chainEntry).sum := by
  have hn : (ip.uncompleted d).length ≤ (live.map Descriptor.alignedLen).length := by
    simpa using h.uncompleted.length_le
  have hloop := h.chain.reclaimLoop_eq ip.depth_le charSigned (Nat.sub_le _ (ip.uncompleted d).length)
  rw [DescriptorRing.freedSlots, ip.slots, h.chain.freed_eq ip.depth_le hn, hloop, List.length_map,
    ← List.map_take, chainBytes_map]

/-- Giving back only moves the read index. -/
theorem reclaim_chain {charSigned : Bool} {slots : Nat} {r' : DescriptorRing}
    (h : reclaim charSigned slots r = some r') : r'.chain = r.chain := by
  unfold reclaim at h
  dsimp only at h
  split at h
  · obtain ⟨b, -, rfl⟩ := Option.map_eq_some_iff.mp h
    rfl
  · rw [Option.some.inj h]

/-- A granted buffer leaves a slot for its push and writes no live entry. -/
theorem ringInv_grants (h : RingInv info ip r d live lost) {sz : Nat} (hne : (takeBuffer sz r).1 ≠ 0) :
    0 < (takeBuffer sz r).2.slotsAvailable ∧
      ∀ i < live.length, (takeBuffer sz r).2.chain (((takeBuffer sz r).2.readIdx + i) % 128 : Nat) =
        r.chain (((takeBuffer sz r).2.readIdx + i) % 128 : Nat) := by
  by_cases hgrant : 0 < r.slotsAvailable ∧ getAlignedSz sz ≤ r.cbuff.spaceAvailable
  · simp only [takeBuffer, hgrant, and_self, if_true, true_and]
    intro i hi
    have hidx := h.chain.writeIdx_ne ip.depth_le hgrant.1 (i := i) (by simpa using hi)
    exact Function.update_of_ne (by exact_mod_cast hidx) ..
  · simp [takeBuffer, hgrant] at hne

variable {cfg : Config} {s : ChannelState D}

theorem ringInv_callFaithful (h : RingInv cfg.info ip (s.drv.ring ch) s.dev s.unobserved lost)
    (sz : Nat) : CallFaithful cfg ip s sz := by
  refine ⟨h.reclaims cfg.charSigned, ?_⟩
  intro addr drv d hcall hne
  obtain ⟨r', hrec, hinv⟩ := h.reclaim cfg.charSigned
  rw [channel_getBuffer_eq, getBuffer] at hcall
  simp only [hrec, Option.map_some, Option.some.injEq, Prod.mk.injEq] at hcall
  obtain ⟨rfl, rfl, -⟩ := hcall
  rw [ring_setRing, ← reclaim_chain hrec]
  exact ringInv_grants hinv hne

/-- **The descriptor chain is a faithful FIFO**: after any run of `init_driver`, `get_h2t_buffer` with
`push_h2t_data`, or `get_mgmt_buffer` with `push_mgmt_data`, and completions, the slot counter, the indices
and the chain agree with the descriptors whose completion has not been observed; the next call for a buffer
adds up the entries of those whose completion it observes, grants a buffer only if there is a slot for its
push, and overwrites no other live entry. -/
theorem descriptor_chain_fifo (ip : QueueIp io ch) {drv0 drv : Driver} {d0 d : D}
    (hok : WindowOk cfg.info ch) (hinit : initDriver io cfg.info drv0 d0 = (0, drv, d))
    (hrun : Reach (ChannelStep cfg ip) always (.fresh drv d) s) :
    ChainFaithful ip.depth (s.drv.ring ch) s.unobserved ∧ ∀ sz, CallFaithful cfg ip s sz := by
  obtain ⟨lost, h⟩ := ringInv_run hok hinit hrun
  exact ⟨h.chain.faithful, ringInv_callFaithful h⟩

theorem descriptor_chain_fifo_completed :
    let s := DebugIp.packet defaultDesign 12 (DebugIp.completed
      (DebugIp.packet defaultDesign 20 (DebugIp.booted defaultDesign)))
    ChainFaithful (DebugIp.queueIp .h2t).depth s.drv.h2t s.unobserved :=
  (descriptor_chain_fifo (DebugIp.queueIp .h2t) ⟨by decide, by decide, by decide⟩
    (rfl : initDriver debugIp defaultDesign.info .static DebugIp.idle
      = (0, (DebugIp.booted defaultDesign).drv, (DebugIp.booted defaultDesign).dev))
    (((Reach.refl.tail trivial (DebugIp.packet_step (by decide))).tail trivial
      (DebugIp.completed_step _ _)).tail trivial (DebugIp.packet_step (by decide)))).1

end RemoteDebug
