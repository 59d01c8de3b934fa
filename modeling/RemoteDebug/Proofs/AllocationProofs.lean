import RemoteDebug.Hardware.DebugIp
import RemoteDebug.Proofs.ChannelProofs
import RemoteDebug.Server.Session

/-!
# Live allocations do not overlap, and what is given back

Two results about the runs of `ChannelStep`: in every run the regions of the uncompleted descriptors
are disjoint, and the accounting of the window is exact as long as no completion of a descriptor of
more than 65528 bytes is observed. The larger sizes are rounded up to 65536, which the 16-bit chain
entry stores as `0`.
-/

namespace RemoteDebug

open Cyclic Runs

variable {D : Type} {io : Mmio D} {cfg : Config} {ch : Channel} {ip : QueueIp io ch}
  {s s' : ChannelState D} {a : ChannelAction} {lost : Nat}

/-- A packet on the channel. -/
theorem ringInv_get (header : H2tPacketHeader)
    (h : RingInv cfg.info ip (s.drv.ring ch) s.dev s.unobserved lost) :
    ∃ s', s.get cfg ip header = some s' ∧
      RingInv cfg.info ip (s'.drv.ring ch) s'.dev s'.unobserved (lost + leak (s.observed ip)) := by
  obtain ⟨addr, r', d', hget, -, hcases⟩ := h.getBuffer cfg.charSigned header.dataLenBytes.toNat
  simp only [ChannelState.get, ChannelState.observed, channel_getBuffer_eq, hget, Option.map_some]
  refine ⟨_, rfl, ?_⟩
  rcases hcases with ⟨rfl, hinv, -⟩ | ⟨hne, hg⟩
  · simpa using hinv
  · simpa only [hne, ne_eq, not_false_eq_true, if_true, channel_pushData_eq, ring_setRing] using hg.push

/-- Every step preserves `RingInv`; bytes only leak by what a call of `get_h2t_buffer` or
`get_mgmt_buffer` observes. -/
theorem ringInv_step (hok : WindowOk cfg.info ch)
    (h : RingInv cfg.info ip (s.drv.ring ch) s.dev s.unobserved lost)
    (hs : ChannelStep cfg ip s a s') :
    ∃ lost', RingInv cfg.info ip (s'.drv.ring ch) s'.dev s'.unobserved lost' ∧
      (lost = 0 → (∀ header, a = .get header → leak (s.observed ip) = 0) → lost' = 0) := by
  cases hs with
  | init =>
    obtain ⟨rc, drv, d, hcall⟩ : ∃ rc drv d, initDriver io cfg.info s.drv s.dev = (rc, drv, d) :=
      ⟨_, _, _, rfl⟩
    simp only [ChannelState.init, hcall]
    rcases initDriver_queue ip hcall with ⟨hrc, rfl, hproc⟩ | ⟨rfl, hidle, hring⟩
    · simp only [hrc, if_false]
      exact ⟨lost, h.proceeds hproc, fun h0 _ => h0⟩
    · simp only [hring, if_true]
      exact ⟨0, ringInv_init hok hidle, fun _ _ => rfl⟩
  | @get _ header hcall =>
    obtain ⟨s'', hget, hinv⟩ := ringInv_get header h
    obtain rfl : s'' = s' := Option.some.inj (hget.symm.trans hcall)
    refine ⟨_, hinv, fun h0 hleak => ?_⟩
    rw [h0, hleak header rfl]
  | outside hring hproc =>
    refine ⟨lost, ?_, fun h0 _ => h0⟩
    rw [← hring] at h
    exact h.proceeds hproc

theorem ringInv_fresh {drv0 drv : Driver} {d0 d : D} (hok : WindowOk cfg.info ch)
    (hinit : initDriver io cfg.info drv0 d0 = (0, drv, d)) :
    RingInv cfg.info ip (drv.ring ch) d [] 0 := by
  rcases initDriver_queue ip hinit with ⟨hne, -, -⟩ | ⟨-, hidle, hring⟩
  · exact absurd rfl hne
  · rw [hring]
    exact ringInv_init hok hidle

/-- Every state reached from a fresh one satisfies `RingInv`. -/
theorem ringInv_run {drv0 drv : Driver} {d0 d : D} (hok : WindowOk cfg.info ch)
    (hinit : initDriver io cfg.info drv0 d0 = (0, drv, d))
    (hrun : Reach (ChannelStep cfg ip) always (.fresh drv d) s) :
    ∃ lost, RingInv cfg.info ip (s.drv.ring ch) s.dev s.unobserved lost := by
  refine hrun.invariant
    (fun s => ∃ lost, RingInv cfg.info ip (s.drv.ring ch) s.dev s.unobserved lost) ?_
    ⟨0, ringInv_fresh hok hinit⟩
  rintro s a s' ⟨lost, h⟩ - hs
  obtain ⟨lost', h', -⟩ := ringInv_step hok h hs
  exact ⟨lost', h'⟩

/-! ## Disjointness -/

/-- Two regions of the window have no cell in common. -/
def Apart (span : Nat) (r r' : Region) : Prop := Disjoint (r.cells span) (r'.cells span)

/-- The regions of the uncompleted descriptors are disjoint. -/
theorem RingInv.apart {r : DescriptorRing} {d : D} {live : List Descriptor}
    (h : RingInv cfg.info ip r d live lost) :
    ((ip.uncompleted d).map (Descriptor.region (ch.base cfg.info))).Pairwise
      (Apart (ch.span cfg.info)) := by
  have hspace := h.space.space
  have hdisj := h.space.laid.pairwise_disjoint (by omega)
  exact hdisj.sublist (h.uncompleted.sublist.map _)

/-- The uncompleted descriptors lie in the window. -/
theorem RingInv.inside {r : DescriptorRing} {d : D} {live : List Descriptor}
    (h : RingInv cfg.info ip r d live lost) :
    ∀ x ∈ ip.uncompleted d, ch.base cfg.info ≤ x.addr ∧
      x.addr < ch.base cfg.info + ch.span cfg.info ∧ x.alignedLen ≤ ch.span cfg.info := by
  intro x hx
  have hlive := h.uncompleted.subset hx
  have hmem := List.mem_map_of_mem (f := Descriptor.region (ch.base cfg.info)) hlive
  have hstart := h.space.laid.start_lt h.space.span_pos _ hmem
  have hspace := h.space.space
  have hlen : x.alignedLen ≤ total (live.map (Descriptor.region (ch.base cfg.info))) :=
    len_le_total hmem
  have hge := h.addr_ge x hlive
  simp only [Descriptor.region] at hstart
  omega

/-- **Live allocations never overlap**: after any run of `init_driver`, `get_h2t_buffer` with
`push_h2t_data`, or `get_mgmt_buffer` with `push_mgmt_data`, and completions, the regions of the
uncompleted descriptors of the channel are disjoint and lie in its window, and the next call for a
buffer returns. -/
theorem live_allocations_apart (ip : QueueIp io ch) {drv0 drv : Driver} {d0 d : D}
    (hok : WindowOk cfg.info ch) (hinit : initDriver io cfg.info drv0 d0 = (0, drv, d))
    (hrun : Reach (ChannelStep cfg ip) always (.fresh drv d) s) :
    ((ip.uncompleted s.dev).map (Descriptor.region (ch.base cfg.info))).Pairwise
        (Apart (ch.span cfg.info)) ∧
      (∀ x ∈ ip.uncompleted s.dev, ch.base cfg.info ≤ x.addr ∧
        x.addr < ch.base cfg.info + ch.span cfg.info ∧ x.alignedLen ≤ ch.span cfg.info) ∧
      ∀ sz, (ch.getBuffer io cfg sz s.drv s.dev).isSome := by
  obtain ⟨lost, h⟩ := ringInv_run hok hinit hrun
  refine ⟨h.apart, h.inside, fun sz => ?_⟩
  obtain ⟨addr, r', d', hget, -⟩ := h.getBuffer cfg.charSigned sz
  rw [channel_getBuffer_eq, hget]
  rfl

/-- The driver and the small debug IP behind `init_driver`. -/
def DebugIp.booted (cfg : Config) : ChannelState DebugIp :=
  (ChannelState.fresh .static DebugIp.idle).init debugIp cfg

/-- A packet of `len` bytes on the H2T channel of the small debug IP. -/
def DebugIp.packet (cfg : Config) (len : UInt16) (s : ChannelState DebugIp) : ChannelState DebugIp :=
  (s.get cfg (DebugIp.queueIp .h2t) ⟨3, 0, 0, len⟩).getD s

theorem DebugIp.packet_step {cfg : Config} {len : UInt16} {s : ChannelState DebugIp}
    (h : (s.get cfg (DebugIp.queueIp .h2t) ⟨3, 0, 0, len⟩).isSome) :
    ChannelStep cfg (DebugIp.queueIp .h2t) s (.get ⟨3, 0, 0, len⟩) (DebugIp.packet cfg len s) := by
  obtain ⟨s', hs'⟩ := Option.isSome_iff_exists.mp h
  exact .get (by rw [DebugIp.packet, hs']; rfl)

/-- The windows of the default size, 4096 bytes. -/
def defaultDesign : Config := ⟨getDesignInfo 4096, true⟩

theorem live_allocations_apart_two :
    let s := DebugIp.packet defaultDesign 12 (DebugIp.packet defaultDesign 20
      (DebugIp.booted defaultDesign))
    (((DebugIp.queueIp .h2t).uncompleted s.dev).map (Descriptor.region 0x1000)).Pairwise
      (Apart 0x1000) :=
  (live_allocations_apart (DebugIp.queueIp .h2t) ⟨by decide, by decide, by decide⟩
    (rfl : initDriver debugIp defaultDesign.info .static DebugIp.idle
      = (0, (DebugIp.booted defaultDesign).drv, (DebugIp.booted defaultDesign).dev))
    ((Reach.refl.tail trivial (DebugIp.packet_step (by decide))).tail trivial
      (DebugIp.packet_step (by decide)))).1

/-! ## Accounting -/

/-- The window of the channel is accounted for: its free bytes and the allocations whose completion
has not been observed make up the whole window, and the offsets agree with that. -/
def Accounted (cfg : Config) (ch : Channel) (s : ChannelState D) : Prop :=
  let cbuff := (s.drv.ring ch).cbuff
  let allocated := (s.unobserved.map Descriptor.alignedLen).sum
  cbuff.spaceAvailable + allocated = ch.span cfg.info ∧
    (cbuff.readOffset + allocated) % ch.span cfg.info = cbuff.writeOffset % ch.span cfg.info

instance : Decidable (Accounted cfg ch s) := by unfold Accounted; infer_instance

/-- No call for a buffer observes the completion of a descriptor of more than 65528 bytes. -/
def SmallObserved (ip : QueueIp io ch) (s : ChannelState D) (a : ChannelAction) : Prop :=
  ∀ header, a = .get header → ∀ x ∈ s.observed ip, x.howLong ≤ 65528

theorem RingInv.accounted (h : RingInv cfg.info ip (s.drv.ring ch) s.dev s.unobserved 0) :
    Accounted cfg ch s := by
  have hspace := h.space.space
  have hwrite := h.space.write
  rw [total_regions] at hspace hwrite
  refine ⟨by omega, ?_⟩
  rw [hwrite, Nat.add_zero, Nat.mod_mod]

/-- **Accounting**: in every run in which only completions of descriptors of at most 65528 bytes are
observed, the window is accounted for in every state; with nothing outstanding it is all free. -/
theorem window_accounted (ip : QueueIp io ch) {drv0 drv : Driver} {d0 d : D}
    (hok : WindowOk cfg.info ch) (hinit : initDriver io cfg.info drv0 d0 = (0, drv, d))
    (hrun : Reach (ChannelStep cfg ip) (SmallObserved ip) (.fresh drv d) s) :
    Accounted cfg ch s ∧
      (s.unobserved = [] → (s.drv.ring ch).cbuff.spaceAvailable = ch.span cfg.info) := by
  have hinv : RingInv cfg.info ip (s.drv.ring ch) s.dev s.unobserved 0 := by
    refine hrun.invariant
      (fun s => RingInv cfg.info ip (s.drv.ring ch) s.dev s.unobserved 0) ?_
      (ringInv_fresh hok hinit)
    intro s a s' h hguard hs
    obtain ⟨lost', h', hlost⟩ := ringInv_step hok h hs
    have h0 : lost' = 0 := hlost rfl fun header ha => leak_eq_zero (hguard header ha)
    rwa [h0] at h'
  refine ⟨hinv.accounted, fun hnil => ?_⟩
  have hfree := hinv.accounted.1
  simpa [hnil] using hfree

/-- The small debug IP completes the oldest H2T descriptor. -/
def DebugIp.completed (s : ChannelState DebugIp) : ChannelState DebugIp :=
  { s with dev := s.dev.complete .h2t }

theorem DebugIp.completed_step (cfg : Config) (s : ChannelState DebugIp) :
    ChannelStep cfg (DebugIp.queueIp .h2t) s .outside (DebugIp.completed s) :=
  .outside rfl (DebugIp.complete_suffix s.dev .h2t .h2t).1

theorem window_accounted_small :
    Accounted defaultDesign .h2t (DebugIp.packet defaultDesign 12 (DebugIp.completed
      (DebugIp.packet defaultDesign 20 (DebugIp.booted defaultDesign)))) :=
  (window_accounted (DebugIp.queueIp .h2t) ⟨by decide, by decide, by decide⟩
    (rfl : initDriver debugIp defaultDesign.info .static DebugIp.idle
      = (0, (DebugIp.booted defaultDesign).drv, (DebugIp.booted defaultDesign).dev))
    (((Reach.refl.tail (fun _ _ => by decide) (DebugIp.packet_step (by decide))).tail
      (fun _ h => nomatch h) (DebugIp.completed_step _ _)).tail (fun _ _ => by decide)
      (DebugIp.packet_step (by decide)))).1

/-- A packet of 65535 bytes fills a window of 64 KiB. When its completion has been observed nothing is
outstanding and the window has no free byte. -/
theorem window_accounted_fails :
    ¬ ∀ s, Reach (ChannelStep DebugIp.design (DebugIp.queueIp .h2t)) always
        (.fresh (DebugIp.booted DebugIp.design).drv (DebugIp.booted DebugIp.design).dev) s →
      Accounted DebugIp.design .h2t s := by
  intro h
  have hrun : Reach (ChannelStep DebugIp.design (DebugIp.queueIp .h2t)) always
      (.fresh (DebugIp.booted DebugIp.design).drv (DebugIp.booted DebugIp.design).dev)
      (DebugIp.packet DebugIp.design 8 (DebugIp.completed
        (DebugIp.packet DebugIp.design 65535 (DebugIp.booted DebugIp.design)))) :=
    ((Reach.refl.tail trivial (DebugIp.packet_step (by decide))).tail trivial
      (DebugIp.completed_step _ _)).tail trivial (DebugIp.packet_step (by decide))
  exact absurd (h _ hrun) (by decide)

end RemoteDebug
