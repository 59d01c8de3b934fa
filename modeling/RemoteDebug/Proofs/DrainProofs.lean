import RemoteDebug.Hardware.DrainRun
import RemoteDebug.Proofs.LandingProofs
import RemoteDebug.Proofs.RingRunProofs

/-!
# Proofs: the H2T stream is drained

A call of `process_h2t_data` that finds the IP idle pushes the next packet, unless the window can never
hold it. The invariant follows the packets that have been pushed and the bytes that they have cost.
-/

namespace RemoteDebug

open Bytes Script Runs Cyclic

variable {D : Type} {io : Mmio D} {cfg : Config} {ip : ChannelIp io cfg.info .h2t} {s s' : Srv D}
  {packets done rest : List H2tPacket} {p : H2tPacket} {span lost : Nat}

/-! ## Packets that can be served -/

/-- The bytes that the packets have taken away. -/
def lostTo (packets : List H2tPacket) : Nat := (packets.map fun p => lostBytes p.payload.length).sum

theorem lostTo_append (packets packets' : List H2tPacket) :
    lostTo (packets ++ packets') = lostTo packets + lostTo packets' := by
  unfold lostTo
  rw [List.map_append, List.sum_append]

theorem servable_begins (span lost : Nat) (packets : List H2tPacket) :
    servable span lost packets <+: packets := by
  induction packets generalizing lost with
  | nil => exact List.prefix_refl _
  | cons p packets ih =>
    unfold servable
    split
    · exact (List.prefix_cons_inj p).mpr (ih _)
    · exact List.nil_prefix

/-- Behind packets that can be served it depends on what these have cost. -/
theorem servable_append (h : done <+: servable span lost (done ++ rest)) :
    servable span lost (done ++ rest) = done ++ servable span (lost + lostTo done) rest := by
  induction done generalizing lost with
  | nil => rfl
  | cons p done ih =>
    rw [List.cons_append, servable] at h ⊢
    split at h
    · next hfits =>
      rw [if_pos hfits]
      have htail := ih ((List.prefix_cons_inj p).mp h)
      rw [htail, List.cons_append]
      congr 3
      unfold lostTo
      rw [List.map_cons, List.sum_cons, Nat.add_assoc]
    · exact absurd (List.prefix_nil.mp h) (List.cons_ne_nil _ _)

/-- The next packet can be served. -/
theorem servable_next (h : done <+: servable span 0 (done ++ p :: rest))
    (hfits : getAlignedSz p.payload.length + lostTo done ≤ span) :
    done ++ [p] <+: servable span 0 (done ++ p :: rest) := by
  rw [servable_append h, Nat.zero_add, servable, if_pos hfits, List.prefix_append_right_inj]
  exact (List.prefix_cons_inj p).mpr List.nil_prefix

/-- The next packet can not be served. -/
theorem servable_stop (h : done <+: servable span 0 (done ++ p :: rest))
    (hlarge : span < getAlignedSz p.payload.length + lostTo done) :
    servable span 0 (done ++ p :: rest) = done := by
  rw [servable_append h, Nat.zero_add, servable, if_neg (Nat.not_le.mpr hlarge), List.append_nil]

/-- A packet that fits into the window and loses nothing of it. -/
def Fits (span : Nat) (p : H2tPacket) : Prop :=
  getAlignedSz p.payload.length ≤ span ∧ getAlignedSz p.payload.length < 2 ^ 16

/-- Of packets that fit the window holds all. -/
theorem servable_fits (h : ∀ p ∈ packets, Fits span p) : servable span 0 packets = packets := by
  induction packets with
  | nil => rfl
  | cons p packets ih =>
    obtain ⟨hspan, hshort⟩ := h p List.mem_cons_self
    have hlost : lostBytes p.payload.length = 0 := by
      unfold lostBytes
      rw [Nat.mod_eq_of_lt hshort, Nat.sub_self]
    rw [servable, Nat.add_zero, if_pos hspan, hlost, ih fun q hq => h q (List.mem_cons_of_mem p hq)]

/-! ## One call -/

/-- A buffer that has been granted is one that the window has room for. -/
theorem Granted.fits {r : DescriptorRing} {d : D} {live : List Descriptor} {sz addr : Nat}
    (h : Granted cfg.info ip.toQueueIp r d live lost sz addr) :
    getAlignedSz sz + (lost + leak live) ≤ cfg.info.h2tMemSz := by
  have hspace := h.space.space
  have hspan : Channel.h2t.span cfg.info = cfg.info.h2tMemSz := rfl
  rw [total_append, total_regions, chainBytes_add_leak, total_cons, total_nil, hspan] at hspace
  dsimp only at hspace
  omega

/-- A packet that is pushed costs its own bytes. -/
theorem Granted.pushed (hok : WindowOk cfg.info .h2t) {live : List Descriptor} {buff : Nat}
    (h : Granted cfg.info ip.toQueueIp s.drv.h2t s.dev live lost p.header.dataLenBytes.toNat buff)
    (hmode : s.conn.loopbackMode = false) :
    RingWith ip (lost + leak live + lostBytes p.payload.length)
      (pushOrLoopbackH2t io p.header buff (recvH2tPayload io cfg buff p.header.dataLenBytes.toNat
        (s.setH2tWaiting false)).2).2 := by
  obtain ⟨hlt, hsz⟩ := h.bounds
  have hfit : p.header.dataLenBytes.toNat ≤ cfg.info.h2tMemSz := (le_getAlignedSz _).trans hsz
  have hfits : cfg.info.h2tMemBaseAddr + cfg.info.h2tMemSz ≤ 2 ^ 32 := hok.fits
  have hproc := recvH2tPayload_proceeds ip.quiet hok (s.setH2tWaiting false)
    p.header.dataLenBytes.toNat_lt h.base_le hlt (by omega) (by omega)
  have hframe := recvH2tPayload_frame io cfg buff p.header.dataLenBytes.toNat (s.setH2tWaiting false)
  generalize (recvH2tPayload io cfg buff p.header.dataLenBytes.toNat (s.setH2tWaiting false)).2 = s₁
    at hproc hframe ⊢
  have hmode₁ : s₁.conn.loopbackMode = false := by
    rw [hframe.conn]
    exact hmode
  have h₁ : Granted cfg.info ip.toQueueIp s₁.drv.h2t s₁.dev live lost p.header.dataLenBytes.toNat buff := by
    rw [hframe.drv]
    exact h.proceeds hproc.1
  obtain ⟨r, d, hpush, hring, -⟩ := h₁.pushOrLoopback hok hmode₁
  rw [hpush]
  refine ⟨_, _, hring, ?_⟩
  have hleak : leak [Channel.h2t.descriptor p.header buff] = lostBytes p.payload.length := by
    simp only [leak, List.map_cons, List.map_nil, List.sum_cons, List.sum_nil, Nat.add_zero,
      descriptor_alignedLen, lostBytes, p.len_eq]
    rfl
  rw [leak_append, hleak, Nat.add_assoc]

/-- The packets `done` have been pushed, in `n` calls with an idle IP or more; all other packets that can be
served are still to come. -/
structure DrainInv (ip : ChannelIp io cfg.info .h2t) (before : List Descriptor)
    (done rest : List H2tPacket) (n : Nat) (s : Srv D) : Prop where
  delivery : Delivery ip before done rest s
  ring : RingWith ip (lostTo done) s
  served : done <+: servable cfg.info.h2tMemSz 0 (done ++ rest)
  drained : done = servable cfg.info.h2tMemSz 0 (done ++ rest) ∨ n ≤ done.length

/-- The header of the next packet `p` is in the buffer. -/
structure DrainHeld (ip : ChannelIp io cfg.info .h2t) (before : List Descriptor)
    (done : List H2tPacket) (p : H2tPacket) (rest : List H2tPacket) (s : Srv D) : Prop where
  held : HeaderHeld ip before done p rest s
  ring : RingWith ip (lostTo done) s
  served : done <+: servable cfg.info.h2tMemSz 0 (done ++ p :: rest)

variable {before : List Descriptor} {buff n : Nat}

/-- The poll for a buffer. An idle IP only refuses what the window has no room for. -/
theorem DrainHeld.poll (hdepth : 0 < ip.depth) (h : DrainHeld ip before done p rest s) :
    ∃ buff s', pollH2tBuffer io cfg p.header.dataLenBytes.toNat s = some (buff, s') ∧
      ((buff = 0 ∧ DrainHeld ip before done p rest s' ∧ (ip.uncompleted s.dev = [] →
          cfg.info.h2tMemSz < getAlignedSz p.payload.length + lostTo done)) ∨
        (buff ≠ 0 ∧ BufferHeld ip before done p rest buff s' ∧ ∃ live lost,
          Granted cfg.info ip.toQueueIp s'.drv.h2t s'.dev live lost p.header.dataLenBytes.toNat buff ∧
            lost + leak live = lostTo done)) := by
  obtain ⟨buff, s', hpoll, hcases⟩ := h.held.poll
  obtain ⟨buff', s'', hpoll', hcases'⟩ := h.ring.poll h.held.normal p.header.dataLenBytes.toNat
  obtain ⟨rfl, rfl⟩ := Prod.mk.inj (Option.some.inj (hpoll.symm.trans hpoll'))
  refine ⟨buff, s', hpoll, ?_⟩
  rcases hcases with ⟨hzero, hheld⟩ | ⟨hne, hbuff⟩
  · rcases hcases' with ⟨-, hring, hidle⟩ | ⟨hne, -⟩
    · refine .inl ⟨hzero, ⟨hheld, hring, h.served⟩, ?_⟩
      rw [p.len_eq]
      exact hidle hdepth
    · exact absurd hzero hne
  · rcases hcases' with ⟨hzero, -⟩ | ⟨-, hgranted⟩
    · exact absurd hzero hne
    · exact .inr ⟨hne, hbuff, hgranted⟩

/-- **A call of `process_h2t_data`** pushes a packet, or the window has no room for it, or the IP is not
idle. -/
theorem DrainInv.process (hok : WindowOk cfg.info .h2t) (hdepth : 0 < ip.depth)
    (h : DrainInv ip before done rest n s) {x : ReturnCode × Srv D}
    (hcall : processH2tData io cfg s = some x) :
    ∃ now rest', rest = now ++ rest' ∧ DrainInv ip before (done ++ now) rest'
      (if ip.uncompleted s.dev = [] then n + 1 else n) x.2 := by
  rcases h.delivery.header with ⟨s₁, hhead, p, rest', rfl, hheld⟩ | ⟨s₁, hhead, rfl, hdel⟩
  · have hring := h.ring.aside (updateCurrH2tHeader_next ip hhead).1
    have hdev := (updateCurrH2tHeader_device s).2
    rw [hhead] at hdev
    have hheader : headerOf s₁.conn.h2tHeaderBuff = p.header := by
      rw [hheld.head]
      rfl
    obtain ⟨buff, s₂, hpoll, hcases⟩ := DrainHeld.poll hdepth ⟨hheld, hring, h.served⟩
    rw [← hdev]
    rw [← hheader] at hpoll
    rcases hcases with ⟨rfl, hheld₂, hidle⟩ | ⟨hne, hbuff, live, lost, hgranted, hlost⟩
    · have hx : x = (.ok, s₂.setH2tWaiting true) := by
        refine Option.some.inj (hcall.symm.trans ?_)
        simp only [processH2tData, hhead, hpoll, if_true, Option.map_some, ne_eq, not_true_eq_false,
          if_false]
      subst hx
      refine ⟨[], p :: rest', rfl, ?_⟩
      rw [List.append_nil]
      have hheld₃ := hheld₂.held
      refine ⟨⟨⟨hheld₃.normal, hheld₃.ring, hheld₃.flowing, hheld₃.committed⟩, p, rest', rfl,
        hheld₃.head, hheld₃.pending⟩, hheld₂.ring, h.served, ?_⟩
      by_cases hempty : ip.uncompleted s₁.dev = []
      · exact .inl (servable_stop h.served (hidle hempty)).symm
      · rw [if_neg hempty]
        exact h.drained
    · obtain ⟨s₃, hpush, hdel⟩ := hbuff.push hok
      have hring₃ := hgranted.pushed hok hbuff.normal
      rw [hpush, hlost] at hring₃
      have hfits := hgranted.fits
      have hlen : p.payload.length = p.header.dataLenBytes.toNat := p.len_eq
      rw [hlost, ← hlen] at hfits
      have hserved := servable_next h.served hfits
      rw [← hheader] at hpush
      have hx : x = (.ok, s₃) := by
        refine Option.some.inj (hcall.symm.trans ?_)
        simp only [processH2tData, hhead, hpoll, if_true, Option.map_some, hne, ne_eq,
          not_false_eq_true, recvH2tPayload_ok, hpush]
      subst hx
      refine ⟨[p], rest', rfl, hdel, ?_, ?_, ?_⟩
      · rw [lostTo_append]
        exact hring₃
      · rw [List.append_assoc]
        exact hserved
      · rcases h.drained with hall | hle
        · have hlong := hserved.length_le
          rw [← hall, List.length_append] at hlong
          exact absurd hlong (Nat.not_succ_le_self _)
        · right
          rw [List.length_append]
          split
          · exact Nat.succ_le_succ hle
          · exact Nat.le_succ_of_le hle
  · have hx : x = (.failure, s₁) := by
      refine Option.some.inj (hcall.symm.trans ?_)
      simp [processH2tData, hhead]
    subst hx
    refine ⟨[], [], rfl, ?_⟩
    rw [List.append_nil]
    refine ⟨hdel, h.ring.aside (updateCurrH2tHeader_next ip hhead).1, h.served, .inl ?_⟩
    have hserved := h.served
    rw [List.append_nil] at hserved ⊢
    exact hserved.eq_of_length_le (servable_begins _ _ _).length_le

theorem DrainInv.hardware (h : DrainInv ip before done rest n s) {d : D}
    (hproc : ip.Proceeds s.dev d) : DrainInv ip before done rest n { s with dev := d } :=
  ⟨h.delivery.hardware hproc, h.ring.same rfl hproc, h.served, h.drained⟩

/-! ## Runs -/

theorem H2tStart.drainInv (hok : WindowOk cfg.info .h2t) (h : H2tStart io cfg packets s) :
    DrainInv ip (ip.committed s.dev) [] packets 0 s := by
  obtain ⟨drv0, d0, hinit⟩ := h.init
  refine ⟨h.delivery hok, ?_, List.nil_prefix, .inr le_rfl⟩
  rcases initDriver_cases ip hinit with ⟨hne, -⟩ | ⟨-, -, hidle, hring⟩
  · exact absurd rfl hne
  · have heq : s.drv.h2t = _ := hring
    refine ⟨[], 0, ?_, rfl⟩
    rw [heq]
    exact ringInv_init hok hidle

/-- **The H2T stream is drained**: whatever calls and completions have happened, the packets pushed are
ones that the window can hold. They are all of these, or as many at least as calls have found the IP idle.
No packet is left over when all of them fit and there have been as many such calls. -/
theorem h2t_drained (ip : ChannelIp io cfg.info .h2t) (hok : WindowOk cfg.info .h2t)
    (hdepth : 0 < ip.depth) (packets : List H2tPacket) {s0 : Srv D} {n : Nat}
    (hstart : H2tStart io cfg packets s0)
    (hrun : Reach (DrainStep cfg ip) always ⟨s0, 0⟩ ⟨s, n⟩) :
    ∃ done rest, packets = done ++ rest ∧
      (∃ descs, ip.committed s.dev = ip.committed s0.dev ++ descs ∧
        List.Forall₂ Carries done descs) ∧
      done <+: servable cfg.info.h2tMemSz 0 packets ∧
      (done = servable cfg.info.h2tMemSz 0 packets ∨ n ≤ done.length) ∧
      ((∀ p ∈ packets, Fits cfg.info.h2tMemSz p) → packets.length ≤ n → rest = []) := by
  have hinv : ∃ done rest, packets = done ++ rest ∧
      DrainInv ip (ip.committed s0.dev) done rest n s := by
    refine hrun.invariant (fun st => ∃ done rest, packets = done ++ rest ∧
      DrainInv ip (ip.committed s0.dev) done rest st.idleCalls st.srv) ?_
      ⟨[], packets, rfl, hstart.drainInv hok⟩
    rintro st a st' ⟨done, rest, rfl, hinv⟩ - hstep
    cases hstep with
    | process hcall =>
      obtain ⟨now, rest', rfl, hinv'⟩ := hinv.process hok hdepth hcall
      exact ⟨done ++ now, rest', (List.append_assoc _ _ _).symm, hinv'⟩
    | hardware hproc => exact ⟨done, rest, rfl, hinv.hardware hproc⟩
  obtain ⟨done, rest, rfl, hinv⟩ := hinv
  refine ⟨done, rest, rfl, hinv.delivery.committed, hinv.served, hinv.drained, ?_⟩
  intro hfits hlen
  have hdrained := hinv.drained
  rw [servable_fits hfits] at hdrained
  rw [List.length_append] at hlen
  rcases hdrained with hall | hle
  · exact List.self_eq_append_right.mp hall
  · exact List.length_eq_zero_iff.mp (by omega)

theorem DebugIp.processed_idle {s : Srv DebugIp} {n : Nat}
    (h : (processH2tData debugIp DebugIp.design s).isSome) (hidle : s.dev.queue .h2t = []) :
    DrainStep DebugIp.design DebugIp.h2tIp ⟨s, n⟩ .process ⟨DebugIp.processed s, n + 1⟩ := by
  obtain ⟨x, hx⟩ := Option.isSome_iff_exists.mp h
  have hstep : DrainStep DebugIp.design DebugIp.h2tIp ⟨s, n⟩ .process
      ⟨x.2, if DebugIp.h2tIp.uncompleted s.dev = [] then n + 1 else n⟩ := .process hx
  rw [if_pos (show DebugIp.h2tIp.uncompleted s.dev = [] from hidle)] at hstep
  rw [DebugIp.processed, hx]
  exact hstep

/-- The first of the two packets is pushed and completed. -/
def DebugIp.firstCompleted : Srv DebugIp :=
  { DebugIp.processed DebugIp.twoPacketSession with
    dev := (DebugIp.processed DebugIp.twoPacketSession).dev.complete .h2t }

theorem h2t_drained_two :
    List.Forall₂ Carries twoPackets ((DebugIp.processed DebugIp.firstCompleted).dev.pushed .h2t) := by
  have hstart : H2tStart debugIp DebugIp.design twoPackets DebugIp.twoPacketSession :=
    ⟨⟨.static, DebugIp.idle, rfl⟩, rfl, rfl, flowing_pieces (by decide), by decide⟩
  have hrun : Reach (DrainStep DebugIp.design DebugIp.h2tIp) always
      ⟨DebugIp.twoPacketSession, 0⟩ ⟨DebugIp.processed DebugIp.firstCompleted, 2⟩ := by
    refine ((Reach.refl.tail trivial (DebugIp.processed_idle rfl rfl)).tail trivial
      (.hardware ?_)).tail trivial (DebugIp.processed_idle rfl rfl)
    exact DebugIp.complete_suffix (DebugIp.processed DebugIp.twoPacketSession).dev .h2t .h2t
  obtain ⟨done, rest, hsplit, ⟨descs, hcom, hall⟩, -, -, hdrained⟩ :=
    h2t_drained DebugIp.h2tIp ⟨by decide, by decide, by decide⟩ (by decide) twoPackets hstart hrun
  have hfits : ∀ p ∈ twoPackets, Fits DebugIp.design.info.h2tMemSz p := by
    unfold Fits
    decide
  obtain rfl := hdrained hfits le_rfl
  rw [hsplit, List.append_nil]
  have hpushed : (DebugIp.processed DebugIp.firstCompleted).dev.pushed .h2t = descs := hcom
  exact hpushed ▸ hall

end RemoteDebug
