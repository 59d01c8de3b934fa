import RemoteDebug.Proofs.RingRunProofs
import RemoteDebug.Proofs.T2hProofs

/-!
# The staging buffers

How far the two staging buffers are written. In normal operation `get_h2t_buffer` only grants what
fits into the window; the loopback path has no such test.
-/

namespace RemoteDebug

open Bytes CString Script Runs

variable {D : Type} {io : Mmio D} {cfg : Config} {s s' : Srv D} {size memSize : Nat}

/-- Nothing has been written behind the first `size` bytes of the staging buffers. -/
structure Bounded (size : Nat) (s : Srv D) : Prop where
  recv : s.recvBuff.top ≤ size
  send : s.sendBuff.top ≤ size

theorem Bounded.record (h : Bounded size s) (e : Event) : Bounded size (s.record e) :=
  ⟨h.recv, h.send⟩

theorem wordBytes_mono {len len' : Nat} (h : len ≤ len') : wordBytes len ≤ wordBytes len' := by
  unfold wordBytes
  omega

/-! ## Copies -/

theorem fpga2hostLoop_top (io : Mmio D) (buff n i : Nat) (st : Staging) (d : D) :
    (fpga2hostLoop io buff n i st d).1.top = if n = 0 then st.top else max st.top (8 * (i + n)) := by
  induction n generalizing i st d with
  | zero => rfl
  | succ n ih =>
    rw [fpga2hostLoop, ih]
    by_cases hn : n = 0
    · subst hn
      simp only [if_true, Nat.add_one_ne_zero, if_false, Staging.storeWord]
      omega
    · simp only [hn, Nat.add_one_ne_zero, if_false, Staging.storeWord]
      omega

/-- The copy of `len` bytes writes all their words. -/
theorem socketSendAllT2hData_top (io : Mmio D) (buff len : Nat) (s : Srv D) :
    (socketSendAllT2hData io .t2hData buff len s).2.sendBuff.top
      = if len = 0 then s.sendBuff.top else max s.sendBuff.top (wordBytes len) := by
  have htop := fpga2hostLoop_top io buff ((len + 7) / 8) 0 s.sendBuff s.dev
  have hsend : (socketSendAllT2hData io .t2hData buff len s).2.sendBuff.top
      = (fpga2hostLoop io buff ((len + 7) / 8) 0 s.sendBuff s.dev).1.top := rfl
  rw [hsend, htop, wordBytes, Nat.zero_add]
  by_cases hlen : len = 0
  · simp [hlen]
  · rw [if_neg hlen, if_neg (by omega)]

theorem bounded_socketSendAllT2hData (io : Mmio D) (buff : Nat) {len : Nat} (h : Bounded size s)
    (hlen : wordBytes len ≤ size) :
    Bounded size (socketSendAllT2hData io .t2hData buff len s).2 := by
  refine ⟨h.recv, ?_⟩
  have hsend := h.send
  rw [socketSendAllT2hData_top]
  split <;> omega

theorem bounded_socketRecvAccumulateH2tData {buff len : Nat} (h : Bounded size s)
    (hlen : len ≤ size) : Bounded size (socketRecvAccumulateH2tData io .h2tData buff len s).2 := by
  have hle := socketRecvAccumulate_length_le (s.client .h2tData).rx len
  have hrecv : Bounded size { (s.recvAccumulate .h2tData len).2.2 with
      recvBuff := s.recvBuff.receive (s.recvAccumulate .h2tData len).2.1 } :=
    ⟨Nat.max_le.mpr ⟨h.recv, hle.trans hlen⟩, h.send⟩
  unfold socketRecvAccumulateH2tData
  dsimp only
  split
  · exact ⟨hrecv.recv, hrecv.send⟩
  · exact hrecv

/-! ## Windows -/

/-- The H2T and T2H windows have `memSize` bytes, and their ends can be computed without overflow. Only
large windows do not fit the 32-bit addresses. -/
structure WindowsFit (info : DesignInfo) (memSize : Nat) : Prop where
  h2t_sz : info.h2tMemSz = memSize
  t2h_sz : info.t2hMemSz = memSize
  pos : 0 < memSize
  h2t_end : info.h2tMemBaseAddr + memSize + 2 ^ 16 ≤ 2 ^ 64
  t2h_end : info.t2hMemBaseAddr + memSize + 2 ^ 16 ≤ 2 ^ 64
  low : WindowOk info .h2t → info.h2tMemBaseAddr + 2 ^ 16 ≤ 2 ^ 32
  high : WindowOk info .h2t ∨ (2 ^ 32 ≤ info.h2tMemBaseAddr + memSize ∧ 2 ^ 16 ≤ memSize)

theorem windowsFit_getDesignInfo (h0 : 0 < memSize) (h63 : memSize < 2 ^ 63) :
    WindowsFit (getDesignInfo memSize) memSize := by
  have hh2t : (getDesignInfo memSize).h2tMemBaseAddr < 2 ^ 32 ∧
      (getDesignInfo memSize).t2hMemBaseAddr < 2 ^ 32 := by
    simp only [getDesignInfo, h2tMemBase2k, t2hMemBase4k]
    split <;> omega
  have hjop : jopMemSize2k = 2048 := rfl
  refine ⟨rfl, rfl, h0, by omega, by omega, fun hok => ?_, ?_⟩
  · have hend : (getDesignInfo memSize).h2tMemBaseAddr + memSize ≤ 2 ^ 32 := hok.fits
    simp only [getDesignInfo, h2tMemBase2k] at hend ⊢
    by_cases hbig : jopMemSize2k < memSize
    · rw [if_pos hbig] at hend ⊢
      omega
    · rw [if_neg hbig] at hend ⊢
      omega
  · by_cases h31 : memSize ≤ 2 ^ 31
    · refine Or.inl ⟨?_, h0, ?_⟩ <;>
        simp only [Channel.base, Channel.span, getDesignInfo, h2tMemBase2k] <;>
        split <;> omega
    · refine Or.inr ⟨?_, by omega⟩
      simp only [getDesignInfo, h2tMemBase2k]
      split <;> omega

variable (hfit : WindowsFit cfg.info memSize)

include hfit in
theorem bounded_recvH2tPayload (io : Mmio D) {buff len : Nat} (h : Bounded size s) (h16 : len < 2 ^ 16)
    (hbuff : buff < cfg.info.h2tMemBaseAddr + memSize) (hlen : len ≤ size) :
    Bounded size (recvH2tPayload io cfg buff len s).2 := by
  have hend := hfit.h2t_end
  rw [← hfit.h2t_sz] at hbuff hend
  by_cases hb : buff + len ≤ cfg.info.h2tMemBaseAddr + cfg.info.h2tMemSz
  · rw [recvH2tPayload_unsplit io hend h16 hb]
    exact bounded_socketRecvAccumulateH2tData h hlen
  · rw [recvH2tPayload_split io hend h16 hbuff (by omega)]
    refine bounded_socketRecvAccumulateH2tData (bounded_socketRecvAccumulateH2tData h ?_) ?_ <;>
      omega

include hfit in
theorem bounded_sendT2hPayload (io : Mmio D) {buff len : Nat} (h : Bounded size s) (h16 : len < 2 ^ 16)
    (hbuff : buff < cfg.info.t2hMemBaseAddr + memSize) (hlen : wordBytes len ≤ size) :
    Bounded size (sendT2hPayload io cfg buff len s).2 := by
  have hend := hfit.t2h_end
  rw [← hfit.t2h_sz] at hbuff hend
  by_cases hb : buff + len ≤ cfg.info.t2hMemBaseAddr + cfg.info.t2hMemSz
  · rw [sendT2hPayload_unsplit io cfg buff hend h16 hb]
    exact bounded_socketSendAllT2hData io buff h hlen
  · have hfirst : cfg.info.t2hMemBaseAddr + cfg.info.t2hMemSz - buff ≤ len := by omega
    have h1 := bounded_socketSendAllT2hData io buff h
      ((wordBytes_mono hfirst).trans hlen)
    rw [sendT2hPayload_split io cfg hend h16 hbuff (by omega)]
    dsimp only
    split
    · exact bounded_socketSendAllT2hData io _ h1 ((wordBytes_mono (Nat.sub_le _ _)).trans hlen)
    · exact h1

/-- The end of `process_h2t_data`: only an echo writes. -/
theorem bounded_pushOrLoopbackH2t (io : Mmio D) (header : H2tPacketHeader) (buff : Nat)
    (h : Bounded size s)
    (hecho : s.conn.loopbackMode = true → wordBytes header.dataLenBytes.toNat ≤ size) :
    Bounded size (pushOrLoopbackH2t io header buff s).2 := by
  have hhead : Bounded size (s.sendAll .t2hData s.conn.h2tHeaderBuff.bytes).2 := ⟨h.recv, h.send⟩
  unfold pushOrLoopbackH2t
  dsimp only
  split
  · have hpush (drv : Driver) (d : D) : Bounded size { s with drv := drv, dev := d } :=
      ⟨h.recv, h.send⟩
    exact (hpush _ _).record _
  · next hloop =>
    have hfits := hecho (by simpa using hloop)
    generalize s.sendAll .t2hData s.conn.h2tHeaderBuff.bytes = x at hhead ⊢
    split
    · exact bounded_socketSendAllT2hData io buff hhead hfits
    · exact hhead

/-! ## Calls -/

variable {ip : ChannelIp io cfg.info .h2t}

theorem Bounded.aside (h : Bounded size s) (ha : Aside ip s s') : Bounded size s' :=
  ⟨ha.recvBuff ▸ h.recv, ha.sendBuff ▸ h.send⟩

/-- The staging buffers are not overrun, and the server and the IP agree on the H2T ring. -/
structure StagingInv (ip : ChannelIp io cfg.info .h2t) (memSize : Nat) (s : ServerState D) :
    Prop where
  bounded : Bounded (memSize + 64) s.srv
  ring : WindowOk cfg.info .h2t → RingHolds ip s

theorem bounded_connect (ip : ChannelIp io cfg.info .h2t) (h : Bounded size s) :
    Bounded size (ServerState.connect io cfg s).srv := by
  generalize hs : ({ resetBuffers s with client := clientConnDefault } : Srv D) = s1
  have h1 : Bounded size s1 := by
    subst hs
    exact ⟨h.recv, h.send⟩
  obtain ⟨rc, drv, d, hinit⟩ : ∃ rc drv d, initDriver io cfg.info s1.drv s1.dev = (rc, drv, d) :=
    ⟨_, _, _, rfl⟩
  obtain ⟨ha, -⟩ := aside_connectClient ip hinit
  have h2 : Bounded size (connectClient io cfg s1).2 :=
    ⟨ha.recvBuff ▸ h1.recv, ha.sendBuff ▸ h1.send⟩
  unfold ServerState.connect
  rw [hs]
  dsimp only
  split
  · exact h2.record _
  · exact h2

/-- A buffer at `buff` has been chosen for a packet of `len` bytes: the start of the window in loopback
mode, else what `get_h2t_buffer` has granted. -/
structure Chosen (base memSize len buff : Nat) (s : Srv D) : Prop where
  bounded : Bounded (memSize + 64) s
  buff_lt : buff < base + memSize
  len_le : len ≤ memSize + 64
  echo : s.conn.loopbackMode = true → wordBytes len ≤ memSize + 64

theorem getH2tBuffer_addr_lt {len : Nat} {drv : Driver} {d : D} {x : Nat × Driver × D}
    (h : getH2tBuffer io cfg len drv d = some x) : x.1 < 2 ^ 32 := by
  unfold getH2tBuffer getBuffer at h
  obtain ⟨y, hy, rfl⟩ := Option.map_eq_some_iff.mp h
  obtain ⟨r, -, rfl⟩ := Option.map_eq_some_iff.mp hy
  dsimp only
  unfold takeBuffer
  dsimp only
  split
  · exact Nat.mod_lt _ (Nat.two_pow_pos 32)
  · exact Nat.two_pow_pos 32

include hfit in
/-- The poll for a buffer: none, or one that has room for the packet. -/
theorem StagingInv.poll {len buff : Nat} (h : StagingInv ip memSize ⟨s, true⟩)
    (hecho : s.conn.loopbackMode = true → wordBytes len ≤ memSize + 64) (h16 : len < 2 ^ 16)
    (hpoll : pollH2tBuffer io cfg len s = some (buff, s')) (hne : buff ≠ 0) :
    Chosen cfg.info.h2tMemBaseAddr memSize len buff s' := by
  obtain ⟨hconn, -, -, hrecv, hsend⟩ := pollH2tBuffer_frame hpoll
  have hb : Bounded (memSize + 64) s' := ⟨hrecv ▸ h.bounded.recv, hsend ▸ h.bounded.send⟩
  have hpos := hfit.pos
  rw [← hconn] at hecho
  by_cases hmode : s.conn.loopbackMode = false
  · by_cases hwin : WindowOk cfg.info .h2t
    · obtain ⟨k, hring⟩ := h.ring hwin rfl
      obtain ⟨_, _, hpoll', hwhich⟩ := hring.poll hmode len
      obtain ⟨rfl, rfl⟩ := Prod.mk.inj (Option.some.inj (hpoll.symm.trans hpoll'))
      rcases hwhich with ⟨h0, -⟩ | ⟨-, live, lost, hg, -⟩
      · exact absurd h0 hne
      · obtain ⟨hlt, hsz⟩ := hg.bounds
        have hlen : len ≤ cfg.info.h2tMemSz := (le_getAlignedSz len).trans hsz
        have hlt' : buff < cfg.info.h2tMemBaseAddr + cfg.info.h2tMemSz := hlt
        rw [hfit.h2t_sz] at hlen hlt'
        exact ⟨hb, hlt', by omega, hecho⟩
    · obtain ⟨hend, hsz⟩ := hfit.high.resolve_left hwin
      rw [pollH2tBuffer, if_pos hmode] at hpoll
      obtain ⟨x, hget, hx⟩ := Option.map_eq_some_iff.mp hpoll
      have haddr := getH2tBuffer_addr_lt hget
      rw [(Prod.mk.inj hx).1] at haddr
      exact ⟨hb, by omega, by omega, hecho⟩
  · rw [pollH2tBuffer, if_neg hmode] at hpoll
    obtain ⟨rfl, rfl⟩ := Prod.mk.inj (Option.some.inj hpoll)
    have hloop : s.conn.loopbackMode = true := by simpa using hmode
    exact ⟨hb, by omega, (le_wordBytes len).trans (hecho hloop), hecho⟩

include hfit in
/-- The payload is received, and the packet is pushed or echoed. -/
theorem Chosen.finish (io : Mmio D) {header : H2tPacketHeader} {buff : Nat}
    (h : Chosen cfg.info.h2tMemBaseAddr memSize header.dataLenBytes.toNat buff s) :
    Bounded (memSize + 64) (pushOrLoopbackH2t io header buff
      (recvH2tPayload io cfg buff header.dataLenBytes.toNat (s.setH2tWaiting false)).2).2 := by
  have hset : Bounded (memSize + 64) (s.setH2tWaiting false) := ⟨h.bounded.recv, h.bounded.send⟩
  have hbound := bounded_recvH2tPayload hfit io hset header.dataLenBytes.toNat_lt h.buff_lt h.len_le
  have hframe := recvH2tPayload_frame io cfg buff header.dataLenBytes.toNat (s.setH2tWaiting false)
  exact bounded_pushOrLoopbackH2t io header buff hbound fun hloop => h.echo (by
    rw [hframe.conn] at hloop
    exact hloop)

include hfit in
theorem StagingInv.h2t {x : ReturnCode × Srv D} (h : StagingInv ip memSize ⟨s, true⟩)
    (hecho : EchoFits (memSize + 64) ⟨s, true⟩ .h2t) (hcall : processH2tData io cfg s = some x) :
    Bounded (memSize + 64) x.2 := by
  rcases processH2tData_cases hcall with ⟨rfl, -⟩ | ⟨s1, buff, s2, hhead, hpoll, hcases⟩
  · have heq : updateCurrH2tHeader s = ((updateCurrH2tHeader s).1, (updateCurrH2tHeader s).2) := rfl
    exact h.bounded.aside (updateCurrH2tHeader_next ip heq).1
  · obtain ⟨ha, hmode, hnext⟩ := updateCurrH2tHeader_next ip hhead
    obtain ⟨harr, hheader⟩ := hnext rfl
    have h1 : StagingInv ip memSize ⟨s1, true⟩ := by
      refine ⟨h.bounded.aside ha, fun hwin _ => ?_⟩
      obtain ⟨k, hk⟩ := h.ring hwin rfl
      exact ⟨k, hk.aside ha⟩
    rw [hheader] at hpoll hcases
    rcases hcases with ⟨-, rfl⟩ | ⟨hne, rfl⟩
    · obtain ⟨-, -, -, hrecv, hsend⟩ := pollH2tBuffer_frame hpoll
      exact ⟨hrecv ▸ h1.bounded.recv, hsend ▸ h1.bounded.send⟩
    · exact (h1.poll hfit (fun hloop => hecho rfl (hmode ▸ hloop) harr)
        (nextH2tHeader s).dataLenBytes.toNat_lt hpoll hne).finish hfit io

include hfit in
theorem Bounded.t2h (h : Bounded (memSize + 64) s)
    (hwindow : T2hInWindow io cfg.info ⟨s, true⟩ .t2h) :
    Bounded (memSize + 64) (processT2hData io cfg s).2 := by
  have hget (b : HeaderBuff) (drv : Driver) (d : D) : Bounded (memSize + 64)
      { s with conn := { s.conn with t2hHeaderBuff := b }, drv := drv, dev := d } :=
    ⟨h.recv, h.send⟩
  unfold processT2hData
  dsimp only
  by_cases hne : (frontT2h io s.dev).howLong % 2 ^ 16 = 0
  · obtain ⟨header, hempty⟩ :=
      getT2hData_empty cfg.info (headerOf s.conn.t2hHeaderBuff) s.drv hne
    rw [hempty]
    exact hget _ _ _
  · obtain ⟨-, hsize, haddr⟩ := hwindow rfl (fun h0 => hne (by rw [h0, Nat.zero_mod]))
    have hmod := Nat.mod_le (frontT2h io s.dev).howLong (2 ^ 16)
    obtain ⟨header, sop, hdata, hlen⟩ :=
      getT2hData_data cfg.info (headerOf s.conn.t2hHeaderBuff) s.drv hne
    dsimp only at hsize haddr
    rw [hfit.t2h_sz] at hsize haddr
    rw [hdata]
    dsimp only
    have h1 := hget (putHeader s.conn.t2hHeaderBuff header) { s.drv with t2hSop := sop }
      (io.read64 stDbgIpT2hConnectionId (io.read64 stDbgIpT2hHowLong s.dev).2).2
    obtain ⟨buff, hbuff⟩ : ∃ buff,
      ((frontT2h io s.dev).addr % 2 ^ 32 + cfg.info.t2hMemBaseAddr) % 2 ^ 32 = buff := ⟨_, rfl⟩
    have hlt : buff < cfg.info.t2hMemBaseAddr + memSize := by omega
    have hwords : wordBytes header.dataLenBytes.toNat ≤ memSize + 64 := by
      rw [hlen, wordBytes]
      omega
    rw [hbuff]
    generalize ({ s with
      conn := { s.conn with t2hHeaderBuff := putHeader s.conn.t2hHeaderBuff header }
      drv := { s.drv with t2hSop := sop }
      dev := (io.read64 stDbgIpT2hConnectionId (io.read64 stDbgIpT2hHowLong s.dev).2).2 } : Srv D)
      = s1 at h1 ⊢
    have h2 : Bounded (memSize + 64)
        (s1.sendAll .t2hData (putHeader s.conn.t2hHeaderBuff header).bytes).2 := ⟨h1.recv, h1.send⟩
    generalize s1.sendAll .t2hData (putHeader s.conn.t2hHeaderBuff header).bytes = y at h2 ⊢
    split
    · have hbound := bounded_sendT2hPayload hfit io h2 header.dataLenBytes.toNat_lt hlt hwords
      generalize sendT2hPayload io cfg buff header.dataLenBytes.toNat y.2 = z at hbound ⊢
      split
      · exact ⟨hbound.recv, hbound.send⟩
      · exact hbound
    · exact h2

/-! ## Runs -/

include hfit in
theorem StagingInv.step {s s' : ServerState D} {a : ServerAction} (h : StagingInv ip memSize s)
    (ht2h : T2hInWindow io cfg.info s a) (hecho : EchoFits (memSize + 64) s a)
    (hstep : ServerStep cfg ip s a s') : StagingInv ip memSize s' := by
  refine ⟨?_, fun hwin => ?_⟩
  · have hb := h.bounded
    cases hstep with
    | connect s => exact bounded_connect ip hb
    | select s selects => exact ⟨hb.recv, hb.send⟩
    | reject s => exact hb.aside (aside_rejectClient ip s)
    | control hcall => exact hb.aside (aside_control ip hcall)
    | mgmt hcall => exact hb.aside (aside_mgmt ip hcall)
    | h2t hcall => exact h.h2t hfit hecho hcall
    | mgmtRsp hmode => exact hb.aside (aside_mgmtRsp ip _)
    | t2h hmode => exact hb.t2h hfit ht2h
    | close s => exact hb.aside (aside_closeClientConn ip _)
    | hardware hproc => exact ⟨hb.recv, hb.send⟩
  · rw [← hfit.h2t_sz] at hecho
    exact ringHolds_step hwin (hfit.low hwin) ip.quiet (h.ring hwin) hecho hstep

/-- **Staging buffers**: neither buffer is written behind its end as long as every packet that is
echoed fits, in whole words, and every T2H descriptor lies in its window. -/
theorem staging_bounded (h0 : 0 < memSize) (h63 : memSize < 2 ^ 63)
    (hinfo : cfg.info = getDesignInfo memSize) (ip : ChannelIp io cfg.info .h2t) {s0 : Srv D}
    (hrecv : s0.recvBuff.top = 0) (hsend : s0.sendBuff.top = 0) {s : ServerState D}
    (hrun : Reach (ServerStep cfg ip)
      (fun s a => T2hInWindow io cfg.info s a ∧ EchoFits (stagingSize memSize) s a) ⟨s0, false⟩ s) :
    s.srv.recvBuff.top ≤ stagingSize memSize ∧ s.srv.sendBuff.top ≤ stagingSize memSize := by
  have hfit : WindowsFit cfg.info memSize := hinfo ▸ windowsFit_getDesignInfo h0 h63
  have hsize : stagingSize memSize = memSize + 64 := Nat.mod_eq_of_lt (by omega)
  rw [hsize] at hrun ⊢
  have hstart : StagingInv ip memSize ⟨s0, false⟩ :=
    ⟨⟨hrecv ▸ Nat.zero_le _, hsend ▸ Nat.zero_le _⟩, fun _ hc => by cases hc⟩
  have hinv := hrun.invariant (StagingInv ip memSize)
    (fun s a s' hs hg hstep => hs.step hfit hg.1 hg.2 hstep) hstart
  exact ⟨hinv.bounded.recv, hinv.bounded.send⟩

/-- An echo whose header is sent writes all words of the packet. -/
theorem echo_top {s1 : Srv D} (hmode : s.conn.loopbackMode = true)
    (hhead : updateCurrH2tHeader s = (.ok, s1)) (hbase : cfg.info.h2tMemBaseAddr ≠ 0)
    (htx : AllAccept (s.client .t2hData).tx) :
    ∃ x, processH2tData io cfg s = some x ∧
      wordBytes (headerOf s1.conn.h2tHeaderBuff).dataLenBytes.toNat ≤ x.2.sendBuff.top := by
  obtain ⟨hconn1, -, hclient1⟩ := updateCurrH2tHeader_frame hhead
  have hmode1 : s1.conn.loopbackMode = true := by rw [hconn1]; exact hmode
  have hpoll (len : Nat) : pollH2tBuffer io cfg len s1 = some (cfg.info.h2tMemBaseAddr, s1) := by
    rw [pollH2tBuffer, if_neg (by rw [hmode1]; decide)]
  generalize hlen : (headerOf s1.conn.h2tHeaderBuff).dataLenBytes.toNat = len
  have hframe := recvH2tPayload_frame io cfg cfg.info.h2tMemBaseAddr len (s1.setH2tWaiting false)
  refine ⟨_, by
    simp only [processH2tData, hhead, hpoll, if_true, Option.map_some, hbase, ne_eq,
      not_false_eq_true, recvH2tPayload_ok, hlen]; rfl, ?_⟩
  generalize (recvH2tPayload io cfg cfg.info.h2tMemBaseAddr len (s1.setH2tWaiting false)).2 = s2
    at hframe ⊢
  have hmode2 : s2.conn.loopbackMode = true := by rw [hframe.conn]; exact hmode1
  have htx2 : AllAccept (s2.client .t2hData).tx := by
    rw [hframe.client .t2hData (by decide), Srv.setH2tWaiting_client, hclient1 .t2hData (by decide)]
    exact htx
  have hsent : (s2.sendAll .t2hData s2.conn.h2tHeaderBuff.bytes).1 = .ok :=
    (socketSendAll_accept _ htx2).1
  unfold pushOrLoopbackH2t
  rw [if_neg (by rw [hmode2]; decide)]
  dsimp only
  rw [if_pos hsent, hlen, socketSendAllT2hData_top]
  split
  · next h0 => simp [h0, wordBytes]
  · exact le_max_right _ _

namespace DebugIp

/-- A design with windows of 8 KiB behind the registers. -/
def echoDesign : Config := ⟨getDesignInfo 0x2000, true⟩

/-- The contract for this design. -/
def echoIp : ChannelIp debugIp echoDesign.info .h2t := channelIp echoDesign.info (by decide) .h2t

/-- The registers lie below the window, so no store behind it reaches them. -/
theorem echoIp_quiet (room : Nat) : echoIp.Quiet room := by
  intro o v d h1 _
  have hbase : 0x2000 ≤ echoDesign.info.h2tMemBaseAddr := by decide
  rw [write64_mem (hbase.trans h1)]
  exact ⟨List.suffix_refl _, rfl⟩

/-- A client switches to loopback mode and sends a packet of `len` bytes. -/
def echoClient (len : Nat) : Sock → List RecvEvent
  | .ctrl => [.data (ascii "SET_PARAM SERVER_LOOPBACK 1" ++ [0])]
  | .h2tData => [.data (packetGuardband ++ [3, 0, 0, 0, byteAt len 0, byteAt len 1]),
      .data (List.replicate len 0)]
  | _ => []

/-- The server behind `connect_client` for this client. -/
def echoConnected (len : Nat) : ServerState DebugIp :=
  .connect debugIp echoDesign (listening (clientSockets 1 (echoClient len)) [])

/-- The server behind its control message. -/
def echoing (len : Nat) : Srv DebugIp :=
  ((processControlMessage debugIp echoDesign (echoConnected len).srv).getD
    (.failure, false, (echoConnected len).srv)).2.2

/-- The server behind its packet. -/
def echoed (len : Nat) : Srv DebugIp :=
  ((processH2tData debugIp echoDesign (echoing len)).getD (.failure, echoing len)).2

/-- The three steps to this state. -/
theorem echo_run {len : Nat} {guard : ServerState DebugIp → ServerAction → Prop}
    (hconn : (echoConnected len).connected = true)
    (hctrl : (processControlMessage debugIp echoDesign (echoConnected len).srv).isSome)
    (hproc : (processH2tData debugIp echoDesign (echoing len)).isSome)
    (hguard : ∀ s a, a ≠ .h2t → a ≠ .t2h → guard s a) (hlast : guard ⟨echoing len, true⟩ .h2t) :
    Reach (ServerStep echoDesign echoIp) guard
      ⟨listening (clientSockets 1 (echoClient len)) [], false⟩ ⟨echoed len, true⟩ := by
  obtain ⟨x, hx⟩ := Option.isSome_iff_exists.mp hctrl
  obtain ⟨y, hy⟩ := Option.isSome_iff_exists.mp hproc
  have h1 : echoConnected len = ⟨(echoConnected len).srv, true⟩ := by
    cases h : echoConnected len with
    | mk srv connected => rw [h] at hconn; rw [show connected = true from hconn]
  have hrun : Reach (ServerStep echoDesign echoIp) guard
      ⟨listening (clientSockets 1 (echoClient len)) [], false⟩ ⟨(echoConnected len).srv, true⟩ :=
    h1 ▸ Reach.refl.tail (hguard _ _ (by decide) (by decide)) (.connect _)
  have hctl : ServerStep echoDesign echoIp ⟨(echoConnected len).srv, true⟩ .control
      ⟨echoing len, true⟩ := by
    rw [echoing, hx]
    exact .control hx
  have hlaststep : ServerStep echoDesign echoIp ⟨echoing len, true⟩ .h2t ⟨echoed len, true⟩ := by
    rw [echoed, hy]
    exact .h2t hy
  exact (hrun.tail (hguard _ _ (by decide) (by decide)) hctl).tail hlast hlaststep

end DebugIp

theorem staging_bounded_echo : (DebugIp.echoed 3).recvBuff.top ≤ stagingSize 0x2000 ∧
    (DebugIp.echoed 3).sendBuff.top ≤ stagingSize 0x2000 := by
  have hfits : EchoFits (stagingSize 0x2000) ⟨DebugIp.echoing 3, true⟩ .h2t :=
    fun _ _ _ => by decide +kernel
  have hrun : Reach (ServerStep DebugIp.echoDesign DebugIp.echoIp)
      (fun s a => T2hInWindow debugIp DebugIp.echoDesign.info s a ∧
        EchoFits (stagingSize 0x2000) s a)
      ⟨DebugIp.listening (DebugIp.clientSockets 1 (DebugIp.echoClient 3)) [], false⟩
      ⟨DebugIp.echoed 3, true⟩ :=
    DebugIp.echo_run (by decide +kernel) (by decide +kernel) (by decide +kernel)
      (fun _ _ h h' => ⟨fun hf => absurd hf h', fun hf => absurd hf h⟩)
      ⟨fun hf => (by cases hf), hfits⟩
  have htop : (DebugIp.listening (DebugIp.clientSockets 1 (DebugIp.echoClient 3)) []).recvBuff.top
      = 0 := rfl
  have hinfo : DebugIp.echoDesign.info = getDesignInfo 0x2000 := rfl
  generalize DebugIp.echoed 3 = s at hrun ⊢
  exact staging_bounded (by omega) (by omega) hinfo DebugIp.echoIp htop htop hrun

/-- A packet of 8257 bytes is echoed through a buffer of 8256. -/
theorem staging_overrun : ∃ s, Reach (ServerStep DebugIp.echoDesign DebugIp.echoIp)
      (T2hInWindow debugIp DebugIp.echoDesign.info)
      ⟨DebugIp.listening (DebugIp.clientSockets 1 (DebugIp.echoClient 8257)) [], false⟩ s ∧
    stagingSize 0x2000 < s.srv.sendBuff.top := by
  have hhead : (updateCurrH2tHeader (DebugIp.echoing 8257)).1 = .ok ∧
      (headerOf (updateCurrH2tHeader (DebugIp.echoing 8257)).2.conn.h2tHeaderBuff).dataLenBytes
        = 8257 := by decide +kernel
  have htx : ((DebugIp.echoing 8257).client .t2hData).tx = [] := by decide +kernel
  have hmode : (DebugIp.echoing 8257).conn.loopbackMode = true := by decide +kernel
  have hbase : DebugIp.echoDesign.info.h2tMemBaseAddr ≠ 0 := by decide
  have hacc : AllAccept ((DebugIp.echoing 8257).client .t2hData).tx := by
    rw [htx]
    exact fun _ h => by cases h
  obtain ⟨s1, hs1⟩ : ∃ s1, (updateCurrH2tHeader (DebugIp.echoing 8257)).2 = s1 := ⟨_, rfl⟩
  rw [hs1] at hhead
  obtain ⟨x, hx, htop⟩ := echo_top (D := DebugIp) hmode (Prod.ext hhead.1 hs1) hbase hacc
  refine ⟨_, DebugIp.echo_run (by decide +kernel) (by decide +kernel) (Option.isSome_of_eq_some hx)
    (fun _ _ _ h => fun hf => absurd hf h) (fun hf => by cases hf), ?_⟩
  rw [hhead.2] at htop
  have hy : DebugIp.echoed 8257 = x.2 := by rw [DebugIp.echoed, hx]; rfl
  rw [hy]
  exact lt_of_lt_of_le (by decide) htop

end RemoteDebug
