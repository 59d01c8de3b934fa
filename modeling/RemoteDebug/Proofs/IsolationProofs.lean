import RemoteDebug.Proofs.AlikeProofs
import RemoteDebug.Proofs.RingRunProofs
import RemoteDebug.Proofs.WaitProofs

/-!
# Isolation of the sessions

Two servers that are alike and whose rings hold the same descriptors grant the same buffers, so that a
whole session goes the same way. Whatever an earlier client sent makes no difference, unless it left a
packet waiting.
-/

namespace RemoteDebug

open Bytes CString Script TwoRuns Runs

variable {D : Type} {io : Mmio D} {cfg : Config} {R : D → D → Prop} {b b' : List Event}
  {s s' : Srv D}

/-! ## The ring -/

/-- The rings only differ in the entries of the chain. -/
structure SameRing (r r' : DescriptorRing) : Prop where
  readIdx : r'.readIdx = r.readIdx
  writeIdx : r'.writeIdx = r.writeIdx
  cbuff : r'.cbuff = r.cbuff

section Ring

variable {info : DesignInfo} {ch : Channel} {ip : QueueIp io ch} {r r' : DescriptorRing}
  {d d' : D} {live : List Descriptor} {lost lost' : Nat}

theorem SameRing.giveBack (h : SameRing r r') (k n : Nat) :
    SameRing (r.giveBack k n) (r'.giveBack k n) := by
  unfold DescriptorRing.giveBack
  rw [h.readIdx, h.cbuff]
  split
  · exact h
  · exact ⟨rfl, h.writeIdx, rfl⟩

theorem SameRing.takeBuffer (h : SameRing r r') (hslots : r'.slotsAvailable = r.slotsAvailable)
    (sz : Nat) : (takeBuffer sz r').1 = (takeBuffer sz r).1 ∧
      SameRing (takeBuffer sz r).2 (takeBuffer sz r').2 := by
  unfold RemoteDebug.takeBuffer
  dsimp only
  rw [hslots, h.writeIdx, h.cbuff]
  split
  · exact ⟨rfl, h.readIdx, rfl, rfl⟩
  · exact ⟨rfl, h⟩

theorem SameRing.takeSlot (h : SameRing r r') : SameRing r.takeSlot r'.takeSlot := by
  unfold DescriptorRing.takeSlot
  constructor
  · dsimp only
    exact h.readIdx
  · dsimp only
    exact h.writeIdx
  · dsimp only
    exact h.cbuff

/-- What the slots register shows tells which descriptors are uncompleted. -/
theorem uncompleted_eq (hd : ip.uncompleted d <:+ live) (hd' : ip.uncompleted d' <:+ live)
    (hslots : (io.read32 ch.slotsReg d').1 = (io.read32 ch.slotsReg d).1) :
    ip.uncompleted d' = ip.uncompleted d := by
  have hroom := ip.room d
  have hroom' := ip.room d'
  rw [ip.slots, ip.slots] at hslots
  have hlen : (ip.uncompleted d').length = (ip.uncompleted d).length := by omega
  rw [List.suffix_iff_eq_drop.mp hd, List.suffix_iff_eq_drop.mp hd', hlen]

/-- Rings with the same live descriptors grant the same buffer, or none. -/
theorem alike_getBuffer (h : RingInv info ip r d live lost) (h' : RingInv info ip r' d' live lost')
    (hsame : SameRing r r')
    (hslots : (io.read32 ch.slotsReg d').1 = (io.read32 ch.slotsReg d).1) (charSigned : Bool)
    (sz : Nat) :
    ∃ addr t t', getBuffer io charSigned ch.slotsReg sz r d
        = some (addr, t, (io.read32 ch.slotsReg d).2) ∧
      getBuffer io charSigned ch.slotsReg sz r' d' = some (addr, t', (io.read32 ch.slotsReg d').2) ∧
      SameRing t t' ∧ ∃ live lost lost',
        (addr = 0 ∧ RingInv info ip t (io.read32 ch.slotsReg d).2 live lost ∧
          RingInv info ip t' (io.read32 ch.slotsReg d').2 live lost') ∨
        (addr ≠ 0 ∧ Granted info ip t (io.read32 ch.slotsReg d).2 live lost sz addr ∧
          Granted info ip t' (io.read32 ch.slotsReg d').2 live lost' sz addr) := by
  have heq := uncompleted_eq h.uncompleted h'.uncompleted hslots
  have hle : (ip.uncompleted d).length ≤ (live.map Descriptor.alignedLen).length := by
    rw [List.length_map]
    exact h.uncompleted.length_le
  have hrec := h.chain.reclaim_eq ip.depth_le charSigned hle
  have hrec' := h'.chain.reclaim_eq ip.depth_le charSigned hle
  obtain ⟨r1, h1, hinv⟩ := h.reclaim charSigned
  obtain ⟨r1', h1', hinv'⟩ := h'.reclaim charSigned
  rw [heq] at hinv'
  have hsame1 : SameRing r1 r1' := by
    rw [← ip.slots] at hrec hrec'
    rw [← hslots] at hrec'
    rw [Option.some.inj (h1.symm.trans hrec), Option.some.inj (h1'.symm.trans hrec')]
    exact hsame.giveBack _ _
  have hfree : r1'.slotsAvailable = r1.slotsAvailable := by
    have hs := hinv.chain.slots
    have hs' := hinv'.chain.slots
    omega
  obtain ⟨haddr, hsame2⟩ := hsame1.takeBuffer hfree sz
  refine ⟨(takeBuffer sz r1).1, (takeBuffer sz r1).2, (takeBuffer sz r1').2, ?_, ?_, hsame2, ?_⟩
  · simp only [getBuffer, h1, Option.map_some]
  · simp only [getBuffer, h1', Option.map_some, haddr]
  · rcases hinv.takeBuffer sz with ⟨h0, hr, -⟩ | ⟨hne, hg⟩
    · rcases hinv'.takeBuffer sz with ⟨-, hr', -⟩ | ⟨hne', -⟩
      · rw [hr, hr']
        exact ⟨_, _, _, Or.inl ⟨h0, hinv, hinv'⟩⟩
      · exact absurd (haddr.trans h0) hne'
    · rcases hinv'.takeBuffer sz with ⟨h0', -, -⟩ | ⟨-, hg'⟩
      · exact absurd (haddr.symm.trans h0') hne
      · rw [haddr] at hg'
        exact ⟨_, _, _, Or.inr ⟨hne, hg, hg'⟩⟩

end Ring

/-! ## Headers -/

/-- A complete header does not depend on the old contents of its buffer. -/
theorem alike_header (sock : Sock) (h : Alike R b b' s s') (buff buff' : HeaderBuff) :
    (s'.recvAccumulate sock 10).1 = (s.recvAccumulate sock 10).1 ∧
      Alike R b b' (s.recvAccumulate sock 10).2.2 (s'.recvAccumulate sock 10).2.2 ∧
      ((s.recvAccumulate sock 10).1 = .ok → buff'.store (s'.recvAccumulate sock 10).2.1
        = buff.store (s.recvAccumulate sock 10).2.1) := by
  obtain ⟨hrc, hbytes, hnext⟩ := alike_recvAccumulate h sock 10
  refine ⟨hrc, hnext, fun hok => ?_⟩
  have hlen : (s.recvAccumulate sock 10).2.1.length = 10 := by
    by_cases hpend : 10 ≤ (pending (s.client sock).rx).length
    · obtain ⟨rx', hrec, -⟩ := socketRecvAccumulate_ok hpend
      simp only [Srv.recvAccumulate, hrec]
      exact List.length_take_of_le hpend
    · obtain ⟨rx', hrec, -⟩ := socketRecvAccumulate_failure (not_le.mp hpend)
      simp only [Srv.recvAccumulate, hrec] at hok
      cases hok
  rw [hbytes]
  ext1
  rw [Buff.store_full buff' hlen, Buff.store_full buff hlen]

theorem alike_updateCurrH2tHeader (h : Alike R b b' s s') :
    BothAlike R b b' (updateCurrH2tHeader s) (updateCurrH2tHeader s') ∧
      ((updateCurrH2tHeader s).1 = .ok → (updateCurrH2tHeader s').2.conn.h2tHeaderBuff
        = (updateCurrH2tHeader s).2.conn.h2tHeaderBuff) := by
  unfold updateCurrH2tHeader
  rw [h.h2tWaiting]
  split
  · next hwait =>
    obtain ⟨hrc, hnext, hbuff⟩ :=
      alike_header .h2tData h s.conn.h2tHeaderBuff s'.conn.h2tHeaderBuff
    have hnot (hw : s.conn.h2tWaiting = true) : s'.conn.h2tHeaderBuff.store
        (s'.recvAccumulate .h2tData 10).2.1 = s.conn.h2tHeaderBuff.store
          (s.recvAccumulate .h2tData 10).2.1 :=
      absurd (hwait.symm.trans hw) (by simp)
    exact ⟨⟨hrc, hnext.env, hnext.client, h.ctrlRxBuff, h.loopbackMode, h.t2hNagle, h.mgmtRspNagle,
      h.h2tWaiting, h.mgmtWaiting, hnot, h.mgmtHeader, hnext.dev, hnext.deeds⟩, hbuff⟩
  · next hwait =>
    have hwait' : s.conn.h2tWaiting = true := by simpa using hwait
    exact ⟨⟨rfl, h⟩, fun _ => h.h2tHeader hwait'⟩

theorem alike_updateCurrMgmtHeader (h : Alike R b b' s s') :
    BothAlike R b b' (updateCurrMgmtHeader s) (updateCurrMgmtHeader s') ∧
      ((updateCurrMgmtHeader s).1 = .ok → (updateCurrMgmtHeader s').2.conn.mgmtHeaderBuff
        = (updateCurrMgmtHeader s).2.conn.mgmtHeaderBuff) := by
  unfold updateCurrMgmtHeader
  rw [h.mgmtWaiting]
  split
  · next hwait =>
    obtain ⟨hrc, hnext, hbuff⟩ :=
      alike_header .mgmt h s.conn.mgmtHeaderBuff s'.conn.mgmtHeaderBuff
    have hnot (hw : s.conn.mgmtWaiting = true) : s'.conn.mgmtHeaderBuff.store
        (s'.recvAccumulate .mgmt 10).2.1 = s.conn.mgmtHeaderBuff.store
          (s.recvAccumulate .mgmt 10).2.1 :=
      absurd (hwait.symm.trans hw) (by simp)
    exact ⟨⟨hrc, hnext.env, hnext.client, h.ctrlRxBuff, h.loopbackMode, h.t2hNagle, h.mgmtRspNagle,
      h.h2tWaiting, h.mgmtWaiting, h.h2tHeader, hnot, hnext.dev, hnext.deeds⟩, hbuff⟩
  · next hwait =>
    have hwait' : s.conn.mgmtWaiting = true := by simpa using hwait
    exact ⟨⟨rfl, h⟩, fun _ => h.mgmtHeader hwait'⟩

theorem Alike.setH2tWaiting (h : Alike R b b' s s')
    (hbuff : s'.conn.h2tHeaderBuff = s.conn.h2tHeaderBuff) (v : Bool) :
    Alike R b b' (s.setH2tWaiting v) (s'.setH2tWaiting v) :=
  ⟨h.env, h.client, h.ctrlRxBuff, h.loopbackMode, h.t2hNagle, h.mgmtRspNagle, rfl, h.mgmtWaiting,
    fun _ => hbuff, h.mgmtHeader, h.dev, h.deeds⟩

theorem Alike.setMgmtWaiting (h : Alike R b b' s s')
    (hbuff : s'.conn.mgmtHeaderBuff = s.conn.mgmtHeaderBuff) (v : Bool) :
    Alike R b b' (s.setMgmtWaiting v) (s'.setMgmtWaiting v) :=
  ⟨h.env, h.client, h.ctrlRxBuff, h.loopbackMode, h.t2hNagle, h.mgmtRspNagle, h.h2tWaiting, rfl,
    h.h2tHeader, fun _ => hbuff, h.dev, h.deeds⟩

/-! ## MGMT -/

theorem alike_recvMgmtPart (buff len : Nat) (h : Alike R b b' s s') :
    BothAlike R b b' (recvMgmtPart buff len s) (recvMgmtPart buff len s') := by
  obtain ⟨hrc, hbytes, hnext⟩ := alike_recvAccumulate h .mgmt len
  unfold recvMgmtPart
  dsimp only
  rw [hrc, hbytes]
  refine ⟨rfl, Alike.record ?_ rfl⟩
  exact ⟨hnext.env, hnext.client, hnext.ctrlRxBuff, hnext.loopbackMode, hnext.t2hNagle,
    hnext.mgmtRspNagle, hnext.h2tWaiting, hnext.mgmtWaiting, hnext.h2tHeader, hnext.mgmtHeader,
    hnext.dev, hnext.deeds⟩

theorem alike_recvMgmtPayload (cfg : Config) (buff len : Nat) (h : Alike R b b' s s') :
    BothAlike R b b' (recvMgmtPayload cfg buff len s) (recvMgmtPayload cfg buff len s') := by
  unfold recvMgmtPayload
  dsimp only
  split
  · obtain ⟨hrc, hfirst⟩ := alike_recvMgmtPart buff
      (buffLenToWrapBoundary cfg.info.mgmtMemBaseAddr cfg.info.mgmtMemSz buff len) h
    rw [hrc]
    split
    · exact alike_recvMgmtPart _ _ hfirst
    · exact ⟨hrc, hfirst⟩
  · exact alike_recvMgmtPart _ _ h

theorem recvMgmtPayload_conn (cfg : Config) (buff len : Nat) (s : Srv D) :
    (recvMgmtPayload cfg buff len s).2.conn = s.conn := by
  unfold recvMgmtPayload
  dsimp only
  split
  · split <;> rfl
  · rfl

theorem alike_pushOrLoopbackMgmt (header : MgmtPacketHeader) (buff : Nat) (h : Alike R b b' s s')
    (hbuff : s'.conn.mgmtHeaderBuff = s.conn.mgmtHeaderBuff) :
    BothAlike R b b' (pushOrLoopbackMgmt io header buff s)
      (pushOrLoopbackMgmt io header buff s') := by
  unfold pushOrLoopbackMgmt
  rw [h.loopbackMode, hbuff]
  obtain ⟨hrc, hsent⟩ := alike_sendAll h .mgmtRsp s.conn.mgmtHeaderBuff.bytes
  split
  · rw [if_neg (by decide), if_neg (by decide)]
    exact ⟨rfl, h⟩
  · dsimp only
    rw [hrc]
    split
    · exact alike_sendData hsent (Or.inr rfl) (by rw [readBytes_length, readBytes_length])
    · exact ⟨hrc, hsent⟩

theorem alike_mgmt (h : Alike R b b' s s') :
    Option.Rel (BothAlike R b b') (processMgmtData io cfg s) (processMgmtData io cfg s') := by
  obtain ⟨⟨hrc, hnext⟩, hhead⟩ := alike_updateCurrMgmtHeader h
  unfold processMgmtData
  dsimp only
  rw [hrc]
  split
  · next hok =>
    have hbuff := hhead hok
    rw [pollMgmtBuffer_eq, pollMgmtBuffer_eq, hbuff, Option.map_some, Option.map_some]
    refine .some ?_
    generalize (updateCurrMgmtHeader s).2 = t at hnext hbuff ⊢
    generalize (updateCurrMgmtHeader s').2 = t' at hnext hbuff ⊢
    dsimp only
    split
    · have hpay := alike_recvMgmtPayload cfg cfg.info.mgmtMemBaseAddr
        (headerOf t.conn.mgmtHeaderBuff).dataLenBytes.toNat (hnext.setMgmtWaiting hbuff false)
      rw [hpay.1]
      split
      · refine alike_pushOrLoopbackMgmt _ _ hpay.2 ?_
        rw [recvMgmtPayload_conn, recvMgmtPayload_conn]
        exact hbuff
      · exact hpay
    · exact ⟨rfl, hnext.setMgmtWaiting hbuff true⟩
  · exact .some ⟨hrc, hnext⟩

/-! ## Payloads -/

/-- What the staging buffer holds behind the payload makes no difference. -/
theorem alike_host2fpgaLoop (hR : AnswersAlike io cfg.info R) {buff n i : Nat}
    (haddr : ∀ j, i ≤ j → j < i + n → cfg.info.h2tMemBaseAddr ≤ (buff + 8 * j) % 2 ^ 32)
    (host host' : Nat → UInt8) {d d' : D} (hd : R d d') :
    R (host2fpgaLoop io host buff n i d) (host2fpgaLoop io host' buff n i d') := by
  induction n generalizing i d d' with
  | zero => exact hd
  | succ n ih =>
    have hword := hR.store _ (word64 host (8 * i)) (word64 host' (8 * i))
      (haddr i le_rfl (by omega)) hd
    exact ih (fun j h1 h2 => haddr j (by omega) (by omega)) hword

theorem alike_fpga2hostLoop (hR : AnswersAlike io cfg.info R) (buff n i : Nat) (st st' : Staging)
    {d d' : D} (hd : R d d') :
    R (fpga2hostLoop io buff n i st d).2 (fpga2hostLoop io buff n i st' d').2 := by
  induction n generalizing i st st' d d' with
  | zero => exact hd
  | succ n ih => exact ih _ _ _ (hR.read64 _ hd)

theorem alike_socketRecvAccumulateH2tData (hR : AnswersAlike io cfg.info R) {buff len : Nat}
    (hlo : cfg.info.h2tMemBaseAddr ≤ buff) (hhi : buff + len ≤ 2 ^ 32) (h : Alike R b b' s s') :
    BothAlike R b b' (socketRecvAccumulateH2tData io .h2tData buff len s)
      (socketRecvAccumulateH2tData io .h2tData buff len s') := by
  obtain ⟨hrc, hbytes, hnext⟩ := alike_recvAccumulate h .h2tData len
  unfold socketRecvAccumulateH2tData
  dsimp only
  rw [hrc, hbytes]
  have hstaged (st st' : Staging) {d d' : D} (hd : R d d') : Alike R b b'
      { (s.recvAccumulate .h2tData len).2.2 with recvBuff := st, dev := d }
      { (s'.recvAccumulate .h2tData len).2.2 with recvBuff := st', dev := d' } :=
    ⟨hnext.env, hnext.client, hnext.ctrlRxBuff, hnext.loopbackMode, hnext.t2hNagle,
      hnext.mgmtRspNagle, hnext.h2tWaiting, hnext.mgmtWaiting, hnext.h2tHeader, hnext.mgmtHeader, hd,
      hnext.deeds⟩
  split
  · refine ⟨rfl, Alike.record (hstaged _ _ ?_) rfl⟩
    refine alike_host2fpgaLoop hR (fun j _ hj => ?_) _ _ hnext.dev
    rw [Nat.mod_eq_of_lt (by omega)]
    omega
  · exact ⟨rfl, hstaged _ _ hnext.dev⟩

theorem alike_recvH2tPayload (hR : AnswersAlike io cfg.info R) (hok : WindowOk cfg.info .h2t)
    (hlow : cfg.info.h2tMemBaseAddr + 2 ^ 16 ≤ 2 ^ 32) {buff len : Nat} (h16 : len < 2 ^ 16)
    (hlo : cfg.info.h2tMemBaseAddr ≤ buff)
    (hhi : buff < cfg.info.h2tMemBaseAddr + cfg.info.h2tMemSz) (h : Alike R b b' s s') :
    BothAlike R b b' (recvH2tPayload io cfg buff len s) (recvH2tPayload io cfg buff len s') := by
  have hfits : cfg.info.h2tMemBaseAddr + cfg.info.h2tMemSz ≤ 2 ^ 32 := hok.fits
  by_cases hb : buff + len ≤ cfg.info.h2tMemBaseAddr + cfg.info.h2tMemSz
  · rw [recvH2tPayload_unsplit io (by omega) h16 hb, recvH2tPayload_unsplit io (by omega) h16 hb]
    exact alike_socketRecvAccumulateH2tData hR hlo (by omega) h
  · rw [recvH2tPayload_split io (by omega) h16 hhi (by omega),
      recvH2tPayload_split io (by omega) h16 hhi (by omega)]
    exact alike_socketRecvAccumulateH2tData hR le_rfl (by omega)
      (alike_socketRecvAccumulateH2tData hR hlo (by omega) h).2

theorem alike_socketSendAllT2hData (hR : AnswersAlike io cfg.info R) (buff len : Nat)
    (h : Alike R b b' s s') : BothAlike R b b' (socketSendAllT2hData io .t2hData buff len s)
      (socketSendAllT2hData io .t2hData buff len s') := by
  have hread := alike_fpga2hostLoop hR buff ((len + 7) / 8) 0 s.sendBuff s'.sendBuff h.dev
  unfold socketSendAllT2hData memcpy64Fpga2host
  refine alike_sendData ?_ (Or.inl rfl) (by rw [readBytes_length, readBytes_length])
  exact ⟨h.env, h.client, h.ctrlRxBuff, h.loopbackMode, h.t2hNagle, h.mgmtRspNagle, h.h2tWaiting,
    h.mgmtWaiting, h.h2tHeader, h.mgmtHeader, hread, h.deeds⟩

/-! ## T2H -/

/-- Which packet is there does not depend on the header buffer. -/
theorem alike_getT2hData (hR : AnswersAlike io cfg.info R) (header header' : H2tPacketHeader)
    (drv drv' : Driver) {d d' : D} (hd : R d d') :
    (getT2hData io cfg.info header' drv' d').1.dataLenBytes
        = (getT2hData io cfg.info header drv d).1.dataLenBytes ∧
      (getT2hData io cfg.info header' drv' d').2.1 = (getT2hData io cfg.info header drv d).2.1 ∧
      R (getT2hData io cfg.info header drv d).2.2.2
        (getT2hData io cfg.info header' drv' d').2.2.2 := by
  have hword := hR.register64 stDbgIpT2hHowLong (by simp) hd
  have h1 := hR.read64 stDbgIpT2hHowLong hd
  have h2 := hR.read64 stDbgIpT2hConnectionId h1
  unfold getT2hData acquire
  dsimp only
  rw [hword]
  split_ifs
  · exact ⟨rfl, rfl, h1⟩
  · exact ⟨rfl, rfl, h2⟩

theorem alike_sendT2hPayload {cfg : Config} (hR : AnswersAlike io cfg.info R) (buff len : Nat)
    (h : Alike R b b' s s') :
    BothAlike R b b' (sendT2hPayload io cfg buff len s) (sendT2hPayload io cfg buff len s') := by
  unfold sendT2hPayload
  dsimp only
  split
  · obtain ⟨hrc, hfirst⟩ := alike_socketSendAllT2hData hR buff
      (buffLenToWrapBoundary cfg.info.t2hMemBaseAddr cfg.info.t2hMemSz buff len) h
    rw [hrc]
    split
    · exact alike_socketSendAllT2hData hR _ _ hfirst
    · exact ⟨hrc, hfirst⟩
  · exact alike_socketSendAllT2hData hR _ _ h

theorem alike_t2h (hR : AnswersAlike io cfg.info R) (h : Alike R b b' s s') :
    BothAlike R b b' (processT2hData io cfg s) (processT2hData io cfg s') := by
  obtain ⟨hlen, hfront, hd⟩ := alike_getT2hData hR (headerOf s.conn.t2hHeaderBuff)
    (headerOf s'.conn.t2hHeaderBuff) s.drv s'.drv h.dev
  unfold processT2hData
  dsimp only
  generalize getT2hData io cfg.info (headerOf s.conn.t2hHeaderBuff) s.drv s.dev = x
    at hlen hfront hd ⊢
  generalize getT2hData io cfg.info (headerOf s'.conn.t2hHeaderBuff) s'.drv s'.dev = x'
    at hlen hfront hd ⊢
  have hget (buff buff' : HeaderBuff) : Alike R b b'
      { s with conn := { s.conn with t2hHeaderBuff := buff }, drv := x.2.2.1, dev := x.2.2.2 }
      { s' with conn := { s'.conn with t2hHeaderBuff := buff' }, drv := x'.2.2.1, dev := x'.2.2.2 } :=
    ⟨h.env, h.client, h.ctrlRxBuff, h.loopbackMode, h.t2hNagle, h.mgmtRspNagle, h.h2tWaiting,
      h.mgmtWaiting, h.h2tHeader, h.mgmtHeader, hd, h.deeds⟩
  rw [hfront]
  split
  · exact ⟨rfl, hget _ _⟩
  · next t2hBuff _ =>
    have h1 := hget (putHeader s.conn.t2hHeaderBuff x.1) (putHeader s'.conn.t2hHeaderBuff x'.1)
    have hten : (putHeader s'.conn.t2hHeaderBuff x'.1).bytes.length
        = (putHeader s.conn.t2hHeaderBuff x.1).bytes.length := by rw [Buff.size, Buff.size]
    have hsent := alike_sendData h1 (Or.inl rfl) hten
    rw [hsent.1, hlen]
    split
    · have hpay (t t' : Srv D) (ht : Alike R b b' t t') :=
        alike_sendT2hPayload hR t2hBuff x.1.dataLenBytes.toNat ht
      specialize hpay _ _ hsent.2
      rw [hpay.1]
      split
      · exact ⟨rfl, (hpay.2.withDev (hR.write32 _ _ hpay.2.dev)).record rfl⟩
      · exact hpay
    · exact hsent

/-! ## H2T -/

/-- Alike servers whose rings hold the same descriptors. -/
structure Twins (ip : ChannelIp io cfg.info .h2t) (R : D → D → Prop) (b b' : List Event)
    (s s' : Srv D) : Prop where
  alike : Alike R b b' s s'
  ring : SameRing s.drv.h2t s'.drv.h2t
  live : ∃ live lost lost', RingInv cfg.info ip.toQueueIp s.drv.h2t s.dev live lost ∧
    RingInv cfg.info ip.toQueueIp s'.drv.h2t s'.dev live lost'

variable {ip : ChannelIp io cfg.info .h2t} {t t' : Srv D}

/-- Whatever leaves the rings alone. -/
theorem Twins.same (h : Twins ip R b b' s s') (ha : Alike R b b' t t')
    (hring : t.drv.h2t = s.drv.h2t) (hproc : ip.Proceeds s.dev t.dev)
    (hring' : t'.drv.h2t = s'.drv.h2t) (hproc' : ip.Proceeds s'.dev t'.dev) :
    Twins ip R b b' t t' := by
  obtain ⟨live, lost, lost', hinv, hinv'⟩ := h.live
  refine ⟨ha, ?_, live, lost, lost', ?_, ?_⟩
  · rw [hring, hring']
    exact h.ring
  · rw [hring]
    exact hinv.proceeds hproc.1
  · rw [hring']
    exact hinv'.proceeds hproc'.1

theorem Twins.aside (h : Twins ip R b b' s s') (ha : Alike R b b' t t') (hs : Aside ip s t)
    (hs' : Aside ip s' t') : Twins ip R b b' t t' :=
  h.same ha hs.ring hs.proceeds hs'.ring hs'.proceeds

/-- Both have been granted the same buffer of `sz` bytes, or the ring is as before. -/
def SamePoll (ip : ChannelIp io cfg.info .h2t) (sz addr : Nat) (s s' : Srv D) : Prop :=
  ∃ live lost lost',
    (addr = 0 ∧ RingInv cfg.info ip.toQueueIp s.drv.h2t s.dev live lost ∧
      RingInv cfg.info ip.toQueueIp s'.drv.h2t s'.dev live lost') ∨
    (addr ≠ 0 ∧ Granted cfg.info ip.toQueueIp s.drv.h2t s.dev live lost sz addr ∧
      Granted cfg.info ip.toQueueIp s'.drv.h2t s'.dev live lost' sz addr)

theorem alike_pollH2tBuffer (hR : AnswersAlike io cfg.info R) (h : Twins ip R b b' s s')
    (hmode : s.conn.loopbackMode = false) (len : Nat) :
    ∃ buff t t', pollH2tBuffer io cfg len s = some (buff, t) ∧
      pollH2tBuffer io cfg len s' = some (buff, t') ∧ Alike R b b' t t' ∧
      SameRing t.drv.h2t t'.drv.h2t ∧ SamePoll ip len buff t t' := by
  obtain ⟨live, lost, lost', hinv, hinv'⟩ := h.live
  have hslots := hR.register32 stDbgIpH2tAvailableSlots (by simp) h.alike.dev
  have hnext := hR.read32 stDbgIpH2tAvailableSlots h.alike.dev
  obtain ⟨buff, r, r', hget, hget', hsame, hpoll⟩ :=
    alike_getBuffer hinv hinv' h.ring hslots cfg.charSigned len
  have hmode' : s'.conn.loopbackMode = false := by
    rw [h.alike.loopbackMode]
    exact hmode
  have hcall {s : Srv D} {r : DescriptorRing} {d : D}
      (hget : getBuffer io cfg.charSigned stDbgIpH2tAvailableSlots len s.drv.h2t s.dev
        = some (buff, r, d)) (hmode : s.conn.loopbackMode = false) :
      pollH2tBuffer io cfg len s
        = some (buff, { s with drv := { s.drv with h2t := r }, dev := d }) := by
    rw [pollH2tBuffer, if_pos hmode, getH2tBuffer, hget]
    rfl
  refine ⟨buff, _, _, hcall hget hmode, hcall hget' hmode', ?_, hsame, hpoll⟩
  have ha := h.alike
  exact ⟨ha.env, ha.client, ha.ctrlRxBuff, ha.loopbackMode, ha.t2hNagle, ha.mgmtRspNagle,
    ha.h2tWaiting, ha.mgmtWaiting, ha.h2tHeader, ha.mgmtHeader, hnext, ha.deeds⟩

/-- A granted packet is pushed in both. -/
theorem alike_push (hR : AnswersAlike io cfg.info R) (hok : WindowOk cfg.info .h2t)
    {header : H2tPacketHeader} {buff : Nat} {live : List Descriptor} {lost lost' : Nat}
    (h : Alike R b b' s s') (hring : SameRing s.drv.h2t s'.drv.h2t)
    (hg : Granted cfg.info ip.toQueueIp s.drv.h2t s.dev live lost header.dataLenBytes.toNat buff)
    (hg' : Granted cfg.info ip.toQueueIp s'.drv.h2t s'.dev live lost' header.dataLenBytes.toNat buff)
    (hmode : s.conn.loopbackMode = false) :
    (pushOrLoopbackH2t io header buff s').1 = (pushOrLoopbackH2t io header buff s).1 ∧
      Twins ip R b b' (pushOrLoopbackH2t io header buff s).2
        (pushOrLoopbackH2t io header buff s').2 := by
  have hbuff : buff % 2 ^ 32 = buff := by
    have hlt : buff < cfg.info.h2tMemBaseAddr + cfg.info.h2tMemSz := hg.bounds.1
    have hle : cfg.info.h2tMemBaseAddr + cfg.info.h2tMemSz ≤ 2 ^ 32 := hok.fits
    omega
  have hwords := hR.write64 stDbgIpH2tConnectionId (connidChannelpush header)
    (hR.write64 stDbgIpH2tHowLong (howlongWhere header buff) h.dev)
  unfold pushOrLoopbackH2t
  rw [h.loopbackMode, if_pos hmode, if_pos hmode, hbuff]
  dsimp only
  rw [pushH2tData_eq, pushH2tData_eq]
  refine ⟨rfl, Alike.record ?_ rfl, hring.takeSlot, ?_⟩
  · exact ⟨h.env, h.client, h.ctrlRxBuff, h.loopbackMode, h.t2hNagle, h.mgmtRspNagle, h.h2tWaiting,
      h.mgmtWaiting, h.h2tHeader, h.mgmtHeader, hwords, h.deeds⟩
  · exact ⟨_, lost, lost', hg.push, hg'.push⟩

theorem alike_loopback (hR : AnswersAlike io cfg.info R) {header : H2tPacketHeader} {buff : Nat}
    (h : Twins ip R b b' s s') (hbuff : s'.conn.h2tHeaderBuff = s.conn.h2tHeaderBuff)
    (hmode : ¬ s.conn.loopbackMode = false) :
    (pushOrLoopbackH2t io header buff s').1 = (pushOrLoopbackH2t io header buff s).1 ∧
      Twins ip R b b' (pushOrLoopbackH2t io header buff s).2
        (pushOrLoopbackH2t io header buff s').2 := by
  unfold pushOrLoopbackH2t
  rw [h.alike.loopbackMode, if_neg hmode, if_neg hmode, hbuff]
  dsimp only
  obtain ⟨hrc, hsent⟩ := alike_sendAll h.alike .t2hData s.conn.h2tHeaderBuff.bytes
  have h1 := h.aside hsent (aside_sendAll ip _ _) (aside_sendAll ip _ _)
  rw [hrc]
  split
  · obtain ⟨hrc2, hecho⟩ := alike_socketSendAllT2hData hR buff header.dataLenBytes.toNat hsent
    exact ⟨hrc2, h1.same hecho rfl (socketSendAllT2hData_proceeds ip _ _ _) rfl
      (socketSendAllT2hData_proceeds ip _ _ _)⟩
  · exact ⟨hrc, h1⟩

/-- **A call of `process_h2t_data`** of twins. -/
theorem alike_h2t (hR : AnswersAlike io cfg.info R) (hok : WindowOk cfg.info .h2t)
    (hlow : cfg.info.h2tMemBaseAddr + 2 ^ 16 ≤ 2 ^ 32) (hquiet : ip.Quiet (2 ^ 16))
    (h : Twins ip R b b' s s') :
    Option.Rel (fun x x' => x'.1 = x.1 ∧ Twins ip R b b' x.2 x'.2) (processH2tData io cfg s)
      (processH2tData io cfg s') := by
  have hbase : 0 < cfg.info.h2tMemBaseAddr := hok.base_pos
  have hspan : 0 < cfg.info.h2tMemSz := hok.span_pos
  obtain ⟨⟨hrc, hnext⟩, hhead⟩ := alike_updateCurrH2tHeader h.alike
  have haside (s : Srv D) : Aside ip s (updateCurrH2tHeader s).2 := by
    unfold updateCurrH2tHeader
    split
    · exact aside_of_eq ip rfl rfl rfl rfl
    · exact Aside.refl ip s
  have h1 := h.aside hnext (haside s) (haside s')
  unfold processH2tData
  dsimp only
  rw [hrc]
  split
  · next hrcok =>
    have hbuff := hhead hrcok
    generalize (updateCurrH2tHeader s).2 = t at h1 hbuff ⊢
    generalize (updateCurrH2tHeader s').2 = t' at h1 hbuff ⊢
    rw [hbuff]
    have h16 := (headerOf t.conn.h2tHeaderBuff).dataLenBytes.toNat_lt
    by_cases hmode : t.conn.loopbackMode = false
    · obtain ⟨buff, u, u', hpoll, hpoll', halike, hring, live, lost, lost', hgrant⟩ :=
        alike_pollH2tBuffer hR h1 hmode (headerOf t.conn.h2tHeaderBuff).dataLenBytes.toNat
      have hconn := (pollH2tBuffer_frame hpoll).1
      have hconn' := (pollH2tBuffer_frame hpoll').1
      have hbuffu : u'.conn.h2tHeaderBuff = u.conn.h2tHeaderBuff := by
        rw [hconn, hconn']
        exact hbuff
      rw [hpoll, hpoll', Option.map_some, Option.map_some]
      refine .some ?_
      dsimp only
      rcases hgrant with ⟨rfl, hinv, hinv'⟩ | ⟨hne, hg, hg'⟩
      · rw [if_neg (by simp), if_neg (by simp)]
        exact ⟨rfl, halike.setH2tWaiting hbuffu true, hring, live, lost, lost', hinv, hinv'⟩
      · rw [if_pos hne, if_pos hne]
        obtain ⟨hlt, hsz⟩ := hg.bounds
        have hlt' : buff < cfg.info.h2tMemBaseAddr + cfg.info.h2tMemSz := hlt
        have hge : cfg.info.h2tMemBaseAddr ≤ buff := hg.base_le
        have hfit := (le_getAlignedSz _).trans hsz
        have hfit' : (headerOf t.conn.h2tHeaderBuff).dataLenBytes.toNat ≤ cfg.info.h2tMemSz := hfit
        have hpay := alike_recvH2tPayload hR hok hlow h16 hge hlt'
          (halike.setH2tWaiting hbuffu false)
        have hproc (u : Srv D) := recvH2tPayload_proceeds hquiet hok (u.setH2tWaiting false) h16 hge
          hlt' (by omega) (by omega)
        have hframe (u : Srv D) := recvH2tPayload_frame io cfg buff
          (headerOf t.conn.h2tHeaderBuff).dataLenBytes.toNat (u.setH2tWaiting false)
        rw [recvH2tPayload_ok, recvH2tPayload_ok, if_pos rfl, if_pos rfl]
        have hdrv (u : Srv D) : (recvH2tPayload io cfg buff
            (headerOf t.conn.h2tHeaderBuff).dataLenBytes.toNat (u.setH2tWaiting false)).2.drv = u.drv :=
          (hframe u).drv
        have hring2 := hring
        rw [← hdrv u, ← hdrv u'] at hring2
        have hg2 := hg.proceeds (hproc u).1
        rw [← hdrv u] at hg2
        have hg2' := hg'.proceeds (hproc u').1
        rw [← hdrv u'] at hg2'
        refine alike_push hR hok hpay.2 hring2 hg2 hg2' ?_
        rw [(hframe u).conn, Srv.setH2tWaiting_loopbackMode, hconn]
        exact hmode
    · have hmode' : ¬ t'.conn.loopbackMode = false := by
        rw [h1.alike.loopbackMode]
        exact hmode
      rw [pollH2tBuffer, if_neg hmode, pollH2tBuffer, if_neg hmode', Option.map_some,
        Option.map_some]
      refine .some ?_
      dsimp only
      rw [if_pos hbase.ne', if_pos hbase.ne', recvH2tPayload_ok, recvH2tPayload_ok, if_pos rfl,
        if_pos rfl]
      have hpay := alike_recvH2tPayload hR hok hlow h16 le_rfl (by omega)
        (h1.alike.setH2tWaiting hbuff false)
      have hproc (u : Srv D) := recvH2tPayload_proceeds hquiet hok (u.setH2tWaiting false) h16 le_rfl
        (by omega) (by omega) (by omega)
      have hframe (u : Srv D) := recvH2tPayload_frame io cfg cfg.info.h2tMemBaseAddr
        (headerOf t.conn.h2tHeaderBuff).dataLenBytes.toNat (u.setH2tWaiting false)
      refine alike_loopback hR (h1.same hpay.2 ?_ (hproc t) ?_ (hproc t')) ?_ ?_
      · rw [(hframe t).drv]
        rfl
      · rw [(hframe t').drv]
        rfl
      · rw [(hframe t).conn, (hframe t').conn]
        exact hbuff
      · rw [(hframe t).conn, Srv.setH2tWaiting_loopbackMode]
        exact hmode
  · exact .some ⟨hrc, h1⟩

/-! ## Sessions -/

/-- Both calls return the same, and leave twins. -/
def BothTwins {α : Type} (ip : ChannelIp io cfg.info .h2t) (R : D → D → Prop) (b b' : List Event)
    (x x' : α × Srv D) : Prop :=
  x'.1 = x.1 ∧ Twins ip R b b' x.2 x'.2

theorem twins_nextStage {x x' : Option (Bool × Srv D)} (h : Option.Rel (BothTwins ip R b b') x x')
    {f f' : Srv D → Option (Bool × Srv D)}
    (hf : ∀ s s', Twins ip R b b' s s' → Option.Rel (BothTwins ip R b b') (f s) (f' s')) :
    Option.Rel (BothTwins ip R b b') (nextStage x f) (nextStage x' f') := by
  refine rel_bind h fun y y' hy => ?_
  rw [hy.1]
  split
  · exact hf _ _ hy.2
  · exact .some hy

theorem twins_dataStage (isSet : Bool) {process process' : Srv D → Option (ReturnCode × Srv D)}
    (h : Twins ip R b b' s s')
    (hcall : Option.Rel (BothTwins ip R b b') (process s) (process' s')) :
    Option.Rel (BothTwins ip R b b') (dataStage isSet process s) (dataStage isSet process' s') := by
  unfold dataStage
  split
  · refine rel_map hcall fun y y' hy => ⟨?_, hy.2⟩
    rw [hy.1]
  · exact .some ⟨rfl, h⟩

/-- One turn of the loop of `handle_client`. -/
theorem twins_serveReady (hR : AnswersAlike io cfg.info R) (hok : WindowOk cfg.info .h2t)
    (hlow : cfg.info.h2tMemBaseAddr + 2 ^ 16 ≤ 2 ^ 32) (hquiet : ip.Quiet (2 ^ 16))
    (h : Twins ip R b b' s s') (server ctrl mgmt h2tData mgmtRsp t2hData : Bool) :
    Option.Rel (BothTwins ip R b b')
      (serveReady io cfg server ctrl mgmt h2tData mgmtRsp t2hData s)
      (serveReady io cfg server ctrl mgmt h2tData mgmtRsp t2hData s') := by
  have hreject : Twins ip R b b' (if server then rejectClient s else s)
      (if server then rejectClient s' else s') := by
    split
    · exact h.aside (alike_rejectClient h.alike) (aside_rejectClient ip s) (aside_rejectClient ip s')
    · exact h
  have hctrl {s s' : Srv D} (h : Twins ip R b b' s s') :
      Option.Rel (BothTwins ip R b b') (ctrlStage io cfg ctrl s) (ctrlStage io cfg ctrl s') := by
    unfold ctrlStage
    split
    · have hcall := rel_with (alike_control hR h.alike) (fun x hx => aside_control ip hx)
        (fun x hx => aside_control ip hx)
      refine rel_map hcall fun x x' hx => ?_
      obtain ⟨⟨hrc, hdone, hnext⟩, haside, haside'⟩ := hx
      refine ⟨?_, h.aside hnext haside haside'⟩
      dsimp only
      rw [hrc, hdone]
    · exact .some ⟨rfl, h⟩
  unfold serveReady
  dsimp only
  refine twins_nextStage (twins_nextStage (twins_nextStage (twins_nextStage (hctrl hreject) ?_) ?_)
    ?_) ?_
  · intro s s' h
    refine twins_dataStage mgmt h ?_
    have hcall := rel_with (alike_mgmt h.alike) (fun x hx => aside_mgmt ip hx)
      (fun x hx => aside_mgmt ip hx)
    refine rel_mono hcall fun x x' hx => ?_
    obtain ⟨⟨hrc, hnext⟩, haside, haside'⟩ := hx
    exact ⟨hrc, h.aside hnext haside haside'⟩
  · intro s s' h
    exact twins_dataStage h2tData h (alike_h2t hR hok hlow hquiet h)
  · -- without `ENABLE_MGMT` MGMT_RSP is not served
    intro s s' h
    have hnot (s : Srv D) : (!s.conn.loopbackMode && mgmtRsp && enableMgmt) = false := by
      simp [enableMgmt]
    rw [hnot, hnot]
    exact .some ⟨rfl, h⟩
  · intro s s' h
    rw [h.alike.loopbackMode]
    refine twins_dataStage _ h (.some ?_)
    obtain ⟨hrc, hnext⟩ := alike_t2h hR h.alike
    obtain ⟨hring, hproc⟩ := t2h_frame ip s
    obtain ⟨hring', hproc'⟩ := t2h_frame ip s'
    exact ⟨hrc, h.same hnext hring hproc hring' hproc'⟩

theorem twins_handleClientLoop (hR : AnswersAlike io cfg.info R) (hok : WindowOk cfg.info .h2t)
    (hlow : cfg.info.h2tMemBaseAddr + 2 ^ 16 ≤ 2 ^ 32) (hquiet : ip.Quiet (2 ^ 16))
    (selects : List SelectResult) (h : Twins ip R b b' s s') :
    Option.Rel (Alike R b b') (handleClientLoop io cfg selects s)
      (handleClientLoop io cfg selects s') := by
  have hleave {s s' : Srv D} (h : Alike R b b' s s') (selects : List SelectResult) : Alike R b b'
      { s with env := { s.env with selects := selects } }
      { s' with env := { s'.env with selects := selects } } := by
    rw [h.env]
    exact h.withEnv _
  induction selects generalizing s s' with
  | nil => exact .some (hleave h.alike [])
  | cons e selects ih =>
    cases e with
    | failure => exact .some (hleave h.alike selects)
    | ready except server ctrl mgmt h2tData mgmtRsp t2hData =>
      unfold handleClientLoop
      split
      · exact .some (hleave h.alike selects)
      · refine rel_bind (twins_serveReady hR hok hlow hquiet h server ctrl mgmt h2tData mgmtRsp t2hData)
          fun x x' hx => ?_
        rw [hx.1]
        split
        · exact ih hx.2
        · exact .some (hleave hx.2.alike selects)

/-- **A session** for which nothing waits is the same in both runs. -/
theorem serveSession_alike (hR : AnswersAlike io cfg.info R) (hok : WindowOk cfg.info .h2t)
    (hlow : cfg.info.h2tMemBaseAddr + 2 ^ 16 ≤ 2 ^ 32) (ip : ChannelIp io cfg.info .h2t)
    (hquiet : ip.Quiet (2 ^ 16)) (h : SameOutlook io R s s')
    (hidle : s.conn.h2tWaiting = false ∧ s.conn.mgmtWaiting = false)
    (hidle' : s'.conn.h2tWaiting = false ∧ s'.conn.mgmtWaiting = false) :
    Option.Rel (SameSession s s') (serveSession io cfg s) (serveSession io cfg s') := by
  have hsame {Q : D → D → Prop} {x x' : ReturnCode × Srv D} (hx : BothAlike Q s.log s'.log x x') :
      SameSession s s' x x' := by
    obtain ⟨l, l', hl, hl', heq⟩ := hx.2.deeds
    refine ⟨hx.1, hx.2.client, ?_⟩
    rw [hl, hl', List.drop_left, List.drop_left, heq]
  have hstart : Alike (fun _ _ => True) s.log s'.log
      { resetBuffers s with client := clientConnDefault }
      { resetBuffers s' with client := clientConnDefault } := by
    refine ⟨h.env, rfl, rfl, h.loopbackMode, h.t2hNagle, h.mgmtRspNagle, ?_, ?_, fun hw => ?_,
      fun hw => ?_, trivial, [], [], (List.append_nil _).symm, (List.append_nil _).symm, rfl⟩
    · exact hidle'.1.trans hidle.1.symm
    · exact hidle'.2.trans hidle.2.symm
    · exact absurd (hidle.1.symm.trans hw) (by simp)
    · exact absurd (hidle.2.symm.trans hw) (by simp)
  have hlook : SameOutlook io R ({ resetBuffers s with client := clientConnDefault } : Srv D)
      { resetBuffers s' with client := clientConnDefault } :=
    ⟨h.env, h.loopbackMode, h.t2hNagle, h.mgmtRspNagle, h.dbgInfoSet, h.check, h.reset⟩
  obtain ⟨⟨hrc, hconn⟩, hbus⟩ := alike_connectClient hR hlook hstart
  unfold serveSession
  dsimp only
  rw [hrc]
  split
  · next hsucc =>
    obtain ⟨hinv, hring⟩ := connected_ring ip hok hsucc
    obtain ⟨hinv', hring'⟩ := connected_ring ip hok (hrc.trans hsucc)
    have htwins : Twins ip R s.log s'.log
        (connectClient io cfg { resetBuffers s with client := clientConnDefault }).2
        (connectClient io cfg { resetBuffers s' with client := clientConnDefault }).2 := by
      refine ⟨hbus hsucc, ?_, [], 0, 0, hinv, hinv'⟩
      rw [hring, hring']
      exact ⟨rfl, rfl, rfl⟩
    generalize (connectClient io cfg { resetBuffers s with client := clientConnDefault }).2 = t
      at htwins
    generalize (connectClient io cfg { resetBuffers s' with client := clientConnDefault }).2 = t'
      at htwins
    have hent : Twins ip R s.log s'.log
        (t.record (.handleClient t.conn.h2tWaiting t.conn.mgmtWaiting))
        (t'.record (.handleClient t'.conn.h2tWaiting t'.conn.mgmtWaiting)) := by
      refine htwins.aside (htwins.alike.record ?_) (aside_of_eq ip rfl rfl rfl rfl)
        (aside_of_eq ip rfl rfl rfl rfl)
      rw [htwins.alike.h2tWaiting, htwins.alike.mgmtWaiting]
    unfold handleClient
    rw [htwins.alike.env]
    refine rel_map (twins_handleClientLoop hR hok hlow hquiet _ hent) fun u u' hu => ?_
    exact hsame ⟨rfl, (alike_closeClientConn hu).2⟩
  · exact .some (hsame ⟨rfl, (alike_closeClientConn hconn).2⟩)

/-! ## Runs -/

/-- Between two sessions no packet waits. -/
def IdleBetween (st : ServerState D) : Prop :=
  st.connected = false → st.srv.conn.h2tWaiting = false ∧ st.srv.conn.mgmtWaiting = false

theorem leavesIdle_close (h : s.conn.h2tWaiting = false ∧ s.conn.mgmtWaiting = false) :
    LeavesIdle ⟨s, true⟩ .close := fun _ => h

theorem EntersIdle.h2tWaiting (h : EntersIdle io cfg ⟨s, false⟩) :
    (ServerState.connect io cfg s).srv.conn.h2tWaiting = false := (h rfl).1

theorem idleBetween_step {may : D → D → Prop} {st st' : ServerState D} {a : ServerAction}
    (h : IdleBetween st) (hleave : LeavesIdle st a) (hstep : CallStep io cfg may st a st') :
    IdleBetween st' := by
  intro hconn
  obtain ⟨hh2t, hmgmt⟩ := held_step hstep
  have hkeep (hidle : st.srv.conn.h2tWaiting = false ∧ st.srv.conn.mgmtWaiting = false)
      (h1 : a ≠ .h2t) (h2 : a ≠ .mgmt) :
      st'.srv.conn.h2tWaiting = false ∧ st'.srv.conn.mgmtWaiting = false := by
    rw [(hh2t h1).waiting, (hmgmt h2).waiting]
    exact hidle
  cases hstep with
  | connect s => exact hkeep (h rfl) (by simp) (by simp)
  | close s => exact hkeep (hleave rfl) (by simp) (by simp)
  | hardware hmay => exact hkeep (h hconn) (by simp) (by simp)
  | select s selects => cases hconn
  | reject s => cases hconn
  | control hcall => cases hconn
  | mgmt hcall => cases hconn
  | h2t hcall => cases hconn
  | mgmtRsp hmode => cases hconn
  | t2h hmode => cases hconn

theorem IdleBetween.enters {st : ServerState D} (h : IdleBetween st) : EntersIdle io cfg st := by
  intro hconn
  obtain ⟨hh2t, hmgmt⟩ := held_step (.connect st.srv : CallStep io cfg (fun _ _ => True) ⟨st.srv, false⟩
    .connect (.connect io cfg st.srv))
  rw [(hh2t (by simp)).waiting, (hmgmt (by simp)).waiting]
  exact h hconn

/-- **Isolation of the sessions**: in every run in which no client leaves while a packet waits,
`handle_client` is always entered with no packet waiting, and if two such runs agree on what comes next
they serve the next client in the same way. -/
theorem sessions_isolated (ip : ChannelIp io cfg.info .h2t) (hok : WindowOk cfg.info .h2t)
    (hlow : cfg.info.h2tMemBaseAddr + 2 ^ 16 ≤ 2 ^ 32) (hquiet : ip.Quiet (2 ^ 16))
    (hR : AnswersAlike io cfg.info R) {may : D → D → Prop} {start start' : Srv D}
    (hstart : start.conn = serverConnStart) (hstart' : start'.conn = serverConnStart)
    {st st' : ServerState D} (hrun : Reach (CallStep io cfg may) LeavesIdle ⟨start, false⟩ st)
    (hrun' : Reach (CallStep io cfg may) LeavesIdle ⟨start', false⟩ st') :
    EntersIdle io cfg st ∧
      (st.connected = false → st'.connected = false → SameOutlook io R st.srv st'.srv →
        Option.Rel (SameSession st.srv st'.srv) (serveSession io cfg st.srv)
          (serveSession io cfg st'.srv)) := by
  have hidle {start : Srv D} {st : ServerState D} (hstart : start.conn = serverConnStart)
      (hrun : Reach (CallStep io cfg may) LeavesIdle ⟨start, false⟩ st) : IdleBetween st := by
    refine hrun.invariant IdleBetween (fun _ _ _ => idleBetween_step) fun _ => ?_
    show start.conn.h2tWaiting = false ∧ start.conn.mgmtWaiting = false
    rw [hstart]
    exact ⟨rfl, rfl⟩
  have h := hidle hstart hrun
  have h' := hidle hstart' hrun'
  refine ⟨h.enters, fun hconn hconn' hsame => ?_⟩
  exact serveSession_alike hR hok hlow ip hquiet hsame (h hconn) (h' hconn')

namespace DebugIp

/-- The registers show how many descriptors are queued, and not which. -/
structure SameRegisters (d d' : DebugIp) : Prop where
  queued : ∀ ch, (d'.queue ch).length = (d.queue ch).length
  config : d'.config = d.config
  t2h : d'.t2h = d.t2h
  mgmtRsp : d'.mgmtRsp = d.mgmtRsp

theorem sameRegisters_push {d d' : DebugIp} (h : SameRegisters d d') (ch : Channel) (w : Nat) :
    SameRegisters (d.push ch w) (d'.push ch w) := by
  have hch := h.queued ch
  unfold push
  by_cases hroom : (d.queue ch).length < 4
  · rw [dif_pos hroom, dif_pos (by omega)]
    refine ⟨fun ch' => ?_, h.config, h.t2h, h.mgmtRsp⟩
    by_cases hne : ch' = ch
    · subst hne
      simp [hch]
    · simpa [Function.update_of_ne hne] using h.queued ch'
  · rw [dif_neg hroom, dif_neg (by omega)]
    exact h

/-- Also if the windows read back what has been stored. -/
theorem echo_answersAlike : AnswersAlike debugIp echoDesign.info SameRegisters where
  register32 o ho d d' h := by
    simp only [List.mem_cons, List.not_mem_nil, or_false] at ho
    rcases ho with rfl | rfl | rfl
    · exact h.config
    · rfl
    · exact congrArg (4 - ·) (h.queued .h2t)
  register64 o ho d d' h := by
    simp only [List.mem_cons, List.not_mem_nil, or_false] at ho
    rcases ho with rfl | rfl
    · exact congrArg frontHowlong h.t2h
    · exact congrArg frontWord h.t2h
  read32 o d d' h := h
  read64 o d d' h := h
  write32 o v d d' h := by
    simp only [debugIp, configure]
    split_ifs
    · exact ⟨fun _ => rfl, rfl, rfl, rfl⟩
    · exact ⟨h.queued, rfl, h.t2h, h.mgmtRsp⟩
    · exact ⟨h.queued, h.config, congrArg List.tail h.t2h, h.mgmtRsp⟩
    · exact ⟨h.queued, h.config, h.t2h, congrArg List.tail h.mgmtRsp⟩
    · exact h
  write64 o v d d' h := by
    simp only [debugIp]
    split_ifs
    · exact ⟨h.queued, h.config, h.t2h, h.mgmtRsp⟩
    · exact ⟨h.queued, h.config, h.t2h, h.mgmtRsp⟩
    · exact sameRegisters_push h .h2t v
    · exact sameRegisters_push h .mgmt v
    · exact ⟨h.queued, h.config, h.t2h, h.mgmtRsp⟩
  store o v v' d d' ho h := by
    have hbase : 0x2000 ≤ echoDesign.info.h2tMemBaseAddr := by decide
    rw [write64_mem (hbase.trans ho), write64_mem (hbase.trans ho)]
    exact ⟨h.queued, h.config, h.t2h, h.mgmtRsp⟩

/-- Whatever happened before, the reset leaves the same registers. -/
theorem sameOutlook_reset {s s' : Srv DebugIp} (henv : s'.env = s.env)
    (hconn : (s'.conn.loopbackMode, s'.conn.t2hNagle, s'.conn.mgmtRspNagle, s'.drv.dbgInfoSet)
      = (s.conn.loopbackMode, s.conn.t2hNagle, s.conn.mgmtRspNagle, s.drv.dbgInfoSet)) :
    SameOutlook debugIp SameRegisters s s' := by
  obtain ⟨h1, h2, h3, h4⟩ : _ ∧ _ ∧ _ ∧ _ := by simpa only [Prod.mk.injEq] using hconn
  have hcheck (d : DebugIp) : checkVersionAndType debugIp d = (0, d) := by
    simp [checkVersionAndType, debugIp, supportedType, supportedVersion]
  refine ⟨henv, h1, h2, h3, h4, ?_, ?_⟩
  · rw [hcheck, hcheck]
  · rw [hcheck, hcheck]
    exact ⟨fun _ => rfl, rfl, rfl, rfl⟩

/-- A client that sends one packet of eight bytes. -/
def nextClient : Sock → List RecvEvent
  | .h2tData => [.data (headerBytes 8), .data (List.replicate 8 7)]
  | _ => []

/-- The server in front of this client, the H2T socket being ready once. -/
def fresh : Srv DebugIp :=
  listening (clientSockets 1 nextClient) [.ready false false false false true false false]

/-- The server connected to a client that sends a packet of `len` bytes before this client comes. -/
def visited (len : Nat) : ServerState DebugIp :=
  .connect debugIp echoDesign
    (listening (clientSockets 1 (h2tClient [len]) ++ clientSockets 1 nextClient)
      [.ready false false false false true false false])

/-- The server behind one call of `process_h2t_data` and the end of this session. -/
def left (len : Nat) : Srv DebugIp := (closeClientConn (afterH2t (visited len).srv)).2

/-- The earlier client has been served and has left. -/
theorem left_run {len : Nat} {guard : ServerState DebugIp → ServerAction → Prop}
    (hconn : (visited len).connected = true)
    (hcall : (processH2tData debugIp echoDesign (visited len).srv).isSome)
    (hguard : ∀ s, guard s .connect ∧ guard s .h2t)
    (hleave : guard ⟨afterH2t (visited len).srv, true⟩ .close) :
    Reach (ServerStep echoDesign echoIp) guard
      ⟨listening (clientSockets 1 (h2tClient [len]) ++ clientSockets 1 nextClient)
        [.ready false false false false true false false], false⟩ ⟨left len, false⟩ := by
  have h1 := connect_run hconn fun s => (hguard s).1
  have h2 := h1.tail (hguard _).2 (step_h2t hcall)
  exact h2.tail hleave (.close _)

end DebugIp

/-- An earlier client whose packet has been taken in, and is still in the window, makes no difference. -/
theorem sessions_isolated_visited : EntersIdle debugIp DebugIp.echoDesign ⟨DebugIp.left 8, false⟩ ∧
    Option.Rel (SameSession (DebugIp.left 8) DebugIp.fresh)
      (serveSession debugIp DebugIp.echoDesign (DebugIp.left 8))
      (serveSession debugIp DebugIp.echoDesign DebugIp.fresh) := by
  obtain ⟨hconn, hcall, hidle, henv, hflags⟩ : (DebugIp.visited 8).connected = true ∧
      (processH2tData debugIp DebugIp.echoDesign (DebugIp.visited 8).srv).isSome ∧
      ((DebugIp.afterH2t (DebugIp.visited 8).srv).conn.h2tWaiting = false ∧
        (DebugIp.afterH2t (DebugIp.visited 8).srv).conn.mgmtWaiting = false) ∧
      DebugIp.fresh.env = (DebugIp.left 8).env ∧
      (DebugIp.fresh.conn.loopbackMode, DebugIp.fresh.conn.t2hNagle,
          DebugIp.fresh.conn.mgmtRspNagle, DebugIp.fresh.drv.dbgInfoSet)
        = ((DebugIp.left 8).conn.loopbackMode, (DebugIp.left 8).conn.t2hNagle,
          (DebugIp.left 8).conn.mgmtRspNagle, (DebugIp.left 8).drv.dbgInfoSet) := by
    decide +kernel
  have hguard (s : ServerState DebugIp) : LeavesIdle s .connect ∧ LeavesIdle s .h2t :=
    ⟨fun h => (by cases h), fun h => (by cases h)⟩
  have hrun := DebugIp.left_run hconn hcall hguard (leavesIdle_close hidle)
  have hsame := DebugIp.sameOutlook_reset henv hflags
  have hnone : Reach (ServerStep DebugIp.echoDesign DebugIp.echoIp) LeavesIdle
      ⟨DebugIp.fresh, false⟩ ⟨DebugIp.fresh, false⟩ := .refl
  generalize DebugIp.left 8 = s at hrun hsame
  obtain ⟨hidle, hsession⟩ := sessions_isolated DebugIp.echoIp
    ⟨by decide, by decide, by decide⟩ (by decide) (DebugIp.echoIp_quiet _) DebugIp.echo_answersAlike
    rfl rfl hrun hnone
  exact ⟨hidle, hsession rfl rfl hsame⟩

/-- An earlier client whose packet waits keeps the next client's packet from being taken in. -/
theorem sessions_not_isolated :
    Reach (ServerStep DebugIp.echoDesign DebugIp.echoIp) always
      ⟨DebugIp.listening (DebugIp.clientSockets 1 (DebugIp.h2tClient [65535])
          ++ DebugIp.clientSockets 1 DebugIp.nextClient)
        [.ready false false false false true false false], false⟩ ⟨DebugIp.left 65535, false⟩ ∧
    ¬ EntersIdle debugIp DebugIp.echoDesign ⟨DebugIp.left 65535, false⟩ ∧
    SameOutlook debugIp DebugIp.SameRegisters (DebugIp.left 65535) DebugIp.fresh ∧
    ¬ Option.Rel (SameSession (DebugIp.left 65535) DebugIp.fresh)
      (serveSession debugIp DebugIp.echoDesign (DebugIp.left 65535))
      (serveSession debugIp DebugIp.echoDesign DebugIp.fresh) := by
  obtain ⟨hconn, hcall, henv, hflags, hwait, hrx⟩ : (DebugIp.visited 65535).connected = true ∧
      (processH2tData debugIp DebugIp.echoDesign (DebugIp.visited 65535).srv).isSome ∧
      DebugIp.fresh.env = (DebugIp.left 65535).env ∧
      (DebugIp.fresh.conn.loopbackMode, DebugIp.fresh.conn.t2hNagle,
          DebugIp.fresh.conn.mgmtRspNagle, DebugIp.fresh.drv.dbgInfoSet)
        = ((DebugIp.left 65535).conn.loopbackMode, (DebugIp.left 65535).conn.t2hNagle,
          (DebugIp.left 65535).conn.mgmtRspNagle, (DebugIp.left 65535).drv.dbgInfoSet) ∧
      (ServerState.connect debugIp DebugIp.echoDesign (DebugIp.left 65535)).srv.conn.h2tWaiting
        = true ∧
      (serveSession debugIp DebugIp.echoDesign (DebugIp.left 65535)).map
          (fun x => (x.2.client .h2tData).rx.length)
        ≠ (serveSession debugIp DebugIp.echoDesign DebugIp.fresh).map
          fun x => (x.2.client .h2tData).rx.length := by
    decide +kernel
  have hrun : Reach (ServerStep DebugIp.echoDesign DebugIp.echoIp) always _
      ⟨DebugIp.left 65535, false⟩ :=
    DebugIp.left_run hconn hcall (fun _ => ⟨trivial, trivial⟩) trivial
  have hsame := DebugIp.sameOutlook_reset henv hflags
  generalize DebugIp.left 65535 = s at hrun hsame hwait hrx ⊢
  refine ⟨hrun, fun h => ?_, hsame, fun h => ?_⟩
  · exact absurd (hwait.symm.trans h.h2tWaiting) (by simp)
  · apply hrx
    generalize serveSession debugIp DebugIp.echoDesign s = x at h ⊢
    generalize serveSession debugIp DebugIp.echoDesign DebugIp.fresh = x' at h ⊢
    cases h with
    | some h => rw [Option.map_some, Option.map_some, h.client]
    | none => rfl

end RemoteDebug
