import RemoteDebug.Proofs.WaitProofs

/-!
# Where loopback packets are stored

In loopback mode every payload is stored to the start of the H2T window, without a look at the
descriptors that were pushed before the mode changed. The stores are harmless exactly if the payload
ends before all regions that the IP still owns.
-/

namespace RemoteDebug

open Bytes CString Runs Script Cyclic

variable {D : Type} {io : Mmio D} {cfg : Config} {ip : ChannelIp io cfg.info .h2t} {s s' s1 : Srv D}
  {memSize : Nat}

/-! ## The stores of a call -/

/-- One of the stores in `evs` touches the byte at `a`. -/
def Touches (evs : List Event) (a : Nat) : Prop :=
  ∃ addr bs, Event.store addr bs ∈ evs ∧ addr ≤ a ∧ a < addr + wordBytes bs.length

theorem touches_append {evs evs' : List Event} {a : Nat} :
    Touches (evs ++ evs') a ↔ Touches evs a ∨ Touches evs' a := by
  constructor
  · rintro ⟨addr, bs, hmem, hlt⟩
    exact (List.mem_append.mp hmem).imp (fun h => ⟨addr, bs, h, hlt⟩) fun h => ⟨addr, bs, h, hlt⟩
  · rintro (⟨addr, bs, hmem, hlt⟩ | ⟨addr, bs, hmem, hlt⟩)
    · exact ⟨addr, bs, List.mem_append_left _ hmem, hlt⟩
    · exact ⟨addr, bs, List.mem_append_right _ hmem, hlt⟩

theorem touches_nil {a : Nat} : ¬ Touches [] a := by
  rintro ⟨addr, bs, hmem, -⟩
  cases hmem

/-- Bytes that are sent are no store. -/
theorem touches_sent {sock : Sock} {bs : List UInt8} {a : Nat} : ¬ Touches [.sent sock bs] a := by
  rintro ⟨addr, bs', hmem, -⟩
  cases List.mem_singleton.mp hmem

/-- A part of a payload is stored in whole words, or not at all. -/
theorem socketRecvAccumulateH2tData_stores (io : Mmio D) (buff len : Nat) (s : Srv D) :
    ∃ evs, (socketRecvAccumulateH2tData io .h2tData buff len s).2.log = s.log ++ evs ∧
      (∀ a, buff ≤ a →
        (Touches evs a ↔ a < buff + partCovers (s.client .h2tData).rx len)) ∧
      ((socketRecvAccumulateH2tData io .h2tData buff len s).2.client .h2tData).rx
        = (socketRecvAccumulate (s.client .h2tData).rx len).2.2 := by
  have hrx : ((s.recvAccumulate .h2tData len).2.2.client .h2tData).rx
      = (socketRecvAccumulate (s.client .h2tData).rx len).2.2 := by
    simp [Srv.recvAccumulate, Srv.setRx]
  rcases Nat.lt_or_ge (pending (s.client .h2tData).rx).length len with hshort | hlen
  · obtain ⟨rx', hrec, -⟩ := socketRecvAccumulate_failure hshort
    have hfail : (s.recvAccumulate .h2tData len).1 = .failure := by
      simp only [Srv.recvAccumulate, hrec]
    unfold socketRecvAccumulateH2tData
    dsimp only
    rw [if_neg (by rw [hfail]; decide)]
    refine ⟨[], (List.append_nil _).symm, fun a ha => ?_, hrx⟩
    have hnone : partCovers (s.client .h2tData).rx len = 0 := by
      rw [partCovers, hrec, if_pos rfl]
    rw [hnone]
    exact ⟨fun h => absurd h touches_nil, fun h => by omega⟩
  · obtain ⟨rx', hrec, -⟩ := socketRecvAccumulate_ok hlen
    have hok : (s.recvAccumulate .h2tData len).1 = .ok ∧
        (s.recvAccumulate .h2tData len).2.1.length = len := by
      simp only [Srv.recvAccumulate, hrec, List.length_take]
      exact ⟨trivial, by omega⟩
    obtain ⟨hrc, hbytes⟩ := hok
    unfold socketRecvAccumulateH2tData
    dsimp only
    rw [if_pos (by rw [hrc]; decide)]
    refine ⟨_, rfl, fun a ha => ?_, hrx⟩
    have hall : partCovers (s.client .h2tData).rx len = wordBytes len := by
      rw [partCovers, hrec, if_neg (fun h => by cases h)]
    rw [hall]
    constructor
    · rintro ⟨addr, bs, hmem, -, hlt⟩
      obtain ⟨rfl, rfl⟩ : addr = buff ∧ bs = _ := by simpa using hmem
      rwa [hbytes] at hlt
    · intro hlt
      exact ⟨_, _, List.mem_singleton.mpr rfl, ha, by rwa [hbytes]⟩

/-- A payload received at the start of the window covers a first part of it. -/
theorem recvH2tPayload_stores (io : Mmio D) (len : Nat)
    (h64 : cfg.info.h2tMemBaseAddr + cfg.info.h2tMemSz + 2 ^ 16 ≤ 2 ^ 64) (h16 : len < 2 ^ 16)
    (hspan : 0 < cfg.info.h2tMemSz) (s : Srv D) :
    ∃ evs, (recvH2tPayload io cfg cfg.info.h2tMemBaseAddr len s).2.log = s.log ++ evs ∧
      ∀ a, cfg.info.h2tMemBaseAddr ≤ a → (Touches evs a ↔ a < cfg.info.h2tMemBaseAddr +
        payloadCovers cfg.info.h2tMemSz len (s.client .h2tData).rx) := by
  by_cases hlen : len ≤ cfg.info.h2tMemSz
  · rw [recvH2tPayload_unsplit io h64 h16 (by omega), payloadCovers, if_pos hlen]
    obtain ⟨evs, hlog, htouch, -⟩ :=
      socketRecvAccumulateH2tData_stores io cfg.info.h2tMemBaseAddr len s
    exact ⟨evs, hlog, htouch⟩
  · have hfirst : cfg.info.h2tMemBaseAddr + cfg.info.h2tMemSz - cfg.info.h2tMemBaseAddr
        = cfg.info.h2tMemSz := Nat.add_sub_cancel_left _ _
    have hsplit := recvH2tPayload_split io h64 h16 (Nat.lt_add_of_pos_right hspan) (by omega) s
    dsimp only at hsplit
    rw [hfirst] at hsplit
    rw [hsplit, payloadCovers, if_neg hlen]
    obtain ⟨evs, hlog, htouch, hrx⟩ :=
      socketRecvAccumulateH2tData_stores io cfg.info.h2tMemBaseAddr cfg.info.h2tMemSz s
    generalize (socketRecvAccumulateH2tData io .h2tData cfg.info.h2tMemBaseAddr
      cfg.info.h2tMemSz s).2 = s1 at hlog hrx ⊢
    obtain ⟨evs', hlog', htouch', -⟩ :=
      socketRecvAccumulateH2tData_stores io cfg.info.h2tMemBaseAddr (len - cfg.info.h2tMemSz) s1
    refine ⟨evs ++ evs', by rw [hlog', hlog, List.append_assoc], fun a ha => ?_⟩
    rw [touches_append, htouch a ha, htouch' a ha, hrx]
    omega

/-- What an echo sends is no store. -/
theorem pushOrLoopbackH2t_stores (io : Mmio D) (header : H2tPacketHeader) (buff : Nat) {s : Srv D}
    (hmode : s.conn.loopbackMode = true) :
    ∃ evs, (pushOrLoopbackH2t io header buff s).2.log = s.log ++ evs ∧ ∀ a, ¬ Touches evs a := by
  unfold pushOrLoopbackH2t
  rw [if_neg (by simp [hmode])]
  dsimp only
  split
  · obtain ⟨bs, hlog⟩ := socketSendAllT2hData_log io .t2hData buff header.dataLenBytes.toNat
      (s.sendAll .t2hData s.conn.h2tHeaderBuff.bytes).2
    refine ⟨_, by rw [hlog, sendAll_log, List.append_assoc], fun a h => ?_⟩
    exact (touches_append.mp h).elim touches_sent touches_sent
  · exact ⟨_, sendAll_log _ _ _, fun a h => touches_sent h⟩

/-! ## A call -/

/-- The header of a packet that has arrived is read, and the payload is next. -/
theorem updateCurrH2tHeader_arrives (harr : HeaderArrives s) :
    ∃ s1, updateCurrH2tHeader s = (.ok, s1) ∧ s1.log = s.log ∧
      headerOf s1.conn.h2tHeaderBuff = nextH2tHeader s ∧
      (s1.client .h2tData).rx = payloadStream s ∧
      s1.conn.loopbackMode = s.conn.loopbackMode := by
  by_cases hwait : s.conn.h2tWaiting = true
  · refine ⟨s, by rw [updateCurrH2tHeader, if_neg (by simp [hwait])], rfl, ?_, ?_, rfl⟩
    · rw [nextH2tHeader, if_pos hwait]
    · rw [payloadStream, if_pos hwait]
  · have hlen : 10 ≤ (pending (s.client .h2tData).rx).length := harr.resolve_left hwait
    obtain ⟨rx', hrec, -⟩ := socketRecvAccumulate_ok hlen
    have hwait' : s.conn.h2tWaiting = false := by simpa using hwait
    have heq : updateCurrH2tHeader s = (.ok, { s.setRx .h2tData rx' with
        conn := { s.conn with
          h2tHeaderBuff := s.conn.h2tHeaderBuff.store ((pending (s.client .h2tData).rx).take 10) } }) := by
      rw [updateCurrH2tHeader, if_pos hwait']
      simp only [Srv.recvAccumulate, hrec]
    refine ⟨_, heq, rfl, ?_, ?_, rfl⟩
    · rw [nextH2tHeader, if_neg hwait]
    · rw [payloadStream, if_neg hwait, hrec]
      simp [Srv.setRx]

/-- Without a complete header the call fails. -/
theorem updateCurrH2tHeader_fails (harr : ¬ HeaderArrives s) :
    ∃ s1, updateCurrH2tHeader s = (.failure, s1) ∧ s1.log = s.log := by
  have hwait : s.conn.h2tWaiting = false := by
    by_contra h
    exact harr (Or.inl (by simpa using h))
  have hshort : (pending (s.client .h2tData).rx).length < 10 :=
    not_le.mp fun h => harr (Or.inr h)
  obtain ⟨rx', hrec, -⟩ := socketRecvAccumulate_failure hshort
  have hrc : (updateCurrH2tHeader s).1 = .failure := by
    rw [updateCurrH2tHeader, if_pos hwait]
    simp only [Srv.recvAccumulate, hrec]
  have heq : updateCurrH2tHeader s = (.failure, (updateCurrH2tHeader s).2) := Prod.ext hrc rfl
  exact ⟨_, heq, (updateCurrH2tHeader_frame heq).2.1⟩

/-- In loopback mode `process_h2t_data` covers the window from its start. -/
theorem processH2tData_stores {x : ReturnCode × Srv D} (hok : WindowOk cfg.info .h2t)
    (hmode : s.conn.loopbackMode = true) (hcall : processH2tData io cfg s = some x) :
    ∀ a, cfg.info.h2tMemBaseAddr ≤ a → (Touches (x.2.log.drop s.log.length) a ↔
      HeaderArrives s ∧ a < cfg.info.h2tMemBaseAddr + payloadCovers cfg.info.h2tMemSz
        (nextH2tHeader s).dataLenBytes.toNat (payloadStream s)) := by
  have hbase : 0 < cfg.info.h2tMemBaseAddr := hok.base_pos
  have hspan : 0 < cfg.info.h2tMemSz := hok.span_pos
  have hfits : cfg.info.h2tMemBaseAddr + cfg.info.h2tMemSz ≤ 2 ^ 32 := hok.fits
  intro a ha
  by_cases harr : HeaderArrives s
  · obtain ⟨s1, hhead, hlog1, hheader, hrx, hmode1⟩ := updateCurrH2tHeader_arrives harr
    rcases processH2tData_cases hcall with ⟨rfl, hne⟩ | ⟨s1', buff, s2, hhead', hpoll, hcases⟩
    · rw [hhead] at hne
      exact absurd rfl hne
    · rw [hhead] at hhead'
      obtain ⟨-, rfl⟩ := Prod.mk.inj hhead'
      rw [hmode] at hmode1
      rw [pollH2tBuffer, if_neg (by simp [hmode1])] at hpoll
      obtain ⟨rfl, rfl⟩ := Prod.mk.inj (Option.some.inj hpoll)
      rcases hcases with ⟨hz, -⟩ | ⟨-, rfl⟩
      · exact absurd hz hbase.ne'
      · rw [hheader]
        have h16 := (nextH2tHeader s).dataLenBytes.toNat_lt
        obtain ⟨evs, hlog, htouch⟩ := recvH2tPayload_stores io
          (nextH2tHeader s).dataLenBytes.toNat (by omega) h16 hspan (s1.setH2tWaiting false)
        have hframe := recvH2tPayload_frame io cfg cfg.info.h2tMemBaseAddr
          (nextH2tHeader s).dataLenBytes.toNat (s1.setH2tWaiting false)
        generalize (recvH2tPayload io cfg cfg.info.h2tMemBaseAddr
          (nextH2tHeader s).dataLenBytes.toNat (s1.setH2tWaiting false)).2 = s3 at hlog hframe ⊢
        have hmode3 : s3.conn.loopbackMode = true := by
          rw [hframe.conn]
          exact hmode1
        obtain ⟨evs', hlog', hnone⟩ :=
          pushOrLoopbackH2t_stores io (nextH2tHeader s) cfg.info.h2tMemBaseAddr hmode3
        have hnew : (pushOrLoopbackH2t io (nextH2tHeader s) cfg.info.h2tMemBaseAddr s3).2.log.drop
            s.log.length = evs ++ evs' := by
          rw [hlog', hlog, Srv.setH2tWaiting_log, hlog1, List.append_assoc, List.drop_left]
        have hor := htouch a ha
        rw [Srv.setH2tWaiting_client, hrx] at hor
        rw [hnew, touches_append, hor]
        constructor
        · rintro (hlt | h)
          · exact ⟨harr, hlt⟩
          · exact absurd h (hnone a)
        · exact fun h => Or.inl h.2
  · obtain ⟨s1, hhead, hlog⟩ := updateCurrH2tHeader_fails harr
    have hnew : x.2.log.drop s.log.length = [] := by
      rcases processH2tData_cases hcall with ⟨rfl, -⟩ | ⟨s1', buff, s2, hhead', -, -⟩
      · rw [hhead, hlog, List.drop_length]
      · rw [hhead] at hhead'
        cases (Prod.mk.inj hhead').1
    rw [hnew]
    exact ⟨fun h => absurd h touches_nil, fun h => absurd h.1 harr⟩

/-- **Loopback stores**: in every state of every run, a loopback packet stays clear of what the IP still
owns exactly if it ends before all of it. -/
theorem loopback_stores_apart (h0 : 0 < memSize) (h31 : memSize ≤ 2 ^ 31)
    (hinfo : cfg.info = getDesignInfo memSize) (ip : ChannelIp io cfg.info .h2t)
    (hquiet : ip.Quiet (2 ^ 16)) {s0 : Srv D} {x : ReturnCode × Srv D}
    (hrun : Reach (ServerStep cfg ip) always ⟨s0, false⟩ ⟨s, true⟩)
    (hmode : s.conn.loopbackMode = true) (hcall : processH2tData io cfg s = some x) :
    StoresApart ip s x.2 ↔ EchoApart ip s := by
  have hfit : WindowsFit cfg.info memSize := hinfo ▸ windowsFit_getDesignInfo h0 (by omega)
  have hok : WindowOk cfg.info .h2t := hinfo ▸ windowOk_getDesignInfo h0 h31
  have hring := hrun.invariant (RingHolds ip) (fun st a st' hs _ hstep =>
    ringHolds_step hok (hfit.low hok) hquiet hs (echoFits_room _ _ _) hstep) fun hc => by cases hc
  obtain ⟨k, live, lost, hinv, -⟩ := hring rfl
  have hstart {y : Descriptor} (hy : y ∈ ip.uncompleted s.dev) :
      (y.region cfg.info.h2tMemBaseAddr).start < cfg.info.h2tMemSz :=
    hinv.space.laid.start_lt hok.span_pos _
      (List.mem_map_of_mem (hinv.uncompleted.subset hy))
  have htouch := processH2tData_stores hok hmode hcall
  constructor
  · intro h harr y hy
    refine (Region.cells_ge_iff (hstart hy)).mp fun i hi => ?_
    by_contra hlt
    obtain ⟨addr, bs, hmem, htouches⟩ :=
      (htouch (cfg.info.h2tMemBaseAddr + i) (Nat.le_add_right _ _)).mpr ⟨harr, by omega⟩
    exact h y hy i hi addr bs hmem htouches
  · intro h y hy i hi addr bs hmem htouches
    obtain ⟨harr, hlt⟩ :=
      (htouch (cfg.info.h2tMemBaseAddr + i) (Nat.le_add_right _ _)).mp ⟨addr, bs, hmem, htouches⟩
    have hbehind := (Region.cells_ge_iff (hstart hy)).mpr (h harr y hy) i hi
    omega

namespace DebugIp

/-- A client that sends packets of these lengths, and asks for loopback mode. -/
def packetClient (lens : List Nat) : Sock → List RecvEvent
  | .ctrl => [.data (ascii "SET_PARAM SERVER_LOOPBACK 1" ++ [0])]
  | .h2tData => lens.map fun len => .data (headerBytes len ++ List.replicate len 0)
  | _ => []

/-- The server behind `connect_client` for this client. -/
def packetConnected (lens : List Nat) : ServerState DebugIp :=
  .connect debugIp echoDesign (listening (clientSockets 1 (packetClient lens)) [])

/-- The server behind a control message. -/
def afterControl (s : Srv DebugIp) : Srv DebugIp :=
  ((processControlMessage debugIp echoDesign s).getD (.failure, false, s)).2.2

theorem step_control {s : Srv DebugIp} (h : (processControlMessage debugIp echoDesign s).isSome) :
    ServerStep echoDesign echoIp ⟨s, true⟩ .control ⟨afterControl s, true⟩ := by
  obtain ⟨x, hx⟩ := Option.isSome_iff_exists.mp h
  rw [afterControl, hx]
  exact .control hx

/-- One packet is pushed before the mode changes. -/
def onePushed : Srv DebugIp := afterControl (afterH2t (packetConnected [8, 8]).srv)

/-- Two packets are pushed before the mode changes. -/
def twoPushed : Srv DebugIp := afterControl (afterH2t (afterH2t (packetConnected [8, 8, 8]).srv))

/-- The IP completes the first of them. -/
def oneCompleted : Srv DebugIp := { twoPushed with dev := twoPushed.dev.complete .h2t }

theorem step_complete (s : Srv DebugIp) : ServerStep echoDesign echoIp ⟨s, true⟩ .hardware
    ⟨{ s with dev := s.dev.complete .h2t }, true⟩ :=
  CallStep.hardware (s.dev.complete_suffix .h2t .h2t)

end DebugIp

/-- A loopback packet of eight bytes stays clear of the second packet, which starts behind it. -/
theorem loopback_stores_apart_behind :
    StoresApart DebugIp.echoIp DebugIp.oneCompleted (DebugIp.afterH2t DebugIp.oneCompleted) ∧
      DebugIp.echoIp.uncompleted DebugIp.oneCompleted.dev ≠ [] := by
  obtain ⟨hconn, h1, h2, hctrl, hmode, hsome, hne, hbehind⟩ :
      (DebugIp.packetConnected [8, 8, 8]).connected = true ∧
      (processH2tData debugIp DebugIp.echoDesign (DebugIp.packetConnected [8, 8, 8]).srv).isSome ∧
      (processH2tData debugIp DebugIp.echoDesign
        (DebugIp.afterH2t (DebugIp.packetConnected [8, 8, 8]).srv)).isSome ∧
      (processControlMessage debugIp DebugIp.echoDesign
        (DebugIp.afterH2t (DebugIp.afterH2t (DebugIp.packetConnected [8, 8, 8]).srv))).isSome ∧
      DebugIp.oneCompleted.conn.loopbackMode = true ∧
      (processH2tData debugIp DebugIp.echoDesign DebugIp.oneCompleted).isSome ∧
      DebugIp.echoIp.uncompleted DebugIp.oneCompleted.dev ≠ [] ∧
      ∀ x ∈ DebugIp.echoIp.uncompleted DebugIp.oneCompleted.dev,
        payloadCovers 0x2000 (nextH2tHeader DebugIp.oneCompleted).dataLenBytes.toNat
            (payloadStream DebugIp.oneCompleted) ≤ x.addr - 0x2000 ∧
          x.addr - 0x2000 + x.alignedLen ≤ 0x2000 := by
    decide +kernel
  have hpushed : Reach (ServerStep DebugIp.echoDesign DebugIp.echoIp) always
      ⟨DebugIp.listening (DebugIp.clientSockets 1 (DebugIp.packetClient [8, 8, 8])) [], false⟩
      ⟨DebugIp.twoPushed, true⟩ :=
    (((DebugIp.connect_run hconn fun _ => trivial).tail trivial (DebugIp.step_h2t h1)).tail trivial
      (DebugIp.step_h2t h2)).tail trivial (DebugIp.step_control hctrl)
  have hrun : Reach (ServerStep DebugIp.echoDesign DebugIp.echoIp) always
      ⟨DebugIp.listening (DebugIp.clientSockets 1 (DebugIp.packetClient [8, 8, 8])) [], false⟩
      ⟨DebugIp.oneCompleted, true⟩ :=
    hpushed.tail trivial (DebugIp.step_complete _)
  have happart : EchoApart DebugIp.echoIp DebugIp.oneCompleted :=
    fun _ x hx => Or.inr (Or.inr (hbehind x hx))
  have hinfo : DebugIp.echoDesign.info = getDesignInfo 0x2000 := rfl
  obtain ⟨x, hx⟩ := Option.isSome_iff_exists.mp hsome
  rw [DebugIp.afterH2t, hx]
  generalize DebugIp.oneCompleted = s at hrun hmode hx hne happart ⊢
  exact ⟨(loopback_stores_apart (by omega) (by omega) hinfo DebugIp.echoIp (DebugIp.echoIp_quiet _)
    hrun hmode hx).mpr happart, hne⟩

/-- A packet is pushed, the client switches to loopback mode, and the next packet is stored over the
first. -/
theorem loopback_stores_collide : ∃ s x,
    Reach (ServerStep DebugIp.echoDesign DebugIp.echoIp) always
      ⟨DebugIp.listening (DebugIp.clientSockets 1 (DebugIp.packetClient [8, 8])) [], false⟩
      ⟨s, true⟩ ∧
    s.conn.loopbackMode = true ∧ processH2tData debugIp DebugIp.echoDesign s = some x ∧
      ¬ StoresApart DebugIp.echoIp s x.2 := by
  obtain ⟨hconn, hsome, hctrl, hmode, hpushed, hstored⟩ :
      (DebugIp.packetConnected [8, 8]).connected = true ∧
      (processH2tData debugIp DebugIp.echoDesign (DebugIp.packetConnected [8, 8]).srv).isSome ∧
      (processControlMessage debugIp DebugIp.echoDesign
        (DebugIp.afterH2t (DebugIp.packetConnected [8, 8]).srv)).isSome ∧
      DebugIp.onePushed.conn.loopbackMode = true ∧
      (DebugIp.echoIp.uncompleted DebugIp.onePushed.dev).any
        (fun x => x.addr = 0x2000 ∧ x.alignedLen = 8) = true ∧
      (processH2tData debugIp DebugIp.echoDesign DebugIp.onePushed).any (fun x =>
        (x.2.log.drop DebugIp.onePushed.log.length).any
          (· = .store 0x2000 (List.replicate 8 0))) = true := by
    decide +kernel
  have hrun : Reach (ServerStep DebugIp.echoDesign DebugIp.echoIp) always
      ⟨DebugIp.listening (DebugIp.clientSockets 1 (DebugIp.packetClient [8, 8])) [], false⟩
      ⟨DebugIp.onePushed, true⟩ :=
    ((DebugIp.connect_run hconn fun _ => trivial).tail trivial (DebugIp.step_h2t hsome)).tail trivial
      (DebugIp.step_control hctrl)
  obtain ⟨x, hx, hlog⟩ := (Option.any_eq_true _ _).mp hstored
  generalize DebugIp.onePushed = s at hrun hmode hpushed hx hlog
  refine ⟨s, x, hrun, hmode, hx, fun hapart => ?_⟩
  obtain ⟨y, hy, hregion⟩ := List.any_eq_true.mp hpushed
  obtain ⟨haddr, hlen⟩ : y.addr = 0x2000 ∧ y.alignedLen = 8 := by simpa using hregion
  obtain ⟨e, he, heq⟩ := List.any_eq_true.mp hlog
  obtain rfl : e = .store 0x2000 (List.replicate 8 0) := by simpa using heq
  have hbase : DebugIp.echoDesign.info.h2tMemBaseAddr = 0x2000 := rfl
  -- the first byte of the region is the first byte of the payload
  have hcell : 0 ∈ (y.region DebugIp.echoDesign.info.h2tMemBaseAddr).cells
      DebugIp.echoDesign.info.h2tMemSz := by
    refine ⟨0, ?_, ?_⟩
    · show 0 < y.alignedLen
      omega
    · show 0 = (y.addr - DebugIp.echoDesign.info.h2tMemBaseAddr + 0) % _
      rw [haddr, hbase, Nat.sub_self, Nat.zero_mod]
  exact hapart y hy 0 hcell _ _ he (by rw [hbase, List.length_replicate]; decide)

end RemoteDebug
