import RemoteDebug.Hardware.DispatchRun
import RemoteDebug.Proofs.EchoBytesProofs
import RemoteDebug.Proofs.HeldProofs
import RemoteDebug.Proofs.T2hStreamProofs

/-!
# Proofs: where H2T packets go

Each packet of the H2T stream is let go once. What decides about its way is the mode in which this happens,
not the one in which its header was received.
-/

namespace RemoteDebug

open Bytes CString Script Runs

variable {D : Type} {io : Mmio D} {cfg : Config} {ip : ChannelIp io cfg.info .h2t} {s s' s'' : Srv D}
  {packets done rest : List H2tPacket} {p : H2tPacket} {modes : List Bool}

/-! ## The H2T socket of the client -/

/-- Only `process_h2t_data` receives from the H2T socket in a session. -/
theorem h2tRx_step {a : ServerAction} (hne : a ≠ .h2t)
    (hstep : ServerStep cfg ip ⟨s, true⟩ a ⟨s', true⟩) :
    (s'.client .h2tData).rx = (s.client .h2tData).rx := by
  cases hstep with
  | select s selects => rfl
  | reject s => exact (unused_rejectClient io .h2tData s).rx
  | control hcall => exact (unused_control (by decide) hcall).rx
  | mgmt hcall => exact (unused_mgmt (by decide) (by decide) hcall).rx
  | h2t hcall => exact absurd rfl hne
  | mgmtRsp hmode => exact (unused_mgmtRsp (by decide) s).rx
  | t2h hmode => exact (unused_t2h (by decide) s).rx
  | hardware hmay => rfl

/-! ## Packets that have been let go -/

theorem letGo_append (mode mode' : Bool) (hcount : done.length = modes.length) :
    letGo mode (done ++ [p]) (modes ++ [mode']) =
      letGo mode done modes ++ if mode' = mode then [p] else [] := by
  unfold letGo
  rw [List.zip_append hcount, List.filter_append, List.map_append]
  congr 1
  by_cases h : mode' = mode
  · simp [h]
  · simp [h]

/-- What the next call finds: the header and the payload of the next packet. -/
theorem ToCome.next (h : ToCome (p :: rest) s) :
    HeaderArrives s ∧ nextHeaderBytes s = p.head.bytes ∧
      pending (payloadStream s) = p.payload ++ stream rest ∧
      (Flowing (s.client .h2tData).rx → Flowing (payloadStream s)) := by
  unfold ToCome at h
  unfold nextHeaderBytes payloadStream HeaderArrives
  by_cases hwait : s.conn.h2tWaiting = true
  · rw [if_pos hwait] at h
    obtain ⟨q, rest', heq, hhead, hpend⟩ := h
    obtain ⟨rfl, rfl⟩ := List.cons.inj heq
    rw [if_pos hwait, if_pos hwait]
    exact ⟨.inl hwait, congrArg Buff.bytes hhead, hpend, id⟩
  · rw [if_neg hwait, stream_cons] at h
    have hsize := p.head.size
    have hlen : 10 ≤ (pending (s.client .h2tData).rx).length := by
      rw [h, List.length_append]
      omega
    obtain ⟨rx', hrec, hpend, hflow⟩ := socketRecvAccumulate_ok hlen
    rw [if_neg hwait, if_neg hwait, hrec]
    refine ⟨.inr hlen, ?_, ?_, hflow⟩
    · rw [h, List.take_append_of_le_length hsize.ge, List.take_of_length_le hsize.le]
    · show pending rx' = _
      rw [hpend, h, List.drop_append_of_le_length hsize.ge, List.drop_of_length_le hsize.le,
        List.nil_append]

/-- Sending the echo leaves all but the T2H socket as it is. -/
theorem pushOrLoopbackH2t_echo (header : H2tPacketHeader) (buff : Nat)
    (hmode : s.conn.loopbackMode = true) :
    SendFrame .t2hData s (pushOrLoopbackH2t io header buff s).2 ∧
      ip.Proceeds s.dev (pushOrLoopbackH2t io header buff s).2.dev := by
  have hhead : Changes io {.read, .staging, .send .t2hData} s _ :=
    (changes_sendAll .t2hData s.conn.h2tHeaderBuff.bytes s).mono (by simp)
  have hecho := hhead.ite
    (changes_socketSendAllT2hData io .t2hData buff header.dataLenBytes.toNat _)
  unfold pushOrLoopbackH2t
  rw [if_neg (by rw [hmode]; decide)]
  refine ⟨(frames_send io .t2hData).changes hecho le_rfl, ?_⟩
  dsimp only
  split
  · exact socketSendAllT2hData_proceeds ip buff _ _
  · exact ChannelIp.Proceeds.refl ip _

/-- In `s'` the packet `p` that `s` has found is in the window, about to be sent back. -/
structure EchoReady (ip : ChannelIp io cfg.info .h2t) (p : H2tPacket) (rest : List H2tPacket)
    (s s' : Srv D) : Prop where
  mode : s'.conn.loopbackMode = true
  notWaiting : s'.conn.h2tWaiting = false
  quiet : T2hQuiet s s'
  drv : s'.drv = s.drv
  proceeds : ip.Proceeds s.dev s'.dev
  pending : pending (s'.client .h2tData).rx = stream rest
  flowing : Flowing (s'.client .h2tData).rx
  sends : Sends p.bytes s' (pushOrLoopbackH2t io p.header cfg.info.h2tMemBaseAddr s')

/-- In loopback mode the next packet is received whole, whether its header was held back or not. -/
theorem ToCome.echo (hok : WindowOk cfg.info .h2t) (wm : WindowMemory io cfg.info)
    (hfit : p.payload.length ≤ cfg.info.h2tMemSz) (hmode : s.conn.loopbackMode = true)
    (h : ToCome (p :: rest) s) (hflow : Flowing (s.client .h2tData).rx) :
    ∃ s', EchoReady ip p rest s s' ∧ processH2tData io cfg s =
      some (pushOrLoopbackH2t io p.header cfg.info.h2tMemBaseAddr s') := by
  have hbase : cfg.info.h2tMemBaseAddr ≠ 0 := hok.base_pos.ne'
  have hpos : 0 < cfg.info.h2tMemSz := hok.span_pos
  have h32 : cfg.info.h2tMemBaseAddr + cfg.info.h2tMemSz ≤ 2 ^ 32 := hok.fits
  obtain ⟨harr, hbytes, hpend, hflow'⟩ := h.next
  obtain ⟨s₁, hhead, hlog, -, hrx, hmode₁⟩ := updateCurrH2tHeader_arrives harr
  have hdevice := updateCurrH2tHeader_device s
  have hquiet : T2hQuiet s (updateCurrH2tHeader s).2 :=
    (frames_quiet io).changes (changes_updateCurrH2tHeader s)
      (by simp [t2hSocketParts, Set.insert_subset_iff])
  have hbuff := (updateCurrH2tHeader_bytes harr).trans hbytes
  rw [hhead] at hdevice hquiet hbuff
  have hheader : headerOf s₁.conn.h2tHeaderBuff = p.header := by
    unfold H2tPacket.header
    congr 1
    ext1
    exact hbuff
  have hlen : p.payload.length = p.header.dataLenBytes.toNat := p.len_eq
  have h16 := p.header.dataLenBytes.toNat_lt
  have hthere : p.header.dataLenBytes.toNat ≤
      (Script.pending ((s₁.setH2tWaiting false).client .h2tData).rx).length := by
    rw [Srv.setH2tWaiting_client, hrx, hpend, List.length_append, hlen]
    exact Nat.le_add_right _ _
  have hrecv : Received ip p.header.dataLenBytes.toNat (s₁.setH2tWaiting false)
      (recvH2tPayload io cfg cfg.info.h2tMemBaseAddr p.header.dataLenBytes.toNat
        (s₁.setH2tWaiting false)).2 :=
    recvH2tPayload_received hok hthere h16 le_rfl (Nat.lt_add_of_pos_right hpos) (hlen ▸ hfit)
  have hback := recvH2tPayload_read_back wm (by omega) hthere h16 (hlen ▸ hfit)
  have hframe := recvH2tPayload_frame io cfg cfg.info.h2tMemBaseAddr p.header.dataLenBytes.toNat
    (s₁.setH2tWaiting false)
  have hquiet' := (frames_quiet io).changes (changes_recvH2tPayload cfg cfg.info.h2tMemBaseAddr
    p.header.dataLenBytes.toNat (s₁.setH2tWaiting false)) (by simp [t2hSocketParts, Set.insert_subset_iff])
  have hcall : processH2tData io cfg s = some (pushOrLoopbackH2t io p.header cfg.info.h2tMemBaseAddr
      (recvH2tPayload io cfg cfg.info.h2tMemBaseAddr p.header.dataLenBytes.toNat
        (s₁.setH2tWaiting false)).2) := by
    have hloop : ¬ s₁.conn.loopbackMode = false := by
      rw [hmode₁, hmode]
      decide
    unfold processH2tData pollH2tBuffer
    rw [hhead]
    dsimp only
    rw [if_pos rfl, if_neg hloop, Option.map_some, hheader]
    dsimp only
    rw [if_pos hbase, recvH2tPayload_ok, if_pos rfl]
  refine ⟨_, ?_, hcall⟩
  generalize (recvH2tPayload io cfg cfg.info.h2tMemBaseAddr p.header.dataLenBytes.toNat
    (s₁.setH2tWaiting false)).2 = s₂ at hrecv hback hframe hquiet' ⊢
  have hmode₂ : s₂.conn.loopbackMode = true := by
    rw [hframe.conn]
    exact hmode₁.trans hmode
  have hsends := pushOrLoopbackH2t_sends io p.header cfg.info.h2tMemBaseAddr hmode₂
  have hpayload : (Script.pending ((s₁.setH2tWaiting false).client .h2tData).rx).take
      p.header.dataLenBytes.toNat = p.payload := by
    rw [Srv.setH2tWaiting_client, hrx, hpend, List.take_append_of_le_length hlen.ge,
      List.take_of_length_le hlen.le]
  rw [hback, hpayload, hframe.conn] at hsends
  have hbytes₂ : (s₁.setH2tWaiting false).conn.h2tHeaderBuff.bytes = p.head.bytes := hbuff
  rw [hbytes₂] at hsends
  refine ⟨hmode₂, ?_, ?_, hframe.drv.trans hdevice.1, ?_, ?_, ?_, hsends⟩
  · rw [hframe.conn]
    rfl
  · have hwaits : T2hQuiet s (s₁.setH2tWaiting false) := ⟨hquiet.bytes, hquiet.tx⟩
    exact hwaits.trans hquiet'
  · have hdev : s₁.dev = s.dev := hdevice.2
    rw [← hdev]
    exact hrecv.proceeds
  · rw [hrecv.pending, Srv.setH2tWaiting_client, hrx, hpend,
      List.drop_append_of_le_length hlen.ge, List.drop_of_length_le hlen.le, List.nil_append]
  · refine hrecv.flowing ?_
    rw [Srv.setH2tWaiting_client, hrx]
    exact hflow' hflow

/-! ## Calls -/

/-- A successful call in normal mode pushes the next packet or makes it wait. -/
theorem Delivery.called (hok : WindowOk cfg.info .h2t) {before : List Descriptor}
    (h : Delivery ip before done rest s) (hcall : processH2tData io cfg s = some (.ok, s')) :
    (s'.conn.h2tWaiting = true ∧ Delivery ip before done rest s') ∨
      (s'.conn.h2tWaiting = false ∧
        ∃ p rest', rest = p :: rest' ∧ Delivery ip before (done ++ [p]) rest' s') := by
  rcases h.header with ⟨s₁, hhead, p, rest', rfl, hheld⟩ | ⟨s₁, hhead, rfl, -⟩
  · obtain ⟨buff, s₂, hpoll, hcases⟩ := hheld.poll
    have hheader : headerOf s₁.conn.h2tHeaderBuff = p.header := by
      rw [hheld.head]
      rfl
    rw [← hheader] at hpoll
    unfold processH2tData at hcall
    rw [hhead] at hcall
    dsimp only at hcall
    rw [if_pos rfl, hpoll, Option.map_some, hheader] at hcall
    have heq := Option.some.inj hcall
    dsimp only at heq
    rcases hcases with ⟨rfl, hheld₂⟩ | ⟨hne, hbuff⟩
    · rw [if_neg (by simp)] at heq
      obtain rfl := (Prod.mk.inj heq).2
      refine .inl ⟨rfl, ⟨hheld₂.normal, hheld₂.ring, hheld₂.flowing, hheld₂.committed⟩, ?_⟩
      exact ⟨p, rest', rfl, hheld₂.head, hheld₂.pending⟩
    · obtain ⟨s₃, hpush, hdel⟩ := hbuff.push hok
      rw [if_pos hne, recvH2tPayload_ok, if_pos rfl] at heq
      have hconn := pushOrLoopbackH2t_conn io p.header buff
        (recvH2tPayload io cfg buff p.header.dataLenBytes.toNat (s₂.setH2tWaiting false)).2
      rw [(recvH2tPayload_frame io cfg buff _ _).conn, heq] at hconn
      rw [hpush] at heq
      obtain rfl := (Prod.mk.inj heq).2
      refine .inr ⟨?_, p, rest', rfl, hdel⟩
      rw [hconn]
      rfl
  · unfold processH2tData at hcall
    rw [hhead] at hcall
    cases hcall

/-- Without a next packet the call fails. -/
theorem ToCome.fails (h : ToCome [] s) : ∃ s', processH2tData io cfg s = some (.failure, s') := by
  have harr : ¬ HeaderArrives s := by
    unfold ToCome at h
    intro harr
    by_cases hwait : s.conn.h2tWaiting = true
    · rw [if_pos hwait] at h
      obtain ⟨p, rest, heq, -⟩ := h
      cases heq
    · rw [if_neg hwait] at h
      have hlen := harr.resolve_left hwait
      rw [h] at hlen
      cases hlen
  obtain ⟨s', hhead, -⟩ := updateCurrH2tHeader_fails harr
  refine ⟨s', ?_⟩
  unfold processH2tData
  rw [hhead]
  rfl

/-! ## Runs -/

/-- The packets `done` have been let go in the modes `modes`: those of the normal mode have been pushed on
top of the descriptors `before`, and the others have been sent back. -/
structure DispatchInv (ip : ChannelIp io cfg.info .h2t) (before : List Descriptor)
    (done rest : List H2tPacket) (st : DispatchState D) : Prop where
  count : done.length = st.modes.length
  ring : ∃ live lost, RingInv cfg.info ip.toQueueIp st.srv.drv.h2t st.srv.dev live lost
  flowing : Flowing (st.srv.client .h2tData).rx
  committed : ∃ descs, ip.committed st.srv.dev = before ++ descs ∧
    List.Forall₂ Carries (letGo false done st.modes) descs
  echoed : st.echoed = stream (letGo true done st.modes)
  toCome : ToCome rest st.srv

variable {before : List Descriptor} {st st' : DispatchState D}

theorem called_echoed {bs : List UInt8} (h : t2hBytes s'.log = t2hBytes st.srv.log ++ bs) :
    (st.called s').echoed = st.echoed ++ bs := by
  unfold DispatchState.called
  dsimp only
  rw [h, List.drop_left]

theorem called_modes (h : s'.conn.h2tWaiting = false) :
    (st.called s').modes = st.modes ++ [st.srv.conn.loopbackMode] := by
  unfold DispatchState.called
  rw [h]
  rfl

/-- What has gone out with a packet that is sent back. -/
theorem Sends.t2hBytes {x : ReturnCode × Srv D} {bs : List UInt8} (h : Sends bs s x) (hok : x.1 = .ok) :
    t2hBytes x.2.log = t2hBytes s.log ++ bs := by
  unfold RemoteDebug.t2hBytes
  rw [h.wire_ok hok, List.reduceOption_append, reduceOption_some]

theorem DispatchInv.normal (h : DispatchInv ip before done rest st)
    (hmode : st.srv.conn.loopbackMode = false) :
    Delivery ip before (letGo false done st.modes) rest st.srv :=
  ⟨⟨hmode, h.ring, h.flowing, h.committed⟩, h.toCome⟩

/-- **A successful call of `process_h2t_data`** lets at most the next packet go. -/
theorem DispatchInv.h2t (hok : WindowOk cfg.info .h2t) (wm : WindowMemory io cfg.info)
    (h : DispatchInv ip before done rest st) (hfit : ∀ p ∈ rest, p.payload.length ≤ cfg.info.h2tMemSz)
    (hcall : processH2tData io cfg st.srv = some (.ok, s')) :
    ∃ now rest', rest = now ++ rest' ∧ DispatchInv ip before (done ++ now) rest' (st.called s') := by
  by_cases hmode : st.srv.conn.loopbackMode = false
  · have hquiet : t2hBytes s'.log = t2hBytes st.srv.log ++ [] := by
      rw [List.append_nil]
      exact congrArg List.reduceOption (processH2tData_t2h hmode hcall).wire
    have hechoed := called_echoed hquiet
    rw [List.append_nil, h.echoed] at hechoed
    rcases (h.normal hmode).called hok hcall with ⟨hwait, hdel⟩ | ⟨hwait, p, rest', rfl, hdel⟩
    · have hmodes : (st.called s').modes = st.modes := by
        unfold DispatchState.called
        rw [hwait]
        rfl
      refine ⟨[], rest, rfl, ?_⟩
      rw [List.append_nil]
      constructor
      · rw [hmodes]
        exact h.count
      · exact hdel.ring
      · exact hdel.flowing
      · rw [hmodes]
        exact hdel.committed
      · rw [hmodes]
        exact hechoed
      · exact hdel.toCome
    · have hmodes : (st.called s').modes = st.modes ++ [st.srv.conn.loopbackMode] := called_modes hwait
      rw [hmode] at hmodes
      refine ⟨[p], rest', rfl, ?_⟩
      constructor
      · rw [hmodes, List.length_append, List.length_append, h.count]
        rfl
      · exact hdel.ring
      · exact hdel.flowing
      · rw [hmodes, letGo_append _ _ h.count]
        exact hdel.committed
      · rw [hmodes, letGo_append _ _ h.count, hechoed, if_neg (by decide), List.append_nil]
      · exact hdel.toCome
  · have hloop : st.srv.conn.loopbackMode = true := by simpa using hmode
    have hto := h.toCome
    cases rest with
    | nil =>
      obtain ⟨s'', hfails⟩ := hto.fails
      rw [hfails] at hcall
      cases hcall
    | cons p rest' =>
      obtain ⟨s₁, hready, heq⟩ : ∃ s₁, EchoReady ip p rest' st.srv s₁ ∧ processH2tData io cfg st.srv =
          some (pushOrLoopbackH2t io p.header cfg.info.h2tMemBaseAddr s₁) :=
        hto.echo hok wm (hfit p List.mem_cons_self) hloop h.flowing
      have hx := Option.some.inj (heq.symm.trans hcall)
      obtain ⟨hframe, hproc⟩ : SendFrame .t2hData s₁
            (pushOrLoopbackH2t io p.header cfg.info.h2tMemBaseAddr s₁).2 ∧
          ip.Proceeds s₁.dev (pushOrLoopbackH2t io p.header cfg.info.h2tMemBaseAddr s₁).2.dev :=
        pushOrLoopbackH2t_echo p.header cfg.info.h2tMemBaseAddr hready.mode
      have hsent := hready.sends.t2hBytes (congrArg Prod.fst hx)
      rw [hx] at hframe hproc hsent
      rw [hready.quiet.bytes] at hsent
      have hechoed := called_echoed hsent
      have hwait : s'.conn.h2tWaiting = false := by
        rw [hframe.conn]
        exact hready.notWaiting
      have hmodes : (st.called s').modes = st.modes ++ [st.srv.conn.loopbackMode] := called_modes hwait
      rw [hloop] at hmodes
      have hproc' := hready.proceeds.trans hproc
      have hclient := hframe.client .h2tData (by decide)
      obtain ⟨live, lost, hring⟩ := h.ring
      obtain ⟨descs, hcom, hall⟩ := h.committed
      refine ⟨[p], rest', rfl, ?_⟩
      constructor
      · rw [hmodes, List.length_append, List.length_append, h.count]
        rfl
      · refine ⟨live, lost, ?_⟩
        have hdrv : s'.drv.h2t = st.srv.drv.h2t := by rw [hframe.drv, hready.drv]
        show RingInv cfg.info ip.toQueueIp s'.drv.h2t s'.dev live lost
        rw [hdrv]
        exact hring.proceeds hproc'.1
      · show Flowing (s'.client .h2tData).rx
        rw [hclient]
        exact hready.flowing
      · refine ⟨descs, hproc'.2.trans hcom, ?_⟩
        rw [hmodes, letGo_append _ _ h.count, if_neg (by decide), List.append_nil]
        exact hall
      · rw [hechoed, hmodes, letGo_append _ _ h.count, if_pos rfl, h.echoed]
        unfold stream
        rw [List.flatMap_append, List.flatMap_singleton]
      · unfold ToCome
        show if s'.conn.h2tWaiting then _ else pending (s'.client .h2tData).rx = stream rest'
        rw [hwait, hclient]
        exact hready.pending

/-- Everything else that happens leaves the stream where it is. -/
theorem DispatchInv.other {a : ServerAction} (h : DispatchInv ip before done rest st) (hne : a ≠ .h2t)
    (hstep : ServerStep cfg ip ⟨st.srv, true⟩ a ⟨s', true⟩) :
    DispatchInv ip before done rest { st with srv := s' } := by
  have hrx := h2tRx_step hne hstep
  have hheld := (held_step hstep).1 hne
  obtain ⟨hring, hproc⟩ := step_ring rfl hne hstep
  obtain ⟨live, lost, hinv⟩ := h.ring
  obtain ⟨descs, hcom, hall⟩ := h.committed
  refine ⟨h.count, ⟨live, lost, ?_⟩, ?_, ⟨descs, hproc.2.trans hcom, hall⟩, h.echoed, ?_⟩
  · show RingInv cfg.info ip.toQueueIp s'.drv.h2t s'.dev live lost
    have hring' : s'.drv.h2t = st.srv.drv.h2t := hring
    rw [hring']
    exact hinv.proceeds hproc.1
  · show Flowing (s'.client .h2tData).rx
    rw [hrx]
    exact h.flowing
  · have hto := h.toCome
    have hwait : s'.conn.h2tWaiting = st.srv.conn.h2tWaiting := hheld.waiting
    have hbuff : s'.conn.h2tHeaderBuff = st.srv.conn.h2tHeaderBuff := hheld.buff
    unfold ToCome at hto ⊢
    dsimp only
    rw [hrx, hwait, hbuff]
    exact hto

theorem SessionStart.dispatchInv (hok : WindowOk cfg.info .h2t) (h : SessionStart io cfg packets s) :
    DispatchInv ip (ip.committed (ServerState.connect io cfg s).srv.dev) [] packets
      ⟨(ServerState.connect io cfg s).srv, [], []⟩ := by
  have hstep : ServerStep cfg ip ⟨s, false⟩ .connect (.connect io cfg s) := .connect s
  have hwait := ((held_step hstep).1 (by decide)).waiting.trans h.notWaiting
  have hfresh : RingWith ip 0 (ServerState.connect io cfg s).srv := ringWith_connect hok h.connected
  obtain ⟨live, lost, hring, -⟩ := hfresh
  refine ⟨rfl, ⟨live, lost, hring⟩, h.flowing, ⟨[], (List.append_nil _).symm, .nil⟩, rfl, ?_⟩
  unfold ToCome
  dsimp only
  rw [hwait, if_neg Bool.false_ne_true]
  exact h.pending

/-- What the next call of `process_h2t_data` does: it returns, and only fails when the stream is used up or
a packet that is sent back is cut off. -/
theorem DispatchInv.next (hok : WindowOk cfg.info .h2t) (wm : WindowMemory io cfg.info)
    (h : DispatchInv ip before done rest st) (hfit : ∀ p ∈ rest, p.payload.length ≤ cfg.info.h2tMemSz) :
    ∃ rc s', processH2tData io cfg st.srv = some (rc, s') ∧ (rc = .ok ∨ rest = [] ∨
      ∃ p rest' sent, rest = p :: rest' ∧ st.srv.conn.loopbackMode = true ∧ sent <+: p.bytes ∧
        sent ≠ p.bytes ∧ t2hBytes s'.log = t2hBytes st.srv.log ++ sent) := by
  by_cases hmode : st.srv.conn.loopbackMode = false
  · obtain ⟨rc, s', hcall, hfail, -⟩ := (h.normal hmode).process hok
    refine ⟨rc, s', hcall, ?_⟩
    by_cases hrc : rc = .ok
    · exact .inl hrc
    · exact .inr (.inl (hfail hrc))
  · have hloop : st.srv.conn.loopbackMode = true := by simpa using hmode
    cases rest with
    | nil =>
      obtain ⟨s', hcall⟩ : ∃ s', processH2tData io cfg st.srv = some (.failure, s') := h.toCome.fails
      exact ⟨.failure, s', hcall, .inr (.inl rfl)⟩
    | cons p rest' =>
      obtain ⟨s₁, hready, hcall⟩ : ∃ s₁, EchoReady ip p rest' st.srv s₁ ∧
          processH2tData io cfg st.srv =
            some (pushOrLoopbackH2t io p.header cfg.info.h2tMemBaseAddr s₁) :=
        h.toCome.echo hok wm (hfit p List.mem_cons_self) hloop h.flowing
      obtain ⟨⟨rc, s'⟩, hx⟩ :
          ∃ x, pushOrLoopbackH2t io p.header cfg.info.h2tMemBaseAddr s₁ = x := ⟨_, rfl⟩
      have houtcome := hready.sends.outcome
      rw [hx] at hcall houtcome
      refine ⟨rc, s', hcall, ?_⟩
      rcases houtcome with ⟨hrc, -⟩ | ⟨-, sent, hpre, hne, hwire⟩
      · exact .inl hrc
      · refine .inr (.inr ⟨p, rest', sent, rfl, hloop, hpre, hne, ?_⟩)
        rw [← hready.quiet.bytes]
        unfold t2hBytes
        rw [hwire, List.reduceOption_append, reduceOption_some]

/-- What a run has done with the packets of its stream. -/
theorem SessionStart.run (hok : WindowOk cfg.info .h2t) (wm : WindowMemory io cfg.info)
    (hstart : SessionStart io cfg packets s)
    (hfit : ∀ p ∈ packets, p.payload.length ≤ cfg.info.h2tMemSz)
    (hrun : Reach (DispatchStep cfg ip) always ⟨(ServerState.connect io cfg s).srv, [], []⟩ st) :
    ∃ done rest, packets = done ++ rest ∧
      DispatchInv ip (ip.committed (ServerState.connect io cfg s).srv.dev) done rest st := by
  obtain ⟨before, hbefore⟩ :
      ∃ before, ip.committed (ServerState.connect io cfg s).srv.dev = before := ⟨_, rfl⟩
  have hinit : DispatchInv ip before [] packets ⟨(ServerState.connect io cfg s).srv, [], []⟩ :=
    hbefore ▸ hstart.dispatchInv hok
  rw [hbefore]
  refine hrun.invariant (fun st => ∃ done rest, packets = done ++ rest ∧
    DispatchInv ip before done rest st) ?_ ⟨[], packets, rfl, hinit⟩
  rintro st a st' ⟨done, rest, rfl, hinv⟩ - hstep
  cases hstep with
  | h2t hcall =>
    obtain ⟨now, rest', rfl, hinv'⟩ :=
      hinv.h2t hok wm (fun p hp => hfit p (List.mem_append_right _ hp)) hcall
    exact ⟨done ++ now, rest', (List.append_assoc _ _ _).symm, hinv'⟩
  | other hne hstep => exact ⟨done, rest, rfl, hinv.other hne hstep⟩

/-- **Dispatch of the H2T stream**: whatever else happens in the session, each packet is let go once and in
the order of the stream. The packets that were let go in normal mode have been pushed, those that were let go
in loopback mode have been sent back as they were, and nothing else has been pushed or sent by these
calls. -/
theorem h2t_dispatch (ip : ChannelIp io cfg.info .h2t) (hok : WindowOk cfg.info .h2t)
    (wm : WindowMemory io cfg.info) (packets : List H2tPacket)
    (hfit : ∀ p ∈ packets, p.payload.length ≤ cfg.info.h2tMemSz) (hstart : SessionStart io cfg packets s)
    (hrun : Reach (DispatchStep cfg ip) always ⟨(ServerState.connect io cfg s).srv, [], []⟩ st) :
    ∃ done rest, packets = done ++ rest ∧ done.length = st.modes.length ∧
      (∃ descs, ip.committed st.srv.dev =
          ip.committed (ServerState.connect io cfg s).srv.dev ++ descs ∧
        List.Forall₂ Carries (letGo false done st.modes) descs) ∧
      st.echoed = stream (letGo true done st.modes) ∧
      ∃ rc s', processH2tData io cfg st.srv = some (rc, s') ∧ (rc = .ok ∨ rest = [] ∨
        ∃ p rest' sent, rest = p :: rest' ∧ st.srv.conn.loopbackMode = true ∧ sent <+: p.bytes ∧
          sent ≠ p.bytes ∧ t2hBytes s'.log = t2hBytes st.srv.log ++ sent) := by
  obtain ⟨done, rest, rfl, hinv⟩ := hstart.run hok wm hfit hrun
  refine ⟨done, rest, rfl, hinv.count, hinv.committed, hinv.echoed, ?_⟩
  exact hinv.next hok wm fun p hp => hfit p (List.mem_append_right _ hp)

namespace DebugIp

/-- A client that sends the two packets, and asks for loopback mode. -/
def switchingClient : Sock → List RecvEvent
  | .ctrl => [.data (ascii "SET_PARAM SERVER_LOOPBACK 1" ++ [0])]
  | .h2tData => [.data ((stream twoPackets).take 7), .data ((stream twoPackets).drop 7)]
  | _ => []

/-- The server as it enters `server_main` with this client. -/
def switchingServer : Srv DebugIp := listening (clientSockets 1 switchingClient) []

/-- The session behind a call of `process_h2t_data`. -/
def dispatched (st : DispatchState DebugIp) : DispatchState DebugIp := st.called (afterH2t st.srv)

/-- The mode is switched between the two packets. -/
def switched : DispatchState DebugIp :=
  let st := dispatched ⟨(ServerState.connect debugIp echoDesign switchingServer).srv, [], []⟩
  dispatched { st with srv := afterControl st.srv }

theorem dispatched_step {st : DispatchState DebugIp}
    (h : (processH2tData debugIp echoDesign st.srv).any (fun x => x.1 = .ok) = true) :
    DispatchStep echoDesign echoIp st .h2t (dispatched st) := by
  obtain ⟨⟨rc, s'⟩, hcall, hrc⟩ := (Option.any_eq_true _ _).mp h
  obtain rfl : rc = .ok := by simpa using hrc
  unfold dispatched afterH2t
  rw [hcall]
  exact .h2t hcall

end DebugIp

/-- The run of this session. -/
theorem DebugIp.switched_run :
    SessionStart debugIp DebugIp.echoDesign twoPackets DebugIp.switchingServer ∧
      Reach (DispatchStep DebugIp.echoDesign DebugIp.echoIp) always
        ⟨(ServerState.connect debugIp DebugIp.echoDesign DebugIp.switchingServer).srv, [], []⟩
        DebugIp.switched ∧
      (ServerState.connect debugIp DebugIp.echoDesign DebugIp.switchingServer).srv.dev.pushed .h2t = [] ∧
      DebugIp.switched.modes = [false, true] := by
  obtain ⟨start, hstart⟩ : ∃ start : DispatchState DebugIp, start =
      ⟨(ServerState.connect debugIp DebugIp.echoDesign DebugIp.switchingServer).srv, [], []⟩ := ⟨_, rfl⟩
  obtain ⟨hconn, hrx, hpushed, h1, hctrl, h2, hmodes⟩ :
      (ServerState.connect debugIp DebugIp.echoDesign DebugIp.switchingServer).connected = true ∧
      (start.srv.client .h2tData).rx = DebugIp.switchingClient .h2tData ∧
      start.srv.dev.pushed .h2t = [] ∧
      (processH2tData debugIp DebugIp.echoDesign start.srv).any (fun x => x.1 = .ok) = true ∧
      (processControlMessage debugIp DebugIp.echoDesign (DebugIp.dispatched start).srv).isSome ∧
      (processH2tData debugIp DebugIp.echoDesign
        (DebugIp.afterControl (DebugIp.dispatched start).srv)).any (fun x => x.1 = .ok) = true ∧
      DebugIp.switched.modes = [false, true] := by
    subst hstart
    decide +kernel
  have hsession : SessionStart debugIp DebugIp.echoDesign twoPackets DebugIp.switchingServer := by
    rw [hstart] at hrx
    refine ⟨hconn, rfl, ?_, ?_⟩
    · rw [hrx]
      exact flowing_pieces (l := [(stream twoPackets).take 7, (stream twoPackets).drop 7]) (by decide)
    · rw [hrx]
      decide
  have hrun : Reach (DispatchStep DebugIp.echoDesign DebugIp.echoIp) always start DebugIp.switched := by
    have hswitch := DebugIp.step_control hctrl
    have hlast : DebugIp.switched = DebugIp.dispatched { DebugIp.dispatched start with
        srv := DebugIp.afterControl (DebugIp.dispatched start).srv } := by
      rw [hstart]
      rfl
    rw [hlast]
    exact ((Reach.refl.tail trivial (DebugIp.dispatched_step h1)).tail trivial
      (.other (by decide) hswitch)).tail trivial (DebugIp.dispatched_step h2)
  rw [hstart] at hrun hpushed
  dsimp only at hpushed
  exact ⟨hsession, hrun, hpushed, hmodes⟩

theorem DebugIp.echoDesign_ok : WindowOk DebugIp.echoDesign.info .h2t := by
  constructor <;> decide

/-- The first of two packets is pushed and the second one sent back. -/
theorem h2t_dispatch_two : List.Forall₂ Carries (twoPackets.take 1) (DebugIp.switched.srv.dev.pushed .h2t) ∧
    DebugIp.switched.echoed = stream (twoPackets.drop 1) := by
  obtain ⟨hsession, hrun, hpushed, hmodes⟩ := DebugIp.switched_run
  obtain ⟨done, rest, hsplit, hcount, ⟨descs, hcom, hall⟩, hechoed, -⟩ :=
    h2t_dispatch DebugIp.echoIp DebugIp.echoDesign_ok DebugIp.echoMemory.toWindowMemory twoPackets
      (by decide) hsession hrun
  rw [hmodes] at hcount hall hechoed
  obtain rfl : done = twoPackets := by
    have hprefix : done <+: twoPackets := ⟨rest, hsplit.symm⟩
    exact hprefix.eq_of_length hcount
  generalize DebugIp.switched = fin at hcom hechoed ⊢
  generalize ServerState.connect debugIp DebugIp.echoDesign DebugIp.switchingServer = first
    at hcom hpushed
  have hdescs : fin.srv.dev.pushed .h2t = descs := hcom.trans (congrArg (· ++ descs) hpushed)
  exact ⟨hdescs ▸ hall, hechoed⟩

end RemoteDebug
