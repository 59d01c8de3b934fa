import RemoteDebug.Server.Data
import RemoteDebug.Proofs.SocketProofs
import RemoteDebug.Proofs.ChannelProofs
import RemoteDebug.Hardware.DebugSession

/-!
# Receiving a packet

What the reception of a payload can change (`RecvFrame`), what it leaves of the stream and of the
hardware (`Received`), and when the result of a failed reception is noticed.
-/

namespace RemoteDebug

open Bytes Script

variable {D : Type} {io : Mmio D} {cfg : Config} {s s' s'' : Srv D}

/-- The reception of payload from the H2T socket leaves the connection flags and buffers, the driver
and the other sockets as they are, and only records stores. -/
structure RecvFrame (s s' : Srv D) : Prop where
  conn : s'.conn = s.conn
  drv : s'.drv = s.drv
  client : ∀ sock, sock ≠ .h2tData → s'.client sock = s.client sock
  sendBuff : s'.sendBuff = s.sendBuff
  log : ∃ evs, s'.log = s.log ++ evs ∧ ∀ e ∈ evs, ∃ addr bs, e = .store addr bs

theorem RecvFrame.trans (h : RecvFrame s s') (h' : RecvFrame s' s'') : RecvFrame s s'' := by
  obtain ⟨evs, hl, he⟩ := h.log
  obtain ⟨evs', hl', he'⟩ := h'.log
  refine ⟨h'.conn.trans h.conn, h'.drv.trans h.drv,
    fun sock hs => (h'.client sock hs).trans (h.client sock hs), h'.sendBuff.trans h.sendBuff,
    evs ++ evs', by rw [hl', hl, List.append_assoc], fun e hmem => ?_⟩
  rcases List.mem_append.mp hmem with hmem | hmem
  · exact he e hmem
  · exact he' e hmem

theorem socketRecvAccumulateH2tData_frame (io : Mmio D) (buff len : Nat) (s : Srv D) :
    RecvFrame s (socketRecvAccumulateH2tData io .h2tData buff len s).2 := by
  have hclient : ∀ sock, sock ≠ .h2tData → (s.recvAccumulate .h2tData len).2.2.client sock
      = s.client sock := fun sock hs => Function.update_of_ne hs _ _
  simp only [socketRecvAccumulateH2tData]
  split
  · exact ⟨rfl, rfl, hclient, rfl, _, rfl, fun e he => ⟨_, _, List.mem_singleton.mp he⟩⟩
  · exact ⟨rfl, rfl, hclient, rfl, [], (List.append_nil _).symm, by simp⟩

/-- `socket_recv_accumulate_h2t_data` reports success whatever it receives. -/
theorem socketRecvAccumulateH2tData_ok (io : Mmio D) (buff len : Nat) (s : Srv D) :
    (socketRecvAccumulateH2tData io .h2tData buff len s).1 = .ok := by
  simp only [socketRecvAccumulateH2tData]
  split <;> rfl

/-- So does the reception of a payload in one or two parts. -/
theorem recvH2tPayload_ok (io : Mmio D) (cfg : Config) (buff len : Nat) (s : Srv D) :
    (recvH2tPayload io cfg buff len s).1 = .ok := by
  simp only [recvH2tPayload]
  split
  · simp only [socketRecvAccumulateH2tData_ok, if_true]
  · exact socketRecvAccumulateH2tData_ok _ _ _ _

/-- A payload that does not reach the end of the window is received in one part. -/
theorem recvH2tPayload_unsplit (io : Mmio D) {buff len : Nat}
    (h1 : cfg.info.h2tMemBaseAddr + cfg.info.h2tMemSz + 2 ^ 16 ≤ 2 ^ 64) (h3 : len < 2 ^ 16)
    (hle : buff + len ≤ cfg.info.h2tMemBaseAddr + cfg.info.h2tMemSz) (s : Srv D) :
    recvH2tPayload io cfg buff len s = socketRecvAccumulateH2tData io .h2tData buff len s := by
  have hwrap := buffLenToWrapBoundary_eq buff h1 (by omega) h3
  rw [if_neg (by omega)] at hwrap
  unfold recvH2tPayload
  dsimp only
  rw [hwrap, if_neg (by simp)]

/-- Any other payload is received in two parts, the second one from the start of the window. -/
theorem recvH2tPayload_split (io : Mmio D) {buff len : Nat}
    (h1 : cfg.info.h2tMemBaseAddr + cfg.info.h2tMemSz + 2 ^ 16 ≤ 2 ^ 64) (h3 : len < 2 ^ 16)
    (h2 : buff < cfg.info.h2tMemBaseAddr + cfg.info.h2tMemSz)
    (hlt : cfg.info.h2tMemBaseAddr + cfg.info.h2tMemSz < buff + len) (s : Srv D) :
    let first := cfg.info.h2tMemBaseAddr + cfg.info.h2tMemSz - buff
    recvH2tPayload io cfg buff len s =
      socketRecvAccumulateH2tData io .h2tData cfg.info.h2tMemBaseAddr (len - first)
        (socketRecvAccumulateH2tData io .h2tData buff first s).2 := by
  have hwrap := buffLenToWrapBoundary_eq buff h1 h2.le h3
  rw [if_pos hlt] at hwrap
  intro first
  have hsecond : (len + 2 ^ 64 - first) % 2 ^ 64 = len - first := by omega
  unfold recvH2tPayload
  dsimp only
  rw [hwrap, if_pos ⟨rfl, by omega⟩, socketRecvAccumulateH2tData_ok, if_pos rfl, hsecond]

theorem recvH2tPayload_frame (io : Mmio D) (cfg : Config) (buff len : Nat) (s : Srv D) :
    RecvFrame s (recvH2tPayload io cfg buff len s).2 := by
  simp only [recvH2tPayload]
  split
  · simp only [socketRecvAccumulateH2tData_ok, if_true]
    exact (socketRecvAccumulateH2tData_frame _ _ _ _).trans
      (socketRecvAccumulateH2tData_frame _ _ _ _)
  · exact socketRecvAccumulateH2tData_frame _ _ _ _

/-- Receiving the header changes the header buffer and the H2T socket only. -/
theorem updateCurrH2tHeader_frame {rc : ReturnCode} (h : updateCurrH2tHeader s = (rc, s')) :
    s'.conn = { s.conn with h2tHeaderBuff := s'.conn.h2tHeaderBuff } ∧ s'.log = s.log ∧
      ∀ sock, sock ≠ .h2tData → s'.client sock = s.client sock := by
  unfold updateCurrH2tHeader at h
  split at h
  · obtain ⟨-, rfl⟩ := Prod.mk.inj h
    exact ⟨rfl, rfl, fun sock hs => Function.update_of_ne hs _ _⟩
  · obtain ⟨-, rfl⟩ := Prod.mk.inj h
    exact ⟨rfl, rfl, fun _ _ => rfl⟩

/-- Polling for a buffer changes the driver and the hardware only. -/
theorem pollH2tBuffer_frame {len buff : Nat} (h : pollH2tBuffer io cfg len s = some (buff, s')) :
    s'.conn = s.conn ∧ s'.log = s.log ∧ s'.client = s.client ∧ s'.recvBuff = s.recvBuff ∧
      s'.sendBuff = s.sendBuff := by
  unfold pollH2tBuffer at h
  split at h
  · rw [Option.map_eq_some_iff] at h
    obtain ⟨x, -, hx⟩ := h
    obtain ⟨-, rfl⟩ := Prod.mk.inj hx
    exact ⟨rfl, rfl, rfl, rfl, rfl⟩
  · obtain ⟨-, rfl⟩ := Prod.mk.inj (Option.some.inj h)
    exact ⟨rfl, rfl, rfl, rfl, rfl⟩

theorem pushOrLoopbackH2t_conn (io : Mmio D) (header : H2tPacketHeader) (buff : Nat) (s : Srv D) :
    (pushOrLoopbackH2t io header buff s).2.conn = s.conn := by
  have hsend : (s.sendAll .t2hData s.conn.h2tHeaderBuff.bytes).2.conn = s.conn := rfl
  unfold pushOrLoopbackH2t
  generalize s.sendAll .t2hData s.conn.h2tHeaderBuff.bytes = y at hsend ⊢
  have hecho : (socketSendAllT2hData io .t2hData buff header.dataLenBytes.toNat y.2).2.conn
      = y.2.conn := rfl
  have hpush (drv : Driver) (d : D) (e : Event) :
      (({ s with drv := drv, dev := d } : Srv D).record e).conn = s.conn := rfl
  dsimp only
  split
  · exact hpush _ _ _
  · split
    · exact hecho.trans hsend
    · exact hsend

/-- The ways through `process_h2t_data`: no header, no buffer, or a payload. -/
theorem processH2tData_cases {x : ReturnCode × Srv D} (h : processH2tData io cfg s = some x) :
    (x = updateCurrH2tHeader s ∧ x.1 ≠ .ok) ∨
      ∃ s1 buff s2, updateCurrH2tHeader s = (.ok, s1) ∧
        pollH2tBuffer io cfg (headerOf s1.conn.h2tHeaderBuff).dataLenBytes.toNat s1
          = some (buff, s2) ∧
        ((buff = 0 ∧ x = (.ok, s2.setH2tWaiting true)) ∨
          (buff ≠ 0 ∧ x = pushOrLoopbackH2t io (headerOf s1.conn.h2tHeaderBuff) buff
            (recvH2tPayload io cfg buff (headerOf s1.conn.h2tHeaderBuff).dataLenBytes.toNat
              (s2.setH2tWaiting false)).2)) := by
  unfold processH2tData at h
  obtain ⟨⟨rc, s1⟩, hhead⟩ : ∃ y, updateCurrH2tHeader s = y := ⟨_, rfl⟩
  rw [hhead] at h ⊢
  dsimp only at h
  split at h
  · next hrc =>
    obtain ⟨⟨buff, s2⟩, hpoll, hx⟩ := Option.map_eq_some_iff.mp h
    refine Or.inr ⟨s1, buff, s2, by rw [hrc], hpoll, ?_⟩
    dsimp only at hx
    rw [recvH2tPayload_ok, if_pos rfl] at hx
    split at hx
    · next hne => exact Or.inr ⟨hne, hx.symm⟩
    · next hz => exact Or.inl ⟨by simpa using hz, hx.symm⟩
  · next hrc =>
    obtain rfl := Option.some.inj h
    exact Or.inl ⟨rfl, hrc⟩

/-! ## A payload that does not arrive -/

/-- In the state `s` a header is there, a buffer is granted, and the stream fails or ends before the
payload has arrived. `s1` is the state behind the header, `s2` the state behind the poll. -/
structure ShortPayload (io : Mmio D) (cfg : Config) (s s1 s2 : Srv D) (buff : Nat) : Prop where
  header : updateCurrH2tHeader s = (.ok, s1)
  poll : pollH2tBuffer io cfg (headerOf s1.conn.h2tHeaderBuff).dataLenBytes.toNat s1
    = some (buff, s2)
  granted : buff ≠ 0
  short : (pending (s2.client .h2tData).rx).length
    < (headerOf s1.conn.h2tHeaderBuff).dataLenBytes.toNat

/-- The call from `s` to `s'` failed, pushed nothing and sent nothing on the T2H socket. -/
def Rejected (s : Srv D) (x : ReturnCode × Srv D) : Prop :=
  x.1 = .failure ∧ ∃ evs, x.2.log = s.log ++ evs ∧
    (∀ header payload, Event.h2tDataReceived header payload ∉ evs) ∧
    ∀ bs, Event.sent .t2hData bs ∈ evs → bs = []

/-- What `process_h2t_data` comes to once a header is there and a buffer is granted. -/
theorem ShortPayload.process_eq {s1 s2 : Srv D} {buff : Nat}
    (h : ShortPayload io cfg s s1 s2 buff) :
    processH2tData io cfg s = some (pushOrLoopbackH2t io (headerOf s1.conn.h2tHeaderBuff) buff
      (recvH2tPayload io cfg buff (headerOf s1.conn.h2tHeaderBuff).dataLenBytes.toNat
        (s2.setH2tWaiting false)).2) := by
  have hne : buff ≠ 0 := h.granted
  simp only [processH2tData, h.header, h.poll, if_true, Option.map_some, hne, ne_eq,
    not_false_eq_true, recvH2tPayload_ok]

theorem sendAll_log (sock : Sock) (bs : List UInt8) (s : Srv D) :
    (s.sendAll sock bs).2.log
      = s.log ++ [.sent sock (socketSendAll bs (s.client sock).tx).2.1] := rfl

theorem socketSendAllT2hData_log (io : Mmio D) (sock : Sock) (buff len : Nat) (s : Srv D) :
    ∃ bs, (socketSendAllT2hData io sock buff len s).2.log = s.log ++ [.sent sock bs] := ⟨_, rfl⟩

/-- In normal operation the packet is pushed. -/
theorem pushOrLoopbackH2t_push (io : Mmio D) (header : H2tPacketHeader) (buff : Nat)
    (hmode : s.conn.loopbackMode = false) :
    (pushOrLoopbackH2t io header buff s).1 = .ok ∧
      (pushOrLoopbackH2t io header buff s).2.log
        = s.log ++ [.h2tDataReceived header (buff % 2 ^ 32)] := by
  unfold pushOrLoopbackH2t
  rw [if_pos hmode]
  exact ⟨rfl, rfl⟩

/-- In loopback mode the header is sent; the payload only follows if that succeeds. -/
theorem pushOrLoopbackH2t_loopback (io : Mmio D) (header : H2tPacketHeader) (buff : Nat)
    (hmode : s.conn.loopbackMode = true) :
    ∃ more, (pushOrLoopbackH2t io header buff s).2.log = s.log ++ .sent .t2hData
        (socketSendAll s.conn.h2tHeaderBuff.bytes (s.client .t2hData).tx).2.1 :: more ∧
      (SendFails (s.client .t2hData).tx →
        (pushOrLoopbackH2t io header buff s).1 = .failure ∧ more = []) := by
  have hne : s.conn.h2tHeaderBuff.bytes ≠ [] :=
    List.ne_nil_of_length_pos (by rw [s.conn.h2tHeaderBuff.size]; decide)
  have hspec := socketSendAll_spec s.conn.h2tHeaderBuff.bytes (s.client .t2hData).tx
  simp only [pushOrLoopbackH2t, hmode, Bool.true_eq_false, if_false]
  rcases hspec with ⟨hok, hall⟩ | ⟨hfail, -, -⟩
  · have hrc : (s.sendAll .t2hData s.conn.h2tHeaderBuff.bytes).1 = .ok := hok
    rw [if_pos hrc]
    obtain ⟨bs, hlog⟩ := socketSendAllT2hData_log io .t2hData buff
      header.dataLenBytes.toNat (s.sendAll .t2hData s.conn.h2tHeaderBuff.bytes).2
    refine ⟨[.sent .t2hData bs], ?_,
      fun hf => absurd ((socketSendAll_nothing hne _).mpr hf) (by rwa [hall])⟩
    rw [hlog, sendAll_log, List.append_assoc]
    rfl
  · have hrc : (s.sendAll .t2hData s.conn.h2tHeaderBuff.bytes).1 = .failure := hfail
    rw [if_neg (by rw [hrc]; decide)]
    exact ⟨[], rfl, fun _ => ⟨hrc, rfl⟩⟩

/-- **Short payloads**: the call reports the failure and keeps the packet back exactly if it is in
loopback mode and the first `send` of the echo fails. -/
theorem short_payload_rejected_iff (io : Mmio D) (cfg : Config) {s1 s2 : Srv D} {buff : Nat}
    (h : ShortPayload io cfg s s1 s2 buff) :
    ∃ x, processH2tData io cfg s = some x ∧
      (Rejected s x ↔ s.conn.loopbackMode = true ∧ SendFails (s.client .t2hData).tx) := by
  refine ⟨_, h.process_eq, ?_⟩
  obtain ⟨hconn1, hlog1, hclient1⟩ := updateCurrH2tHeader_frame h.header
  obtain ⟨hconn2, hlog2, hclient2, -, -⟩ := pollH2tBuffer_frame h.poll
  have hframe := recvH2tPayload_frame io cfg buff
    (headerOf s1.conn.h2tHeaderBuff).dataLenBytes.toNat (s2.setH2tWaiting false)
  generalize (recvH2tPayload io cfg buff (headerOf s1.conn.h2tHeaderBuff).dataLenBytes.toNat
    (s2.setH2tWaiting false)).2 = s3 at hframe ⊢
  obtain ⟨stores, hlog3, hstores⟩ := hframe.log
  have hlog : s3.log = s.log ++ stores := by
    rw [hlog3, Srv.setH2tWaiting_log, hlog2, hlog1]
  have hloop : s3.conn.loopbackMode = s.conn.loopbackMode := by
    rw [hframe.conn, Srv.setH2tWaiting_loopbackMode, hconn2, hconn1]
  have htx : (s3.client .t2hData).tx = (s.client .t2hData).tx := by
    rw [hframe.client .t2hData (by decide), Srv.setH2tWaiting_client, hclient2,
      hclient1 .t2hData (by decide)]
  cases hmode : s.conn.loopbackMode with
  | false =>
    obtain ⟨hrc, -⟩ := pushOrLoopbackH2t_push io
      (headerOf s1.conn.h2tHeaderBuff) buff (hloop.trans hmode)
    simp [Rejected, hrc]
  | true =>
    obtain ⟨more, hlog4, hfails⟩ := pushOrLoopbackH2t_loopback io
      (headerOf s1.conn.h2tHeaderBuff) buff (hloop.trans hmode)
    have hne : s3.conn.h2tHeaderBuff.bytes ≠ [] :=
      List.ne_nil_of_length_pos (by rw [s3.conn.h2tHeaderBuff.size]; decide)
    rw [hlog, List.append_assoc] at hlog4
    rw [htx] at hlog4 hfails
    refine ⟨fun ⟨_, evs, hevs, _, hsent⟩ => ⟨rfl, ?_⟩, fun ⟨_, hf⟩ => ?_⟩
    · obtain rfl := List.append_cancel_left (hevs.symm.trans hlog4)
      exact (socketSendAll_nothing hne _).mp (hsent _ (by simp))
    · obtain ⟨hrc, rfl⟩ := hfails hf
      refine ⟨hrc, _, hlog4, fun header payload hmem => ?_, fun bs hmem => ?_⟩
      · rcases List.mem_append.mp hmem with hmem | hmem
        · obtain ⟨_, _, he⟩ := hstores _ hmem
          cases he
        · simp at hmem
      · rcases List.mem_append.mp hmem with hmem | hmem
        · obtain ⟨_, _, he⟩ := hstores _ hmem
          cases he
        · have hbs : bs = (socketSendAll s3.conn.h2tHeaderBuff.bytes (s.client .t2hData).tx).2.1 := by
            simpa using hmem
          rw [hbs, (socketSendAll_nothing hne _).mpr hf]

/-- The client announces four bytes and closes the stream behind two of them. -/
def truncatedPacket : List RecvEvent :=
  [.data (packetGuardband ++ [3, 0, 0, 0, 4, 0]), .data [1, 2], .data []]

theorem short_payload_rejected_echo :
    ∃ x, processH2tData debugIp DebugIp.design (DebugIp.loopbackSession DebugIp.idle
        (DebugIp.only .h2tData truncatedPacket) (DebugIp.only .t2hData [.error])) = some x ∧
      x.1 = .failure := by
  obtain ⟨x, hx, hiff⟩ := short_payload_rejected_iff debugIp DebugIp.design
    (s := DebugIp.loopbackSession DebugIp.idle (DebugIp.only .h2tData truncatedPacket)
      (DebugIp.only .t2hData [.error])) ⟨rfl, rfl, by decide, by decide⟩
  exact ⟨x, hx, (hiff.mpr ⟨rfl, by decide⟩).1⟩

/-- In normal operation the truncated packet is pushed and the call succeeds. -/
theorem short_payload_accepted :
    ¬ ∀ (s s1 s2 : Srv DebugIp) (buff : Nat) (x : ReturnCode × Srv DebugIp),
      ShortPayload debugIp DebugIp.design s s1 s2 buff →
      processH2tData debugIp DebugIp.design s = some x → Rejected s x := by
  intro h
  let s := DebugIp.session DebugIp.idle (DebugIp.only .h2tData truncatedPacket) fun _ => []
  let s1 := (updateCurrH2tHeader s).2
  have hpoll : (pollH2tBuffer debugIp DebugIp.design 4 s1).any
      (fun y => decide (y.1 ≠ 0 ∧ (pending (y.2.client .h2tData).rx).length < 4)) = true := by decide
  have hok : (processH2tData debugIp DebugIp.design s).map (·.1) = some .ok := by decide
  obtain ⟨⟨buff, s2⟩, hget, hy⟩ := (Option.any_eq_true _ _).mp hpoll
  obtain ⟨hne, hshort⟩ := of_decide_eq_true hy
  obtain ⟨x, hx, hxok⟩ := Option.map_eq_some_iff.mp hok
  have hrej := h s s1 s2 buff x ⟨rfl, hget, hne, hshort⟩ hx
  exact absurd (hxok.symm.trans hrej.1) (by decide)

end RemoteDebug
