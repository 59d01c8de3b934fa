import RemoteDebug.Proofs.WindowProofs
import RemoteDebug.Proofs.LandingProofs
import RemoteDebug.Proofs.T2hProofs

/-!
# Proofs: what an echo sends

A payload that is not larger than the window is stored from its start on in one part and read back from
there. Of a larger one the second part is stored over the first, and a window at address 0 is taken for
a missing buffer.
-/

namespace RemoteDebug

open Bytes Script

variable {D : Type} {io : Mmio D} {info : DesignInfo} {cfg : Config} {s s' : Srv D} {memSize len : Nat}

/-! ## A call in loopback mode -/

theorem wire_stores {log evs : List Event} (h : ∀ e ∈ evs, ∃ addr bs, e = .store addr bs) :
    wire (log ++ evs) = wire log := by
  rw [wire_append]
  have hnone : wire evs = [] := by
    refine List.flatMap_eq_nil_iff.mpr fun e he => ?_
    obtain ⟨addr, bs, rfl⟩ := h e he
    rfl
  rw [hnone, List.append_nil]

/-- The header buffer behind the header. -/
theorem updateCurrH2tHeader_bytes (harr : HeaderArrives s) :
    (updateCurrH2tHeader s).2.conn.h2tHeaderBuff.bytes = nextHeaderBytes s := by
  unfold updateCurrH2tHeader nextHeaderBytes
  by_cases hwait : s.conn.h2tWaiting = true
  · rw [if_neg (by rw [hwait]; decide), if_pos hwait]
  · have hlen : 10 ≤ (pending (s.client .h2tData).rx).length := harr.resolve_left hwait
    obtain ⟨rx', hrec, -⟩ := socketRecvAccumulate_ok hlen
    rw [if_pos (by simpa using hwait), if_neg hwait]
    unfold Srv.recvAccumulate
    rw [hrec]
    exact Buff.store_full _ (by rw [List.length_take]; omega)

/-- A call in loopback mode, with `s'` the state before the payload. -/
theorem processH2tData_loopback (io : Mmio D) (harr : HeaderArrives s) (hmode : s.conn.loopbackMode = true)
    (hbase : cfg.info.h2tMemBaseAddr ≠ 0) :
    ∃ s', (s'.client .h2tData).rx = payloadStream s ∧ s'.dev = s.dev ∧
      s'.conn.loopbackMode = true ∧ s'.conn.h2tHeaderBuff.bytes = nextHeaderBytes s ∧
      s'.log = s.log ∧ s'.client .t2hData = s.client .t2hData ∧
      processH2tData io cfg s = some (pushOrLoopbackH2t io (nextH2tHeader s)
        cfg.info.h2tMemBaseAddr (recvH2tPayload io cfg cfg.info.h2tMemBaseAddr
          (nextH2tHeader s).dataLenBytes.toNat s').2) := by
  obtain ⟨s₁, hhead, hlog, hheader, hrx, hmode₁⟩ := updateCurrH2tHeader_arrives harr
  have hdevice := updateCurrH2tHeader_device s
  have hbytes := updateCurrH2tHeader_bytes harr
  have hclient := (updateCurrH2tHeader_frame hhead).2.2 .t2hData (by decide)
  rw [hhead] at hdevice hbytes
  have hloop : ¬ s₁.conn.loopbackMode = false := by
    rw [hmode₁, hmode]
    decide
  refine ⟨s₁.setH2tWaiting false, hrx, hdevice.2, hmode₁.trans hmode, hbytes, hlog,
    hclient, ?_⟩
  unfold processH2tData pollH2tBuffer
  rw [hhead]
  dsimp only
  rw [if_pos rfl, if_neg hloop, Option.map_some, hheader]
  dsimp only
  rw [if_pos hbase, recvH2tPayload_ok, if_pos rfl]

/-- What an echo sends: the header, and what has been read into the send buffer. -/
theorem pushOrLoopbackH2t_sends (io : Mmio D) (header : H2tPacketHeader) (buff : Nat)
    (hmode : s.conn.loopbackMode = true) :
    Sends (s.conn.h2tHeaderBuff.bytes ++
      readBytes (memcpy64Fpga2host io buff header.dataLenBytes.toNat s.sendBuff s.dev).1.bytes 0
        header.dataLenBytes.toNat) s (pushOrLoopbackH2t io header buff s) := by
  have hhead := sendAll_sends s.conn.h2tHeaderBuff.bytes s
  have hpayload : Sends
      (readBytes (memcpy64Fpga2host io buff header.dataLenBytes.toNat s.sendBuff s.dev).1.bytes 0
        header.dataLenBytes.toNat) (s.sendAll .t2hData s.conn.h2tHeaderBuff.bytes).2
      (socketSendAllT2hData io .t2hData buff header.dataLenBytes.toNat
        (s.sendAll .t2hData s.conn.h2tHeaderBuff.bytes).2) :=
    socketSendAllT2hData_buffer io buff header.dataLenBytes.toNat
      (s.sendAll .t2hData s.conn.h2tHeaderBuff.bytes).2
  have hboth := hhead.andThen fun _ => hpayload
  unfold pushOrLoopbackH2t
  rw [if_neg (by rw [hmode]; decide)]
  exact hboth

/-! ## Payloads that fit -/

theorem wordsStart_base (info : DesignInfo) {len : Nat} (hfit : len ≤ info.h2tMemSz) :
    WordsStart info info.h2tMemBaseAddr 0 ((len + 7) / 8) :=
  fun k _ hk => ⟨8 * k, by omega, rfl⟩

/-- Words that have been stored read back into the send buffer. -/
theorem WordsStored.read_back (wm : WindowMemory io info) {host : Nat → UInt8} {buff n : Nat}
    {m : Nat → UInt8} {d : D} (h : WordsStored host buff 0 n m (wm.mem d))
    (hstart : WordsStart info buff 0 n) (st : Staging) {x : Nat} (hx : x < 8 * n) :
    (fpga2hostLoop io buff n 0 st d).1.bytes x = host x := by
  obtain ⟨-, -, hload⟩ := fpga2hostLoop_loaded wm st d hstart
  have hread := hload (x / 8) (Nat.zero_le _) (by omega) (x % 8) (by omega)
  rw [h.inside (x / 8) (Nat.zero_le _) (by omega) (x % 8) (by omega), Nat.div_add_mod] at hread
  exact hread

/-- **A payload that fits** comes back. -/
theorem recvH2tPayload_read_back (wm : WindowMemory io cfg.info)
    (h64 : cfg.info.h2tMemBaseAddr + cfg.info.h2tMemSz + 2 ^ 16 ≤ 2 ^ 64)
    (hlen : len ≤ (pending (s.client .h2tData).rx).length) (h16 : len < 2 ^ 16)
    (hfit : len ≤ cfg.info.h2tMemSz) (st : Staging) :
    readBytes (memcpy64Fpga2host io cfg.info.h2tMemBaseAddr len st
      (recvH2tPayload io cfg cfg.info.h2tMemBaseAddr len s).2.dev).1.bytes 0 len =
        (pending (s.client .h2tData).rx).take len := by
  have hstart := wordsStart_base cfg.info hfit
  rw [recvH2tPayload_unsplit io h64 h16 (by omega)]
  obtain ⟨host, hhost, hstored, -⟩ :=
    socketRecvAccumulateH2tData_arrives wm hlen (by omega) hstart
  apply List.ext_getElem
  · rw [readBytes_length, List.length_take]
    omega
  · intro i hi hi'
    rw [readBytes_length] at hi
    simp only [readBytes, List.getElem_map, List.getElem_range, Nat.zero_add, List.getElem_take]
    unfold memcpy64Fpga2host
    rw [hstored.read_back wm hstart st (by omega), hhost i hi, List.getD_eq_getElem _ _ (by omega)]

/-- The windows of the command line have 64-bit addresses. -/
theorem getDesignInfo_bound (h63 : memSize < 2 ^ 63) :
    (getDesignInfo memSize).h2tMemBaseAddr + (getDesignInfo memSize).h2tMemSz + 2 ^ 16 ≤ 2 ^ 64 := by
  unfold getDesignInfo h2tMemBase2k
  dsimp only
  split <;> omega

theorem getDesignInfo_base_ne_zero (h0 : 0 < memSize) :
    (getDesignInfo memSize).h2tMemBaseAddr ≠ 0 ↔ ¬ 2 ^ 32 ∣ memSize := by
  unfold getDesignInfo h2tMemBase2k jopMemSize2k
  dsimp only
  split <;> omega

theorem echoesFaithfully_of_fits (h0 : 0 < memSize) (h63 : memSize < 2 ^ 63) (h16 : len < 2 ^ 16)
    (hbase : ¬ 2 ^ 32 ∣ memSize) (hfit : len ≤ memSize) : EchoesFaithfully memSize len := by
  intro D io charSigned wm s s' hmode harr hlen hcall
  have hne := (getDesignInfo_base_ne_zero h0).mpr hbase
  obtain ⟨cfg, hcfg⟩ : ∃ cfg : Config, cfg = ⟨getDesignInfo memSize, charSigned⟩ := ⟨_, rfl⟩
  have hinfo : getDesignInfo memSize = cfg.info := by rw [hcfg]
  have h64 := getDesignInfo_bound h63
  have hspan : len ≤ (getDesignInfo memSize).h2tMemSz := hfit
  rw [← hcfg] at hcall
  rw [hinfo] at hne wm h64 hspan
  obtain ⟨s₁, hrx, -, hmode₁, hbytes, hlog, -, heq⟩ := 
    processH2tData_loopback io harr.header hmode hne
  have hpend : len ≤ (pending (s₁.client .h2tData).rx).length := by
    rw [hrx, ← hlen]
    exact harr.payload
  have hback := recvH2tPayload_read_back wm h64 hpend h16 hspan
  have hframe := recvH2tPayload_frame io cfg cfg.info.h2tMemBaseAddr len s₁
  rw [hlen] at heq
  generalize (recvH2tPayload io cfg cfg.info.h2tMemBaseAddr len s₁).2 = s₂ at heq hback hframe
  obtain ⟨evs, hevs, hstores⟩ := hframe.log
  have hmode₂ : s₂.conn.loopbackMode = true := by
    rw [hframe.conn]
    exact hmode₁
  have hx := Option.some.inj (heq.symm.trans hcall)
  have hwire := (pushOrLoopbackH2t_sends io (nextH2tHeader s) cfg.info.h2tMemBaseAddr hmode₂).wire_ok
    (congrArg Prod.fst hx)
  rw [hx] at hwire
  rw [hwire, hevs, wire_stores hstores, hlog, hframe.conn, hbytes, hlen, hback, hrx]
  unfold nextH2tPayload
  rw [hlen]

/-! ## Payloads that do not come back -/

/-- A memory at all addresses. -/
def ram : Mmio (Nat → UInt8) where
  read32 _ m := (0, m)
  read64 a m := (word64 m a, m)
  write32 _ _ m := m
  write64 a w m := store64 m a w

def ramMemory (info : DesignInfo) : WindowMemory ram info where
  mem m := m
  store _ _ _ _ := rfl
  load _ _ _ := ⟨rfl, rfl⟩

/-- The server in loopback mode, with a client that sends this payload. -/
def echoServer (payload : List UInt8) : Srv (Nat → UInt8) where
  env := ⟨[], [], [], [], []⟩
  conn := { serverConnStart with loopbackMode := true }
  client := fun _ => ⟨4, [.data (DebugIp.headerBytes payload.length ++ payload)], [], false⟩
  drv := .static
  dev := fun _ => 0
  recvBuff := DebugIp.staging
  sendBuff := DebugIp.staging
  hostMem := fun _ => 0
  log := []

variable {payload : List UInt8}

theorem echoServer_pending :
    pending ((echoServer payload).client .h2tData).rx =
      DebugIp.headerBytes payload.length ++ payload := by
  change (if DebugIp.headerBytes payload.length ++ payload = [] then []
    else (DebugIp.headerBytes payload.length ++ payload) ++ []) = _
  have hne : DebugIp.headerBytes payload.length ≠ [] := List.cons_ne_nil _ _
  rw [if_neg (List.append_ne_nil_of_left_ne_nil hne _), List.append_nil]

theorem echoServer_length (h16 : payload.length < 2 ^ 16) :
    (nextH2tHeader (echoServer payload)).dataLenBytes.toNat = payload.length := by
  have hlen : (UInt16.ofNat payload.length).toNat = payload.length := by
    rw [UInt16.toNat_ofNat']
    omega
  have hheader : (nextH2tHeader (echoServer payload)).dataLenBytes =
      le16 (byteAt payload.length 0) (byteAt payload.length 1) := by
    unfold nextH2tHeader
    rw [echoServer_pending]
    rfl
  have hback := le16_byteAt (UInt16.ofNat payload.length)
  rw [hlen] at hback
  rw [hheader, hback, hlen]

theorem echoServer_payloadStream :
    pending (payloadStream (echoServer payload)) = payload := by
  have hlen : 10 ≤ (pending ((echoServer payload).client .h2tData).rx).length := by
    rw [echoServer_pending, List.length_append]
    exact Nat.le_add_right 10 _
  obtain ⟨rx', hrec, hpend, -⟩ := socketRecvAccumulate_ok hlen
  have hstream : payloadStream (echoServer payload) = rx' := by
    change (socketRecvAccumulate ((echoServer payload).client .h2tData).rx 10).2.2 = rx'
    rw [hrec]
  rw [hstream, hpend, echoServer_pending]
  rfl

theorem echoServer_arrives (h16 : payload.length < 2 ^ 16) : PacketArrives (echoServer payload) := by
  constructor
  · right
    rw [echoServer_pending, List.length_append]
    exact Nat.le_add_right 10 _
  · rw [echoServer_length h16, echoServer_payloadStream]

theorem echoServer_payload (h16 : payload.length < 2 ^ 16) :
    nextH2tPayload (echoServer payload) = payload := by
  unfold nextH2tPayload
  rw [echoServer_payloadStream, echoServer_length h16, List.take_length]

theorem echoServer_header :
    nextHeaderBytes (echoServer payload) = DebugIp.headerBytes payload.length := by
  change (pending ((echoServer payload).client .h2tData).rx).take 10 = _
  rw [echoServer_pending]
  rfl

/-- A window at address 0: the packet is left waiting, with success. -/
theorem not_echoesFaithfully_base (h0 : 0 < memSize) (h16 : len < 2 ^ 16) (hbase : 2 ^ 32 ∣ memSize) :
    ¬ EchoesFaithfully memSize len := by
  intro h
  have hlen : (List.replicate len (0 : UInt8)).length = len := List.length_replicate
  generalize List.replicate len (0 : UInt8) = payload at hlen
  have h16' : payload.length < 2 ^ 16 := by omega
  have hzero : (getDesignInfo memSize).h2tMemBaseAddr = 0 := by
    by_contra hne
    exact (getDesignInfo_base_ne_zero h0).mp hne hbase
  obtain ⟨s₁, hhead, hlog, -, -, hmode⟩ := updateCurrH2tHeader_arrives (echoServer_arrives h16').header
  have hloop : ¬ s₁.conn.loopbackMode = false := by
    rw [hmode]
    exact Bool.false_ne_true.symm
  have hcall : processH2tData ram ⟨getDesignInfo memSize, false⟩ (echoServer payload) =
      some (.ok, s₁.setH2tWaiting true) := by
    unfold processH2tData pollH2tBuffer
    rw [hhead]
    dsimp only
    rw [if_pos rfl, if_neg hloop, Option.map_some, hzero]
    rfl
  have hwire := h _ ram false (ramMemory _) _ _ rfl (echoServer_arrives h16')
    ((echoServer_length h16').trans hlen) hcall
  rw [Srv.setH2tWaiting_log, hlog, echoServer_header] at hwire
  have hnil := List.append_cancel_left ((List.append_nil _).trans hwire)
  cases hnil

/-- The memory that an echo reads its first byte from, behind a payload that does not fit. -/
theorem recvH2tPayload_overwritten {s : Srv (Nat → UInt8)}
    (h64 : cfg.info.h2tMemBaseAddr + cfg.info.h2tMemSz + 2 ^ 16 ≤ 2 ^ 64)
    (hlen : len ≤ (pending (s.client .h2tData).rx).length) (h16 : len < 2 ^ 16)
    (h0 : 0 < cfg.info.h2tMemSz) (hlarge : cfg.info.h2tMemSz < len) (st : Staging) :
    (memcpy64Fpga2host ram cfg.info.h2tMemBaseAddr len st
      (recvH2tPayload ram cfg cfg.info.h2tMemBaseAddr len s).2.dev).1.bytes 0 =
        (pending (s.client .h2tData).rx).getD cfg.info.h2tMemSz 0 := by
  -- the memory does not end with the window
  obtain ⟨wide, hwide⟩ : ∃ wide : Config, wide = ⟨{ cfg.info with h2tMemSz := 2 ^ 16 }, false⟩ :=
    ⟨_, rfl⟩
  have hbase : wide.info.h2tMemBaseAddr = cfg.info.h2tMemBaseAddr := by rw [hwide]
  have hspan : wide.info.h2tMemSz = 2 ^ 16 := by rw [hwide]
  have hstart (n : Nat) (hn : n ≤ 2 ^ 16) :
      WordsStart wide.info cfg.info.h2tMemBaseAddr 0 ((n + 7) / 8) := by
    rw [← hbase]
    exact wordsStart_base wide.info (hspan ▸ hn)
  have hsplit := recvH2tPayload_split ram h64 h16 (Nat.lt_add_of_pos_right h0)
    (Nat.add_lt_add_left hlarge _) s
  dsimp only at hsplit
  rw [Nat.add_sub_cancel_left] at hsplit
  rw [hsplit]
  obtain ⟨-, -, -, hpend⟩ := socketRecvAccumulateH2tData_arrives (ramMemory wide.info) (s := s)
    (by omega : cfg.info.h2tMemSz ≤ _) (by omega) (hstart _ (by omega))
  generalize (socketRecvAccumulateH2tData ram .h2tData cfg.info.h2tMemBaseAddr
    cfg.info.h2tMemSz s).2 = s₁ at hpend ⊢
  obtain ⟨host, hhost, hstored, -⟩ := socketRecvAccumulateH2tData_arrives (ramMemory wide.info)
    (s := s₁) (by rw [hpend, List.length_drop]; omega : len - cfg.info.h2tMemSz ≤ _) (by omega)
    (hstart _ (by omega))
  generalize (socketRecvAccumulateH2tData ram .h2tData cfg.info.h2tMemBaseAddr
    (len - cfg.info.h2tMemSz) s₁).2 = s₂ at hstored ⊢
  obtain ⟨-, -, hload⟩ :=
    fpga2hostLoop_loaded (ramMemory wide.info) st s₂.dev (hstart len (by omega))
  have hfirst := hload 0 (Nat.zero_le _) (by omega) 0 (by omega)
  have hsecond := hstored.inside 0 (Nat.zero_le _) (by omega) 0 (by omega)
  refine hfirst.trans (hsecond.trans ?_)
  rw [hhost 0 (by omega), hpend, List.getD_eq_getElem?_getD, List.getElem?_drop, Nat.add_zero,
    ← List.getD_eq_getElem?_getD]

/-- A payload that is larger than the window, with a second part that differs from the first one. -/
theorem not_echoesFaithfully_large (h0 : 0 < memSize) (h16 : len < 2 ^ 16) (hlarge : memSize < len) :
    ¬ EchoesFaithfully memSize len := by
  intro h
  obtain ⟨payload, hpayload⟩ : ∃ payload : List UInt8,
      payload = List.replicate memSize 0 ++ List.replicate (len - memSize) 1 := ⟨_, rfl⟩
  have hlen : payload.length = len := by
    rw [hpayload, List.length_append, List.length_replicate, List.length_replicate]
    omega
  have h16' : payload.length < 2 ^ 16 := by omega
  obtain ⟨cfg, hcfg⟩ : ∃ cfg : Config, cfg = ⟨getDesignInfo memSize, false⟩ := ⟨_, rfl⟩
  have hinfo : getDesignInfo memSize = cfg.info := by rw [hcfg]
  have hspan : cfg.info.h2tMemSz = memSize := by rw [hcfg]; rfl
  have h64 := getDesignInfo_bound (by omega : memSize < 2 ^ 63)
  have hne := (getDesignInfo_base_ne_zero h0).mpr (by omega)
  rw [hinfo] at h64 hne
  obtain ⟨s₁, hrx, -, hmode₁, hbytes, hlog, hclient, hcall⟩ :=
    processH2tData_loopback ram (echoServer_arrives h16').header rfl hne
  rw [echoServer_length h16', hlen] at hcall
  have hpend : pending (s₁.client .h2tData).rx = payload := by rw [hrx, echoServer_payloadStream]
  have hover := recvH2tPayload_overwritten (s := s₁) h64
    (by rw [hpend, hlen] : len ≤ _) h16 (by omega) (by omega)
  have hframe := recvH2tPayload_frame ram cfg cfg.info.h2tMemBaseAddr len s₁
  generalize (recvH2tPayload ram cfg cfg.info.h2tMemBaseAddr len s₁).2 = s₂ at hcall hover hframe
  obtain ⟨evs, hevs, hstores⟩ := hframe.log
  have hmode₂ : s₂.conn.loopbackMode = true := by
    rw [hframe.conn]
    exact hmode₁
  have hsends := pushOrLoopbackH2t_sends ram (nextH2tHeader (echoServer payload))
    cfg.info.h2tMemBaseAddr hmode₂
  have hok := (hsends.accept (by
    rw [hframe.client .t2hData (by decide), hclient]
    exact fun _ hmem => absurd hmem List.not_mem_nil)).1
  have hwire := hsends.wire_ok hok
  rw [echoServer_length h16', hlen] at hwire
  have hfaithful := h _ ram false (ramMemory _) _ _ rfl (echoServer_arrives h16')
    ((echoServer_length h16').trans hlen) (by rw [← hcfg, hcall, ← hok])
  rw [hwire, hevs, wire_stores hstores, hlog, hframe.conn, hbytes, echoServer_payload h16'] at hfaithful
  have hsame := List.append_cancel_left
    (List.map_injective_iff.mpr (Option.some_injective _) (List.append_cancel_left hfaithful))
  have hfirst := congrArg (fun bs => bs.getD 0 0) hsame
  rw [List.getD_eq_getElem _ _ (by rw [readBytes_length]; omega)] at hfirst
  simp only [readBytes, List.getElem_map, List.getElem_range, Nat.zero_add] at hfirst
  rw [hover, hpend, hspan, hpayload] at hfirst
  rw [List.getD_append_right _ _ _ _ (by rw [List.length_replicate]), List.length_replicate,
    Nat.sub_self, List.getD_append _ _ _ _ (by rw [List.length_replicate]; exact h0),
    List.getD_replicate _ (by omega), List.getD_replicate _ h0] at hfirst
  exact absurd hfirst (by decide)

/-- **Echoes**: a successful call in loopback mode sends back every packet of `len` bytes as it was
received exactly if the window is not at address 0 and holds `len` bytes. -/
theorem echoes_faithfully_iff (h0 : 0 < memSize) (h63 : memSize < 2 ^ 63) (h16 : len < 2 ^ 16) :
    EchoesFaithfully memSize len ↔ ¬ 2 ^ 32 ∣ memSize ∧ len ≤ memSize := by
  constructor
  · intro h
    constructor
    · intro hbase
      exact not_echoesFaithfully_base h0 h16 hbase h
    · by_contra hlarge
      exact not_echoesFaithfully_large h0 h16 (Nat.lt_of_not_le hlarge) h
  · rintro ⟨hbase, hfit⟩
    exact echoesFaithfully_of_fits h0 h63 h16 hbase hfit

/-- Packets of 4096 bytes with windows of 4096 bytes. -/
theorem echoes_faithfully_4096 : EchoesFaithfully 4096 4096 :=
  (echoes_faithfully_iff (by omega) (by omega) (by omega)).mpr ⟨by omega, le_rfl⟩

/-- A packet of 4097 bytes with windows of 4096 bytes. -/
theorem echoes_unfaithfully_4097 : ¬ EchoesFaithfully 4096 4097 :=
  not_echoesFaithfully_large (by omega) (by omega) (by omega)

end RemoteDebug
