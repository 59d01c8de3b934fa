import RemoteDebug.Hardware.T2hRun
import RemoteDebug.Hardware.DebugSession
import RemoteDebug.Proofs.ChangeProofs
import RemoteDebug.Proofs.SocketProofs

/-!
# The T2H socket

`Sends` says what a part of `process_t2h_data` puts on the T2H socket: all of its bytes, or a proper
prefix of them and a failure. Parts compose, so that the whole call sends the packet of the presented
descriptor.
-/

namespace RemoteDebug

open Bytes Script Runs

variable {D : Type} {io : Mmio D} {cfg : Config} {info : DesignInfo} {s s' : Srv D}

/-! ## Reading the window -/

/-- From `d` to `d'` the held contents have not changed. -/
def T2hIp.Keeps (ip : T2hIp io info) (d d' : D) : Prop :=
  ∀ a, a ∈ ip.held d → ip.mem d' a = ip.mem d a ∧ a ∈ ip.held d'

theorem T2hIp.Keeps.trans {ip : T2hIp io info} {d d' d'' : D} (h : ip.Keeps d d')
    (h' : ip.Keeps d' d'') : ip.Keeps d d'' := by
  intro a ha
  obtain ⟨hmem, ha'⟩ := h a ha
  obtain ⟨hmem', ha''⟩ := h' a ha'
  exact ⟨hmem'.trans hmem, ha''⟩

/-- The words read into the staging buffer hold the memory behind `buff`; words stored before stay. -/
theorem fpga2hostLoop_bytes (ip : T2hIp io info) (buff : Nat) {n i : Nat} (st : Staging) (d : D)
    (hrange : ∀ j, i ≤ j → j < i + n → info.t2hMemBaseAddr ≤ buff + 8 * j ∧
      buff + 8 * j < info.t2hMemBaseAddr + info.t2hMemSz ∧ buff + 8 * j < 2 ^ 32) :
    ip.Keeps d (fpga2hostLoop io buff n i st d).2 ∧
      (∀ k, k < 8 * i → (fpga2hostLoop io buff n i st d).1.bytes k = st.bytes k) ∧
      ∀ k, 8 * i ≤ k → k < 8 * (i + n) → buff + k ∈ ip.held d →
        (fpga2hostLoop io buff n i st d).1.bytes k = ip.mem d (buff + k) := by
  induction n generalizing i st d with
  | zero =>
    refine ⟨fun a ha => ⟨rfl, ha⟩, fun k _ => rfl, ?_⟩
    intro k h1 h2
    omega
  | succ n ih =>
    obtain ⟨hlo, hhi, h32⟩ := hrange i le_rfl (by omega)
    have hword := ip.read _ d hlo hhi
    simp only [fpga2hostLoop, Nat.mod_eq_of_lt h32, hword]
    obtain ⟨hkeep, hold, hnew⟩ := ih (i := i + 1)
      (st.storeWord (8 * i) (word64 (ip.mem d) (buff + 8 * i))) (io.read64 (buff + 8 * i) d).2
      (fun j hj hj' => hrange j (by omega) (by omega))
    have hstep : ip.Keeps d (io.read64 (buff + 8 * i) d).2 := fun a ha => ip.keeps _ d a ha
    refine ⟨hstep.trans hkeep, ?_, ?_⟩
    · intro k hk
      rw [hold k (by omega)]
      exact store64_outside _ _ _ (Or.inl hk)
    · intro k hk hk' hheld
      by_cases hin : k < 8 * (i + 1)
      · obtain ⟨m, rfl⟩ : ∃ m, k = 8 * i + m := ⟨k - 8 * i, by omega⟩
        rw [hold _ hin]
        have hbyte := store64_inside st.bytes (8 * i) (word64 (ip.mem d) (buff + 8 * i))
          (by omega : m < 8)
        rw [byteAt_word64 _ _ (by omega : m < 8), Nat.add_assoc] at hbyte
        exact hbyte
      · rw [hnew k (by omega) (by omega) (hstep _ hheld).2]
        exact (hstep _ hheld).1

/-- `memcpy64_fpga2host` copies `len` held bytes. -/
theorem memcpy64Fpga2host_bytes (ip : T2hIp io info) {buff len : Nat} (st : Staging) (d : D)
    (hlo : info.t2hMemBaseAddr ≤ buff) (hhi : buff + len ≤ info.t2hMemBaseAddr + info.t2hMemSz)
    (h32 : info.t2hMemBaseAddr + info.t2hMemSz ≤ 2 ^ 32)
    (hheld : ∀ k, k < len → buff + k ∈ ip.held d) :
    ip.Keeps d (memcpy64Fpga2host io buff len st d).2 ∧
      readBytes (memcpy64Fpga2host io buff len st d).1.bytes 0 len
        = (List.range len).map fun k => ip.mem d (buff + k) := by
  obtain ⟨hkeep, -, hnew⟩ := fpga2hostLoop_bytes ip buff (n := (len + 7) / 8) (i := 0) st d
    (fun j _ hj => by omega)
  refine ⟨hkeep, ?_⟩
  apply List.map_congr_left
  intro k hk
  have hk' := List.mem_range.mp hk
  rw [Nat.zero_add]
  exact hnew k (by omega) (by omega) (hheld k hk')

/-! ## Sending -/

theorem wire_append (log evs : List Event) : wire (log ++ evs) = wire log ++ wire evs :=
  List.flatMap_append

/-- From `s` to `x` the bytes `bs` go out on the T2H socket, or a proper prefix of them and a
failure. -/
structure Sends (bs : List UInt8) (s : Srv D) (x : ReturnCode × Srv D) : Prop where
  outcome : (x.1 = .ok ∧ wire x.2.log = wire s.log ++ bs.map some) ∨
    (x.1 = .failure ∧ ∃ sent, sent <+: bs ∧ sent ≠ bs ∧
      wire x.2.log = wire s.log ++ sent.map some)
  accept : AllAccept (s.client .t2hData).tx → x.1 = .ok ∧ AllAccept (x.2.client .t2hData).tx
  conn : x.2.conn = s.conn

theorem sendAll_sends (bs : List UInt8) (s : Srv D) : Sends bs s (s.sendAll .t2hData bs) := by
  have hwire : wire (s.sendAll .t2hData bs).2.log
      = wire s.log ++ (socketSendAll bs (s.client .t2hData).tx).2.1.map some := by
    have hlog : (s.sendAll .t2hData bs).2.log
        = s.log ++ [.sent .t2hData (socketSendAll bs (s.client .t2hData).tx).2.1] := rfl
    rw [hlog, wire_append]
    simp [wire, wireEvent]
  have htx : ((s.sendAll .t2hData bs).2.client .t2hData).tx
      = (socketSendAll bs (s.client .t2hData).tx).2.2 := by
    simp [Srv.sendAll, Srv.setTx, Srv.record]
  refine ⟨?_, ?_, rfl⟩
  · rw [hwire]
    rcases socketSendAll_spec bs (s.client .t2hData).tx with ⟨hok, hall⟩ | ⟨hfail, hpre, hne⟩
    · exact Or.inl ⟨hok, by rw [hall]⟩
    · exact Or.inr ⟨hfail, _, hpre, hne, rfl⟩
  · intro hacc
    rw [htx]
    exact socketSendAll_accept bs hacc

/-- Two parts one after the other, the second one only if the first one succeeds. -/
theorem Sends.andThen {bs bs' : List UInt8} {x : ReturnCode × Srv D}
    {f : Srv D → ReturnCode × Srv D} (h : Sends bs s x) (h' : x.1 = .ok → Sends bs' x.2 (f x.2)) :
    Sends (bs ++ bs') s (if x.1 = .ok then f x.2 else x) := by
  rcases h.outcome with ⟨hok, hwire⟩ | ⟨hfail, sent, hpre, hne, hwire⟩
  · rw [if_pos hok]
    have hf := h' hok
    refine ⟨?_, ?_, hf.conn.trans h.conn⟩
    · rcases hf.outcome with ⟨hok', hwire'⟩ | ⟨hfail', sent', hpre', hne', hwire'⟩
      · refine Or.inl ⟨hok', ?_⟩
        rw [hwire', hwire, List.map_append, List.append_assoc]
      · refine Or.inr ⟨hfail', bs ++ sent', ?_, ?_, ?_⟩
        · exact (List.prefix_append_right_inj bs).mpr hpre'
        · intro heq
          exact hne' (List.append_cancel_left heq)
        · rw [hwire', hwire, List.map_append, List.append_assoc]
    · intro hacc
      exact hf.accept (h.accept hacc).2
  · have hnok : x.1 ≠ .ok := by
      rw [hfail]
      decide
    rw [if_neg hnok]
    refine ⟨Or.inr ⟨hfail, sent, hpre.trans (List.prefix_append _ _), ?_, hwire⟩, ?_, h.conn⟩
    · intro heq
      have hle := hpre.length_le
      rw [heq, List.length_append] at hle
      obtain rfl : bs' = [] := List.eq_nil_of_length_eq_zero (by omega)
      exact hne (by rw [heq, List.append_nil])
    · intro hacc
      exact absurd (h.accept hacc).1 hnok

theorem Sends.wire_ok {bs : List UInt8} {x : ReturnCode × Srv D} (h : Sends bs s x)
    (hok : x.1 = .ok) : wire x.2.log = wire s.log ++ bs.map some := by
  rcases h.outcome with ⟨-, hwire⟩ | ⟨hfail, -⟩
  · exact hwire
  · rw [hok] at hfail
    cases hfail

/-- A part of the memory that is sent: the words are read into the send buffer first. -/
theorem socketSendAllT2hData_buffer (io : Mmio D) (buff len : Nat) (s : Srv D) :
    Sends (readBytes (memcpy64Fpga2host io buff len s.sendBuff s.dev).1.bytes 0 len) s
      (socketSendAllT2hData io .t2hData buff len s) := by
  have hsend := sendAll_sends
    (readBytes (memcpy64Fpga2host io buff len s.sendBuff s.dev).1.bytes 0 len)
    { s with
      sendBuff := (memcpy64Fpga2host io buff len s.sendBuff s.dev).1
      dev := (memcpy64Fpga2host io buff len s.sendBuff s.dev).2 }
  exact ⟨hsend.outcome, hsend.accept, hsend.conn⟩

/-- A part of the window is sent. -/
theorem socketSendAllT2hData_sends (ip : T2hIp io cfg.info) (buff len : Nat) (s : Srv D)
    (hlo : cfg.info.t2hMemBaseAddr ≤ buff)
    (hhi : buff + len ≤ cfg.info.t2hMemBaseAddr + cfg.info.t2hMemSz)
    (h32 : cfg.info.t2hMemBaseAddr + cfg.info.t2hMemSz ≤ 2 ^ 32)
    (hheld : ∀ k, k < len → buff + k ∈ ip.held s.dev) :
    Sends ((List.range len).map fun k => ip.mem s.dev (buff + k)) s
        (socketSendAllT2hData io .t2hData buff len s) ∧
      ip.Keeps s.dev (socketSendAllT2hData io .t2hData buff len s).2.dev := by
  obtain ⟨hkeep, hbytes⟩ := memcpy64Fpga2host_bytes ip s.sendBuff s.dev hlo hhi h32 hheld
  refine ⟨?_, hkeep⟩
  rw [← hbytes]
  exact socketSendAllT2hData_buffer io buff len s

/-- A payload that does not reach the end of the window is sent in one part. -/
theorem sendT2hPayload_unsplit (io : Mmio D) (cfg : Config) (buff : Nat) {len : Nat}
    (h1 : cfg.info.t2hMemBaseAddr + cfg.info.t2hMemSz + 2 ^ 16 ≤ 2 ^ 64) (h3 : len < 2 ^ 16)
    (hle : buff + len ≤ cfg.info.t2hMemBaseAddr + cfg.info.t2hMemSz) (s : Srv D) :
    sendT2hPayload io cfg buff len s = socketSendAllT2hData io .t2hData buff len s := by
  have hwrap := buffLenToWrapBoundary_eq buff h1 (by omega) h3
  rw [if_neg (by omega)] at hwrap
  unfold sendT2hPayload
  dsimp only
  rw [hwrap, if_neg (by simp)]

/-- Any other payload is sent in two parts, the second one from the start of the window. -/
theorem sendT2hPayload_split (io : Mmio D) (cfg : Config) {buff len : Nat}
    (h1 : cfg.info.t2hMemBaseAddr + cfg.info.t2hMemSz + 2 ^ 16 ≤ 2 ^ 64) (h3 : len < 2 ^ 16)
    (h2 : buff < cfg.info.t2hMemBaseAddr + cfg.info.t2hMemSz)
    (hlt : cfg.info.t2hMemBaseAddr + cfg.info.t2hMemSz < buff + len) (s : Srv D) :
    let first := cfg.info.t2hMemBaseAddr + cfg.info.t2hMemSz - buff
    sendT2hPayload io cfg buff len s =
      let x := socketSendAllT2hData io .t2hData buff first s
      if x.1 = .ok then
        socketSendAllT2hData io .t2hData cfg.info.t2hMemBaseAddr (len - first) x.2
      else x := by
  have hwrap := buffLenToWrapBoundary_eq buff h1 h2.le h3
  rw [if_pos hlt] at hwrap
  intro first
  have hsecond : (len + 2 ^ 64 - first) % 2 ^ 64 = len - first := by omega
  unfold sendT2hPayload
  dsimp only
  rw [hwrap, if_pos ⟨rfl, by omega⟩, hsecond]

/-- The payload behind `off` in the window, which may wrap. -/
theorem sendT2hPayload_sends (hok : T2hWindowOk cfg.info) (ip : T2hIp io cfg.info)
    (off len : Nat) (s : Srv D) (hoff : off < cfg.info.t2hMemSz) (hlen : len ≤ cfg.info.t2hMemSz)
    (hlen16 : len < 2 ^ 16)
    (hheld : ∀ i, i < len →
      cfg.info.t2hMemBaseAddr + (off + i) % cfg.info.t2hMemSz ∈ ip.held s.dev) :
    Sends ((List.range len).map fun i =>
        ip.mem s.dev (cfg.info.t2hMemBaseAddr + (off + i) % cfg.info.t2hMemSz)) s
      (sendT2hPayload io cfg (cfg.info.t2hMemBaseAddr + off) len s) := by
  have h31 : cfg.info.t2hMemBaseAddr + cfg.info.t2hMemSz ≤ 2 ^ 31 := hok
  have h32 : cfg.info.t2hMemBaseAddr + cfg.info.t2hMemSz ≤ 2 ^ 32 := h31.trans (by norm_num)
  have hsplit := sendT2hPayload_split io cfg (by omega) hlen16
    (by omega : cfg.info.t2hMemBaseAddr + off < _)
  have hunsplit := sendT2hPayload_unsplit io cfg (cfg.info.t2hMemBaseAddr + off)
    (by omega) hlen16
  set base := cfg.info.t2hMemBaseAddr
  set span := cfg.info.t2hMemSz
  by_cases hb : base + span < base + off + len
  · have hfirst : base + span - (base + off) = span - off := by omega
    rw [hsplit hb, hfirst]
    obtain ⟨first, hf⟩ : ∃ first, span - off = first := ⟨_, rfl⟩
    obtain ⟨second, hs⟩ : ∃ second, len - first = second := ⟨_, rfl⟩
    rw [hf, hs]
    have hin1 : ∀ k, k < first → base + (off + k) % span = base + off + k := by
      intro k hk
      rw [Nat.mod_eq_of_lt (by omega), Nat.add_assoc]
    have hin2 : ∀ k, k < second → base + (off + (first + k)) % span = base + k := by
      intro k hk
      have hmod : (off + (first + k)) % span = k := by
        rw [show off + (first + k) = k + span by omega, Nat.add_mod_right,
          Nat.mod_eq_of_lt (by omega)]
      rw [hmod]
    obtain ⟨hsend1, hkeep1⟩ := socketSendAllT2hData_sends ip (base + off) first s
      (Nat.le_add_right _ _) (by omega) h32
      (fun k hk => hin1 k hk ▸ hheld k (by omega))
    have hbytes : (List.range len).map (fun i => ip.mem s.dev (base + (off + i) % span))
        = ((List.range first).map fun k => ip.mem s.dev (base + off + k))
          ++ (List.range second).map fun k => ip.mem
            (socketSendAllT2hData io .t2hData (base + off) first s).2.dev (base + k) := by
      rw [show len = first + second by omega, List.range_add, List.map_append, List.map_map]
      congr 1
      · exact List.map_congr_left fun k hk => by rw [hin1 k (List.mem_range.mp hk)]
      · refine List.map_congr_left fun k hk => ?_
        have hk' := List.mem_range.mp hk
        have hmem := hheld (first + k) (by omega)
        rw [hin2 k hk'] at hmem
        rw [Function.comp_apply, hin2 k hk', (hkeep1 _ hmem).1]
    rw [hbytes]
    refine hsend1.andThen fun _ => ?_
    refine (socketSendAllT2hData_sends ip base second _ le_rfl (by omega) h32 fun k hk => ?_).1
    have hmem := hheld (first + k) (by omega)
    rw [hin2 k hk] at hmem
    exact (hkeep1 _ hmem).2
  · rw [hunsplit (by omega)]
    have hin : ∀ k, k < len → base + (off + k) % span = base + off + k := by
      intro k hk
      rw [Nat.mod_eq_of_lt (by omega), Nat.add_assoc]
    have hsend := (socketSendAllT2hData_sends ip (base + off) len s (Nat.le_add_right _ _) (by omega)
      h32 (fun k hk => hin k hk ▸ hheld k hk)).1
    have hbytes : (List.range len).map (fun i => ip.mem s.dev (base + (off + i) % span))
        = (List.range len).map fun k => ip.mem s.dev (base + off + k) :=
      List.map_congr_left fun k hk => by rw [hin k (List.mem_range.mp hk)]
    rwa [hbytes]

/-! ## One call -/

theorem howLong_mask (w : Nat) : w % 2 ^ 32 &&& stDbgIpHowLongMask = w % 2 ^ 31 := by
  rw [show stDbgIpHowLongMask = 2 ^ 31 - 1 from rfl, Nat.and_two_pow_sub_one_eq_mod]
  omega

theorem acquire_empty (base : Nat) {w : Nat} (header : H2tPacketHeader) (sop : Bool)
    (h : w % 2 ^ 31 % 2 ^ 16 = 0) :
    acquire base w header sop = ({ header with dataLenBytes := 0 }, none, sop) := by
  have hlen : UInt16.ofNat (w % 2 ^ 31) = 0 := by
    rw [← UInt16.toNat_inj, UInt16.toNat_ofNat', h]
    rfl
  unfold acquire
  dsimp only
  rw [howLong_mask, if_pos hlen]

theorem acquire_data (base : Nat) {w : Nat} (header : H2tPacketHeader) (sop : Bool)
    (hne : w % 2 ^ 31 % 2 ^ 16 ≠ 0) :
    ∃ header' sop', acquire base w header sop
        = (header', some ((w / 2 ^ 32 % 2 ^ 32 + base) % 2 ^ 32), sop') ∧
      header'.dataLenBytes.toNat = w % 2 ^ 31 % 2 ^ 16 := by
  have hlen : (UInt16.ofNat (w % 2 ^ 31)).toNat = w % 2 ^ 31 % 2 ^ 16 := UInt16.toNat_ofNat'
  have hne' : UInt16.ofNat (w % 2 ^ 31) ≠ 0 := by
    intro h0
    rw [h0] at hlen
    exact hne hlen.symm
  unfold acquire
  dsimp only
  rw [howLong_mask, if_neg hne']
  exact ⟨_, _, rfl, hlen⟩

/-- A length that vanishes in the header is taken for no data. -/
theorem getT2hData_empty (info : DesignInfo) (header : H2tPacketHeader) (drv : Driver) {d : D}
    (h : (frontT2h io d).howLong % 2 ^ 16 = 0) :
    ∃ header', getT2hData io info header drv d
      = (header', none, drv, (io.read64 stDbgIpT2hHowLong d).2) := by
  have h' : (io.read64 stDbgIpT2hHowLong d).1 % 2 ^ 31 % 2 ^ 16 = 0 := h
  unfold getT2hData
  dsimp only
  rw [acquire_empty _ _ _ h']
  exact ⟨_, rfl⟩

/-- The header has the low 16 bits of the length of the presented descriptor, and the payload is where
it says. -/
theorem getT2hData_data (info : DesignInfo) (header : H2tPacketHeader) (drv : Driver) {d : D}
    (hne : (frontT2h io d).howLong % 2 ^ 16 ≠ 0) :
    ∃ header' sop, getT2hData io info header drv d
        = (header', some (((frontT2h io d).addr % 2 ^ 32 + info.t2hMemBaseAddr) % 2 ^ 32),
          { drv with t2hSop := sop },
          (io.read64 stDbgIpT2hConnectionId (io.read64 stDbgIpT2hHowLong d).2).2) ∧
      header'.dataLenBytes.toNat = (frontT2h io d).howLong % 2 ^ 16 := by
  obtain ⟨header', sop', hacq, hlen⟩ := acquire_data info.t2hMemBaseAddr header drv.t2hSop hne
  unfold getT2hData
  dsimp only
  rw [show (io.read64 stDbgIpT2hHowLong d).1 = (frontT2h io d).howlongWhere from rfl, hacq]
  exact ⟨_, _, rfl, hlen⟩

/-- What a call of `process_t2h_data` puts on the wire: the packet of the presented descriptor and its
completion, or a failure with a proper prefix of the packet. -/
structure T2hOutcome (ip : T2hIp io cfg.info) (s : Srv D) (x : ReturnCode × Srv D) : Prop where
  outcome : (x.1 = .ok ∧ wire x.2.log = wire s.log ++ (ip.presented s).flatMap wirePacket) ∨
    (x.1 = .failure ∧ ∃ packet sent, ip.presented s = [packet] ∧ sent <+: packet ∧ sent ≠ packet ∧
      wire x.2.log = wire s.log ++ sent.map some)
  accept : AllAccept (s.client .t2hData).tx → x.1 = .ok ∧ AllAccept (x.2.client .t2hData).tx
  guardband : GuardbandSet x.2.conn.t2hHeaderBuff

theorem processT2hData_outcome (hok : T2hWindowOk cfg.info) (ip : T2hIp io cfg.info) (s : Srv D)
    (hguard : GuardbandSet s.conn.t2hHeaderBuff) (hvalid : ValidFront io cfg.info s.dev) :
    T2hOutcome ip s (processT2hData io cfg s) := by
  unfold processT2hData
  dsimp only
  by_cases hne : (frontT2h io s.dev).howLong = 0
  · obtain ⟨header, hget⟩ :=
      getT2hData_empty cfg.info (headerOf s.conn.t2hHeaderBuff) s.drv
        (by rw [hne, Nat.zero_mod])
    rw [hget]
    refine ⟨Or.inl ⟨rfl, ?_⟩, fun hacc => ⟨rfl, hacc⟩, hguard.putHeader _⟩
    simp [T2hIp.presented, hne]
  · obtain ⟨h16, hsize, haddr⟩ := hvalid.resolve_left hne
    obtain ⟨header, sop, hget, hlen⟩ :=
      getT2hData_data cfg.info (headerOf s.conn.t2hHeaderBuff) s.drv
        (by rwa [Nat.mod_eq_of_lt h16])
    rw [Nat.mod_eq_of_lt h16] at hlen
    have h31 : cfg.info.t2hMemBaseAddr + cfg.info.t2hMemSz ≤ 2 ^ 31 := hok
    have hbuff : ((frontT2h io s.dev).addr % 2 ^ 32 + cfg.info.t2hMemBaseAddr) % 2 ^ 32
        = cfg.info.t2hMemBaseAddr + (frontT2h io s.dev).addr := by omega
    rw [hbuff] at hget
    have hpres : ip.presented s = [packetGuardband ++ header.toBytes ++ ip.payload s.dev] := by
      unfold T2hIp.presented
      rw [if_neg hne, hget]
    set d := (io.read64 stDbgIpT2hConnectionId (io.read64 stDbgIpT2hHowLong s.dev).2).2
    have hkeep : ip.Keeps s.dev d := T2hIp.Keeps.trans (fun a ha => ip.keeps _ _ a ha)
      fun a ha => ip.keeps _ _ a ha
    rw [hget]
    dsimp only
    set s1 : Srv D := { s with
      conn := { s.conn with t2hHeaderBuff := putHeader s.conn.t2hHeaderBuff header }
      drv := { s.drv with t2hSop := sop }
      dev := d }
    have hguard1 : GuardbandSet s1.conn.t2hHeaderBuff := hguard.putHeader header
    have hheader : (putHeader s.conn.t2hHeaderBuff header).bytes
        = packetGuardband ++ header.toBytes := hguard.putHeader_bytes header
    have hpayload : ip.payload s.dev = (List.range header.dataLenBytes.toNat).map fun i =>
        ip.mem d (cfg.info.t2hMemBaseAddr
          + ((frontT2h io s.dev).addr + i) % cfg.info.t2hMemSz) := by
      rw [hlen]
      refine List.map_congr_left fun i hi => ?_
      exact ((hkeep _ (ip.held_front s.dev i (List.mem_range.mp hi))).1).symm
    rw [hheader]
    have hsend := (sendAll_sends (packetGuardband ++ header.toBytes) s1).andThen fun _ =>
      sendT2hPayload_sends hok ip (frontT2h io s.dev).addr header.dataLenBytes.toNat
        (s1.sendAll .t2hData (packetGuardband ++ header.toBytes)).2 haddr (hlen ▸ hsize)
        (hlen ▸ h16) fun i hi =>
          (hkeep _ (ip.held_front s.dev i (hlen ▸ hi))).2
    rw [show (s1.sendAll .t2hData (packetGuardband ++ header.toBytes)).2.dev = d from rfl,
      ← hpayload] at hsend
    by_cases hy : (s1.sendAll .t2hData (packetGuardband ++ header.toBytes)).1 = .ok
    · rw [if_pos hy] at hsend ⊢
      generalize sendT2hPayload io cfg _ _ _ = z at hsend ⊢
      rcases hsend.outcome with ⟨hz, hwire⟩ | ⟨hz, sent, hpre, hproper, hwire⟩
      · rw [if_pos hz]
        refine ⟨Or.inl ⟨rfl, ?_⟩, fun hacc => ⟨rfl, (hsend.accept hacc).2⟩, ?_⟩
        · have hlog : wire (z.2.log ++ [.t2hDataComplete]) = wire z.2.log ++ [none] := wire_append _ _
          rw [hpres, List.flatMap_singleton, wirePacket, ← List.append_assoc]
          exact hlog.trans (congrArg (· ++ [none]) hwire)
        · rw [← hsend.conn] at hguard1
          exact hguard1
      · have hnok : z.1 ≠ .ok := by
          rw [hz]
          decide
        rw [if_neg hnok]
        refine ⟨Or.inr ⟨hz, _, sent, hpres, hpre, hproper, hwire⟩, ?_, hsend.conn ▸ hguard1⟩
        intro hacc
        exact absurd (hsend.accept hacc).1 hnok
    · rw [if_neg hy] at hsend ⊢
      rcases hsend.outcome with ⟨hok', -⟩ | ⟨hfail, sent, hpre, hproper, hwire⟩
      · exact absurd hok' hy
      · refine ⟨Or.inr ⟨hfail, _, sent, hpres, hpre, hproper, hwire⟩, ?_, hsend.conn ▸ hguard1⟩
        intro hacc
        exact absurd (hsend.accept hacc).1 hy

/-! ## The guardband -/

/-- **Guardband**: no change leaves the guardband of the T2H header unset. -/
theorem frames_guardband (io : Mmio D) : Frames io Set.univ fun s s' =>
    GuardbandSet s.conn.t2hHeaderBuff → GuardbandSet s'.conn.t2hHeaderBuff where
  refl _ := id
  trans h h' := h' ∘ h
  change := by
    intro part s s' _ hchange hguard
    cases hchange with
    | t2hHeader s header => exact hguard.putHeader header
    | _ => exact hguard

/-- `initialize_server` fills the guardband once, and in every run of the server it stays. -/
theorem guardbandSet_reach {may : D → D → Prop} {start : Srv D} {st : ServerState D}
    (hstart : start.conn = serverConnStart)
    (hrun : Reach (CallStep io cfg may) always ⟨start, false⟩ st) :
    GuardbandSet st.srv.conn.t2hHeaderBuff := by
  refine hrun.invariant (fun st => GuardbandSet st.srv.conn.t2hHeaderBuff) ?_ ?_
  · intro st a st' hguard _ hstep
    exact (frames_guardband io).changes (changes_step hstep) (Set.subset_univ _) hguard
  · show GuardbandSet start.conn.t2hHeaderBuff
    rw [hstart]
    rfl

/-! ## Runs -/

/-- **The T2H socket**: after any run of successful calls the T2H socket has carried exactly the
packets of the presented descriptors, in order and each followed by its completion. The next call
either adds its packet, or fails with a proper prefix of it and without the completion; it succeeds if
every `send` accepts something. -/
theorem t2h_wire (ip : T2hIp io cfg.info) (hok : T2hWindowOk cfg.info) (s0 : Srv D)
    {s : T2hState D} (hguard : GuardbandSet s0.conn.t2hHeaderBuff)
    (hrun : Reach (T2hStep cfg ip) always ⟨s0, []⟩ s) :
    wire s.srv.log = wire s0.log ++ s.acquired.flatMap wirePacket ∧
      (ValidFront io cfg.info s.srv.dev → T2hOutcome ip s.srv (processT2hData io cfg s.srv)) := by
  have hinv : wire s.srv.log = wire s0.log ++ s.acquired.flatMap wirePacket ∧
      GuardbandSet s.srv.conn.t2hHeaderBuff := by
    refine hrun.invariant (fun s => wire s.srv.log = wire s0.log ++ s.acquired.flatMap wirePacket ∧
      GuardbandSet s.srv.conn.t2hHeaderBuff) ?_ ⟨by simp, hguard⟩
    rintro s a s' ⟨hwire, hguard⟩ - hs
    cases hs with
    | @process s' hvalid hcall =>
      have hcase := processT2hData_outcome hok ip s.srv hguard hvalid
      rw [hcall] at hcase
      refine ⟨?_, hcase.guardband⟩
      rcases hcase.outcome with ⟨-, hnew⟩ | ⟨hfail, -⟩
      · rw [hnew, hwire, List.flatMap_append, List.append_assoc]
      · cases hfail
    | hardware d => exact ⟨hwire, hguard⟩
  exact ⟨hinv.1, fun hvalid => processT2hData_outcome hok ip s.srv hinv.2 hvalid⟩

/-- The server when the small debug IP presents four bytes that wrap at the end of the window. -/
def DebugIp.presenting : Srv DebugIp :=
  { DebugIp.session DebugIp.idle (fun _ => []) (DebugIp.only .t2hData [.accept 3, .accept 9]) with
    dev := .start [⟨2 ^ 31 + 4 + 65534 * 2 ^ 32, 7⟩] [] fun a => UInt8.ofNat a }

/-- The server behind the handshake with a client that takes three bytes and then nine. -/
def DebugIp.t2hConnected : ServerState DebugIp :=
  .connect debugIp DebugIp.design (DebugIp.listening
    ((DebugIp.clientSockets 1 fun _ => []).map fun c =>
      c.map fun c => { c with tx := [.accept 16, .accept 3, .accept 9] }) [])

/-- The IP presents four bytes that wrap at the end of the window, and behind them one byte. -/
def DebugIp.twoDescriptors : DebugIp :=
  .start [⟨2 ^ 31 + 4 + 65534 * 2 ^ 32, 7⟩, ⟨2 ^ 31 + 1 + 5 * 2 ^ 32, 7⟩] [] fun a => UInt8.ofNat a

def DebugIp.presentingTwo : Srv DebugIp := { DebugIp.t2hConnected.srv with dev := twoDescriptors }

/-- Behind the first packet the IP presents the second descriptor. -/
def DebugIp.firstDone : Srv DebugIp := (processT2hData debugIp DebugIp.design DebugIp.presentingTwo).2

theorem t2h_wire_two :
    (DebugIp.t2hIp.presented DebugIp.firstDone).length = 1 ∧
      wire (processT2hData debugIp DebugIp.design DebugIp.firstDone).2.log
        = wire DebugIp.t2hConnected.srv.log ++ (DebugIp.t2hIp.presented DebugIp.presentingTwo
            ++ DebugIp.t2hIp.presented DebugIp.firstDone).flatMap wirePacket := by
  have hconnect : Reach (CallStep debugIp DebugIp.design fun _ _ => False) always _
      DebugIp.t2hConnected := .single trivial (.connect _)
  have hguard : GuardbandSet DebugIp.t2hConnected.srv.conn.t2hHeaderBuff :=
    guardbandSet_reach rfl hconnect
  have hfirst : (processT2hData debugIp DebugIp.design DebugIp.presentingTwo).1 = .ok := by
    decide +kernel
  have hsecond : (processT2hData debugIp DebugIp.design DebugIp.firstDone).1 = .ok := by
    decide +kernel
  have hvalid : ValidFront debugIp DebugIp.design.info DebugIp.presentingTwo.dev :=
    Or.inr ⟨by decide +kernel, by decide +kernel, by decide +kernel⟩
  have hvalid' : ValidFront debugIp DebugIp.design.info DebugIp.firstDone.dev :=
    Or.inr ⟨by decide +kernel, by decide +kernel, by decide +kernel⟩
  have hlength : (DebugIp.t2hIp.presented DebugIp.firstDone).length = 1 := by decide +kernel
  refine ⟨hlength, ?_⟩
  -- From here on it does not matter which server has connected.
  unfold DebugIp.firstDone DebugIp.presentingTwo at hsecond hvalid' ⊢
  unfold DebugIp.presentingTwo at hfirst hvalid
  generalize DebugIp.t2hConnected.srv = s0 at hguard hfirst hsecond hvalid hvalid' ⊢
  have hpresenting : Reach (T2hStep DebugIp.design DebugIp.t2hIp) always ⟨s0, []⟩ _ :=
    .single trivial (.hardware ⟨s0, []⟩ DebugIp.twoDescriptors)
  have hdone := hpresenting.tail trivial (.process hvalid (Prod.ext hfirst rfl))
  have hall := hdone.tail trivial (.process hvalid' (Prod.ext hsecond rfl))
  exact (t2h_wire DebugIp.t2hIp (by unfold T2hWindowOk; decide) s0 hguard hall).1

end RemoteDebug
