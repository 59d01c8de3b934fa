import RemoteDebug.Hardware.T2hStreamRun
import RemoteDebug.Proofs.T2hLengthProofs
import RemoteDebug.Proofs.HandshakeProofs
import RemoteDebug.Proofs.MainLoopProofs
import RemoteDebug.Proofs.QuietProofs

/-!
# Proofs: the stream of the T2H socket

Two parts of the server use the T2H socket in a session: the echo and `process_t2h_data`. Both send packets
whose headers announce what follows, also where the length of a descriptor does not fit into the header.
-/

namespace RemoteDebug

open Bytes CString Script PrefixCode

variable {D : Type} {io : Mmio D} {cfg : Config} {s s' s'' : Srv D} {packets packets' : List H2tPacket}
  {rest : List UInt8} {lasts : Prop}

/-! ## Packets as codewords -/

theorem H2tPacket.ext_bytes {p q : H2tPacket} (hhead : p.head.bytes = q.head.bytes)
    (hpayload : p.payload = q.payload) : p = q := by
  obtain ⟨⟨b, hb⟩, payload, hlen⟩ := p
  obtain ⟨⟨b', hb'⟩, payload', hlen'⟩ := q
  obtain rfl : b = b' := hhead
  obtain rfl : payload = payload' := hpayload
  rfl

/-- The length of the payload, from the bytes of the header. -/
def announced (head : List UInt8) : Nat := (le16 (head.getD 8 0) (head.getD 9 0)).toNat

/-- **Packets** are self-delimiting. -/
theorem prefixFree_packets : PrefixFree H2tPacket.bytes :=
  prefixFree_of_head (fun p : H2tPacket => p.head.bytes) H2tPacket.payload announced (n := 10)
    (by omega) (fun p => p.head.size) (fun p => p.len_eq) fun _ _ => H2tPacket.ext_bytes

theorem unfinished_nil : Unfinished H2tPacket.bytes [] :=
  prefixFree_packets.unfinished_nil ⟨.zero _, [], rfl⟩

/-! ## Parts that send -/

theorem T2hQuiet.carries (h : T2hQuiet s s') : T2hCarries [] [] s s' := by
  refine ⟨?_, unfinished_nil, ?_⟩
  · rw [h.bytes]
    exact (List.append_nil _).symm
  · intro hacc
    exact ⟨h.tx ▸ hacc, rfl⟩

theorem T2hCarries.trans (h : T2hCarries packets [] s s') (h' : T2hCarries packets' rest s' s'') :
    T2hCarries (packets ++ packets') rest s s'' := by
  refine ⟨?_, h'.unfinished, ?_⟩
  · rw [h'.bytes, h.bytes, List.append_nil, List.flatMap_append]
    simp only [List.append_assoc]
  · intro hacc
    exact h'.accept (h.accept hacc).1

theorem T2hCarries.quiet (h : T2hCarries packets rest s s') (h' : T2hQuiet s' s'') :
    T2hCarries packets rest s s'' := by
  refine ⟨h'.bytes.trans h.bytes, h.unfinished, ?_⟩
  intro hacc
  obtain ⟨hacc', hrest⟩ := h.accept hacc
  exact ⟨h'.tx ▸ hacc', hrest⟩

theorem T2hQuiet.then (h : T2hQuiet s s') (h' : CarriesPackets s' lasts s'') :
    CarriesPackets s lasts s'' := by
  obtain ⟨packets, rest, hcarries, hlasts⟩ := h'
  exact ⟨packets, rest, h.carries.trans hcarries, hlasts⟩

theorem T2hQuiet.carriesPackets (h : T2hQuiet s s') : CarriesPackets s lasts s' :=
  ⟨[], [], h.carries, fun _ => rfl⟩

/-- A packet that is sent goes out whole, or the call fails. -/
theorem Sends.carriesPackets {p : H2tPacket} {y : ReturnCode × Srv D} (h : Sends p.bytes s y) :
    CarriesPackets s (y.1 ≠ .failure) y.2 := by
  have hbytes (bs : List UInt8) (hwire : wire y.2.log = wire s.log ++ bs.map some) :
      t2hBytes y.2.log = t2hBytes s.log ++ bs := by
    unfold t2hBytes
    rw [hwire, List.reduceOption_append, reduceOption_some]
  rcases h.outcome with ⟨hok, hwire⟩ | ⟨hfail, sent, hpre, hne, hwire⟩
  · refine ⟨[p], [], ⟨?_, unfinished_nil, fun hacc => ⟨(h.accept hacc).2, rfl⟩⟩, fun _ => rfl⟩
    rw [hbytes _ hwire, List.flatMap_singleton, List.append_nil]
  · refine ⟨[], sent, ⟨hbytes _ hwire, ⟨p, hpre, hne⟩, ?_⟩, ?_⟩
    · intro hacc
      have hok := (h.accept hacc).1
      rw [hfail] at hok
      cases hok
    · intro hlasts
      exact absurd hfail hlasts

/-- An echo is a packet: the header that was received announces the bytes that are read back. -/
theorem carries_pushOrLoopbackH2t (buff : Nat) (s : Srv D) :
    CarriesPackets s
      ((pushOrLoopbackH2t io (headerOf s.conn.h2tHeaderBuff) buff s).1 ≠ .failure)
      (pushOrLoopbackH2t io (headerOf s.conn.h2tHeaderBuff) buff s).2 := by
  by_cases hmode : s.conn.loopbackMode = false
  · unfold pushOrLoopbackH2t
    rw [if_pos hmode]
    dsimp only
    apply T2hQuiet.carriesPackets
    apply T2hQuiet.record
    · exact ⟨rfl, rfl⟩
    · rfl
  · have hsends := pushOrLoopbackH2t_sends io (headerOf s.conn.h2tHeaderBuff) buff
      (by simpa using hmode)
    obtain ⟨p, hp⟩ : ∃ p : H2tPacket, p.bytes = s.conn.h2tHeaderBuff.bytes ++ readBytes
        (memcpy64Fpga2host io buff (headerOf s.conn.h2tHeaderBuff).dataLenBytes.toNat s.sendBuff
          s.dev).1.bytes 0 (headerOf s.conn.h2tHeaderBuff).dataLenBytes.toNat :=
      ⟨⟨s.conn.h2tHeaderBuff, _, readBytes_length _ _ _⟩, rfl⟩
    rw [← hp] at hsends
    exact hsends.carriesPackets

theorem carries_h2t {y : ReturnCode × Srv D} (h : processH2tData io cfg s = some y) :
    CarriesPackets s (y.1 ≠ .failure) y.2 := by
  have hhead : T2hQuiet s (updateCurrH2tHeader s).2 :=
    (frames_quiet io).changes (changes_updateCurrH2tHeader s)
      (by simp [t2hSocketParts, Set.insert_subset_iff])
  rcases processH2tData_cases h with ⟨rfl, -⟩ | ⟨s₁, buff, s₂, heq, hpoll, hcases⟩
  · exact hhead.carriesPackets
  · rw [heq] at hhead
    have hpolled := hhead.trans ((frames_quiet io).changes (changes_pollH2tBuffer hpoll)
      (by simp [t2hSocketParts, Set.insert_subset_iff]))
    rcases hcases with ⟨-, rfl⟩ | ⟨-, rfl⟩
    · exact T2hQuiet.carriesPackets ⟨hpolled.bytes, hpolled.tx⟩
    · have hrecv := recvH2tPayload_frame io cfg buff (headerOf s₁.conn.h2tHeaderBuff).dataLenBytes.toNat
        (s₂.setH2tWaiting false)
      have hquiet := (frames_quiet io).changes (changes_recvH2tPayload cfg buff
        (headerOf s₁.conn.h2tHeaderBuff).dataLenBytes.toNat (s₂.setH2tWaiting false))
        (by simp [t2hSocketParts, Set.insert_subset_iff])
      generalize (recvH2tPayload io cfg buff (headerOf s₁.conn.h2tHeaderBuff).dataLenBytes.toNat
        (s₂.setH2tWaiting false)).2 = s₃ at hrecv hquiet ⊢
      have hwaits : T2hQuiet s (s₂.setH2tWaiting false) := ⟨hpolled.bytes, hpolled.tx⟩
      have hbuff : s₁.conn.h2tHeaderBuff = s₃.conn.h2tHeaderBuff := by
        rw [hrecv.conn, ← (pollH2tBuffer_frame hpoll).1]
        rfl
      rw [hbuff]
      exact (hwaits.trans hquiet).then (carries_pushOrLoopbackH2t buff s₃)

/-- A descriptor whose length does not vanish in the header. -/
theorem getT2hData_some {info : DesignInfo} {header header' : H2tPacketHeader} {buff : Nat}
    {drv drv' : Driver} {d d' : D}
    (h : getT2hData io info header drv d = (header', some buff, drv', d')) :
    (frontT2h io d).howLong ≠ 0 ∧
      buff = ((frontT2h io d).addr % 2 ^ 32 + info.t2hMemBaseAddr) % 2 ^ 32 := by
  by_cases hlen : (frontT2h io d).howLong % 2 ^ 16 = 0
  · obtain ⟨_, hempty⟩ := getT2hData_empty info header drv hlen
    rw [hempty] at h
    cases h
  · obtain ⟨_, _, hdata, -⟩ := getT2hData_data info header drv hlen
    rw [hdata] at h
    obtain ⟨-, hbuff, -⟩ := by simpa only [Prod.mk.injEq, Option.some.injEq] using h
    refine ⟨?_, hbuff.symm⟩
    intro hzero
    exact hlen (by rw [hzero, Nat.zero_mod])

theorem carries_t2h (h64 : cfg.info.t2hMemBaseAddr + cfg.info.t2hMemSz + 2 ^ 16 ≤ 2 ^ 64)
    (hfront : FrontsInside io cfg.info) (s : Srv D) :
    CarriesPackets s ((processT2hData io cfg s).1 ≠ .failure) (processT2hData io cfg s).2 := by
  obtain ⟨⟨header, buff, drv, d⟩, hget⟩ :
      ∃ y, getT2hData io cfg.info (headerOf s.conn.t2hHeaderBuff) s.drv s.dev = y := ⟨_, rfl⟩
  obtain ⟨s₁, hs₁⟩ : ∃ s₁ : Srv D, { s with
      conn := { s.conn with t2hHeaderBuff := putHeader s.conn.t2hHeaderBuff header }
      drv := drv
      dev := d } = s₁ := ⟨_, rfl⟩
  have hquiet : T2hQuiet s s₁ := by
    rw [← hs₁]
    exact ⟨rfl, rfl⟩
  unfold processT2hData
  rw [hget]
  dsimp only
  rw [hs₁]
  cases buff with
  | none => exact hquiet.carriesPackets
  | some buff =>
    dsimp only
    obtain ⟨hne, hbuff⟩ := getT2hData_some hget
    have haddr := hfront s.dev hne
    have hlt : buff < cfg.info.t2hMemBaseAddr + cfg.info.t2hMemSz := by
      have hle := Nat.mod_le (frontT2h io s.dev).addr (2 ^ 32)
      have hle' := Nat.mod_le ((frontT2h io s.dev).addr % 2 ^ 32 + cfg.info.t2hMemBaseAddr) (2 ^ 32)
      omega
    apply hquiet.then
    have hhead := sendAll_sends (putHeader s.conn.t2hHeaderBuff header).bytes s₁
    generalize s₁.sendAll .t2hData (putHeader s.conn.t2hHeaderBuff header).bytes = y at hhead ⊢
    obtain ⟨payload, hlength, hpayload⟩ :=
      sendT2hPayload_length io h64 header.dataLenBytes.toNat_lt hlt y.2
    obtain ⟨p, hp⟩ : ∃ p : H2tPacket,
        p.bytes = (putHeader s.conn.t2hHeaderBuff header).bytes ++ payload :=
      ⟨⟨putHeader s.conn.t2hHeaderBuff header, payload, by rw [headerOf_putHeader]; exact hlength⟩, rfl⟩
    have hboth := hhead.andThen fun _ => hpayload
    rw [← hp] at hboth
    have hcarries := hboth.carriesPackets
    by_cases hy : y.1 = .ok
    · rw [if_pos hy] at hcarries ⊢
      generalize sendT2hPayload io cfg buff header.dataLenBytes.toNat y.2 = z at hcarries ⊢
      by_cases hz : z.1 = .ok
      · rw [if_pos hz]
        rw [hz] at hcarries
        obtain ⟨packets, rest, hcarried, hlasts⟩ := hcarries
        refine ⟨packets, rest, hcarried.quiet ?_, hlasts⟩
        apply T2hQuiet.record
        · exact ⟨rfl, rfl⟩
        · rfl
      · rw [if_neg hz]
        exact hcarries
    · rw [if_neg hy] at hcarries ⊢
      exact hcarries

/-! ## The main loop -/

/-- What follows a part behind which the session lasts. -/
theorem CarriesPackets.then {lasts' : Prop} (h : CarriesPackets s lasts s') (hlasts : lasts)
    (h' : CarriesPackets s' lasts' s'') : CarriesPackets s lasts' s'' := by
  obtain ⟨packets, rest, hcarries, hrest⟩ := h
  obtain ⟨packets', rest', hcarries', hrest'⟩ := h'
  obtain rfl := hrest hlasts
  exact ⟨packets ++ packets', rest', hcarries.trans hcarries', hrest'⟩

theorem CarriesPackets.mono {lasts' : Prop} (h : CarriesPackets s lasts s') (hlasts : lasts' → lasts) :
    CarriesPackets s lasts' s' := by
  obtain ⟨packets, rest, hcarries, hrest⟩ := h
  exact ⟨packets, rest, hcarries, fun h => hrest (hlasts h)⟩

theorem CarriesPackets.quiet (h : CarriesPackets s lasts s') (h' : T2hQuiet s' s'') :
    CarriesPackets s lasts s'' := by
  obtain ⟨packets, rest, hcarries, hrest⟩ := h
  exact ⟨packets, rest, hcarries.quiet h', hrest⟩

theorem carries_rule (h64 : cfg.info.t2hMemBaseAddr + cfg.info.t2hMemSz + 2 ^ 16 ≤ 2 ^ 64)
    (hfront : FrontsInside io cfg.info) :
    LoopRule io cfg fun lasts s s' => CarriesPackets s lasts s' where
  compose := fun h hlasts h' => h.then hlasts h'
  mono := fun h hlasts => h.mono hlasts
  refl := fun _ s => (T2hQuiet.refl s).carriesPackets
  selects := fun h _ => h.quiet ⟨rfl, rfl⟩
  reject := fun s => ((frames_quiet io).changes (changes_rejectClient s)
    (by simp [t2hSocketParts, Set.insert_subset_iff])).carriesPackets
  control := fun h => ((frames_quiet io).changes (changes_control h)
    (by simp [controlParts, parameterParts, t2hSocketParts, Set.insert_subset_iff])).carriesPackets
  mgmt := fun h => ((frames_quiet io).changes (changes_mgmt h)
    (by simp [mgmtParts, t2hSocketParts, Set.insert_subset_iff])).carriesPackets
  h2t := fun h => carries_h2t h
  mgmtRsp := fun s => ((frames_quiet io).changes (changes_mgmtRsp s)
    (by simp [mgmtRspParts, t2hSocketParts, Set.insert_subset_iff])).carriesPackets
  t2h := fun s => carries_t2h h64 hfront s

/-! ## The handshake -/

/-- From `s` to `s'` nothing has been sent on a T2H socket; connections have been accepted at most. -/
structure Silent (s s' : Srv D) : Prop where
  bytes : t2hBytes s'.log = t2hBytes s.log
  accepts : s'.env.accepts <:+ s.env.accepts

theorem Silent.refl (s : Srv D) : Silent s s := ⟨rfl, List.suffix_refl _⟩

theorem Silent.trans (h : Silent s s') (h' : Silent s' s'') : Silent s s'' :=
  ⟨h'.bytes.trans h.bytes, h'.accepts.trans h.accepts⟩

theorem Silent.clients (h : Silent s s') (haccept : ClientsAccept s) : ClientsAccept s' :=
  fun c hc => haccept c (h.accepts.subset hc)

theorem frames_silent (io : Mmio D) : Frames io {.send .t2hData}ᶜ Silent where
  refl := Silent.refl
  trans := Silent.trans
  change := by
    intro part s s' hpart hchange
    cases hchange with
    | record s e => exact ⟨t2hBytes_record s (by simpa using hpart), List.suffix_refl _⟩
    | connections s accepts h => exact ⟨rfl, h⟩
    | env s env h => exact ⟨rfl, h ▸ List.suffix_refl _⟩
    | _ => exact ⟨rfl, List.suffix_refl _⟩

/-- The ways through the comparison of the handle message: `s₁` is the state behind its reception. -/
theorem verifyHandle_cases (handle : Nat) (s : Srv D) :
    ∃ s₁, T2hQuiet s s₁ ∧ s₁.env = s.env ∧
      (verifyHandle .t2hData handle s = s₁.sendAll .t2hData (message readyMsg readyMsgLen) ∨
        verifyHandle .t2hData handle s =
          (.failure, (s₁.sendAll .t2hData (message notReadyMsg notReadyMsgLen)).2) ∨
        verifyHandle .t2hData handle s = (.failure, s₁)) := by
  have hrecv (rx : List RecvEvent) (conn : ServerConn) :
      T2hQuiet s { s.setRx .t2hData rx with conn := conn } := ⟨rfl, by simp [Srv.setRx]⟩
  unfold verifyHandle
  dsimp only
  split
  · split
    · exact ⟨_, hrecv _ _, rfl, .inl rfl⟩
    · exact ⟨_, hrecv _ _, rfl, .inr (.inl rfl)⟩
  · exact ⟨_, hrecv _ _, rfl, .inr (.inr rfl)⟩

/-- From `s` to `y` the T2H socket has been connected: the answer to its handle has gone out. -/
structure Greeted (s : Srv D) (y : ReturnCode × Srv D) : Prop where
  outcome : ∃ hello, Greets hello ∧ t2hBytes y.2.log = t2hBytes s.log ++ hello ∧
    (y.1 = .ok → hello = message readyMsg readyMsgLen)
  accept : y.1 = .ok → ClientsAccept s → AllAccept (y.2.client .t2hData).tx

theorem Silent.greeted {y : ReturnCode × Srv D} (h : Silent s y.2) (hy : y.1 ≠ .ok) : Greeted s y := by
  refine ⟨⟨[], .inl List.nil_prefix, ?_, fun hok => absurd hok hy⟩, fun hok => absurd hok hy⟩
  rw [h.bytes, List.append_nil]

theorem Silent.then {y : ReturnCode × Srv D} (h : Silent s s') (h' : Greeted s' y) : Greeted s y := by
  obtain ⟨⟨hello, hgreets, hbytes, hready⟩, haccept⟩ := h'
  refine ⟨⟨hello, hgreets, ?_, hready⟩, fun hok hclients => haccept hok (h.clients hclients)⟩
  rw [hbytes, h.bytes]

/-- An answer of which all bytes have gone out, or some. -/
theorem Sends.greets {bs : List UInt8} {y : ReturnCode × Srv D} (h : Sends bs s y) :
    ∃ hello, hello <+: bs ∧ t2hBytes y.2.log = t2hBytes s.log ++ hello ∧ (y.1 = .ok → hello = bs) := by
  have hbytes (sent : List UInt8) (hwire : wire y.2.log = wire s.log ++ sent.map some) :
      t2hBytes y.2.log = t2hBytes s.log ++ sent := by
    unfold t2hBytes
    rw [hwire, List.reduceOption_append, reduceOption_some]
  rcases h.outcome with ⟨hok, hwire⟩ | ⟨hfail, sent, hpre, -, hwire⟩
  · exact ⟨bs, List.prefix_refl _, hbytes _ hwire, fun _ => rfl⟩
  · refine ⟨sent, hpre, hbytes _ hwire, fun hok => ?_⟩
    rw [hok] at hfail
    cases hfail

theorem greeted_verifyHandle (handle : Nat) {s₀ : Srv D} (hsilent : Silent s₀ s)
    (haccept : ClientsAccept s₀ → AllAccept (s.client .t2hData).tx) :
    Greeted s₀ (verifyHandle .t2hData handle s) := by
  obtain ⟨s₁, hquiet, henv, hcases⟩ := verifyHandle_cases handle s
  have hbytes₁ : t2hBytes s₁.log = t2hBytes s₀.log := hquiet.bytes.trans hsilent.bytes
  rcases hcases with heq | heq | heq
  · rw [heq]
    have hsend := sendAll_sends (message readyMsg readyMsgLen) s₁
    obtain ⟨hello, hpre, hbytes, hall⟩ := hsend.greets
    refine ⟨⟨hello, .inl hpre, hbytes₁ ▸ hbytes, hall⟩, ?_⟩
    intro _ hclients
    exact (hsend.accept (hquiet.tx ▸ haccept hclients)).2
  · rw [heq]
    obtain ⟨hello, hpre, hbytes, -⟩ := (sendAll_sends (message notReadyMsg notReadyMsgLen) s₁).greets
    exact ⟨⟨hello, .inr hpre, hbytes₁ ▸ hbytes, fun hok => by cases hok⟩, fun hok => by cases hok⟩
  · rw [heq]
    exact Silent.greeted ⟨hbytes₁, henv ▸ hsilent.accepts⟩ fun hok => by cases hok

theorem greeted_connectClientSocket (io : Mmio D) (handle : Nat) (useNagle : Bool) (s : Srv D) :
    Greeted s (connectClientSocket handle .t2hData useNagle s) := by
  have hsilent : Silent s (acceptSocket .t2hData s).2 :=
    (frames_silent io).changes (changes_acceptSocket .t2hData s) (by simp)
  have hoption := changes_setTcpNoDelay io .t2hData (!useNagle) (acceptSocket .t2hData s).2
  unfold connectClientSocket
  dsimp only
  split
  · next hok =>
    obtain ⟨c, accepts, heq, -, hclient⟩ := acceptSocket_ok hok
    have hsilent' := hsilent.trans ((frames_silent io).changes hoption (by simp))
    have hquiet := (frames_quiet io).changes hoption (by simp [t2hSocketParts, Set.insert_subset_iff])
    split
    · refine greeted_verifyHandle handle hsilent' ?_
      intro hclients
      rw [hquiet.tx, hclient, Function.update_self]
      exact hclients c (heq ▸ List.mem_cons_self)
    · exact hsilent'.greeted fun hok => by cases hok
  · exact hsilent.greeted fun hok => by cases hok

/-- Before the T2H socket is connected nothing goes out on it. -/
theorem silent_otherSockets (io : Mmio D) (cfg : Config) (handle : Nat) (s : Srv D) :
    Silent s (andThen (andThen (andThen (andThen (connectCtrl io cfg handle s) (verifyHandle .ctrl handle))
      (connectClientSocket handle .mgmt false))
      fun s => connectClientSocket handle .mgmtRsp s.conn.mgmtRspNagle s)
      (connectClientSocket handle .h2tData false)).2 := by
  have hsocket (sock : Sock) (hne : sock ≠ .t2hData) (useNagle : Bool) (s : Srv D) :
      Changes io {.send .t2hData}ᶜ s (connectClientSocket handle sock useNagle s).2 :=
    (changes_connectClientSocket handle sock useNagle s).mono (by simp [handshakeParts, hne.symm])
  have hctrl : Changes io {.send .t2hData}ᶜ s (connectCtrl io cfg handle s).2 :=
    (changes_connectCtrl cfg handle s).mono (by simp [handshakeParts])
  have hverify (s : Srv D) : Changes io {.send .t2hData}ᶜ s (verifyHandle .ctrl handle s).2 :=
    (changes_verifyHandle .ctrl handle s).mono (by simp)
  have hthree := (hctrl.andThen hverify).andThen (hsocket .mgmt (by simp) false)
  have hfour := hthree.andThen fun s => hsocket .mgmtRsp (by simp) s.conn.mgmtRspNagle s
  exact (frames_silent io).changes (hfour.andThen (hsocket .h2tData (by simp) false)) le_rfl

theorem greeted_connectSockets (handle : Nat) (s : Srv D) :
    Greeted s (connectSockets io cfg handle s) := by
  have hsilent := silent_otherSockets io cfg handle s
  unfold connectSockets
  dsimp only
  generalize andThen (andThen (andThen (andThen (connectCtrl io cfg handle s) (verifyHandle .ctrl handle))
    (connectClientSocket handle .mgmt false))
    fun s => connectClientSocket handle .mgmtRsp s.conn.mgmtRspNagle s)
    (connectClientSocket handle .h2tData false) = y at hsilent ⊢
  unfold andThen
  split
  · exact hsilent.then (greeted_connectClientSocket io handle y.2.conn.t2hNagle y.2)
  · next hy => exact hsilent.greeted hy

theorem Greeted.quiet {y : ReturnCode × Srv D} {rc : ReturnCode} (h : Greeted s y) (h' : T2hQuiet y.2 s')
    (hrc : rc = .ok → y.1 = .ok) : Greeted s (rc, s') := by
  obtain ⟨⟨hello, hgreets, hbytes, hready⟩, haccept⟩ := h
  refine ⟨⟨hello, hgreets, h'.bytes.trans hbytes, fun hok => hready (hrc hok)⟩, ?_⟩
  intro hok hclients
  exact h'.tx ▸ haccept (hrc hok) hclients

/-- A call of `connect_client`: the driver and the control socket do not concern the T2H socket. -/
theorem greeted_connectClient (io : Mmio D) (cfg : Config) (s : Srv D) :
    Greeted s (connectClient io cfg s) := by
  have hsilent : Silent s { s with
      env := { s.env with handles := s.env.handles.tail }
      drv := (initDriver io cfg.info s.drv s.dev).2.1
      dev := (initDriver io cfg.info s.drv s.dev).2.2 } := ⟨rfl, List.suffix_refl _⟩
  unfold connectClient
  dsimp only
  generalize ({ s with
    env := { s.env with handles := s.env.handles.tail }
    drv := (initDriver io cfg.info s.drv s.dev).2.1
    dev := (initDriver io cfg.info s.drv s.dev).2.2 } : Srv D) = s₀ at hsilent ⊢
  have hsockets : Greeted s (connectSockets io cfg (s.env.handles.headD 1) s₀) :=
    hsilent.then (greeted_connectSockets _ s₀)
  generalize connectSockets io cfg (s.env.handles.headD 1) s₀ = y at hsockets ⊢
  split
  · exact hsilent.greeted fun hok => by cases hok
  · split
    · next hok =>
      have hsend := (frames_quiet io).changes (changes_sendAll .ctrl (message readyMsg readyMsgLen) y.2)
        (by simp [t2hSocketParts])
      split
      · exact hsockets.quiet hsend fun _ => hok
      · exact hsockets.quiet hsend fun hok => by cases hok
    · split
      · have hsend := (frames_quiet io).changes
          (changes_sendOnce .ctrl (message notReadyMsg notReadyMsgLen) y.2) (by simp [t2hSocketParts])
        exact hsockets.quiet hsend fun hok => by cases hok
      · exact hsockets.quiet (.refl y.2) fun hok => by cases hok

/-! ## A session -/

/-- **The stream of the T2H socket**: over a whole session, with whatever the sockets and `select` do and
whatever mode the client sets, a client reads the answer to its handle and a stream of packets that can
break off only at its end. -/
theorem t2h_stream_framed (h64 : cfg.info.t2hMemBaseAddr + cfg.info.t2hMemSz + 2 ^ 16 ≤ 2 ^ 64)
    (hfront : FrontsInside io cfg.info) {y : ReturnCode × Srv D} (hcall : serveSession io cfg s = some y) :
    SessionStream s y.2 := by
  have hreset : Silent s { resetBuffers s with client := clientConnDefault } :=
    ⟨rfl, List.suffix_refl _⟩
  have hclose (s : Srv D) : t2hBytes (closeClientConn s).2.log = t2hBytes s.log :=
    ((frames_silent io).changes (changes_closeClientConn s) (by simp)).bytes
  have hgreeted := hreset.then (greeted_connectClient io cfg _)
  unfold serveSession at hcall
  dsimp only at hcall
  generalize connectClient io cfg { resetBuffers s with client := clientConnDefault } = z
    at hcall hgreeted
  obtain ⟨⟨hello, hgreets, hbytes, hready⟩, haccept⟩ := hgreeted
  split at hcall
  · next hok =>
    obtain ⟨s₁, hloop, rfl⟩ := Option.map_eq_some_iff.mp hcall
    have hentered : T2hQuiet z.2 (z.2.record (.handleClient z.2.conn.h2tWaiting z.2.conn.mgmtWaiting)) :=
      (T2hQuiet.refl z.2).record rfl
    obtain ⟨packets, rest, hcarries, -⟩ :=
      hentered.then ((carries_rule h64 hfront).handleClientLoop hloop)
    have hreads : Reads H2tPacket.bytes packets rest (packets.flatMap H2tPacket.bytes ++ rest) :=
      ⟨rfl, hcarries.unfinished⟩
    refine ⟨hello, _, ?_, .inr ⟨hready hok, packets, rest, hreads, ?_, ?_⟩⟩
    · rw [hclose, hcarries.bytes, hbytes, List.append_assoc]
    · intro hclients
      exact (hcarries.accept (haccept hok hclients)).2
    · intro packets' rest' hreads'
      exact prefixFree_packets.reads_unique hreads' hreads
  · obtain rfl := Option.some.inj hcall
    refine ⟨hello, [], ?_, .inl ⟨hgreets, rfl⟩⟩
    rw [hclose, hbytes, List.append_nil]

namespace LoopbackIp

/-- The server that waits for a client. The client sets the loopback mode of the server and sends
two packets; the second echo breaks off behind its header. -/
def serving : Srv LoopbackIp :=
  { DebugIp.listening
      ((DebugIp.clientSockets 1 fun
        | .ctrl => [.data (ascii "SET_PARAM SERVER_LOOPBACK 1" ++ [0])]
        | .h2tData => [.data (stream (twoPackets.take 1)), .data (stream (twoPackets.drop 1))]
        | _ => []).map fun c => c.map fun c => { c with tx := List.replicate 4 (.accept 512) ++ [.error] })
      [.ready false false true false true false false, .ready false false false false true false false]
    with dev := start }

theorem frontsInside : FrontsInside loopbackIp DebugIp.design.info := by
  intro d hne
  rcases contract.front d with hzero | ⟨l, rest, -, -, -, -, haddr, -⟩
  · exact absurd hzero hne
  · exact haddr

end LoopbackIp

theorem t2h_stream_framed_broken :
    ∃ y, serveSession loopbackIp DebugIp.design LoopbackIp.serving = some y ∧
      SessionStream LoopbackIp.serving y.2 := by
  have hsome : (serveSession loopbackIp DebugIp.design LoopbackIp.serving).isSome = true := by
    decide +kernel
  obtain ⟨y, hy⟩ := Option.isSome_iff_exists.mp hsome
  exact ⟨y, hy, t2h_stream_framed (by decide) LoopbackIp.frontsInside hy⟩

end RemoteDebug
