import RemoteDebug.Proofs.AccessProofs
import RemoteDebug.Proofs.WaitProofs

/-!
# Accesses in the mapping

The words of every payload lie in the mapping, since a granted buffer lies in its window, so that every
access of a run over a mapping that covers registers and windows does.
-/

namespace RemoteDebug

open Bytes Runs Script

variable {D : Type} {io : Mmio D} {cfg : Config} {s s' : Srv D} {memSize start span : Nat}

/-! ## Payloads -/

section Payload

variable {P : D → Prop} (hio : io.Keeps (InSpan start span) P)

/-- The words of `len` bytes at `buff` end in the mapping, if there are any. -/
def WordsFit (start span buff len : Nat) : Prop :=
  len = 0 ∨ (buff + len ≤ 2 ^ 32 ∧ start + buff + wordBytes len ≤ span)

theorem WordsFit.word {buff len i : Nat} (h : WordsFit start span buff len) (hi : 8 * i < len) :
    InSpan start span ⟨(buff + 8 * i) % 2 ^ 32, 8⟩ := by
  obtain ⟨hwrap, hend⟩ := h.resolve_left (by omega)
  unfold InSpan
  dsimp only
  rw [Nat.mod_eq_of_lt (by omega)]
  unfold wordBytes at hend
  omega

include hio in
theorem keeps_fpga2hostLoop {buff n i : Nat}
    (hword : ∀ j, i ≤ j → j < i + n → InSpan start span ⟨(buff + 8 * j) % 2 ^ 32, 8⟩)
    (st : Staging) {d : D} (h : P d) : P (fpga2hostLoop io buff n i st d).2 := by
  induction n generalizing i st d with
  | zero => exact h
  | succ n ih =>
    have hread := hio.read64 _ d (hword i le_rfl (by omega)) h
    exact ih (fun j h1 h2 => hword j (by omega) (by omega)) _ hread

include hio in
theorem keeps_host2fpgaLoop {buff n i : Nat}
    (hword : ∀ j, i ≤ j → j < i + n → InSpan start span ⟨(buff + 8 * j) % 2 ^ 32, 8⟩)
    (host : Nat → UInt8) {d : D} (h : P d) : P (host2fpgaLoop io host buff n i d) := by
  induction n generalizing i d with
  | zero => exact h
  | succ n ih =>
    have hwrite := hio.write64 _ (word64 host (8 * i)) d (hword i le_rfl (by omega)) h
    exact ih (fun j h1 h2 => hword j (by omega) (by omega)) hwrite

include hio in
theorem keeps_socketSendAllT2hData {buff len : Nat} (hfit : WordsFit start span buff len)
    (h : P s.dev) : P (socketSendAllT2hData io .t2hData buff len s).2.dev :=
  keeps_fpga2hostLoop hio (fun _ _ hj => hfit.word (by omega)) s.sendBuff h

include hio in
theorem keeps_socketRecvAccumulateH2tData {buff len : Nat} (hfit : WordsFit start span buff len)
    (h : P s.dev) : P (socketRecvAccumulateH2tData io .h2tData buff len s).2.dev := by
  simp only [socketRecvAccumulateH2tData]
  split
  · exact keeps_host2fpgaLoop hio (fun _ _ hj => hfit.word (by omega)) _ h
  · exact h

include hio in
/-- A payload that is received in one or two parts. -/
theorem keeps_recvH2tPayload (hok : WindowOk cfg.info .h2t) {buff len : Nat} (h16 : len < 2 ^ 16)
    (hhi : buff < cfg.info.h2tMemBaseAddr + cfg.info.h2tMemSz)
    (hfirst : WordsFit start span buff
      (min len (cfg.info.h2tMemBaseAddr + cfg.info.h2tMemSz - buff)))
    (hsecond : WordsFit start span cfg.info.h2tMemBaseAddr
      (len - (cfg.info.h2tMemBaseAddr + cfg.info.h2tMemSz - buff))) (h : P s.dev) :
    P (recvH2tPayload io cfg buff len s).2.dev := by
  have hfits : cfg.info.h2tMemBaseAddr + cfg.info.h2tMemSz ≤ 2 ^ 32 := hok.fits
  by_cases hb : buff + len ≤ cfg.info.h2tMemBaseAddr + cfg.info.h2tMemSz
  · rw [min_eq_left (by omega)] at hfirst
    rw [recvH2tPayload_unsplit io (by omega) h16 hb]
    exact keeps_socketRecvAccumulateH2tData hio hfirst h
  · rw [min_eq_right (by omega)] at hfirst
    rw [recvH2tPayload_split io (by omega) h16 hhi (by omega)]
    exact keeps_socketRecvAccumulateH2tData hio hsecond
      (keeps_socketRecvAccumulateH2tData hio hfirst h)

include hio in
/-- A payload that is sent in one or two parts. -/
theorem keeps_sendT2hPayload (hfits : cfg.info.t2hMemBaseAddr + cfg.info.t2hMemSz ≤ 2 ^ 32)
    {buff len : Nat} (h16 : len < 2 ^ 16)
    (hhi : buff < cfg.info.t2hMemBaseAddr + cfg.info.t2hMemSz)
    (hfirst : WordsFit start span buff
      (min len (cfg.info.t2hMemBaseAddr + cfg.info.t2hMemSz - buff)))
    (hsecond : WordsFit start span cfg.info.t2hMemBaseAddr
      (len - (cfg.info.t2hMemBaseAddr + cfg.info.t2hMemSz - buff))) (h : P s.dev) :
    P (sendT2hPayload io cfg buff len s).2.dev := by
  by_cases hb : buff + len ≤ cfg.info.t2hMemBaseAddr + cfg.info.t2hMemSz
  · rw [min_eq_left (by omega)] at hfirst
    rw [sendT2hPayload_unsplit io cfg buff (by omega) h16 hb]
    exact keeps_socketSendAllT2hData hio hfirst h
  · rw [min_eq_right (by omega)] at hfirst
    rw [sendT2hPayload_split io cfg (by omega) h16 hhi (by omega)]
    have h1 := keeps_socketSendAllT2hData hio hfirst h
    dsimp only
    split
    · exact keeps_socketSendAllT2hData hio hsecond h1
    · exact h1

variable (hregs : ∀ r ∈ registers, InSpan start span r)

include hio hregs in
/-- **A call of `process_h2t_data`**: a granted buffer lies in the window, and an echo ends in the
mapping. -/
theorem keeps_h2t {ip : ChannelIp io cfg.info .h2t} {x : ReturnCode × Srv D}
    (hok : WindowOk cfg.info .h2t) (hlow : cfg.info.h2tMemBaseAddr + 2 ^ 16 ≤ 2 ^ 32)
    (hwindow : start + cfg.info.h2tMemBaseAddr + cfg.info.h2tMemSz + 7 ≤ span)
    (hring : ∃ k, RingWith ip k s)
    (hecho : EchoFits (span - start - cfg.info.h2tMemBaseAddr) ⟨s, true⟩ .h2t)
    (hcall : processH2tData io cfg s = some x) (h : P s.dev) : P x.2.dev := by
  have hfits : cfg.info.h2tMemBaseAddr + cfg.info.h2tMemSz ≤ 2 ^ 32 := hok.fits
  have hhead : (updateCurrH2tHeader s).2.dev = s.dev := by
    unfold updateCurrH2tHeader
    split <;> rfl
  rcases processH2tData_cases hcall with ⟨rfl, -⟩ | ⟨s1, buff, s2, hcur, hpoll, hcases⟩
  · rwa [hhead]
  · obtain ⟨ha, hmode, hnext⟩ := updateCurrH2tHeader_next ip hcur
    obtain ⟨harr, hheader⟩ := hnext rfl
    obtain ⟨k, hk⟩ := hring
    have hk1 : RingWith ip k s1 := hk.aside ha
    rw [hcur] at hhead
    have h1 : P s1.dev := hhead.symm ▸ h
    have h2 : P s2.dev := keeps_pollH2tBuffer hio hregs hpoll h1
    rw [hheader] at hpoll hcases
    obtain ⟨hconn2, -⟩ := pollH2tBuffer_frame hpoll
    have h16 := (nextH2tHeader s).dataLenBytes.toNat_lt
    rcases hcases with ⟨-, rfl⟩ | ⟨hne, rfl⟩
    · exact h2
    · generalize hlen : (nextH2tHeader s).dataLenBytes.toNat = len at h16 hpoll
      have hframe := recvH2tPayload_frame io cfg buff len (s2.setH2tWaiting false)
      by_cases hloop : s1.conn.loopbackMode = false
      · obtain ⟨_, _, hpoll', hwhich⟩ := hk1.poll hloop len
        obtain ⟨rfl, rfl⟩ := Prod.mk.inj (Option.some.inj (hpoll.symm.trans hpoll'))
        rcases hwhich with ⟨h0, -⟩ | ⟨-, live, lost, hg, -⟩
        · exact absurd h0 hne
        · obtain ⟨hlt, hsz⟩ := hg.bounds
          have hlt' : buff < cfg.info.h2tMemBaseAddr + cfg.info.h2tMemSz := hlt
          have hge : cfg.info.h2tMemBaseAddr ≤ buff := hg.base_le
          have hfit : len ≤ cfg.info.h2tMemSz := (le_getAlignedSz len).trans hsz
          have h3 := keeps_recvH2tPayload hio (s := s2.setH2tWaiting false) hok h16 hlt'
            (Or.inr ⟨by omega, by unfold wordBytes; omega⟩)
            (Or.inr ⟨by omega, by unfold wordBytes; omega⟩) h2
          generalize (recvH2tPayload io cfg buff len (s2.setH2tWaiting false)).2 = s3 at h3 hframe ⊢
          have hmode3 : s3.conn.loopbackMode = false := by
            rw [hframe.conn, Srv.setH2tWaiting_loopbackMode, hconn2]
            exact hloop
          unfold pushOrLoopbackH2t
          rw [if_pos hmode3]
          exact keeps_pushH2tData hio hregs _ _ s3.drv h3
      · have hloop' : s1.conn.loopbackMode = true := by simpa using hloop
        rw [pollH2tBuffer, if_neg hloop] at hpoll
        obtain ⟨rfl, rfl⟩ := Prod.mk.inj (Option.some.inj hpoll)
        have hroom : wordBytes len ≤ span - start - cfg.info.h2tMemBaseAddr :=
          hlen ▸ hecho rfl (hmode ▸ hloop') harr
        have hspan : 0 < cfg.info.h2tMemSz := hok.span_pos
        have hwords {n : Nat} (hn : n ≤ len) : WordsFit start span cfg.info.h2tMemBaseAddr n := by
          have hmono := wordBytes_mono hn
          exact Or.inr ⟨by omega, by omega⟩
        have h3 := keeps_recvH2tPayload hio (s := s1.setH2tWaiting false) hok h16 (by omega)
          (hwords (min_le_left _ _)) (hwords (Nat.sub_le _ _)) h2
        generalize (recvH2tPayload io cfg cfg.info.h2tMemBaseAddr len (s1.setH2tWaiting false)).2 = s3
          at h3 hframe ⊢
        have hmode3 : s3.conn.loopbackMode = true := by
          rw [hframe.conn]
          exact hloop'
        unfold pushOrLoopbackH2t
        rw [if_neg (by rw [hmode3]; decide)]
        dsimp only
        rw [hlen]
        split
        · exact keeps_socketSendAllT2hData hio (hwords le_rfl) h3
        · exact h3

include hio hregs in
/-- A call of `process_t2h_data` for a descriptor in the window. -/
theorem keeps_t2h (hfits : cfg.info.t2hMemBaseAddr + cfg.info.t2hMemSz ≤ 2 ^ 32)
    (hwindow : start + cfg.info.t2hMemBaseAddr + cfg.info.t2hMemSz ≤ span)
    (hin : T2hInWindow io cfg.info ⟨s, true⟩ .t2h)
    (hwords : T2hFits io cfg.info (span - start - cfg.info.t2hMemBaseAddr) ⟨s, true⟩ .t2h)
    (h : P s.dev) : P (processT2hData io cfg s).2.dev := by
  have hfirst := hio.read64 stDbgIpT2hHowLong s.dev (hregs _ (by decide)) h
  unfold processT2hData
  dsimp only
  by_cases hne : (frontT2h io s.dev).howLong % 2 ^ 16 = 0
  · obtain ⟨header, hempty⟩ := getT2hData_empty cfg.info (headerOf s.conn.t2hHeaderBuff) s.drv hne
    rw [hempty]
    exact hfirst
  · obtain ⟨-, hsize, haddr⟩ := hin rfl (fun h0 => hne (by rw [h0, Nat.zero_mod]))
    have hmod := Nat.mod_le (frontT2h io s.dev).howLong (2 ^ 16)
    have h16 := Nat.mod_lt (frontT2h io s.dev).howLong (Nat.two_pow_pos 16)
    obtain ⟨header, sop, hdata, hlen⟩ :=
      getT2hData_data cfg.info (headerOf s.conn.t2hHeaderBuff) s.drv hne
    have hend := hwords rfl hne
    dsimp only at hsize haddr hend
    replace hsize := hmod.trans hsize
    have hbuff : ((frontT2h io s.dev).addr % 2 ^ 32 + cfg.info.t2hMemBaseAddr) % 2 ^ 32
        = cfg.info.t2hMemBaseAddr + (frontT2h io s.dev).addr := by omega
    rw [hdata, hbuff]
    dsimp only
    rw [hlen]
    have h1 := hio.read64 stDbgIpT2hConnectionId _ (hregs _ (by decide)) hfirst
    obtain ⟨s1, hs1⟩ : ∃ s1 : Srv D, { s with
      conn := { s.conn with t2hHeaderBuff := putHeader s.conn.t2hHeaderBuff header }
      drv := { s.drv with t2hSop := sop }
      dev := (io.read64 stDbgIpT2hConnectionId (io.read64 stDbgIpT2hHowLong s.dev).2).2 } = s1 :=
      ⟨_, rfl⟩
    have hdev1 : P s1.dev := by
      subst hs1
      exact h1
    rw [hs1]
    generalize (frontT2h io s.dev).howLong % 2 ^ 16 = len at hne h16 hsize hend ⊢
    generalize (frontT2h io s.dev).addr = off at haddr hend ⊢
    have h2 : P (s1.sendAll .t2hData (putHeader s.conn.t2hHeaderBuff header).bytes).2.dev := hdev1
    generalize s1.sendAll .t2hData (putHeader s.conn.t2hHeaderBuff header).bytes = y at h2 ⊢
    have hpart : cfg.info.t2hMemBaseAddr + cfg.info.t2hMemSz - (cfg.info.t2hMemBaseAddr + off)
        = cfg.info.t2hMemSz - off := by omega
    have h3 := keeps_sendT2hPayload hio (s := y.2) hfits h16
      (by omega : cfg.info.t2hMemBaseAddr + off < _)
      (hpart.symm ▸ Or.inr ⟨by omega, by omega⟩)
      (hpart.symm ▸ Or.inr ⟨by omega, by unfold wordBytes at hend ⊢; omega⟩) h2
    split
    · generalize sendT2hPayload io cfg (cfg.info.t2hMemBaseAddr + off) len y.2 = z at h3 ⊢
      split
      · exact hio.write32 _ _ _ (hregs _ (by decide)) h3
      · exact h3
    · exact h2

end Payload

/-! ## Runs -/

/-- Steps for a hardware that may do more. -/
theorem CallStep.mono {may may' : D → D → Prop} {st st' : ServerState D} {a : ServerAction}
    (h : ∀ d d', may d d' → may' d d') (hstep : CallStep io cfg may st a st') :
    CallStep io cfg may' st a st' := by
  cases hstep with
  | connect s => exact .connect s
  | select s selects => exact .select s selects
  | reject s => exact .reject s
  | control hcall => exact .control hcall
  | mgmt hcall => exact .mgmt hcall
  | h2t hcall => exact .h2t hcall
  | mgmtRsp hmode => exact .mgmtRsp hmode
  | t2h hmode => exact .t2h hmode
  | close => exact .close _
  | hardware hmay => exact .hardware (h _ _ hmay)

/-- The H2T window ends before the end of the T2H window. -/
theorem LayoutFits.windows (h : LayoutFits memSize) (h0 : 0 < memSize)
    (hinfo : cfg.info = getDesignInfo memSize) :
    memSize ≤ 2 ^ 31 ∧ cfg.info.h2tMemSz = memSize ∧ cfg.info.t2hMemSz = memSize ∧
      cfg.info.h2tMemBaseAddr + 2 ^ 16 ≤ 2 ^ 32 ∧ cfg.info.h2tMemBaseAddr + 7 ≤ cfg.info.t2hMemBaseAddr ∧
      cfg.info.t2hMemBaseAddr + cfg.info.t2hMemSz ≤ 2 ^ 32 := by
  rw [hinfo]
  rcases h with hlow | ⟨hlow, hhigh⟩
  · have hnot : ¬ jopMemSize2k < memSize := by
      unfold jopMemSize2k
      omega
    simp only [getDesignInfo, if_neg hnot, h2tMemBase2k, t2hMemBase4k, true_and]
    omega
  · have hlt : jopMemSize2k < memSize := by
      unfold jopMemSize2k
      omega
    simp only [getDesignInfo, if_pos hlt, true_and]
    omega

/-- What holds between two steps: the accesses so far lie in the mapping, and the ring agrees with the
IP. -/
structure AccessInv (ip : ChannelIp io cfg.info .h2t) (start span : Nat)
    (st : ServerState (D × List BusAccess)) : Prop where
  accesses : ∀ a ∈ st.srv.dev.2, InSpan start span a
  ring : RingHolds ip.traced st

theorem AccessInv.step {ip : ChannelIp io cfg.info .h2t} {st st' : ServerState (D × List BusAccess)}
    {a : ServerAction} (h0 : 0 < memSize) (hinfo : cfg.info = getDesignInfo memSize)
    (hlayout : LayoutFits memSize) (hspan : SpanCovers cfg.info start span)
    (hquiet : ip.Quiet (2 ^ 16)) (h : AccessInv ip start span st)
    (hguard : AccessGuard io.traced cfg.info start span st a)
    (hstep : CallStep io.traced cfg (ProceedsUnnoted ip) st a st') :
    AccessInv ip start span st' := by
  obtain ⟨h31, hh2t, ht2h, hlow, hbefore, hfits⟩ := hlayout.windows h0 hinfo
  obtain ⟨hcsrs, hwindow⟩ := hspan
  have hok : WindowOk cfg.info .h2t := hinfo ▸ windowOk_getDesignInfo h0 h31
  have hio := traced_keeps io (InSpan start span)
  have hregs : ∀ r ∈ registers, InSpan start span r := by
    have hend : ∀ r ∈ registers, r.offset + r.width ≤ 0x1104 := by decide
    intro r hr
    have hle := hend r hr
    unfold InSpan
    omega
  refine ⟨?_, ringHolds_step hok hlow (fun o v x h1 h2 => hquiet o v x.1 h1 h2) h.ring
    (echoFits_room _ _ _) (hstep.mono fun _ _ hp => hp.1)⟩
  have hacc := h.accesses
  have hother (hother : a ∈ [.control, .mgmt, .select, .reject, .close]) :
      ∀ a ∈ st'.srv.dev.2, InSpan start span a := keeps_step hio hregs hstep hother hacc
  cases hstep with
  | connect s =>
    have hconn : ∀ a ∈ (connectClient io.traced cfg
        { resetBuffers s with client := clientConnDefault }).2.dev.2, InSpan start span a :=
      keeps_connectClient hio hregs hacc
    unfold ServerState.connect
    dsimp only
    split
    · exact hconn
    · exact hconn
  | control | mgmt | select | reject | close => exact hother (by decide)
  | h2t hcall =>
    exact keeps_h2t hio hregs hok hlow (by omega) (h.ring rfl) hguard.echo hcall hacc
  | mgmtRsp hmode => exact absurd (hguard.mgmtRsp rfl) (by decide)
  | t2h hmode => exact keeps_t2h hio hregs hfits hwindow hguard.t2hInWindow hguard.t2h hacc
  | @hardware s d hmay =>
    show ∀ a ∈ d.2, InSpan start span a
    rwa [hmay.2]

/-- **Accesses**: if the size fits the layout and the mapping covers registers and windows, the windows
are where they are meant to be, and every access lies in the mapping as long as what is sent and
echoed in whole words ends in it. -/
theorem accesses_in_span (h0 : 0 < memSize) (hinfo : cfg.info = getDesignInfo memSize)
    (hlayout : LayoutFits memSize) (hspan : SpanCovers cfg.info start span)
    (ip : ChannelIp io cfg.info .h2t) (hquiet : ip.Quiet (2 ^ 16))
    {s0 : Srv (D × List BusAccess)} (hfresh : s0.dev.2 = []) {st : ServerState (D × List BusAccess)}
    (hrun : Reach (CallStep io.traced cfg (ProceedsUnnoted ip))
      (AccessGuard io.traced cfg.info start span) ⟨s0, false⟩ st) :
    LayoutOk memSize ∧ ∀ a ∈ st.srv.dev.2, InSpan start span a := by
  have hstart : AccessInv ip start span ⟨s0, false⟩ := by
    refine ⟨?_, fun hc => by cases hc⟩
    show ∀ a ∈ s0.dev.2, InSpan start span a
    rw [hfresh]
    exact fun _ ha => by cases ha
  have hinv := hrun.invariant (AccessInv ip start span)
    (fun st a st' hs hg hstep => hs.step h0 hinfo hlayout hspan hquiet hg hstep) hstart
  exact ⟨layoutOk_of_fits hlayout, hinv.accesses⟩

/-- The server with a bus that notes its accesses. -/
def Srv.traced (s : Srv D) : Srv (D × List BusAccess) where
  env := s.env
  conn := s.conn
  client := s.client
  drv := s.drv
  dev := (s.dev, [])
  recvBuff := s.recvBuff
  sendBuff := s.sendBuff
  hostMem := s.hostMem
  log := s.log

namespace DebugIp

/-- A client that sends a packet of three bytes. -/
def threeBytes : Sock → List RecvEvent
  | .h2tData => [.data (packetGuardband ++ [3, 0, 0, 0, 3, 0]), .data [1, 2, 3]]
  | _ => []

/-- The server behind `connect_client` for this client, over the bus that notes its accesses. -/
def tracedConnected : ServerState (DebugIp × List BusAccess) :=
  .connect debugIp.traced echoDesign (listening (clientSockets 1 threeBytes) []).traced

/-- The server behind its packet. -/
def tracedPushed : Srv (DebugIp × List BusAccess) :=
  ((processH2tData debugIp.traced echoDesign tracedConnected.srv).getD
    (.failure, tracedConnected.srv)).2

/-- The IP presents twelve bytes that wrap at the end of the T2H window. -/
def presentTwelve (s : Srv (DebugIp × List BusAccess)) : Srv (DebugIp × List BusAccess) :=
  { s with dev := ({ s.dev.1 with t2h := [⟨2 ^ 31 + 12 + 0x1ff8 * 2 ^ 32, 7⟩] }, s.dev.2) }

theorem step_presentTwelve (s : Srv (DebugIp × List BusAccess)) :
    CallStep debugIp.traced echoDesign (ProceedsUnnoted echoIp) ⟨s, true⟩ .hardware
      ⟨presentTwelve s, true⟩ :=
  .hardware (s := ⟨s, true⟩) ⟨⟨List.suffix_refl _, rfl⟩, rfl⟩

/-- The server behind its packet, with these bytes. -/
def tracedPresenting : Srv (DebugIp × List BusAccess) := presentTwelve tracedPushed

/-- And the server sends them. -/
def tracedSent : Srv (DebugIp × List BusAccess) :=
  (processT2hData debugIp.traced echoDesign tracedPresenting).2

end DebugIp

/-- A packet goes to the H2T window of 8 KiB, and one comes from the T2H window, the last word of the
mapping with it. -/
theorem accesses_in_span_packets : (LayoutOk 0x2000 ∧
    ∀ a ∈ DebugIp.tracedSent.dev.2, InSpan 0 0x6000 a) ∧
    [⟨0x2000, 8⟩, ⟨0x5ff8, 8⟩, ⟨0x4000, 8⟩] ⊆ DebugIp.tracedSent.dev.2 := by
  refine ⟨?_, by decide +kernel⟩
  have hcalls : DebugIp.tracedConnected.connected = true ∧
      (processH2tData debugIp.traced DebugIp.echoDesign DebugIp.tracedConnected.srv).isSome ∧
      DebugIp.tracedPresenting.conn.loopbackMode = false := by
    decide +kernel
  obtain ⟨hconn, hsome, hmode⟩ := hcalls
  obtain ⟨x, hx⟩ := Option.isSome_iff_exists.mp hsome
  have hpushed : DebugIp.tracedPushed = x.2 := by
    rw [DebugIp.tracedPushed, hx]
    rfl
  have hentered : DebugIp.tracedConnected = ⟨DebugIp.tracedConnected.srv, true⟩ := by
    rw [← hconn]
  have hfront : (frontT2h debugIp.traced DebugIp.tracedPresenting.dev).howLong = 12 ∧
      (frontT2h debugIp.traced DebugIp.tracedPresenting.dev).addr = 0x1ff8 := by
    decide +kernel
  obtain ⟨hlen, haddr⟩ := hfront
  have hguard : AccessGuard debugIp.traced DebugIp.echoDesign.info 0 0x6000
      ⟨DebugIp.tracedPresenting, true⟩ .t2h := by
    refine ⟨fun h => (by cases h), fun _ _ => ⟨?_, ?_, ?_⟩, fun _ _ => ?_, fun h => (by cases h)⟩
    · rw [hlen]
      decide
    · rw [hlen]
      decide
    · rw [haddr]
      decide
    · rw [hlen, haddr]
      decide
  have hother {st : ServerState (DebugIp × List BusAccess)} {a : ServerAction}
      (ha : a = .connect ∨ a = .hardware) :
      AccessGuard debugIp.traced DebugIp.echoDesign.info 0 0x6000 st a := by
    rcases ha with rfl | rfl <;>
      exact ⟨fun h => (by cases h), fun h => (by cases h), fun h => (by cases h), fun h => (by cases h)⟩
  have hplain : DebugIp.tracedConnected.srv.conn.loopbackMode = false := by decide +kernel
  have hecho : AccessGuard debugIp.traced DebugIp.echoDesign.info 0 0x6000
      ⟨DebugIp.tracedConnected.srv, true⟩ .h2t := by
    generalize DebugIp.tracedConnected.srv = s at hplain ⊢
    exact ⟨fun h => (by cases h), fun h => (by cases h), fun h => (by cases h),
      fun _ hloop => absurd (hplain.symm.trans hloop) (by decide)⟩
  have hconnect : Reach (CallStep debugIp.traced DebugIp.echoDesign (ProceedsUnnoted DebugIp.echoIp))
      (AccessGuard debugIp.traced DebugIp.echoDesign.info 0 0x6000)
      ⟨(DebugIp.listening (DebugIp.clientSockets 1 DebugIp.threeBytes) []).traced, false⟩
      ⟨DebugIp.tracedConnected.srv, true⟩ := by
    rw [← hentered]
    exact .single (hother (.inl rfl)) (.connect _)
  have hh2t : CallStep debugIp.traced DebugIp.echoDesign (ProceedsUnnoted DebugIp.echoIp)
      ⟨DebugIp.tracedConnected.srv, true⟩ .h2t ⟨DebugIp.tracedPushed, true⟩ := by
    rw [hpushed]
    exact .h2t hx
  have hpresent : CallStep debugIp.traced DebugIp.echoDesign (ProceedsUnnoted DebugIp.echoIp)
      ⟨DebugIp.tracedPushed, true⟩ .hardware ⟨DebugIp.tracedPresenting, true⟩ :=
    DebugIp.step_presentTwelve _
  have ht2h : CallStep debugIp.traced DebugIp.echoDesign (ProceedsUnnoted DebugIp.echoIp)
      ⟨DebugIp.tracedPresenting, true⟩ .t2h ⟨DebugIp.tracedSent, true⟩ := .t2h hmode
  have hrun := ((hconnect.tail hecho hh2t).tail (hother (.inr rfl)) hpresent).tail hguard ht2h
  generalize DebugIp.tracedSent = s at hrun ⊢
  exact accesses_in_span (by omega) rfl (Or.inr (by omega)) ⟨by omega, by decide⟩ DebugIp.echoIp
    (DebugIp.echoIp_quiet _) rfl hrun

/-- With the default size a register lies in the H2T window; with a size of 2 GiB the T2H window wraps;
and in a mapping of 4 KiB `init_driver` reads behind the end. -/
theorem accesses_misplaced : ¬ LayoutOk 4096 ∧ ¬ LayoutOk (2 ^ 31) ∧
    ∃ st, Reach (CallStep debugIp.traced DebugIp.echoDesign (ProceedsUnnoted DebugIp.echoIp)) always
      ⟨(DebugIp.listening [] []).traced, false⟩ st ∧ ∃ a ∈ st.srv.dev.2, ¬ InSpan 0 0x1000 a := by
  refine ⟨fun h => ?_, fun h => ?_, _, .single trivial (.connect _), ⟨0x1100, 4⟩, ?_, ?_⟩
  · have hfits := fits_of_layoutOk h
    revert hfits
    unfold LayoutFits
    decide
  · have hfits := fits_of_layoutOk h
    revert hfits
    unfold LayoutFits
    decide
  · decide +kernel
  · unfold InSpan
    decide

end RemoteDebug
