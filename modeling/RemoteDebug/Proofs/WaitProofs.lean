import RemoteDebug.Hardware.H2tRun
import RemoteDebug.Proofs.HeldProofs
import RemoteDebug.Proofs.RingRunProofs
import RemoteDebug.Proofs.StagingProofs

/-!
# Packets that wait for a buffer

A header is read before anything is known about the buffer. An H2T packet that is larger than what the
window can ever offer again waits for ever, and so does every MGMT packet, since the start of the MGMT
window is the null pointer. All other waits end.
-/

namespace RemoteDebug

open Bytes Runs Script Cyclic

variable {D : Type} {io : Mmio D} {cfg : Config} {ip : ChannelIp io cfg.info .h2t} {s s' : Srv D}
  {k memSize : Nat}

/-- Up to 2 GiB the H2T window has 32-bit addresses. -/
theorem windowOk_getDesignInfo (h0 : 0 < memSize) (h31 : memSize ≤ 2 ^ 31) :
    WindowOk (getDesignInfo memSize) .h2t := by
  have hbase : (getDesignInfo memSize).h2tMemBaseAddr
      = if 2048 < memSize then memSize % 2 ^ 32 else 2048 := rfl
  have hspan : (getDesignInfo memSize).h2tMemSz = memSize := rfl
  refine ⟨?_, h0, ?_⟩
  · show 0 < (getDesignInfo memSize).h2tMemBaseAddr
    rw [hbase]
    split <;> omega
  · show (getDesignInfo memSize).h2tMemBaseAddr + (getDesignInfo memSize).h2tMemSz ≤ 2 ^ 32
    rw [hbase, hspan]
    split <;> omega

/-- The bytes that the packet held back asks for. -/
def heldSz (s : Srv D) : Nat := getAlignedSz (headerOf s.conn.h2tHeaderBuff).dataLenBytes.toNat

theorem H2tHeld.heldSz (h : H2tHeld s s') : heldSz s' = heldSz s := by
  unfold RemoteDebug.heldSz
  rw [h.buff]

/-- Everything that has not leaked, and will not leak, can be reclaimed. -/
theorem RingWith.reclaimable (h : RingWith ip k s) :
    s.drv.h2t.reclaimable ip.depth + k = cfg.info.h2tMemSz := by
  obtain ⟨live, lost, hinv, hk⟩ := h
  have hslots := hinv.chain.slots
  have hspace := hinv.space.space
  have hspan : Channel.h2t.span cfg.info = cfg.info.h2tMemSz := rfl
  have hlen : ip.depth - s.drv.h2t.slotsAvailable = (live.map Descriptor.alignedLen).length := by
    omega
  have hentries := hinv.chain.entries le_rfl
  rw [List.take_length] at hentries
  rw [total_regions, chainBytes_add_leak, hspan] at hspace
  unfold DescriptorRing.reclaimable
  rw [hlen, hentries]
  omega

/-! ## Single calls -/

/-- A packet that waits is not received again. -/
theorem updateCurrH2tHeader_waiting (hwait : s.conn.h2tWaiting = true) (d : D) :
    updateCurrH2tHeader { s with dev := d } = (.ok, { s with dev := d }) := by
  rw [updateCurrH2tHeader, if_neg (by simp [hwait])]

/-- With an idle IP, a packet that fits is let go. -/
theorem RingWith.waitEnds {d : D} (hok : WindowOk cfg.info .h2t) (hdepth : 0 < ip.depth)
    (h : RingWith ip k s) (hwait : s.conn.h2tWaiting = true)
    (hfits : heldSz s + k ≤ cfg.info.h2tMemSz)
    (hproc : ip.Proceeds s.dev d) (hidle : ip.uncompleted d = []) :
    ∃ x, processH2tData io cfg { s with dev := d } = some x ∧ x.2.conn.h2tWaiting = false := by
  have h1 : RingWith ip k { s with dev := d } := h.same rfl hproc
  have hhead := updateCurrH2tHeader_waiting hwait d
  obtain ⟨len, hlen⟩ : ∃ len, (headerOf s.conn.h2tHeaderBuff).dataLenBytes.toNat = len := ⟨_, rfl⟩
  have hsz : heldSz s = getAlignedSz len := congrArg getAlignedSz hlen
  obtain ⟨buff, s2, hpoll, hne⟩ :
      ∃ buff s2, pollH2tBuffer io cfg len { s with dev := d } = some (buff, s2) ∧ buff ≠ 0 := by
    by_cases hmode : s.conn.loopbackMode = false
    · obtain ⟨buff, s2, hpoll, hwhich⟩ := h1.poll hmode len
      rcases hwhich with ⟨-, -, hrefused⟩ | ⟨hne, -⟩
      · have hlt := hrefused hdepth hidle
        omega
      · exact ⟨buff, s2, hpoll, hne⟩
    · exact ⟨cfg.info.h2tMemBaseAddr, _, by rw [pollH2tBuffer, if_neg hmode], hok.base_pos.ne'⟩
  have hcall : ∃ x, processH2tData io cfg { s with dev := d } = some x := by
    simp only [processH2tData, hhead, if_true]
    rw [hlen, hpoll]
    exact ⟨_, rfl⟩
  obtain ⟨x, hx⟩ := hcall
  refine ⟨x, hx, ?_⟩
  rcases processH2tData_cases hx with ⟨rfl, hnok⟩ | ⟨s1, buff', s2', hhead', hpoll', hcases⟩
  · rw [hhead] at hnok
    exact absurd rfl hnok
  · rw [hhead] at hhead'
    obtain ⟨-, rfl⟩ := Prod.mk.inj hhead'
    have hsame : pollH2tBuffer io cfg len { s with dev := d } = some (buff', s2') := hlen ▸ hpoll'
    obtain ⟨rfl, rfl⟩ := Prod.mk.inj (Option.some.inj (hpoll.symm.trans hsame))
    rcases hcases with ⟨hz, -⟩ | ⟨-, rfl⟩
    · exact absurd hz hne
    · rw [pushOrLoopbackH2t_conn, (recvH2tPayload_frame io cfg buff _ _).conn]
      rfl

/-- A packet that does not fit into what has not leaked is refused whatever the IP completes. -/
theorem RingWith.waits {d : D} (h : RingWith ip k s) (hwait : s.conn.h2tWaiting = true)
    (hmode : s.conn.loopbackMode = false) (hbig : cfg.info.h2tMemSz < heldSz s + k)
    (hproc : ip.Proceeds s.dev d) :
    ∃ s', processH2tData io cfg { s with dev := d } = some (.ok, s') ∧
      s'.conn.h2tWaiting = true := by
  have h1 : RingWith ip k { s with dev := d } := h.same rfl hproc
  have hhead := updateCurrH2tHeader_waiting hwait d
  obtain ⟨len, hlen⟩ : ∃ len, (headerOf s.conn.h2tHeaderBuff).dataLenBytes.toNat = len := ⟨_, rfl⟩
  have hsz : heldSz s = getAlignedSz len := congrArg getAlignedSz hlen
  obtain ⟨buff, s2, hpoll, hwhich⟩ := h1.poll hmode len
  rcases hwhich with ⟨rfl, -, -⟩ | ⟨-, live, lost, hg, hk⟩
  · refine ⟨s2.setH2tWaiting true, ?_, rfl⟩
    simp only [processH2tData, hhead, if_true]
    rw [hlen, hpoll]
    rfl
  · have hspace := hg.space.space
    have hspan : Channel.h2t.span cfg.info = cfg.info.h2tMemSz := rfl
    rw [total_append, total_regions, chainBytes_add_leak, total_cons, total_nil, hspan] at hspace
    dsimp only at hspace
    omega

/-- A null MGMT window is no buffer. -/
theorem mgmt_waits (hbase : cfg.info.mgmtMemBaseAddr = 0) (hwait : s.conn.mgmtWaiting = true) :
    processMgmtData io cfg s = some (.ok, s) := by
  have hhead : updateCurrMgmtHeader s = (.ok, s) := by
    rw [updateCurrMgmtHeader, if_neg (by simp [hwait])]
  have hset : s.setMgmtWaiting true = s := by
    unfold Srv.setMgmtWaiting
    rw [← hwait]
  simp only [processMgmtData, hhead, if_true, pollMgmtBuffer_eq, hbase, Option.map_some, ne_eq,
    not_true_eq_false, if_false, hset]

/-- Without a complete header `process_mgmt_data` takes no packet in. -/
theorem mgmtWaiting_noHeader {x : ReturnCode × Srv D} (hwait : s.conn.mgmtWaiting = false)
    (hshort : (pending (s.client .mgmt).rx).length < 10)
    (hcall : processMgmtData io cfg s = some x) : x.2.conn.mgmtWaiting = false := by
  obtain ⟨rx', hrec, -⟩ := socketRecvAccumulate_failure hshort
  have hhead : (updateCurrMgmtHeader s).1 = .failure ∧
      (updateCurrMgmtHeader s).2.conn.mgmtWaiting = false := by
    simp only [updateCurrMgmtHeader, hwait, Srv.recvAccumulate, hrec, if_true]
    exact ⟨trivial, trivial⟩
  obtain ⟨hrc, hconn⟩ := hhead
  unfold processMgmtData at hcall
  dsimp only at hcall
  rw [if_neg (by rw [hrc]; decide)] at hcall
  obtain rfl := Option.some.inj hcall
  exact hconn

/-! ## Runs -/

/-- No MGMT packet waits, and an H2T packet that waits fits into what has not leaked. -/
structure WaitInv (ip : ChannelIp io cfg.info .h2t) (st : ServerState D) : Prop where
  mgmt : st.srv.conn.mgmtWaiting = false
  held : st.srv.conn.h2tWaiting = true → heldSz st.srv ≤ cfg.info.h2tMemSz
  ring : st.connected = true → ∃ k, RingWith ip k st.srv ∧
    (st.srv.conn.h2tWaiting = true → heldSz st.srv + k ≤ cfg.info.h2tMemSz)

/-- What lets no packet in that cannot be served. -/
structure LetsIn (ip : ChannelIp io cfg.info .h2t) (s : ServerState D) (a : ServerAction) :
    Prop where
  h2t : HeaderFits ip s a
  mgmt : NoMgmtHeader s a

/-- A packet that is let in fits. -/
theorem WaitInv.h2t {x : ReturnCode × Srv D} (hok : WindowOk cfg.info .h2t)
    (hlow : cfg.info.h2tMemBaseAddr + 2 ^ 16 ≤ 2 ^ 32) (hquiet : ip.Quiet (2 ^ 16))
    (h : WaitInv ip ⟨s, true⟩) (hguard : LetsIn ip ⟨s, true⟩ .h2t)
    (hcall : processH2tData io cfg s = some x) : WaitInv ip ⟨x.2, true⟩ := by
  obtain ⟨k, hk, hfits⟩ : ∃ k, RingWith ip k s ∧
    (s.conn.h2tWaiting = true → heldSz s + k ≤ cfg.info.h2tMemSz) := h.ring rfl
  obtain ⟨k', hk', hleft⟩ := hk.h2t hok hlow hquiet (echoFits_room _ _ _) hcall
  have hwait (hw : x.2.conn.h2tWaiting = true) : heldSz x.2 + k' ≤ cfg.info.h2tMemSz := by
    obtain ⟨rfl, hleft'⟩ := hleft hw
    have hsz : heldSz x.2 = getAlignedSz (nextH2tHeader s).dataLenBytes.toNat := by
      rw [heldSz, hleft'.header]
    by_cases hs : s.conn.h2tWaiting = true
    · have hold := hfits hs
      rw [hsz, nextH2tHeader, if_pos hs]
      exact hold
    · have hs' : s.conn.h2tWaiting = false := by simpa using hs
      have hlen : 10 ≤ (pending (s.client .h2tData).rx).length := hleft'.arrives.resolve_left hs
      have hnew : getAlignedSz (nextH2tHeader s).dataLenBytes.toNat
          ≤ s.drv.h2t.reclaimable ip.depth := hguard.h2t rfl hleft'.normal hs' hlen
      have hall := hk.reclaimable
      rw [hsz]
      omega
  refine ⟨(mgmtHeld_h2t hcall).waiting.trans h.mgmt, fun hw => ?_, fun _ => ⟨k', hk', hwait⟩⟩
  exact (Nat.le_add_right _ k').trans (hwait hw)

theorem WaitInv.step {st st' : ServerState D} {a : ServerAction} (hok : WindowOk cfg.info .h2t)
    (hlow : cfg.info.h2tMemBaseAddr + 2 ^ 16 ≤ 2 ^ 32) (hquiet : ip.Quiet (2 ^ 16))
    (h : WaitInv ip st) (hguard : LetsIn ip st a) (hstep : ServerStep cfg ip st a st') :
    WaitInv ip st' := by
  obtain ⟨hh2t, hmgmt⟩ := held_step hstep
  have hnomgmt : st'.srv.conn.mgmtWaiting = false := by
    by_cases ha : a = .mgmt
    · subst ha
      cases hstep with
      | mgmt hcall => exact mgmtWaiting_noHeader h.mgmt (hguard.mgmt rfl) hcall
    · exact (hmgmt ha).waiting.trans h.mgmt
  by_cases ha : a = .h2t
  · subst ha
    cases hstep with
    | h2t hcall => exact h.h2t hok hlow hquiet hguard hcall
  · have hsame := hh2t ha
    have hheld (hw : st'.srv.conn.h2tWaiting = true) : heldSz st'.srv ≤ cfg.info.h2tMemSz := by
      rw [hsame.heldSz]
      exact h.held (hsame.waiting.symm.trans hw)
    refine ⟨hnomgmt, hheld, fun hconn => ?_⟩
    by_cases hst : st.connected = true
    · obtain ⟨k, hk, hfits⟩ := h.ring hst
      refine ⟨k, hk.step hst ha hstep, fun hw => ?_⟩
      rw [hsame.heldSz]
      exact hfits (hsame.waiting.symm.trans hw)
    · -- a new session starts with a ring that has leaked nothing
      cases hstep with
      | connect s => exact ⟨0, ringWith_connect hok hconn, hheld⟩
      | close s => cases hconn
      | hardware hproc => exact absurd hconn hst
      | _ => exact absurd rfl hst

/-- **Waits end**: as long as every packet that is let in fits into what can be reclaimed and no MGMT
header arrives, each wait ends once the IP is idle. -/
theorem waits_end (h0 : 0 < memSize) (h31 : memSize ≤ 2 ^ 31)
    (hinfo : cfg.info = getDesignInfo memSize) (ip : ChannelIp io cfg.info .h2t)
    (hdepth : 0 < ip.depth) (hquiet : ip.Quiet (2 ^ 16)) {s0 : Srv D}
    (hh2t : s0.conn.h2tWaiting = false) (hmgmt : s0.conn.mgmtWaiting = false)
    (hrun : Reach (ServerStep cfg ip) (LetsIn ip) ⟨s0, false⟩ ⟨s, true⟩) :
    WaitEnds ip s := by
  have hfit : WindowsFit cfg.info memSize := hinfo ▸ windowsFit_getDesignInfo h0 (by omega)
  have hok : WindowOk cfg.info .h2t := hinfo ▸ windowOk_getDesignInfo h0 h31
  have hinv := hrun.invariant (WaitInv ip)
    (fun st a st' hs hg hstep => hs.step hok (hfit.low hok) hquiet hg hstep)
    ⟨hmgmt, fun hw => absurd (hh2t.symm.trans hw) (by decide), fun hc => by cases hc⟩
  obtain ⟨k, hk, hfits⟩ := hinv.ring rfl
  refine fun d hproc hidle => ⟨fun hw => ?_, fun hw => ?_⟩
  · obtain ⟨x, hx, hclear⟩ := hk.waitEnds hok hdepth hw (hfits hw) hproc hidle
    exact ⟨x, hx, Or.inl hclear⟩
  · exact absurd (hinv.mgmt.symm.trans hw) (by decide)

/-- The next calls if the IP is already idle. -/
theorem WaitEnds.idle (h : WaitEnds ip s) (hidle : ip.uncompleted s.dev = []) :
    (s.conn.h2tWaiting = true → ∃ x, processH2tData io cfg s = some x ∧
      (x.2.conn.h2tWaiting = false ∨ x.1 = .failure)) ∧
    (s.conn.mgmtWaiting = true → ∃ x, processMgmtData io cfg s = some x ∧
      (x.2.conn.mgmtWaiting = false ∨ x.1 = .failure)) :=
  h s.dev (ChannelIp.Proceeds.refl ip s.dev) hidle

namespace DebugIp

/-- The bytes of a header for `len` bytes. -/
def headerBytes (len : Nat) : List UInt8 :=
  packetGuardband ++ [3, 0, 0, 0, byteAt len 0, byteAt len 1]

/-- A client that sends an H2T packet for each length, and one MGMT header. -/
def h2tClient (lens : List Nat) : Sock → List RecvEvent
  | .h2tData => lens.map fun len => .data (headerBytes len ++ List.replicate len 0)
  | .mgmt => [.data (headerBytes 0)]
  | _ => []

/-- The server behind `connect_client` for this client. -/
def h2tConnected (lens : List Nat) : ServerState DebugIp :=
  .connect debugIp echoDesign (listening (clientSockets 1 (h2tClient lens)) [])

/-- The server behind a call of `process_h2t_data`. -/
def afterH2t (s : Srv DebugIp) : Srv DebugIp :=
  ((processH2tData debugIp echoDesign s).getD (.failure, s)).2

/-- The server behind a call of `process_mgmt_data`. -/
def afterMgmt (s : Srv DebugIp) : Srv DebugIp :=
  ((processMgmtData debugIp echoDesign s).getD (.failure, s)).2

/-- The server behind `n` calls of `process_h2t_data` for this client. -/
def h2tCalled (lens : List Nat) : Nat → Srv DebugIp
  | 0 => (h2tConnected lens).srv
  | n + 1 => afterH2t (h2tCalled lens n)

theorem step_h2t {s : Srv DebugIp} (h : (processH2tData debugIp echoDesign s).isSome) :
    ServerStep echoDesign echoIp ⟨s, true⟩ .h2t ⟨afterH2t s, true⟩ := by
  obtain ⟨x, hx⟩ := Option.isSome_iff_exists.mp h
  rw [afterH2t, hx]
  exact .h2t hx

theorem step_mgmt {s : Srv DebugIp} (h : (processMgmtData debugIp echoDesign s).isSome) :
    ServerStep echoDesign echoIp ⟨s, true⟩ .mgmt ⟨afterMgmt s, true⟩ := by
  obtain ⟨x, hx⟩ := Option.isSome_iff_exists.mp h
  rw [afterMgmt, hx]
  exact .mgmt hx

/-- The first step of every session. -/
theorem connect_run {s : Srv DebugIp} {guard : ServerState DebugIp → ServerAction → Prop}
    (hconn : (ServerState.connect debugIp echoDesign s).connected = true)
    (hguard : ∀ s, guard s .connect) :
    Reach (ServerStep echoDesign echoIp) guard ⟨s, false⟩
      ⟨(ServerState.connect debugIp echoDesign s).srv, true⟩ := by
  have hstep : ServerStep echoDesign echoIp ⟨s, false⟩ .connect
      ⟨(ServerState.connect debugIp echoDesign s).srv, true⟩ := by
    rw [← hconn]
    exact .connect s
  exact .single (hguard _) hstep

theorem h2tCalled_run {lens : List Nat} {n : Nat}
    {guard : ServerState DebugIp → ServerAction → Prop}
    (hconn : (h2tConnected lens).connected = true)
    (hcall : ∀ i < n, (processH2tData debugIp echoDesign (h2tCalled lens i)).isSome)
    (hguard : ∀ s, guard s .connect) (hh2t : ∀ i < n, guard ⟨h2tCalled lens i, true⟩ .h2t) :
    Reach (ServerStep echoDesign echoIp) guard
      ⟨listening (clientSockets 1 (h2tClient lens)) [], false⟩ ⟨h2tCalled lens n, true⟩ := by
  induction n with
  | zero => exact connect_run hconn hguard
  | succ n ih =>
    have hrun := ih (fun i hi => hcall i (by omega)) fun i hi => hh2t i (by omega)
    exact hrun.tail (hh2t n (by omega)) (step_h2t (hcall n (by omega)))

end DebugIp

/-- Two packets fill the window of 8 KiB: the third one waits, and its wait ends. -/
theorem waits_end_full : (DebugIp.h2tCalled [4096, 4096, 8] 3).conn.h2tWaiting = true ∧
    (DebugIp.h2tCalled [4096, 4096, 8] 3).drv.h2t.cbuff.spaceAvailable = 0 ∧
    WaitEnds DebugIp.echoIp (DebugIp.h2tCalled [4096, 4096, 8] 3) := by
  obtain ⟨hconn, hcall, hlen, hwait, hfull⟩ :
      (DebugIp.h2tConnected [4096, 4096, 8]).connected = true ∧
      (∀ i < 3,
        (processH2tData debugIp DebugIp.echoDesign (DebugIp.h2tCalled [4096, 4096, 8] i)).isSome) ∧
      (∀ i < 3, getAlignedSz
        (nextH2tHeader (DebugIp.h2tCalled [4096, 4096, 8] i)).dataLenBytes.toNat ≤
          (DebugIp.h2tCalled [4096, 4096, 8] i).drv.h2t.reclaimable DebugIp.echoIp.depth) ∧
      (DebugIp.h2tCalled [4096, 4096, 8] 3).conn.h2tWaiting = true ∧
      (DebugIp.h2tCalled [4096, 4096, 8] 3).drv.h2t.cbuff.spaceAvailable = 0 := by
    decide +kernel
  have hguard : ∀ i < 3,
      LetsIn DebugIp.echoIp ⟨DebugIp.h2tCalled [4096, 4096, 8] i, true⟩ .h2t :=
    fun i hi => ⟨fun _ _ _ _ => hlen i hi, fun h => (by cases h)⟩
  have hconnect (s : ServerState DebugIp) : LetsIn DebugIp.echoIp s .connect :=
    ⟨fun h => (by cases h), fun h => (by cases h)⟩
  have hrun : Reach (ServerStep DebugIp.echoDesign DebugIp.echoIp) (LetsIn DebugIp.echoIp)
      ⟨DebugIp.listening (DebugIp.clientSockets 1 (DebugIp.h2tClient [4096, 4096, 8])) [], false⟩
      ⟨DebugIp.h2tCalled [4096, 4096, 8] 3, true⟩ :=
    DebugIp.h2tCalled_run hconn hcall hconnect hguard
  refine ⟨hwait, hfull, ?_⟩
  generalize DebugIp.h2tCalled [4096, 4096, 8] 3 = s at hrun ⊢
  have hinfo : DebugIp.echoDesign.info = getDesignInfo 0x2000 := rfl
  exact waits_end (by omega) (by omega) hinfo DebugIp.echoIp (by decide)
    (DebugIp.echoIp_quiet _) rfl rfl hrun

/-- A packet larger than the window, and any MGMT packet, waits although the IP is idle. -/
theorem waits_for_ever :
    (∃ s, Reach (ServerStep DebugIp.echoDesign DebugIp.echoIp) always
      ⟨DebugIp.listening (DebugIp.clientSockets 1 (DebugIp.h2tClient [65535])) [], false⟩
      ⟨s, true⟩ ∧ s.conn.h2tWaiting = true ∧ ¬ WaitEnds DebugIp.echoIp s) ∧
    ∃ s, Reach (ServerStep DebugIp.echoDesign DebugIp.echoIp) always
      ⟨DebugIp.listening (DebugIp.clientSockets 1 (DebugIp.h2tClient [])) [], false⟩
      ⟨s, true⟩ ∧ s.conn.mgmtWaiting = true ∧ ¬ WaitEnds DebugIp.echoIp s := by
  constructor
  · obtain ⟨hconn, hfirst, hwait, hidle, hcall⟩ :
        (DebugIp.h2tConnected [65535]).connected = true ∧
        (∀ i < 1, (processH2tData debugIp DebugIp.echoDesign (DebugIp.h2tCalled [65535] i)).isSome) ∧
        (DebugIp.h2tCalled [65535] 1).conn.h2tWaiting = true ∧
        DebugIp.echoIp.uncompleted (DebugIp.h2tCalled [65535] 1).dev = [] ∧
        (processH2tData debugIp DebugIp.echoDesign (DebugIp.h2tCalled [65535] 1)).map
          (fun x => (x.1, x.2.conn.h2tWaiting)) = some (.ok, true) := by
      decide +kernel
    have hrun : Reach (ServerStep DebugIp.echoDesign DebugIp.echoIp) always
        ⟨DebugIp.listening (DebugIp.clientSockets 1 (DebugIp.h2tClient [65535])) [], false⟩
        ⟨DebugIp.h2tCalled [65535] 1, true⟩ :=
      DebugIp.h2tCalled_run hconn hfirst (fun _ => trivial) fun _ _ => trivial
    generalize DebugIp.h2tCalled [65535] 1 = s at hrun hwait hidle hcall
    refine ⟨s, hrun, hwait, fun hends => ?_⟩
    obtain ⟨x, hx, hor⟩ := (hends.idle hidle).1 hwait
    rw [hx, Option.map_some] at hcall
    obtain ⟨hrc, hflag⟩ := Prod.mk.inj (Option.some.inj hcall)
    rw [hrc, hflag] at hor
    simp at hor
  · obtain ⟨hconn, hfirst, hwait, hidle⟩ : (DebugIp.h2tConnected []).connected = true ∧
        (processMgmtData debugIp DebugIp.echoDesign (DebugIp.h2tConnected []).srv).isSome ∧
        (DebugIp.afterMgmt (DebugIp.h2tConnected []).srv).conn.mgmtWaiting = true ∧
        DebugIp.echoIp.uncompleted
          (DebugIp.afterMgmt (DebugIp.h2tConnected []).srv).dev = [] := by
      decide +kernel
    have hrun : Reach (ServerStep DebugIp.echoDesign DebugIp.echoIp) always
        ⟨DebugIp.listening (DebugIp.clientSockets 1 (DebugIp.h2tClient [])) [], false⟩
        ⟨DebugIp.afterMgmt (DebugIp.h2tConnected []).srv, true⟩ :=
      (DebugIp.connect_run hconn fun _ => trivial).tail trivial (DebugIp.step_mgmt hfirst)
    have hbase : DebugIp.echoDesign.info.mgmtMemBaseAddr = 0 := rfl
    generalize DebugIp.afterMgmt (DebugIp.h2tConnected []).srv = s at hrun hwait hidle
    refine ⟨s, hrun, hwait, fun hends => ?_⟩
    obtain ⟨x, hx, hor⟩ := (hends.idle hidle).2 hwait
    obtain rfl := Option.some.inj (hx.symm.trans (mgmt_waits hbase hwait))
    rcases hor with hflag | hrc
    · exact absurd (hwait.symm.trans hflag) (by decide)
    · cases hrc

end RemoteDebug
