import RemoteDebug.Proofs.AsideProofs
import RemoteDebug.Proofs.DeliveryProofs

/-!
# The H2T ring in every run

Whatever the server does, its ring agrees with the descriptors of the IP while a client is connected.
`RingWith` also says how many bytes of the window the ring will never get back.
-/

namespace RemoteDebug

open Bytes Script

variable {D : Type} {io : Mmio D} {cfg : Config} {ip : ChannelIp io cfg.info .h2t} {s s' : Srv D}
  {k room : Nat}

/-- The server and the IP agree on the H2T ring, and `k` bytes of the window have leaked or will leak
with the descriptors that are live. -/
def RingWith (ip : ChannelIp io cfg.info .h2t) (k : Nat) (s : Srv D) : Prop :=
  ∃ live lost, RingInv cfg.info ip.toQueueIp s.drv.h2t s.dev live lost ∧ lost + leak live = k

theorem RingWith.same (h : RingWith ip k s) (hring : s'.drv.h2t = s.drv.h2t)
    (hproc : ip.Proceeds s.dev s'.dev) : RingWith ip k s' := by
  obtain ⟨live, lost, hinv, hk⟩ := h
  exact ⟨live, lost, hring ▸ hinv.proceeds hproc.1, hk⟩

theorem RingWith.aside (h : RingWith ip k s) (ha : Aside ip s s') : RingWith ip k s' :=
  h.same ha.ring ha.proceeds

/-- `connect_client` starts with a fresh ring. -/
theorem connected_ring (ip : ChannelIp io cfg.info .h2t) (hok : WindowOk cfg.info .h2t)
    (hconn : (connectClient io cfg s).1 = .ok) :
    RingInv cfg.info ip.toQueueIp (connectClient io cfg s).2.drv.h2t (connectClient io cfg s).2.dev [] 0 ∧
      (connectClient io cfg s).2.drv.h2t
        = s.drv.h2t.init ip.depth cfg.info.h2tMemBaseAddr cfg.info.h2tMemSz := by
  obtain ⟨rc, drv, d, hinit⟩ : ∃ rc drv d, initDriver io cfg.info s.drv s.dev = (rc, drv, d) :=
    ⟨_, _, _, rfl⟩
  obtain ⟨ha, hrc⟩ := aside_connectClient ip hinit
  obtain rfl := hrc hconn
  rcases initDriver_cases ip hinit with ⟨hne, -⟩ | ⟨-, -, hidle, hring⟩
  · exact absurd rfl hne
  · have hdrv : drv.h2t = s.drv.h2t.init ip.depth cfg.info.h2tMemBaseAddr cfg.info.h2tMemSz := hring
    have hfresh : RingInv cfg.info ip.toQueueIp drv.h2t d [] 0 := by
      rw [hdrv]
      exact ringInv_init hok hidle
    refine ⟨?_, ha.ring.trans hdrv⟩
    rw [ha.ring]
    exact hfresh.proceeds ha.proceeds.1

theorem ringWith_connect (hok : WindowOk cfg.info .h2t)
    (hconn : (ServerState.connect io cfg s).connected = true) :
    RingWith ip 0 (ServerState.connect io cfg s).srv := by
  unfold ServerState.connect at hconn ⊢
  dsimp only at hconn ⊢
  split at hconn
  · next hsucc =>
    rw [if_pos hsucc]
    have hfresh : RingWith ip 0 (connectClient io cfg
        { resetBuffers s with client := clientConnDefault }).2 :=
      ⟨[], 0, (connected_ring ip hok hsucc).1, rfl⟩
    exact hfresh.aside (aside_of_eq ip rfl rfl rfl rfl)
  · cases hconn

/-! ## H2T packets -/

theorem le_wordBytes (len : Nat) : len ≤ wordBytes len := by
  unfold wordBytes
  omega

/-- A length of 16 bits never needs more than 64 KiB. -/
theorem echoFits_room (n : Nat) (st : ServerState D) (a : ServerAction) :
    EchoFits (n + 2 ^ 16) st a := by
  intro _ _ _
  have hlen := (nextH2tHeader st.srv).dataLenBytes.toNat_lt
  unfold wordBytes
  omega

theorem fpga2hostLoop_proceeds (ip : ChannelIp io cfg.info .h2t) (buff n i : Nat) (st : Staging)
    (d : D) : ip.Proceeds d (fpga2hostLoop io buff n i st d).2 := by
  induction n generalizing i st d with
  | zero => exact ChannelIp.Proceeds.refl ip d
  | succ n ih => exact ChannelIp.Proceeds.trans (ip.read64 _ d) (ih _ _ _)

theorem socketSendAllT2hData_proceeds (ip : ChannelIp io cfg.info .h2t) (buff len : Nat)
    (s : Srv D) : ip.Proceeds s.dev (socketSendAllT2hData io .t2hData buff len s).2.dev :=
  fpga2hostLoop_proceeds ip _ _ _ _ _

theorem updateCurrH2tHeader_next (ip : ChannelIp io cfg.info .h2t) {rc : ReturnCode}
    (h : updateCurrH2tHeader s = (rc, s')) :
    Aside ip s s' ∧ s'.conn.loopbackMode = s.conn.loopbackMode ∧
      (rc = .ok → HeaderArrives s ∧ headerOf s'.conn.h2tHeaderBuff = nextH2tHeader s) := by
  unfold updateCurrH2tHeader at h
  split at h
  · next hwait =>
    obtain ⟨rfl, rfl⟩ := Prod.mk.inj h
    refine ⟨aside_of_eq ip rfl rfl rfl rfl, rfl, fun hok => ?_⟩
    by_cases hlen : 10 ≤ (pending (s.client .h2tData).rx).length
    · obtain ⟨rx', hrec, -⟩ := socketRecvAccumulate_ok hlen
      refine ⟨Or.inr hlen, ?_⟩
      simp only [nextH2tHeader, hwait, Srv.recvAccumulate, hrec, Bool.false_eq_true, if_false]
    · obtain ⟨rx', hrec, -⟩ := socketRecvAccumulate_failure (not_le.mp hlen)
      simp only [Srv.recvAccumulate, hrec] at hok
      cases hok
  · next hwait =>
    have hwait' : s.conn.h2tWaiting = true := by simpa using hwait
    obtain ⟨rfl, rfl⟩ := Prod.mk.inj h
    refine ⟨Aside.refl ip s, rfl, fun _ => ⟨Or.inl hwait', ?_⟩⟩
    rw [nextH2tHeader, if_pos hwait']

theorem leak_append (l l' : List Descriptor) : leak (l ++ l') = leak l + leak l' := by
  simp [leak]

/-- The poll for a buffer in normal operation returns. It leaks nothing else, and if the IP is idle it
grants a buffer to every packet that fits into what is left of the window. -/
theorem RingWith.poll (h : RingWith ip k s) (hmode : s.conn.loopbackMode = false) (len : Nat) :
    ∃ buff s', pollH2tBuffer io cfg len s = some (buff, s') ∧
      ((buff = 0 ∧ RingWith ip k s' ∧ (0 < ip.depth → ip.uncompleted s.dev = [] →
          cfg.info.h2tMemSz < getAlignedSz len + k)) ∨
        (buff ≠ 0 ∧ ∃ live lost, Granted cfg.info ip.toQueueIp s'.drv.h2t s'.dev live lost len buff ∧
          lost + leak live = k)) := by
  obtain ⟨live, lost, hinv, hk⟩ := h
  obtain ⟨addr, r', d', hget, -, hcases⟩ := hinv.getBuffer cfg.charSigned len
  have hcall : getH2tBuffer io cfg len s.drv s.dev = some (addr, { s.drv with h2t := r' }, d') := by
    have heq := channel_getBuffer_eq io cfg .h2t len s.drv s.dev
    simp only [Channel.getBuffer, Driver.ring, hget, Option.map_some] at heq
    exact heq
  have hsum : leak (live.take (live.length - (ip.uncompleted s.dev).length))
      + leak (ip.uncompleted s.dev) = leak live := by
    conv_rhs => rw [← List.take_append_drop (live.length - (ip.uncompleted s.dev).length) live]
    rw [leak_append, ← List.suffix_iff_eq_drop.mp hinv.uncompleted]
  refine ⟨addr, { s with drv := { s.drv with h2t := r' }, dev := d' },
    by rw [pollH2tBuffer, if_pos hmode, hcall]; rfl, ?_⟩
  rcases hcases with ⟨h0, hinv', hrefused⟩ | ⟨hne, hg⟩
  · refine Or.inl ⟨h0, ⟨_, _, hinv', by omega⟩, fun hdepth hidle => ?_⟩
    have hslots := hinv'.chain.slots
    have hspace := hinv'.space.space
    rw [hidle] at hslots hspace hsum
    have hspan : Channel.h2t.span cfg.info = cfg.info.h2tMemSz := rfl
    have hnone : leak [] = 0 := rfl
    rw [hspan, List.map_nil, Cyclic.total_nil] at hspace
    rw [List.map_nil, List.length_nil] at hslots
    rw [hnone, List.length_nil] at hsum
    rw [List.length_nil] at hspace
    omega
  · exact Or.inr ⟨hne, _, _, hg, by omega⟩

/-- What a packet that is left waiting says about the state before: it was not in loopback mode, and
nothing else has been allocated. -/
structure LeftWaiting (s s' : Srv D) : Prop where
  normal : s.conn.loopbackMode = false
  arrives : HeaderArrives s
  header : headerOf s'.conn.h2tHeaderBuff = nextH2tHeader s

/-- **A call of `process_h2t_data`** keeps the ring. -/
theorem RingWith.h2t {x : ReturnCode × Srv D} (hok : WindowOk cfg.info .h2t)
    (hlow : cfg.info.h2tMemBaseAddr + 2 ^ 16 ≤ 2 ^ 32) (hquiet : ip.Quiet room)
    (h : RingWith ip k s) (hecho : EchoFits (cfg.info.h2tMemSz + room) ⟨s, true⟩ .h2t)
    (hcall : processH2tData io cfg s = some x) :
    ∃ k', RingWith ip k' x.2 ∧ (x.2.conn.h2tWaiting = true → k' = k ∧ LeftWaiting s x.2) := by
  have hbase : 0 < cfg.info.h2tMemBaseAddr := hok.base_pos
  have hspan : 0 < cfg.info.h2tMemSz := hok.span_pos
  rcases processH2tData_cases hcall with ⟨rfl, hne⟩ | ⟨s1, buff, s2, hhead, hpoll, hcases⟩
  · have heq : updateCurrH2tHeader s = ((updateCurrH2tHeader s).1, (updateCurrH2tHeader s).2) := rfl
    refine ⟨k, h.aside (updateCurrH2tHeader_next ip heq).1, fun hwait => absurd ?_ hne⟩
    rw [(updateCurrH2tHeader_frame heq).1] at hwait
    have hwait' : ¬ s.conn.h2tWaiting = false := by simpa using hwait
    rw [updateCurrH2tHeader, if_neg hwait']
  · obtain ⟨ha, hmode, hnext⟩ := updateCurrH2tHeader_next ip hhead
    obtain ⟨harr, hheader⟩ := hnext rfl
    have h1 : RingWith ip k s1 := h.aside ha
    rw [hheader] at hpoll hcases
    obtain ⟨hconn2, -⟩ := pollH2tBuffer_frame hpoll
    have h16 := (nextH2tHeader s).dataLenBytes.toNat_lt
    generalize hlen : (nextH2tHeader s).dataLenBytes.toNat = len at h16 hpoll hcases
    -- behind the payload the flag is clear
    have hclear (hne : buff ≠ 0) : x.2.conn.h2tWaiting = false := by
      obtain ⟨hz, -⟩ | ⟨-, rfl⟩ := hcases
      · exact absurd hz hne
      · rw [pushOrLoopbackH2t_conn, (recvH2tPayload_frame io cfg buff len _).conn]
        rfl
    by_cases hloop : s1.conn.loopbackMode = false
    · obtain ⟨_, _, hpoll', hwhich⟩ := h1.poll hloop len
      obtain ⟨rfl, rfl⟩ := Prod.mk.inj (Option.some.inj (hpoll.symm.trans hpoll'))
      rcases hwhich with ⟨h0, h2, -⟩ | ⟨hne, live, lost, hg, hk⟩
      · obtain ⟨-, rfl⟩ | ⟨hne, -⟩ := hcases
        · refine ⟨k, h2.aside (aside_of_eq ip rfl rfl rfl rfl), fun _ => ⟨rfl, ?_, harr, ?_⟩⟩
          · rw [← hmode]
            exact hloop
          · show headerOf s2.conn.h2tHeaderBuff = _
            rw [hconn2, hheader]
        · exact absurd h0 hne
      · obtain ⟨hz, -⟩ | ⟨-, rfl⟩ := hcases
        · exact absurd hz hne
        · obtain ⟨hlt, hsz⟩ := hg.bounds
          have hfit : len ≤ cfg.info.h2tMemSz := (le_getAlignedSz len).trans hsz
          have hproc := recvH2tPayload_proceeds hquiet hok (s2.setH2tWaiting false) h16 hg.base_le
            hlt (by omega) (by omega)
          have hframe := recvH2tPayload_frame io cfg buff len (s2.setH2tWaiting false)
          generalize (recvH2tPayload io cfg buff len (s2.setH2tWaiting false)).2 = s3
            at hproc hframe hclear ⊢
          have hmode3 : s3.conn.loopbackMode = false := by
            rw [hframe.conn, Srv.setH2tWaiting_loopbackMode, hconn2]
            exact hloop
          rw [← hlen] at hg
          have hg3 : Granted cfg.info ip.toQueueIp s3.drv.h2t s3.dev live lost
              (nextH2tHeader s).dataLenBytes.toNat buff :=
            hframe.drv ▸ hg.proceeds hproc.1
          obtain ⟨r, d, hpush, hring, -⟩ := hg3.pushOrLoopback hok hmode3
          have hnot := hclear hne
          rw [hpush] at hnot ⊢
          exact ⟨_, ⟨_, _, hring, rfl⟩, fun hwait => absurd (hnot.symm.trans hwait) (by decide)⟩
    · have hloop' : s1.conn.loopbackMode = true := by simpa using hloop
      rw [pollH2tBuffer, if_neg hloop] at hpoll
      obtain ⟨rfl, rfl⟩ := Prod.mk.inj (Option.some.inj hpoll)
      obtain ⟨hz, -⟩ | ⟨hne, rfl⟩ := hcases
      · exact absurd hz hbase.ne'
      · have hfit := (le_wordBytes len).trans (hlen ▸ hecho rfl (hmode ▸ hloop') harr)
        have hproc := recvH2tPayload_proceeds hquiet hok (s1.setH2tWaiting false) h16 le_rfl
          (by omega) hfit (by omega)
        have hframe := recvH2tPayload_frame io cfg cfg.info.h2tMemBaseAddr len
          (s1.setH2tWaiting false)
        have hnot := hclear hne
        generalize (recvH2tPayload io cfg cfg.info.h2tMemBaseAddr len (s1.setH2tWaiting false)).2 = s3
          at hproc hframe hnot ⊢
        have h3 : RingWith ip k s3 := h1.same (congrArg Driver.h2t hframe.drv) hproc
        have hmode3 : s3.conn.loopbackMode = true := by
          rw [hframe.conn]
          exact hloop'
        refine ⟨k, ?_, fun hwait => absurd (hnot.symm.trans hwait) (by decide)⟩
        unfold pushOrLoopbackH2t
        rw [if_neg (by rw [hmode3]; decide)]
        dsimp only
        split
        · exact h3.same rfl (socketSendAllT2hData_proceeds ip _ _ _)
        · exact h3

/-! ## T2H packets -/

/-- The payload is only read. -/
theorem sendT2hPayload_frame (ip : ChannelIp io cfg.info .h2t) (buff len : Nat) (s : Srv D) :
    (sendT2hPayload io cfg buff len s).2.drv = s.drv ∧
      ip.Proceeds s.dev (sendT2hPayload io cfg buff len s).2.dev := by
  have hpart (buff len : Nat) (s : Srv D) :
      (socketSendAllT2hData io .t2hData buff len s).2.drv = s.drv ∧
        ip.Proceeds s.dev (socketSendAllT2hData io .t2hData buff len s).2.dev :=
    ⟨rfl, socketSendAllT2hData_proceeds ip buff len s⟩
  unfold sendT2hPayload
  dsimp only
  split
  · split
    · obtain ⟨hdrv, hproc⟩ := hpart buff
        (buffLenToWrapBoundary cfg.info.t2hMemBaseAddr cfg.info.t2hMemSz buff len) s
      obtain ⟨hdrv', hproc'⟩ := hpart cfg.info.t2hMemBaseAddr _ _
      exact ⟨hdrv'.trans hdrv, hproc.trans hproc'⟩
    · exact hpart _ _ _
  · exact hpart _ _ _

theorem t2h_frame (ip : ChannelIp io cfg.info .h2t) (s : Srv D) :
    (processT2hData io cfg s).2.drv.h2t = s.drv.h2t ∧
      ip.Proceeds s.dev (processT2hData io cfg s).2.dev := by
  have hget (header : H2tPacketHeader) : (getT2hData io cfg.info header s.drv s.dev).2.2.1.h2t
      = s.drv.h2t ∧ ip.Proceeds s.dev (getT2hData io cfg.info header s.drv s.dev).2.2.2 := by
    unfold getT2hData
    dsimp only
    split
    · exact ⟨rfl, ip.read64 _ _⟩
    · exact ⟨rfl, ChannelIp.Proceeds.trans (ip.read64 _ _) (ip.read64 _ _)⟩
  obtain ⟨hring, hproc⟩ := hget (headerOf s.conn.t2hHeaderBuff)
  unfold processT2hData
  dsimp only
  generalize getT2hData io cfg.info (headerOf s.conn.t2hHeaderBuff) s.drv s.dev = x at hring hproc ⊢
  split
  · exact ⟨hring, hproc⟩
  · next t2hBuff _ =>
    obtain ⟨s1, hs1⟩ : ∃ s1 : Srv D, { s with
      conn := { s.conn with t2hHeaderBuff := putHeader s.conn.t2hHeaderBuff x.1 }
      drv := x.2.2.1
      dev := x.2.2.2 } = s1 := ⟨_, rfl⟩
    have hring1 : s1.drv.h2t = s.drv.h2t := by
      subst hs1
      exact hring
    have hproc1 : ip.Proceeds s.dev s1.dev := by
      subst hs1
      exact hproc
    rw [hs1]
    have hsent := aside_sendAll (s := s1) ip .t2hData (putHeader s.conn.t2hHeaderBuff x.1).bytes
    generalize s1.sendAll .t2hData (putHeader s.conn.t2hHeaderBuff x.1).bytes = y at hsent ⊢
    have hring2 := hsent.ring.trans hring1
    have hproc2 := hproc1.trans hsent.proceeds
    obtain ⟨hdrv, hread⟩ := sendT2hPayload_frame ip t2hBuff x.1.dataLenBytes.toNat y.2
    split
    · have hring3 := (congrArg Driver.h2t hdrv).trans hring2
      have hproc3 := hproc2.trans hread
      generalize sendT2hPayload io cfg t2hBuff x.1.dataLenBytes.toNat y.2 = z at hring3 hproc3 ⊢
      split
      · exact ⟨hring3, hproc3.trans (ip.write32 _ _ _ (by simp))⟩
      · exact ⟨hring3, hproc3⟩
    · exact ⟨hring2, hproc2⟩

theorem RingWith.t2h (h : RingWith ip k s) : RingWith ip k (processT2hData io cfg s).2 :=
  h.same (t2h_frame ip s).1 (t2h_frame ip s).2

/-! ## Runs -/

/-- Only `connect_client` and `process_h2t_data` touch the ring. -/
theorem step_ring {st st' : ServerState D} {a : ServerAction} (hst : st.connected = true)
    (hne : a ≠ .h2t) (hstep : ServerStep cfg ip st a st') :
    st'.srv.drv.h2t = st.srv.drv.h2t ∧ ip.Proceeds st.srv.dev st'.srv.dev := by
  have haside {s s' : Srv D} (ha : Aside ip s s') :
      s'.drv.h2t = s.drv.h2t ∧ ip.Proceeds s.dev s'.dev := ⟨ha.ring, ha.proceeds⟩
  cases hstep with
  | connect s => cases hst
  | select s selects => exact ⟨rfl, ChannelIp.Proceeds.refl ip _⟩
  | reject s => exact haside (aside_rejectClient ip s)
  | control hcall => exact haside (aside_control ip hcall)
  | mgmt hcall => exact haside (aside_mgmt ip hcall)
  | h2t hcall => exact absurd rfl hne
  | mgmtRsp hmode => exact haside (aside_mgmtRsp ip _)
  | t2h hmode => exact t2h_frame ip _
  | close s => exact haside (aside_closeClientConn ip _)
  | hardware hproc => exact ⟨rfl, hproc⟩

theorem RingWith.step {st st' : ServerState D} {a : ServerAction} (h : RingWith ip k st.srv)
    (hst : st.connected = true) (hne : a ≠ .h2t) (hstep : ServerStep cfg ip st a st') :
    RingWith ip k st'.srv := by
  obtain ⟨hring, hproc⟩ := step_ring hst hne hstep
  exact h.same hring hproc

/-- While a client is connected the ring agrees with the IP. -/
def RingHolds (ip : ChannelIp io cfg.info .h2t) (st : ServerState D) : Prop :=
  st.connected = true → ∃ k, RingWith ip k st.srv

theorem ringHolds_step {st st' : ServerState D} {a : ServerAction} (hok : WindowOk cfg.info .h2t)
    (hlow : cfg.info.h2tMemBaseAddr + 2 ^ 16 ≤ 2 ^ 32) (hquiet : ip.Quiet room)
    (h : RingHolds ip st) (hecho : EchoFits (cfg.info.h2tMemSz + room) st a)
    (hstep : ServerStep cfg ip st a st') : RingHolds ip st' := by
  intro hconn
  by_cases hst : st.connected = true
  · obtain ⟨k, hk⟩ := h hst
    by_cases ha : a = .h2t
    · subst ha
      cases hstep with
      | h2t hcall =>
        obtain ⟨k', hk', -⟩ := hk.h2t hok hlow hquiet hecho hcall
        exact ⟨k', hk'⟩
    · exact ⟨k, hk.step hst ha hstep⟩
  · cases hstep with
    | connect s => exact ⟨0, ringWith_connect hok hconn⟩
    | close s => cases hconn
    | hardware hproc => exact absurd hconn hst
    | _ => exact absurd rfl hst

end RemoteDebug
