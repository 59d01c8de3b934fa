import RemoteDebug.Hardware.IsolationRun
import RemoteDebug.Lib.TwoRuns
import RemoteDebug.Proofs.SocketProofs

/-!
# Two sessions call by call

`Alike` relates two states of the server that a client cannot tell apart. Every call that leaves the H2T
ring alone takes alike states to alike states and returns the same.
-/

namespace RemoteDebug

open Bytes CString Script TwoRuns

variable {D : Type} {io : Mmio D} {cfg : Config} {R : D → D → Prop} {b b' : List Event}
  {s s' : Srv D}

/-- A client does not tell the states `s` and `s'` apart: they differ in the packets that are not held
back, in the staging buffers and in what lies in the memory. Since `b` and `b'` the same has been done. -/
structure Alike (R : D → D → Prop) (b b' : List Event) (s s' : Srv D) : Prop where
  env : s'.env = s.env
  client : s'.client = s.client
  ctrlRxBuff : s'.conn.ctrlRxBuff = s.conn.ctrlRxBuff
  loopbackMode : s'.conn.loopbackMode = s.conn.loopbackMode
  t2hNagle : s'.conn.t2hNagle = s.conn.t2hNagle
  mgmtRspNagle : s'.conn.mgmtRspNagle = s.conn.mgmtRspNagle
  h2tWaiting : s'.conn.h2tWaiting = s.conn.h2tWaiting
  mgmtWaiting : s'.conn.mgmtWaiting = s.conn.mgmtWaiting
  h2tHeader : s.conn.h2tWaiting = true → s'.conn.h2tHeaderBuff = s.conn.h2tHeaderBuff
  mgmtHeader : s.conn.mgmtWaiting = true → s'.conn.mgmtHeaderBuff = s.conn.mgmtHeaderBuff
  dev : R s.dev s'.dev
  deeds : ∃ l l', s.log = b ++ l ∧ s'.log = b' ++ l' ∧ l'.map Event.deed = l.map Event.deed

/-- Both calls return the same, and leave alike states. -/
def BothAlike {α : Type} (R : D → D → Prop) (b b' : List Event) (x x' : α × Srv D) : Prop :=
  x'.1 = x.1 ∧ Alike R b b' x.2 x'.2

/-! ## Building blocks -/

theorem Alike.record (h : Alike R b b' s s') {e e' : Event} (he : e'.deed = e.deed) :
    Alike R b b' (s.record e) (s'.record e') := by
  obtain ⟨l, l', hl, hl', heq⟩ := h.deeds
  refine ⟨h.env, h.client, h.ctrlRxBuff, h.loopbackMode, h.t2hNagle, h.mgmtRspNagle, h.h2tWaiting,
    h.mgmtWaiting, h.h2tHeader, h.mgmtHeader, h.dev, l ++ [e], l' ++ [e'], ?_, ?_, ?_⟩
  · show s.log ++ [e] = b ++ (l ++ [e])
    rw [hl, List.append_assoc]
  · show s'.log ++ [e'] = b' ++ (l' ++ [e'])
    rw [hl', List.append_assoc]
  · rw [List.map_append, List.map_append, heq, List.map_singleton, List.map_singleton, he]

theorem Alike.withEnv (h : Alike R b b' s s') (env : Env) :
    Alike R b b' { s with env := env } { s' with env := env } :=
  ⟨rfl, h.client, h.ctrlRxBuff, h.loopbackMode, h.t2hNagle, h.mgmtRspNagle, h.h2tWaiting,
    h.mgmtWaiting, h.h2tHeader, h.mgmtHeader, h.dev, h.deeds⟩

theorem Alike.withSocket (h : Alike R b b' s s') (sock : Sock) (c : Socket) :
    Alike R b b' { s with client := Function.update s.client sock c }
      { s' with client := Function.update s'.client sock c } :=
  ⟨h.env, by rw [h.client], h.ctrlRxBuff, h.loopbackMode, h.t2hNagle, h.mgmtRspNagle, h.h2tWaiting,
    h.mgmtWaiting, h.h2tHeader, h.mgmtHeader, h.dev, h.deeds⟩

theorem Alike.withDev (h : Alike R b b' s s') {d d' : D} (hd : R d d') :
    Alike R b b' { s with dev := d } { s' with dev := d' } :=
  ⟨h.env, h.client, h.ctrlRxBuff, h.loopbackMode, h.t2hNagle, h.mgmtRspNagle, h.h2tWaiting,
    h.mgmtWaiting, h.h2tHeader, h.mgmtHeader, hd, h.deeds⟩

theorem Alike.anyBus (h : Alike R b b' s s') : Alike (fun _ _ => True) b b' s s' :=
  ⟨h.env, h.client, h.ctrlRxBuff, h.loopbackMode, h.t2hNagle, h.mgmtRspNagle, h.h2tWaiting,
    h.mgmtWaiting, h.h2tHeader, h.mgmtHeader, trivial, h.deeds⟩

theorem Alike.setRx (h : Alike R b b' s s') (sock : Sock) (rx : List RecvEvent) :
    Alike R b b' (s.setRx sock rx) (s'.setRx sock rx) := by
  have hset := h.withSocket sock { s.client sock with rx := rx }
  unfold Srv.setRx
  rw [h.client] at hset ⊢
  exact hset

theorem Alike.setTx (h : Alike R b b' s s') (sock : Sock) (tx : List SendEvent) :
    Alike R b b' (s.setTx sock tx) (s'.setTx sock tx) := by
  have hset := h.withSocket sock { s.client sock with tx := tx }
  unfold Srv.setTx
  rw [h.client] at hset ⊢
  exact hset

theorem Alike.storeCtrl (h : Alike R b b' s s') (bs : List UInt8) :
    Alike R b b' { s with conn := { s.conn with ctrlRxBuff := s.conn.ctrlRxBuff.store bs } }
      { s' with conn := { s'.conn with ctrlRxBuff := s'.conn.ctrlRxBuff.store bs } } :=
  ⟨h.env, h.client, by show s'.conn.ctrlRxBuff.store bs = _; rw [h.ctrlRxBuff], h.loopbackMode,
    h.t2hNagle, h.mgmtRspNagle, h.h2tWaiting, h.mgmtWaiting, h.h2tHeader, h.mgmtHeader, h.dev,
    h.deeds⟩

/-! ## Sockets -/

theorem alike_sendAll (h : Alike R b b' s s') (sock : Sock) (bs : List UInt8) :
    BothAlike R b b' (s.sendAll sock bs) (s'.sendAll sock bs) := by
  unfold Srv.sendAll
  rw [h.client]
  exact ⟨rfl, (h.setTx sock _).record rfl⟩

/-- How a `socket_send_all` goes does not depend on the bytes. -/
theorem socketSendAll_length {bs bs' : List UInt8} (hlen : bs'.length = bs.length)
    (tx : List SendEvent) : (socketSendAll bs' tx).1 = (socketSendAll bs tx).1 ∧
      (socketSendAll bs' tx).2.2 = (socketSendAll bs tx).2.2 := by
  induction tx generalizing bs bs' with
  | nil =>
    cases bs with
    | nil =>
      obtain rfl := List.eq_nil_of_length_eq_zero hlen
      exact ⟨rfl, rfl⟩
    | cons x bs =>
      obtain ⟨x', bs', rfl⟩ := List.exists_cons_of_length_eq_add_one hlen
      exact ⟨rfl, rfl⟩
  | cons e tx ih =>
    cases bs with
    | nil =>
      obtain rfl := List.eq_nil_of_length_eq_zero hlen
      cases e <;> exact ⟨rfl, rfl⟩
    | cons x bs =>
      obtain ⟨x', bs', rfl⟩ := List.exists_cons_of_length_eq_add_one hlen
      cases e with
      | error => exact ⟨rfl, rfl⟩
      | accept k =>
        have hdrop : ((x' :: bs').drop k).length = ((x :: bs).drop k).length := by
          rw [List.length_drop, List.length_drop, hlen]
        obtain ⟨hrc, htx⟩ := ih hdrop
        unfold socketSendAll
        dsimp only
        split
        · exact ⟨rfl, rfl⟩
        · exact ⟨hrc, htx⟩

/-- Packets of the same length on a data socket towards the host. -/
theorem alike_sendData (h : Alike R b b' s s') {sock : Sock} (hsock : sock = .t2hData ∨ sock = .mgmtRsp)
    {bs bs' : List UInt8} (hlen : bs'.length = bs.length) :
    BothAlike R b b' (s.sendAll sock bs) (s'.sendAll sock bs') := by
  obtain ⟨hrc, htx⟩ := socketSendAll_length hlen (s.client sock).tx
  unfold Srv.sendAll
  rw [h.client]
  refine ⟨hrc, ?_⟩
  dsimp only
  rw [htx]
  refine (h.setTx sock _).record ?_
  rcases hsock with rfl | rfl
  · rfl
  · rfl

theorem alike_recvAccumulate (h : Alike R b b' s s') (sock : Sock) (len : Nat) :
    (s'.recvAccumulate sock len).1 = (s.recvAccumulate sock len).1 ∧
      BothAlike R b b' (s.recvAccumulate sock len).2 (s'.recvAccumulate sock len).2 := by
  unfold Srv.recvAccumulate
  rw [h.client]
  exact ⟨rfl, rfl, h.setRx sock _⟩

theorem alike_andThen {x x' : ReturnCode × Srv D} (h : BothAlike R b b' x x')
    {f f' : Srv D → ReturnCode × Srv D}
    (hf : ∀ s s', Alike R b b' s s' → BothAlike R b b' (f s) (f' s')) :
    BothAlike R b b' (andThen x f) (andThen x' f') := by
  unfold andThen
  rw [h.1]
  split
  · exact hf _ _ h.2
  · exact h

/-! ## Connections -/

theorem alike_acceptSocket (sock : Sock) (h : Alike R b b' s s') :
    BothAlike R b b' (acceptSocket sock s) (acceptSocket sock s') := by
  unfold acceptSocket
  rw [h.env]
  split
  · exact ⟨rfl, ((h.withSocket sock _).withEnv _).record rfl⟩
  · exact ⟨rfl, (h.withSocket sock _).withEnv _⟩
  · exact ⟨rfl, (h.withSocket sock _).withEnv _⟩

theorem alike_setTcpNoDelay (sock : Sock) (noDelay : Bool) (h : Alike R b b' s s') :
    BothAlike R b b' (setTcpNoDelay sock noDelay s) (setTcpNoDelay sock noDelay s') := by
  unfold setTcpNoDelay
  rw [h.env, h.client]
  have hset := (h.withSocket sock { s.client sock with
    noDelay := if s.env.setsockopts.headD true then noDelay else (s.client sock).noDelay }).withEnv
      { s.env with setsockopts := s.env.setsockopts.tail }
  rw [h.client] at hset
  exact ⟨rfl, hset.record rfl⟩

theorem alike_verifyHandle (sock : Sock) (handle : Nat) (h : Alike R b b' s s') :
    BothAlike R b b' (verifyHandle sock handle s) (verifyHandle sock handle s') := by
  have hanswer {t t' : Srv D} (ht : Alike R b b' t t') (expected : List UInt8) :
      BothAlike R b b'
        (if strncmpEq maxHandleRsp t.conn.ctrlRxBuff.bytes expected then
          t.sendAll sock (message readyMsg readyMsgLen)
        else (.failure, (t.sendAll sock (message notReadyMsg notReadyMsgLen)).2))
        (if strncmpEq maxHandleRsp t'.conn.ctrlRxBuff.bytes expected then
          t'.sendAll sock (message readyMsg readyMsgLen)
        else (.failure, (t'.sendAll sock (message notReadyMsg notReadyMsgLen)).2)) := by
    rw [ht.ctrlRxBuff]
    split
    · exact alike_sendAll ht sock _
    · exact ⟨rfl, (alike_sendAll ht sock _).2⟩
  have hrecv := (h.setRx sock (socketRecvUntilNullReached (s.client sock).rx maxHandleRsp).2.2).storeCtrl
    (socketRecvUntilNullReached (s.client sock).rx maxHandleRsp).2.1
  unfold verifyHandle
  rw [h.client]
  dsimp only
  split
  · exact hanswer hrecv _
  · exact ⟨rfl, hrecv⟩

theorem alike_connectClientSocket (handle : Nat) (sock : Sock) (useNagle : Bool)
    (h : Alike R b b' s s') : BothAlike R b b' (connectClientSocket handle sock useNagle s)
      (connectClientSocket handle sock useNagle s') := by
  have hacc := alike_acceptSocket sock h
  have hset := alike_setTcpNoDelay sock (!useNagle) hacc.2
  unfold connectClientSocket
  dsimp only
  rw [hacc.1]
  split
  · rw [hset.1]
    split
    · exact alike_verifyHandle sock handle hset.2
    · exact ⟨rfl, hset.2⟩
  · exact ⟨rfl, hacc.2⟩

theorem alike_getMgmtSupport (hR : AnswersAlike io cfg.info R) {d d' : D} (hd : R d d') :
    (getMgmtSupport io d').1 = (getMgmtSupport io d).1 ∧
      R (getMgmtSupport io d).2 (getMgmtSupport io d').2 := by
  have hread := hR.register32 stDbgIpConfigMgmtMgmtRspDescDepth (by simp) hd
  have hnext := hR.read32 stDbgIpConfigMgmtMgmtRspDescDepth hd
  unfold getMgmtSupport
  dsimp only
  rw [hread]
  exact ⟨rfl, hnext⟩

theorem alike_connectCtrl (hR : AnswersAlike io cfg.info R) (handle : Nat) (h : Alike R b b' s s') :
    BothAlike R b b' (connectCtrl io cfg handle s) (connectCtrl io cfg handle s') := by
  obtain ⟨hrc, hacc⟩ := alike_acceptSocket .ctrl h
  obtain ⟨hsupport, hdev⟩ := alike_getMgmtSupport hR hacc.dev
  unfold connectCtrl
  dsimp only
  rw [hrc, hsupport]
  split
  · exact alike_sendAll (hacc.withDev hdev) .ctrl _
  · exact ⟨rfl, hacc⟩

theorem alike_connectSockets (hR : AnswersAlike io cfg.info R) (handle : Nat)
    (h : Alike R b b' s s') :
    BothAlike R b b' (connectSockets io cfg handle s) (connectSockets io cfg handle s') := by
  unfold connectSockets
  dsimp only
  refine alike_andThen ?_ fun t t' ht => ?_
  · refine alike_andThen ?_ fun t t' ht => alike_connectClientSocket _ _ _ ht
    refine alike_andThen ?_ fun t t' ht => ?_
    · refine alike_andThen ?_ fun t t' ht => alike_connectClientSocket _ _ _ ht
      exact alike_andThen (alike_connectCtrl hR handle h) fun t t' ht => alike_verifyHandle _ _ ht
    · rw [ht.mgmtRspNagle]
      exact alike_connectClientSocket _ _ _ ht
  · rw [ht.t2hNagle]
    exact alike_connectClientSocket _ _ _ ht

theorem alike_sendOnce (h : Alike R b b' s s') (sock : Sock) (bs : List UInt8) :
    Alike R b b' (s.sendOnce sock bs) (s'.sendOnce sock bs) := by
  unfold Srv.sendOnce
  rw [h.client]
  split
  · exact h.record rfl
  · exact h.setTx sock _
  · exact (h.setTx sock _).record rfl

theorem alike_initDriver (hR : AnswersAlike io cfg.info R) (h : SameOutlook io R s s') :
    (initDriver io cfg.info s'.drv s'.dev).1 = (initDriver io cfg.info s.drv s.dev).1 ∧
      ((initDriver io cfg.info s.drv s.dev).1 = 0 →
        R (initDriver io cfg.info s.drv s.dev).2.2 (initDriver io cfg.info s'.drv s'.dev).2.2) := by
  have h1 := hR.read32 stDbgIpH2tAvailableSlots h.reset
  have h2 := hR.read32 stDbgIpMgmtAvailableSlots h1
  unfold initDriver
  dsimp only
  rw [h.dbgInfoSet, h.check]
  split
  · exact ⟨rfl, fun hrc => by cases hrc⟩
  · split
    · exact ⟨rfl, fun hrc => by cases hrc⟩
    · exact ⟨rfl, fun _ => h2⟩

/-- Whatever the bus, the sockets are connected alike; if they all are, the buses are alike. -/
theorem alike_connectClient (hR : AnswersAlike io cfg.info R) (hsame : SameOutlook io R s s')
    (h : Alike (fun _ _ => True) b b' s s') :
    BothAlike (fun _ _ => True) b b' (connectClient io cfg s) (connectClient io cfg s') ∧
      ((connectClient io cfg s).1 = .ok →
        Alike R b b' (connectClient io cfg s).2 (connectClient io cfg s').2) := by
  obtain ⟨hinit, hdev⟩ := alike_initDriver hR hsame
  have h1 := h.withEnv { s.env with handles := s.env.handles.tail }
  have hdriver (Q : D → D → Prop)
      (hQ : Q (initDriver io cfg.info s.drv s.dev).2.2 (initDriver io cfg.info s'.drv s'.dev).2.2) :
      Alike Q b b'
        { s with
          env := { s.env with handles := s.env.handles.tail }
          drv := (initDriver io cfg.info s.drv s.dev).2.1
          dev := (initDriver io cfg.info s.drv s.dev).2.2 }
        { s' with
          env := { s.env with handles := s.env.handles.tail }
          drv := (initDriver io cfg.info s'.drv s'.dev).2.1
          dev := (initDriver io cfg.info s'.drv s'.dev).2.2 } :=
    ⟨rfl, h1.client, h1.ctrlRxBuff, h1.loopbackMode, h1.t2hNagle, h1.mgmtRspNagle, h1.h2tWaiting,
      h1.mgmtWaiting, h1.h2tHeader, h1.mgmtHeader, hQ, h1.deeds⟩
  unfold connectClient
  dsimp only
  rw [h.env, hinit]
  by_cases hrc : (initDriver io cfg.info s.drv s.dev).1 = 0
  · have h2 := hdriver R (hdev hrc)
    generalize ({ s with
      env := { s.env with handles := s.env.handles.tail }
      drv := (initDriver io cfg.info s.drv s.dev).2.1
      dev := (initDriver io cfg.info s.drv s.dev).2.2 } : Srv D) = t at h2 ⊢
    generalize ({ s' with
      env := { s.env with handles := s.env.handles.tail }
      drv := (initDriver io cfg.info s'.drv s'.dev).2.1
      dev := (initDriver io cfg.info s'.drv s'.dev).2.2 } : Srv D) = t' at h2 ⊢
    obtain ⟨hsock, h3⟩ := alike_connectSockets hR (s.env.handles.headD 1) h2
    have hnot : ¬ (initDriver io cfg.info s.drv s.dev).1 ≠ 0 := not_not.mpr hrc
    rw [if_neg hnot, if_neg hnot]
    generalize connectSockets io cfg (s.env.handles.headD 1) t = y at hsock h3 ⊢
    generalize connectSockets io cfg (s.env.handles.headD 1) t' = y' at hsock h3 ⊢
    obtain ⟨hsent, h4⟩ := alike_sendAll h3 .ctrl (message readyMsg readyMsgLen)
    rw [hsock, h3.client]
    split
    · rw [hsent]
      split
      · exact ⟨⟨rfl, h4.anyBus⟩, fun _ => h4⟩
      · exact ⟨⟨rfl, h4.anyBus⟩, fun _ => h4⟩
    · refine ⟨⟨rfl, ?_⟩, fun hok => by cases hok⟩
      dsimp only
      split
      · exact (alike_sendOnce h3 .ctrl _).anyBus
      · exact h3.anyBus
  · rw [if_pos hrc, if_pos hrc]
    exact ⟨⟨rfl, hdriver _ trivial⟩, fun hok => by cases hok⟩

theorem alike_rejectClient (h : Alike R b b' s s') :
    Alike R b b' (rejectClient s) (rejectClient s') := by
  unfold rejectClient
  rw [h.env]
  split
  · exact ((h.withEnv _).record rfl).record rfl
  · exact h.withEnv _
  · exact h

theorem alike_closeSocket (sock : Sock) {x x' : Nat × Srv D} (h : BothAlike R b b' x x') :
    BothAlike R b b' (closeSocket sock x) (closeSocket sock x') := by
  unfold closeSocket
  rw [h.1, h.2.client, h.2.env]
  split
  · exact ⟨rfl, (h.2.withEnv _).record rfl⟩
  · exact h

theorem alike_closeClientConn (h : Alike R b b' s s') :
    BothAlike R b b' (closeClientConn s) (closeClientConn s') := by
  have hstart : BothAlike R b b' ((0, s) : Nat × Srv D) (0, s') := ⟨rfl, h⟩
  have h1 := alike_closeSocket .ctrl hstart
  have h2 := alike_closeSocket .mgmt h1
  have h3 := alike_closeSocket .mgmtRsp h2
  have h4 := alike_closeSocket .h2tData h3
  have h5 := alike_closeSocket .t2hData h4
  unfold closeClientConn
  dsimp only
  rw [h5.1]
  exact ⟨rfl, h5.2⟩

/-! ## Control messages -/

theorem alike_setParameter (paramName : List UInt8) (h : Alike R b b' s s') :
    BothAlike R b b' (setParameter paramName s) (setParameter paramName s') := by
  have hmode (v : Bool) : Alike R b b' { s with conn := { s.conn with loopbackMode := v } }
      { s' with conn := { s'.conn with loopbackMode := v } } :=
    ⟨h.env, h.client, h.ctrlRxBuff, rfl, h.t2hNagle, h.mgmtRspNagle, h.h2tWaiting, h.mgmtWaiting,
      h.h2tHeader, h.mgmtHeader, h.dev, h.deeds⟩
  have ht2h (v : Bool) {t t' : Srv D} (ht : Alike R b b' t t') :
      Alike R b b' { t with conn := { t.conn with t2hNagle := v } }
        { t' with conn := { t'.conn with t2hNagle := v } } :=
    ⟨ht.env, ht.client, ht.ctrlRxBuff, ht.loopbackMode, rfl, ht.mgmtRspNagle, ht.h2tWaiting,
      ht.mgmtWaiting, ht.h2tHeader, ht.mgmtHeader, ht.dev, ht.deeds⟩
  have hmgmtRsp (v : Bool) {t t' : Srv D} (ht : Alike R b b' t t') :
      Alike R b b' { t with conn := { t.conn with mgmtRspNagle := v } }
        { t' with conn := { t'.conn with mgmtRspNagle := v } } :=
    ⟨ht.env, ht.client, ht.ctrlRxBuff, ht.loopbackMode, ht.t2hNagle, rfl, ht.h2tWaiting,
      ht.mgmtWaiting, ht.h2tHeader, ht.mgmtHeader, ht.dev, ht.deeds⟩
  unfold setParameter
  dsimp only
  split
  · split
    · exact ⟨rfl, hmode _⟩
    · exact ⟨rfl, h⟩
  · split
    · split
      · obtain ⟨hrc, hset⟩ := alike_setTcpNoDelay .t2hData
          (!(decide ((paramName.drop t2hNagleParamLen).headD 0 = 0x31))) h
        rw [hrc]
        split
        · exact ⟨rfl, ht2h _ hset⟩
        · exact ⟨rfl, hset⟩
      · exact ⟨rfl, h⟩
    · split
      · split
        · obtain ⟨hrc, hset⟩ := alike_setTcpNoDelay .mgmtRsp
            (!(decide ((paramName.drop mgmtRspNagleParamLen).headD 0 = 0x31))) h
          rw [hrc]
          split
          · exact ⟨rfl, hmgmtRsp _ hset⟩
          · exact ⟨rfl, hset⟩
        · exact ⟨rfl, h⟩
      · exact ⟨rfl, h⟩

theorem alike_getParameter (paramName : List UInt8) (h : Alike R b b' s s') :
    getParameter cfg s'.conn paramName = getParameter cfg s.conn paramName := by
  unfold getParameter
  rw [h.loopbackMode, h.t2hNagle, h.mgmtRspNagle]

theorem alike_setDriverParam (hR : AnswersAlike io cfg.info R) (name : List UInt8)
    (val : Option (List UInt8)) {d d' : D} (hd : R d d') :
    Option.Rel R (setDriverParam io name val d) (setDriverParam io name val d') := by
  have hset (v : Nat) : R (setLoopbackMode io v d) (setLoopbackMode io v d') := by
    have hread := hR.register32 stDbgIpConfigResetAndLoopback (by simp) hd
    have hnext := hR.read32 stDbgIpConfigResetAndLoopback hd
    unfold setLoopbackMode
    dsimp only
    rw [hread]
    split
    · exact hR.write32 _ _ hnext
    · exact hR.write32 _ _ hnext
  unfold setDriverParam
  split
  · cases val with
    | none => exact .none
    | some val =>
      refine .some ?_
      dsimp only
      split
      · exact hset 1
      · exact hset 0
  · exact .some hd

theorem alike_getDriverParam (hR : AnswersAlike io cfg.info R) (name : List UInt8) {d d' : D}
    (hd : R d d') : (getDriverParam io name d').1 = (getDriverParam io name d).1 ∧
      R (getDriverParam io name d).2 (getDriverParam io name d').2 := by
  have hread := hR.register32 stDbgIpConfigResetAndLoopback (by simp) hd
  have hnext := hR.read32 stDbgIpConfigResetAndLoopback hd
  obtain ⟨hsupport, hdev⟩ := alike_getMgmtSupport hR hd
  unfold getDriverParam getLoopbackMode
  dsimp only
  rw [hread, hsupport]
  split
  · exact ⟨rfl, hnext⟩
  · split
    · exact ⟨rfl, hdev⟩
    · exact ⟨rfl, hd⟩

/-- Both calls return the same and disconnect the client or not, and leave alike states. -/
def ControlAlike (R : D → D → Prop) (b b' : List Event) (x x' : ReturnCode × Bool × Srv D) : Prop :=
  x'.1 = x.1 ∧ BothAlike R b b' x.2 x'.2

theorem alike_respond (resp : List UInt8) (maxLen : Nat) (h : Alike R b b' s s') :
    ControlAlike R b b' (respond resp maxLen s) (respond resp maxLen s') := by
  obtain ⟨hrc, hsent⟩ := alike_sendAll h .ctrl (responseBytes resp maxLen)
  exact ⟨hrc, rfl, hsent⟩

theorem alike_respondMsg (msg : List UInt8) (len : Nat) (h : Alike R b b' s s') :
    ControlAlike R b b' (respondMsg msg len s) (respondMsg msg len s') := by
  obtain ⟨hrc, hsent⟩ := alike_sendAll h .ctrl (message msg len)
  exact ⟨hrc, rfl, hsent⟩

theorem alike_dispatchControl (hR : AnswersAlike io cfg.info R) (cmd : List UInt8)
    (h : Alike R b b' s s') : Option.Rel (ControlAlike R b b') (dispatchControl io cfg cmd s)
      (dispatchControl io cfg cmd s') := by
  unfold dispatchControl
  rw [alike_getParameter _ h]
  split
  · exact .some (alike_respond _ _ h)
  · split
    · exact .some (alike_respondMsg _ _ h)
    · split
      · exact .some ⟨rfl, rfl, (alike_sendAll h .ctrl _).2⟩
      · split
        · obtain ⟨hresp, hset⟩ := alike_setParameter (cmd.drop setParamCmdLen) h
          dsimp only
          rw [hresp]
          exact .some (alike_respond _ _ hset)
        · split
          · refine rel_map (P := BothAlike R b b') ?_ fun x x' hx => ?_
            · refine rel_map (alike_setDriverParam hR _ _ h.dev) fun d d' hd => ⟨rfl, ?_⟩
              exact (h.withDev hd).record rfl
            · rw [hx.1]
              exact alike_respond _ _ hx.2
          · split
            · obtain ⟨hval, hd⟩ := alike_getDriverParam hR (cmd.drop getDriverParamCmdLen) h.dev
              unfold getDriverParameter
              dsimp only
              rw [hval]
              exact .some (alike_respond _ _ ((h.withDev hd).record rfl))
            · exact .some (alike_respondMsg _ _ h)

theorem alike_control (hR : AnswersAlike io cfg.info R) (h : Alike R b b' s s') :
    Option.Rel (ControlAlike R b b') (processControlMessage io cfg s)
      (processControlMessage io cfg s') := by
  have hrecv : BothAlike R b b' (recvControl s) (recvControl s') := by
    unfold recvControl
    rw [h.client]
    exact ⟨rfl, (h.setRx .ctrl _).storeCtrl _⟩
  unfold processControlMessage
  dsimp only
  rw [hrecv.1, hrecv.2.ctrlRxBuff]
  split
  · exact alike_dispatchControl hR _ hrecv.2
  · exact .some ⟨rfl, rfl, hrecv.2⟩

end RemoteDebug
