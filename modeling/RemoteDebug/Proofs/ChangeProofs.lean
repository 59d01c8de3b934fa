import RemoteDebug.Hardware.AccessRun
import RemoteDebug.Lib.Runs
import RemoteDebug.Proofs.H2tProofs
import Mathlib.Data.Set.Lattice

/-!
# Which parts of the state a call changes

Each call of the server is a chain of changes of single parts of the state. `Changes io K` is such a
chain in which all parts are in `K`, and for each call one lemma names its parts. What holds across each
change of these parts holds across the call (`Frames`).
-/

namespace RemoteDebug

open Bytes CString Script Runs

/-- The parts of the state. -/
inductive StatePart where
  | recv (sock : Sock)
  | send (sock : Sock)
  | socket (sock : Sock)
  | option (sock : Sock)
  /-- The results of `accept`, and what is accepted and closed. -/
  | connections
  /-- The other answers of the operating system. -/
  | env
  | note
  | ctrlRxBuff
  | parameters
  | h2tPacket
  | mgmtPacket
  | t2hHeader
  | mgmtRspHeader
  | staging
  | hostMem
  | sop
  | ring
  /-- Reads of the 32-bit registers. -/
  | register
  | read
  | write
  | done
  | configure
  | clients
  | device

/-- The part that an event belongs to. -/
def Event.part : Event → StatePart
  | .sent sock _ => .send sock
  | .accepted _ | .closed _ => .connections
  | _ => .note

variable {D : Type} {io : Mmio D} {cfg : Config} {K K' : Set StatePart} {s s' s'' : Srv D}

/-- A change of one part. -/
inductive Change (io : Mmio D) : StatePart → Srv D → Srv D → Prop
  | recv (s : Srv D) (sock : Sock) (rx : List RecvEvent) : Change io (.recv sock) s (s.setRx sock rx)
  | send (s : Srv D) (sock : Sock) (tx : List SendEvent) : Change io (.send sock) s (s.setTx sock tx)
  | socket (s : Srv D) (sock : Sock) (c : Socket) :
      Change io (.socket sock) s { s with client := Function.update s.client sock c }
  | option (s : Srv D) (sock : Sock) (noDelay : Bool) :
      Change io (.option sock) s
        { s with client := Function.update s.client sock { s.client sock with noDelay := noDelay } }
  | connections (s : Srv D) (accepts : List (Option Socket)) (h : accepts <:+ s.env.accepts) :
      Change io .connections s { s with env := { s.env with accepts := accepts } }
  | env (s : Srv D) (env : Env) (h : env.accepts = s.env.accepts) :
      Change io .env s { s with env := env }
  | record (s : Srv D) (e : Event) : Change io e.part s (s.record e)
  | ctrlRxBuff (s : Srv D) (buff : Buff ctrlRxBuffSz) :
      Change io .ctrlRxBuff s { s with conn := { s.conn with ctrlRxBuff := buff } }
  | parameters (s : Srv D) (loopbackMode t2hNagle mgmtRspNagle : Bool) :
      Change io .parameters s { s with conn := { s.conn with
        loopbackMode := loopbackMode
        t2hNagle := t2hNagle
        mgmtRspNagle := mgmtRspNagle } }
  | h2tPacket (s : Srv D) (buff : HeaderBuff) (waiting : Bool) :
      Change io .h2tPacket s
        { s with conn := { s.conn with h2tHeaderBuff := buff, h2tWaiting := waiting } }
  | mgmtPacket (s : Srv D) (buff : HeaderBuff) (waiting : Bool) :
      Change io .mgmtPacket s
        { s with conn := { s.conn with mgmtHeaderBuff := buff, mgmtWaiting := waiting } }
  | t2hHeader (s : Srv D) (header : H2tPacketHeader) :
      Change io .t2hHeader s
        { s with conn := { s.conn with t2hHeaderBuff := putHeader s.conn.t2hHeaderBuff header } }
  | mgmtRspHeader (s : Srv D) (header : MgmtPacketHeader) :
      Change io .mgmtRspHeader s
        { s with conn := { s.conn with mgmtRspHeaderBuff := putHeader s.conn.mgmtRspHeaderBuff header } }
  | staging (s : Srv D) (recvBuff sendBuff : Staging) :
      Change io .staging s { s with recvBuff := recvBuff, sendBuff := sendBuff }
  | hostMem (s : Srv D) (mem : Nat → UInt8) : Change io .hostMem s { s with hostMem := mem }
  | sop (s : Srv D) (t2hSop mgmtRspSop : Bool) :
      Change io .sop s { s with drv := { s.drv with t2hSop := t2hSop, mgmtRspSop := mgmtRspSop } }
  | ring (s : Srv D) (h2t : DescriptorRing) :
      Change io .ring s { s with drv := { s.drv with h2t := h2t } }
  | register (s : Srv D) (offset : Nat) (h : ⟨offset, 4⟩ ∈ registers) :
      Change io .register s { s with dev := (io.read32 offset s.dev).2 }
  | read (s : Srv D) (offset : Nat) : Change io .read s { s with dev := (io.read64 offset s.dev).2 }
  | write (s : Srv D) (offset v : Nat) : Change io .write s { s with dev := io.write64 offset v s.dev }
  | done (s : Srv D) (offset v : Nat)
      (h : offset ∈ [stDbgIpT2hDescriptorsDone, stDbgIpMgmtRspDescriptorsDone]) :
      Change io .done s { s with dev := io.write32 offset v s.dev }
  | configure (s : Srv D) (v : Nat) :
      Change io .configure s { s with dev := io.write32 stDbgIpConfigResetAndLoopback v s.dev }
  | clients (s : Srv D) (client : ClientConn) : Change io .clients s { s with client := client }
  /-- What `init_driver` does, and what the hardware does on its own. -/
  | device (s : Srv D) (drv : Driver) (d : D) : Change io .device s { s with drv := drv, dev := d }

/-- From `s` to `s'` only parts in `K` have been changed. -/
def Changes (io : Mmio D) (K : Set StatePart) : Srv D → Srv D → Prop :=
  Reach (fun s part s' => Change io part s s') fun _ part => part ∈ K

theorem Change.only {part : StatePart} (h : Change io part s s') (hpart : part ∈ K) :
    Changes io K s s' := .single hpart h

theorem Changes.refl (s : Srv D) : Changes io K s s := Reach.refl

theorem Changes.trans (h : Changes io K s s') (h' : Changes io K s' s'') : Changes io K s s'' :=
  Reach.trans h h'

theorem Changes.mono (h : Changes io K s s') (hK : K ⊆ K') : Changes io K' s s' :=
  Reach.mono h fun _ _ hpart => hK hpart

/-- One part behind another one, or not. -/
theorem Changes.ite {x y : ReturnCode × Srv D} (h : Changes io K s x.2) (h' : Changes io K x.2 y.2) :
    Changes io K s (if x.1 = .ok then y else x).2 := by
  split
  · exact h.trans h'
  · exact h

/-- The relation holds across each change of a part in `K`. -/
structure Frames (io : Mmio D) (K : Set StatePart) (R : Srv D → Srv D → Prop) : Prop where
  refl : ∀ s, R s s
  trans : ∀ {s s' s''}, R s s' → R s' s'' → R s s''
  change : ∀ {part s s'}, part ∈ K → Change io part s s' → R s s'

/-- **Frames**: what holds across each change of the parts holds across the call. -/
theorem Frames.changes {R : Srv D → Srv D → Prop} (hR : Frames io K R) (h : Changes io K' s s')
    (hK : K' ⊆ K) : R s s' := by
  refine Reach.invariant h (R s) ?_ (hR.refl s)
  intro s₁ part s₂ hbefore hpart hchange
  exact hR.trans hbefore (hR.change (hK hpart) hchange)

/-! ## Sockets -/

theorem changes_sendAll (sock : Sock) (bs : List UInt8) (s : Srv D) :
    Changes io {.send sock} s (s.sendAll sock bs).2 :=
  ((Change.send s sock _).only (by simp)).trans
    ((Change.record _ (.sent sock _)).only (by simp [Event.part]))

theorem changes_sendOnce (sock : Sock) (bs : List UInt8) (s : Srv D) :
    Changes io {.send sock} s (s.sendOnce sock bs) := by
  have hsent (s : Srv D) (bs : List UInt8) : Changes io {.send sock} s (s.record (.sent sock bs)) :=
    (Change.record s (.sent sock bs)).only (by simp [Event.part])
  unfold Srv.sendOnce
  split
  · exact hsent s bs
  · exact (Change.send s sock _).only (by simp)
  · exact ((Change.send s sock _).only (by simp)).trans (hsent _ _)

/-! ## Control messages -/

/-- The parts that `set_parameter` changes. -/
def parameterParts : Set StatePart := {.parameters, .env, .option .t2hData, .option .mgmtRsp, .note}

/-- The parts that `process_control_message` changes. -/
def controlParts : Set StatePart :=
  parameterParts ∪ {.recv .ctrl, .ctrlRxBuff, .register, .configure, .send .ctrl}

theorem changes_recvControl (s : Srv D) : Changes io {.recv .ctrl, .ctrlRxBuff} s (recvControl s).2 :=
  ((Change.recv s .ctrl _).only (by simp)).trans ((Change.ctrlRxBuff _ _).only (by simp))

theorem changes_setTcpNoDelay (io : Mmio D) (sock : Sock) (noDelay : Bool) (s : Srv D) :
    Changes io {.env, .option sock, .note} s (setTcpNoDelay sock noDelay s).2 := by
  have henv : Changes io {.env, .option sock, .note} s
      { s with env := { s.env with setsockopts := s.env.setsockopts.tail } } :=
    (Change.env s { s.env with setsockopts := s.env.setsockopts.tail } rfl).only (by simp)
  have hoption := henv.trans ((Change.option _ sock
    (if s.env.setsockopts.headD true then noDelay else (s.client sock).noDelay)).only (by simp))
  exact hoption.trans ((Change.record _ (.setNoDelay sock noDelay _)).only (by simp [Event.part]))

theorem changes_setParameter (paramName : List UInt8) (s : Srv D) :
    Changes io parameterParts s (setParameter paramName s).2 := by
  have hflags (s : Srv D) (loopbackMode t2hNagle mgmtRspNagle : Bool) : Changes io parameterParts s _ :=
    (Change.parameters s loopbackMode t2hNagle mgmtRspNagle).only (by simp [parameterParts])
  have ht2h (noDelay : Bool) : Changes io parameterParts s (setTcpNoDelay .t2hData noDelay s).2 :=
    (changes_setTcpNoDelay io .t2hData noDelay s).mono (by simp [parameterParts, Set.insert_subset_iff])
  have hmgmtRsp (noDelay : Bool) : Changes io parameterParts s (setTcpNoDelay .mgmtRsp noDelay s).2 :=
    (changes_setTcpNoDelay io .mgmtRsp noDelay s).mono (by simp [parameterParts, Set.insert_subset_iff])
  unfold setParameter
  dsimp only
  split_ifs
  · exact hflags s _ _ _
  · exact .refl s
  · exact (ht2h _).trans (hflags _ _ _ _)
  · exact ht2h _
  · exact .refl s
  · exact (hmgmtRsp _).trans (hflags _ _ _ _)
  · exact hmgmtRsp _
  · exact .refl s
  · exact .refl s

theorem changes_setDriverParameter {paramName : List UInt8} {y : List UInt8 × Srv D}
    (h : setDriverParameter io paramName s = some y) : Changes io {.register, .configure, .note} s y.2 := by
  have hset (v : Nat) : Changes io {.register, .configure, .note} s
      { s with dev := setLoopbackMode io v s.dev } := by
    have hread : Changes io {.register, .configure, .note} s _ :=
      (Change.register s stDbgIpConfigResetAndLoopback (by decide)).only (by simp)
    unfold setLoopbackMode
    dsimp only
    split
    · exact hread.trans ((Change.configure _ _).only (by simp))
    · exact hread.trans ((Change.configure _ _).only (by simp))
  have hparam {name : List UInt8} {val : Option (List UInt8)} {d : D}
      (hd : setDriverParam io name val s.dev = some d) :
      Changes io {.register, .configure, .note} s { s with dev := d } := by
    unfold setDriverParam at hd
    split at hd
    · obtain ⟨v, -, rfl⟩ := Option.map_eq_some_iff.mp hd
      split
      · exact hset 1
      · exact hset 0
    · obtain rfl := Option.some.inj hd
      exact .refl s
  obtain ⟨d, hd, rfl⟩ := Option.map_eq_some_iff.mp h
  exact (hparam hd).trans ((Change.record _ (.setParam _ _)).only (by simp [Event.part]))

theorem changes_getDriverParameter (paramName : List UInt8) (s : Srv D) :
    Changes io {.register, .note} s (getDriverParameter io paramName s).2 := by
  have hget : Changes io {.register, .note} s { s with dev := (getDriverParam io paramName s.dev).2 } := by
    unfold getDriverParam
    split_ifs
    · exact (Change.register s _ (by decide)).only (by simp)
    · exact (Change.register s _ (by decide)).only (by simp)
    · exact .refl s
  exact hget.trans ((Change.record _ (.getParam _)).only (by simp [Event.part]))

theorem changes_control {x : ReturnCode × Bool × Srv D} (h : processControlMessage io cfg s = some x) :
    Changes io controlParts s x.2.2 := by
  have hrecv : Changes io controlParts s (recvControl s).2 :=
    (changes_recvControl s).mono (by simp [controlParts, Set.insert_subset_iff])
  have hsend (bs : List UInt8) (s : Srv D) : Changes io controlParts s (s.sendAll .ctrl bs).2 :=
    (changes_sendAll .ctrl bs s).mono (by simp [controlParts])
  unfold processControlMessage at h
  dsimp only at h
  generalize recvControl s = r at h hrecv
  split at h
  · apply hrecv.trans
    unfold dispatchControl at h
    split_ifs at h
    · obtain rfl := Option.some.inj h
      exact hsend _ _
    · obtain rfl := Option.some.inj h
      exact hsend _ _
    · obtain rfl := Option.some.inj h
      exact hsend _ _
    · obtain rfl := Option.some.inj h
      exact ((changes_setParameter _ _).mono Set.subset_union_left).trans (hsend _ _)
    · obtain ⟨y, hy, rfl⟩ := Option.map_eq_some_iff.mp h
      exact ((changes_setDriverParameter hy).mono
        (by simp [controlParts, parameterParts, Set.insert_subset_iff])).trans (hsend _ _)
    · obtain rfl := Option.some.inj h
      exact ((changes_getDriverParameter _ _).mono
        (by simp [controlParts, parameterParts, Set.insert_subset_iff])).trans (hsend _ _)
    · obtain rfl := Option.some.inj h
      exact hsend _ _
  · obtain rfl := Option.some.inj h
    exact hrecv

/-! ## Staged transfers -/

theorem changes_fpga2host (buff n i : Nat) (st : Staging) (s : Srv D) :
    Changes io {.read, .staging} s
      { s with
        sendBuff := (fpga2hostLoop io buff n i st s.dev).1
        dev := (fpga2hostLoop io buff n i st s.dev).2 } := by
  induction n generalizing i st s with
  | zero => exact (Change.staging s s.recvBuff st).only (by simp)
  | succ n ih => exact ((Change.read s _).only (by simp)).trans (ih (i + 1) _ _)

theorem changes_host2fpga (host : Nat → UInt8) (buff n i : Nat) (s : Srv D) :
    Changes io {.write} s { s with dev := host2fpgaLoop io host buff n i s.dev } := by
  induction n generalizing i s with
  | zero => exact .refl s
  | succ n ih => exact ((Change.write s _ _).only (by simp)).trans (ih (i + 1) _)

theorem changes_socketSendAllT2hData (io : Mmio D) (sock : Sock) (buff len : Nat) (s : Srv D) :
    Changes io {.read, .staging, .send sock} s (socketSendAllT2hData io sock buff len s).2 := by
  have hstaged : Changes io {.read, .staging, .send sock} s _ :=
    (changes_fpga2host buff ((len + 7) / 8) 0 s.sendBuff s).mono (by simp [Set.insert_subset_iff])
  exact hstaged.trans ((changes_sendAll sock _ _).mono (by simp))

theorem changes_socketRecvAccumulateH2tData (buff len : Nat) (s : Srv D) :
    Changes io {.recv .h2tData, .staging, .write, .note} s
      (socketRecvAccumulateH2tData io .h2tData buff len s).2 := by
  have hrecv : Changes io {.recv .h2tData, .staging, .write, .note} s
      (s.recvAccumulate .h2tData len).2.2 := (Change.recv s .h2tData _).only (by simp)
  have hstaged := hrecv.trans ((Change.staging _ (s.recvBuff.receive (s.recvAccumulate .h2tData len).2.1)
    s.sendBuff).only (by simp))
  unfold socketRecvAccumulateH2tData
  dsimp only
  split
  · have hstored := hstaged.trans ((changes_host2fpga (s.recvBuff.receive
      (s.recvAccumulate .h2tData len).2.1).bytes buff ((len + 7) / 8) 0 _).mono (by simp))
    exact hstored.trans ((Change.record _ (.store buff _)).only (by simp [Event.part]))
  · exact hstaged

/-! ## H2T and T2H -/

/-- The parts that `process_h2t_data` changes. -/
def h2tParts : Set StatePart :=
  {.recv .h2tData, .h2tPacket, .register, .ring, .write, .note, .read, .staging, .send .t2hData}

theorem changes_updateCurrH2tHeader (s : Srv D) :
    Changes io {.recv .h2tData, .h2tPacket} s (updateCurrH2tHeader s).2 := by
  unfold updateCurrH2tHeader
  split
  · exact ((Change.recv s .h2tData _).only (by simp)).trans ((Change.h2tPacket _ _ _).only (by simp))
  · exact .refl s

theorem changes_pollH2tBuffer {len buff : Nat} (h : pollH2tBuffer io cfg len s = some (buff, s')) :
    Changes io {.register, .ring} s s' := by
  unfold pollH2tBuffer at h
  split at h
  · obtain ⟨x, hx, heq⟩ := Option.map_eq_some_iff.mp h
    obtain ⟨-, rfl⟩ := Prod.mk.inj heq
    obtain ⟨y, hy, rfl⟩ := Option.map_eq_some_iff.mp hx
    obtain ⟨r, -, rfl⟩ := Option.map_eq_some_iff.mp hy
    exact ((Change.register s _ (by decide)).only (by simp)).trans ((Change.ring _ _).only (by simp))
  · obtain ⟨-, rfl⟩ := Prod.mk.inj (Option.some.inj h)
    exact .refl s

theorem changes_recvH2tPayload (cfg : Config) (buff len : Nat) (s : Srv D) :
    Changes io {.recv .h2tData, .staging, .write, .note} s (recvH2tPayload io cfg buff len s).2 := by
  unfold recvH2tPayload
  dsimp only
  split
  · exact (changes_socketRecvAccumulateH2tData _ _ _).ite (changes_socketRecvAccumulateH2tData _ _ _)
  · exact changes_socketRecvAccumulateH2tData _ _ _

theorem changes_pushOrLoopbackH2t (header : H2tPacketHeader) (buff : Nat) (s : Srv D) :
    Changes io h2tParts s (pushOrLoopbackH2t io header buff s).2 := by
  unfold pushOrLoopbackH2t
  split
  · have hpushed : Changes io h2tParts s
        { s with dev := (pushH2tData io header (buff % 2 ^ 32) s.drv s.dev).2 } :=
      ((Change.write s _ _).only (by simp [h2tParts])).trans
        ((Change.write _ _ _).only (by simp [h2tParts]))
    have hring := hpushed.trans ((Change.ring _
      (pushH2tData io header (buff % 2 ^ 32) s.drv s.dev).1.h2t).only (by simp [h2tParts]))
    exact hring.trans
      ((Change.record _ (.h2tDataReceived header _)).only (by simp [h2tParts, Event.part]))
  · apply Changes.ite
    · exact (changes_sendAll _ _ _).mono (by simp [h2tParts])
    · exact (changes_socketSendAllT2hData io _ _ _ _).mono (by simp [h2tParts, Set.insert_subset_iff])

theorem changes_h2t {x : ReturnCode × Srv D} (h : processH2tData io cfg s = some x) :
    Changes io h2tParts s x.2 := by
  have hhead : Changes io h2tParts s (updateCurrH2tHeader s).2 :=
    (changes_updateCurrH2tHeader s).mono (by simp [h2tParts, Set.insert_subset_iff])
  have hwait (s : Srv D) (b : Bool) : Changes io h2tParts s (s.setH2tWaiting b) :=
    (Change.h2tPacket s s.conn.h2tHeaderBuff b).only (by simp [h2tParts])
  rcases processH2tData_cases h with ⟨rfl, -⟩ | ⟨s₁, buff, s₂, heq, hpoll, hcases⟩
  · exact hhead
  · rw [heq] at hhead
    have hpolled := hhead.trans ((changes_pollH2tBuffer hpoll).mono
      (by simp [h2tParts, Set.insert_subset_iff]))
    rcases hcases with ⟨-, rfl⟩ | ⟨-, rfl⟩
    · exact hpolled.trans (hwait s₂ true)
    · have hrecv : Changes io h2tParts (s₂.setH2tWaiting false) _ :=
        (changes_recvH2tPayload cfg buff (headerOf s₁.conn.h2tHeaderBuff).dataLenBytes.toNat _).mono
          (by simp [h2tParts, Set.insert_subset_iff])
      exact ((hpolled.trans (hwait s₂ false)).trans hrecv).trans (changes_pushOrLoopbackH2t _ buff _)

/-- The parts that `process_t2h_data` changes. -/
def t2hParts : Set StatePart := {.sop, .t2hHeader, .done, .note, .read, .staging, .send .t2hData}

theorem changes_sendT2hPayload (io : Mmio D) (cfg : Config) (buff len : Nat) (s : Srv D) :
    Changes io {.read, .staging, .send .t2hData} s (sendT2hPayload io cfg buff len s).2 := by
  unfold sendT2hPayload
  dsimp only
  split
  · exact (changes_socketSendAllT2hData io _ _ _ _).ite (changes_socketSendAllT2hData io _ _ _ _)
  · exact changes_socketSendAllT2hData io _ _ _ _

theorem changes_getT2hData (io : Mmio D) (info : DesignInfo) (header : H2tPacketHeader) (s : Srv D) :
    Changes io {.read, .sop} s
      { s with
        drv := (getT2hData io info header s.drv s.dev).2.2.1
        dev := (getT2hData io info header s.drv s.dev).2.2.2 } := by
  have hread : Changes io {.read, .sop} s { s with dev := (io.read64 stDbgIpT2hHowLong s.dev).2 } :=
    (Change.read s _).only (by simp)
  unfold getT2hData
  dsimp only
  split
  · exact hread
  · exact (hread.trans ((Change.read _ _).only (by simp))).trans
      ((Change.sop _ _ s.drv.mgmtRspSop).only (by simp))

theorem changes_t2h (s : Srv D) : Changes io t2hParts s (processT2hData io cfg s).2 := by
  have hget := changes_getT2hData io cfg.info (headerOf s.conn.t2hHeaderBuff) s
  unfold processT2hData
  dsimp only
  generalize getT2hData io cfg.info (headerOf s.conn.t2hHeaderBuff) s.drv s.dev = x at hget ⊢
  have hhead : Changes io t2hParts s { s with
      conn := { s.conn with t2hHeaderBuff := putHeader s.conn.t2hHeaderBuff x.1 }
      drv := x.2.2.1
      dev := x.2.2.2 } :=
    (hget.mono (by simp [t2hParts, Set.insert_subset_iff])).trans
      ((Change.t2hHeader _ x.1).only (by simp [t2hParts]))
  split
  · exact hhead
  · next buff _ =>
    have hsent := hhead.trans
      ((changes_sendAll .t2hData (putHeader s.conn.t2hHeaderBuff x.1).bytes _).mono (by simp [t2hParts]))
    split
    · have hpayload := hsent.trans ((changes_sendT2hPayload io cfg buff x.1.dataLenBytes.toNat _).mono
        (by simp [t2hParts, Set.insert_subset_iff]))
      split
      · have hdone := hpayload.trans
          ((Change.done _ stDbgIpT2hDescriptorsDone 1 (by simp)).only (by simp [t2hParts]))
        exact hdone.trans ((Change.record _ .t2hDataComplete).only (by simp [t2hParts, Event.part]))
      · exact hpayload
    · exact hsent

/-! ## MGMT and MGMT_RSP -/

/-- The parts that `process_mgmt_data` changes. -/
def mgmtParts : Set StatePart := {.recv .mgmt, .mgmtPacket, .hostMem, .note, .send .mgmtRsp}

theorem changes_updateCurrMgmtHeader (io : Mmio D) (s : Srv D) :
    Changes io mgmtParts s (updateCurrMgmtHeader s).2 := by
  unfold updateCurrMgmtHeader
  split
  · exact ((Change.recv s .mgmt _).only (by simp [mgmtParts])).trans
      ((Change.mgmtPacket _ _ _).only (by simp [mgmtParts]))
  · exact .refl s

theorem changes_recvMgmtPart (buff len : Nat) (s : Srv D) :
    Changes io mgmtParts s (recvMgmtPart buff len s).2 := by
  have hrecv : Changes io mgmtParts s (s.recvAccumulate .mgmt len).2.2 :=
    (Change.recv s .mgmt _).only (by simp [mgmtParts])
  have hstored := hrecv.trans ((Change.hostMem _
    (storeBytes s.hostMem buff (s.recvAccumulate .mgmt len).2.1)).only (by simp [mgmtParts]))
  exact hstored.trans ((Change.record _ (.hostStore buff _)).only (by simp [mgmtParts, Event.part]))

theorem changes_recvMgmtPayload (cfg : Config) (buff len : Nat) (s : Srv D) :
    Changes io mgmtParts s (recvMgmtPayload cfg buff len s).2 := by
  unfold recvMgmtPayload
  dsimp only
  split
  · exact (changes_recvMgmtPart _ _ _).ite (changes_recvMgmtPart _ _ _)
  · exact changes_recvMgmtPart _ _ _

theorem changes_pushOrLoopbackMgmt (header : MgmtPacketHeader) (buff : Nat) (s : Srv D) :
    Changes io mgmtParts s (pushOrLoopbackMgmt io header buff s).2 := by
  have hsend (bs : List UInt8) (s : Srv D) : Changes io mgmtParts s (s.sendAll .mgmtRsp bs).2 :=
    (changes_sendAll .mgmtRsp bs s).mono (by simp [mgmtParts])
  unfold pushOrLoopbackMgmt
  split
  · rw [if_neg (by simp [enableMgmt])]
    exact .refl s
  · exact (hsend _ _).ite (hsend _ _)

theorem changes_mgmt {x : ReturnCode × Srv D} (h : processMgmtData io cfg s = some x) :
    Changes io mgmtParts s x.2 := by
  have hhead := changes_updateCurrMgmtHeader io s
  have hwait (s : Srv D) (b : Bool) : Changes io mgmtParts s (s.setMgmtWaiting b) :=
    (Change.mgmtPacket s s.conn.mgmtHeaderBuff b).only (by simp [mgmtParts])
  unfold processMgmtData at h
  dsimp only at h
  generalize updateCurrMgmtHeader s = y at h hhead
  split at h
  · rw [pollMgmtBuffer_eq, Option.map_some] at h
    obtain rfl := Option.some.inj h
    dsimp only
    split
    · exact ((hhead.trans (hwait y.2 false)).trans (changes_recvMgmtPayload cfg _ _ _)).ite
        (changes_pushOrLoopbackMgmt _ _ _)
    · exact hhead.trans (hwait y.2 true)
  · obtain rfl := Option.some.inj h
    exact hhead

/-- The parts that `process_mgmt_rsp_data` changes. -/
def mgmtRspParts : Set StatePart := {.read, .sop, .mgmtRspHeader, .send .mgmtRsp, .done, .note}

theorem changes_sendMgmtRspPayload (cfg : Config) (buff len : Nat) (s : Srv D) :
    Changes io {.send .mgmtRsp} s (sendMgmtRspPayload cfg buff len s).2 := by
  unfold sendMgmtRspPayload
  dsimp only
  split
  · exact (changes_sendAll _ _ _).ite (changes_sendAll _ _ _)
  · exact changes_sendAll _ _ _

theorem changes_getMgmtRspData (io : Mmio D) (info : DesignInfo) (header : MgmtPacketHeader)
    (s : Srv D) : Changes io {.read, .sop} s
      { s with
        drv := (getMgmtRspData io info header s.drv s.dev).2.2.1
        dev := (getMgmtRspData io info header s.drv s.dev).2.2.2 } := by
  have hread : Changes io {.read, .sop} s { s with dev := (io.read64 stDbgIpMgmtRspHowLong s.dev).2 } :=
    (Change.read s _).only (by simp)
  unfold getMgmtRspData
  dsimp only
  split
  · exact hread
  · exact (hread.trans ((Change.read _ _).only (by simp))).trans
      ((Change.sop _ s.drv.t2hSop _).only (by simp))

theorem changes_mgmtRsp (s : Srv D) : Changes io mgmtRspParts s (processMgmtRspData io cfg s).2 := by
  have hget := changes_getMgmtRspData io cfg.info (headerOf s.conn.mgmtRspHeaderBuff) s
  unfold processMgmtRspData
  dsimp only
  generalize getMgmtRspData io cfg.info (headerOf s.conn.mgmtRspHeaderBuff) s.drv s.dev = x at hget ⊢
  have hhead : Changes io mgmtRspParts s { s with
      conn := { s.conn with mgmtRspHeaderBuff := putHeader s.conn.mgmtRspHeaderBuff x.1 }
      drv := x.2.2.1
      dev := x.2.2.2 } :=
    (hget.mono (by simp [mgmtRspParts, Set.insert_subset_iff])).trans
      ((Change.mgmtRspHeader _ x.1).only (by simp [mgmtRspParts]))
  split
  · exact hhead
  · next buff _ =>
    have hsent := hhead.trans ((changes_sendAll .mgmtRsp
      (putHeader s.conn.mgmtRspHeaderBuff x.1).bytes _).mono (by simp [mgmtRspParts]))
    split
    · have hpayload := hsent.trans ((changes_sendMgmtRspPayload cfg buff x.1.dataLenBytes.toNat _).mono
        (by simp [mgmtRspParts]))
      split
      · have hdone := hpayload.trans
          ((Change.done _ stDbgIpMgmtRspDescriptorsDone 1 (by simp)).only (by simp [mgmtRspParts]))
        exact hdone.trans
          ((Change.record _ .mgmtRspDataComplete).only (by simp [mgmtRspParts, Event.part]))
      · exact hpayload
    · exact hsent

/-! ## Connections -/

/-- The parts that the handshake on a socket changes. -/
def handshakeParts (sock : Sock) : Set StatePart :=
  {.connections, .env, .note, .ctrlRxBuff, .recv sock, .send sock, .socket sock, .option sock}

/-- The parts that `connect_client` changes behind `init_driver`. -/
def connectParts : Set StatePart := {.register} ∪ ⋃ sock, handshakeParts sock

theorem changes_acceptSocket (sock : Sock) (s : Srv D) :
    Changes io {.connections, .socket sock} s (acceptSocket sock s).2 := by
  have hsocket (s : Srv D) (c : Socket) : Changes io {.connections, .socket sock} s
      { s with client := Function.update s.client sock c } := (Change.socket s sock c).only (by simp)
  unfold acceptSocket
  split
  · next c rest heq =>
    have htaken : Changes io {.connections, .socket sock} s _ :=
      (Change.connections s rest (heq ▸ List.suffix_cons _ _)).only (by simp)
    exact (htaken.trans (hsocket _ c)).trans
      ((Change.record _ (.accepted c.fd)).only (by simp [Event.part]))
  · next rest heq =>
    have htaken : Changes io {.connections, .socket sock} s _ :=
      (Change.connections s rest (heq ▸ List.suffix_cons _ _)).only (by simp)
    exact htaken.trans (hsocket _ invalidSocket)
  · exact hsocket s invalidSocket

theorem changes_verifyHandle (sock : Sock) (handle : Nat) (s : Srv D) :
    Changes io {.recv sock, .ctrlRxBuff, .send sock} s (verifyHandle sock handle s).2 := by
  have hrecv (rx : List RecvEvent) (buff : Buff ctrlRxBuffSz) :
      Changes io {.recv sock, .ctrlRxBuff, .send sock} s
        { s.setRx sock rx with conn := { s.conn with ctrlRxBuff := buff } } :=
    ((Change.recv s sock rx).only (by simp)).trans ((Change.ctrlRxBuff _ buff).only (by simp))
  have hsend (bs : List UInt8) (s : Srv D) :
      Changes io {.recv sock, .ctrlRxBuff, .send sock} s (s.sendAll sock bs).2 :=
    (changes_sendAll sock bs s).mono (by simp)
  unfold verifyHandle
  dsimp only
  split_ifs
  · exact (hrecv _ _).trans (hsend _ _)
  · exact (hrecv _ _).trans (hsend _ _)
  · exact hrecv _ _

theorem changes_connectClientSocket (handle : Nat) (sock : Sock) (useNagle : Bool) (s : Srv D) :
    Changes io (handshakeParts sock) s (connectClientSocket handle sock useNagle s).2 := by
  have haccept : Changes io (handshakeParts sock) s (acceptSocket sock s).2 :=
    (changes_acceptSocket sock s).mono (by simp [handshakeParts, Set.insert_subset_iff])
  have hoption (s : Srv D) : Changes io (handshakeParts sock) s (setTcpNoDelay sock (!useNagle) s).2 :=
    (changes_setTcpNoDelay io sock _ s).mono (by simp [handshakeParts, Set.insert_subset_iff])
  have hverify (s : Srv D) : Changes io (handshakeParts sock) s (verifyHandle sock handle s).2 :=
    (changes_verifyHandle sock handle s).mono (by simp [handshakeParts, Set.insert_subset_iff])
  unfold connectClientSocket
  dsimp only
  split_ifs
  · exact (haccept.trans (hoption _)).trans (hverify _)
  · exact haccept.trans (hoption _)
  · exact haccept

theorem changes_connectCtrl (cfg : Config) (handle : Nat) (s : Srv D) :
    Changes io ({.register} ∪ handshakeParts .ctrl) s (connectCtrl io cfg handle s).2 := by
  have haccept : Changes io ({.register} ∪ handshakeParts .ctrl) s (acceptSocket .ctrl s).2 :=
    (changes_acceptSocket .ctrl s).mono (by simp [handshakeParts, Set.insert_subset_iff])
  unfold connectCtrl
  dsimp only
  split
  · exact (haccept.trans ((Change.register _ _ (by decide)).only (by simp))).trans
      ((changes_sendAll .ctrl _ _).mono (by simp [handshakeParts]))
  · exact haccept

theorem handshakeParts_subset (sock : Sock) : handshakeParts sock ⊆ connectParts := by
  intro part hpart
  exact Or.inr (Set.mem_iUnion.mpr ⟨sock, hpart⟩)

theorem Changes.andThen {x : ReturnCode × Srv D} {f : Srv D → ReturnCode × Srv D}
    (h : Changes io K s x.2) (hf : ∀ s, Changes io K s (f s).2) : Changes io K s (andThen x f).2 := by
  unfold RemoteDebug.andThen
  exact h.ite (hf x.2)

theorem changes_connectSockets (cfg : Config) (handle : Nat) (s : Srv D) :
    Changes io connectParts s (connectSockets io cfg handle s).2 := by
  have hctrl : Changes io connectParts s (connectCtrl io cfg handle s).2 := by
    apply (changes_connectCtrl cfg handle s).mono
    apply Set.union_subset_union_right
    exact Set.subset_iUnion handshakeParts .ctrl
  have hverify (s : Srv D) : Changes io connectParts s (verifyHandle .ctrl handle s).2 := by
    apply Changes.mono _ (handshakeParts_subset .ctrl)
    exact (changes_verifyHandle .ctrl handle s).mono (by simp [handshakeParts, Set.insert_subset_iff])
  have hsocket (sock : Sock) (useNagle : Bool) (s : Srv D) :
      Changes io connectParts s (connectClientSocket handle sock useNagle s).2 :=
    (changes_connectClientSocket handle sock useNagle s).mono (handshakeParts_subset sock)
  unfold connectSockets
  dsimp only
  apply Changes.andThen
  · apply Changes.andThen
    · apply Changes.andThen
      · exact (hctrl.andThen hverify).andThen (hsocket .mgmt false)
      · intro s
        exact hsocket .mgmtRsp s.conn.mgmtRspNagle s
    · exact hsocket .h2tData false
  · intro s
    exact hsocket .t2hData s.conn.t2hNagle s

/-- `connect_client` behind `init_driver`. -/
theorem changes_connectClient (cfg : Config) (s : Srv D) :
    Changes io connectParts
      { s with
        drv := (initDriver io cfg.info s.drv s.dev).2.1
        dev := (initDriver io cfg.info s.drv s.dev).2.2 } (connectClient io cfg s).2 := by
  have hsend (bs : List UInt8) (s : Srv D) : Changes io connectParts s (s.sendAll .ctrl bs).2 := by
    apply Changes.mono _ (handshakeParts_subset .ctrl)
    exact (changes_sendAll .ctrl bs s).mono (by simp [handshakeParts])
  have hhandles : Changes io connectParts
      { s with
        drv := (initDriver io cfg.info s.drv s.dev).2.1
        dev := (initDriver io cfg.info s.drv s.dev).2.2 }
      { s with
        env := { s.env with handles := s.env.handles.tail }
        drv := (initDriver io cfg.info s.drv s.dev).2.1
        dev := (initDriver io cfg.info s.drv s.dev).2.2 } := by
    refine Change.only (Change.env _ { s.env with handles := s.env.handles.tail } ?_) ?_
    · rfl
    · exact handshakeParts_subset .ctrl (by simp [handshakeParts])
  have hsockets := hhandles.trans (changes_connectSockets cfg (s.env.handles.headD 1) _)
  unfold connectClient
  dsimp only
  generalize connectSockets io cfg (s.env.handles.headD 1) _ = y at hsockets ⊢
  split_ifs
  · exact hhandles
  · exact hsockets.trans (hsend _ _)
  · exact hsockets.trans (hsend _ _)
  · apply hsockets.trans
    apply Changes.mono _ (handshakeParts_subset .ctrl)
    exact (changes_sendOnce .ctrl _ _).mono (by simp [handshakeParts])
  · exact hsockets

theorem changes_rejectClient (s : Srv D) : Changes io {.connections, .env} s (rejectClient s) := by
  unfold rejectClient
  split
  · next c rest heq =>
    have htaken : Changes io {.connections, .env} s { s with env := { s.env with accepts := rest } } :=
      (Change.connections s rest (heq ▸ List.suffix_cons _ _)).only (by simp)
    have hclosed := htaken.trans
      ((Change.env _ { s.env with accepts := rest, closes := s.env.closes.tail } rfl).only (by simp))
    have haccepted := hclosed.trans ((Change.record _ (.accepted c.fd)).only (by simp [Event.part]))
    exact haccepted.trans ((Change.record _ (.closed c.fd)).only (by simp [Event.part]))
  · next rest heq => exact (Change.connections s rest (heq ▸ List.suffix_cons _ _)).only (by simp)
  · exact .refl s

theorem changes_closeClientConn (s : Srv D) :
    Changes io {.connections, .env} s (closeClientConn s).2 := by
  have hclose (sock : Sock) (x : Nat × Srv D) :
      Changes io {.connections, .env} x.2 (closeSocket sock x).2 := by
    unfold closeSocket
    split
    · have htaken : Changes io {.connections, .env} x.2 _ :=
        (Change.env x.2 { x.2.env with closes := x.2.env.closes.tail } rfl).only (by simp)
      exact htaken.trans ((Change.record _ (.closed (x.2.client sock).fd)).only (by simp [Event.part]))
    · exact .refl x.2
  have hfirst := (hclose .ctrl (0, s)).trans (hclose .mgmt _)
  exact ((hfirst.trans (hclose .mgmtRsp _)).trans (hclose .h2tData _)).trans (hclose .t2hData _)

/-! ## Steps -/

/-- The parts that a step of the server changes. -/
def actionParts : ServerAction → Set StatePart
  | .connect => connectParts ∪ {.clients, .device}
  | .control => controlParts
  | .mgmt => mgmtParts
  | .h2t => h2tParts
  | .mgmtRsp => mgmtRspParts
  | .t2h => t2hParts
  | .hardware => {.device}
  | .select => {.env}
  | .reject | .close => {.connections, .env}

theorem changes_connect (s : Srv D) :
    Changes io (connectParts ∪ {.clients, .device}) s (ServerState.connect io cfg s).srv := by
  have hctrl {part : StatePart} (hpart : part ∈ handshakeParts .ctrl) :
      part ∈ connectParts ∪ {.clients, .device} := Or.inl (handshakeParts_subset .ctrl hpart)
  have hreset : Changes io (connectParts ∪ {.clients, .device}) s
      { resetBuffers s with client := clientConnDefault } :=
    ((Change.ctrlRxBuff s _).only (hctrl (by simp [handshakeParts]))).trans
      ((Change.clients _ _).only (by simp))
  have hinit := hreset.trans ((Change.device _ (initDriver io cfg.info s.drv s.dev).2.1
    (initDriver io cfg.info s.drv s.dev).2.2).only (by simp))
  have hconnect := hinit.trans ((changes_connectClient cfg
    { resetBuffers s with client := clientConnDefault }).mono Set.subset_union_left)
  unfold ServerState.connect
  dsimp only
  split
  · exact hconnect.trans ((Change.record _ (.handleClient _ _)).only
      (hctrl (by simp [handshakeParts, Event.part])))
  · exact hconnect

/-- **Steps**: each step changes the parts of its action only. -/
theorem changes_step {may : D → D → Prop} {st st' : ServerState D} {a : ServerAction}
    (hstep : CallStep io cfg may st a st') : Changes io (actionParts a) st.srv st'.srv := by
  cases hstep with
  | connect s => exact changes_connect s
  | select s selects =>
    exact (Change.env s { s.env with selects := selects } rfl).only (by simp [actionParts])
  | reject s => exact changes_rejectClient s
  | control hcall => exact changes_control hcall
  | mgmt hcall => exact changes_mgmt hcall
  | h2t hcall => exact changes_h2t hcall
  | mgmtRsp hmode => exact changes_mgmtRsp _
  | t2h hmode => exact changes_t2h _
  | close s => exact changes_closeClientConn _
  | hardware hmay => exact (Change.device st.srv st.srv.drv _).only (by simp [actionParts])

end RemoteDebug
