import RemoteDebug.Proofs.ConnectionProofs
import RemoteDebug.Proofs.ControlProofs
import RemoteDebug.Proofs.HandshakeProofs

/-!
# The parameters of the server

The stored flags, the options of the sockets and the answers to `GET_PARAM` agree in every session:
`SET_PARAM` changes the flag and the option together or not at all, and a new session sets the
options from the stored flags.
-/

namespace RemoteDebug

open Bytes CString Runs

variable {D : Type} {io : Mmio D} {cfg : Config} {s s' : Srv D}

/-- The parameters that a client can set. -/
inductive ServerParam where
  | loopbackMode
  | t2hNagle
  | mgmtRspNagle
  deriving DecidableEq

namespace ServerParam

def name : ServerParam → List UInt8
  | loopbackMode => serverLoopbackModeParam
  | t2hNagle => t2hNagleParam
  | mgmtRspNagle => mgmtRspNagleParam

/-- The length of the name with its separator. -/
def len : ServerParam → Nat
  | loopbackMode => serverLoopbackModeParamLen
  | t2hNagle => t2hNagleParamLen
  | mgmtRspNagle => mgmtRspNagleParamLen

/-- The stored value. -/
def flag (conn : ServerConn) : ServerParam → Bool
  | loopbackMode => conn.loopbackMode
  | t2hNagle => conn.t2hNagle
  | mgmtRspNagle => conn.mgmtRspNagle

end ServerParam

/-- `TCP_NODELAY` of the two sockets is the opposite of the stored flags. -/
structure OptionsSet (s : Srv D) : Prop where
  t2hData : (s.client .t2hData).noDelay = !s.conn.t2hNagle
  mgmtRsp : (s.client .mgmtRsp).noDelay = !s.conn.mgmtRspNagle

theorem Transfer.flag {R : D → D → Prop} (h : Transfer R s s') (p : ServerParam) :
    p.flag s'.conn = p.flag s.conn := by
  cases p with
  | loopbackMode => exact h.loopbackMode
  | t2hNagle => exact h.t2hNagle
  | mgmtRspNagle => exact h.mgmtRspNagle

theorem OptionsSet.transfer {R : D → D → Prop} (h : OptionsSet s) (ht : Transfer R s s') :
    OptionsSet s' :=
  ⟨by rw [ht.noDelay, ht.t2hNagle, h.t2hData], by rw [ht.noDelay, ht.mgmtRspNagle, h.mgmtRsp]⟩

/-! ## `set_parameter` -/

/-- The parameter `p` has been set to `b`, and no other parameter has changed. -/
structure OnlySets (p : ServerParam) (b : Bool) (s s' : Srv D) : Prop where
  flag : p.flag s'.conn = b
  others : ∀ q, q ≠ p → q.flag s'.conn = q.flag s.conn

/-- The byte that `set_parameter` takes for the value of `p`. -/
def valueByte (p : ServerParam) (paramName : List UInt8) : UInt8 := (paramName.drop p.len).headD 0

/-- `set_parameter` acknowledges and sets the parameter whose name is there, or changes none. -/
theorem setParameter_cases (paramName : List UInt8) (s : Srv D) :
    ((setParameter paramName s).1 ≠ setParamCmdRsp ∧
        ∀ p : ServerParam, p.flag (setParameter paramName s).2.conn = p.flag s.conn) ∨
      ((setParameter paramName s).1 = setParamCmdRsp ∧
        ∃ p : ServerParam, p.name <+: cstr paramName ∧
          OnlySets p (decide (valueByte p paramName = 0x31)) s (setParameter paramName s).2) := by
  have hfail : setParamCmdFailRsp ≠ setParamCmdRsp := by decide
  unfold setParameter
  dsimp only
  split_ifs with h1 h2 h3 h4 h5 h6 h7 h8
  · refine Or.inr ⟨rfl, .loopbackMode, findSub_eq_zero.mp h1, rfl, fun q hq => ?_⟩
    cases q <;> first | rfl | exact absurd rfl hq
  · exact Or.inl ⟨hfail, fun _ => rfl⟩
  · refine Or.inr ⟨rfl, .t2hNagle, findSub_eq_zero.mp h3, rfl, fun q hq => ?_⟩
    cases q <;> first | rfl | exact absurd rfl hq
  · exact Or.inl ⟨hfail, fun p => by cases p <;> rfl⟩
  · exact Or.inl ⟨hfail, fun _ => rfl⟩
  · refine Or.inr ⟨rfl, .mgmtRspNagle, findSub_eq_zero.mp h6, rfl, fun q hq => ?_⟩
    cases q <;> first | rfl | exact absurd rfl hq
  · exact Or.inl ⟨hfail, fun p => by cases p <;> rfl⟩
  · exact Or.inl ⟨hfail, fun _ => rfl⟩
  · exact Or.inl ⟨hfail, fun _ => rfl⟩

theorem setTcpNoDelay_noDelay (sock sock' : Sock) (noDelay : Bool) (s : Srv D) :
    ((setTcpNoDelay sock noDelay s).2.client sock').noDelay =
      if sock' = sock ∧ (setTcpNoDelay sock noDelay s).1 = true then noDelay
      else (s.client sock').noDelay := by
  by_cases h : sock' = sock
  · subst h
    simp [setTcpNoDelay, Srv.record]
  · simp [setTcpNoDelay, Srv.record, h]

/-- The flag and the option of the socket change together. -/
theorem OptionsSet.setParameter (h : OptionsSet s) (paramName : List UInt8) :
    OptionsSet (setParameter paramName s).2 := by
  have hconn (sock : Sock) (b : Bool) : (setTcpNoDelay sock b s).2.conn = s.conn := rfl
  unfold RemoteDebug.setParameter
  dsimp only
  split_ifs with h1 h2 h3 h4 h5 h6 h7 h8
  · exact ⟨h.t2hData, h.mgmtRsp⟩
  · exact h
  · constructor
    · simp only [setTcpNoDelay_noDelay, h5, and_self, if_true]
    · simpa [setTcpNoDelay_noDelay, hconn] using h.mgmtRsp
  · constructor
    · rw [setTcpNoDelay_noDelay, if_neg fun hc => h5 hc.2]
      exact h.t2hData
    · simpa [setTcpNoDelay_noDelay, hconn] using h.mgmtRsp
  · exact h
  · constructor
    · simpa [setTcpNoDelay_noDelay, hconn] using h.t2hData
    · simp only [setTcpNoDelay_noDelay, h8, and_self, if_true]
  · constructor
    · simpa [setTcpNoDelay_noDelay, hconn] using h.t2hData
    · rw [setTcpNoDelay_noDelay, if_neg fun hc => h8 hc.2]
      exact h.mgmtRsp
  · exact h
  · exact h

/-! ## Control messages -/

/-- The memory from the name of the parameter on, behind the command and its separator. -/
def paramMemory (s : Srv D) : List UInt8 := (controlMemory s).drop setParamCmdLen

/-- `set_parameter` answers the next control message with `SET_PARAM_ACK`. -/
def SetAcknowledged (s : Srv D) : Prop :=
  Receives s setParamCmd ∧ (setParameter (paramMemory s) (recvControl s).2).1 = setParamCmdRsp

/-- The next control message asks for the parameter `p`. -/
def Asks (s : Srv D) (p : ServerParam) : Prop :=
  (recvControl s).1 = .ok ∧ ∃ sep, cstr (controlMemory s) = getParamCmd ++ sep :: p.name

/-- The answer to `GET_PARAM` for one of the three parameters is its digit. -/
theorem getParameter_flag (cfg : Config) (conn : ServerConn) (p : ServerParam) {mem : List UInt8}
    (h : cstr mem = p.name) : getParameter cfg conn mem = flagDigit (p.flag conn) := by
  have hcmp (n : Nat) (b : List UInt8) : strncmpEq n mem b = strncmpEq n p.name b := by
    rw [← strncmpEq_cstr, h]
  unfold getParameter
  simp only [hcmp]
  cases p <;> rfl

theorem respond_flagDigit (b : Bool) (s : Srv D) :
    respond (flagDigit b) maxServerParamValueLen s =
      ((s.sendAll .ctrl (flagDigit b ++ [0])).1, false, (s.sendAll .ctrl (flagDigit b ++ [0])).2) := by
  cases b <;> rfl

/-! ## Handshake -/

/-- Only the socket `sock` may have got another option. -/
structure OnlySocket (sock : Sock) (s s' : Srv D) : Prop where
  others : ∀ sock', sock' ≠ sock → (s'.client sock').noDelay = (s.client sock').noDelay
  flag : ∀ p : ServerParam, p.flag s'.conn = p.flag s.conn

theorem onlySocket_acceptSocket (sock : Sock) (s : Srv D) :
    OnlySocket sock s (acceptSocket sock s).2 := by
  have hother (c : Socket) (sock' : Sock) (h : sock' ≠ sock) :
      (Function.update s.client sock c sock').noDelay = (s.client sock').noDelay := by
    rw [Function.update_of_ne h]
  unfold acceptSocket
  split <;> exact ⟨hother _, fun _ => rfl⟩

theorem OnlySocket.transfer {sock : Sock} {s1 : Srv D} {R : D → D → Prop} (h : OnlySocket sock s s1)
    (ht : Transfer R s1 s') : OnlySocket sock s s' :=
  ⟨fun sock' hne => (ht.noDelay sock').trans (h.others sock' hne),
    fun p => (ht.flag p).trans (h.flag p)⟩

/-- A connected socket has the option that `use_nagle` asks for. -/
theorem connectClientSocket_noDelay (ha : Accesses io fun _ _ => True) {handle : Nat} {sock : Sock}
    {useNagle : Bool} (h : connectClientSocket handle sock useNagle s = (.ok, s')) :
    OnlySocket sock s s' ∧ (s'.client sock).noDelay = !useNagle := by
  have hacc := onlySocket_acceptSocket sock s
  unfold connectClientSocket at h
  dsimp only at h
  generalize acceptSocket sock s = x at h hacc
  have hset (sock' : Sock) := setTcpNoDelay_noDelay sock sock' (!useNagle) x.2
  split_ifs at h with hx hdone
  · have hverify := transfer_verifyHandle ha sock handle (setTcpNoDelay sock (!useNagle) x.2).2
    rw [h] at hverify
    have honly : OnlySocket sock s (setTcpNoDelay sock (!useNagle) x.2).2 := by
      refine ⟨fun sock' hne => ?_, hacc.flag⟩
      rw [hset, if_neg fun hc => hne hc.1]
      exact hacc.others sock' hne
    constructor
    · exact honly.transfer hverify
    · rw [hverify.noDelay, hset, if_pos ⟨rfl, hdone⟩]
  · cases congrArg Prod.fst h
  · cases congrArg Prod.fst h

/-- A successful handshake has set the options from the stored flags. -/
theorem optionsSet_connectClient (h : connectClient io cfg s = (.ok, s')) : OptionsSet s' := by
  have ha := accesses_trivial io
  obtain ⟨s0, s6, -, -, hsockets, hready⟩ := connectClient_ok h
  unfold connectSockets at hsockets
  obtain ⟨s4, h4, ht2h⟩ := andThen_ok hsockets
  obtain ⟨s3, h3, hh2t⟩ := andThen_ok h4
  obtain ⟨s2, h2, hmgmtRsp⟩ := andThen_ok h3
  obtain ⟨hframe3, hdelay3⟩ := connectClientSocket_noDelay ha hmgmtRsp
  obtain ⟨hframe4, -⟩ := connectClientSocket_noDelay ha hh2t
  obtain ⟨hframe5, hdelay5⟩ := connectClientSocket_noDelay ha ht2h
  have hset : OptionsSet s6 := by
    constructor
    · rw [hdelay5]
      exact congrArg _ (hframe5.flag .t2hNagle).symm
    · have hflag : s6.conn.mgmtRspNagle = s2.conn.mgmtRspNagle :=
        ((hframe5.flag .mgmtRspNagle).trans (hframe4.flag .mgmtRspNagle)).trans
          (hframe3.flag .mgmtRspNagle)
      rw [hframe5.others _ (by decide), hframe4.others _ (by decide), hdelay3, hflag]
  have hsend := transfer_sendAll ha .ctrl (message readyMsg readyMsgLen) s6
  rw [hready] at hsend
  exact hset.transfer hsend

/-! ## Every run -/

theorem optionsSet_control {x : ReturnCode × Bool × Srv D} (h : OptionsSet s)
    (hcall : processControlMessage io cfg s = some x) : OptionsSet x.2.2 := by
  have ha := accesses_trivial io
  have hrecv := h.transfer (transfer_recvControl ha s)
  unfold processControlMessage at hcall
  dsimp only at hcall
  split at hcall
  · rcases dispatchControl_cases ha hcall with ⟨-, rfl⟩ | ⟨y, -, hy, rfl⟩ | htransfer
    · exact (hrecv.setParameter _).transfer (transfer_sendAll ha _ _ _)
    · exact (hrecv.transfer (transfer_setDriverParameter hy)).transfer (transfer_sendAll ha _ _ _)
    · exact hrecv.transfer htransfer
  · obtain rfl := Option.some.inj hcall
    exact hrecv

/-- While a client is served the options agree with the flags. -/
theorem optionsSet_step {may : D → D → Prop} {a : ServerAction} {st st' : ServerState D}
    (h : st.connected = true → OptionsSet st.srv) (hstep : CallStep io cfg may st a st') :
    st'.connected = true → OptionsSet st'.srv := by
  have ha := accesses_trivial io
  intro hconn
  cases hstep with
  | connect s =>
    unfold ServerState.connect at hconn ⊢
    dsimp only at hconn ⊢
    split at hconn
    · next hok =>
      have hset : OptionsSet (connectClient io cfg _).2 :=
        optionsSet_connectClient (Prod.ext hok rfl)
      rw [if_pos hok]
      exact ⟨hset.t2hData, hset.mgmtRsp⟩
    · cases hconn
  | select s selects => exact ⟨(h rfl).t2hData, (h rfl).mgmtRsp⟩
  | reject s =>
    have hset := h rfl
    show OptionsSet (rejectClient s)
    unfold rejectClient
    split <;> exact ⟨hset.t2hData, hset.mgmtRsp⟩
  | control hcall => exact optionsSet_control (h rfl) hcall
  | mgmt hcall => exact (h rfl).transfer (transfer_mgmt ha hcall)
  | h2t hcall => exact (h rfl).transfer (transfer_h2t ha hcall)
  | mgmtRsp hmode => exact (h rfl).transfer (transfer_mgmtRsp ha _)
  | t2h hmode => exact (h rfl).transfer (transfer_t2h ha _)
  | close s => cases hconn
  | hardware hmay => exact ⟨(h hconn).t2hData, (h hconn).mgmtRsp⟩

/-- A message that `set_parameter` does not acknowledge changes no flag. -/
theorem flag_of_not_acknowledged {x : ReturnCode × Bool × Srv D}
    (hcall : processControlMessage io cfg s = some x) (hnot : ¬ SetAcknowledged s)
    (p : ServerParam) : p.flag x.2.2.conn = p.flag s.conn := by
  have ha := accesses_trivial io
  have hrecv := (transfer_recvControl ha s).flag p
  rw [← hrecv]
  unfold processControlMessage at hcall
  dsimp only at hcall
  split at hcall
  · next hok =>
    rcases dispatchControl_cases ha hcall with ⟨hset, rfl⟩ | ⟨y, -, hy, rfl⟩ | htransfer
    · rcases setParameter_cases (paramMemory s) (recvControl s).2 with ⟨-, hflag⟩ | ⟨hack, -⟩
      · exact ((transfer_sendAll ha _ _ _).flag p).trans (hflag p)
      · exact absurd ⟨⟨hok, findSub_eq_zero.mp hset⟩, hack⟩ hnot
    · exact ((transfer_sendAll ha _ _ _).flag p).trans ((transfer_setDriverParameter hy).flag p)
    · exact htransfer.flag p
  · obtain rfl := Option.some.inj hcall
    rfl

/-- An acknowledged message sets the parameter whose name it contains. -/
theorem onlySets_of_acknowledged {x : ReturnCode × Bool × Srv D}
    (hcall : processControlMessage io cfg s = some x) (hack : SetAcknowledged s) :
    ∃ p : ServerParam, p.name <+: cstr (paramMemory s) ∧
      OnlySets p (decide (valueByte p (paramMemory s) = 0x31)) s x.2.2 := by
  have ha := accesses_trivial io
  obtain ⟨⟨hok, hcmd⟩, hrsp⟩ := hack
  have hrecv := transfer_recvControl ha s
  have hdispatch := dispatchControl_setParam io cfg hcmd (recvControl s).2
  have hrun : processControlMessage io cfg s
      = dispatchControl io cfg (controlMemory s) (recvControl s).2 := if_pos hok
  rw [hrun, hdispatch] at hcall
  obtain rfl := Option.some.inj hcall
  rcases setParameter_cases (paramMemory s) (recvControl s).2 with ⟨hne, -⟩ | ⟨-, p, hname, hsets⟩
  · exact absurd hrsp hne
  · have hsend (q : ServerParam) := (transfer_sendAll ha .ctrl
      (responseBytes (setParameter (paramMemory s) (recvControl s).2).1 128)
      (setParameter (paramMemory s) (recvControl s).2).2).flag q
    refine ⟨p, hname, (hsend p).trans hsets.flag, fun q hq => ?_⟩
    exact ((hsend q).trans (hsets.others q hq)).trans (hrecv.flag q)

/-- `GET_PARAM` is answered with the stored value. -/
theorem answer_of_asks {x : ReturnCode × Bool × Srv D} {p : ServerParam}
    (hcall : processControlMessage io cfg s = some x) (hasks : Asks s p) :
    (x.1, x.2.2) = (recvControl s).2.sendAll .ctrl (flagDigit (p.flag s.conn) ++ [0]) := by
  obtain ⟨hok, sep, hmsg⟩ := hasks
  have hflag := (transfer_recvControl (accesses_trivial io) s).flag p
  have hname : cstr ((controlMemory s).drop getParamCmdLen) = p.name :=
    cstr_drop (a := getParamCmd ++ [sep]) (by simpa using hmsg) rfl
  have hget : strstr (controlMemory s) getParamCmd = some 0 :=
    strstr_eq_zero.mpr ⟨sep :: p.name, hmsg.symm⟩
  have hrun : processControlMessage io cfg s
      = dispatchControl io cfg (controlMemory s) (recvControl s).2 := if_pos hok
  rw [hrun, dispatchControl, if_pos hget, getParameter_flag cfg _ p hname, respond_flagDigit] at hcall
  obtain rfl := Option.some.inj hcall
  rw [← hflag]

/-- **The parameters are coherent** in every state of every sequence of sessions: the options of the
sockets agree with the flags, and a control message changes the flag that it names if it is
acknowledged, changes none otherwise, and is answered with the flag if it asks for one. -/
theorem parameters_coherent (io : Mmio D) (cfg : Config) {may : D → D → Prop} {s0 s : Srv D}
    (hrun : Reach (CallStep io cfg may) always ⟨s0, false⟩ ⟨s, true⟩) :
    OptionsSet s ∧ ∀ x, processControlMessage io cfg s = some x →
      (¬ SetAcknowledged s → ∀ p : ServerParam, p.flag x.2.2.conn = p.flag s.conn) ∧
      (SetAcknowledged s → ∃ p : ServerParam, p.name <+: cstr (paramMemory s) ∧
        OnlySets p (decide (valueByte p (paramMemory s) = 0x31)) s x.2.2) ∧
      ∀ p, Asks s p →
        (x.1, x.2.2) = (recvControl s).2.sendAll .ctrl (flagDigit (p.flag s.conn) ++ [0]) := by
  have hset : (⟨s, true⟩ : ServerState D).connected = true → OptionsSet s :=
    hrun.invariant (fun st => st.connected = true → OptionsSet st.srv)
      (fun _ _ _ hinv _ hstep => optionsSet_step hinv hstep) (fun hc => by cases hc)
  refine ⟨hset rfl, fun x hcall => ⟨?_, ?_, ?_⟩⟩
  · exact fun hnot p => flag_of_not_acknowledged hcall hnot p
  · exact fun hack => onlySets_of_acknowledged hcall hack
  · exact fun p hasks => answer_of_asks hcall hasks

/-- The first client sets `T2H_NAGLE` and leaves, a second one connects. -/
def DebugIp.nagleClients : Srv DebugIp :=
  DebugIp.listening
    (DebugIp.clientSockets 1 (fun sock =>
        if sock = .ctrl then [.data (ascii "SET_PARAM T2H_NAGLE 1" ++ [0])] else [])
      ++ DebugIp.clientSockets 1 fun _ => [])
    [.ready false false true false false false false, .failure]

theorem parameters_coherent_kept :
    ∃ s, Reach (CallStep debugIp DebugIp.design fun _ _ => False) always
        ⟨DebugIp.nagleClients, false⟩ ⟨s, true⟩ ∧
      s.conn.t2hNagle = true ∧ (s.client .t2hData).noDelay = false := by
  have hsessions : ((serveSession debugIp DebugIp.design DebugIp.nagleClients).map fun x =>
      ServerState.connect debugIp DebugIp.design x.2).any
        (fun st => st.connected && st.srv.conn.t2hNagle) = true := by decide +kernel
  generalize hs0 : DebugIp.nagleClients = s0 at hsessions ⊢
  obtain ⟨x, hfirst, hsecond⟩ : ∃ x, serveSession debugIp DebugIp.design s0 = some x ∧
      ((ServerState.connect debugIp DebugIp.design x.2).connected &&
        (ServerState.connect debugIp DebugIp.design x.2).srv.conn.t2hNagle) = true := by
    cases hx : serveSession debugIp DebugIp.design s0 with
    | none => simp [hx] at hsessions
    | some x => exact ⟨x, rfl, by simpa [hx] using hsessions⟩
  have hreach : Reach (CallStep debugIp DebugIp.design fun _ _ => False) always ⟨s0, false⟩ _ :=
    (serveSession_reach hfirst).tail trivial (.connect x.2)
  generalize ServerState.connect debugIp DebugIp.design x.2 = st at hsecond hreach
  obtain ⟨s, connected⟩ := st
  obtain ⟨rfl, hnagle⟩ := Bool.and_eq_true_iff.mp hsecond
  obtain ⟨hset, -⟩ := parameters_coherent debugIp DebugIp.design hreach
  exact ⟨s, hreach, hnagle, by rw [hset.t2hData, hnagle]; rfl⟩

end RemoteDebug
