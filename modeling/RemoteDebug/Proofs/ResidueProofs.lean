import RemoteDebug.Proofs.ControlProofs
import RemoteDebug.Hardware.DebugSession

/-!
# Control messages and what earlier messages left

Which control messages are interpreted from their own bytes only. The handlers skip the separator
behind a command and behind the name of a parameter without looking at it; where the message ends
instead, they go on behind its NUL.
-/

namespace RemoteDebug

open Bytes CString Script

variable {D : Type} {s : Srv D}

/-- What a control message leads to: the return code, whether the client is disconnected, the
responses and the calls of the driver, and the server parameters. -/
structure ControlOutcome where
  rc : ReturnCode
  disconnect : Bool
  log : List Event
  loopbackMode : Bool
  t2hNagle : Bool
  mgmtRspNagle : Bool
  deriving DecidableEq

/-- The outcome of `process_control_message`. -/
def controlOutcome (x : ReturnCode × Bool × Srv D) : ControlOutcome where
  rc := x.1
  disconnect := x.2.1
  log := x.2.2.log
  loopbackMode := x.2.2.conn.loopbackMode
  t2hNagle := x.2.2.conn.t2hNagle
  mgmtRspNagle := x.2.2.conn.mgmtRspNagle

/-- The message is interpreted from its own bytes only: whenever it is received, two earlier contents
of `ctrl_rx_buff` lead to the same outcome. -/
def ResidueFree (msg : List UInt8) : Prop :=
  ∀ (D : Type) (io : Mmio D) (cfg : Config) (s : Srv D) (b b' : Buff ctrlRxBuffSz)
    (extra : List UInt8) (rx : List RecvEvent),
    socketRecvUntilNullReached (s.client .ctrl).rx ctrlRxBuffSz = (.ok, msg ++ 0 :: extra, rx) →
    (processControlMessage io cfg { s with conn := { s.conn with ctrlRxBuff := b } }).map
        controlOutcome
      = (processControlMessage io cfg { s with conn := { s.conn with ctrlRxBuff := b' } }).map
        controlOutcome

/-- The parameters that `set_parameter` knows. -/
def settableParams : List (List UInt8) :=
  [serverLoopbackModeParam, t2hNagleParam, mgmtRspNagleParam]

/-- A command with parameters that stops behind the command, or a `SET_PARAM` that stops behind the
name of the parameter. -/
def ReadsResidue (msg : List UInt8) : Prop :=
  msg ∈ [getParamCmd, setParamCmd, setDriverParamCmd, getDriverParamCmd] ∨
    ∃ c, ∃ name ∈ settableParams, msg = setParamCmd ++ c :: name

/-! ## The handlers -/

/-- A string with a proper prefix goes on with a further character. -/
theorem exists_cons_of_prefix {p m : List UInt8} (h : p <+: m) (hne : m ≠ p) :
    ∃ c t, m = p ++ c :: t := by
  obtain ⟨t, rfl⟩ := h
  cases t with
  | nil => exact absurd (List.append_nil p) hne
  | cons c t => exact ⟨c, t, rfl⟩

theorem getParameter_append_nul (cfg : Config) (conn : ServerConn) (t r r' : List UInt8) :
    getParameter cfg conn (t ++ 0 :: r) = getParameter cfg conn (t ++ 0 :: r') := by
  simp only [getParameter, strncmpEq_append_nul _ t r r']

/-- The value that follows the name of a parameter. -/
theorem paramValue_append_nul {name t : List UInt8} (hnul : 0 ∉ t) (hpre : name <+: t)
    (hne : t ≠ name) (r r' : List UInt8) :
    strnlen ((t ++ 0 :: r).drop (name.length + 1)) 1
        = strnlen ((t ++ 0 :: r').drop (name.length + 1)) 1 ∧
      ((t ++ 0 :: r).drop (name.length + 1)).headD 0
        = ((t ++ 0 :: r').drop (name.length + 1)).headD 0 := by
  obtain ⟨c, v, rfl⟩ := exists_cons_of_prefix hpre hne
  have hv : 0 ∉ v := fun h => hnul (by simp [h])
  have hdrop (r : List UInt8) :
      ((name ++ c :: v) ++ 0 :: r).drop (name.length + 1) = v ++ 0 :: r := by
    simp [List.drop_append]
  rw [hdrop, hdrop, strnlen, strnlen, cstr_append_nul hv, cstr_append_nul hv]
  cases v <;> exact ⟨rfl, rfl⟩

theorem setParameter_append_nul {t : List UInt8} (hnul : 0 ∉ t) (hname : t ∉ settableParams)
    (r r' : List UInt8) (s : Srv D) :
    setParameter (t ++ 0 :: r) s = setParameter (t ++ 0 :: r') s := by
  simp only [settableParams, List.mem_cons, List.not_mem_nil, or_false, not_or] at hname
  obtain ⟨h1, h2, h3⟩ := hname
  unfold setParameter
  simp only [strstr_append_nul hnul, findSub_eq_zero]
  by_cases hp1 : serverLoopbackModeParam <+: t
  · obtain ⟨hlen, hhead⟩ := paramValue_append_nul hnul hp1 h1 r r'
    simp only [hp1, if_true]
    rw [show serverLoopbackModeParamLen = serverLoopbackModeParam.length + 1 from rfl, hlen, hhead]
  by_cases hp2 : t2hNagleParam <+: t
  · obtain ⟨hlen, hhead⟩ := paramValue_append_nul hnul hp2 h2 r r'
    simp only [hp1, hp2, if_true, if_false]
    rw [show t2hNagleParamLen = t2hNagleParam.length + 1 from rfl, hlen, hhead]
  by_cases hp3 : mgmtRspNagleParam <+: t
  · obtain ⟨hlen, hhead⟩ := paramValue_append_nul hnul hp3 h3 r r'
    simp only [hp1, hp2, hp3, if_true, if_false]
    rw [show mgmtRspNagleParamLen = mgmtRspNagleParam.length + 1 from rfl, hlen, hhead]
  simp only [hp1, hp2, hp3, if_false]

theorem setDriverParam_congr (io : Mmio D) {name name' : List UInt8} {val val' : Option (List UInt8)}
    (hname : cstr name = cstr name') (hval : val.map cstr = val'.map cstr) (d : D) :
    setDriverParam io name val d = setDriverParam io name' val' d := by
  have hcmp (n : Nat) (b : List UInt8) : strncmpEq n name b = strncmpEq n name' b := by
    rw [← strncmpEq_cstr, hname, strncmpEq_cstr]
  unfold setDriverParam
  rw [hcmp]
  split
  · cases val with
    | none =>
      cases val' with
      | none => rfl
      | some v' => cases hval
    | some v =>
      cases val' with
      | none => cases hval
      | some v' =>
        have hv : cstr v = cstr v' := Option.some.inj hval
        have hcmpv (n : Nat) (b : List UInt8) : strncmpEq n v b = strncmpEq n v' b := by
          rw [← strncmpEq_cstr, hv, strncmpEq_cstr]
        simp only [Option.map_some, hcmpv]
  · rfl

/-- The name and the value given to the driver are those of the message. -/
theorem splitDriverParam_append_nul {t : List UInt8} (hnul : 0 ∉ t) (r r' : List UInt8) :
    cstr (splitDriverParam (t ++ 0 :: r)).1 = cstr (splitDriverParam (t ++ 0 :: r')).1 ∧
      (splitDriverParam (t ++ 0 :: r)).2.map cstr
        = (splitDriverParam (t ++ 0 :: r')).2.map cstr := by
  unfold splitDriverParam
  rw [strstr_append_nul hnul, strstr_append_nul hnul]
  cases hfind : findSub (ascii " ") t with
  | none => exact ⟨by simp only [cstr_take_append_nul hnul], rfl⟩
  | some k =>
    have hk : k + 1 ≤ t.length := findSub_le hfind
    have hdrop (r : List UInt8) : (t ++ 0 :: r).drop (k + 1) = t.drop (k + 1) ++ 0 :: r :=
      List.drop_append_of_le_length hk
    have hv : 0 ∉ t.drop (k + 1) := fun h => hnul (List.mem_of_mem_drop h)
    refine ⟨by simp only [cstr_take_append_nul hnul], ?_⟩
    simp only [hdrop, Option.map_some, cstr_append_nul hv]

theorem setDriverParameter_append_nul (io : Mmio D) {t : List UInt8} (hnul : 0 ∉ t)
    (r r' : List UInt8) (s : Srv D) :
    setDriverParameter io (t ++ 0 :: r) s = setDriverParameter io (t ++ 0 :: r') s := by
  obtain ⟨hname, hval⟩ := splitDriverParam_append_nul hnul r r'
  simp only [setDriverParameter]
  rw [setDriverParam_congr io hname hval, hname, hval]

theorem getDriverParameter_append_nul (io : Mmio D) {t : List UInt8} (hnul : 0 ∉ t)
    (r r' : List UInt8) (s : Srv D) :
    getDriverParameter io (t ++ 0 :: r) s = getDriverParameter io (t ++ 0 :: r') s := by
  simp only [getDriverParameter, getDriverParam, strncmpEq_append_nul _ t r r', cstr_append_nul hnul]

/-- **A message that does not stop at a separator** is handled without its residue. -/
theorem dispatchControl_residue (io : Mmio D) (cfg : Config) {msg : List UInt8} (hnul : 0 ∉ msg)
    (hmsg : ¬ ReadsResidue msg) (r r' : List UInt8) (s : Srv D) :
    dispatchControl io cfg (msg ++ 0 :: r) s = dispatchControl io cfg (msg ++ 0 :: r') s := by
  have hcmd {cmd : List UInt8} (hpre : cmd <+: msg)
      (hmem : cmd ∈ [getParamCmd, setParamCmd, setDriverParamCmd, getDriverParamCmd]) :
      ∃ c t, msg = cmd ++ c :: t ∧ 0 ∉ t ∧
        ∀ r, (msg ++ 0 :: r).drop (cmd.length + 1) = t ++ 0 :: r := by
    obtain ⟨c, t, rfl⟩ := exists_cons_of_prefix hpre fun h => hmsg (Or.inl (h ▸ hmem))
    exact ⟨c, t, rfl, fun h => hnul (by simp [h]), fun r => by simp [List.drop_append]⟩
  unfold dispatchControl
  simp only [strstr_append_nul hnul, findSub_eq_zero, strncmpEq_append_nul _ msg r r']
  by_cases hp1 : getParamCmd <+: msg
  · obtain ⟨c, t, -, -, hdrop⟩ := hcmd hp1 (by simp)
    simp only [hp1, if_true]
    rw [show getParamCmdLen = getParamCmd.length + 1 from rfl, hdrop, hdrop,
      getParameter_append_nul cfg s.conn t r r']
  simp only [hp1, if_false]
  split
  · rfl
  split
  · rfl
  by_cases hp2 : setParamCmd <+: msg
  · obtain ⟨c, t, hc, ht, hdrop⟩ := hcmd hp2 (by simp)
    have hname : t ∉ settableParams := fun h => hmsg (Or.inr ⟨c, t, h, hc⟩)
    simp only [hp2, if_true]
    rw [show setParamCmdLen = setParamCmd.length + 1 from rfl, hdrop, hdrop,
      setParameter_append_nul ht hname r r' s]
  by_cases hp3 : setDriverParamCmd <+: msg
  · obtain ⟨c, t, -, ht, hdrop⟩ := hcmd hp3 (by simp)
    simp only [hp2, hp3, if_true, if_false]
    rw [show setDriverParamCmdLen = setDriverParamCmd.length + 1 from rfl, hdrop, hdrop,
      setDriverParameter_append_nul io ht r r' s]
  by_cases hp4 : getDriverParamCmd <+: msg
  · obtain ⟨c, t, -, ht, hdrop⟩ := hcmd hp4 (by simp)
    simp only [hp2, hp3, hp4, if_true, if_false]
    rw [show getDriverParamCmdLen = getDriverParamCmd.length + 1 from rfl, hdrop, hdrop,
      getDriverParameter_append_nul io ht r r' s]
  simp only [hp2, hp3, hp4, if_false]

/-! ## Messages that stop at a separator -/

/-- The receive buffer behind a session that starts with the message `earlier`. -/
def leftBy (earlier : List UInt8) : Buff ctrlRxBuffSz := (Buff.zero _).store (earlier ++ [0])

/-- A session with a client that is connected and sends nothing. -/
def quiet : Srv DebugIp := DebugIp.session DebugIp.idle (fun _ => []) fun _ => []

/-- The session in which the message `msg` comes next and the receive buffer holds `b`. -/
def awaiting (msg : List UInt8) (b : Buff ctrlRxBuffSz) : Srv DebugIp :=
  quiet.withControl b [.data (msg ++ [0])]

/-- The outcome of this message. -/
def outcomeIn (msg : List UInt8) (b : Buff ctrlRxBuffSz) : Option ControlOutcome :=
  (processControlMessage debugIp DebugIp.design (awaiting msg b)).map controlOutcome

theorem recv_awaiting {msg : List UInt8} (hlen : msg.length < ctrlRxBuffSz)
    (b : Buff ctrlRxBuffSz) :
    socketRecvUntilNullReached ((awaiting msg b).client .ctrl).rx ctrlRxBuffSz
      = (.ok, msg ++ [0], []) := by
  show socketRecvUntilNullReached (.data (msg ++ 0 :: []) :: []) ctrlRxBuffSz = _
  rw [socketRecvUntilNullReached_last msg [] hlen [], List.take_nil, List.drop_nil]
  rfl

theorem outcomeIn_eq {msg : List UInt8} (hlen : msg.length < ctrlRxBuffSz)
    (b : Buff ctrlRxBuffSz) :
    outcomeIn msg b =
      (dispatchControl debugIp DebugIp.design
        (msg ++ 0 :: b.bytes.drop (msg.length + 1)) quiet).map controlOutcome := by
  have hmem : (msg ++ [0]) ++ (awaiting msg b).conn.ctrlRxBuff.bytes.drop (msg ++ [0]).length
      = msg ++ 0 :: b.bytes.drop (msg.length + 1) := by
    simp [awaiting]
  rw [outcomeIn, processControlMessage_eq _ _ (recv_awaiting hlen b), hmem, awaiting,
    dispatchControl_withControl, Option.map_map, Option.map_map]
  rfl

/-- Two contents of the buffer that lead to different outcomes. -/
theorem not_residueFree {msg : List UInt8} (hlen : msg.length < ctrlRxBuffSz)
    (b b' : Buff ctrlRxBuffSz) (h : outcomeIn msg b ≠ outcomeIn msg b') : ¬ ResidueFree msg :=
  fun hfree => h (hfree DebugIp debugIp DebugIp.design (awaiting msg b) b b' [] []
    (recv_awaiting hlen b))

/-- What `set_parameter` makes of a message that stops behind the name of the parameter. -/
def setParamOutcome (name : List UInt8) (b : Buff ctrlRxBuffSz) : ControlOutcome :=
  let x := setParameter (name ++ 0 :: b.bytes.drop (name.length + 11)) quiet
  controlOutcome (respond x.1 128 x.2)

theorem outcomeIn_setParam (c : UInt8) {name : List UInt8} (hlen : name.length < 500)
    (b : Buff ctrlRxBuffSz) :
    outcomeIn (setParamCmd ++ c :: name) b = some (setParamOutcome name b) := by
  have hl : (setParamCmd ++ c :: name).length = name.length + 10 := by
    simp [show setParamCmd.length = 9 from rfl]
    omega
  have hcmd (r : List UInt8) : setParamCmd <+: cstr (setParamCmd ++ r) := by
    rw [cstr_append (by decide)]
    exact List.prefix_append _ _
  rw [outcomeIn_eq (by rw [hl]; simp only [ctrlRxBuffSz]; omega), hl, List.append_assoc,
    dispatchControl_setParam _ _ (hcmd _)]
  rfl

/-- A command with parameters that stops behind the command, behind an earlier one with the name of a
parameter and behind an earlier one with a value as well. -/
theorem outcomeIn_command_ne :
    ∀ cmd ∈ [getParamCmd, setParamCmd, setDriverParamCmd, getDriverParamCmd],
      cmd.length < ctrlRxBuffSz ∧
        outcomeIn cmd (leftBy (cmd ++ ascii " MGMT_RSP_NAGLE"))
          ≠ outcomeIn cmd (leftBy (cmd ++ ascii " MGMT_RSP_NAGLE 1")) := by
  decide +kernel

/-- A `SET_PARAM` that stops behind the name, behind an earlier one that sets the parameter and in a
fresh buffer. -/
theorem outcomeIn_setParam_ne (c : UInt8) :
    ∀ name ∈ settableParams, (setParamCmd ++ c :: name).length < ctrlRxBuffSz ∧
      outcomeIn (setParamCmd ++ c :: name) (leftBy (setParamCmd ++ 32 :: name ++ ascii " 1"))
        ≠ outcomeIn (setParamCmd ++ c :: name) (.zero _) := by
  have hclosed : ∀ name ∈ settableParams, name.length < 500 ∧
      setParamOutcome name (leftBy (setParamCmd ++ 32 :: name ++ ascii " 1"))
        ≠ setParamOutcome name (.zero _) := by
    decide +kernel
  intro name hname
  obtain ⟨hlen, hne⟩ := hclosed name hname
  refine ⟨?_, ?_⟩
  · simp only [List.length_append, List.length_cons, show setParamCmd.length = 9 from rfl,
      ctrlRxBuffSz]
    omega
  · rw [outcomeIn_setParam c hlen, outcomeIn_setParam c hlen]
    exact fun h => hne (Option.some.inj h)

/-- **The messages that are interpreted from their own bytes**: all but those that stop where a
handler skips a separator. -/
theorem residue_free_iff {msg : List UInt8} (hnul : 0 ∉ msg) :
    ResidueFree msg ↔ ¬ ReadsResidue msg := by
  constructor
  · rintro hfree (hcmd | ⟨c, name, hname, rfl⟩)
    · obtain ⟨hlen, hne⟩ := outcomeIn_command_ne msg hcmd
      exact not_residueFree hlen _ _ hne hfree
    · obtain ⟨hlen, hne⟩ := outcomeIn_setParam_ne c name hname
      exact not_residueFree hlen _ _ hne hfree
  · intro hmsg D io cfg s b b' extra rx hrecv
    have hout (b : Buff ctrlRxBuffSz) :
        (processControlMessage io cfg { s with conn := { s.conn with ctrlRxBuff := b } }).map
            controlOutcome
          = (dispatchControl io cfg (msg ++ 0 :: extra) s).map controlOutcome := by
      have hmem := dispatchControl_withControl s b (s.client .ctrl).rx io cfg
        (msg ++ 0 :: (extra ++ b.bytes.drop (msg ++ 0 :: extra).length))
      have hs : s.withControl b (s.client .ctrl).rx
          = { s with conn := { s.conn with ctrlRxBuff := b } } := by
        simp [Srv.withControl, Srv.setRx]
      rw [processControlMessage_eq (s := { s with conn := { s.conn with ctrlRxBuff := b } })
        io cfg hrecv, Option.map_map, List.append_assoc, List.cons_append, ← hs, withControl_buff,
        hmem, dispatchControl_residue io cfg hnul hmsg _ extra, Option.map_map]
      rfl
    rw [hout b, hout b']

/-- `SET_PARAM T2H_NAGLE 1` is one of them. -/
theorem residue_free_iff_set_param : ResidueFree (ascii "SET_PARAM T2H_NAGLE 1") := by
  refine (residue_free_iff (by decide)).mpr ?_
  rintro (h | ⟨c, name, hname, h⟩)
  · exact absurd h (by decide)
  · have hdrop : (ascii "SET_PARAM T2H_NAGLE 1").drop 10 = name := by
      rw [h]
      rfl
    rw [← hdrop] at hname
    exact absurd hname (by decide)

/-- `SET_PARAM SERVER_LOOPBACK` without a value takes the value of an earlier message. -/
theorem residue_read : ¬ ∀ msg : List UInt8, 0 ∉ msg → ResidueFree msg := by
  intro h
  obtain ⟨hlen, hne⟩ := outcomeIn_setParam_ne 32 serverLoopbackModeParam (by decide)
  exact not_residueFree hlen _ _ hne (h _ (by decide))

end RemoteDebug
