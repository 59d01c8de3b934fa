import RemoteDebug.Server.Control
import RemoteDebug.Proofs.SocketProofs

/-!
# What the control handlers read

The handlers of the control messages do not look at the receive buffer but at the memory they are
given, and of that memory only at the message, unless the message stops where a handler skips a
separator.
-/

namespace RemoteDebug

open Bytes CString Script

variable {D : Type} {io : Mmio D} {cfg : Config} {s : Srv D}

/-! ## The receive buffer and the script -/

/-- The server with other contents of `ctrl_rx_buff` and another `recv` script of the control
socket. -/
def Srv.withControl (s : Srv D) (b : Buff ctrlRxBuffSz) (rx : List RecvEvent) : Srv D :=
  { s.setRx .ctrl rx with conn := { s.conn with ctrlRxBuff := b } }

section WithControl

variable (s : Srv D) (b b' : Buff ctrlRxBuffSz) (rx rx' : List RecvEvent)

@[simp] theorem withControl_withControl :
    (s.withControl b rx).withControl b' rx' = s.withControl b' rx' := by
  simp [Srv.withControl, Srv.setRx]

@[simp] theorem withControl_log : (s.withControl b rx).log = s.log := rfl

@[simp] theorem withControl_rx : ((s.withControl b rx).client .ctrl).rx = rx := by
  simp [Srv.withControl, Srv.setRx]

@[simp] theorem withControl_buff : (s.withControl b rx).conn.ctrlRxBuff = b := rfl

theorem setTx_withControl (sock : Sock) (tx : List SendEvent) :
    (s.withControl b rx).setTx sock tx = (s.setTx sock tx).withControl b rx := by
  by_cases h : sock = .ctrl
  · subst h
    simp [Srv.withControl, Srv.setRx, Srv.setTx]
  · simp [Srv.withControl, Srv.setRx, Srv.setTx, Function.update_comm h, h, Ne.symm h]

theorem sendAll_withControl (sock : Sock) (bs : List UInt8) :
    (s.withControl b rx).sendAll sock bs =
      ((s.sendAll sock bs).1, (s.sendAll sock bs).2.withControl b rx) := by
  have htx : ((s.withControl b rx).client sock).tx = (s.client sock).tx := by
    by_cases h : sock = .ctrl
    · subst h
      simp [Srv.withControl, Srv.setRx]
    · simp [Srv.withControl, Srv.setRx, h]
  simp only [Srv.sendAll, htx, setTx_withControl]
  rfl

theorem setTcpNoDelay_withControl {sock : Sock} (h : sock ≠ .ctrl) (noDelay : Bool) :
    setTcpNoDelay sock noDelay (s.withControl b rx) =
      ((setTcpNoDelay sock noDelay s).1, (setTcpNoDelay sock noDelay s).2.withControl b rx) := by
  simp [setTcpNoDelay, Srv.withControl, Srv.setRx, Srv.record, Function.update_comm h, h,
    Ne.symm h]

theorem setParameter_withControl (paramName : List UInt8) :
    setParameter paramName (s.withControl b rx) =
      ((setParameter paramName s).1, (setParameter paramName s).2.withControl b rx) := by
  have h1 := setTcpNoDelay_withControl s b rx (by decide : Sock.t2hData ≠ .ctrl)
  have h2 := setTcpNoDelay_withControl s b rx (by decide : Sock.mgmtRsp ≠ .ctrl)
  unfold setParameter
  dsimp only
  simp only [h1, h2]
  split_ifs <;> rfl

theorem respond_withControl (resp : List UInt8) (maxLen : Nat) :
    respond resp maxLen (s.withControl b rx) =
      ((respond resp maxLen s).1, (respond resp maxLen s).2.1,
        (respond resp maxLen s).2.2.withControl b rx) := by
  simp only [respond, sendAll_withControl]

theorem respondMsg_withControl (msg : List UInt8) (len : Nat) :
    respondMsg msg len (s.withControl b rx) =
      ((respondMsg msg len s).1, (respondMsg msg len s).2.1,
        (respondMsg msg len s).2.2.withControl b rx) := by
  simp only [respondMsg, sendAll_withControl]

/-- The handlers look neither at the receive buffer nor at the script. -/
theorem dispatchControl_withControl (io : Mmio D) (cfg : Config) (cmd : List UInt8) :
    dispatchControl io cfg cmd (s.withControl b rx) =
      (dispatchControl io cfg cmd s).map fun x => (x.1, x.2.1, x.2.2.withControl b rx) := by
  unfold dispatchControl
  split_ifs
  · exact congrArg some (respond_withControl s b rx _ _)
  · exact congrArg some (respondMsg_withControl s b rx _ _)
  · simp only [sendAll_withControl, Option.map_some]
  · simp only [setParameter_withControl, respond_withControl, Option.map_some]
  · simp only [setDriverParameter, Option.map_map]
    refine congrArg (Option.map · _) (funext fun d => ?_)
    exact respond_withControl ({ s with dev := d }.record (.setParam _ _)) b rx _ _
  · exact congrArg some
      (respond_withControl (getDriverParameter io (cmd.drop getDriverParamCmdLen) s).2 b rx _ _)
  · exact congrArg some (respondMsg_withControl s b rx _ _)

end WithControl

/-! ## Commands with parameters -/

/-- A message that starts with one of the commands with parameters is no `PING` and no
`DISCONNECT`. -/
theorem strncmpEq_of_command {mem cmd : List UInt8} (h : cmd <+: cstr mem)
    (hcmd : cmd ∈ [getParamCmd, setParamCmd, setDriverParamCmd, getDriverParamCmd]) :
    strncmpEq pingCmdLen mem pingCmd = false ∧
      strncmpEq disconnectCmdLen mem disconnectCmd = false := by
  obtain ⟨t, rfl⟩ : cmd <+: mem := h.trans (List.takeWhile_prefix _)
  simp only [List.mem_cons, List.not_mem_nil, or_false] at hcmd
  rcases hcmd with rfl | rfl | rfl | rfl <;> exact ⟨rfl, rfl⟩

theorem dispatchControl_setParam (io : Mmio D) (cfg : Config) {mem : List UInt8}
    (h : setParamCmd <+: cstr mem) (s : Srv D) :
    dispatchControl io cfg mem s = some (respond (setParameter (mem.drop setParamCmdLen) s).1 128
      (setParameter (mem.drop setParamCmdLen) s).2) := by
  obtain ⟨hping, hdisc⟩ := strncmpEq_of_command h (by simp)
  have hget : strstr mem getParamCmd ≠ some 0 := strstr_ne_zero h (by decide) (by decide)
  simp only [dispatchControl, hget, hping, hdisc, strstr_eq_zero.mpr h, Bool.false_eq_true,
    if_false, if_true]

theorem dispatchControl_setDriverParam (io : Mmio D) (cfg : Config) {mem : List UInt8}
    (h : setDriverParamCmd <+: cstr mem) (s : Srv D) :
    dispatchControl io cfg mem s = (setDriverParameter io (mem.drop setDriverParamCmdLen) s).map
      fun x => respond x.1 256 x.2 := by
  obtain ⟨hping, hdisc⟩ := strncmpEq_of_command h (by simp)
  have hget : strstr mem getParamCmd ≠ some 0 := strstr_ne_zero h (by decide) (by decide)
  have hset : strstr mem setParamCmd ≠ some 0 := strstr_ne_zero h (by decide) (by decide)
  simp only [dispatchControl, hget, hset, hping, hdisc, strstr_eq_zero.mpr h, Bool.false_eq_true,
    if_false, if_true]

theorem dispatchControl_getDriverParam (io : Mmio D) (cfg : Config) {mem : List UInt8}
    (h : getDriverParamCmd <+: cstr mem) (s : Srv D) :
    dispatchControl io cfg mem s =
      some (respond (getDriverParameter io (mem.drop getDriverParamCmdLen) s).1
        maxServerParamValueLen (getDriverParameter io (mem.drop getDriverParamCmdLen) s).2) := by
  obtain ⟨hping, hdisc⟩ := strncmpEq_of_command h (by simp)
  have hget : strstr mem getParamCmd ≠ some 0 := strstr_ne_zero h (by decide) (by decide)
  have hset : strstr mem setParamCmd ≠ some 0 := strstr_ne_zero h (by decide) (by decide)
  have hdrv : strstr mem setDriverParamCmd ≠ some 0 := strstr_ne_zero h (by decide) (by decide)
  simp only [dispatchControl, hget, hset, hdrv, hping, hdisc, strstr_eq_zero.mpr h,
    Bool.false_eq_true, if_false, if_true]

/-! ## Received messages -/

/-- **`process_control_message`** once a message has been received: the handlers see the received
bytes in front of what the buffer held. -/
theorem processControlMessage_eq (io : Mmio D) (cfg : Config) {bs : List UInt8}
    {rx : List RecvEvent}
    (hrecv : socketRecvUntilNullReached (s.client .ctrl).rx ctrlRxBuffSz = (.ok, bs, rx)) :
    processControlMessage io cfg s =
      (dispatchControl io cfg (bs ++ s.conn.ctrlRxBuff.bytes.drop bs.length) s).map fun x =>
        (x.1, x.2.1, x.2.2.withControl (s.conn.ctrlRxBuff.store bs) rx) := by
  have hlen := socketRecvUntilNullReached_length_le (s.client .ctrl).rx ctrlRxBuffSz
  have hctl : recvControl s = (.ok, s.withControl (s.conn.ctrlRxBuff.store bs) rx) := by
    simp only [recvControl, hrecv]
    rfl
  rw [hrecv] at hlen
  simp only [processControlMessage, hctl, if_true, withControl_buff,
    Buff.store_bytes _ hlen, dispatchControl_withControl]

end RemoteDebug
