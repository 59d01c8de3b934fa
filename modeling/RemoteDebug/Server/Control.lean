import RemoteDebug.Server.State

/-!
# The control channel

Control messages and their handlers (`intel_st_debug_if_server.c`, `intel_st_debug_if_constants.c`).
A message is handled in the receive buffer, so that the handlers see the bytes of the message, its
NUL and whatever earlier messages left behind it.
-/

namespace RemoteDebug

open Bytes CString

/-! ## Constants

All lengths of `intel_st_debug_if_constants.c` include the NUL. -/

def readyMsg : List UInt8 := ascii "READY"
def readyMsgLen : Nat := 6
def notReadyMsg : List UInt8 := ascii "NOT_READY"
def notReadyMsgLen : Nat := 10
def rejectMsg : List UInt8 := ascii "SERVER_BUSY"

def pingCmd : List UInt8 := ascii "PING"
def pingCmdLen : Nat := 5
def getParamCmd : List UInt8 := ascii "GET_PARAM"
def getParamCmdLen : Nat := 10
def disconnectCmd : List UInt8 := ascii "DISCONNECT"
def disconnectCmdLen : Nat := 11
def setParamCmd : List UInt8 := ascii "SET_PARAM"
def setParamCmdLen : Nat := 10
def setDriverParamCmd : List UInt8 := ascii "SET_DRIVER_PARAM"
def setDriverParamCmdLen : Nat := 17
def getDriverParamCmd : List UInt8 := ascii "GET_DRIVER_PARAM"
def getDriverParamCmdLen : Nat := 17

def unrecognizedCmdRsp : List UInt8 := ascii "UNRECOGNIZED_COMMAND"
def unrecognizedCmdRspLen : Nat := 21
def pingCmdRsp : List UInt8 := ascii "PONG"
def pingCmdRspLen : Nat := 5
def setParamCmdRsp : List UInt8 := ascii "SET_PARAM_ACK"
def setParamCmdFailRsp : List UInt8 := ascii "SET_PARAM_FAIL_ACK"
def getParamCmdFailRsp : List UInt8 := ascii "GET_PARAM_FAILURE"
def disconnectCmdRsp : List UInt8 := ascii "DISCONNECT_ACK"
def disconnectCmdRspLen : Nat := 15

def maxServerParamValueLen : Nat := 256
def serverLoopbackModeParam : List UInt8 := ascii "SERVER_LOOPBACK"
def serverLoopbackModeParamLen : Nat := 16
def h2tRxBufferSizeParam : List UInt8 := ascii "H2T_RX_BUFF_SZ"
def h2tRxBufferSizeParamLen : Nat := 15
def mgmtRxBufferSizeParam : List UInt8 := ascii "MGMT_RX_BUFF_SZ"
def mgmtRxBufferSizeParamLen : Nat := 16
def ctrlRxBufferSizeParam : List UInt8 := ascii "CTRL_RX_BUFF_SZ"
def ctrlRxBufferSizeParamLen : Nat := 16
def t2hNagleParam : List UInt8 := ascii "T2H_NAGLE"
def t2hNagleParamLen : Nat := 10
def mgmtRspNagleParam : List UInt8 := ascii "MGMT_RSP_NAGLE"
def mgmtRspNagleParamLen : Nat := 15

variable {D : Type}

/-! ## Parameters -/

/-- The bytes of a constant message of `len` bytes, its NUL included. -/
def message (msg : List UInt8) (len : Nat) : List UInt8 := (msg ++ [0]).take len

/-- The bytes sent for a response: the string up to `maxLen` characters, and one byte more. -/
def responseBytes (resp : List UInt8) (maxLen : Nat) : List UInt8 :=
  message resp (min maxLen resp.length + 1)

/-- `set_tcp_no_delay` on a socket of the client: whether `setsockopt` succeeded. -/
def setTcpNoDelay (sock : Sock) (noDelay : Bool) (s : Srv D) : Bool × Srv D :=
  let done := s.env.setsockopts.headD true
  (done,
    { s with
      env := { s.env with setsockopts := s.env.setsockopts.tail }
      client := Function.update s.client sock
        { s.client sock with noDelay := if done then noDelay else (s.client sock).noDelay } }.record
      (.setNoDelay sock noDelay done))

/-- The digit of a flag. -/
def flagDigit (b : Bool) : List UInt8 := if b then ascii "1" else ascii "0"

/-- `get_parameter`, given the memory from the parameter name on. -/
def getParameter (cfg : Config) (conn : ServerConn) (paramName : List UInt8) : List UInt8 :=
  if strncmpEq serverLoopbackModeParamLen paramName serverLoopbackModeParam then
    flagDigit conn.loopbackMode
  else if strncmpEq h2tRxBufferSizeParamLen paramName h2tRxBufferSizeParam then
    snprintf ctrlTxBuffSz (decimal64 cfg.info.h2tMemSz)
  else if strncmpEq mgmtRxBufferSizeParamLen paramName mgmtRxBufferSizeParam then
    snprintf ctrlTxBuffSz (decimal64 cfg.info.mgmtMemSz)
  else if strncmpEq ctrlRxBufferSizeParamLen paramName ctrlRxBufferSizeParam then
    snprintf ctrlTxBuffSz (decimal64 ctrlRxBuffSz)
  else if strncmpEq t2hNagleParamLen paramName t2hNagleParam then flagDigit conn.t2hNagle
  else if strncmpEq mgmtRspNagleParamLen paramName mgmtRspNagleParam then
    flagDigit conn.mgmtRspNagle
  else getParamCmdFailRsp

/-- `set_parameter`, given the memory from the parameter name on. -/
def setParameter (paramName : List UInt8) (s : Srv D) : List UInt8 × Srv D :=
  if strstr paramName serverLoopbackModeParam = some 0 then
    let paramValue := paramName.drop serverLoopbackModeParamLen
    if strnlen paramValue 1 = 1 then
      (setParamCmdRsp, { s with conn := { s.conn with loopbackMode := paramValue.headD 0 = 0x31 } })
    else (setParamCmdFailRsp, s)
  else if strstr paramName t2hNagleParam = some 0 then
    let paramValue := paramName.drop t2hNagleParamLen
    if strnlen paramValue 1 = 1 then
      let t2hNagle : Bool := paramValue.headD 0 = 0x31
      let x := setTcpNoDelay .t2hData (!t2hNagle) s
      if x.1 then (setParamCmdRsp, { x.2 with conn := { x.2.conn with t2hNagle := t2hNagle } })
      else (setParamCmdFailRsp, x.2)
    else (setParamCmdFailRsp, s)
  else if strstr paramName mgmtRspNagleParam = some 0 then
    let paramValue := paramName.drop mgmtRspNagleParamLen
    if strnlen paramValue 1 = 1 then
      let mgmtRspNagle : Bool := paramValue.headD 0 = 0x31
      let x := setTcpNoDelay .mgmtRsp (!mgmtRspNagle) s
      if x.1 then
        (setParamCmdRsp, { x.2 with conn := { x.2.conn with mgmtRspNagle := mgmtRspNagle } })
      else (setParamCmdFailRsp, x.2)
    else (setParamCmdFailRsp, s)
  else (setParamCmdFailRsp, s)

/-- `get_driver_parameter`, given the memory from the parameter name on. -/
def getDriverParameter (io : Mmio D) (paramName : List UInt8) (s : Srv D) : List UInt8 × Srv D :=
  let x := getDriverParam io paramName s.dev
  (x.1.getD getParamCmdFailRsp, { s with dev := x.2 }.record (.getParam (cstr paramName)))

/-- `MAX_DRIVER_PARAM_NAME_LEN`. -/
def maxDriverParamNameLen : Nat := 32

/-- The name buffer and the value pointer that `set_driver_parameter` computes. Without a space
`strstr` returns NULL: the value pointer is `NULL + 1` and the computed length of the name is larger
than the buffer. -/
def splitDriverParam (paramName : List UInt8) : List UInt8 × Option (List UInt8) :=
  match strstr paramName (ascii " ") with
  | some paramNameLen =>
    (paramName.take (min paramNameLen maxDriverParamNameLen),
      some (paramName.drop (paramNameLen + 1)))
  | none => (paramName.take maxDriverParamNameLen, none)

/-- `set_driver_parameter`, given the memory from the parameter name on; `none` if the driver
dereferences an invalid value pointer. -/
def setDriverParameter (io : Mmio D) (paramName : List UInt8) (s : Srv D) :
    Option (List UInt8 × Srv D) :=
  let x := splitDriverParam paramName
  (setDriverParam io x.1 x.2 s.dev).map fun d =>
    (setParamCmdRsp, { s with dev := d }.record (.setParam (cstr x.1) (x.2.map cstr)))

/-! ## Messages -/

/-- Sends a response of at most `maxLen` characters on the control socket. -/
def respond (resp : List UInt8) (maxLen : Nat) (s : Srv D) : ReturnCode × Bool × Srv D :=
  let x := s.sendAll .ctrl (responseBytes resp maxLen)
  (x.1, false, x.2)

/-- Sends a constant message on the control socket. -/
def respondMsg (msg : List UInt8) (len : Nat) (s : Srv D) : ReturnCode × Bool × Srv D :=
  let x := s.sendAll .ctrl (message msg len)
  (x.1, false, x.2)

/-- The part of `process_control_message` behind the reception, on the memory `cmd` from the start
of the receive buffer on: the return code, whether the client is to be disconnected, and the new
state. -/
def dispatchControl (io : Mmio D) (cfg : Config) (cmd : List UInt8) (s : Srv D) :
    Option (ReturnCode × Bool × Srv D) :=
  if strstr cmd getParamCmd = some 0 then
    some (respond (getParameter cfg s.conn (cmd.drop getParamCmdLen)) maxServerParamValueLen s)
  else if strncmpEq pingCmdLen cmd pingCmd then some (respondMsg pingCmdRsp pingCmdRspLen s)
  else if strncmpEq disconnectCmdLen cmd disconnectCmd then
    some (.ok, true, (s.sendAll .ctrl (message disconnectCmdRsp disconnectCmdRspLen)).2)
  else if strstr cmd setParamCmd = some 0 then
    let x := setParameter (cmd.drop setParamCmdLen) s
    some (respond x.1 128 x.2)
  else if strstr cmd setDriverParamCmd = some 0 then
    (setDriverParameter io (cmd.drop setDriverParamCmdLen) s).map fun x => respond x.1 256 x.2
  else if strstr cmd getDriverParamCmd = some 0 then
    let x := getDriverParameter io (cmd.drop getDriverParamCmdLen) s
    some (respond x.1 maxServerParamValueLen x.2)
  else some (respondMsg unrecognizedCmdRsp unrecognizedCmdRspLen s)

/-- The reception in `process_control_message`. -/
def recvControl (s : Srv D) : ReturnCode × Srv D :=
  let x := socketRecvUntilNullReached (s.client .ctrl).rx ctrlRxBuffSz
  let s := s.setRx .ctrl x.2.2
  (x.1, { s with conn := { s.conn with ctrlRxBuff := s.conn.ctrlRxBuff.store x.2.1 } })

/-- `process_control_message`; `none` if it crashes. -/
def processControlMessage (io : Mmio D) (cfg : Config) (s : Srv D) :
    Option (ReturnCode × Bool × Srv D) :=
  let x := recvControl s
  if x.1 = .ok then dispatchControl io cfg x.2.conn.ctrlRxBuff.bytes x.2
  else some (.failure, false, x.2)

end RemoteDebug
