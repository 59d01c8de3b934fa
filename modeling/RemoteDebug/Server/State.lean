import RemoteDebug.Driver
import RemoteDebug.Sockets

/-!
# The state of the server

`SERVER_CONN`, `CLIENT_CONN`, the variables of the driver and of the socket layer, the bus, and what
the operating system is going to answer. Every call of the hardware callbacks and every byte sent is
recorded in `log`, oldest first.
-/

namespace RemoteDebug

open Bytes Script

/-- The sockets of `CLIENT_CONN`. -/
inductive Sock where
  | ctrl
  | mgmt
  | mgmtRsp
  | h2tData
  | t2hData
  deriving DecidableEq

/-- An open connection: its descriptor, its `recv` and `send` scripts and its `TCP_NODELAY` option. -/
structure Socket where
  fd : Int
  rx : List RecvEvent
  tx : List SendEvent
  noDelay : Bool
  deriving DecidableEq

/-- `INVALID_SOCKET`. -/
def invalidSocket : Socket where
  fd := -1
  rx := []
  tx := []
  noDelay := false

/-- `CLIENT_CONN`. -/
abbrev ClientConn := Sock → Socket

/-- `CLIENT_CONN_default`. -/
def clientConnDefault : ClientConn := fun _ => invalidSocket

/-- `CTRL_RX_BUFF_SZ`, `CTRL_TX_BUFF_SZ`. -/
def ctrlRxBuffSz : Nat := 512
def ctrlTxBuffSz : Nat := 512

/-- `SERVER_CONN` with the buffers of its `SERVER_BUFFERS`. The flags are `char`s that only hold
`0` and `1`. -/
structure ServerConn where
  ctrlRxBuff : Buff ctrlRxBuffSz
  h2tHeaderBuff : HeaderBuff
  t2hHeaderBuff : HeaderBuff
  mgmtHeaderBuff : HeaderBuff
  mgmtRspHeaderBuff : HeaderBuff
  h2tWaiting : Bool
  mgmtWaiting : Bool
  loopbackMode : Bool
  t2hNagle : Bool
  mgmtRspNagle : Bool

/-- `SERVER_CONN_default` with `SERVER_BUFFERS_default`. -/
def serverConnDefault : ServerConn where
  ctrlRxBuff := .zero _
  h2tHeaderBuff := .zero _
  t2hHeaderBuff := .zero _
  mgmtHeaderBuff := .zero _
  mgmtRspHeaderBuff := .zero _
  h2tWaiting := false
  mgmtWaiting := false
  loopbackMode := false
  t2hNagle := false
  mgmtRspNagle := false

/-- `SERVER_BUFFERS::use_wrapping_data_buffers`, as `start_st_dbg_transport_server_over_tcpip` sets
it. -/
def useWrappingDataBuffers : Bool := true

/-- `ENABLE_MGMT`: whether `get_hw_callbacks` installs the MGMT callbacks. -/
def enableMgmt : Bool := false

/-- A result of `select`: failure, or the descriptors that are set. -/
inductive SelectResult where
  | failure
  | ready (except server ctrl mgmt h2tData mgmtRsp t2hData : Bool)
  deriving DecidableEq

/-- What the operating system is going to answer. `accepts` are the results of `accept`, `handles`
those of `get_random_id`; `setsockopts` tells which of the calls that set `TCP_NODELAY` succeed and
`closes` which calls of `close` do. -/
structure Env where
  accepts : List (Option Socket)
  selects : List SelectResult
  setsockopts : List Bool
  closes : List Bool
  handles : List Nat
  deriving DecidableEq

/-- What the server does to the outside. -/
inductive Event where
  /-- A connection was accepted with this descriptor. -/
  | accepted (fd : Int)
  /-- `close` was called on this descriptor. -/
  | closed (fd : Int)
  /-- `TCP_NODELAY` of the socket was set, successfully or not. -/
  | setNoDelay (sock : Sock) (noDelay done : Bool)
  /-- `handle_client` was entered with these values of `h2t_waiting` and `mgmt_waiting`. -/
  | handleClient (h2tWaiting mgmtWaiting : Bool)
  /-- The bytes were accepted by the kernel in one `socket_send_all`. -/
  | sent (sock : Sock) (bs : List UInt8)
  /-- Received payload was copied to the FPGA address. -/
  | store (addr : Nat) (bs : List UInt8)
  /-- Received MGMT payload was written to the host address. -/
  | hostStore (addr : Nat) (bs : List UInt8)
  /-- `h2t_data_received`, that is `push_h2t_data`, was called. -/
  | h2tDataReceived (header : H2tPacketHeader) (payload : Nat)
  /-- `mgmt_data_received`, that is `push_mgmt_data`, was called. -/
  | mgmtDataReceived (header : MgmtPacketHeader) (payload : Nat)
  | t2hDataComplete
  | mgmtRspDataComplete
  /-- The `set_param` callback was called with this name and value (`none`: an invalid pointer). -/
  | setParam (param : List UInt8) (val : Option (List UInt8))
  /-- The `get_param` callback was called with this name. -/
  | getParam (param : List UInt8)
  deriving DecidableEq

/-- The whole state. `hostMem` is the memory that the MGMT buffer addresses point to. -/
structure Srv (D : Type) where
  env : Env
  conn : ServerConn
  client : ClientConn
  drv : Driver
  dev : D
  recvBuff : Staging
  sendBuff : Staging
  hostMem : Nat → UInt8
  log : List Event

namespace Srv

variable {D : Type}

/-- Appends an event to the log. -/
def record (s : Srv D) (e : Event) : Srv D := { s with log := s.log ++ [e] }

/-- The socket `sock` with a new `recv` script. -/
def setRx (s : Srv D) (sock : Sock) (rx : List RecvEvent) : Srv D :=
  { s with client := Function.update s.client sock { s.client sock with rx := rx } }

/-- The socket `sock` with a new `send` script. -/
def setTx (s : Srv D) (sock : Sock) (tx : List SendEvent) : Srv D :=
  { s with client := Function.update s.client sock { s.client sock with tx := tx } }

/-- Sets `h2t_waiting`. -/
def setH2tWaiting (s : Srv D) (b : Bool) : Srv D :=
  { s with conn := { s.conn with h2tWaiting := b } }

/-- Sets `mgmt_waiting`. -/
def setMgmtWaiting (s : Srv D) (b : Bool) : Srv D :=
  { s with conn := { s.conn with mgmtWaiting := b } }

@[simp] theorem setH2tWaiting_client (s : Srv D) (b : Bool) :
    (s.setH2tWaiting b).client = s.client := rfl

@[simp] theorem setH2tWaiting_log (s : Srv D) (b : Bool) : (s.setH2tWaiting b).log = s.log := rfl

@[simp] theorem setH2tWaiting_loopbackMode (s : Srv D) (b : Bool) :
    (s.setH2tWaiting b).conn.loopbackMode = s.conn.loopbackMode := rfl

/-- `socket_send_all` on a socket of the client. -/
def sendAll (s : Srv D) (sock : Sock) (bs : List UInt8) : ReturnCode × Srv D :=
  let x := socketSendAll bs (s.client sock).tx
  (x.1, (s.setTx sock x.2.2).record (.sent sock x.2.1))

/-- `socket_recv_accumulate` on a socket of the client: the return code, the received bytes and the
new state. -/
def recvAccumulate (s : Srv D) (sock : Sock) (len : Nat) : ReturnCode × List UInt8 × Srv D :=
  let x := socketRecvAccumulate (s.client sock).rx len
  (x.1, x.2.1, s.setRx sock x.2.2)

end Srv

end RemoteDebug
