import RemoteDebug.Server.Data
import RemoteDebug.Server.Control

/-!
# Client sessions

The handshake, the main loop of a session and the loop over the sessions
(`connect_client`, `handle_client` and `server_main` of `intel_st_debug_if_server.c`).
-/

namespace RemoteDebug

open Bytes CString Script

variable {D : Type}

/-! ## Handshake -/

/-- `CONTROL_SOCK_NAME`, `MANAGEMENT_SOCK_NAME`, `MANAGEMENT_RSP_SOCK_NAME`, `H2T_SOCK_NAME`,
`T2H_SOCK_NAME`. -/
def sockName : Sock → List UInt8
  | .ctrl => ascii "Control"
  | .mgmt => ascii "Management"
  | .mgmtRsp => ascii "Management Response"
  | .h2tData => ascii "H2T"
  | .t2hData => ascii "T2H"

/-- `generate_expected_handle_message`. -/
def generateExpectedHandleMessage (buffSize : Nat) (name : List UInt8) (handle : Nat) :
    List UInt8 :=
  snprintf buffSize (name ++ ascii " HANDLE=" ++ ascii (Nat.repr handle))

/-- `generate_server_welcome_message`. -/
def generateServerWelcomeMessage (buffSize mgmtSupport : Nat) (info : DesignInfo) (handle : Nat) :
    List UInt8 :=
  snprintf buffSize
    (ascii "Welcome to INTEL_ST_HOST_EP_SERVER: MGMT_SUPPORT=" ++ ascii (Nat.repr mgmtSupport)
      ++ ascii " H2T_RX_BUFF_SZ=" ++ decimal64 info.h2tMemSz
      ++ ascii " MGMT_RX_BUFF_SZ=" ++ decimal64 info.mgmtMemSz
      ++ ascii " CTRL_RX_BUFF_SZ=" ++ decimal64 ctrlRxBuffSz
      ++ ascii " HANDLE=" ++ ascii (Nat.repr handle))

/-- `accept` on the listening socket into a socket of the client. -/
def acceptSocket (sock : Sock) (s : Srv D) : Bool × Srv D :=
  match s.env.accepts with
  | some c :: rest =>
    (true,
      { s with
        env := { s.env with accepts := rest }
        client := Function.update s.client sock c }.record (.accepted c.fd))
  | none :: rest =>
    (false,
      { s with
        env := { s.env with accepts := rest }
        client := Function.update s.client sock invalidSocket })
  | [] => (false, { s with client := Function.update s.client sock invalidSocket })

/-- One `send` call whose result is ignored. -/
def Srv.sendOnce (s : Srv D) (sock : Sock) (bs : List UInt8) : Srv D :=
  match (s.client sock).tx with
  | [] => s.record (.sent sock bs)
  | .error :: tx => s.setTx sock tx
  | .accept k :: tx => (s.setTx sock tx).record (.sent sock (bs.take k))

/-- Goes on with `f` if the return code so far is `OK`. -/
def andThen (x : ReturnCode × Srv D) (f : Srv D → ReturnCode × Srv D) : ReturnCode × Srv D :=
  if x.1 = .ok then f x.2 else x

/-- `MAX_HANDLE_RSP`. -/
def maxHandleRsp : Nat := 64

/-- Receives the handle message of a socket, compares it and answers. -/
def verifyHandle (sock : Sock) (handle : Nat) (s : Srv D) : ReturnCode × Srv D :=
  let x := socketRecvUntilNullReached (s.client sock).rx maxHandleRsp
  let s := s.setRx sock x.2.2
  let s := { s with conn := { s.conn with ctrlRxBuff := s.conn.ctrlRxBuff.store x.2.1 } }
  if x.1 = .ok then
    let expected := generateExpectedHandleMessage ctrlTxBuffSz (sockName sock) handle
    if strncmpEq maxHandleRsp s.conn.ctrlRxBuff.bytes expected then
      s.sendAll sock (message readyMsg readyMsgLen)
    else (.failure, (s.sendAll sock (message notReadyMsg notReadyMsgLen)).2)
  else (.failure, s)

/-- `connect_client_socket`. -/
def connectClientSocket (handle : Nat) (sock : Sock) (useNagle : Bool) (s : Srv D) :
    ReturnCode × Srv D :=
  let x := acceptSocket sock s
  if x.1 then
    let y := setTcpNoDelay sock (!useNagle) x.2
    if y.1 then verifyHandle sock handle y.2 else (.failure, y.2)
  else (.failure, x.2)

/-- The control socket in `connect_client`, up to the welcome message. -/
def connectCtrl (io : Mmio D) (cfg : Config) (handle : Nat) (s : Srv D) : ReturnCode × Srv D :=
  let x := acceptSocket .ctrl s
  if x.1 then
    let support := getMgmtSupport io x.2.dev
    let s := { x.2 with dev := support.2 }
    let welcome := generateServerWelcomeMessage ctrlTxBuffSz support.1 cfg.info handle
    s.sendAll .ctrl (message welcome (welcome.length + 1))
  else (.failure, x.2)

/-- The five sockets of `connect_client`, in the order in which they are accepted. -/
def connectSockets (io : Mmio D) (cfg : Config) (handle : Nat) (s : Srv D) : ReturnCode × Srv D :=
  let x := connectCtrl io cfg handle s
  let x := andThen x (verifyHandle .ctrl handle)
  let x := andThen x (connectClientSocket handle .mgmt false)
  let x := andThen x fun s => connectClientSocket handle .mgmtRsp s.conn.mgmtRspNagle s
  let x := andThen x (connectClientSocket handle .h2tData false)
  andThen x fun s => connectClientSocket handle .t2hData s.conn.t2hNagle s

/-- `connect_client`. -/
def connectClient (io : Mmio D) (cfg : Config) (s : Srv D) : ReturnCode × Srv D :=
  let handle := s.env.handles.headD 1
  let x := initDriver io cfg.info s.drv s.dev
  let s := { s with
    env := { s.env with handles := s.env.handles.tail }
    drv := x.2.1
    dev := x.2.2 }
  if x.1 ≠ 0 then (.initErr, s)
  else
    let y := connectSockets io cfg handle s
    if y.1 = .ok then
      let z := y.2.sendAll .ctrl (message readyMsg readyMsgLen)
      if z.1 = .ok then (.ok, z.2) else (.failure, z.2)
    else
      (.failure,
        if (y.2.client .ctrl).fd ≠ -1 then
          y.2.sendOnce .ctrl (message notReadyMsg notReadyMsgLen)
        else y.2)

/-! ## Main loop of a session -/

/-- `reject_client`. -/
def rejectClient (s : Srv D) : Srv D :=
  match s.env.accepts with
  | some c :: rest =>
    ({ s with env := { s.env with accepts := rest, closes := s.env.closes.tail } }.record
      (.accepted c.fd)).record (.closed c.fd)
  | none :: rest => { s with env := { s.env with accepts := rest } }
  | [] => s

/-- Goes on with `f` while the session lasts. -/
def nextStage (x : Option (Bool × Srv D)) (f : Srv D → Option (Bool × Srv D)) :
    Option (Bool × Srv D) :=
  x.bind fun y => if y.1 then f y.2 else some y

/-- Handles one kind of data if the descriptor is set; the session lasts unless it fails. -/
def dataStage (isSet : Bool) (process : Srv D → Option (ReturnCode × Srv D)) (s : Srv D) :
    Option (Bool × Srv D) :=
  if isSet then (process s).map fun x => (decide (x.1 ≠ .failure), x.2) else some (true, s)

/-- Handles a control message if the descriptor is set. -/
def ctrlStage (io : Mmio D) (cfg : Config) (isSet : Bool) (s : Srv D) : Option (Bool × Srv D) :=
  if isSet then
    (processControlMessage io cfg s).map fun x => (decide (x.1 ≠ .failure) && !x.2.1, x.2.2)
  else some (true, s)

/-- The body of the loop of `handle_client` behind `select`: whether the session lasts, and the new
state. -/
def serveReady (io : Mmio D) (cfg : Config) (server ctrl mgmt h2tData mgmtRsp t2hData : Bool)
    (s : Srv D) : Option (Bool × Srv D) :=
  let x := ctrlStage io cfg ctrl (if server then rejectClient s else s)
  let x := nextStage x (dataStage mgmt (processMgmtData io cfg))
  let x := nextStage x (dataStage h2tData (processH2tData io cfg))
  let x := nextStage x fun s =>
    dataStage (!s.conn.loopbackMode && mgmtRsp && enableMgmt)
      (fun s => some (processMgmtRspData io cfg s)) s
  nextStage x fun s =>
    dataStage (!s.conn.loopbackMode && t2hData) (fun s => some (processT2hData io cfg s)) s

/-- The loop of `handle_client` on the results of `select`. When these are used up `select` fails. -/
def handleClientLoop (io : Mmio D) (cfg : Config) : List SelectResult → Srv D → Option (Srv D)
  | [], s => some { s with env := { s.env with selects := [] } }
  | .failure :: selects, s => some { s with env := { s.env with selects := selects } }
  | .ready except server ctrl mgmt h2tData mgmtRsp t2hData :: selects, s =>
    if except then some { s with env := { s.env with selects := selects } }
    else
      (serveReady io cfg server ctrl mgmt h2tData mgmtRsp t2hData s).bind fun x =>
        if x.1 then handleClientLoop io cfg selects x.2
        else some { x.2 with env := { x.2.env with selects := selects } }

/-- `handle_client`. -/
def handleClient (io : Mmio D) (cfg : Config) (s : Srv D) : Option (Srv D) :=
  handleClientLoop io cfg s.env.selects
    (s.record (.handleClient s.conn.h2tWaiting s.conn.mgmtWaiting))

/-! ## Sessions -/

/-- `reset_buffers`; the transmit buffer is written before each use. -/
def resetBuffers (s : Srv D) : Srv D := { s with conn := { s.conn with ctrlRxBuff := .zero _ } }

/-- One of the five blocks of `close_client_conn`, with the number of errors so far. -/
def closeSocket (sock : Sock) (x : Nat × Srv D) : Nat × Srv D :=
  if (x.2.client sock).fd ≠ -1 then
    (if x.2.env.closes.headD true then x.1 else x.1 + 1,
      { x.2 with env := { x.2.env with closes := x.2.env.closes.tail } }.record
        (.closed (x.2.client sock).fd))
  else x

/-- `close_client_conn`. -/
def closeClientConn (s : Srv D) : ReturnCode × Srv D :=
  let x := closeSocket .t2hData <| closeSocket .h2tData <| closeSocket .mgmtRsp <|
    closeSocket .mgmt <| closeSocket .ctrl (0, s)
  (if 0 < x.1 then .failure else .ok, x.2)

/-- The body of the loop of `server_main`: one client from `connect_client` to
`close_client_conn`. -/
def serveSession (io : Mmio D) (cfg : Config) (s : Srv D) : Option (ReturnCode × Srv D) :=
  let x := connectClient io cfg { resetBuffers s with client := clientConnDefault }
  if x.1 = .ok then (handleClient io cfg x.2).map fun s => (.ok, (closeClientConn s).2)
  else some (x.1, (closeClientConn x.2).2)

/-- The loop of `server_main` over at most `n` sessions; it ends early if the driver cannot be
initialised. -/
def serveSessions (io : Mmio D) (cfg : Config) : Nat → Srv D → Option (Srv D)
  | 0, s => some s
  | n + 1, s =>
    (serveSession io cfg s).bind fun x =>
      if x.1 = .initErr then some x.2 else serveSessions io cfg n x.2

/-- The connection state with which `server_main` is entered: `initialize_server` fills the
guardbands once. -/
def serverConnStart : ServerConn :=
  { serverConnDefault with
    t2hHeaderBuff := populateGuardband serverConnDefault.t2hHeaderBuff
    mgmtRspHeaderBuff := populateGuardband serverConnDefault.mgmtRspHeaderBuff }

/-- `JOP_MEM_SIZE_2K`, `H2T_MEM_BASE_2K`, `T2H_MEM_BASE_4K`. -/
def jopMemSize2k : Nat := 2048
def h2tMemBase2k : Nat := 0x800
def t2hMemBase4k : Nat := 0x1000

/-- `get_design_info` for `h2t_t2h_mem_size`, with `ENABLE_MGMT` 0. The base addresses are
`uint32_t`. -/
def getDesignInfo (memSize : Nat) : DesignInfo where
  h2tMemBaseAddr := if jopMemSize2k < memSize then memSize % 2 ^ 32 else h2tMemBase2k
  h2tMemSz := memSize
  t2hMemBaseAddr := if jopMemSize2k < memSize then 2 * memSize % 2 ^ 32 else t2hMemBase4k
  t2hMemSz := memSize
  mgmtMemBaseAddr := 0
  mgmtMemSz := 0
  mgmtRspMemBaseAddr := 0
  mgmtRspMemSz := 0

end RemoteDebug
