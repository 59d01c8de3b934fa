import RemoteDebug.Hardware.DebugIp
import RemoteDebug.Hardware.T2hRun
import RemoteDebug.Server.Session

/-!
# A session with the small debug IP

The server as it enters `handle_client` with the small debug IP, for given scripts of the sockets.
-/

namespace RemoteDebug

open Bytes Script

namespace DebugIp

/-- A staging buffer that has not been used. -/
def staging : Staging where
  bytes := fun _ => 0
  top := 0

/-- The server connected to a client whose sockets have these scripts, behind `init_driver` on the
IP `d`. -/
def session (d : DebugIp) (rx : Sock → List RecvEvent) (tx : Sock → List SendEvent) :
    Srv DebugIp :=
  let x := initDriver debugIp design.info .static d
  { env := ⟨[], [], [], [], []⟩
    conn := serverConnStart
    client := fun sock => ⟨4, rx sock, tx sock, false⟩
    drv := x.2.1
    dev := x.2.2
    recvBuff := staging
    sendBuff := staging
    hostMem := fun _ => 0
    log := [] }

/-- The same with `loopback_mode` set. -/
def loopbackSession (d : DebugIp) (rx : Sock → List RecvEvent) (tx : Sock → List SendEvent) :
    Srv DebugIp :=
  { session d rx tx with conn := { serverConnStart with loopbackMode := true } }

/-- The memory of the small debug IP does not change while the host reads. -/
def t2hIp : T2hIp debugIp design.info where
  mem := DebugIp.mem
  held := fun _ => Set.univ
  held_front := fun _ _ _ => Set.mem_univ _
  read := fun a d h1 _ => by
    have hbase : design.info.t2hMemBaseAddr = 0x40000 := rfl
    rw [read64_mem (by omega)]
  keeps := fun _ _ _ _ => ⟨rfl, Set.mem_univ _⟩

/-- A script for one socket only. -/
def only {α : Type} (sock : Sock) (script : List α) : Sock → List α :=
  fun sock' => if sock' = sock then script else []

/-- The five connections of a client that sends the handle messages and then `rx`. -/
def clientSockets (handle : Nat) (rx : Sock → List RecvEvent) : List (Option Socket) :=
  [Sock.ctrl, .mgmt, .mgmtRsp, .h2tData, .t2hData].map fun sock =>
    some ⟨4, .data (generateExpectedHandleMessage maxHandleRsp (sockName sock) handle ++ [0])
      :: rx sock, [], false⟩

/-- The server as it enters `server_main`, with what `accept` and `select` are going to answer. -/
def listening (accepts : List (Option Socket)) (selects : List SelectResult) : Srv DebugIp where
  env := ⟨accepts, selects, [], [], []⟩
  conn := serverConnStart
  client := clientConnDefault
  drv := .static
  dev := idle
  recvBuff := staging
  sendBuff := staging
  hostMem := fun _ => 0
  log := []

end DebugIp

end RemoteDebug
