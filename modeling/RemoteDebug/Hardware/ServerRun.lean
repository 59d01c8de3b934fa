import RemoteDebug.Hardware.T2hRun
import RemoteDebug.Server.Session

/-!
# Runs of the server

The calls that `server_main` and `handle_client` make, in any order, with the hardware proceeding
between them. The loops of the server take only such steps.
-/

namespace RemoteDebug

open Bytes CString Script

variable {D : Type} {io : Mmio D}

/-- The server, and whether `handle_client` is serving a client. -/
structure ServerState (D : Type) where
  srv : Srv D
  connected : Bool

inductive ServerAction where
  | connect
  | select
  | reject
  | control
  | mgmt
  | h2t
  | mgmtRsp
  | t2h
  | close
  | hardware
  deriving DecidableEq

/-- `connect_client` for a new client. If it succeeds `handle_client` is entered. -/
def ServerState.connect (io : Mmio D) (cfg : Config) (s : Srv D) : ServerState D :=
  let x := connectClient io cfg { resetBuffers s with client := clientConnDefault }
  if x.1 = .ok then ⟨x.2.record (.handleClient x.2.conn.h2tWaiting x.2.conn.mgmtWaiting), true⟩
  else ⟨x.2, false⟩

/-- One step, the hardware going from one state to another as `may` allows. The T2H and MGMT_RSP
channels are only served in normal operation. -/
inductive CallStep (io : Mmio D) (cfg : Config) (may : D → D → Prop) :
    ServerState D → ServerAction → ServerState D → Prop
  | connect (s : Srv D) : CallStep io cfg may ⟨s, false⟩ .connect (.connect io cfg s)
  | select (s : Srv D) (selects : List SelectResult) :
      CallStep io cfg may ⟨s, true⟩ .select
        ⟨{ s with env := { s.env with selects := selects } }, true⟩
  | reject (s : Srv D) : CallStep io cfg may ⟨s, true⟩ .reject ⟨rejectClient s, true⟩
  | control {s : Srv D} {x : ReturnCode × Bool × Srv D}
      (hcall : processControlMessage io cfg s = some x) :
      CallStep io cfg may ⟨s, true⟩ .control ⟨x.2.2, true⟩
  | mgmt {s : Srv D} {x : ReturnCode × Srv D} (hcall : processMgmtData io cfg s = some x) :
      CallStep io cfg may ⟨s, true⟩ .mgmt ⟨x.2, true⟩
  | h2t {s : Srv D} {x : ReturnCode × Srv D} (hcall : processH2tData io cfg s = some x) :
      CallStep io cfg may ⟨s, true⟩ .h2t ⟨x.2, true⟩
  | mgmtRsp {s : Srv D} (hmode : s.conn.loopbackMode = false) :
      CallStep io cfg may ⟨s, true⟩ .mgmtRsp ⟨(processMgmtRspData io cfg s).2, true⟩
  | t2h {s : Srv D} (hmode : s.conn.loopbackMode = false) :
      CallStep io cfg may ⟨s, true⟩ .t2h ⟨(processT2hData io cfg s).2, true⟩
  | close (s : ServerState D) : CallStep io cfg may s .close ⟨(closeClientConn s.srv).2, false⟩
  | hardware {s : ServerState D} {d : D} (hmay : may s.srv.dev d) :
      CallStep io cfg may s .hardware ⟨{ s.srv with dev := d }, s.connected⟩

/-- One step with a debug IP that keeps the contract of the H2T channel. -/
abbrev ServerStep (cfg : Config) (ip : ChannelIp io cfg.info .h2t) :
    ServerState D → ServerAction → ServerState D → Prop := CallStep io cfg ip.Proceeds

/-- The memory from the message on: the receive buffer behind the reception. -/
def controlMemory (s : Srv D) : List UInt8 := (recvControl s).2.conn.ctrlRxBuff.bytes

/-- The next control message is received and starts with the command. -/
def Receives (s : Srv D) (cmd : List UInt8) : Prop :=
  (recvControl s).1 = .ok ∧ cmd <+: cstr (controlMemory s)

/-- The next H2T header: the one held back, or the next ten bytes of the stream. -/
def nextH2tHeader (s : Srv D) : H2tPacketHeader :=
  headerOf (if s.conn.h2tWaiting then s.conn.h2tHeaderBuff
    else s.conn.h2tHeaderBuff.store ((pending (s.client .h2tData).rx).take 10))

/-- The next H2T header is there. -/
def HeaderArrives (s : Srv D) : Prop :=
  s.conn.h2tWaiting = true ∨ 10 ≤ (pending (s.client .h2tData).rx).length

/-- The bytes of the words that hold `len` bytes. -/
def wordBytes (len : Nat) : Nat := 8 * ((len + 7) / 8)

/-- Every T2H descriptor that `process_t2h_data` finds lies in the T2H window. -/
def T2hInWindow (io : Mmio D) (info : DesignInfo) (s : ServerState D) (a : ServerAction) : Prop :=
  a = .t2h → (frontT2h io s.srv.dev).howLong ≠ 0 → PresentsFitting io info.t2hMemSz s.srv.dev

/-- Every H2T packet that is echoed fits into `size` bytes, in whole words. -/
def EchoFits (size : Nat) (s : ServerState D) (a : ServerAction) : Prop :=
  a = .h2t → s.srv.conn.loopbackMode = true → HeaderArrives s.srv →
    wordBytes (nextH2tHeader s.srv).dataLenBytes.toNat ≤ size

end RemoteDebug
