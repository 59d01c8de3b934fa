import RemoteDebug.Server.State

/-!
# The data sockets

The functions of `intel_st_debug_if_server.c` that move packets between the H2T, T2H, MGMT and
MGMT_RSP sockets and the debug IP. A result `none` means that the call never returns.
-/

namespace RemoteDebug

open Bytes Script

variable {D : Type}

/-! ## Staged transfers -/

/-- `socket_send_all_t2h_data`. -/
def socketSendAllT2hData (io : Mmio D) (sock : Sock) (buff len : Nat) (s : Srv D) :
    ReturnCode × Srv D :=
  let x := memcpy64Fpga2host io buff len s.sendBuff s.dev
  { s with sendBuff := x.1, dev := x.2 }.sendAll sock (readBytes x.1.bytes 0 len)

/-- `socket_recv_accumulate_h2t_data`: whatever `socket_recv_accumulate` returns, the result is
`OK`. -/
def socketRecvAccumulateH2tData (io : Mmio D) (sock : Sock) (buff len : Nat) (s : Srv D) :
    ReturnCode × Srv D :=
  let x := s.recvAccumulate sock len
  let s := { x.2.2 with recvBuff := s.recvBuff.receive x.2.1 }
  if x.1 ≠ .failure then
    (.ok, { s with dev := memcpy64Host2fpga io s.recvBuff buff len s.dev }.record
      (.store buff x.2.1))
  else (.ok, s)

/-- `buff_len_to_wrap_boundary`. -/
def buffLenToWrapBoundary (buffSa buffSz buff payloadSz : Nat) : Nat :=
  let endAddr := (buffSa + buffSz) % 2 ^ 64
  if endAddr < (buff + payloadSz) % 2 ^ 64 then (endAddr + 2 ^ 64 - buff) % 2 ^ 64 else 0

/-- The first part of a buffer that wraps, `0` if it does not. -/
theorem buffLenToWrapBoundary_eq {base span len : Nat} (buff : Nat)
    (h1 : base + span + 2 ^ 16 ≤ 2 ^ 64) (h2 : buff ≤ base + span) (h3 : len < 2 ^ 16) :
    buffLenToWrapBoundary base span buff len
      = if base + span < buff + len then base + span - buff else 0 := by
  have he : (base + span) % 2 ^ 64 = base + span := Nat.mod_eq_of_lt (by omega)
  have hb : (buff + len) % 2 ^ 64 = buff + len := Nat.mod_eq_of_lt (by omega)
  simp only [buffLenToWrapBoundary, he, hb]
  split <;> omega

/-! ## H2T -/

/-- `update_curr_h2t_header`. -/
def updateCurrH2tHeader (s : Srv D) : ReturnCode × Srv D :=
  if s.conn.h2tWaiting = false then
    let x := s.recvAccumulate .h2tData 10
    (x.1, { x.2.2 with conn := { s.conn with h2tHeaderBuff := s.conn.h2tHeaderBuff.store x.2.1 } })
  else (.ok, s)

/-- The poll for a buffer in `process_h2t_data`: in loopback mode the start of the H2T window, else
what `get_h2t_buffer` answers. -/
def pollH2tBuffer (io : Mmio D) (cfg : Config) (len : Nat) (s : Srv D) : Option (Nat × Srv D) :=
  if s.conn.loopbackMode = false then
    (getH2tBuffer io cfg len s.drv s.dev).map fun x => (x.1, { s with drv := x.2.1, dev := x.2.2 })
  else some (cfg.info.h2tMemBaseAddr, s)

/-- The payload of a packet received into the H2T window at `h2tBuff`, in two parts if it wraps. -/
def recvH2tPayload (io : Mmio D) (cfg : Config) (h2tBuff len : Nat) (s : Srv D) :
    ReturnCode × Srv D :=
  let firstLen :=
    buffLenToWrapBoundary cfg.info.h2tMemBaseAddr cfg.info.h2tMemSz h2tBuff len
  if useWrappingDataBuffers ∧ firstLen ≠ 0 then
    let secondLen := (len + 2 ^ 64 - firstLen) % 2 ^ 64
    let x := socketRecvAccumulateH2tData io .h2tData h2tBuff firstLen s
    if x.1 = .ok then
      socketRecvAccumulateH2tData io .h2tData cfg.info.h2tMemBaseAddr secondLen x.2
    else x
  else socketRecvAccumulateH2tData io .h2tData h2tBuff len s

/-- The end of `process_h2t_data`: push the received packet to the driver, or echo it. -/
def pushOrLoopbackH2t (io : Mmio D) (header : H2tPacketHeader) (h2tBuff : Nat) (s : Srv D) :
    ReturnCode × Srv D :=
  if s.conn.loopbackMode = false then
    let x := pushH2tData io header (h2tBuff % 2 ^ 32) s.drv s.dev
    (.ok, { s with drv := x.1, dev := x.2 }.record (.h2tDataReceived header (h2tBuff % 2 ^ 32)))
  else
    let x := s.sendAll .t2hData s.conn.h2tHeaderBuff.bytes
    if x.1 = .ok then socketSendAllT2hData io .t2hData h2tBuff header.dataLenBytes.toNat x.2
    else x

/-- `process_h2t_data`. -/
def processH2tData (io : Mmio D) (cfg : Config) (s : Srv D) : Option (ReturnCode × Srv D) :=
  let x := updateCurrH2tHeader s
  if x.1 = .ok then
    let header := headerOf x.2.conn.h2tHeaderBuff
    let bytesToTransfer := header.dataLenBytes.toNat
    (pollH2tBuffer io cfg bytesToTransfer x.2).map fun y =>
      if y.1 ≠ 0 then
        let z := recvH2tPayload io cfg y.1 bytesToTransfer (y.2.setH2tWaiting false)
        if z.1 = .ok then pushOrLoopbackH2t io header y.1 z.2 else z
      else (.ok, y.2.setH2tWaiting true)
  else some x

/-! ## MGMT -/

/-- `update_curr_mgmt_header`. -/
def updateCurrMgmtHeader (s : Srv D) : ReturnCode × Srv D :=
  if s.conn.mgmtWaiting = false then
    let x := s.recvAccumulate .mgmt 10
    (x.1,
      { x.2.2 with conn := { s.conn with mgmtHeaderBuff := s.conn.mgmtHeaderBuff.store x.2.1 } })
  else (.ok, s)

/-- The poll for a buffer in `process_mgmt_data`. Without the callback `mgmt_buff` is the start of
the MGMT window. -/
def pollMgmtBuffer (io : Mmio D) (cfg : Config) (len : Nat) (s : Srv D) : Option (Nat × Srv D) :=
  if enableMgmt ∧ s.conn.loopbackMode = false then
    (getMgmtBuffer io cfg len s.drv s.dev).map fun x => (x.1, { s with drv := x.2.1, dev := x.2.2 })
  else some (cfg.info.mgmtMemBaseAddr, s)

/-- Without the callback the MGMT packets go to the start of the MGMT window. -/
theorem pollMgmtBuffer_eq (io : Mmio D) (cfg : Config) (len : Nat) (s : Srv D) :
    pollMgmtBuffer io cfg len s = some (cfg.info.mgmtMemBaseAddr, s) := by
  simp [pollMgmtBuffer, enableMgmt]

/-- `socket_recv_accumulate` straight into the memory that `mgmt_buff` points to. -/
def recvMgmtPart (buff len : Nat) (s : Srv D) : ReturnCode × Srv D :=
  let x := s.recvAccumulate .mgmt len
  (x.1, { x.2.2 with hostMem := storeBytes s.hostMem buff x.2.1 }.record (.hostStore buff x.2.1))

/-- The payload of an MGMT packet. -/
def recvMgmtPayload (cfg : Config) (mgmtBuff len : Nat) (s : Srv D) : ReturnCode × Srv D :=
  let firstLen :=
    buffLenToWrapBoundary cfg.info.mgmtMemBaseAddr cfg.info.mgmtMemSz mgmtBuff len
  if useWrappingDataBuffers ∧ firstLen ≠ 0 then
    let secondLen := (len + 2 ^ 64 - firstLen) % 2 ^ 64
    let x := recvMgmtPart mgmtBuff firstLen s
    if x.1 = .ok then recvMgmtPart cfg.info.mgmtMemBaseAddr secondLen x.2 else x
  else recvMgmtPart mgmtBuff len s

/-- The end of `process_mgmt_data`: push the received packet to the driver, or echo it. -/
def pushOrLoopbackMgmt (io : Mmio D) (header : MgmtPacketHeader) (mgmtBuff : Nat) (s : Srv D) :
    ReturnCode × Srv D :=
  if s.conn.loopbackMode = false then
    if enableMgmt then
      let x := pushMgmtData io header (mgmtBuff % 2 ^ 32) s.drv s.dev
      (.ok, { s with drv := x.1, dev := x.2 }.record
        (.mgmtDataReceived header (mgmtBuff % 2 ^ 32)))
    else (.ok, s)
  else
    let x := s.sendAll .mgmtRsp s.conn.mgmtHeaderBuff.bytes
    if x.1 = .ok then
      x.2.sendAll .mgmtRsp (readBytes x.2.hostMem mgmtBuff header.dataLenBytes.toNat)
    else x

/-- `process_mgmt_data`. -/
def processMgmtData (io : Mmio D) (cfg : Config) (s : Srv D) : Option (ReturnCode × Srv D) :=
  let x := updateCurrMgmtHeader s
  if x.1 = .ok then
    let header := headerOf x.2.conn.mgmtHeaderBuff
    let bytesToTransfer := header.dataLenBytes.toNat
    (pollMgmtBuffer io cfg bytesToTransfer x.2).map fun y =>
      if y.1 ≠ 0 then
        let z := recvMgmtPayload cfg y.1 bytesToTransfer (y.2.setMgmtWaiting false)
        if z.1 = .ok then pushOrLoopbackMgmt io header y.1 z.2 else z
      else (.ok, y.2.setMgmtWaiting true)
  else some x

/-! ## T2H -/

/-- The payload of an acquired T2H packet, sent in two parts if it wraps. -/
def sendT2hPayload (io : Mmio D) (cfg : Config) (t2hBuff len : Nat) (s : Srv D) :
    ReturnCode × Srv D :=
  let firstLen :=
    buffLenToWrapBoundary cfg.info.t2hMemBaseAddr cfg.info.t2hMemSz t2hBuff len
  if useWrappingDataBuffers ∧ firstLen ≠ 0 then
    let secondLen := (len + 2 ^ 64 - firstLen) % 2 ^ 64
    let x := socketSendAllT2hData io .t2hData t2hBuff firstLen s
    if x.1 = .ok then
      socketSendAllT2hData io .t2hData cfg.info.t2hMemBaseAddr secondLen x.2
    else x
  else socketSendAllT2hData io .t2hData t2hBuff len s

/-- `process_t2h_data`. -/
def processT2hData (io : Mmio D) (cfg : Config) (s : Srv D) : ReturnCode × Srv D :=
  let x := getT2hData io cfg.info (headerOf s.conn.t2hHeaderBuff) s.drv s.dev
  let buff := putHeader s.conn.t2hHeaderBuff x.1
  let s := { s with
    conn := { s.conn with t2hHeaderBuff := buff }
    drv := x.2.2.1
    dev := x.2.2.2 }
  match x.2.1 with
  | none => (.ok, s)
  | some t2hBuff =>
    let y := s.sendAll .t2hData buff.bytes
    if y.1 = .ok then
      let z := sendT2hPayload io cfg t2hBuff x.1.dataLenBytes.toNat y.2
      if z.1 = .ok then
        (.ok, { z.2 with dev := t2hDataComplete io z.2.dev }.record .t2hDataComplete)
      else z
    else y

/-! ## MGMT_RSP -/

/-- The payload of an acquired MGMT_RSP packet, sent from the memory that `mgmt_rsp_buff` points
to. -/
def sendMgmtRspPayload (cfg : Config) (mgmtRspBuff len : Nat) (s : Srv D) : ReturnCode × Srv D :=
  let firstLen :=
    buffLenToWrapBoundary cfg.info.mgmtRspMemBaseAddr cfg.info.mgmtRspMemSz mgmtRspBuff len
  if useWrappingDataBuffers ∧ firstLen ≠ 0 then
    let secondLen := (len + 2 ^ 64 - firstLen) % 2 ^ 64
    let x := s.sendAll .mgmtRsp (readBytes s.hostMem mgmtRspBuff firstLen)
    if x.1 = .ok then
      x.2.sendAll .mgmtRsp (readBytes x.2.hostMem cfg.info.mgmtRspMemBaseAddr secondLen)
    else x
  else s.sendAll .mgmtRsp (readBytes s.hostMem mgmtRspBuff len)

/-- `process_mgmt_rsp_data`. -/
def processMgmtRspData (io : Mmio D) (cfg : Config) (s : Srv D) : ReturnCode × Srv D :=
  let x := getMgmtRspData io cfg.info (headerOf s.conn.mgmtRspHeaderBuff) s.drv s.dev
  let buff := putHeader s.conn.mgmtRspHeaderBuff x.1
  let s := { s with
    conn := { s.conn with mgmtRspHeaderBuff := buff }
    drv := x.2.2.1
    dev := x.2.2.2 }
  match x.2.1 with
  | none => (.ok, s)
  | some mgmtRspBuff =>
    let y := s.sendAll .mgmtRsp buff.bytes
    if y.1 = .ok then
      let z := sendMgmtRspPayload cfg mgmtRspBuff x.1.dataLenBytes.toNat y.2
      if z.1 = .ok then
        (.ok, { z.2 with dev := mgmtRspDataComplete io z.2.dev }.record .mgmtRspDataComplete)
      else z
    else y

end RemoteDebug
