import RemoteDebug.Hardware.ServerRun

/-!
# Sessions side by side

Two runs of the server in front of a new client: on what they have to agree, and when they serve this
client in the same way.
-/

namespace RemoteDebug

variable {D : Type}

/-- No connection is closed while a packet waits for a buffer. -/
def LeavesIdle (s : ServerState D) (a : ServerAction) : Prop :=
  a = .close → s.srv.conn.h2tWaiting = false ∧ s.srv.conn.mgmtWaiting = false

/-- If the next client connects, `handle_client` is entered with no packet waiting. -/
def EntersIdle (io : Mmio D) (cfg : Config) (s : ServerState D) : Prop :=
  s.connected = false →
    (ServerState.connect io cfg s.srv).srv.conn.h2tWaiting = false ∧
      (ServerState.connect io cfg s.srv).srv.conn.mgmtWaiting = false

/-- The registers that the server looks at do not tell the related states of the bus apart: they show the
same, also behind further accesses. Stores from the start of the H2T window on may differ, and nothing is
said about what is read there. -/
structure AnswersAlike (io : Mmio D) (info : DesignInfo) (R : D → D → Prop) : Prop where
  register32 : ∀ o ∈ [stDbgIpConfigResetAndLoopback, stDbgIpConfigMgmtMgmtRspDescDepth,
    stDbgIpH2tAvailableSlots], ∀ {d d'}, R d d' → (io.read32 o d').1 = (io.read32 o d).1
  register64 : ∀ o ∈ [stDbgIpT2hHowLong, stDbgIpT2hConnectionId],
    ∀ {d d'}, R d d' → (io.read64 o d').1 = (io.read64 o d).1
  read32 : ∀ o {d d'}, R d d' → R (io.read32 o d).2 (io.read32 o d').2
  read64 : ∀ o {d d'}, R d d' → R (io.read64 o d).2 (io.read64 o d').2
  write32 : ∀ o v {d d'}, R d d' → R (io.write32 o v d) (io.write32 o v d')
  write64 : ∀ o v {d d'}, R d d' → R (io.write64 o v d) (io.write64 o v d')
  store : ∀ o v v' {d d'}, info.h2tMemBaseAddr ≤ o → R d d' →
    R (io.write64 o v d) (io.write64 o v' d')

/-- Before a new client the two runs agree on everything that is still to come and on the parameters
of the server; the registers have to do so from the reset in `init_driver` on. -/
structure SameOutlook (io : Mmio D) (R : D → D → Prop) (s s' : Srv D) : Prop where
  env : s'.env = s.env
  loopbackMode : s'.conn.loopbackMode = s.conn.loopbackMode
  t2hNagle : s'.conn.t2hNagle = s.conn.t2hNagle
  mgmtRspNagle : s'.conn.mgmtRspNagle = s.conn.mgmtRspNagle
  dbgInfoSet : s'.drv.dbgInfoSet = s.drv.dbgInfoSet
  check : (checkVersionAndType io s'.dev).1 = (checkVersionAndType io s.dev).1
  reset : R (assertH2tT2hReset io (checkVersionAndType io s.dev).2)
    (assertH2tT2hReset io (checkVersionAndType io s'.dev).2)

/-- The event without what is sent on T2H and MGMT_RSP. -/
def Event.deed : Event → Event
  | .sent .t2hData _ => .sent .t2hData []
  | .sent .mgmtRsp _ => .sent .mgmtRsp []
  | e => e

/-- From `s` and `s'` on the same has been done with the client: the same packets have been stored and
pushed, and the same bytes of every socket have been used up. -/
structure SameSession (s s' : Srv D) (x x' : ReturnCode × Srv D) : Prop where
  rc : x'.1 = x.1
  client : x'.2.client = x.2.client
  deeds : (x'.2.log.drop s'.log.length).map Event.deed = (x.2.log.drop s.log.length).map Event.deed

end RemoteDebug
