import RemoteDebug.Hardware.ChannelRun
import RemoteDebug.Hardware.ServerRun

/-!
# Packets on the H2T channel

Which packets a session can let in, which of them wait for a buffer, and what can end their wait.
-/

namespace RemoteDebug

open Bytes Script

variable {D : Type} {io : Mmio D} {cfg : Config}

/-- The bytes of the window that are free, or will be once every descriptor is completed: what is
available with what the entries of the descriptor chain give back. -/
def DescriptorRing.reclaimable (depth : Nat) (r : DescriptorRing) : Nat :=
  r.cbuff.spaceAvailable +
    ((List.range (depth - r.slotsAvailable)).map fun i => r.chain ((r.readIdx + i) % 128 : Nat)).sum

/-- A packet that is let in in normal operation fits into what can be reclaimed. -/
def HeaderFits (ip : ChannelIp io cfg.info .h2t) (s : ServerState D) (a : ServerAction) : Prop :=
  a = .h2t → s.srv.conn.loopbackMode = false → s.srv.conn.h2tWaiting = false →
    10 ≤ (pending (s.srv.client .h2tData).rx).length →
    getAlignedSz (nextH2tHeader s.srv).dataLenBytes.toNat ≤ s.srv.drv.h2t.reclaimable ip.depth

/-- No MGMT header is complete. -/
def NoMgmtHeader (s : ServerState D) (a : ServerAction) : Prop :=
  a = .mgmt → (pending (s.srv.client .mgmt).rx).length < 10

/-- Once the IP has completed every descriptor, the next call for a packet that waits lets it go or
ends the session. -/
def WaitEnds (ip : ChannelIp io cfg.info .h2t) (s : Srv D) : Prop :=
  ∀ d, ip.Proceeds s.dev d → ip.uncompleted d = [] →
    (s.conn.h2tWaiting = true → ∃ x, processH2tData io cfg { s with dev := d } = some x ∧
      (x.2.conn.h2tWaiting = false ∨ x.1 = .failure)) ∧
    (s.conn.mgmtWaiting = true → ∃ x, processMgmtData io cfg { s with dev := d } = some x ∧
      (x.2.conn.mgmtWaiting = false ∨ x.1 = .failure))

/-! ## Stores in loopback mode -/

/-- The stream behind the next H2T header. -/
def payloadStream (s : Srv D) : List RecvEvent :=
  if s.conn.h2tWaiting then (s.client .h2tData).rx
  else (socketRecvAccumulate (s.client .h2tData).rx 10).2.2

/-- How far a part of `len` bytes covers the window when it is stored at its start: nothing is stored
of a part that does not arrive. -/
def partCovers (rx : List RecvEvent) (len : Nat) : Nat :=
  if (socketRecvAccumulate rx len).1 = .failure then 0 else wordBytes len

/-- How far a payload of `len` bytes covers a window of `span` bytes from its start. A larger payload
is received in two parts, both of them to the start of the window. -/
def payloadCovers (span len : Nat) (rx : List RecvEvent) : Nat :=
  if len ≤ span then partCovers rx len
  else max (partCovers rx span) (partCovers (socketRecvAccumulate rx span).2.2 (len - span))

/-- The payload of the next packet ends before every region that the IP has not completed, and no such
region wraps; or there is no payload, or no region. -/
def EchoApart (ip : ChannelIp io cfg.info .h2t) (s : Srv D) : Prop :=
  HeaderArrives s → ∀ x ∈ ip.uncompleted s.dev,
    let start := x.addr - cfg.info.h2tMemBaseAddr
    let covers := payloadCovers cfg.info.h2tMemSz (nextH2tHeader s).dataLenBytes.toNat
      (payloadStream s)
    x.alignedLen = 0 ∨ covers = 0 ∨ (covers ≤ start ∧ start + x.alignedLen ≤ cfg.info.h2tMemSz)

/-- Between `s` and `s'` no payload has been stored, in whole words, to a byte of a region that the IP
had not completed. -/
def StoresApart (ip : ChannelIp io cfg.info .h2t) (s s' : Srv D) : Prop :=
  ∀ x ∈ ip.uncompleted s.dev, ∀ i ∈ (x.region cfg.info.h2tMemBaseAddr).cells cfg.info.h2tMemSz,
    ∀ addr bs, Event.store addr bs ∈ s'.log.drop s.log.length →
      ¬ (addr ≤ cfg.info.h2tMemBaseAddr + i ∧
        cfg.info.h2tMemBaseAddr + i < addr + wordBytes bs.length)

end RemoteDebug
