import RemoteDebug.Proofs.DeliveryProofs

/-!
# Runs that count the calls with an idle IP

Which packets of a stream the H2T window can ever hold, and the runs of `process_h2t_data` with the number
of calls that have found every descriptor completed.
-/

namespace RemoteDebug

variable {D : Type} {io : Mmio D}

/-- The bytes of the window that a packet of `len` bytes takes away for good: what of its aligned size a
chain entry of 16 bits cannot hold. -/
def lostBytes (len : Nat) : Nat := getAlignedSz len - getAlignedSz len % 2 ^ 16

/-- The packets at the beginning of the stream for which a window of `span` bytes has room once all
earlier ones are completed, when `lost` bytes are lost already. -/
def servable (span : Nat) : (lost : Nat) → List H2tPacket → List H2tPacket
  | _, [] => []
  | lost, p :: packets =>
    if getAlignedSz p.payload.length + lost ≤ span then
      p :: servable span (lost + lostBytes p.payload.length) packets
    else []

/-- The server, and the number of calls of `process_h2t_data` that have found the IP idle. -/
structure DrainState (D : Type) where
  srv : Srv D
  idleCalls : Nat

/-- One step: a call of `process_h2t_data`, or the IP proceeds on its own. -/
inductive DrainStep (cfg : Config) (ip : ChannelIp io cfg.info .h2t) :
    DrainState D → H2tAction → DrainState D → Prop
  | process {s : DrainState D} {x : ReturnCode × Srv D}
      (hcall : processH2tData io cfg s.srv = some x) :
      DrainStep cfg ip s .process
        ⟨x.2, if ip.uncompleted s.srv.dev = [] then s.idleCalls + 1 else s.idleCalls⟩
  | hardware {s : DrainState D} {d : D} (hproc : ip.Proceeds s.srv.dev d) :
      DrainStep cfg ip s .hardware { s with srv := { s.srv with dev := d } }

end RemoteDebug
