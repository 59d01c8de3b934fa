import RemoteDebug.Hardware.RoundTripRun
import RemoteDebug.Lib.PrefixCode
import RemoteDebug.Server.Session

/-!
# The stream of the T2H socket

What a client reads from its T2H socket over a whole session: the answer to its handle, and behind it
packets, each with a header that announces the length of its payload.
-/

namespace RemoteDebug

open Bytes Script PrefixCode

variable {D : Type}

/-- Every T2H descriptor that the IP presents starts inside the T2H window. -/
def FrontsInside (io : Mmio D) (info : DesignInfo) : Prop :=
  ∀ d, (frontT2h io d).howLong ≠ 0 → (frontT2h io d).addr < info.t2hMemSz

/-- Every connection that is accepted takes at least one byte in each `send`. -/
def ClientsAccept (s : Srv D) : Prop := ∀ c, some c ∈ s.env.accepts → AllAccept c.tx

/-- The bytes `hello` answer a handle: `READY` or `NOT_READY`, or the beginning of it. -/
def Greets (hello : List UInt8) : Prop :=
  hello <+: message readyMsg readyMsgLen ∨ hello <+: message notReadyMsg notReadyMsgLen

/-- From `s` to `s'` a session has gone by. Its T2H socket has carried the answer to the handle, and behind a
complete `READY` packets and the beginning `rest` of another one, which can be read in one way only. Nothing
is left over if every `send` accepts something. -/
def SessionStream (s s' : Srv D) : Prop :=
  ∃ hello bs, t2hBytes s'.log = t2hBytes s.log ++ (hello ++ bs) ∧
    ((Greets hello ∧ bs = []) ∨
      (hello = message readyMsg readyMsgLen ∧ ∃ packets rest,
        Reads H2tPacket.bytes packets rest bs ∧ (ClientsAccept s → rest = []) ∧
        ∀ packets' rest', Reads H2tPacket.bytes packets' rest' bs → packets' = packets ∧ rest' = rest))

/-- The T2H socket has carried the packets `packets`, and the beginning `rest` of another one. -/
structure T2hCarries (packets : List H2tPacket) (rest : List UInt8) (s s' : Srv D) : Prop where
  bytes : t2hBytes s'.log = t2hBytes s.log ++ (packets.flatMap H2tPacket.bytes ++ rest)
  unfinished : Unfinished H2tPacket.bytes rest
  accept : AllAccept (s.client .t2hData).tx → AllAccept (s'.client .t2hData).tx ∧ rest = []

/-- The T2H socket has carried packets; the last one is complete if `lasts`. -/
def CarriesPackets (s : Srv D) (lasts : Prop) (s' : Srv D) : Prop :=
  ∃ packets rest, T2hCarries packets rest s s' ∧ (lasts → rest = [])

end RemoteDebug
