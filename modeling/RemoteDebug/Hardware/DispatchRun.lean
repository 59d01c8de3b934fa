import RemoteDebug.Hardware.RoundTripRun

/-!
# Sessions in which the server loopback is switched

Every packet of the H2T stream goes to one of two places: to the IP, or back to the client. The runs are
those of a session, control messages in any place, and remember in which mode each packet was let go.
-/

namespace RemoteDebug

open Script

variable {D : Type} {io : Mmio D}

/-- A session: the server, the loopback mode in which each H2T packet was let go, oldest first, and the
bytes that `process_h2t_data` has sent on the T2H socket. -/
structure DispatchState (D : Type) where
  srv : Srv D
  modes : List Bool
  echoed : List UInt8

/-- The session behind a call of `process_h2t_data`; a packet that waits has not been let go. -/
def DispatchState.called (st : DispatchState D) (s' : Srv D) : DispatchState D where
  srv := s'
  modes := if s'.conn.h2tWaiting then st.modes else st.modes ++ [st.srv.conn.loopbackMode]
  echoed := st.echoed ++ (t2hBytes s'.log).drop (t2hBytes st.srv.log).length

/-- One step: a successful call of `process_h2t_data`, or anything else that happens in a session. -/
inductive DispatchStep (cfg : Config) (ip : ChannelIp io cfg.info .h2t) :
    DispatchState D → ServerAction → DispatchState D → Prop
  | h2t {st : DispatchState D} {s' : Srv D} (hcall : processH2tData io cfg st.srv = some (.ok, s')) :
      DispatchStep cfg ip st .h2t (st.called s')
  | other {st : DispatchState D} {a : ServerAction} {s' : Srv D} (hne : a ≠ .h2t)
      (hstep : ServerStep cfg ip ⟨st.srv, true⟩ a ⟨s', true⟩) :
      DispatchStep cfg ip st a { st with srv := s' }

/-- The packets that were let go in the mode `mode`. -/
def letGo (mode : Bool) (packets : List H2tPacket) (modes : List Bool) : List H2tPacket :=
  ((packets.zip modes).filter fun x => x.2 = mode).map Prod.fst

/-- The session that `connect_client` has set up, with the packets to come from an H2T socket that does not
fail before they are used up. -/
structure SessionStart (io : Mmio D) (cfg : Config) (packets : List H2tPacket) (s : Srv D) : Prop where
  connected : (ServerState.connect io cfg s).connected = true
  notWaiting : s.conn.h2tWaiting = false
  flowing : Flowing ((ServerState.connect io cfg s).srv.client .h2tData).rx
  pending : pending ((ServerState.connect io cfg s).srv.client .h2tData).rx = packets.flatMap H2tPacket.bytes

end RemoteDebug
