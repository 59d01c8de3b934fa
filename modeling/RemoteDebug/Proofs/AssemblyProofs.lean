import RemoteDebug.Assembly
import RemoteDebug.Proofs.DispatchProofs

/-!
# Proofs: messages from end to end

What a client puts into a packet is what the IP gets in the descriptor, or what the client gets back on its
T2H socket.
-/

namespace RemoteDebug

open Runs Script PrefixCode

variable {D : Type} {io : Mmio D} {cfg : Config} {s : Srv D} {st : DispatchState D}

/-- The descriptor says what the message does. -/
structure Message.Describes (m : Message) (x : Descriptor) : Prop where
  howLong : x.howLong = m.payload.length
  last : x.last = true ↔ m.eop.toNat % 2 = 1
  connId : x.connId = m.connId.toNat
  channel : x.channel = m.channel.toNat

/-- What was taken in the mode `mode`. -/
def inMode {α : Type} (mode : Bool) (xs : List α) (modes : List Bool) : List α :=
  ((xs.zip modes).filter fun x => x.2 = mode).map Prod.fst

/-! ## Headers -/

theorem low_bit (x : UInt8) : x &&& 1 = if x.toNat % 2 = 1 then 1 else 0 := by
  apply UInt8.toNat_inj.mp
  have hbit : (x &&& 1).toNat = x.toNat % 2 := Nat.and_one_is_mod x.toNat
  rw [hbit]
  split
  · next h => exact h
  · next h => exact Nat.mod_two_ne_one.mp h

/-- The two bits are where the masks look for them. -/
theorem sopEopBits_masks (sop eop : UInt8) :
    (sopEopBits sop eop &&& packetHeaderMaskSop ≠ 0 ↔ sop.toNat % 2 = 1) ∧
      (sopEopBits sop eop &&& packetHeaderMaskEop ≠ 0 ↔ eop.toNat % 2 = 1) := by
  unfold sopEopBits
  rw [low_bit sop, low_bit eop]
  by_cases hsop : sop.toNat % 2 = 1 <;> by_cases heop : eop.toNat % 2 = 1 <;>
  · simp only [hsop, heop, if_true, if_false]
    decide

namespace Message

variable {m : Message} {b : HeaderBuff}

theorem header_packet (m : Message) (b : HeaderBuff) :
    (m.packet b).header =
      populateH2tPacketHeader m.sop m.eop m.connId m.channel (UInt16.ofNat m.payload.length) :=
  headerOf_populateH2tPacketBytes _ _ _ _ _ b

theorem guardbandSet_head (m : Message) (b : HeaderBuff) : GuardbandSet (m.head b) := by
  have hguard : GuardbandSet (populateGuardband b) := rfl
  have hbits : GuardbandSet (setByte 5 m.connId (setByte 4 (sopEopBits m.sop m.eop) (populateGuardband b))) :=
    guardbandSet_setByte (by decide) (guardbandSet_setByte le_rfl hguard)
  exact guardbandSet_setWord (by decide) (guardbandSet_setWord (by decide) hbits)

/-- A client that knows the format reads the message. -/
theorem readFrom_packet (m : Message) (b : HeaderBuff) : m.ReadFrom (m.packet b) := by
  have hheader := header_packet m b
  obtain ⟨hsop, heop⟩ := sopEopBits_masks m.sop m.eop
  refine ⟨guardbandSet_head m b, ?_, ?_, ?_, ?_, rfl⟩
  · rw [hheader]
    unfold H2tPacketHeader.sop
    rw [decide_eq_true_iff]
    exact hsop
  · rw [hheader]
    unfold H2tPacketHeader.eop
    rw [decide_eq_true_iff]
    exact heop
  · rw [hheader]
    rfl
  · rw [hheader]
    rfl

/-- The descriptor of a packet says what the message does. -/
theorem Describes.of_carries {x : Descriptor} (h : Carries (m.packet b) x) : m.Describes x := by
  have hread := readFrom_packet m b
  refine ⟨h.howLong, ?_, ?_, ?_⟩
  · rw [h.last]
    exact hread.eop
  · rw [h.connId, hread.connId]
  · rw [h.channel, hread.channel]

end Message

/-! ## Runs -/

theorem letGo_map {α : Type} (f : α → H2tPacket) (mode : Bool) (xs : List α) (modes : List Bool) :
    letGo mode (xs.map f) modes = (inMode mode xs modes).map f := by
  induction xs generalizing modes with
  | nil => rfl
  | cons x xs ih =>
    cases modes with
    | nil => rfl
    | cons mode' modes =>
      have hrest := ih modes
      unfold letGo inMode at hrest ⊢
      rw [List.map_cons, List.zip_cons_cons, List.zip_cons_cons]
      by_cases h : mode' = mode
      · rw [List.filter_cons_of_pos (by simpa using h), List.filter_cons_of_pos (by simpa using h),
          List.map_cons, List.map_cons, List.map_cons, hrest]
      · rw [List.filter_cons_of_neg (by simpa using h), List.filter_cons_of_neg (by simpa using h), hrest]

/-- **Messages from end to end**: whatever else happens in a session, the messages that are taken in normal
mode are described by the descriptors pushed, in their order, and those taken in loopback mode are what a
client reads from the bytes that come back, in one way only. -/
theorem messages_dispatched (ip : ChannelIp io cfg.info .h2t) (hok : WindowOk cfg.info .h2t)
    (wm : WindowMemory io cfg.info) (messages : List (Message × HeaderBuff))
    (hfit : ∀ x ∈ messages, x.1.payload.length ≤ cfg.info.h2tMemSz)
    (hstart : SessionStart io cfg (messages.map fun x => x.1.packet x.2) s)
    (hrun : Reach (DispatchStep cfg ip) always ⟨(ServerState.connect io cfg s).srv, [], []⟩ st) :
    ∃ done rest, messages = done ++ rest ∧ done.length = st.modes.length ∧
      (∃ descs, ip.committed st.srv.dev =
          ip.committed (ServerState.connect io cfg s).srv.dev ++ descs ∧
        List.Forall₂ (fun x d => x.1.Describes d) (inMode false done st.modes) descs) ∧
      ∃ packets, Reads H2tPacket.bytes packets [] st.echoed ∧
        List.Forall₂ (fun x p => x.1.ReadFrom p) (inMode true done st.modes) packets ∧
        ∀ packets' rest', Reads H2tPacket.bytes packets' rest' st.echoed →
          packets' = packets ∧ rest' = [] := by
  have hfit' : ∀ p ∈ messages.map fun x => x.1.packet x.2, p.payload.length ≤ cfg.info.h2tMemSz := by
    intro p hp
    obtain ⟨x, hx, rfl⟩ := List.mem_map.mp hp
    exact hfit x hx
  obtain ⟨done', rest', hsplit, hinv⟩ := hstart.run hok wm hfit' hrun
  obtain ⟨done, rest, rfl, rfl, rfl⟩ := List.map_eq_append_iff.mp hsplit
  obtain ⟨descs, hcom, hall⟩ := hinv.committed
  have hcount := hinv.count
  rw [List.length_map] at hcount
  rw [letGo_map, List.forall₂_map_left_iff] at hall
  have hreads : Reads H2tPacket.bytes ((inMode true done st.modes).map fun x => x.1.packet x.2) []
      st.echoed := by
    refine ⟨?_, unfinished_nil⟩
    rw [hinv.echoed, letGo_map, List.append_nil]
    rfl
  refine ⟨done, rest, rfl, hcount, ⟨descs, hcom, hall.imp fun x d h => .of_carries h⟩, _, hreads, ?_, ?_⟩
  · rw [List.forall₂_map_right_iff]
    exact List.forall₂_same.mpr fun x _ => Message.readFrom_packet x.1 x.2
  · intro packets' rest' hreads'
    exact prefixFree_packets.reads_unique hreads' hreads

/-- The two messages of the packets `twoPackets`. -/
def twoMessages : List (Message × HeaderBuff) :=
  [(⟨1, 0, 7, 2, [5, 6], Nat.le_of_ble_eq_true rfl⟩, .zero _),
    (⟨0, 1, 7, 2, [8], Nat.le_of_ble_eq_true rfl⟩, .zero _)]

/-- The descriptor of the first message is pushed, and the second one can be read from what comes back. -/
theorem messages_dispatched_two :
    List.Forall₂ (fun x d => x.1.Describes d) (twoMessages.take 1) (DebugIp.switched.srv.dev.pushed .h2t) ∧
      ∃ packets, Reads H2tPacket.bytes packets [] DebugIp.switched.echoed ∧
        List.Forall₂ (fun x p => x.1.ReadFrom p) (twoMessages.drop 1) packets := by
  obtain ⟨hsession, hrun, hpushed, hmodes⟩ := DebugIp.switched_run
  have hpackets : twoPackets = twoMessages.map fun x => x.1.packet x.2 := rfl
  rw [hpackets] at hsession
  obtain ⟨done, rest, hsplit, hcount, ⟨descs, hcom, hall⟩, packets, hreads, hread, -⟩ :=
    messages_dispatched DebugIp.echoIp DebugIp.echoDesign_ok DebugIp.echoMemory.toWindowMemory twoMessages
      (by decide) hsession hrun
  rw [hmodes] at hcount hall hread
  obtain rfl : done = twoMessages := by
    have hprefix : done <+: twoMessages := ⟨rest, hsplit.symm⟩
    exact hprefix.eq_of_length hcount
  generalize DebugIp.switched = fin at hcom hreads ⊢
  generalize ServerState.connect debugIp DebugIp.echoDesign DebugIp.switchingServer = first
    at hcom hpushed
  have hdescs : fin.srv.dev.pushed .h2t = descs := hcom.trans (congrArg (· ++ descs) hpushed)
  exact ⟨hdescs ▸ hall, packets, hreads, hread⟩

end RemoteDebug
