import RemoteDebug.Proofs.H2tProofs
import Mathlib.Data.List.Forall2

/-!
# H2T delivery

In a session every H2T packet is pushed once and in the order of the stream, whichever calls are
refused a buffer and wherever `recv` splits the stream. The invariant `Delivery` says how many packets
have been pushed and what the socket and the header buffer hold of the others.
-/

namespace RemoteDebug

open Bytes Script Runs

variable {D : Type} {io : Mmio D} {cfg : Config} {ip : ChannelIp io cfg.info .h2t} {s s' s'' : Srv D}

/-! ## Stores into the window -/

section Stores

variable {room : Nat} (hquiet : ip.Quiet room)

include hquiet in
/-- The words of a copy lie in the window, up to `room` bytes behind it. -/
theorem host2fpgaLoop_proceeds (host : Nat → UInt8) (buff : Nat) {n i : Nat} (d : D)
    (h : ∀ j, i ≤ j → j < i + n → cfg.info.h2tMemBaseAddr ≤ (buff + 8 * j) % 2 ^ 32 ∧
      (buff + 8 * j) % 2 ^ 32 < cfg.info.h2tMemBaseAddr + cfg.info.h2tMemSz + room) :
    ip.Proceeds d (host2fpgaLoop io host buff n i d) := by
  induction n generalizing i d with
  | zero => exact ChannelIp.Proceeds.refl ip d
  | succ n ih =>
    obtain ⟨hlo, hhi⟩ := h i le_rfl (by omega)
    refine ChannelIp.Proceeds.trans (hquiet _ _ d hlo hhi) (ih _ fun j hj hj' => ?_)
    exact h j (by omega) (by omega)

include hquiet in
theorem memcpy64Host2fpga_proceeds (st : Staging) {buff len : Nat}
    (d : D) (hlo : cfg.info.h2tMemBaseAddr ≤ buff) (hfit : buff + len ≤ 2 ^ 32)
    (hhi : buff + len ≤ cfg.info.h2tMemBaseAddr + cfg.info.h2tMemSz + room) :
    ip.Proceeds d (memcpy64Host2fpga io st buff len d) := by
  refine host2fpgaLoop_proceeds hquiet st.bytes buff d fun j _ hj => ?_
  have hj' : 8 * j < len := by omega
  rw [Nat.mod_eq_of_lt (by omega)]
  omega

include hquiet in
/-- A part of a payload is only stored in the window. -/
theorem socketRecvAccumulateH2tData_proceeds {buff len : Nat}
    (s : Srv D) (hlo : cfg.info.h2tMemBaseAddr ≤ buff) (hfit : buff + len ≤ 2 ^ 32)
    (hhi : buff + len ≤ cfg.info.h2tMemBaseAddr + cfg.info.h2tMemSz + room) :
    ip.Proceeds s.dev (socketRecvAccumulateH2tData io .h2tData buff len s).2.dev := by
  simp only [socketRecvAccumulateH2tData]
  split
  · exact memcpy64Host2fpga_proceeds hquiet _ _ hlo hfit hhi
  · exact ChannelIp.Proceeds.refl ip _

include hquiet in
/-- A payload, however much of it arrives, is only stored in the window and up to `room` bytes behind
it. -/
theorem recvH2tPayload_proceeds (hok : WindowOk cfg.info .h2t)
    {buff len : Nat} (s : Srv D) (h16 : len < 2 ^ 16) (hlo : cfg.info.h2tMemBaseAddr ≤ buff)
    (hhi : buff < cfg.info.h2tMemBaseAddr + cfg.info.h2tMemSz)
    (hsz : len ≤ cfg.info.h2tMemSz + room) (hend : cfg.info.h2tMemBaseAddr + len ≤ 2 ^ 32) :
    ip.Proceeds s.dev (recvH2tPayload io cfg buff len s).2.dev := by
  have hfits : cfg.info.h2tMemBaseAddr + cfg.info.h2tMemSz ≤ 2 ^ 32 := hok.fits
  by_cases hb : buff + len ≤ cfg.info.h2tMemBaseAddr + cfg.info.h2tMemSz
  · rw [recvH2tPayload_unsplit io (by omega) h16 hb]
    exact socketRecvAccumulateH2tData_proceeds hquiet s hlo (by omega) (by omega)
  · rw [recvH2tPayload_split io (by omega) h16 hhi (by omega)]
    exact ChannelIp.Proceeds.trans
      (socketRecvAccumulateH2tData_proceeds hquiet s hlo (by omega) (by omega))
      (socketRecvAccumulateH2tData_proceeds hquiet _ le_rfl (by omega) (by omega))

end Stores

/-! ## Reception of a payload -/

/-- From `s` to `s'` exactly `n` bytes of the H2T stream have been consumed, and the hardware has
only been given stores. -/
structure Received (ip : ChannelIp io cfg.info .h2t) (n : Nat) (s s' : Srv D) : Prop where
  proceeds : ip.Proceeds s.dev s'.dev
  pending : pending (s'.client .h2tData).rx = (pending (s.client .h2tData).rx).drop n
  flowing : Flowing (s.client .h2tData).rx → Flowing (s'.client .h2tData).rx

theorem Received.trans {n m : Nat} (h : Received ip n s s') (h' : Received ip m s' s'') :
    Received ip (n + m) s s'' :=
  ⟨h.proceeds.trans h'.proceeds, by rw [h'.pending, h.pending, List.drop_drop],
    fun hf => h'.flowing (h.flowing hf)⟩

theorem socketRecvAccumulateH2tData_received (ip : ChannelIp io cfg.info .h2t) (buff len : Nat)
    (hlen : len ≤ (pending (s.client .h2tData).rx).length)
    (hlo : cfg.info.h2tMemBaseAddr ≤ buff) (hfit : buff + len ≤ 2 ^ 32)
    (hhi : buff + len ≤ cfg.info.h2tMemBaseAddr + cfg.info.h2tMemSz + 64) :
    Received ip len s (socketRecvAccumulateH2tData io .h2tData buff len s).2 := by
  obtain ⟨rx', hrec, hpend, hflow⟩ := socketRecvAccumulate_ok hlen
  have hrx : ((socketRecvAccumulateH2tData io .h2tData buff len s).2.client .h2tData).rx = rx' := by
    simp only [socketRecvAccumulateH2tData, Srv.recvAccumulate, Srv.setRx, hrec]
    simp [Srv.record]
  exact ⟨socketRecvAccumulateH2tData_proceeds ip.quiet s hlo hfit hhi, hrx ▸ hpend, hrx ▸ hflow⟩

/-- A payload that is there is received into a granted buffer. -/
theorem recvH2tPayload_received (hok : WindowOk cfg.info .h2t) {buff len : Nat}
    (hlen : len ≤ (pending (s.client .h2tData).rx).length) (hlen16 : len < 2 ^ 16)
    (hlo : cfg.info.h2tMemBaseAddr ≤ buff)
    (hhi : buff < cfg.info.h2tMemBaseAddr + cfg.info.h2tMemSz) (hsz : len ≤ cfg.info.h2tMemSz) :
    Received ip len s (recvH2tPayload io cfg buff len s).2 := by
  have hfits : cfg.info.h2tMemBaseAddr + cfg.info.h2tMemSz ≤ 2 ^ 32 := hok.fits
  by_cases hb : cfg.info.h2tMemBaseAddr + cfg.info.h2tMemSz < buff + len
  · rw [recvH2tPayload_split io (by omega) hlen16 hhi hb]
    set first := cfg.info.h2tMemBaseAddr + cfg.info.h2tMemSz - buff with hfirst
    have h1 : Received ip first s (socketRecvAccumulateH2tData io .h2tData buff first s).2 :=
      socketRecvAccumulateH2tData_received ip _ _ (by omega) hlo (by omega) (by omega)
    have h2 := socketRecvAccumulateH2tData_received ip cfg.info.h2tMemBaseAddr (len - first)
      (s := (socketRecvAccumulateH2tData io .h2tData buff first s).2)
      (by rw [h1.pending, List.length_drop]; omega) le_rfl (by omega) (by omega)
    have h := h1.trans h2
    rwa [Nat.add_sub_cancel' (by omega : first ≤ len)] at h
  · rw [recvH2tPayload_unsplit io (by omega) hlen16 (by omega)]
    exact socketRecvAccumulateH2tData_received ip _ _ hlen hlo (by omega) (by omega)

/-! ## Runs -/

/-- The descriptor carries the length, the end-of-packet bit, the connection and the channel of the
packet. -/
structure Carries (p : H2tPacket) (x : Descriptor) : Prop where
  howLong : x.howLong = p.payload.length
  last : x.last = p.header.eop
  connId : x.connId = p.header.connId.toNat
  channel : x.channel = p.header.channel.toNat

theorem carries_descriptor (p : H2tPacket) (payload : Nat) :
    Carries p (Channel.h2t.descriptor p.header payload) :=
  ⟨by rw [descriptor_howLong, p.len_eq, H2tPacket.header], descriptor_last _ _ _,
    (descriptor_connId_channel _ _).1, (descriptor_connId_channel _ _).2⟩

/-- What happens in one step. -/
inductive H2tAction where
  | process
  | hardware
  deriving DecidableEq

/-- One step: a call of `process_h2t_data`, or the IP proceeds on its own. -/
inductive H2tStep (cfg : Config) (ip : ChannelIp io cfg.info .h2t) :
    Srv D → H2tAction → Srv D → Prop
  | process {s s' : Srv D} {rc : ReturnCode} (hcall : processH2tData io cfg s = some (rc, s')) :
      H2tStep cfg ip s .process s'
  | hardware {s : Srv D} {d : D} (hproc : ip.Proceeds s.dev d) :
      H2tStep cfg ip s .hardware { s with dev := d }

/-- The bytes of the packets one after the other. -/
def stream (packets : List H2tPacket) : List UInt8 := packets.flatMap H2tPacket.bytes

/-- What of the packets is still to come from the socket, given that the next one to be pushed is the
first of `rest`: all of it, or its payload if its header is held back. -/
def ToCome (rest : List H2tPacket) (s : Srv D) : Prop :=
  if s.conn.h2tWaiting then
    ∃ p rest', rest = p :: rest' ∧ s.conn.h2tHeaderBuff = p.head ∧
      pending (s.client .h2tData).rx = p.payload ++ stream rest'
  else pending (s.client .h2tData).rx = stream rest

/-- The packets `done` have been pushed, on top of the descriptors `before`. -/
structure Pushed (ip : ChannelIp io cfg.info .h2t) (before : List Descriptor) (done : List H2tPacket)
    (s : Srv D) : Prop where
  normal : s.conn.loopbackMode = false
  ring : ∃ live lost, RingInv cfg.info ip.toQueueIp s.drv.h2t s.dev live lost
  flowing : Flowing (s.client .h2tData).rx
  committed : ∃ descs, ip.committed s.dev = before ++ descs ∧ List.Forall₂ Carries done descs

/-- The packets `done` have been pushed and the packets `rest` are still to come. -/
structure Delivery (ip : ChannelIp io cfg.info .h2t) (before : List Descriptor)
    (done rest : List H2tPacket) (s : Srv D) : Prop extends Pushed ip before done s where
  toCome : ToCome rest s

/-- The header of the next packet `p` is in the buffer. -/
structure HeaderHeld (ip : ChannelIp io cfg.info .h2t) (before : List Descriptor)
    (done : List H2tPacket) (p : H2tPacket) (rest : List H2tPacket) (s : Srv D) : Prop
    extends Pushed ip before done s where
  head : s.conn.h2tHeaderBuff = p.head
  pending : pending (s.client .h2tData).rx = p.payload ++ stream rest

variable {before : List Descriptor} {done rest : List H2tPacket} {p : H2tPacket}

theorem stream_cons (p : H2tPacket) (rest : List H2tPacket) :
    stream (p :: rest) = p.head.bytes ++ (p.payload ++ stream rest) := by
  simp [stream, H2tPacket.bytes]

/-- A header is there afterwards, unless the stream is used up. -/
theorem Delivery.header (h : Delivery ip before done rest s) :
    (∃ s', updateCurrH2tHeader s = (.ok, s') ∧
      ∃ p rest', rest = p :: rest' ∧ HeaderHeld ip before done p rest' s') ∨
    (∃ s', updateCurrH2tHeader s = (.failure, s') ∧ rest = [] ∧
      Delivery ip before done rest s') := by
  have hto := h.toCome
  unfold ToCome at hto
  cases hwait : s.conn.h2tWaiting with
  | true =>
    rw [hwait, if_pos rfl] at hto
    obtain ⟨p, rest', hrest, hhead, hpend⟩ := hto
    refine Or.inl ⟨s, by simp [updateCurrH2tHeader, hwait], p, rest', hrest, ?_⟩
    exact ⟨h.toPushed, hhead, hpend⟩
  | false =>
    rw [hwait, if_neg Bool.false_ne_true] at hto
    cases hrest : rest with
    | nil =>
      rw [hrest] at hto
      have hlen : (Script.pending (s.client .h2tData).rx).length < 10 := by simp [hto, stream]
      obtain ⟨rx', hrec, hnil⟩ := socketRecvAccumulate_failure hlen
      obtain rfl := hnil h.flowing
      refine Or.inr ⟨_, by
        simp only [updateCurrH2tHeader, hwait, if_true, Srv.recvAccumulate, hrec]; rfl, rfl, ?_⟩
      refine ⟨⟨h.normal, h.ring, by simpa [Srv.setRx] using flowing_nil, h.committed⟩, ?_⟩
      simp only [ToCome, Bool.false_eq_true, if_false, Srv.setRx, Function.update_self]
      rfl
    | cons p rest' =>
      rw [hrest, stream_cons] at hto
      have hsize := p.head.size
      have hlen : 10 ≤ (Script.pending (s.client .h2tData).rx).length := by
        rw [hto, List.length_append]
        omega
      obtain ⟨rx', hrec, hpend, hflow⟩ := socketRecvAccumulate_ok hlen
      rw [hto, List.take_append_of_le_length hsize.ge, List.take_of_length_le hsize.le] at hrec
      rw [hto, List.drop_append_of_le_length hsize.ge, List.drop_of_length_le hsize.le,
        List.nil_append] at hpend
      refine Or.inl ⟨_, by
        simp only [updateCurrH2tHeader, hwait, if_true, Srv.recvAccumulate, hrec]; rfl, p, rest',
        rfl, ?_⟩
      refine ⟨⟨h.normal, h.ring, ?_, h.committed⟩, ?_, ?_⟩
      · simpa [Srv.setRx] using hflow h.flowing
      · ext1
        exact Buff.store_full _ hsize
      · simpa [Srv.setRx] using hpend

/-- The buffer `buff` has been granted for the packet `p`, whose payload is the next in the stream. -/
structure BufferHeld (ip : ChannelIp io cfg.info .h2t) (before : List Descriptor)
    (done : List H2tPacket) (p : H2tPacket) (rest : List H2tPacket) (buff : Nat) (s : Srv D) :
    Prop where
  normal : s.conn.loopbackMode = false
  granted : ∃ live lost, Granted cfg.info ip.toQueueIp s.drv.h2t s.dev live lost
    p.header.dataLenBytes.toNat buff
  flowing : Flowing (s.client .h2tData).rx
  committed : ∃ descs, ip.committed s.dev = before ++ descs ∧ List.Forall₂ Carries done descs
  pending : pending (s.client .h2tData).rx = p.payload ++ stream rest

/-- The poll for a buffer returns: it is refused and the header stays, or it is granted. -/
theorem HeaderHeld.poll (h : HeaderHeld ip before done p rest s) :
    ∃ buff s', pollH2tBuffer io cfg p.header.dataLenBytes.toNat s = some (buff, s') ∧
      ((buff = 0 ∧ HeaderHeld ip before done p rest s') ∨
        (buff ≠ 0 ∧ BufferHeld ip before done p rest buff s')) := by
  obtain ⟨live, lost, hring⟩ := h.ring
  obtain ⟨descs, hcom, hall⟩ := h.committed
  obtain ⟨buff, r', d', hget, hproc, live', lost', hcases⟩ :=
    hring.getH2tBuffer cfg p.header.dataLenBytes.toNat
  have hcom' : ip.committed d' = before ++ descs := hproc.2.trans hcom
  refine ⟨buff, { s with drv := { s.drv with h2t := r' }, dev := d' }, ?_, ?_⟩
  · simp only [pollH2tBuffer, h.normal, if_true, hget, Option.map_some]
  · rcases hcases with ⟨h0, hinv⟩ | ⟨hne, hg⟩
    · exact Or.inl ⟨h0, ⟨h.normal, ⟨_, _, hinv⟩, h.flowing, descs, hcom', hall⟩, h.head, h.pending⟩
    · exact Or.inr ⟨hne, h.normal, ⟨_, _, hg⟩, h.flowing, ⟨descs, hcom', hall⟩, h.pending⟩

/-- A packet is pushed on the buffer that has been granted for it. -/
theorem Granted.pushOrLoopback (hok : WindowOk cfg.info .h2t) {header : H2tPacketHeader} {buff : Nat}
    {live : List Descriptor} {lost : Nat}
    (h : Granted cfg.info ip.toQueueIp s.drv.h2t s.dev live lost header.dataLenBytes.toNat buff)
    (hnormal : s.conn.loopbackMode = false) :
    ∃ r d, pushOrLoopbackH2t io header buff s
        = (.ok, ({ s with drv := { s.drv with h2t := r }, dev := d }).record
            (.h2tDataReceived header buff)) ∧
      RingInv cfg.info ip.toQueueIp r d (live ++ [Channel.h2t.descriptor header buff]) lost ∧
      ip.committed d = ip.committed s.dev ++ [Channel.h2t.descriptor header buff] := by
  have hring := h.push
  have hcom := h.committed
  have hbuff : buff % 2 ^ 32 = buff := by
    have hlt : buff < cfg.info.h2tMemBaseAddr + cfg.info.h2tMemSz := h.bounds.1
    have hle : cfg.info.h2tMemBaseAddr + cfg.info.h2tMemSz ≤ 2 ^ 32 := hok.fits
    omega
  have hpush := pushH2tData_eq io header buff s.drv s.dev
  obtain ⟨r, hr⟩ : ∃ r, s.drv.h2t.takeSlot = r := ⟨_, rfl⟩
  obtain ⟨d, hd⟩ : ∃ d, Channel.h2t.pushWrites io header buff s.dev = d := ⟨_, rfl⟩
  rw [hr, hd] at hring hpush
  rw [hd] at hcom
  refine ⟨r, d, ?_, hring, hcom⟩
  unfold pushOrLoopbackH2t
  rw [if_pos hnormal, hbuff, hpush]

/-- The payload is received and the packet is pushed. -/
theorem BufferHeld.push (hok : WindowOk cfg.info .h2t) {buff : Nat}
    (h : BufferHeld ip before done p rest buff s) :
    ∃ s', pushOrLoopbackH2t io p.header buff (recvH2tPayload io cfg buff
        p.header.dataLenBytes.toNat (s.setH2tWaiting false)).2 = (.ok, s') ∧
      Delivery ip before (done ++ [p]) rest s' := by
  obtain ⟨live, lost, hg⟩ := h.granted
  obtain ⟨descs, hcom, hall⟩ := h.committed
  obtain ⟨hend, hsz⟩ := hg.bounds
  have hlen : p.payload.length = p.header.dataLenBytes.toNat := p.len_eq
  have hrecv : Received ip p.header.dataLenBytes.toNat (s.setH2tWaiting false)
      (recvH2tPayload io cfg buff p.header.dataLenBytes.toNat (s.setH2tWaiting false)).2 := by
    refine recvH2tPayload_received hok ?_ p.header.dataLenBytes.toNat_lt hg.base_le hend
      ((le_getAlignedSz _).trans hsz)
    rw [Srv.setH2tWaiting_client, h.pending, List.length_append, hlen]
    exact Nat.le_add_right _ _
  have hframe := recvH2tPayload_frame io cfg buff p.header.dataLenBytes.toNat
    (s.setH2tWaiting false)
  generalize (recvH2tPayload io cfg buff p.header.dataLenBytes.toNat (s.setH2tWaiting false)).2 = s1
    at hrecv hframe ⊢
  have hnormal : s1.conn.loopbackMode = false := by rw [hframe.conn]; exact h.normal
  have hg1 : Granted cfg.info ip.toQueueIp s1.drv.h2t s1.dev live lost p.header.dataLenBytes.toNat buff := by
    rw [hframe.drv]
    exact hg.proceeds hrecv.proceeds.1
  obtain ⟨r', d', hpush, hring, hcom2⟩ := hg1.pushOrLoopback hok hnormal
  refine ⟨_, hpush, ⟨hnormal, ⟨_, _, hring⟩, ?_, ?_⟩, ?_⟩
  · exact hrecv.flowing h.flowing
  · refine ⟨descs ++ [Channel.h2t.descriptor p.header buff], ?_, ?_⟩
    · refine hcom2.trans ?_
      rw [hrecv.proceeds.2, ← List.append_assoc]
      exact congrArg (· ++ _) hcom
    · exact List.rel_append hall (.cons (carries_descriptor p buff) .nil)
  · have hwait : s1.conn.h2tWaiting = false := by rw [hframe.conn]; rfl
    have hpend := hrecv.pending
    rw [Srv.setH2tWaiting_client, h.pending, List.drop_append_of_le_length hlen.ge,
      List.drop_of_length_le hlen.le, List.nil_append] at hpend
    simp only [ToCome, Srv.record, hwait, Bool.false_eq_true, if_false]
    exact hpend

/-- Every call of `process_h2t_data` returns, and pushes at most the next packet. It only fails when
the stream is used up. -/
theorem Delivery.process (hok : WindowOk cfg.info .h2t) (h : Delivery ip before done rest s) :
    ∃ rc s', processH2tData io cfg s = some (rc, s') ∧ (rc ≠ .ok → rest = []) ∧
      ∃ now rest', rest = now ++ rest' ∧ Delivery ip before (done ++ now) rest' s' := by
  rcases h.header with ⟨s1, hhead, p, rest', rfl, hheld⟩ | ⟨s1, hhead, rfl, hdel⟩
  · obtain ⟨buff, s2, hpoll, hcases⟩ := hheld.poll
    have hheader : headerOf s1.conn.h2tHeaderBuff = p.header := by rw [hheld.head]; rfl
    rw [← hheader] at hpoll
    rcases hcases with ⟨rfl, hheld2⟩ | ⟨hne, hbuff⟩
    · refine ⟨.ok, s2.setH2tWaiting true, ?_, fun hf => absurd rfl hf, [], p :: rest', rfl, ?_⟩
      · simp only [processH2tData, hhead, hpoll, if_true, Option.map_some, ne_eq, not_true_eq_false,
          if_false]
      · rw [List.append_nil]
        exact ⟨⟨hheld2.normal, hheld2.ring, hheld2.flowing, hheld2.committed⟩, p, rest', rfl,
          hheld2.head, hheld2.pending⟩
    · obtain ⟨s3, hpush, hdel⟩ := hbuff.push hok
      refine ⟨.ok, s3, ?_, fun hf => absurd rfl hf, [p], rest', rfl, hdel⟩
      rw [← hheader] at hpush
      simp only [processH2tData, hhead, hpoll, if_true, Option.map_some, hne, ne_eq,
        not_false_eq_true, recvH2tPayload_ok, hpush]
  · refine ⟨.failure, s1, ?_, fun _ => rfl, [], [], rfl, by rwa [List.append_nil]⟩
    simp [processH2tData, hhead]

theorem Delivery.hardware (h : Delivery ip before done rest s) {d : D}
    (hproc : ip.Proceeds s.dev d) : Delivery ip before done rest { s with dev := d } := by
  obtain ⟨live, lost, hring⟩ := h.ring
  obtain ⟨descs, hcom, hall⟩ := h.committed
  exact ⟨⟨h.normal, ⟨live, lost, hring.proceeds hproc.1⟩, h.flowing, descs,
    hproc.2.trans hcom, hall⟩, h.toCome⟩

/-- A session that has just been set up, with the packets to come from a socket that does not fail
before they are used up. -/
structure H2tStart (io : Mmio D) (cfg : Config) (packets : List H2tPacket) (s : Srv D) : Prop where
  init : ∃ drv0 d0, initDriver io cfg.info drv0 d0 = (0, s.drv, s.dev)
  normal : s.conn.loopbackMode = false
  notWaiting : s.conn.h2tWaiting = false
  flowing : Flowing (s.client .h2tData).rx
  pending : pending (s.client .h2tData).rx = stream packets

theorem H2tStart.delivery (hok : WindowOk cfg.info .h2t) {packets : List H2tPacket}
    (h : H2tStart io cfg packets s) :
    Delivery ip (ip.committed s.dev) [] packets s := by
  obtain ⟨drv0, d0, hinit⟩ := h.init
  rcases initDriver_cases ip hinit with ⟨hne, -⟩ | ⟨-, -, hidle, hring⟩
  · exact absurd rfl hne
  · have hinv : RingInv cfg.info ip.toQueueIp s.drv.h2t s.dev [] 0 := by
      have heq : s.drv.h2t = _ := hring
      rw [heq]
      exact ringInv_init hok hidle
    refine ⟨⟨h.normal, ⟨_, _, hinv⟩, h.flowing, [], (List.append_nil _).symm, .nil⟩, ?_⟩
    rw [ToCome, h.notWaiting, if_neg Bool.false_ne_true]
    exact h.pending

/-- The header that is held back while the packet waits for a buffer. -/
def heldHeader (s : Srv D) : List UInt8 :=
  if s.conn.h2tWaiting then s.conn.h2tHeaderBuff.bytes else []

/-- What has been consumed of the stream are the packets pushed and the header held back. -/
theorem Delivery.consumed (h : Delivery ip before done rest s) :
    stream (done ++ rest) = stream done ++ heldHeader s ++ pending (s.client .h2tData).rx ∧
      (s.conn.h2tWaiting = true → ∃ p rest', rest = p :: rest' ∧ s.conn.h2tHeaderBuff = p.head) := by
  have hto := h.toCome
  unfold ToCome at hto
  unfold heldHeader
  cases hwait : s.conn.h2tWaiting with
  | true =>
    rw [hwait, if_pos rfl] at hto
    obtain ⟨p, rest', hrest, hhead, hpend⟩ := hto
    refine ⟨?_, fun _ => ⟨p, rest', hrest, hhead⟩⟩
    rw [if_pos rfl, hpend, hhead, hrest, List.append_assoc, ← stream_cons]
    exact List.flatMap_append
  | false =>
    rw [hwait, if_neg Bool.false_ne_true] at hto
    refine ⟨?_, fun hf => nomatch hf⟩
    rw [if_neg Bool.false_ne_true, hto, List.append_nil]
    exact List.flatMap_append

/-- **H2T delivery**: whatever calls and completions have happened, the descriptors pushed in the
session are those of the first packets of the stream, in order and once each. The bytes consumed are
those packets and the header held back, if any. The next call returns, and only fails when the stream
is used up. -/
theorem h2t_delivery (ip : ChannelIp io cfg.info .h2t) (hok : WindowOk cfg.info .h2t)
    (packets : List H2tPacket) {s0 : Srv D} (hstart : H2tStart io cfg packets s0)
    (hrun : Reach (H2tStep cfg ip) always s0 s) :
    ∃ done rest, packets = done ++ rest ∧
      (∃ descs, ip.committed s.dev = ip.committed s0.dev ++ descs ∧
        List.Forall₂ Carries done descs) ∧
      stream packets = stream done ++ heldHeader s ++ pending (s.client .h2tData).rx ∧
      (s.conn.h2tWaiting = true → ∃ p rest', rest = p :: rest' ∧ s.conn.h2tHeaderBuff = p.head) ∧
      ∃ rc s', processH2tData io cfg s = some (rc, s') ∧ (rc ≠ .ok → rest = []) := by
  have hinv : ∃ done rest, packets = done ++ rest ∧
      Delivery ip (ip.committed s0.dev) done rest s := by
    refine hrun.invariant (fun s => ∃ done rest, packets = done ++ rest ∧
      Delivery ip (ip.committed s0.dev) done rest s) ?_
      ⟨[], packets, rfl, hstart.delivery hok⟩
    rintro s a s' ⟨done, rest, rfl, hdel⟩ - hstep
    cases hstep with
    | process hcall =>
      obtain ⟨rc, s'', hproc, -, now, rest', rfl, hdel'⟩ := hdel.process hok
      obtain ⟨-, rfl⟩ := Prod.mk.inj (Option.some.inj (hcall.symm.trans hproc))
      exact ⟨done ++ now, rest', (List.append_assoc _ _ _).symm, hdel'⟩
    | hardware hproc => exact ⟨done, rest, rfl, hdel.hardware hproc⟩
  obtain ⟨done, rest, rfl, hdel⟩ := hinv
  obtain ⟨rc, s', hproc, hfail, -⟩ := hdel.process hok
  exact ⟨done, rest, rfl, hdel.committed, hdel.consumed.1, hdel.consumed.2, rc, s', hproc, hfail⟩

/-- The server behind a call of `process_h2t_data`. -/
def DebugIp.processed (s : Srv DebugIp) : Srv DebugIp :=
  ((processH2tData debugIp DebugIp.design s).getD (.failure, s)).2

theorem DebugIp.processed_step {s : Srv DebugIp}
    (h : (processH2tData debugIp DebugIp.design s).isSome) :
    H2tStep DebugIp.design DebugIp.h2tIp s .process (DebugIp.processed s) := by
  obtain ⟨⟨rc, s'⟩, hs'⟩ := Option.isSome_iff_exists.mp h
  exact .process (by rw [DebugIp.processed, hs']; rfl)

/-- Two packets of two bytes and one byte. -/
def twoPackets : List H2tPacket :=
  [⟨⟨packetGuardband ++ [1, 7, 2, 0, 2, 0], by decide⟩, [5, 6], by decide⟩,
    ⟨⟨packetGuardband ++ [2, 7, 2, 0, 1, 0], by decide⟩, [8], by decide⟩]

/-- The stream of the two packets arrives in three pieces, split inside the headers. -/
def DebugIp.twoPacketSession : Srv DebugIp :=
  DebugIp.session DebugIp.idle (DebugIp.only .h2tData (pieces [(stream twoPackets).take 7,
    ((stream twoPackets).drop 7).take 11, (stream twoPackets).drop 18])) fun _ => []

theorem h2t_delivery_two :
    ∃ done rest, twoPackets = done ++ rest ∧ List.Forall₂ Carries done
      ((DebugIp.processed (DebugIp.processed DebugIp.twoPacketSession)).dev.pushed .h2t) := by
  have hstart : H2tStart debugIp DebugIp.design twoPackets DebugIp.twoPacketSession :=
    ⟨⟨.static, DebugIp.idle, rfl⟩, rfl, rfl, flowing_pieces (by decide), by decide⟩
  have hrun : Reach (H2tStep DebugIp.design DebugIp.h2tIp) always DebugIp.twoPacketSession
      (DebugIp.processed (DebugIp.processed DebugIp.twoPacketSession)) :=
    (Reach.refl.tail trivial (DebugIp.processed_step rfl)).tail trivial
      (DebugIp.processed_step rfl)
  obtain ⟨done, rest, hsplit, ⟨descs, hcom, hall⟩, -⟩ :=
    h2t_delivery DebugIp.h2tIp ⟨by decide, by decide, by decide⟩ twoPackets hstart hrun
  have hpushed : (DebugIp.processed (DebugIp.processed DebugIp.twoPacketSession)).dev.pushed .h2t
      = descs := hcom
  exact ⟨done, rest, hsplit, hpushed ▸ hall⟩

end RemoteDebug
