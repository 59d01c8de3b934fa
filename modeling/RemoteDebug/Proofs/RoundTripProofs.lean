import RemoteDebug.Hardware.LoopbackIp
import RemoteDebug.Proofs.InsideProofs
import RemoteDebug.Proofs.LoopbackProofs

/-!
# Proofs: packets that come back

Every packet of the stream is in one place: sent back, looped inside the IP, stored in the window with its
descriptor uncompleted, or still to come from the socket.
-/

namespace RemoteDebug

open Bytes Cyclic Runs Script

variable {D : Type} {io : Mmio D} {cfg : Config} {ip : LoopIp io cfg.info} {s s' : Srv D} {d d' : D}
  {packets out held rest : List H2tPacket} {p : H2tPacket}

/-! ## H2T packets -/

/-- A push in normal operation. -/
theorem pushOrLoopbackH2t_dev (header : H2tPacketHeader) {buff : Nat} (hbuff : buff < 2 ^ 32)
    (hmode : s.conn.loopbackMode = false) :
    (pushOrLoopbackH2t io header buff s).2.dev = Channel.h2t.pushWrites io header buff s.dev := by
  unfold pushOrLoopbackH2t
  rw [if_pos hmode, Nat.mod_eq_of_lt hbuff]
  rfl

/-- **A packet that is pushed** is held by the IP from then on. -/
theorem BufferHeld.push_holds (hwin : WindowAligned cfg.info) {before : List Descriptor} {buff : Nat}
    (h : BufferHeld ip.h2t before packets p rest buff s) (hword : 8 ∣ buff) (hholds : ip.Holds held s.dev) :
    ip.Holds (held ++ [p]) (pushOrLoopbackH2t io p.header buff (recvH2tPayload io cfg buff
      p.header.dataLenBytes.toNat (s.setH2tWaiting false)).2).2.dev := by
  obtain ⟨live, lost, hg⟩ := h.granted
  obtain ⟨hend, hsz⟩ := hg.bounds
  have hbelow := hwin.below
  have hbase : cfg.info.h2tMemBaseAddr ≤ buff := hg.base_le
  have hend' : buff < cfg.info.h2tMemBaseAddr + cfg.info.h2tMemSz := hend
  have h16 := p.header.dataLenBytes.toNat_lt
  have hlen : p.payload.length = p.header.dataLenBytes.toNat := p.len_eq
  have hpend : (Script.pending ((s.setH2tWaiting false).client .h2tData).rx).take
      p.header.dataLenBytes.toNat = p.payload := by
    rw [Srv.setH2tWaiting_client, h.pending, ← hlen, List.take_left' rfl]
  obtain ⟨hkept, hsuffix⟩ := recvH2tPayload_holds (s := s.setH2tWaiting false) hwin h16
    ⟨hbase, hend', hword, hsz⟩ hg.free hholds
  have hland := recvH2tPayload_lands (s := s.setH2tWaiting false) ip.memory.toWindowMemory hwin
    (by rw [Srv.setH2tWaiting_client, h.pending, List.length_append]; omega) h16 hbase hend' hword hsz
  have hframe := recvH2tPayload_frame io cfg buff p.header.dataLenBytes.toNat (s.setH2tWaiting false)
  rw [hpend] at hland
  generalize (recvH2tPayload io cfg buff p.header.dataLenBytes.toNat (s.setH2tWaiting false)).2 = s₁
    at hkept hsuffix hland hframe ⊢
  have hmode : s₁.conn.loopbackMode = false := by
    rw [hframe.conn]
    exact h.normal
  have hroom : (ip.h2t.uncompleted s₁.dev).length < ip.h2t.depth :=
    hsuffix.length_le.trans_lt (hg.uncompleted.length_le.trans_lt hg.slot)
  rw [pushOrLoopbackH2t_dev p.header (by omega) hmode]
  have hmem := ip.memory.push (howlongWhere p.header buff) (connidChannelpush p.header) s₁.dev
  obtain ⟨back, live, rfl, hback, hlive⟩ := hkept
  have hnew : Stored cfg.info (ip.mem s₁.dev) p (Channel.h2t.descriptor p.header buff) := by
    refine ⟨⟨buff, rfl⟩, ?_⟩
    intro i hi
    unfold Descriptor.byteAddr
    rw [descriptor_addr]
    exact hland.stored i hi
  rw [List.append_assoc]
  refine Loops.holds (ip.push _ _ s₁.dev hroom) hback (List.rel_append hlive (.cons hnew .nil)) ?_
  intro x _ i _
  exact congrFun hmem _

/-- What of the T2H channel a packet on the H2T channel leaves alone. -/
structure T2hFrame (s s' : Srv D) : Prop where
  sop : s'.drv.t2hSop = s.drv.t2hSop
  buff : s'.conn.t2hHeaderBuff = s.conn.t2hHeaderBuff
  wire : wire s'.log = wire s.log

theorem T2hFrame.trans {s'' : Srv D} (h : T2hFrame s s') (h' : T2hFrame s' s'') : T2hFrame s s'' :=
  ⟨h'.sop.trans h.sop, h'.buff.trans h.buff, h'.wire.trans h.wire⟩

theorem updateCurrH2tHeader_t2h (s : Srv D) : T2hFrame s (updateCurrH2tHeader s).2 := by
  unfold updateCurrH2tHeader
  split
  · exact ⟨rfl, rfl, rfl⟩
  · exact ⟨rfl, rfl, rfl⟩

theorem updateCurrH2tHeader_mode (s : Srv D) :
    (updateCurrH2tHeader s).2.conn.loopbackMode = s.conn.loopbackMode := by
  unfold updateCurrH2tHeader
  split
  · rfl
  · rfl

theorem pollH2tBuffer_t2h {len buff : Nat} (h : pollH2tBuffer io cfg len s = some (buff, s')) :
    T2hFrame s s' := by
  obtain ⟨hconn, hlog, -⟩ := pollH2tBuffer_frame h
  refine ⟨?_, congrArg _ hconn, congrArg wire hlog⟩
  unfold pollH2tBuffer at h
  split at h
  · obtain ⟨x, hx, heq⟩ := Option.map_eq_some_iff.mp h
    obtain ⟨-, rfl⟩ := Prod.mk.inj heq
    obtain ⟨y, -, rfl⟩ := Option.map_eq_some_iff.mp hx
    rfl
  · obtain ⟨-, rfl⟩ := Prod.mk.inj (Option.some.inj h)
    rfl

theorem pushOrLoopbackH2t_sop (header : H2tPacketHeader) (buff : Nat)
    (hmode : s.conn.loopbackMode = false) :
    (pushOrLoopbackH2t io header buff s).2.drv.t2hSop = s.drv.t2hSop := by
  have hpush (r : DescriptorRing) (d : D) (e : Event) :
      (({ s with drv := { s.drv with h2t := r }, dev := d } : Srv D).record e).drv.t2hSop =
        s.drv.t2hSop := rfl
  unfold pushOrLoopbackH2t
  rw [if_pos hmode, pushH2tData_eq]
  exact hpush _ _ _

/-- **A call of `process_h2t_data`** in normal operation does not concern the T2H channel. -/
theorem processH2tData_t2h (hmode : s.conn.loopbackMode = false) {x : ReturnCode × Srv D}
    (hcall : processH2tData io cfg s = some x) : T2hFrame s x.2 := by
  have hhead := updateCurrH2tHeader_t2h s
  have hmode₁ := (updateCurrH2tHeader_mode s).trans hmode
  rcases processH2tData_cases hcall with ⟨rfl, -⟩ | ⟨s₁, buff, s₂, heq, hpoll, hcases⟩
  · exact hhead
  · rw [heq] at hhead hmode₁
    have hframe₂ := hhead.trans (pollH2tBuffer_t2h hpoll)
    rcases hcases with ⟨-, rfl⟩ | ⟨-, rfl⟩
    · exact hframe₂.trans ⟨rfl, rfl, rfl⟩
    · have hrecv := recvH2tPayload_frame io cfg buff (headerOf s₁.conn.h2tHeaderBuff).dataLenBytes.toNat
        (s₂.setH2tWaiting false)
      generalize (recvH2tPayload io cfg buff (headerOf s₁.conn.h2tHeaderBuff).dataLenBytes.toNat
        (s₂.setH2tWaiting false)).2 = s₃ at hrecv ⊢
      obtain ⟨evs, hlog, hstores⟩ := hrecv.log
      have hconn₃ : s₃.conn = (s₂.setH2tWaiting false).conn := hrecv.conn
      have hmode₃ : s₃.conn.loopbackMode = false := by
        rw [hconn₃, Srv.setH2tWaiting_loopbackMode, (pollH2tBuffer_frame hpoll).1]
        exact hmode₁
      obtain ⟨-, hpush⟩ := pushOrLoopbackH2t_push io (headerOf s₁.conn.h2tHeaderBuff) buff hmode₃
      refine hframe₂.trans ⟨?_, ?_, ?_⟩
      · exact (pushOrLoopbackH2t_sop _ buff hmode₃).trans (congrArg Driver.t2hSop hrecv.drv)
      · rw [pushOrLoopbackH2t_conn, hconn₃]
        rfl
      · rw [hpush, wire_append, hlog, wire_stores hstores]
        exact List.append_nil _

/-- The poll for a buffer in normal operation: a granted address is a multiple of 8. -/
theorem pollH2tBuffer_normal (hwin : WindowAligned cfg.info) {len buff : Nat}
    (haligned : RingAligned cfg.info.h2tMemSz s.drv.h2t) (hmode : s.conn.loopbackMode = false)
    (h : pollH2tBuffer io cfg len s = some (buff, s')) :
    8 ∣ buff ∧ s'.dev = (io.read32 stDbgIpH2tAvailableSlots s.dev).2 := by
  unfold pollH2tBuffer at h
  rw [if_pos hmode] at h
  obtain ⟨⟨addr, drv, d⟩, hget, heq⟩ := Option.map_eq_some_iff.mp h
  obtain ⟨rfl, rfl⟩ := Prod.mk.inj heq
  have hdev := getH2tBuffer_device hget
  obtain ⟨⟨addr, r, d⟩, hbuffer, heq⟩ := Option.map_eq_some_iff.mp hget
  obtain ⟨rfl, -⟩ := heq
  exact ⟨(haligned.get (.inl hwin.span) hbuffer).1, hdev⟩

/-- The packets `out` have been sent back and the packets `held` are inside the IP; `rest` are still to
come. -/
structure RoundTripInv (ip : LoopIp io cfg.info) (before : List Descriptor) (log0 : List Event)
    (out held rest : List H2tPacket) (s : Srv D) : Prop where
  delivery : Delivery ip.h2t before (out ++ held) rest s
  holds : ip.Holds held s.dev
  aligned : RingAligned cfg.info.h2tMemSz s.drv.h2t
  sop : s.drv.t2hSop = startsPacket (out.map H2tPacket.header)
  guardband : GuardbandSet s.conn.t2hHeaderBuff
  sent : wire s.log = wire log0 ++ out.flatMap fun p => wirePacket p.bytes

/-- **An H2T step** moves at most one packet, from the socket into the IP. -/
theorem RoundTripInv.h2t (hok : WindowOk cfg.info .h2t) (hwin : WindowAligned cfg.info)
    {before : List Descriptor} {log0 : List Event} (h : RoundTripInv ip before log0 out held rest s)
    {x : ReturnCode × Srv D} (hcall : processH2tData io cfg s = some x) :
    ∃ now rest', rest = now ++ rest' ∧ RoundTripInv ip before log0 out (held ++ now) rest' x.2 := by
  have hframe := processH2tData_t2h h.delivery.normal hcall
  have haligned := h.aligned.h2t (.inl hwin.span) hcall
  have hmoved : ∀ now rest', rest = now ++ rest' →
      Delivery ip.h2t before (out ++ held ++ now) rest' x.2 → ip.Holds (held ++ now) x.2.dev →
      ∃ now rest', rest = now ++ rest' ∧
        RoundTripInv ip before log0 out (held ++ now) rest' x.2 := by
    intro now rest' hrest hdelivery hholds
    refine ⟨now, rest', hrest, ?_, hholds, haligned, ?_, ?_, ?_⟩
    · rwa [List.append_assoc] at hdelivery
    · rw [hframe.sop, h.sop]
    · rw [hframe.buff]
      exact h.guardband
    · rw [hframe.wire, h.sent]
  have hdev := (updateCurrH2tHeader_device s).2
  have hdrv := (updateCurrH2tHeader_device s).1
  rcases h.delivery.header with ⟨s₁, hhead, p, rest', rfl, hheld⟩ | ⟨s₁, hhead, rfl, hdel⟩
  · rw [hhead] at hdev hdrv
    obtain ⟨buff, s₂, hpoll, hcases⟩ := hheld.poll
    obtain ⟨hword, hdev₂⟩ := pollH2tBuffer_normal hwin (hdrv ▸ h.aligned) hheld.normal hpoll
    have hholds₂ : ip.Holds held s₂.dev := by
      rw [hdev₂, hdev]
      exact h.holds.quiet (ip.slots s.dev) (ip.memory.slots s.dev)
    have hheader : headerOf s₁.conn.h2tHeaderBuff = p.header := by
      rw [hheld.head]
      rfl
    rw [← hheader] at hpoll
    rcases hcases with ⟨rfl, hheld₂⟩ | ⟨hne, hbuff⟩
    · obtain rfl : x = (.ok, s₂.setH2tWaiting true) := by
        unfold processH2tData at hcall
        rw [hhead] at hcall
        dsimp only at hcall
        rw [if_pos rfl, hpoll] at hcall
        exact (Option.some.inj hcall).symm
      refine hmoved [] (p :: rest') rfl ?_ ?_
      · rw [List.append_nil]
        exact ⟨⟨hheld₂.normal, hheld₂.ring, hheld₂.flowing, hheld₂.committed⟩, p, rest', rfl,
          hheld₂.head, hheld₂.pending⟩
      · rw [List.append_nil]
        exact hholds₂
    · obtain ⟨s₃, hpush, hdel⟩ := hbuff.push hok
      have hholds₃ := hbuff.push_holds hwin hword hholds₂
      rw [hpush] at hholds₃
      obtain rfl : x = (.ok, s₃) := by
        unfold processH2tData at hcall
        rw [hhead] at hcall
        dsimp only at hcall
        rw [if_pos rfl, hpoll, Option.map_some, hheader] at hcall
        dsimp only at hcall
        rw [if_pos hne, recvH2tPayload_ok, if_pos rfl, hpush] at hcall
        exact (Option.some.inj hcall).symm
      exact hmoved [p] rest' rfl hdel hholds₃
  · rw [hhead] at hdev
    obtain rfl : x = (.failure, s₁) := by
      unfold processH2tData at hcall
      rw [hhead] at hcall
      dsimp only at hcall
      rw [if_neg (by decide)] at hcall
      exact (Option.some.inj hcall).symm
    refine hmoved [] [] rfl ?_ ?_
    · rw [List.append_nil]
      exact hdel
    · rw [List.append_nil, hdev]
      exact h.holds

/-! ## T2H packets -/

theorem byteAt_le16 (lo hi : UInt8) :
    byteAt (le16 lo hi).toNat 0 = lo ∧ byteAt (le16 lo hi).toNat 1 = hi := by
  have hlo := lo.toNat_lt
  have hhi := hi.toNat_lt
  constructor
  · apply UInt8.toNat_inj.mp
    simp only [byteAt, le16, UInt8.toNat_ofNat', UInt16.toNat_ofNat']
    omega
  · apply UInt8.toNat_inj.mp
    simp only [byteAt, le16, UInt8.toNat_ofNat', UInt16.toNat_ofNat']
    omega

/-- The header bytes of a buffer are those of its header. -/
theorem headerOf_toBytes (b : HeaderBuff) : (headerOf b).toBytes = b.bytes.drop 4 := by
  have hsize := b.size
  have hget : ∀ i (h : i < b.bytes.length), b.get i = b.bytes[i] := by
    intro i h
    exact List.getD_eq_getElem _ _ h
  unfold headerOf H2tPacketHeader.toBytes
  simp only [(byteAt_le16 _ _).1, (byteAt_le16 _ _).2]
  refine List.ext_getElem (by simp [hsize]) ?_
  intro i hi _
  rw [List.getElem_drop]
  have hlt : i < 6 := hi
  interval_cases i
  · exact hget 4 _
  · exact hget 5 _
  · exact hget 6 _
  · exact hget 7 _
  · exact hget 8 _
  · exact hget 9 _

theorem GuardbandSet.bytes_eq {b : HeaderBuff} (h : GuardbandSet b) :
    b.bytes = packetGuardband ++ (headerOf b).toBytes := by
  rw [headerOf_toBytes, ← (h : b.bytes.take 4 = packetGuardband), List.take_append_drop]

/-- A call that finds nothing on the T2H channel. -/
theorem processT2hData_empty (h : (frontT2h io s.dev).howLong = 0) :
    ∃ header, processT2hData io cfg s = (.ok, { s with
      conn := { s.conn with t2hHeaderBuff := putHeader s.conn.t2hHeaderBuff header }
      dev := (io.read64 stDbgIpT2hHowLong s.dev).2 }) := by
  obtain ⟨header, hget⟩ := getT2hData_empty cfg.info (headerOf s.conn.t2hHeaderBuff) s.drv
    (by rw [h, Nat.zero_mod])
  refine ⟨header, ?_⟩
  unfold processT2hData
  rw [hget]

/-- A successful call that finds a packet: `s₁` is the state behind its header. -/
theorem processT2hData_ok {header : H2tPacketHeader} {buff : Nat} {drv : Driver}
    (hget : getT2hData io cfg.info (headerOf s.conn.t2hHeaderBuff) s.drv s.dev =
      (header, some buff, drv, d)) (hcall : processT2hData io cfg s = (.ok, s')) :
    ∃ s₁ : Srv D, s₁.dev = d ∧
      s'.dev = t2hDataComplete io (sendT2hPayload io cfg buff header.dataLenBytes.toNat s₁).2.dev ∧
      s'.conn = { s.conn with t2hHeaderBuff := putHeader s.conn.t2hHeaderBuff header } ∧
      s'.drv = drv ∧ (s'.client .h2tData) = s.client .h2tData := by
  unfold processT2hData at hcall
  rw [hget] at hcall
  dsimp only at hcall
  have hframe := sendAll_frame io .t2hData (putHeader s.conn.t2hHeaderBuff header).bytes { s with
    conn := { s.conn with t2hHeaderBuff := putHeader s.conn.t2hHeaderBuff header }
    drv := drv
    dev := d }
  have hdev : (Srv.sendAll { s with
    conn := { s.conn with t2hHeaderBuff := putHeader s.conn.t2hHeaderBuff header }
    drv := drv
    dev := d } .t2hData (putHeader s.conn.t2hHeaderBuff header).bytes).2.dev = d := rfl
  generalize Srv.sendAll { s with
    conn := { s.conn with t2hHeaderBuff := putHeader s.conn.t2hHeaderBuff header }
    drv := drv
    dev := d } .t2hData (putHeader s.conn.t2hHeaderBuff header).bytes = y at hcall hframe hdev
  have hframe' := hframe.trans
    (sendT2hPayload_sendFrame io cfg buff header.dataLenBytes.toNat y.2)
  split at hcall
  · split at hcall
    · obtain ⟨-, rfl⟩ := Prod.mk.inj hcall
      exact ⟨y.2, hdev, rfl, hframe'.conn, hframe'.drv, hframe'.client .h2tData (by decide)⟩
    · next hz =>
      rw [hcall] at hz
      exact absurd rfl hz
  · next hy =>
    rw [hcall] at hy
    exact absurd rfl hy

/-- The call takes the packet `p` from the T2H channel, `off` bytes behind the start of the window. -/
structure Takes (ip : LoopIp io cfg.info) (p : H2tPacket) (held : List H2tPacket) (s : Srv D) (off : Nat)
    (drv : Driver) (d : D) : Prop where
  get : getT2hData io cfg.info (headerOf s.conn.t2hHeaderBuff) s.drv s.dev =
    (p.header, some (cfg.info.t2hMemBaseAddr + off), drv, d)
  presented : ip.t2h.presented s = [p.bytes]
  sop : drv.t2hSop = p.header.eop
  ring : drv.h2t = s.drv.h2t
  holds : ip.Holds held d
  valid : ValidFront io cfg.info s.dev
  off_lt : off < cfg.info.t2hMemSz
  length_le : p.header.dataLenBytes.toNat ≤ cfg.info.t2hMemSz

/-- **The next packet** of a well-framed stream comes back as it was. -/
theorem RoundTripInv.front (hwin : T2hWindowOk cfg.info) {before : List Descriptor} {log0 : List Event}
    (h : RoundTripInv ip before log0 out held rest s)
    (hframed : WellFramed ((out ++ held).map H2tPacket.header))
    (hguard : ∀ p ∈ held, GuardbandSet p.head) :
    (frontT2h io s.dev).howLong = 0 ∨
      ∃ p held' off drv d, held = p :: held' ∧ Takes ip p held' s off drv d := by
  by_cases hzero : (frontT2h io s.dev).howLong = 0
  · exact .inl hzero
  right
  obtain ⟨l, more, hlooped, hwords, hpush, hle, hlt, hpayload⟩ := (ip.front s.dev).resolve_left hzero
  obtain ⟨hloops, hmem⟩ := ip.howLong s.dev
  have hholds := h.holds.quiet hloops hmem
  obtain ⟨hloops', hmem'⟩ := ip.advance (io.read64 stDbgIpT2hHowLong s.dev).2
  generalize hd : (io.read64 stDbgIpT2hHowLong s.dev).2 = d₁ at hlooped hloops' hmem' hholds
  obtain ⟨back, live, rfl, hback, hlive⟩ := hholds
  rw [hlooped] at hback hloops'
  obtain ⟨p, back, hp, hmore, rfl⟩ := List.forall₂_cons_right_iff.mp hback
  have hmember : p ∈ p :: back ++ live := by simp
  have hheader : p.header ∈ (out ++ (p :: back ++ live)).map H2tPacket.header := by simp
  obtain ⟨addr, hdesc⟩ := hp.descriptor
  have hhowlong : (frontT2h io s.dev).howlongWhere % 2 ^ 32 = howlongWhere p.header addr % 2 ^ 32 := by
    rw [hwords, hdesc]
    rfl
  have hconnid : (frontT2h io s.dev).pushWord = connidChannelpush p.header := by
    rw [hpush, hdesc]
    rfl
  have hsop : s.drv.t2hSop = p.header.sop := by
    refine h.sop.trans (hframed.sop _ _ ((back ++ live).map H2tPacket.header) ?_).symm
    simp
  obtain ⟨hpushed, heop⟩ := getT2hData_pushed io cfg.info hhowlong hconnid (hframed.nonempty _ hheader)
    (hframed.flags _ hheader) hsop (headerOf s.conn.t2hHeaderBuff)
  have hlen : (frontT2h io s.dev).howLong = p.payload.length := by
    rw [← hp.payload, ← hpayload]
    simp [T2hIp.payload]
  have h16 : (frontT2h io s.dev).howLong < 2 ^ 16 := by
    rw [hlen, p.len_eq]
    exact UInt16.toNat_lt _
  obtain ⟨header, sop, hget, -⟩ :=
    getT2hData_data cfg.info (headerOf s.conn.t2hHeaderBuff) s.drv (by rwa [Nat.mod_eq_of_lt h16])
  have hbelow : cfg.info.t2hMemBaseAddr + cfg.info.t2hMemSz ≤ 2 ^ 31 := hwin
  have haddr : ((frontT2h io s.dev).addr % 2 ^ 32 + cfg.info.t2hMemBaseAddr) % 2 ^ 32 =
      cfg.info.t2hMemBaseAddr + (frontT2h io s.dev).addr := by
    omega
  rw [hget] at hpushed heop
  dsimp only at hpushed heop
  rw [hpushed, haddr, hd] at hget
  refine ⟨p, back ++ live, (frontT2h io s.dev).addr, _, _, rfl, hget, ?_, heop, rfl, ?_,
    .inr ⟨h16, hle, hlt⟩, hlt, ?_⟩
  · unfold T2hIp.presented
    rw [if_neg hzero, hget, hpayload, hp.payload]
    have hbytes := (hguard p hmember).bytes_eq
    exact congrArg (fun head => [head ++ p.payload]) hbytes.symm
  · refine Loops.holds hloops' hmore hlive ?_
    intro x _ i _
    exact congrFun hmem' _
  · exact (hlen.trans p.len_eq).ge.trans hle

theorem RoundTripInv.validFront (hwin : T2hWindowOk cfg.info) {before : List Descriptor}
    {log0 : List Event} (h : RoundTripInv ip before log0 out held rest s)
    (hframed : WellFramed ((out ++ held).map H2tPacket.header))
    (hguard : ∀ p ∈ held, GuardbandSet p.head) : ValidFront io cfg.info s.dev := by
  rcases h.front hwin hframed hguard with hzero | ⟨p, held', off, drv, d, -, htakes⟩
  · exact .inl hzero
  · exact htakes.valid

/-- What is on the H2T side does not change with a T2H packet. -/
theorem Delivery.t2h {before : List Descriptor} (h : Delivery ip.h2t before out rest s)
    (hproc : ip.h2t.Proceeds s.dev s'.dev) (hring : s'.drv.h2t = s.drv.h2t) {buff : HeaderBuff}
    (hconn : s'.conn = { s.conn with t2hHeaderBuff := buff })
    (hclient : s'.client .h2tData = s.client .h2tData) : Delivery ip.h2t before out rest s' := by
  obtain ⟨live, lost, hinv⟩ := h.ring
  obtain ⟨descs, hcom, hall⟩ := h.committed
  refine ⟨⟨?_, ⟨live, lost, ?_⟩, ?_, descs, hproc.2.trans hcom, hall⟩, ?_⟩
  · rw [hconn]
    exact h.normal
  · rw [hring]
    exact hinv.proceeds hproc.1
  · rw [hclient]
    exact h.flowing
  · have hto := h.toCome
    unfold ToCome at hto ⊢
    rw [hconn, hclient]
    exact hto

/-- **A T2H step** moves at most one packet, from the IP to the socket. -/
theorem RoundTripInv.t2h (hwin : T2hWindowOk cfg.info) {before : List Descriptor} {log0 : List Event}
    (h : RoundTripInv ip before log0 out held rest s)
    (hframed : WellFramed ((out ++ held).map H2tPacket.header))
    (hguard : ∀ p ∈ held, GuardbandSet p.head)
    (hcall : processT2hData io cfg s = (.ok, s')) :
    ∃ now held', held = now ++ held' ∧ RoundTripInv ip before log0 (out ++ now) held' rest s' := by
  have houtcome := processT2hData_outcome hwin ip.t2h s h.guardband (h.validFront hwin hframed hguard)
  obtain ⟨hring, hproc⟩ := t2h_frame ip.h2t s
  rw [hcall] at houtcome hring hproc
  have hguardband := houtcome.guardband
  have hwire := (houtcome.outcome.resolve_right fun hf => by cases hf.1).2
  rcases h.front hwin hframed hguard with hzero | ⟨p, held', off, drv, d, rfl, htakes⟩
  · obtain ⟨header, hempty⟩ : ∃ header, processT2hData io cfg s = (.ok, { s with
        conn := { s.conn with t2hHeaderBuff := putHeader s.conn.t2hHeaderBuff header }
        dev := (io.read64 stDbgIpT2hHowLong s.dev).2 }) := processT2hData_empty hzero
    obtain ⟨-, rfl⟩ := Prod.mk.inj (hcall.symm.trans hempty)
    obtain ⟨hloops, hmem⟩ := ip.howLong s.dev
    refine ⟨[], held, rfl, ?_⟩
    rw [List.append_nil]
    refine ⟨h.delivery.t2h hproc hring rfl rfl, h.holds.quiet hloops hmem, h.aligned, h.sop,
      hguardband, ?_⟩
    rw [hwire, T2hIp.presented, if_pos hzero, h.sent]
    exact List.append_nil _
  · obtain ⟨s₁, hdev₁, hdev, hconn, hdrv, hclient⟩ := processT2hData_ok htakes.get hcall
    have h16 := p.header.dataLenBytes.toNat_lt
    have hsent := sendT2hPayload_keeps ip hwin s₁ htakes.off_lt htakes.length_le h16 held'
      (hdev₁ ▸ htakes.holds)
    obtain ⟨hloops, hmem⟩ := ip.done
      (sendT2hPayload io cfg (cfg.info.t2hMemBaseAddr + off) p.header.dataLenBytes.toNat s₁).2.dev
    refine ⟨[p], held', rfl, ?_, ?_, ?_, ?_, hguardband, ?_⟩
    · have hdelivery := h.delivery.t2h hproc hring hconn hclient
      rwa [List.append_assoc]
    · rw [hdev]
      exact hsent.quiet hloops hmem
    · rw [hring]
      exact h.aligned
    · rw [hdrv, htakes.sop, List.map_append]
      exact (startsPacket_append _ _).symm
    · rw [hwire, htakes.presented, h.sent, List.flatMap_append, List.append_assoc]
      rfl

/-! ## Runs -/

/-- A session that has just been set up, with the packets to come from the H2T socket and nothing in the
IP. -/
structure RoundTripStart {io : Mmio D} {cfg : Config} (ip : LoopIp io cfg.info) (packets : List H2tPacket)
    (s : Srv D) : Prop where
  h2t : H2tStart io cfg packets s
  guardband : GuardbandSet s.conn.t2hHeaderBuff
  looped : ip.looped s.dev = []

theorem RoundTripStart.inv (hok : WindowOk cfg.info .h2t) (hwin : WindowAligned cfg.info)
    (h : RoundTripStart ip packets s) :
    RoundTripInv ip (ip.h2t.committed s.dev) s.log [] [] packets s := by
  have hpos : 0 < cfg.info.h2tMemSz := hok.span_pos
  have hdvd := hwin.span
  obtain ⟨drv0, d0, hinit⟩ := h.h2t.init
  rcases initDriver_cases ip.h2t hinit with ⟨hne, -⟩ | ⟨-, -, hidle, hring⟩
  · exact absurd rfl hne
  · have hring : s.drv.h2t = drv0.h2t.init ip.h2t.depth cfg.info.h2tMemBaseAddr cfg.info.h2tMemSz := hring
    refine ⟨h.h2t.delivery hok, ⟨[], [], rfl, ?_, ?_⟩, ?_, ?_, h.guardband, (List.append_nil _).symm⟩
    · rw [h.looped]
      exact .nil
    · rw [hidle]
      exact .nil
    · constructor
      · exact hring ▸ hwin.base
      · exact hring ▸ Nat.dvd_zero 8
      · intro _
        exact hring ▸ hwin.span
      · intro hsmall
        omega
    · have hflag := initDriver_sop io cfg.info drv0 d0 .t2h
      rw [hinit, if_pos rfl] at hflag
      exact hflag

theorem RoundTripInv.hardware {before : List Descriptor} {log0 : List Event}
    (h : RoundTripInv ip before log0 out held rest s) (hproc : ip.Proceeds s.dev d) :
    RoundTripInv ip before log0 out held rest { s with dev := d } := by
  obtain ⟨hdelivery, hholds, haligned, hsop, hguardband, hwire⟩ := h
  exact ⟨hdelivery.hardware hproc.h2t, hholds.quiet hproc.loops hproc.mem, haligned, hsop, hguardband,
    hwire⟩

/-- **A step** keeps the packets in their order. -/
theorem roundTripInv_step (hok : WindowOk cfg.info .h2t) (hwin : WindowAligned cfg.info)
    (ht2h : T2hWindowOk cfg.info) (hframed : WellFramed (packets.map H2tPacket.header))
    (hguard : ∀ p ∈ packets, GuardbandSet p.head) {before : List Descriptor} {log0 : List Event}
    {a : RoundTripAction} (hsplit : packets = out ++ held ++ rest)
    (h : RoundTripInv ip before log0 out held rest s) (hstep : RoundTripStep cfg ip s a s') :
    ∃ out held rest, packets = out ++ held ++ rest ∧ RoundTripInv ip before log0 out held rest s' := by
  subst hsplit
  cases hstep with
  | h2t hcall =>
    obtain ⟨now, rest', rfl, h'⟩ := h.h2t hok hwin hcall
    exact ⟨out, held ++ now, rest', by simp, h'⟩
  | t2h hcall =>
    rw [List.map_append] at hframed
    obtain ⟨now, held', rfl, h'⟩ := h.t2h ht2h hframed.prefix
      (fun p hp => hguard p (by simp [hp])) hcall
    exact ⟨out ++ now, held', rest, by simp, h'⟩
  | hardware hproc => exact ⟨out, held, rest, rfl, h.hardware hproc⟩

theorem reduceOption_some (bs : List UInt8) : (bs.map some).reduceOption = bs := by
  induction bs with
  | nil => rfl
  | cons b bs ih => rw [List.map_cons, List.reduceOption_cons_of_some, ih]

theorem reduceOption_wirePacket (packet : List UInt8) : (wirePacket packet).reduceOption = packet := by
  rw [wirePacket, List.reduceOption_append, reduceOption_some]
  exact List.append_nil _

theorem reduceOption_packets (packets : List H2tPacket) :
    (packets.flatMap fun p => wirePacket p.bytes).reduceOption = stream packets := by
  induction packets with
  | nil => rfl
  | cons p packets ih =>
    rw [List.flatMap_cons, List.reduceOption_append, ih, reduceOption_wirePacket]
    rfl

/-- What the next call sends, whether it succeeds or not, is the next part of the stream. -/
theorem RoundTripInv.sends (hwin : T2hWindowOk cfg.info) {before : List Descriptor} {log0 : List Event}
    (h : RoundTripInv ip before log0 out held rest s)
    (hframed : WellFramed ((out ++ held).map H2tPacket.header))
    (hguard : ∀ p ∈ held, GuardbandSet p.head) :
    ∃ bs, t2hBytes (processT2hData io cfg s).2.log = t2hBytes log0 ++ bs ∧
      bs <+: stream (out ++ held) := by
  have houtcome := (processT2hData_outcome hwin ip.t2h s h.guardband
    (h.validFront hwin hframed hguard)).outcome
  have hbytes : ∀ more, wire (processT2hData io cfg s).2.log = wire s.log ++ more →
      t2hBytes (processT2hData io cfg s).2.log =
        t2hBytes log0 ++ (stream out ++ more.reduceOption) := by
    intro more hwire
    unfold t2hBytes
    rw [hwire, h.sent, List.reduceOption_append, List.reduceOption_append, reduceOption_packets,
      List.append_assoc]
  have hstream : stream (out ++ held) = stream out ++ stream held := List.flatMap_append
  rcases h.front hwin hframed hguard with hzero | ⟨p, held', off, drv, d, rfl, htakes⟩
  · have hnone : ip.t2h.presented s = [] := if_pos hzero
    rw [hnone] at houtcome
    rcases houtcome with ⟨-, hwire⟩ | ⟨-, packet, sent, hpacket, -⟩
    · exact ⟨_, hbytes _ hwire, hstream ▸ (List.prefix_append_right_inj _).mpr (List.nil_prefix)⟩
    · cases hpacket
  · rw [htakes.presented] at houtcome
    have hnext : p.bytes <+: stream (p :: held') := List.prefix_append _ _
    rcases houtcome with ⟨-, hwire⟩ | ⟨-, packet, sent, hpacket, hprefix, -, hwire⟩
    · refine ⟨_, hbytes _ hwire, hstream ▸ (List.prefix_append_right_inj _).mpr ?_⟩
      rw [List.flatMap_singleton, reduceOption_wirePacket]
      exact hnext
    · obtain rfl := List.singleton_inj.mp hpacket
      refine ⟨_, hbytes _ hwire, hstream ▸ (List.prefix_append_right_inj _).mpr ?_⟩
      rw [reduceOption_some]
      exact hprefix.trans hnext

/-- **The hardware loopback**: whatever the order of the calls and of what the IP does, each packet of a
well-framed H2T stream is in one place. It has been sent back on the T2H socket as it came, it is looped
inside the IP, its descriptor is uncompleted, or it is still to come; the packets are in these places in
their order. What the T2H socket has carried behind the next call, even if that fails, is the beginning of
the H2T stream. -/
theorem hardware_loopback (hok : WindowOk cfg.info .h2t) (hwin : WindowAligned cfg.info)
    (ht2h : T2hWindowOk cfg.info) (ip : LoopIp io cfg.info) (packets : List H2tPacket)
    (hframed : WellFramed (packets.map H2tPacket.header)) (hguard : ∀ p ∈ packets, GuardbandSet p.head)
    {s0 : Srv D} (hstart : RoundTripStart ip packets s0)
    (hrun : Reach (RoundTripStep cfg ip) always s0 s) :
    (∃ out back live rest, packets = out ++ back ++ live ++ rest ∧
      wire s.log = wire s0.log ++ out.flatMap (fun p => wirePacket p.bytes) ∧
      List.Forall₂ Returned back (ip.looped s.dev) ∧
      List.Forall₂ (Stored cfg.info (ip.mem s.dev)) live (ip.h2t.uncompleted s.dev) ∧
      stream packets =
        stream (out ++ back ++ live) ++ heldHeader s ++ pending (s.client .h2tData).rx) ∧
    ∃ bs, t2hBytes (processT2hData io cfg s).2.log = t2hBytes s0.log ++ bs ∧ bs <+: stream packets := by
  have hinv : ∃ out held rest, packets = out ++ held ++ rest ∧
      RoundTripInv ip (ip.h2t.committed s0.dev) s0.log out held rest s := by
    refine hrun.invariant (fun s => ∃ out held rest, packets = out ++ held ++ rest ∧
      RoundTripInv ip (ip.h2t.committed s0.dev) s0.log out held rest s) ?_
      ⟨[], [], packets, rfl, hstart.inv hok hwin⟩
    rintro s a s' ⟨out, held, rest, hsplit, h⟩ - hstep
    exact roundTripInv_step hok hwin ht2h hframed hguard hsplit h hstep
  obtain ⟨out, held, rest, rfl, h⟩ := hinv
  constructor
  · obtain ⟨back, live, rfl, hback, hlive⟩ := h.holds
    refine ⟨out, back, live, rest, by simp, h.sent, hback, hlive, ?_⟩
    have hconsumed := h.delivery.consumed.1
    simp only [← List.append_assoc] at hconsumed ⊢
    exact hconsumed
  · rw [List.map_append] at hframed
    obtain ⟨bs, hbs, hprefix⟩ := h.sends ht2h hframed.prefix fun p hp => hguard p (by simp [hp])
    have hstream : stream (out ++ held ++ rest) = stream (out ++ held) ++ stream rest :=
      List.flatMap_append
    exact ⟨bs, hbs, hprefix.trans (hstream ▸ List.prefix_append _ _)⟩

theorem wellFramed_twoPackets : WellFramed (twoPackets.map H2tPacket.header) :=
  (wellFramed_nil.concat (by decide) (by decide) (by decide)).concat (by decide) (by decide)
    (by decide)

namespace LoopbackIp

/-- The server connected to a client that sends two packets in two pieces. -/
def connected : Srv LoopbackIp :=
  let x := initDriver loopbackIp DebugIp.design.info .static start
  { env := ⟨[], [], [], [], []⟩
    conn := serverConnStart
    client := fun sock => ⟨4, DebugIp.only .h2tData (pieces [(stream twoPackets).take 11,
      (stream twoPackets).drop 11]) sock, [], false⟩
    drv := x.2.1
    dev := x.2.2
    recvBuff := DebugIp.staging
    sendBuff := DebugIp.staging
    hostMem := fun _ => 0
    log := [] }

/-- The server behind `process_h2t_data`. -/
def received (s : Srv LoopbackIp) : Srv LoopbackIp :=
  ((processH2tData loopbackIp DebugIp.design s).getD (.failure, s)).2

/-- The IP loops its oldest packet back. -/
def looping (s : Srv LoopbackIp) : Srv LoopbackIp := { s with dev := s.dev.loop }

/-- Both packets have been pushed and looped back. -/
def bothLooped : Srv LoopbackIp := looping (looping (received (received connected)))

/-- The first one has been sent back. -/
def firstReturned : Srv LoopbackIp := (processT2hData loopbackIp DebugIp.design bothLooped).2

theorem step_received {s : Srv LoopbackIp} (h : (processH2tData loopbackIp DebugIp.design s).isSome) :
    RoundTripStep DebugIp.design contract s .h2t (received s) := by
  obtain ⟨x, hx⟩ := Option.isSome_iff_exists.mp h
  have hstep : RoundTripStep DebugIp.design contract s .h2t x.2 := .h2t hx
  unfold received
  rw [hx]
  exact hstep

theorem step_looping (s : Srv LoopbackIp) :
    RoundTripStep DebugIp.design contract s .hardware (looping s) := .hardware (loop_proceeds _)

theorem firstReturned_reach :
    Reach (RoundTripStep DebugIp.design contract) always connected firstReturned := by
  have hcalls : (processH2tData loopbackIp DebugIp.design connected).isSome ∧
      (processH2tData loopbackIp DebugIp.design (received connected)).isSome ∧
      (processT2hData loopbackIp DebugIp.design bothLooped).1 = .ok := by
    decide +kernel
  obtain ⟨hfirst, hsecond, hsent⟩ := hcalls
  have hpushed : Reach (RoundTripStep DebugIp.design contract) always connected
      (received (received connected)) :=
    (Reach.single trivial (step_received hfirst)).tail trivial (step_received hsecond)
  have hlooped : Reach (RoundTripStep DebugIp.design contract) always connected bothLooped :=
    (hpushed.tail trivial (step_looping _)).tail trivial (step_looping _)
  exact hlooped.tail (a := .t2h) trivial (.t2h (Prod.ext hsent rfl))

end LoopbackIp

/-- One packet is sent back, and the next call sends the other one behind it. -/
theorem hardware_loopback_two :
    t2hBytes (processT2hData loopbackIp DebugIp.design LoopbackIp.firstReturned).2.log
      = stream twoPackets := by
  have hok : WindowOk DebugIp.design.info .h2t := by
    constructor <;> decide
  have hwin : WindowAligned DebugIp.design.info := by
    constructor <;> decide
  have hstart : RoundTripStart LoopbackIp.contract twoPackets LoopbackIp.connected :=
    ⟨⟨⟨.static, .start, rfl⟩, rfl, rfl, flowing_pieces (by decide), by decide⟩, rfl, rfl⟩
  have hguard : ∀ p ∈ twoPackets, GuardbandSet p.head := by
    intro p hp
    simp only [twoPackets, List.mem_cons, List.not_mem_nil, or_false] at hp
    rcases hp with rfl | rfl
    · rfl
    · rfl
  have hlength : (t2hBytes (processT2hData loopbackIp DebugIp.design
      LoopbackIp.firstReturned).2.log).length = (stream twoPackets).length := by
    decide +kernel
  obtain ⟨bs, hbs, hprefix⟩ := (hardware_loopback hok hwin (by unfold T2hWindowOk; decide)
    LoopbackIp.contract twoPackets wellFramed_twoPackets hguard hstart
    LoopbackIp.firstReturned_reach).2
  have hnone : t2hBytes LoopbackIp.connected.log = [] := rfl
  rw [hnone, List.nil_append] at hbs
  rw [hbs] at hlength ⊢
  exact hprefix.eq_of_length hlength

end RemoteDebug
