import RemoteDebug.Hardware.LoopbackRun
import RemoteDebug.Hardware.DebugIp
import RemoteDebug.Proofs.ChannelProofs
import RemoteDebug.Proofs.FramingProofs

/-!
# Proofs: hardware loopback

One descriptor comes back as the header that was pushed if the SOP flag of the driver is the SOP bit of
that header. The flag follows the EOP bits of the headers, so that in a well-framed sequence it always
is.
-/

namespace RemoteDebug

open Runs

variable {D : Type} {io : Mmio D} {info : DesignInfo}

/-! ## One descriptor -/

/-- The flag byte is rebuilt from its two bits. -/
theorem sopEopOf_sop_eop {header : H2tPacketHeader} (h : header.sopEop.toNat < 4) :
    sopEopOf header.sop header.eop = header.sopEop := by
  unfold H2tPacketHeader.sop H2tPacketHeader.eop
  have hcases : header.sopEop = 0 ∨ header.sopEop = 1 ∨ header.sopEop = 2 ∨ header.sopEop = 3 := by
    simp only [← UInt8.toNat_inj]
    change header.sopEop.toNat = 0 ∨ header.sopEop.toNat = 1 ∨ header.sopEop.toNat = 2 ∨
      header.sopEop.toNat = 3
    omega
  rcases hcases with h | h | h | h <;> rw [h] <;> rfl

/-- The first word gives back the length and the flags. -/
theorem acquire_howlongWhere (base : Nat) {w payload : Nat} {header : H2tPacketHeader}
    (buff : H2tPacketHeader)
    (hw : w % 2 ^ 32 = howlongWhere header payload % 2 ^ 32) (hlen : header.dataLenBytes ≠ 0)
    (sop : Bool) :
    ∃ addr, acquire base w buff sop =
      ({ buff with
          dataLenBytes := header.dataLenBytes
          sopEop := sopEopOf sop header.eop }, some addr, header.eop) := by
  have hbits := header.dataLenBytes.toNat_lt
  have hword : w % 2 ^ 32 = header.dataLenBytes.toNat + if header.eop then 2 ^ 31 else 0 := by
    rw [hw, howlongWhere_eq]
    split <;> omega
  have hmask : w % 2 ^ 32 &&& stDbgIpHowLongMask = header.dataLenBytes.toNat := by
    rw [show stDbgIpHowLongMask = 2 ^ 31 - 1 from rfl, Nat.and_two_pow_sub_one_eq_mod, hword]
    split <;> omega
  have hlast : decide (w % 2 ^ 32 &&& stDbgIpLastDescriptorMask ≠ 0) = header.eop := by
    rw [Bool.eq_iff_iff, decide_eq_true_eq, last_of_mask]
    unfold lastSet
    cases heop : header.eop with
    | true =>
      rw [heop, if_pos rfl] at hword
      simp only [decide_eq_true_eq, iff_true]
      omega
    | false =>
      rw [heop, if_neg Bool.false_ne_true] at hword
      simp only [decide_eq_true_eq, Bool.false_eq_true, iff_false]
      omega
  unfold acquire
  simp only [hmask, UInt16.ofNat_toNat, if_neg hlen, hlast]
  exact ⟨_, rfl⟩

/-- The second word gives back the connection and the channel. -/
theorem connidChannelpush_split (header : H2tPacketHeader) :
    UInt8.ofNat (connidChannelpush header) = header.connId ∧
      UInt16.ofNat (connidChannelpush header / 2 ^ 32) = header.channel := by
  have hconn := header.connId.toNat_lt
  have hchannel := header.channel.toNat_lt
  have hword : connidChannelpush header = header.connId.toNat + header.channel.toNat * 2 ^ 32 :=
    or_shiftLeft _ (by omega)
  constructor
  · apply UInt8.toNat_inj.mp
    rw [UInt8.toNat_ofNat', hword]
    omega
  · apply UInt16.toNat_inj.mp
    rw [UInt16.toNat_ofNat', hword]
    omega

/-- **One descriptor**: `get_t2h_data` fills the header that was pushed. -/
theorem getT2hData_pushed (io : Mmio D) (info : DesignInfo) {header : H2tPacketHeader}
    {payload : Nat} {drv : Driver} {d : D}
    (hhowlong : (frontT2h io d).howlongWhere % 2 ^ 32 = howlongWhere header payload % 2 ^ 32)
    (hconnid : (frontT2h io d).pushWord = connidChannelpush header)
    (hlen : header.dataLenBytes ≠ 0) (hflags : header.sopEop.toNat < 4)
    (hsop : drv.t2hSop = header.sop) (buff : H2tPacketHeader) :
    (getT2hData io info buff drv d).1 = header ∧
      (getT2hData io info buff drv d).2.2.1.t2hSop = header.eop := by
  obtain ⟨addr, hacquire⟩ := acquire_howlongWhere info.t2hMemBaseAddr buff
    hhowlong hlen drv.t2hSop
  change acquire info.t2hMemBaseAddr (io.read64 stDbgIpT2hHowLong d).1 buff drv.t2hSop = _
    at hacquire
  change (io.read64 stDbgIpT2hConnectionId (io.read64 stDbgIpT2hHowLong d).2).1 = _ at hconnid
  obtain ⟨hconn, hchannel⟩ := connidChannelpush_split header
  rw [hsop, sopEopOf_sop_eop hflags] at hacquire
  unfold getT2hData
  dsimp only
  rw [hsop, hacquire]
  dsimp only
  rw [hconnid, hconn, hchannel]
  exact ⟨rfl, rfl⟩

/-! ## Sequences -/

theorem startsPacket_append (headers : List H2tPacketHeader) (header : H2tPacketHeader) :
    startsPacket (headers ++ [header]) = header.eop := by
  simp [startsPacket]

theorem WellFramed.prefix {headers more : List H2tPacketHeader} (h : WellFramed (headers ++ more)) :
    WellFramed headers := by
  constructor
  · intro before header after heq
    refine h.sop before header (after ++ more) ?_
    rw [heq, List.append_assoc, List.cons_append]
  · intro header hmem
    exact h.flags header (List.mem_append_left _ hmem)
  · intro header hmem
    exact h.nonempty header (List.mem_append_left _ hmem)

theorem wellFramed_nil : WellFramed [] :=
  ⟨fun before header after heq => by simp at heq, nofun, nofun⟩

/-- A header behind a well-framed sequence. -/
theorem WellFramed.concat {headers : List H2tPacketHeader} {header : H2tPacketHeader}
    (h : WellFramed headers) (hsop : header.sop = startsPacket headers)
    (hflags : header.sopEop.toNat < 4) (hlen : header.dataLenBytes ≠ 0) :
    WellFramed (headers ++ [header]) := by
  constructor
  · intro before header' after heq
    rcases List.eq_nil_or_concat after with rfl | ⟨after, last, rfl⟩
    · obtain ⟨rfl, hlast⟩ := List.append_inj' heq rfl
      obtain rfl := List.singleton_inj.mp hlast
      exact hsop
    · refine h.sop before header' after ?_
      rw [List.concat_eq_append, ← List.cons_append, ← List.append_assoc] at heq
      exact (List.append_inj' heq rfl).1
  · intro header' hmem
    rcases List.mem_append.mp hmem with hmem | hmem
    · exact h.flags header' hmem
    · rwa [List.mem_singleton.mp hmem]
  · intro header' hmem
    rcases List.mem_append.mp hmem with hmem | hmem
    · exact h.nonempty header' hmem
    · rwa [List.mem_singleton.mp hmem]

theorem writtenTo_append (reg : Nat) (writes more : List (Nat × Nat)) :
    writtenTo reg (writes ++ more) = writtenTo reg writes ++ writtenTo reg more := by
  simp [writtenTo]

theorem writtenTo_self (reg v : Nat) : writtenTo reg [(reg, v)] = [v] := by
  simp [writtenTo]

theorem writtenTo_other {reg reg' : Nat} (h : reg' ≠ reg) (v : Nat) :
    writtenTo reg [(reg', v)] = [] := by
  simp [writtenTo, h]

/-- What has come back is the beginning of what was sent, and what is still to come back is in the
record. -/
structure LoopbackInv (s : LoopbackState D) : Prop where
  received : s.received = s.sent.take s.received.length
  sop : s.drv.t2hSop = startsPacket s.received
  howlong : (writtenTo stDbgIpH2tHowLong s.dev.2).map (· % 2 ^ 32) =
    s.sent.map fun header => howlongWhere header 0
  connid : writtenTo stDbgIpH2tConnectionId s.dev.2 = s.sent.map connidChannelpush

theorem howlongWhere_mod (header : H2tPacketHeader) (payload : Nat) :
    howlongWhere header payload % 2 ^ 32 = howlongWhere header 0 := by
  have hbits := header.dataLenBytes.toNat_lt
  rw [howlongWhere_eq, howlongWhere_eq]
  split <;> omega

/-- A push leaves the SOP flag alone. -/
theorem push_t2hSop (header : H2tPacketHeader) (payload : Nat) (s : LoopbackState D) :
    (s.push io header payload).drv.t2hSop = s.drv.t2hSop := by
  have hdrv : (s.push io header payload).drv = { s.drv with h2t := s.drv.h2t.takeSlot } := rfl
  rw [hdrv]

theorem push_writes (header : H2tPacketHeader) (payload : Nat) (s : LoopbackState D) :
    (s.push io header payload).dev.2 = s.dev.2 ++
      [(stDbgIpH2tHowLong, howlongWhere header payload)] ++
        [(stDbgIpH2tConnectionId, connidChannelpush header)] := by
  cases s
  rfl

theorem LoopbackInv.push {s : LoopbackState D} (h : LoopbackInv s) (header : H2tPacketHeader)
    (payload : Nat) : LoopbackInv (s.push io header payload) := by
  have hle : s.received.length ≤ s.sent.length := by
    rw [h.received, List.length_take]
    exact Nat.min_le_right _ _
  constructor
  · rw [LoopbackState.push_sent, LoopbackState.push_received, List.take_append_of_le_length hle]
    exact h.received
  · rw [push_t2hSop, LoopbackState.push_received]
    exact h.sop
  · rw [push_writes, LoopbackState.push_sent, writtenTo_append, writtenTo_append, writtenTo_self,
      writtenTo_other, List.append_nil, List.map_append, h.howlong, List.map_append]
    · simp only [List.map_cons, List.map_nil, howlongWhere_mod]
    · decide
  · rw [push_writes, LoopbackState.push_sent, writtenTo_append, writtenTo_append, writtenTo_self,
      writtenTo_other, List.append_nil, h.connid, List.map_append]
    · rfl
    · decide

/-- What the registers show if they present the next descriptor. -/
theorem LoopbackInv.next {s : LoopbackState D} (h : LoopbackInv s)
    (hpresents : PresentsPushed io s.received.length s.dev.1 s.dev.2) :
    ∃ header after, s.sent = s.received ++ header :: after ∧
      (frontT2h io s.dev.1).howlongWhere % 2 ^ 32 = howlongWhere header 0 % 2 ^ 32 ∧
      (frontT2h io s.dev.1).pushWord = connidChannelpush header := by
  obtain ⟨howlong, connid, hhowlong, hconnid, hfront, hword⟩ := hpresents
  have hlt : s.received.length < s.sent.length := by
    have hbound := (List.getElem?_eq_some_iff.mp hconnid).1
    rwa [h.connid, List.length_map] at hbound
  obtain ⟨header, hheader⟩ : ∃ header, s.sent[s.received.length] = header := ⟨_, rfl⟩
  have hheader' : s.sent[s.received.length]? = some header := by
    rw [List.getElem?_eq_getElem hlt, hheader]
  refine ⟨header, s.sent.drop (s.received.length + 1), ?_, ?_, ?_⟩
  · have hdrop := List.drop_eq_getElem_cons hlt
    rw [hheader] at hdrop
    calc s.sent = s.sent.take s.received.length ++ s.sent.drop s.received.length :=
          (List.take_append_drop _ _).symm
      _ = s.received ++ header :: s.sent.drop (s.received.length + 1) := by
          rw [← h.received, hdrop]
  · have hmapped := congrArg (·[s.received.length]?) h.howlong
    simp only [List.getElem?_map, hhowlong, hheader', Option.map_some] at hmapped
    rw [hfront, Option.some.inj hmapped, howlongWhere_mod]
  · rw [h.connid, List.getElem?_map, hheader'] at hconnid
    rw [hword]
    exact (Option.some.inj hconnid).symm

theorem LoopbackInv.get {s : LoopbackState D} (h : LoopbackInv s) (hframed : WellFramed s.sent)
    (hpresents : PresentsPushed io s.received.length s.dev.1 s.dev.2) (buff : H2tPacketHeader) :
    LoopbackInv (s.get io info buff) := by
  obtain ⟨header, after, hsplit, hhowlong, hconnid⟩ := h.next hpresents
  have hmem : header ∈ s.sent := by
    rw [hsplit]
    exact List.mem_append_right _ List.mem_cons_self
  have hsop : s.drv.t2hSop = header.sop := h.sop.trans (hframed.sop _ _ _ hsplit).symm
  obtain ⟨hback, hflag⟩ := getT2hData_pushed (d := s.dev) io.recording info hhowlong hconnid
    (hframed.nonempty _ hmem) (hframed.flags _ hmem) hsop buff
  have hreceived : (s.get io info buff).received = s.received ++ [header] := by
    rw [← hback]
    rfl
  have hwrites : (s.get io info buff).dev.2 = s.dev.2 := by
    unfold LoopbackState.get getT2hData
    dsimp only
    split <;> rfl
  constructor
  · rw [hreceived, LoopbackState.get_sent, hsplit, List.append_cons s.received header after]
    exact (List.take_left' rfl).symm
  · rw [hreceived, startsPacket_append]
    exact hflag
  · rw [hwrites]
    exact h.howlong
  · rw [hwrites]
    exact h.connid

theorem loopbackInv_step {s s' : LoopbackState D} {a : LoopbackAction}
    (h : WellFramed s.sent → LoopbackInv s) (hstep : LoopbackStep io info s a s')
    (hframed : WellFramed s'.sent) : LoopbackInv s' := by
  cases hstep with
  | push header payload => exact (h hframed.prefix).push header payload
  | get buff hpresents => exact (h hframed).get hframed hpresents buff
  | hardware d =>
    obtain ⟨hreceived, hsop, hhowlong, hconnid⟩ := h hframed
    exact ⟨hreceived, hsop, hhowlong, hconnid⟩

/-- **Hardware loopback**: behind `init_driver` the headers come back as they were sent. -/
theorem loopback_headers {drv0 drv : Driver} {d0 d : D} {s : LoopbackState D}
    (hinit : initDriver io info drv0 d0 = (0, drv, d))
    (hrun : Reach (LoopbackStep io info) always (.start drv d) s) (hframed : WellFramed s.sent) :
    s.received <+: s.sent ∧ (s.received.length = s.sent.length → s.received = s.sent) := by
  have hsop : drv.t2hSop = true := by
    have hflag := initDriver_sop io info drv0 d0 .t2h
    rw [hinit, if_pos rfl] at hflag
    exact hflag
  have hinv : WellFramed s.sent → LoopbackInv s := by
    refine hrun.invariant (fun s => WellFramed s.sent → LoopbackInv s) ?_ ?_
    · intro s a s' h _ hstep
      exact loopbackInv_step h hstep
    · intro _
      exact ⟨rfl, hsop, rfl, rfl⟩
  have hreceived := (hinv hframed).received
  constructor
  · rw [hreceived]
    exact List.take_prefix _ _
  · intro hlen
    rw [hlen, List.take_length] at hreceived
    exact hreceived

namespace DebugIp

/-- The two pieces of a packet of seven bytes. -/
def firstPiece : H2tPacketHeader := ⟨1, 7, 9, 4⟩
def lastPiece : H2tPacketHeader := ⟨2, 7, 9, 3⟩

/-- `init_driver`, then both headers are pushed. -/
def piecesPushed : LoopbackState DebugIp :=
  let init := initDriver debugIp design.info .static idle
  ((LoopbackState.start init.2.1 init.2.2).push debugIp firstPiece 0x20000).push debugIp lastPiece
    0x20008

/-- The IP presents the words of a push with the payload elsewhere, and the header is taken. -/
def takeBack (header : H2tPacketHeader) (s : LoopbackState DebugIp) : LoopbackState DebugIp :=
  LoopbackState.get debugIp design.info ⟨0, 0, 0, 0⟩
    { s with
      dev := (.start [⟨howlongWhere header 0x100, connidChannelpush header⟩] [] fun _ => 0, s.dev.2) }

/-- Both headers have come back. -/
def piecesReturned : LoopbackState DebugIp := takeBack lastPiece (takeBack firstPiece piecesPushed)

/-- The hardware step and the call for a header that was pushed with the payload at `payload`. -/
theorem takeBack_reach {s0 s : LoopbackState DebugIp} {header : H2tPacketHeader} (payload : Nat)
    (h : Reach (LoopbackStep debugIp design.info) always s0 s)
    (hhowlong : (writtenTo stDbgIpH2tHowLong s.dev.2)[s.received.length]?
      = some (howlongWhere header payload))
    (hconnid : (writtenTo stDbgIpH2tConnectionId s.dev.2)[s.received.length]?
      = some (connidChannelpush header)) :
    Reach (LoopbackStep debugIp design.info) always s0 (takeBack header s) := by
  have hpresented := h.tail (a := .hardware) trivial (.hardware _
    (.start [⟨howlongWhere header 0x100, connidChannelpush header⟩] [] fun _ => 0))
  refine hpresented.tail (a := .get) trivial (.get ⟨0, 0, 0, 0⟩ ⟨_, _, hhowlong, hconnid, ?_, rfl⟩)
  show howlongWhere header 0x100 % 2 ^ 32 = howlongWhere header payload % 2 ^ 32
  rw [howlongWhere_mod, howlongWhere_mod]

theorem piecesReturned_reach :
    let init := initDriver debugIp design.info .static idle
    Reach (LoopbackStep debugIp design.info) always (.start init.2.1 init.2.2) piecesReturned := by
  intro init
  have hpushed : Reach (LoopbackStep debugIp design.info) always (.start init.2.1 init.2.2)
      piecesPushed :=
    (Reach.single (a := .push) trivial (.push _ firstPiece 0x20000)).tail (a := .push) trivial
      (.push _ lastPiece 0x20008)
  have hfirst : Reach (LoopbackStep debugIp design.info) always (.start init.2.1 init.2.2)
      (takeBack firstPiece piecesPushed) :=
    takeBack_reach 0x20000 hpushed (by decide) (by decide)
  exact takeBack_reach 0x20008 hfirst (by decide) (by decide)

end DebugIp

/-- SOP and EOP come back on the first and on the last piece. -/
theorem loopback_headers_pieces :
    DebugIp.piecesReturned.received = DebugIp.piecesReturned.sent ∧
      DebugIp.piecesReturned.sent = [DebugIp.firstPiece, DebugIp.lastPiece] := by
  have hinit : initDriver debugIp DebugIp.design.info .static DebugIp.idle =
      (0, (initDriver debugIp DebugIp.design.info .static DebugIp.idle).2) := rfl
  have hsent : DebugIp.piecesReturned.sent = [DebugIp.firstPiece, DebugIp.lastPiece] := rfl
  have hframed : WellFramed DebugIp.piecesReturned.sent := by
    rw [hsent]
    exact (wellFramed_nil.concat rfl (by decide) (by decide)).concat rfl (by decide) (by decide)
  exact ⟨(loopback_headers hinit DebugIp.piecesReturned_reach hframed).2 rfl, hsent⟩

end RemoteDebug
