import RemoteDebug.Proofs.WindowProofs
import RemoteDebug.Proofs.AddressProofs
import RemoteDebug.Proofs.EchoProofs

/-!
# Proofs: where H2T payloads land

With base and size of the window multiples of 8, a granted buffer is a whole number of words, and so are
both parts of a payload that wraps. The words that are copied are then exactly those of the buffer.
-/

namespace RemoteDebug

open Bytes Cyclic Runs Script

variable {D : Type} {io : Mmio D} {cfg : Config} {ip : ChannelIp io cfg.info .h2t} {s s' : Srv D}

/-! ## One part -/

/-- The window is a whole number of words below 2 GiB. -/
structure WindowAligned (info : DesignInfo) : Prop where
  base : 8 ∣ info.h2tMemBaseAddr
  span : 8 ∣ info.h2tMemSz
  below : info.h2tMemBaseAddr + info.h2tMemSz ≤ 2 ^ 31

/-- The part of the window from `buff` on takes the first `len` bytes of `bs`, up to a word, and nothing
else changes. -/
structure PartStored (bs : List UInt8) (buff len : Nat) (m m' : Nat → UInt8) : Prop where
  inside : ∀ i < len, m' (buff + i) = bs.getD i 0
  outside : ∀ a, a < buff ∨ buff + getAlignedSz len ≤ a → m' a = m a

/-- A part that ends in the window with its last word. -/
theorem part_stored (wm : WindowMemory io cfg.info) (hwin : WindowAligned cfg.info) (buff len : Nat)
    (hlen : len ≤ (pending (s.client .h2tData).rx).length)
    (hbase : cfg.info.h2tMemBaseAddr ≤ buff)
    (hend : buff + getAlignedSz len ≤ cfg.info.h2tMemBaseAddr + cfg.info.h2tMemSz) :
    PartStored (pending (s.client .h2tData).rx) buff len (wm.mem s.dev)
        (wm.mem (socketRecvAccumulateH2tData io .h2tData buff len s).2.dev) ∧
      pending ((socketRecvAccumulateH2tData io .h2tData buff len s).2.client .h2tData).rx =
        (pending (s.client .h2tData).rx).drop len := by
  have hbelow := hwin.below
  rw [getAlignedSz_eq] at hend
  have haddr : ∀ k < (len + 7) / 8, wordAddr buff k = buff + 8 * k := by
    intro k hk
    exact Nat.mod_eq_of_lt (by omega)
  have hstart : WordsStart cfg.info buff 0 ((len + 7) / 8) := by
    intro k _ hk
    refine ⟨buff + 8 * k - cfg.info.h2tMemBaseAddr, by omega, ?_⟩
    rw [haddr k (by omega), windowAddr, Nat.mod_eq_of_lt (by omega)]
    omega
  obtain ⟨host, hhost, hwords, hpend⟩ :=
    socketRecvAccumulateH2tData_arrives wm hlen (by omega) hstart
  refine ⟨?_, hpend⟩
  constructor
  · intro i hi
    have hword := hwords.inside (i / 8) (Nat.zero_le _) (by omega) (i % 8) (by omega)
    rw [haddr _ (by omega), Nat.add_assoc, Nat.div_add_mod] at hword
    rw [hword, hhost i hi]
  · intro a ha
    rw [getAlignedSz_eq] at ha
    refine hwords.outside a fun k _ hk => ?_
    rw [haddr k (by omega)]
    omega

/-! ## A payload -/

section Parts

variable {bs : List UInt8} {base span where_ first len : Nat} {m m₁ m' : Nat → UInt8}

theorem getElem_take_getD (hlen : len ≤ bs.length) {i : Nat} (h : i < (bs.take len).length) :
    (bs.take len)[i] = bs.getD i 0 ∧ i < len := by
  rw [List.length_take] at h
  rw [List.getElem_take, List.getD_eq_getElem _ _ (by omega)]
  exact ⟨rfl, by omega⟩

/-- A part that does not wrap. -/
theorem PartStored.landed (h : PartStored bs where_ len m m') (hlen : len ≤ bs.length)
    (hbase : base ≤ where_) (hend : where_ + getAlignedSz len ≤ base + span) :
    Landed base span where_ (bs.take len) m m' := by
  have hle := le_getAlignedSz len
  constructor
  · intro i hi
    obtain ⟨hbyte, hi'⟩ := getElem_take_getD hlen hi
    rw [hbyte, Nat.mod_eq_of_lt (by omega), ← h.inside i hi']
    congr 1
    omega
  · intro a ha
    rw [List.length_take, Nat.min_eq_left hlen] at ha
    refine h.outside a ?_
    by_contra hne
    refine ha (a - base) ⟨a - where_, ?_, ?_⟩ (by omega)
    · show a - where_ < getAlignedSz len
      omega
    · show a - base = (where_ - base + (a - where_)) % span
      rw [Nat.mod_eq_of_lt (by omega)]
      omega

/-- Two parts, the first one up to the end of the window in whole words, the second one from its
start. -/
theorem PartStored.wrapped (h : PartStored bs where_ first m m₁)
    (h' : PartStored (bs.drop first) base (len - first) m₁ m') (hlen : len ≤ bs.length)
    (hend : where_ + first = base + span) (hfirst : getAlignedSz first = first)
    (hbase : base ≤ where_) (hlt : first < len) (hfit : getAlignedSz len ≤ span) :
    Landed base span where_ (bs.take len) m m' := by
  have hsz : getAlignedSz len = first + getAlignedSz (len - first) := by
    rw [getAlignedSz_eq] at hfirst ⊢
    rw [getAlignedSz_eq]
    omega
  have hle := le_getAlignedSz (len - first)
  constructor
  · intro i hi
    obtain ⟨hbyte, hi'⟩ := getElem_take_getD hlen hi
    rw [hbyte]
    rcases Nat.lt_or_ge i first with hin | hin
    · rw [Nat.mod_eq_of_lt (by omega), show base + (where_ - base + i) = where_ + i by omega,
        h'.outside _ (by omega), h.inside i hin]
    · rw [Nat.mod_eq_sub_mod (by omega), Nat.mod_eq_of_lt (by omega),
        show where_ - base + i - span = i - first by omega, h'.inside (i - first) (by omega)]
      simp only [List.getD_eq_getElem?_getD, List.getElem?_drop]
      rw [Nat.add_sub_cancel' hin]
  · intro a ha
    rw [List.length_take, Nat.min_eq_left hlen] at ha
    rw [h'.outside a, h.outside a]
    · by_contra hne
      refine ha (a - base) ⟨a - where_, ?_, ?_⟩ (by omega)
      · show a - where_ < getAlignedSz len
        omega
      · show a - base = (where_ - base + (a - where_)) % span
        rw [Nat.mod_eq_of_lt (by omega)]
        omega
    · by_contra hne
      refine ha (a - base) ⟨first + (a - base), ?_, ?_⟩ (by omega)
      · show first + (a - base) < getAlignedSz len
        omega
      · show a - base = (where_ - base + (first + (a - base))) % span
        rw [Nat.mod_eq_sub_mod (by omega), Nat.mod_eq_of_lt (by omega)]
        omega

end Parts

/-- **A payload** that arrives for a granted buffer lands there, whether it wraps or not. -/
theorem recvH2tPayload_lands (wm : WindowMemory io cfg.info) (hwin : WindowAligned cfg.info)
    {where_ len : Nat} (hlen : len ≤ (pending (s.client .h2tData).rx).length) (h16 : len < 2 ^ 16)
    (hbase : cfg.info.h2tMemBaseAddr ≤ where_)
    (hlt : where_ < cfg.info.h2tMemBaseAddr + cfg.info.h2tMemSz) (hwhere : 8 ∣ where_)
    (hfit : getAlignedSz len ≤ cfg.info.h2tMemSz) :
    Landed cfg.info.h2tMemBaseAddr cfg.info.h2tMemSz where_
      ((pending (s.client .h2tData).rx).take len) (wm.mem s.dev)
      (wm.mem (recvH2tPayload io cfg where_ len s).2.dev) := by
  have hbelow := hwin.below
  have hdvd := hwin.base
  have hdvd' := hwin.span
  have hsz := getAlignedSz_eq len
  rcases Nat.lt_or_ge (cfg.info.h2tMemBaseAddr + cfg.info.h2tMemSz) (where_ + len) with hwrap | hle
  · rw [recvH2tPayload_split io (by omega) h16 hlt hwrap]
    obtain ⟨first, hfirst⟩ : ∃ first,
        cfg.info.h2tMemBaseAddr + cfg.info.h2tMemSz - where_ = first := ⟨_, rfl⟩
    rw [hfirst]
    have hfirstSz : getAlignedSz first = first := by
      rw [getAlignedSz_eq]
      omega
    have hsecondSz := getAlignedSz_eq (len - first)
    obtain ⟨hpart, hpend⟩ := part_stored (s := s) wm hwin where_ first (by omega)
      hbase (by omega)
    generalize (socketRecvAccumulateH2tData io .h2tData where_ first s).2 = s₁ at hpart hpend ⊢
    obtain ⟨hpart', -⟩ := part_stored (s := s₁) wm hwin cfg.info.h2tMemBaseAddr (len - first)
      (by rw [hpend, List.length_drop]; omega) le_rfl (by omega)
    rw [hpend] at hpart'
    exact hpart.wrapped hpart' hlen (by omega) hfirstSz hbase (by omega) hfit
  · rw [recvH2tPayload_unsplit io (by omega) h16 hle]
    obtain ⟨hpart, -⟩ := part_stored wm hwin where_ len hlen hbase (by omega)
    exact hpart.landed hlen hbase (by omega)

/-! ## The next address -/

theorem updateCurrH2tHeader_device (s : Srv D) :
    (updateCurrH2tHeader s).2.drv = s.drv ∧ (updateCurrH2tHeader s).2.dev = s.dev := by
  unfold updateCurrH2tHeader
  split
  · exact ⟨rfl, rfl⟩
  · exact ⟨rfl, rfl⟩

theorem RingAligned.poll (hsize : SizeAligned cfg.info.h2tMemSz) {len buff : Nat}
    (h : RingAligned cfg.info.h2tMemSz s.drv.h2t)
    (hpoll : pollH2tBuffer io cfg len s = some (buff, s')) :
    RingAligned cfg.info.h2tMemSz s'.drv.h2t := by
  unfold pollH2tBuffer at hpoll
  split at hpoll
  · obtain ⟨x, hx, heq⟩ := Option.map_eq_some_iff.mp hpoll
    obtain ⟨-, rfl⟩ := Prod.mk.inj heq
    obtain ⟨⟨addr, r, d⟩, hget, rfl⟩ := Option.map_eq_some_iff.mp hx
    exact (h.get hsize hget).2
  · obtain ⟨-, rfl⟩ := Prod.mk.inj (Option.some.inj hpoll)
    exact h

theorem RingAligned.pushOrLoopback {memSize : Nat} (h : RingAligned memSize s.drv.h2t)
    (header : H2tPacketHeader) (buff : Nat) :
    RingAligned memSize (pushOrLoopbackH2t io header buff s).2.drv.h2t := by
  have hecho (buff len : Nat) (s : Srv D) :
      (socketSendAllT2hData io .t2hData buff len s).2.drv = s.drv := rfl
  unfold pushOrLoopbackH2t
  dsimp only
  split
  · rw [pushH2tData_eq]
    exact h.takeSlot
  · split
    · rw [hecho]
      exact h
    · exact h

/-- **A call of `process_h2t_data`** keeps the next address aligned. -/
theorem RingAligned.h2t (hsize : SizeAligned cfg.info.h2tMemSz)
    (h : RingAligned cfg.info.h2tMemSz s.drv.h2t) {x : ReturnCode × Srv D}
    (hcall : processH2tData io cfg s = some x) : RingAligned cfg.info.h2tMemSz x.2.drv.h2t := by
  have hdrv := (updateCurrH2tHeader_device s).1
  rcases processH2tData_cases hcall with ⟨rfl, -⟩ | ⟨s₁, buff, s₂, hhead, hpoll, hcases⟩
  · rw [hdrv]
    exact h
  · rw [hhead] at hdrv
    have h₂ := RingAligned.poll hsize (hdrv ▸ h) hpoll
    rcases hcases with ⟨-, rfl⟩ | ⟨-, rfl⟩
    · exact h₂
    · refine RingAligned.pushOrLoopback ?_ _ _
      rw [(recvH2tPayload_frame io cfg buff _ _).drv]
      exact h₂

theorem ringAligned_connect (hok : WindowOk cfg.info .h2t) (hwin : WindowAligned cfg.info)
    (ip : ChannelIp io cfg.info .h2t) (hconn : (ServerState.connect io cfg s).connected = true) :
    RingAligned cfg.info.h2tMemSz (ServerState.connect io cfg s).srv.drv.h2t := by
  have hpos : 0 < cfg.info.h2tMemSz := hok.span_pos
  have hdvd := hwin.span
  unfold ServerState.connect at hconn ⊢
  dsimp only at hconn ⊢
  split at hconn
  · next hsucc =>
    rw [if_pos hsucc]
    have hring := (connected_ring ip hok hsucc).2
    constructor
    · exact hring ▸ hwin.base
    · exact hring ▸ Nat.dvd_zero 8
    · intro _
      exact hring ▸ hwin.span
    · intro hsmall
      omega
  · cases hconn

/-- While a client is connected the next address is aligned. -/
theorem ringAligned_step {st st' : ServerState D} {a : ServerAction} (hok : WindowOk cfg.info .h2t)
    (hwin : WindowAligned cfg.info)
    (h : st.connected = true → RingAligned cfg.info.h2tMemSz st.srv.drv.h2t)
    (hstep : ServerStep cfg ip st a st') :
    st'.connected = true → RingAligned cfg.info.h2tMemSz st'.srv.drv.h2t := by
  intro hconn
  by_cases hst : st.connected = true
  · by_cases ha : a = .h2t
    · subst ha
      cases hstep with
      | h2t hcall => exact (h rfl).h2t (.inl hwin.span) hcall
    · rw [(step_ring hst ha hstep).1]
      exact h hst
  · cases hstep with
    | connect s => exact ringAligned_connect hok hwin ip hconn
    | close s => cases hconn
    | hardware hproc => exact absurd hconn hst
    | _ => exact absurd rfl hst

/-! ## A packet -/

/-- `push_h2t_data` writes registers only. -/
theorem pushOrLoopbackH2t_mem (wm : H2tMemory io cfg.info) (header : H2tPacketHeader) (buff : Nat)
    (hmode : s.conn.loopbackMode = false) :
    wm.mem (pushOrLoopbackH2t io header buff s).2.dev = wm.mem s.dev := by
  unfold pushOrLoopbackH2t
  rw [if_pos hmode]
  exact wm.push _ _ _

/-- What the driver promises of a buffer that it grants. -/
structure GrantedAt (info : DesignInfo) (where_ len : Nat) : Prop where
  base_le : info.h2tMemBaseAddr ≤ where_
  lt : where_ < info.h2tMemBaseAddr + info.h2tMemSz
  aligned : 8 ∣ where_
  fits : getAlignedSz len ≤ info.h2tMemSz

/-- In every state of every run a granted buffer lies in the window, on a word, and is not larger than
the window. -/
theorem grantedAt_reached (hok : WindowOk cfg.info .h2t) (hwin : WindowAligned cfg.info)
    (hquiet : ip.Quiet (2 ^ 16)) {s0 : Srv D}
    (hrun : Reach (ServerStep cfg ip) always ⟨s0, false⟩ ⟨s, true⟩) {len where_ : Nat} {drv : Driver}
    {d : D} (hget : getH2tBuffer io cfg len s.drv s.dev = some (where_, drv, d))
    (hgranted : where_ ≠ 0) : GrantedAt cfg.info where_ len := by
  have hbelow := hwin.below
  have hring := hrun.invariant (RingHolds ip) (fun st a st' hs _ hstep =>
    ringHolds_step hok (by omega) hquiet hs (echoFits_room _ _ _) hstep) fun hc => by cases hc
  have haligned := hrun.invariant
    (fun st => st.connected = true → RingAligned cfg.info.h2tMemSz st.srv.drv.h2t)
    (fun st a st' hs _ hstep => ringAligned_step hok hwin hs hstep) fun hc => by cases hc
  obtain ⟨k, live, lost, hinv, -⟩ := hring rfl
  obtain ⟨addr, r, d', hget', -, live', lost', hcases⟩ := hinv.getH2tBuffer cfg len
  obtain ⟨rfl, -⟩ := Prod.mk.inj (Option.some.inj (hget.symm.trans hget'))
  have hg := (hcases.resolve_left fun h => hgranted h.1).2
  obtain ⟨⟨addr, r, d⟩, hbuffer, heq⟩ := Option.map_eq_some_iff.mp hget
  obtain ⟨rfl, -⟩ := heq
  obtain ⟨hlt, hfit⟩ := hg.bounds
  exact ⟨hg.base_le, hlt, ((haligned rfl).get (.inl hwin.span) hbuffer).1, hfit⟩

/-- Asking for a buffer only reads the slots. -/
theorem getH2tBuffer_device {len where_ : Nat} {drv : Driver} {d : D}
    (hget : getH2tBuffer io cfg len s.drv s.dev = some (where_, drv, d)) :
    d = (io.read32 stDbgIpH2tAvailableSlots s.dev).2 := by
  obtain ⟨x, hbuffer, heq⟩ := Option.map_eq_some_iff.mp hget
  obtain ⟨r, -, rfl⟩ := Option.map_eq_some_iff.mp hbuffer
  exact (congrArg (fun x => x.2.2) heq).symm

/-- A call for a packet whose header arrives and that is granted a buffer: `s'` is the state before the
payload. -/
theorem processH2tData_granted (harr : HeaderArrives s) (hmode : s.conn.loopbackMode = false)
    {where_ : Nat} {drv : Driver} {d : D}
    (hget : getH2tBuffer io cfg (nextH2tHeader s).dataLenBytes.toNat s.drv s.dev =
      some (where_, drv, d)) (hgranted : where_ ≠ 0) :
    ∃ s', (s'.client .h2tData).rx = payloadStream s ∧ s'.dev = d ∧ s'.conn.loopbackMode = false ∧
      processH2tData io cfg s = some (pushOrLoopbackH2t io (nextH2tHeader s) where_
        (recvH2tPayload io cfg where_ (nextH2tHeader s).dataLenBytes.toNat s').2) := by
  obtain ⟨s₁, hhead, -, hheader, hrx, hmode₁⟩ := updateCurrH2tHeader_arrives harr
  have hdevice := updateCurrH2tHeader_device s
  rw [hhead] at hdevice
  have hpoll : pollH2tBuffer io cfg (headerOf s₁.conn.h2tHeaderBuff).dataLenBytes.toNat s₁ =
      some (where_, { s₁ with drv := drv, dev := d }) := by
    unfold pollH2tBuffer
    rw [if_pos (hmode₁.trans hmode), hheader, hdevice.1, hdevice.2, hget]
    rfl
  refine ⟨({ s₁ with drv := drv, dev := d } : Srv D).setH2tWaiting false, hrx, rfl,
    hmode₁.trans hmode, ?_⟩
  unfold processH2tData
  rw [hhead]
  dsimp only
  rw [if_pos rfl, hpoll, Option.map_some, hheader]
  dsimp only
  rw [if_pos hgranted, recvH2tPayload_ok, if_pos rfl]

/-- **Landing**: the payload of a packet that is granted a buffer is where the descriptor says, and
nothing outside the region of the buffer has changed. -/
theorem h2t_payload_lands (hok : WindowOk cfg.info .h2t) (hwin : WindowAligned cfg.info)
    (ip : ChannelIp io cfg.info .h2t) (hquiet : ip.Quiet (2 ^ 16)) (wm : H2tMemory io cfg.info)
    {s0 : Srv D} (hrun : Reach (ServerStep cfg ip) always ⟨s0, false⟩ ⟨s, true⟩)
    (hmode : s.conn.loopbackMode = false) (harr : PacketArrives s) {where_ : Nat} {drv : Driver} {d : D}
    (hget : getH2tBuffer io cfg (nextH2tHeader s).dataLenBytes.toNat s.drv s.dev =
      some (where_, drv, d)) (hgranted : where_ ≠ 0) :
    ∃ s', processH2tData io cfg s = some (.ok, s') ∧
      s'.log.getLast? = some (.h2tDataReceived (nextH2tHeader s) where_) ∧
      Landed cfg.info.h2tMemBaseAddr cfg.info.h2tMemSz where_ (nextH2tPayload s) (wm.mem s.dev)
        (wm.mem s'.dev) := by
  have hbelow := hwin.below
  obtain ⟨hbase, hlt, hword, hfit⟩ := grantedAt_reached hok hwin hquiet hrun hget hgranted
  obtain ⟨s₁, hrx, hdev, hmode₁, hcall⟩ := processH2tData_granted harr.header hmode hget hgranted
  have hmem : wm.mem s₁.dev = wm.mem s.dev := by
    rw [hdev, getH2tBuffer_device hget]
    exact wm.slots s.dev
  have hland := recvH2tPayload_lands (s := s₁) wm.toWindowMemory hwin (by rw [hrx]; exact harr.payload)
    (nextH2tHeader s).dataLenBytes.toNat_lt hbase hlt hword hfit
  have hframe := recvH2tPayload_frame io cfg where_ (nextH2tHeader s).dataLenBytes.toNat s₁
  generalize (recvH2tPayload io cfg where_ (nextH2tHeader s).dataLenBytes.toNat s₁).2 = s₂
    at hcall hland hframe
  have hmode₂ : s₂.conn.loopbackMode = false := by
    rw [hframe.conn]
    exact hmode₁
  have hmem₂ := pushOrLoopbackH2t_mem wm (nextH2tHeader s) where_ hmode₂
  obtain ⟨hrc, hlog⟩ := pushOrLoopbackH2t_push io (nextH2tHeader s) where_ hmode₂
  generalize pushOrLoopbackH2t io (nextH2tHeader s) where_ s₂ = x at hcall hmem₂ hrc hlog
  refine ⟨x.2, ?_, ?_, ?_⟩
  · rw [hcall, ← hrc]
  · rw [hlog, List.getLast?_append, Nat.mod_eq_of_lt (by omega)]
    rfl
  · rw [hmem₂]
    rw [hrx, hmem] at hland
    exact hland

namespace DebugIp

theorem push_mem (d : DebugIp) (ch : Channel) (w : Nat) : (d.push ch w).mem = d.mem := by
  unfold push
  split
  · rfl
  · rfl

/-- The window of this design is memory. -/
def echoMemory : H2tMemory debugIp echoDesign.info where
  mem := DebugIp.mem
  store := fun i w d hi => by
    have hbase : echoDesign.info.h2tMemBaseAddr = 0x2000 := rfl
    have hspan : echoDesign.info.h2tMemSz = 0x2000 := rfl
    rw [write64_mem (by unfold windowAddr; omega)]
  load := fun i d hi => by
    have hbase : echoDesign.info.h2tMemBaseAddr = 0x2000 := rfl
    have hspan : echoDesign.info.h2tMemSz = 0x2000 := rfl
    have hlo : 0x2000 ≤ windowAddr echoDesign.info.h2tMemBaseAddr i := by
      unfold windowAddr
      omega
    rw [read64_mem hlo]
    exact ⟨rfl, rfl⟩
  slots := fun d => rfl
  push := fun v w d => push_mem _ .h2t w

/-- A client that sends two packets, which fill all but the last eight bytes of the window, and then one
of ten bytes in pieces. -/
def wrappingClient : Sock → List RecvEvent :=
  only .h2tData [.data (headerBytes 4096 ++ List.replicate 4096 1),
    .data (headerBytes 4088 ++ List.replicate 4088 2), .data (headerBytes 10),
    .data [10, 11, 12, 13], .data [14, 15, 16, 17, 18, 19]]

/-- The server behind `connect_client` for this client. -/
def wrappingConnected : ServerState DebugIp :=
  .connect debugIp echoDesign (listening (clientSockets 1 wrappingClient) [])

/-- The server behind the first two packets. -/
def wrappingPushed : Srv DebugIp := afterH2t (afterH2t wrappingConnected.srv)

/-- The IP has completed the first of them. -/
def wrappingFreed : Srv DebugIp := { wrappingPushed with dev := wrappingPushed.dev.complete .h2t }

theorem wrappingFreed_run (hconn : wrappingConnected.connected = true)
    (hfirst : (processH2tData debugIp echoDesign wrappingConnected.srv).isSome)
    (hsecond : (processH2tData debugIp echoDesign (afterH2t wrappingConnected.srv)).isSome) :
    Reach (ServerStep echoDesign echoIp) always
      ⟨listening (clientSockets 1 wrappingClient) [], false⟩ ⟨wrappingFreed, true⟩ := by
  have hpushed : Reach (ServerStep echoDesign echoIp) always
      ⟨listening (clientSockets 1 wrappingClient) [], false⟩ ⟨wrappingPushed, true⟩ :=
    ((connect_run hconn fun _ => trivial).tail trivial (step_h2t hfirst)).tail trivial
      (step_h2t hsecond)
  exact hpushed.tail trivial (step_complete wrappingPushed)

end DebugIp

/-- Ten bytes land in the last word of the window and in its first one, behind a packet that the IP has not
completed. -/
theorem h2t_payload_lands_wrapping :
    (DebugIp.wrappingFreed.dev.queue .h2t).map (fun x => (x.addr, x.howLong)) = [(0x3000, 4088)] ∧
    ∃ s', processH2tData debugIp DebugIp.echoDesign DebugIp.wrappingFreed = some (.ok, s') ∧
      s'.log.getLast? = some (.h2tDataReceived (nextH2tHeader DebugIp.wrappingFreed) 0x3FF8) ∧
      Landed 0x2000 0x2000 0x3FF8 (nextH2tPayload DebugIp.wrappingFreed)
        DebugIp.wrappingFreed.dev.mem s'.dev.mem := by
  obtain ⟨hconn, hfirst, hsecond, hlive, hmode, harr, hlen, hget⟩ :
      DebugIp.wrappingConnected.connected = true ∧
      (processH2tData debugIp DebugIp.echoDesign DebugIp.wrappingConnected.srv).isSome ∧
      (processH2tData debugIp DebugIp.echoDesign
        (DebugIp.afterH2t DebugIp.wrappingConnected.srv)).isSome ∧
      (DebugIp.wrappingFreed.dev.queue .h2t).map (fun x => (x.addr, x.howLong)) = [(0x3000, 4088)] ∧
      DebugIp.wrappingFreed.conn.loopbackMode = false ∧
      10 ≤ (pending (DebugIp.wrappingFreed.client .h2tData).rx).length ∧
      (nextH2tHeader DebugIp.wrappingFreed).dataLenBytes.toNat ≤
        (pending (payloadStream DebugIp.wrappingFreed)).length ∧
      (getH2tBuffer debugIp DebugIp.echoDesign
        (nextH2tHeader DebugIp.wrappingFreed).dataLenBytes.toNat
        DebugIp.wrappingFreed.drv DebugIp.wrappingFreed.dev).any (fun x => x.1 = 0x3FF8) = true := by
    decide +kernel
  have hrun := DebugIp.wrappingFreed_run hconn hfirst hsecond
  obtain ⟨⟨where_, drv, d⟩, hget, haddr⟩ := (Option.any_eq_true _ _).mp hget
  obtain rfl : where_ = 0x3FF8 := by simpa using haddr
  have hok : WindowOk DebugIp.echoDesign.info .h2t := by
    constructor <;> decide
  have hwin : WindowAligned DebugIp.echoDesign.info := by
    constructor <;> decide
  refine ⟨hlive, ?_⟩
  generalize DebugIp.wrappingFreed = s at hrun hmode harr hlen hget
  exact h2t_payload_lands hok hwin DebugIp.echoIp (DebugIp.echoIp_quiet _) DebugIp.echoMemory hrun hmode
    ⟨.inr harr, hlen⟩ hget (by omega)

end RemoteDebug
