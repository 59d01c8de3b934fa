import RemoteDebug.Lib.Ledger
import RemoteDebug.Proofs.ChangeProofs

/-!
# Calls that only move data

The functions for the data sockets touch neither the parameters of the server nor the descriptors and
options of the sockets, and they access the hardware only by reads, by 64-bit writes and by the two
registers that complete a descriptor.
-/

namespace RemoteDebug

open Bytes CString Ledger

variable {D : Type} {io : Mmio D} {cfg : Config} {R : D → D → Prop} {s s' s'' : Srv D}

/-- What an event does to the descriptors of the process. -/
def fdUse : Event → Option (Use Int)
  | .accepted fd => some (.acquire fd)
  | .closed fd => some (.release fd)
  | _ => none

/-- The accepted and closed descriptors, in order. -/
def fdUses (log : List Event) : List (Use Int) := log.filterMap fdUse

theorem fdUses_append (log evs : List Event) : fdUses (log ++ evs) = fdUses log ++ fdUses evs :=
  List.filterMap_append

theorem fdUses_record (s : Srv D) {e : Event} (h : e.part ≠ .connections) :
    fdUses (s.record e).log = fdUses s.log := by
  show fdUses (s.log ++ [e]) = fdUses s.log
  rw [fdUses_append]
  cases e with
  | accepted fd | closed fd => exact absurd rfl h
  | _ => simp [fdUses, fdUse]

/-- The relation `R` holds across all accesses that move data. -/
structure Accesses (io : Mmio D) (R : D → D → Prop) : Prop where
  refl : ∀ d, R d d
  trans : ∀ {d d' d''}, R d d' → R d' d'' → R d d''
  read32 : ∀ o d, R d (io.read32 o d).2
  read64 : ∀ o d, R d (io.read64 o d).2
  write64 : ∀ o v d, R d (io.write64 o v d)
  done : ∀ o v d, o ∈ [stDbgIpT2hDescriptorsDone, stDbgIpMgmtRspDescriptorsDone] →
    R d (io.write32 o v d)

/-- The relation that says nothing. -/
theorem accesses_trivial (io : Mmio D) : Accesses io fun _ _ => True where
  refl _ := trivial
  trans _ _ := trivial
  read32 _ _ := trivial
  read64 _ _ := trivial
  write64 _ _ _ := trivial
  done _ _ _ _ := trivial

/-- From `s` to `s'` data has been moved. -/
structure Transfer (R : D → D → Prop) (s s' : Srv D) : Prop where
  env : s'.env = s.env
  loopbackMode : s'.conn.loopbackMode = s.conn.loopbackMode
  t2hNagle : s'.conn.t2hNagle = s.conn.t2hNagle
  mgmtRspNagle : s'.conn.mgmtRspNagle = s.conn.mgmtRspNagle
  fd : ∀ sock, (s'.client sock).fd = (s.client sock).fd
  noDelay : ∀ sock, (s'.client sock).noDelay = (s.client sock).noDelay
  uses : fdUses s'.log = fdUses s.log
  dev : R s.dev s'.dev

variable (ha : Accesses io R)

include ha in
theorem Transfer.refl (s : Srv D) : Transfer R s s :=
  ⟨rfl, rfl, rfl, rfl, fun _ => rfl, fun _ => rfl, rfl, ha.refl _⟩

include ha in
theorem Transfer.trans (h : Transfer R s s') (h' : Transfer R s' s'') : Transfer R s s'' where
  env := h'.env.trans h.env
  loopbackMode := h'.loopbackMode.trans h.loopbackMode
  t2hNagle := h'.t2hNagle.trans h.t2hNagle
  mgmtRspNagle := h'.mgmtRspNagle.trans h.mgmtRspNagle
  fd sock := (h'.fd sock).trans (h.fd sock)
  noDelay sock := (h'.noDelay sock).trans (h.noDelay sock)
  uses := h'.uses.trans h.uses
  dev := ha.trans h.dev h'.dev

theorem setRx_socket (s : Srv D) (sock sock' : Sock) (rx : List Script.RecvEvent) :
    ((s.setRx sock rx).client sock').fd = (s.client sock').fd ∧
      ((s.setRx sock rx).client sock').noDelay = (s.client sock').noDelay := by
  by_cases h : sock' = sock
  · subst h
    simp [Srv.setRx]
  · simp [Srv.setRx, Function.update_of_ne h]

theorem setTx_socket (s : Srv D) (sock sock' : Sock) (tx : List Script.SendEvent) :
    ((s.setTx sock tx).client sock').fd = (s.client sock').fd ∧
      ((s.setTx sock tx).client sock').noDelay = (s.client sock').noDelay := by
  by_cases h : sock' = sock
  · subst h
    simp [Srv.setTx]
  · simp [Srv.setTx, Function.update_of_ne h]

/-- The parts of the state that hold data. -/
def dataParts : Set StatePart :=
  Set.range .recv ∪ Set.range .send ∪
    {.note, .ctrlRxBuff, .h2tPacket, .mgmtPacket, .t2hHeader, .mgmtRspHeader, .staging, .hostMem, .sop,
      .ring, .register, .read, .write, .done}

include ha in
/-- **Data**: changes of the data alone move data. -/
theorem frames_transfer : Frames io dataParts (Transfer R) where
  refl := Transfer.refl ha
  trans := Transfer.trans ha
  change := by
    intro part s s' hpart hchange
    have hdev {d : D} (hd : R s.dev d) (drv : Driver) (hostMem : Nat → UInt8)
        (recvBuff sendBuff : Staging) : Transfer R s { s with drv, dev := d, hostMem, recvBuff, sendBuff } :=
      ⟨rfl, rfl, rfl, rfl, fun _ => rfl, fun _ => rfl, rfl, hd⟩
    cases hchange with
    | recv s sock rx =>
      refine ⟨rfl, rfl, rfl, rfl, fun sock' => ?_, fun sock' => ?_, rfl, ha.refl _⟩
      · exact (setRx_socket s sock sock' rx).1
      · exact (setRx_socket s sock sock' rx).2
    | send s sock tx =>
      refine ⟨rfl, rfl, rfl, rfl, fun sock' => ?_, fun sock' => ?_, rfl, ha.refl _⟩
      · exact (setTx_socket s sock sock' tx).1
      · exact (setTx_socket s sock sock' tx).2
    | record s e =>
      have hne : e.part ≠ .connections := by
        intro heq
        rw [heq] at hpart
        simp [dataParts] at hpart
      exact ⟨rfl, rfl, rfl, rfl, fun _ => rfl, fun _ => rfl, fdUses_record s hne, ha.refl _⟩
    | ctrlRxBuff | h2tPacket | mgmtPacket | t2hHeader | mgmtRspHeader =>
      exact ⟨rfl, rfl, rfl, rfl, fun _ => rfl, fun _ => rfl, rfl, ha.refl _⟩
    | staging | hostMem | sop | ring => exact hdev (ha.refl _) _ _ _ _
    | register s offset h => exact hdev (ha.read32 offset _) _ _ _ _
    | read s offset => exact hdev (ha.read64 offset _) _ _ _ _
    | write s offset v => exact hdev (ha.write64 offset v _) _ _ _ _
    | done s offset v h => exact hdev (ha.done offset v _ h) _ _ _ _
    | _ => simp [dataParts] at hpart

include ha in
theorem transfer_sendAll (sock : Sock) (bs : List UInt8) (s : Srv D) :
    Transfer R s (s.sendAll sock bs).2 :=
  (frames_transfer ha).changes (changes_sendAll sock bs s) (by simp [dataParts])

include ha in
theorem transfer_h2t {x : ReturnCode × Srv D} (h : processH2tData io cfg s = some x) :
    Transfer R s x.2 :=
  (frames_transfer ha).changes (changes_h2t h) (by simp [h2tParts, dataParts, Set.insert_subset_iff])

include ha in
theorem transfer_t2h (s : Srv D) : Transfer R s (processT2hData io cfg s).2 :=
  (frames_transfer ha).changes (changes_t2h s) (by simp [t2hParts, dataParts, Set.insert_subset_iff])

include ha in
theorem transfer_mgmt {x : ReturnCode × Srv D} (h : processMgmtData io cfg s = some x) :
    Transfer R s x.2 :=
  (frames_transfer ha).changes (changes_mgmt h) (by simp [mgmtParts, dataParts, Set.insert_subset_iff])

include ha in
theorem transfer_mgmtRsp (s : Srv D) : Transfer R s (processMgmtRspData io cfg s).2 :=
  (frames_transfer ha).changes (changes_mgmtRsp s)
    (by simp [mgmtRspParts, dataParts, Set.insert_subset_iff])

include ha in
theorem transfer_recvControl (s : Srv D) : Transfer R s (recvControl s).2 :=
  (frames_transfer ha).changes (changes_recvControl s) (by simp [dataParts, Set.insert_subset_iff])

include ha in
theorem transfer_verifyHandle (sock : Sock) (handle : Nat) (s : Srv D) :
    Transfer R s (verifyHandle sock handle s).2 :=
  (frames_transfer ha).changes (changes_verifyHandle sock handle s)
    (by simp [dataParts, Set.insert_subset_iff])

/-! ## Control messages -/

/-- The handlers of control messages, but for `set_parameter` and `set_driver_parameter`, change
nothing. -/
theorem dispatchControl_cases (ha : Accesses io R) {cmd : List UInt8} {x : ReturnCode × Bool × Srv D}
    (h : dispatchControl io cfg cmd s = some x) :
    (strstr cmd setParamCmd = some 0 ∧ x = respond (setParameter (cmd.drop setParamCmdLen) s).1 128
        (setParameter (cmd.drop setParamCmdLen) s).2) ∨
      (∃ y, strstr cmd setDriverParamCmd = some 0 ∧
        setDriverParameter io (cmd.drop setDriverParamCmdLen) s = some y ∧
        x = respond y.1 256 y.2) ∨
      Transfer R s x.2.2 := by
  have hget (paramName : List UInt8) : Transfer R s (getDriverParameter io paramName s).2 :=
    (frames_transfer ha).changes (changes_getDriverParameter paramName s)
      (by simp [dataParts, Set.insert_subset_iff])
  unfold dispatchControl at h
  split_ifs at h with hgetParam hping hdisc hset hsetDriver hgetDriver
  · obtain rfl := Option.some.inj h
    exact Or.inr (Or.inr (transfer_sendAll ha _ _ s))
  · obtain rfl := Option.some.inj h
    exact Or.inr (Or.inr (transfer_sendAll ha _ _ s))
  · obtain rfl := Option.some.inj h
    exact Or.inr (Or.inr (transfer_sendAll ha _ _ s))
  · exact Or.inl ⟨hset, (Option.some.inj h).symm⟩
  · obtain ⟨y, hy, rfl⟩ := Option.map_eq_some_iff.mp h
    exact Or.inr (Or.inl ⟨y, hsetDriver, hy, rfl⟩)
  · obtain rfl := Option.some.inj h
    exact Or.inr (Or.inr ((hget _).trans ha (transfer_sendAll ha _ _ _)))
  · obtain rfl := Option.some.inj h
    exact Or.inr (Or.inr (transfer_sendAll ha _ _ s))

theorem transfer_setDriverParameter {paramName : List UInt8} {y : List UInt8 × Srv D}
    (h : setDriverParameter io paramName s = some y) : Transfer (fun _ _ => True) s y.2 := by
  obtain ⟨d, -, rfl⟩ := Option.map_eq_some_iff.mp h
  refine ⟨rfl, rfl, rfl, rfl, fun _ => rfl, fun _ => rfl, ?_, trivial⟩
  exact fdUses_record _ (by simp [Event.part])

end RemoteDebug
