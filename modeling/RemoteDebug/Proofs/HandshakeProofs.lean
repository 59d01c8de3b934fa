import RemoteDebug.Hardware.DebugSession
import RemoteDebug.Proofs.SocketProofs

/-!
# The handshake

A client is only accepted if each of its five sockets has sent the handle message of its own channel
and of this session. The messages differ for different channels and handles.
-/

namespace RemoteDebug

open Bytes CString Script

variable {D : Type} {io : Mmio D} {cfg : Config} {s s' : Srv D} {sock : Sock} {handle : Nat}

/-! ## Handle messages -/

/-- The text that a client sends on a socket. -/
def handleText (sock : Sock) (handle : Nat) : List UInt8 :=
  sockName sock ++ ascii " HANDLE=" ++ ascii (Nat.repr handle)

/-- The stream of a socket starts with the text and its NUL, within 64 bytes. -/
def Acknowledges (rx : List RecvEvent) (text : List UInt8) : Prop :=
  0 ∉ text ∧ text.length < 64 ∧ ∃ rest, pending rx = text ++ 0 :: rest

theorem zero_notMem_repr (n : Nat) : 0 ∉ ascii (Nat.repr n) := fun h => by
  have hd := toNat_of_mem_ascii_repr h
  simp at hd

theorem zero_notMem_handleText (sock : Sock) (handle : Nat) : 0 ∉ handleText sock handle := by
  have hname : 0 ∉ sockName sock ++ ascii " HANDLE=" := by cases sock <;> decide
  exact fun h => (List.mem_append.mp h).elim hname (zero_notMem_repr handle)

/-- The handle is the result of `rand`, which has at most ten digits. -/
theorem length_handleText_lt (sock : Sock) (hh : handle < 2 ^ 31) :
    (handleText sock handle).length < 64 := by
  have hdigits : (ascii (Nat.repr handle)).length ≤ 10 := length_ascii_repr (by omega) (by omega)
  have hname : (sockName sock ++ ascii " HANDLE=").length ≤ 27 := by cases sock <;> decide
  rw [handleText, List.length_append]
  omega

/-- **Handle messages differ**: what stands in front of the equals sign determines the channel. -/
theorem handleText_inj {sock' : Sock} {handle' : Nat}
    (h : handleText sock handle = handleText sock' handle') : sock = sock' ∧ handle = handle' := by
  have hsplit (sock : Sock) (handle : Nat) :
      (handleText sock handle).takeWhile (· ≠ 0x3D) = sockName sock ++ ascii " HANDLE" := by
    have hname : ∀ b ∈ sockName sock ++ ascii " HANDLE", decide (b ≠ 0x3D) = true := by
      apply List.all_eq_true.mp
      cases sock <;> rfl
    have htext : handleText sock handle
        = (sockName sock ++ ascii " HANDLE") ++ 0x3D :: ascii (Nat.repr handle) := by
      rw [handleText, show ascii " HANDLE=" = ascii " HANDLE" ++ [0x3D] from by decide]
      simp only [List.append_assoc, List.cons_append, List.nil_append]
    rw [htext, List.takeWhile_append_of_pos hname]
    simp
  have hsock : sock = sock' := by
    have hfront := congrArg (List.takeWhile (· ≠ 0x3D)) h
    rw [hsplit, hsplit] at hfront
    have hnames := List.append_cancel_right hfront
    revert hnames
    cases sock <;> cases sock' <;> decide
  subst hsock
  exact ⟨rfl, ascii_repr_injective (List.append_cancel_left h)⟩

/-- No stream starts with two different texts. -/
theorem Acknowledges.unique {rx : List RecvEvent} {text text' : List UInt8}
    (h : Acknowledges rx text) (h' : Acknowledges rx text') : text = text' := by
  obtain ⟨hnul, -, rest, hp⟩ := h
  obtain ⟨hnul', -, rest', hp'⟩ := h'
  rw [← cstr_append_nul hnul rest, ← hp, hp', cstr_append_nul hnul']

/-! ## One socket -/

theorem generateExpectedHandleMessage_eq (sock : Sock) (hh : handle < 2 ^ 31) :
    generateExpectedHandleMessage ctrlTxBuffSz (sockName sock) handle = handleText sock handle := by
  have hlen := length_handleText_lt sock hh
  have hroom : 64 ≤ ctrlTxBuffSz - 1 := by decide
  show (handleText sock handle).take (ctrlTxBuffSz - 1) = handleText sock handle
  exact List.take_of_length_le (by omega)

/-- The handle message has been received and compared. -/
theorem verifyHandle_ok (hh : handle < 2 ^ 31) (h : verifyHandle sock handle s = (.ok, s')) :
    Acknowledges (s.client sock).rx (handleText sock handle) ∧ s'.env = s.env ∧
      (s'.client sock).fd = (s.client sock).fd ∧
      ∀ sock', sock' ≠ sock → s'.client sock' = s.client sock' := by
  have htext := length_handleText_lt sock hh
  have hlen := socketRecvUntilNullReached_length_le (s.client sock).rx maxHandleRsp
  unfold verifyHandle at h
  dsimp only at h
  obtain ⟨rc, bs, rx', hrecv⟩ : ∃ rc bs rx',
      socketRecvUntilNullReached (s.client sock).rx maxHandleRsp = (rc, bs, rx') := ⟨_, _, _, rfl⟩
  rw [hrecv] at h hlen
  dsimp only at h hlen
  split at h
  · next hok =>
    subst hok
    obtain ⟨h0, hpend, -⟩ := socketRecvUntilNullReached_ok hrecv
    obtain ⟨r, hbs⟩ := exists_eq_cstr_append h0
    rw [generateExpectedHandleMessage_eq sock hh] at h
    split at h
    · next heq =>
      have hbuff : (s.conn.ctrlRxBuff.store bs).bytes
          = cstr bs ++ 0 :: (r ++ s.conn.ctrlRxBuff.bytes.drop bs.length) := by
        rw [Buff.store_bytes _ (hlen.trans (by decide))]
        conv_lhs => rw [hbs]
        simp only [List.append_assoc, List.cons_append]
        rw [← hbs]
      have hcmp : strncmpEq 64 (s.conn.ctrlRxBuff.store bs).bytes (handleText sock handle) = true :=
        heq
      rw [hbuff] at hcmp
      have hstr : cstr bs = handleText sock handle :=
        (strncmpEq_iff (zero_notMem_cstr bs) (zero_notMem_handleText sock handle) _ htext).mp hcmp
      have hack : Acknowledges (s.client sock).rx (handleText sock handle) := by
        refine ⟨zero_notMem_handleText sock handle, htext, r ++ pending rx', ?_⟩
        rw [hpend, ← hstr]
        conv_lhs => rw [hbs]
        simp
      have hs' := congrArg Prod.snd h
      subst hs'
      refine ⟨hack, rfl, ?_, fun sock' hne => ?_⟩
      · simp [Srv.sendAll, Srv.setTx, Srv.setRx, Srv.record]
      · simp [Srv.sendAll, Srv.setTx, Srv.setRx, Srv.record, Function.update_of_ne hne]
    · cases congrArg Prod.fst h
  · cases congrArg Prod.fst h

theorem acceptSocket_ok (h : (acceptSocket sock s).1 = true) :
    ∃ c rest, s.env.accepts = some c :: rest ∧ (acceptSocket sock s).2.env.accepts = rest ∧
      (acceptSocket sock s).2.client = Function.update s.client sock c := by
  unfold acceptSocket at h ⊢
  cases haccepts : s.env.accepts with
  | nil => simp [haccepts] at h
  | cons e rest =>
    cases e with
    | none => simp [haccepts] at h
    | some c => exact ⟨c, rest, rfl, rfl, rfl⟩

/-- The next connection has become the socket `sock` of the client, and has acknowledged it. -/
structure Joined (handle : Nat) (sock : Sock) (s s' : Srv D) : Prop where
  taken : ∃ c, s.env.accepts = some c :: s'.env.accepts ∧ (s'.client sock).fd = c.fd ∧
    Acknowledges c.rx (handleText sock handle)
  others : ∀ sock', sock' ≠ sock → s'.client sock' = s.client sock'

theorem connectClientSocket_ok {useNagle : Bool} (hh : handle < 2 ^ 31)
    (h : connectClientSocket handle sock useNagle s = (.ok, s')) : Joined handle sock s s' := by
  unfold connectClientSocket at h
  dsimp only at h
  split at h
  · next hacc =>
    obtain ⟨c, rest, haccepts, hrest, hclient⟩ := acceptSocket_ok hacc
    split at h
    · obtain ⟨hack, henv, hfd, hothers⟩ := verifyHandle_ok hh h
      have hsock : (setTcpNoDelay sock (!useNagle) (acceptSocket sock s).2).2.client sock
          = { c with noDelay := ((setTcpNoDelay sock (!useNagle) (acceptSocket sock s).2).2.client
              sock).noDelay } := by
        simp [setTcpNoDelay, Srv.record, hclient]
      rw [hsock] at hack hfd
      refine ⟨⟨c, ?_, hfd, hack⟩, fun sock' hne => ?_⟩
      · rw [haccepts, henv, ← hrest]
        rfl
      · rw [hothers sock' hne]
        simp [setTcpNoDelay, Srv.record, hclient, Function.update_of_ne hne]
    · cases congrArg Prod.fst h
  · cases congrArg Prod.fst h

/-! ## All sockets -/

theorem andThen_ok {x : ReturnCode × Srv D} {f : Srv D → ReturnCode × Srv D}
    (h : andThen x f = (.ok, s')) : ∃ s1, x = (.ok, s1) ∧ f s1 = (.ok, s') := by
  unfold andThen at h
  split at h
  · next hok => exact ⟨x.2, Prod.ext hok rfl, h⟩
  · next hnok => exact absurd (congrArg Prod.fst h) hnok

theorem connectCtrl_ok (hh : handle < 2 ^ 31)
    (h : andThen (connectCtrl io cfg handle s) (verifyHandle .ctrl handle) = (.ok, s')) :
    Joined handle .ctrl s s' := by
  obtain ⟨s1, hctrl, hverify⟩ := andThen_ok h
  obtain ⟨hack, henv, hfd, hothers⟩ := verifyHandle_ok hh hverify
  unfold connectCtrl at hctrl
  dsimp only at hctrl
  split at hctrl
  · next hacc =>
    obtain ⟨c, rest, haccepts, hrest, hclient⟩ := acceptSocket_ok hacc
    obtain rfl := congrArg Prod.snd hctrl
    refine ⟨⟨c, ?_, ?_, ?_⟩, fun sock' hne => ?_⟩
    · rw [haccepts, henv, ← hrest]
      rfl
    · rw [hfd]
      simp [Srv.sendAll, Srv.setTx, Srv.record, hclient]
    · simpa [Srv.sendAll, Srv.setTx, Srv.record, hclient] using hack
    · rw [hothers sock' hne]
      simp [Srv.sendAll, Srv.setTx, Srv.record, hclient, Function.update_of_ne hne]
  · cases congrArg Prod.fst hctrl

/-- The client with these five connections. -/
abbrev socketsOf (ctrl mgmt mgmtRsp h2tData t2hData : Socket) : ClientConn
  | .ctrl => ctrl
  | .mgmt => mgmt
  | .mgmtRsp => mgmtRsp
  | .h2tData => h2tData
  | .t2hData => t2hData

/-- The next five connections have become the sockets of the client, and each has acknowledged its own
channel and this handle. -/
structure SessionJoined (handle : Nat) (c : Sock → Socket) (s s' : Srv D) : Prop where
  taken : s.env.accepts
    = [some (c .ctrl), some (c .mgmt), some (c .mgmtRsp), some (c .h2tData), some (c .t2hData)]
      ++ s'.env.accepts
  fd : ∀ sock, (s'.client sock).fd = (c sock).fd
  acknowledged : ∀ sock, Acknowledges (c sock).rx (handleText sock handle)

theorem connectSockets_ok (hh : handle < 2 ^ 31)
    (h : connectSockets io cfg handle s = (.ok, s')) : ∃ c, SessionJoined handle c s s' := by
  unfold connectSockets at h
  obtain ⟨s4, h4, ht2h⟩ := andThen_ok h
  obtain ⟨s3, h3, hh2t⟩ := andThen_ok h4
  obtain ⟨s2, h2, hmgmtRsp⟩ := andThen_ok h3
  obtain ⟨s1, h1, hmgmt⟩ := andThen_ok h2
  obtain ⟨⟨c1, ha1, hf1, hk1⟩, -⟩ := connectCtrl_ok hh h1
  obtain ⟨⟨c2, ha2, hf2, hk2⟩, ho2⟩ := connectClientSocket_ok hh hmgmt
  obtain ⟨⟨c3, ha3, hf3, hk3⟩, ho3⟩ := connectClientSocket_ok hh hmgmtRsp
  obtain ⟨⟨c4, ha4, hf4, hk4⟩, ho4⟩ := connectClientSocket_ok hh hh2t
  obtain ⟨⟨c5, ha5, hf5, hk5⟩, ho5⟩ := connectClientSocket_ok hh ht2h
  refine ⟨socketsOf c1 c2 c3 c4 c5, by rw [ha1, ha2, ha3, ha4, ha5]; rfl, fun sock => ?_, fun sock => ?_⟩
  · cases sock with
    | ctrl => rw [ho5 _ (by decide), ho4 _ (by decide), ho3 _ (by decide), ho2 _ (by decide), hf1]
    | mgmt => rw [ho5 _ (by decide), ho4 _ (by decide), ho3 _ (by decide), hf2]
    | mgmtRsp => rw [ho5 _ (by decide), ho4 _ (by decide), hf3]
    | h2tData => rw [ho5 _ (by decide), hf4]
    | t2hData => exact hf5
  · cases sock with
    | ctrl => exact hk1
    | mgmt => exact hk2
    | mgmtRsp => exact hk3
    | h2tData => exact hk4
    | t2hData => exact hk5

/-- A successful `connect_client`: the driver has been initialised, the five sockets have been
connected, and `READY` has been sent. -/
theorem connectClient_ok (h : connectClient io cfg s = (.ok, s')) :
    ∃ s0 s1, s0 = { s with
        env := { s.env with handles := s.env.handles.tail }
        drv := (initDriver io cfg.info s.drv s.dev).2.1
        dev := (initDriver io cfg.info s.drv s.dev).2.2 } ∧
      (initDriver io cfg.info s.drv s.dev).1 = 0 ∧
      connectSockets io cfg (s.env.handles.headD 1) s0 = (.ok, s1) ∧
      s1.sendAll .ctrl (message readyMsg readyMsgLen) = (.ok, s') := by
  unfold connectClient at h
  dsimp only at h
  generalize ({ s with
    env := { s.env with handles := s.env.handles.tail }
    drv := (initDriver io cfg.info s.drv s.dev).2.1
    dev := (initDriver io cfg.info s.drv s.dev).2.2 } : Srv D) = s0 at h ⊢
  refine ⟨s0, (connectSockets io cfg (s.env.handles.headD 1) s0).2, rfl, ?_⟩
  generalize connectSockets io cfg (s.env.handles.headD 1) s0 = y at h ⊢
  split at h
  · cases congrArg Prod.fst h
  · next hinit =>
    split at h
    · next hok =>
      split at h
      · next hsent =>
        obtain ⟨-, hs'⟩ := Prod.mk.inj h
        exact ⟨by simpa using hinit, Prod.ext hok rfl, Prod.ext hsent hs'⟩
      · cases congrArg Prod.fst h
    · cases congrArg Prod.fst h

/-- **The sockets of a session**: if `connect_client` succeeds, its five sockets are the next five
connections, each has sent the text of its own channel and of this session's handle first, and none
has acknowledged another channel or handle. -/
theorem session_sockets_authentic (io : Mmio D) (cfg : Config) {s s' : Srv D}
    (hh : s.env.handles.headD 1 < 2 ^ 31) (h : connectClient io cfg s = (.ok, s')) :
    ∃ c, SessionJoined (s.env.handles.headD 1) c s s' ∧
      ∀ sock sock' handle', Acknowledges (c sock).rx (handleText sock' handle') →
        sock' = sock ∧ handle' = s.env.handles.headD 1 := by
  obtain ⟨s0, s1, hs0, -, hsockets, hready⟩ := connectClient_ok h
  obtain ⟨c, htaken, hfd, hack⟩ := connectSockets_ok hh hsockets
  have haccepts : s0.env.accepts = s.env.accepts := by rw [hs0]
  have hclient (sock : Sock) : (s'.client sock).fd = (s1.client sock).fd := by
    obtain rfl := congrArg Prod.snd hready
    by_cases hc : sock = .ctrl
    · subst hc
      simp [Srv.sendAll, Srv.setTx, Srv.record]
    · simp [Srv.sendAll, Srv.setTx, Srv.record, Function.update_of_ne hc]
  have henv : s'.env = s1.env := by
    obtain rfl := congrArg Prod.snd hready
    rfl
  rw [haccepts] at htaken
  refine ⟨c, ⟨henv ▸ htaken, fun sock => (hclient sock).trans (hfd sock), hack⟩, ?_⟩
  intro sock sock' handle' hack'
  exact handleText_inj (hack'.unique (hack sock))

theorem session_sockets_authentic_one :
    ∃ c, SessionJoined 1 c (DebugIp.listening (DebugIp.clientSockets 1 fun _ => []) [])
      (connectClient debugIp DebugIp.design
        (DebugIp.listening (DebugIp.clientSockets 1 fun _ => []) [])).2 := by
  generalize hs : DebugIp.listening (DebugIp.clientSockets 1 fun _ => []) [] = s
  have hok : (connectClient debugIp DebugIp.design s).1 = .ok := by
    subst hs
    decide +kernel
  have hhandle : s.env.handles.headD 1 = 1 := by
    subst hs
    rfl
  generalize hs' : (connectClient debugIp DebugIp.design s).2 = s'
  obtain ⟨c, hjoin, -⟩ := session_sockets_authentic debugIp DebugIp.design
    (by rw [hhandle]; decide) (Prod.ext hok hs')
  exact ⟨c, hhandle ▸ hjoin⟩

end RemoteDebug
