import RemoteDebug.Hardware.DebugSession
import RemoteDebug.Proofs.ServerRunProofs
import RemoteDebug.Proofs.TransferProofs

/-!
# Accepted connections

Every accepted connection is closed exactly once: those of extra clients at once, those of a session
at its end. `Opened` and `Serving` say what is open during the handshake and during the session.
-/

namespace RemoteDebug

open Bytes Ledger Runs

variable {D : Type} {io : Mmio D} {cfg : Config} {s s' s'' : Srv D} {base : List (Use Int)}

/-! ## Calls that neither accept nor close -/

/-- Nothing has been accepted or closed from `s` to `s'`. -/
structure SameFds (s s' : Srv D) : Prop where
  accepts : s'.env.accepts = s.env.accepts
  fd : ∀ sock, (s'.client sock).fd = (s.client sock).fd
  uses : fdUses s'.log = fdUses s.log

theorem SameFds.refl (s : Srv D) : SameFds s s := ⟨rfl, fun _ => rfl, rfl⟩

theorem SameFds.trans (h : SameFds s s') (h' : SameFds s' s'') : SameFds s s'' :=
  ⟨h'.accepts.trans h.accepts, fun sock => (h'.fd sock).trans (h.fd sock), h'.uses.trans h.uses⟩

/-- Of the parts only these concern what is accepted and what is closed. -/
def fdParts : Set StatePart := {.connections, .clients} ∪ Set.range .socket

/-- **Descriptors**: without a change of the connections nothing is accepted or closed. -/
theorem frames_sameFds (io : Mmio D) : Frames io fdPartsᶜ SameFds where
  refl := SameFds.refl
  trans := SameFds.trans
  change := by
    intro part s s' hpart hchange
    cases hchange with
    | recv s sock rx => exact ⟨rfl, fun sock' => (setRx_socket s sock sock' rx).1, rfl⟩
    | send s sock tx => exact ⟨rfl, fun sock' => (setTx_socket s sock sock' tx).1, rfl⟩
    | option s sock noDelay =>
      refine ⟨rfl, fun sock' => ?_, rfl⟩
      by_cases h : sock' = sock
      · subst h
        simp
      · simp [Function.update_of_ne h]
    | record s e =>
      have hne : e.part ≠ .connections := by
        intro heq
        rw [heq] at hpart
        simp [fdParts] at hpart
      exact ⟨rfl, fun _ => rfl, fdUses_record s hne⟩
    | env s env h => exact ⟨h, fun _ => rfl, rfl⟩
    | socket | connections | clients => simp [fdParts] at hpart
    | _ => exact ⟨rfl, fun _ => rfl, rfl⟩

theorem sameFds_sendAll (io : Mmio D) (sock : Sock) (bs : List UInt8) (s : Srv D) :
    SameFds s (s.sendAll sock bs).2 :=
  (frames_sameFds io).changes (changes_sendAll sock bs s) (by simp [fdParts])

theorem sameFds_sendOnce (io : Mmio D) (sock : Sock) (bs : List UInt8) (s : Srv D) :
    SameFds s (s.sendOnce sock bs) :=
  (frames_sameFds io).changes (changes_sendOnce sock bs s) (by simp [fdParts])

theorem sameFds_verifyHandle (io : Mmio D) (sock : Sock) (handle : Nat) (s : Srv D) :
    SameFds s (verifyHandle sock handle s).2 :=
  (frames_sameFds io).changes (changes_verifyHandle sock handle s)
    (by simp [fdParts, Set.insert_subset_iff])

theorem sameFds_setTcpNoDelay (io : Mmio D) (sock : Sock) (noDelay : Bool) (s : Srv D) :
    SameFds s (setTcpNoDelay sock noDelay s).2 :=
  (frames_sameFds io).changes (changes_setTcpNoDelay io sock noDelay s)
    (by simp [fdParts, Set.insert_subset_iff])

/-- Between connecting and closing only `reject_client` accepts or closes. -/
theorem sameFds_step {may : D → D → Prop} {st st' : ServerState D} {a : ServerAction}
    (hstep : CallStep io cfg may st a st') (hconn : a ≠ .connect) (hclose : a ≠ .close)
    (hreject : a ≠ .reject) : SameFds st.srv st'.srv := by
  apply (frames_sameFds io).changes (changes_step hstep)
  cases a with
  | connect => exact absurd rfl hconn
  | close => exact absurd rfl hclose
  | reject => exact absurd rfl hreject
  | _ =>
    simp [actionParts, controlParts, parameterParts, mgmtParts, h2tParts, mgmtRspParts, t2hParts,
      fdParts, Set.insert_subset_iff]

/-! ## Handshake -/

/-- The sockets in the order in which they are accepted and closed. -/
def allSocks : List Sock := [.ctrl, .mgmt, .mgmtRsp, .h2tData, .t2hData]

/-- The descriptors of the sockets that are not `INVALID_SOCKET`. -/
def openFds (client : ClientConn) : List Int :=
  (allSocks.map fun sock => (client sock).fd).filter (· ≠ -1)

/-- `accept` does not return `-1` for a connection. -/
def AcceptsValid (s : Srv D) : Prop := ∀ c, some c ∈ s.env.accepts → c.fd ≠ -1

theorem openFds_congr {client client' : ClientConn}
    (h : ∀ sock, (client' sock).fd = (client sock).fd) : openFds client' = openFds client := by
  unfold openFds
  rw [List.map_congr_left fun sock _ => h sock]

/-- During the handshake: the open sockets have been accepted in this order, the sockets in `after`
have not been accepted. -/
structure Opened (base : List (Use Int)) (after : List Sock) (s : Srv D) : Prop where
  uses : fdUses s.log = base ++ (openFds s.client).map .acquire
  none : ∀ sock ∈ after, (s.client sock).fd = -1
  valid : AcceptsValid s

theorem Opened.same {after : List Sock} (h : Opened base after s) (hs : SameFds s s') :
    Opened base after s' :=
  ⟨by rw [hs.uses, h.uses, openFds_congr hs.fd], fun sock hsock => (hs.fd sock).trans
    (h.none sock hsock), fun c hc => h.valid c (hs.accepts ▸ hc)⟩

theorem Opened.mono {after after' : List Sock} (h : Opened base after s) (hsub : after' ⊆ after) :
    Opened base after' s :=
  ⟨h.uses, fun sock hsock => h.none sock (hsub hsock), h.valid⟩

/-- The next socket in the order is accepted, or remains closed. -/
theorem Opened.accept {after : List Sock} {sock : Sock} (h : Opened base (sock :: after) s)
    (before : List Sock) (hall : allSocks = before ++ sock :: after) :
    Opened base after (acceptSocket sock s).2 := by
  have hnodup : (before ++ sock :: after).Nodup := hall ▸ (by decide)
  have hnotin : sock ∉ before ∧ sock ∉ after := by
    rw [List.nodup_append, List.nodup_cons] at hnodup
    exact ⟨fun hb => hnodup.2.2 sock hb sock (by simp) rfl, hnodup.2.1.1⟩
  have hsock : (s.client sock).fd = -1 := h.none sock (by simp)
  have hfds (c : Socket) : openFds (Function.update s.client sock c)
      = openFds s.client ++ if c.fd ≠ -1 then [c.fd] else [] := by
    have hother (l : List Sock) (hl : sock ∉ l) :
        l.map (fun x => (Function.update s.client sock c x).fd) = l.map fun x => (s.client x).fd :=
      List.map_congr_left fun x hx => by
        rw [Function.update_of_ne (ne_of_mem_of_not_mem hx hl)]
    have hrest : (after.map fun x => (s.client x).fd).filter (· ≠ -1) = [] := by
      rw [List.filter_eq_nil_iff]
      intro fd hfd
      obtain ⟨x, hx, rfl⟩ := List.mem_map.mp hfd
      simp [h.none x (List.mem_cons_of_mem _ hx)]
    unfold openFds
    rw [hall]
    simp only [List.map_append, List.map_cons, List.filter_append, List.filter_cons,
      hother _ hnotin.1, hother _ hnotin.2, Function.update_self, hsock, hrest]
    by_cases hc : c.fd = -1 <;> simp [hc]
  have hnone (c : Socket) : ∀ x ∈ after, (Function.update s.client sock c x).fd = -1 := by
    intro x hx
    rw [Function.update_of_ne (ne_of_mem_of_not_mem hx hnotin.2)]
    exact h.none x (List.mem_cons_of_mem _ hx)
  have hinvalid : openFds (Function.update s.client sock invalidSocket) = openFds s.client := by
    rw [hfds]
    simp [invalidSocket]
  unfold acceptSocket
  split
  · next c rest haccepts =>
    have hc : c.fd ≠ -1 := h.valid c (by rw [haccepts]; simp)
    refine ⟨?_, hnone c, fun c' hc' => h.valid c' ?_⟩
    · simp only [Srv.record]
      rw [fdUses_append, h.uses, hfds, if_pos hc, List.map_append, List.append_assoc]
      rfl
    · rw [haccepts]
      exact List.mem_cons_of_mem _ hc'
  · next rest haccepts =>
    refine ⟨by rw [hinvalid]; exact h.uses, hnone _, fun c' hc' => h.valid c' ?_⟩
    rw [haccepts]
    exact List.mem_cons_of_mem _ hc'
  · exact ⟨by rw [hinvalid]; exact h.uses, hnone _, h.valid⟩

theorem opened_connectClientSocket (io : Mmio D) {after : List Sock} {sock : Sock} {handle : Nat}
    {useNagle : Bool} (h : Opened base (sock :: after) s) (before : List Sock)
    (hall : allSocks = before ++ sock :: after) :
    Opened base after (connectClientSocket handle sock useNagle s).2 := by
  have hacc := h.accept before hall
  unfold connectClientSocket
  dsimp only
  split
  · split
    · exact (hacc.same (sameFds_setTcpNoDelay io _ _ _)).same (sameFds_verifyHandle io _ _ _)
    · exact hacc.same (sameFds_setTcpNoDelay io _ _ _)
  · exact hacc

theorem opened_andThen (after : List Sock) {after' : List Sock} {x : ReturnCode × Srv D}
    {f : Srv D → ReturnCode × Srv D} (h : Opened base after x.2) (hsub : after' ⊆ after)
    (hf : ∀ s, Opened base after s → Opened base after' (f s).2) :
    Opened base after' (andThen x f).2 := by
  unfold andThen
  split
  · exact hf _ h
  · exact h.mono hsub

theorem opened_connectSockets {handle : Nat} (h : Opened base allSocks s) :
    Opened base [] (connectSockets io cfg handle s).2 := by
  have hctrl : Opened base [.mgmt, .mgmtRsp, .h2tData, .t2hData]
      (connectCtrl io cfg handle s).2 := by
    have hacc := h.accept [] rfl
    unfold connectCtrl
    dsimp only
    split
    · have hdev (d : D) : SameFds (acceptSocket .ctrl s).2
          { (acceptSocket .ctrl s).2 with dev := d } := ⟨rfl, fun _ => rfl, rfl⟩
      exact (hacc.same (hdev _)).same (sameFds_sendAll io _ _ _)
    · exact hacc
  unfold connectSockets
  dsimp only
  refine opened_andThen [.t2hData] ?_ (by simp) fun s hs => ?_
  · refine opened_andThen [.h2tData, .t2hData] ?_ (by simp) fun s hs => ?_
    · refine opened_andThen [.mgmtRsp, .h2tData, .t2hData] ?_ (by simp) fun s hs => ?_
      · refine opened_andThen _ (opened_andThen _ hctrl (fun _ => id) fun s hs => ?_) (by simp) fun s hs => ?_
        · exact hs.same (sameFds_verifyHandle io _ _ _)
        · exact opened_connectClientSocket io hs [.ctrl] rfl
      · exact opened_connectClientSocket io hs [.ctrl, .mgmt] rfl
    · exact opened_connectClientSocket io hs [.ctrl, .mgmt, .mgmtRsp] rfl
  · exact opened_connectClientSocket io hs [.ctrl, .mgmt, .mgmtRsp, .h2tData] rfl

theorem opened_connectClient (h : Opened base allSocks s) :
    Opened base [] (connectClient io cfg s).2 := by
  unfold connectClient
  dsimp only
  generalize hs0 : ({ s with
    env := { s.env with handles := s.env.handles.tail }
    drv := (initDriver io cfg.info s.drv s.dev).2.1
    dev := (initDriver io cfg.info s.drv s.dev).2.2 } : Srv D) = s0
  have h0 : Opened base allSocks s0 := by
    subst hs0
    exact h.same ⟨rfl, fun _ => rfl, rfl⟩
  have h1 : Opened base [] (connectSockets io cfg (s.env.handles.headD 1) s0).2 :=
    opened_connectSockets h0
  generalize connectSockets io cfg (s.env.handles.headD 1) s0 = y at h1 ⊢
  split
  · exact h0.mono (by simp)
  · split
    · split <;> exact h1.same (sameFds_sendAll io _ _ _)
    · split
      · exact h1.same (sameFds_sendOnce io _ _ _)
      · exact h1

/-! ## Sessions -/

/-- The traces of extra clients. -/
def rejectedUses (extra : List Int) : List (Use Int) :=
  extra.flatMap fun fd => [.acquire fd, .release fd]

/-- The trace of a session with its own descriptors and those of extra clients. -/
def sessionUses (own extra : List Int) : List (Use Int) :=
  own.map .acquire ++ rejectedUses extra ++ own.map .release

/-- During a session: its own sockets are open, and extra clients have been rejected. -/
structure Serving (base : List (Use Int)) (own : List Int) (s : Srv D) : Prop where
  own_eq : openFds s.client = own
  uses : ∃ extra, fdUses s.log = base ++ own.map .acquire ++ rejectedUses extra
  valid : AcceptsValid s

theorem Serving.same {own : List Int} (h : Serving base own s) (hs : SameFds s s') :
    Serving base own s' :=
  ⟨(openFds_congr hs.fd).trans h.own_eq, by rw [hs.uses]; exact h.uses,
    fun c hc => h.valid c (hs.accepts ▸ hc)⟩

/-- `reject_client` closes what it accepts. -/
theorem Serving.reject {own : List Int} (h : Serving base own s) :
    Serving base own (rejectClient s) := by
  obtain ⟨extra, huses⟩ := h.uses
  unfold rejectClient
  split
  · next c rest haccepts =>
    refine ⟨h.own_eq, ⟨extra ++ [c.fd], ?_⟩, fun c' hc' => h.valid c' ?_⟩
    · simp only [Srv.record]
      rw [fdUses_append, fdUses_append, huses]
      simp [fdUses, fdUse, rejectedUses]
    · rw [haccepts]
      exact List.mem_cons_of_mem _ hc'
  · next rest haccepts =>
    refine ⟨h.own_eq, h.uses, fun c' hc' => h.valid c' ?_⟩
    rw [haccepts]
    exact List.mem_cons_of_mem _ hc'
  · exact h

theorem Serving.serves {own : List Int} {may : D → D → Prop} (h : Serving base own s)
    (hrun : Serves io cfg may s s') : Serving base own s' := by
  have hinv := hrun.invariant (fun s => Serving base own s.srv) ?_ h
  · exact hinv
  · rintro s a s' hs ⟨hconn, hclose, hhw⟩ hstep
    by_cases hreject : a = .reject
    · subst hreject
      cases hstep with
      | reject s => exact hs.reject
    · exact hs.same (sameFds_step hstep hconn hclose hreject)

theorem closeSocket_uses (sock : Sock) (x : Nat × Srv D) :
    (closeSocket sock x).2.client = x.2.client ∧
      (closeSocket sock x).2.env.accepts = x.2.env.accepts ∧
      fdUses (closeSocket sock x).2.log
        = fdUses x.2.log ++ (([(x.2.client sock).fd].filter (· ≠ -1)).map .release) := by
  unfold closeSocket
  split
  · next hfd =>
    refine ⟨rfl, rfl, ?_⟩
    simp only [Srv.record]
    rw [fdUses_append]
    simp [fdUses, fdUse, hfd]
  · next hfd =>
    have heq : (x.2.client sock).fd = -1 := by simpa using hfd
    exact ⟨rfl, rfl, by simp [heq]⟩

/-- `close_client_conn` closes the open sockets of the client, once each. -/
theorem closeClientConn_uses (s : Srv D) :
    (closeClientConn s).2.env.accepts = s.env.accepts ∧
      fdUses (closeClientConn s).2.log = fdUses s.log ++ (openFds s.client).map .release := by
  obtain ⟨hc1, ha1, hu1⟩ := closeSocket_uses .ctrl (0, s)
  obtain ⟨hc2, ha2, hu2⟩ := closeSocket_uses .mgmt (closeSocket .ctrl (0, s))
  obtain ⟨hc3, ha3, hu3⟩ := closeSocket_uses .mgmtRsp (closeSocket .mgmt (closeSocket .ctrl (0, s)))
  obtain ⟨hc4, ha4, hu4⟩ := closeSocket_uses .h2tData
    (closeSocket .mgmtRsp (closeSocket .mgmt (closeSocket .ctrl (0, s))))
  obtain ⟨-, ha5, hu5⟩ := closeSocket_uses .t2hData
    (closeSocket .h2tData (closeSocket .mgmtRsp (closeSocket .mgmt (closeSocket .ctrl (0, s)))))
  refine ⟨?_, ?_⟩
  · rw [closeClientConn]
    dsimp only
    rw [ha5, ha4, ha3, ha2, ha1]
  · rw [closeClientConn]
    dsimp only
    rw [hu5, hu4, hu3, hu2, hu1, hc4, hc3, hc2, hc1]
    simp only [openFds, allSocks, List.map_cons, List.map_nil, List.append_assoc,
      ← List.map_append, ← List.filter_append, List.cons_append, List.nil_append]

/-- One session: what it accepts it closes. -/
theorem serveSession_uses {x : ReturnCode × Srv D} (hvalid : AcceptsValid s)
    (h : serveSession io cfg s = some x) :
    AcceptsValid x.2 ∧ ∃ own extra, own.length ≤ 5 ∧
      fdUses x.2.log = fdUses s.log ++ sessionUses own extra := by
  have hopen : Opened (fdUses s.log) allSocks
      ({ resetBuffers s with client := clientConnDefault } : Srv D) :=
    ⟨by simp [openFds, allSocks, clientConnDefault, invalidSocket, resetBuffers],
      fun sock _ => rfl, hvalid⟩
  have hconn : Opened (fdUses s.log) [] (connectClient io cfg _).2 := opened_connectClient hopen
  unfold serveSession at h
  dsimp only at h
  generalize connectClient io cfg ({ resetBuffers s with client := clientConnDefault } : Srv D) = y
    at h hconn
  have hlen : (openFds y.2.client).length ≤ 5 :=
    (List.length_filter_le _ _).trans (by simp [allSocks])
  have hserving : Serving (fdUses s.log) (openFds y.2.client) y.2 :=
    ⟨rfl, ⟨[], by rw [hconn.uses]; simp [rejectedUses]⟩, hconn.valid⟩
  have hfinish {s1 : Srv D} (h1 : Serving (fdUses s.log) (openFds y.2.client) s1) :
      AcceptsValid (closeClientConn s1).2 ∧ ∃ own extra, own.length ≤ 5 ∧
        fdUses (closeClientConn s1).2.log = fdUses s.log ++ sessionUses own extra := by
    obtain ⟨hacc, huses⟩ := closeClientConn_uses s1
    obtain ⟨extra, hextra⟩ := h1.uses
    refine ⟨fun c hc => h1.valid c (hacc ▸ hc), openFds y.2.client, extra, hlen, ?_⟩
    rw [huses, hextra, h1.own_eq, sessionUses]
    simp only [List.append_assoc]
  split at h
  · obtain ⟨s1, hhandle, rfl⟩ := Option.map_eq_some_iff.mp h
    have hentered : Serving (fdUses s.log) (openFds y.2.client)
        (y.2.record (.handleClient y.2.conn.h2tWaiting y.2.conn.mgmtWaiting)) :=
      hserving.same ⟨rfl, fun _ => rfl, by simp [fdUses, Srv.record, fdUse]⟩
    have hrun : Serves io cfg (fun _ _ => False)
        (y.2.record (.handleClient y.2.conn.h2tWaiting y.2.conn.mgmtWaiting)) s1 :=
      handleClientLoop_reach hhandle
    exact hfinish (hentered.serves hrun)
  · obtain rfl := Option.some.inj h
    exact hfinish hserving

theorem balanced_sessionUses (own extra : List Int) : Balanced (sessionUses own extra) :=
  balanced_nested own extra

/-- **Every accepted connection is closed exactly once**: the descriptors accepted and closed in any
sequence of sessions are, session by session, up to five that are accepted first and closed last, and
in between those of extra clients, each closed as soon as it is accepted. -/
theorem connections_closed_once (io : Mmio D) (cfg : Config) (hvalid : AcceptsValid s) (n : Nat)
    (h : serveSessions io cfg n s = some s') :
    ∃ sessions : List (List Int × List Int), sessions.length ≤ n ∧
      fdUses s'.log = fdUses s.log ++ sessions.flatMap (fun x => sessionUses x.1 x.2) ∧
      ∀ x ∈ sessions, x.1.length ≤ 5 ∧ Balanced (sessionUses x.1 x.2) := by
  induction n generalizing s with
  | zero =>
    obtain rfl := Option.some.inj h
    exact ⟨[], le_rfl, by simp, by simp⟩
  | succ n ih =>
    obtain ⟨x, hx, hrest⟩ := Option.bind_eq_some_iff.mp h
    obtain ⟨hvalid', own, extra, hlen, huses⟩ := serveSession_uses hvalid hx
    have hfirst : own.length ≤ 5 ∧ Balanced (sessionUses own extra) :=
      ⟨hlen, balanced_sessionUses own extra⟩
    split at hrest
    · obtain rfl := Option.some.inj hrest
      exact ⟨[(own, extra)], by simp, by simpa using huses, by simpa using hfirst⟩
    · obtain ⟨sessions, hn, huses', hall⟩ := ih hvalid' hrest
      refine ⟨(own, extra) :: sessions, by simpa using hn, ?_, ?_⟩
      · rw [huses', huses, List.flatMap_cons, List.append_assoc]
      · intro y hy
        rcases List.mem_cons.mp hy with rfl | hy
        · exact hfirst
        · exact hall y hy

/-- One client disconnects while another one is rejected, and the handshake of a third one ends behind
its control socket. -/
def DebugIp.threeClients : Srv DebugIp :=
  DebugIp.listening
    (DebugIp.clientSockets 1 (fun sock =>
        if sock = .ctrl then [.data (CString.ascii "DISCONNECT" ++ [0])] else [])
      ++ [some ⟨9, [], [], false⟩, some ⟨5, [], [], false⟩])
    [.ready false true true false false false false]

theorem connections_closed_once_three :
    ∃ s', serveSessions debugIp DebugIp.design 2 DebugIp.threeClients = some s' ∧
      ∃ sessions : List (List Int × List Int),
        fdUses s'.log = sessions.flatMap (fun x => sessionUses x.1 x.2) := by
  have hvalid : AcceptsValid DebugIp.threeClients := fun c hc => by
    simp only [DebugIp.threeClients, DebugIp.listening, DebugIp.clientSockets, List.mem_append,
      List.mem_map, Option.some.injEq, List.mem_cons, List.not_mem_nil, or_false] at hc
    rcases hc with ⟨sock, -, rfl⟩ | rfl | rfl <;> simp
  have hruns : (serveSessions debugIp DebugIp.design 2 DebugIp.threeClients).isSome := by
    decide +kernel
  obtain ⟨s', hs'⟩ := Option.isSome_iff_exists.mp hruns
  obtain ⟨sessions, -, huses, -⟩ := connections_closed_once debugIp DebugIp.design hvalid 2 hs'
  exact ⟨s', hs', sessions, huses⟩

end RemoteDebug
