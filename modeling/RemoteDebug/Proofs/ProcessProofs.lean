import RemoteDebug.Hardware.ProcessRun
import RemoteDebug.Proofs.ConnectionProofs

/-!
# Terminating the server

What `s_server_conn_ptr` and `server_fd` are at each place of the main thread, and that an orderly
termination closes the listening socket once.
-/

namespace RemoteDebug

open Ledger Runs

variable {D : Type} {io : Mmio D} {cfg : Config} {may : D → D → Prop} {s s' : Srv D}
  {p p' : Process D} {a : ProcessAction}

/-! ## Client sockets -/

/-- No invalid descriptor has been closed, and `accept` will not return one. -/
structure ClientsValid (s : Srv D) : Prop where
  closes : .release (-1) ∉ fdUses s.log
  accepts : AcceptsValid s

theorem mem_fdUses {s : Srv D} {fd : Int} (h : .closed fd ∈ s.log) : .release fd ∈ fdUses s.log :=
  List.mem_filterMap.mpr ⟨_, h, rfl⟩

theorem ClientsValid.same (h : ClientsValid s) (hs : SameFds s s') : ClientsValid s' :=
  ⟨hs.uses ▸ h.closes, fun c hc => h.accepts c (hs.accepts ▸ hc)⟩

theorem openFds_valid (client : ClientConn) : (-1 : Int) ∉ openFds client := by
  simp [openFds]

theorem ClientsValid.connect (h : ClientsValid s) :
    ClientsValid (ServerState.connect io cfg s).srv := by
  have hopen : Opened (fdUses s.log) allSocks
      ({ resetBuffers s with client := clientConnDefault } : Srv D) :=
    ⟨by simp [openFds, allSocks, clientConnDefault, invalidSocket, resetBuffers],
      fun sock _ => rfl, h.accepts⟩
  have hconn : Opened (fdUses s.log) [] (connectClient io cfg _).2 := opened_connectClient hopen
  have hvalid : ClientsValid (connectClient io cfg
      ({ resetBuffers s with client := clientConnDefault } : Srv D)).2 := by
    refine ⟨fun hmem => ?_, hconn.valid⟩
    rw [hconn.uses] at hmem
    rcases List.mem_append.mp hmem with hmem | hmem
    · exact h.closes hmem
    · simp at hmem
  unfold ServerState.connect
  dsimp only
  split
  · exact hvalid.same ⟨rfl, fun _ => rfl, by simp [fdUses, Srv.record, fdUse]⟩
  · exact hvalid

theorem ClientsValid.reject (h : ClientsValid s) : ClientsValid (rejectClient s) := by
  unfold rejectClient
  split
  · next c rest haccepts =>
    have hc : c.fd ≠ -1 := h.accepts c (by rw [haccepts]; simp)
    refine ⟨?_, fun c' hc' => h.accepts c' ?_⟩
    · simp only [Srv.record]
      rw [fdUses_append, fdUses_append]
      have hbase := h.closes
      simp [fdUses, fdUse] at hbase ⊢
      exact ⟨hbase, Ne.symm hc⟩
    · rw [haccepts]
      exact List.mem_cons_of_mem _ hc'
  · next rest haccepts =>
    refine ⟨h.closes, fun c' hc' => h.accepts c' ?_⟩
    rw [haccepts]
    exact List.mem_cons_of_mem _ hc'
  · exact h

theorem ClientsValid.close (h : ClientsValid s) : ClientsValid (closeClientConn s).2 := by
  obtain ⟨hacc, huses⟩ := closeClientConn_uses s
  refine ⟨fun hmem => ?_, fun c hc => h.accepts c (hacc ▸ hc)⟩
  rw [huses] at hmem
  rcases List.mem_append.mp hmem with hmem | hmem
  · exact h.closes hmem
  · obtain ⟨fd, hfd, heq⟩ := List.mem_map.mp hmem
    obtain rfl : fd = -1 := by simpa using heq
    exact openFds_valid _ hfd

theorem ClientsValid.step {st st' : ServerState D} {a : ServerAction} (h : ClientsValid st.srv)
    (hstep : CallStep io cfg may st a st') : ClientsValid st'.srv := by
  by_cases hconn : a = .connect
  · subst hconn
    cases hstep with
    | connect s => exact h.connect
  by_cases hclose : a = .close
  · subst hclose
    cases hstep with
    | close s => exact h.close
  by_cases hreject : a = .reject
  · subst hreject
    cases hstep with
    | reject s => exact h.reject
  exact h.same (sameFds_step hstep hconn hclose hreject)

theorem ClientsValid.serveSession {x : ReturnCode × Srv D} (h : ClientsValid s)
    (hserve : serveSession io cfg s = some x) : ClientsValid x.2 := by
  have hrun : Reach (CallStep io cfg fun _ _ => False) always ⟨s, false⟩ ⟨x.2, false⟩ :=
    serveSession_reach hserve
  exact hrun.invariant (fun st => ClientsValid st.srv) (fun _ _ _ hs _ hstep => hs.step hstep) h

/-! ## The listening socket -/

/-- What is open at a place: `server_fd`, unless it has been closed and not yet forgotten. -/
def openAt (place : Place) (serverFd : Int) : Multiset Int :=
  if serverFd = -1 ∨ place = .closed ∨ place = .terminateClosed then 0 else {serverFd}

/-- The pointer and the descriptor at each place of an orderly life. -/
def Process.PlaceOk (p : Process D) : Prop :=
  match p.place with
  | .main => p.serverFd = -1
  | .run | .initializeServer | .deleted => p.serverFd = -1 ∧ p.object = true
  | .bind | .serverMain => p.serverFd ≠ -1 ∧ p.object = true
  | .allocate | .serve | .close | .closed => p.serverFd ≠ -1 ∧ p.object = true ∧ p.ptr = true
  | .capture | .ret => p.object = true ∧ p.ptr = true
  | .terminate => p.object = true ∧ p.ptr = true ∧ p.frame = false
  | .terminateClose => p.serverFd ≠ -1 ∧ p.object = true ∧ p.ptr = true ∧ p.frame = false
  | .terminateClosed => p.object = true ∧ p.ptr = true
  | .terminateEnd => p.serverFd = -1 ∧ p.object = true ∧ p.ptr = true
  | .finished => p.serverFd = -1
  | .exited => p.serverFd = -1
  | .bindFailed | .bindClosed | .crashed => False

/-- An orderly life so far. -/
structure LifeInv (p : Process D) : Prop where
  place : p.PlaceOk
  noNull : .nullDeref ∉ p.log
  valid : ∀ done, .closed (-1) done ∉ p.log
  settled : settle (p.log.flatMap listenUse) 0 = some (openAt p.place p.serverFd)
  clients : ClientsValid p.sessions.srv

/-- A step that does nothing to the listening socket. -/
theorem LifeInv.move (h : LifeInv p) (hlog : p'.log = p.log) (hsrv : p'.sessions = p.sessions)
    (hopen : openAt p'.place p'.serverFd = openAt p.place p.serverFd) (hplace : p'.PlaceOk) :
    LifeInv p' :=
  ⟨hplace, hlog ▸ h.noNull, hlog ▸ h.valid, by rw [hlog, h.settled, hopen], hsrv ▸ h.clients⟩

/-- A step that opens or closes the listening socket. -/
theorem LifeInv.use (h : LifeInv p) {e : ListenEvent} (hlog : p'.log = p.log ++ [e])
    (hsrv : p'.sessions = p.sessions) (hnull : e ≠ .nullDeref)
    (hvalid : ∀ done, e ≠ .closed (-1) done)
    (hopen : settle (listenUse e) (openAt p.place p.serverFd)
      = some (openAt p'.place p'.serverFd)) (hplace : p'.PlaceOk) : LifeInv p' := by
  refine ⟨hplace, ?_, fun done => ?_, ?_, hsrv ▸ h.clients⟩
  · rw [hlog, List.mem_append, List.mem_singleton]
    rintro (hmem | heq)
    · exact h.noNull hmem
    · exact hnull heq.symm
  · rw [hlog, List.mem_append, List.mem_singleton]
    rintro (hmem | heq)
    · exact h.valid done hmem
    · exact hvalid done heq.symm
  · rw [hlog, List.flatMap_append, settle_append, h.settled, Option.bind_some,
      List.flatMap_singleton, hopen]

theorem settle_opened (fd : Int) : settle (listenUse (.opened fd)) 0 = some {fd} := rfl

/-- A call of `close` on the open socket. -/
theorem settle_closed (fd : Int) (done : Bool) :
    settle (listenUse (.closed fd done)) {fd} = some (if done then 0 else {fd}) := by
  cases done <;> simp [listenUse, settle]

theorem lifeInv_start (hs : ClientsValid s) : LifeInv (Process.start s) :=
  ⟨rfl, by simp [Process.start], by simp [Process.start], rfl, hs⟩

theorem openAt_none (place : Place) : openAt place (-1) = 0 := if_pos (Or.inl rfl)

theorem openAt_some {place : Place} {fd : Int} (hfd : fd ≠ -1) (hclosed : place ≠ .closed)
    (hterminate : place ≠ .terminateClosed) : openAt place fd = {fd} :=
  if_neg fun h => h.elim hfd fun h' => h'.elim hclosed hterminate

/-- A close of the open socket. -/
theorem LifeInv.close (h : LifeInv p) {done : Bool} (hlog : p'.log = p.log ++ [.closed p.serverFd done])
    (hsrv : p'.sessions = p.sessions) (hfd : p.serverFd ≠ -1) (hclosed : p.place ≠ .closed)
    (hterminate : p.place ≠ .terminateClosed)
    (hopen : openAt p'.place p'.serverFd = if done then 0 else {p.serverFd})
    (hplace : p'.PlaceOk) : LifeInv p' := by
  refine h.use hlog hsrv (fun he => by cases he) (fun done' he => ?_) ?_ hplace
  · exact hfd (ListenEvent.closed.inj he).1
  · rw [openAt_some hfd hclosed hterminate, settle_closed, hopen]

theorem readServerFd_eq {stale : Int} (h : stale = p.serverFd) : p.readServerFd stale = p.serverFd := by
  rw [Process.readServerFd, h, ite_self]

/-- `server_terminate` with a server whose descriptor is read right and can be closed. -/
theorem serverTerminate_eq {stale : Int} (hptr : p.ptr = true) (hstale : stale = p.serverFd) :
    p.serverTerminate stale true =
      if p.serverFd = -1 then { p with ptr := false }
      else { p with log := p.log ++ [.closed p.serverFd true], serverFd := -1, ptr := false } := by
  unfold Process.serverTerminate
  rw [if_pos hptr]
  dsimp only
  rw [readServerFd_eq hstale]
  by_cases hfd : p.serverFd = -1
  · rw [if_neg (not_not_intro hfd), if_pos hfd]
  · rw [if_pos hfd, if_pos rfl, if_neg hfd]
    rfl

/-- SIGINT finds a server that it can terminate, or none. -/
theorem LifeInv.sigHandler {stale : Int} {done : Bool} (h : LifeInv p)
    (hexited : p.place ≠ .exited) (hguard : Orderly p (.sigint stale done)) :
    LifeInv (p.sigHandler stale done) := by
  have hplace := h.place
  unfold Process.sigHandler
  by_cases hobject : p.object = true
  · rw [if_pos hobject]
    obtain ⟨hptr, hclosed, hterminate, hstale, rfl⟩ := hguard hobject
    have hcrashed : p.place ≠ .crashed := fun hp => by
      rw [Process.PlaceOk, hp] at hplace
      exact hplace
    dsimp only
    rw [serverTerminate_eq hptr hstale]
    by_cases hfd : p.serverFd = -1
    · rw [if_pos hfd, if_neg hcrashed]
      refine h.move rfl rfl ?_ hfd
      rw [hfd, openAt_none, openAt_none]
    · rw [if_neg hfd, if_neg hcrashed]
      exact h.close rfl rfl hfd hclosed hterminate (openAt_none _) rfl
  · rw [if_neg hobject]
    have hfd : p.serverFd = -1 := by
      revert hplace
      unfold Process.PlaceOk
      split <;> simp_all
    refine h.move rfl rfl ?_ hfd
    rw [hfd, openAt_none, openAt_none]

theorem LifeInv.step (h : LifeInv p) (hguard : Orderly p a)
    (hstep : ProcessStep io cfg may p a p') : LifeInv p' := by
  have hplace := h.place
  unfold Process.PlaceOk at hplace
  cases hstep with
  | new hp =>
    rw [hp] at hplace
    refine h.move rfl rfl ?_ ⟨hplace, rfl⟩
    simp [openAt, hplace]
  | start hp =>
    rw [hp] at hplace
    refine h.move rfl rfl ?_ ⟨rfl, hplace.2⟩
    simp [openAt, hplace.1]
  | noSocket hp => exact absurd rfl hguard
  | socket hp hfd =>
    rw [hp] at hplace
    refine h.use rfl rfl (fun he => by cases he) (fun _ he => by cases he) ?_ ⟨hguard, hplace.2⟩
    rw [hplace.1, openAt_none, settle_opened]
    exact congrArg some (openAt_some hguard (fun h' => by cases h') fun h' => by cases h').symm
  | bind hp ok =>
    rw [hp] at hplace
    obtain rfl : ok = true := hguard
    refine h.move rfl rfl ?_ hplace
    simp [openAt, hp]
  | closeFailed hp => rw [hp] at hplace; exact hplace.elim
  | forgetFailed hp => rw [hp] at hplace; exact hplace.elim
  | enter hp =>
    rw [hp] at hplace
    refine h.move rfl rfl ?_ ⟨hplace.1, hplace.2, rfl⟩
    simp [openAt, hp]
  | alloc hp ok =>
    rw [hp] at hplace
    cases ok with
    | true => exact h.move rfl rfl (by simp [openAt, hp]) hplace
    | false => exact h.move rfl rfl (by simp [openAt, hp]) hplace.2
  | serve hp hserve => exact ⟨h.place, h.noNull, h.valid, h.settled, h.clients.step hserve⟩
  | initErr hp hs hserve =>
    rw [hp] at hplace
    have hclients := h.clients
    rw [hs] at hclients
    refine ⟨hplace, h.noNull, h.valid, ?_, hclients.serveSession hserve⟩
    rw [h.settled, hp]
    simp [openAt]
  | close hp done =>
    rw [hp] at hplace
    refine h.close rfl rfl hplace.1 (by rw [hp]; decide) (by rw [hp]; decide) ?_ ?_
    · cases done with
      | true => simp [openAt, Process.record]
      | false => simp [openAt, Process.record, hplace.1]
    · cases done with
      | true => exact hplace
      | false => exact hplace.2
  | forget hp =>
    rw [hp] at hplace
    refine h.move rfl rfl ?_ hplace.2
    simp [openAt, hp]
  | capture hp =>
    rw [hp] at hplace
    refine h.move rfl rfl ?_ ⟨hplace.1, rfl⟩
    simp [openAt, hp]
  | ret hp =>
    rw [hp] at hplace
    refine h.move rfl rfl ?_ ⟨hplace.1, hplace.2, rfl⟩
    simp [openAt, hp]
  | noServer hp hptr =>
    rw [hp] at hplace
    rw [hptr] at hplace
    cases hplace.2.1
  | terminate hp hptr stale =>
    rw [hp] at hplace
    rw [readServerFd_eq hguard]
    by_cases hfd : p.serverFd = -1
    · rw [if_neg (not_not_intro hfd)]
      refine h.move rfl rfl ?_ ⟨hfd, hplace.1, hptr⟩
      simp [openAt, hfd]
    · rw [if_pos hfd]
      refine h.move rfl rfl ?_ ⟨hfd, hplace⟩
      simp [openAt, hp]
  | terminateClose hp stale done =>
    rw [hp] at hplace
    obtain ⟨hstale, rfl⟩ := hguard
    rw [readServerFd_eq hstale]
    refine h.close rfl rfl hplace.1 (by rw [hp]; decide) (by rw [hp]; decide) ?_
      ⟨hplace.2.1, hplace.2.2.1⟩
    simp [openAt, Process.record]
  | terminateForget hp =>
    rw [hp] at hplace
    refine h.move rfl rfl ?_ ⟨rfl, hplace⟩
    simp [openAt, hp]
  | terminateEnd hp =>
    rw [hp] at hplace
    refine h.move rfl rfl ?_ ⟨hplace.1, hplace.2.1⟩
    simp [openAt, hplace.1]
  | delete hp =>
    rw [hp] at hplace
    refine h.move rfl rfl ?_ hplace.1
    simp [openAt, hplace.1]
  | sigint hexited hcrashed stale done => exact h.sigHandler hexited hguard

/-- **Termination**: in an orderly life the server is terminated safely from every point. -/
theorem termination_safe (hlog : s.log = []) (hvalid : AcceptsValid s)
    (hrun : Reach (ProcessStep io cfg may) Orderly (Process.start s) p) : p.Safe := by
  have hstart : ClientsValid s := ⟨by rw [hlog]; simp [fdUses], hvalid⟩
  have hinv := hrun.invariant LifeInv (fun _ _ _ h hg hstep => h.step hg hstep)
    (lifeInv_start hstart)
  refine ⟨hinv.noNull, hinv.valid, fun hmem => hinv.clients.closes (mem_fdUses hmem), _,
    hinv.settled, fun hend => ?_⟩
  have hplace := hinv.place
  have hfd : p.serverFd = -1 := by
    rcases hend with hp | hp
    · rw [Process.PlaceOk, hp] at hplace
      exact hplace
    · rw [Process.PlaceOk, hp] at hplace
      exact hplace
  rw [hfd, openAt_none]

namespace DebugIp

/-- The server before its first client. -/
def waiting : Srv DebugIp := listening [] []

/-- The main thread has opened its socket and is about to set options, to bind and to listen. -/
theorem run_bind (io : Mmio DebugIp) {guard : Process DebugIp → ProcessAction → Prop}
    (hguard : ∀ p a, a = .new ∨ a = .start ∨ a = .socket 3 → guard p a) :
    Reach (ProcessStep io design fun _ _ => False) guard (Process.start waiting)
      { Process.start waiting with
        object := true, frame := true, serverFd := 3, place := .bind, log := [.opened 3] } :=
  ((Reach.refl.tail (hguard _ _ (by simp)) (.new rfl)).tail (hguard _ _ (by simp))
    (.start rfl)).tail (hguard _ _ (by simp)) (.socket rfl (by omega))

/-- The server is in its loop. -/
def serving : Process DebugIp :=
  { Process.start waiting with
    object := true, frame := true, serverFd := 3, ptr := true, place := .serve, log := [.opened 3] }

/-- A bus behind which there is no debug IP. -/
def absentIp : Mmio DebugIp := { debugIp with read64 := fun _ d => (0, d) }

end DebugIp

/-- SIGINT ends a server that waits for clients. -/
theorem termination_safe_sigint : (DebugIp.serving.sigHandler 3 true).Safe := by
  have hstart : ∀ (p : Process DebugIp) (a : ProcessAction),
      a = .new ∨ a = .start ∨ a = .socket 3 → Orderly p a := by
    rintro p a (rfl | rfl | rfl)
    · trivial
    · trivial
    · exact fun h => by cases h
  have hbound := (DebugIp.run_bind debugIp hstart).tail (show Orderly _ (.bind true) from rfl)
    (.bind rfl true)
  have hserving : Reach (ProcessStep debugIp DebugIp.design fun _ _ => False) Orderly
      (Process.start DebugIp.waiting) DebugIp.serving :=
    (hbound.tail (show Orderly _ .enter from trivial) (.enter rfl)).tail
      (show Orderly _ (.alloc true) from trivial) (.alloc rfl true)
  have hguard : Orderly DebugIp.serving (.sigint 3 true) :=
    fun _ => ⟨rfl, by decide, by decide, rfl, rfl⟩
  have hrun := hserving.tail hguard (.sigint (by decide) (by decide) 3 true)
  exact termination_safe rfl (by simp [AcceptsValid, DebugIp.waiting, DebugIp.listening]) hrun

/-- If `bind` fails, the destructor dereferences a null pointer. If the driver cannot be initialised and
SIGINT arrives behind the `close` of `server_main`, the socket is closed again. -/
theorem termination_unsafe :
    (∃ p, Reach (ProcessStep debugIp DebugIp.design fun _ _ => False) always
      (Process.start DebugIp.waiting) p ∧ .nullDeref ∈ p.log) ∧
    ∃ p, Reach (ProcessStep DebugIp.absentIp DebugIp.design fun _ _ => False) always
      (Process.start DebugIp.waiting) p ∧ p.log = [.opened 3, .closed 3 true, .closed 3 true] ∧
      ¬ p.Safe := by
  have hstart : ∀ (p : Process DebugIp) (a : ProcessAction),
      a = .new ∨ a = .start ∨ a = .socket 3 → always p a := fun _ _ _ => trivial
  constructor
  · have hfailed := (DebugIp.run_bind debugIp hstart).tail trivial (.bind rfl false)
    have hclosed := hfailed.tail trivial (.closeFailed rfl true)
    have hret := (hclosed.tail trivial (.forgetFailed rfl)).tail trivial (.ret rfl)
    exact ⟨_, hret.tail trivial (.noServer rfl rfl 0), by simp [Process.record]⟩
  · obtain ⟨s', hserve⟩ : ∃ s', serveSession DebugIp.absentIp DebugIp.design DebugIp.waiting
        = some (.initErr, s') := ⟨_, rfl⟩
    have hbound := (DebugIp.run_bind DebugIp.absentIp hstart).tail trivial (.bind rfl true)
    have hserving := (hbound.tail trivial (.enter rfl)).tail trivial (.alloc rfl true)
    have hfailed := hserving.tail trivial (.initErr rfl rfl hserve)
    have hclose := hfailed.tail trivial (.close rfl true)
    have hsig := hclose.tail trivial
      (.sigint (by simp [Process.record]) (by simp [Process.record]) 3 true)
    refine ⟨_, hsig, rfl, fun hsafe => ?_⟩
    obtain ⟨held, hsettle, -⟩ := hsafe.once
    have hnone : settle (([.opened 3, .closed 3 true, .closed 3 true] : List ListenEvent).flatMap
        listenUse) 0 = none := by decide
    exact absurd (hnone.symm.trans hsettle) (by simp)

end RemoteDebug
