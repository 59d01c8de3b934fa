import RemoteDebug.Hardware.ServerRun
import RemoteDebug.Lib.Ledger

/-!
# The life of the process

`main.cpp` from `install_sigint_handler` on, with `initialize_server`, `server_main` and
`server_terminate` around the sessions. SIGINT can arrive between any two steps of the main thread; its
handler terminates the server and the process.
-/

namespace RemoteDebug

variable {D : Type}

/-- What happens to the listening socket. -/
inductive ListenEvent where
  /-- `socket` has returned this descriptor. -/
  | opened (fd : Int)
  /-- `close` was called on this descriptor, and succeeded or not. -/
  | closed (fd : Int) (done : Bool)
  /-- A null `s_server_conn_ptr` was dereferenced. -/
  | nullDeref
  deriving DecidableEq

/-- The next step of the main thread. -/
inductive Place where
  /-- `main` before `new StreamingDebug()`. -/
  | main
  /-- `StreamingDebug::run` before `server_conn` is set up. -/
  | run
  /-- `bind_server_socket` before `socket`. -/
  | initializeServer
  /-- `bind_server_socket` before `setsockopt`, `bind` and `listen`. -/
  | bind
  /-- One of these calls has failed. -/
  | bindFailed
  | bindClosed
  /-- `server_main`. -/
  | serverMain
  | allocate
  | serve
  | close
  | closed
  | capture
  /-- `start_st_dbg_transport_server_over_tcpip` before it returns. -/
  | ret
  /-- `server_terminate`, called by the destructor. -/
  | terminate
  | terminateClose
  | terminateClosed
  | terminateEnd
  /-- `run_etherlink` behind `delete s_etherlink_server`. -/
  | deleted
  /-- `main` behind `run_etherlink`. -/
  | finished
  /-- The handler has called `exit`. -/
  | exited
  | crashed
  deriving DecidableEq

/-- The process. `serverFd` is what the memory of `server_conn.server_fd` holds, `frame` whether that
memory still belongs to the variable, `ptr` whether `s_server_conn_ptr` points to it instead of being
null, `object` whether `s_etherlink_server` is set. -/
structure Process (D : Type) where
  place : Place
  serverFd : Int
  frame : Bool
  ptr : Bool
  object : Bool
  sessions : ServerState D
  log : List ListenEvent

inductive ProcessAction where
  | new
  | start
  | socket (fd : Int)
  | bind (ok : Bool)
  | closeFailed (done : Bool)
  | forgetFailed
  | enter
  | alloc (ok : Bool)
  | serve (a : ServerAction)
  | initErr
  | close (done : Bool)
  | forget
  | capture
  | ret
  | terminate (stale : Int)
  | terminateClose (stale : Int) (done : Bool)
  | terminateForget
  | terminateEnd
  | delete
  | sigint (stale : Int) (done : Bool)
  deriving DecidableEq

namespace Process

/-- The process behind `install_sigint_handler`. -/
def start (s : Srv D) : Process D where
  place := .main
  serverFd := -1
  frame := false
  ptr := false
  object := false
  sessions := ⟨s, false⟩
  log := []

def record (p : Process D) (e : ListenEvent) : Process D := { p with log := p.log ++ [e] }

/-- `s_server_conn_ptr->server_fd`. Once `start_st_dbg_transport_server_over_tcpip` has returned, its
`server_conn` is gone and the read may find anything. -/
def readServerFd (p : Process D) (stale : Int) : Int := if p.frame then p.serverFd else stale

/-- `server_terminate` without an interruption. -/
def serverTerminate (stale : Int) (done : Bool) (p : Process D) : Process D :=
  if p.ptr then
    let fd := p.readServerFd stale
    let p :=
      if fd ≠ -1 then
        let p := p.record (.closed fd done)
        if done then { p with serverFd := -1 } else p
      else p
    { p with ptr := false }
  else { p with place := .crashed }.record .nullDeref

/-- `etherlink_sig_handler` for SIGINT. -/
def sigHandler (stale : Int) (done : Bool) (p : Process D) : Process D :=
  if p.object then
    let p := p.serverTerminate stale done
    if p.place = .crashed then p else { p with object := false, place := .exited }
  else { p with place := .exited }

end Process

open Process

/-- One step of the main thread, or SIGINT. `stale` is what a read of the dead `server_conn` finds. -/
inductive ProcessStep (io : Mmio D) (cfg : Config) (may : D → D → Prop) :
    Process D → ProcessAction → Process D → Prop
  | new {p : Process D} (hp : p.place = .main) :
      ProcessStep io cfg may p .new { p with object := true, place := .run }
  | start {p : Process D} (hp : p.place = .run) :
      ProcessStep io cfg may p .start { p with frame := true, serverFd := -1, place := .initializeServer }
  | noSocket {p : Process D} (hp : p.place = .initializeServer) :
      ProcessStep io cfg may p (.socket (-1)) { p with serverFd := -1, place := .ret }
  | socket {p : Process D} {fd : Int} (hp : p.place = .initializeServer) (hfd : 0 ≤ fd) :
      ProcessStep io cfg may p (.socket fd)
        ({ p with serverFd := fd, place := .bind }.record (.opened fd))
  | bind {p : Process D} (hp : p.place = .bind) (ok : Bool) :
      ProcessStep io cfg may p (.bind ok)
        { p with place := if ok then .serverMain else .bindFailed }
  | closeFailed {p : Process D} (hp : p.place = .bindFailed) (done : Bool) :
      ProcessStep io cfg may p (.closeFailed done)
        ({ p with place := .bindClosed }.record (.closed p.serverFd done))
  | forgetFailed {p : Process D} (hp : p.place = .bindClosed) :
      ProcessStep io cfg may p .forgetFailed { p with serverFd := -1, place := .ret }
  | enter {p : Process D} (hp : p.place = .serverMain) :
      ProcessStep io cfg may p .enter { p with ptr := true, place := .allocate }
  | alloc {p : Process D} (hp : p.place = .allocate) (ok : Bool) :
      ProcessStep io cfg may p (.alloc ok) { p with place := if ok then .serve else .ret }
  | serve {p : Process D} {a : ServerAction} {s : ServerState D} (hp : p.place = .serve)
      (hstep : CallStep io cfg may p.sessions a s) :
      ProcessStep io cfg may p (.serve a) { p with sessions := s }
  | initErr {p : Process D} {s s' : Srv D} (hp : p.place = .serve) (hs : p.sessions = ⟨s, false⟩)
      (hserve : serveSession io cfg s = some (.initErr, s')) :
      ProcessStep io cfg may p .initErr { p with sessions := ⟨s', false⟩, place := .close }
  | close {p : Process D} (hp : p.place = .close) (done : Bool) :
      ProcessStep io cfg may p (.close done)
        ({ p with place := if done then .closed else .capture }.record (.closed p.serverFd done))
  | forget {p : Process D} (hp : p.place = .closed) :
      ProcessStep io cfg may p .forget { p with serverFd := -1, place := .capture }
  | capture {p : Process D} (hp : p.place = .capture) :
      ProcessStep io cfg may p .capture { p with ptr := true, place := .ret }
  | ret {p : Process D} (hp : p.place = .ret) :
      ProcessStep io cfg may p .ret { p with frame := false, place := .terminate }
  | noServer {p : Process D} (hp : p.place = .terminate) (hptr : p.ptr = false) (stale : Int) :
      ProcessStep io cfg may p (.terminate stale) ({ p with place := .crashed }.record .nullDeref)
  | terminate {p : Process D} (hp : p.place = .terminate) (hptr : p.ptr = true) (stale : Int) :
      ProcessStep io cfg may p (.terminate stale)
        { p with place := if p.readServerFd stale ≠ -1 then .terminateClose else .terminateEnd }
  | terminateClose {p : Process D} (hp : p.place = .terminateClose) (stale : Int) (done : Bool) :
      ProcessStep io cfg may p (.terminateClose stale done)
        ({ p with place := if done then .terminateClosed else .terminateEnd }.record
          (.closed (p.readServerFd stale) done))
  | terminateForget {p : Process D} (hp : p.place = .terminateClosed) :
      ProcessStep io cfg may p .terminateForget { p with serverFd := -1, place := .terminateEnd }
  | terminateEnd {p : Process D} (hp : p.place = .terminateEnd) :
      ProcessStep io cfg may p .terminateEnd { p with ptr := false, place := .deleted }
  | delete {p : Process D} (hp : p.place = .deleted) :
      ProcessStep io cfg may p .delete { p with object := false, place := .finished }
  | sigint {p : Process D} (hexited : p.place ≠ .exited) (hcrashed : p.place ≠ .crashed)
      (stale : Int) (done : Bool) :
      ProcessStep io cfg may p (.sigint stale done) (p.sigHandler stale done)

/-- What the events of the listening socket acquire and release: a call of `close` that fails needs an
open descriptor too, and leaves it open. -/
def listenUse : ListenEvent → List (Ledger.Use Int)
  | .opened fd => [.acquire fd]
  | .closed fd true => [.release fd]
  | .closed fd false => [.release fd, .acquire fd]
  | .nullDeref => []

/-- No null pointer has been dereferenced, no invalid descriptor has been closed, and the listening
socket has been closed at most once: exactly once at the end. -/
structure Process.Safe (p : Process D) : Prop where
  noNull : .nullDeref ∉ p.log
  valid : ∀ done, .closed (-1) done ∉ p.log
  clientsValid : .closed (-1) ∉ p.sessions.srv.log
  once : ∃ held, Ledger.settle (p.log.flatMap listenUse) 0 = some held ∧
    (p.place = .finished ∨ p.place = .exited → held = 0)

/-- What keeps the termination safe: `initialize_server` succeeds, `server_terminate` finds the last
value of `server_fd` and can close the socket, and SIGINT does not find `s_server_conn_ptr` null or a
socket that is closed but not yet forgotten. -/
def Orderly (p : Process D) : ProcessAction → Prop
  | .socket fd => fd ≠ -1
  | .bind ok => ok = true
  | .terminate stale => stale = p.serverFd
  | .terminateClose stale done => stale = p.serverFd ∧ done = true
  | .sigint stale done => p.object = true →
      p.ptr = true ∧ p.place ≠ .closed ∧ p.place ≠ .terminateClosed ∧ stale = p.serverFd ∧
        done = true
  | _ => True

end RemoteDebug
