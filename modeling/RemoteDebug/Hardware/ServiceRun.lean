import RemoteDebug.Hardware.InterruptRun
import RemoteDebug.Lib.History

/-!
# Runs of the interrupt thread with its service routine

`uio_interrupt_thread` beside a thread that also calls `fpga_register_isr`. For a call of the service routine
`isr_callback` is read once more behind the comparison with NULL, and `isr_context`, in either order;
`fpga_register_isr` stores the two one after the other. The system calls of the interrupt thread may fail.
The service routine itself calls none of these functions.
-/

namespace RemoteDebug

open History

/-- Where `uio_interrupt_thread` stands. -/
inductive ServiceThread where
  | readFlags
  | readEnable
  /-- The device is opened, armed and polled. -/
  | poll
  /-- An interrupt has come: `isr_callback` is compared with NULL. -/
  | check
  /-- The service routine is called; what has been read for the call. -/
  | call (callback context : Option Nat)
  | semWait
  | exited
  deriving DecidableEq

/-- Where the controlling thread stands in `fpga_register_isr`. -/
inductive Registering where
  /-- Before `isr_callback` is compared with NULL. -/
  | compare (handle isr isrContext : Nat)
  /-- Before `isr_callback` is stored. -/
  | callback (handle isr isrContext : Nat) (ret : Int)
  /-- Before `isr_context` is stored. -/
  | context (handle isr isrContext : Nat) (ret : Int)
  deriving DecidableEq

/-- What the controlling thread has done, and the calls of the service routine. -/
inductive ServiceEvent where
  /-- `fpga_register_isr` returns `ret`. -/
  | registered (handle isr isrContext : Nat) (ret : Int)
  /-- `fpga_enable_interrupt` has set `interrupt_enable`. -/
  | enabled (handle : Nat)
  /-- `fpga_disable_interrupt` has cleared `interrupt_enable`. -/
  | disabled (handle : Nat)
  /-- `fpga_platform_cleanup` has set the exit flag. -/
  | cleanup
  /-- `pthread_join` has returned. -/
  | joined
  | called (callback context : Nat)
  deriving DecidableEq

/-- The two threads; `log` lists the latest event first. -/
structure ServiceState where
  thread : ServiceThread
  registering : Option Registering
  controller : Controller
  sem : Nat
  exitFlag : Bool
  interruptEnable : Nat → Bool
  isrCallback : Nat → Nat
  isrContext : Nat → Nat
  log : List ServiceEvent

/-- What the interrupt thread meets. -/
inductive ThreadResult where
  | done
  /-- A system call fails. -/
  | failed
  /-- `poll` returns because of an interrupt, or because of anything else. -/
  | ready
  | timeout
  /-- What is read next for the call. -/
  | callback
  | context
  deriving DecidableEq

inductive ServiceAction where
  | thread (r : ThreadResult)
  | register (handle isr isrContext : Nat)
  /-- The controlling thread goes on in `fpga_register_isr`. -/
  | registerNext
  | enable (handle : Nat)
  | disable (handle : Nat)
  | cleanup
  /-- The controlling thread goes on with another call. -/
  | controller
  deriving DecidableEq

namespace ServiceState

/-- The state behind `uio_create_interrupt_thread`. -/
def start (interruptEnable : Nat → Bool) (isrCallback isrContext : Nat → Nat) : ServiceState where
  thread := .readFlags
  registering := none
  controller := .idle
  sem := 0
  exitFlag := false
  interruptEnable := interruptEnable
  isrCallback := isrCallback
  isrContext := isrContext
  log := []

/-- `uio_interrupt_thread` up to the next access; `none` if this is not what it meets, or it is blocked. -/
def uioInterruptThread (r : ThreadResult) (s : ServiceState) : Option ServiceState :=
  match s.thread, r with
  | .readFlags, .done => some { s with thread := if s.exitFlag then .exited else .readEnable }
  | .readEnable, .done => some { s with thread := if s.interruptEnable 0 then .poll else .semWait }
  | .poll, .ready => some { s with thread := .check }
  | .poll, .timeout => some { s with thread := .readFlags }
  | .check, .done =>
    some { s with thread := if s.isrCallback 0 ≠ 0 then .call none none else .exited }
  | .call none context, .callback => some { s with thread := .call (some (s.isrCallback 0)) context }
  | .call callback none, .context => some { s with thread := .call callback (some (s.isrContext 0)) }
  | .call (some callback) (some context), .done =>
    some { s with thread := .readFlags, log := .called callback context :: s.log }
  | .semWait, .done =>
    if 0 < s.sem then some { s with sem := s.sem - 1, thread := .readFlags } else none
  | .readFlags, .failed => some { s with thread := .exited }
  | .poll, .failed => some { s with thread := .exited }
  | .semWait, .failed => some { s with thread := .exited }
  | _, _ => none

/-- The beginning of `fpga_register_isr`. -/
def fpgaRegisterIsr (size handle isr isrContext : Nat) (s : ServiceState) : ServiceState :=
  if handle < size then { s with registering := some (.compare handle isr isrContext) } else s

/-- The next access of `fpga_register_isr`. -/
def registerNext (s : ServiceState) : Registering → ServiceState
  | .compare handle isr isrContext =>
    { s with
      registering :=
        some (.callback handle isr isrContext (if s.isrCallback handle ≠ 0 then 1 else 0)) }
  | .callback handle isr isrContext ret =>
    { s with
      isrCallback := Function.update s.isrCallback handle isr
      registering := some (.context handle isr isrContext ret) }
  | .context handle isr isrContext ret =>
    { s with
      isrContext := Function.update s.isrContext handle isrContext
      registering := none
      log := .registered handle isr isrContext ret :: s.log }

/-- The place in the loop, the service routine left out. -/
def place : ServiceThread → IntThread
  | .readFlags => .readFlags
  | .readEnable => .readEnable
  | .poll | .check | .call _ _ => .poll
  | .semWait => .semWait
  | .exited => .exited

/-- The state without the service routine. -/
def int (s : ServiceState) : IntState where
  thread := place s.thread
  controller := s.controller
  sem := s.sem
  exitFlag := s.exitFlag
  interruptEnable := s.interruptEnable

/-- What a step of the controlling thread leaves. -/
def withInt (s : ServiceState) (i : IntState) : ServiceState :=
  { s with
    controller := i.controller
    sem := i.sem
    exitFlag := i.exitFlag
    interruptEnable := i.interruptEnable }

def record (s : ServiceState) (events : List ServiceEvent) : ServiceState :=
  { s with log := events ++ s.log }

/-- The controlling thread is between two calls. -/
structure Idle (s : ServiceState) : Prop where
  controller : s.controller = .idle
  registering : s.registering = none

end ServiceState

open ServiceState

/-- One step, with `size` interfaces. -/
inductive ServiceStep (size : Nat) : ServiceState → ServiceAction → ServiceState → Prop
  | thread {s s' : ServiceState} {r : ThreadResult} (hnext : s.uioInterruptThread r = some s') :
      ServiceStep size s (.thread r) s'
  | register {s : ServiceState} (hidle : s.Idle) (handle isr isrContext : Nat) :
      ServiceStep size s (.register handle isr isrContext) (s.fpgaRegisterIsr size handle isr isrContext)
  | registerNext {s : ServiceState} {r : Registering} (hr : s.registering = some r) :
      ServiceStep size s .registerNext (s.registerNext r)
  | enable {s : ServiceState} (hidle : s.Idle) (handle : Nat) :
      ServiceStep size s (.enable handle)
        ((s.withInt (fpgaEnableInterrupt size handle s.int)).record
          (if handle < size then [.enabled handle] else []))
  | disable {s : ServiceState} (hidle : s.Idle) (handle : Nat) :
      ServiceStep size s (.disable handle)
        ((s.withInt (fpgaDisableInterrupt size handle s.int)).record
          (if handle < size then [.disabled handle] else []))
  | cleanup {s : ServiceState} (hidle : s.Idle) :
      ServiceStep size s .cleanup ((s.withInt (fpgaPlatformCleanupExit s.int)).record [.cleanup])
  | controller {s : ServiceState} {i : IntState} (hnext : controllerNext s.int = some i) :
      ServiceStep size s .controller
        ((s.withInt i).record (if i.controller = .joined then [.joined] else []))

/-- The calls of the service routine. -/
def calls (events : List ServiceEvent) : Nat :=
  events.countP fun | .called _ _ => true | _ => false

/-- What has been registered with interface 0 last, by a call of `fpga_register_isr` that has returned. -/
def lastRegistered (start : Nat × Nat) : List ServiceEvent → Nat × Nat :=
  latest (fun _ e => match e with
    | .registered 0 isr isrContext _ => some (isr, isrContext)
    | _ => none) start

/-- The interrupt thread has found interrupts enabled and is not through with that round. -/
def ServiceThread.Serving : ServiceThread → Prop
  | .poll | .check | .call _ _ => True
  | _ => False

/-- Service routines of interface 0 are registered while interrupts are disabled and the interrupt thread is
not in a round that it has begun before. -/
def Quiescent (s : ServiceState) : ServiceAction → Prop
  | .register 0 _ _ => s.interruptEnable 0 = false ∧ ¬ s.thread.Serving
  | _ => True

end RemoteDebug
