import RemoteDebug.Lib.Runs
import Mathlib.Logic.Function.Basic

/-!
# Runs of the interrupt thread

`uio_interrupt_thread` beside the thread that calls `fpga_enable_interrupt` and
`fpga_disable_interrupt` and at last `fpga_platform_cleanup`. Each access to a flag or to the semaphore
`g_intSem` is one step; no system call fails.
-/

namespace RemoteDebug

/-- Where `uio_interrupt_thread` stands. -/
inductive IntThread where
  /-- At the head of the loop, before `s_intFlags` is read. -/
  | readFlags
  /-- `FPGA_PLATFORM_INT_THREAD_EXIT` was not set; `interrupt_enable` is read next. -/
  | readEnable
  /-- `interrupt_enable` was set: the device is open, `poll` is called. -/
  | poll
  /-- `interrupt_enable` was not set: `sem_wait` is called. -/
  | semWait
  /-- Behind `pthread_exit`. -/
  | exited
  deriving DecidableEq

/-- Where the controlling thread stands. The posts know what `sem_getvalue` has found. -/
inductive Controller where
  /-- Between two calls. -/
  | idle
  | enableGetvalue
  | enablePost (retVal : Nat)
  | cleanupGetvalue
  | cleanupPost (retVal : Nat)
  /-- At `pthread_join`. -/
  | join
  /-- Behind `pthread_join`. -/
  | joined
  deriving DecidableEq

/-- The two threads with `g_intSem`, `FPGA_PLATFORM_INT_THREAD_EXIT` of `s_intFlags` and
`interrupt_enable` of each interface. -/
structure IntState where
  thread : IntThread
  controller : Controller
  sem : Nat
  exitFlag : Bool
  interruptEnable : Nat → Bool

/-- The state behind `uio_create_interrupt_thread`. -/
def IntState.start (interruptEnable : Nat → Bool) : IntState where
  thread := .readFlags
  controller := .idle
  sem := 0
  exitFlag := false
  interruptEnable := interruptEnable

inductive IntAction where
  /-- The interrupt thread goes on. If it polls, `ready` says whether an interrupt comes before the
  timeout and `registered` whether there is an `isr_callback`. -/
  | thread (ready registered : Bool)
  /-- `fpga_enable_interrupt` is called. -/
  | enable (handle : Nat)
  /-- `fpga_disable_interrupt` is called. -/
  | disable (handle : Nat)
  /-- `fpga_platform_cleanup` is called. -/
  | cleanup
  /-- The controlling thread goes on with the call that it is in. -/
  | controller
  deriving DecidableEq

/-- `uio_interrupt_thread` up to the next access; `none` if it is blocked or has exited. -/
def uioInterruptThread (ready registered : Bool) (s : IntState) : Option IntState :=
  match s.thread with
  | .readFlags => some { s with thread := if s.exitFlag then .exited else .readEnable }
  | .readEnable => some { s with thread := if s.interruptEnable 0 then .poll else .semWait }
  | .poll => some { s with thread := if ready && !registered then .exited else .readFlags }
  | .semWait => if 0 < s.sem then some { s with sem := s.sem - 1, thread := .readFlags } else none
  | .exited => none

/-- The first access of `fpga_enable_interrupt`. `size` is `common_fpga_interface_info_vec_size()`; the
handle is compared with it as a `size_t`. -/
def fpgaEnableInterrupt (size handle : Nat) (s : IntState) : IntState :=
  if handle < size then
    { s with
      interruptEnable := Function.update s.interruptEnable handle true
      controller := .enableGetvalue }
  else s

/-- `fpga_disable_interrupt`. -/
def fpgaDisableInterrupt (size handle : Nat) (s : IntState) : IntState :=
  if handle < size then
    { s with interruptEnable := Function.update s.interruptEnable handle false }
  else s

/-- The first access of `fpga_platform_cleanup`. -/
def fpgaPlatformCleanupExit (s : IntState) : IntState :=
  { s with exitFlag := true, controller := .cleanupGetvalue }

/-- `sem_post`, if `sem_getvalue` has found a value `≤ 0`. -/
def IntState.semPost (s : IntState) (retVal : Nat) : Nat := if retVal = 0 then s.sem + 1 else s.sem

/-- The next access of the call that the controlling thread is in; `none` if there is no such call or
`pthread_join` blocks. -/
def controllerNext (s : IntState) : Option IntState :=
  match s.controller with
  | .idle => none
  | .enableGetvalue => some { s with controller := .enablePost s.sem }
  | .enablePost retVal => some { s with sem := s.semPost retVal, controller := .idle }
  | .cleanupGetvalue => some { s with controller := .cleanupPost s.sem }
  | .cleanupPost retVal => some { s with sem := s.semPost retVal, controller := .join }
  | .join => if s.thread = .exited then some { s with controller := .joined } else none
  | .joined => none

/-- One step, with `size` interfaces. -/
inductive IntStep (size : Nat) : IntState → IntAction → IntState → Prop
  | thread {s s' : IntState} {ready registered : Bool}
      (hnext : uioInterruptThread ready registered s = some s') :
      IntStep size s (.thread ready registered) s'
  | enable {s : IntState} (hidle : s.controller = .idle) (handle : Nat) :
      IntStep size s (.enable handle) (fpgaEnableInterrupt size handle s)
  | disable {s : IntState} (hidle : s.controller = .idle) (handle : Nat) :
      IntStep size s (.disable handle) (fpgaDisableInterrupt size handle s)
  | cleanup {s : IntState} (hidle : s.controller = .idle) :
      IntStep size s .cleanup (fpgaPlatformCleanupExit s)
  | controller {s s' : IntState} (hnext : controllerNext s = some s') :
      IntStep size s .controller s'

/-- The interrupt thread is blocked in `sem_wait`. -/
def Blocked (s : IntState) : Prop := s.thread = .semWait ∧ s.sem = 0

/-- The interrupt thread is blocked although interrupts are enabled and the controlling thread has
returned from its call, or although it is to exit and the controlling thread waits for that. -/
def MissedWakeUp (s : IntState) : Prop :=
  Blocked s ∧ (s.controller = .idle ∧ s.interruptEnable 0 = true ∨
    s.exitFlag = true ∧ s.controller = .join)

end RemoteDebug
