import RemoteDebug.Lib.Ledger

/-!
# The UIO platform

`intel_fpga_platform_api_uio.c`: `fpga_platform_init` opens and maps the UIO device and starts the
interrupt thread, `fpga_platform_cleanup` is to undo this. With `swModel` the sources are compiled with
`UIO_UNIT_TEST_SW_MODEL_MODE`, where a block of memory takes the place of the device.
-/

namespace RemoteDebug

open Ledger

/-- What the platform acquires. -/
inductive Resource where
  | fd (fd : Int)
  | mapping (addr : Nat)
  | thread (id : Nat)
  deriving DecidableEq

/-- The options of the command line as `uio_parse_args` takes them, with the values that
`uio_parse_integer_arg` returns. -/
structure UioArgs where
  driverPath : Option (List UInt8)
  startAddress : Option Nat
  addressSpan : Option Nat
  singleComponentMode : Bool
  deriving DecidableEq

/-- What the system answers: the size that sysfs shows, the results of `open`, `mmap` (`none` is
`MAP_FAILED`) and `malloc`, whether the semaphore and the lock can be set up, whether `pthread_create`
succeeds and what it leaves in `s_intThread_id`. -/
structure UioResults where
  sysfsSpan : Nat
  openFd : Int
  mmap : Option Nat
  malloc : Nat
  sync : Bool
  create : Bool
  threadId : Nat
  deriving DecidableEq

/-- The variables of the platform. `baseAddress` is that of the only interface, `uses` what has been
acquired and released so far. -/
structure Platform where
  drvPath : Option (List UInt8)
  addrSpan : Nat
  singleComponentMode : Bool
  startAddr : Nat
  drvHandle : Int
  mmapPtr : Option Nat
  intThreadId : Nat
  baseAddress : Option Nat
  uses : List (Use Resource)
  deriving DecidableEq

namespace Platform

/-- The static values; the path is `/dev/uio0`. -/
def static : Platform where
  drvPath := some [0x2F, 0x64, 0x65, 0x76, 0x2F, 0x75, 0x69, 0x6F, 0x30]
  addrSpan := 0
  singleComponentMode := true
  startAddr := 0
  drvHandle := -1
  mmapPtr := none
  intThreadId := 0
  baseAddress := none
  uses := []

def use (p : Platform) (u : Use Resource) : Platform := { p with uses := p.uses ++ [u] }

end Platform

/-- `uio_parse_args`. -/
def uioParseArgs (args : UioArgs) (p : Platform) : Platform :=
  { p with
    drvPath := args.driverPath.or p.drvPath
    startAddr := args.startAddress.getD p.startAddr
    addrSpan := args.addressSpan.getD p.addrSpan
    singleComponentMode := args.singleComponentMode || p.singleComponentMode }

/-- `uio_update_based_on_sysfs`; it cannot deal with a null path. -/
def uioUpdateBasedOnSysfs (swModel : Bool) (res : UioResults) (p : Platform) : Option Platform :=
  if swModel = false ∧ p.addrSpan = 0 then p.drvPath.map fun _ => { p with addrSpan := res.sysfsSpan }
  else some p

/-- The arguments and what sysfs adds to them. -/
def uioConfigure (swModel : Bool) (args : UioArgs) (res : UioResults) (p : Platform) :
    Option Platform :=
  uioUpdateBasedOnSysfs swModel res (uioParseArgs args p)

/-- `uio_validate_args`. -/
def uioValidateArgs (p : Platform) : Bool := decide (0 < p.addrSpan) && p.drvPath.isSome

/-- `uio_open_driver`. -/
def uioOpenDriver (res : UioResults) (p : Platform) : Bool × Platform :=
  let p := { p with drvHandle := res.openFd }
  if res.openFd = -1 then (false, p) else (true, p.use (.acquire (.fd res.openFd)))

/-- `uio_map_mmio`. -/
def uioMapMmio (res : UioResults) (p : Platform) : Bool × Platform :=
  let p := { p with mmapPtr := res.mmap }
  match res.mmap with
  | none => (false, p)
  | some addr => (true, p.use (.acquire (.mapping addr)))

/-- `uio_scan_interfaces`, which always succeeds. -/
def uioScanInterfaces (p : Platform) : Bool × Platform :=
  (true,
    if p.singleComponentMode then { p with baseAddress := p.mmapPtr.map (· + p.startAddr) } else p)

/-- `uio_create_unit_test_sw_model`. -/
def uioCreateUnitTestSwModel (res : UioResults) (p : Platform) : Bool × Platform :=
  (true, { p with baseAddress := some res.malloc })

/-- `uio_create_interrupt_thread`. -/
def uioCreateInterruptThread (res : UioResults) (p : Platform) : Bool × Platform :=
  if res.sync then
    let p := { p with intThreadId := res.threadId }
    if res.create then (true, p.use (.acquire (.thread res.threadId))) else (false, p)
  else (false, p)

/-- The device or its model: open, map and scan, and what the labels `err_scan` and `err_map` undo. -/
def uioStages (swModel : Bool) (res : UioResults) (p : Platform) : Bool × Platform :=
  if swModel then uioCreateUnitTestSwModel res p
  else
    let x := uioOpenDriver res p
    if x.1 then
      let y := uioMapMmio res x.2
      if y.1 then
        let z := uioScanInterfaces y.2
        if z.1 then (true, z.2)
        else
          (false, (z.2.use (.release (.mapping (z.2.mmapPtr.getD 0)))).use
            (.release (.fd z.2.drvHandle)))
      else (false, y.2.use (.release (.fd y.2.drvHandle)))
    else (false, x.2)

/-- `fpga_platform_init`: the result is `true` as soon as the device is mapped. -/
def fpgaPlatformInit (swModel : Bool) (args : UioArgs) (res : UioResults) (p : Platform) :
    Option (Bool × Platform) :=
  (uioConfigure swModel args res p).map fun p =>
    if uioValidateArgs p then
      let x := uioStages swModel res p
      if x.1 then
        if x.2.singleComponentMode then (true, (uioCreateInterruptThread res x.2).2) else (true, x.2)
      else (false, x.2)
    else (false, p)

/-- `fpga_platform_cleanup`. -/
def fpgaPlatformCleanup (p : Platform) : Platform :=
  let p := if p.intThreadId ≠ 0 then p.use (.release (.thread p.intThreadId)) else p
  let p := if 0 ≤ p.drvHandle then p.use (.release (.fd p.drvHandle)) else p
  { p with
    drvPath := none
    startAddr := 0
    addrSpan := 0
    singleComponentMode := false
    drvHandle := -1
    mmapPtr := none
    baseAddress := none }

/-- One round of `uio_interrupt_thread` that opens the device: it closes the descriptor if it fails,
else only a positive one. -/
def uioInterrupt (fd : Int) (failed : Bool) (p : Platform) : Platform :=
  let p := p.use (.acquire (.fd fd))
  if failed || decide (0 < fd) then p.use (.release (.fd fd)) else p

/-! ## Lifecycles -/

inductive PlatformAction where
  | init (args : UioArgs) (res : UioResults)
  | cleanup
  | interrupt (fd : Int) (failed : Bool)
  deriving DecidableEq

/-- What holds of the results of the system calls: `open` returns `-1` or a descriptor, and no thread
has the identifier `0`. -/
structure UioResults.Valid (res : UioResults) : Prop where
  openFd : -1 ≤ res.openFd
  threadId : res.create = true → res.threadId ≠ 0

/-- An interrupt thread has been created and not joined. -/
def Platform.threadRuns (p : Platform) : Bool :=
  p.uses.foldl (fun runs u =>
    match u with
    | .acquire (.thread _) => true
    | .release (.thread _) => false
    | _ => runs) false

inductive PlatformStep (swModel : Bool) : Platform → PlatformAction → Platform → Prop
  | init {p p' : Platform} {args : UioArgs} {res : UioResults} {ret : Bool} (hres : res.Valid)
      (hinit : fpgaPlatformInit swModel args res p = some (ret, p')) :
      PlatformStep swModel p (.init args res) p'
  | cleanup (p : Platform) : PlatformStep swModel p .cleanup (fpgaPlatformCleanup p)
  | interrupt {p : Platform} {fd : Int} (hruns : p.threadRuns = true) (hfd : 0 ≤ fd)
      (failed : Bool) :
      PlatformStep swModel p (.interrupt fd failed) (uioInterrupt fd failed p)

/-- Every stage that the configuration needs succeeds. -/
structure StagesSucceed (swModel : Bool) (args : UioArgs) (res : UioResults) (p p' : Platform) :
    Prop where
  config : uioConfigure swModel args res p = some p'
  valid : uioValidateArgs p' = true
  device : swModel = false → res.openFd ≠ -1 ∧ res.mmap.isSome
  thread : p'.singleComponentMode = true → res.sync = true ∧ res.create = true

/-- What keeps the resources balanced: `fpga_platform_init` finds no device that is still mapped, and if
it gets that far a needed thread can be created and no other one runs; `fpga_platform_cleanup` finds no
mapping, no handle and no identifier of a thread that it has joined; and the interrupt thread is not
given the descriptor `0`. -/
def PlatformOrderly (swModel : Bool) (p : Platform) : PlatformAction → Prop
  | .init args res => ∀ p', uioConfigure swModel args res p = some p' → uioValidateArgs p' = true →
      (swModel = false → p.mmapPtr = none) ∧
      ((swModel = false → res.openFd ≠ -1 ∧ res.mmap.isSome) → p'.singleComponentMode = true →
        res.sync = true ∧ res.create = true ∧ p.threadRuns = false)
  | .cleanup => p.mmapPtr = none ∧ p.drvHandle < 0 ∧ (p.intThreadId = 0 ∨ p.threadRuns = true)
  | .interrupt fd failed => fd ≠ 0 ∨ failed = true

end RemoteDebug
