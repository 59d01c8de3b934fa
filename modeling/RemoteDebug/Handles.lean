import Mathlib.Algebra.Group.Int.Defs
import RemoteDebug.Interfaces
import RemoteDebug.Lib.History

/-!
# Interface handles

The functions of `intel_fpga_api_cmn_inf.c` and `intel_fpga_api_uio.c` that hand out and take back the
interfaces of the table and register service routines with them, and what the platform does to the table:
`uio_scan_interfaces`, `uio_create_unit_test_sw_model` and `fpga_platform_cleanup`. An allocation that fails
is not modelled here. Each function is `none` where it would use an element that is not allocated.
-/

namespace RemoteDebug

open History

/-- `FPGA_MMIO_INTERFACE_INVALID_HANDLE`, `FPGA_INTERRUPT_INVALID_HANDLE`. -/
def invalidHandle : Int := -1

/-- `unsigned int` to `int`. -/
def handleOf (index : Nat) : Int := Int.bmod index (2 ^ 32)

/-- `int` to `size_t`. -/
def handleIndex (handle : Int) : Nat := (handle % 2 ^ 64).toNat

/-- The two kinds of handles: `FPGA_MMIO_INTERFACE_HANDLE`, `FPGA_INTERRUPT_HANDLE`. -/
inductive HandleKind where
  | mmio
  | interrupt
  deriving DecidableEq

/-- `is_mmio_opened`, `is_interrupt_opened`. -/
def HandleKind.isOpened : HandleKind → InterfaceInfo → Bool
  | .mmio, info => info.isMmioOpened
  | .interrupt, info => info.isInterruptOpened

def HandleKind.setOpened (opened : Bool) : HandleKind → InterfaceInfo → InterfaceInfo
  | .mmio, info => { info with isMmioOpened := opened }
  | .interrupt, info => { info with isInterruptOpened := opened }

namespace InterfaceVec

variable {R : Type}

/-- The common form: element `index` is used if it is below the size, else the result is `missing`. -/
def onInterface (index : Nat) (missing : R) (f : InterfaceInfo → R × InterfaceInfo)
    (v : InterfaceVec) : Option (R × InterfaceVec) :=
  if index < v.size then (v.at_ index).map fun info => ((f info).1, v.update index (f info).2)
  else some (missing, v)

/-- `fpga_get_num_of_interfaces`. -/
def fpgaGetNumOfInterfaces (v : InterfaceVec) : Nat := v.size % 2 ^ 32

/-- `fpga_get_interface_at`: what is copied to `info`, if it returns `true`. `given` says that `info` is
not NULL. -/
def fpgaGetInterfaceAt (index : Nat) (given : Bool) (v : InterfaceVec) :
    Option (Option InterfaceInfo × InterfaceVec) :=
  if given then v.onInterface index none fun info => (some info, info) else some (none, v)

def openInterface (kind : HandleKind) (index : Nat) : InterfaceVec → Option (Int × InterfaceVec) :=
  onInterface index invalidHandle fun info =>
    if kind.isOpened info then (invalidHandle, info) else (handleOf index, kind.setOpened true info)

def closeInterface (kind : HandleKind) (index : Nat) : InterfaceVec → Option (Unit × InterfaceVec) :=
  onInterface index () fun info => ((), kind.setOpened false info)

/-- `fpga_open`, `fpga_close`. -/
def fpgaOpen (index : Nat) : InterfaceVec → Option (Int × InterfaceVec) := openInterface .mmio index
def fpgaClose (index : Nat) : InterfaceVec → Option (Unit × InterfaceVec) := closeInterface .mmio index

/-- `fpga_interrupt_open`, `fpga_interrupt_close`. -/
def fpgaInterruptOpen (index : Nat) : InterfaceVec → Option (Int × InterfaceVec) :=
  openInterface .interrupt index
def fpgaInterruptClose (index : Nat) : InterfaceVec → Option (Unit × InterfaceVec) :=
  closeInterface .interrupt index

/-- `fpga_register_isr`. -/
def fpgaRegisterIsr (handle : Int) (isr isrContext : Nat) : InterfaceVec → Option (Int × InterfaceVec) :=
  onInterface (handleIndex handle) (-1) fun info =>
    (if info.isrCallback ≠ 0 then 1 else 0, { info with isrCallback := isr, isrContext := isrContext })

def switchInterrupt (enable : Bool) (handle : Int) : InterfaceVec → Option (Int × InterfaceVec) :=
  onInterface (handleIndex handle) (-1) fun info => (0, { info with interruptEnable := enable })

/-- `fpga_enable_interrupt`, without the semaphore, and `fpga_disable_interrupt`. -/
def fpgaEnableInterrupt (handle : Int) : InterfaceVec → Option (Int × InterfaceVec) :=
  switchInterrupt true handle
def fpgaDisableInterrupt (handle : Int) : InterfaceVec → Option (Int × InterfaceVec) :=
  switchInterrupt false handle

/-! ## The platform -/

/-- The stores to element 0 behind `common_fpga_interface_info_vec_resize(1)`. -/
def storeFirst (f : InterfaceInfo → InterfaceInfo) (v : InterfaceVec) : Option (Unit × InterfaceVec) :=
  (v.at_ 0).map fun info => ((), v.update 0 (f info))

/-- `uio_scan_interfaces` in single component mode. -/
def uioScanInterfaces (baseAddress : Nat) (fresh : Nat → InterfaceInfo) (v : InterfaceVec) :
    Option (Unit × InterfaceVec) :=
  (v.resize 1 (some fresh)).storeFirst fun info =>
    { info with baseAddress := baseAddress, isMmioOpened := false, isInterruptOpened := false }

/-- `uio_create_unit_test_sw_model`. -/
def uioCreateUnitTestSwModel (baseAddress : Nat) (fresh : Nat → InterfaceInfo) (v : InterfaceVec) :
    Option (Unit × InterfaceVec) :=
  (v.resize 1 (some fresh)).storeFirst fun info => { info with baseAddress := baseAddress }

/-- What `fpga_platform_cleanup` does to the table. -/
def fpgaPlatformCleanup (fresh : Nat → InterfaceInfo) (v : InterfaceVec) : InterfaceVec :=
  if 0 < v.size then v.resize 0 (some fresh) else v

end InterfaceVec

/-! ## Programs -/

/-- A call. `fresh` is what `realloc` adds to the block. -/
inductive FpgaCall where
  | resize (size : Nat) (fresh : Nat → InterfaceInfo)
  | reserve (size : Nat) (fresh : Nat → InterfaceInfo)
  | scan (baseAddress : Nat) (fresh : Nat → InterfaceInfo)
  | swModel (baseAddress : Nat) (fresh : Nat → InterfaceInfo)
  | cleanup (fresh : Nat → InterfaceInfo)
  | numOfInterfaces
  | interfaceAt (index : Nat) (given : Bool)
  | openHandle (kind : HandleKind) (index : Nat)
  | closeHandle (kind : HandleKind) (index : Nat)
  | registerIsr (handle : Int) (isr isrContext : Nat)
  | enableInterrupt (handle : Int)
  | disableInterrupt (handle : Int)

/-- What a call returns. -/
inductive FpgaResult where
  | nothing
  | int (value : Int)
  | info (info : Option InterfaceInfo)
  deriving DecidableEq

namespace FpgaCall

/-- The arguments are what their types allow, and no byte count overflows `size_t`. -/
def Typed : FpgaCall → Prop
  | resize size _ | reserve size _ => size * sizeofInterfaceInfo < 2 ^ 64
  | interfaceAt index _ | openHandle _ index | closeHandle _ index => index < 2 ^ 32
  | registerIsr handle _ _ | enableInterrupt handle | disableInterrupt handle =>
    -2 ^ 31 ≤ handle ∧ handle < 2 ^ 31
  | _ => True

/-- The call: what it returns, and the table behind it. -/
def call (v : InterfaceVec) : FpgaCall → Option (FpgaResult × InterfaceVec)
  | resize size fresh => some (.nothing, v.resize size (some fresh))
  | reserve size fresh => some (.nothing, v.reserve size (some fresh))
  | scan base fresh => (v.uioScanInterfaces base fresh).map fun x => (.nothing, x.2)
  | swModel base fresh => (v.uioCreateUnitTestSwModel base fresh).map fun x => (.nothing, x.2)
  | cleanup fresh => some (.nothing, v.fpgaPlatformCleanup fresh)
  | numOfInterfaces => some (.int v.fpgaGetNumOfInterfaces, v)
  | interfaceAt index given => (v.fpgaGetInterfaceAt index given).map fun x => (.info x.1, x.2)
  | openHandle .mmio index => (v.fpgaOpen index).map fun x => (.int x.1, x.2)
  | openHandle .interrupt index => (v.fpgaInterruptOpen index).map fun x => (.int x.1, x.2)
  | closeHandle .mmio index => (v.fpgaClose index).map fun x => (.nothing, x.2)
  | closeHandle .interrupt index => (v.fpgaInterruptClose index).map fun x => (.nothing, x.2)
  | registerIsr handle isr context => (v.fpgaRegisterIsr handle isr context).map fun x => (.int x.1, x.2)
  | enableInterrupt handle => (v.fpgaEnableInterrupt handle).map fun x => (.int x.1, x.2)
  | disableInterrupt handle => (v.fpgaDisableInterrupt handle).map fun x => (.int x.1, x.2)

end FpgaCall

/-- The calls one after the other, with what they return. -/
def runFpgaCalls : List FpgaCall → InterfaceVec → Option (List FpgaResult × InterfaceVec)
  | [], v => some ([], v)
  | c :: calls, v => (c.call v).bind fun x => (runFpgaCalls calls x.2).map fun y => (x.1 :: y.1, y.2)

/-! ## Histories

What the calls so far, the latest one first, have made of the table. -/

namespace FpgaCall

/-- The calls that determine the size. -/
def sizeSet : FpgaCall → Option Nat
  | resize size _ => some size
  | reserve size _ => if size = 0 then some 0 else none
  | scan _ _ | swModel _ _ => some 1
  | cleanup _ => some 0
  | _ => none

def sizeAfter : List FpgaCall → Nat := latest (fun _ c => c.sizeSet) 0

/-- The table is empty behind the call. -/
def empties (c : FpgaCall) : Bool := c.sizeSet = some 0

/-- A property of an element, which goes back to `start` when the table is emptied. -/
def property {V : Type} (start : V) (set : List FpgaCall → FpgaCall → Option V) : List FpgaCall → V :=
  latest (fun before c => if c.empties then some start else set before c) start

/-- The calls that open or close interface `i`. A scan closes interface 0. -/
def openSet (kind : HandleKind) (i : Nat) (before : List FpgaCall) : FpgaCall → Option Bool
  | openHandle k index => if k = kind ∧ index = i ∧ i < sizeAfter before then some true else none
  | closeHandle k index => if k = kind ∧ index = i ∧ i < sizeAfter before then some false else none
  | scan _ _ => if i = 0 then some false else none
  | _ => none

/-- The handle has been handed out and not been taken back. -/
def held (kind : HandleKind) (i : Nat) : List FpgaCall → Bool := property false (openSet kind i)

/-- The calls that register a service routine with interface `i`. -/
def isrSet (i : Nat) (before : List FpgaCall) : FpgaCall → Option (Nat × Nat)
  | registerIsr handle isr context =>
    if handle = i ∧ i < sizeAfter before then some (isr, context) else none
  | _ => none

/-- The calls that enable or disable the interrupt of interface `i`. -/
def enableSet (i : Nat) (before : List FpgaCall) : FpgaCall → Option Bool
  | enableInterrupt handle => if handle = i ∧ i < sizeAfter before then some true else none
  | disableInterrupt handle => if handle = i ∧ i < sizeAfter before then some false else none
  | _ => none

/-- The calls that map interface `i`. -/
def baseSet (i : Nat) : FpgaCall → Option Nat
  | scan base _ | swModel base _ => if i = 0 then some base else none
  | _ => none

def isrAfter (i : Nat) : List FpgaCall → Nat × Nat := property (0, 0) (isrSet i)

/-- Interface `i`. -/
def infoAfter (calls : List FpgaCall) (i : Nat) : InterfaceInfo :=
  { InterfaceInfo.zero with
    baseAddress := property 0 (fun _ => baseSet i) calls
    isMmioOpened := held .mmio i calls
    isInterruptOpened := held .interrupt i calls
    interruptEnable := property false (enableSet i) calls
    isrCallback := (isrAfter i calls).1
    isrContext := (isrAfter i calls).2 }

/-- The next call that opens the interface is granted. -/
def Grantable (kind : HandleKind) (i : Nat) (before : List FpgaCall) : Prop :=
  i < sizeAfter before ∧ held kind i before = false

instance (kind : HandleKind) (i : Nat) (before : List FpgaCall) : Decidable (Grantable kind i before) :=
  inferInstanceAs (Decidable (_ ∧ _))

/-- What a call returns behind the calls so far. -/
def answer (before : List FpgaCall) : FpgaCall → FpgaResult
  | numOfInterfaces => .int (sizeAfter before % 2 ^ 32 : Nat)
  | interfaceAt index given =>
    .info (if given ∧ index < sizeAfter before then some (infoAfter before index) else none)
  | openHandle kind index =>
    .int (if Grantable kind index before then handleOf index else invalidHandle)
  | registerIsr handle _ _ =>
    .int (if 0 ≤ handle ∧ handle < sizeAfter before then
      if (isrAfter handle.toNat before).1 ≠ 0 then 1 else 0 else -1)
  | enableInterrupt handle | disableInterrupt handle =>
    .int (if 0 ≤ handle ∧ handle < sizeAfter before then 0 else -1)
  | _ => .nothing

/-- What the calls return one after the other. -/
def answers (before : List FpgaCall) : List FpgaCall → List FpgaResult
  | [] => []
  | c :: calls => c.answer before :: answers (c :: before) calls

/-- The calls that take a handle back: it is closed, the table is emptied, or interface 0 scanned anew. -/
def Releases (kind : HandleKind) (i : Nat) (before : List FpgaCall) (c : FpgaCall) : Prop :=
  c.empties ∨ c = closeHandle kind i ∧ i < sizeAfter before ∨ i = 0 ∧ ∃ base fresh, c = scan base fresh

end FpgaCall

end RemoteDebug
