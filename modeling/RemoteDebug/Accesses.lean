import RemoteDebug.Interfaces
import RemoteDebug.Lib.LittleEndian
import RemoteDebug.Mmio

/-!
# Accesses of all widths

The inline functions of `intel_fpga_api_uio.h` from `fpga_read_8` to `fpga_write_512`. The mapped registers
and the memory of the host are one byte-addressed memory. What differs between the two builds is the 64-bit
access: with `FPGA_PLATFORM_FORCE_64BIT_MMIO_EMULATION_WITH_32BIT` it is two 32-bit ones.
-/

namespace RemoteDebug

open LittleEndian

/-- The memory, all of it. -/
abbrev Memory := Nat → UInt8

/-- `fpga_uio_get_base_address`, `none` if no element of the table is there. -/
def fpgaUioGetBaseAddress (v : InterfaceVec) (handle : Nat) : Option Nat :=
  (v.at_ handle).map InterfaceInfo.baseAddress

/-! ## Functions

`base` is what `fpga_uio_get_base_address` returns for the handle. -/

/-- A read of `n` bytes through one pointer. -/
def fpgaRead (n base offset : Nat) (m : Memory) : Nat := load m (base + offset) n

/-- A write of `n` bytes through one pointer. -/
def fpgaWrite (n base offset value : Nat) (m : Memory) : Memory := store m (base + offset) n value

/-- `fpga_read_8`, `fpga_write_8`. -/
def fpgaRead8 (base offset : Nat) (m : Memory) : Nat := fpgaRead 1 base offset m
def fpgaWrite8 (base offset value : Nat) (m : Memory) : Memory := fpgaWrite 1 base offset value m

/-- `fpga_read_16`, `fpga_write_16`. -/
def fpgaRead16 (base offset : Nat) (m : Memory) : Nat := fpgaRead 2 base offset m
def fpgaWrite16 (base offset value : Nat) (m : Memory) : Memory := fpgaWrite 2 base offset value m

/-- `fpga_read_32`, `fpga_write_32`. -/
def fpgaRead32 (base offset : Nat) (m : Memory) : Nat := fpgaRead 4 base offset m
def fpgaWrite32 (base offset value : Nat) (m : Memory) : Memory := fpgaWrite 4 base offset value m

/-- `fpga_read_64`. The offset is a `uint32_t`. -/
def fpgaRead64 (emulation : Bool) (base offset : Nat) (m : Memory) : Nat :=
  if emulation then fpgaRead32 base offset m ||| fpgaRead32 base ((offset + 4) % 2 ^ 32) m <<< 32
  else fpgaRead 8 base offset m

/-- `fpga_write_64`. -/
def fpgaWrite64 (emulation : Bool) (base offset value : Nat) (m : Memory) : Memory :=
  if emulation then
    fpgaWrite32 base ((offset + 4) % 2 ^ 32) (value / 2 ^ 32 % 2 ^ 32)
      (fpgaWrite32 base offset (value % 2 ^ 32) m)
  else fpgaWrite 8 base offset value m

/-- `n` iterations of the loop of `fpga_read_512`. -/
def fpgaReadLoop (emulation : Bool) (base : Nat) : (n offset value : Nat) → Memory → Memory
  | 0, _, _, m => m
  | n + 1, offset, value, m =>
    fpgaReadLoop emulation base n ((offset + 8) % 2 ^ 32) (value + 8)
      (store m value 8 (fpgaRead64 emulation base offset m))

/-- `n` iterations of the loop of `fpga_write_512`. -/
def fpgaWriteLoop (emulation : Bool) (base : Nat) : (n offset value : Nat) → Memory → Memory
  | 0, _, _, m => m
  | n + 1, offset, value, m =>
    fpgaWriteLoop emulation base n ((offset + 8) % 2 ^ 32) (value + 8)
      (fpgaWrite64 emulation base offset (load m value 8) m)

/-- `fpga_read_512`; `value` is where the 64 bytes go. -/
def fpgaRead512 (emulation : Bool) (base offset value : Nat) (m : Memory) : Memory :=
  fpgaReadLoop emulation base (512 / 64) offset value m

/-- `fpga_write_512`; `value` is where the 64 bytes are. -/
def fpgaWrite512 (emulation : Bool) (base offset value : Nat) (m : Memory) : Memory :=
  fpgaWriteLoop emulation base (512 / 64) offset value m

/-- The bus of the driver when nothing but memory is behind it. -/
def memoryBus (base : Nat) : Mmio Memory where
  read32 offset m := (fpgaRead32 base offset m, m)
  read64 offset m := (fpgaRead64 false base offset m, m)
  write32 offset value m := fpgaWrite32 base offset value m
  write64 offset value m := fpgaWrite64 false base offset value m

/-- The emulation is the one that the driver is modelled over. -/
theorem memoryBus_emulated (base offset value : Nat) (m : Memory) :
    (memoryBus base).emulated.read64 offset m = (fpgaRead64 true base offset m, m) ∧
      (memoryBus base).emulated.write64 offset value m = fpgaWrite64 true base offset value m :=
  ⟨rfl, rfl⟩

/-! ## Programs -/

inductive Width where
  | w8
  | w16
  | w32
  | w64
  deriving DecidableEq

/-- A call of one of the functions. -/
inductive FpgaAccess where
  | read (width : Width) (handle offset : Nat)
  | write (width : Width) (handle offset value : Nat)
  | read512 (handle offset value : Nat)
  | write512 (handle offset value : Nat)
  deriving DecidableEq

/-- The call: what it returns, if anything, and the memory behind it; `none` without an interface. -/
def FpgaAccess.call (emulation : Bool) (v : InterfaceVec) (m : Memory) :
    FpgaAccess → Option (Option Nat × Memory)
  | .read width handle offset => (fpgaUioGetBaseAddress v handle).map fun base =>
    (match width with
    | .w8 => some (fpgaRead8 base offset m)
    | .w16 => some (fpgaRead16 base offset m)
    | .w32 => some (fpgaRead32 base offset m)
    | .w64 => some (fpgaRead64 emulation base offset m), m)
  | .write width handle offset value => (fpgaUioGetBaseAddress v handle).map fun base =>
    (none, match width with
    | .w8 => fpgaWrite8 base offset value m
    | .w16 => fpgaWrite16 base offset value m
    | .w32 => fpgaWrite32 base offset value m
    | .w64 => fpgaWrite64 emulation base offset value m)
  | .read512 handle offset value => (fpgaUioGetBaseAddress v handle).map fun base =>
    (none, fpgaRead512 emulation base offset value m)
  | .write512 handle offset value => (fpgaUioGetBaseAddress v handle).map fun base =>
    (none, fpgaWrite512 emulation base offset value m)

/-- A program: its calls one after the other, with what they return. -/
def runAccesses (emulation : Bool) (v : InterfaceVec) :
    List FpgaAccess → Memory → Option (List (Option Nat) × Memory)
  | [], m => some ([], m)
  | a :: accesses, m => (a.call emulation v m).bind fun x =>
    (runAccesses emulation v accesses x.2).map fun y => (x.1 :: y.1, y.2)

/-! ## Plain accesses -/

/-- The number of bytes of an access. -/
def Width.bytes : Width → Nat
  | .w8 => 1
  | .w16 => 2
  | .w32 => 4
  | .w64 => 8

/-- What a call is for: one load, one store, or a copy of 64 bytes. -/
def FpgaAccess.plain (base : Nat → Nat) (m : Memory) : FpgaAccess → Option Nat × Memory
  | .read width handle offset => (some (load m (base handle + offset) width.bytes), m)
  | .write width handle offset value => (none, store m (base handle + offset) width.bytes value)
  | .read512 handle offset value => (none, store m value 64 (load m (base handle + offset) 64))
  | .write512 handle offset value => (none, store m (base handle + offset) 64 (load m value 64))

/-- The plain accesses one after the other. -/
def runPlain (base : Nat → Nat) : List FpgaAccess → Memory → List (Option Nat) × Memory
  | [], m => ([], m)
  | a :: accesses, m =>
    let x := a.plain base m
    let y := runPlain base accesses x.2
    (x.1 :: y.1, y.2)

def FpgaAccess.handle : FpgaAccess → Nat
  | .read _ handle _ => handle
  | .write _ handle _ _ => handle
  | .read512 handle _ _ => handle
  | .write512 handle _ _ => handle

/-- The registers that a call accesses end at 4 GiB at most, and the 64 bytes of the host are elsewhere. -/
def FpgaAccess.InRange (base : Nat → Nat) : FpgaAccess → Prop
  | .read width _ offset => offset + width.bytes ≤ 2 ^ 32
  | .write width _ offset _ => offset + width.bytes ≤ 2 ^ 32
  | .read512 handle offset value | .write512 handle offset value => offset + 64 ≤ 2 ^ 32 ∧
      (value + 64 ≤ base handle + offset ∨ base handle + offset + 64 ≤ value)

/-- The bytes that a call writes. -/
def FpgaAccess.Writes (base : Nat → Nat) (x : Nat) : FpgaAccess → Prop
  | .read _ _ _ => False
  | .write width handle offset _ =>
    base handle + offset ≤ x ∧ x < base handle + offset + width.bytes
  | .read512 _ _ value => value ≤ x ∧ x < value + 64
  | .write512 handle offset _ => base handle + offset ≤ x ∧ x < base handle + offset + 64

end RemoteDebug
