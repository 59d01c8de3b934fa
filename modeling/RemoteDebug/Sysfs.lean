import RemoteDebug.Lib.Numeral
import RemoteDebug.Platform

/-!
# The address span from sysfs

`uio_update_based_on_sysfs`, `uio_get_sysfs_map_file_to_uint64` and `uio_get_sysfs_map_path` of
`intel_fpga_platform_api_uio.c`. The driver path is memory: the string with its NUL and whatever follows.
-/

namespace RemoteDebug

open CString

/-- What is in the file system: the files that `fopen` opens, and the number that `fscanf` with `%lx` reads
from each, `none` if it reads none. -/
abbrev Files := List UInt8 → Option (Option Nat)

/-- `UIO_MAP_PATH_SIZE`. -/
def uioMapPathSize : Nat := 1024

/-- `/sys/class/uio/uio%d/maps/map0/` for the `int` that `%d` prints. -/
def sysfsMapPath (index : Int) : List UInt8 :=
  ascii "/sys/class/uio/uio" ++ decimal index ++ ascii "/maps/map0/"

/-- `uio_get_sysfs_map_path`, with the number of characters of the driver path that it looks at. The number
is taken from behind the fourth character from the last slash on, whatever these are. -/
def uioGetSysfsMapPath (drvPath : List UInt8) (pathBufSize : Nat) : List UInt8 × Nat :=
  let scanned := (cstr drvPath).length + 1
  match strrchr drvPath 0x2F with
  | none => ([], scanned)
  | some slash =>
    let p := slash + 4
    let number := strtoul (drvPath.drop p)
    let index : Nat := number.value % 2 ^ 32
    (if drvPath.getD (p + number.endptr) 0 ≠ 0 then []
      else snprintf pathBufSize (sysfsMapPath ((index : Int).bmod (2 ^ 32))),
      max scanned (p + number.examined))

/-- `uio_get_sysfs_map_file_to_uint64`, with the file that it has opened. -/
def uioGetSysfsMapFileToUint64 (files : Files) (path : List UInt8) : Nat × Option (List UInt8) :=
  match files path with
  | none => (0, none)
  | some number => (number.getD 0, some path)

/-- What `uio_update_based_on_sysfs` does when no span was given: the span that it stores, the file that it
has opened and how many characters of the driver path it has looked at. -/
structure SysfsUpdate where
  span : Nat
  opened : Option (List UInt8)
  examined : Nat
  deriving DecidableEq

/-- `uio_update_based_on_sysfs` with no span given. -/
def uioSysfsUpdate (files : Files) (drvPath : List UInt8) : SysfsUpdate :=
  let mapPath := uioGetSysfsMapPath drvPath uioMapPathSize
  let file := uioGetSysfsMapFileToUint64 files (cstr (mapPath.1 ++ (ascii "size").take uioMapPathSize))
  ⟨file.1, file.2, mapPath.2⟩

/-! ## The named device -/

/-- The last component of the path is `uioN`. -/
def NamesDevice (path : List UInt8) (n : Nat) : Prop :=
  ∃ dir, path = dir ++ ascii "/uio" ++ decimal n

/-- `/sys/class/uio/uioN/maps/map0/size`. -/
def deviceSizeFile (n : Nat) : List UInt8 := sysfsMapPath n ++ ascii "size"

/-- The span comes from the named device: no character behind the NUL of the path is looked at, and either
the size file of the device is read, or no file is opened and the span is left at 0, with which
`uio_validate_args` fails. -/
structure SpanOfDevice (files : Files) (drvPath : List UInt8) (u : SysfsUpdate) : Prop where
  within : u.examined ≤ (cstr drvPath).length + 1
  source : (∃ n number, NamesDevice (cstr drvPath) n ∧ files (deviceSizeFile n) = some number ∧
      u.opened = some (deviceSizeFile n) ∧ u.span = number.getD 0) ∨
    (u.opened = none ∧ u.span = 0 ∧ ∀ p : Platform, uioValidateArgs { p with addrSpan := u.span } = false)

end RemoteDebug
