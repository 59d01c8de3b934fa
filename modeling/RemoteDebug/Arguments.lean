import RemoteDebug.Lib.Numeral
import RemoteDebug.Platform

/-!
# Arguments of the command line

`main.cpp` and `intel_fpga_platform_api_uio.c` each scan the command line with `getopt_long`, and each
has a copy of the function that reads an integer from `optarg`. Here a command line is the list of the
options that `getopt_long` returns. `size_t` and `long` have 64 bits.
-/

namespace RemoteDebug

open CString

/-! ## Integers -/

/-- `ERANGE`. -/
def erange : Int := 34

/-- The result of a parse, the message that it prints and the `errno` that it leaves. -/
structure ParsedArg where
  ret : Int
  error : Option (List UInt8)
  errno : Int
  deriving DecidableEq

/-- The scan that decides whether `optarg` is taken as an integer. -/
def isAllDigit (optarg : List UInt8) : Bool :=
  if hasHexPrefix optarg then (optarg.drop 2).all isxdigit else optarg.all isdigit

def tooBigMessage (name optarg : List UInt8) : List UInt8 :=
  name ++ ascii " value is too big. " ++ optarg ++ ascii " is provided; maximum accepted is "
    ++ decimal longMax

def invalidMessage (optarg : List UInt8) : List UInt8 :=
  ascii "Invalid argument value type is provided. A integer value is expected. " ++ optarg
    ++ ascii " is provided."

/-- The code of both copies. `strtol` only sets `errno` if the value is out of range. -/
def parseInteger (name optarg : List UInt8) (errno : Int) : ParsedArg :=
  let optarg := cstr optarg
  if isAllDigit optarg then
    let span := strtol optarg 0
    let errno := if span.2 then erange else errno
    if errno = erange then ⟨0, some (tooBigMessage name optarg), errno⟩ else ⟨span.1, none, errno⟩
  else ⟨0, some (invalidMessage optarg), errno⟩

/-- `uio_parse_integer_arg`; the message goes to `fpga_msg_printf` as an error. -/
def uioParseIntegerArg (name optarg : List UInt8) (errno : Int) : ParsedArg :=
  parseInteger name optarg errno

/-- `parse_integer_arg` of `main.cpp`. -/
def parseIntegerArg (name optarg : List UInt8) (errno : Int) : ParsedArg :=
  let arg := parseInteger name optarg errno
  { arg with error := arg.error.map fun msg => ascii "ERROR: " ++ msg ++ ascii "\n" }

/-- What the text of an argument is to give: the value of a constant that fits into `long`, and else 0
with an error. -/
structure ParsedByText (optarg : List UInt8) (arg : ParsedArg) : Prop where
  value : ∀ v, Numeral (cstr optarg) v → v ≤ longMax → arg.ret = v ∧ arg.error = none
  rejected : (¬ ∃ v, Numeral (cstr optarg) v ∧ v ≤ longMax) → arg.ret = 0 ∧ arg.error.isSome = true

/-- What an argument must meet to be read by its text: a constant that fits is not parsed with an old
`ERANGE` in `errno`, and another string of digits is only parsed with one, unless it is out of range. -/
def ReadByText (optarg : List UInt8) (errno : Int) : Prop :=
  (errno = erange → ∀ v, Numeral (cstr optarg) v → longMax < v) ∧
    (errno ≠ erange → ∀ v, CutShort (cstr optarg) v → longMax < v)

/-- The digits of the argument have a value that does not fit into `long`. -/
def OutOfRange (optarg : List UInt8) : Prop :=
  ∃ v, (Numeral (cstr optarg) v ∨ CutShort (cstr optarg) v) ∧ longMax < v

/-- The conversion of a `long` to `size_t`. -/
def longToSize (v : Int) : Nat := (v % 2 ^ 64).toNat

/-! ## The options of the platform -/

inductive UioOption where
  | driverPath (optarg : List UInt8)
  | addressSpan (optarg : List UInt8)
  | startAddress (optarg : List UInt8)
  | singleComponentMode
  | other
  deriving DecidableEq

/-- What `uio_parse_args` has found so far. -/
structure UioScan where
  args : UioArgs
  errno : Int
  deriving DecidableEq

/-- One round of the loop of `uio_parse_args`. -/
def UioScan.next (sc : UioScan) : UioOption → UioScan
  | .driverPath optarg => { sc with args := { sc.args with driverPath := some (cstr optarg) } }
  | .addressSpan optarg =>
    let arg := uioParseIntegerArg (ascii "Address span") optarg sc.errno
    ⟨{ sc.args with addressSpan := some (longToSize arg.ret) }, arg.errno⟩
  | .startAddress optarg =>
    let arg := uioParseIntegerArg (ascii "Start address") optarg sc.errno
    ⟨{ sc.args with startAddress := some (longToSize arg.ret) }, arg.errno⟩
  | .singleComponentMode => { sc with args := { sc.args with singleComponentMode := true } }
  | .other => sc

/-- The loop of `uio_parse_args`; `uioParseArgs` stores what it has found. -/
def uioScanOptions (errno : Int) (opts : List UioOption) : UioScan :=
  opts.foldl UioScan.next ⟨⟨none, none, none, false⟩, errno⟩

/-! ## The options of the server -/

inductive CmdOption where
  | version
  | help
  | memSize (optarg : List UInt8)
  | port (optarg : List UInt8)
  | ip (optarg : List UInt8)
  | other
  deriving DecidableEq

/-- `EtherlinkCommandLine`. -/
structure EtherlinkCommandLine where
  h2tT2hMemSize : Nat
  port : Int
  ip : List UInt8
  deriving DecidableEq

/-- The values with which `main` calls `parse_cmd_args`. -/
def EtherlinkCommandLine.start : EtherlinkCommandLine := ⟨4096, 0, []⟩

/-- The conversion of a `long` to `int`. -/
def longToInt (v : Int) : Int := v.bmod (2 ^ 32)

/-- `parse_cmd_args`, from an `errno` on. A port is taken without a look at what its parse has printed. -/
def parseCmdArgs (cmdline : EtherlinkCommandLine) (errno : Int) :
    List CmdOption → Int × EtherlinkCommandLine
  | [] => (0, if cmdline.ip = [] then { cmdline with ip := ascii "0.0.0.0" } else cmdline)
  | .version :: _ => (-4, cmdline)
  | .help :: _ => (-2, cmdline)
  | .memSize optarg :: opts =>
    let arg := parseIntegerArg (ascii "h2t-t2h-mem-size") optarg errno
    let cmdline := { cmdline with h2tT2hMemSize := longToSize arg.ret }
    if cmdline.h2tT2hMemSize = 0 then (-3, cmdline) else parseCmdArgs cmdline arg.errno opts
  | .port optarg :: opts =>
    let arg := parseIntegerArg (ascii "port") optarg errno
    parseCmdArgs { cmdline with port := longToInt arg.ret } arg.errno opts
  | .ip optarg :: opts =>
    parseCmdArgs { cmdline with ip := (cstr optarg).take 15 } errno opts
  | .other :: opts => parseCmdArgs cmdline errno opts

end RemoteDebug
