import RemoteDebug.Arguments
import RemoteDebug.Lib.Getopt

/-!
# The command line

The two scans of the same words: `parse_cmd_args` of `main.cpp` and then `uio_parse_args` of
`intel_fpga_platform_api_uio.c`, each with its own option string and table. The first scan leaves the words
in the order in which `getopt_long` has moved them. `show_help` documents the options.
-/

namespace RemoteDebug

open CString Getopt

/-! ## The two scans -/

/-- `GETOPT_STRING` and `longopts` of `parse_cmd_args`. -/
def cmdOptions : Options where
  optstring := ascii "hp:i:v"
  longopts :=
    [⟨ascii "help", false, false, 0x68⟩, ⟨ascii "version", false, false, 0x76⟩,
      ⟨ascii "h2t-t2h-mem-size", true, false, 0x6D⟩, ⟨ascii "port", true, false, 0x70⟩,
      ⟨ascii "ip", true, false, 0x69⟩]

/-- The option string and `long_options` of `uio_parse_args`. -/
def uioOptions : Options where
  optstring := ascii "p:a:s:dc"
  longopts :=
    [⟨ascii "uio-driver-path", true, false, 0x70⟩, ⟨ascii "start-address", true, false, 0x61⟩,
      ⟨ascii "address-span", true, false, 0x73⟩, ⟨ascii "show-dbg-msg", false, true, 0x64⟩,
      ⟨ascii "single-component-mode", false, true, 0x63⟩]

/-- The branch of the `switch` of `parse_cmd_args` that a call leads to. -/
def cmdOption : Returned → CmdOption
  | .option 0x76 _ => .version
  | .option 0x68 _ => .help
  | .option 0x6D (some optarg) => .memSize optarg
  | .option 0x70 (some optarg) => .port optarg
  | .option 0x69 (some optarg) => .ip optarg
  | _ => .other

/-- The branch of the `switch` of `uio_parse_args` that a call leads to; the flag `'c'` is stored in
`s_uio_single_component_mode`. -/
def uioOption : Returned → UioOption
  | .option 0x70 (some optarg) => .driverPath optarg
  | .option 0x73 (some optarg) => .addressSpan optarg
  | .option 0x61 (some optarg) => .startAddress optarg
  | .flag 0x63 => .singleComponentMode
  | _ => .other

/-- The `errno` that `parse_cmd_args` leaves when it takes all options. -/
def cmdErrno (errno : Int) (opts : List CmdOption) : Int :=
  opts.foldl (fun errno opt =>
    match opt with
    | .memSize optarg => (parseIntegerArg (ascii "h2t-t2h-mem-size") optarg errno).errno
    | .port optarg => (parseIntegerArg (ascii "port") optarg errno).errno
    | _ => errno) errno

/-- What the command line configures. -/
structure Configuration where
  driverPath : Option (List UInt8)
  startAddress : Nat
  addressSpan : Nat
  memSize : Nat
  port : Int
  deriving DecidableEq

/-- The program up to `uio_parse_args`, with the words behind the name of the program: the configuration,
or the return code of `parse_cmd_args` with which it exits. -/
def configure (words : List Word) : Except Int Configuration :=
  let scanned := cmdOptions.scan none words
  let opts := scanned.returned.map cmdOption
  let x := parseCmdArgs .start 0 opts
  if x.1 ≠ 0 then .error x.1
  else
    let uioOpts := (uioOptions.scan none scanned.words).returned.map uioOption
    let p := uioParseArgs (uioScanOptions (cmdErrno 0 opts) uioOpts).args .static
    .ok ⟨p.drvPath, p.startAddr, p.addrSpan, x.2.h2tT2hMemSize, x.2.port⟩

/-! ## The documented usage -/

/-- An option that `show_help` lists, with its value. -/
inductive HelpOption where
  | driverPath (path : List UInt8)
  | startAddress (address : List UInt8)
  | memSize (size : List UInt8)
  | port (number : List UInt8)
  | ip (address : List UInt8)
  | version
  | help
  deriving DecidableEq

namespace HelpOption

/-- The values that an option is given: addresses, sizes and ports are integer constants in range, and a
path or an IP address is a string, the path not one that looks like an option. -/
def Valid : HelpOption → Prop
  | driverPath path => 0 ∉ path ∧ path.head? ≠ some 0x2D
  | startAddress address => ∃ v, Numeral address v ∧ v ≤ longMax
  | memSize size => ∃ v, Numeral size v ∧ 0 < v ∧ v ≤ longMax
  | port number => ∃ v, Numeral number v ∧ v ≤ 65535
  | ip address => 0 ∉ address
  | version => True
  | help => True

/-- The word of the long form. -/
def long : HelpOption → Word
  | driverPath path => ascii "--uio-driver-path=" ++ path
  | startAddress address => ascii "--start-address=" ++ address
  | memSize size => ascii "--h2t-t2h-mem-size=" ++ size
  | port number => ascii "--port=" ++ number
  | ip address => ascii "--ip=" ++ address
  | version => ascii "--version"
  | help => ascii "--help"

/-- The words of the documented short form; `--ip` has none. -/
def short : HelpOption → List Word
  | driverPath path => [ascii "-u", path]
  | startAddress address => [ascii "-s", address]
  | memSize size => [ascii "-m", size]
  | port number => [ascii "-p", number]
  | ip address => [ascii "--ip=" ++ address]
  | version => [ascii "-v"]
  | help => [ascii "-h"]

/-- Whether the option makes the program print and exit. -/
def exits : HelpOption → Bool
  | version => true
  | help => true
  | _ => false

end HelpOption

/-- An option of the command line, and whether it is written in its short form. -/
abbrev HelpArg := HelpOption × Bool

def HelpArg.words (x : HelpArg) : List Word := if x.2 then x.1.short else [x.1.long]

/-- The words of a command line. -/
def commandLine (args : List HelpArg) : List Word := args.flatMap HelpArg.words

/-- The options, with the short form of those for which `p` holds. -/
def writeShort (p : HelpOption → Bool) (opts : List HelpOption) : List HelpArg := opts.map fun o => (o, p o)

/-- All options in their long form. -/
abbrev noShort (_ : HelpOption) : Bool := false

/-- The settings of the configuration. -/
inductive Setting where
  | driverPath
  | startAddress
  | addressSpan
  | memSize
  | port
  deriving DecidableEq

/-- The options that document a setting; no option documents the address span. -/
def Setting.documentedBy : Setting → HelpOption → Bool
  | driverPath, .driverPath _ => true
  | startAddress, .startAddress _ => true
  | memSize, .memSize _ => true
  | port, .port _ => true
  | _, _ => false

/-- Two configurations agree on a setting. -/
def Configuration.AgreeOn (c c' : Configuration) : Setting → Prop
  | .driverPath => c.driverPath = c'.driverPath
  | .startAddress => c.startAddress = c'.startAddress
  | .addressSpan => c.addressSpan = c'.addressSpan
  | .memSize => c.memSize = c'.memSize
  | .port => c.port = c'.port

/-- The usage that `show_help` documents, for the options `opts`: it does not matter in which form each of
them is written, and each option changes only the setting that it documents, that is, a setting ends up as
the options that document it make it on their own. -/
structure UsageKept (opts : List HelpOption) : Prop where
  forms : ∀ args args' : List HelpArg, args.map Prod.fst = opts → args'.map Prod.fst = opts →
    configure (commandLine args) = configure (commandLine args')
  own : ∀ args : List HelpArg, args.map Prod.fst = opts → ∀ (setting : Setting) (c c' : Configuration),
    configure (commandLine args) = .ok c →
    configure (commandLine (args.filter fun x => setting.documentedBy x.1)) = .ok c' →
    c.AgreeOn c' setting

/-- The option gives a setting the value that it has without it. -/
def HelpOption.IsDefault : HelpOption → Prop
  | driverPath path => path = ascii "/dev/uio0"
  | startAddress address => Numeral address 0
  | memSize size => Numeral size 4096
  | port _ => False
  | _ => True

/-- The program exits with the version or the help; or all options only repeat the defaults, there is no
port, and no memory size stands in front of a start address at the end. -/
def UsageHarmless (opts : List HelpOption) : Prop :=
  (∃ o ∈ opts, o.exits = true) ∨
    (∀ o ∈ opts, o.IsDefault) ∧
      ¬ ((∃ size, .memSize size ∈ opts) ∧ ∃ address, opts.getLast? = some (.startAddress address))

/-- What the options are documented to configure. -/
def Configuration.document (c : Configuration) : HelpOption → Configuration
  | .driverPath path => { c with driverPath := some path }
  | .startAddress address => { c with startAddress := longToSize (strtol address 0).1 }
  | .memSize size => { c with memSize := longToSize (strtol size 0).1 }
  | .port number => { c with port := longToInt (strtol number 0).1 }
  | _ => c

/-- The configuration without any option. -/
def Configuration.default : Configuration := ⟨some (ascii "/dev/uio0"), 0, 0, 4096, 0⟩

end RemoteDebug
