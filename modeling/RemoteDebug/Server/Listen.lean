import RemoteDebug.Arguments
import RemoteDebug.Sockets

/-!
# The port of the server

The way of the port from the command line to `bind`: `main` and `StreamingDebug::run` of `main.cpp`,
`start_st_dbg_transport_server_over_tcpip`, and `initialize_server` and `bind_server_socket` of
`intel_st_debug_if_server.c`.
-/

namespace RemoteDebug

open CString

/-- What the system answers while the program starts: whether `fpga_platform_init` succeeds, and the
calls `socket`, `setsockopt`, `bind` to a port and `listen`. -/
structure StartResults where
  platformInit : Bool
  socket : Bool
  reuseAddr : Bool
  bind : Nat → Bool
  listen : Bool

/-- `htons`, which is also `ntohs`. -/
def htons (port : Nat) : Nat := port % 256 * 256 + port / 256 % 256

/-- `bind_server_socket` with `sin_port`: the return code, and the port on which the socket listens; for
port 0 the kernel picks one. -/
def bindServerSocket (sys : StartResults) (sinPort : Nat) : ReturnCode × Option Nat :=
  if sys.socket && sys.reuseAddr && sys.bind (htons sinPort) && sys.listen then
    (.ok, some (htons sinPort))
  else (.failure, none)

/-- `initialize_server`. -/
def initializeServer (sys : StartResults) (port : Nat) : ReturnCode × Option Nat :=
  bindServerSocket sys (htons port)

/-- `start_st_dbg_transport_server_over_tcpip` up to `server_main`; `context->port` is converted to
`unsigned short`. -/
def startTransportServer (sys : StartResults) (port : Int) : ReturnCode × Option Nat :=
  initializeServer sys (port % 2 ^ 16).toNat

/-- `main`: the port on which the server listens, `none` if the program exits without listening. The
program starts with `errno` 0. -/
def mainPort (sys : StartResults) (opts : List CmdOption) : Option Nat :=
  let x := parseCmdArgs .start 0 opts
  if x.1 ≠ 0 then none
  else if sys.platformInit then (startTransportServer sys x.2.port).2
  else none

/-! ## The port that is asked for -/

/-- The string that is given to `--port`; a later one replaces an earlier one. -/
def lastPort : List CmdOption → Option (List UInt8)
  | [] => none
  | .port optarg :: opts => (lastPort opts).or (some optarg)
  | _ :: opts => lastPort opts

/-- Whatever the system answers, a server that listens does so on the port that `--port` names. -/
def ListensAsAsked (opts : List CmdOption) : Prop :=
  ∀ sys q, mainPort sys opts = some q → ∀ optarg, lastPort opts = some optarg →
    ∃ p, Numeral (cstr optarg) p ∧ p ≤ 65535 ∧ q = p

/-- A memory size that `parse_cmd_args` takes. -/
def MemSizeTaken (optarg : List UInt8) : Prop :=
  ∃ v, (Numeral (cstr optarg) v ∨ CutShort (cstr optarg) v) ∧ 0 < v ∧ v ≤ longMax

/-- The command line has an option at which `parse_cmd_args` gives up: the version, the help, and a memory
size that is not taken or stands behind an overflow. -/
def Refused (overflown : Prop) : List CmdOption → Prop
  | [] => False
  | .version :: _ => True
  | .help :: _ => True
  | .memSize optarg :: opts => overflown ∨ ¬ MemSizeTaken optarg ∨ Refused overflown opts
  | .port optarg :: opts => Refused (overflown ∨ OutOfRange optarg) opts
  | _ :: opts => Refused overflown opts

/-- The command line is refused for another option than the port, or the port is a constant of at most
16 bits, and is 0 if an earlier port has overflown. -/
def PortFits (opts : List CmdOption) : Prop :=
  Refused False opts ∨
    ∀ optarg, lastPort opts = some optarg → ∃ p, Numeral (cstr optarg) p ∧ p ≤ 65535 ∧
      (p = 0 ∨ ∀ optarg', .port optarg' ∈ opts → ¬ OutOfRange optarg')

end RemoteDebug
