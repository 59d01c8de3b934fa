import RemoteDebug.CommandLine
import RemoteDebug.Proofs.ArgumentProofs

/-!
# Command line proofs

The first scan moves the values of `-u`, `-s` and `-m` behind the other words, since it takes these letters
for no options. The second one takes `-p` for the driver path and `-s` for the address span, whose value is
then the next of the words, whatever it is.
-/

namespace RemoteDebug

open CString Getopt

variable {args : List HelpArg} {x : HelpArg}

/-! ## The words -/

namespace HelpArg

/-- The words that the first scan leaves where they are. -/
def kept : HelpArg → List Word
  | (.driverPath _, true) => [ascii "-u"]
  | (.startAddress _, true) => [ascii "-s"]
  | (.memSize _, true) => [ascii "-m"]
  | x => x.words

/-- The value that it moves to the end. -/
def stray : HelpArg → List Word
  | (.driverPath path, true) => [path]
  | (.startAddress address, true) => [address]
  | (.memSize size, true) => [size]
  | _ => []

/-- The branch that it leads to. -/
def cmdOption : HelpArg → CmdOption
  | (.memSize size, false) => .memSize size
  | (.port number, _) => .port number
  | (.ip address, _) => .ip address
  | (.version, _) => .version
  | (.help, _) => .help
  | _ => .other

end HelpArg

theorem HelpArg.stray_head (hvalid : x.1.Valid) : ∀ w ∈ x.stray, w.head? ≠ some 0x2D := by
  obtain ⟨o, short⟩ := x
  cases short with
  | false => cases o <;> exact List.forall_mem_nil _
  | true =>
    cases o with
    | driverPath path => exact List.forall_mem_singleton.mpr hvalid.2
    | startAddress address =>
      obtain ⟨v, hv, -⟩ := hvalid
      exact List.forall_mem_singleton.mpr hv.head_ne
    | memSize size =>
      obtain ⟨v, hv, -⟩ := hvalid
      exact List.forall_mem_singleton.mpr hv.head_ne
    | _ => exact List.forall_mem_nil _

theorem stray_head (hvalid : ∀ x ∈ args, x.1.Valid) :
    ∀ w ∈ args.flatMap HelpArg.stray, w.head? ≠ some 0x2D := by
  intro w hw
  obtain ⟨x, hx, hwx⟩ := List.mem_flatMap.mp hw
  exact HelpArg.stray_head (hvalid x hx) w hwx

/-! ## The first scan -/

/-- What an option adds to the first scan. -/
theorem cmd_scan_arg (hvalid : x.1.Valid) (ws : List Word) :
    ∃ r, cmdOption r = x.cmdOption ∧ cmdOptions.scan none (x.words ++ ws) =
      ⟨r :: (cmdOptions.scan none ws).returned, x.kept ++ (cmdOptions.scan none ws).options,
        x.stray ++ (cmdOptions.scan none ws).others⟩ := by
  have hunknown (name value : Word) (hname : 0x3D ∉ name)
      (hfind : findLong cmdOptions.longopts name = none) :=
    scan_long_unknown cmdOptions name hname hfind value ws
  have hstray (c : UInt8) (value : Word) (hc : c ≠ 0x2D)
      (hfind : findShort cmdOptions.optstring c = none) (hvalue : value.head? ≠ some 0x2D) :
      cmdOptions.scan none ([0x2D, c] :: value :: ws) =
        ⟨.error :: (cmdOptions.scan none ws).returned, [0x2D, c] :: (cmdOptions.scan none ws).options,
          value :: (cmdOptions.scan none ws).others⟩ := by
    rw [scan_short_unknown cmdOptions c hc hfind, scan_other (isOption_eq_false hvalue)]
  obtain ⟨o, short⟩ := x
  cases o with
  | driverPath path =>
    refine ⟨.error, rfl, ?_⟩
    cases short with
    | false => exact hunknown (ascii "uio-driver-path") path (by decide) rfl
    | true => exact hstray 0x75 path (by decide) rfl hvalid.2
  | startAddress address =>
    obtain ⟨v, hv, -⟩ := hvalid
    refine ⟨.error, rfl, ?_⟩
    cases short with
    | false => exact hunknown (ascii "start-address") address (by decide) rfl
    | true => exact hstray 0x73 address (by decide) rfl hv.head_ne
  | memSize size =>
    obtain ⟨v, hv, -⟩ := hvalid
    cases short with
    | false =>
      refine ⟨.option 0x6D (some size), rfl, ?_⟩
      exact scan_long_value cmdOptions (ascii "h2t-t2h-mem-size") (by decide) rfl rfl size ws
    | true => exact ⟨.error, rfl, hstray 0x6D size (by decide) rfl hv.head_ne⟩
  | port number =>
    refine ⟨.option 0x70 (some number), rfl, ?_⟩
    cases short with
    | false => exact scan_long_value cmdOptions (ascii "port") (by decide) rfl rfl number ws
    | true => exact scan_short_arg cmdOptions 0x70 (by decide) rfl (number :: ws)
  | ip address =>
    have hscan := scan_long_value cmdOptions (ascii "ip") (by decide) rfl rfl address ws
    refine ⟨.option 0x69 (some address), rfl, ?_⟩
    cases short with
    | false => exact hscan
    | true => exact hscan
  | version =>
    refine ⟨.option 0x76 none, rfl, ?_⟩
    cases short with
    | false => exact scan_long_flag cmdOptions (ascii "version") (by decide) (by decide) (by rfl) rfl ws
    | true => exact scan_short_flag cmdOptions 0x76 (by decide) rfl ws
  | help =>
    refine ⟨.option 0x68 none, rfl, ?_⟩
    cases short with
    | false => exact scan_long_flag cmdOptions (ascii "help") (by decide) (by decide) (by rfl) rfl ws
    | true => exact scan_short_flag cmdOptions 0x68 (by decide) rfl ws

/-- **The first scan of a whole line**: the options and the words that it leaves. -/
theorem cmd_scan (hvalid : ∀ x ∈ args, x.1.Valid) :
    ∃ returned, returned.map cmdOption = args.map HelpArg.cmdOption ∧
      cmdOptions.scan none (commandLine args) =
        ⟨returned, args.flatMap HelpArg.kept, args.flatMap HelpArg.stray⟩ := by
  induction args with
  | nil => exact ⟨[], rfl, rfl⟩
  | cons x args ih =>
    obtain ⟨hx, hvalid⟩ := List.forall_mem_cons.mp hvalid
    obtain ⟨returned, hreturned, hscan⟩ := ih hvalid
    obtain ⟨r, hr, hstep⟩ := cmd_scan_arg hx (commandLine args)
    refine ⟨r :: returned, by rw [List.map_cons, List.map_cons, hr, hreturned], ?_⟩
    rw [hscan] at hstep
    exact hstep

/-! ## What the first parser stores -/

/-- What an option that does not exit stores. -/
def HelpArg.store (cmdline : EtherlinkCommandLine) : HelpArg → EtherlinkCommandLine
  | (.memSize size, false) => { cmdline with h2tT2hMemSize := longToSize (strtol size 0).1 }
  | (.port number, _) => { cmdline with port := longToInt (strtol number 0).1 }
  | (.ip address, _) => { cmdline with ip := (cstr address).take 15 }
  | _ => cmdline

/-- The code with which the first option that exits is answered, or 0. -/
def exitCode : List HelpOption → Int
  | [] => 0
  | .version :: _ => -4
  | .help :: _ => -2
  | _ :: opts => exitCode opts

theorem exitCode_eq_zero_iff {opts : List HelpOption} :
    exitCode opts = 0 ↔ ∀ o ∈ opts, o.exits = false := by
  induction opts with
  | nil => simp [exitCode]
  | cons o opts ih => cases o <;> simp [exitCode, HelpOption.exits, ih]

/-- Behind the last option only the IP address may still change. -/
theorem parseCmdArgs_nil (cmdline : EtherlinkCommandLine) (errno : Int) :
    (parseCmdArgs cmdline errno []).1 = 0 ∧
      (parseCmdArgs cmdline errno []).2.h2tT2hMemSize = cmdline.h2tT2hMemSize ∧
      (parseCmdArgs cmdline errno []).2.port = cmdline.port := by
  unfold parseCmdArgs
  split
  · exact ⟨rfl, rfl, rfl⟩
  · exact ⟨rfl, rfl, rfl⟩

/-- One option of the first parser. -/
theorem parseCmdArgs_arg (cmdline : EtherlinkCommandLine) {errno : Int} (hvalid : x.1.Valid)
    (hexits : x.1.exits = false) (herrno : errno ≠ erange) (opts : List CmdOption) :
    parseCmdArgs cmdline errno (x.cmdOption :: opts) = parseCmdArgs (x.store cmdline) errno opts ∧
      cmdErrno errno (x.cmdOption :: opts) = cmdErrno errno opts := by
  obtain ⟨o, short⟩ := x
  cases o with
  | driverPath _ => exact ⟨rfl, rfl⟩
  | startAddress _ => exact ⟨rfl, rfl⟩
  | memSize size =>
    obtain ⟨v, hv, hpos, hle⟩ := hvalid
    have hparse := parseInteger_numeral hv hle herrno (ascii "h2t-t2h-mem-size")
    cases short with
    | true => exact ⟨rfl, rfl⟩
    | false =>
      have hne : longToSize v ≠ 0 := by
        rw [longToSize_natCast hle]
        omega
      constructor
      · simp [HelpArg.cmdOption, HelpArg.store, parseCmdArgs, parseIntegerArg, hparse, hne,
          hv.strtol_eq, toLong, hle]
      · simp [HelpArg.cmdOption, cmdErrno, parseIntegerArg, hparse]
  | port number =>
    obtain ⟨v, hv, hle⟩ := hvalid
    have hlong : v ≤ longMax := hle.trans (by decide)
    have hparse := parseInteger_numeral hv hlong herrno (ascii "port")
    constructor
    · simp [HelpArg.cmdOption, HelpArg.store, parseCmdArgs, parseIntegerArg, hparse, hv.strtol_eq,
        toLong, hlong]
    · simp [HelpArg.cmdOption, cmdErrno, parseIntegerArg, hparse]
  | ip _ => exact ⟨rfl, rfl⟩
  | version => cases hexits
  | help => cases hexits

/-- **A line without an option that exits is stored option by option**, and leaves `errno`. -/
theorem parseCmdArgs_run (cmdline : EtherlinkCommandLine) {errno : Int} (herrno : errno ≠ erange)
    (hvalid : ∀ x ∈ args, x.1.Valid) (hexits : ∀ x ∈ args, x.1.exits = false) :
    parseCmdArgs cmdline errno (args.map HelpArg.cmdOption) =
        parseCmdArgs (args.foldl HelpArg.store cmdline) errno [] ∧
      cmdErrno errno (args.map HelpArg.cmdOption) = errno := by
  induction args generalizing cmdline with
  | nil => exact ⟨rfl, rfl⟩
  | cons x args ih =>
    obtain ⟨hx, hvalid⟩ := List.forall_mem_cons.mp hvalid
    obtain ⟨hexit, hexits⟩ := List.forall_mem_cons.mp hexits
    obtain ⟨hparse, hcmd⟩ := parseCmdArgs_arg cmdline hx hexit herrno (args.map HelpArg.cmdOption)
    obtain ⟨hparse', hcmd'⟩ := ih (x.store cmdline) hvalid hexits
    exact ⟨hparse.trans hparse', hcmd.trans hcmd'⟩

/-- The code does not depend on the forms. -/
theorem parseCmdArgs_code (cmdline : EtherlinkCommandLine) {errno : Int} (herrno : errno ≠ erange)
    (hvalid : ∀ x ∈ args, x.1.Valid) :
    (parseCmdArgs cmdline errno (args.map HelpArg.cmdOption)).1 = exitCode (args.map Prod.fst) := by
  induction args generalizing cmdline with
  | nil => rfl
  | cons x args ih =>
    obtain ⟨hx, hvalid⟩ := List.forall_mem_cons.mp hvalid
    by_cases hexit : x.1.exits = false
    · obtain ⟨hparse, -⟩ := parseCmdArgs_arg cmdline hx hexit herrno (args.map HelpArg.cmdOption)
      have hcode : exitCode (x.1 :: args.map Prod.fst) = exitCode (args.map Prod.fst) := by
        obtain ⟨o, short⟩ := x
        cases o with
        | version => cases hexit
        | help => cases hexit
        | _ => rfl
      rw [List.map_cons, List.map_cons, hparse, hcode, ih _ hvalid]
    · obtain ⟨o, short⟩ := x
      cases o with
      | version => rfl
      | help => rfl
      | _ => exact absurd rfl hexit

/-! ## The second scan -/

namespace HelpArg

/-- The branch that the option leads to, unless its letter takes the next word. -/
def uioOption : HelpArg → UioOption
  | (.driverPath path, false) => .driverPath path
  | (.startAddress address, false) => .startAddress address
  | (.port number, true) => .driverPath number
  | _ => .other

/-- `-s` is an address span whose value is the next word. -/
def takesNext : HelpArg → Bool
  | (.startAddress _, true) => true
  | _ => false

end HelpArg

/-- What `-s` is returned with. -/
def spanOf (optarg : Word) : Returned := .option 0x73 (some optarg)

/-- The words of the options that are left begin with an option. -/
theorem HelpArg.kept_eq (hvalid : x.1.Valid) :
    ∃ w rest, x.kept = w :: rest ∧ w.head? = some 0x2D ∧ ∀ r ∈ rest, r.head? ≠ some 0x2D := by
  obtain ⟨o, short⟩ := x
  have hnil : ∀ r ∈ ([] : List Word), r.head? ≠ some 0x2D := List.forall_mem_nil _
  cases o with
  | port number =>
    obtain ⟨v, hv, -⟩ := hvalid
    cases short with
    | true => exact ⟨_, _, rfl, rfl, List.forall_mem_singleton.mpr hv.head_ne⟩
    | false => exact ⟨_, _, rfl, rfl, hnil⟩
  | _ =>
    cases short with
    | true => exact ⟨_, _, rfl, rfl, hnil⟩
    | false => exact ⟨_, _, rfl, rfl, hnil⟩

theorem HelpArg.eq_of_takesNext (h : x.takesNext = true) :
    ∃ address, x = (.startAddress address, true) := by
  obtain ⟨o, short⟩ := x
  cases o with
  | startAddress address =>
    cases short with
    | true => exact ⟨address, rfl⟩
    | false => cases h
  | _ => cases h

/-- What an option adds to the second scan. -/
theorem uio_scan_arg (hexits : x.1.exits = false) (hnext : x.takesNext = false) (ws : List Word) :
    ∃ r, uioOption r = x.uioOption ∧
      (uioOptions.scan none (x.kept ++ ws)).returned = r :: (uioOptions.scan none ws).returned := by
  have hunknown (name value : Word) (hname : 0x3D ∉ name)
      (hfind : findLong uioOptions.longopts name = none) :=
    congrArg Scanned.returned (scan_long_unknown uioOptions name hname hfind value ws)
  have hletter (c : UInt8) (hc : c ≠ 0x2D) (hfind : findShort uioOptions.optstring c = none) :=
    congrArg Scanned.returned (scan_short_unknown uioOptions c hc hfind ws)
  obtain ⟨o, short⟩ := x
  cases o with
  | driverPath path =>
    cases short with
    | false =>
      have hscan := scan_long_value uioOptions (ascii "uio-driver-path") (by decide) rfl rfl path ws
      exact ⟨.option 0x70 (some path), rfl, congrArg Scanned.returned hscan⟩
    | true => exact ⟨.error, rfl, hletter 0x75 (by decide) rfl⟩
  | startAddress address =>
    cases short with
    | false =>
      have hscan := scan_long_value uioOptions (ascii "start-address") (by decide) rfl rfl address ws
      exact ⟨.option 0x61 (some address), rfl, congrArg Scanned.returned hscan⟩
    | true => cases hnext
  | memSize size =>
    refine ⟨.error, rfl, ?_⟩
    cases short with
    | false => exact hunknown (ascii "h2t-t2h-mem-size") size (by decide) rfl
    | true => exact hletter 0x6D (by decide) rfl
  | port number =>
    cases short with
    | false => exact ⟨.error, rfl, hunknown (ascii "port") number (by decide) rfl⟩
    | true =>
      have hscan := scan_short_arg uioOptions 0x70 (by decide) rfl (number :: ws)
      exact ⟨.option 0x70 (some number), rfl, congrArg Scanned.returned hscan⟩
  | ip address =>
    refine ⟨.error, rfl, ?_⟩
    cases short with
    | false => exact hunknown (ascii "ip") address (by decide) rfl
    | true => exact hunknown (ascii "ip") address (by decide) rfl
  | version => cases hexits
  | help => cases hexits

/-- Without `-s` the options are scanned one by one. -/
theorem uio_scan_append (hexits : ∀ x ∈ args, x.1.exits = false)
    (hnext : ∀ x ∈ args, x.takesNext = false) (ws : List Word) :
    (uioOptions.scan none (args.flatMap HelpArg.kept ++ ws)).returned.map RemoteDebug.uioOption =
      args.map HelpArg.uioOption ++ (uioOptions.scan none ws).returned.map RemoteDebug.uioOption := by
  induction args with
  | nil => rfl
  | cons x args ih =>
    obtain ⟨hexit, hexits⟩ := List.forall_mem_cons.mp hexits
    obtain ⟨hx, hnext⟩ := List.forall_mem_cons.mp hnext
    obtain ⟨r, hr, hscan⟩ := uio_scan_arg hexit hx (args.flatMap HelpArg.kept ++ ws)
    rw [List.flatMap_cons, List.append_assoc, hscan, List.map_cons, hr, ih hexits hnext]
    rfl

/-- The first words are passed over. -/
theorem uio_scan_others {rest : List Word} (h : ∀ r ∈ rest, r.head? ≠ some 0x2D) (ws : List Word) :
    (uioOptions.scan none (rest ++ ws)).returned = (uioOptions.scan none ws).returned := by
  induction rest with
  | nil => rfl
  | cons r rest ih =>
    obtain ⟨hr, hrest⟩ := List.forall_mem_cons.mp h
    rw [List.cons_append, scan_other (isOption_eq_false hr), ih hrest]

/-- Whether `-s` still takes a word at the end. -/
def endsOpen (pending : Bool) (args : List HelpArg) : Bool :=
  args.getLast?.elim pending HelpArg.takesNext

theorem endsOpen_cons (pending : Bool) (x : HelpArg) (args : List HelpArg) :
    endsOpen pending (x :: args) = endsOpen x.takesNext args := by
  unfold endsOpen
  rw [List.getLast?_cons]
  cases args.getLast? with
  | none => rfl
  | some y => rfl

theorem endsOpen_mono {pending : Bool} (h : endsOpen false args = true) : endsOpen pending args = true := by
  unfold endsOpen at h ⊢
  cases hlast : args.getLast? with
  | none =>
    rw [hlast] at h
    cases h
  | some y =>
    rw [hlast] at h
    exact h

/-- **What can come out of the second scan**: the options themselves, and spans whose values are the first
words of options or, at the end, the first of the values that stand there. -/
theorem uio_scan_forall {Q : UioOption → Prop} {strays : List Word} (hother : Q .other)
    (hspan : ∀ w : Word, w.head? = some 0x2D → Q (.addressSpan w))
    (hstrays : ∀ w ∈ strays, w.head? ≠ some 0x2D) (hvalid : ∀ x ∈ args, x.1.Valid)
    (hexits : ∀ x ∈ args, x.1.exits = false) (hargs : ∀ x ∈ args, Q x.uioOption) (pending : Bool)
    (hlast : endsOpen pending args = true → ∀ w, strays.head? = some w → Q (.addressSpan w)) :
    ∀ r ∈ (uioOptions.scan (if pending then some spanOf else none)
      (args.flatMap HelpArg.kept ++ strays)).returned, Q (uioOption r) := by
  induction args generalizing pending with
  | nil =>
    rw [List.flatMap_nil, List.nil_append]
    cases pending with
    | false =>
      have hscan : uioOptions.scan none strays = ⟨[], [], strays⟩ :=
        scan_others fun w hw => isOption_eq_false (hstrays w hw)
      rw [if_neg Bool.false_ne_true, hscan]
      exact List.forall_mem_nil _
    | true =>
      cases strays with
      | nil => exact List.forall_mem_singleton.mpr hother
      | cons w strays =>
        have hscan : uioOptions.scan none strays = ⟨[], [], strays⟩ :=
          scan_others fun w' hw => isOption_eq_false (hstrays w' (List.mem_cons_of_mem w hw))
        rw [if_pos rfl, scan_pending, hscan]
        exact List.forall_mem_singleton.mpr (hlast rfl w rfl)
  | cons x args ih =>
    obtain ⟨hx, hvalid⟩ := List.forall_mem_cons.mp hvalid
    obtain ⟨hexit, hexits⟩ := List.forall_mem_cons.mp hexits
    obtain ⟨hQ, hargs⟩ := List.forall_mem_cons.mp hargs
    rw [endsOpen_cons] at hlast
    rw [List.flatMap_cons, List.append_assoc]
    cases pending with
    | true =>
      -- the first word is the value of the span
      obtain ⟨w, rest, hkept, hw, hrest⟩ := HelpArg.kept_eq hx
      have hih := ih hvalid hexits hargs false fun h => hlast (endsOpen_mono h)
      rw [hkept, List.cons_append, if_pos rfl, scan_pending, uio_scan_others hrest]
      exact List.forall_mem_cons.mpr ⟨hspan w hw, hih⟩
    | false =>
      rw [if_neg Bool.false_ne_true]
      cases hnext : x.takesNext with
      | false =>
        obtain ⟨r, hr, hscan⟩ := uio_scan_arg hexit hnext (args.flatMap HelpArg.kept ++ strays)
        rw [hscan]
        have hih := ih hvalid hexits hargs false (hnext ▸ hlast)
        exact List.forall_mem_cons.mpr ⟨hr.symm ▸ hQ, hih⟩
      | true =>
        have hkept : x.kept = [ascii "-s"] := by
          obtain ⟨address, hx⟩ := HelpArg.eq_of_takesNext hnext
          rw [hx]
          rfl
        have hscan := scan_short_arg uioOptions 0x73 (by decide) rfl (args.flatMap HelpArg.kept ++ strays)
        rw [hkept]
        exact (congrArg Scanned.returned hscan).symm ▸ ih hvalid hexits hargs true (hnext ▸ hlast)

/-! ## The configuration -/

/-- The options that the second parser sees. -/
def uioEvents (args : List HelpArg) : List UioOption :=
  (uioOptions.scan none (args.flatMap HelpArg.kept ++ args.flatMap HelpArg.stray)).returned.map uioOption

theorem errno_zero : (0 : Int) ≠ erange := by decide

/-- The configuration that the two parsers have found. -/
def Configuration.found (sc : UioScan) (cmdline : EtherlinkCommandLine) : Configuration where
  driverPath := sc.args.driverPath.or (some (ascii "/dev/uio0"))
  startAddress := sc.args.startAddress.getD 0
  addressSpan := sc.args.addressSpan.getD 0
  memSize := cmdline.h2tT2hMemSize
  port := cmdline.port

/-- **The configuration of a line without an option that exits.** -/
theorem configure_eq (hvalid : ∀ x ∈ args, x.1.Valid) (hexits : ∀ x ∈ args, x.1.exits = false) :
    configure (commandLine args) =
      .ok (.found (uioScanOptions 0 (uioEvents args)) (args.foldl HelpArg.store .start)) := by
  obtain ⟨returned, hreturned, hscan⟩ := cmd_scan hvalid
  obtain ⟨hparse, herrno⟩ := parseCmdArgs_run .start errno_zero hvalid hexits
  obtain ⟨hcode, hsize, hport⟩ := parseCmdArgs_nil (args.foldl HelpArg.store .start) 0
  have hstatic : Platform.static.drvPath = some (ascii "/dev/uio0") := by decide
  simp only [configure, hscan, Scanned.words, hreturned, hparse, herrno, hcode, hsize, hport, ne_eq,
    not_true_eq_false, if_false, uioParseArgs, hstatic, uioEvents]
  rfl

/-- A line with an option that exits. -/
theorem configure_exits (hvalid : ∀ x ∈ args, x.1.Valid) (hexits : exitCode (args.map Prod.fst) ≠ 0) :
    configure (commandLine args) = .error (exitCode (args.map Prod.fst)) := by
  obtain ⟨returned, hreturned, hscan⟩ := cmd_scan hvalid
  have hcode := parseCmdArgs_code .start errno_zero hvalid
  simp only [configure, hscan, hreturned, hcode, if_pos hexits]

/-! ## What an option leaves alone -/

theorem run_driverPath {events : List UioOption} (h : ∀ e ∈ events, ∀ path, e ≠ .driverPath path)
    (sc : UioScan) : (events.foldl UioScan.next sc).args.driverPath = sc.args.driverPath := by
  refine List.foldlRecOn (motive := fun sc' : UioScan => sc'.args.driverPath = sc.args.driverPath) events _
    rfl ?_
  intro sc' hsc e he
  cases e with
  | driverPath path => exact absurd rfl (h _ he path)
  | _ => exact hsc

theorem run_startAddress {events : List UioOption}
    (h : ∀ e ∈ events, ∀ address, e ≠ .startAddress address) (sc : UioScan) :
    (events.foldl UioScan.next sc).args.startAddress = sc.args.startAddress := by
  refine List.foldlRecOn
    (motive := fun sc' : UioScan => sc'.args.startAddress = sc.args.startAddress) events _ rfl ?_
  intro sc' hsc e he
  cases e with
  | startAddress address => exact absurd rfl (h _ he address)
  | _ => exact hsc

theorem run_addressSpan {events : List UioOption} (h : ∀ e ∈ events, ∀ span, e ≠ .addressSpan span)
    (sc : UioScan) : (events.foldl UioScan.next sc).args.addressSpan = sc.args.addressSpan := by
  refine List.foldlRecOn (motive := fun sc' : UioScan => sc'.args.addressSpan = sc.args.addressSpan) events _
    rfl ?_
  intro sc' hsc e he
  cases e with
  | addressSpan span => exact absurd rfl (h _ he span)
  | _ => exact hsc

theorem run_memSize (h : ∀ x ∈ args, ∀ size, x ≠ (.memSize size, false))
    (cmdline : EtherlinkCommandLine) :
    (args.foldl HelpArg.store cmdline).h2tT2hMemSize = cmdline.h2tT2hMemSize := by
  refine List.foldlRecOn
    (motive := fun c : EtherlinkCommandLine => c.h2tT2hMemSize = cmdline.h2tT2hMemSize) args _ rfl ?_
  rintro c hc ⟨o, short⟩ hx
  cases o with
  | memSize size =>
    cases short with
    | true => exact hc
    | false => exact absurd rfl (h _ hx size)
  | _ => exact hc

/-! ## What it sets -/

theorem uioScanOptions_driverPath {before behind : List UioOption} {path : List UInt8}
    (h : ∀ e ∈ behind, ∀ path, e ≠ .driverPath path) :
    (uioScanOptions 0 (before ++ .driverPath path :: behind)).args.driverPath = some (cstr path) := by
  rw [uioScanOptions, List.foldl_append, List.foldl_cons, run_driverPath h]
  rfl

theorem uioScanOptions_startAddress {before behind : List UioOption} {address : List UInt8} {v : Nat}
    (hbefore : ∀ e ∈ before, e.InRange) (hv : Numeral address v) (hle : v ≤ longMax)
    (h : ∀ e ∈ behind, ∀ address, e ≠ .startAddress address) :
    (uioScanOptions 0 (before ++ .startAddress address :: behind)).args.startAddress = some v := by
  have herrno : (before.foldl UioScan.next ⟨⟨none, none, none, false⟩, 0⟩).errno = 0 :=
    uioScanOptions_errno hbefore
  rw [uioScanOptions, List.foldl_append, List.foldl_cons, run_startAddress h]
  simp only [UioScan.next, uioParseIntegerArg, herrno, parseInteger_numeral hv hle errno_zero,
    longToSize_natCast hle]

theorem uioScanOptions_addressSpan {before : List UioOption} {span : List UInt8} {v : Nat}
    (hbefore : ∀ e ∈ before, e.InRange) (hv : Numeral span v) (hle : v ≤ longMax) :
    (uioScanOptions 0 (before ++ [.addressSpan span])).args.addressSpan = some v := by
  have herrno : (before.foldl UioScan.next ⟨⟨none, none, none, false⟩, 0⟩).errno = 0 :=
    uioScanOptions_errno hbefore
  rw [uioScanOptions, List.foldl_append, List.foldl_cons, List.foldl_nil]
  simp only [UioScan.next, uioParseIntegerArg, herrno, parseInteger_numeral hv hle errno_zero,
    longToSize_natCast hle]

theorem store_memSize {before behind : List HelpArg} {size : List UInt8} {v : Nat} (hv : Numeral size v)
    (hle : v ≤ longMax) (h : ∀ x ∈ behind, ∀ size, x ≠ (.memSize size, false)) :
    ((before ++ (.memSize size, false) :: behind).foldl HelpArg.store .start).h2tT2hMemSize = v := by
  rw [List.foldl_append, List.foldl_cons, run_memSize h]
  simp only [HelpArg.store, hv.strtol_eq, toLong, if_pos hle, longToSize_natCast hle]

/-- The options of a valid line are read in range. -/
theorem HelpArg.inRange_uioOption (hvalid : x.1.Valid) : x.uioOption.InRange := by
  obtain ⟨o, short⟩ := x
  cases o with
  | startAddress address =>
    obtain ⟨v, hv, hle⟩ := hvalid
    cases short with
    | true => trivial
    | false =>
      rintro ⟨w, hw, hlt⟩
      rw [cstr_eq_self hv.zero_notMem] at hw
      exact absurd (toLong_of_lt (read_unique hw (Or.inl hv)) hlt) (not_lt.mpr hle)
  | driverPath path => cases short <;> trivial
  | port number => cases short <;> trivial
  | _ => trivial

/-- Without `-s` the second parser sees the options one by one. -/
theorem uioEvents_eq (hvalid : ∀ x ∈ args, x.1.Valid) (hexits : ∀ x ∈ args, x.1.exits = false)
    (hnext : ∀ x ∈ args, x.takesNext = false) : uioEvents args = args.map HelpArg.uioOption := by
  have hstrays := fun w hw => isOption_eq_false (stray_head hvalid w hw)
  rw [uioEvents, uio_scan_append hexits hnext, scan_others hstrays, List.map_nil, List.append_nil]

/-! ## The long forms -/

variable {opts : List HelpOption}

theorem fst_writeShort (p : HelpOption → Bool) (opts : List HelpOption) :
    (writeShort p opts).map Prod.fst = opts := by
  simp [writeShort, Function.comp_def]

theorem forall_of_fst {P : HelpOption → Prop} (hargs : args.map Prod.fst = opts) (h : ∀ o ∈ opts, P o) :
    ∀ x ∈ args, P x.1 := fun x hx => h x.1 (hargs ▸ List.mem_map_of_mem hx)

theorem forall_writeShort {P : HelpArg → Prop} {p : HelpOption → Bool} (h : ∀ o, P (o, p o)) :
    ∀ x ∈ writeShort p opts, P x := List.forall_mem_map.mpr fun o _ => h o

theorem takesNext_long (o : HelpOption) : HelpArg.takesNext (o, false) = false := by cases o <;> rfl

/-- The long form of an option sets what it documents. -/
theorem Configuration.found_document {o : HelpOption} (hvalid : o.Valid) {sc : UioScan}
    (herrno : sc.errno = 0) (cmdline : EtherlinkCommandLine) :
    Configuration.found (sc.next (HelpArg.uioOption (o, false))) (HelpArg.store cmdline (o, false)) =
      (Configuration.found sc cmdline).document o := by
  cases o with
  | driverPath path =>
    simp only [HelpArg.uioOption, HelpArg.store, UioScan.next, Configuration.found, Configuration.document,
      cstr_eq_self hvalid.1, Option.some_or]
  | startAddress address =>
    obtain ⟨v, hv, hle⟩ := hvalid
    simp only [HelpArg.uioOption, HelpArg.store, UioScan.next, Configuration.found, Configuration.document,
      uioParseIntegerArg, herrno, parseInteger_numeral hv hle errno_zero, hv.strtol_eq, toLong, if_pos hle,
      Option.getD_some]
  | _ => rfl

theorem found_run (hvalid : ∀ o ∈ opts, o.Valid) {sc : UioScan} (herrno : sc.errno = 0)
    (cmdline : EtherlinkCommandLine) :
    Configuration.found (((writeShort noShort opts).map HelpArg.uioOption).foldl UioScan.next sc)
        ((writeShort noShort opts).foldl HelpArg.store cmdline) =
      opts.foldl (fun c o => c.document o) (Configuration.found sc cmdline) := by
  induction opts generalizing sc cmdline with
  | nil => rfl
  | cons o opts ih =>
    obtain ⟨ho, hvalid⟩ := List.forall_mem_cons.mp hvalid
    have hleft : (sc.next (HelpArg.uioOption (o, false))).errno = 0 :=
      (UioScan.next_errno sc (HelpArg.inRange_uioOption ho)).trans herrno
    rw [List.foldl_cons, ← Configuration.found_document ho herrno]
    exact ih hvalid hleft _

/-- **The long forms do what is documented**: every option sets its own setting, to its last value. -/
theorem configure_long (hvalid : ∀ o ∈ opts, o.Valid) (hexits : ∀ o ∈ opts, o.exits = false) :
    configure (commandLine (writeShort noShort opts)) =
      .ok (opts.foldl (fun c o => c.document o) .default) := by
  have hargs := fst_writeShort noShort opts
  rw [configure_eq (forall_of_fst hargs hvalid) (forall_of_fst hargs hexits),
    uioEvents_eq (forall_of_fst hargs hvalid) (forall_of_fst hargs hexits) (forall_writeShort takesNext_long),
    uioScanOptions, found_run hvalid rfl]
  rfl

end RemoteDebug
