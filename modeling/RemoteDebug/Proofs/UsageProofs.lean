import RemoteDebug.Proofs.CommandLineProofs

/-!
# Usage proofs

The documented usage fails as soon as an option changes something: its short form has no effect, or another
one. What is left are the lines that exit and those that repeat the defaults.
-/

namespace RemoteDebug

open CString Getopt

variable {args : List HelpArg} {x : HelpArg} {opts : List HelpOption}

/-! ## Options that repeat the defaults -/

/-- The argument is read as 0, as a number or for want of one. -/
def ReadAsZero (optarg : List UInt8) : Prop :=
  ∀ name, (parseInteger name optarg 0).ret = 0 ∧ (parseInteger name optarg 0).errno = 0

/-- The option leaves the default configuration as it is. -/
def UioOption.Harmless : UioOption → Prop
  | .driverPath path => path = ascii "/dev/uio0"
  | .addressSpan optarg => ReadAsZero optarg
  | .startAddress optarg => ReadAsZero optarg
  | _ => True

/-- The second parser has found nothing but defaults. -/
structure UioScan.OnlyDefaults (sc : UioScan) : Prop where
  errno : sc.errno = 0
  driverPath : sc.args.driverPath.or (some (ascii "/dev/uio0")) = some (ascii "/dev/uio0")
  startAddress : sc.args.startAddress.getD 0 = 0
  addressSpan : sc.args.addressSpan.getD 0 = 0

theorem UioScan.OnlyDefaults.next {sc : UioScan} (h : sc.OnlyDefaults) {opt : UioOption}
    (hopt : opt.Harmless) : (sc.next opt).OnlyDefaults := by
  obtain ⟨herrno, hpath, hstart, hspan⟩ := h
  cases opt with
  | driverPath path =>
    obtain rfl : path = ascii "/dev/uio0" := hopt
    have hcstr : cstr (ascii "/dev/uio0") = ascii "/dev/uio0" := by decide
    exact ⟨herrno, congrArg some hcstr, hstart, hspan⟩
  | addressSpan optarg =>
    obtain ⟨hret, hleft⟩ := hopt (ascii "Address span")
    refine ⟨?_, hpath, hstart, ?_⟩
    · simpa only [UioScan.next, uioParseIntegerArg, herrno] using hleft
    · simp only [UioScan.next, uioParseIntegerArg, herrno, hret]
      rfl
  | startAddress optarg =>
    obtain ⟨hret, hleft⟩ := hopt (ascii "Start address")
    refine ⟨?_, hpath, ?_, hspan⟩
    · simpa only [UioScan.next, uioParseIntegerArg, herrno] using hleft
    · simp only [UioScan.next, uioParseIntegerArg, herrno, hret]
      rfl
  | singleComponentMode => exact ⟨herrno, hpath, hstart, hspan⟩
  | other => exact ⟨herrno, hpath, hstart, hspan⟩

theorem uioScanOptions_onlyDefaults {opts : List UioOption} (h : ∀ opt ∈ opts, opt.Harmless) :
    (uioScanOptions 0 opts).OnlyDefaults :=
  List.foldlRecOn (motive := UioScan.OnlyDefaults) opts _ ⟨rfl, rfl, rfl, rfl⟩ fun _ hsc opt hopt =>
    hsc.next (h opt hopt)

theorem ReadAsZero.of_invalid {optarg : List UInt8} (h : isAllDigit (cstr optarg) = false) :
    ReadAsZero optarg := by
  intro name
  rw [parseInteger_invalid h]
  exact ⟨rfl, rfl⟩

theorem ReadAsZero.of_numeral {optarg : List UInt8} (h : Numeral optarg 0) : ReadAsZero optarg := by
  intro name
  rw [parseInteger_numeral h (Nat.zero_le _) errno_zero]
  exact ⟨rfl, rfl⟩

/-- A word that looks like an option is no integer. -/
theorem ReadAsZero.of_option {w : Word} (h : w.head? = some 0x2D) : ReadAsZero w := by
  obtain ⟨w, rfl⟩ : ∃ w', w = 0x2D :: w' := by
    cases w with
    | nil => cases h
    | cons b w => exact ⟨w, congrArg (· :: w) (Option.some.inj h)⟩
  have hcstr : cstr (0x2D :: w) = 0x2D :: cstr w := List.takeWhile_cons_of_pos (by decide)
  apply ReadAsZero.of_invalid
  rw [hcstr]
  cases cstr w <;> simp [isAllDigit, hasHexPrefix, isdigit]

theorem HelpArg.harmless_uioOption (h : x.1.IsDefault) : x.uioOption.Harmless := by
  obtain ⟨o, short⟩ := x
  cases o with
  | driverPath path =>
    cases short with
    | true => trivial
    | false => exact h
  | startAddress address =>
    cases short with
    | true => trivial
    | false => exact ReadAsZero.of_numeral h
  | port number => cases h
  | _ => trivial

/-- A stray value that is no memory size gives no span. -/
theorem HelpArg.harmless_stray (h : x.1.IsDefault) (hsize : ∀ size, x.1 ≠ .memSize size) :
    ∀ w ∈ x.stray, (UioOption.addressSpan w).Harmless := by
  obtain ⟨o, short⟩ := x
  cases short with
  | false => cases o <;> exact List.forall_mem_nil _
  | true =>
    cases o with
    | driverPath path =>
      obtain rfl : path = ascii "/dev/uio0" := h
      exact List.forall_mem_singleton.mpr (ReadAsZero.of_invalid rfl)
    | startAddress address => exact List.forall_mem_singleton.mpr (ReadAsZero.of_numeral h)
    | memSize size => exact absurd rfl (hsize size)
    | _ => exact List.forall_mem_nil _

theorem HelpArg.store_default (h : x.1.IsDefault) {cmdline : EtherlinkCommandLine}
    (hsize : cmdline.h2tT2hMemSize = 4096) (hport : cmdline.port = 0) :
    (x.store cmdline).h2tT2hMemSize = 4096 ∧ (x.store cmdline).port = 0 := by
  obtain ⟨o, short⟩ := x
  cases o with
  | memSize size =>
    have hread : strtol size 0 = toLong 4096 := Numeral.strtol_eq h
    cases short with
    | true => exact ⟨hsize, hport⟩
    | false =>
      refine ⟨?_, hport⟩
      simp only [HelpArg.store, hread]
      decide
  | port number => cases h
  | _ => exact ⟨hsize, hport⟩

theorem store_defaults (h : ∀ x ∈ args, x.1.IsDefault) :
    (args.foldl HelpArg.store .start).h2tT2hMemSize = 4096 ∧
      (args.foldl HelpArg.store .start).port = 0 := by
  refine List.foldlRecOn (motive := fun c : EtherlinkCommandLine => c.h2tT2hMemSize = 4096 ∧ c.port = 0)
    args _ ⟨rfl, rfl⟩ ?_
  rintro c ⟨hsize, hport⟩ x hx
  exact HelpArg.store_default (h x hx) hsize hport

/-- **Defaults in any form**, if no `-s` at the end can meet a memory size. -/
theorem configure_default (hvalid : ∀ x ∈ args, x.1.Valid) (hexits : ∀ x ∈ args, x.1.exits = false)
    (hdefault : ∀ x ∈ args, x.1.IsDefault)
    (hend : endsOpen false args = true → ∀ x ∈ args, ∀ size, x.1 ≠ .memSize size) :
    configure (commandLine args) = .ok .default := by
  have hlast : endsOpen false args = true → ∀ w, (args.flatMap HelpArg.stray).head? = some w →
      (UioOption.addressSpan w).Harmless := by
    intro hopen w hw
    obtain ⟨x, hx, hwx⟩ := List.mem_flatMap.mp (List.mem_of_mem_head? hw)
    exact HelpArg.harmless_stray (hdefault x hx) (hend hopen x hx) w hwx
  have hreturned := @uio_scan_forall args UioOption.Harmless _ trivial (fun _ => ReadAsZero.of_option)
    (stray_head hvalid) hvalid hexits (fun x hx => HelpArg.harmless_uioOption (hdefault x hx)) false hlast
  have hevents : ∀ opt ∈ uioEvents args, opt.Harmless := List.forall_mem_map.mpr hreturned
  obtain ⟨-, hpath, hstart, haddr⟩ := uioScanOptions_onlyDefaults hevents
  obtain ⟨hsize, hport⟩ := store_defaults hdefault
  rw [configure_eq hvalid hexits, Configuration.found, hpath, hstart, haddr, hsize, hport]
  rfl

/-! ## What the forms of a kept usage show -/

/-- What the forms of the options must agree on. -/
theorem UsageKept.agree (h : UsageKept opts) (hvalid : ∀ o ∈ opts, o.Valid)
    (hexits : ∀ o ∈ opts, o.exits = false) {args args' : List HelpArg} (hargs : args.map Prod.fst = opts)
    (hargs' : args'.map Prod.fst = opts) :
    Configuration.found (uioScanOptions 0 (uioEvents args)) (args.foldl HelpArg.store .start) =
      .found (uioScanOptions 0 (uioEvents args')) (args'.foldl HelpArg.store .start) := by
  have heq := h.forms args args' hargs hargs'
  rw [configure_eq (forall_of_fst hargs hvalid) (forall_of_fst hargs hexits),
    configure_eq (forall_of_fst hargs' hvalid) (forall_of_fst hargs' hexits)] at heq
  exact Except.ok.inj heq

theorem fst_split {a b : List HelpOption} {o : HelpOption} (p p' : HelpOption → Bool) (short : Bool) :
    (writeShort p a ++ (o, short) :: writeShort p' b).map Prod.fst = a ++ o :: b := by
  rw [List.map_append, List.map_cons, fst_writeShort, fst_writeShort]

/-- With its driver paths in the short form a line gives none, unless a port does. -/
theorem ne_driverPath (o : HelpOption) (path : List UInt8) :
    HelpArg.uioOption (o, Setting.driverPath.documentedBy o) ≠ .driverPath path := by
  cases o with
  | driverPath _ => exact UioOption.noConfusion
  | startAddress _ => exact UioOption.noConfusion
  | _ => exact UioOption.noConfusion

theorem takesNext_driverPath (o : HelpOption) :
    HelpArg.takesNext (o, Setting.driverPath.documentedBy o) = false := by cases o <;> rfl

/-- A driver path that the second parser can be given is that of the default. -/
theorem UsageKept.driverPath (h : UsageKept opts) (hvalid : ∀ o ∈ opts, o.Valid)
    (hexits : ∀ o ∈ opts, o.exits = false) {a b : List HelpOption} {o : HelpOption} {path : List UInt8}
    (short : Bool) (hopts : opts = a ++ o :: b)
    (ho : HelpArg.uioOption (o, short) = .driverPath path) : cstr path = ascii "/dev/uio0" := by
  have hthis : HelpArg.takesNext (o, short) = false := by
    cases o with
    | startAddress _ => cases short <;> cases ho
    | _ => rfl
  have hnext : ∀ x ∈ writeShort noShort a ++
      (o, short) :: writeShort Setting.driverPath.documentedBy b, x.takesNext = false :=
    List.forall_mem_append.mpr ⟨forall_writeShort takesNext_long,
      List.forall_mem_cons.mpr ⟨hthis, forall_writeShort takesNext_driverPath⟩⟩
  have hargs := hopts ▸ fst_split noShort Setting.driverPath.documentedBy short (a := a) (b := b) (o := o)
  have hargs' := fst_writeShort Setting.driverPath.documentedBy opts
  have hpath := congrArg Configuration.driverPath (h.agree hvalid hexits hargs hargs')
  simp only [Configuration.found] at hpath
  have hno (l : List HelpOption) :
      ∀ e ∈ (writeShort Setting.driverPath.documentedBy l).map HelpArg.uioOption,
        ∀ path, e ≠ .driverPath path := List.forall_mem_map.mpr (forall_writeShort ne_driverPath)
  rw [uioEvents_eq (forall_of_fst hargs hvalid) (forall_of_fst hargs hexits) hnext,
    uioEvents_eq (forall_of_fst hargs' hvalid) (forall_of_fst hargs' hexits)
      (forall_writeShort takesNext_driverPath), List.map_append, List.map_cons, ho,
    uioScanOptions_driverPath (hno b), uioScanOptions, run_driverPath (hno opts)] at hpath
  exact Option.some.inj hpath

theorem ne_startAddress (o : HelpOption) (address : List UInt8) :
    HelpArg.uioOption (o, Setting.startAddress.documentedBy o) ≠ .startAddress address := by
  cases o with
  | driverPath _ => exact UioOption.noConfusion
  | startAddress _ => exact UioOption.noConfusion
  | _ => exact UioOption.noConfusion

/-- With its start addresses in the short form a line gives none. -/
theorem scan_no_startAddress {strays : List Word} (hstrays : ∀ w ∈ strays, w.head? ≠ some 0x2D)
    (hvalid : ∀ o ∈ opts, o.Valid) (hexits : ∀ o ∈ opts, o.exits = false) :
    ∀ e ∈ (uioOptions.scan none ((writeShort Setting.startAddress.documentedBy opts).flatMap HelpArg.kept
      ++ strays)).returned.map uioOption, ∀ address, e ≠ .startAddress address := by
  have hargs := fst_writeShort Setting.startAddress.documentedBy opts
  exact List.forall_mem_map.mpr <| @uio_scan_forall _ (fun e => ∀ address, e ≠ .startAddress address)
    strays (fun _ => UioOption.noConfusion) (fun _ _ _ => UioOption.noConfusion) hstrays
    (forall_of_fst hargs hvalid) (forall_of_fst hargs hexits) (forall_writeShort ne_startAddress) false
    fun _ _ _ _ => UioOption.noConfusion

/-- In front of a list of arguments in their long form the options are scanned one by one. -/
theorem uioEvents_append {a b : List HelpArg} (hexits : ∀ x ∈ a, x.1.exits = false)
    (hnext : ∀ x ∈ a, x.takesNext = false) :
    uioEvents (a ++ b) = a.map HelpArg.uioOption ++
      (uioOptions.scan none (b.flatMap HelpArg.kept ++ (a ++ b).flatMap HelpArg.stray)).returned.map
        uioOption := by
  rw [uioEvents, List.flatMap_append, List.append_assoc, uio_scan_append hexits hnext]

theorem inRange_of_valid (hvalid : ∀ x ∈ args, x.1.Valid) :
    ∀ e ∈ args.map HelpArg.uioOption, e.InRange :=
  List.forall_mem_map.mpr fun x hx => HelpArg.inRange_uioOption (hvalid x hx)

/-- A start address in its long form, and behind it only short ones. -/
theorem uioEvents_startAddress {a b : List HelpOption} {address : List UInt8}
    (hvalid : ∀ o ∈ a ++ .startAddress address :: b, o.Valid)
    (hexits : ∀ o ∈ a ++ .startAddress address :: b, o.exits = false) :
    ∃ behind, (∀ e ∈ behind, ∀ address, e ≠ .startAddress address) ∧
      uioEvents (writeShort noShort a ++
          (.startAddress address, false) :: writeShort Setting.startAddress.documentedBy b) =
        (writeShort noShort a).map HelpArg.uioOption ++ .startAddress address :: behind := by
  have hargs := fst_split noShort Setting.startAddress.documentedBy false (a := a) (b := b)
    (o := .startAddress address)
  have hstrays := stray_head (forall_of_fst hargs hvalid)
  have hexits' := forall_of_fst hargs hexits
  have hvalidb := (List.forall_mem_cons.mp (List.forall_mem_append.mp hvalid).2).2
  have hexitsb := (List.forall_mem_cons.mp (List.forall_mem_append.mp hexits).2).2
  rw [List.append_cons] at hstrays hexits' ⊢
  refine ⟨_, scan_no_startAddress hstrays hvalidb hexitsb, ?_⟩
  have hnext : ∀ x ∈ writeShort noShort a ++ [(HelpOption.startAddress address, false)],
      x.takesNext = false :=
    List.forall_mem_append.mpr ⟨forall_writeShort takesNext_long, List.forall_mem_singleton.mpr rfl⟩
  rw [uioEvents_append (List.forall_mem_append.mp hexits').1 hnext, List.map_append, List.append_assoc]
  rfl

/-- A start address is 0. -/
theorem UsageKept.startAddress (h : UsageKept opts) (hvalid : ∀ o ∈ opts, o.Valid)
    (hexits : ∀ o ∈ opts, o.exits = false) {a b : List HelpOption} {address : List UInt8} {v : Nat}
    (hopts : opts = a ++ .startAddress address :: b) (hv : Numeral address v) (hle : v ≤ longMax) :
    v = 0 := by
  subst hopts
  have hargs := fst_split noShort Setting.startAddress.documentedBy false (a := a) (b := b)
    (o := .startAddress address)
  have hargs' := fst_writeShort Setting.startAddress.documentedBy (a ++ .startAddress address :: b)
  have hstart := congrArg Configuration.startAddress (h.agree hvalid hexits hargs hargs')
  simp only [Configuration.found] at hstart
  obtain ⟨behind, hbehind, hevents⟩ := uioEvents_startAddress hvalid hexits
  have hfront := inRange_of_valid (forall_of_fst (fst_writeShort noShort a)
    (List.forall_mem_append.mp hvalid).1)
  have hno := scan_no_startAddress (stray_head (forall_of_fst hargs' hvalid)) hvalid hexits
  rw [hevents, uioScanOptions_startAddress hfront hv hle hbehind] at hstart
  rw [uioEvents, uioScanOptions, run_startAddress hno] at hstart
  exact hstart

/-- A memory size is that of the default. -/
theorem UsageKept.memSize (h : UsageKept opts) (hvalid : ∀ o ∈ opts, o.Valid)
    (hexits : ∀ o ∈ opts, o.exits = false) {a b : List HelpOption} {size : List UInt8} {v : Nat}
    (hopts : opts = a ++ .memSize size :: b) (hv : Numeral size v) (hle : v ≤ longMax) : v = 4096 := by
  have hargs := hopts ▸ fst_split noShort Setting.memSize.documentedBy false (a := a) (b := b)
    (o := .memSize size)
  have hargs' := fst_writeShort Setting.memSize.documentedBy opts
  have hno (l : List HelpOption) : ∀ x ∈ writeShort Setting.memSize.documentedBy l,
      ∀ size, x ≠ (.memSize size, false) := forall_writeShort fun o size => by
    cases o with
    | memSize _ => exact fun hc => Bool.noConfusion (congrArg Prod.snd hc)
    | _ => exact fun hc => HelpOption.noConfusion (congrArg Prod.fst hc)
  have hsize := congrArg Configuration.memSize (h.agree hvalid hexits hargs hargs')
  simp only [Configuration.found] at hsize
  rw [store_memSize hv hle (hno b), run_memSize (hno opts)] at hsize
  exact hsize

theorem stray_long (opts : List HelpOption) :
    (writeShort noShort opts).flatMap HelpArg.stray = [] :=
  List.flatMap_eq_nil_iff.mpr <| forall_writeShort fun o => by cases o <;> rfl

/-- A line with an `-m`, and with `-s` at the end. -/
def spanLine (a b : List HelpOption) (size address : List UInt8) : List HelpArg :=
  (writeShort noShort a ++ (.memSize size, true) :: writeShort noShort b) ++
    [(.startAddress address, true)]

/-- The `-s` takes the value of the `-m`. -/
theorem uioEvents_addressSpan {a b : List HelpOption} {size address : List UInt8}
    (hexits : ∀ o ∈ a ++ .memSize size :: b, o.exits = false) (haddress : address.head? ≠ some 0x2D) :
    uioEvents (spanLine a b size address) =
      (writeShort noShort a ++ (.memSize size, true) :: writeShort noShort b).map
        HelpArg.uioOption ++ [.addressSpan size] := by
  have hfst := fst_split noShort noShort true (a := a) (b := b) (o := .memSize size)
  have hnext : ∀ x ∈ writeShort noShort a ++ (HelpOption.memSize size, true) ::
      writeShort noShort b, x.takesNext = false :=
    List.forall_mem_append.mpr ⟨forall_writeShort takesNext_long,
      List.forall_mem_cons.mpr ⟨rfl, forall_writeShort takesNext_long⟩⟩
  have hlast : uioOptions.scan none [address] = ⟨[], [], [address]⟩ :=
    scan_others (List.forall_mem_singleton.mpr (isOption_eq_false haddress))
  have hscan := congrArg Scanned.returned
    (scan_short_arg uioOptions 0x73 (by decide) rfl [size, address])
  rw [scan_pending, hlast] at hscan
  have hstrays : (spanLine a b size address).flatMap HelpArg.stray = [size, address] := by
    simp [spanLine, stray_long, HelpArg.stray]
  rw [spanLine, uioEvents_append (forall_of_fst hfst hexits) hnext, ← spanLine, hstrays]
  exact congrArg (_ ++ List.map uioOption ·) hscan

theorem ne_addressSpan (x : HelpArg) (span : List UInt8) : x.uioOption ≠ .addressSpan span := by
  obtain ⟨o, short⟩ := x
  cases o <;> cases short <;> exact UioOption.noConfusion

/-- No memory size stands in front of a start address at the end. -/
theorem UsageKept.addressSpan (h : UsageKept opts) (hvalid : ∀ o ∈ opts, o.Valid)
    (hexits : ∀ o ∈ opts, o.exits = false) {a b : List HelpOption} {size address : List UInt8} :
    opts ≠ a ++ .memSize size :: b ++ [.startAddress address] := by
  rintro rfl
  obtain ⟨hfront, hlast⟩ := List.forall_mem_append.mp hvalid
  obtain ⟨v, hv, hpos, hle⟩ : (HelpOption.memSize size).Valid :=
    hfront _ (List.mem_append_right a List.mem_cons_self)
  obtain ⟨w, hw, -⟩ : (HelpOption.startAddress address).Valid := List.forall_mem_singleton.mp hlast
  have hfst := fst_split noShort noShort true (a := a) (b := b) (o := .memSize size)
  have hargs : (spanLine a b size address).map Prod.fst =
      a ++ .memSize size :: b ++ [.startAddress address] := by
    rw [spanLine, List.map_append, hfst]
    rfl
  have hargs' := fst_writeShort noShort (a ++ .memSize size :: b ++ [.startAddress address])
  have hspan := congrArg Configuration.addressSpan (h.agree hvalid hexits hargs hargs')
  simp only [Configuration.found] at hspan
  rw [uioEvents_addressSpan (List.forall_mem_append.mp hexits).1 hw.head_ne,
    uioScanOptions_addressSpan (inRange_of_valid (forall_of_fst hfst hfront)) hv hle,
    uioEvents_eq (forall_of_fst hargs' hvalid) (forall_of_fst hargs' hexits)
      (forall_writeShort takesNext_long),
    uioScanOptions, run_addressSpan (List.forall_mem_map.mpr fun x _ => ne_addressSpan x)] at hspan
  exact absurd hspan (Nat.pos_iff_ne_zero.mp hpos)

/-! ## The usage -/

theorem UsageKept.isDefault (h : UsageKept opts) (hvalid : ∀ o ∈ opts, o.Valid)
    (hexits : ∀ o ∈ opts, o.exits = false) : ∀ o ∈ opts, o.IsDefault := by
  intro o ho
  obtain ⟨a, b, hopts⟩ := List.append_of_mem ho
  have hvalid' := hvalid o ho
  cases o with
  | driverPath path =>
    have hpath := h.driverPath hvalid hexits false hopts rfl
    rwa [cstr_eq_self hvalid'.1] at hpath
  | startAddress address =>
    obtain ⟨v, hv, hle⟩ := hvalid'
    obtain rfl := h.startAddress hvalid hexits hopts hv hle
    exact hv
  | memSize size =>
    obtain ⟨v, hv, -, hle⟩ := hvalid'
    obtain rfl := h.memSize hvalid hexits hopts hv hle
    exact hv
  | port number =>
    -- a path does not begin with a digit
    obtain ⟨v, hv, -⟩ := hvalid'
    have hpath := h.driverPath hvalid hexits true hopts rfl
    rw [cstr_eq_self hv.zero_notMem] at hpath
    obtain ⟨c, t, rfl, hc⟩ := hv.head_isdigit
    have hslash : c = 0x2F := (List.cons.inj hpath).1
    rw [hslash] at hc
    cases hc
  | _ => trivial

theorem endsOpen_last (h : endsOpen false args = true) :
    ∃ address, args.getLast? = some (.startAddress address, true) := by
  unfold endsOpen at h
  cases hlast : args.getLast? with
  | none =>
    rw [hlast] at h
    cases h
  | some x =>
    rw [hlast] at h
    obtain ⟨address, rfl⟩ := HelpArg.eq_of_takesNext h
    exact ⟨address, rfl⟩

/-- A kept usage is harmless. -/
theorem UsageKept.harmless (h : UsageKept opts) (hvalid : ∀ o ∈ opts, o.Valid) : UsageHarmless opts := by
  by_cases hexits : ∃ o ∈ opts, o.exits = true
  · exact Or.inl hexits
  · have hexits' : ∀ o ∈ opts, o.exits = false := by
      intro o ho
      rw [Bool.eq_false_iff]
      intro hexit
      exact hexits ⟨o, ho, hexit⟩
    refine Or.inr ⟨h.isDefault hvalid hexits', ?_⟩
    rintro ⟨⟨size, hsize⟩, address, hlast⟩
    obtain ⟨front, rfl⟩ := List.getLast?_eq_some_iff.mp hlast
    have hsize' : .memSize size ∈ front := (List.mem_append.mp hsize).resolve_right fun hc =>
      HelpOption.noConfusion (List.mem_singleton.mp hc)
    obtain ⟨a, b, rfl⟩ := List.append_of_mem hsize'
    exact h.addressSpan hvalid hexits' rfl

/-- Nothing is configured by a line that exits. -/
theorem usageKept_of_exits (hvalid : ∀ o ∈ opts, o.Valid) (hcode : exitCode opts ≠ 0) :
    UsageKept opts := by
  have hconfigure {args : List HelpArg} (hargs : args.map Prod.fst = opts) :
      configure (commandLine args) = .error (exitCode opts) := by
    subst hargs
    exact configure_exits (forall_of_fst rfl hvalid) hcode
  constructor
  · intro args args' hargs hargs'
    rw [hconfigure hargs, hconfigure hargs']
  · intro args hargs setting c c' hc
    rw [hconfigure hargs] at hc
    cases hc

/-- Nothing is changed by options that repeat the defaults. -/
theorem usageKept_of_defaults (hvalid : ∀ o ∈ opts, o.Valid) (hexits : ∀ o ∈ opts, o.exits = false)
    (hdefault : ∀ o ∈ opts, o.IsDefault)
    (hend : ¬ ((∃ size, .memSize size ∈ opts) ∧
      ∃ address, opts.getLast? = some (.startAddress address))) : UsageKept opts := by
  have hconfigure {args : List HelpArg} (hargs : args.map Prod.fst = opts) :
      configure (commandLine args) = .ok .default := by
    apply configure_default (forall_of_fst hargs hvalid) (forall_of_fst hargs hexits)
      (forall_of_fst hargs hdefault)
    intro hopen x hx size hsize
    obtain ⟨address, hlast⟩ := endsOpen_last hopen
    refine hend ⟨⟨size, hsize ▸ hargs ▸ List.mem_map_of_mem hx⟩, address, ?_⟩
    rw [← hargs, List.getLast?_map, hlast]
    rfl
  constructor
  · intro args args' hargs hargs'
    rw [hconfigure hargs, hconfigure hargs']
  · intro args hargs setting c c' hc hc'
    have hsub {x : HelpArg} (hx : x ∈ args.filter fun x => setting.documentedBy x.1) : x.1 ∈ opts :=
      hargs ▸ List.mem_map_of_mem (List.mem_of_mem_filter hx)
    have hown : configure (commandLine (args.filter fun x => setting.documentedBy x.1)) = .ok .default := by
      apply configure_default (fun x hx => hvalid x.1 (hsub hx)) (fun x hx => hexits x.1 (hsub hx))
        (fun x hx => hdefault x.1 (hsub hx))
      intro hopen x hx size hsize
      -- the last option documents the same setting as `x`
      obtain ⟨address, hlast⟩ := endsOpen_last hopen
      have hstart := (List.mem_filter.mp (List.mem_of_getLast? hlast)).2
      have hmem := (List.mem_filter.mp hx).2
      rw [hsize] at hmem
      cases setting <;> simp [Setting.documentedBy] at hstart hmem
    rw [hconfigure hargs] at hc
    rw [hown] at hc'
    obtain rfl := Except.ok.inj hc
    obtain rfl := Except.ok.inj hc'
    cases setting <;> rfl

/-- **The command lines for which the documented usage holds**: those that exit, and those whose options
change nothing. -/
theorem usage_kept_iff (opts : List HelpOption) (hvalid : ∀ o ∈ opts, o.Valid) :
    UsageKept opts ↔ UsageHarmless opts := by
  constructor
  · intro h
    exact h.harmless hvalid
  · intro h
    by_cases hcode : exitCode opts = 0
    · have hexits := exitCode_eq_zero_iff.mp hcode
      rcases h with ⟨o, ho, hexit⟩ | ⟨hdefault, hend⟩
      · rw [hexits o ho] at hexit
        cases hexit
      · exact usageKept_of_defaults hvalid hexits hdefault hend
    · exact usageKept_of_exits hvalid hcode

theorem usage_kept_defaults : UsageKept [.memSize (ascii "0x1000"), .driverPath (ascii "/dev/uio0")] := by
  have hsize : Numeral (ascii "0x1000") 4096 :=
    Numeral.hex (Or.inl rfl) (List.cons_ne_nil _ _) (List.all_eq_true.mp rfl)
  refine (usage_kept_iff _ ?_).mpr (Or.inr ⟨?_, ?_⟩)
  · exact List.forall_mem_cons.mpr ⟨⟨4096, hsize, by decide, by decide⟩,
      List.forall_mem_singleton.mpr ⟨by decide, by decide⟩⟩
  · exact List.forall_mem_cons.mpr ⟨hsize, List.forall_mem_singleton.mpr rfl⟩
  · rintro ⟨-, address, hlast⟩
    cases hlast

/-- `-s` sets the address span and not the start address. -/
theorem short_start_address :
    configure [ascii "--start-address=0x100"] = .ok ⟨some (ascii "/dev/uio0"), 0x100, 0, 4096, 0⟩ ∧
      configure [ascii "-s", ascii "0x100"] = .ok ⟨some (ascii "/dev/uio0"), 0, 0x100, 4096, 0⟩ ∧
      (∀ o ∈ [HelpOption.startAddress (ascii "0x100")], o.Valid) ∧
      ¬ UsageKept [.startAddress (ascii "0x100")] := by
  have hlong : configure [ascii "--start-address=0x100"] =
      .ok ⟨some (ascii "/dev/uio0"), 0x100, 0, 4096, 0⟩ := by rfl
  have hshort : configure [ascii "-s", ascii "0x100"] =
      .ok ⟨some (ascii "/dev/uio0"), 0, 0x100, 4096, 0⟩ := by rfl
  have hv : Numeral (ascii "0x100") 0x100 :=
    Numeral.hex (Or.inl rfl) (List.cons_ne_nil _ _) (List.all_eq_true.mp rfl)
  refine ⟨hlong, hshort, List.forall_mem_singleton.mpr ⟨_, hv, by decide⟩, ?_⟩
  intro h
  have hforms := h.forms [(.startAddress (ascii "0x100"), false)]
    [(.startAddress (ascii "0x100"), true)] rfl rfl
  have hne := hlong.symm.trans (hforms.trans hshort)
  have haddress := congrArg Configuration.startAddress (Except.ok.inj hne)
  cases haddress

end RemoteDebug
