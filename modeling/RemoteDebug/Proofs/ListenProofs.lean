import RemoteDebug.Server.Listen
import RemoteDebug.Proofs.ArgumentProofs

/-!
# The server listens on the port that was asked for

The last port of the command line decides. What its parse returns is reduced to 16 bits on the way to
`bind`, and an error is the port 0.
-/

namespace RemoteDebug

open CString

variable {optarg : List UInt8} {errno : Int} {opts : List CmdOption} {cmdline : EtherlinkCommandLine}

/-! ## Refused command lines -/

/-- When a memory size is 0 for `parse_cmd_args`. -/
theorem memSize_eq_zero_iff (name optarg : List UInt8) (errno : Int) :
    longToSize (parseIntegerArg name optarg errno).ret = 0 ↔ errno = erange ∨ ¬ MemSizeTaken optarg := by
  have hret : (parseIntegerArg name optarg errno).ret = (parseInteger name optarg errno).ret := rfl
  rw [hret]
  rcases parseInteger_cases name optarg errno with
    ⟨hnum, hcut, harg⟩ | ⟨v, hkind, ⟨hlt, harg⟩ | ⟨-, herr, harg⟩ | ⟨hle, herr, harg⟩⟩
  · have hno : ¬ MemSizeTaken optarg := by
      rintro ⟨v, hv | hv, -⟩
      · exact hnum v hv
      · exact hcut v hv
    rw [harg]
    exact ⟨fun _ => Or.inr hno, fun _ => rfl⟩
  · have hno : ¬ MemSizeTaken optarg := by
      rintro ⟨w, hw, -, hle⟩
      exact absurd (toLong_of_lt (read_unique hkind hw) hlt) (not_lt.mpr hle)
    rw [harg]
    exact ⟨fun _ => Or.inr hno, fun _ => rfl⟩
  · rw [harg]
    exact ⟨fun _ => Or.inl herr, fun _ => rfl⟩
  · rw [harg]
    show longToSize v = 0 ↔ _
    rw [longToSize_natCast hle]
    constructor
    · intro hzero
      right
      rintro ⟨w, hw, hpos, -⟩
      have hwv := toLong_of_le (read_unique hkind hw) hle
      omega
    · rintro (h | hno)
      · exact absurd h herr
      · by_contra hpos
        exact hno ⟨v, hkind, Nat.pos_of_ne_zero hpos, hle⟩

/-- A memory size that is taken leaves `errno` alone. -/
theorem memSize_errno (h : MemSizeTaken optarg) (name : List UInt8) (errno : Int) :
    (parseIntegerArg name optarg errno).errno = errno := by
  rcases parseInteger_errno name optarg errno with ⟨⟨v, hv, hlt⟩, -⟩ | ⟨-, herrno⟩
  · obtain ⟨w, hw, -, hle⟩ := h
    exact absurd (toLong_of_lt (read_unique hv hw) hlt) (not_lt.mpr hle)
  · exact herrno

/-- What a port leaves in `errno`. -/
theorem port_errno (name optarg : List UInt8) (errno : Int) :
    ((parseIntegerArg name optarg errno).errno = erange) = (errno = erange ∨ OutOfRange optarg) := by
  apply propext
  have hcopy : (parseIntegerArg name optarg errno).errno = (parseInteger name optarg errno).errno := rfl
  rw [hcopy]
  rcases parseInteger_errno name optarg errno with ⟨hout, herrno⟩ | ⟨hin, herrno⟩
  · rw [herrno]
    exact ⟨fun _ => Or.inr hout, fun _ => rfl⟩
  · rw [herrno]
    constructor
    · intro h
      exact Or.inl h
    · rintro (h | h)
      · exact h
      · exact absurd h hin

/-- **The command lines that `parse_cmd_args` refuses.** -/
theorem parseCmdArgs_refused (cmdline : EtherlinkCommandLine) (errno : Int)
    (opts : List CmdOption) :
    (parseCmdArgs cmdline errno opts).1 ≠ 0 ↔ Refused (errno = erange) opts := by
  induction opts generalizing cmdline errno with
  | nil => simp [parseCmdArgs, Refused]
  | cons opt opts ih =>
    cases opt with
    | version => simp [parseCmdArgs, Refused]
    | help => simp [parseCmdArgs, Refused]
    | ip optarg => exact ih _ _
    | other => exact ih _ _
    | port optarg =>
      unfold parseCmdArgs Refused
      rw [ih, port_errno]
    | memSize optarg =>
      have hzero := memSize_eq_zero_iff (ascii "h2t-t2h-mem-size") optarg errno
      unfold parseCmdArgs Refused
      dsimp only
      split
      · next h =>
        constructor
        · intro _
          rcases hzero.mp h with herr | hno
          · exact Or.inl herr
          · exact Or.inr (Or.inl hno)
        · intro _
          exact (by omega : (-3 : Int) ≠ 0)
      · next h =>
        obtain ⟨herr, htaken⟩ := not_or.mp fun hc => h (hzero.mpr hc)
        rw [ih, memSize_errno (not_not.mp htaken)]
        constructor
        · intro hr
          exact Or.inr (Or.inr hr)
        · rintro (hc | hc | hr)
          · exact absurd hc herr
          · exact absurd hc htaken
          · exact hr

/-- The program starts without an overflow. -/
theorem start_errno : ((0 : Int) = erange) = False := by decide

theorem parseCmdArgs_start_refused (opts : List CmdOption) :
    (parseCmdArgs .start 0 opts).1 ≠ 0 ↔ Refused False opts := by
  have href := parseCmdArgs_refused .start 0 opts
  rwa [start_errno] at href

/-! ## The port that is parsed -/

/-- The string is parsed with `e` in `errno`, which is `ERANGE` if an earlier port has overflown. -/
structure PortParsed (errno : Int) (opts : List CmdOption) (optarg : List UInt8) (e port : Int) :
    Prop where
  port : port = longToInt (parseInteger (ascii "port") optarg e).ret
  overflown : e = erange → errno = erange ∨ ∃ o, .port o ∈ opts ∧ OutOfRange o
  stale : (errno = erange ∨ ∃ o, .port o ∈ opts ∧ OutOfRange o) → e = erange ∨ OutOfRange optarg

theorem lastPort_eq_none (h : lastPort opts = none) (optarg : List UInt8) : .port optarg ∉ opts := by
  induction opts with
  | nil => exact List.not_mem_nil
  | cons opt opts ih =>
    intro hmem
    rcases List.mem_cons.mp hmem with rfl | hlater
    · exact absurd h (by simp [lastPort])
    · cases opt with
      | port a => exact absurd h (by simp [lastPort])
      | version => exact ih h hlater
      | help => exact ih h hlater
      | memSize a => exact ih h hlater
      | ip a => exact ih h hlater
      | other => exact ih h hlater

/-- The port behind which no other one stands. -/
theorem PortParsed.last (optarg : List UInt8) (errno : Int) (h : lastPort opts = none) :
    PortParsed errno (.port optarg :: opts) optarg errno
      (longToInt (parseInteger (ascii "port") optarg errno).ret) := by
  constructor
  · rfl
  · intro he
    exact Or.inl he
  · rintro (herr | ⟨o, ho, hout⟩)
    · exact Or.inl herr
    · rcases List.mem_cons.mp ho with heq | ho
      · obtain rfl := CmdOption.port.inj heq
        exact Or.inr hout
      · exact absurd ho (lastPort_eq_none h o)

/-- An earlier port only matters if it overflows. -/
theorem PortParsed.earlier {e errno' port : Int} {a : List UInt8}
    (h : PortParsed errno' opts optarg e port)
    (herrno : (errno' = erange) = (errno = erange ∨ OutOfRange a)) :
    PortParsed errno (.port a :: opts) optarg e port := by
  obtain ⟨hport, hover, hstale⟩ := h
  rw [herrno] at hover hstale
  constructor
  · exact hport
  · intro he
    rcases hover he with (herr | hout) | ⟨o, ho, hout⟩
    · exact Or.inl herr
    · exact Or.inr ⟨a, List.mem_cons_self, hout⟩
    · exact Or.inr ⟨o, List.mem_cons_of_mem _ ho, hout⟩
  · rintro (herr | ⟨o, ho, hout⟩)
    · exact hstale (Or.inl (Or.inl herr))
    · rcases List.mem_cons.mp ho with heq | ho
      · obtain rfl := CmdOption.port.inj heq
        exact hstale (Or.inl (Or.inr hout))
      · exact hstale (Or.inr ⟨o, ho, hout⟩)

/-- Options that are not ports do not matter. -/
theorem PortParsed.cons {opt : CmdOption} {e port : Int} (h : PortParsed errno opts optarg e port)
    (hopt : ∀ o, opt ≠ .port o) : PortParsed errno (opt :: opts) optarg e port := by
  have hmem (o : List UInt8) : .port o ∈ opt :: opts ↔ .port o ∈ opts := by
    rw [List.mem_cons]
    exact ⟨fun hc => hc.resolve_left fun heq => hopt o heq.symm, Or.inr⟩
  constructor
  · exact h.port
  · intro he
    simpa only [hmem] using h.overflown he
  · intro hc
    apply h.stale
    simpa only [hmem] using hc

/-- What the options make of the port `start`: the last one that is a port decides. -/
structure PortDecided (start errno : Int) (opts : List CmdOption) (port : Int) : Prop where
  kept : lastPort opts = none → port = start
  parsed : ∀ optarg, lastPort opts = some optarg → ∃ e, PortParsed errno opts optarg e port

theorem PortDecided.cons {opt : CmdOption} {start port : Int} (h : PortDecided start errno opts port)
    (hopt : ∀ o, opt ≠ .port o) (hlast : lastPort (opt :: opts) = lastPort opts) :
    PortDecided start errno (opt :: opts) port := by
  constructor
  · rw [hlast]
    exact h.kept
  · intro optarg hsome
    rw [hlast] at hsome
    obtain ⟨e, he⟩ := h.parsed optarg hsome
    exact ⟨e, he.cons hopt⟩

theorem PortDecided.port {start port : Int} {a : List UInt8}
    (h : PortDecided (longToInt (parseIntegerArg (ascii "port") a errno).ret)
      (parseIntegerArg (ascii "port") a errno).errno opts port) :
    PortDecided start errno (.port a :: opts) port := by
  constructor
  · intro hnone
    exact absurd hnone (by simp [lastPort])
  · intro optarg hlast
    cases hlater : lastPort opts with
    | none =>
      obtain rfl : a = optarg := by simpa [lastPort, hlater] using hlast
      rw [h.kept hlater]
      exact ⟨errno, .last a errno hlater⟩
    | some b =>
      obtain rfl : b = optarg := by simpa [lastPort, hlater] using hlast
      obtain ⟨e, he⟩ := h.parsed b hlater
      exact ⟨e, he.earlier (port_errno (ascii "port") a errno)⟩

/-- **The last port decides.** Without one the port stays as it is. -/
theorem parseCmdArgs_port (cmdline : EtherlinkCommandLine) (errno : Int) (opts : List CmdOption)
    (h : ¬ Refused (errno = erange) opts) :
    PortDecided cmdline.port errno opts (parseCmdArgs cmdline errno opts).2.port := by
  induction opts generalizing cmdline errno with
  | nil =>
    constructor
    · intro _
      unfold parseCmdArgs
      split
      · rfl
      · rfl
    · intro optarg hnone
      cases hnone
  | cons opt opts ih =>
    cases opt with
    | version => exact absurd trivial h
    | help => exact absurd trivial h
    | ip a => exact (ih { cmdline with ip := (cstr a).take 15 } errno h).cons (fun o => by simp) rfl
    | other => exact (ih cmdline errno h).cons (fun o => by simp) rfl
    | memSize a =>
      obtain ⟨herr, htaken, hrest⟩ : errno ≠ erange ∧ MemSizeTaken a ∧ ¬ Refused (errno = erange) opts := by
        unfold Refused at h
        simpa only [not_or, not_not] using h
      have hsize : longToSize (parseIntegerArg (ascii "h2t-t2h-mem-size") a errno).ret ≠ 0 := by
        intro hzero
        rcases (memSize_eq_zero_iff _ a errno).mp hzero with hc | hc
        · exact herr hc
        · exact hc htaken
      unfold parseCmdArgs
      dsimp only
      rw [if_neg hsize, memSize_errno htaken]
      have hnext := ih { cmdline with
        h2tT2hMemSize := longToSize (parseIntegerArg (ascii "h2t-t2h-mem-size") a errno).ret } errno hrest
      exact hnext.cons (fun o => by simp) rfl
    | port a =>
      have hrest : ¬ Refused ((parseIntegerArg (ascii "port") a errno).errno = erange) opts := by
        rw [port_errno]
        exact h
      exact (ih { cmdline with port := _ } _ hrest).port

/-! ## The port that is bound -/

theorem htons_htons {p : Nat} (h : p < 2 ^ 16) : htons (htons p) = p := by
  obtain ⟨hi, lo, hhi, hlo, rfl⟩ : ∃ hi lo, hi < 256 ∧ lo < 256 ∧ p = hi * 256 + lo :=
    ⟨p / 256, p % 256, by omega, by omega, by omega⟩
  have hswap {hi lo : Nat} (hhi : hi < 256) (hlo : lo < 256) : htons (hi * 256 + lo) = lo * 256 + hi := by
    unfold htons
    omega
  rw [hswap hhi hlo, hswap hlo hhi]

/-- The 16 bits of the port survive its way through `int`. -/
theorem ushort_longToInt {v : Nat} (h : v < 2 ^ 16) : (longToInt v % 2 ^ 16).toNat = v := by
  unfold longToInt
  rw [Int.bmod_eq_of_le (by omega) (by omega)]
  omega

/-- What `main` listens on. -/
theorem mainPort_eq {sys : StartResults} {q : Nat} (h : mainPort sys opts = some q) :
    ¬ Refused False opts ∧ q = ((parseCmdArgs .start 0 opts).2.port % 2 ^ 16).toNat := by
  unfold mainPort at h
  dsimp only at h
  split at h
  · cases h
  · next hrc =>
    refine ⟨mt (parseCmdArgs_start_refused opts).mpr hrc, ?_⟩
    split at h
    · unfold startTransportServer initializeServer bindServerSocket at h
      split at h
      · have hq := Option.some.inj h
        rw [← hq, htons_htons (by omega)]
      · cases h
    · cases h

/-- A system on which every call succeeds. -/
def StartResults.willing : StartResults := ⟨true, true, true, fun _ => true, true⟩

theorem mainPort_willing (h : ¬ Refused False opts) :
    mainPort .willing opts = some ((parseCmdArgs .start 0 opts).2.port % 2 ^ 16).toNat := by
  unfold mainPort
  dsimp only
  rw [if_neg (mt (parseCmdArgs_start_refused opts).mp h)]
  show some (htons (htons _)) = _
  rw [htons_htons (by omega)]

theorem portParsed_start (h : ¬ Refused False opts) (hlast : lastPort opts = some optarg) :
    ∃ e, PortParsed 0 opts optarg e (parseCmdArgs .start 0 opts).2.port := by
  apply (parseCmdArgs_port .start 0 opts _).parsed optarg hlast
  rw [start_errno]
  exact h

/-- A system on which every call succeeds shows what is wrong with the port. -/
theorem portFits_of_listensAsAsked (h : ListensAsAsked opts) : PortFits opts := by
  by_cases href : Refused False opts
  · exact Or.inl href
  · right
    intro optarg hlast
    obtain ⟨p, hp, hle, hq⟩ := h .willing _ (mainPort_willing href) optarg hlast
    refine ⟨p, hp, hle, ?_⟩
    by_contra hbad
    obtain ⟨hpos, o, ho, hout⟩ : p ≠ 0 ∧ ∃ o, .port o ∈ opts ∧ OutOfRange o := by
      simpa only [not_or, not_forall, not_not, exists_prop] using hbad
    obtain ⟨e, hport, -, hstale⟩ := portParsed_start href hlast
    rcases hstale (Or.inr ⟨o, ho, hout⟩) with he | ⟨v, hv, hlt⟩
    · -- parsed with an old `ERANGE`
      rw [hport, he, (parseInteger_stale _ optarg).1] at hq
      exact hpos hq.symm
    · have hpv := toLong_of_lt (read_unique hv (Or.inl hp)) hlt
      unfold longMax at hpv
      omega

theorem listensAsAsked_of_portFits (h : PortFits opts) : ListensAsAsked opts := by
  intro sys q hq optarg hlast
  obtain ⟨href, hq⟩ := mainPort_eq hq
  rcases h with href' | hfits
  · exact absurd href' href
  · obtain ⟨p, hp, hle, hearlier⟩ := hfits optarg hlast
    obtain ⟨e, hport, hover, -⟩ := portParsed_start href hlast
    refine ⟨p, hp, hle, ?_⟩
    have hlong : p ≤ longMax := by
      unfold longMax
      omega
    by_cases he : e = erange
    · rw [hport, he, (parseInteger_stale _ optarg).1] at hq
      rcases hearlier with rfl | hin
      · exact hq
      · rcases hover he with herr | ⟨o, ho, hout⟩
        · exact absurd herr (by decide)
        · exact absurd hout (hin o ho)
    · rw [hport, parseInteger_fits (isAllDigit_numeral hp) hp.strtol_eq hlong, if_neg he] at hq
      rw [hq]
      exact ushort_longToInt (by omega)

/-- **When the server listens on the port that was asked for, or not at all.** -/
theorem listensAsAsked_iff (opts : List CmdOption) : ListensAsAsked opts ↔ PortFits opts := by
  constructor
  · intro h
    exact portFits_of_listensAsAsked h
  · intro h
    exact listensAsAsked_of_portFits h

/-- 65616 is 80 in 16 bits, and a malformed port is the port 0. -/
theorem listens_elsewhere :
    mainPort .willing [.port (ascii "65616")] = some 80 ∧
    mainPort .willing [.port (ascii "80a")] = some 0 ∧
    ¬ ListensAsAsked [.port (ascii "65616")] ∧ ¬ ListensAsAsked [.port (ascii "80a")] := by
  have hbig : mainPort .willing [.port (ascii "65616")] = some 80 := by decide
  have hbad : mainPort .willing [.port (ascii "80a")] = some 0 := by decide
  refine ⟨hbig, hbad, ?_, ?_⟩
  · intro h
    obtain ⟨p, hp, -, hq⟩ := h _ 80 hbig _ rfl
    have hvalue := hp.strtol_eq
    rw [← hq] at hvalue
    exact absurd hvalue (by decide)
  · intro h
    obtain ⟨p, hp, -, -⟩ := h _ 0 hbad _ rfl
    exact absurd (isAllDigit_numeral hp) (by decide)

end RemoteDebug
