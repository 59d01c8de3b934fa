import Mathlib.Data.List.Induction
import RemoteDebug.Arguments

/-!
# Integer arguments

The digit scan accepts more strings than there are integer constants, and the overflow test reads an
`errno` that an earlier call may have set. Apart from these two an argument is read by its text.
-/

namespace RemoteDebug

open CString

variable {name optarg s : List UInt8} {errno : Int}

/-! ## The scan -/

theorem isAllDigit_numeral {v : Nat} (h : Numeral s v) : isAllDigit s = true := by
  unfold isAllDigit
  cases h with
  | @hex x t hx _ ht =>
    rw [if_pos (hasHexPrefix_hex hx t)]
    exact List.all_eq_true.mpr ht
  | octal ht =>
    have hdigits := fun c hc => isdigit_of_octal (ht c hc)
    rw [hasHexPrefix_of_isdigit hdigits, if_neg Bool.false_ne_true]
    exact List.all_eq_true.mpr (List.forall_mem_cons.mpr ⟨by decide, hdigits⟩)
  | decimal _ ht =>
    rw [hasHexPrefix_of_isdigit (List.forall_mem_cons.mp ht).2, if_neg Bool.false_ne_true]
    exact List.all_eq_true.mpr ht

theorem isAllDigit_cutShort {v : Nat} (h : CutShort s v) : isAllDigit s = true := by
  unfold isAllDigit
  cases h with
  | empty => rfl
  | hex hx =>
    rw [if_pos (hasHexPrefix_hex hx [])]
    rfl
  | @octal o t d ho hd ht =>
    rw [hasHexPrefix_of_split ho hd ht, if_neg Bool.false_ne_true]
    apply List.all_eq_true.mpr
    intro c hc
    rcases List.mem_cons.mp hc with rfl | hc
    · decide
    · rcases List.mem_append.mp hc with hc | hc
      · exact isdigit_of_octal (ho c hc)
      · rcases List.mem_cons.mp hc with rfl | hc
        · exact (eight_or_nine hd).1
        · exact ht c hc

/-- **The strings that the scan accepts**: the constants, and what `strtol` cuts short. -/
theorem isAllDigit_iff :
    isAllDigit s = true ↔ (∃ v, Numeral s v) ∨ ∃ v, CutShort s v := by
  constructor
  · intro h
    unfold isAllDigit at h
    split at h
    · next hprefix =>
      have hdigits := List.all_eq_true.mp h
      match s, hprefix with
      | c :: x :: t, hprefix =>
        obtain ⟨rfl, hx⟩ : c = 0x30 ∧ (x = 0x78 ∨ x = 0x58) := by simpa [hasHexPrefix] using hprefix
        by_cases ht : t = []
        · subst ht
          exact Or.inr ⟨0, .hex hx⟩
        · exact Or.inl ⟨_, .hex hx ht hdigits⟩
    · have hdigits := List.all_eq_true.mp h
      cases s with
      | nil => exact Or.inr ⟨0, .empty⟩
      | cons b t =>
        by_cases hb : b = 0x30
        · subst hb
          have ht := (List.forall_mem_cons.mp hdigits).2
          rcases octal_or_split ht with h8 | ⟨o, d, t', rfl, ho, hd⟩
          · exact Or.inl ⟨_, .octal h8⟩
          · have ht' : ∀ c ∈ t', isdigit c = true := fun c hc =>
              ht c (List.mem_append_right o (List.mem_cons_of_mem d hc))
            exact Or.inr ⟨_, .octal ho hd ht'⟩
        · exact Or.inl ⟨_, .decimal hb hdigits⟩
  · rintro (⟨v, h⟩ | ⟨v, h⟩)
    · exact isAllDigit_numeral h
    · exact isAllDigit_cutShort h

/-! ## One argument -/

theorem longToSize_natCast {v : Nat} (h : v ≤ longMax) : longToSize v = v := by
  unfold longMax at h
  unfold longToSize
  omega

theorem parseInteger_invalid (h : isAllDigit (cstr optarg) = false) (name : List UInt8)
    (errno : Int) :
    parseInteger name optarg errno = ⟨0, some (invalidMessage (cstr optarg)), errno⟩ := by
  simp [parseInteger, h]

/-- A value in range is returned unless `errno` is already `ERANGE`. -/
theorem parseInteger_fits {v : Nat} (h : isAllDigit (cstr optarg) = true)
    (hv : strtol (cstr optarg) 0 = toLong v) (hle : v ≤ longMax) (name : List UInt8) (errno : Int) :
    parseInteger name optarg errno =
      if errno = erange then ⟨0, some (tooBigMessage name (cstr optarg)), errno⟩
      else ⟨v, none, errno⟩ := by
  simp [parseInteger, h, hv, toLong, hle]

/-- A constant is read as its value. -/
theorem parseInteger_numeral {v : Nat} (hv : Numeral optarg v)
    (hle : v ≤ longMax) (herrno : errno ≠ erange) (name : List UInt8) :
    parseInteger name optarg errno = ⟨v, none, errno⟩ := by
  have hcstr := cstr_eq_self hv.zero_notMem
  have hdigits : isAllDigit (cstr optarg) = true := hcstr.symm ▸ isAllDigit_numeral hv
  have hread : strtol (cstr optarg) 0 = toLong v := hcstr.symm ▸ hv.strtol_eq
  rw [parseInteger_fits hdigits hread hle, if_neg herrno]

theorem parseInteger_tooBig {v : Nat} (h : isAllDigit (cstr optarg) = true)
    (hv : strtol (cstr optarg) 0 = toLong v) (hlt : longMax < v) (name : List UInt8) (errno : Int) :
    parseInteger name optarg errno = ⟨0, some (tooBigMessage name (cstr optarg)), erange⟩ := by
  simp [parseInteger, h, hv, toLong, not_le.mpr hlt]

/-- What each kind of string leads to. -/
theorem parseInteger_cases (name optarg : List UInt8) (errno : Int) :
    ((∀ v, ¬ Numeral (cstr optarg) v) ∧ (∀ v, ¬ CutShort (cstr optarg) v) ∧
        parseInteger name optarg errno = ⟨0, some (invalidMessage (cstr optarg)), errno⟩) ∨
    ∃ v, (Numeral (cstr optarg) v ∨ CutShort (cstr optarg) v) ∧
      (longMax < v ∧
          parseInteger name optarg errno = ⟨0, some (tooBigMessage name (cstr optarg)), erange⟩ ∨
        v ≤ longMax ∧ errno = erange ∧
          parseInteger name optarg errno = ⟨0, some (tooBigMessage name (cstr optarg)), errno⟩ ∨
        v ≤ longMax ∧ errno ≠ erange ∧ parseInteger name optarg errno = ⟨v, none, errno⟩) := by
  by_cases h : isAllDigit (cstr optarg) = true
  · obtain ⟨v, hkind, hv⟩ : ∃ v, (Numeral (cstr optarg) v ∨ CutShort (cstr optarg) v) ∧
        strtol (cstr optarg) 0 = toLong v := by
      rcases isAllDigit_iff.mp h with ⟨v, hv⟩ | ⟨v, hv⟩
      · exact ⟨v, Or.inl hv, hv.strtol_eq⟩
      · exact ⟨v, Or.inr hv, hv.strtol_eq⟩
    refine Or.inr ⟨v, hkind, ?_⟩
    by_cases hle : v ≤ longMax
    · have harg := parseInteger_fits h hv hle name errno
      by_cases herr : errno = erange
      · rw [if_pos herr] at harg
        exact Or.inr (Or.inl ⟨hle, herr, harg⟩)
      · rw [if_neg herr] at harg
        exact Or.inr (Or.inr ⟨hle, herr, harg⟩)
    · have hlt := not_le.mp hle
      exact Or.inl ⟨hlt, parseInteger_tooBig h hv hlt name errno⟩
  · simp only [Bool.not_eq_true] at h
    have hno : ¬ ((∃ v, Numeral (cstr optarg) v) ∨ ∃ v, CutShort (cstr optarg) v) := fun hc => by
      rw [isAllDigit_iff.mpr hc] at h
      cases h
    obtain ⟨hnum, hcut⟩ := not_or.mp hno
    exact Or.inl ⟨not_exists.mp hnum, not_exists.mp hcut, parseInteger_invalid h name errno⟩

/-- A string has one value, as far as `long` can tell. -/
theorem read_unique {v w : Nat} (hv : Numeral s v ∨ CutShort s v) (hw : Numeral s w ∨ CutShort s w) :
    toLong v = toLong w := by
  have hread {u : Nat} (hu : Numeral s u ∨ CutShort s u) : strtol s 0 = toLong u := by
    rcases hu with hu | hu
    · exact hu.strtol_eq
    · exact hu.strtol_eq
  rw [← hread hv, hread hw]

theorem parsedByText_iff (name optarg : List UInt8) (errno : Int) :
    ParsedByText optarg (parseInteger name optarg errno) ↔ ReadByText optarg errno := by
  rcases parseInteger_cases name optarg errno with
    ⟨hnum, hcut, harg⟩ | ⟨v, hkind, ⟨hlt, harg⟩ | ⟨hle, herr, harg⟩ | ⟨hle, herr, harg⟩⟩
  · -- no digits at all
    rw [harg]
    constructor
    · intro _
      exact ⟨fun _ w hw => absurd hw (hnum w), fun _ w hw => absurd hw (hcut w)⟩
    · intro _
      exact ⟨fun w hw => absurd hw (hnum w), fun _ => ⟨rfl, rfl⟩⟩
  · -- out of range
    have hall {w : Nat} (hw : Numeral (cstr optarg) w ∨ CutShort (cstr optarg) w) : longMax < w :=
      toLong_of_lt (read_unique hkind hw) hlt
    rw [harg]
    constructor
    · intro _
      exact ⟨fun _ w hw => hall (Or.inl hw), fun _ w hw => hall (Or.inr hw)⟩
    · intro _
      exact ⟨fun w hw hle => absurd (hall (Or.inl hw)) (not_lt.mpr hle), fun _ => ⟨rfl, rfl⟩⟩
  · -- in range, with an old `ERANGE`
    rw [harg]
    constructor
    · intro h
      refine ⟨fun _ w hw => ?_, fun hne => absurd herr hne⟩
      by_contra hw'
      have herror := (h.value w hw (not_lt.mp hw')).2
      cases herror
    · rintro ⟨hnum, -⟩
      exact ⟨fun w hw hle => absurd (hnum herr w hw) (not_lt.mpr hle), fun _ => ⟨rfl, rfl⟩⟩
  · -- in range
    rw [harg]
    constructor
    · intro h
      refine ⟨fun he => absurd he herr, fun _ w hw => ?_⟩
      have hnone : ¬ ∃ u, Numeral (cstr optarg) u ∧ u ≤ longMax := by
        rintro ⟨u, hu, -⟩
        exact hw.not_numeral u hu
      have herror := (h.rejected hnone).2
      cases herror
    · rintro ⟨-, hcut⟩
      have hv : Numeral (cstr optarg) v := by
        rcases hkind with hv | hv
        · exact hv
        · exact absurd (hcut herr v hv) (not_lt.mpr hle)
      constructor
      · intro w hw _
        have hwv : w = v := toLong_of_le (read_unique hkind (Or.inl hw)) hle
        exact ⟨congrArg Nat.cast hwv.symm, rfl⟩
      · intro hnone
        exact absurd ⟨v, hv, hle⟩ hnone

/-- The text of the message does not matter. -/
theorem ParsedByText.congr {arg arg' : ParsedArg} (h : ParsedByText optarg arg)
    (hret : arg'.ret = arg.ret) (herror : arg'.error.isSome = arg.error.isSome) :
    ParsedByText optarg arg' := by
  constructor
  · intro v hv hle
    obtain ⟨hvalue, hnone⟩ := h.value v hv hle
    have hnone' : arg'.error = none := by simpa [hnone] using herror
    exact ⟨hret.trans hvalue, hnone'⟩
  · intro hno
    obtain ⟨hzero, hsome⟩ := h.rejected hno
    exact ⟨hret.trans hzero, herror.trans hsome⟩

/-- The copies differ in the text of their messages only. -/
theorem parsedByText_copy (name optarg : List UInt8) (errno : Int) :
    ParsedByText optarg (parseIntegerArg name optarg errno) ↔
      ParsedByText optarg (parseInteger name optarg errno) := by
  have herror : (parseIntegerArg name optarg errno).error.isSome
      = (parseInteger name optarg errno).error.isSome := Option.isSome_map
  constructor
  · intro h
    exact h.congr rfl herror.symm
  · intro h
    exact h.congr rfl herror

/-- **When an integer argument is read by its text alone**, in both copies of the function. -/
theorem arguments_read_by_text_iff (name optarg : List UInt8) (errno : Int) :
    (ParsedByText optarg (uioParseIntegerArg name optarg errno) ↔ ReadByText optarg errno) ∧
      (ParsedByText optarg (parseIntegerArg name optarg errno) ↔ ReadByText optarg errno) :=
  ⟨parsedByText_iff name optarg errno,
    (parsedByText_copy name optarg errno).trans (parsedByText_iff name optarg errno)⟩

/-- The digits of a `long` in octal stop in front of the nine. -/
theorem argument_cut_short :
    uioParseIntegerArg (ascii "Address span") (ascii "019") 0 = ⟨1, none, 0⟩ ∧
    ¬ ParsedByText (ascii "019") (uioParseIntegerArg (ascii "Address span") (ascii "019") 0) ∧
    ¬ ParsedByText (ascii "019") (parseIntegerArg (ascii "port") (ascii "019") 0) := by
  have hcut : CutShort (cstr (ascii "019")) 1 :=
    CutShort.octal (List.forall_mem_singleton.mpr rfl) (Or.inr rfl) (List.forall_mem_nil _)
  have hno : ¬ ∃ v, Numeral (cstr (ascii "019")) v ∧ v ≤ longMax := by
    rintro ⟨v, hv, -⟩
    exact hcut.not_numeral v hv
  refine ⟨by decide, ?_, ?_⟩
  · intro h
    exact absurd (h.rejected hno).2 (by decide)
  · intro h
    exact absurd (h.rejected hno).2 (by decide)

/-! ## The order of the options -/

/-- `errno` only changes to `ERANGE`, at an argument that is out of range. -/
theorem parseInteger_errno (name optarg : List UInt8) (errno : Int) :
    (OutOfRange optarg ∧ (parseInteger name optarg errno).errno = erange) ∨
      (¬ OutOfRange optarg ∧ (parseInteger name optarg errno).errno = errno) := by
  rcases parseInteger_cases name optarg errno with
    ⟨hnum, hcut, harg⟩ | ⟨v, hkind, ⟨hlt, harg⟩ | ⟨hle, -, harg⟩ | ⟨hle, -, harg⟩⟩
  · right
    constructor
    · rintro ⟨v, hv | hv, -⟩
      · exact hnum v hv
      · exact hcut v hv
    · rw [harg]
  · left
    exact ⟨⟨v, hkind, hlt⟩, by rw [harg]⟩
  all_goals
    right
    constructor
    · rintro ⟨w, hw, hlt⟩
      exact absurd (toLong_of_lt (read_unique hw hkind) hlt) (not_lt.mpr hle)
    · rw [harg]

/-- Behind an overflow every integer is 0. -/
theorem parseInteger_stale (name optarg : List UInt8) :
    (parseInteger name optarg erange).ret = 0 ∧
      (parseInteger name optarg erange).error.isSome = true ∧
      (parseInteger name optarg erange).errno = erange := by
  rcases parseInteger_cases name optarg erange with
    ⟨-, -, harg⟩ | ⟨v, -, ⟨-, harg⟩ | ⟨-, -, harg⟩ | ⟨-, hne, -⟩⟩
  · exact ⟨by rw [harg], by rw [harg]; rfl, by rw [harg]⟩
  · exact ⟨by rw [harg], by rw [harg]; rfl, by rw [harg]⟩
  · exact ⟨by rw [harg], by rw [harg]; rfl, by rw [harg]⟩
  · exact absurd rfl hne

/-- What options behind an overflow can do to a scan. -/
structure UioScan.Spoiled (sc sc' : UioScan) : Prop where
  errno : sc'.errno = erange
  addressSpan : sc'.args.addressSpan = sc.args.addressSpan ∨ sc'.args.addressSpan = some 0
  startAddress : sc'.args.startAddress = sc.args.startAddress ∨ sc'.args.startAddress = some 0

theorem UioScan.Spoiled.trans {sc sc' sc'' : UioScan} (h : sc.Spoiled sc') (h' : sc'.Spoiled sc'') :
    sc.Spoiled sc'' := by
  constructor
  · exact h'.errno
  · rcases h'.addressSpan with hspan | hspan
    · rw [hspan]
      exact h.addressSpan
    · exact Or.inr hspan
  · rcases h'.startAddress with hstart | hstart
    · rw [hstart]
      exact h.startAddress
    · exact Or.inr hstart

theorem UioScan.next_spoiled {sc : UioScan} (h : sc.errno = erange) (opt : UioOption) :
    sc.Spoiled (sc.next opt) := by
  cases opt with
  | driverPath _ => exact ⟨h, Or.inl rfl, Or.inl rfl⟩
  | singleComponentMode => exact ⟨h, Or.inl rfl, Or.inl rfl⟩
  | other => exact ⟨h, Or.inl rfl, Or.inl rfl⟩
  | addressSpan optarg =>
    obtain ⟨hret, -, herrno⟩ := parseInteger_stale (ascii "Address span") optarg
    rw [← h] at hret herrno
    refine ⟨herrno.trans h, Or.inr ?_, Or.inl rfl⟩
    exact congrArg (fun v => some (longToSize v)) hret
  | startAddress optarg =>
    obtain ⟨hret, -, herrno⟩ := parseInteger_stale (ascii "Start address") optarg
    rw [← h] at hret herrno
    refine ⟨herrno.trans h, Or.inl rfl, Or.inr ?_⟩
    exact congrArg (fun v => some (longToSize v)) hret

theorem UioScan.run_spoiled {sc : UioScan} (h : sc.errno = erange) (opts : List UioOption) :
    sc.Spoiled (opts.foldl UioScan.next sc) := by
  induction opts generalizing sc with
  | nil => exact ⟨h, Or.inl rfl, Or.inl rfl⟩
  | cons opt opts ih =>
    have hopt := UioScan.next_spoiled h opt
    exact hopt.trans (ih hopt.errno)

/-- **An overflow spoils the rest of the command line**: behind it no option sets the span or the start
address to anything but 0. -/
theorem uioScanOptions_spoiled {opts : List UioOption} (h : (uioScanOptions errno opts).errno = erange)
    (later : List UioOption) :
    (uioScanOptions errno opts).Spoiled (uioScanOptions errno (opts ++ later)) := by
  unfold uioScanOptions at h ⊢
  rw [List.foldl_append]
  exact UioScan.run_spoiled h later

/-- The arguments of an option are in range. -/
def UioOption.InRange : UioOption → Prop
  | .addressSpan optarg => ¬ OutOfRange optarg
  | .startAddress optarg => ¬ OutOfRange optarg
  | _ => True

theorem UioScan.next_errno (sc : UioScan) {opt : UioOption} (h : opt.InRange) :
    (sc.next opt).errno = sc.errno := by
  cases opt with
  | driverPath _ => rfl
  | singleComponentMode => rfl
  | other => rfl
  | addressSpan optarg =>
    rcases parseInteger_errno (ascii "Address span") optarg sc.errno with ⟨hout, -⟩ | ⟨-, herrno⟩
    · exact absurd hout h
    · exact herrno
  | startAddress optarg =>
    rcases parseInteger_errno (ascii "Start address") optarg sc.errno with ⟨hout, -⟩ | ⟨-, herrno⟩
    · exact absurd hout h
    · exact herrno

/-- Without an overflow every argument is parsed with the `errno` of the start. -/
theorem uioScanOptions_errno {opts : List UioOption} (h : ∀ opt ∈ opts, opt.InRange) :
    (uioScanOptions errno opts).errno = errno := by
  induction opts using List.reverseRecOn with
  | nil => rfl
  | append_singleton opts opt ih =>
    have hlast := h opt (List.mem_append_right opts List.mem_cons_self)
    have hfront := ih fun o ho => h o (List.mem_append_left [opt] ho)
    unfold uioScanOptions at hfront ⊢
    rw [List.foldl_append, List.foldl_cons, List.foldl_nil, UioScan.next_errno _ hlast, hfront]

end RemoteDebug
