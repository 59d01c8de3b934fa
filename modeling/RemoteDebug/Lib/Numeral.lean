import Mathlib.Algebra.Group.Int.Defs
import RemoteDebug.Lib.CString

/-!
# Integers in text

The functions of `ctype.h` and `stdlib.h` that classify the characters of an integer and read its
value, in the C locale and for a `long` of 64 bits.
-/

namespace CString

/-! ## Characters -/

def isdigit (b : UInt8) : Bool := decide (0x30 ≤ b.toNat ∧ b.toNat ≤ 0x39)

def isxdigit (b : UInt8) : Bool :=
  isdigit b || decide (0x41 ≤ b.toNat ∧ b.toNat ≤ 0x46) || decide (0x61 ≤ b.toNat ∧ b.toNat ≤ 0x66)

def isspace (b : UInt8) : Bool := decide (b.toNat = 0x20 ∨ 0x09 ≤ b.toNat ∧ b.toNat ≤ 0x0D)

/-- The value of a digit or a letter as a digit; no base has the value of another character. -/
def digitValue (b : UInt8) : Nat :=
  if isdigit b then b.toNat - 0x30
  else if 0x41 ≤ b.toNat ∧ b.toNat ≤ 0x5A then b.toNat - 0x41 + 10
  else if 0x61 ≤ b.toNat ∧ b.toNat ≤ 0x7A then b.toNat - 0x61 + 10
  else 36

/-- The digits of a base. -/
def isDigitIn (base : Nat) (b : UInt8) : Bool := decide (digitValue b < base)

/-- The value of a list of digits. -/
def ofDigits (base : Nat) (s : List UInt8) : Nat := s.foldl (fun n b => base * n + digitValue b) 0

/-! ## Conversions -/

/-- `0x` or `0X` in front of a string. -/
def hasHexPrefix : List UInt8 → Bool
  | c :: x :: _ => decide (c = 0x30 ∧ (x = 0x78 ∨ x = 0x58))
  | _ => false

/-- The value that `strtol` finds behind the sign: base 0 is decided by the first characters, and the
digits end at the first character that is none. -/
def strtolDigits (s : List UInt8) (base : Nat) : Nat :=
  if (base = 0 ∨ base = 16) ∧ hasHexPrefix s = true then
    ofDigits 16 ((s.drop 2).takeWhile (isDigitIn 16))
  else if base = 0 then
    if s.head? = some 0x30 then ofDigits 8 (s.takeWhile (isDigitIn 8))
    else ofDigits 10 (s.takeWhile (isDigitIn 10))
  else ofDigits base (s.takeWhile (isDigitIn base))

/-- `LONG_MAX`. -/
def longMax : Nat := 2 ^ 63 - 1

/-- A number as a `long`, and whether it is out of range. -/
def toLong (n : Nat) : Int × Bool := if n ≤ longMax then (n, false) else (longMax, true)

/-- `strtol(s, NULL, base)`: its result, and whether it sets `errno` to `ERANGE`. -/
def strtol (s : List UInt8) (base : Nat) : Int × Bool :=
  let s := s.dropWhile isspace
  if s.head? = some 0x2D then
    let n := strtolDigits s.tail base
    if n ≤ longMax + 1 then (-n, false) else (-(longMax + 1), true)
  else
    toLong (strtolDigits (if s.head? = some 0x2B then s.tail else s) base)

/-- `atoi(s)`, which is `(int)strtol(s, NULL, 10)`. -/
def atoi (s : List UInt8) : Int := (strtol s 10).1.bmod (2 ^ 32)

/-- `ULONG_MAX`. -/
def ulongMax : Nat := 2 ^ 64 - 1

/-- What a call of `strtoul` gives: its result, `endptr` as an offset, and how many characters it has
looked at. -/
structure StrtoulResult where
  value : Nat
  endptr : Nat
  examined : Nat
  deriving DecidableEq

/-- `strtoul(s, &endptr, 10)`: a sign is taken, and a negative number is negated as an `unsigned long`. -/
def strtoul (s : List UInt8) : StrtoulResult :=
  let spaces := (s.takeWhile isspace).length
  let t := s.drop spaces
  let sign := if t.head? = some 0x2D ∨ t.head? = some 0x2B then 1 else 0
  let digits := (t.drop sign).takeWhile isdigit
  let n := ofDigits 10 digits
  { value :=
      if ulongMax < n then ulongMax
      else if t.head? = some 0x2D then (2 ^ 64 - n) % 2 ^ 64 else n
    endptr := if digits = [] then 0 else spaces + sign + digits.length
    examined := spaces + sign + digits.length + 1 }

/-- The string that `%d` prints. -/
def decimal (i : Int) : List UInt8 :=
  if i < 0 then ascii "-" ++ ascii (Nat.repr i.natAbs) else ascii (Nat.repr i.natAbs)

theorem toLong_of_le {v w : Nat} (h : toLong v = toLong w) (hv : v ≤ longMax) : w = v := by
  unfold toLong at h
  rw [if_pos hv] at h
  split at h
  · have hvalue := (Prod.mk.inj h).1
    omega
  · cases (Prod.mk.inj h).2

theorem toLong_of_lt {v w : Nat} (h : toLong v = toLong w) (hv : longMax < v) : longMax < w := by
  unfold toLong at h
  rw [if_neg (not_le.mpr hv)] at h
  split at h
  · cases (Prod.mk.inj h).2
  · next hw => exact not_le.mp hw

/-! ## Digits -/

theorem digitValue_of_isdigit {b : UInt8} (h : isdigit b = true) : digitValue b = b.toNat - 0x30 := by
  simp [digitValue, h]

theorem isDigitIn_ten (b : UInt8) : isDigitIn 10 b = isdigit b := by
  unfold isDigitIn digitValue
  by_cases hd : isdigit b = true
  · have hb := hd
    simp only [isdigit, decide_eq_true_eq] at hb
    simp only [hd, if_true, decide_eq_true_eq]
    omega
  · simp only [Bool.not_eq_true] at hd
    simp only [hd, Bool.false_eq_true, if_false, decide_eq_false_iff_not]
    split <;> [omega; skip]
    split <;> omega

theorem isDigitIn_sixteen (b : UInt8) : isDigitIn 16 b = isxdigit b := by
  unfold isDigitIn isxdigit digitValue
  by_cases hd : isdigit b = true
  · have hb := hd
    simp only [isdigit, decide_eq_true_eq] at hb
    simp only [hd, if_true, Bool.true_or, decide_eq_true_eq]
    omega
  · simp only [Bool.not_eq_true] at hd
    rw [Bool.eq_iff_iff]
    simp only [hd, Bool.false_eq_true, if_false, Bool.false_or, Bool.or_eq_true, decide_eq_true_eq]
    split <;> [omega; skip]
    split <;> omega

/-- A digit is neither space nor sign. -/
theorem plain_of_isdigit {b : UInt8} (hb : isdigit b = true) :
    isspace b = false ∧ b ≠ 0x2D ∧ b ≠ 0x2B := by
  simp only [isdigit, decide_eq_true_eq] at hb
  refine ⟨?_, ?_, ?_⟩
  · simp only [isspace, decide_eq_false_iff_not]
    omega
  · rintro rfl
    simp at hb
  · rintro rfl
    simp at hb

theorem strtol_digit {b : UInt8} (hb : isdigit b = true) (s : List UInt8) (base : Nat) :
    strtol (b :: s) base = toLong (strtolDigits (b :: s) base) := by
  obtain ⟨hspace, hminus, hplus⟩ := plain_of_isdigit hb
  simp [strtol, hspace, hminus, hplus]

/-! ## Printed numbers -/

theorem isdigit_of_mem_repr {n : Nat} {b : UInt8} (h : b ∈ ascii (Nat.repr n)) : isdigit b = true := by
  simpa [isdigit] using toNat_of_mem_ascii_repr h

theorem ascii_repr_ne_nil (n : Nat) : ascii (Nat.repr n) ≠ [] := by
  simp [ascii, Nat.toList_repr]

/-- **A printed number has the digits of its value.** -/
theorem ofDigits_ascii_repr (n : Nat) : ofDigits 10 (ascii (Nat.repr n)) = n := by
  have hvalue : ∀ (cs : List Char) (m : Nat), (∀ c ∈ cs, c.isDigit = true) →
      (cs.map fun c => UInt8.ofNat c.toNat).foldl (fun n b => 10 * n + digitValue b) m
        = Nat.ofDigitChars 10 cs m := by
    intro cs
    induction cs with
    | nil => intros; rfl
    | cons c cs ih =>
      intro m hcs
      have hc := toNat_of_isDigit (hcs c List.mem_cons_self)
      have h8 : (UInt8.ofNat c.toNat).toNat = c.toNat := by
        rw [UInt8.toNat_ofNat']
        omega
      have hdigit : digitValue (UInt8.ofNat c.toNat) = c.toNat - 0x30 := by
        rw [digitValue_of_isdigit (by simpa [isdigit, h8] using hc), h8]
      rw [List.map_cons, List.foldl_cons, Nat.ofDigitChars_cons, hdigit]
      exact ih _ fun c hc => hcs c (List.mem_cons_of_mem _ hc)
  rw [ofDigits, ascii, Nat.toList_repr,
    hvalue _ 0 fun c hc => Nat.isDigit_of_mem_toDigits (by omega) (by omega) hc]
  exact Nat.ofDigitChars_ten_toDigits

@[simp] theorem decimal_natCast (n : Nat) : decimal n = ascii (Nat.repr n) := by
  rw [decimal, if_neg (by omega), Int.natAbs_natCast]

/-- Any text for a number consists of digits and of a minus sign at most. -/
theorem mem_decimal {i : Int} {b : UInt8} (h : b ∈ decimal i) : b = 0x2D ∨ isdigit b = true := by
  unfold decimal at h
  split at h
  · rcases List.mem_append.mp h with h | h
    · exact Or.inl (List.mem_singleton.mp h)
    · exact Or.inr (isdigit_of_mem_repr h)
  · exact Or.inr (isdigit_of_mem_repr h)

/-- No other character stands in a number. -/
theorem notMem_decimal {c : UInt8} (hminus : c ≠ 0x2D) (hdigit : isdigit c = false) (i : Int) :
    c ∉ decimal i := by
  intro h
  rcases mem_decimal h with h | h
  · exact hminus h
  · rw [hdigit] at h
    cases h

theorem length_decimal {i : Int} {k : Nat} (hk : 0 < k) (h : i.natAbs < 10 ^ k) :
    (decimal i).length ≤ k + 1 := by
  have hlen := length_ascii_repr hk h
  unfold decimal
  split
  · rw [List.length_append, Nat.add_comm]
    exact Nat.add_le_add_right hlen 1
  · exact hlen.trans (Nat.le_succ k)

/-- `%ld` of a `size_t` prints the `long` of the same bits. -/
theorem decimal64_eq {n : Nat} (h : n < 2 ^ 64) :
    decimal64 n = decimal (if n < 2 ^ 63 then (n : Int) else n - 2 ^ 64) := by
  unfold decimal64 decimal
  split
  · next hn =>
    rw [if_neg (by omega), Int.natAbs_natCast]
  · next hn =>
    rw [if_pos (by omega)]
    congr 3
    omega

/-- No other character stands in what `%ld` prints. -/
theorem notMem_decimal64 {c : UInt8} (hminus : c ≠ 0x2D) (hdigit : isdigit c = false) (n : Nat) :
    c ∉ decimal64 n := by
  have hrepr (m : Nat) : c ∉ ascii (Nat.repr m) := by
    intro h
    cases hdigit.symm.trans (isdigit_of_mem_repr h)
  unfold decimal64
  split
  · exact hrepr n
  · intro h
    rcases List.mem_append.mp h with h | h
    · exact hminus (List.mem_singleton.mp h)
    · exact hrepr _ h

theorem length_decimal64 (n : Nat) : (decimal64 n).length ≤ 20 := by
  unfold decimal64
  split
  · next hn => exact length_ascii_repr (by omega) (by omega)
  · next hn =>
    have hlen : (ascii (Nat.repr (2 ^ 64 - n))).length ≤ 19 := length_ascii_repr (by omega) (by omega)
    rw [List.length_append, Nat.add_comm]
    exact Nat.add_le_add_right hlen 1

/-- `strtol` reads back what `%d` or `%ld` has printed, up to the NUL behind it. -/
theorem strtol_ascii_repr {n : Nat} (hn : n ≤ longMax) (r : List UInt8) :
    strtol (ascii (Nat.repr n) ++ 0 :: r) 10 = ((n : Int), false) := by
  have hdigits : (ascii (Nat.repr n) ++ 0 :: r).takeWhile (isDigitIn 10) = ascii (Nat.repr n) := by
    rw [List.takeWhile_append_of_pos fun b hb => by
      rw [isDigitIn_ten, isdigit_of_mem_repr hb]]
    simp [isDigitIn_ten, isdigit]
  have hvalue : strtolDigits (ascii (Nat.repr n) ++ 0 :: r) 10 = n := by
    simp [strtolDigits, hdigits, ofDigits_ascii_repr]
  obtain ⟨b, s, hs⟩ := List.exists_cons_of_ne_nil (ascii_repr_ne_nil n)
  have hb : isdigit b = true := isdigit_of_mem_repr (hs ▸ List.mem_cons_self)
  rw [hs, List.cons_append] at hvalue ⊢
  rw [strtol_digit hb, hvalue, toLong, if_pos hn]

theorem atoi_ascii_repr {n : Nat} (hn : n < 2 ^ 31) (r : List UInt8) :
    atoi (ascii (Nat.repr n) ++ 0 :: r) = n := by
  have hlong : n ≤ longMax := by
    unfold longMax
    omega
  rw [atoi, strtol_ascii_repr hlong, Int.bmod_eq_of_le]
  · omega
  · omega

/-- `strtoul` reads a printed number, up to a NUL or the end of the memory, and looks at nothing behind
that. -/
theorem strtoul_ascii_repr (n : Nat) {r : List UInt8} (hr : r.headD 0 = 0) :
    strtoul (ascii (Nat.repr n) ++ r) =
      ⟨if ulongMax < n then ulongMax else n, (ascii (Nat.repr n)).length,
        (ascii (Nat.repr n)).length + 1⟩ := by
  have hdigits : (ascii (Nat.repr n) ++ r).takeWhile isdigit = ascii (Nat.repr n) := by
    rw [List.takeWhile_append_of_pos fun b hb => isdigit_of_mem_repr hb]
    cases r with
    | nil => simp
    | cons b r =>
      obtain rfl : b = 0 := hr
      simp [isdigit]
  obtain ⟨b, s, hs⟩ := List.exists_cons_of_ne_nil (ascii_repr_ne_nil n)
  have hb : isdigit b = true := isdigit_of_mem_repr (hs ▸ List.mem_cons_self)
  obtain ⟨hspace, hminus, hplus⟩ := plain_of_isdigit hb
  have hvalue := ofDigits_ascii_repr n
  rw [hs] at hdigits hvalue ⊢
  rw [List.cons_append] at hdigits ⊢
  simp [strtoul, hspace, hminus, hplus, hdigits, hvalue]

/-! ## Integer constants -/

/-- The integer constants of C, with their values. -/
inductive Numeral : List UInt8 → Nat → Prop
  | hex {x : UInt8} {t : List UInt8} (hx : x = 0x78 ∨ x = 0x58) (hne : t ≠ [])
      (ht : ∀ b ∈ t, isxdigit b = true) : Numeral (0x30 :: x :: t) (ofDigits 16 t)
  | octal {t : List UInt8} (ht : ∀ b ∈ t, isDigitIn 8 b = true) : Numeral (0x30 :: t) (ofDigits 8 t)
  | decimal {b : UInt8} {t : List UInt8} (hb : b ≠ 0x30) (ht : ∀ c ∈ b :: t, isdigit c = true) :
      Numeral (b :: t) (ofDigits 10 (b :: t))

theorem Numeral.head_isdigit {s : List UInt8} {v : Nat} (h : Numeral s v) :
    ∃ b t, s = b :: t ∧ isdigit b = true := by
  cases h with
  | hex _ _ _ => exact ⟨_, _, rfl, rfl⟩
  | octal _ => exact ⟨_, _, rfl, rfl⟩
  | decimal _ ht => exact ⟨_, _, rfl, ht _ List.mem_cons_self⟩

theorem Numeral.zero_notMem {s : List UInt8} {v : Nat} (h : Numeral s v) : 0 ∉ s := by
  cases h with
  | @hex x t hx _ ht =>
    have hx' : (0 : UInt8) ≠ x := by
      rcases hx with rfl | rfl
      · decide
      · decide
    simp only [List.mem_cons, not_or]
    exact ⟨by decide, hx', fun h0 => absurd (ht 0 h0) (by decide)⟩
  | octal ht =>
    simp only [List.mem_cons, not_or]
    exact ⟨by decide, fun h0 => absurd (ht 0 h0) (by decide)⟩
  | decimal _ ht => exact fun h0 => absurd (ht 0 h0) (by decide)

/-- A constant has no sign. -/
theorem Numeral.head_ne {s : List UInt8} {v : Nat} (h : Numeral s v) : s.head? ≠ some 0x2D := by
  obtain ⟨b, t, rfl, hb⟩ := h.head_isdigit
  intro hminus
  exact (plain_of_isdigit hb).2.1 (Option.some.inj hminus)

/-- The strings of digits that are no constant, with the value of the part that `strtol` reads: nothing
at all, a prefix without digits, and octal digits in front of an 8 or 9. -/
inductive CutShort : List UInt8 → Nat → Prop
  | empty : CutShort [] 0
  | hex {x : UInt8} (hx : x = 0x78 ∨ x = 0x58) : CutShort [0x30, x] 0
  | octal {o t : List UInt8} {d : UInt8} (ho : ∀ b ∈ o, isDigitIn 8 b = true)
      (hd : d = 0x38 ∨ d = 0x39) (ht : ∀ b ∈ t, isdigit b = true) :
      CutShort (0x30 :: (o ++ d :: t)) (ofDigits 8 o)

theorem isdigit_of_octal {b : UInt8} (h : isDigitIn 8 b = true) : isdigit b = true := by
  rw [← isDigitIn_ten]
  simp only [isDigitIn, decide_eq_true_eq] at h ⊢
  omega

/-- A digit that is not octal. -/
theorem isDigitIn_eight {b : UInt8} (h : isdigit b = true) :
    isDigitIn 8 b = true ∨ b = 0x38 ∨ b = 0x39 := by
  have hvalue := digitValue_of_isdigit h
  simp only [isdigit, decide_eq_true_eq] at h
  by_cases h8 : b.toNat ≤ 0x37
  · left
    simp only [isDigitIn, decide_eq_true_eq]
    omega
  · have hb : b.toNat = 0x38 ∨ b.toNat = 0x39 := by omega
    right
    rcases hb with hb | hb
    · exact Or.inl (UInt8.toNat_inj.mp hb)
    · exact Or.inr (UInt8.toNat_inj.mp hb)

/-- Digits are octal up to the first 8 or 9. -/
theorem octal_or_split {t : List UInt8} (ht : ∀ b ∈ t, isdigit b = true) :
    (∀ b ∈ t, isDigitIn 8 b = true) ∨
      ∃ o d t', t = o ++ d :: t' ∧ (∀ b ∈ o, isDigitIn 8 b = true) ∧ (d = 0x38 ∨ d = 0x39) := by
  induction t with
  | nil => exact Or.inl fun b hb => absurd hb List.not_mem_nil
  | cons c t ih =>
    obtain ⟨hc, ht⟩ := List.forall_mem_cons.mp ht
    rcases isDigitIn_eight hc with h8 | hd
    · rcases ih ht with hall | ⟨o, d, t', rfl, ho, hd⟩
      · exact Or.inl (List.forall_mem_cons.mpr ⟨h8, hall⟩)
      · exact Or.inr ⟨c :: o, d, t', rfl, List.forall_mem_cons.mpr ⟨h8, ho⟩, hd⟩
    · exact Or.inr ⟨[], c, t, rfl, fun b hb => absurd hb List.not_mem_nil, hd⟩

theorem hasHexPrefix_hex {x : UInt8} (hx : x = 0x78 ∨ x = 0x58) (t : List UInt8) :
    hasHexPrefix (0x30 :: x :: t) = true := by
  simpa [hasHexPrefix] using hx

/-- A second character that is a digit makes no hexadecimal prefix. -/
theorem hasHexPrefix_of_isdigit {b : UInt8} {s : List UInt8} (h : ∀ c ∈ s, isdigit c = true) :
    hasHexPrefix (b :: s) = false := by
  cases s with
  | nil => rfl
  | cons x s =>
    have hx := h x List.mem_cons_self
    have hne : ¬ (x = 0x78 ∨ x = 0x58) := by
      rintro (rfl | rfl)
      · exact absurd hx (by decide)
      · exact absurd hx (by decide)
    simp [hasHexPrefix, hne]

theorem ofDigits_zero_cons (base : Nat) (s : List UInt8) : ofDigits base (0x30 :: s) = ofDigits base s := by
  have hzero : digitValue 0x30 = 0 := by decide
  simp [ofDigits, hzero]

theorem takeWhile_all {p : UInt8 → Bool} {s : List UInt8} (h : ∀ b ∈ s, p b = true) :
    s.takeWhile p = s := List.takeWhile_eq_self_iff.mpr h

/-! ## The base that `strtol` finds -/

theorem strtolDigits_hex {x : UInt8} (hx : x = 0x78 ∨ x = 0x58) (t : List UInt8) :
    strtolDigits (0x30 :: x :: t) 0 = ofDigits 16 (t.takeWhile (isDigitIn 16)) := by
  rw [strtolDigits, if_pos ⟨Or.inl rfl, hasHexPrefix_hex hx t⟩]
  rfl

theorem strtolDigits_octal {t : List UInt8} (h : hasHexPrefix (0x30 :: t) = false) :
    strtolDigits (0x30 :: t) 0 = ofDigits 8 (t.takeWhile (isDigitIn 8)) := by
  have hzero : isDigitIn 8 0x30 = true := by decide
  simp [strtolDigits, h, hzero, ofDigits_zero_cons]

theorem strtolDigits_decimal {b : UInt8} {t : List UInt8} (hb : b ≠ 0x30)
    (h : hasHexPrefix (b :: t) = false) :
    strtolDigits (b :: t) 0 = ofDigits 10 ((b :: t).takeWhile (isDigitIn 10)) := by
  simp [strtolDigits, h, hb]

/-- **`strtol` reads a constant whole.** -/
theorem Numeral.strtol_eq {s : List UInt8} {v : Nat} (h : Numeral s v) : strtol s 0 = toLong v := by
  cases h with
  | hex hx hne ht =>
    have hall := takeWhile_all fun b hb => (isDigitIn_sixteen b).trans (ht b hb)
    rw [strtol_digit rfl, strtolDigits_hex hx, hall]
  | octal ht =>
    have hprefix := hasHexPrefix_of_isdigit (b := 0x30) fun c hc => isdigit_of_octal (ht c hc)
    rw [strtol_digit rfl, strtolDigits_octal hprefix, takeWhile_all ht]
  | decimal hb ht =>
    obtain ⟨hb', ht'⟩ := List.forall_mem_cons.mp ht
    have hall := takeWhile_all fun c hc => (isDigitIn_ten c).trans (ht c hc)
    rw [strtol_digit hb', strtolDigits_decimal hb (hasHexPrefix_of_isdigit ht'), hall]

theorem eight_or_nine {d : UInt8} (hd : d = 0x38 ∨ d = 0x39) :
    isdigit d = true ∧ isDigitIn 8 d = false := by
  rcases hd with rfl | rfl
  · decide
  · decide

theorem hasHexPrefix_of_split {o t : List UInt8} {d : UInt8} (ho : ∀ b ∈ o, isDigitIn 8 b = true)
    (hd : d = 0x38 ∨ d = 0x39) (ht : ∀ b ∈ t, isdigit b = true) :
    hasHexPrefix (0x30 :: (o ++ d :: t)) = false := by
  apply hasHexPrefix_of_isdigit
  intro c hc
  rcases List.mem_append.mp hc with hc | hc
  · exact isdigit_of_octal (ho c hc)
  · rcases List.mem_cons.mp hc with rfl | hc
    · exact (eight_or_nine hd).1
    · exact ht c hc

/-- Of other digits it reads the part in front. -/
theorem CutShort.strtol_eq {s : List UInt8} {v : Nat} (h : CutShort s v) : strtol s 0 = toLong v := by
  cases h with
  | empty => decide
  | hex hx =>
    rcases hx with rfl | rfl
    · decide
    · decide
  | @octal o t d ho hd ht =>
    have hdigits : (o ++ d :: t).takeWhile (isDigitIn 8) = o := by
      rw [List.takeWhile_append_of_pos ho, List.takeWhile_cons_of_neg (by simp [eight_or_nine hd]),
        List.append_nil]
    rw [strtol_digit rfl, strtolDigits_octal (hasHexPrefix_of_split ho hd ht), hdigits]

theorem CutShort.not_numeral {s : List UInt8} {v : Nat} (h : CutShort s v) (w : Nat) :
    ¬ Numeral s w := by
  intro hw
  cases h with
  | empty => cases hw
  | @hex x hx =>
    cases hw with
    | hex _ hne _ => exact hne rfl
    | octal ht =>
      have hx8 := ht x List.mem_cons_self
      rcases hx with rfl | rfl
      · exact absurd hx8 (by decide)
      · exact absurd hx8 (by decide)
    | decimal hb _ => exact hb rfl
  | @octal o t d ho hd ht =>
    have hprefix := hasHexPrefix_of_split ho hd ht
    generalize hs : o ++ d :: t = s at hw hprefix
    cases hw with
    | hex hx _ _ =>
      rw [hasHexPrefix_hex hx] at hprefix
      cases hprefix
    | octal hall =>
      have hd8 := hall d (hs ▸ List.mem_append_right o List.mem_cons_self)
      exact absurd hd8 (by simp [eight_or_nine hd])
    | decimal hb _ => exact hb rfl

end CString
