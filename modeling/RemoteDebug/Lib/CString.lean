import Mathlib.Algebra.Group.Nat.Defs
import Mathlib.Data.List.TakeWhile

/-!
# NUL-terminated strings

The functions of `string.h` on memory given as the list of bytes from a pointer on. A string ends
at its first NUL; memory is taken to read as NUL behind the end of the list.
-/

namespace CString

/-- The characters of a string literal, without its NUL. -/
def ascii (s : String) : List UInt8 := s.toList.map fun c => UInt8.ofNat c.toNat

/-- The string at the pointer: the bytes up to the first NUL. -/
def cstr (mem : List UInt8) : List UInt8 := mem.takeWhile (· ≠ 0)

/-- `strncmp(a, b, n) == 0`: the first `n` characters agree, or the strings agree up to an earlier
NUL. -/
def strncmpEq : Nat → List UInt8 → List UInt8 → Bool
  | 0, _, _ => true
  | n + 1, a, b =>
    if a.headD 0 ≠ b.headD 0 then false
    else if a.headD 0 = 0 then true
    else strncmpEq n a.tail b.tail

/-- The offset of the first occurrence of `needle` in a string. -/
def findSub (needle : List UInt8) : List UInt8 → Option Nat
  | [] => if needle = [] then some 0 else none
  | b :: bs =>
    if needle.isPrefixOf (b :: bs) then some 0 else (findSub needle bs).map (· + 1)

/-- `strstr(hay, needle)` as an offset from `hay`, `none` for NULL. -/
def strstr (hay needle : List UInt8) : Option Nat := findSub needle (cstr hay)

/-- The last occurrence of a character in a list. -/
def lastIndexOf (c : UInt8) : List UInt8 → Option Nat
  | [] => none
  | b :: bs => ((lastIndexOf c bs).map (· + 1)).or (if b = c then some 0 else none)

/-- `strrchr(s, c)` as an offset from `s`, `none` for NULL; `c` is not NUL. -/
def strrchr (mem : List UInt8) (c : UInt8) : Option Nat := lastIndexOf c (cstr mem)

/-- `strnlen(s, n)`. -/
def strnlen (s : List UInt8) (n : Nat) : Nat := min n (cstr s).length

/-- The string that `%ld` prints for the 64-bit value `n`. -/
def decimal64 (n : Nat) : List UInt8 :=
  if n < 2 ^ 63 then ascii (Nat.repr n) else ascii "-" ++ ascii (Nat.repr (2 ^ 64 - n))

/-- `snprintf` into a buffer of `size` bytes: what does not fit is cut off. -/
def snprintf (size : Nat) (text : List UInt8) : List UInt8 := text.take (size - 1)

/-! ## Strings in memory -/

/-- A string followed by its NUL and by arbitrary bytes. -/
theorem cstr_append_nul {s : List UInt8} (h : 0 ∉ s) (r : List UInt8) : cstr (s ++ 0 :: r) = s := by
  induction s with
  | nil => simp [cstr]
  | cons b s ih =>
    have hb : b ≠ 0 := fun hb => h (by simp [hb])
    have hs : 0 ∉ s := fun hs => h (List.mem_cons_of_mem _ hs)
    rw [cstr, List.cons_append, List.takeWhile_cons_of_pos (by simpa using hb)]
    exact congrArg _ (ih hs)

/-- A NUL-free string in front of other memory. -/
theorem cstr_append {s : List UInt8} (h : 0 ∉ s) (m : List UInt8) : cstr (s ++ m) = s ++ cstr m :=
  List.takeWhile_append_of_pos fun b hb => by
    have hne : b ≠ 0 := fun h0 => h (h0 ▸ hb)
    simpa using hne

theorem cstr_eq_self {s : List UInt8} (h : 0 ∉ s) : cstr s = s := by simpa [cstr] using cstr_append h []

/-- The first `n` bytes of a string and of what follows it. -/
theorem cstr_take_append_nul {s : List UInt8} (h : 0 ∉ s) (n : Nat) (r : List UInt8) :
    cstr ((s ++ 0 :: r).take n) = s.take n := by
  by_cases hn : n ≤ s.length
  · have hs : 0 ∉ s.take n := fun h0 => h (List.mem_of_mem_take h0)
    have happ := cstr_append hs []
    rw [List.take_append_of_le_length hn]
    simpa [cstr] using happ
  · obtain ⟨k, hk⟩ : ∃ k, n = s.length + (k + 1) := ⟨n - s.length - 1, by omega⟩
    rw [hk, List.take_length_add_append, List.take_succ_cons, cstr_append_nul h,
      List.take_of_length_le (by omega)]

theorem zero_notMem_cstr (mem : List UInt8) : 0 ∉ cstr mem := fun h => by
  simpa using List.mem_takeWhile_imp h

/-- Memory with a NUL in it is a string, its NUL, and what follows. -/
theorem exists_eq_cstr_append {mem : List UInt8} (h : 0 ∈ mem) : ∃ r, mem = cstr mem ++ 0 :: r := by
  obtain ⟨s, r, rfl, hs⟩ := List.eq_append_cons_of_mem h
  exact ⟨r, by rw [cstr_append_nul hs]⟩

/-- The string behind its first `n` characters. -/
theorem cstr_drop {mem a b : List UInt8} {n : Nat} (h : cstr mem = a ++ b) (hn : a.length = n) :
    cstr (mem.drop n) = b := by
  have hb : 0 ∉ b := fun hb => zero_notMem_cstr mem (h ▸ List.mem_append_right a hb)
  by_cases hmem : 0 ∈ mem
  · obtain ⟨r, hr⟩ := exists_eq_cstr_append hmem
    rw [hr, h, List.append_assoc, List.drop_left' hn, cstr_append_nul hb]
  · rw [← cstr_eq_self hmem, h, List.drop_left' hn, cstr_eq_self hb]

theorem strstr_append_nul {s : List UInt8} (h : 0 ∉ s) (r needle : List UInt8) :
    strstr (s ++ 0 :: r) needle = findSub needle s := by
  rw [strstr, cstr_append_nul h]

/-- `strstr(s, needle) == s` exactly for the strings that start with `needle`. -/
theorem findSub_eq_zero {needle s : List UInt8} : findSub needle s = some 0 ↔ needle <+: s := by
  cases s with
  | nil => simp [findSub]
  | cons b s =>
    by_cases hp : needle.isPrefixOf (b :: s) = true
    · simp [findSub, hp, List.isPrefixOf_iff_prefix.mp hp]
    · have hp' : ¬ needle <+: b :: s := fun hc => hp (List.isPrefixOf_iff_prefix.mpr hc)
      simp [findSub, hp, hp']

theorem strstr_eq_zero {mem needle : List UInt8} : strstr mem needle = some 0 ↔ needle <+: cstr mem :=
  findSub_eq_zero

/-- A string that starts with `cmd` does not start with an unrelated `other`. -/
theorem strstr_ne_zero {mem cmd other : List UInt8} (h : cmd <+: cstr mem) (h1 : ¬ cmd <+: other)
    (h2 : ¬ other <+: cmd) : strstr mem other ≠ some 0 := fun hz =>
  (List.prefix_or_prefix_of_prefix h (strstr_eq_zero.mp hz)).elim h1 h2

theorem lastIndexOf_of_notMem {c : UInt8} {s : List UInt8} (h : c ∉ s) : lastIndexOf c s = none := by
  induction s with
  | nil => rfl
  | cons b s ih =>
    rw [List.mem_cons, not_or] at h
    rw [lastIndexOf, ih h.2, if_neg (Ne.symm h.1)]
    rfl

theorem lastIndexOf_append {c : UInt8} {t : List UInt8} (h : c ∉ t) (s : List UInt8) :
    lastIndexOf c (s ++ c :: t) = some s.length := by
  induction s with
  | nil => rw [List.nil_append, lastIndexOf, lastIndexOf_of_notMem h, if_pos rfl]; rfl
  | cons b s ih => rw [List.cons_append, lastIndexOf, ih]; rfl

/-- An occurrence lies inside the string. -/
theorem findSub_le {needle s : List UInt8} {k : Nat} (h : findSub needle s = some k) :
    k + needle.length ≤ s.length := by
  induction s generalizing k with
  | nil =>
    unfold findSub at h
    split at h
    · next hn =>
      obtain rfl := Option.some.inj h
      simp [hn]
    · cases h
  | cons b s ih =>
    unfold findSub at h
    split at h
    · next hp =>
      obtain rfl := Option.some.inj h
      simpa using (List.isPrefixOf_iff_prefix.mp hp).length_le
    · obtain ⟨j, hj, rfl⟩ := Option.map_eq_some_iff.mp h
      have hle := ih hj
      simp only [List.length_cons]
      omega

/-- A comparison that meets the NUL reads nothing behind it. -/
theorem strncmpEq_append_nul (n : Nat) (s r r' b : List UInt8) :
    strncmpEq n (s ++ 0 :: r) b = strncmpEq n (s ++ 0 :: r') b := by
  induction s generalizing n b with
  | nil =>
    cases n with
    | zero => rfl
    | succ n => simp [strncmpEq]
  | cons c s ih =>
    cases n with
    | zero => rfl
    | succ n =>
      have ih' := ih n b.tail
      simp [strncmpEq, ih']

/-- A comparison only reads the string. -/
theorem strncmpEq_cstr (n : Nat) (a b : List UInt8) : strncmpEq n (cstr a) b = strncmpEq n a b := by
  induction a generalizing n b with
  | nil => rfl
  | cons c a ih =>
    cases n with
    | zero => rfl
    | succ n =>
      by_cases hc : c = 0
      · subst hc
        simp [cstr, strncmpEq]
      · have hcons : cstr (c :: a) = c :: cstr a := by simp [cstr, hc]
        simp [hcons, strncmpEq, ih]

/-- Strings of less than `n` characters compare equal exactly if they are equal. -/
theorem strncmpEq_iff {n : Nat} {s t : List UInt8} (hs : 0 ∉ s) (ht : 0 ∉ t) (r : List UInt8)
    (hn : t.length < n) : strncmpEq n (s ++ 0 :: r) t = true ↔ s = t := by
  induction s generalizing n t with
  | nil =>
    obtain ⟨n, rfl⟩ : ∃ m, n = m + 1 := ⟨n - 1, by omega⟩
    cases t with
    | nil => simp [strncmpEq]
    | cons c t =>
      have hc : (0 : UInt8) ≠ c := fun hc => ht (by simp [hc])
      simp [strncmpEq, hc]
  | cons b s ih =>
    obtain ⟨n, rfl⟩ : ∃ m, n = m + 1 := ⟨n - 1, by omega⟩
    have hb : b ≠ 0 := fun hb => hs (by simp [hb])
    cases t with
    | nil => simp [strncmpEq, hb]
    | cons c t =>
      have ih' := ih (n := n) (t := t) (fun h => hs (List.mem_cons_of_mem _ h))
        (fun h => ht (List.mem_cons_of_mem _ h)) (by simp at hn; omega)
      by_cases hbc : b = c
      · subst hbc
        simp [strncmpEq, hb, ih']
      · simp [strncmpEq, hbc]

theorem strncmpEq_iff_cstr {n : Nat} {mem t : List UInt8} (ht : 0 ∉ t) (hn : t.length < n) :
    strncmpEq n mem t = true ↔ cstr mem = t := by
  have h := strncmpEq_iff (zero_notMem_cstr mem) ht [] hn
  rwa [← strncmpEq_cstr, cstr_append_nul (zero_notMem_cstr mem), strncmpEq_cstr] at h

/-- The first occurrence of a character. -/
theorem findSub_singleton {c : UInt8} {s : List UInt8} (h : c ∉ s) (r : List UInt8) :
    findSub [c] (s ++ c :: r) = some s.length := by
  induction s with
  | nil => exact findSub_eq_zero.mpr ⟨r, rfl⟩
  | cons b s ih =>
    have hb : ¬ [c] <+: b :: (s ++ c :: r) := by
      rintro ⟨t, ht⟩
      exact h (by simp [(List.cons.inj ht).1])
    have hrest := ih fun hs => h (List.mem_cons_of_mem b hs)
    rw [List.cons_append, findSub, if_neg fun hc => hb (List.isPrefixOf_iff_prefix.mp hc), hrest]
    rfl

/-! ## Text without an occurrence -/

/-- No occurrence of `needle` starts in `s`, whatever stands behind `s`. -/
def Clear (needle s : List UInt8) : Prop :=
  ∀ k < s.length, ¬ s.drop k <+: needle ∧ ¬ needle <+: s.drop k

instance (needle s : List UInt8) : Decidable (Clear needle s) :=
  inferInstanceAs (Decidable (∀ k < s.length, _))

theorem Clear.append {needle a b : List UInt8} (ha : Clear needle a) (hb : Clear needle b) :
    Clear needle (a ++ b) := by
  intro k hk
  by_cases hka : k < a.length
  · obtain ⟨h1, h2⟩ := ha k hka
    have hfront : a.drop k <+: a.drop k ++ b := List.prefix_append _ _
    rw [List.drop_append_of_le_length hka.le]
    constructor
    · intro hp
      exact h1 (hfront.trans hp)
    · intro hp
      rcases List.prefix_or_prefix_of_prefix hp hfront with h | h
      · exact h2 h
      · exact h1 h
  · rw [List.drop_append, List.drop_eq_nil_of_le (not_lt.mp hka), List.nil_append]
    apply hb
    rw [List.length_append] at hk
    omega

/-- The first character of `needle` does not occur. -/
theorem clear_of_notMem {c : UInt8} {s : List UInt8} (h : c ∉ s) (needle : List UInt8) :
    Clear (c :: needle) s := by
  intro k hk
  rw [List.drop_eq_getElem_cons hk]
  constructor
  · intro hp
    exact h ((List.cons_prefix_cons.mp hp).1 ▸ List.getElem_mem hk)
  · intro hp
    exact h ((List.cons_prefix_cons.mp hp).1 ▸ List.getElem_mem hk)

/-- Text without an occurrence is passed over. -/
theorem findSub_append {needle a : List UInt8} (h : Clear needle a) (b : List UInt8) :
    findSub needle (a ++ b) = (findSub needle b).map (· + a.length) := by
  induction a with
  | nil => simp
  | cons x a ih =>
    have hskip : ¬ needle <+: x :: (a ++ b) := by
      intro hp
      obtain ⟨h1, h2⟩ := h 0 (by simp)
      rcases List.prefix_or_prefix_of_prefix hp (List.prefix_append (x :: a) b) with hc | hc
      · exact h2 hc
      · exact h1 hc
    have htail : Clear needle a := by
      intro k hk
      exact h (k + 1) (by simpa using hk)
    rw [List.cons_append, findSub, if_neg fun hc => hskip (List.isPrefixOf_iff_prefix.mp hc), ih htail,
      Option.map_map]
    rfl

/-! ## Decimal numbers -/

theorem toNat_of_isDigit {c : Char} (h : c.isDigit = true) : 48 ≤ c.toNat ∧ c.toNat ≤ 57 := by
  unfold Char.isDigit at h
  simp only [Bool.and_eq_true, decide_eq_true_eq] at h
  exact ⟨h.1, h.2⟩

theorem toNat_of_mem_ascii_repr {n : Nat} {b : UInt8} (h : b ∈ ascii (Nat.repr n)) :
    48 ≤ b.toNat ∧ b.toNat ≤ 57 := by
  simp only [ascii, Nat.toList_repr, List.mem_map] at h
  obtain ⟨c, hc, rfl⟩ := h
  have hd := toNat_of_isDigit (Nat.isDigit_of_mem_toDigits (by omega) (by omega) hc)
  rw [UInt8.toNat_ofNat']
  omega

/-- Different numbers are printed differently. -/
theorem ascii_repr_injective : Function.Injective fun n => ascii (Nat.repr n) := by
  have hchars (n : Nat) :
      (ascii (Nat.repr n)).map (fun b => Char.ofNat b.toNat) = Nat.toDigits 10 n := by
    rw [ascii, Nat.toList_repr, List.map_map]
    refine (List.map_congr_left fun c hc => ?_).trans (List.map_id _)
    have hd := toNat_of_isDigit (Nat.isDigit_of_mem_toDigits (by omega) (by omega) hc)
    have h8 : (UInt8.ofNat c.toNat).toNat = c.toNat := by
      rw [UInt8.toNat_ofNat']
      omega
    rw [Function.comp_apply, h8, Char.ofNat_toNat, id]
  intro m n h
  have hdigits : Nat.toDigits 10 m = Nat.toDigits 10 n := by
    rw [← hchars m, ← hchars n]
    exact congrArg _ h
  rw [← Nat.ofDigitChars_ten_toDigits (n := m), hdigits, Nat.ofDigitChars_ten_toDigits]

theorem length_ascii_repr {n k : Nat} (hk : 0 < k) (h : n < 10 ^ k) :
    (ascii (Nat.repr n)).length ≤ k := by
  have hlen := (Nat.length_toDigits_le_iff (by omega : 1 < 10) hk).mpr h
  simpa [ascii] using hlen

end CString
