import RemoteDebug.Common
import RemoteDebug.Server.Session

/-!
# `zero_mem`

The two loops of `zero_mem` clear one range each, and the second range starts where the first one ends,
except for the length of one word: there the test leaves out the word loop and the remainder leaves out
the byte loop.
-/

namespace RemoteDebug

open Bytes

variable {a b length k n : Nat} {m m' m'' : Nat → UInt8}

/-! ## Cleared ranges -/

theorem Cleared.nil (a : Nat) (m : Nat → UInt8) : Cleared a 0 m m :=
  ⟨fun x hx hlt => absurd hlt (by omega), fun _ _ => rfl⟩

/-- A range behind another one. -/
theorem Cleared.append (h : Cleared a k m m') (h' : Cleared (a + k) n m' m'') :
    Cleared a (k + n) m m'' := by
  constructor
  · intro x hx hlt
    by_cases hk : x < a + k
    · rw [h'.outside x (Or.inl hk)]
      exact h.inside x hx hk
    · exact h'.inside x (not_lt.mp hk) (by omega)
  · intro x hx
    rw [h'.outside x (by omega)]
    exact h.outside x (by omega)

theorem cleared_word (m : Nat → UInt8) (a : Nat) : Cleared a bigSize m (store64 m a 0) := by
  constructor
  · intro x hx hlt
    obtain ⟨i, rfl⟩ := Nat.exists_eq_add_of_le hx
    rw [store64_inside m a 0 (Nat.add_lt_add_iff_left.mp hlt), byteAt, Nat.zero_div]
    rfl
  · intro x hx
    exact store64_outside m a 0 hx

theorem cleared_byte (m : Nat → UInt8) (a : Nat) : Cleared a 1 m (Function.update m a 0) := by
  constructor
  · intro x hx hlt
    obtain rfl : x = a := by omega
    exact Function.update_self ..
  · intro x hx
    exact Function.update_of_ne (by omega) ..

/-! ## The loops -/

theorem cleared_zeroWords (a n i : Nat) (m : Nat → UInt8) :
    Cleared (a + i * bigSize) (n * bigSize) m (zeroWords a n i m) := by
  induction n generalizing i m with
  | zero =>
    rw [Nat.zero_mul]
    exact Cleared.nil _ m
  | succ n ih =>
    have hnext : a + (i + 1) * bigSize = a + i * bigSize + bigSize := by rw [Nat.succ_mul, Nat.add_assoc]
    have hrest := ih (i + 1) (store64 m (a + i * bigSize) 0)
    rw [hnext] at hrest
    have hall := (cleared_word m (a + i * bigSize)).append hrest
    rwa [Nat.add_comm bigSize, ← Nat.succ_mul] at hall

theorem cleared_zeroBytes (a leftoverOffset n i : Nat) (m : Nat → UInt8) :
    Cleared (a + (i + leftoverOffset)) n m (zeroBytes a leftoverOffset n i m) := by
  induction n generalizing i m with
  | zero => exact Cleared.nil _ m
  | succ n ih =>
    have hnext : a + (i + 1 + leftoverOffset) = a + (i + leftoverOffset) + 1 := by omega
    have hrest := ih (i + 1) (Function.update m (a + (i + leftoverOffset)) 0)
    rw [hnext] at hrest
    have hall := (cleared_byte m (a + (i + leftoverOffset))).append hrest
    rwa [Nat.add_comm 1 n] at hall

/-! ## `zero_mem` -/

/-- Both loops together clear the words and the rest. -/
theorem cleared_loops (a fast rest : Nat) (m : Nat → UInt8) :
    Cleared a (fast * bigSize + rest) m
      (zeroBytes a (fast * bigSize) rest 0 (zeroWords a fast 0 m)) := by
  have hwords := cleared_zeroWords a fast 0 m
  have hbytes := cleared_zeroBytes a (fast * bigSize) rest 0 (zeroWords a fast 0 m)
  rw [Nat.zero_mul, Nat.add_zero] at hwords
  rw [Nat.zero_add] at hbytes
  exact hwords.append hbytes

/-- Every other length than that of a word is cleared. -/
theorem cleared_zeroMem (h : length ≠ 8) (a : Nat) (m : Nat → UInt8) :
    Cleared a length m (zeroMem a length m) := by
  unfold zeroMem
  by_cases hbig : bigSize < length
  · have hall := cleared_loops a (length / bigSize) (length % bigSize) m
    rw [Nat.mul_comm, Nat.div_add_mod] at hall
    simpa only [hbig, if_true, Nat.mul_comm bigSize] using hall
  · have hall := cleared_loops a 0 (length % bigSize) m
    have hmod : 0 * bigSize + length % bigSize = length := by
      unfold bigSize at hbig ⊢
      omega
    rw [hmod] at hall
    simpa only [hbig, if_false] using hall

/-- The length of a word changes nothing. -/
theorem zeroMem_word (a : Nat) (m : Nat → UInt8) : zeroMem a 8 m = m := rfl

/-- **`zero_mem` clears exactly its range** if and only if the range is not one word long, or the word
is zero already. -/
theorem zeroMem_clears_iff (m : Nat → UInt8) (a length : Nat) :
    Cleared a length m (zeroMem a length m) ↔
      (length = 8 → ∀ x, a ≤ x → x < a + 8 → m x = 0) := by
  constructor
  · rintro h rfl
    rw [zeroMem_word] at h
    exact h.inside
  · intro h
    by_cases hlen : length = 8
    · subst hlen
      rw [zeroMem_word]
      exact ⟨h rfl, fun _ _ => rfl⟩
    · exact cleared_zeroMem hlen a m

/-- A word of ones stays as it is. -/
theorem zeroMem_word_kept : ¬ Cleared 0x1000 8 (fun _ => 1) (zeroMem 0x1000 8 fun _ => 1) := fun h =>
  absurd (h.inside 0x1000 le_rfl (by omega)) (by decide)

/-- **`reset_buffers`**: in memory too the control buffer is zero afterwards. -/
theorem readBytes_resetBuffers {D : Type} (s : Srv D) (a : Nat) (m : Nat → UInt8) :
    readBytes (zeroMem a ctrlRxBuffSz m) a ctrlRxBuffSz = (resetBuffers s).conn.ctrlRxBuff.bytes := by
  have hcleared : Cleared a ctrlRxBuffSz m (zeroMem a ctrlRxBuffSz m) :=
    cleared_zeroMem (by decide) a m
  show readBytes _ a ctrlRxBuffSz = List.replicate ctrlRxBuffSz 0
  rw [List.eq_replicate_iff]
  constructor
  · exact readBytes_length _ _ _
  · intro b hb
    obtain ⟨i, hi, rfl⟩ := List.mem_map.mp hb
    exact hcleared.inside _ (Nat.le_add_right a i) (Nat.add_lt_add_left (List.mem_range.mp hi) a)

end RemoteDebug
