import RemoteDebug.Lib.Bytes
import Mathlib.Tactic.Ring

/-!
# Little-endian accesses of any width

Loads and stores of `n` bytes in a byte-addressed memory. An access of `n + k` bytes is one of `n` bytes and
one of `k` bytes behind it; the memory is a total function from addresses to bytes.
-/

namespace LittleEndian

open Bytes

variable {m m' : Nat → UInt8} {a b n k v x : Nat}

/-- The value of the `n` bytes from address `a` on, low byte first. -/
def load (m : Nat → UInt8) (a : Nat) : (n : Nat) → Nat
  | 0 => 0
  | n + 1 => (m a).toNat + 2 ^ 8 * load m (a + 1) n

/-- The memory `m` after storing the value `v` in the `n` bytes from address `a` on. -/
def store (m : Nat → UInt8) (a n v : Nat) : Nat → UInt8 :=
  fun x => if a ≤ x ∧ x < a + n then byteAt v (x - a) else m x

/-! ## Loads -/

@[simp] theorem load_zero (m : Nat → UInt8) (a : Nat) : load m a 0 = 0 := rfl

theorem load_succ (m : Nat → UInt8) (a n : Nat) :
    load m a (n + 1) = (m a).toNat + 2 ^ 8 * load m (a + 1) n := rfl

theorem pow_bytes_succ (n : Nat) : 2 ^ (8 * (n + 1)) = 2 ^ 8 * 2 ^ (8 * n) := by
  rw [Nat.mul_add, Nat.pow_add, Nat.mul_comm]

theorem load_lt (m : Nat → UInt8) (a n : Nat) : load m a n < 2 ^ (8 * n) := by
  induction n generalizing a with
  | zero => exact Nat.one_pos
  | succ n ih =>
    have hbyte := (m a).toNat_lt
    have hrest := ih (a + 1)
    rw [load_succ, pow_bytes_succ]
    omega

/-- A load in two parts. -/
theorem load_add (m : Nat → UInt8) (a n k : Nat) :
    load m a (n + k) = load m a n + 2 ^ (8 * n) * load m (a + n) k := by
  induction n generalizing a with
  | zero => simp
  | succ n ih =>
    rw [Nat.succ_add, load_succ, load_succ, ih (a + 1), pow_bytes_succ, Nat.add_right_comm a 1 n,
      Nat.add_assoc a n 1]
    ring

/-- A load only depends on its own bytes. -/
theorem load_congr (h : ∀ x, a ≤ x → x < a + n → m x = m' x) : load m a n = load m' a n := by
  induction n generalizing a with
  | zero => rfl
  | succ n ih =>
    rw [load_succ, load_succ, h a le_rfl (by omega), ih fun x hlo hhi => h x (by omega) (by omega)]

/-! ## Stores -/

theorem store_inside (m : Nat → UInt8) (a v : Nat) {i : Nat} (h : i < n) :
    store m a n v (a + i) = byteAt v i := by
  unfold store
  rw [if_pos (by omega), Nat.add_sub_cancel_left]

theorem store_outside (m : Nat → UInt8) (v : Nat) (h : x < a ∨ a + n ≤ x) : store m a n v x = m x := by
  unfold store
  rw [if_neg (by omega)]

/-- Only the low bytes of the value are stored. -/
theorem store_mod (m : Nat → UInt8) (a n v : Nat) : store m a n (v % 2 ^ (8 * n)) = store m a n v := by
  funext x
  unfold store
  split
  · next h =>
    have hle : 8 * (x - a) + 8 ≤ 8 * n := by omega
    apply UInt8.toNat_inj.mp
    simp only [byteAt, UInt8.toNat_ofNat']
    obtain ⟨d, hd⟩ := Nat.exists_eq_add_of_le hle
    rw [hd, Nat.pow_add, Nat.pow_add, Nat.mul_assoc, Nat.mod_mul_right_div_self, Nat.mod_mul_right_mod]
  · rfl

/-- A store in two parts. -/
theorem store_add (m : Nat → UInt8) (a n k v : Nat) :
    store m a (n + k) v = store (store m a n v) (a + n) k (v / 2 ^ (8 * n)) := by
  funext x
  by_cases hlow : x < a + n
  · rw [store_outside _ _ (.inl hlow)]
    by_cases hx : a ≤ x
    · obtain ⟨i, rfl⟩ := Nat.exists_eq_add_of_le hx
      rw [store_inside m a v (by omega : i < n + k), store_inside m a v (by omega : i < n)]
    · rw [store_outside m v (.inl (by omega)), store_outside m v (.inl (by omega))]
  · by_cases hhigh : x < a + n + k
    · obtain ⟨i, rfl⟩ := Nat.exists_eq_add_of_le (Nat.le_of_not_lt hlow)
      rw [store_inside _ (a + n) _ (by omega : i < k), Nat.add_assoc, store_inside m a v (by omega)]
      unfold byteAt
      rw [Nat.mul_add, Nat.pow_add, Nat.div_div_eq_div_mul]
    · rw [store_outside m v (.inr (by omega)), store_outside _ _ (.inr (by omega)),
        store_outside m v (.inr (by omega))]

/-! ## Loads behind stores -/

theorem load_store_self (m : Nat → UInt8) (a n v : Nat) :
    load (store m a n v) a n = v % 2 ^ (8 * n) := by
  induction n generalizing m a v with
  | zero => simp [Nat.mod_one]
  | succ n ih =>
    have hsplit : store m a (n + 1) v = store (store m a 1 v) (a + 1) n (v / 2 ^ 8) := by
      rw [Nat.add_comm n 1, store_add]
    have hfirst : store m a (n + 1) v a = byteAt v 0 := store_inside m a v (i := 0) (Nat.succ_pos n)
    rw [load_succ, hfirst, hsplit, ih, pow_bytes_succ, Nat.mod_mul]
    simp only [byteAt, UInt8.toNat_ofNat', Nat.mul_zero, Nat.pow_zero, Nat.div_one]

theorem load_store_apart (m : Nat → UInt8) (v : Nat) (h : a + n ≤ b ∨ b + k ≤ a) :
    load (store m b k v) a n = load m a n := by
  refine load_congr fun x hlo hhi => store_outside m v ?_
  omega

end LittleEndian
