import Mathlib.Tactic.Linarith
import Mathlib.Tactic.IntervalCases

/-!
# Byte arrays and little-endian words

Fixed-size byte arrays that carry their length, and byte-addressed memories read and written in
little-endian 64-bit words. Memories are total functions from addresses to bytes.
-/

namespace Bytes

/-- An array of exactly `n` bytes. -/
@[ext]
structure Buff (n : Nat) where
  /-- The contents, first byte first. -/
  bytes : List UInt8
  /-- The length is the declared one. -/
  size : bytes.length = n
  deriving DecidableEq

namespace Buff

variable {n : Nat}

/-- The array of zero bytes. -/
def zero (n : Nat) : Buff n := ⟨List.replicate n 0, by simp⟩

/-- The byte at index `i`, `0` outside the array. -/
def get (b : Buff n) (i : Nat) : UInt8 := b.bytes.getD i 0

/-- Stores `bs` from the first byte on; bytes behind `bs` keep their value. -/
def store (b : Buff n) (bs : List UInt8) : Buff n :=
  ⟨bs.take n ++ b.bytes.drop bs.length, by simp [b.size]; omega⟩

theorem store_bytes (b : Buff n) {bs : List UInt8} (h : bs.length ≤ n) :
    (b.store bs).bytes = bs ++ b.bytes.drop bs.length := by
  simp [store, List.take_of_length_le h]

/-- Storing a whole array replaces it. -/
theorem store_full (b : Buff n) {bs : List UInt8} (h : bs.length = n) :
    (b.store bs).bytes = bs := by
  rw [store_bytes b h.le, List.drop_of_length_le (by rw [b.size, h]), List.append_nil]

end Buff

/-! ## Little-endian words -/

/-- Byte `i` of the little-endian representation of `w`. -/
def byteAt (w i : Nat) : UInt8 := UInt8.ofNat (w / 2 ^ (8 * i))

/-- The 16-bit value of two bytes, low byte first. -/
def le16 (lo hi : UInt8) : UInt16 := UInt16.ofNat (lo.toNat + 2 ^ 8 * hi.toNat)

/-- A 16-bit value is determined by its two bytes. -/
theorem le16_byteAt (v : UInt16) : le16 (byteAt v.toNat 0) (byteAt v.toNat 1) = v := by
  have h := v.toNat_lt
  apply UInt16.toNat_inj.mp
  simp only [byteAt, le16, UInt8.toNat_ofNat', UInt16.toNat_ofNat']
  omega

/-- The little-endian 64-bit word at address `a` of the memory `m`. -/
def word64 (m : Nat → UInt8) (a : Nat) : Nat :=
  (m a).toNat + 2 ^ 8 * (m (a + 1)).toNat + 2 ^ 16 * (m (a + 2)).toNat
    + 2 ^ 24 * (m (a + 3)).toNat + 2 ^ 32 * (m (a + 4)).toNat + 2 ^ 40 * (m (a + 5)).toNat
    + 2 ^ 48 * (m (a + 6)).toNat + 2 ^ 56 * (m (a + 7)).toNat

/-- The memory `m` after storing the 64-bit word `w` at address `a`. -/
def store64 (m : Nat → UInt8) (a w : Nat) : Nat → UInt8 :=
  fun x => if a ≤ x ∧ x < a + 8 then byteAt w (x - a) else m x

theorem byteAt_word64 (m : Nat → UInt8) (a : Nat) {i : Nat} (hi : i < 8) :
    byteAt (word64 m a) i = m (a + i) := by
  have h (j : Nat) : (m (a + j)).toNat < 2 ^ 8 := (m (a + j)).toNat_lt
  have h0 := h 0; have h1 := h 1; have h2 := h 2; have h3 := h 3
  have h4 := h 4; have h5 := h 5; have h6 := h 6; have h7 := h 7
  apply UInt8.toNat_inj.mp
  simp only [byteAt, word64, UInt8.toNat_ofNat']
  interval_cases i <;> simp only [Nat.add_zero] at * <;> omega

/-- Inside the stored word the memory holds the word's bytes. -/
theorem store64_inside (m : Nat → UInt8) (a w : Nat) {i : Nat} (hi : i < 8) :
    store64 m a w (a + i) = byteAt w i := by
  simp [store64, hi]

/-- Outside the stored word the memory is unchanged. -/
theorem store64_outside (m : Nat → UInt8) (a w : Nat) {x : Nat} (hx : x < a ∨ a + 8 ≤ x) :
    store64 m a w x = m x := by
  unfold store64
  rw [if_neg (by omega)]

/-- The little-endian 32-bit word at address `a` of the memory `m`. -/
def word32 (m : Nat → UInt8) (a : Nat) : Nat :=
  (m a).toNat + 2 ^ 8 * (m (a + 1)).toNat + 2 ^ 16 * (m (a + 2)).toNat
    + 2 ^ 24 * (m (a + 3)).toNat

/-- The memory `m` after storing the 32-bit word `w` at address `a`. -/
def store32 (m : Nat → UInt8) (a w : Nat) : Nat → UInt8 :=
  fun x => if a ≤ x ∧ x < a + 4 then byteAt w (x - a) else m x

/-- A word only depends on its own bytes. -/
theorem word32_congr {m m' : Nat → UInt8} {a : Nat} (h : ∀ x, a ≤ x → x < a + 4 → m x = m' x) :
    word32 m a = word32 m' a := by
  unfold word32
  rw [h a (by omega) (by omega), h (a + 1) (by omega) (by omega), h (a + 2) (by omega) (by omega),
    h (a + 3) (by omega) (by omega)]

theorem word64_halves (m : Nat → UInt8) (a : Nat) :
    word64 m a = word32 m a ||| word32 m (a + 4) <<< 32 := by
  have h (j : Nat) : (m (a + j)).toNat < 2 ^ 8 := (m (a + j)).toNat_lt
  have h0 := h 0; have h1 := h 1; have h2 := h 2; have h3 := h 3
  have hlo : word32 m a < 2 ^ 32 := by
    simp only [word32, Nat.add_zero] at *
    omega
  have hnext (i : Nat) : a + 4 + i = a + (4 + i) := Nat.add_assoc a 4 i
  rw [Nat.or_comm, ← Nat.shiftLeft_add_eq_or_of_lt hlo, Nat.shiftLeft_eq]
  simp only [word64, word32, hnext, Nat.reduceAdd]
  omega

theorem store64_halves (m : Nat → UInt8) (a w : Nat) :
    store64 m a w = store32 (store32 m a (w % 2 ^ 32)) (a + 4) (w / 2 ^ 32 % 2 ^ 32) := by
  have hlow {i : Nat} (hi : i < 4) : byteAt (w % 2 ^ 32) i = byteAt w i := by
    apply UInt8.toNat_inj.mp
    simp only [byteAt, UInt8.toNat_ofNat']
    interval_cases i <;> omega
  have hhigh {i : Nat} (hi : i < 4) : byteAt (w / 2 ^ 32 % 2 ^ 32) i = byteAt w (4 + i) := by
    apply UInt8.toNat_inj.mp
    simp only [byteAt, UInt8.toNat_ofNat']
    interval_cases i <;> omega
  funext x
  unfold store64 store32
  by_cases h1 : a ≤ x ∧ x < a + 4
  · rw [if_pos (by omega), if_neg (by omega), if_pos h1, hlow (by omega)]
  · by_cases h2 : a + 4 ≤ x ∧ x < a + 4 + 4
    · rw [if_pos (by omega), if_pos h2, hhigh (by omega)]
      congr 1
      omega
    · rw [if_neg (by omega), if_neg h2, if_neg h1]

/-- The memory `m` with the bytes `bs` stored from address `a` on. -/
def storeBytes (m : Nat → UInt8) (a : Nat) (bs : List UInt8) : Nat → UInt8 :=
  fun x => if a ≤ x then bs.getD (x - a) (m x) else m x

theorem storeBytes_inside (m : Nat → UInt8) (a : Nat) (bs : List UInt8) {i : Nat}
    (hi : i < bs.length) : storeBytes m a bs (a + i) = bs[i] := by
  simp [storeBytes, hi]

/-- The `n` bytes from address `a` on. -/
def readBytes (m : Nat → UInt8) (a n : Nat) : List UInt8 := (List.range n).map fun i => m (a + i)

@[simp] theorem readBytes_length (m : Nat → UInt8) (a n : Nat) :
    (readBytes m a n).length = n := by
  simp [readBytes]

end Bytes
