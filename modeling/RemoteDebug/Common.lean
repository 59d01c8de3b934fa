import Mathlib.Logic.Function.Basic
import RemoteDebug.Lib.Bytes

/-!
# Clearing memory

`zero_mem` of `intel_st_debug_if_common.c`, on byte-addressed memory. `size_t` has 8 bytes.
-/

namespace RemoteDebug

open Bytes

/-- `big_size`. -/
def bigSize : Nat := 8

/-- The loop over whole words: `n` words from index `i` on. -/
def zeroWords (a : Nat) : (n i : Nat) → (Nat → UInt8) → Nat → UInt8
  | 0, _, m => m
  | n + 1, i, m => zeroWords a n (i + 1) (store64 m (a + i * bigSize) 0)

/-- The loop over the bytes behind them: `n` bytes from index `i` on. -/
def zeroBytes (a leftoverOffset : Nat) : (n i : Nat) → (Nat → UInt8) → Nat → UInt8
  | 0, _, m => m
  | n + 1, i, m =>
    zeroBytes a leftoverOffset n (i + 1) (Function.update m (a + (i + leftoverOffset)) 0)

/-- `zero_mem`. A length of exactly one word takes neither loop. -/
def zeroMem (a length : Nat) (m : Nat → UInt8) : Nat → UInt8 :=
  let fastTransfers := if bigSize < length then length / bigSize else 0
  let leftoverOffset := fastTransfers * bigSize
  zeroBytes a leftoverOffset (length % bigSize) 0 (zeroWords a fastTransfers 0 m)

/-- From `m` to `m'` the range `[a, a + length)` has been cleared and nothing else has changed. -/
structure Cleared (a length : Nat) (m m' : Nat → UInt8) : Prop where
  inside : ∀ x, a ≤ x → x < a + length → m' x = 0
  outside : ∀ x, x < a ∨ a + length ≤ x → m' x = m x

end RemoteDebug
