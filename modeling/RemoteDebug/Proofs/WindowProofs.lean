import RemoteDebug.Hardware.WindowMemory
import RemoteDebug.Proofs.H2tProofs
import Mathlib.Data.List.GetD

/-!
# Proofs: words in the window

The two copy loops on a window that is memory: what the words of a staging buffer leave there, and what
the words of the window leave in a staging buffer.
-/

namespace RemoteDebug

open Bytes Script

variable {D : Type} {io : Mmio D} {info : DesignInfo} {cfg : Config} {s : Srv D}

/-! ## Words -/

/-- The address of word `k` of a buffer. -/
def wordAddr (buff k : Nat) : Nat := (buff + 8 * k) % 2 ^ 32

/-- Two words that are not 4 GiB apart have no byte in common. -/
theorem wordAddr_apart (buff : Nat) {k k' : Nat} (hlt : k < k') (hnear : k' < k + 2 ^ 29) :
    wordAddr buff k' + 8 ≤ wordAddr buff k ∨ wordAddr buff k + 8 ≤ wordAddr buff k' := by
  unfold wordAddr
  omega

/-- The words `i` to `i + n` of a buffer start in the H2T window. -/
def WordsStart (info : DesignInfo) (buff i n : Nat) : Prop :=
  ∀ k, i ≤ k → k < i + n →
    ∃ c < info.h2tMemSz, wordAddr buff k = windowAddr info.h2tMemBaseAddr c

/-- From `m` to `m'` the words `i` to `i + n` are copied from `host`, and nothing else changes. -/
structure WordsStored (host : Nat → UInt8) (buff i n : Nat) (m m' : Nat → UInt8) : Prop where
  inside : ∀ k, i ≤ k → k < i + n → ∀ j < 8, m' (wordAddr buff k + j) = host (8 * k + j)
  outside : ∀ a, (∀ k, i ≤ k → k < i + n → a < wordAddr buff k ∨ wordAddr buff k + 8 ≤ a) →
    m' a = m a

/-- The loop of `memcpy64_host2fpga`. -/
theorem host2fpgaLoop_stored (wm : WindowMemory io info) (host : Nat → UInt8) {buff n i : Nat} (d : D)
    (hn : n ≤ 2 ^ 29) (hstart : WordsStart info buff i n) :
    WordsStored host buff i n (wm.mem d) (wm.mem (host2fpgaLoop io host buff n i d)) := by
  induction n generalizing i d with
  | zero =>
    constructor
    · intro k hle hlt
      omega
    · intro a _
      rfl
  | succ n ih =>
    obtain ⟨c, hc, haddr⟩ := hstart i le_rfl (by omega)
    have hstep : wm.mem (io.write64 (wordAddr buff i) (word64 host (8 * i)) d) =
        store64 (wm.mem d) (wordAddr buff i) (word64 host (8 * i)) := by
      rw [haddr]
      exact wm.store c _ d hc
    have hrest := ih (i := i + 1) (io.write64 (wordAddr buff i) (word64 host (8 * i)) d) (by omega)
      (fun k hle hlt => hstart k (by omega) (by omega))
    change WordsStored host buff i (n + 1) (wm.mem d) (wm.mem (host2fpgaLoop io host buff n (i + 1)
      (io.write64 (wordAddr buff i) (word64 host (8 * i)) d)))
    rw [hstep] at hrest
    constructor
    · intro k hle hlt j hj
      rcases hle.lt_or_eq with hnext | rfl
      · exact hrest.inside k (by omega) (by omega) j hj
      · -- the later words leave the first one alone
        rw [hrest.outside _ fun k' hle' hlt' => by
          have hapart := wordAddr_apart buff (by omega : i < k') (by omega)
          omega, store64_inside _ _ _ hj, byteAt_word64 _ _ hj]
    · intro a ha
      have hfirst := ha i le_rfl (by omega)
      rw [hrest.outside a fun k hle hlt => ha k (by omega) (by omega),
        store64_outside _ _ _ (by omega)]

/-- The loop of `memcpy64_fpga2host`: the words read hold the memory, what was there before stays. -/
theorem fpga2hostLoop_loaded (wm : WindowMemory io info) {buff n i : Nat} (st : Staging) (d : D)
    (hstart : WordsStart info buff i n) :
    wm.mem (fpga2hostLoop io buff n i st d).2 = wm.mem d ∧
      (∀ x < 8 * i, (fpga2hostLoop io buff n i st d).1.bytes x = st.bytes x) ∧
      ∀ k, i ≤ k → k < i + n → ∀ j < 8,
        (fpga2hostLoop io buff n i st d).1.bytes (8 * k + j) = wm.mem d (wordAddr buff k + j) := by
  induction n generalizing i st d with
  | zero =>
    refine ⟨rfl, fun _ _ => rfl, ?_⟩
    intro k hle hlt
    omega
  | succ n ih =>
    obtain ⟨c, hc, haddr⟩ := hstart i le_rfl (by omega)
    obtain ⟨hword, hkeep⟩ := wm.load c d hc
    rw [← haddr] at hword hkeep
    obtain ⟨hmem, hold, hnew⟩ := ih (i := i + 1)
      (st.storeWord (8 * i) (io.read64 (wordAddr buff i) d).1) (io.read64 (wordAddr buff i) d).2
      (fun k hle hlt => hstart k (by omega) (by omega))
    rw [hkeep] at hmem hnew
    refine ⟨hmem, ?_, ?_⟩
    · intro x hx
      refine (hold x (by omega)).trans ?_
      exact store64_outside _ _ _ (.inl hx)
    · intro k hle hlt j hj
      rcases hle.lt_or_eq with hnext | rfl
      · exact hnew k (by omega) (by omega) j hj
      · refine (hold (8 * i + j) (by omega)).trans ?_
        rw [hword]
        exact (store64_inside _ _ _ hj).trans (byteAt_word64 _ _ hj)

/-! ## Parts of a payload -/

/-- A part of a payload that arrives is copied to the window in whole words; `host` is the staging
buffer. -/
theorem socketRecvAccumulateH2tData_arrives (wm : WindowMemory io cfg.info) {buff len : Nat}
    (hlen : len ≤ (pending (s.client .h2tData).rx).length) (h31 : len ≤ 2 ^ 31)
    (hstart : WordsStart cfg.info buff 0 ((len + 7) / 8)) :
    ∃ host, (∀ i < len, host i = (pending (s.client .h2tData).rx).getD i 0) ∧
      WordsStored host buff 0 ((len + 7) / 8) (wm.mem s.dev)
        (wm.mem (socketRecvAccumulateH2tData io .h2tData buff len s).2.dev) ∧
      pending ((socketRecvAccumulateH2tData io .h2tData buff len s).2.client .h2tData).rx =
        (pending (s.client .h2tData).rx).drop len := by
  obtain ⟨rx', hrecv, hpend, -⟩ := socketRecvAccumulate_ok hlen
  have hcall : s.recvAccumulate .h2tData len =
      (.ok, (pending (s.client .h2tData).rx).take len, s.setRx .h2tData rx') := by
    unfold Srv.recvAccumulate
    rw [hrecv]
  have hlength : ((pending (s.client .h2tData).rx).take len).length = len := by
    rw [List.length_take]
    omega
  have hbytes : ∀ i < len,
      (s.recvBuff.receive ((pending (s.client .h2tData).rx).take len)).bytes i =
        (pending (s.client .h2tData).rx).getD i 0 := by
    intro i hi
    have hinside := storeBytes_inside s.recvBuff.bytes 0 ((pending (s.client .h2tData).rx).take len)
      (i := i) (by omega)
    rw [Nat.zero_add, List.getElem_take] at hinside
    rw [List.getD_eq_getElem _ _ (by omega)]
    exact hinside
  refine ⟨(s.recvBuff.receive ((pending (s.client .h2tData).rx).take len)).bytes, hbytes, ?_, ?_⟩
  · have hstored := host2fpgaLoop_stored wm
      (s.recvBuff.receive ((pending (s.client .h2tData).rx).take len)).bytes s.dev (by omega) hstart
    unfold socketRecvAccumulateH2tData
    rw [hcall]
    exact hstored
  · unfold socketRecvAccumulateH2tData
    rw [hcall, ← hpend]
    simp [Srv.setRx, Srv.record]

end RemoteDebug
