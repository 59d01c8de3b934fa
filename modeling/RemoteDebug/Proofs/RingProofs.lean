import RemoteDebug.Driver
import RemoteDebug.Lib.CyclicRegion

/-!
# The descriptor ring and its allocator

`ChainInv` ties the descriptor chain, its two indices and the slot counter to the list of live
allocations, `SpaceInv` the circular allocator. Both are preserved by `reclaim` and by a granted
`takeBuffer` with its push.
-/

namespace RemoteDebug

open Cyclic

theorem getAlignedSz_eq (n : Nat) : getAlignedSz n = (n + 7) / 8 * 8 := by
  simp [getAlignedSz, Nat.shiftLeft_eq, Nat.shiftRight_eq_div_pow]

theorem le_getAlignedSz (n : Nat) : n ≤ getAlignedSz n := by
  rw [getAlignedSz_eq]; omega

/-- The aligned size fits the chain entry unless the packet has more than 65528 bytes. -/
theorem getAlignedSz_lt_iff {n : Nat} : getAlignedSz n < 2 ^ 16 ↔ n ≤ 65528 := by
  rw [getAlignedSz_eq]; omega

/-! ## The reclaim loop -/

theorem charVal_of_lt (charSigned : Bool) {c : Nat} (h : c < 128) :
    charVal charSigned c = c := by
  simp [charVal, Nat.not_le.mpr h]

/-- With at most 128 freed descriptors the loop runs once for each of them, for either signedness of
`char`. -/
theorem reclaimLoop_eq (charSigned : Bool) (chain : Int → Nat) (readIdx : Nat) {freed : Nat}
    (hf : freed ≤ 128) {fuel c : Nat} (hc : c ≤ freed) (hfuel : freed - c < fuel) (acc : Nat) :
    reclaimLoop charSigned chain readIdx freed fuel c acc =
      some (acc + ((List.range' c (freed - c)).map fun i =>
        chain ((readIdx + i) % 128 : Nat)).sum) := by
  induction fuel generalizing c acc with
  | zero => omega
  | succ fuel ih =>
    rcases hc.lt_or_eq with hlt | rfl
    · have hi : charVal charSigned c = c := charVal_of_lt _ (by omega)
      have hcond : ((c : Int) % 2 ^ 32).toNat < freed := by omega
      have hidx : ((readIdx : Int) + c).tmod (maxDescriptorDepth : Nat)
          = ((readIdx + c) % 128 : Nat) := by
        rw [← Nat.cast_add, Int.ofNat_tmod]; rfl
      rw [reclaimLoop]
      simp only [hi, hcond, if_true, hidx]
      rw [Nat.mod_eq_of_lt (by omega : c + 1 < 256), ih (by omega) (by omega)]
      obtain ⟨n, hn⟩ : ∃ n, freed - c = n + 1 := ⟨freed - c - 1, by omega⟩
      rw [hn, show freed - (c + 1) = n by omega, List.range'_succ]
      simp [Nat.add_assoc]
    · have hcond : ¬ (charVal charSigned c % 2 ^ 32).toNat < c := by
        unfold charVal
        split <;> omega
      rw [reclaimLoop]
      simp only [hcond, if_false, Nat.sub_self, List.range'_zero, List.map_nil, List.sum_nil,
        Nat.add_zero]

/-! ## The descriptor chain -/

/-- The chain of `r` holds exactly the live allocations of the aligned sizes `live`, oldest first,
and the remaining descriptor slots are free. -/
structure ChainInv (depth : Nat) (r : DescriptorRing) (live : List Nat) : Prop where
  slots : r.slotsAvailable + live.length = depth
  readIdx_lt : r.readIdx < 128
  writeIdx_lt : r.writeIdx < 2 ^ 16
  idx : (r.readIdx + live.length) % 128 = r.writeIdx % 128
  chain : ∀ i (h : i < live.length), r.chain ((r.readIdx + i) % 128 : Nat) = live[i] % 2 ^ 16

/-- The bytes given back for the chain entries of the allocations `live`. -/
def chainBytes (live : List Nat) : Nat := (live.map (· % 2 ^ 16)).sum

/-- The ring after the `k` oldest live allocations have been given back. -/
def DescriptorRing.giveBack (r : DescriptorRing) (k bytesFreed : Nat) : DescriptorRing :=
  if k = 0 then r
  else
    { r with
      slotsAvailable := r.slotsAvailable + k
      readIdx := (r.readIdx + k) % 128
      cbuff := cbuffFree r.cbuff bytesFreed }

variable {depth : Nat} {r : DescriptorRing} {live : List Nat}

/-- The chain entries of the oldest live allocations. -/
theorem ChainInv.entries (h : ChainInv depth r live) {k : Nat} (hk : k ≤ live.length) :
    ((List.range k).map fun i => r.chain ((r.readIdx + i) % 128 : Nat)).sum
      = chainBytes (live.take k) := by
  unfold chainBytes
  congr 1
  apply List.ext_getElem
  · simp [hk]
  · intro i h1 h2
    have hi : i < live.length := by simp at h2; omega
    simp only [List.getElem_map, List.getElem_range, List.getElem_take]
    exact h.chain i hi

/-- When the slot register shows `n` uncompleted descriptors, the others have been freed. -/
theorem ChainInv.freed_eq (h : ChainInv depth r live) (hd : depth ≤ 128) {n : Nat}
    (hn : n ≤ live.length) :
    (depth - n + 2 ^ 32 - r.slotsAvailable) % 2 ^ 32 = live.length - n := by
  have hs := h.slots
  omega

/-- The loop adds up the entries of the `k` oldest live allocations. -/
theorem ChainInv.reclaimLoop_eq (h : ChainInv depth r live) (hd : depth ≤ 128) (charSigned : Bool)
    {k : Nat} (hk : k ≤ live.length) :
    reclaimLoop charSigned r.chain r.readIdx k 257 0 0 = some (chainBytes (live.take k)) := by
  have hs := h.slots
  have hloop := RemoteDebug.reclaimLoop_eq charSigned r.chain r.readIdx (by omega : k ≤ 128)
    (Nat.zero_le _) (by omega : _ < 257) 0
  rwa [Nat.sub_zero, ← List.range_eq_range', h.entries hk, Nat.zero_add] at hloop

/-- When the slot register shows `n` uncompleted descriptors, `reclaim` gives back exactly the
oldest live allocations that are not among them. -/
theorem ChainInv.reclaim_eq (h : ChainInv depth r live) (hd : depth ≤ 128) (charSigned : Bool)
    {n : Nat} (hn : n ≤ live.length) :
    reclaim charSigned (depth - n) r =
      some (r.giveBack (live.length - n) (chainBytes (live.take (live.length - n)))) := by
  have hs := h.slots
  have hloop := h.reclaimLoop_eq hd charSigned (Nat.sub_le live.length n)
  simp only [reclaim, h.freed_eq hd hn, hloop, DescriptorRing.giveBack]
  rcases Nat.eq_zero_or_pos (live.length - n) with h0 | hpos
  · simp [h0]
  · have hslots : (r.slotsAvailable + (live.length - n)) % 2 ^ 16
        = r.slotsAvailable + (live.length - n) := by omega
    have hread : (r.readIdx + (live.length - n)) % 2 ^ 32 % maxDescriptorDepth
        = (r.readIdx + (live.length - n)) % 128 := by
      unfold maxDescriptorDepth; omega
    simp only [hpos, if_true, Option.map_some, hslots, hread]
    rw [if_neg (by omega)]

/-- The next entry that is written is not a live one. -/
theorem ChainInv.writeIdx_ne (h : ChainInv depth r live) (hd : depth ≤ 128)
    (hslot : 0 < r.slotsAvailable) {i : Nat} (hi : i < live.length) :
    (r.readIdx + i) % 128 ≠ r.writeIdx % 128 := by
  have hs := h.slots
  have hr := h.readIdx_lt
  have hidx := h.idx
  omega

/-- Giving back the oldest allocations leaves the chain of the others. -/
theorem ChainInv.giveBack (h : ChainInv depth r live) {k : Nat} (hk : k ≤ live.length) (b : Nat) :
    ChainInv depth (r.giveBack k b) (live.drop k) := by
  unfold DescriptorRing.giveBack
  split
  · next h0 => simpa [h0] using h
  · have hs := h.slots
    have hi := h.idx
    refine ⟨?_, ?_, h.writeIdx_lt, ?_, ?_⟩
    · simp only [List.length_drop]; omega
    · exact Nat.mod_lt _ (by omega)
    · simp only [List.length_drop]; omega
    · intro i hi'
      simp only [List.length_drop] at hi'
      have hc := h.chain (k + i) (by omega)
      have hidx : ((r.readIdx + k) % 128 + i) % 128 = (r.readIdx + (k + i)) % 128 := by omega
      simp only [hidx, hc, List.getElem_drop]

/-- The ring after `push_h2t_data` has taken one slot. -/
def DescriptorRing.takeSlot (r : DescriptorRing) : DescriptorRing :=
  { r with slotsAvailable := (r.slotsAvailable + 2 ^ 16 - 1) % 2 ^ 16 }

theorem cbuff_mk (slots : Nat) (chain : Int → Nat) (writeIdx readIdx : Nat) (cbuff : CircleBuff) :
    (DescriptorRing.mk slots chain writeIdx readIdx cbuff).cbuff = cbuff := rfl

-- by `cbuff_mk`, since `rfl` compares the slot counters first
@[simp] theorem takeSlot_cbuff (r : DescriptorRing) : r.takeSlot.cbuff = r.cbuff := by
  rw [DescriptorRing.takeSlot, cbuff_mk]

/-- A granted allocation with its push appends to the chain; no live entry is overwritten. -/
theorem ChainInv.take (h : ChainInv depth r live) (hd : depth ≤ 128) {sz : Nat}
    (hgrant : 0 < r.slotsAvailable ∧ getAlignedSz sz ≤ r.cbuff.spaceAvailable) :
    ChainInv depth (takeBuffer sz r).2.takeSlot (live ++ [getAlignedSz sz]) := by
  have hs := h.slots
  have hr := h.readIdx_lt
  have hw := h.writeIdx_lt
  have hi := h.idx
  have hdepth : maxDescriptorDepth = 128 := rfl
  have hring : (takeBuffer sz r).2.takeSlot =
      { r with
        slotsAvailable := r.slotsAvailable - 1
        chain := Function.update r.chain (r.writeIdx % 128 : Nat) (getAlignedSz sz % 2 ^ 16)
        writeIdx := (r.writeIdx + 1) % 2 ^ 16
        cbuff := (cbuffAlloc r.cbuff (getAlignedSz sz)).2 } := by
    have hslot : (r.slotsAvailable + 2 ^ 16 - 1) % 2 ^ 16 = r.slotsAvailable - 1 := by omega
    simp only [takeBuffer, hgrant, and_self, if_true, DescriptorRing.takeSlot, hdepth, hslot]
  rw [hring]
  refine ⟨?_, hr, by simp only; omega, ?_, ?_⟩
  · simp only [List.length_append, List.length_singleton]; omega
  · simp only [List.length_append, List.length_singleton]; omega
  · intro i hlt
    simp only [List.length_append, List.length_singleton] at hlt
    simp only
    rcases Nat.lt_succ_iff_lt_or_eq.mp hlt with hlt | rfl
    · have hne := h.writeIdx_ne hd hgrant.1 hlt
      rw [Function.update_of_ne (by exact_mod_cast hne), h.chain i hlt,
        List.getElem_append_left hlt]
    · rw [hi, Function.update_self, List.getElem_concat_length rfl]

/-! ## The allocator -/

/-- The allocator `cb` of the window `[base, base + span)` with the live regions `live`, oldest
first, `lost` bytes of earlier regions having never been given back. -/
structure SpaceInv (base span : Nat) (cb : CircleBuff) (live : List Region) (lost : Nat) :
    Prop where
  base_pos : 0 < base
  span_pos : 0 < span
  window : base + span ≤ 2 ^ 32
  rawBuff : cb.rawBuff = base
  span_eq : cb.span = span
  read_lt : cb.readOffset < span
  laid : Laid span (cb.readOffset + lost) live
  write : cb.writeOffset = (cb.readOffset + lost + total live) % span
  space : cb.spaceAvailable + total live + lost = span

variable {base span lost : Nat} {cb : CircleBuff} {regions : List Region}

theorem spaceInv_init (hb : 0 < base) (hs : 0 < span) (hw : base + span ≤ 2 ^ 32) :
    SpaceInv base span (cbuffInit base span) [] 0 :=
  ⟨hb, hs, hw, rfl, rfl, hs, trivial, by simp [cbuffInit], by simp [cbuffInit]⟩

theorem SpaceInv.writeOffset_lt (h : SpaceInv base span cb regions lost) :
    cb.writeOffset < span := by
  rw [h.write]; exact Nat.mod_lt _ h.span_pos

/-- Giving back `b` bytes for the `k` oldest regions; the `leaked` bytes that `b` falls short of
their size are lost. -/
theorem SpaceInv.free (h : SpaceInv base span cb regions lost) {k b leaked : Nat}
    (hb : total (regions.take k) = b + leaked) :
    SpaceInv base span (cbuffFree cb b) (regions.drop k) (lost + leaked) := by
  have hsp := h.space
  have hw := h.window
  have hr := h.read_lt
  have htot : total (regions.take k) + total (regions.drop k) = total regions := by
    rw [← total_append, List.take_append_drop]
  have hoff : (cb.readOffset + b) % 2 ^ 64 = cb.readOffset + b := by omega
  have hlaid := laid_drop h.laid k
  refine ⟨h.base_pos, h.span_pos, hw, h.rawBuff, h.span_eq, ?_, ?_, ?_, ?_⟩
  · simp only [cbuffFree, h.span_eq]
    exact Nat.mod_lt _ h.span_pos
  · simp only [cbuffFree, hoff, h.span_eq]
    refine Laid.congr ?_ hlaid
    rw [Nat.add_assoc, Nat.mod_add_mod]
    congr 1
    omega
  · simp only [cbuffFree, hoff, h.span_eq, h.write]
    rw [Nat.add_assoc, Nat.add_assoc, Nat.mod_add_mod]
    congr 1
    omega
  · simp only [cbuffFree]
    omega

/-- An allocation that fits is the next region; its address lies in the window. -/
theorem SpaceInv.alloc (h : SpaceInv base span cb regions lost) {n : Nat}
    (hn : n ≤ cb.spaceAvailable) :
    (cbuffAlloc cb n).1 = base + cb.writeOffset ∧
      SpaceInv base span (cbuffAlloc cb n).2 (regions ++ [⟨cb.writeOffset, n⟩]) lost := by
  have hsp := h.space
  have hw := h.window
  have hwr := h.writeOffset_lt
  refine ⟨?_, h.base_pos, h.span_pos, hw, h.rawBuff, h.span_eq, h.read_lt, ?_, ?_, ?_⟩
  · simp only [cbuffAlloc, h.rawBuff]
    omega
  · exact laid_snoc h.laid h.write
  · have hoff : (cb.writeOffset + n) % 2 ^ 64 = cb.writeOffset + n := by omega
    simp only [cbuffAlloc, hoff, h.span_eq, total_append, total_cons, total_nil, Nat.add_zero]
    rw [h.write, Nat.mod_add_mod, Nat.add_assoc, Nat.add_assoc]
  · simp only [cbuffAlloc, total_append, total_cons, total_nil]
    omega

end RemoteDebug
