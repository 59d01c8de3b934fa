import RemoteDebug.Accesses

/-!
# Proofs: accesses of all widths

In both builds a call is one plain access to the bytes at its offset, as long as these do not reach the end
of the 32-bit offsets. A loop over eight words is an access of 64 bytes, by induction on the words.
-/

namespace RemoteDebug

open LittleEndian

variable {emulation : Bool} {base offset value n : Nat} {m : Memory}

/-! ## Words of 64 bits -/

theorem fpgaRead64_plain (h : offset + 8 ≤ 2 ^ 32) :
    fpgaRead64 emulation base offset m = load m (base + offset) 8 := by
  unfold fpgaRead64
  split
  · have hlow := load_lt m (base + offset) 4
    rw [Nat.mod_eq_of_lt (by omega)]
    unfold fpgaRead32 fpgaRead
    rw [load_add m (base + offset) 4 4, Nat.or_comm, ← Nat.shiftLeft_add_eq_or_of_lt hlow,
      Nat.shiftLeft_eq, Nat.add_assoc base, Nat.add_comm, Nat.mul_comm]
  · rfl

theorem fpgaWrite64_plain (h : offset + 8 ≤ 2 ^ 32) :
    fpgaWrite64 emulation base offset value m = store m (base + offset) 8 value := by
  unfold fpgaWrite64
  split
  · rw [Nat.mod_eq_of_lt (by omega)]
    unfold fpgaWrite32 fpgaWrite
    rw [store_add m (base + offset) 4 4, store_mod m (base + offset) 4, store_mod _ _ 4,
      Nat.add_assoc base]
  · rfl

theorem load_zeros (a n : Nat) : load (fun _ => 0) a n = 0 := by
  induction n generalizing a with
  | zero => rfl
  | succ n ih =>
    rw [load_succ, ih]
    rfl

/-- Where the second half of a word would lie behind the 32-bit offsets, the emulation reads it from the
start of the registers. -/
theorem fpgaRead64_emulation_iff (h : offset < 2 ^ 32) :
    (∀ m, fpgaRead64 true base offset m = fpgaRead64 false base offset m) ↔ offset + 4 < 2 ^ 32 := by
  have hemulated (m : Memory) : fpgaRead64 true base offset m =
      load m (base + offset) 4 ||| load m (base + (offset + 4) % 2 ^ 32) 4 <<< 32 := rfl
  have hnative (m : Memory) : fpgaRead64 false base offset m =
      load m (base + offset) 4 + 2 ^ (8 * 4) * load m (base + offset + 4) 4 :=
    load_add m (base + offset) 4 4
  constructor
  · intro hsame
    by_contra hwrap
    -- only the native word sees the bytes behind the offsets
    have hone := hsame (store (fun _ => 0) (base + offset + 4) 4 1)
    rw [hemulated, hnative, load_store_self, load_store_apart _ _ (by omega),
      load_store_apart _ _ (by omega), load_zeros, load_zeros] at hone
    cases hone
  · intro hfits m
    have hlow := load_lt m (base + offset) 4
    rw [hemulated, hnative, Nat.mod_eq_of_lt hfits, Nat.or_comm,
      ← Nat.shiftLeft_add_eq_or_of_lt hlow, Nat.shiftLeft_eq, Nat.add_assoc base, Nat.add_comm,
      Nat.mul_comm]

/-! ## Blocks -/

/-- The value of the first word and the rest of a block. -/
theorem load_word_block (m : Memory) (a n : Nat) :
    load m a (8 * (n + 1)) % 2 ^ (8 * 8) = load m a 8 ∧
      load m a (8 * (n + 1)) / 2 ^ (8 * 8) = load m (a + 8) (8 * n) := by
  have hword := load_lt m a 8
  rw [Nat.mul_succ, Nat.add_comm (8 * n) 8, load_add]
  constructor
  · rw [Nat.add_mul_mod_self_left, Nat.mod_eq_of_lt hword]
  · rw [Nat.add_mul_div_left _ _ (Nat.two_pow_pos _), Nat.div_eq_of_lt hword, Nat.zero_add]

/-- A block is stored word by word. -/
theorem store_word_block (m m' : Memory) (a b n : Nat) :
    store m b (8 * (n + 1)) (load m' a (8 * (n + 1))) =
      store (store m b 8 (load m' a 8)) (b + 8) (8 * n) (load m' (a + 8) (8 * n)) := by
  obtain ⟨hfirst, hrest⟩ := load_word_block m' a n
  conv_lhs => rw [Nat.mul_succ, Nat.add_comm (8 * n) 8]
  rw [store_add, ← store_mod m b 8, Nat.add_comm 8 (8 * n), ← Nat.mul_succ, hfirst, hrest]

/-- The loop of `fpga_read_512` copies `n` words from the registers. -/
theorem fpgaReadLoop_plain (hrange : offset + 8 * n ≤ 2 ^ 32)
    (hapart : value + 8 * n ≤ base + offset ∨ base + offset + 8 * n ≤ value) :
    fpgaReadLoop emulation base n offset value m =
      store m value (8 * n) (load m (base + offset) (8 * n)) := by
  induction n generalizing offset value m with
  | zero =>
    funext x
    rw [store_outside m _ (by omega)]
    rfl
  | succ n ih =>
    rw [store_word_block, fpgaReadLoop, fpgaRead64_plain (by omega)]
    cases n with
    | zero =>
      funext x
      rw [store_outside _ _ (by omega)]
      rfl
    | succ n =>
      rw [Nat.mod_eq_of_lt (by omega), ih (by omega) (by omega), ← Nat.add_assoc base]
      rw [load_store_apart m _ (by omega)]

/-- The loop of `fpga_write_512` copies `n` words to the registers. -/
theorem fpgaWriteLoop_plain (hrange : offset + 8 * n ≤ 2 ^ 32)
    (hapart : value + 8 * n ≤ base + offset ∨ base + offset + 8 * n ≤ value) :
    fpgaWriteLoop emulation base n offset value m =
      store m (base + offset) (8 * n) (load m value (8 * n)) := by
  induction n generalizing offset value m with
  | zero =>
    funext x
    rw [store_outside m _ (by omega)]
    rfl
  | succ n ih =>
    rw [store_word_block, fpgaWriteLoop, fpgaWrite64_plain (by omega)]
    cases n with
    | zero =>
      funext x
      rw [store_outside _ _ (by omega)]
      rfl
    | succ n =>
      rw [Nat.mod_eq_of_lt (by omega), ih (by omega) (by omega), ← Nat.add_assoc base]
      rw [load_store_apart m _ (by omega)]

/-! ## Programs -/

variable {v : InterfaceVec} {bases : Nat → Nat} {accesses : List FpgaAccess} {a : FpgaAccess}

/-- **A call** is a plain access. -/
theorem FpgaAccess.call_plain (hbase : fpgaUioGetBaseAddress v a.handle = some (bases a.handle))
    (hrange : a.InRange bases) : a.call emulation v m = some (a.plain bases m) := by
  cases a with
  | read width handle offset =>
    have hbase' : fpgaUioGetBaseAddress v handle = some (bases handle) := hbase
    unfold FpgaAccess.call
    dsimp only
    rw [hbase', Option.map_some]
    cases width with
    | w64 =>
      dsimp only
      rw [fpgaRead64_plain hrange]
      rfl
    | _ => rfl
  | write width handle offset value =>
    have hbase' : fpgaUioGetBaseAddress v handle = some (bases handle) := hbase
    unfold FpgaAccess.call
    dsimp only
    rw [hbase', Option.map_some]
    cases width with
    | w64 =>
      dsimp only
      rw [fpgaWrite64_plain hrange]
      rfl
    | _ => rfl
  | read512 handle offset value =>
    have hbase' : fpgaUioGetBaseAddress v handle = some (bases handle) := hbase
    unfold FpgaAccess.call fpgaRead512
    dsimp only
    rw [hbase', Option.map_some, fpgaReadLoop_plain hrange.1 hrange.2]
    rfl
  | write512 handle offset value =>
    have hbase' : fpgaUioGetBaseAddress v handle = some (bases handle) := hbase
    unfold FpgaAccess.call fpgaWrite512
    dsimp only
    rw [hbase', Option.map_some, fpgaWriteLoop_plain hrange.1 hrange.2]
    rfl

theorem FpgaAccess.plain_outside {x : Nat} (h : ¬ a.Writes bases x) : (a.plain bases m).2 x = m x := by
  have hout {b n v : Nat} (h : ¬ (b ≤ x ∧ x < b + n)) : store m b n v x = m x :=
    store_outside m v (by omega)
  cases a with
  | read width handle offset => rfl
  | write width handle offset value => exact hout h
  | read512 handle offset value => exact hout h
  | write512 handle offset value => exact hout h

/-- **Accesses of all widths**: every program of calls does in both builds what its plain accesses do, and
changes no byte that none of them writes. -/
theorem accesses_plain (emulation : Bool) (v : InterfaceVec) (bases : Nat → Nat)
    (accesses : List FpgaAccess) (m : Memory)
    (hbase : ∀ a ∈ accesses, fpgaUioGetBaseAddress v a.handle = some (bases a.handle))
    (hrange : ∀ a ∈ accesses, a.InRange bases) :
    runAccesses emulation v accesses m = some (runPlain bases accesses m) ∧
      ∀ x, (∀ a ∈ accesses, ¬ a.Writes bases x) → (runPlain bases accesses m).2 x = m x := by
  induction accesses generalizing m with
  | nil => exact ⟨rfl, fun _ _ => rfl⟩
  | cons a accesses ih =>
    obtain ⟨hrun, hout⟩ := ih (a.plain bases m).2 (fun b hb => hbase b (List.mem_cons_of_mem a hb))
      fun b hb => hrange b (List.mem_cons_of_mem a hb)
    constructor
    · rw [runAccesses, FpgaAccess.call_plain (hbase a List.mem_cons_self) (hrange a List.mem_cons_self),
        Option.bind_some, hrun]
      rfl
    · intro x hx
      refine (hout x fun b hb => hx b (List.mem_cons_of_mem a hb)).trans ?_
      exact FpgaAccess.plain_outside (hx a List.mem_cons_self)

/-- Two interfaces, at 64 KiB and at 128 KiB. -/
def twoInterfaces : InterfaceVec where
  vec := some [{ InterfaceInfo.zero with baseAddress := 0x10000 },
    { InterfaceInfo.zero with baseAddress := 0x20000 }]
  size := 2
  reserved := 2

/-- A word is written, half of it read back, and 64 bytes are copied from one interface to the other. -/
def copyProgram : List FpgaAccess :=
  [.write .w64 0 0x8 0x1122334455667788, .read .w32 0 0xC, .read512 0 0x0 0x500, .write512 1 0x40 0x500]

theorem accesses_plain_copy :
    runAccesses true twoInterfaces copyProgram (fun _ => 0xFF) =
      runAccesses false twoInterfaces copyProgram (fun _ => 0xFF) := by
  have hbase : ∀ a ∈ copyProgram,
      fpgaUioGetBaseAddress twoInterfaces a.handle = some (0x10000 * (a.handle + 1)) := by
    decide
  have hrange : ∀ a ∈ copyProgram, a.InRange fun handle => 0x10000 * (handle + 1) := by
    simp [copyProgram, FpgaAccess.InRange, Width.bytes]
  have hnative := (accesses_plain false _ _ _ (fun _ => 0xFF) hbase hrange).1
  have hemulated := (accesses_plain true _ _ _ (fun _ => 0xFF) hbase hrange).1
  rw [hemulated, hnative]

end RemoteDebug
