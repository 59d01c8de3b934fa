import RemoteDebug.Hardware.ChainRun
import RemoteDebug.Proofs.ChannelProofs

/-!
# The reclaim loop on any bus

The counter of the loop is a `char`, the bound a 32-bit difference. Iteration `m` compares the value of
the `char` with the byte `m % 256`; which iterations take place decides whether the loop ends and which
indices it computes.
-/

namespace RemoteDebug

open Runs

variable {charSigned : Bool} {chain : Int → Nat} {readIdx freed slots : Nat} {r : DescriptorRing}

/-! ## Iterations -/

/-- The condition of the loop holds in iteration `m`. -/
def Iterates (charSigned : Bool) (freed m : Nat) : Prop :=
  (charVal charSigned (m % 256) % 2 ^ 32).toNat < freed

theorem iterates_unsigned {m : Nat} : Iterates false freed m ↔ m % 256 < freed := by
  simp only [Iterates, charVal, Bool.false_eq_true, false_and, if_false]
  omega

theorem iterates_signed {m : Nat} :
    Iterates true freed m ↔
      m % 256 < 128 ∧ m % 256 < freed ∨ 128 ≤ m % 256 ∧ 2 ^ 32 - 256 + m % 256 < freed := by
  simp only [Iterates, charVal, true_and]
  split <;> omega

/-- The index that iteration `m` computes. -/
def chainIndex (charSigned : Bool) (readIdx m : Nat) : Int :=
  ((readIdx : Int) + charVal charSigned (m % 256)).tmod maxDescriptorDepth

/-- The loop ends with the first iteration that does not take place. -/
theorem reclaimLoop_isSome_iff (fuel n acc : Nat) :
    (reclaimLoop charSigned chain readIdx freed fuel (n % 256) acc).isSome ↔
      ∃ m, n ≤ m ∧ m < n + fuel ∧ ¬ Iterates charSigned freed m := by
  induction fuel generalizing n acc with
  | zero =>
    constructor
    · intro h
      cases h
    · rintro ⟨m, hn, hlt, -⟩
      omega
  | succ fuel ih =>
    rw [reclaimLoop]
    by_cases hcond : (charVal charSigned (n % 256) % 2 ^ 32).toNat < freed
    · have hnext : (n % 256 + 1) % 256 = (n + 1) % 256 := by omega
      rw [if_pos hcond, hnext, ih (n + 1)]
      constructor
      · rintro ⟨m, hn, hlt, hm⟩
        exact ⟨m, by omega, by omega, hm⟩
      · rintro ⟨m, hn, hlt, hm⟩
        have hne : m ≠ n := by
          rintro rfl
          exact hm hcond
        exact ⟨m, by omega, by omega, hm⟩
    · rw [if_neg hcond]
      exact ⟨fun _ => ⟨n, le_rfl, by omega, hcond⟩, fun _ => rfl⟩

/-- The indices are those of the iterations up to the first one that does not take place. -/
theorem mem_reclaimIndices_iff {fuel n : Nat} {i : Int} :
    i ∈ reclaimIndices charSigned readIdx freed fuel (n % 256) ↔
      ∃ m, n ≤ m ∧ m < n + fuel ∧ (∀ k, n ≤ k → k ≤ m → Iterates charSigned freed k) ∧
        i = chainIndex charSigned readIdx m := by
  induction fuel generalizing n with
  | zero =>
    constructor
    · intro h
      cases h
    · rintro ⟨m, hn, hlt, -⟩
      omega
  | succ fuel ih =>
    rw [reclaimIndices]
    by_cases hcond : (charVal charSigned (n % 256) % 2 ^ 32).toNat < freed
    · have hnext : (n % 256 + 1) % 256 = (n + 1) % 256 := by omega
      rw [if_pos hcond, hnext, List.mem_cons, ih]
      constructor
      · rintro (rfl | ⟨m, hn, hlt, hall, rfl⟩)
        · refine ⟨n, le_rfl, by omega, ?_, rfl⟩
          intro k hk hkn
          obtain rfl : k = n := by omega
          exact hcond
        · refine ⟨m, by omega, by omega, ?_, rfl⟩
          intro k hk hkm
          rcases hk.eq_or_lt with rfl | hlt'
          · exact hcond
          · exact hall k hlt' hkm
      · rintro ⟨m, hn, hlt, hall, rfl⟩
        rcases hn.eq_or_lt with rfl | hlt'
        · exact Or.inl rfl
        · exact Or.inr ⟨m, hlt', by omega, fun k hk hkm => hall k (by omega) hkm, rfl⟩
    · rw [if_neg hcond]
      constructor
      · intro h
        cases h
      · rintro ⟨m, hn, -, hall, -⟩
        exact absurd (hall n le_rfl hn) hcond

/-- From the start on. -/
theorem reclaimLoop_start_iff {fuel : Nat} :
    (reclaimLoop charSigned chain readIdx freed fuel 0 0).isSome ↔
      ∃ m < fuel, ¬ Iterates charSigned freed m := by
  have h := @reclaimLoop_isSome_iff charSigned chain readIdx freed fuel 0 0
  simpa only [Nat.zero_mod, Nat.zero_le, Nat.zero_add, true_and] using h

theorem mem_reclaimIndices_start_iff {fuel : Nat} {i : Int} :
    i ∈ reclaimIndices charSigned readIdx freed fuel 0 ↔
      ∃ m < fuel, (∀ k ≤ m, Iterates charSigned freed k) ∧ i = chainIndex charSigned readIdx m := by
  have h := @mem_reclaimIndices_iff charSigned readIdx freed fuel 0 i
  simpa only [Nat.zero_mod, Nat.zero_le, Nat.zero_add, true_and, forall_const] using h

theorem reclaimLoop_ends_iff :
    (∃ fuel, (reclaimLoop charSigned chain readIdx freed fuel 0 0).isSome) ↔
      ∃ m, ¬ Iterates charSigned freed m := by
  constructor
  · rintro ⟨fuel, h⟩
    obtain ⟨m, -, hm⟩ := reclaimLoop_start_iff.mp h
    exact ⟨m, hm⟩
  · rintro ⟨m, hm⟩
    exact ⟨m + 1, reclaimLoop_start_iff.mpr ⟨m, Nat.lt_succ_self m, hm⟩⟩

/-- After 256 iterations the counter repeats: a loop that has not ended by then never ends, so that
`reclaim` gives no result exactly when the call does not return. -/
theorem reclaim_isSome_iff :
    (reclaim charSigned slots r).isSome ↔
      ∃ fuel, (reclaimLoop charSigned r.chain r.readIdx (r.freedSlots slots) fuel 0 0).isSome := by
  have hperiod : (reclaimLoop charSigned r.chain r.readIdx (r.freedSlots slots) 257 0 0).isSome ↔
      ∃ m, ¬ Iterates charSigned (r.freedSlots slots) m := by
    rw [reclaimLoop_start_iff]
    constructor
    · rintro ⟨m, -, hm⟩
      exact ⟨m, hm⟩
    · rintro ⟨m, hm⟩
      refine ⟨m % 256, by omega, ?_⟩
      rwa [Iterates, Nat.mod_mod]
  rw [reclaimLoop_ends_iff, ← hperiod]
  unfold reclaim
  by_cases hpos : 0 < r.freedSlots slots
  · have hpos' := hpos
    unfold DescriptorRing.freedSlots at hpos'
    simp only [hpos', if_true, Option.isSome_map]
    rfl
  · have hpos' := hpos
    unfold DescriptorRing.freedSlots at hpos'
    simp only [hpos', if_false, Option.isSome_some, true_iff]
    rw [reclaimLoop_start_iff]
    exact ⟨0, by omega, fun hc => hpos (Nat.zero_lt_of_lt hc)⟩

/-! ## Which values the loop can follow -/

theorem ends_unsigned : (∃ m, ¬ Iterates false freed m) ↔ freed ≤ 255 := by
  simp only [iterates_unsigned]
  constructor
  · rintro ⟨m, hm⟩
    omega
  · intro h
    exact ⟨freed, by omega⟩

/-- A signed counter comes to `-1`, which is the largest 32-bit value. -/
theorem ends_signed (h : freed < 2 ^ 32) : ∃ m, ¬ Iterates true freed m :=
  ⟨255, by rw [iterates_signed]; omega⟩

theorem chainIndex_of_nonneg {m : Nat} (h : 0 ≤ (readIdx : Int) + charVal charSigned (m % 256)) :
    0 ≤ chainIndex charSigned readIdx m ∧ chainIndex charSigned readIdx m < maxDescriptorDepth := by
  have hdepth : (maxDescriptorDepth : Int) = 128 := rfl
  unfold chainIndex
  rw [hdepth, Int.tmod_eq_emod_of_nonneg h]
  omega

theorem chainIndex_unsigned (readIdx m : Nat) :
    0 ≤ chainIndex false readIdx m ∧ chainIndex false readIdx m < maxDescriptorDepth := by
  apply chainIndex_of_nonneg
  simp only [charVal, Bool.false_eq_true, false_and, if_false]
  omega

theorem chainIndex_signed_of_lt {m : Nat} (readIdx : Nat) (h : m % 256 < 128) :
    0 ≤ chainIndex true readIdx m ∧ chainIndex true readIdx m < maxDescriptorDepth := by
  apply chainIndex_of_nonneg
  rw [charVal_of_lt _ h]
  omega

/-- A negative counter takes the index below 0, unless the two cancel. -/
theorem chainIndex_signed_neg {m : Nat} (h : 128 ≤ m) (hm : m < 256) (hread : readIdx < 128)
    (hne : readIdx + m ≠ 128) (hsum : readIdx + m < 256) : chainIndex true readIdx m < 0 := by
  have hdepth : (maxDescriptorDepth : Int) = 128 := rfl
  have hval : charVal true (m % 256) = (m : Int) - 256 := by
    simp only [charVal, true_and]
    rw [if_pos (by omega)]
    omega
  have hneg : (readIdx : Int) + ((m : Int) - 256) = -((256 - readIdx - m : Nat) : Int) := by omega
  unfold chainIndex
  rw [hval, hdepth, hneg, Int.neg_tmod, Int.tmod_eq_emod_of_nonneg (by omega)]
  omega

/-- The indices of a signed counter. -/
theorem indices_signed_iff (hread : readIdx < 128) (hfreed : freed < 2 ^ 32) :
    (∀ fuel, ∀ i ∈ reclaimIndices true readIdx freed fuel 0, 0 ≤ i ∧ i < maxDescriptorDepth) ↔
      freed ≤ 2 ^ 32 - 128 ∨ (readIdx = 0 ∧ freed = 2 ^ 32 - 127) := by
  constructor
  · intro h
    by_contra hcon
    -- iteration 128 takes place with the counter -128, and with index 0 so does the next one
    obtain ⟨m, hm, hmlt, hne, hall⟩ : ∃ m, 128 ≤ m ∧ readIdx + m < 256 ∧ readIdx + m ≠ 128 ∧
        ∀ k, k ≤ m → Iterates true freed k := by
      by_cases h0 : readIdx = 0
      · refine ⟨129, by omega, by omega, by omega, ?_⟩
        intro k hk
        rw [iterates_signed]
        omega
      · refine ⟨128, by omega, by omega, by omega, ?_⟩
        intro k hk
        rw [iterates_signed]
        omega
    have hmem : chainIndex true readIdx m ∈ reclaimIndices true readIdx freed (m + 1) 0 := by
      rw [mem_reclaimIndices_start_iff]
      exact ⟨m, Nat.lt_succ_self m, hall, rfl⟩
    have hge := (h (m + 1) _ hmem).1
    have hneg := chainIndex_signed_neg hm (by omega) hread hne hmlt
    omega
  · intro h fuel i hi
    obtain ⟨m, -, hall, rfl⟩ := mem_reclaimIndices_start_iff.mp hi
    by_cases hm : m < 128
    · exact chainIndex_signed_of_lt readIdx (by omega)
    · have h128 := iterates_signed.mp (hall 128 (by omega))
      obtain ⟨rfl, rfl⟩ : readIdx = 0 ∧ freed = 2 ^ 32 - 127 := by omega
      obtain rfl : m = 128 := by
        by_contra hne
        have h129 := iterates_signed.mp (hall 129 (by omega))
        omega
      decide

/-! ## Reachable states -/

variable {D : Type} {io : Mmio D} {cfg : Config}

/-- The types of the variables of a ring, with the range of its reduced read index. -/
structure RingBounded (r : DescriptorRing) : Prop where
  slots : r.slotsAvailable < 2 ^ 16
  readIdx : r.readIdx < 128

theorem freedSlots_lt (r : DescriptorRing) (slots : Nat) : r.freedSlots slots < 2 ^ 32 :=
  Nat.mod_lt _ (by omega)

/-- **One call**: the loop is safe exactly for the values that the counter can follow. -/
theorem RingBounded.safe_iff (h : RingBounded r) (hslots : slots < 2 ^ 32) :
    ReclaimSafe charSigned slots r ↔ SlotsFollowed charSigned slots r := by
  have hs := h.slots
  have hfreed : r.freedSlots slots = (slots + 2 ^ 32 - r.slotsAvailable) % 2 ^ 32 := rfl
  have hlt := freedSlots_lt r slots
  cases charSigned with
  | false =>
    have hiff : ReclaimSafe false slots r ↔ r.freedSlots slots ≤ 255 := by
      rw [← ends_unsigned, ← @reclaimLoop_ends_iff false r.chain r.readIdx]
      constructor
      · intro hsafe
        exact hsafe.ends
      · intro hends
        refine ⟨hends, ?_⟩
        intro fuel i hi
        obtain ⟨m, -, -, rfl⟩ := mem_reclaimIndices_start_iff.mp hi
        exact chainIndex_unsigned r.readIdx m
    rw [hiff, SlotsFollowed]
    omega
  | true =>
    have hiff : ReclaimSafe true slots r ↔ r.freedSlots slots ≤ 2 ^ 32 - 128 ∨
        (r.readIdx = 0 ∧ r.freedSlots slots = 2 ^ 32 - 127) := by
      rw [← indices_signed_iff h.readIdx hlt]
      constructor
      · intro hsafe
        exact hsafe.indices
      · intro hall
        exact ⟨reclaimLoop_ends_iff.mpr (ends_signed hlt), hall⟩
    rw [hiff, SlotsFollowed]
    omega

theorem RingBounded.init (slots base sz : Nat) : RingBounded (r.init slots base sz) :=
  ⟨Nat.mod_lt _ (by omega), Nat.zero_lt_succ 127⟩

theorem RingBounded.takeSlot (h : RingBounded r) : RingBounded r.takeSlot := by
  rw [DescriptorRing.takeSlot]
  exact ⟨Nat.mod_lt _ (Nat.two_pow_pos 16), h.readIdx⟩

theorem RingBounded.takeBuffer (h : RingBounded r) (sz : Nat) :
    RingBounded (RemoteDebug.takeBuffer sz r).2 := by
  unfold RemoteDebug.takeBuffer
  dsimp only
  split
  · exact ⟨h.slots, h.readIdx⟩
  · exact h

theorem RingBounded.reclaim (h : RingBounded r) {r' : DescriptorRing}
    (hcall : reclaim charSigned slots r = some r') : RingBounded r' := by
  unfold RemoteDebug.reclaim at hcall
  dsimp only at hcall
  split at hcall
  · obtain ⟨b, -, rfl⟩ := Option.map_eq_some_iff.mp hcall
    exact ⟨Nat.mod_lt _ (by omega), Nat.mod_lt _ (by decide)⟩
  · obtain rfl := Option.some.inj hcall
    exact h

/-- Both rings of the driver are bounded. -/
def DriverBounded (drv : Driver) : Prop := ∀ ch, RingBounded (drv.ring ch)

theorem DriverBounded.setRing {drv : Driver} (h : DriverBounded drv) {ch : Channel}
    (hr : RingBounded r) : DriverBounded (drv.setRing ch r) := by
  intro ch'
  by_cases hch : ch' = ch
  · subst hch
    rwa [ring_setRing]
  · rw [ring_setRing_of_ne drv hch]
    exact h ch'

theorem driverBounded_init {drv : Driver} (h : DriverBounded drv) (io : Mmio D) (info : DesignInfo)
    (d : D) : DriverBounded (initDriver io info drv d).2.1 := by
  unfold initDriver
  split
  · exact h
  · dsimp only
    split
    · exact h
    · intro ch
      cases ch with
      | h2t => exact RingBounded.init _ _ _
      | mgmt => exact RingBounded.init _ _ _

/-- A T2H or MGMT_RSP packet only concerns the SOP flags. -/
theorem ring_getT2hData (info : DesignInfo) (header : H2tPacketHeader) (drv : Driver) (d : D)
    (ch : Channel) : (getT2hData io info header drv d).2.2.1.ring ch = drv.ring ch := by
  unfold getT2hData
  dsimp only
  split
  · rfl
  · cases ch <;> rfl

theorem ring_getMgmtRspData (info : DesignInfo) (header : MgmtPacketHeader) (drv : Driver) (d : D)
    (ch : Channel) : (getMgmtRspData io info header drv d).2.2.1.ring ch = drv.ring ch := by
  unfold getMgmtRspData
  dsimp only
  split
  · rfl
  · cases ch <;> rfl

theorem driverBounded_step {s s' : DriverState D} {a : DriverAction} (h : DriverBounded s.drv)
    (hstep : DriverStep io cfg s a s') : DriverBounded s'.drv := by
  cases hstep with
  | init => exact driverBounded_init h io cfg.info s.dev
  | @get ch sz addr drv d hcall =>
    rw [channel_getBuffer_eq, Option.map_eq_some_iff] at hcall
    obtain ⟨⟨a, r', d1⟩, hget, heq⟩ := hcall
    obtain ⟨rfl, rfl, rfl⟩ := by simpa using heq
    rw [getBuffer, Option.map_eq_some_iff] at hget
    obtain ⟨r1, hrec, heq1⟩ := hget
    obtain ⟨-, rfl, -⟩ := by simpa using heq1
    exact h.setRing (((h ch).reclaim hrec).takeBuffer sz)
  | push ch header payload =>
    rw [channel_pushData_eq]
    exact h.setRing (h ch).takeSlot
  | t2h header =>
    intro ch
    rw [ring_getT2hData]
    exact h ch
  | mgmtRsp header =>
    intro ch
    rw [ring_getMgmtRspData]
    exact h ch
  | hardware d => exact h

theorem driverBounded_static : DriverBounded .static := by
  intro ch
  cases ch with
  | h2t => exact ⟨Nat.two_pow_pos 16, Nat.zero_lt_succ 127⟩
  | mgmt => exact ⟨Nat.two_pow_pos 16, Nat.zero_lt_succ 127⟩

/-- **The reclaim loop on any bus**: in every state that the calls of the driver reach, whatever the bus
has returned, the loop of the next call for a buffer ends with all its indices in the chain if and only if
the counter can follow the value of the register. -/
theorem reclaim_safe_iff (io : Mmio D) (cfg : Config) {d : D} {s : DriverState D}
    (hrun : Reach (DriverStep io cfg) always ⟨.static, d⟩ s) (ch : Channel) (slots : UInt32) :
    ReclaimSafe cfg.charSigned slots.toNat (s.drv.ring ch) ↔
      SlotsFollowed cfg.charSigned slots.toNat (s.drv.ring ch) := by
  have hbounded : DriverBounded s.drv :=
    hrun.invariant (fun s => DriverBounded s.drv) (fun _ _ _ h _ hs => driverBounded_step h hs)
      driverBounded_static
  exact (hbounded ch).safe_iff slots.toNat_lt

/-- A bus whose 32-bit registers show the number that it holds. -/
def registerBus : Mmio Nat where
  read32 _ d := (d, d)
  read64 _ d := (supportedType, d)
  write32 _ _ d := d
  write64 _ _ d := d

/-- Windows of 4096 bytes. -/
def registerInfo : DesignInfo := ⟨4096, 4096, 8192, 4096, 0, 0, 0, 0⟩

/-- The driver on this bus behind `init_driver`. -/
def registerBusBooted (slots : Nat) : DriverState Nat :=
  let x := initDriver registerBus registerInfo .static slots
  ⟨x.2.1, x.2.2⟩

theorem registerBusBooted_reach (charSigned : Bool) (slots : Nat) :
    Reach (DriverStep registerBus ⟨registerInfo, charSigned⟩) always ⟨.static, slots⟩
      (registerBusBooted slots) :=
  Reach.single trivial (DriverStep.init ⟨.static, slots⟩)

theorem reclaim_safe_booted :
    ReclaimSafe false 17 (registerBusBooted 16).drv.h2t ↔
      SlotsFollowed false 17 (registerBusBooted 16).drv.h2t :=
  reclaim_safe_iff registerBus ⟨registerInfo, false⟩ (registerBusBooted_reach false 16) .h2t 17

theorem registerBus_unsafe (charSigned : Bool) :
    ¬ ReclaimSafe charSigned 0xFFFFFFFF (registerBusBooted 16).drv.h2t := by
  intro hsafe
  have hbounded : RingBounded (registerBusBooted 16).drv.h2t := RingBounded.init _ _ _
  have hslots : (registerBusBooted 16).drv.h2t.slotsAvailable = 16 := rfl
  have hfollowed := (hbounded.safe_iff (by omega)).mp hsafe
  cases charSigned with
  | false =>
    simp only [SlotsFollowed, hslots] at hfollowed
    omega
  | true =>
    simp only [SlotsFollowed, hslots] at hfollowed
    omega

/-- The bus dies after 16 slots have been counted: the loop is not safe, for either signedness of
`char`. -/
theorem reclaim_unsafe :
    (¬ ∀ s, Reach (DriverStep registerBus ⟨registerInfo, false⟩) always ⟨.static, 16⟩ s →
        ReclaimSafe false 0xFFFFFFFF s.drv.h2t) ∧
      ¬ ∀ s, Reach (DriverStep registerBus ⟨registerInfo, true⟩) always ⟨.static, 16⟩ s →
        ReclaimSafe true 0xFFFFFFFF s.drv.h2t :=
  ⟨fun h => registerBus_unsafe false (h _ (registerBusBooted_reach false 16)),
    fun h => registerBus_unsafe true (h _ (registerBusBooted_reach true 16))⟩

end RemoteDebug
