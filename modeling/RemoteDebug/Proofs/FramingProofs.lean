import RemoteDebug.Hardware.FramingRun
import RemoteDebug.Hardware.DebugIp
import Mathlib.Data.Nat.Bitwise

/-!
# Packet framing across resets

The SOP flag of the driver follows the trace as long as the loopback mode of the hardware is only set
between two packets: unlike `init_driver`, `set_loopback_mode` asserts the reset and leaves the flag.
-/

namespace RemoteDebug

open Runs

variable {D : Type} {io : Mmio D} {info : DesignInfo} {o : Outbound} {s s' : FramingState D}
  {a : FramingAction} {trace : List FrameEvent}

theorem expectSop_append_reset : expectSop (trace ++ [.reset]) = true := by
  simp [expectSop]

theorem expectSop_append_emit (header : H2tPacketHeader) (last : Bool) :
    expectSop (trace ++ [.emit header last]) = header.eop := by
  simp [expectSop]

theorem framed_nil : Framed [] := by
  intro before header last after heq
  simp at heq

/-- A trace stays framed if the event at its end is right. -/
theorem Framed.append (h : Framed trace) {e : FrameEvent}
    (he : ∀ header last, e = .emit header last → header.sop = expectSop trace ∧ header.eop = last) :
    Framed (trace ++ [e]) := by
  intro before header last after heq
  rcases List.eq_nil_or_concat after with rfl | ⟨l, e', rfl⟩
  · obtain ⟨rfl, hlast⟩ := List.append_inj' heq rfl
    exact he header last (List.singleton_inj.mp hlast)
  · rw [List.concat_eq_append, ← List.cons_append, ← List.append_assoc] at heq
    obtain ⟨rfl, -⟩ := List.append_inj' heq rfl
    exact h before header last l rfl

/-! ## The header of an acquired packet -/

theorem last_of_mask (w : Nat) :
    (w % 2 ^ 32 &&& stDbgIpLastDescriptorMask ≠ 0) ↔ lastSet w = true := by
  have hmask : stDbgIpLastDescriptorMask = 2 ^ 31 := rfl
  have hbit : (w % 2 ^ 32).testBit 31 = lastSet w := by
    rw [Nat.testBit_mod_two_pow, Nat.testBit_eq_decide_div_mod_eq]
    simp [lastSet]
  rw [hmask, Nat.and_two_pow, hbit]
  cases lastSet w <;> simp

theorem sopEopOf_bits : ∀ sop last : Bool,
    decide (sopEopOf sop last &&& packetHeaderMaskSop ≠ 0) = sop ∧
      decide (sopEopOf sop last &&& packetHeaderMaskEop ≠ 0) = last := by
  decide

/-- An acquired header has SOP as the flag says and EOP as the descriptor says; the flag is set
exactly if the packet has ended. -/
theorem acquire_framing {base w payload : Nat} {header header' : H2tPacketHeader} {sop sop' : Bool}
    (h : acquire base w header sop = (header', some payload, sop')) :
    header'.sop = sop ∧ header'.eop = lastSet w ∧ sop' = lastSet w := by
  have hlast : decide (w % 2 ^ 32 &&& stDbgIpLastDescriptorMask ≠ 0) = lastSet w := by
    rw [Bool.eq_iff_iff, decide_eq_true_eq]
    exact last_of_mask w
  unfold acquire at h
  dsimp only at h
  split at h
  · cases h
  · rw [hlast] at h
    obtain ⟨hheader, h⟩ := Prod.mk.inj h
    obtain ⟨-, hsop⟩ := Prod.mk.inj h
    rw [← hheader, ← hsop]
    exact ⟨(sopEopOf_bits _ _).1, (sopEopOf_bits _ _).2, rfl⟩

/-- What a call of `get_t2h_data` or `get_mgmt_rsp_data` that finds data does to the flags. -/
theorem getData_framing {header header' : H2tPacketHeader} {payload : Nat} {drv drv' : Driver}
    {d d' : D} (h : o.getData io info header drv d = (header', some payload, drv', d')) :
    header'.sop = drv.sop o ∧ header'.eop = lastSet (io.read64 o.howLongReg d).1 ∧
      drv'.sop o = lastSet (io.read64 o.howLongReg d).1 ∧
      ∀ o', o' ≠ o → drv'.sop o' = drv.sop o' := by
  cases o with
  | t2h =>
    simp only [Outbound.getData, getT2hData] at h
    split at h
    · cases h
    · next header1 payload1 sop1 hacq =>
      obtain ⟨hsop, heop, hflag⟩ := acquire_framing hacq
      obtain ⟨rfl, -, rfl, -⟩ := by simpa using h
      refine ⟨hsop, heop, hflag, ?_⟩
      intro o' ho'
      cases o' with
      | t2h => exact absurd rfl ho'
      | mgmtRsp => rfl
  | mgmtRsp =>
    simp only [Outbound.getData, getMgmtRspData] at h
    split at h
    · cases h
    · next header1 payload1 sop1 hacq =>
      obtain ⟨hsop, heop, hflag⟩ := acquire_framing hacq
      obtain ⟨rfl, -, rfl, -⟩ := by simpa using h
      refine ⟨hsop, heop, hflag, ?_⟩
      intro o' ho'
      cases o' with
      | t2h => rfl
      | mgmtRsp => exact absurd rfl ho'

theorem getData_none {header header' : H2tPacketHeader} {drv drv' : Driver} {d d' : D}
    (h : o.getData io info header drv d = (header', none, drv', d')) : drv' = drv := by
  cases o with
  | t2h =>
    simp only [Outbound.getData, getT2hData] at h
    split at h
    · obtain ⟨-, rfl, -⟩ := by simpa using h
      rfl
    · cases h
  | mgmtRsp =>
    simp only [Outbound.getData, getMgmtRspData] at h
    split at h
    · obtain ⟨-, rfl, -⟩ := by simpa using h
      rfl
    · cases h

/-- A successful `init_driver` sets both flags; otherwise it leaves them. -/
theorem initDriver_sop (io : Mmio D) (info : DesignInfo) (drv : Driver) (d : D) (o : Outbound) :
    (initDriver io info drv d).2.1.sop o
      = if (initDriver io info drv d).1 = 0 then true else drv.sop o := by
  unfold initDriver
  split
  · rfl
  · dsimp only
    split
    · rfl
    · cases o <;> rfl

/-! ## Runs -/

/-- The flag of the channel agrees with its trace. -/
structure FramingInv (o : Outbound) (s : FramingState D) : Prop where
  framed : Framed (s.trace o)
  flag : s.drv.sop o = expectSop (s.trace o)

/-- The loopback mode of the hardware is only set while the channel is between two packets. -/
def BetweenPackets (o : Outbound) (s : FramingState D) (a : FramingAction) : Prop :=
  a = .setLoopback → s.drv.sop o = true

theorem framingInv_get (h : FramingInv o s) (o' : Outbound) (header : H2tPacketHeader) :
    FramingInv o (s.get io info o' header) := by
  obtain ⟨header', payload, drv', d', hget⟩ :
      ∃ header' payload drv' d', o'.getData io info header s.drv s.dev
        = (header', payload, drv', d') := ⟨_, _, _, _, rfl⟩
  unfold FramingState.get
  rw [hget]
  cases payload with
  | none =>
    obtain rfl := getData_none hget
    exact ⟨h.framed, h.flag⟩
  | some payload =>
    obtain ⟨hsop, heop, hflag, hother⟩ := getData_framing hget
    simp only [Option.isSome_some, if_true]
    by_cases ho : o = o'
    · subst ho
      constructor
      · simp only [Function.update_self]
        refine h.framed.append ?_
        intro header1 last heq
        obtain ⟨rfl, rfl⟩ := by simpa using heq
        exact ⟨hsop.trans h.flag, heop⟩
      · simp only [Function.update_self, expectSop_append_emit]
        exact hflag.trans heop.symm
    · constructor
      · simpa only [Function.update_of_ne ho] using h.framed
      · simpa only [Function.update_of_ne ho, hother o ho] using h.flag

theorem framingInv_step (h : FramingInv o s) (hguard : BetweenPackets o s a)
    (hs : FramingStep io info s a s') : FramingInv o s' := by
  have hreset : Framed (s.trace o ++ [.reset]) :=
    h.framed.append fun header last heq => nomatch heq
  cases hs with
  | init =>
    have hsop := initDriver_sop io info s.drv s.dev o
    unfold FramingState.init
    by_cases hrc : (initDriver io info s.drv s.dev).1 = 0
    · rw [if_pos hrc] at hsop
      simp only [hrc, if_true]
      exact ⟨hreset, hsop.trans expectSop_append_reset.symm⟩
    · rw [if_neg hrc] at hsop
      simp only [hrc, if_false]
      exact ⟨h.framed, hsop.trans h.flag⟩
  | get o' header => exact framingInv_get h o' header
  | setLoopback hcall => exact ⟨hreset, (hguard rfl).trans expectSop_append_reset.symm⟩
  | hardware d => exact ⟨h.framed, h.flag⟩

/-- **Framing**: in every run in which the loopback mode of the hardware is only set while the channel
is between two packets, every emitted header has SOP exactly if it is the first one behind a reset or
behind a header with EOP, and EOP exactly if its descriptor has LAST. -/
theorem framing_survives (o : Outbound) {d : D}
    (hrun : Reach (FramingStep io info) (BetweenPackets o) (.start d) s) : Framed (s.trace o) := by
  have hinv : FramingInv o s := by
    refine hrun.invariant (FramingInv o) ?_ ?_
    · intro s a s' h hguard hs
      exact framingInv_step h hguard hs
    · exact ⟨framed_nil, by cases o <;> rfl⟩
  exact hinv.framed

/-- The small debug IP with one T2H descriptor of four bytes. -/
def DebugIp.offering (last : Bool) : DebugIp :=
  .start [⟨if last then 2 ^ 31 + 4 else 4, 0⟩] [] fun _ => 0

/-- The state behind `get_t2h_data` on an empty header, then `#HW_LOOPBACK`, then a new descriptor and
`get_t2h_data` again. -/
def DebugIp.interrupted (last : Bool) : FramingState DebugIp :=
  let s := (FramingState.start (DebugIp.offering last)).get debugIp DebugIp.design.info .t2h
    ⟨0, 0, 0, 0⟩
  let s : FramingState DebugIp :=
    ⟨s.drv, setLoopbackMode debugIp 1 s.dev, fun o => s.trace o ++ [.reset]⟩
  FramingState.get debugIp DebugIp.design.info .t2h ⟨0, 0, 0, 0⟩
    { s with dev := DebugIp.offering true }

theorem DebugIp.interrupted_reach (last : Bool)
    {guard : FramingState DebugIp → FramingAction → Prop}
    (hguard : ∀ s a, a ≠ .setLoopback → guard s a)
    (hset : guard ((FramingState.start (DebugIp.offering last)).get debugIp DebugIp.design.info .t2h
      ⟨0, 0, 0, 0⟩) .setLoopback) :
    Reach (FramingStep debugIp DebugIp.design.info) guard (.start (DebugIp.offering last))
      (DebugIp.interrupted last) :=
  (((Reach.refl.tail (hguard _ _ (by decide)) (.get _ .t2h ⟨0, 0, 0, 0⟩)).tail hset
    (.setLoopback (rfl : setDriverParam debugIp hwLoopbackParam (some [0x31]) _ = some _))).tail
    (hguard _ _ (by decide)) (.hardware _ (DebugIp.offering true))).tail (hguard _ _ (by decide))
    (.get _ .t2h ⟨0, 0, 0, 0⟩)

theorem framing_survives_between :
    Framed ((DebugIp.interrupted true).trace .t2h) :=
  framing_survives .t2h (DebugIp.interrupted_reach true (fun _ _ ha hset => absurd hset ha)
    fun _ => by decide)

/-- Setting the loopback mode inside a packet: the next packet starts without SOP. -/
theorem framing_survives_fails :
    ¬ ∀ s, Reach (FramingStep debugIp DebugIp.design.info) always
      (.start (DebugIp.offering false)) s → Framed (s.trace .t2h) := by
  intro h
  have hframed := h _ (DebugIp.interrupted_reach false (fun _ _ _ => trivial) trivial)
  have hlast := hframed [.emit ⟨1, 0, 0, 4⟩ false, .reset] ⟨2, 0, 0, 4⟩ true [] rfl
  exact absurd hlast.1 (by decide)

end RemoteDebug
