import RemoteDebug.Hardware.DriverParamRun
import RemoteDebug.Proofs.ControlProofs
import RemoteDebug.Proofs.TransferProofs
import Mathlib.Data.Nat.Bitwise

/-!
# What `SET_DRIVER_PARAM` achieves

Every `SET_DRIVER_PARAM` is acknowledged. `LoopbackAs` follows the loopback field of the configuration
register from there on through the following sessions to the answer to `GET_DRIVER_PARAM`.
-/

namespace RemoteDebug

open Bytes CString Runs

variable {D : Type} {io : Mmio D} {cfg : Config} {s s' : Srv D}

/-! ## The hardware behind a call -/

variable {R : D → D → Prop} (ha : Accesses io R)

include ha in
/-- **Accesses**: apart from `set_loopback_mode` and `init_driver` the server only moves data. -/
theorem frames_dev : Frames io {.configure, .device}ᶜ fun s s' => R s.dev s'.dev where
  refl s := ha.refl s.dev
  trans := ha.trans
  change := by
    intro part s s' hpart hchange
    cases hchange with
    | register s offset h => exact ha.read32 offset s.dev
    | read s offset => exact ha.read64 offset s.dev
    | write s offset v => exact ha.write64 offset v s.dev
    | done s offset v h => exact ha.done offset v s.dev h
    | configure | device => simp at hpart
    | _ => exact ha.refl _

include ha in
/-- Behind `init_driver` the handshake only moves data. -/
theorem connectClient_dev (cfg : Config) (s : Srv D) :
    R (initDriver io cfg.info s.drv s.dev).2.2 (connectClient io cfg s).2.dev := by
  apply (frames_dev ha).changes (changes_connectClient cfg s)
  simp [connectParts, handshakeParts, Set.insert_subset_iff]

/-! ## The loopback field -/

variable {ip : ConfigIp io}

theorem ConfigIp.accesses (ip : ConfigIp io) : Accesses io ip.Proceeds where
  refl _ := rfl
  trans h h' := Eq.trans h' h
  read32 := ip.read32
  read64 := ip.read64
  write64 := ip.write64
  done := ip.done

/-- `set_loopback_mode` sets the field, `init_driver` clears it if it gets to the reset. -/
theorem loopback_setLoopbackMode (val : Nat) (d : D) :
    ip.loopback (setLoopbackMode io val d) = decide (val = 1) := by
  unfold setLoopbackMode
  dsimp only
  split
  · next h =>
    rw [ip.write, h, Nat.testBit_or, Nat.testBit_or]
    simp [stDbgIpConfigLoopbackField, Nat.testBit]
  · next h =>
    rw [ip.write, Nat.testBit_or, Nat.testBit_and, decide_eq_false h]
    have h1 : (2 ^ 32 - 1 - stDbgIpConfigLoopbackField).testBit 1 = false := by decide
    have h2 : stDbgIpConfigH2tT2hResetField.testBit 1 = false := by decide
    rw [h1, h2, Bool.and_false, Bool.or_false]

theorem getLoopbackMode_eq (ip : ConfigIp io) (d : D) :
    (getLoopbackMode io d).1 = if ip.loopback d then 1 else 0 := by
  have hbit := Nat.and_two_pow (io.read32 stDbgIpConfigResetAndLoopback d).1 1
  rw [ip.read] at hbit
  unfold getLoopbackMode
  dsimp only
  rw [show stDbgIpConfigLoopbackField = 2 ^ 1 from rfl, hbit]
  cases ip.loopback d <;> simp

theorem loopback_initDriver (info : DesignInfo) (drv : Driver) (d : D) :
    ip.loopback (initDriver io info drv d).2.2 =
      (ip.loopback d && !decide ((initDriver io info drv d).1 = 0)) := by
  have hcheck : ip.loopback (checkVersionAndType io d).2 = ip.loopback d := by
    unfold checkVersionAndType
    dsimp only
    split <;> exact ip.read64 _ d
  unfold initDriver
  dsimp only
  split_ifs
  · simp [initErrorCodeMissingInfo]
  · simp [initErrorCodeIncompatibleIp, hcheck]
  · simp only [ip.read32, assertH2tT2hReset, ip.write, decide_true, Bool.not_true, Bool.and_false]
    decide

/-- Whether the field is set since the value was `1`: a reset clears it. -/
def LoopbackAs (ip : ConfigIp io) (value : List UInt8) (st : ServerState D × Bool) : Prop :=
  ip.loopback st.1.srv.dev = (isOne value && !st.2)

theorem loopbackAs_step {value : List UInt8} {a : ServerAction} {st st' : ServerState D × Bool}
    (h : LoopbackAs ip value st) (hno : NoDriverSet st.1 a)
    (hstep : Noting (CallStep io cfg ip.Proceeds) (renews io cfg) st a st') :
    LoopbackAs ip value st' := by
  have ha := ip.accesses
  obtain ⟨st, renewed⟩ := st
  obtain ⟨st', renewed'⟩ := st'
  obtain ⟨hstep, hnote⟩ := hstep
  -- A step that only moves data keeps the field and is no new session.
  have hkeep (hdev : ip.Proceeds st.srv.dev st'.srv.dev) (hconn : a ≠ .connect) :
      LoopbackAs ip value (st', renewed') := by
    have hsame : renewed' = renewed := by simpa [renews, hconn] using hnote
    show ip.loopback st'.srv.dev = (isOne value && !renewed')
    rw [hsame]
    exact (show ip.loopback st'.srv.dev = ip.loopback st.srv.dev from hdev).trans h
  have hchanges (hK : actionParts a ⊆ {.configure, .device}ᶜ) : ip.Proceeds st.srv.dev st'.srv.dev :=
    (frames_dev ha).changes (changes_step hstep) hK
  cases hstep with
  | connect s =>
    have hdev := connectClient_dev ha cfg
      ({ resetBuffers s with client := clientConnDefault } : Srv D)
    have hfield : ip.loopback (ServerState.connect io cfg s).srv.dev
        = ip.loopback (initDriver io cfg.info s.drv s.dev).2.2 := by
      unfold ServerState.connect
      dsimp only
      split <;> exact hdev
    have hnote' : renewed' = (renewed || decide ((initDriver io cfg.info s.drv s.dev).1 = 0)) := by
      simpa [renews] using hnote
    show ip.loopback (ServerState.connect io cfg s).srv.dev = (isOne value && !renewed')
    rw [hfield, loopback_initDriver, hnote', Bool.not_or, ← Bool.and_assoc]
    exact congrArg (· && _) h
  | @control s x hcall =>
    refine hkeep ?_ (by decide)
    unfold processControlMessage at hcall
    dsimp only at hcall
    split at hcall
    · next hok =>
      rcases dispatchControl_cases ha hcall with ⟨-, rfl⟩ | ⟨y, hset, -, -⟩ | htransfer
      · show ip.loopback (setParameter _ (recvControl s).2).2.dev = ip.loopback s.dev
        unfold setParameter
        dsimp only
        split_ifs <;> rfl
      · exact absurd ⟨hok, strstr_eq_zero.mp hset⟩ (hno rfl)
      · exact htransfer.dev
    · obtain rfl := Option.some.inj hcall
      rfl
  | select s selects => exact hkeep rfl (by decide)
  | reject | mgmt | h2t | mgmtRsp | t2h | close =>
    have hK : ip.Proceeds _ _ := hchanges (by
      simp [actionParts, mgmtParts, h2tParts, mgmtRspParts, t2hParts, Set.insert_subset_iff])
    exact hkeep hK (by decide)
  | hardware hmay => exact hkeep hmay (by decide)

/-! ## Setting and asking -/

theorem strncmpEq_one (mem : List UInt8) : strncmpEq 1 mem (ascii "1") = isOne (cstr mem) := by
  rw [← strncmpEq_cstr]
  cases cstr mem with
  | nil => rfl
  | cons b t =>
    by_cases hb : b = 0x31
    · subst hb
      rfl
    · have hne : ¬ b = (ascii "1").head?.getD 0 := hb
      simp [strncmpEq, isOne, hb, hne]

/-- The name buffer holds the first 32 characters of the name, the pointer behind the first space is the
value. -/
theorem splitDriverParam_space {mem name value : List UInt8} (hname : 0x20 ∉ name)
    (hmem : cstr mem = name ++ 0x20 :: value) :
    cstr (splitDriverParam mem).1 = name.take maxDriverParamNameLen ∧
      (splitDriverParam mem).2.map cstr = some value := by
  have hspace : strstr mem (ascii " ") = some name.length := by
    rw [strstr, hmem]
    exact findSub_singleton hname value
  obtain ⟨r, hr⟩ : name ++ 0x20 :: value <+: mem := hmem ▸ List.takeWhile_prefix _
  have hnul : 0 ∉ name := fun h0 => zero_notMem_cstr mem (hmem ▸ List.mem_append_left _ h0)
  have hbuff : cstr (mem.take (min name.length maxDriverParamNameLen))
      = name.take maxDriverParamNameLen := by
    have hstop : 0 ∉ name.take maxDriverParamNameLen := fun h0 => hnul (List.mem_of_mem_take h0)
    rw [← hr, List.append_assoc, List.take_append_of_le_length (min_le_left _ _), min_comm,
      ← List.take_eq_take_min, cstr_eq_self hstop]
  have hvalue : cstr (mem.drop (name.length + 1)) = value :=
    cstr_drop (a := name ++ [0x20]) (by simpa using hmem) (by simp)
  unfold splitDriverParam
  rw [hspace]
  exact ⟨hbuff, congrArg some hvalue⟩

/-- Only the parameter `#HW_LOOPBACK` has an effect. -/
theorem setDriverParam_split {mem name value : List UInt8} (hname : 0x20 ∉ name)
    (hmem : cstr mem = name ++ 0x20 :: value) (d : D) :
    setDriverParam io (splitDriverParam mem).1 (splitDriverParam mem).2 d = some
      (if name = hwLoopbackParam then setLoopbackMode io (if isOne value then 1 else 0) d else d) := by
  obtain ⟨hbuff, hval⟩ := splitDriverParam_space hname hmem
  obtain ⟨v, hv, hvalue⟩ := Option.map_eq_some_iff.mp hval
  have hcmp : strncmpEq hwLoopbackParamLen (splitDriverParam mem).1 hwLoopbackParam = true ↔
      name = hwLoopbackParam := by
    rw [strncmpEq_iff_cstr (by decide) (by decide), hbuff]
    constructor
    · intro h
      have hlen := congrArg List.length h
      rw [List.length_take, show hwLoopbackParam.length = 12 from rfl] at hlen
      rw [← h, List.take_of_length_le (by simp only [maxDriverParamNameLen] at hlen ⊢; omega)]
    · rintro rfl
      rfl
  simp only [setDriverParam, hcmp, hv, Option.map_some, strncmpEq_one, hvalue]
  by_cases h : name = hwLoopbackParam
  · simp only [h, if_true]
    split <;> rfl
  · simp only [h, if_false]

theorem flagDigit_inj {b b' : Bool} : flagDigit b = flagDigit b' ↔ b = b' := by
  cases b <;> cases b' <;> decide

/-- `SET_DRIVER_PARAM` is acknowledged, whatever the name is. -/
theorem setsDriverParam_acknowledged {x : ReturnCode × Bool × Srv D} {name value : List UInt8}
    (hname : 0x20 ∉ name) (hset : SetsDriverParam s name value)
    (hcall : processControlMessage io cfg s = some x) :
    ∃ s1, x = respond setParamCmdRsp 256 s1 ∧ s1.dev =
      if name = hwLoopbackParam then setLoopbackMode io (if isOne value then 1 else 0) s.dev
      else s.dev := by
  obtain ⟨hok, hmsg⟩ := hset
  have hrun : processControlMessage io cfg s
      = dispatchControl io cfg (controlMemory s) (recvControl s).2 := if_pos hok
  have hmem : cstr ((controlMemory s).drop setDriverParamCmdLen) = name ++ 0x20 :: value :=
    cstr_drop (a := setDriverParamCmd ++ [0x20]) (by simpa using hmsg) rfl
  rw [hrun, dispatchControl_setDriverParam io cfg ⟨_, hmsg.symm⟩, setDriverParameter,
    setDriverParam_split hname hmem, Option.map_some, Option.map_some] at hcall
  obtain rfl := Option.some.inj hcall
  exact ⟨_, rfl, rfl⟩

/-- The answer to `GET_DRIVER_PARAM`. -/
theorem asksDriverParam_answer {name : List UInt8} (ip : ConfigIp io)
    (hget : AsksDriverParam s name) :
    ∃ answer s1, processControlMessage io cfg s
        = some (respond answer maxServerParamValueLen s1) ∧
      answer = if name = hwLoopbackParam then flagDigit (ip.loopback s.dev)
        else if name = mgmtSupportParam then flagDigit (decide (0 < ip.mgmtDepth))
        else getParamCmdFailRsp := by
  obtain ⟨hok, hmsg⟩ := hget
  have hrun : processControlMessage io cfg s
      = dispatchControl io cfg (controlMemory s) (recvControl s).2 := if_pos hok
  have hmem : cstr ((controlMemory s).drop getDriverParamCmdLen) = name :=
    cstr_drop (a := getDriverParamCmd ++ [0x20]) (by simpa using hmsg) rfl
  rw [hrun, dispatchControl_getDriverParam io cfg ⟨_, hmsg.symm⟩]
  refine ⟨_, _, rfl, ?_⟩
  have hloop : strncmpEq hwLoopbackParamLen ((controlMemory s).drop getDriverParamCmdLen)
      hwLoopbackParam = true ↔ name = hwLoopbackParam := by
    rw [strncmpEq_iff_cstr (by decide) (by decide), hmem]
  have hmgmt : strncmpEq mgmtSupportParamLen ((controlMemory s).drop getDriverParamCmdLen)
      mgmtSupportParam = true ↔ name = mgmtSupportParam := by
    rw [strncmpEq_iff_cstr (by decide) (by decide), hmem]
  have hdev : (recvControl s).2.dev = s.dev := rfl
  simp only [getDriverParameter, getDriverParam, hloop, hmgmt, hdev]
  by_cases h1 : name = hwLoopbackParam
  · simp only [h1, if_true, getLoopbackMode_eq ip]
    cases ip.loopback s.dev <;> rfl
  · simp only [h1, if_false, getMgmtSupport, ip.depth]
    by_cases h2 : name = mgmtSupportParam
    · simp only [h2, if_true]
      by_cases hd : 0 < ip.mgmtDepth <;> simp [hd, flagDigit]
    · simp only [h2, if_false, Option.getD_none]

/-- **Driver parameters**: the promise of `SET_DRIVER_PARAM` is kept exactly for `#HW_LOOPBACK`, unless a
later session has reset it. All other names are acknowledged as well. -/
theorem driver_parameter_takes_effect (ip : ConfigIp io) (cfg : Config) {name value : List UInt8}
    {x : ReturnCode × Bool × Srv D} {renewed : Bool} (hname : 0x20 ∉ name)
    (hset : SetsDriverParam s name value) (hcall : processControlMessage io cfg s = some x)
    (hrun : Reach (Noting (CallStep io cfg ip.Proceeds) (renews io cfg))
      (fun st a => NoDriverSet st.1 a) (⟨x.2.2, true⟩, false) (⟨s', true⟩, renewed))
    (hget : AsksDriverParam s' name) :
    ∃ reply s1 answer s2, x = respond reply 256 s1 ∧
      processControlMessage io cfg s' = some (respond answer maxServerParamValueLen s2) ∧
      (KeepsPromise name value reply answer ↔ TakesEffect name value renewed) := by
  obtain ⟨s1, hack, hdev⟩ := setsDriverParam_acknowledged hname hset hcall
  obtain ⟨answer, s2, hanswer, heq⟩ : ∃ answer s1, processControlMessage io cfg s'
      = some (respond answer maxServerParamValueLen s1) ∧ _ := asksDriverParam_answer ip hget
  refine ⟨setParamCmdRsp, s1, answer, s2, hack, hanswer, ?_⟩
  by_cases h : name = hwLoopbackParam
  · -- the field is followed through the run
    have hstart : LoopbackAs ip value (⟨x.2.2, true⟩, false) := by
      have hx : x.2.2.dev = s1.dev := by rw [hack]; rfl
      show ip.loopback x.2.2.dev = (isOne value && !false)
      rw [hx, hdev, if_pos h, loopback_setLoopbackMode]
      cases isOne value <;> rfl
    have hend : LoopbackAs ip value (⟨s', true⟩, renewed) :=
      hrun.invariant _ (fun _ _ _ hinv hg hstep => loopbackAs_step hinv hg hstep) hstart
    have hfield : ip.loopback s'.dev = (isOne value && !renewed) := hend
    rw [if_pos h, hfield] at heq
    have hflag : answer = flagDigit (isOne value) ↔ (isOne value = true → renewed = false) := by
      rw [heq, flagDigit_inj]
      cases isOne value <;> cases renewed <;> simp
    constructor
    · intro hkept
      exact ⟨h, hflag.mp (hkept.acknowledged rfl)⟩
    · intro htakes
      exact ⟨fun _ => hflag.mpr htakes.2, fun hne => absurd h hne⟩
  · constructor
    · intro hkept
      exact absurd (hkept.refused h) (by decide)
    · intro htakes
      exact absurd htakes.1 h

namespace DebugIp

/-- The client sends `SET_DRIVER_PARAM` for the name with the value `1`, then `GET_DRIVER_PARAM`. -/
def driverParamClient (name : List UInt8) : Srv DebugIp :=
  session idle (only .ctrl
    [.data (setDriverParamCmd ++ 0x20 :: (name ++ 0x20 :: ascii "1") ++ [0]),
      .data (getDriverParamCmd ++ 0x20 :: name ++ [0])]) fun _ => []

end DebugIp

theorem driver_parameter_takes_effect_loopback :
    ∃ reply s1 answer s2, processControlMessage debugIp DebugIp.design
        (DebugIp.driverParamClient hwLoopbackParam) = some (respond reply 256 s1) ∧
      processControlMessage debugIp DebugIp.design (respond reply 256 s1).2.2
        = some (respond answer maxServerParamValueLen s2) ∧
      KeepsPromise hwLoopbackParam (ascii "1") reply answer := by
  have hset : SetsDriverParam (DebugIp.driverParamClient hwLoopbackParam) hwLoopbackParam
      (ascii "1") := by decide +kernel
  have hget : (processControlMessage debugIp DebugIp.design
      (DebugIp.driverParamClient hwLoopbackParam)).any
        fun x => decide (AsksDriverParam x.2.2 hwLoopbackParam) := by decide +kernel
  generalize DebugIp.driverParamClient hwLoopbackParam = s at hset hget ⊢
  obtain ⟨x, hx, hasks⟩ := (Option.any_eq_true _ _).mp hget
  obtain ⟨reply, s1, answer, s2, hreply, hanswer, hiff⟩ := driver_parameter_takes_effect
    DebugIp.configIp DebugIp.design (by decide) hset hx .refl (of_decide_eq_true hasks)
  subst hreply
  exact ⟨reply, s1, answer, s2, hx, hanswer, hiff.mpr ⟨rfl, fun _ => rfl⟩⟩

/-- An unknown parameter is acknowledged, and then not known. -/
theorem driver_parameter_unknown :
    ∃ x s1 answer s2,
      SetsDriverParam (DebugIp.driverParamClient (ascii "FOO")) (ascii "FOO") (ascii "1") ∧
      processControlMessage debugIp DebugIp.design (DebugIp.driverParamClient (ascii "FOO")) = some x ∧
      x = respond setParamCmdRsp 256 s1 ∧ AsksDriverParam x.2.2 (ascii "FOO") ∧
      processControlMessage debugIp DebugIp.design x.2.2
        = some (respond answer maxServerParamValueLen s2) ∧
      answer = getParamCmdFailRsp ∧ ¬ KeepsPromise (ascii "FOO") (ascii "1") setParamCmdRsp answer := by
  have hset : SetsDriverParam (DebugIp.driverParamClient (ascii "FOO")) (ascii "FOO")
      (ascii "1") := by decide +kernel
  have hget : (processControlMessage debugIp DebugIp.design
      (DebugIp.driverParamClient (ascii "FOO"))).any
        fun x => decide (AsksDriverParam x.2.2 (ascii "FOO")) := by decide +kernel
  generalize DebugIp.driverParamClient (ascii "FOO") = s at hset hget ⊢
  obtain ⟨x, hx, hasks⟩ := (Option.any_eq_true _ _).mp hget
  obtain ⟨s1, hack, -⟩ := setsDriverParam_acknowledged (by decide) hset hx
  obtain ⟨answer, s2, hanswer, heq⟩ : ∃ answer s2, processControlMessage debugIp DebugIp.design x.2.2
      = some (respond answer maxServerParamValueLen s2) ∧ _ :=
    asksDriverParam_answer DebugIp.configIp (of_decide_eq_true hasks)
  rw [if_neg (by decide), if_neg (by decide)] at heq
  subst heq
  refine ⟨x, s1, _, s2, hset, hx, hack, of_decide_eq_true hasks, hanswer, rfl, fun hkept => ?_⟩
  exact absurd (hkept.acknowledged rfl) (by decide)

end RemoteDebug
