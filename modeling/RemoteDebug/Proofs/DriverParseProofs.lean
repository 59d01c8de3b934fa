import RemoteDebug.Proofs.DriverParamProofs

/-!
# Proofs: parsing `SET_DRIVER_PARAM`

`set_driver_parameter` takes the text up to the next space for the name and what follows it for the
value, but does not look whether there is a space: without one it calls `set_param` with the pointer
`NULL + 1` and acknowledges the message.
-/

namespace RemoteDebug

open Bytes CString

variable {D : Type} {io : Mmio D} {cfg : Config} {s : Srv D} {msg : List UInt8}

/-- The calls of the `set_param` callback: name and value, `none` for an invalid pointer. -/
def setParamCalls (log : List Event) : List (List UInt8 × Option (List UInt8)) :=
  log.filterMap fun e =>
    match e with
    | .setParam param val => some (param, val)
    | _ => none

/-- The message is the command, a separator, the name, a space and the value. -/
def SetsParam (msg name value : List UInt8) : Prop :=
  0x20 ∉ name ∧ ∃ separator, msg = setDriverParamCmd ++ separator :: (name ++ 0x20 :: value)

/-- The message, with the bytes `r` behind its NUL, is parsed exactly: `set_param` is called once for a
message of the right form; any other message is refused. An invalid pointer is never used. -/
structure ParsesExactly (io : Mmio D) (cfg : Config) (msg r : List UInt8) (s : Srv D) : Prop where
  calls : ∀ name value, SetsParam msg name value →
    ∃ x, dispatchControl io cfg (msg ++ 0 :: r) s = some x ∧
      setParamCalls x.2.2.log = setParamCalls s.log ++ [(name.take 32, some value)]
  refuses : (∀ name value, ¬ SetsParam msg name value) →
    dispatchControl io cfg (msg ++ 0 :: r) s = some (respond setParamCmdFailRsp 256 s)
  pointers : ∃ x calls, dispatchControl io cfg (msg ++ 0 :: r) s = some x ∧
    setParamCalls x.2.2.log = setParamCalls s.log ++ calls ∧ ∀ call ∈ calls, call.2 ≠ none

/-- There is a space behind the byte that follows the command. -/
def SpaceFollows (msg : List UInt8) : Prop := 0x20 ∈ msg.drop setDriverParamCmdLen

theorem spaceFollows_iff (hcmd : setDriverParamCmd <+: msg) :
    SpaceFollows msg ↔ ∃ name value, SetsParam msg name value := by
  obtain ⟨t, rfl⟩ := hcmd
  have hlen : setDriverParamCmdLen = setDriverParamCmd.length + 1 := rfl
  unfold SpaceFollows SetsParam
  rw [hlen, List.drop_length_add_append]
  constructor
  · intro hspace
    cases t with
    | nil => simp at hspace
    | cons separator t =>
      obtain ⟨name, value, ht, hname⟩ := List.eq_append_cons_of_mem hspace
      refine ⟨name, value, hname, separator, ?_⟩
      rw [← ht]
      rfl
  · rintro ⟨name, value, -, separator, ht⟩
    obtain rfl := List.append_cancel_left ht
    simp

theorem setParamCalls_append (log log' : List Event) :
    setParamCalls (log ++ log') = setParamCalls log ++ setParamCalls log' := List.filterMap_append

/-- A response calls nothing. -/
theorem respond_setParamCalls (resp : List UInt8) (maxLen : Nat) (s : Srv D) :
    setParamCalls (respond resp maxLen s).2.2.log = setParamCalls s.log := by
  have hlog : ∃ bs, (respond resp maxLen s).2.2.log = s.log ++ [.sent .ctrl bs] := ⟨_, rfl⟩
  obtain ⟨bs, hbs⟩ := hlog
  rw [hbs, setParamCalls_append]
  exact List.append_nil _

/-- Unless it crashes, the message leads to one call. -/
theorem dispatchControl_calls (hnul : 0 ∉ msg) (hcmd : setDriverParamCmd <+: msg) (r : List UInt8)
    {x : ReturnCode × Bool × Srv D} (h : dispatchControl io cfg (msg ++ 0 :: r) s = some x) :
    setParamCalls x.2.2.log = setParamCalls s.log ++
      [(cstr (splitDriverParam ((msg ++ 0 :: r).drop setDriverParamCmdLen)).1,
        (splitDriverParam ((msg ++ 0 :: r).drop setDriverParamCmdLen)).2.map cstr)] := by
  have hcmd' : setDriverParamCmd <+: cstr (msg ++ 0 :: r) := by
    rw [cstr_append_nul hnul]
    exact hcmd
  rw [dispatchControl_setDriverParam io cfg hcmd'] at h
  obtain ⟨y, hy, rfl⟩ := Option.map_eq_some_iff.mp h
  obtain ⟨d, -, rfl⟩ := Option.map_eq_some_iff.mp hy
  rw [respond_setParamCalls]
  exact setParamCalls_append _ _

/-- A message of the right form leads to the call that it asks for. -/
theorem setsParam_calls (io : Mmio D) (cfg : Config) (s : Srv D) (hnul : 0 ∉ msg)
    {name value : List UInt8} (hmsg : SetsParam msg name value) (r : List UInt8) :
    ∃ x, dispatchControl io cfg (msg ++ 0 :: r) s = some x ∧
      setParamCalls x.2.2.log = setParamCalls s.log ++ [(name.take 32, some value)] := by
  obtain ⟨hname, separator, rfl⟩ := hmsg
  have hrest : 0 ∉ name ++ 0x20 :: value := fun h0 =>
    hnul (List.mem_append_right _ (List.mem_cons_of_mem _ h0))
  have hcmd : setDriverParamCmd <+: setDriverParamCmd ++ separator :: (name ++ 0x20 :: value) :=
    List.prefix_append _ _
  have hmem : cstr ((setDriverParamCmd ++ separator :: (name ++ 0x20 :: value) ++ 0 :: r).drop
      setDriverParamCmdLen) = name ++ 0x20 :: value := by
    rw [show setDriverParamCmdLen = setDriverParamCmd.length + 1 from rfl, List.append_assoc,
      List.drop_length_add_append]
    exact cstr_append_nul hrest r
  obtain ⟨hbuff, hvalue⟩ := splitDriverParam_space hname hmem
  obtain ⟨x, hx⟩ : ∃ x, dispatchControl io cfg
      (setDriverParamCmd ++ separator :: (name ++ 0x20 :: value) ++ 0 :: r) s = some x := by
    have hcmd' : setDriverParamCmd <+:
        cstr (setDriverParamCmd ++ separator :: (name ++ 0x20 :: value) ++ 0 :: r) := by
      rw [cstr_append_nul hnul]
      exact hcmd
    rw [dispatchControl_setDriverParam io cfg hcmd', setDriverParameter,
      setDriverParam_split hname hmem]
    exact ⟨_, rfl⟩
  refine ⟨x, hx, ?_⟩
  rw [dispatchControl_calls hnul hcmd r hx, hbuff, hvalue]
  rfl

/-- A message without a space behind the name is not refused. -/
theorem not_refused (hnul : 0 ∉ msg) (hcmd : setDriverParamCmd <+: msg) (r : List UInt8) :
    dispatchControl io cfg (msg ++ 0 :: r) s ≠ some (respond setParamCmdFailRsp 256 s) := by
  intro h
  have hcalls := dispatchControl_calls hnul hcmd r h
  rw [respond_setParamCalls] at hcalls
  cases List.self_eq_append_right.mp hcalls

/-- **Parsing**: exactly the messages with a space behind the name are parsed as they should be. -/
theorem parses_exactly_iff (io : Mmio D) (cfg : Config) (hnul : 0 ∉ msg)
    (hcmd : setDriverParamCmd <+: msg) (r : List UInt8) (s : Srv D) :
    ParsesExactly io cfg msg r s ↔ SpaceFollows msg := by
  rw [spaceFollows_iff hcmd]
  constructor
  · intro h
    by_contra hform
    refine not_refused hnul hcmd r (h.refuses ?_)
    intro name value hmsg
    exact hform ⟨name, value, hmsg⟩
  · rintro ⟨name, value, hmsg⟩
    constructor
    · intro name' value' hmsg'
      exact setsParam_calls io cfg s hnul hmsg' r
    · intro hform
      exact absurd hmsg (hform name value)
    · obtain ⟨x, hx, hcalls⟩ := setsParam_calls io cfg s hnul hmsg r
      refine ⟨x, _, hx, hcalls, ?_⟩
      intro call hcall
      rw [List.mem_singleton.mp hcall]
      exact Option.some_ne_none _

theorem parses_exactly_iff_loopback :
    ParsesExactly debugIp DebugIp.design (ascii "SET_DRIVER_PARAM #HW_LOOPBACK 1") []
        (DebugIp.session DebugIp.idle (fun _ => []) fun _ => [])
      ↔ SpaceFollows (ascii "SET_DRIVER_PARAM #HW_LOOPBACK 1") :=
  parses_exactly_iff debugIp DebugIp.design (by decide) (by decide) [] _

/-- Without a value the message is acknowledged, and `set_param` gets an invalid pointer. -/
theorem parses_without_value :
    ¬ ParsesExactly debugIp DebugIp.design (ascii "SET_DRIVER_PARAM FOO") []
        (DebugIp.session DebugIp.idle (fun _ => []) fun _ => []) := by
  have hcmd : setDriverParamCmd <+: ascii "SET_DRIVER_PARAM FOO" := by decide
  intro h
  refine not_refused (by decide) hcmd [] (h.refuses ?_)
  intro name value hform
  have hspace : SpaceFollows (ascii "SET_DRIVER_PARAM FOO") :=
    (spaceFollows_iff hcmd).mpr ⟨name, value, hform⟩
  revert hspace
  unfold SpaceFollows
  decide

end RemoteDebug
