import RemoteDebug.Hardware.DebugSession
import RemoteDebug.Hardware.ServerRun

/-!
# Runs with driver parameters

The configuration register as the driver parameters rely on it, and the control messages that set
and ask for a driver parameter.
-/

namespace RemoteDebug

open CString Runs

variable {D : Type} {io : Mmio D}

/-- The loopback field of the configuration register reads back as written, and nothing but a 32-bit
write to the register changes it. The depth of the MGMT channels is fixed. -/
structure ConfigIp (io : Mmio D) where
  loopback : D → Bool
  mgmtDepth : Nat
  read : ∀ d, (io.read32 stDbgIpConfigResetAndLoopback d).1.testBit 1 = loopback d
  write : ∀ v d, loopback (io.write32 stDbgIpConfigResetAndLoopback v d) = v.testBit 1
  depth : ∀ d, (io.read32 stDbgIpConfigMgmtMgmtRspDescDepth d).1 = mgmtDepth
  read32 : ∀ o d, loopback (io.read32 o d).2 = loopback d
  read64 : ∀ o d, loopback (io.read64 o d).2 = loopback d
  write64 : ∀ o v d, loopback (io.write64 o v d) = loopback d
  done : ∀ o v d, o ∈ [stDbgIpT2hDescriptorsDone, stDbgIpMgmtRspDescriptorsDone] →
    loopback (io.write32 o v d) = loopback d

/-- The hardware does not change the field on its own. -/
def ConfigIp.Proceeds (ip : ConfigIp io) (d d' : D) : Prop := ip.loopback d' = ip.loopback d

/-- The next control message is `SET_DRIVER_PARAM name value`. -/
def SetsDriverParam (s : Srv D) (name value : List UInt8) : Prop :=
  (recvControl s).1 = .ok ∧
    cstr (controlMemory s) = setDriverParamCmd ++ 0x20 :: (name ++ 0x20 :: value)

/-- The next control message is `GET_DRIVER_PARAM name`. -/
def AsksDriverParam (s : Srv D) (name : List UInt8) : Prop :=
  (recvControl s).1 = .ok ∧ cstr (controlMemory s) = getDriverParamCmd ++ 0x20 :: name

instance (s : Srv D) (name value : List UInt8) : Decidable (SetsDriverParam s name value) :=
  inferInstanceAs (Decidable (_ ∧ _))

instance (s : Srv D) (name : List UInt8) : Decidable (AsksDriverParam s name) :=
  inferInstanceAs (Decidable (_ ∧ _))

/-- No further `SET_DRIVER_PARAM` is received. -/
def NoDriverSet (s : ServerState D) (a : ServerAction) : Prop :=
  a = .control → ¬ Receives s.srv setDriverParamCmd

/-- The step starts a session in which `init_driver` succeeds, and so asserts the reset. -/
def renews (io : Mmio D) (cfg : Config) (s : ServerState D) (a : ServerAction) : Bool :=
  decide (a = .connect) && decide ((initDriver io cfg.info s.srv.drv s.srv.dev).1 = 0)

/-- The value is taken for `1`. -/
def isOne (value : List UInt8) : Bool := decide (value.headD 0 = 0x31)

/-- What `SET_DRIVER_PARAM` promises with its answer `reply`, where `GET_DRIVER_PARAM` is answered `answer`
later on: what is acknowledged took effect, and a name that cannot be written is refused. -/
structure KeepsPromise (name value reply answer : List UInt8) : Prop where
  acknowledged : reply = setParamCmdRsp → answer = flagDigit (isOne value)
  refused : name ≠ hwLoopbackParam → reply = setParamCmdFailRsp

/-- The parameter is `#HW_LOOPBACK`, and no later session has reset it if it was set to `1`. -/
def TakesEffect (name value : List UInt8) (renewed : Bool) : Prop :=
  name = hwLoopbackParam ∧ (isOne value = true → renewed = false)

namespace DebugIp

/-- The configuration register of the small debug IP; it has no MGMT channels. -/
def configIp : ConfigIp debugIp where
  loopback d := d.config.testBit 1
  mgmtDepth := 0
  read d := rfl
  write v d := by
    show (d.configure v).config.testBit 1 = v.testBit 1
    unfold configure
    split
    · show (v - 1).testBit 1 = v.testBit 1
      simp only [Nat.testBit, Nat.shiftRight_eq_div_pow]
      congr 2
      omega
    · rfl
  depth d := rfl
  read32 _ _ := rfl
  read64 _ _ := rfl
  write64 o v d := by
    simp only [debugIp, push]
    split_ifs <;> rfl
  done o v d ho := by
    simp only [List.mem_cons, List.not_mem_nil, or_false] at ho
    rcases ho with rfl | rfl <;> rfl

end DebugIp

end RemoteDebug
