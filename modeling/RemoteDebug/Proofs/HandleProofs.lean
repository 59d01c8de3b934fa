import RemoteDebug.Server.Handle
import RemoteDebug.Proofs.HandshakeProofs

/-!
# A peer reads the handle that it is given

No text in front of `HANDLE=` has an occurrence of it: the texts of the message are searched, and the
numbers between them have no letter. Behind it stands the handle in decimal.
-/

namespace RemoteDebug

open CString

variable {handle : Nat}

/-! ## Messages that end in a handle -/

theorem zero_notMem_decimal (i : Int) : 0 ∉ decimal i := notMem_decimal (by decide) rfl i

/-- A number has no letter of `HANDLE=`. -/
theorem clear_decimal (i : Int) : Clear handleMsg (decimal i) := by
  have hH : 0x48 ∉ decimal i := notMem_decimal (by decide) rfl i
  exact clear_of_notMem hH (ascii "ANDLE=")

theorem clear_decimal64 (n : UInt64) : Clear handleMsg (decimal64 n.toNat) := by
  rw [decimal64_eq n.toNat_lt]
  exact clear_decimal _

/-- The handle is read from any text that has it at its end and no other `HANDLE=`. -/
theorem parseHandleId_text {front : List UInt8} (hclear : Clear handleMsg front) (h0 : 0 ∉ front)
    (hh : handle < 2 ^ 31) (rest : List UInt8) :
    parseHandleId (front ++ handleMsg ++ ascii (Nat.repr handle) ++ 0 :: rest) = handle := by
  have hnul : 0 ∉ front ++ handleMsg ++ ascii (Nat.repr handle) := by
    intro h
    rcases List.mem_append.mp h with h | h
    · rcases List.mem_append.mp h with h | h
      · exact h0 h
      · exact absurd h (by decide)
    · exact zero_notMem_repr handle h
  have hpos : strstr (front ++ handleMsg ++ ascii (Nat.repr handle) ++ 0 :: rest) handleMsg
      = some front.length := by
    have hhere : findSub handleMsg (handleMsg ++ ascii (Nat.repr handle)) = some 0 :=
      findSub_eq_zero.mpr (List.prefix_append _ _)
    rw [strstr_append_nul hnul, List.append_assoc, findSub_append hclear, hhere]
    simp
  have hlen : (front ++ handleMsg).length = front.length + handleMsgStrlen := by
    rw [List.length_append]
    rfl
  unfold parseHandleId
  rw [hpos]
  dsimp only
  rw [List.append_assoc, List.drop_left' hlen]
  exact atoi_ascii_repr hh rest

/-- A message that is not cut off carries the handle. -/
theorem CarriesHandle.of_text {buffSize : Nat} {front : List UInt8} (hclear : Clear handleMsg front)
    (h0 : 0 ∉ front) (hh : handle < 2 ^ 31)
    (hlen : (front ++ handleMsg ++ ascii (Nat.repr handle)).length < buffSize) :
    CarriesHandle buffSize (snprintf buffSize (front ++ handleMsg ++ ascii (Nat.repr handle)))
      (front ++ handleMsg ++ ascii (Nat.repr handle)) handle := by
  have hwhole : snprintf buffSize (front ++ handleMsg ++ ascii (Nat.repr handle))
      = front ++ handleMsg ++ ascii (Nat.repr handle) := List.take_of_length_le (by omega)
  constructor
  · exact hwhole
  · exact hlen
  · intro rest
    rw [hwhole]
    exact parseHandleId_text hclear h0 hh rest
  · intro rest
    rw [hwhole, parseHandleId_text hclear h0 hh rest]
    omega

/-! ## The two messages -/

/-- The welcome message up to its handle. -/
def serverWelcomeFront (mgmtSupport : Int32) (servBuff : ServerBuffers) : List UInt8 :=
  ascii "Welcome to INTEL_ST_HOST_EP_SERVER: MGMT_SUPPORT=" ++ decimal mgmtSupport.toInt
    ++ ascii " H2T_RX_BUFF_SZ=" ++ decimal64 servBuff.h2tRxBuffSz.toNat
    ++ ascii " MGMT_RX_BUFF_SZ=" ++ decimal64 servBuff.mgmtRxBuffSz.toNat
    ++ ascii " CTRL_RX_BUFF_SZ=" ++ decimal64 servBuff.ctrlRxBuffSz.toNat
    ++ ascii " "

theorem ascii_space_handle : ascii " HANDLE=" = ascii " " ++ handleMsg := by decide

theorem serverWelcomeText_eq (mgmtSupport : Int32) (servBuff : ServerBuffers) (handle : Nat) :
    serverWelcomeText mgmtSupport servBuff handle
      = serverWelcomeFront mgmtSupport servBuff ++ handleMsg ++ ascii (Nat.repr handle) := by
  unfold serverWelcomeText serverWelcomeFront
  rw [ascii_space_handle]
  simp only [List.append_assoc]

/-- The names of the welcome message only look like `HANDLE=` at an `H`, never behind it. -/
theorem clear_serverWelcomeFront (mgmtSupport : Int32) (servBuff : ServerBuffers) :
    Clear handleMsg (serverWelcomeFront mgmtSupport servBuff) := by
  have hwelcome : Clear handleMsg (ascii "Welcome to INTEL_ST_HOST_EP_SERVER: MGMT_SUPPORT=") := by
    decide
  have hh2t : Clear handleMsg (ascii " H2T_RX_BUFF_SZ=") := by decide
  have hmgmt : Clear handleMsg (ascii " MGMT_RX_BUFF_SZ=") := by decide
  have hctrl : Clear handleMsg (ascii " CTRL_RX_BUFF_SZ=") := by decide
  have hspace : Clear handleMsg (ascii " ") := by decide
  have hfirst := (hwelcome.append (clear_decimal mgmtSupport.toInt)).append hh2t
  have hsecond := (hfirst.append (clear_decimal64 servBuff.h2tRxBuffSz)).append hmgmt
  have hthird := (hsecond.append (clear_decimal64 servBuff.mgmtRxBuffSz)).append hctrl
  exact (hthird.append (clear_decimal64 servBuff.ctrlRxBuffSz)).append hspace

theorem zero_notMem_serverWelcomeFront (mgmtSupport : Int32) (servBuff : ServerBuffers) :
    0 ∉ serverWelcomeFront mgmtSupport servBuff := by
  have hwelcome : 0 ∉ ascii "Welcome to INTEL_ST_HOST_EP_SERVER: MGMT_SUPPORT=" := by decide
  have hh2t : 0 ∉ ascii " H2T_RX_BUFF_SZ=" := by decide
  have hmgmt : 0 ∉ ascii " MGMT_RX_BUFF_SZ=" := by decide
  have hctrl : 0 ∉ ascii " CTRL_RX_BUFF_SZ=" := by decide
  have hspace : 0 ∉ ascii " " := by decide
  have hsize (n : Nat) : 0 ∉ decimal64 n := notMem_decimal64 (by decide) rfl n
  unfold serverWelcomeFront
  simp only [List.mem_append, not_or]
  exact ⟨⟨⟨⟨⟨⟨⟨⟨hwelcome, zero_notMem_decimal _⟩, hh2t⟩, hsize _⟩, hmgmt⟩, hsize _⟩, hctrl⟩, hsize _⟩,
    hspace⟩

/-- With the longest numbers the message still leaves room in the buffer. -/
theorem length_serverWelcomeText_lt (mgmtSupport : Int32) (servBuff : ServerBuffers)
    (hh : handle < 2 ^ 31) : (serverWelcomeText mgmtSupport servBuff handle).length < 512 := by
  have hsupport : (decimal mgmtSupport.toInt).length ≤ 11 := by
    have hlo := mgmtSupport.le_toInt
    have hhi := mgmtSupport.toInt_lt
    apply length_decimal (by omega)
    omega
  have hh2t := length_decimal64 servBuff.h2tRxBuffSz.toNat
  have hmgmt := length_decimal64 servBuff.mgmtRxBuffSz.toNat
  have hctrl := length_decimal64 servBuff.ctrlRxBuffSz.toNat
  have hhandle : (ascii (Nat.repr handle)).length ≤ 10 := length_ascii_repr (by omega) (by omega)
  have htexts : (ascii "Welcome to INTEL_ST_HOST_EP_SERVER: MGMT_SUPPORT=").length = 49 ∧
      (ascii " H2T_RX_BUFF_SZ=").length = 16 ∧ (ascii " MGMT_RX_BUFF_SZ=").length = 17 ∧
      (ascii " CTRL_RX_BUFF_SZ=").length = 17 ∧ (ascii " HANDLE=").length = 8 := by decide
  unfold serverWelcomeText
  simp only [List.length_append]
  omega

/-- **Both messages carry the handle**: the welcome message, whatever the management support and the
sizes of the buffers are, and the handle message of each channel. -/
theorem messages_carry_handle (hh : handle ≤ 2147483647) (mgmtSupport : Int32)
    (servBuff : ServerBuffers) :
    CarriesHandle 512 (serverWelcomeMessage 512 mgmtSupport servBuff handle)
      (serverWelcomeText mgmtSupport servBuff handle) handle ∧
    ∀ sock, CarriesHandle 512 (generateExpectedHandleMessage 512 (sockName sock) handle)
      (handleText sock handle) handle := by
  have hh' : handle < 2 ^ 31 := by omega
  constructor
  · have hlen := length_serverWelcomeText_lt mgmtSupport servBuff hh'
    unfold serverWelcomeMessage
    rw [serverWelcomeText_eq] at hlen ⊢
    exact CarriesHandle.of_text (clear_serverWelcomeFront mgmtSupport servBuff)
      (zero_notMem_serverWelcomeFront mgmtSupport servBuff) hh' hlen
  · intro sock
    have hclear : Clear handleMsg (sockName sock ++ ascii " ") := by cases sock <;> decide
    have h0 : 0 ∉ sockName sock ++ ascii " " := by cases sock <;> decide
    have htext : handleText sock handle
        = sockName sock ++ ascii " " ++ handleMsg ++ ascii (Nat.repr handle) := by
      rw [handleText, ascii_space_handle]
      simp only [List.append_assoc]
    have hlen := (length_handleText_lt sock hh').trans (by omega : 64 < 512)
    have hmsg : generateExpectedHandleMessage 512 (sockName sock) handle
        = snprintf 512 (handleText sock handle) := rfl
    rw [hmsg]
    rw [htext] at hlen ⊢
    exact CarriesHandle.of_text hclear h0 hh' hlen

/-- The largest handle, with the smallest `int` and the largest sizes. -/
theorem messages_carry_handle_largest :
    CarriesHandle 512 (serverWelcomeMessage 512 (-2147483648) ⟨-1, -1, -1⟩ 2147483647)
      (serverWelcomeText (-2147483648) ⟨-1, -1, -1⟩ 2147483647) 2147483647 :=
  (messages_carry_handle (le_refl 2147483647) (-2147483648) ⟨-1, -1, -1⟩).1

/-! ## The welcome message of a session -/

/-- A session prints the welcome message of its own buffers. -/
theorem generateServerWelcomeMessage_eq (buffSize : Nat) {mgmtSupport : Nat} {info : DesignInfo}
    (hsupport : mgmtSupport < 2 ^ 31) (hh2t : info.h2tMemSz < 2 ^ 64)
    (hmgmt : info.mgmtMemSz < 2 ^ 64) (handle : Nat) :
    generateServerWelcomeMessage buffSize mgmtSupport info handle
      = serverWelcomeMessage buffSize (Int32.ofNat mgmtSupport)
          ⟨UInt64.ofNat info.h2tMemSz, UInt64.ofNat info.mgmtMemSz, UInt64.ofNat ctrlRxBuffSz⟩
          handle := by
  have hctrl : ctrlRxBuffSz < 2 ^ 64 := by decide
  unfold generateServerWelcomeMessage serverWelcomeMessage serverWelcomeText
  rw [Int32.toInt_ofNat_of_lt hsupport, UInt64.toNat_ofNat_of_lt' hh2t,
    UInt64.toNat_ofNat_of_lt' hmgmt, UInt64.toNat_ofNat_of_lt' hctrl, decimal_natCast]

end RemoteDebug
