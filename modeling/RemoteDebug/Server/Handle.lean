import RemoteDebug.Lib.Numeral
import RemoteDebug.Server.Session

/-!
# Handles in messages

`parse_handle_id` of `intel_st_debug_if_common.c`, with which a peer reads the handle from a message,
and `generate_server_welcome_message` for all the values of its arguments.
-/

namespace RemoteDebug

open CString

/-- The sizes in `SERVER_BUFFERS` that the welcome message names. -/
structure ServerBuffers where
  h2tRxBuffSz : UInt64
  mgmtRxBuffSz : UInt64
  ctrlRxBuffSz : UInt64
  deriving DecidableEq

/-- What `generate_server_welcome_message` prints. -/
def serverWelcomeText (mgmtSupport : Int32) (servBuff : ServerBuffers) (handle : Nat) :
    List UInt8 :=
  ascii "Welcome to INTEL_ST_HOST_EP_SERVER: MGMT_SUPPORT=" ++ decimal mgmtSupport.toInt
    ++ ascii " H2T_RX_BUFF_SZ=" ++ decimal64 servBuff.h2tRxBuffSz.toNat
    ++ ascii " MGMT_RX_BUFF_SZ=" ++ decimal64 servBuff.mgmtRxBuffSz.toNat
    ++ ascii " CTRL_RX_BUFF_SZ=" ++ decimal64 servBuff.ctrlRxBuffSz.toNat
    ++ ascii " HANDLE=" ++ ascii (Nat.repr handle)

/-- `generate_server_welcome_message`. -/
def serverWelcomeMessage (buffSize : Nat) (mgmtSupport : Int32) (servBuff : ServerBuffers)
    (handle : Nat) : List UInt8 :=
  snprintf buffSize (serverWelcomeText mgmtSupport servBuff handle)

/-- `HANDLE_MSG`, `handle_msg_strlen`. -/
def handleMsg : List UInt8 := ascii "HANDLE="
def handleMsgStrlen : Nat := 7

/-- `parse_handle_id`. -/
def parseHandleId (buff : List UInt8) : Int :=
  match strstr buff handleMsg with
  | some pos => atoi (buff.drop (pos + handleMsgStrlen))
  | none => -1

/-- The buffer holds the whole text, and the handle is read from it, whatever the buffer holds behind
the NUL. -/
structure CarriesHandle (buffSize : Nat) (msg text : List UInt8) (handle : Nat) : Prop where
  whole : msg = text
  room : text.length < buffSize
  parsed : ∀ rest, parseHandleId (msg ++ 0 :: rest) = handle
  found : ∀ rest, parseHandleId (msg ++ 0 :: rest) ≠ -1

end RemoteDebug
