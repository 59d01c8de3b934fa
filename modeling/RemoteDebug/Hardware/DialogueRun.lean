import RemoteDebug.Lib.PrefixCode
import RemoteDebug.Server.Session

/-!
# The dialogue on the control socket

What a client reads from its control socket over a whole session: the greeting, and behind it one answer for
each control message that the server has read, in the order of the messages.
-/

namespace RemoteDebug

open Bytes CString Script PrefixCode

variable {D : Type}

/-- What has been sent on a socket. -/
def sentOn (sock : Sock) (log : List Event) : List UInt8 :=
  log.flatMap fun | .sent sock' bs => if sock' = sock then bs else [] | _ => []

/-- A text without a NUL. -/
structure Text where
  chars : List UInt8
  noNul : 0 ∉ chars

/-- The text as it is sent. -/
def Text.bytes (text : Text) : List UInt8 := text.chars ++ [0]

/-- The answers of `get_parameter`. -/
def paramTexts (info : DesignInfo) : List (List UInt8) :=
  [ascii "0", ascii "1", decimal64 info.h2tMemSz, decimal64 info.mgmtMemSz, decimal64 ctrlRxBuffSz,
    getParamCmdFailRsp]

/-- What may be answered to a message. -/
inductive Answers (info : DesignInfo) : List UInt8 → List UInt8 → Prop
  | getParam {msg answer : List UInt8} (hmsg : getParamCmd <+: msg) (hanswer : answer ∈ paramTexts info) :
      Answers info msg answer
  | ping : Answers info pingCmd pingCmdRsp
  | disconnect : Answers info disconnectCmd disconnectCmdRsp
  | setParam {msg answer : List UInt8} (hmsg : setParamCmd <+: msg)
      (hanswer : answer = setParamCmdRsp ∨ answer = setParamCmdFailRsp) : Answers info msg answer
  | setDriverParam {msg : List UInt8} (hmsg : setDriverParamCmd <+: msg) :
      Answers info msg setParamCmdRsp
  | getDriverParam {msg answer : List UInt8} (hmsg : getDriverParamCmd <+: msg)
      (hanswer : answer = ascii "0" ∨ answer = ascii "1" ∨ answer = getParamCmdFailRsp) :
      Answers info msg answer
  | unrecognized {msg : List UInt8}
      (hparam : ∀ cmd ∈ [getParamCmd, setParamCmd, setDriverParamCmd, getDriverParamCmd], ¬ cmd <+: msg)
      (hping : msg ≠ pingCmd) (hdisconnect : msg ≠ disconnectCmd) : Answers info msg unrecognizedCmdRsp

/-- The messages are read one after the other. Each is the text up to the first NUL of what one reception
has delivered. -/
inductive ReadsMessages : List RecvEvent → List (List UInt8) → List RecvEvent → Prop
  | nil (rx : List RecvEvent) : ReadsMessages rx [] rx
  | cons {rx rx' rx'' : List RecvEvent} {bs : List UInt8} {msgs : List (List UInt8)}
      (hrecv : socketRecvUntilNullReached rx ctrlRxBuffSz = (.ok, bs, rx'))
      (hrest : ReadsMessages rx' msgs rx'') : ReadsMessages rx (cstr bs :: msgs) rx''

/-- Each message has its answer, in the order of the messages, and nothing else has been sent. -/
def Answered (info : DesignInfo) (msgs : List (List UInt8)) (answers : List Text) (rest : List UInt8) :
    Prop :=
  List.Forall₂ (fun msg answer => Answers info msg answer.chars) msgs answers ∧ rest = []

/-- The answer to the last message has broken off behind `rest`. -/
def BreaksOff (info : DesignInfo) (msgs : List (List UInt8)) (answers : List Text) (rest : List UInt8) :
    Prop :=
  ∃ msgs' msg answer, msgs = msgs' ++ [msg] ∧ Answered info msgs' answers [] ∧
    Answers info msg (Text.chars answer) ∧ rest <+: answer.bytes ∧ rest ≠ answer.bytes

/-- From `s` to `s'` the server has read the messages `msgs` from its control socket and has sent `answers`,
and behind them `rest`. -/
structure Talks (info : DesignInfo) (msgs : List (List UInt8)) (answers : List Text) (rest : List UInt8)
    (s s' : Srv D) : Prop where
  bytes : sentOn .ctrl s'.log = sentOn .ctrl s.log ++ (answers.flatMap Text.bytes ++ rest)
  replies : Answered info msgs answers rest ∨ BreaksOff info msgs answers rest
  /-- Nothing is read behind `DISCONNECT`. -/
  last : disconnectCmd ∉ msgs.dropLast
  accept : AllAccept (s.client .ctrl).tx → AllAccept (s'.client .ctrl).tx ∧ Answered info msgs answers rest

/-- The welcome message of a session, as `connect_client` sends it. -/
def welcomeBytes (cfg : Config) (mgmtSupport handle : Nat) : List UInt8 :=
  generateServerWelcomeMessage ctrlTxBuffSz mgmtSupport cfg.info handle ++ [0]

/-- From `s` to `s'` a session with the handshake has gone by. `c` is its control connection; `rx` is what is
left of its script behind the handle message. -/
structure ControlSession (cfg : Config) (s s' : Srv D) (c : Socket) (msgs : List (List UInt8))
    (answers : List Text) (rest : List UInt8) : Prop where
  accepted : s.env.accepts.head? = some (some c)
  messages : ∃ hello rx rx', socketRecvUntilNullReached c.rx maxHandleRsp = (.ok, hello, rx) ∧
    ReadsMessages rx msgs rx'
  bytes : ∃ mgmtSupport, sentOn .ctrl s'.log = sentOn .ctrl s.log ++
    (welcomeBytes cfg mgmtSupport (s.env.handles.headD 1) ++ message readyMsg readyMsgLen ++
      message readyMsg readyMsgLen ++ (answers.flatMap Text.bytes ++ rest))
  replies : Answered cfg.info msgs answers rest ∨ BreaksOff cfg.info msgs answers rest
  last : disconnectCmd ∉ msgs.dropLast
  accept : AllAccept c.tx → Answered cfg.info msgs answers rest
  unique : ∀ answers' rest', Reads Text.bytes answers' rest' (answers.flatMap Text.bytes ++ rest) →
    answers' = answers ∧ rest' = rest

end RemoteDebug
