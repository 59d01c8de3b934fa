import Mathlib.Data.List.Forall2
import RemoteDebug.Lib.Numeral
import RemoteDebug.Proofs.ControlProofs
import RemoteDebug.Proofs.HandshakeProofs
import RemoteDebug.Proofs.MainLoopProofs
import RemoteDebug.Proofs.UnusedProofs

/-!
# Proofs: the dialogue on the control socket

One step is a call of `process_control_message`: it reads one message and sends one answer to it. All other
handlers leave the control socket alone.
-/

namespace RemoteDebug

open Bytes CString Script PrefixCode

variable {D : Type} {io : Mmio D} {cfg : Config} {info : DesignInfo} {s s' s'' : Srv D}
  {msgs msgs' : List (List UInt8)} {answers answers' : List Text} {rest rest' : List UInt8} {lasts : Prop}

/-! ## Texts -/

/-- **Texts** are self-delimiting: each ends at its NUL. -/
theorem prefixFree_texts : PrefixFree Text.bytes :=
  prefixFree_of_terminator Text.chars 0 Text.noNul fun x y h => by
    cases x
    cases y
    cases h
    rfl

theorem snprintf_decimal64 (n : Nat) : snprintf ctrlTxBuffSz (decimal64 n) = decimal64 n := by
  have hlen := length_decimal64 n
  have hroom : 20 ≤ ctrlTxBuffSz - 1 := by decide
  exact List.take_of_length_le (by omega)

/-- A response that is not cut off goes out with its NUL. -/
theorem responseBytes_eq {resp : List UInt8} {maxLen : Nat} (h : resp.length ≤ maxLen) :
    responseBytes resp maxLen = resp ++ [0] := by
  unfold responseBytes message
  rw [Nat.min_eq_right h]
  exact List.take_of_length_le (by simp)

/-! ## Answers -/

theorem getParameter_text (cfg : Config) (conn : ServerConn) (paramName : List UInt8) :
    getParameter cfg conn paramName ∈ paramTexts cfg.info := by
  have hflag (b : Bool) : flagDigit b ∈ paramTexts cfg.info := by
    cases b with
    | false => exact List.mem_cons_self
    | true => exact List.mem_cons_of_mem _ List.mem_cons_self
  unfold getParameter
  simp only [snprintf_decimal64]
  split_ifs
  · exact hflag _
  · simp [paramTexts]
  · simp [paramTexts]
  · simp [paramTexts]
  · exact hflag _
  · exact hflag _
  · simp [paramTexts]

theorem paramTexts_short {resp : List UInt8} (h : resp ∈ paramTexts info) :
    0 ∉ resp ∧ resp.length ≤ maxServerParamValueLen := by
  have hnumber (n : Nat) : 0 ∉ decimal64 n ∧ (decimal64 n).length ≤ maxServerParamValueLen :=
    ⟨notMem_decimal64 (by decide) rfl n, (length_decimal64 n).trans (by decide)⟩
  simp only [paramTexts, List.mem_cons, List.not_mem_nil, or_false] at h
  rcases h with rfl | rfl | rfl | rfl | rfl | rfl
  · decide
  · decide
  · exact hnumber _
  · exact hnumber _
  · exact hnumber _
  · decide

theorem setParameter_text (paramName : List UInt8) (s : Srv D) :
    ((setParameter paramName s).1 = setParamCmdRsp ∨ (setParameter paramName s).1 = setParamCmdFailRsp) ∧
      0 ∉ (setParameter paramName s).1 ∧ (setParameter paramName s).1.length ≤ 128 := by
  have htext : (setParameter paramName s).1 = setParamCmdRsp ∨
      (setParameter paramName s).1 = setParamCmdFailRsp := by
    unfold setParameter
    dsimp only
    split_ifs <;> simp
  refine ⟨htext, ?_⟩
  rcases htext with heq | heq
  · rw [heq]
    decide
  · rw [heq]
    decide

theorem getDriverParameter_text (io : Mmio D) (paramName : List UInt8) (s : Srv D) :
    ((getDriverParameter io paramName s).1 = ascii "0" ∨ (getDriverParameter io paramName s).1 = ascii "1" ∨
      (getDriverParameter io paramName s).1 = getParamCmdFailRsp) ∧
      0 ∉ (getDriverParameter io paramName s).1 ∧
      (getDriverParameter io paramName s).1.length ≤ maxServerParamValueLen := by
  have htext : (getDriverParameter io paramName s).1 = ascii "0" ∨
      (getDriverParameter io paramName s).1 = ascii "1" ∨
      (getDriverParameter io paramName s).1 = getParamCmdFailRsp := by
    unfold getDriverParameter getDriverParam
    dsimp only
    split_ifs <;> simp
  refine ⟨htext, ?_⟩
  rcases htext with heq | heq | heq
  · rw [heq]
    decide
  · rw [heq]
    decide
  · rw [heq]
    decide

/-- The handling of the message `msg`: an answer is sent on the control socket, and if the session lasts it
has gone out whole. -/
def AnswerSent (info : DesignInfo) (msg : List UInt8) (s : Srv D) (x : ReturnCode × Bool × Srv D) : Prop :=
  ∃ (answer : Text) (s₁ : Srv D), Answers info msg answer.chars ∧ Unused .ctrl s s₁ ∧
    x.2.2 = (s₁.sendAll .ctrl answer.bytes).2 ∧
    (x.1 ≠ .failure → x.2.1 = false → (s₁.sendAll .ctrl answer.bytes).1 = .ok ∧ msg ≠ disconnectCmd)

theorem sendAll_ok_of_ne {sock : Sock} {bs : List UInt8} (h : (s.sendAll sock bs).1 ≠ .failure) :
    (s.sendAll sock bs).1 = .ok := by
  rcases socketSendAll_spec bs (s.client sock).tx with ⟨hok, -⟩ | ⟨hfail, -⟩
  · exact hok
  · exact absurd hfail h

theorem answerSent_respond {msg resp : List UInt8} {maxLen : Nat} {s₁ : Srv D} (hunused : Unused .ctrl s s₁)
    (hanswer : Answers info msg resp) (hnul : 0 ∉ resp) (hlen : resp.length ≤ maxLen)
    (hmsg : msg ≠ disconnectCmd) : AnswerSent info msg s (respond resp maxLen s₁) := by
  refine ⟨⟨resp, hnul⟩, s₁, hanswer, hunused, ?_, ?_⟩
  · unfold respond
    rw [responseBytes_eq hlen]
    rfl
  · unfold respond
    rw [responseBytes_eq hlen]
    intro hok _
    exact ⟨sendAll_ok_of_ne hok, hmsg⟩

/-- No other command starts `DISCONNECT`. -/
theorem ne_disconnect_of_command {cmd msg : List UInt8} (h : cmd <+: msg)
    (hcmd : cmd ∈ [getParamCmd, setParamCmd, setDriverParamCmd, getDriverParamCmd]) :
    msg ≠ disconnectCmd := by
  rintro rfl
  revert h
  simp only [List.mem_cons, List.not_mem_nil, or_false] at hcmd
  rcases hcmd with rfl | rfl | rfl | rfl <;> decide

theorem dispatchControl_answers {cmd : List UInt8} {x : ReturnCode × Bool × Srv D}
    (h : dispatchControl io cfg cmd s = some x) : AnswerSent cfg.info (cstr cmd) s x := by
  unfold dispatchControl at h
  by_cases hget : strstr cmd getParamCmd = some 0
  · rw [if_pos hget] at h
    obtain rfl := Option.some.inj h
    have hmsg := strstr_eq_zero.mp hget
    have htext := getParameter_text cfg s.conn (cmd.drop getParamCmdLen)
    obtain ⟨hnul, hlen⟩ := paramTexts_short htext
    exact answerSent_respond (.refl .ctrl s) (.getParam hmsg htext) hnul hlen
      (ne_disconnect_of_command hmsg (by simp))
  rw [if_neg hget] at h
  by_cases hping : strncmpEq pingCmdLen cmd pingCmd = true
  · rw [if_pos hping] at h
    obtain rfl := Option.some.inj h
    have hmsg : cstr cmd = pingCmd := (strncmpEq_iff_cstr (by decide) (by decide)).mp hping
    rw [hmsg]
    refine ⟨⟨pingCmdRsp, by decide⟩, s, .ping, .refl .ctrl s, rfl, ?_⟩
    intro hok _
    exact ⟨sendAll_ok_of_ne hok, by decide⟩
  rw [if_neg hping] at h
  by_cases hdisc : strncmpEq disconnectCmdLen cmd disconnectCmd = true
  · rw [if_pos hdisc] at h
    obtain rfl := Option.some.inj h
    have hmsg : cstr cmd = disconnectCmd := (strncmpEq_iff_cstr (by decide) (by decide)).mp hdisc
    rw [hmsg]
    exact ⟨⟨disconnectCmdRsp, by decide⟩, s, .disconnect, .refl .ctrl s, rfl, nofun⟩
  rw [if_neg hdisc] at h
  by_cases hset : strstr cmd setParamCmd = some 0
  · rw [if_pos hset] at h
    obtain rfl := Option.some.inj h
    have hmsg := strstr_eq_zero.mp hset
    obtain ⟨htext, hnul, hlen⟩ := setParameter_text (cmd.drop setParamCmdLen) s
    exact answerSent_respond (unused_setParameter io _ s) (.setParam hmsg htext) hnul hlen
      (ne_disconnect_of_command hmsg (by simp))
  rw [if_neg hset] at h
  by_cases hsetDriver : strstr cmd setDriverParamCmd = some 0
  · rw [if_pos hsetDriver] at h
    obtain ⟨y, hy, rfl⟩ := Option.map_eq_some_iff.mp h
    have hmsg := strstr_eq_zero.mp hsetDriver
    have htext : y.1 = setParamCmdRsp := by
      obtain ⟨d, -, rfl⟩ := Option.map_eq_some_iff.mp hy
      rfl
    rw [htext]
    exact answerSent_respond (unused_setDriverParameter hy) (.setDriverParam hmsg) (by decide) (by decide)
      (ne_disconnect_of_command hmsg (by simp))
  rw [if_neg hsetDriver] at h
  by_cases hgetDriver : strstr cmd getDriverParamCmd = some 0
  · rw [if_pos hgetDriver] at h
    obtain rfl := Option.some.inj h
    have hmsg := strstr_eq_zero.mp hgetDriver
    obtain ⟨htext, hnul, hlen⟩ := getDriverParameter_text io (cmd.drop getDriverParamCmdLen) s
    exact answerSent_respond (unused_getDriverParameter io _ s) (.getDriverParam hmsg htext) hnul hlen
      (ne_disconnect_of_command hmsg (by simp))
  rw [if_neg hgetDriver] at h
  obtain rfl := Option.some.inj h
  have hparam : ∀ c ∈ [getParamCmd, setParamCmd, setDriverParamCmd, getDriverParamCmd],
      ¬ c <+: cstr cmd := by
    intro c hc hpre
    simp only [List.mem_cons, List.not_mem_nil, or_false] at hc
    rcases hc with rfl | rfl | rfl | rfl
    · exact hget (strstr_eq_zero.mpr hpre)
    · exact hset (strstr_eq_zero.mpr hpre)
    · exact hsetDriver (strstr_eq_zero.mpr hpre)
    · exact hgetDriver (strstr_eq_zero.mpr hpre)
  have hnping : cstr cmd ≠ pingCmd := fun hc => hping ((strncmpEq_iff_cstr (by decide) (by decide)).mpr hc)
  have hndisc : cstr cmd ≠ disconnectCmd := fun hc =>
    hdisc ((strncmpEq_iff_cstr (by decide) (by decide)).mpr hc)
  refine ⟨⟨unrecognizedCmdRsp, by decide⟩, s, .unrecognized hparam hnping hndisc, .refl .ctrl s, rfl, ?_⟩
  intro hok _
  exact ⟨sendAll_ok_of_ne hok, hndisc⟩

/-! ## Parts of a session -/

/-- From `s` to `s'` messages have been read and answered. If the session lasts, each has its answer and none
is `DISCONNECT`. -/
def TalksOn (info : DesignInfo) (lasts : Prop) (s s' : Srv D) : Prop :=
  ∃ msgs answers rest rx, Talks info msgs answers rest s s' ∧
    ReadsMessages (s.client .ctrl).rx msgs rx ∧
    (lasts → (s'.client .ctrl).rx = rx ∧ Answered info msgs answers rest ∧ disconnectCmd ∉ msgs)

theorem answered_nil (info : DesignInfo) : Answered info [] [] [] := ⟨.nil, rfl⟩

theorem Answered.append (h : Answered info msgs answers []) (h' : Answered info msgs' answers' rest) :
    Answered info (msgs ++ msgs') (answers ++ answers') rest :=
  ⟨List.rel_append h.1 h'.1, h'.2⟩

theorem BreaksOff.behind (h : Answered info msgs answers []) (h' : BreaksOff info msgs' answers' rest) :
    BreaksOff info (msgs ++ msgs') (answers ++ answers') rest := by
  obtain ⟨msgs₁, msg, answer, rfl, hfirst, hlast⟩ := h'
  exact ⟨msgs ++ msgs₁, msg, answer, (List.append_assoc msgs msgs₁ [msg]).symm, h.append hfirst, hlast⟩

theorem ReadsMessages.append {rx rx' rx'' : List RecvEvent} (h : ReadsMessages rx msgs rx')
    (h' : ReadsMessages rx' msgs' rx'') : ReadsMessages rx (msgs ++ msgs') rx'' := by
  induction h with
  | nil rx => exact h'
  | cons hrecv _ ih => exact .cons hrecv (ih h')

theorem notMem_dropLast_append {msg : List UInt8} (h : msg ∉ msgs) (h' : msg ∉ msgs'.dropLast) :
    msg ∉ (msgs ++ msgs').dropLast := by
  intro hmem
  by_cases hnil : msgs' = []
  · rw [hnil, List.append_nil] at hmem
    exact h (List.dropLast_subset msgs hmem)
  · rw [List.dropLast_append_of_ne_nil hnil] at hmem
    rcases List.mem_append.mp hmem with hmem | hmem
    · exact h hmem
    · exact h' hmem

theorem Unused.talks (h : Unused .ctrl s s') : Talks info [] [] [] s s' := by
  refine ⟨?_, .inl (answered_nil info), List.not_mem_nil, ?_⟩
  · rw [h.bytes]
    exact (List.append_nil _).symm
  · intro hacc
    exact ⟨h.tx ▸ hacc, answered_nil info⟩

theorem Talks.trans (h : Talks info msgs answers [] s s') (hall : Answered info msgs answers [])
    (hmsgs : disconnectCmd ∉ msgs) (h' : Talks info msgs' answers' rest s' s'') :
    Talks info (msgs ++ msgs') (answers ++ answers') rest s s'' := by
  refine ⟨?_, ?_, notMem_dropLast_append hmsgs h'.last, ?_⟩
  · rw [h'.bytes, h.bytes, List.append_nil, List.flatMap_append]
    simp only [List.append_assoc]
  · rcases h'.replies with hreplies | hreplies
    · exact .inl (hall.append hreplies)
    · exact .inr (hreplies.behind hall)
  · intro hacc
    obtain ⟨hacc', hreplies⟩ := h'.accept (h.accept hacc).1
    exact ⟨hacc', hall.append hreplies⟩

theorem Unused.talksOn (h : Unused .ctrl s s') : TalksOn info lasts s s' :=
  ⟨[], [], [], _, h.talks, .nil _, fun _ => ⟨h.rx, answered_nil info, List.not_mem_nil⟩⟩

/-- What follows a part behind which the session lasts. -/
theorem TalksOn.then {lasts' : Prop} (h : TalksOn info lasts s s') (hlasts : lasts)
    (h' : TalksOn info lasts' s' s'') : TalksOn info lasts' s s'' := by
  obtain ⟨msgs, answers, rest, rx, htalks, hreads, hon⟩ := h
  obtain ⟨msgs', answers', rest', rx', htalks', hreads', hon'⟩ := h'
  obtain ⟨hrx, hall, hmsgs⟩ := hon hlasts
  obtain rfl := hall.2
  rw [hrx] at hreads'
  refine ⟨msgs ++ msgs', answers ++ answers', rest', rx', htalks.trans hall hmsgs htalks',
    hreads.append hreads', ?_⟩
  intro hlasts'
  obtain ⟨hrx', hall', hmsgs'⟩ := hon' hlasts'
  refine ⟨hrx', hall.append hall', ?_⟩
  intro hmem
  rcases List.mem_append.mp hmem with hmem | hmem
  · exact hmsgs hmem
  · exact hmsgs' hmem

theorem TalksOn.mono {lasts' : Prop} (h : TalksOn info lasts s s') (hlasts : lasts' → lasts) :
    TalksOn info lasts' s s' := by
  obtain ⟨msgs, answers, rest, rx, htalks, hreads, hon⟩ := h
  exact ⟨msgs, answers, rest, rx, htalks, hreads, fun h => hon (hlasts h)⟩

/-- A part behind that does not use the control socket. -/
theorem TalksOn.unused (h : TalksOn info lasts s s') (h' : Unused .ctrl s' s'') :
    TalksOn info lasts s s'' := by
  obtain ⟨msgs, answers, rest, rx, htalks, hreads, hon⟩ := h
  refine ⟨msgs, answers, rest, rx, ⟨h'.bytes.trans htalks.bytes, htalks.replies, htalks.last, ?_⟩,
    hreads, ?_⟩
  · intro hacc
    obtain ⟨hacc', hall⟩ := htalks.accept hacc
    exact ⟨h'.tx ▸ hacc', hall⟩
  · intro hlasts
    obtain ⟨hrx, hrest⟩ := hon hlasts
    exact ⟨h'.rx.trans hrx, hrest⟩

/-! ## Sending -/

theorem sentOn_sendAll (sock : Sock) (bs : List UInt8) (s : Srv D) :
    sentOn sock (s.sendAll sock bs).2.log =
      sentOn sock s.log ++ (socketSendAll bs (s.client sock).tx).2.1 := by
  show sentOn sock (s.log ++ [.sent sock (socketSendAll bs (s.client sock).tx).2.1]) = _
  rw [sentOn_append]
  simp [sentOn]

theorem tx_sendAll (sock : Sock) (bs : List UInt8) (s : Srv D) :
    ((s.sendAll sock bs).2.client sock).tx = (socketSendAll bs (s.client sock).tx).2.2 := by
  simp [Srv.sendAll, Srv.setTx, Srv.record]

/-- One message is read and one answer sent. -/
theorem talksOn_answer {bs : List UInt8} {rx : List RecvEvent} {answer : Text} {s₁ : Srv D}
    (hrecv : socketRecvUntilNullReached (s.client .ctrl).rx ctrlRxBuffSz = (.ok, bs, rx))
    (hanswer : Answers info (cstr bs) answer.chars) (hunused : Unused .ctrl s s₁)
    (hlog : s'.log = (s₁.sendAll .ctrl answer.bytes).2.log)
    (htx : (s'.client .ctrl).tx = ((s₁.sendAll .ctrl answer.bytes).2.client .ctrl).tx)
    (hrx : (s'.client .ctrl).rx = rx)
    (hlasts : lasts → (s₁.sendAll .ctrl answer.bytes).1 = .ok ∧ cstr bs ≠ disconnectCmd) :
    TalksOn info lasts s s' := by
  have hbytes : sentOn .ctrl s'.log =
      sentOn .ctrl s.log ++ (socketSendAll answer.bytes (s₁.client .ctrl).tx).2.1 := by
    rw [hlog, sentOn_sendAll, hunused.bytes]
  have hreads : ReadsMessages (s.client .ctrl).rx [cstr bs] rx := .cons hrecv (.nil rx)
  have hone : Answered info [cstr bs] [answer] [] := ⟨.cons hanswer .nil, rfl⟩
  have haccept (hacc : AllAccept (s.client .ctrl).tx) :
      (socketSendAll answer.bytes (s₁.client .ctrl).tx).1 = .ok ∧ AllAccept (s'.client .ctrl).tx := by
    rw [htx, tx_sendAll]
    rw [← hunused.tx] at hacc
    exact socketSendAll_accept answer.bytes hacc
  rcases socketSendAll_spec answer.bytes (s₁.client .ctrl).tx with ⟨hok, hsent⟩ | ⟨hfail, hpre, hne⟩
  · refine ⟨[cstr bs], [answer], [], rx, ⟨?_, .inl hone, List.not_mem_nil, ?_⟩, hreads, ?_⟩
    · rw [hbytes, hsent, List.flatMap_singleton, List.append_nil]
    · intro hacc
      exact ⟨(haccept hacc).2, hone⟩
    · intro hl
      refine ⟨hrx, hone, ?_⟩
      intro hmem
      exact (hlasts hl).2 (List.mem_singleton.mp hmem).symm
  · refine ⟨[cstr bs], [], _, rx, ⟨hbytes, .inr ?_, List.not_mem_nil, ?_⟩, hreads, ?_⟩
    · exact ⟨[], cstr bs, answer, rfl, answered_nil info, hanswer, hpre, hne⟩
    · intro hacc
      cases hfail.symm.trans (haccept hacc).1
    · intro hl
      cases hfail.symm.trans (hlasts hl).1

/-- **A control message** is answered once, or none has been read. -/
theorem talksOn_control {y : ReturnCode × Bool × Srv D} (h : processControlMessage io cfg s = some y) :
    TalksOn cfg.info (y.1 ≠ .failure ∧ y.2.1 = false) s y.2.2 := by
  obtain ⟨rc, bs, rx, hrecv⟩ : ∃ rc bs rx,
      socketRecvUntilNullReached (s.client .ctrl).rx ctrlRxBuffSz = (rc, bs, rx) := ⟨_, _, _, rfl⟩
  by_cases hok : rc = .ok
  · subst hok
    rw [processControlMessage_eq io cfg hrecv] at h
    obtain ⟨x, hx, rfl⟩ := Option.map_eq_some_iff.mp h
    obtain ⟨answer, s₁, hanswer, hunused, hstate, hlasts⟩ := dispatchControl_answers hx
    have hmsg : cstr (bs ++ s.conn.ctrlRxBuff.bytes.drop bs.length) = cstr bs := by
      obtain ⟨r, hr⟩ := exists_eq_cstr_append (socketRecvUntilNullReached_ok hrecv).1
      rw [hr, List.append_assoc, List.cons_append, cstr_append_nul (zero_notMem_cstr bs),
        cstr_append_nul (zero_notMem_cstr bs)]
    rw [hmsg] at hanswer hlasts
    refine talksOn_answer hrecv hanswer hunused ?_ ?_ (withControl_rx ..) ?_
    · rw [← hstate]
      rfl
    · rw [← hstate]
      simp [Srv.withControl, Srv.setRx]
    · rintro ⟨hne, hgoes⟩
      exact hlasts hne hgoes
  · have hfailed : processControlMessage io cfg s = some (.failure, false, (recvControl s).2) := by
      unfold processControlMessage
      dsimp only
      rw [if_neg]
      unfold recvControl
      rw [hrecv]
      exact hok
    rw [hfailed] at h
    obtain rfl := Option.some.inj h
    refine ⟨[], [], [], _, ⟨?_, .inl (answered_nil _), List.not_mem_nil, ?_⟩, .nil _, ?_⟩
    · exact (List.append_nil _).symm
    · intro hacc
      refine ⟨?_, answered_nil _⟩
      simpa [recvControl, Srv.setRx] using hacc
    · rintro ⟨hne, -⟩
      exact absurd rfl hne

theorem talksOn_rule (io : Mmio D) (cfg : Config) : LoopRule io cfg (TalksOn cfg.info) where
  compose := fun h hlasts h' => h.then hlasts h'
  mono := fun h hlasts => h.mono hlasts
  refl := fun _ s => (Unused.refl .ctrl s).talksOn
  selects := fun h _ => h.unused ⟨rfl, rfl, rfl⟩
  reject := fun s => (unused_rejectClient io .ctrl s).talksOn
  control := fun h => talksOn_control h
  mgmt := fun h => (unused_mgmt (by decide) (by decide) h).talksOn
  h2t := fun h => (unused_h2t (by decide) (by decide) h).talksOn
  mgmtRsp := fun s => (unused_mgmtRsp (by decide) s).talksOn
  t2h := fun s => (unused_t2h (by decide) s).talksOn

/-! ## The handshake -/

/-- A message that has gone out whole. -/
structure SentWhole (sock : Sock) (bs : List UInt8) (s s' : Srv D) : Prop where
  bytes : sentOn sock s'.log = sentOn sock s.log ++ bs
  rx : (s'.client sock).rx = (s.client sock).rx
  accept : AllAccept (s.client sock).tx → AllAccept (s'.client sock).tx

theorem SentWhole.trans {sock : Sock} {bs bs' : List UInt8} (h : SentWhole sock bs s s')
    (h' : SentWhole sock bs' s' s'') : SentWhole sock (bs ++ bs') s s'' := by
  refine ⟨?_, h'.rx.trans h.rx, fun hacc => h'.accept (h.accept hacc)⟩
  rw [h'.bytes, h.bytes, List.append_assoc]

theorem Unused.then {sock : Sock} {bs : List UInt8} (h : Unused sock s s') (h' : SentWhole sock bs s' s'') :
    SentWhole sock bs s s'' := by
  refine ⟨?_, h'.rx.trans h.rx, fun hacc => h'.accept (h.tx ▸ hacc)⟩
  rw [h'.bytes, h.bytes]

theorem sentWhole_of_ok {sock : Sock} {bs : List UInt8} (h : s.sendAll sock bs = (.ok, s')) :
    SentWhole sock bs s s' := by
  have hok : (s.sendAll sock bs).1 = .ok := congrArg Prod.fst h
  obtain rfl := congrArg Prod.snd h
  refine ⟨?_, by simp [Srv.sendAll, Srv.setTx, Srv.record], ?_⟩
  · rw [sentOn_sendAll]
    rcases socketSendAll_spec bs (s.client sock).tx with ⟨-, hsent⟩ | ⟨hfail, -⟩
    · rw [hsent]
    · cases hfail.symm.trans hok
  · intro hacc
    rw [tx_sendAll]
    exact (socketSendAll_accept bs hacc).2

/-- The handle message has been read and `READY` sent. -/
theorem verifyHandle_sentWhole {sock : Sock} {handle : Nat} (h : verifyHandle sock handle s = (.ok, s')) :
    ∃ hello rx, socketRecvUntilNullReached (s.client sock).rx maxHandleRsp = (.ok, hello, rx) ∧
      (s'.client sock).rx = rx ∧
      sentOn sock s'.log = sentOn sock s.log ++ message readyMsg readyMsgLen ∧
      (AllAccept (s.client sock).tx → AllAccept (s'.client sock).tx) := by
  obtain ⟨rc, hello, rx, hrecv⟩ : ∃ rc hello rx,
      socketRecvUntilNullReached (s.client sock).rx maxHandleRsp = (rc, hello, rx) := ⟨_, _, _, rfl⟩
  unfold verifyHandle at h
  dsimp only at h
  rw [hrecv] at h
  dsimp only at h
  split at h
  · next hok =>
    subst hok
    split at h
    · have hsent := sentWhole_of_ok h
      refine ⟨hello, rx, hrecv, ?_, hsent.bytes, ?_⟩
      · rw [hsent.rx]
        simp [Srv.setRx]
      · intro hacc
        refine hsent.accept ?_
        simpa [Srv.setRx] using hacc
    · cases congrArg Prod.fst h
  · cases congrArg Prod.fst h

theorem connectCtrl_sentWhole {handle : Nat} (h : connectCtrl io cfg handle s = (.ok, s')) :
    ∃ c mgmtSupport, s.env.accepts.head? = some (some c) ∧ (s'.client .ctrl).rx = c.rx ∧
      sentOn .ctrl s'.log = sentOn .ctrl s.log ++ welcomeBytes cfg mgmtSupport handle ∧
      (AllAccept c.tx → AllAccept (s'.client .ctrl).tx) := by
  unfold connectCtrl at h
  dsimp only at h
  split at h
  · next hacc =>
    obtain ⟨c, accepts, heq, -, hclient⟩ := acceptSocket_ok hacc
    have hlog : sentOn .ctrl (acceptSocket .ctrl s).2.log = sentOn .ctrl s.log := by
      unfold acceptSocket
      rw [heq]
      show sentOn .ctrl (s.log ++ [_]) = sentOn .ctrl s.log
      rw [sentOn_append]
      exact List.append_nil _
    have hsent := sentWhole_of_ok h
    have hc : (acceptSocket .ctrl s).2.client .ctrl = c := by rw [hclient, Function.update_self]
    refine ⟨c, (getMgmtSupport io (acceptSocket .ctrl s).2.dev).1, by rw [heq]; rfl, ?_, ?_, ?_⟩
    · rw [hsent.rx, ← hc]
    · rw [hsent.bytes, ← hlog]
      refine congrArg _ ?_
      exact List.take_of_length_le (by simp)
    · intro hall
      exact hsent.accept (by rw [← hc] at hall; exact hall)
  · cases congrArg Prod.fst h

/-- What the control socket carries of a successful `connect_client`. -/
theorem connectClient_sentWhole (h : connectClient io cfg s = (.ok, s')) :
    ∃ c mgmtSupport hello rx, s.env.accepts.head? = some (some c) ∧
      socketRecvUntilNullReached c.rx maxHandleRsp = (.ok, hello, rx) ∧ (s'.client .ctrl).rx = rx ∧
      sentOn .ctrl s'.log = sentOn .ctrl s.log ++ (welcomeBytes cfg mgmtSupport (s.env.handles.headD 1) ++
        message readyMsg readyMsgLen ++ message readyMsg readyMsgLen) ∧
      (AllAccept c.tx → AllAccept (s'.client .ctrl).tx) := by
  obtain ⟨s₀, s₁, hs₀, -, hsockets, hready⟩ := connectClient_ok h
  have hother {sock : Sock} {handle : Nat} {useNagle : Bool} {s₂ s₃ : Srv D} (hne : .ctrl ≠ sock)
      (hconnect : connectClientSocket handle sock useNagle s₂ = (.ok, s₃)) : Unused .ctrl s₂ s₃ := by
    have hunused := unused_connectClientSocket io hne handle useNagle s₂
    rwa [hconnect] at hunused
  unfold connectSockets at hsockets
  obtain ⟨s₆, h₆, ht2h⟩ := andThen_ok hsockets
  obtain ⟨s₅, h₅, hh2t⟩ := andThen_ok h₆
  obtain ⟨s₄, h₄, hmgmtRsp⟩ := andThen_ok h₅
  obtain ⟨s₃, h₃, hmgmt⟩ := andThen_ok h₄
  obtain ⟨s₂, hctrl, hverify⟩ := andThen_ok h₃
  obtain ⟨c, mgmtSupport, haccepts, hrx, hwelcome, haccept⟩ := connectCtrl_sentWhole hctrl
  obtain ⟨hello, rx, hrecv, hrx', hbytes, haccept'⟩ := verifyHandle_sentWhole hverify
  have hunused := (((hother (by decide) hmgmt).trans (hother (by decide) hmgmtRsp)).trans
    (hother (by decide) hh2t)).trans (hother (by decide) ht2h)
  have hlast := hunused.then (sentWhole_of_ok hready)
  have henv : s₀.env.accepts = s.env.accepts ∧ s₀.log = s.log := by
    rw [hs₀]
    exact ⟨rfl, rfl⟩
  rw [henv.1] at haccepts
  rw [hrx] at hrecv
  refine ⟨c, mgmtSupport, hello, rx, haccepts, hrecv, hlast.rx.trans hrx', ?_, ?_⟩
  · rw [hlast.bytes, hbytes, hwelcome, henv.2]
    simp only [List.append_assoc]
  · intro hall
    exact hlast.accept (haccept' (haccept hall))

/-! ## A session -/

/-- **The dialogue on the control socket**: over a whole session, with whatever the sockets and `select` do, a
client reads a greeting and behind it one answer for each message that the server has read, in the order of
the messages and of the kind of the message. Only the last answer can break off. -/
theorem control_dialogue (hcall : serveSession io cfg s = some (.ok, s')) :
    ∃ c msgs answers rest, ControlSession cfg s s' c msgs answers rest := by
  unfold serveSession at hcall
  dsimp only at hcall
  obtain ⟨z, hz⟩ : ∃ z, connectClient io cfg { resetBuffers s with client := clientConnDefault } = z :=
    ⟨_, rfl⟩
  rw [hz] at hcall
  by_cases hok : z.1 = .ok
  · rw [if_pos hok] at hcall
    obtain ⟨s₁, hloop, hclosed⟩ := Option.map_eq_some_iff.mp hcall
    obtain ⟨-, rfl⟩ := Prod.mk.inj hclosed
    obtain ⟨c, mgmtSupport, hello, rx, haccepts, hrecv, hrx, hbytes, haccept⟩ :=
      connectClient_sentWhole (hz.trans (Prod.ext hok rfl))
    have hentered : Unused .ctrl z.2 (z.2.record (.handleClient z.2.conn.h2tWaiting z.2.conn.mgmtWaiting)) :=
      (Unused.refl .ctrl z.2).record rfl
    have htalk : TalksOn cfg.info False z.2 s₁ :=
      hentered.talksOn.then trivial ((talksOn_rule io cfg).handleClientLoop hloop)
    obtain ⟨msgs, answers, rest, rx', htalks, hreads, -⟩ :=
      htalk.unused (unused_closeClientConn io .ctrl s₁)
    have hstream : Reads Text.bytes answers rest (answers.flatMap Text.bytes ++ rest) := by
      refine ⟨rfl, ?_⟩
      rcases htalks.replies with ⟨-, rfl⟩ | ⟨-, -, answer, -, -, -, hpre, hne⟩
      · exact prefixFree_texts.unfinished_nil ⟨[], List.not_mem_nil⟩
      · exact ⟨answer, hpre, hne⟩
    refine ⟨c, msgs, answers, rest, haccepts, ⟨hello, rx, rx', hrecv, hrx ▸ hreads⟩, ⟨mgmtSupport, ?_⟩,
      htalks.replies, htalks.last, fun hall => (htalks.accept (haccept hall)).2, ?_⟩
    · rw [htalks.bytes, hbytes, List.append_assoc]
      rfl
    · intro answers' rest' hreads'
      exact prefixFree_texts.reads_unique hreads' hstream
  · rw [if_neg hok] at hcall
    exact absurd (Prod.mk.inj (Option.some.inj hcall)).1 hok

/-- A client that asks for the loopback mode and disconnects. Its socket takes the answer to `DISCONNECT` in
part only. -/
def DebugIp.talking : Srv DebugIp :=
  DebugIp.listening
    ((DebugIp.clientSockets 1 fun
      | .ctrl => [.data (ascii "GET_PARAM SERVER_LOOPBACK" ++ [0]), .data (ascii "DISCONNECT" ++ [0])]
      | _ => []).map fun c =>
        c.map fun c => { c with tx := List.replicate 4 (.accept 512) ++ [.accept 3, .error] })
    [.ready false false true false false false false, .ready false false true false false false false]

theorem control_dialogue_disconnect :
    ∃ s' c msgs answers rest, serveSession debugIp DebugIp.design DebugIp.talking = some (.ok, s') ∧
      ControlSession DebugIp.design DebugIp.talking s' c msgs answers rest := by
  have hruns : ((serveSession debugIp DebugIp.design DebugIp.talking).map Prod.fst) = some .ok := by
    decide +kernel
  obtain ⟨⟨rc, s'⟩, hcall, hrc⟩ := Option.map_eq_some_iff.mp hruns
  obtain rfl : rc = .ok := hrc
  obtain ⟨c, msgs, answers, rest, hsession⟩ := control_dialogue hcall
  exact ⟨s', c, msgs, answers, rest, hcall, hsession⟩

end RemoteDebug
