import RemoteDebug.Proofs.ControlProofs
import RemoteDebug.Hardware.DebugSession

/-!
# The stream of control messages

Repeated calls of `process_control_message` on a stream that `recv` delivers in arbitrary pieces,
compared with the same messages arriving one by one.
-/

namespace RemoteDebug

open Bytes CString Script

variable {D : Type} {io : Mmio D} {cfg : Config} {s : Srv D} {msgs : List (List UInt8)}
  {rx : List RecvEvent}

/-- The results of `n` successive calls of `process_control_message`. -/
def controlCalls (io : Mmio D) (cfg : Config) :
    Nat → Srv D → Option (List (ReturnCode × Bool) × Srv D)
  | 0, s => some ([], s)
  | n + 1, s =>
    (processControlMessage io cfg s).bind fun x =>
      (controlCalls io cfg n x.2.2).map fun y => ((x.1, x.2.1) :: y.1, y.2)

/-- The number of responses. -/
def responses (log : List Event) : Nat :=
  log.countP fun e => match e with
    | .sent .ctrl _ => true
    | _ => false

/-- Every message arrives alone. -/
def alone (msgs : List (List UInt8)) : List RecvEvent := pieces (msgs.map (· ++ [0]))

/-- The results of calls, without what is left of the stream. -/
def withoutStream (x : List (ReturnCode × Bool) × Srv D) : List (ReturnCode × Bool) × Srv D :=
  (x.1, x.2.setRx .ctrl [])

/-- The calls answer the stream `rx` as they answer the messages that arrive alone: with the same
results and state changes, and with one response to each message. -/
structure AnsweredAlike (io : Mmio D) (cfg : Config) (s : Srv D) (msgs : List (List UInt8))
    (rx : List RecvEvent) : Prop where
  same : ∀ n ≤ msgs.length,
    (controlCalls io cfg n (s.setRx .ctrl rx)).map withoutStream
      = (controlCalls io cfg n (s.setRx .ctrl (alone msgs))).map withoutStream
  one_each : ∀ n ≤ msgs.length, ∀ x, controlCalls io cfg n (s.setRx .ctrl rx) = some x →
    responses x.2.log = responses s.log + n

/-- The script delivers the messages, and no `recv` returns a byte behind a NUL: each message ends
with a piece, or it fills the receive buffer, so that the rest `b` of the piece is not read. -/
inductive EndsWithPieces : List (List UInt8) → List RecvEvent → Prop
  | nil : EndsWithPieces [] []
  | cons (ps : List (List UInt8)) (a b : List UInt8) {msgs : List (List UInt8)}
      {rx : List RecvEvent} (hne : ∀ p ∈ ps, p ≠ [])
      (hend : b = [] ∨ (ps.flatten ++ a).length + 1 = ctrlRxBuffSz)
      (hrest : EndsWithPieces msgs (unread b rx)) :
      EndsWithPieces ((ps.flatten ++ a) :: msgs) (pieces ps ++ .data (a ++ 0 :: b) :: rx)

/-! ## One call -/

theorem responses_append (l l' : List Event) : responses (l ++ l') = responses l + responses l' :=
  List.countP_append

theorem sendAll_responses (s : Srv D) (bs : List UInt8) :
    responses (s.sendAll .ctrl bs).2.log = responses s.log + 1 :=
  responses_append _ _

theorem setParameter_responses (paramName : List UInt8) (s : Srv D) :
    responses (setParameter paramName s).2.log = responses s.log := by
  have hset (sock : Sock) (b : Bool) :
      responses (setTcpNoDelay sock b s).2.log = responses s.log := responses_append _ _
  unfold setParameter
  dsimp only
  split_ifs <;> first | rfl | exact hset _ _

/-- Every message has one response. -/
theorem dispatchControl_responses {cmd : List UInt8} {x : ReturnCode × Bool × Srv D}
    (h : dispatchControl io cfg cmd s = some x) : responses x.2.2.log = responses s.log + 1 := by
  unfold dispatchControl at h
  split_ifs at h
  · obtain rfl := Option.some.inj h
    exact sendAll_responses _ _
  · obtain rfl := Option.some.inj h
    exact sendAll_responses _ _
  · obtain rfl := Option.some.inj h
    exact sendAll_responses _ _
  · obtain rfl := Option.some.inj h
    exact (sendAll_responses _ _).trans (congrArg (· + 1) (setParameter_responses _ _))
  · obtain ⟨y, hy, rfl⟩ := Option.map_eq_some_iff.mp h
    obtain ⟨d, -, rfl⟩ := Option.map_eq_some_iff.mp hy
    exact (sendAll_responses _ _).trans (congrArg (· + 1) (responses_append _ _))
  · obtain rfl := Option.some.inj h
    exact (sendAll_responses _ _).trans (congrArg (· + 1) (responses_append _ _))
  · obtain rfl := Option.some.inj h
    exact sendAll_responses _ _

@[simp] theorem setRx_setRx (s : Srv D) (sock : Sock) (rx rx' : List RecvEvent) :
    (s.setRx sock rx).setRx sock rx' = s.setRx sock rx' := by
  simp [Srv.setRx]

/-- What the bytes `bs` received for a message lead to. -/
def answer (io : Mmio D) (cfg : Config) (bs : List UInt8) (s : Srv D) :
    Option (ReturnCode × Bool × Srv D) :=
  (dispatchControl io cfg (bs ++ s.conn.ctrlRxBuff.bytes.drop bs.length) s).map fun x =>
    (x.1, x.2.1, x.2.2.withControl (s.conn.ctrlRxBuff.store bs) [])

theorem processControlMessage_setRx (io : Mmio D) (cfg : Config) {bs : List UInt8}
    {rx rx' : List RecvEvent}
    (hrecv : socketRecvUntilNullReached rx ctrlRxBuffSz = (.ok, bs, rx')) (s : Srv D) :
    processControlMessage io cfg (s.setRx .ctrl rx) =
      (answer io cfg bs s).map fun x => (x.1, x.2.1, x.2.2.setRx .ctrl rx') := by
  have hs : s.setRx .ctrl rx = s.withControl s.conn.ctrlRxBuff rx := rfl
  have hset (b : Buff ctrlRxBuffSz) (x : Srv D) :
      (x.withControl b []).setRx .ctrl rx' = x.withControl b rx' := by
    simp [Srv.withControl, Srv.setRx]
  rw [hs, processControlMessage_eq io cfg (by rw [withControl_rx, hrecv]),
    dispatchControl_withControl, answer, Option.map_map, Option.map_map]
  simp only [withControl_buff, Function.comp_def, withControl_withControl, hset]

theorem controlCalls_succ (io : Mmio D) (cfg : Config) {bs : List UInt8} {rx rx' : List RecvEvent}
    (hrecv : socketRecvUntilNullReached rx ctrlRxBuffSz = (.ok, bs, rx')) (n : Nat) (s : Srv D) :
    controlCalls io cfg (n + 1) (s.setRx .ctrl rx) =
      (answer io cfg bs s).bind fun x =>
        (controlCalls io cfg n (x.2.2.setRx .ctrl rx')).map fun y =>
          ((x.1, x.2.1) :: y.1, y.2) := by
  rw [controlCalls, processControlMessage_setRx io cfg hrecv, Option.bind_map]
  rfl

theorem answer_responses {bs : List UInt8} {x : ReturnCode × Bool × Srv D}
    (h : answer io cfg bs s = some x) : responses x.2.2.log = responses s.log + 1 := by
  obtain ⟨y, hy, rfl⟩ := Option.map_eq_some_iff.mp h
  have hresp := dispatchControl_responses hy
  exact hresp

/-! ## Messages that end with their pieces -/

/-- The reception of a message from its pieces. -/
theorem recv_pieces (ps : List (List UInt8)) (a : List UInt8) (hne : ∀ p ∈ ps, p ≠ [])
    (hnul : 0 ∉ ps.flatten ++ a) (hlen : (ps.flatten ++ a).length < ctrlRxBuffSz) (b : List UInt8)
    (rx : List RecvEvent) :
    let k := ctrlRxBuffSz - (ps.flatten ++ a).length - 1
    socketRecvUntilNullReached (pieces ps ++ .data (a ++ 0 :: b) :: rx) ctrlRxBuffSz
      = (.ok, ps.flatten ++ a ++ 0 :: b.take k, unread (b.drop k) rx) := by
  rw [List.mem_append, not_or] at hnul
  rw [List.length_append] at hlen ⊢
  rw [socketRecvUntilNullReached_pieces hne hnul.1 (by omega),
    socketRecvUntilNullReached_last a b (by omega)]
  simp only [List.append_assoc, Nat.sub_sub, Nat.add_assoc]

theorem EndsWithPieces.recv {m : List UInt8} (h : EndsWithPieces (m :: msgs) rx) (hnul : 0 ∉ m)
    (hlen : m.length < ctrlRxBuffSz) :
    ∃ rx', socketRecvUntilNullReached rx ctrlRxBuffSz = (.ok, m ++ [0], rx') ∧
      EndsWithPieces msgs rx' := by
  cases h with
  | @cons ps a b _ rx hne hend hrest =>
    refine ⟨_, ?_, hrest⟩
    rw [recv_pieces ps a hne hnul hlen]
    rcases hend with rfl | hfull
    · simp
    · rw [show ctrlRxBuffSz - (ps.flatten ++ a).length - 1 = 0 by omega]
      rfl

theorem endsWithPieces_alone (msgs : List (List UInt8)) : EndsWithPieces msgs (alone msgs) := by
  induction msgs with
  | nil => exact .nil
  | cons m msgs ih => exact .cons [] m [] (by simp) (Or.inl rfl) ih

theorem recv_alone {m : List UInt8} (msgs : List (List UInt8)) (hnul : 0 ∉ m)
    (hlen : m.length < ctrlRxBuffSz) :
    socketRecvUntilNullReached (alone (m :: msgs)) ctrlRxBuffSz = (.ok, m ++ [0], alone msgs) := by
  rw [show alone (m :: msgs) = pieces [] ++ .data (m ++ 0 :: []) :: alone msgs from rfl,
    recv_pieces [] m (by simp) hnul hlen]
  simp [unread]

/-- **Two deliveries** in which each message ends with a piece have the same results. -/
theorem controlCalls_congr {rx' : List RecvEvent}
    (hmsgs : ∀ m ∈ msgs, 0 ∉ m ∧ m.length < ctrlRxBuffSz) (h : EndsWithPieces msgs rx)
    (h' : EndsWithPieces msgs rx') {n : Nat} (hn : n ≤ msgs.length) (s : Srv D) :
    (controlCalls io cfg n (s.setRx .ctrl rx)).map withoutStream
      = (controlCalls io cfg n (s.setRx .ctrl rx')).map withoutStream := by
  induction msgs generalizing n s rx rx' with
  | nil =>
    obtain rfl : n = 0 := by simpa using hn
    simp [controlCalls, withoutStream]
  | cons m msgs ih =>
    cases n with
    | zero => simp [controlCalls, withoutStream]
    | succ n =>
      obtain ⟨hnul, hlen⟩ := hmsgs m (by simp)
      obtain ⟨rx1, hrecv, h1⟩ := h.recv hnul hlen
      obtain ⟨rx1', hrecv', h1'⟩ := h'.recv hnul hlen
      have ih' := ih (fun m' hm' => hmsgs m' (List.mem_cons_of_mem _ hm')) h1 h1'
        (by simpa using hn : n ≤ msgs.length)
      rw [controlCalls_succ io cfg hrecv, controlCalls_succ io cfg hrecv']
      cases answer io cfg (m ++ [0]) s with
      | none => rfl
      | some x =>
        have hx := congrArg (Option.map fun y : List (ReturnCode × Bool) × Srv D =>
          ((x.1, x.2.1) :: y.1, y.2)) (ih' x.2.2)
        simp only [Option.bind_some, Option.map_map] at hx ⊢
        exact hx

/-- Each message has one response. -/
theorem controlCalls_responses (hmsgs : ∀ m ∈ msgs, 0 ∉ m ∧ m.length < ctrlRxBuffSz)
    (h : EndsWithPieces msgs rx) {n : Nat} (hn : n ≤ msgs.length)
    {x : List (ReturnCode × Bool) × Srv D}
    (hx : controlCalls io cfg n (s.setRx .ctrl rx) = some x) :
    responses x.2.log = responses s.log + n := by
  induction msgs generalizing n s rx x with
  | nil =>
    obtain rfl : n = 0 := by simpa using hn
    obtain rfl := Option.some.inj hx
    rfl
  | cons m msgs ih =>
    cases n with
    | zero =>
      obtain rfl := Option.some.inj hx
      rfl
    | succ n =>
      obtain ⟨hnul, hlen⟩ := hmsgs m (by simp)
      obtain ⟨rx1, hrecv, h1⟩ := h.recv hnul hlen
      rw [controlCalls_succ io cfg hrecv] at hx
      obtain ⟨y, hy, hx⟩ := Option.bind_eq_some_iff.mp hx
      obtain ⟨z, hz, rfl⟩ := Option.map_eq_some_iff.mp hx
      have hrest := ih (fun m' hm' => hmsgs m' (List.mem_cons_of_mem _ hm')) h1
        (by simpa using hn) hz
      have hfirst := answer_responses hy
      show responses z.2.log = _
      rw [hrest]
      show responses y.2.2.log + n = _
      omega

/-! ## Results that only such a delivery has -/

theorem EndsWithPieces.pending_length (h : EndsWithPieces msgs rx) :
    (pending rx).length = (msgs.map fun m => m.length + 1).sum := by
  induction h with
  | nil => rfl
  | @cons ps a b msgs rx hne hend hrest ih =>
    have hdata : pending (.data (a ++ 0 :: b) :: rx) = a ++ 0 :: b ++ pending rx := by
      simp [pending]
    rw [pending_unread, List.length_append] at ih
    rw [pending_pieces_append hne, hdata, List.map_cons, List.sum_cons, ← ih]
    simp only [List.length_append, List.length_cons]
    omega

/-- Two NUL-terminated strings at the start of the same memory. -/
theorem eq_of_append_nul {m m' r r' : List UInt8} (h : 0 ∉ m) (h' : 0 ∉ m')
    (heq : m ++ 0 :: r = m' ++ 0 :: r') : m = m' ∧ r = r' := by
  have hm := congrArg cstr heq
  rw [cstr_append_nul h, cstr_append_nul h'] at hm
  subst hm
  have htail := List.append_cancel_left heq
  exact ⟨rfl, List.tail_eq_of_cons_eq htail⟩

/-- A message that is received without a byte behind its NUL ends with a piece or fills the
buffer. -/
theorem endsWithPieces_cons {m : List UInt8} {rx' : List RecvEvent} (hflow : Flowing rx)
    (hnul : 0 ∉ m) (hlen : m.length < ctrlRxBuffSz)
    (hrecv : socketRecvUntilNullReached rx ctrlRxBuffSz = (.ok, m ++ [0], rx'))
    (hrest : EndsWithPieces msgs rx') : EndsWithPieces (m :: msgs) rx := by
  obtain ⟨-, hpend, -⟩ := socketRecvUntilNullReached_ok hrecv
  obtain ⟨ps, a, b, rx1, rfl, hne, hps, ha, -⟩ :=
    exists_pieces_of_nul hflow (by rw [hpend]; simp)
  have hna : 0 ∉ ps.flatten ++ a := by simp [hps, ha]
  have hdata : pending (.data (a ++ 0 :: b) :: rx1) = a ++ 0 :: (b ++ pending rx1) := by
    simp [pending]
  rw [pending_pieces_append hne, hdata, ← List.append_assoc, List.append_assoc m] at hpend
  obtain ⟨rfl, -⟩ := eq_of_append_nul hna hnul hpend
  rw [recv_pieces ps a hne hna hlen] at hrecv
  obtain ⟨-, hbs, rfl⟩ : _ ∧ _ ∧ _ := by simpa only [Prod.mk.injEq] using hrecv
  have htake : b.take (ctrlRxBuffSz - (ps.flatten ++ a).length - 1) = [] :=
    (eq_of_append_nul hna hna hbs).2
  have hend : b = [] ∨ (ps.flatten ++ a).length + 1 = ctrlRxBuffSz := by
    rcases List.take_eq_nil_iff.mp htake with hk | hb
    · exact Or.inr (by omega)
    · exact Or.inl hb
  refine .cons ps a b hne hend ?_
  rcases hend with rfl | hfull
  · simpa using hrest
  · rwa [show ctrlRxBuffSz - (ps.flatten ++ a).length - 1 = 0 by omega] at hrest

/-- A call with the result of a message that arrives alone has received this message, and perhaps
more. -/
theorem recv_of_same {m : List UInt8} {x : ReturnCode × Bool × Srv D} (hnul : 0 ∉ m)
    (hlen : m.length < ctrlRxBuffSz) (hx : answer io cfg (m ++ [0]) s = some x)
    {x' : ReturnCode × Bool × Srv D}
    (hcall : processControlMessage io cfg (s.setRx .ctrl rx) = some x')
    (hsame : x'.2.2.setRx .ctrl [] = x.2.2.setRx .ctrl []) :
    ∃ extra rx', socketRecvUntilNullReached rx ctrlRxBuffSz = (.ok, m ++ 0 :: extra, rx') := by
  generalize hr : socketRecvUntilNullReached rx ctrlRxBuffSz = r
  obtain ⟨rc, bs, rx'⟩ := r
  have hlog := congrArg Srv.log hsame
  have hbuff := congrArg (fun t : Srv D => t.conn.ctrlRxBuff) hsame
  by_cases hok : rc = .ok
  · subst hok
    obtain ⟨h0, -, -⟩ := socketRecvUntilNullReached_ok hr
    obtain ⟨y, e, rfl, hy⟩ := List.eq_append_cons_of_mem h0
    have hle := socketRecvUntilNullReached_length_le rx ctrlRxBuffSz
    rw [hr] at hle
    rw [processControlMessage_setRx io cfg hr] at hcall
    obtain ⟨z, hz, rfl⟩ := Option.map_eq_some_iff.mp hcall
    obtain ⟨_, -, rfl⟩ := Option.map_eq_some_iff.mp hz
    obtain ⟨_, -, rfl⟩ := Option.map_eq_some_iff.mp hx
    have hbytes : (s.conn.ctrlRxBuff.store (y ++ 0 :: e)).bytes
        = (s.conn.ctrlRxBuff.store (m ++ [0])).bytes := congrArg Buff.bytes hbuff
    rw [Buff.store_bytes _ hle, Buff.store_bytes _ (by simp; omega), List.append_assoc,
      List.append_assoc] at hbytes
    obtain ⟨rfl, -⟩ := eq_of_append_nul hy hnul hbytes
    exact ⟨e, rx', rfl⟩
  · have hfail : processControlMessage io cfg (s.setRx .ctrl rx)
        = some (.failure, false, (recvControl (s.setRx .ctrl rx)).2) := by
      have hrc : (recvControl (s.setRx .ctrl rx)).1 = rc := by
        simp [recvControl, Srv.setRx, hr]
      simp only [processControlMessage, hrc, hok, if_false]
    rw [hfail] at hcall
    obtain rfl := Option.some.inj hcall
    have hresp := answer_responses hx
    have hlog' : s.log = x.2.2.log := hlog
    rw [← hlog'] at hresp
    omega

/-- **Only deliveries in which each message ends with a piece** have the results of messages that
arrive alone: what has been read of the later messages would be missing in the end. -/
theorem endsWithPieces_of_same (hmsgs : ∀ m ∈ msgs, 0 ∉ m ∧ m.length < ctrlRxBuffSz)
    (hflow : Flowing rx) (hpend : (pending rx).length ≤ (msgs.map fun m => m.length + 1).sum)
    (hrun : (controlCalls io cfg msgs.length (s.setRx .ctrl (alone msgs))).isSome)
    (hsame : ∀ n ≤ msgs.length,
      (controlCalls io cfg n (s.setRx .ctrl rx)).map withoutStream
        = (controlCalls io cfg n (s.setRx .ctrl (alone msgs))).map withoutStream) :
    EndsWithPieces msgs rx := by
  induction msgs generalizing s rx with
  | nil =>
    obtain rfl := hflow.eq_nil (List.eq_nil_of_length_eq_zero (by simpa using hpend))
    exact .nil
  | cons m msgs ih =>
    obtain ⟨hnul, hlen⟩ := hmsgs m (by simp)
    rw [List.length_cons, controlCalls_succ io cfg (recv_alone msgs hnul hlen)] at hrun
    obtain ⟨x, hx⟩ : ∃ x, answer io cfg (m ++ [0]) s = some x := by
      cases hx : answer io cfg (m ++ [0]) s with
      | none => simp [hx] at hrun
      | some x => exact ⟨x, rfl⟩
    have hfirst := hsame 1 (by simp)
    rw [controlCalls_succ io cfg (recv_alone msgs hnul hlen), hx] at hfirst
    obtain ⟨x', hcall⟩ : ∃ x', processControlMessage io cfg (s.setRx .ctrl rx) = some x' := by
      cases hcall : processControlMessage io cfg (s.setRx .ctrl rx) with
      | none => simp [controlCalls, hcall] at hfirst
      | some x' => exact ⟨x', rfl⟩
    have heq : x'.1 = x.1 ∧ x'.2.1 = x.2.1 ∧ x'.2.2.setRx .ctrl [] = x.2.2.setRx .ctrl [] := by
      simpa [controlCalls, hcall, withoutStream, and_assoc] using hfirst
    obtain ⟨hrc, hdisc, hstate⟩ := heq
    obtain ⟨extra, rx', hrecv⟩ := recv_of_same hnul hlen hx hcall hstate
    obtain ⟨-, hsplit, hflow'⟩ := socketRecvUntilNullReached_ok hrecv
    rw [hsplit] at hpend
    simp only [List.length_append, List.length_cons, List.map_cons, List.sum_cons] at hpend
    have hrest : EndsWithPieces msgs rx' := by
      refine ih (s := x.2.2) (fun m' hm' => hmsgs m' (List.mem_cons_of_mem _ hm')) (hflow' hflow) (by omega)
        ?_ fun n hn => ?_
      · simpa [hx] using hrun
      · have hnext := hsame (n + 1) (by simpa using hn)
        rw [controlCalls_succ io cfg (recv_alone msgs hnul hlen), hx,
          controlCalls_succ io cfg hrecv] at hnext
        rw [processControlMessage_setRx io cfg hrecv] at hcall
        obtain ⟨y, hy, rfl⟩ := Option.map_eq_some_iff.mp hcall
        have hy' : y.2.2.setRx .ctrl rx' = x.2.2.setRx .ctrl rx' := by
          have hset := congrArg (fun s : Srv D => s.setRx .ctrl rx') hstate
          simpa using hset
        rw [hy, Option.bind_some, Option.bind_some, hy', Option.map_map, Option.map_map] at hnext
        generalize controlCalls io cfg n (x.2.2.setRx .ctrl rx') = a at hnext ⊢
        generalize controlCalls io cfg n (x.2.2.setRx .ctrl (alone msgs)) = b at hnext ⊢
        cases a <;> cases b <;> simp_all [withoutStream]
    have hlength := hrest.pending_length
    obtain rfl : extra = [] := List.eq_nil_of_length_eq_zero (by omega)
    exact endsWithPieces_cons hflow hnul hlen hrecv hrest

/-- **The control channel** answers the stream like messages that arrive alone if each message ends
with a piece or fills the buffer, and only then unless one of the messages crashes the server. -/
theorem control_stream_alike (io : Mmio D) (cfg : Config) (s : Srv D)
    (hmsgs : ∀ m ∈ msgs, 0 ∉ m ∧ m.length < ctrlRxBuffSz) (hflow : Flowing rx)
    (hpend : pending rx = msgs.flatMap (· ++ [0])) :
    (EndsWithPieces msgs rx → AnsweredAlike io cfg s msgs rx) ∧
      (AnsweredAlike io cfg s msgs rx →
        (controlCalls io cfg msgs.length (s.setRx .ctrl (alone msgs))).isSome →
        EndsWithPieces msgs rx) := by
  have hlength : (pending rx).length = (msgs.map fun m => m.length + 1).sum := by
    rw [hpend, List.length_flatMap]
    simp
  refine ⟨fun h => ⟨fun n hn => ?_, fun n hn x hx => ?_⟩, fun h hrun => ?_⟩
  · exact controlCalls_congr hmsgs h (endsWithPieces_alone msgs) hn s
  · exact controlCalls_responses hmsgs h hn hx
  · exact endsWithPieces_of_same hmsgs hflow hlength.le hrun h.same

/-- `PING` in two pieces, then `DISCONNECT`. -/
theorem control_stream_alike_ping :
    AnsweredAlike debugIp DebugIp.design
      (DebugIp.session DebugIp.idle (fun _ => []) fun _ => []) [pingCmd, disconnectCmd]
      (pieces [ascii "PI", ascii "NG" ++ [0], disconnectCmd ++ [0]]) :=
  (control_stream_alike debugIp DebugIp.design _ (by decide) (flowing_pieces (by decide))
    rfl).1
    (.cons [ascii "PI"] (ascii "NG") [] (by decide) (Or.inl rfl)
      (.cons [] disconnectCmd [] (by decide) (Or.inl rfl) .nil))

/-- Two `PING`s in one piece have one response. -/
theorem control_stream_differs :
    ¬ ∀ (s : Srv DebugIp) (msgs : List (List UInt8)) (rx : List RecvEvent),
      (∀ m ∈ msgs, 0 ∉ m ∧ m.length < ctrlRxBuffSz) → Flowing rx →
      pending rx = msgs.flatMap (· ++ [0]) →
      AnsweredAlike debugIp DebugIp.design s msgs rx := by
  intro h
  let s := DebugIp.session DebugIp.idle (fun _ => []) fun _ => []
  let rx := pieces [pingCmd ++ 0 :: pingCmd ++ [0]]
  have halike := h s [pingCmd, pingCmd] rx (by decide) (flowing_pieces (by decide)) rfl
  have hcalls : (controlCalls debugIp DebugIp.design 2 (s.setRx .ctrl rx)).map
      (fun x => responses x.2.log) = some 1 := by decide +kernel
  obtain ⟨x, hx, hone⟩ := Option.map_eq_some_iff.mp hcalls
  have htwo := halike.one_each 2 (by decide) x hx
  rw [hone] at htwo
  exact absurd htwo (by omega)

end RemoteDebug
