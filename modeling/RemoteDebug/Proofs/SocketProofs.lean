import RemoteDebug.Sockets

/-!
# The socket loops

`socket_recv_accumulate` delivers the next `len` bytes of the stream however `recv` splits it, or
fails with what was left of it. `socket_send_all` hands over a prefix of the buffer, the whole of it
exactly if it succeeds.
-/

namespace RemoteDebug

open Script

/-! ## `socket_recv_accumulate` -/

/-- The stream has at least `len` bytes: they are delivered and the stream goes on behind them. -/
theorem socketRecvAccumulate_ok {rx : List RecvEvent} {len : Nat} (h : len ≤ (pending rx).length) :
    ∃ rx', socketRecvAccumulate rx len = (.ok, (pending rx).take len, rx') ∧
      pending rx' = (pending rx).drop len ∧ (Flowing rx → Flowing rx') := by
  induction rx generalizing len with
  | nil =>
    obtain rfl : len = 0 := by simpa [pending] using h
    exact ⟨[], rfl, rfl, id⟩
  | cons e rx ih =>
    cases len with
    | zero => exact ⟨e :: rx, by cases e <;> rfl, rfl, id⟩
    | succ len =>
      cases e with
      | error => simp [pending] at h
      | data bs =>
        by_cases hbs : bs = []
        · simp [pending, hbs] at h
        · simp only [pending, hbs, if_false] at h ⊢
          simp only [socketRecvAccumulate, hbs, if_false]
          by_cases hle : bs.length ≤ len + 1
          · rw [List.length_append] at h
            obtain ⟨rx', hrec, hpend, hflow⟩ := ih (by omega : len + 1 - bs.length ≤ _)
            refine ⟨rx', ?_, ?_, fun hf => hflow (flowing_cons.mp hf).2⟩
            · rw [if_pos hle, hrec, List.take_append, List.take_of_length_le hle]
            · rw [hpend, List.drop_append, List.drop_of_length_le hle, List.nil_append]
          · have hdrop : bs.drop (len + 1) ≠ [] := by
              rw [ne_eq, List.drop_eq_nil_iff]
              omega
            refine ⟨.data (bs.drop (len + 1)) :: rx, ?_, ?_, fun hf => ?_⟩
            · rw [if_neg hle, List.take_append_of_le_length (by omega)]
            · simp only [pending, hdrop, if_false]
              rw [List.drop_append_of_le_length (by omega)]
            · exact flowing_cons.mpr ⟨⟨_, hdrop, rfl⟩, (flowing_cons.mp hf).2⟩

/-- The stream ends, or fails, before `len` bytes: all of it is delivered and the call fails. -/
theorem socketRecvAccumulate_failure {rx : List RecvEvent} {len : Nat}
    (h : (pending rx).length < len) :
    ∃ rx', socketRecvAccumulate rx len = (.failure, pending rx, rx') ∧
      (Flowing rx → rx' = []) := by
  induction rx generalizing len with
  | nil =>
    obtain ⟨len, rfl⟩ : ∃ l, len = l + 1 := ⟨len - 1, by omega⟩
    exact ⟨[], rfl, fun _ => rfl⟩
  | cons e rx ih =>
    obtain ⟨len, rfl⟩ : ∃ l, len = l + 1 := ⟨len - 1, by omega⟩
    cases e with
    | error => exact ⟨rx, rfl, fun hf => by obtain ⟨⟨_, -, he⟩, -⟩ := flowing_cons.mp hf; cases he⟩
    | data bs =>
      by_cases hbs : bs = []
      · refine ⟨rx, by simp [socketRecvAccumulate, pending, hbs], fun hf => ?_⟩
        obtain ⟨⟨bs', hne, he⟩, -⟩ := flowing_cons.mp hf
        cases he
        exact absurd hbs hne
      · simp only [pending, hbs, if_false, List.length_append] at h ⊢
        have hle : bs.length ≤ len + 1 := by omega
        obtain ⟨rx', hrec, hflow⟩ := ih (by omega : _ < len + 1 - bs.length)
        refine ⟨rx', ?_, fun hf => hflow (flowing_cons.mp hf).2⟩
        simp only [socketRecvAccumulate, hbs, if_false, hle, if_true, hrec]

/-- At most the requested bytes are stored. -/
theorem socketRecvAccumulate_length_le (rx : List RecvEvent) (len : Nat) :
    (socketRecvAccumulate rx len).2.1.length ≤ len := by
  rcases Nat.lt_or_ge (pending rx).length len with h | h
  · obtain ⟨rx', hrec, -⟩ := socketRecvAccumulate_failure h
    rw [hrec]
    exact h.le
  · obtain ⟨rx', hrec, -⟩ := socketRecvAccumulate_ok h
    rw [hrec]
    exact List.length_take_le _ _

/-! ## `socket_send_all` -/

/-- What was sent is a prefix of the buffer, and all of it exactly if the call succeeds. -/
theorem socketSendAll_spec (bs : List UInt8) (tx : List SendEvent) :
    ((socketSendAll bs tx).1 = .ok ∧ (socketSendAll bs tx).2.1 = bs) ∨
      ((socketSendAll bs tx).1 = .failure ∧ (socketSendAll bs tx).2.1 <+: bs ∧
        (socketSendAll bs tx).2.1 ≠ bs) := by
  induction tx generalizing bs with
  | nil => cases bs <;> exact Or.inl ⟨rfl, rfl⟩
  | cons e tx ih =>
    cases bs with
    | nil => cases e <;> exact Or.inl ⟨rfl, rfl⟩
    | cons b bs =>
      cases e with
      | error => exact Or.inr ⟨rfl, List.nil_prefix, by simp [socketSendAll]⟩
      | accept k =>
        by_cases hk : k = 0
        · simp [socketSendAll, hk]
        · simp only [socketSendAll, hk, if_false]
          rcases ih ((b :: bs).drop k) with ⟨h1, h2⟩ | ⟨h1, h2, h3⟩
          · exact Or.inl ⟨h1, by rw [h2, List.take_append_drop]⟩
          · refine Or.inr ⟨h1, ?_, fun heq => h3 ?_⟩
            · have hp := (List.prefix_append_right_inj ((b :: bs).take k)).mpr h2
              rwa [List.take_append_drop] at hp
            · have hcancel : (b :: bs).take k ++ (socketSendAll ((b :: bs).drop k) tx).2.1
                  = (b :: bs).take k ++ (b :: bs).drop k := by rw [heq, List.take_append_drop]
              exact List.append_cancel_left hcancel

/-- A nonempty buffer of which nothing is sent: the first `send` call fails. -/
theorem socketSendAll_nothing {bs : List UInt8} (hbs : bs ≠ []) (tx : List SendEvent) :
    (socketSendAll bs tx).2.1 = [] ↔ SendFails tx := by
  obtain ⟨b, bs, rfl⟩ := List.exists_cons_of_ne_nil hbs
  cases tx with
  | nil => simp [socketSendAll, SendFails]
  | cons e tx =>
    cases e with
    | error => simp [socketSendAll, SendFails]
    | accept k =>
      cases k with
      | zero => simp [socketSendAll, SendFails]
      | succ k => simp [socketSendAll, SendFails]

/-- A socket that accepts something at every call takes the whole buffer. -/
theorem socketSendAll_accept {tx : List SendEvent} (bs : List UInt8) (h : AllAccept tx) :
    (socketSendAll bs tx).1 = .ok ∧ AllAccept (socketSendAll bs tx).2.2 := by
  induction tx generalizing bs with
  | nil => cases bs <;> exact ⟨rfl, h⟩
  | cons e tx ih =>
    obtain ⟨⟨k, hk, rfl⟩, htx⟩ := allAccept_cons.mp h
    cases bs with
    | nil => exact ⟨rfl, h⟩
    | cons b bs =>
      have hk0 : k ≠ 0 := by omega
      simp only [socketSendAll, hk0, if_false]
      exact ih ((b :: bs).drop k) htx

/-! ## Messages -/

/-- A message is received into the buffer only. -/
theorem socketRecvUntilNullReached_length_le (rx : List RecvEvent) (maxLen : Nat) :
    (socketRecvUntilNullReached rx maxLen).2.1.length ≤ maxLen := by
  induction rx generalizing maxLen with
  | nil => cases maxLen <;> simp [socketRecvUntilNullReached]
  | cons e rx ih =>
    cases maxLen with
    | zero => simp [socketRecvUntilNullReached]
    | succ len =>
      cases e with
      | error => simp [socketRecvUntilNullReached]
      | data bs =>
        have ih' := ih (len + 1 - bs.length)
        unfold socketRecvUntilNullReached
        split_ifs
        · simp
        · assumption
        · dsimp only
          rw [List.length_append]
          omega
        · exact List.length_take_le _ _
        · exact List.length_take_le _ _

/-- Pieces without a NUL are collected. -/
theorem socketRecvUntilNullReached_pieces {ps : List (List UInt8)} (hne : ∀ p ∈ ps, p ≠ [])
    (hnul : 0 ∉ ps.flatten) {room : Nat} (hroom : ps.flatten.length ≤ room)
    (rx : List RecvEvent) :
    socketRecvUntilNullReached (pieces ps ++ rx) room =
      let rest := socketRecvUntilNullReached rx (room - ps.flatten.length)
      (rest.1, ps.flatten ++ rest.2.1, rest.2.2) := by
  induction ps generalizing room with
  | nil => rfl
  | cons p ps ih =>
    have hp : p ≠ [] := hne p (by simp)
    have hpos : 0 < p.length := List.length_pos_of_ne_nil hp
    rw [List.flatten_cons, List.mem_append, not_or] at hnul
    rw [List.flatten_cons, List.length_append] at hroom
    obtain ⟨room, rfl⟩ : ∃ k, room = k + 1 := ⟨room - 1, by omega⟩
    have hle : p.length ≤ room + 1 := by omega
    have ih' := ih (fun q hq => hne q (List.mem_cons_of_mem _ hq)) hnul.2
      (by omega : ps.flatten.length ≤ room + 1 - p.length)
    simp only [pieces, List.map_cons, List.cons_append, socketRecvUntilNullReached, hp, hle, hnul.1,
      if_true, if_false] at ih' ⊢
    rw [ih', List.flatten_cons, List.length_append, Nat.sub_sub, List.append_assoc]

/-- The piece with the first NUL ends the message; of what follows the NUL in the piece as much is
received as there is room for. -/
theorem socketRecvUntilNullReached_last (a b : List UInt8) {room : Nat} (hroom : a.length < room)
    (rx : List RecvEvent) :
    socketRecvUntilNullReached (.data (a ++ 0 :: b) :: rx) room =
      (.ok, a ++ 0 :: b.take (room - a.length - 1), unread (b.drop (room - a.length - 1)) rx) := by
  obtain ⟨k, rfl⟩ : ∃ k, room = a.length + (k + 1) := ⟨room - a.length - 1, by omega⟩
  have hk : a.length + (k + 1) - a.length - 1 = k := by omega
  have hlen : (a ++ 0 :: b).length = a.length + (b.length + 1) := by simp
  rw [hk]
  by_cases hle : b.length ≤ k
  · rw [List.take_of_length_le hle, List.drop_of_length_le hle, ← Nat.add_assoc,
      socketRecvUntilNullReached, if_neg (by simp), if_pos (by omega), if_pos (by simp)]
    rfl
  · have htake : (a ++ 0 :: b).take (a.length + (k + 1)) = a ++ 0 :: b.take k := by
      rw [List.take_length_add_append, List.take_succ_cons]
    have hdrop : (a ++ 0 :: b).drop (a.length + (k + 1)) = b.drop k := by
      rw [List.drop_length_add_append, List.drop_succ_cons]
    have hrest : b.drop k ≠ [] := by
      rw [ne_eq, List.drop_eq_nil_iff]
      exact hle
    rw [← Nat.add_assoc] at htake hdrop ⊢
    rw [socketRecvUntilNullReached, if_neg (by simp), if_neg (by omega), htake, hdrop,
      if_pos (by simp), unread, if_neg hrest]

/-- A message is what has been read of the stream, and the bytes behind its NUL came with it. -/
theorem socketRecvUntilNullReached_ok {rx rx' : List RecvEvent} {room : Nat} {bs : List UInt8}
    (h : socketRecvUntilNullReached rx room = (.ok, bs, rx')) :
    0 ∈ bs ∧ pending rx = bs ++ pending rx' ∧ (Flowing rx → Flowing rx') := by
  induction rx generalizing room bs with
  | nil => cases room <;> simp [socketRecvUntilNullReached] at h
  | cons e rx ih =>
    cases room with
    | zero => simp [socketRecvUntilNullReached] at h
    | succ room =>
      cases e with
      | error => simp [socketRecvUntilNullReached] at h
      | data c =>
        unfold socketRecvUntilNullReached at h
        split at h
        · cases h
        · next hc =>
          split at h
          · split at h
            · next h0 =>
              cases h
              exact ⟨h0, by simp [pending, hc], fun hflow => (flowing_cons.mp hflow).2⟩
            · generalize hr : socketRecvUntilNullReached rx (room + 1 - c.length) = rest at h
              obtain ⟨rc, bs', rx''⟩ := rest
              cases h
              obtain ⟨h0, hp, hf⟩ := ih hr
              refine ⟨List.mem_append_right _ h0, ?_, fun hflow => hf (flowing_cons.mp hflow).2⟩
              simp only [pending, hc, if_false, hp, List.append_assoc]
          · next hlen =>
            have hd : c.drop (room + 1) ≠ [] := by
              rw [ne_eq, List.drop_eq_nil_iff]
              exact hlen
            split at h
            · next h0 =>
              cases h
              refine ⟨h0, ?_, fun hflow =>
                flowing_cons.mpr ⟨⟨_, hd, rfl⟩, (flowing_cons.mp hflow).2⟩⟩
              simp only [pending, hc, hd, if_false]
              rw [← List.append_assoc, List.take_append_drop]
            · cases h

/-- A flowing script up to the first NUL. -/
theorem exists_pieces_of_nul {rx : List RecvEvent} (hflow : Flowing rx) (hnul : 0 ∈ pending rx) :
    ∃ ps a b rx', rx = pieces ps ++ .data (a ++ 0 :: b) :: rx' ∧ (∀ p ∈ ps, p ≠ []) ∧
      0 ∉ ps.flatten ∧ 0 ∉ a ∧ Flowing rx' := by
  induction rx with
  | nil => simp [pending] at hnul
  | cons e rx ih =>
    obtain ⟨⟨bs, hbs, rfl⟩, hrx⟩ := flowing_cons.mp hflow
    by_cases h0 : 0 ∈ bs
    · obtain ⟨a, b, rfl, ha⟩ := List.eq_append_cons_of_mem h0
      exact ⟨[], a, b, rx, rfl, by simp, by simp, ha, hrx⟩
    · simp only [pending, hbs, if_false, List.mem_append, h0, false_or] at hnul
      obtain ⟨ps, a, b, rx', rfl, hne, hps, ha, hrx'⟩ := ih hrx hnul
      refine ⟨bs :: ps, a, b, rx', rfl, ?_, by simp [h0, hps], ha, hrx'⟩
      intro p hp
      rcases List.mem_cons.mp hp with rfl | hp
      · exact hbs
      · exact hne p hp

end RemoteDebug
