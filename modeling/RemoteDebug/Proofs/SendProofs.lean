import RemoteDebug.Proofs.ChangeProofs

/-!
# Proofs: what sending leaves alone

Sending on a socket uses up the script of this socket. `SendFrame` says what is as before; of the log it
says that only bytes sent on the socket have been added.
-/

namespace RemoteDebug

open Bytes Script

variable {D : Type} {io : Mmio D} {cfg : Config} {sock : Sock} {s s' s'' : Srv D}

/-- From `s` to `s'` bytes have been sent on the socket `sock`; the hardware may have been read. -/
structure SendFrame (sock : Sock) (s s' : Srv D) : Prop where
  conn : s'.conn = s.conn
  drv : s'.drv = s.drv
  env : s'.env = s.env
  client : ∀ sock', sock' ≠ sock → s'.client sock' = s.client sock'
  rx : (s'.client sock).rx = (s.client sock).rx
  log : ∃ evs, s'.log = s.log ++ evs ∧ ∀ e ∈ evs, ∃ bs, e = .sent sock bs

theorem SendFrame.trans (h : SendFrame sock s s') (h' : SendFrame sock s' s'') :
    SendFrame sock s s'' := by
  obtain ⟨evs, hlog, hsent⟩ := h.log
  obtain ⟨evs', hlog', hsent'⟩ := h'.log
  refine ⟨h'.conn.trans h.conn, h'.drv.trans h.drv, h'.env.trans h.env, ?_, h'.rx.trans h.rx,
    evs ++ evs', by rw [hlog', hlog, List.append_assoc], ?_⟩
  · intro sock' hne
    exact (h'.client sock' hne).trans (h.client sock' hne)
  · intro e he
    rcases List.mem_append.mp he with he | he
    · exact hsent e he
    · exact hsent' e he

theorem frames_send (io : Mmio D) (sock : Sock) :
    Frames io {.read, .staging, .send sock} (SendFrame sock) where
  refl s := ⟨rfl, rfl, rfl, fun _ _ => rfl, rfl, [], (List.append_nil _).symm, by simp⟩
  trans := SendFrame.trans
  change := by
    intro part s s' hpart hchange
    cases hchange with
    | send s sock' tx =>
      obtain rfl : sock' = sock := by simpa using hpart
      refine ⟨rfl, rfl, rfl, ?_, ?_, [], (List.append_nil _).symm, by simp⟩
      · intro sock hne
        exact Function.update_of_ne hne _ _
      · simp [Srv.setTx]
    | record s e =>
      cases e with
      | sent sock' bs =>
        obtain rfl : sock' = sock := by simpa [Event.part] using hpart
        exact ⟨rfl, rfl, rfl, fun _ _ => rfl, rfl, _, rfl, by simp⟩
      | _ => simp [Event.part] at hpart
    | staging | read =>
      exact ⟨rfl, rfl, rfl, fun _ _ => rfl, rfl, [], (List.append_nil _).symm, by simp⟩
    | _ => simp at hpart

theorem sendAll_frame (io : Mmio D) (sock : Sock) (bs : List UInt8) (s : Srv D) :
    SendFrame sock s (s.sendAll sock bs).2 :=
  (frames_send io sock).changes (changes_sendAll sock bs s) (by simp)

theorem sendT2hPayload_sendFrame (io : Mmio D) (cfg : Config) (buff len : Nat) (s : Srv D) :
    SendFrame .t2hData s (sendT2hPayload io cfg buff len s).2 :=
  (frames_send io .t2hData).changes (changes_sendT2hPayload io cfg buff len s) le_rfl

end RemoteDebug
