import RemoteDebug.Proofs.ChangeProofs

/-!
# The packets held back

`h2t_waiting` and `mgmt_waiting` tell whether the header buffers hold a packet that waits for a buffer.
Only `process_h2t_data` and `process_mgmt_data` touch them, each its own.
-/

namespace RemoteDebug

variable {D : Type} {io : Mmio D} {cfg : Config} {s s' s'' : Srv D}

/-- No H2T packet has been taken in or let go. -/
structure H2tHeld (s s' : Srv D) : Prop where
  waiting : s'.conn.h2tWaiting = s.conn.h2tWaiting
  buff : s'.conn.h2tHeaderBuff = s.conn.h2tHeaderBuff

/-- No MGMT packet has been taken in or let go. -/
structure MgmtHeld (s s' : Srv D) : Prop where
  waiting : s'.conn.mgmtWaiting = s.conn.mgmtWaiting
  buff : s'.conn.mgmtHeaderBuff = s.conn.mgmtHeaderBuff

theorem H2tHeld.trans (h : H2tHeld s s') (h' : H2tHeld s' s'') : H2tHeld s s'' :=
  ⟨h'.waiting.trans h.waiting, h'.buff.trans h.buff⟩

theorem MgmtHeld.trans (h : MgmtHeld s s') (h' : MgmtHeld s' s'') : MgmtHeld s s'' :=
  ⟨h'.waiting.trans h.waiting, h'.buff.trans h.buff⟩

theorem frames_h2tHeld : Frames io {.h2tPacket}ᶜ H2tHeld where
  refl _ := ⟨rfl, rfl⟩
  trans := H2tHeld.trans
  change := by
    intro part s s' hpart hchange
    cases hchange with
    | h2tPacket => simp at hpart
    | _ => exact ⟨rfl, rfl⟩

theorem frames_mgmtHeld : Frames io {.mgmtPacket}ᶜ MgmtHeld where
  refl _ := ⟨rfl, rfl⟩
  trans := MgmtHeld.trans
  change := by
    intro part s s' hpart hchange
    cases hchange with
    | mgmtPacket => simp at hpart
    | _ => exact ⟨rfl, rfl⟩

/-- `process_h2t_data` leaves the MGMT packet alone. -/
theorem mgmtHeld_h2t {x : ReturnCode × Srv D} (h : processH2tData io cfg s = some x) :
    MgmtHeld s x.2 :=
  frames_mgmtHeld.changes (changes_h2t h) (by simp [h2tParts])

theorem actionParts_h2tPacket {a : ServerAction} (h : a ≠ .h2t) : actionParts a ⊆ {.h2tPacket}ᶜ := by
  cases a <;> simp_all [actionParts, controlParts, parameterParts, mgmtParts, mgmtRspParts, t2hParts,
    connectParts, handshakeParts]

theorem actionParts_mgmtPacket {a : ServerAction} (h : a ≠ .mgmt) : actionParts a ⊆ {.mgmtPacket}ᶜ := by
  cases a <;> simp_all [actionParts, controlParts, parameterParts, h2tParts, mgmtRspParts, t2hParts,
    connectParts, handshakeParts]

/-- The packets held back only change in their own calls. -/
theorem held_step {may : D → D → Prop} {st st' : ServerState D} {a : ServerAction}
    (hstep : CallStep io cfg may st a st') :
    (a ≠ .h2t → H2tHeld st.srv st'.srv) ∧ (a ≠ .mgmt → MgmtHeld st.srv st'.srv) := by
  have hchanges := changes_step hstep
  constructor
  · intro hne
    exact frames_h2tHeld.changes hchanges (actionParts_h2tPacket hne)
  · intro hne
    exact frames_mgmtHeld.changes hchanges (actionParts_mgmtPacket hne)

end RemoteDebug
