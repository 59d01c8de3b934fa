import RemoteDebug.Hardware.DialogueRun
import RemoteDebug.Proofs.ChangeProofs

/-!
# Proofs: sockets that are not used

`Unused` says that a part of the server has not used a socket: nothing has gone out on it and its scripts are
as before. Each handler uses the sockets of its own channel only.
-/

namespace RemoteDebug

open Bytes CString Script

variable {D : Type} {io : Mmio D} {cfg : Config} {sock sock' : Sock} {s s' s'' : Srv D}

/-- From `s` to `s'` the socket has not been used. -/
structure Unused (sock : Sock) (s s' : Srv D) : Prop where
  bytes : sentOn sock s'.log = sentOn sock s.log
  rx : (s'.client sock).rx = (s.client sock).rx
  tx : (s'.client sock).tx = (s.client sock).tx

theorem Unused.refl (sock : Sock) (s : Srv D) : Unused sock s s := ⟨rfl, rfl, rfl⟩

theorem Unused.trans (h : Unused sock s s') (h' : Unused sock s' s'') : Unused sock s s'' :=
  ⟨h'.bytes.trans h.bytes, h'.rx.trans h.rx, h'.tx.trans h.tx⟩

theorem sentOn_append (sock : Sock) (log evs : List Event) :
    sentOn sock (log ++ evs) = sentOn sock log ++ sentOn sock evs := List.flatMap_append

theorem unused_of_client (hlog : sentOn sock s'.log = sentOn sock s.log)
    (hclient : s'.client sock = s.client sock) : Unused sock s s' :=
  ⟨hlog, congrArg Socket.rx hclient, congrArg Socket.tx hclient⟩

/-- Other events than bytes that go out on the socket. -/
theorem Unused.record (h : Unused sock s s') {e : Event} (he : sentOn sock [e] = []) :
    Unused sock s (s'.record e) := by
  refine ⟨?_, h.rx, h.tx⟩
  show sentOn sock (s'.log ++ [e]) = sentOn sock s.log
  rw [sentOn_append, he, List.append_nil, h.bytes]

/-! ## Frames -/

/-- The parts in which a socket is used. -/
def usedParts (sock : Sock) : Set StatePart := {.recv sock, .send sock, .socket sock, .clients}

theorem frames_unused (io : Mmio D) (sock : Sock) : Frames io (usedParts sock)ᶜ (Unused sock) where
  refl s := Unused.refl sock s
  trans := Unused.trans
  change := by
    intro part s s' hpart hchange
    cases hchange with
    | recv s sock' rx =>
      have hne : sock ≠ sock' := by
        rintro rfl
        simp [usedParts] at hpart
      exact unused_of_client rfl (Function.update_of_ne hne _ _)
    | send s sock' tx =>
      have hne : sock ≠ sock' := by
        rintro rfl
        simp [usedParts] at hpart
      exact unused_of_client rfl (Function.update_of_ne hne _ _)
    | socket s sock' c =>
      have hne : sock ≠ sock' := by
        rintro rfl
        simp [usedParts] at hpart
      exact unused_of_client rfl (Function.update_of_ne hne _ _)
    | option s sock' noDelay =>
      by_cases h : sock = sock'
      · subst h
        refine ⟨rfl, ?_, ?_⟩
        · simp
        · simp
      · exact unused_of_client rfl (Function.update_of_ne h _ _)
    | record s e =>
      apply (Unused.refl sock s).record
      cases e with
      | sent sock' bs =>
        have hne : sock' ≠ sock := by
          rintro rfl
          simp [usedParts, Event.part] at hpart
        simp [sentOn, hne]
      | _ => rfl
    | clients => simp [usedParts] at hpart
    | _ => exact ⟨rfl, rfl, rfl⟩

/-! ## Packets -/

theorem unused_h2t (hne : sock ≠ .h2tData) (hne' : sock ≠ .t2hData) {y : ReturnCode × Srv D}
    (h : processH2tData io cfg s = some y) : Unused sock s y.2 :=
  (frames_unused io sock).changes (changes_h2t h)
    (by simp [h2tParts, usedParts, Set.insert_subset_iff, hne.symm, hne'.symm])

theorem unused_t2h (hne : sock ≠ .t2hData) (s : Srv D) : Unused sock s (processT2hData io cfg s).2 :=
  (frames_unused io sock).changes (changes_t2h s)
    (by simp [t2hParts, usedParts, Set.insert_subset_iff, hne.symm])

theorem unused_mgmt (hne : sock ≠ .mgmt) (hne' : sock ≠ .mgmtRsp) {y : ReturnCode × Srv D}
    (h : processMgmtData io cfg s = some y) : Unused sock s y.2 :=
  (frames_unused io sock).changes (changes_mgmt h)
    (by simp [mgmtParts, usedParts, Set.insert_subset_iff, hne.symm, hne'.symm])

theorem unused_mgmtRsp (hne : sock ≠ .mgmtRsp) (s : Srv D) :
    Unused sock s (processMgmtRspData io cfg s).2 :=
  (frames_unused io sock).changes (changes_mgmtRsp s)
    (by simp [mgmtRspParts, usedParts, Set.insert_subset_iff, hne.symm])

/-! ## Control messages -/

theorem unused_setParameter (io : Mmio D) (paramName : List UInt8) (s : Srv D) :
    Unused sock s (setParameter paramName s).2 :=
  (frames_unused io sock).changes (changes_setParameter paramName s)
    (by simp [parameterParts, usedParts, Set.insert_subset_iff])

theorem unused_setDriverParameter {paramName : List UInt8} {y : List UInt8 × Srv D}
    (h : setDriverParameter io paramName s = some y) : Unused sock s y.2 :=
  (frames_unused io sock).changes (changes_setDriverParameter h)
    (by simp [usedParts, Set.insert_subset_iff])

theorem unused_getDriverParameter (io : Mmio D) (paramName : List UInt8) (s : Srv D) :
    Unused sock s (getDriverParameter io paramName s).2 :=
  (frames_unused io sock).changes (changes_getDriverParameter paramName s)
    (by simp [usedParts, Set.insert_subset_iff])

theorem unused_control (hne : sock ≠ .ctrl) {y : ReturnCode × Bool × Srv D}
    (h : processControlMessage io cfg s = some y) : Unused sock s y.2.2 :=
  (frames_unused io sock).changes (changes_control h)
    (by simp [controlParts, parameterParts, usedParts, Set.insert_subset_iff, hne.symm])

/-! ## Connections -/

theorem unused_rejectClient (io : Mmio D) (sock : Sock) (s : Srv D) : Unused sock s (rejectClient s) :=
  (frames_unused io sock).changes (changes_rejectClient s)
    (by simp [usedParts, Set.insert_subset_iff])

theorem unused_closeClientConn (io : Mmio D) (sock : Sock) (s : Srv D) :
    Unused sock s (closeClientConn s).2 :=
  (frames_unused io sock).changes (changes_closeClientConn s)
    (by simp [usedParts, Set.insert_subset_iff])

theorem unused_connectClientSocket (io : Mmio D) (hne : sock ≠ sock') (handle : Nat) (useNagle : Bool)
    (s : Srv D) : Unused sock s (connectClientSocket handle sock' useNagle s).2 :=
  (frames_unused io sock).changes (changes_connectClientSocket handle sock' useNagle s)
    (by simp [handshakeParts, usedParts, Set.insert_subset_iff, hne.symm])

end RemoteDebug
