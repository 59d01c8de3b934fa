import RemoteDebug.Proofs.RoundTripProofs
import RemoteDebug.Proofs.UnusedProofs

/-!
# Proofs: what does not concern the T2H socket

`T2hQuiet` says that a part of the server sends nothing on the T2H socket and that the script of its `send`
calls is as before; what is received on the socket and its options do not matter.
-/

namespace RemoteDebug

open Bytes Script

variable {D : Type} {s s' s'' : Srv D}

/-- From `s` to `s'` the T2H socket has not been used. -/
structure T2hQuiet (s s' : Srv D) : Prop where
  bytes : t2hBytes s'.log = t2hBytes s.log
  tx : (s'.client .t2hData).tx = (s.client .t2hData).tx

theorem T2hQuiet.refl (s : Srv D) : T2hQuiet s s := ⟨rfl, rfl⟩

theorem T2hQuiet.trans (h : T2hQuiet s s') (h' : T2hQuiet s' s'') : T2hQuiet s s'' :=
  ⟨h'.bytes.trans h.bytes, h'.tx.trans h.tx⟩

theorem t2hBytes_append (log evs : List Event) :
    t2hBytes (log ++ evs) = t2hBytes log ++ t2hBytes evs := by
  unfold t2hBytes
  rw [wire_append, List.reduceOption_append]

theorem T2hQuiet.record (h : T2hQuiet s s') {e : Event} (he : t2hBytes [e] = []) :
    T2hQuiet s (s'.record e) := by
  refine ⟨?_, h.tx⟩
  show t2hBytes (s'.log ++ [e]) = t2hBytes s.log
  rw [t2hBytes_append, he, List.append_nil, h.bytes]

theorem t2hBytes_eq (log : List Event) : t2hBytes log = sentOn .t2hData log := by
  induction log with
  | nil => rfl
  | cons e log ih =>
    have hone : (wireEvent e).reduceOption = sentOn .t2hData [e] := by
      cases e with
      | sent sock bs =>
        cases sock with
        | t2hData =>
          show (bs.map some).reduceOption = bs ++ []
          rw [reduceOption_some, List.append_nil]
        | ctrl | mgmt | mgmtRsp | h2tData => rfl
      | _ => rfl
    rw [← List.singleton_append, t2hBytes_append, sentOn_append, ih, ← hone]
    exact congrArg (· ++ _) (congrArg _ (List.flatMap_singleton ..))

/-- Of the parts only these concern what a client reads from the T2H socket, and how. -/
def t2hSocketParts : Set StatePart := {.send .t2hData, .socket .t2hData, .clients}

theorem t2hBytes_record (s : Srv D) {e : Event} (h : e.part ≠ .send .t2hData) :
    t2hBytes (s.record e).log = t2hBytes s.log := by
  show t2hBytes (s.log ++ [e]) = t2hBytes s.log
  rw [t2hBytes_append]
  cases e with
  | sent sock bs =>
    have hsock : sock ≠ .t2hData := by simpa [Event.part] using h
    rw [t2hBytes_eq [.sent sock bs]]
    simp [sentOn, hsock]
  | _ => exact List.append_nil _

theorem frames_quiet (io : Mmio D) : Frames io t2hSocketPartsᶜ T2hQuiet where
  refl := T2hQuiet.refl
  trans := T2hQuiet.trans
  change := by
    intro part s s' hpart hchange
    cases hchange with
    | record s e =>
      refine ⟨t2hBytes_record s ?_, rfl⟩
      intro h
      simp [t2hSocketParts, h] at hpart
    | recv s sock rx | send s sock tx | option s sock noDelay =>
      refine ⟨rfl, ?_⟩
      by_cases h : sock = .t2hData
      · subst h
        simp [t2hSocketParts, Srv.setRx] at hpart ⊢
      · simp [Srv.setRx, Srv.setTx, Function.update_of_ne (Ne.symm h)]
    | socket s sock c =>
      have hne : sock ≠ .t2hData := by simpa [t2hSocketParts] using hpart
      exact ⟨rfl, congrArg Socket.tx (Function.update_of_ne hne.symm _ _)⟩
    | clients => simp [t2hSocketParts] at hpart
    | _ => exact ⟨rfl, rfl⟩

end RemoteDebug
