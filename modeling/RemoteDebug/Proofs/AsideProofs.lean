import RemoteDebug.Proofs.ChangeProofs
import RemoteDebug.Proofs.ChannelProofs

/-!
# Calls that leave the H2T channel alone

Everything the server does for its sockets other than H2T and T2H touches neither the staging buffers
nor the H2T ring, and lets the IP proceed.
-/

namespace RemoteDebug

open Bytes

variable {D : Type} {io : Mmio D} {cfg : Config} (ip : ChannelIp io cfg.info .h2t)
  {s s' s'' : Srv D}

/-- The staging buffers and the H2T ring are as they were. -/
structure Aside (ip : ChannelIp io cfg.info .h2t) (s s' : Srv D) : Prop where
  recvBuff : s'.recvBuff = s.recvBuff
  sendBuff : s'.sendBuff = s.sendBuff
  ring : s'.drv.h2t = s.drv.h2t
  proceeds : ip.Proceeds s.dev s'.dev

theorem Aside.refl (s : Srv D) : Aside ip s s := ⟨rfl, rfl, rfl, ChannelIp.Proceeds.refl ip _⟩

variable {ip} in
theorem Aside.trans (h : Aside ip s s') (h' : Aside ip s' s'') : Aside ip s s'' :=
  ⟨h'.recvBuff.trans h.recvBuff, h'.sendBuff.trans h.sendBuff, h'.ring.trans h.ring,
    h.proceeds.trans h'.proceeds⟩

/-- A change of what is neither hardware, driver nor staging buffer. -/
theorem aside_of_eq (h1 : s'.recvBuff = s.recvBuff) (h2 : s'.sendBuff = s.sendBuff)
    (h3 : s'.drv = s.drv) (h4 : s'.dev = s.dev) : Aside ip s s' :=
  ⟨h1, h2, congrArg Driver.h2t h3, h4 ▸ ChannelIp.Proceeds.refl ip _⟩

/-- All parts but the H2T ring, the staging buffers and what is written to the hardware. -/
def asideParts : Set StatePart := {.staging, .ring, .write, .device}ᶜ

theorem frames_aside : Frames io asideParts (Aside ip) where
  refl := Aside.refl ip
  trans := Aside.trans
  change := by
    intro part s s' hpart hchange
    cases hchange with
    | staging | ring | write | device => simp [asideParts] at hpart
    | register s offset h => exact ⟨rfl, rfl, rfl, ip.read32 offset s.dev⟩
    | read s offset => exact ⟨rfl, rfl, rfl, ip.read64 offset s.dev⟩
    | done s offset v hdone =>
      exact ⟨rfl, rfl, rfl, ip.write32 offset v s.dev (by simp at hdone ⊢; tauto)⟩
    | configure s v => exact ⟨rfl, rfl, rfl, ip.write32 _ v s.dev (by simp)⟩
    | _ => exact ⟨rfl, rfl, rfl, ChannelIp.Proceeds.refl ip _⟩

theorem aside_sendAll (sock : Sock) (bs : List UInt8) : Aside ip s (s.sendAll sock bs).2 :=
  aside_of_eq ip rfl rfl rfl rfl

theorem aside_control {x : ReturnCode × Bool × Srv D}
    (h : processControlMessage io cfg s = some x) : Aside ip s x.2.2 :=
  (frames_aside ip).changes (changes_control h)
    (by simp [controlParts, parameterParts, asideParts, Set.insert_subset_iff])

theorem aside_mgmt {x : ReturnCode × Srv D} (h : processMgmtData io cfg s = some x) :
    Aside ip s x.2 :=
  (frames_aside ip).changes (changes_mgmt h) (by simp [mgmtParts, asideParts, Set.insert_subset_iff])

theorem aside_mgmtRsp (s : Srv D) : Aside ip s (processMgmtRspData io cfg s).2 :=
  (frames_aside ip).changes (changes_mgmtRsp s)
    (by simp [mgmtRspParts, asideParts, Set.insert_subset_iff])

/-- Behind `init_driver`, `connect_client` leaves the H2T channel alone. -/
theorem aside_connectClient {rc : Int} {drv : Driver} {d : D}
    (hinit : initDriver io cfg.info s.drv s.dev = (rc, drv, d)) :
    Aside ip { s with drv := drv, dev := d } (connectClient io cfg s).2 ∧
      ((connectClient io cfg s).1 = .ok → rc = 0) := by
  have hchanges : Changes io connectParts _ (connectClient io cfg s).2 := changes_connectClient cfg s
  rw [hinit] at hchanges
  constructor
  · exact (frames_aside ip).changes hchanges
      (by simp [connectParts, handshakeParts, asideParts, Set.insert_subset_iff])
  · intro hok
    unfold connectClient at hok
    rw [hinit] at hok
    dsimp only at hok
    split at hok
    · cases hok
    · next hrc => simpa using hrc

theorem aside_rejectClient (s : Srv D) : Aside ip s (rejectClient s) :=
  (frames_aside ip).changes (changes_rejectClient s)
    (by simp [asideParts, Set.insert_subset_iff])

theorem aside_closeClientConn (s : Srv D) : Aside ip s (closeClientConn s).2 :=
  (frames_aside ip).changes (changes_closeClientConn s)
    (by simp [asideParts, Set.insert_subset_iff])

end RemoteDebug
