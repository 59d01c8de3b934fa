import RemoteDebug.Proofs.EchoBytesProofs

/-!
# Proofs: lengths of T2H packets

The length of a descriptor has 31 bits and that of a header 16. Below 64 KiB header and payload have the
length of the descriptor; from there on its upper bits are lost, and with them the payload, or the whole
packet if nothing else is left.
-/

namespace RemoteDebug

open Bytes Script

variable {D : Type} {io : Mmio D} {cfg : Config} {s s' : Srv D} {memSize : Nat}

/-- A payload that starts in the window is sent with all its bytes, in one part or in two. -/
theorem sendT2hPayload_length (io : Mmio D)
    (h64 : cfg.info.t2hMemBaseAddr + cfg.info.t2hMemSz + 2 ^ 16 ≤ 2 ^ 64) {buff len : Nat}
    (h16 : len < 2 ^ 16) (hlt : buff < cfg.info.t2hMemBaseAddr + cfg.info.t2hMemSz) (s : Srv D) :
    ∃ payload, payload.length = len ∧ Sends payload s (sendT2hPayload io cfg buff len s) := by
  rcases Nat.lt_or_ge (cfg.info.t2hMemBaseAddr + cfg.info.t2hMemSz) (buff + len) with hwrap | hle
  · have hsplit := sendT2hPayload_split io cfg h64 h16 hlt hwrap s
    dsimp only at hsplit
    rw [hsplit]
    have hfirst := socketSendAllT2hData_buffer io buff
      (cfg.info.t2hMemBaseAddr + cfg.info.t2hMemSz - buff) s
    generalize socketSendAllT2hData io .t2hData buff
      (cfg.info.t2hMemBaseAddr + cfg.info.t2hMemSz - buff) s = x at hfirst ⊢
    refine ⟨_, ?_, hfirst.andThen fun _ =>
      socketSendAllT2hData_buffer io cfg.info.t2hMemBaseAddr _ x.2⟩
    rw [List.length_append, readBytes_length, readBytes_length]
    omega
  · rw [sendT2hPayload_unsplit io cfg buff h64 h16 hle]
    exact ⟨_, readBytes_length _ _ _, socketSendAllT2hData_buffer io buff len s⟩

/-- The T2H windows of the command line have 64-bit addresses. -/
theorem getDesignInfo_t2h_bound (h63 : memSize < 2 ^ 63) :
    (getDesignInfo memSize).t2hMemBaseAddr + (getDesignInfo memSize).t2hMemSz + 2 ^ 16 ≤ 2 ^ 64 := by
  unfold getDesignInfo t2hMemBase4k
  dsimp only
  split <;> omega

/-- **A descriptor below 64 KiB** is sent whole. -/
theorem sendsWhole_of_lt (h64 : cfg.info.t2hMemBaseAddr + cfg.info.t2hMemSz + 2 ^ 16 ≤ 2 ^ 64)
    (hfit : PresentsFitting io cfg.info.t2hMemSz s.dev) (h16 : (frontT2h io s.dev).howLong < 2 ^ 16)
    (hcall : processT2hData io cfg s = (.ok, s')) : SendsWhole io s s' := by
  have haddr := hfit.addr_lt
  obtain ⟨header, sop, hget, hlen⟩ := getT2hData_data cfg.info (headerOf s.conn.t2hHeaderBuff) s.drv
    (by rw [Nat.mod_eq_of_lt h16]; exact hfit.howLong_pos.ne')
  rw [Nat.mod_eq_of_lt h16] at hlen
  have hbuff : ((frontT2h io s.dev).addr % 2 ^ 32 + cfg.info.t2hMemBaseAddr) % 2 ^ 32 <
      cfg.info.t2hMemBaseAddr + cfg.info.t2hMemSz := by
    have hle := Nat.mod_le (frontT2h io s.dev).addr (2 ^ 32)
    have hle' := Nat.mod_le ((frontT2h io s.dev).addr % 2 ^ 32 + cfg.info.t2hMemBaseAddr) (2 ^ 32)
    omega
  unfold processT2hData at hcall
  rw [hget] at hcall
  dsimp only at hcall
  generalize ((frontT2h io s.dev).addr % 2 ^ 32 + cfg.info.t2hMemBaseAddr) % 2 ^ 32 = buff
    at hcall hbuff
  obtain ⟨s₁, hs₁⟩ : ∃ s₁ : Srv D, { s with
    conn := { s.conn with t2hHeaderBuff := putHeader s.conn.t2hHeaderBuff header }
    drv := { s.drv with t2hSop := sop }
    dev := (io.read64 stDbgIpT2hConnectionId (io.read64 stDbgIpT2hHowLong s.dev).2).2 } = s₁ :=
    ⟨_, rfl⟩
  have hlog : s₁.log = s.log := by
    rw [← hs₁]
  rw [hs₁] at hcall
  have hhead := sendAll_sends (putHeader s.conn.t2hHeaderBuff header).bytes s₁
  generalize s₁.sendAll .t2hData (putHeader s.conn.t2hHeaderBuff header).bytes = y at hcall hhead
  obtain ⟨payload, hlength, hpayload⟩ := sendT2hPayload_length io h64 (hlen ▸ h16) hbuff y.2
  have hboth := hhead.andThen fun _ => hpayload
  by_cases hy : y.1 = .ok
  · rw [if_pos hy] at hcall hboth
    generalize sendT2hPayload io cfg buff header.dataLenBytes.toNat y.2 = z at hcall hboth
    by_cases hz : z.1 = .ok
    · rw [if_pos hz] at hcall
      obtain ⟨-, rfl⟩ := Prod.mk.inj hcall
      refine ⟨header, payload, hlen, hlength.trans hlen, ?_⟩
      have hdone : wire (z.2.log ++ [.t2hDataComplete]) = wire z.2.log ++ [none] := wire_append _ _
      rw [wirePacket, ← List.append_assoc, ← hlog, ← hboth.wire_ok hz]
      exact hdone
    · rw [if_neg hz] at hcall
      exact absurd (congrArg Prod.fst hcall) hz
  · rw [if_neg hy] at hcall
    exact absurd (congrArg Prod.fst hcall) hy

/-- **Lengths**: a successful call of `process_t2h_data` sends the whole payload of a descriptor that fits
the window, under its length, exactly if it has fewer than 64 KiB. -/
theorem t2h_sent_whole_iff (h63 : memSize < 2 ^ 63) (charSigned : Bool)
    (hfit : PresentsFitting io memSize s.dev)
    (hcall : processT2hData io ⟨getDesignInfo memSize, charSigned⟩ s = (.ok, s')) :
    SendsWhole io s s' ↔ (frontT2h io s.dev).howLong < 2 ^ 16 := by
  constructor
  · rintro ⟨header, payload, hlen, -, -⟩
    rw [← hlen]
    exact header.dataLenBytes.toNat_lt
  · intro h16
    exact sendsWhole_of_lt (getDesignInfo_t2h_bound h63) hfit h16 hcall

/-- Four bytes that wrap at the end of a window of 64 KiB. -/
theorem t2h_sent_whole_wrapping :
    SendsWhole debugIp DebugIp.presenting
      (processT2hData debugIp ⟨getDesignInfo 0x10000, true⟩ DebugIp.presenting).2 := by
  have hfit : PresentsFitting debugIp 0x10000 DebugIp.presenting.dev := by
    constructor <;> decide
  have hok : (processT2hData debugIp ⟨getDesignInfo 0x10000, true⟩ DebugIp.presenting).1 = .ok := by
    decide
  exact (t2h_sent_whole_iff (by omega) true hfit (Prod.ext hok rfl)).mpr (by decide)

/-- The server when the small debug IP presents a descriptor of 64 KiB. -/
def DebugIp.presentingLarge : Srv DebugIp :=
  { DebugIp.session DebugIp.idle (fun _ => []) fun _ => [] with
    dev := .start [⟨2 ^ 16, 7⟩] [] fun _ => 0 }

/-- 64 KiB in a window of 128 KiB are taken for no data: the call succeeds, and nothing goes out. -/
theorem t2h_64k_lost :
    PresentsFitting debugIp 0x20000 DebugIp.presentingLarge.dev ∧
      ∃ s', processT2hData debugIp ⟨getDesignInfo 0x20000, true⟩ DebugIp.presentingLarge = (.ok, s') ∧
        s'.log = DebugIp.presentingLarge.log ∧ ¬ SendsWhole debugIp DebugIp.presentingLarge s' := by
  refine ⟨by constructor <;> decide, _, rfl, rfl, ?_⟩
  rintro ⟨header, payload, hlen, -⟩
  have h16 : header.dataLenBytes.toNat < 2 ^ 16 := header.dataLenBytes.toNat_lt
  have hlong : (frontT2h debugIp DebugIp.presentingLarge.dev).howLong = 2 ^ 16 := rfl
  omega

end RemoteDebug
