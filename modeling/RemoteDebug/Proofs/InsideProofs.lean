import RemoteDebug.Hardware.RoundTripRun
import RemoteDebug.Proofs.EchoBytesProofs
import RemoteDebug.Proofs.SendProofs

/-!
# Proofs: packets inside the IP

`Holds` says which packets the IP holds: those it has looped, and those whose payload is in the window
with their descriptor uncompleted. An access that leaves the live payloads alone loses none of them.
-/

namespace RemoteDebug

open Bytes Cyclic Runs Script

variable {D : Type} {io : Mmio D} {cfg : Config} {ip : LoopIp io cfg.info} {s s' : Srv D} {d d' : D}
  {packets out held rest : List H2tPacket} {p : H2tPacket}

/-! ## Packets inside the IP -/

/-- The IP holds the packets, oldest first: those that are looped, and those whose payload is in the
window. -/
def LoopIp.Holds (ip : LoopIp io cfg.info) (packets : List H2tPacket) (d : D) : Prop :=
  ∃ back live, packets = back ++ live ∧ List.Forall₂ Returned back (ip.looped d) ∧
    List.Forall₂ (Stored cfg.info (ip.mem d)) live (ip.h2t.uncompleted d)

theorem Stored.howLong {m : Nat → UInt8} {x : Descriptor} (h : Stored cfg.info m p x) :
    x.howLong = p.payload.length := by
  obtain ⟨addr, rfl⟩ := h.descriptor
  rw [descriptor_howLong, p.len_eq, H2tPacket.header]

/-- A descriptor whose payload has not been touched is looped as its packet. -/
theorem Stored.returned {m m' : Nat → UInt8} {x : Descriptor} {l : Looped}
    (h : Stored cfg.info m p x) (hl : LoopedAs cfg.info m m' x l)
    (hkeep : ∀ i < x.howLong, m' (x.byteAddr cfg.info i) = m (x.byteAddr cfg.info i)) :
    Returned p l := by
  have hlen : l.payload.length = p.payload.length := hl.length.trans h.howLong
  refine ⟨hl.descriptor ▸ h.descriptor, List.ext_getElem hlen ?_⟩
  intro i hi hi'
  rw [← h.bytes i hi']
  rcases hl.bytes i hi with hbyte | hbyte
  · exact hbyte
  · rw [hbyte, hkeep i (hl.length ▸ hi)]

theorem Stored.keep {m m' : Nat → UInt8} {x : Descriptor} (h : Stored cfg.info m p x)
    (hkeep : ∀ i < x.howLong, m' (x.byteAddr cfg.info i) = m (x.byteAddr cfg.info i)) :
    Stored cfg.info m' p x := by
  refine ⟨h.descriptor, ?_⟩
  intro i hi
  rw [hkeep i (h.howLong ▸ hi), h.bytes i hi]

/-- **An access** that leaves the live payloads alone loses no packet. -/
theorem Loops.holds {live : List H2tPacket} {back : List H2tPacket} {descs : List Descriptor}
    {looped : List Looped} (h : Loops ip.h2t ip.mem ip.looped descs looped d d')
    (hback : List.Forall₂ Returned back looped)
    (hlive : List.Forall₂ (Stored cfg.info (ip.mem d)) live descs)
    (hkeep : ∀ x ∈ descs, ∀ i < x.howLong,
      ip.mem d' (x.byteAddr cfg.info i) = ip.mem d (x.byteAddr cfg.info i)) :
    ip.Holds (back ++ live) d' := by
  obtain ⟨taken, more, rfl, hmore, hloop⟩ := h
  have htaken := List.forall₂_take_append live taken _ hlive
  have hleft := List.forall₂_drop_append live taken _ hlive
  refine ⟨back ++ live.take taken.length, live.drop taken.length, ?_, ?_, ?_⟩
  · rw [List.append_assoc, List.take_append_drop]
  · rw [hmore]
    refine List.rel_append hback ?_
    -- each packet with its descriptor and what the IP has made of it
    clear hlive hleft hmore
    induction hloop generalizing live with
    | nil =>
      rw [List.length_nil, List.take_zero]
      exact .nil
    | @cons x l taken more hl _ ih =>
      cases live with
      | nil => cases htaken
      | cons p live =>
        rw [List.length_cons, List.take_succ_cons] at htaken ⊢
        obtain ⟨hp, htaken⟩ := List.forall₂_cons.mp htaken
        refine .cons (hp.returned hl (hkeep x (by simp))) (ih ?_ htaken)
        intro x' hx'
        exact hkeep x' (by simpa using .inr (by simpa using hx'))
  · refine List.forall₂_iff_zip.mpr ⟨hleft.length_eq, ?_⟩
    intro p x hmem
    refine (List.forall₂_zip hleft hmem).keep (hkeep x ?_)
    exact List.mem_append_right _ (List.of_mem_zip hmem).2

/-- An access that leaves the whole memory alone. -/
theorem LoopIp.Holds.quiet (h : ip.Holds packets d)
    (hloops : Loops ip.h2t ip.mem ip.looped (ip.h2t.uncompleted d) (ip.looped d) d d')
    (hmem : ip.mem d' = ip.mem d) : ip.Holds packets d' := by
  obtain ⟨back, live, rfl, hback, hlive⟩ := h
  refine hloops.holds hback hlive ?_
  intro x _ i _
  rw [hmem]

/-- What is live afterwards was live before. -/
theorem Loops.suffix {looped : List Looped} {descs : List Descriptor}
    (h : Loops ip.h2t ip.mem ip.looped descs looped d d') : ip.h2t.uncompleted d' <:+ descs := by
  obtain ⟨taken, -, rfl, -⟩ := h
  exact List.suffix_append _ _

/-! ## Stores -/

/-- No byte of a live payload is in the words `i` to `i + n` of the buffer. -/
def LoopIp.Clear (ip : LoopIp io cfg.info) (buff i n : Nat) (d : D) : Prop :=
  ∀ x ∈ ip.h2t.uncompleted d, ∀ j < x.howLong, ∀ k, i ≤ k → k < i + n →
    x.byteAddr cfg.info j < wordAddr buff k ∨ wordAddr buff k + 8 ≤ x.byteAddr cfg.info j

theorem host2fpgaLoop_holds (host : Nat → UInt8) {buff n i : Nat} {d : D}
    (hstart : WordsStart cfg.info buff i n) (hclear : ip.Clear buff i n d) (h : ip.Holds packets d) :
    ip.Holds packets (host2fpgaLoop io host buff n i d) ∧
      ip.h2t.uncompleted (host2fpgaLoop io host buff n i d) <:+ ip.h2t.uncompleted d := by
  induction n generalizing i d with
  | zero => exact ⟨h, List.suffix_refl _⟩
  | succ n ih =>
    obtain ⟨c, hc, haddr⟩ := hstart i le_rfl (by omega)
    have hloops := ip.store c (word64 host (8 * i)) d hc
    have hmem := ip.memory.store c (word64 host (8 * i)) d hc
    rw [← haddr] at hloops hmem
    have hkeep : ∀ x ∈ ip.h2t.uncompleted d, ∀ j < x.howLong,
        ip.mem (io.write64 (wordAddr buff i) (word64 host (8 * i)) d) (x.byteAddr cfg.info j) =
          ip.mem d (x.byteAddr cfg.info j) := by
      intro x hx j hj
      refine (congrFun hmem _).trans (store64_outside _ _ _ ?_)
      exact hclear x hx j hj i le_rfl (by omega)
    obtain ⟨back, live, rfl, hback, hlive⟩ := h
    have hsuffix := Loops.suffix hloops
    obtain ⟨hrest, hsuffix'⟩ := ih (i := i + 1) (fun k hle hlt => hstart k (by omega) (by omega))
      (fun x hx j hj k hle hlt => hclear x (hsuffix.subset hx) j hj k (by omega) (by omega))
      (Loops.holds hloops hback hlive hkeep)
    exact ⟨hrest, hsuffix'.trans hsuffix⟩

/-- A part of a payload, if it arrives, is stored in its words. -/
theorem socketRecvAccumulateH2tData_holds {buff len : Nat}
    (hstart : WordsStart cfg.info buff 0 ((len + 7) / 8))
    (hclear : ip.Clear buff 0 ((len + 7) / 8) s.dev) (h : ip.Holds packets s.dev) :
    ip.Holds packets (socketRecvAccumulateH2tData io .h2tData buff len s).2.dev ∧
      ip.h2t.uncompleted (socketRecvAccumulateH2tData io .h2tData buff len s).2.dev <:+
        ip.h2t.uncompleted s.dev := by
  unfold socketRecvAccumulateH2tData
  dsimp only
  split
  · exact host2fpgaLoop_holds _ hstart hclear h
  · exact ⟨h, List.suffix_refl _⟩

/-- No byte of a live payload is in the `len` bytes from `buff` on. -/
def LoopIp.Free (ip : LoopIp io cfg.info) (buff len : Nat) (d : D) : Prop :=
  ∀ x ∈ ip.h2t.uncompleted d, ∀ j < x.howLong, ∀ t < len, x.byteAddr cfg.info j ≠ buff + t

theorem LoopIp.Free.suffix {buff len : Nat} (h : ip.Free buff len d)
    (hsuffix : ip.h2t.uncompleted d' <:+ ip.h2t.uncompleted d) : ip.Free buff len d' := by
  intro x hx
  exact h x (hsuffix.subset hx)

/-- A part that ends in the window with its last word. -/
theorem recvPart_holds (hwin : WindowAligned cfg.info) {buff len : Nat}
    (hbase : cfg.info.h2tMemBaseAddr ≤ buff)
    (hend : buff + getAlignedSz len ≤ cfg.info.h2tMemBaseAddr + cfg.info.h2tMemSz)
    (hfree : ip.Free buff (getAlignedSz len) s.dev) (h : ip.Holds packets s.dev) :
    ip.Holds packets (socketRecvAccumulateH2tData io .h2tData buff len s).2.dev ∧
      ip.h2t.uncompleted (socketRecvAccumulateH2tData io .h2tData buff len s).2.dev <:+
        ip.h2t.uncompleted s.dev := by
  have hbelow := hwin.below
  have hsz := getAlignedSz_eq len
  have haddr : ∀ k < (len + 7) / 8, wordAddr buff k = buff + 8 * k := by
    intro k hk
    exact Nat.mod_eq_of_lt (by omega)
  refine socketRecvAccumulateH2tData_holds ?_ ?_ h
  · intro k _ hk
    refine ⟨buff + 8 * k - cfg.info.h2tMemBaseAddr, by omega, ?_⟩
    rw [haddr k (by omega), windowAddr, Nat.mod_eq_of_lt (by omega)]
    omega
  · intro x hx j hj k _ hk
    rw [haddr k (by omega)]
    by_contra hin
    refine hfree x hx j hj (x.byteAddr cfg.info j - buff) (by omega) (by omega)

/-- **Reception into a granted buffer** touches no packet inside the IP. -/
theorem recvH2tPayload_holds (hwin : WindowAligned cfg.info) {where_ len : Nat} (h16 : len < 2 ^ 16)
    (hg : GrantedAt cfg.info where_ len)
    (hfree : ∀ x ∈ ip.h2t.uncompleted s.dev, ∀ j < x.howLong, ∀ t < getAlignedSz len,
      x.byteAddr cfg.info j ≠ cfg.info.h2tMemBaseAddr +
        (where_ - cfg.info.h2tMemBaseAddr + t) % cfg.info.h2tMemSz)
    (h : ip.Holds packets s.dev) :
    ip.Holds packets (recvH2tPayload io cfg where_ len s).2.dev ∧
      ip.h2t.uncompleted (recvH2tPayload io cfg where_ len s).2.dev <:+
        ip.h2t.uncompleted s.dev := by
  obtain ⟨hbase, hlt, hword, hfit⟩ := hg
  have hbelow := hwin.below
  have hdvd := hwin.base
  have hdvd' := hwin.span
  have hsz := getAlignedSz_eq len
  rcases Nat.lt_or_ge (cfg.info.h2tMemBaseAddr + cfg.info.h2tMemSz) (where_ + len) with hwrap | hle
  · rw [recvH2tPayload_split io (by omega) h16 hlt hwrap]
    obtain ⟨first, hfirst⟩ : ∃ first,
        cfg.info.h2tMemBaseAddr + cfg.info.h2tMemSz - where_ = first := ⟨_, rfl⟩
    rw [hfirst]
    have hfirstSz : getAlignedSz first = first := by
      rw [getAlignedSz_eq]
      omega
    have hsecondSz := getAlignedSz_eq (len - first)
    have hfree₁ : ip.Free where_ (getAlignedSz first) s.dev := by
      intro x hx j hj t ht hne
      refine hfree x hx j hj t (by omega) ?_
      rw [hne, Nat.mod_eq_of_lt (by omega)]
      omega
    have hfree₂ : ip.Free cfg.info.h2tMemBaseAddr (getAlignedSz (len - first)) s.dev := by
      intro x hx j hj t ht hne
      refine hfree x hx j hj (first + t) (by omega) ?_
      rw [hne, Nat.mod_eq_sub_mod (by omega), Nat.mod_eq_of_lt (by omega)]
      omega
    obtain ⟨hpart, hsuffix⟩ := recvPart_holds (s := s) hwin hbase (by omega) hfree₁ h
    obtain ⟨hpart', hsuffix'⟩ := recvPart_holds hwin le_rfl (by omega) (hfree₂.suffix hsuffix) hpart
    exact ⟨hpart', hsuffix'.trans hsuffix⟩
  · rw [recvH2tPayload_unsplit io (by omega) h16 hle]
    refine recvPart_holds hwin hbase (by omega) ?_ h
    intro x hx j hj t ht hne
    refine hfree x hx j hj t ht ?_
    rw [hne, Nat.mod_eq_of_lt (by omega)]
    omega

/-- The buffer that is granted has no byte in common with a live payload. -/
theorem Granted.free {r : DescriptorRing} {live : List Descriptor} {lost sz addr : Nat}
    (h : Granted cfg.info ip.h2t.toQueueIp r d live lost sz addr) :
    ∀ x ∈ ip.h2t.uncompleted d, ∀ j < x.howLong, ∀ t < getAlignedSz sz,
      x.byteAddr cfg.info j ≠ cfg.info.h2tMemBaseAddr +
        (addr - cfg.info.h2tMemBaseAddr + t) % cfg.info.h2tMemSz := by
  intro x hx j hj t ht heq
  have hspace := h.space.space
  have hapart := h.space.laid.pairwise_disjoint (by omega)
  rw [List.pairwise_append] at hapart
  have hdisj := hapart.2.2 _ (List.mem_map_of_mem (h.uncompleted.subset hx)) _ List.mem_cons_self
  have hcell := Nat.add_left_cancel heq
  refine Set.disjoint_left.mp hdisj ⟨j, hj.trans_le (le_getAlignedSz _), rfl⟩ ⟨t, ht, ?_⟩
  exact hcell

/-! ## Reads of the T2H window -/

/-- From `d` to `d'` the IP loses no packet. -/
def LoopIp.Keeps (ip : LoopIp io cfg.info) (d d' : D) : Prop :=
  ∀ packets, ip.Holds packets d → ip.Holds packets d'

theorem fpga2hostLoop_keeps (ip : LoopIp io cfg.info) (buff : Nat) {n i : Nat} (st : Staging) (d : D)
    (hrange : ∀ j, i ≤ j → j < i + n → cfg.info.t2hMemBaseAddr ≤ buff + 8 * j ∧
      buff + 8 * j < cfg.info.t2hMemBaseAddr + cfg.info.t2hMemSz ∧ buff + 8 * j < 2 ^ 32) :
    ip.Keeps d (fpga2hostLoop io buff n i st d).2 := by
  induction n generalizing i st d with
  | zero => exact fun _ h => h
  | succ n ih =>
    obtain ⟨hlo, hhi, h32⟩ := hrange i le_rfl (by omega)
    obtain ⟨hloops, hmem⟩ := ip.load _ d hlo hhi
    intro packets h
    unfold fpga2hostLoop
    dsimp only
    rw [Nat.mod_eq_of_lt h32]
    exact ih (i := i + 1) _ _ (fun j hj hj' => hrange j (by omega) (by omega)) _ (h.quiet hloops hmem)

theorem socketSendAllT2hData_keeps (ip : LoopIp io cfg.info) (hok : T2hWindowOk cfg.info)
    (buff len : Nat) (s : Srv D) (hlo : cfg.info.t2hMemBaseAddr ≤ buff)
    (hhi : buff + len ≤ cfg.info.t2hMemBaseAddr + cfg.info.t2hMemSz) :
    ip.Keeps s.dev (socketSendAllT2hData io .t2hData buff len s).2.dev := by
  have h31 : cfg.info.t2hMemBaseAddr + cfg.info.t2hMemSz ≤ 2 ^ 31 := hok
  refine fpga2hostLoop_keeps ip buff s.sendBuff s.dev ?_
  intro j _ hj
  omega

theorem sendT2hPayload_keeps (ip : LoopIp io cfg.info) (hok : T2hWindowOk cfg.info) {off len : Nat}
    (s : Srv D) (hoff : off < cfg.info.t2hMemSz) (hlen : len ≤ cfg.info.t2hMemSz)
    (h16 : len < 2 ^ 16) :
    ip.Keeps s.dev (sendT2hPayload io cfg (cfg.info.t2hMemBaseAddr + off) len s).2.dev := by
  have h31 : cfg.info.t2hMemBaseAddr + cfg.info.t2hMemSz ≤ 2 ^ 31 := hok
  by_cases hwrap : cfg.info.t2hMemBaseAddr + cfg.info.t2hMemSz < cfg.info.t2hMemBaseAddr + off + len
  · rw [sendT2hPayload_split io cfg (by omega) h16 (by omega) hwrap]
    dsimp only
    have hfirst := socketSendAllT2hData_keeps ip hok (cfg.info.t2hMemBaseAddr + off)
      (cfg.info.t2hMemBaseAddr + cfg.info.t2hMemSz - (cfg.info.t2hMemBaseAddr + off)) s
      (by omega) (by omega)
    split
    · intro packets h
      exact socketSendAllT2hData_keeps ip hok _ _ _ le_rfl (by omega) _ (hfirst _ h)
    · exact hfirst
  · rw [sendT2hPayload_unsplit io cfg _ (by omega) h16 (by omega)]
    exact socketSendAllT2hData_keeps ip hok _ _ s (by omega) (by omega)

end RemoteDebug
