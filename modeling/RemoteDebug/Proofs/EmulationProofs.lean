import RemoteDebug.Hardware.CsrIp
import RemoteDebug.Proofs.T2hProofs

/-!
# 64-bit accesses in two halves

The driver over the 32-bit emulation of the bus refines the driver over the native bus. The first half
of a pair of registers never has a side effect, and what the IP does between the two halves can be
moved before the access or behind it.
-/

namespace RemoteDebug

open Bytes Interleaving CsrIp

variable {o : Outbound} {offset v : Nat} {d : CsrIp} {pending : List IpStep}
  {sched : List (List IpStep)}

theorem csrAt_offset (r : Csr) : csrAt r.offset = some r := by
  cases r with
  | _ x => cases x <;> rfl

/-- There is no register at the words of the memory. -/
theorem csrAt_memory (h : MemoryWord offset) :
    csrAt offset = none ∧ csrAt (offset + 4) = none := by
  have hnone {a : Nat} (ha : ∀ r : Csr, r.offset ≠ a) : csrAt a = none := by
    unfold csrAt
    rw [List.find?_eq_none]
    intro r _
    simpa using ha r
  refine ⟨hnone fun r hr => ?_, hnone fun r hr => ?_⟩
  · have hapart := h.2 r
    omega
  · have hapart := h.2 r
    omega

/-- All registers lie below `0x2000`. -/
theorem memoryWord_of_le (h : 0x2000 ≤ offset) (hfits : offset + 8 ≤ 2 ^ 32) :
    MemoryWord offset := by
  refine ⟨hfits, fun r => Or.inl ?_⟩
  have hlow : r.offset + 4 ≤ 0x2000 := by
    cases r with
    | _ x => cases x <;> decide
  omega

/-! ## Steps of the IP -/

/-- The step stores a byte of the word at `offset`. -/
def IpStep.touches (offset : Nat) : IpStep → Bool
  | .store addr _ => decide (offset ≤ addr ∧ addr < offset + 4)
  | _ => false

theorem step_comm_of_touches {e e' : IpStep} (h : e.touches offset = true)
    (h' : e'.touches offset = false) (d : CsrIp) : step e' (step e d) = step e (step e' d) := by
  cases e with
  | complete ch => cases h
  | present o x => cases h
  | store addr b =>
    cases e' with
    | complete ch => rfl
    | present o x => rfl
    | store addr' b' =>
      have hne : addr ≠ addr' := by
        rintro rfl
        rw [IpStep.touches] at h h'
        rw [h] at h'
        cases h'
      simp only [step]
      rw [Function.update_comm hne]

/-- A step that does not touch a word leaves it alone, and so does a store to the word for the rest. -/
theorem word32_step {e : IpStep} (h : e.touches offset = false) (d : CsrIp) :
    word32 (step e d).mem offset = word32 d.mem offset := by
  cases e with
  | complete ch => rfl
  | present o x => rfl
  | store addr b =>
    have hout : ¬ (offset ≤ addr ∧ addr < offset + 4) := by simpa [IpStep.touches] using h
    exact word32_congr fun x h1 h2 => Function.update_of_ne (by omega) _ _

theorem store32_step {e : IpStep} (h : e.touches offset = false) (d : CsrIp) :
    ({ step e d with mem := store32 (step e d).mem offset v } : CsrIp)
      = step e { d with mem := store32 d.mem offset v } := by
  cases e with
  | complete ch => rfl
  | present o x => rfl
  | store addr b =>
    have hout : ¬ (offset ≤ addr ∧ addr < offset + 4) := by simpa [IpStep.touches] using h
    simp only [step]
    congr 1
    funext x
    by_cases hx : x = addr
    · subst hx
      simp [store32, hout]
    · simp [store32, Function.update_of_ne hx]

theorem not_touches_next {e : IpStep} (h : e.touches offset = true) :
    e.touches (offset + 4) = false := by
  cases e with
  | complete ch => rfl
  | present o x => rfl
  | store addr b =>
    simp only [IpStep.touches, decide_eq_true_eq, decide_eq_false_iff_not] at h ⊢
    omega

/-- The IP presents a descriptor on the channel. -/
def Presents (o : Outbound) (d : CsrIp) : Prop := d.waiting o ≠ []

/-- New descriptors queue up behind the one that is presented. -/
theorem Presents.step (h : Presents o d) (e : IpStep) :
    Presents o (step e d) ∧ ((step e d).waiting o).head? = (d.waiting o).head? := by
  cases e with
  | complete ch => exact ⟨h, rfl⟩
  | store addr b => exact ⟨h, rfl⟩
  | present o' x =>
    obtain ⟨y, l, hl⟩ := List.exists_cons_of_ne_nil h
    by_cases ho : o = o'
    · subst ho
      simp [Presents, CsrIp.step, hl]
    · simp [Presents, CsrIp.step, Function.update_of_ne ho, hl]

/-! ## Accesses -/

theorem readWord_memory (h : csrAt offset = none) :
    readWord offset = ⟨fun d => word32 d.mem offset, id⟩ := by
  simp only [readWord, h]
  rfl

theorem writeWord_memory (h : csrAt offset = none) :
    writeWord offset v = ⟨fun _ => (), fun d => { d with mem := store32 d.mem offset v }⟩ := by
  simp only [writeWord, h]

/-- On the native bus the memory is little-endian. -/
theorem bus_memory (h : MemoryWord offset) (x : Bus) :
    (bus.read64 offset x).1 = word64 (turn step x).1.mem offset ∧
      (bus.write64 offset v x).1.mem = store64 (turn step x).1.mem offset v := by
  obtain ⟨hlo, hhi⟩ := csrAt_memory h
  refine ⟨?_, ?_⟩
  · simp only [bus, Access.run, Access.both, readWord_memory hlo, readWord_memory hhi, id_eq,
      word64_halves]
  · simp only [bus, Access.run, Access.both, writeWord_memory hlo, writeWord_memory hhi,
      store64_halves]

/-- The halves of a 64-bit read below the end of the bus. -/
theorem emulated_read64 (h : offset + 4 < 2 ^ 32) : bus.emulated.read64 offset = fun x =>
    let w := (readWord offset).split step (readWord (offset + 4)) x
    (w.1.1 ||| w.1.2 <<< 32, w.2) := by
  funext x
  simp only [Mmio.emulated, Nat.mod_eq_of_lt h]
  rfl

theorem emulated_write64 (h : offset + 4 < 2 ^ 32) : bus.emulated.write64 offset v = fun x =>
    ((writeWord offset (v % 2 ^ 32)).split step
      (writeWord (offset + 4) (v / 2 ^ 32 % 2 ^ 32)) x).2 := by
  funext x
  simp only [Mmio.emulated, Nat.mod_eq_of_lt h]
  rfl

/-- A 64-bit read in memory. -/
theorem refines_read64 (h : MemoryWord offset) :
    Refines step (bus.emulated.read64 offset) (bus.read64 offset) := by
  intro s pending sched
  obtain ⟨hlo, hhi⟩ := csrAt_memory h
  have hfits := h.1
  have hsplit : RefinesAt step ((readWord offset).split step (readWord (offset + 4)))
      (((readWord offset).both (readWord (offset + 4))).run step) s pending sched := by
    rw [readWord_memory hlo, readWord_memory hhi]
    exact refinesAt_split _ _ (IpStep.touches offset) (fun _ => True)
      (fun e e' d h h' => step_comm_of_touches h h' d) (fun _ _ _ => trivial) trivial
      (fun e d hnot _ => word32_step hnot d) (fun _ _ _ => rfl)
      (fun e d hlate => word32_step (not_touches_next hlate) d) (fun _ _ _ => rfl)
  rw [emulated_read64 (by omega)]
  exact hsplit.map fun w => w.1 ||| w.2 <<< 32

/-- A 64-bit write in memory. -/
theorem refines_write64 (h : MemoryWord offset) :
    Refines step (fun x => ((), bus.emulated.write64 offset v x))
      (fun x => ((), bus.write64 offset v x)) := by
  intro s pending sched
  obtain ⟨hlo, hhi⟩ := csrAt_memory h
  have hfits := h.1
  have hsplit : RefinesAt step ((writeWord offset (v % 2 ^ 32)).split step
        (writeWord (offset + 4) (v / 2 ^ 32 % 2 ^ 32)))
      (((writeWord offset (v % 2 ^ 32)).both (writeWord (offset + 4) (v / 2 ^ 32 % 2 ^ 32))).run
        step) s pending sched := by
    rw [writeWord_memory hlo, writeWord_memory hhi]
    exact refinesAt_split _ _ (IpStep.touches offset) (fun _ => True)
      (fun e e' d h h' => step_comm_of_touches h h' d) (fun _ _ _ => trivial) trivial
      (fun _ _ _ _ => rfl) (fun e d hnot => store32_step hnot d)
      (fun _ _ _ => rfl) (fun e d hlate => store32_step (not_touches_next hlate) d)
  rw [emulated_write64 (by omega)]
  exact hsplit.map fun _ => ()

/-- A 64-bit write to a pair of registers, the first of which no step of the IP concerns. -/
theorem refines_setCsr (r r' : Csr) (hnext : r'.offset = r.offset + 4)
    (hcomm : ∀ e d v, (step e d).setCsr v r = step e (d.setCsr v r)) :
    Refines step (fun x => ((), bus.emulated.write64 r.offset v x))
      (fun x => ((), bus.write64 r.offset v x)) := by
  intro s pending sched
  have hword (v : Nat) : writeWord r.offset v = ⟨fun _ => (), fun d => d.setCsr v r⟩ := by
    simp only [writeWord, csrAt_offset]
  have hfits : r'.offset < 2 ^ 32 := by
    cases r' with
    | _ x => cases x <;> decide
  have hsplit : RefinesAt step ((writeWord r.offset (v % 2 ^ 32)).split step
        (writeWord (r.offset + 4) (v / 2 ^ 32 % 2 ^ 32)))
      (((writeWord r.offset (v % 2 ^ 32)).both (writeWord (r.offset + 4) (v / 2 ^ 32 % 2 ^ 32))).run
        step) s pending sched := by
    rw [hword]
    exact refinesAt_split _ _ (fun _ => false) (fun _ => True) (fun _ _ _ h => by cases h)
      (fun _ _ _ => trivial) trivial (fun _ _ _ _ => rfl) (fun e d _ => hcomm e d _)
      (fun _ _ h => by cases h) (fun _ _ h => by cases h)
  rw [emulated_write64 (hnext ▸ hfits)]
  exact hsplit.map fun _ => ()

/-- A 64-bit read of two outbound registers while the IP presents a descriptor. The steps between the
halves are taken before the access. -/
theorem refinesAt_csr {s : CsrIp} (r r' : Csr) (hnext : r'.offset = r.offset + 4)
    (hread : ∀ e d, Presents o d → (step e d).csr r = d.csr r)
    (heffect : ∀ d, (readWord r.offset).effect d = d)
    (hstart : Presents o (proceed step (pending ++ sched.headD []) s)) :
    RefinesAt step (bus.emulated.read64 r.offset) (bus.read64 r.offset) s pending sched := by
  have hfits : r'.offset < 2 ^ 32 := by
    cases r' with
    | _ x => cases x <;> decide
  have hvalue (d : CsrIp) : (readWord r.offset).read d = d.csr r := by
    simp only [readWord, csrAt_offset]
  rw [emulated_read64 (hnext ▸ hfits)]
  exact (refinesAt_split (readWord r.offset) (readWord (r.offset + 4)) (fun _ => false) (Presents o)
    (fun _ _ _ h => by cases h) (fun e d h => (h.step e).1) hstart
    (fun e d _ h => by rw [hvalue, hvalue]; exact hread e d h)
    (fun e d _ => by rw [heffect, heffect]) (fun _ _ h => by cases h)
    (fun _ _ h => by cases h)).map fun w => w.1 ||| w.2 <<< 32

/-! ## Calls -/

variable {α : Type} {info : DesignInfo}

/-- The two writes of a push. -/
theorem refines_push (ch : Channel) (v w : Nat) (res : α) :
    Refines step
      (fun x => (res, bus.emulated.write64 ch.pushReg w (bus.emulated.write64 ch.howLongReg v x)))
      (fun x => (res, bus.write64 ch.pushReg w (bus.write64 ch.howLongReg v x))) := by
  intro s pending sched
  have hfirst := refines_setCsr (v := v) (.howLong ch) (.where_ ch) rfl
    fun e d v => by cases e <;> rfl
  have hsecond := refines_setCsr (v := w) (.connectionId ch) (.channelIdPush ch) rfl
    fun e d v => by cases e <;> rfl
  exact (hfirst s pending sched).bind (fun _ x => (res, bus.emulated.write64 ch.pushReg w x))
    (fun _ x => (res, bus.write64 ch.pushReg w x))
    fun s' pending' _ => (hsecond s' pending' _).map fun _ => res

/-- A descriptor is given back. -/
theorem refines_done (o : Outbound) (res : α) :
    Refines step (fun x => (res, bus.emulated.write32 o.doneReg 1 x))
      (fun x => (res, bus.write32 o.doneReg 1 x)) := by
  intro s pending sched
  have hwrite : RefinesAt step ((writeWord o.doneReg 1).run step) ((writeWord o.doneReg 1).run step)
      s pending sched := refines_access _ s pending sched
  exact hwrite.map fun _ => res

/-- What `get_t2h_data` and `get_mgmt_rsp_data` read: the second pair of registers only if there is
data. -/
def acquireFrom {D : Type} (io : Mmio D) (o : Outbound) (base : Nat) (header : H2tPacketHeader)
    (sop : Bool) (empty : H2tPacketHeader → α) (found : H2tPacketHeader → Nat → Bool → Nat → α)
    (d : D) : α × D :=
  let howlongWhere := io.read64 o.howLongReg d
  match acquire base howlongWhere.1 header sop with
  | (header, none, _) => (empty header, howlongWhere.2)
  | (header, some payload, sop) =>
    let id := io.read64 (o.advanceReg - 0x4) howlongWhere.2
    (found header payload sop id.1, id.2)

theorem run_getT2hData {D : Type} (io : Mmio D) (header : H2tPacketHeader) (drv : Driver) (d : D) :
    DriverCall.run io info drv d (.getT2hData header)
      = acquireFrom io .t2h info.t2hMemBaseAddr header drv.t2hSop
        (fun header => (.header header none, drv))
        (fun header payload sop id =>
          (.header { header with
              connId := UInt8.ofNat id
              channel := UInt16.ofNat (id / 2 ^ 32) } (some payload), { drv with t2hSop := sop })) d := by
  simp only [DriverCall.run, getT2hData, acquireFrom, Outbound.howLongReg]
  generalize acquire info.t2hMemBaseAddr (io.read64 stDbgIpT2hHowLong d).1 header drv.t2hSop = x
  obtain ⟨header, payload, sop⟩ := x
  cases payload <;> rfl

theorem run_getMgmtRspData {D : Type} (io : Mmio D) (header : H2tPacketHeader) (drv : Driver)
    (d : D) : DriverCall.run io info drv d (.getMgmtRspData header)
      = acquireFrom io .mgmtRsp info.mgmtRspMemBaseAddr header drv.mgmtRspSop
        (fun header => (.header header none, drv))
        (fun header payload sop id =>
          (.header { header with channel := UInt16.ofNat (id / 2 ^ 32 % 2 ^ 32) } (some payload),
            { drv with mgmtRspSop := sop })) d := by
  simp only [DriverCall.run, getMgmtRspData, acquireFrom, Outbound.howLongReg]
  generalize acquire info.mgmtRspMemBaseAddr (io.read64 stDbgIpMgmtRspHowLong d).1 header
    drv.mgmtRspSop = x
  obtain ⟨header, payload, sop⟩ := x
  cases payload <;> rfl

/-- The upper half of the word does not matter if the lower one is zero. -/
theorem acquire_halves (base hi : Nat) (header : H2tPacketHeader) (sop : Bool) :
    acquire base (0 ||| hi <<< 32) header sop = ({ header with dataLenBytes := 0 }, none, sop) := by
  refine acquire_empty base header sop ?_
  rw [Nat.zero_or, Nat.shiftLeft_eq]
  omega

theorem readWord_outHowLong (o : Outbound) :
    readWord o.howLongReg = ⟨fun d => d.csr (.outHowLong o), id⟩ ∧
      readWord (o.howLongReg + 4) = ⟨fun d => d.csr (.outWhere o), id⟩ := by
  have hlo : csrAt o.howLongReg = some (.outHowLong o) := csrAt_offset (.outHowLong o)
  have hhi : csrAt (o.howLongReg + 4) = some (.outWhere o) := csrAt_offset (.outWhere o)
  refine ⟨?_, ?_⟩
  · simp only [readWord, hlo]
    rfl
  · simp only [readWord, hhi]
    rfl

/-- The reads of a descriptor. A descriptor that is presented between the halves of the first read is
not seen. -/
theorem refines_acquireFrom (o : Outbound) (base : Nat) (header : H2tPacketHeader) (sop : Bool)
    (empty : H2tPacketHeader → α) (found : H2tPacketHeader → Nat → Bool → Nat → α) :
    Refines step (acquireFrom bus.emulated o base header sop empty found)
      (acquireFrom bus o base header sop empty found) := by
  intro s pending sched
  obtain ⟨hlo, hhi⟩ := readWord_outHowLong o
  have hfits : o.howLongReg + 4 < 2 ^ 32 := by cases o <;> decide
  obtain ⟨s1, hs1⟩ : ∃ s1, proceed step (sched.headD []) (proceed step pending s) = s1 := ⟨_, rfl⟩
  have hemu : bus.emulated.read64 o.howLongReg (proceed step pending s, sched) =
      (s1.csr (.outHowLong o) ||| (proceed step (sched.tail.headD []) s1).csr (.outWhere o) <<< 32,
        proceed step (sched.tail.headD []) s1, sched.tail.tail) := by
    rw [emulated_read64 hfits]
    simp only [Access.split, Access.run, turn, hlo, hhi, hs1, id_eq]
  by_cases hpresents : Presents o s1
  · have hfirst : RefinesAt step (bus.emulated.read64 o.howLongReg) (bus.read64 o.howLongReg) s
        pending sched := by
      refine refinesAt_csr (o := o) (.outHowLong o) (.outWhere o) rfl ?_
        (fun d => by rw [show (Csr.outHowLong o).offset = o.howLongReg from rfl, hlo]; rfl) ?_
      · intro e d h
        simp only [csr, DebugIp.frontHowlong, (h.step e).2]
      · rw [proceed_append, hs1]
        exact hpresents
    refine hfirst.bind
      (fun v x =>
        match acquire base v header sop with
        | (header, none, _) => (empty header, x)
        | (header, some payload, sop) =>
          let id := bus.emulated.read64 (o.advanceReg - 0x4) x
          (found header payload sop id.1, id.2))
      (fun v x =>
        match acquire base v header sop with
        | (header, none, _) => (empty header, x)
        | (header, some payload, sop) =>
          let id := bus.read64 (o.advanceReg - 0x4) x
          (found header payload sop id.1, id.2)) fun s' pending' hstate => ?_
    rw [hemu] at hstate ⊢
    split
    · exact refinesAt_pure _ _ _ _
    · next header' payload sop' _ =>
      have hsecond : RefinesAt step (bus.emulated.read64 (o.advanceReg - 0x4))
          (bus.read64 (o.advanceReg - 0x4)) s' pending' sched.tail.tail := by
        have hword : csrAt (o.advanceReg - 0x4) = some (.outConnectionId o) :=
          csrAt_offset (.outConnectionId o)
        refine refinesAt_csr (o := o) (.outConnectionId o) (.channelIdAdvance o)
          (by cases o <;> rfl) ?_ (fun d => by simp only [readWord, Csr.offset, hword]) ?_
        · intro e d h
          simp only [csr, DebugIp.frontWord, (h.step e).2]
        · have hstable : ∀ l (d : CsrIp), Presents o d → Presents o (proceed step l d) :=
            fun l d h => proceed_invariant (fun e _ d h => (h.step e).1) h
          rw [proceed_append, hstate]
          exact hstable _ _ (hstable _ _ hpresents)
      exact hsecond.map fun id => found header' payload sop' id
  · have hnone : s1.waiting o = [] := not_not.mp hpresents
    have hzero : s1.csr (.outHowLong o) = 0 := by simp [csr, hnone, DebugIp.frontHowlong]
    have hempty : acquireFrom bus.emulated o base header sop empty found
        (proceed step pending s, sched) =
          (empty { header with dataLenBytes := 0 }, proceed step (sched.tail.headD []) s1,
            sched.tail.tail) := by
      simp only [acquireFrom, hemu, hzero, acquire_halves]
    refine ⟨[pending ++ sched.headD []], s1, sched.tail.headD [], fun rest => ?_, ?_, ?_⟩
    · have hread : bus.read64 o.howLongReg (s, [pending ++ sched.headD []] ++ rest) =
          (0 ||| s1.csr (.outWhere o) <<< 32, s1, rest) := by
        simp only [bus, Access.run, Access.both, turn, hlo, hhi, List.singleton_append,
          List.headD_cons, List.tail_cons, proceed_append, hs1, hzero, id_eq]
      rw [hempty]
      simp only [acquireFrom, hread, acquire_halves]
    · rw [hempty]
    · rw [hempty]
      simp only [List.flatten_cons, List.flatten_nil, List.append_nil, List.append_assoc,
        headD_append_flatten_tail, List.Perm.refl]

/-- The loop of a copy from the memory. -/
theorem refines_fpga2hostLoop {buff n i : Nat}
    (hmem : ∀ j, i ≤ j → j < i + n → MemoryWord ((buff + 8 * j) % 2 ^ 32)) (host : Staging) :
    Refines step (fpga2hostLoop bus.emulated buff n i host) (fpga2hostLoop bus buff n i host) := by
  induction n generalizing i host with
  | zero => exact fun s pending sched => refinesAt_pure host s pending sched
  | succ n ih =>
    intro s pending sched
    have hword := refines_read64 (hmem i le_rfl (by omega)) s pending sched
    exact hword.bind
      (fun w x => fpga2hostLoop bus.emulated buff n (i + 1) (host.storeWord (8 * i) w) x)
      (fun w x => fpga2hostLoop bus buff n (i + 1) (host.storeWord (8 * i) w) x)
      fun s' pending' _ => ih (fun j h1 h2 => hmem j (by omega) (by omega)) _ s' pending' _

/-- The loop of a copy to the memory. -/
theorem refines_host2fpgaLoop {buff n i : Nat}
    (hmem : ∀ j, i ≤ j → j < i + n → MemoryWord ((buff + 8 * j) % 2 ^ 32)) (host : Nat → UInt8) :
    Refines step (fun x => ((), host2fpgaLoop bus.emulated host buff n i x))
      (fun x => ((), host2fpgaLoop bus host buff n i x)) := by
  induction n generalizing i with
  | zero => exact fun s pending sched => refinesAt_pure () s pending sched
  | succ n ih =>
    intro s pending sched
    have hword := refines_write64 (v := word64 host (8 * i)) (hmem i le_rfl (by omega)) s pending sched
    exact hword.bind (fun _ x => ((), host2fpgaLoop bus.emulated host buff n (i + 1) x))
      (fun _ x => ((), host2fpgaLoop bus host buff n (i + 1) x))
      fun s' pending' _ => ih (fun j h1 h2 => hmem j (by omega) (by omega)) s' pending' _

/-- Every call of the driver. -/
theorem refines_call {c : DriverCall} (hmem : c.InMemory) (info : DesignInfo) (drv : Driver) :
    Refines step (fun x => c.run bus.emulated info drv x) (fun x => c.run bus info drv x) := by
  cases c with
  | pushH2tData header payload =>
    exact refines_push .h2t (howlongWhere header payload) (connidChannelpush header)
      (CallResult.done, { drv with
        h2t := { drv.h2t with slotsAvailable := (drv.h2t.slotsAvailable + 2 ^ 16 - 1) % 2 ^ 16 } })
  | pushMgmtData header payload =>
    exact refines_push .mgmt (howlongWhere header payload) (channelIdPush header)
      (CallResult.done, { drv with
        mgmt := { drv.mgmt with slotsAvailable := (drv.mgmt.slotsAvailable + 2 ^ 16 - 1) % 2 ^ 16 } })
  | getT2hData header =>
    simp only [run_getT2hData]
    exact refines_acquireFrom .t2h _ _ _ _ _
  | getMgmtRspData header =>
    simp only [run_getMgmtRspData]
    exact refines_acquireFrom .mgmtRsp _ _ _ _ _
  | t2hDataComplete => exact refines_done .t2h (CallResult.done, drv)
  | mgmtRspDataComplete => exact refines_done .mgmtRsp (CallResult.done, drv)
  | memcpy64Fpga2host fpgaBuff len host =>
    exact fun s pending sched =>
      (refines_fpga2hostLoop (fun j _ h => hmem j (by omega)) host s pending sched).map
        fun host => (CallResult.host host, drv)
  | memcpy64Host2fpga host fpgaBuff len =>
    exact fun s pending sched =>
      (refines_host2fpgaLoop (fun j _ h => hmem j (by omega)) host.bytes s pending sched).map
        fun _ => (CallResult.done, drv)

/-! ## Runs -/

theorem refines_runCalls {calls : List DriverCall} (hmem : ∀ c ∈ calls, c.InMemory)
    (info : DesignInfo) (drv : Driver) :
    Refines step (runCalls bus.emulated info calls drv) (runCalls bus info calls drv) := by
  induction calls generalizing drv with
  | nil => exact fun s pending sched => refinesAt_pure ([], drv) s pending sched
  | cons c calls ih =>
    intro s pending sched
    have hcall := refines_call (hmem c List.mem_cons_self) info drv s pending sched
    exact hcall.bind
      (fun v x =>
        let y := runCalls bus.emulated info calls v.2 x
        ((v.1 :: y.1.1, y.1.2), y.2))
      (fun v x =>
        let y := runCalls bus info calls v.2 x
        ((v.1 :: y.1.1, y.1.2), y.2))
      fun s' pending' _ =>
        (ih (fun c' hc' => hmem c' (List.mem_cons_of_mem c hc')) _ s' pending' _).map
          fun y => ((c.run bus.emulated info drv (proceed step pending s, sched)).1.1 :: y.1, y.2)

/-- The IP neither commits nor takes a descriptor on its own. -/
theorem proceed_frame (l : List IpStep) (d : CsrIp) :
    (proceed step l d).committed = d.committed ∧ (proceed step l d).popped = d.popped := by
  have hstep : ∀ e ∈ l, ∀ d' : CsrIp, d'.committed = d.committed ∧ d'.popped = d.popped →
      (step e d').committed = d.committed ∧ (step e d').popped = d.popped := by
    intro e _ d' h
    cases e <;> exact h
  exact proceed_invariant
    (I := fun d' : CsrIp => d'.committed = d.committed ∧ d'.popped = d.popped) hstep
    ⟨rfl, rfl⟩

/-- **The emulation refines the native bus**: for every run of calls over the emulation, whatever the
IP does between the 32-bit accesses, there is a run over the native bus that returns the same and
leaves the same committed and taken descriptors, in which the IP takes the same steps; behind the steps
that it has still to take everything is the same. -/
theorem emulation_refines (info : DesignInfo) {calls : List DriverCall}
    (hmem : ∀ c ∈ calls, c.InMemory) (drv : Driver) (d : CsrIp) (sched : List (List IpStep)) :
    ∃ sched' d' last,
      let emulated := runCalls bus.emulated info calls drv (d, sched)
      runCalls bus info calls drv (d, sched') = (emulated.1, d', []) ∧
      d'.committed = emulated.2.1.committed ∧ d'.popped = emulated.2.1.popped ∧
      proceed step last d' = emulated.2.1 ∧
      (sched'.flatten ++ last ++ emulated.2.2.flatten).Perm sched.flatten := by
  obtain ⟨sched', d', last, hrun, hstate, hperm⟩ := refines_runCalls hmem info drv d [] sched
  have hframe := proceed_frame last d'
  rw [hstate] at hframe
  refine ⟨sched', d', last, ?_, hframe.1.symm, hframe.2.symm, hstate, hperm⟩
  have hnative := hrun []
  rw [List.append_nil] at hnative
  exact hnative

namespace CsrIp

/-- The IP after power-up. -/
def start : CsrIp where
  staged := fun _ => ⟨0, 0, 0⟩
  queue := fun _ => []
  committed := fun _ => []
  waiting := fun _ => []
  popped := fun _ => []
  done := fun _ => 0
  mem := fun _ => 0

end CsrIp

/-- A T2H descriptor is presented, and its payload stored, while the driver polls. -/
theorem emulation_refines_poll :
    let calls : List DriverCall :=
      [.getT2hData ⟨0, 0, 0, 0⟩, .getT2hData ⟨0, 0, 0, 0⟩, .memcpy64Fpga2host 0x40000 12 ⟨fun _ => 0, 0⟩]
    let sched : List (List IpStep) :=
      [[], [.store 0x40000 7, .present .t2h ⟨12, 1⟩], [], [], [], [], [], [.store 0x40001 9]]
    ∃ sched' d' last,
      let emulated := runCalls bus.emulated DebugIp.design.info calls .static (start, sched)
      runCalls bus DebugIp.design.info calls .static (start, sched') = (emulated.1, d', []) ∧
      d'.committed = emulated.2.1.committed ∧ d'.popped = emulated.2.1.popped ∧
      proceed step last d' = emulated.2.1 ∧
      (sched'.flatten ++ last ++ emulated.2.2.flatten).Perm sched.flatten := by
  intro calls sched
  have hmem : ∀ c ∈ calls, c.InMemory := by
    intro c hc
    simp only [calls, List.mem_cons, List.not_mem_nil, or_false] at hc
    rcases hc with rfl | rfl | rfl
    · trivial
    · trivial
    · exact fun i hi => memoryWord_of_le (by omega) (by omega)
  exact emulation_refines DebugIp.design.info hmem .static start sched

end RemoteDebug
