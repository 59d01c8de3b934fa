import RemoteDebug.Proofs.ChangeProofs

/-!
# Where the accesses go

What keeps a property of the bus whenever the registers and the words of the payload are accessed, and
from it where the accesses of a whole run lie. `LayoutFits` says exactly for which sizes the windows
are where they are meant to be.
-/

namespace RemoteDebug

open Bytes Runs

variable {D : Type} {io : Mmio D} {cfg : Config} {s s' : Srv D} {memSize start span : Nat}

/-! ## Layout -/

theorem layoutOk_of_fits (h : LayoutFits memSize) : LayoutOk memSize := by
  have hcsrs : ∀ r ∈ registers, r.offset + r.width ≤ 0x220 ∨ r = ⟨0x1100, 4⟩ := by decide
  have hapart : registers.Pairwise fun r r' => r.offset + r.width ≤ r'.offset := by decide
  rcases h with hlow | ⟨hlow, hhigh⟩
  · have hnot : ¬ jopMemSize2k < memSize := by
      unfold jopMemSize2k
      omega
    refine ⟨?_, ?_, ?_, fun r hr k hk i hi => ?_, hapart⟩
    · simp only [getDesignInfo, windowAddr, if_neg hnot, h2tMemBase2k]
      omega
    · simp only [getDesignInfo, windowAddr, if_neg hnot, t2hMemBase4k]
      omega
    · simp only [getDesignInfo, windowAddr, if_neg hnot, h2tMemBase2k, t2hMemBase4k]
      omega
    · simp only [getDesignInfo, windowAddr, if_neg hnot, h2tMemBase2k, t2hMemBase4k]
      rcases hcsrs r hr with hend | rfl
      · omega
      · dsimp only at hk ⊢
        omega
  · have hlt : jopMemSize2k < memSize := by
      unfold jopMemSize2k
      omega
    refine ⟨?_, ?_, ?_, fun r hr k hk i hi => ?_, hapart⟩
    · simp only [getDesignInfo, windowAddr, if_pos hlt]
      omega
    · simp only [getDesignInfo, windowAddr, if_pos hlt]
      omega
    · simp only [getDesignInfo, windowAddr, if_pos hlt]
      omega
    · simp only [getDesignInfo, windowAddr, if_pos hlt]
      rcases hcsrs r hr with hend | rfl
      · omega
      · dsimp only at hk ⊢
        omega

/-- The register at `0x1100` lies in a window of every other size, unless an address wraps. -/
theorem fits_of_layoutOk (h : LayoutOk memSize) : LayoutFits memSize := by
  by_contra hnot
  have hmgmt : (⟨stDbgIpMgmtAvailableSlots, 4⟩ : BusAccess) ∈ registers := by decide
  have hcsr := h.csrs _ hmgmt
  have hnot' : 256 < memSize ∧ (memSize < 0x1104 ∨ 2 ^ 32 < 3 * memSize) := by
    unfold LayoutFits at hnot
    omega
  obtain ⟨h256, hwhich⟩ := hnot'
  by_cases h2k : jopMemSize2k < memSize
  · have hexact := h.t2h_exact (memSize - 1) (by omega)
    simp only [getDesignInfo, windowAddr, if_pos h2k, stDbgIpMgmtAvailableSlots] at hcsr hexact
    unfold jopMemSize2k at h2k
    rcases hwhich with hlt | hwrap
    · by_cases hh2t : 0x1100 < 2 * memSize
      · by_cases hle : memSize ≤ 0x1100
        · have hin := (hcsr 0 (by omega) (0x1100 - memSize) (by omega)).1
          omega
        · have hin := (hcsr (memSize - 0x1100) (by omega) 0 (by omega)).1
          omega
      · have hin := (hcsr 0 (by omega) (0x1100 - 2 * memSize) (by omega)).2
        omega
    · omega
  · have hin := (hcsr 0 (by decide) 256 h256).2
    simp only [getDesignInfo, windowAddr, if_neg h2k, t2hMemBase4k, stDbgIpMgmtAvailableSlots] at hin
    omega

/-- **Layout**: the sizes for which the windows are where they are meant to be. -/
theorem layoutOk_iff : LayoutOk memSize ↔ LayoutFits memSize :=
  ⟨fits_of_layoutOk, layoutOk_of_fits⟩

/-! ## What accesses preserve -/

/-- Every access that is `ok` preserves `P`. -/
structure Mmio.Keeps (io : Mmio D) (ok : BusAccess → Prop) (P : D → Prop) : Prop where
  read32 : ∀ o d, ok ⟨o, 4⟩ → P d → P (io.read32 o d).2
  read64 : ∀ o d, ok ⟨o, 8⟩ → P d → P (io.read64 o d).2
  write32 : ∀ o v d, ok ⟨o, 4⟩ → P d → P (io.write32 o v d)
  write64 : ∀ o v d, ok ⟨o, 8⟩ → P d → P (io.write64 o v d)

/-- Accesses that are `ok` leave only such accesses in the notes. -/
theorem traced_keeps (io : Mmio D) (ok : BusAccess → Prop) :
    io.traced.Keeps ok fun x => ∀ a ∈ x.2, ok a := by
  have hnote {l : List BusAccess} {a : BusAccess} (ha : ok a) (h : ∀ a ∈ l, ok a) :
      ∀ a' ∈ l ++ [a], ok a' := by
    intro a' ha'
    rcases List.mem_append.mp ha' with hl | hl
    · exact h a' hl
    · exact List.mem_singleton.mp hl ▸ ha
  exact ⟨fun o d ha h => hnote ha h, fun o d ha h => hnote ha h, fun o v d ha h => hnote ha h,
    fun o v d ha h => hnote ha h⟩

section Keeps

variable {ok : BusAccess → Prop} {P : D → Prop} (hio : io.Keeps ok P)
  (hregs : ∀ r ∈ registers, ok r)

include hio hregs

theorem keeps_initDriver (info : DesignInfo) (drv : Driver) {d : D} (h : P d) :
    P (initDriver io info drv d).2.2 := by
  have htype := hio.read64 stDbgIpConfigType d (hregs _ (by decide)) h
  have hreset := hio.write32 stDbgIpConfigResetAndLoopback stDbgIpConfigH2tT2hResetField _
    (hregs _ (by decide)) htype
  have hslots := hio.read32 stDbgIpH2tAvailableSlots _ (hregs _ (by decide)) hreset
  have hmgmt := hio.read32 stDbgIpMgmtAvailableSlots _ (hregs _ (by decide)) hslots
  have hcheck : (checkVersionAndType io d).2 = (io.read64 stDbgIpConfigType d).2 := by
    unfold checkVersionAndType
    dsimp only
    split <;> rfl
  unfold initDriver
  dsimp only
  split
  · exact h
  · split
    · rw [hcheck]
      exact htype
    · rw [hcheck]
      exact hmgmt

/-- **Registers**: a call that only accesses 32-bit registers keeps the property of the bus. -/
theorem frames_keeps : Frames io {.read, .write, .done, .device}ᶜ fun s s' => P s.dev → P s'.dev where
  refl _ := id
  trans h h' := h' ∘ h
  change := by
    intro part s s' hpart hchange
    cases hchange with
    | register s offset h => exact hio.read32 offset s.dev (hregs _ h)
    | configure s v => exact hio.write32 _ v s.dev (hregs _ (by decide))
    | read | write | done | device => simp at hpart
    | _ => exact id

theorem keeps_pollH2tBuffer {len buff : Nat} (hcall : pollH2tBuffer io cfg len s = some (buff, s'))
    (h : P s.dev) : P s'.dev := by
  apply (frames_keeps hio hregs).changes (changes_pollH2tBuffer hcall) _ h
  simp [Set.insert_subset_iff]

theorem keeps_pushH2tData (header : H2tPacketHeader) (payload : Nat) (drv : Driver) {d : D}
    (h : P d) : P (pushH2tData io header payload drv d).2 :=
  hio.write64 _ _ _ (hregs _ (by decide)) (hio.write64 _ _ _ (hregs _ (by decide)) h)

theorem keeps_connectClient (h : P s.dev) : P (connectClient io cfg s).2.dev := by
  have hinit := keeps_initDriver hio hregs cfg.info s.drv h
  apply (frames_keeps hio hregs).changes (changes_connectClient cfg s) _ hinit
  simp [connectParts, handshakeParts, Set.insert_subset_iff]

/-- The other calls access no register that completes a descriptor, and no window. -/
theorem keeps_step {may : D → D → Prop} {st st' : ServerState D} {a : ServerAction}
    (hstep : CallStep io cfg may st a st')
    (ha : a ∈ [.control, .mgmt, .select, .reject, .close]) (h : P st.srv.dev) : P st'.srv.dev := by
  apply (frames_keeps hio hregs).changes (changes_step hstep) _ h
  simp only [List.mem_cons, List.not_mem_nil, or_false] at ha
  rcases ha with rfl | rfl | rfl | rfl | rfl
  · simp [actionParts, controlParts, parameterParts, Set.insert_subset_iff]
  · simp [actionParts, mgmtParts, Set.insert_subset_iff]
  · simp [actionParts]
  · simp [actionParts, Set.insert_subset_iff]
  · simp [actionParts, Set.insert_subset_iff]

end Keeps

end RemoteDebug
