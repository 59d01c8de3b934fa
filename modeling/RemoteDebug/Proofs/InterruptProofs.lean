import RemoteDebug.Hardware.InterruptRun

/-!
# Proofs: wake-ups of the interrupt thread

A blocked thread has read `interrupt_enable` before it was set, so that the call that has set it is yet
to see the semaphore at `0` and to post it. In the same way a thread that has read the exit flag before
it was set finds a token or is yet to be given one.
-/

namespace RemoteDebug

open Runs

/-- The call that set `interrupt_enable` is yet to post the semaphore. -/
def EnablePending : Controller → Prop
  | .enableGetvalue | .enablePost 0 => True
  | _ => False

/-- `fpga_platform_cleanup` is yet to post the semaphore. -/
def CleanupPending : Controller → Prop
  | .cleanupGetvalue | .cleanupPost 0 => True
  | _ => False

/-- The interrupt thread has read that it is not to exit, and may end up in `sem_wait`. -/
def Committed (t : IntThread) : Prop := t = .readEnable ∨ t = .semWait

/-- A thread that a set flag does not stop is going to be woken up. -/
structure WakeUp (s : IntState) : Prop where
  enable : Blocked s → s.interruptEnable 0 = true → EnablePending s.controller
  cleanup : Committed s.thread → s.sem = 0 → s.exitFlag = true → CleanupPending s.controller

theorem wakeUp_start (interruptEnable : Nat → Bool) : WakeUp (.start interruptEnable) := by
  constructor
  · rintro ⟨hthread, -⟩
    cases hthread
  · rintro (hthread | hthread) <;> cases hthread

/-! ## Steps of the interrupt thread -/

/-- The thread starts to wait for an interrupt or for the semaphore by the flags as they are. -/
theorem uioInterruptThread_committed {ready registered : Bool} {s s' : IntState}
    (hnext : uioInterruptThread ready registered s = some s') (hthread : Committed s'.thread) :
    s'.sem = s.sem ∧ (s.exitFlag = true → Committed s.thread) ∧
      (s'.thread = .semWait → s.interruptEnable 0 = false) := by
  unfold uioInterruptThread at hnext
  cases ht : s.thread with
  | readFlags =>
    rw [ht] at hnext
    cases hnext
    cases hexit : s.exitFlag with
    | true =>
      simp only [hexit, if_true] at hthread
      rcases hthread with h | h <;> cases h
    | false => simp
  | readEnable =>
    rw [ht] at hnext
    cases hnext
    refine ⟨rfl, fun _ => .inl rfl, ?_⟩
    cases henable : s.interruptEnable 0 <;> simp
  | poll =>
    rw [ht] at hnext
    cases hnext
    simp only [Committed] at hthread
    split at hthread <;> rcases hthread with h | h <;> cases h
  | semWait =>
    rw [ht] at hnext
    dsimp only at hnext
    split at hnext
    · cases hnext
      rcases hthread with h | h <;> cases h
    · cases hnext
  | exited =>
    rw [ht] at hnext
    cases hnext

/-- The interrupt thread changes no flag. -/
theorem uioInterruptThread_frame {ready registered : Bool} {s s' : IntState}
    (hnext : uioInterruptThread ready registered s = some s') :
    s'.controller = s.controller ∧ s'.exitFlag = s.exitFlag ∧
      s'.interruptEnable = s.interruptEnable := by
  unfold uioInterruptThread at hnext
  split at hnext
  · cases hnext; exact ⟨rfl, rfl, rfl⟩
  · cases hnext; exact ⟨rfl, rfl, rfl⟩
  · cases hnext; exact ⟨rfl, rfl, rfl⟩
  · split at hnext
    · cases hnext; exact ⟨rfl, rfl, rfl⟩
    · cases hnext
  · cases hnext

theorem WakeUp.thread {ready registered : Bool} {s s' : IntState} (h : WakeUp s)
    (hnext : uioInterruptThread ready registered s = some s') : WakeUp s' := by
  obtain ⟨hcontroller, hexit, henable⟩ := uioInterruptThread_frame hnext
  constructor
  · rintro ⟨hthread, -⟩ hset
    have hclear := (uioInterruptThread_committed hnext (.inr hthread)).2.2 hthread
    rw [henable, hclear] at hset
    cases hset
  · intro hthread hsem hset
    obtain ⟨hsame, hbefore, -⟩ := uioInterruptThread_committed hnext hthread
    rw [hexit] at hset
    rw [hcontroller]
    exact h.cleanup (hbefore hset) (hsame ▸ hsem) hset

/-! ## Steps of the controlling thread -/

theorem WakeUp.enableInterrupt {s : IntState} (h : WakeUp s) (hidle : s.controller = .idle)
    (size handle : Nat) : WakeUp (fpgaEnableInterrupt size handle s) := by
  unfold fpgaEnableInterrupt
  split
  · constructor
    · intro _ _
      trivial
    · intro hthread hsem hset
      have hpending := h.cleanup hthread hsem hset
      rw [hidle] at hpending
      exact hpending.elim
  · exact h

theorem WakeUp.disableInterrupt {s : IntState} (h : WakeUp s) (size handle : Nat) :
    WakeUp (fpgaDisableInterrupt size handle s) := by
  unfold fpgaDisableInterrupt
  split
  · constructor
    · intro hblocked hset
      refine h.enable hblocked ?_
      by_cases hhandle : handle = 0
      · subst hhandle
        simp at hset
      · have hne : (0 : Nat) ≠ handle := fun h0 => hhandle h0.symm
        simpa [Function.update_of_ne hne] using hset
    · exact h.cleanup
  · exact h

theorem WakeUp.platformCleanup {s : IntState} (h : WakeUp s) (hidle : s.controller = .idle) :
    WakeUp (fpgaPlatformCleanupExit s) := by
  constructor
  · intro hblocked hset
    have hpending := h.enable hblocked hset
    rw [hidle] at hpending
    exact hpending.elim
  · intro _ _ _
    trivial

/-- A semaphore that is still at `0` was not posted. -/
theorem semPost_eq_zero {s : IntState} {retVal : Nat} (h : s.semPost retVal = 0) :
    s.sem = 0 ∧ retVal ≠ 0 := by
  unfold IntState.semPost at h
  split at h
  · cases h
  · exact ⟨h, ‹_›⟩

theorem WakeUp.controller {s s' : IntState} (h : WakeUp s) (hnext : controllerNext s = some s') :
    WakeUp s' := by
  unfold controllerNext at hnext
  cases hc : s.controller with
  | idle =>
    rw [hc] at hnext
    cases hnext
  | enableGetvalue =>
    rw [hc] at hnext
    cases hnext
    constructor
    · rintro ⟨-, hsem⟩ -
      show EnablePending (.enablePost s.sem)
      rw [show s.sem = 0 from hsem]
      trivial
    · intro hthread hsem hset
      have hpending := h.cleanup hthread hsem hset
      rw [hc] at hpending
      exact hpending.elim
  | enablePost retVal =>
    rw [hc] at hnext
    cases hnext
    constructor
    · rintro ⟨hthread, hsem⟩ hset
      -- the value was sampled at `0`, so the semaphore has been posted
      obtain ⟨hzero, hne⟩ := semPost_eq_zero hsem
      have hpending := h.enable ⟨hthread, hzero⟩ hset
      rw [hc] at hpending
      cases retVal with
      | zero => exact hne rfl
      | succ => exact hpending.elim
    · intro hthread hsem hset
      have hpending := h.cleanup hthread (semPost_eq_zero hsem).1 hset
      rw [hc] at hpending
      exact hpending.elim
  | cleanupGetvalue =>
    rw [hc] at hnext
    cases hnext
    constructor
    · intro hblocked hset
      have hpending := h.enable hblocked hset
      rw [hc] at hpending
      exact hpending.elim
    · intro _ hsem _
      show CleanupPending (.cleanupPost s.sem)
      rw [show s.sem = 0 from hsem]
      trivial
  | cleanupPost retVal =>
    rw [hc] at hnext
    cases hnext
    constructor
    · rintro ⟨hthread, hsem⟩ hset
      have hpending := h.enable ⟨hthread, (semPost_eq_zero hsem).1⟩ hset
      rw [hc] at hpending
      exact hpending.elim
    · intro hthread hsem hset
      obtain ⟨hzero, hne⟩ := semPost_eq_zero hsem
      have hpending := h.cleanup hthread hzero hset
      rw [hc] at hpending
      cases retVal with
      | zero => exact absurd rfl hne
      | succ => exact hpending.elim
  | join =>
    rw [hc] at hnext
    dsimp only at hnext
    split at hnext
    · next hexited =>
      cases hnext
      constructor
      · rintro ⟨hthread, -⟩
        exact absurd (hexited.symm.trans hthread) (by decide)
      · rintro (hthread | hthread) <;> exact absurd (hexited.symm.trans hthread) (by decide)
    · cases hnext
  | joined =>
    rw [hc] at hnext
    cases hnext

/-! ## Runs -/

theorem wakeUp_step {size : Nat} {s s' : IntState} {a : IntAction} (h : WakeUp s)
    (hstep : IntStep size s a s') : WakeUp s' := by
  cases hstep with
  | thread hnext => exact h.thread hnext
  | enable hidle handle => exact h.enableInterrupt hidle size handle
  | disable _ handle => exact h.disableInterrupt size handle
  | cleanup hidle => exact h.platformCleanup hidle
  | controller hnext => exact h.controller hnext

theorem wakeUp_run {size : Nat} {interruptEnable : Nat → Bool} {s : IntState}
    (hrun : Reach (IntStep size) always (.start interruptEnable) s) : WakeUp s :=
  hrun.invariant WakeUp (fun _ _ _ h _ hstep => wakeUp_step h hstep) (wakeUp_start interruptEnable)

/-- **No missed wake-up**: whatever the controlling thread does, the interrupt thread is never left
behind in `sem_wait`. -/
theorem wakeUp_never_missed {size : Nat} {interruptEnable : Nat → Bool} {s : IntState}
    (hrun : Reach (IntStep size) always (.start interruptEnable) s) : ¬ MissedWakeUp s := by
  have h := wakeUp_run hrun
  rintro ⟨hblocked, ⟨hidle, hset⟩ | ⟨hset, hjoin⟩⟩
  · have hpending := h.enable hblocked hset
    rw [hidle] at hpending
    exact hpending.elim
  · have hpending := h.cleanup (.inr hblocked.1) hblocked.2 hset
    rw [hjoin] at hpending
    exact hpending.elim

/-- The thread waits for the semaphore while interrupts are enabled: the call returns behind a post. -/
theorem wakeUp_never_missed_posted :
    ¬ MissedWakeUp
      { thread := .semWait, controller := .idle, sem := 1, exitFlag := false,
        interruptEnable := Function.update (fun _ => false) 0 true } := by
  have hthread : Reach (IntStep 1) always (.start fun _ => false) _ :=
    (Reach.single (a := .thread false false) trivial (.thread rfl)).tail
      (a := .thread false false) trivial (.thread rfl)
  have henable := hthread.tail (a := .enable 0) trivial (.enable rfl 0)
  have hposted := (henable.tail (a := .controller) trivial (.controller rfl)).tail
    (a := .controller) trivial (.controller rfl)
  exact wakeUp_never_missed hposted

end RemoteDebug
