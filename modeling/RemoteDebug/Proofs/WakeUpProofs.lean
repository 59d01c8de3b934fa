import RemoteDebug.Proofs.InterruptProofs
import RemoteDebug.Proofs.ServiceProofs

/-!
# Proofs: the interrupt thread with and without its service routine

Without what belongs to the service routine, a run is one of the loop of the interrupt thread, until a system
call fails and the thread ends.
-/

namespace RemoteDebug

open Runs ServiceState

variable {size : Nat} {s s' : ServiceState} {a : ServiceAction} {r : ThreadResult}

/-! ## Steps -/

theorem place_ite (p : Prop) [Decidable p] (t t' : ServiceThread) :
    place (if p then t else t') = if p then place t else place t' := apply_ite place p t t'

/-- Without the service routine the thread does one step of its loop or none. -/
theorem thread_int (h : s.uioInterruptThread r = some s') (hfailed : r ≠ .failed) :
    s'.int = s.int ∨ ∃ ready registered, uioInterruptThread ready registered s.int = some s'.int := by
  unfold ServiceState.uioInterruptThread at h
  split at h
  · next ht =>
    cases h
    refine .inr ⟨false, false, ?_⟩
    simp only [RemoteDebug.uioInterruptThread, int, ht, place_ite]
    rfl
  · next ht =>
    cases h
    refine .inr ⟨false, false, ?_⟩
    simp only [RemoteDebug.uioInterruptThread, int, ht, place_ite]
    rfl
  · next ht =>
    cases h
    exact .inl (by simp only [int, ht, place])
  · next ht =>
    cases h
    exact .inr ⟨false, false, by simp [RemoteDebug.uioInterruptThread, int, ht, place]⟩
  · next ht =>
    cases h
    by_cases hnull : s.isrCallback 0 ≠ 0
    · refine .inl ?_
      simp only [int, ht, if_pos hnull, place]
    · refine .inr ⟨true, false, ?_⟩
      simp [RemoteDebug.uioInterruptThread, int, ht, if_neg hnull, place]
  · next ht =>
    cases h
    exact .inl (by simp only [int, ht, place])
  · next ht =>
    cases h
    exact .inl (by simp only [int, ht, place])
  · next ht =>
    cases h
    exact .inr ⟨true, true, by simp [RemoteDebug.uioInterruptThread, int, ht, place]⟩
  · next ht =>
    split at h
    · next hsem =>
      cases h
      exact .inr ⟨false, false,
        by simp only [RemoteDebug.uioInterruptThread, int, ht, place, if_pos hsem]⟩
    · cases h
  · exact absurd rfl hfailed
  · exact absurd rfl hfailed
  · exact absurd rfl hfailed
  · cases h

theorem thread_failed (h : s.uioInterruptThread .failed = some s') : s'.thread = .exited := by
  unfold ServiceState.uioInterruptThread at h
  split at h
  all_goals first | cases h; rfl | contradiction

theorem int_withInt {i : IntState} (h : i.thread = s.int.thread) (events : List ServiceEvent) :
    ((s.withInt i).record events).int = i := by
  cases i
  cases h
  rfl

theorem controllerNext_thread {i j : IntState} (h : controllerNext i = some j) :
    j.thread = i.thread := by
  unfold controllerNext at h
  split at h
  all_goals
    first
    | cases h; rfl
    | cases h
    | (split at h <;> cases h; rfl)

theorem control_int (hstep : ServiceStep size s a s') (hne : ∀ r, a ≠ .thread r) :
    s'.int = s.int ∨ ∃ b, IntStep size s.int b s'.int := by
  cases hstep with
  | thread hnext => exact absurd rfl (hne _)
  | register hidle handle isr isrContext =>
    refine .inl ?_
    unfold fpgaRegisterIsr
    split
    · rfl
    · rfl
  | @registerNext g hg =>
    refine .inl ?_
    cases g with
    | compare | callback | context => rfl
  | enable hidle handle =>
    refine .inr ⟨.enable handle, ?_⟩
    rw [int_withInt]
    · exact .enable hidle.controller handle
    · unfold fpgaEnableInterrupt
      split
      · rfl
      · rfl
  | disable hidle handle =>
    refine .inr ⟨.disable handle, ?_⟩
    rw [int_withInt]
    · exact .disable hidle.controller handle
    · unfold fpgaDisableInterrupt
      split
      · rfl
      · rfl
  | cleanup hidle =>
    refine .inr ⟨.cleanup, ?_⟩
    rw [int_withInt (i := fpgaPlatformCleanupExit s.int) rfl]
    exact .cleanup hidle.controller
  | controller hnext =>
    refine .inr ⟨.controller, ?_⟩
    rw [int_withInt]
    · exact .controller hnext
    · exact controllerNext_thread hnext

/-- Until a system call has failed, a step without the service routine is one of the loop, or none. -/
theorem service_int (hstep : ServiceStep size s a s') :
    s'.thread = .exited ∨ s'.int = s.int ∨ ∃ b, IntStep size s.int b s'.int := by
  by_cases hthread : ∃ r, a = .thread r
  · obtain ⟨r, rfl⟩ := hthread
    cases hstep with
    | thread hnext =>
      by_cases hfailed : r = .failed
      · subst hfailed
        exact .inl (thread_failed hnext)
      · rcases thread_int hnext hfailed with hsame | ⟨ready, registered, hint⟩
        · exact .inr (.inl hsame)
        · exact .inr (.inr ⟨.thread ready registered, .thread hint⟩)
  · exact .inr (control_int hstep fun r hr => hthread ⟨r, hr⟩)

theorem exited_step (h : s.thread = .exited) (hstep : ServiceStep size s a s') :
    s'.thread = .exited := by
  by_cases hthread : ∃ r, a = .thread r
  · obtain ⟨r, rfl⟩ := hthread
    cases hstep with
    | thread hnext => exact absurd h (thread_turn hnext).2.1
  · obtain ⟨new, hmoves⟩ := control_moves hstep fun r hr => hthread ⟨r, hr⟩
    exact hmoves.thread.trans h

/-! ## Runs -/

/-- The thread has ended, or the run is one of the loop without the service routine. -/
theorem service_loop {interruptEnable : Nat → Bool} {isrCallback isrContext : Nat → Nat}
    (hrun : Reach (ServiceStep size) always (.start interruptEnable isrCallback isrContext) s) :
    s.thread = .exited ∨ Reach (IntStep size) always (.start interruptEnable) s.int :=
  hrun.simulates ServiceState.int (·.thread = .exited) (fun _ _ _ h hstep => exited_step h hstep)
    fun _ _ _ _ hstep => service_int hstep

/-- **No missed wake-up, whatever fails**: also with the service routine, with registrations and with system
calls that fail the interrupt thread is never left behind in `sem_wait`. -/
theorem service_never_missed {interruptEnable : Nat → Bool} {isrCallback isrContext : Nat → Nat}
    (hrun : Reach (ServiceStep size) always (.start interruptEnable isrCallback isrContext) s) :
    ¬ MissedWakeUp s.int := by
  rcases service_loop hrun with hexited | hloop
  · rintro ⟨⟨hwaits, -⟩, -⟩
    rw [int, hexited] at hwaits
    cases hwaits
  · have h := wakeUp_run hloop
    rintro ⟨hblocked, ⟨hidle, hset⟩ | ⟨hset, hjoin⟩⟩
    · have hpending := h.enable hblocked hset
      rw [hidle] at hpending
      exact hpending
    · have hpending := h.cleanup (.inr hblocked.1) hblocked.2 hset
      rw [hjoin] at hpending
      exact hpending

/-- The thread waits for the semaphore, a routine is registered and interrupts are enabled. -/
theorem service_never_missed_registered :
    ¬ MissedWakeUp
      { thread := .semWait, controller := .idle, sem := 1, exitFlag := false,
        interruptEnable := Function.update (fun _ => false) 0 true } := by
  have hwaits : Reach (ServiceStep 1) always (.start (fun _ => false) (fun _ => 0) fun _ => 0) _ :=
    (Reach.single (a := .thread .done) trivial (.thread rfl)).tail
      (a := .thread .done) trivial (.thread rfl)
  have hcompare := (hwaits.tail (a := .register 0 7 8) trivial (.register ⟨rfl, rfl⟩ 0 7 8)).tail
    (a := .registerNext) trivial (.registerNext rfl)
  have hregistered := (hcompare.tail (a := .registerNext) trivial (.registerNext rfl)).tail
    (a := .registerNext) trivial (.registerNext rfl)
  have henabled := hregistered.tail (a := .enable 0) trivial (.enable ⟨rfl, rfl⟩ 0)
  have hposted := (henabled.tail (a := .controller) trivial (.controller rfl)).tail
    (a := .controller) trivial (.controller rfl)
  exact service_never_missed hposted

end RemoteDebug
