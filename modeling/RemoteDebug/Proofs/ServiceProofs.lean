import RemoteDebug.Hardware.ServiceRun
import RemoteDebug.Lib.Runs

/-!
# Proofs: calls of the service routine

A round of the interrupt thread that has begun when interrupts are disabled, or when the thread is told to
exit, is its last one, and calls the service routine at most once. A routine that is registered between two
rounds is called with its own context.
-/

namespace RemoteDebug

open Runs History ServiceState

variable {size : Nat} {s s' : ServiceState} {a : ServiceAction} {r : ThreadResult}
  {new : List ServiceEvent}

/-! ## Steps -/

/-- The calls that the thread can still make: in the round that it is in, and in the one that it is about to
begin if `entering`. -/
def rounds (entering : Bool) : ServiceThread → Nat
  | .poll | .check | .call _ _ => 1
  | .readEnable => if entering then 1 else 0
  | _ => 0

/-- What has been read for a call is what is stored. -/
def ReadsFor (s : ServiceState) : Prop :=
  ∀ callback context, s.thread = .call callback context →
    s.isrCallback 0 ≠ 0 ∧ (∀ f, callback = some f → f = s.isrCallback 0) ∧
      ∀ c, context = some c → c = s.isrContext 0

/-- A step of the interrupt thread leaves what belongs to the controlling thread. -/
structure ThreadFrame (s s' : ServiceState) : Prop where
  registering : s'.registering = s.registering
  exitFlag : s'.exitFlag = s.exitFlag
  interruptEnable : s'.interruptEnable = s.interruptEnable
  isrCallback : s'.isrCallback = s.isrCallback
  isrContext : s'.isrContext = s.isrContext

/-- What a step of the interrupt thread is: outside of a round, the beginning of one, inside it, or its end
with the call of the service routine. -/
inductive ThreadTurn (s s' : ServiceState) : Prop
  | outside (hlog : s'.log = s.log) (hserving : ¬ s'.thread.Serving)
      (hexit : s'.thread = .readEnable → s.exitFlag = false)
  | enters (hlog : s'.log = s.log) (hfrom : s.thread = .readEnable) (hto : s'.thread = .poll)
      (henable : s.interruptEnable 0 = true)
  | inside (hlog : s'.log = s.log) (hserving : s.thread.Serving) (hserving' : s'.thread.Serving)
      (hreads : ReadsFor s → ReadsFor s')
  | calls (f c : Nat) (hfrom : s.thread = .call (some f) (some c)) (hto : s'.thread = .readFlags)
      (hlog : s'.log = .called f c :: s.log)

theorem thread_turn (h : s.uioInterruptThread r = some s') :
    ThreadFrame s s' ∧ s.thread ≠ .exited ∧ ThreadTurn s s' := by
  unfold ServiceState.uioInterruptThread at h
  split at h
  · next ht =>
    cases h
    refine ⟨⟨rfl, rfl, rfl, rfl, rfl⟩, by rw [ht]; nofun, .outside rfl ?_ ?_⟩
    · dsimp only
      split <;> exact id
    · intro hto
      dsimp only at hto
      split at hto
      · cases hto
      · next hexit => simpa using hexit
  · next ht =>
    cases h
    refine ⟨⟨rfl, rfl, rfl, rfl, rfl⟩, by rw [ht]; nofun, ?_⟩
    by_cases henable : s.interruptEnable 0 = true
    · exact .enters rfl ht (if_pos henable) henable
    · refine .outside rfl ?_ ?_
      · dsimp only
        rw [if_neg henable]
        exact id
      · dsimp only
        rw [if_neg henable]
        nofun
  · next ht =>
    cases h
    refine ⟨⟨rfl, rfl, rfl, rfl, rfl⟩, by rw [ht]; nofun,
      .inside rfl (by rw [ht]; trivial) trivial ?_⟩
    intro _ callback context hto
    cases hto
  · next ht =>
    cases h
    exact ⟨⟨rfl, rfl, rfl, rfl, rfl⟩, by rw [ht]; nofun, .outside rfl id nofun⟩
  · next ht =>
    cases h
    refine ⟨⟨rfl, rfl, rfl, rfl, rfl⟩, by rw [ht]; nofun, ?_⟩
    by_cases hnull : s.isrCallback 0 ≠ 0
    · refine .inside rfl (by rw [ht]; trivial) ?_ ?_
      · dsimp only
        rw [if_pos hnull]
        trivial
      · intro _ callback context hto
        dsimp only at hto
        rw [if_pos hnull] at hto
        cases hto
        refine ⟨hnull, ?_, ?_⟩
        · intro f hf
          cases hf
        · intro c hc
          cases hc
    · refine .outside rfl ?_ ?_
      · dsimp only
        rw [if_neg hnull]
        exact id
      · dsimp only
        rw [if_neg hnull]
        nofun
  · next ht =>
    cases h
    refine ⟨⟨rfl, rfl, rfl, rfl, rfl⟩, by rw [ht]; nofun,
      .inside rfl (by rw [ht]; trivial) trivial ?_⟩
    intro hreads callback context hto
    cases hto
    obtain ⟨hnull, -, hcontext⟩ := hreads _ _ ht
    exact ⟨hnull, fun f hf => (Option.some.inj hf).symm, hcontext⟩
  · next ht =>
    cases h
    refine ⟨⟨rfl, rfl, rfl, rfl, rfl⟩, by rw [ht]; nofun,
      .inside rfl (by rw [ht]; trivial) trivial ?_⟩
    intro hreads callback context hto
    cases hto
    obtain ⟨hnull, hcallback, -⟩ := hreads _ _ ht
    exact ⟨hnull, hcallback, fun c hc => (Option.some.inj hc).symm⟩
  · next f c ht =>
    cases h
    exact ⟨⟨rfl, rfl, rfl, rfl, rfl⟩, by rw [ht]; nofun, .calls f c ht rfl rfl⟩
  · next ht =>
    split at h
    · cases h
      exact ⟨⟨rfl, rfl, rfl, rfl, rfl⟩, by rw [ht]; nofun, .outside rfl id nofun⟩
    · cases h
  · next ht =>
    cases h
    exact ⟨⟨rfl, rfl, rfl, rfl, rfl⟩, by rw [ht]; nofun, .outside rfl id nofun⟩
  · next ht =>
    cases h
    exact ⟨⟨rfl, rfl, rfl, rfl, rfl⟩, by rw [ht]; nofun, .outside rfl id nofun⟩
  · next ht =>
    cases h
    exact ⟨⟨rfl, rfl, rfl, rfl, rfl⟩, by rw [ht]; nofun, .outside rfl id nofun⟩
  · cases h

/-- A step of the controlling thread, which adds the events `new`. -/
structure ControlMoves (s s' : ServiceState) (new : List ServiceEvent) : Prop where
  log : s'.log = new ++ s.log
  single : new.length ≤ 1
  quiet : calls new = 0
  thread : s'.thread = s.thread
  exitFlag : s.exitFlag = true ∨ .cleanup ∈ new → s'.exitFlag = true
  disabled : s.interruptEnable 0 = false ∨ .disabled 0 ∈ new → .enabled 0 ∉ new →
    s'.interruptEnable 0 = false
  joined : .joined ∈ new → s.thread = .exited

theorem mem_if {p : Prop} [Decidable p] {e e' : ServiceEvent} (h : e' ∈ if p then [e] else []) :
    p ∧ e' = e := by
  split at h
  · next hp => exact ⟨hp, List.mem_singleton.mp h⟩
  · cases h

/-- A step with an event, under a condition, that is no call. -/
theorem ControlMoves.record (s' : ServiceState) {p : Prop} [Decidable p] {e : ServiceEvent}
    (hlog : s'.log = s.log) (hthread : s'.thread = s.thread) (hcalls : calls [e] = 0)
    (hexit : s.exitFlag = true ∨ e = .cleanup → s'.exitFlag = true)
    (henable : s.interruptEnable 0 = false ∨ (p ∧ e = .disabled 0) → ¬ (p ∧ e = .enabled 0) →
      s'.interruptEnable 0 = false)
    (hjoined : p → e = .joined → s.thread = .exited) :
    ControlMoves s (s'.record (if p then [e] else [])) (if p then [e] else []) := by
  refine ⟨congrArg _ hlog, ?_, ?_, hthread, ?_, ?_, ?_⟩
  · split
    · exact Nat.le_refl 1
    · exact Nat.zero_le 1
  · split
    · exact hcalls
    · rfl
  · rintro (h | h)
    · exact hexit (.inl h)
    · exact hexit (.inr (mem_if h).2.symm)
  · rintro h hne
    refine henable (h.imp id fun hmem => ⟨(mem_if hmem).1, (mem_if hmem).2.symm⟩) ?_
    rintro ⟨hp, rfl⟩
    rw [if_pos hp] at hne
    exact hne List.mem_cons_self
  · intro h
    exact hjoined (mem_if h).1 (mem_if h).2.symm

/-- A step without an event. -/
theorem ControlMoves.silent (hlog : s'.log = s.log) (hthread : s'.thread = s.thread)
    (hexit : s'.exitFlag = s.exitFlag) (henable : s'.interruptEnable = s.interruptEnable) :
    ControlMoves s s' [] := by
  refine ⟨hlog, Nat.zero_le 1, rfl, hthread, ?_, ?_, ?_⟩
  · rintro (h | h)
    · exact hexit.trans h
    · cases h
  · rintro (h | h) -
    · rw [henable]
      exact h
    · cases h
  · intro h
    cases h

theorem controllerNext_frame {i j : IntState} (h : controllerNext i = some j) :
    j.exitFlag = i.exitFlag ∧ j.interruptEnable = i.interruptEnable ∧
      (j.controller = .joined → i.thread = .exited) := by
  unfold controllerNext at h
  split at h
  · cases h
  · cases h
    exact ⟨rfl, rfl, nofun⟩
  · cases h
    exact ⟨rfl, rfl, nofun⟩
  · cases h
    exact ⟨rfl, rfl, nofun⟩
  · cases h
    exact ⟨rfl, rfl, nofun⟩
  · split at h
    · next hexited =>
      cases h
      exact ⟨rfl, rfl, fun _ => hexited⟩
    · cases h
  · cases h

theorem place_eq_exited {t : ServiceThread} (h : place t = .exited) : t = .exited := by
  cases t <;> first | rfl | cases h

theorem enableInterrupt_frame (size handle : Nat) (i : IntState) :
    (fpgaEnableInterrupt size handle i).exitFlag = i.exitFlag ∧
      (fpgaEnableInterrupt size handle i).interruptEnable =
        if handle < size then Function.update i.interruptEnable handle true else i.interruptEnable := by
  unfold fpgaEnableInterrupt
  split
  · exact ⟨rfl, rfl⟩
  · exact ⟨rfl, rfl⟩

theorem disableInterrupt_frame (size handle : Nat) (i : IntState) :
    (fpgaDisableInterrupt size handle i).exitFlag = i.exitFlag ∧
      (fpgaDisableInterrupt size handle i).interruptEnable =
        if handle < size then Function.update i.interruptEnable handle false else i.interruptEnable := by
  unfold fpgaDisableInterrupt
  split
  · exact ⟨rfl, rfl⟩
  · exact ⟨rfl, rfl⟩

/-- What a step of the controlling thread can do. -/
theorem control_moves (hstep : ServiceStep size s a s') (hne : ∀ r, a ≠ .thread r) :
    ∃ new, ControlMoves s s' new := by
  cases hstep with
  | thread hnext => exact absurd rfl (hne _)
  | register hidle handle isr isrContext =>
    refine ⟨[], ?_⟩
    unfold fpgaRegisterIsr
    split
    · exact .silent rfl rfl rfl rfl
    · exact .silent rfl rfl rfl rfl
  | @registerNext r hr =>
    cases r with
    | compare handle isr isrContext => exact ⟨[], .silent rfl rfl rfl rfl⟩
    | callback handle isr isrContext ret => exact ⟨[], .silent rfl rfl rfl rfl⟩
    | context handle isr isrContext ret =>
      exact ⟨_, .record
        { s with isrContext := Function.update s.isrContext handle isrContext, registering := none }
        (p := True) (e := .registered handle isr isrContext ret)
        rfl rfl rfl (by simp) (by simp) (by simp)⟩
  | enable hidle handle =>
    obtain ⟨hexit, henable⟩ := enableInterrupt_frame size handle s.int
    refine ⟨_, .record _ rfl rfl rfl ?_ ?_ nofun⟩
    · rintro (h | h)
      · exact hexit.trans h
      · cases h
    · intro h hne
      have hclear : s.interruptEnable 0 = false := h.resolve_right fun hc => nomatch hc.2
      show (fpgaEnableInterrupt size handle s.int).interruptEnable 0 = false
      rw [henable]
      split
      · next hlt =>
        have hhandle : 0 ≠ handle := by
          rintro rfl
          exact hne ⟨hlt, rfl⟩
        rw [Function.update_of_ne hhandle]
        exact hclear
      · exact hclear
  | disable hidle handle =>
    obtain ⟨hexit, henable⟩ := disableInterrupt_frame size handle s.int
    refine ⟨_, .record _ rfl rfl rfl ?_ ?_ nofun⟩
    · rintro (h | h)
      · exact hexit.trans h
      · cases h
    · intro h _
      show (fpgaDisableInterrupt size handle s.int).interruptEnable 0 = false
      rw [henable]
      by_cases hhandle : handle = 0
      · subst hhandle
        split
        · exact Function.update_self ..
        · next hlt => exact h.resolve_right fun hc => hlt hc.1
      · have hclear : s.interruptEnable 0 = false := by
          refine h.resolve_right fun hc => hhandle ?_
          cases hc.2
          rfl
        split
        · rw [Function.update_of_ne fun h0 => hhandle h0.symm]
          exact hclear
        · exact hclear
  | cleanup hidle =>
    exact ⟨_, .record (s.withInt (fpgaPlatformCleanupExit s.int)) (p := True) (e := .cleanup)
      rfl rfl rfl (fun _ => rfl) (fun h _ => h.resolve_right fun hc => nomatch hc.2) nofun⟩
  | @controller i hnext =>
    obtain ⟨hexit, henable, hjoined⟩ := controllerNext_frame hnext
    refine ⟨_, .record _ rfl rfl rfl ?_ ?_ fun hj _ => place_eq_exited (hjoined hj)⟩
    · rintro (h | h)
      · exact hexit.trans h
      · cases h
    · intro h _
      show i.interruptEnable 0 = false
      rw [henable]
      exact h.resolve_right fun hc => nomatch hc.2

/-! ## The number of calls -/

theorem calls_append (events events' : List ServiceEvent) :
    calls (events ++ events') = calls events + calls events' := List.countP_append

theorem rounds_le_one (entering : Bool) (t : ServiceThread) : rounds entering t ≤ 1 := by
  cases t with
  | readEnable =>
    cases entering with
    | false => exact Nat.zero_le 1
    | true => exact Nat.le_refl 1
  | readFlags | semWait | exited => exact Nat.zero_le 1
  | poll | check | call => exact Nat.le_refl 1

theorem rounds_of_serving {t : ServiceThread} (h : t.Serving) (entering : Bool) :
    rounds entering t = 1 := by
  cases t with
  | poll | check | call => rfl
  | readFlags | readEnable | semWait | exited => exact h.elim

theorem rounds_of_not_serving {t : ServiceThread} {entering : Bool} (h : ¬ t.Serving)
    (hentering : entering = true → t ≠ .readEnable) : rounds entering t = 0 := by
  cases t with
  | poll | check | call => exact absurd trivial h
  | readFlags | semWait | exited => rfl
  | readEnable =>
    cases entering with
    | false => rfl
    | true => exact absurd rfl (hentering rfl)

/-- No round begins once the exit flag is set, the one that is about to begin apart, and none at all as long
as interrupts are disabled. -/
theorem thread_rounds (h : s.uioInterruptThread r = some s') :
    ∃ new, s'.log = new ++ s.log ∧ new.length ≤ 1 ∧ (∀ e ∈ new, ∃ f c, e = .called f c) ∧
      ∀ entering, (entering = true → s.exitFlag = true) →
        (entering = false → s.interruptEnable 0 = false) →
        calls new + rounds entering s'.thread ≤ rounds entering s.thread := by
  obtain ⟨-, -, hturn⟩ := thread_turn h
  cases hturn with
  | outside hlog hserving hexit =>
    refine ⟨[], hlog, Nat.zero_le 1, by simp, ?_⟩
    intro entering hset _
    have hnone : rounds entering s'.thread = 0 := by
      refine rounds_of_not_serving hserving fun hentering hto => ?_
      exact Bool.false_ne_true ((hexit hto).symm.trans (hset hentering))
    rw [hnone]
    exact Nat.zero_le _
  | enters hlog hfrom hto henable =>
    refine ⟨[], hlog, Nat.zero_le 1, by simp, ?_⟩
    intro entering _ hclear
    cases entering with
    | false => exact absurd ((hclear rfl).symm.trans henable) Bool.false_ne_true
    | true =>
      rw [hfrom, hto]
      exact Nat.le_refl 1
  | inside hlog hserving hserving' _ =>
    refine ⟨[], hlog, Nat.zero_le 1, by simp, ?_⟩
    intro entering _ _
    rw [rounds_of_serving hserving, rounds_of_serving hserving']
    exact Nat.le_refl 1
  | calls f c hfrom hto hlog =>
    refine ⟨[.called f c], hlog, Nat.le_refl 1, by simp, ?_⟩
    intro entering _ _
    rw [hfrom, hto]
    exact Nat.le_refl 1

theorem fresh_le_one (entering : Bool) (t : ServiceThread) : calls [] + rounds entering t ≤ 1 := by
  rw [calls, List.countP_nil, Nat.zero_add]
  exact rounds_le_one entering t

/-- What is still to come behind each event that stops the calls. -/
structure CallsInv (s : ServiceState) : Prop where
  disabled : AtEach (.disabled 0) (fun later _ => .enabled 0 ∉ later →
    s.interruptEnable 0 = false ∧ calls later + rounds false s.thread ≤ 1) s.log
  cleanup : AtEach .cleanup (fun later _ =>
    s.exitFlag = true ∧ calls later + rounds true s.thread ≤ 1) s.log
  joined : AtEach .joined (fun later _ => s.thread = .exited ∧ calls later = 0) s.log

theorem CallsInv.thread (h : CallsInv s) (hnext : s.uioInterruptThread r = some s') : CallsInv s' := by
  obtain ⟨hframe, hexited, -⟩ := thread_turn hnext
  obtain ⟨new, hlog, hlen, hcalled, hrounds⟩ := thread_rounds hnext
  refine ⟨?_, ?_, ?_⟩
  · rw [hlog]
    refine h.disabled.extend hlen ?_ ?_
    · intro later _ hbefore hne
      obtain ⟨hclear, hle⟩ := hbefore fun hmem => hne (List.mem_append_right new hmem)
      have hstep := hrounds false nofun fun _ => hclear
      refine ⟨by rw [hframe.interruptEnable]; exact hclear, ?_⟩
      rw [calls_append]
      omega
    · intro hmem
      obtain ⟨f, c, hevent⟩ := hcalled _ hmem
      cases hevent
  · rw [hlog]
    refine h.cleanup.extend hlen ?_ ?_
    · rintro later _ ⟨hset, hle⟩
      have hstep := hrounds true (fun _ => hset) nofun
      refine ⟨hframe.exitFlag.trans hset, ?_⟩
      rw [calls_append]
      omega
    · intro hmem
      obtain ⟨f, c, hevent⟩ := hcalled _ hmem
      cases hevent
  · rw [hlog]
    refine h.joined.extend hlen ?_ ?_
    · rintro later _ ⟨hdone, -⟩
      exact absurd hdone hexited
    · intro hmem
      obtain ⟨f, c, hevent⟩ := hcalled _ hmem
      cases hevent

theorem CallsInv.control (h : CallsInv s) (hmoves : ControlMoves s s' new) : CallsInv s' := by
  have hquiet : ∀ later, calls (new ++ later) = calls later := by
    intro later
    rw [calls_append, hmoves.quiet, Nat.zero_add]
  refine ⟨?_, ?_, ?_⟩
  · rw [hmoves.log, hmoves.thread]
    refine h.disabled.extend hmoves.single ?_ ?_
    · intro later _ hbefore hne
      obtain ⟨hclear, hle⟩ := hbefore fun hmem => hne (List.mem_append_right new hmem)
      refine ⟨hmoves.disabled (.inl hclear) fun hmem => hne (List.mem_append_left later hmem), ?_⟩
      rw [hquiet]
      exact hle
    · intro hmem _
      have hne : .enabled 0 ∉ new := by
        intro hmem'
        match new, hmoves.single with
        | [_], _ => cases (List.mem_singleton.mp hmem).trans (List.mem_singleton.mp hmem').symm
      exact ⟨hmoves.disabled (.inr hmem) hne, fresh_le_one false _⟩
  · rw [hmoves.log, hmoves.thread]
    refine h.cleanup.extend hmoves.single ?_ ?_
    · rintro later _ ⟨hset, hle⟩
      refine ⟨hmoves.exitFlag (.inl hset), ?_⟩
      rw [hquiet]
      exact hle
    · intro hmem
      exact ⟨hmoves.exitFlag (.inr hmem), fresh_le_one true _⟩
  · rw [hmoves.log, hmoves.thread]
    refine h.joined.extend hmoves.single ?_ ?_
    · rintro later _ ⟨hdone, hnone⟩
      exact ⟨hdone, (hquiet later).trans hnone⟩
    · intro hmem
      exact ⟨hmoves.joined hmem, rfl⟩

theorem callsInv_step (h : CallsInv s) (hstep : ServiceStep size s a s') : CallsInv s' := by
  by_cases hthread : ∃ r, a = .thread r
  · obtain ⟨r, rfl⟩ := hthread
    cases hstep with
    | thread hnext => exact h.thread hnext
  · obtain ⟨new, hmoves⟩ := control_moves hstep fun r hr => hthread ⟨r, hr⟩
    exact h.control hmoves

/-- **The service routine comes to rest**: in every order of steps it is called at most once behind
`fpga_disable_interrupt`, until interrupts are enabled again, at most once behind the exit flag, and never
behind `pthread_join`. -/
theorem service_calls {interruptEnable : Nat → Bool} {isrCallback isrContext : Nat → Nat}
    (hrun : Reach (ServiceStep size) always (.start interruptEnable isrCallback isrContext) s) :
    AtEach (.disabled 0) (fun later _ => .enabled 0 ∉ later → calls later ≤ 1) s.log ∧
      AtEach .cleanup (fun later _ => calls later ≤ 1) s.log ∧
      AtEach .joined (fun later _ => calls later = 0) s.log := by
  have h : CallsInv s := hrun.invariant CallsInv (fun _ _ _ h _ hstep => callsInv_step h hstep)
    ⟨atEach_nil _ _, atEach_nil _ _, atEach_nil _ _⟩
  refine ⟨h.disabled.imp ?_, h.cleanup.imp ?_, h.joined.imp ?_⟩
  · intro later _ hle hne
    exact Nat.le_trans (Nat.le_add_right _ _) (hle hne).2
  · rintro later _ ⟨-, hle⟩
    exact Nat.le_trans (Nat.le_add_right _ _) hle
  · rintro later _ ⟨-, hnone⟩
    exact hnone

/-- The thread has begun a round when interrupts are disabled: the service routine is called once more. Then
the thread is told to exit. -/
theorem service_calls_disabled :
    AtEach (.disabled 0) (fun later _ => .enabled 0 ∉ later → calls later ≤ 1)
        [.joined, .cleanup, .called 7 8, .disabled 0] ∧
      AtEach .cleanup (fun later _ => calls later ≤ 1) [.joined, .cleanup, .called 7 8, .disabled 0] ∧
      AtEach .joined (fun later _ => calls later = 0) [.joined, .cleanup, .called 7 8, .disabled 0] := by
  have hpoll : Reach (ServiceStep 1) always (.start (fun _ => true) (fun _ => 7) fun _ => 8) _ :=
    (Reach.single (a := .thread .done) trivial (.thread rfl)).tail
      (a := .thread .done) trivial (.thread rfl)
  have hdisabled := hpoll.tail (a := .disable 0) trivial (.disable ⟨rfl, rfl⟩ 0)
  have hcheck := (hdisabled.tail (a := .thread .ready) trivial (.thread rfl)).tail
    (a := .thread .done) trivial (.thread rfl)
  have hread := (hcheck.tail (a := .thread .context) trivial (.thread rfl)).tail
    (a := .thread .callback) trivial (.thread rfl)
  have hcalled := hread.tail (a := .thread .done) trivial (.thread rfl)
  have hcleanup := hcalled.tail (a := .cleanup) trivial (.cleanup ⟨rfl, rfl⟩)
  have hexited := hcleanup.tail (a := .thread .done) trivial (.thread rfl)
  have hposted := (hexited.tail (a := .controller) trivial (.controller rfl)).tail
    (a := .controller) trivial (.controller rfl)
  exact service_calls (hposted.tail (a := .controller) trivial (.controller rfl))

end RemoteDebug
