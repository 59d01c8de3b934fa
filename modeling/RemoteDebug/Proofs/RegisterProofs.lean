import RemoteDebug.Proofs.ServiceProofs

/-!
# Proofs: which service routine is called

A routine of interface 0 is registered by two stores. As long as they come between two rounds of the interrupt
thread, each call is one of the routine that has been registered last, with its own context.
-/

namespace RemoteDebug

open Runs History ServiceState

variable {size : Nat} {s s' : ServiceState} {a : ServiceAction} {r : ThreadResult}
  {new : List ServiceEvent} {start : Nat × Nat}

/-! ## What has been registered last -/

/-- The interface whose routine is registered. -/
def Registering.handle : Registering → Nat
  | .compare handle _ _ | .callback handle _ _ _ | .context handle _ _ _ => handle

/-- An event that registers nothing with interface 0. -/
def ServiceEvent.Keeps (e : ServiceEvent) : Prop :=
  ∀ isr isrContext ret, e ≠ .registered 0 isr isrContext ret

theorem lastRegistered_keep {e : ServiceEvent} (h : e.Keeps) (before : List ServiceEvent) :
    lastRegistered start (e :: before) = lastRegistered start before := by
  refine latest_keep ?_
  cases e with
  | registered handle isr isrContext ret =>
    cases handle with
    | zero => exact absurd rfl (h isr isrContext ret)
    | succ n => rfl
  | enabled | disabled | cleanup | joined | called => rfl

theorem lastRegistered_append (hlen : new.length ≤ 1) (h : ∀ e ∈ new, e.Keeps)
    (before : List ServiceEvent) :
    lastRegistered start (new ++ before) = lastRegistered start before := by
  match new, hlen with
  | [], _ => rfl
  | [e], _ => exact lastRegistered_keep (h e List.mem_cons_self) before

/-! ## The invariant -/

/-- What is stored has been registered last, unless routine 0 is being registered, and then the thread is in
no round; what has been called had been registered last. -/
structure FitsInv (start : Nat × Nat) (s : ServiceState) : Prop where
  registered : (∀ g, s.registering = some g → g.handle ≠ 0) →
    (s.isrCallback 0, s.isrContext 0) = lastRegistered start s.log
  waits : ∀ g, s.registering = some g → g.handle = 0 →
    s.interruptEnable 0 = false ∧ ¬ s.thread.Serving
  stored : ∀ isr isrContext ret, s.registering = some (.context 0 isr isrContext ret) →
    s.isrCallback 0 = isr
  reads : ReadsFor s
  called : ∀ f c, AtEach (.called f c)
    (fun _ earlier => f ≠ 0 ∧ lastRegistered start earlier = (f, c)) s.log

theorem readsFor_of_not_serving (h : ¬ s.thread.Serving) : ReadsFor s := by
  intro callback context ht
  rw [ht] at h
  exact absurd trivial h

/-- What the thread reads depends on interface 0 alone. -/
theorem ReadsFor.of_same (h : ReadsFor s) (hthread : s'.thread = s.thread)
    (hcallback : s'.isrCallback 0 = s.isrCallback 0) (hcontext : s'.isrContext 0 = s.isrContext 0) :
    ReadsFor s' := by
  intro callback context ht
  rw [hcallback, hcontext]
  exact h callback context (hthread.symm.trans ht)

namespace FitsInv

theorem init (interruptEnable : Nat → Bool) (isrCallback isrContext : Nat → Nat) :
    FitsInv (isrCallback 0, isrContext 0) (.start interruptEnable isrCallback isrContext) := by
  refine ⟨fun _ => rfl, ?_, ?_, readsFor_of_not_serving id, fun f c => atEach_nil _ _⟩
  · intro g hg
    cases hg
  · intro isr isrContext ret hg
    cases hg

/-- A step inside a round finds no routine being registered with interface 0. -/
theorem between (h : FitsInv start s) (hserving : s.thread.Serving) :
    (s.isrCallback 0, s.isrContext 0) = lastRegistered start s.log := by
  refine h.registered fun g hg h0 => ?_
  exact (h.waits g hg h0).2 hserving

theorem called_extend (h : FitsInv start s) (hlen : new.length ≤ 1)
    (hnew : ∀ f c, .called f c ∈ new → f ≠ 0 ∧ lastRegistered start s.log = (f, c)) (f c : Nat) :
    AtEach (.called f c) (fun _ earlier => f ≠ 0 ∧ lastRegistered start earlier = (f, c))
      (new ++ s.log) :=
  (h.called f c).extend hlen (fun _ _ hbefore => hbefore) (hnew f c)

/-! ## Steps -/

theorem thread (h : FitsInv start s) (hnext : s.uioInterruptThread r = some s') : FitsInv start s' := by
  obtain ⟨hframe, -, hturn⟩ := thread_turn hnext
  have hregistering := hframe.registering
  have hpair : (s'.isrCallback 0, s'.isrContext 0) = (s.isrCallback 0, s.isrContext 0) := by
    rw [hframe.isrCallback, hframe.isrContext]
  have hstored : ∀ isr isrContext ret, s'.registering = some (.context 0 isr isrContext ret) →
      s'.isrCallback 0 = isr := by
    rw [hregistering, hframe.isrCallback]
    exact h.stored
  cases hturn with
  | outside hlog hserving hexit =>
    refine ⟨?_, ?_, hstored, readsFor_of_not_serving hserving, by rw [hlog]; exact h.called⟩
    · rw [hpair, hlog, hregistering]
      exact h.registered
    · rw [hframe.interruptEnable, hregistering]
      intro g hg h0
      exact ⟨(h.waits g hg h0).1, hserving⟩
  | enters hlog hfrom hto henable =>
    refine ⟨?_, ?_, hstored, ?_, by rw [hlog]; exact h.called⟩
    · rw [hpair, hlog, hregistering]
      exact h.registered
    · rw [hregistering]
      intro g hg h0
      exact absurd ((h.waits g hg h0).1.symm.trans henable) Bool.false_ne_true
    · intro callback context ht
      cases hto.symm.trans ht
  | inside hlog hserving hserving' hreads =>
    refine ⟨?_, ?_, hstored, hreads h.reads, by rw [hlog]; exact h.called⟩
    · rw [hpair, hlog, hregistering]
      exact h.registered
    · rw [hregistering]
      intro g hg h0
      exact absurd hserving (h.waits g hg h0).2
  | calls f c hfrom hto hlog =>
    have hserving : s.thread.Serving := by
      rw [hfrom]
      trivial
    have hbetween := h.between hserving
    obtain ⟨hnull, hf, hc⟩ := h.reads _ _ hfrom
    have hkeep : lastRegistered start s'.log = lastRegistered start s.log := by
      rw [hlog]
      refine lastRegistered_keep ?_ _
      intro isr isrContext ret he
      cases he
    refine ⟨fun _ => by rw [hpair, hkeep]; exact hbetween, ?_, hstored, ?_, ?_⟩
    · rw [hregistering]
      intro g hg h0
      exact absurd hserving (h.waits g hg h0).2
    · intro callback context ht
      cases hto.symm.trans ht
    · rw [hlog]
      have hone : [ServiceEvent.called f c].length ≤ 1 := Nat.le_refl 1
      refine h.called_extend hone ?_
      intro f' c' hmem
      cases List.mem_singleton.mp hmem
      rw [← hbetween, ← hf f rfl, ← hc c rfl]
      exact ⟨by rw [hf f rfl]; exact hnull, rfl⟩

/-- A step that leaves the routines as they are. -/
theorem kept (h : FitsInv start s) (hregistering : s'.registering = s.registering)
    (hthread : s'.thread = s.thread) (hcallback : s'.isrCallback = s.isrCallback)
    (hcontext : s'.isrContext = s.isrContext) (hlog : s'.log = new ++ s.log) (hlen : new.length ≤ 1)
    (hkeeps : ∀ e ∈ new, e.Keeps) (hcalled : ∀ f c, .called f c ∉ new)
    (henable : (∃ g, s.registering = some g) → s'.interruptEnable 0 = s.interruptEnable 0) :
    FitsInv start s' := by
  refine ⟨?_, ?_, ?_, ?_, ?_⟩
  · rw [hregistering, hcallback, hcontext, hlog, lastRegistered_append hlen hkeeps]
    exact h.registered
  · rw [hregistering, hthread]
    intro g hg h0
    rw [henable ⟨g, hg⟩]
    exact h.waits g hg h0
  · rw [hregistering, hcallback]
    exact h.stored
  · exact h.reads.of_same hthread (by rw [hcallback]) (by rw [hcontext])
  · rw [hlog]
    exact h.called_extend hlen fun f c hmem => absurd hmem (hcalled f c)

/-- A step with an event, under a condition, that is neither a call nor a registration. -/
theorem recorded (h : FitsInv start s) (s' : ServiceState) {p : Prop} [Decidable p] {e : ServiceEvent}
    (hregistering : s'.registering = s.registering) (hthread : s'.thread = s.thread)
    (hcallback : s'.isrCallback = s.isrCallback) (hcontext : s'.isrContext = s.isrContext)
    (hlog : s'.log = s.log) (hkeeps : e.Keeps) (hcalled : ∀ f c, e ≠ .called f c)
    (henable : (∃ g, s.registering = some g) → s'.interruptEnable 0 = s.interruptEnable 0) :
    FitsInv start (s'.record (if p then [e] else [])) := by
  refine h.kept hregistering hthread hcallback hcontext (congrArg ((if p then [e] else []) ++ ·) hlog)
    ?_ ?_ ?_ henable
  · split
    · exact Nat.le_refl 1
    · exact Nat.zero_le 1
  · intro e' hmem
    rw [(mem_if hmem).2]
    exact hkeeps
  · intro f c hmem
    exact hcalled f c (mem_if hmem).2.symm

theorem registerIsr (h : FitsInv start s) (hidle : s.Idle) {handle isr isrContext : Nat}
    (hguard : Quiescent s (.register handle isr isrContext)) :
    FitsInv start (s.fpgaRegisterIsr size handle isr isrContext) := by
  unfold fpgaRegisterIsr
  split
  · refine ⟨fun _ => h.registered ?_, ?_, ?_, h.reads, h.called⟩
    · intro g hg
      cases hidle.registering.symm.trans hg
    · intro g hg h0
      cases hg
      cases (show handle = 0 from h0)
      exact hguard
    · intro isr' isrContext' ret hg
      cases hg
  · exact h

theorem next (h : FitsInv start s) {g : Registering} (hg : s.registering = some g) :
    FitsInv start (s.registerNext g) := by
  have hwaits := h.waits g hg
  cases g with
  | compare handle isr isrContext =>
    refine ⟨?_, ?_, ?_, h.reads, h.called⟩
    · intro hne
      have hhandle : handle ≠ 0 := hne _ rfl
      refine h.registered fun g' hg' => ?_
      cases hg.symm.trans hg'
      exact hhandle
    · intro g' hg' h0
      cases hg'
      exact hwaits h0
    · intro isr' isrContext' ret hg'
      cases hg'
  | callback handle isr isrContext ret =>
    refine ⟨?_, ?_, ?_, ?_, h.called⟩
    · intro hne
      have hhandle : handle ≠ 0 := hne _ rfl
      have hsame : Function.update s.isrCallback handle isr 0 = s.isrCallback 0 :=
        Function.update_of_ne hhandle.symm isr s.isrCallback
      show (Function.update s.isrCallback handle isr 0, s.isrContext 0) = _
      rw [hsame]
      refine h.registered fun g' hg' => ?_
      cases hg.symm.trans hg'
      exact hhandle
    · intro g' hg' h0
      cases hg'
      exact hwaits h0
    · intro isr' isrContext' ret' hg'
      cases hg'
      show Function.update s.isrCallback 0 isr 0 = isr
      exact Function.update_self ..
    · by_cases hhandle : handle = 0
      · exact readsFor_of_not_serving (hwaits hhandle).2
      · have hsame : Function.update s.isrCallback handle isr 0 = s.isrCallback 0 :=
          Function.update_of_ne (Ne.symm hhandle) isr s.isrCallback
        exact h.reads.of_same rfl hsame rfl
  | context handle isr isrContext ret =>
    have hcalled : ∀ f c, AtEach (.called f c)
        (fun _ earlier => f ≠ 0 ∧ lastRegistered start earlier = (f, c))
        (s.registerNext (.context handle isr isrContext ret)).log := by
      have hone : [ServiceEvent.registered handle isr isrContext ret].length ≤ 1 := Nat.le_refl 1
      refine h.called_extend hone ?_
      intro f c hmem
      cases List.mem_singleton.mp hmem
    by_cases hhandle : handle = 0
    · subst hhandle
      refine ⟨?_, ?_, ?_, readsFor_of_not_serving (hwaits rfl).2, hcalled⟩
      · intro _
        show (s.isrCallback 0, Function.update s.isrContext 0 isrContext 0) = _
        rw [Function.update_self, h.stored isr isrContext ret hg]
        exact (latest_set rfl).symm
      · intro g' hg'
        cases hg'
      · intro isr' isrContext' ret' hg'
        cases hg'
    · have hsame : Function.update s.isrContext handle isrContext 0 = s.isrContext 0 :=
        Function.update_of_ne (Ne.symm hhandle) isrContext s.isrContext
      refine ⟨?_, ?_, ?_, h.reads.of_same rfl rfl hsame, hcalled⟩
      · intro _
        have hkeep : lastRegistered start (.registered handle isr isrContext ret :: s.log) =
            lastRegistered start s.log := by
          refine lastRegistered_keep ?_ _
          intro isr' isrContext' ret' he
          cases he
          exact hhandle rfl
        show (s.isrCallback 0, Function.update s.isrContext handle isrContext 0) = _
        rw [hsame]
        refine (h.registered fun g' hg' => ?_).trans hkeep.symm
        cases hg.symm.trans hg'
        exact hhandle
      · intro g' hg'
        cases hg'
      · intro isr' isrContext' ret' hg'
        cases hg'

end FitsInv

theorem fitsInv_step (h : FitsInv start s) (hguard : Quiescent s a) (hstep : ServiceStep size s a s') :
    FitsInv start s' := by
  cases hstep with
  | thread hnext => exact h.thread hnext
  | register hidle handle isr isrContext => exact h.registerIsr hidle hguard
  | registerNext hg => exact h.next hg
  | enable hidle handle =>
    refine h.recorded _ rfl rfl rfl rfl rfl nofun nofun ?_
    rintro ⟨g, hg⟩
    cases hidle.registering.symm.trans hg
  | disable hidle handle =>
    refine h.recorded _ rfl rfl rfl rfl rfl nofun nofun ?_
    rintro ⟨g, hg⟩
    cases hidle.registering.symm.trans hg
  | cleanup hidle =>
    refine h.recorded (s.withInt (fpgaPlatformCleanupExit s.int)) (p := True) (e := .cleanup)
      rfl rfl rfl rfl rfl nofun nofun ?_
    rintro ⟨g, hg⟩
    cases hidle.registering.symm.trans hg
  | controller hnext =>
    obtain ⟨-, henable, -⟩ := controllerNext_frame hnext
    exact h.recorded _ rfl rfl rfl rfl rfl nofun nofun fun _ => congrFun henable 0

/-- **The service routine that has been registered**: each call is one of the routine that has been registered
with interface 0 last, with the context it has been registered with, and never one of a NULL pointer. -/
theorem service_registered {interruptEnable : Nat → Bool} {isrCallback isrContext : Nat → Nat}
    (hrun : Reach (ServiceStep size) Quiescent (.start interruptEnable isrCallback isrContext) s)
    (f c : Nat) :
    AtEach (.called f c)
      (fun _ earlier => f ≠ 0 ∧ lastRegistered (isrCallback 0, isrContext 0) earlier = (f, c)) s.log :=
  (hrun.invariant (FitsInv _) (fun _ _ _ h hguard hstep => fitsInv_step h hguard hstep)
    (FitsInv.init interruptEnable isrCallback isrContext)).called f c

/-- A routine is registered, interrupts are enabled and one comes. -/
theorem service_registered_enabled :
    AtEach (.called 7 8) (fun _ earlier => 7 ≠ 0 ∧ lastRegistered (0, 0) earlier = (7, 8))
      [.called 7 8, .enabled 0, .registered 0 7 8 0] := by
  have hcompare : Reach (ServiceStep 1) Quiescent (.start (fun _ => false) (fun _ => 0) fun _ => 0) _ :=
    (Reach.single (a := .register 0 7 8) ⟨rfl, id⟩ (.register ⟨rfl, rfl⟩ 0 7 8)).tail
      (a := ServiceAction.registerNext) trivial (.registerNext rfl)
  have hstored := (hcompare.tail (a := ServiceAction.registerNext) trivial (.registerNext rfl)).tail
    (a := ServiceAction.registerNext) trivial (.registerNext rfl)
  have henabled := hstored.tail (a := ServiceAction.enable 0) trivial (.enable ⟨rfl, rfl⟩ 0)
  have hpoll := (henabled.tail (a := ServiceAction.thread .done) trivial (.thread rfl)).tail
    (a := ServiceAction.thread .done) trivial (.thread rfl)
  have hcheck := (hpoll.tail (a := ServiceAction.thread .ready) trivial (.thread rfl)).tail
    (a := ServiceAction.thread .done) trivial (.thread rfl)
  have hread := (hcheck.tail (a := ServiceAction.thread .callback) trivial (.thread rfl)).tail
    (a := ServiceAction.thread .context) trivial (.thread rfl)
  exact service_registered (hread.tail (a := ServiceAction.thread .done) trivial (.thread rfl)) 7 8

/-- A routine that is registered while the thread is in a round can be called with the context of the one
before it; also a NULL pointer can be called. -/
theorem torn_call {f : Nat} (hf : f ≠ 0) (c f' c' : Nat) :
    ∃ s, Reach (ServiceStep 1) always (.start (fun _ => true) (fun _ => f) fun _ => c) s ∧
      s.registering = some (.context 0 f' c' 1) ∧ s.log = [.called f' c] := by
  obtain ⟨n, rfl⟩ := Nat.exists_eq_succ_of_ne_zero hf
  have hpoll : Reach (ServiceStep 1) always (.start (fun _ => true) (fun _ => n.succ) fun _ => c) _ :=
    (Reach.single (a := .thread .done) trivial (.thread rfl)).tail
      (a := .thread .done) trivial (.thread rfl)
  have hcheck := (hpoll.tail (a := .thread .ready) trivial (.thread rfl)).tail
    (a := .thread .done) trivial (.thread rfl)
  have hcompare := (hcheck.tail (a := .register 0 f' c') trivial (.register ⟨rfl, rfl⟩ 0 f' c')).tail
    (a := .registerNext) trivial (.registerNext rfl)
  have hstored := hcompare.tail (a := .registerNext) trivial (.registerNext rfl)
  have hread := (hstored.tail (a := .thread .callback) trivial (.thread rfl)).tail
    (a := .thread .context) trivial (.thread rfl)
  exact ⟨_, hread.tail (a := .thread .done) trivial (.thread rfl), rfl, rfl⟩

end RemoteDebug
