import RemoteDebug.Server.Session

/-!
# Proofs: a rule for the main loop

What each handler makes of the state, and parts in sequence, the loop of `handle_client` makes of it. Behind
a part the session lasts or not, and only behind one with which it lasts another part follows.
-/

namespace RemoteDebug

variable {D : Type} {io : Mmio D} {cfg : Config} {P : Prop → Srv D → Srv D → Prop} {s s' : Srv D}

/-- `P lasts s s'` holds of every part that the loop is made of, from `s` to `s'`; `lasts` says whether the
session lasts behind it. -/
structure LoopRule (io : Mmio D) (cfg : Config) (P : Prop → Srv D → Srv D → Prop) : Prop where
  compose : ∀ {lasts lasts' s s' s''}, P lasts s s' → lasts → P lasts' s' s'' → P lasts' s s''
  mono : ∀ {lasts lasts' s s'}, P lasts s s' → (lasts' → lasts) → P lasts' s s'
  refl : ∀ lasts s, P lasts s s
  selects : ∀ {lasts s s'}, P lasts s s' → ∀ l, P lasts s { s' with env := { s'.env with selects := l } }
  reject : ∀ s, P True s (rejectClient s)
  control : ∀ {s y}, processControlMessage io cfg s = some y →
    P (y.1 ≠ .failure ∧ y.2.1 = false) s y.2.2
  mgmt : ∀ {s y}, processMgmtData io cfg s = some y → P (y.1 ≠ .failure) s y.2
  h2t : ∀ {s y}, processH2tData io cfg s = some y → P (y.1 ≠ .failure) s y.2
  mgmtRsp : ∀ s, P ((processMgmtRspData io cfg s).1 ≠ .failure) s (processMgmtRspData io cfg s).2
  t2h : ∀ s, P ((processT2hData io cfg s).1 ≠ .failure) s (processT2hData io cfg s).2

namespace LoopRule

theorem nextStage (h : LoopRule io cfg P) {x : Option (Bool × Srv D)} {f : Srv D → Option (Bool × Srv D)}
    {y : Bool × Srv D} (hx : ∀ z, x = some z → P (z.1 = true) s z.2)
    (hf : ∀ s₁ z, f s₁ = some z → P (z.1 = true) s₁ z.2) (hy : nextStage x f = some y) :
    P (y.1 = true) s y.2 := by
  obtain ⟨z, hz, hnext⟩ := Option.bind_eq_some_iff.mp hy
  have hpart := hx z hz
  by_cases hlasts : z.1 = true
  · rw [if_pos hlasts] at hnext
    exact h.compose hpart hlasts (hf _ _ hnext)
  · rw [if_neg hlasts] at hnext
    obtain rfl := Option.some.inj hnext
    exact hpart

theorem dataStage (h : LoopRule io cfg P) {isSet : Bool} {process : Srv D → Option (ReturnCode × Srv D)}
    (hprocess : ∀ y, process s = some y → P (y.1 ≠ .failure) s y.2) {y : Bool × Srv D}
    (hy : dataStage isSet process s = some y) : P (y.1 = true) s y.2 := by
  unfold RemoteDebug.dataStage at hy
  split at hy
  · obtain ⟨z, hz, rfl⟩ := Option.map_eq_some_iff.mp hy
    exact h.mono (hprocess z hz) of_decide_eq_true
  · obtain rfl := Option.some.inj hy
    exact h.refl _ s

theorem ctrlStage (h : LoopRule io cfg P) {isSet : Bool} {y : Bool × Srv D}
    (hy : ctrlStage io cfg isSet s = some y) : P (y.1 = true) s y.2 := by
  unfold RemoteDebug.ctrlStage at hy
  split at hy
  · obtain ⟨z, hz, rfl⟩ := Option.map_eq_some_iff.mp hy
    refine h.mono (h.control hz) ?_
    intro hlasts
    simpa using hlasts
  · obtain rfl := Option.some.inj hy
    exact h.refl _ s

theorem serveReady (h : LoopRule io cfg P) {server ctrl mgmt h2tData mgmtRsp t2hData : Bool}
    {y : Bool × Srv D} (hy : serveReady io cfg server ctrl mgmt h2tData mgmtRsp t2hData s = some y) :
    P (y.1 = true) s y.2 := by
  have hreject : P True s (if server then rejectClient s else s) := by
    split
    · exact h.reject s
    · exact h.refl True s
  unfold RemoteDebug.serveReady at hy
  dsimp only at hy
  refine h.nextStage (fun z hz => h.nextStage (fun z hz => h.nextStage (fun z hz =>
    h.nextStage (fun z hz => h.compose hreject trivial (h.ctrlStage hz)) ?_ hz) ?_ hz) ?_ hz) ?_ hy
  · intro s₁ z hz
    exact h.dataStage (fun _ hcall => h.mgmt hcall) hz
  · intro s₁ z hz
    exact h.dataStage (fun _ hcall => h.h2t hcall) hz
  · intro s₁ z hz
    refine h.dataStage (fun y hcall => ?_) hz
    obtain rfl := Option.some.inj hcall
    exact h.mgmtRsp s₁
  · intro s₁ z hz
    refine h.dataStage (fun y hcall => ?_) hz
    obtain rfl := Option.some.inj hcall
    exact h.t2h s₁

/-- **The main loop**, whatever `select` reports. -/
theorem handleClientLoop (h : LoopRule io cfg P) {selects : List SelectResult}
    (hloop : handleClientLoop io cfg selects s = some s') : P False s s' := by
  induction selects generalizing s with
  | nil =>
    obtain rfl := Option.some.inj hloop
    exact h.selects (h.refl False s) []
  | cons e selects ih =>
    cases e with
    | failure =>
      obtain rfl := Option.some.inj hloop
      exact h.selects (h.refl False s) selects
    | ready except server ctrl mgmt h2tData mgmtRsp t2hData =>
      unfold RemoteDebug.handleClientLoop at hloop
      split at hloop
      · obtain rfl := Option.some.inj hloop
        exact h.selects (h.refl False s) selects
      · obtain ⟨y, hy, hrest⟩ := Option.bind_eq_some_iff.mp hloop
        have hready := h.serveReady hy
        split at hrest
        · next hlasts => exact h.compose hready hlasts (ih hrest)
        · obtain rfl := Option.some.inj hrest
          exact h.selects (h.mono hready False.elim) selects

end LoopRule

end RemoteDebug
