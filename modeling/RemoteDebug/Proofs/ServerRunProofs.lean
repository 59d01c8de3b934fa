import RemoteDebug.Hardware.ServerRun

/-!
# The loops of the server

`handle_client` and `server_main` only take the steps of `CallStep`, so that what holds in every
state reached by such steps holds whenever a session or a sequence of sessions ends.
-/

namespace RemoteDebug

open Runs

variable {D : Type} {io : Mmio D} {cfg : Config} {may : D → D → Prop} {s s' : Srv D}

/-- The steps of `handle_client`. -/
def InSession (_ : ServerState D) (a : ServerAction) : Prop :=
  a ≠ .connect ∧ a ≠ .close ∧ a ≠ .hardware

/-- Steps of the server while a client is being served. -/
abbrev Serves (io : Mmio D) (cfg : Config) (may : D → D → Prop) (s s' : Srv D) : Prop :=
  Reach (CallStep io cfg may) InSession ⟨s, true⟩ ⟨s', true⟩

theorem serves_single {a : ServerAction} (hstep : CallStep io cfg may ⟨s, true⟩ a ⟨s', true⟩)
    (ha : a ≠ .connect ∧ a ≠ .close ∧ a ≠ .hardware) : Serves io cfg may s s' :=
  Reach.single ha hstep

/-- What a stage returns has been reached. -/
def Stays (io : Mmio D) (cfg : Config) (may : D → D → Prop) (s : Srv D)
    (x : Option (Bool × Srv D)) : Prop :=
  ∀ y ∈ x, Serves io cfg may s y.2

theorem Stays.nextStage {x : Option (Bool × Srv D)} {f : Srv D → Option (Bool × Srv D)}
    (h : Stays io cfg may s x) (hf : ∀ s, Stays io cfg may s (f s)) :
    Stays io cfg may s (nextStage x f) := by
  intro z hz
  obtain ⟨y, hy, hyz⟩ := Option.bind_eq_some_iff.mp hz
  split at hyz
  · exact (h y hy).trans (hf _ z hyz)
  · obtain rfl := Option.some.inj hyz
    exact h _ hy

theorem stays_dataStage {isSet : Bool} {process : Srv D → Option (ReturnCode × Srv D)}
    (hstep : isSet = true → ∀ x, process s = some x → Serves io cfg may s x.2) :
    Stays io cfg may s (dataStage isSet process s) := by
  intro z hz
  unfold dataStage at hz
  split at hz
  · next hset =>
    obtain ⟨x, hx, rfl⟩ := Option.map_eq_some_iff.mp hz
    exact hstep hset x hx
  · obtain rfl := Option.some.inj hz
    exact Reach.refl

theorem stays_ctrlStage (isSet : Bool) (s : Srv D) : Stays io cfg may s (ctrlStage io cfg isSet s) := by
  intro z hz
  unfold ctrlStage at hz
  split at hz
  · obtain ⟨x, hx, rfl⟩ := Option.map_eq_some_iff.mp hz
    exact serves_single (.control hx) (by decide)
  · obtain rfl := Option.some.inj hz
    exact Reach.refl

/-- One turn of the loop of `handle_client`. -/
theorem stays_serveReady (server ctrl mgmt h2tData mgmtRsp t2hData : Bool) (s : Srv D) :
    Stays io cfg may s (serveReady io cfg server ctrl mgmt h2tData mgmtRsp t2hData s) := by
  have hreject : Serves io cfg may s (if server then rejectClient s else s) := by
    split
    · exact serves_single (.reject s) (by decide)
    · exact Reach.refl
  unfold serveReady
  dsimp only
  refine .nextStage (.nextStage (.nextStage (.nextStage ?_ ?_) ?_) ?_) ?_
  · exact fun y hy => hreject.trans (stays_ctrlStage ctrl _ y hy)
  · exact fun s => stays_dataStage fun _ x hx => serves_single (.mgmt hx) (by decide)
  · exact fun s => stays_dataStage fun _ x hx => serves_single (.h2t hx) (by decide)
  · refine fun s => stays_dataStage fun hset x hx => ?_
    obtain rfl := Option.some.inj hx
    exact serves_single (.mgmtRsp (by simp_all)) (by decide)
  · refine fun s => stays_dataStage fun hset x hx => ?_
    obtain rfl := Option.some.inj hx
    exact serves_single (.t2h (by simp_all)) (by decide)

theorem handleClientLoop_reach {selects : List SelectResult}
    (h : handleClientLoop io cfg selects s = some s') : Serves io cfg may s s' := by
  induction selects generalizing s with
  | nil =>
    obtain rfl := Option.some.inj h
    exact serves_single (.select s []) (by decide)
  | cons e selects ih =>
    cases e with
    | failure =>
      obtain rfl := Option.some.inj h
      exact serves_single (.select s selects) (by decide)
    | ready except server ctrl mgmt h2tData mgmtRsp t2hData =>
      unfold handleClientLoop at h
      split at h
      · obtain rfl := Option.some.inj h
        exact serves_single (.select s selects) (by decide)
      · obtain ⟨x, hx, hs'⟩ := Option.bind_eq_some_iff.mp h
        have hready : Serves io cfg may s x.2 :=
          stays_serveReady server ctrl mgmt h2tData mgmtRsp t2hData s x hx
        split at hs'
        · exact hready.trans (ih hs')
        · obtain rfl := Option.some.inj hs'
          exact hready.trans (serves_single (.select x.2 selects) (by decide))

/-- One session of `server_main`. -/
theorem serveSession_reach {x : ReturnCode × Srv D} (h : serveSession io cfg s = some x) :
    Reach (CallStep io cfg may) always ⟨s, false⟩ ⟨x.2, false⟩ := by
  have hconn : Reach (CallStep io cfg may) always ⟨s, false⟩ (.connect io cfg s) :=
    Reach.single trivial (.connect s)
  unfold serveSession at h
  unfold ServerState.connect at hconn
  dsimp only at h hconn
  split at h
  · next hok =>
    rw [if_pos hok] at hconn
    obtain ⟨s1, hloop, rfl⟩ := Option.map_eq_some_iff.mp h
    have hserve : Serves io cfg may _ s1 := handleClientLoop_reach hloop
    exact (hconn.trans (hserve.mono fun _ _ _ => trivial)).tail trivial (.close _)
  · next hnok =>
    rw [if_neg hnok] at hconn
    obtain rfl := Option.some.inj h
    exact hconn.tail trivial (.close _)

/-- **The loop of `server_main`** only takes the steps of `CallStep`. -/
theorem serveSessions_reach {n : Nat} (h : serveSessions io cfg n s = some s') :
    Reach (CallStep io cfg may) always ⟨s, false⟩ ⟨s', false⟩ := by
  induction n generalizing s with
  | zero =>
    obtain rfl := Option.some.inj h
    exact Reach.refl
  | succ n ih =>
    obtain ⟨x, hx, hrest⟩ := Option.bind_eq_some_iff.mp h
    have hsession : Reach (CallStep io cfg may) always ⟨s, false⟩ ⟨x.2, false⟩ :=
      serveSession_reach hx
    split at hrest
    · obtain rfl := Option.some.inj hrest
      exact hsession
    · exact hsession.trans (ih hrest)

end RemoteDebug
