import Mathlib.Logic.Relation

/-!
# Runs of a transition system

States that are reached by steps of a transition system with labelled steps, all of which satisfy a
guard on the state before and the label.
-/

namespace Runs

open Relation

variable {S A : Type*}

/-- The guard that every step satisfies. -/
def always : S → A → Prop := fun _ _ => True

/-- One step whose label meets the guard in the state before. -/
def Next (step : S → A → S → Prop) (guard : S → A → Prop) (s s' : S) : Prop :=
  ∃ a, guard s a ∧ step s a s'

/-- The state `s'` is reached from `s` by steps that meet the guard. -/
def Reach (step : S → A → S → Prop) (guard : S → A → Prop) : S → S → Prop :=
  ReflTransGen (Next step guard)

variable {step : S → A → S → Prop} {guard : S → A → Prop} {s s' s'' : S}

theorem Reach.refl : Reach step guard s s := ReflTransGen.refl

theorem Reach.tail {a : A} (h : Reach step guard s s') (hg : guard s' a) (hs : step s' a s'') :
    Reach step guard s s'' := ReflTransGen.tail h ⟨a, hg, hs⟩

theorem Reach.single {a : A} (hg : guard s a) (hs : step s a s') : Reach step guard s s' :=
  ReflTransGen.single ⟨a, hg, hs⟩

theorem Reach.trans (h : Reach step guard s s') (h' : Reach step guard s' s'') :
    Reach step guard s s'' := ReflTransGen.trans h h'

theorem Reach.mono {guard' : S → A → Prop} (h : Reach step guard s s')
    (hguard : ∀ s a, guard s a → guard' s a) : Reach step guard' s s' := by
  induction h with
  | refl => exact .refl
  | tail _ hnext ih =>
    obtain ⟨a, hg, hs⟩ := hnext
    exact ih.tail (hguard _ a hg) hs

/-- **Invariants**: what each step preserves holds in every state reached. -/
theorem Reach.invariant (hrun : Reach step guard s s') (Inv : S → Prop)
    (hstep : ∀ s a s', Inv s → guard s a → step s a s' → Inv s') (h0 : Inv s) : Inv s' := by
  induction hrun with
  | refl => exact h0
  | tail _ hnext ih =>
    obtain ⟨a, hg, hs⟩ := hnext
    exact hstep _ a _ ih hg hs

/-- **Simulation**: each step is one of the other system or leaves what `f` shows as it is, until the system
has ended. -/
theorem Reach.simulates {T B : Type*} {step' : T → B → T → Prop} (hrun : Reach step guard s s') (f : S → T)
    (Ended : S → Prop) (hended : ∀ s a s', Ended s → step s a s' → Ended s')
    (hstep : ∀ s a s', guard s a → step s a s' →
      Ended s' ∨ f s' = f s ∨ ∃ b, step' (f s) b (f s')) :
    Ended s' ∨ Reach step' always (f s) (f s') := by
  induction hrun with
  | refl => exact .inr .refl
  | tail _ hnext ih =>
    obtain ⟨a, hg, hs⟩ := hnext
    rcases ih with hbefore | hreach
    · exact .inl (hended _ a _ hbefore hs)
    · rcases hstep _ a _ hg hs with hafter | hsame | ⟨b, hs'⟩
      · exact .inl hafter
      · right
        rw [hsame]
        exact hreach
      · exact .inr (hreach.tail trivial hs')

/-- The same steps, which also note whether a marked one has been taken. -/
def Noting (step : S → A → S → Prop) (mark : S → A → Bool) : S × Bool → A → S × Bool → Prop :=
  fun st a st' => step st.1 a st'.1 ∧ st'.2 = (st.2 || mark st.1 a)

/-! ## Runs of a deterministic system -/

/-- Every step of the run that takes the actions in their order satisfies `P`. -/
def AllSteps (next : S → A → S) (P : S → A → Prop) : S → List A → Prop
  | _, [] => True
  | s, a :: as => P s a ∧ AllSteps next P (next s a) as

/-- **Step by step**: a property of steps that the guard decides in the states of an invariant holds in
all steps of a run if and only if the guard does. -/
theorem allSteps_iff {next : S → A → S} {pre P guard : S → A → Prop} (Inv : S → Prop)
    (hiff : ∀ s a, Inv s → pre s a → (P s a ↔ guard s a))
    (hinv : ∀ s a, Inv s → pre s a → guard s a → Inv (next s a)) {as : List A}
    (hpre : AllSteps next pre s as) (h0 : Inv s) :
    AllSteps next P s as ↔ AllSteps next guard s as := by
  induction as generalizing s with
  | nil => exact Iff.rfl
  | cons a as ih =>
    obtain ⟨ha, has⟩ := hpre
    constructor
    · rintro ⟨hP, hrest⟩
      have hguard := (hiff s a h0 ha).mp hP
      exact ⟨hguard, (ih has (hinv s a h0 ha hguard)).mp hrest⟩
    · rintro ⟨hguard, hrest⟩
      exact ⟨(hiff s a h0 ha).mpr hguard, (ih has (hinv s a h0 ha hguard)).mpr hrest⟩

end Runs
