import Mathlib.Data.List.Basic

/-!
# Partial computations side by side

Two computations that may fail are related if both fail or both have results that are related. The rules
follow the way in which computations are put together.
-/

namespace TwoRuns

variable {α α' β β' : Type*} {P : α → α' → Prop} {Q : β → β' → Prop} {x : Option α} {x' : Option α'}

theorem rel_mono (h : Option.Rel P x x') {P' : α → α' → Prop} (hP : ∀ a a', P a a' → P' a a') :
    Option.Rel P' x x' := by
  cases h with
  | some h => exact .some (hP _ _ h)
  | none => exact .none

/-- What each result satisfies on its own. -/
theorem rel_with (h : Option.Rel P x x') {A : α → Prop} {A' : α' → Prop} (hx : ∀ a ∈ x, A a)
    (hx' : ∀ a ∈ x', A' a) : Option.Rel (fun a a' => P a a' ∧ A a ∧ A' a') x x' := by
  cases h with
  | some h => exact .some ⟨h, hx _ rfl, hx' _ rfl⟩
  | none => exact .none

/-- What is done with related results of both computations. -/
theorem rel_bind (h : Option.Rel P x x') {f : α → Option β} {f' : α' → Option β'}
    (hf : ∀ a a', P a a' → Option.Rel Q (f a) (f' a')) : Option.Rel Q (x.bind f) (x'.bind f') := by
  cases h with
  | some h => exact hf _ _ h
  | none => exact .none

theorem rel_map (h : Option.Rel P x x') {f : α → β} {f' : α' → β'}
    (hf : ∀ a a', P a a' → Q (f a) (f' a')) : Option.Rel Q (x.map f) (x'.map f') := by
  cases h with
  | some h => exact .some (hf _ _ h)
  | none => exact .none

end TwoRuns
