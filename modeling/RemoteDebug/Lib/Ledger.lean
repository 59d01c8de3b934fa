import Mathlib.Data.Multiset.AddSub

/-!
# Acquiring and releasing

Traces of acquisitions and releases. A trace settles if nothing is released that is not held at that
moment; it is balanced if it settles and nothing is held at its end, so that everything acquired has
been released exactly once.
-/

namespace Ledger

variable {R : Type*} [DecidableEq R]

inductive Use (R : Type*) where
  | acquire (r : R)
  | release (r : R)
  deriving DecidableEq

/-- What is held at the end, `none` if something is released that is not held. -/
def settle : List (Use R) → Multiset R → Option (Multiset R)
  | [], held => some held
  | .acquire r :: l, held => settle l (r ::ₘ held)
  | .release r :: l, held => if r ∈ held then settle l (held.erase r) else none

def Balanced (l : List (Use R)) : Prop := settle l 0 = some 0

theorem settle_append (l l' : List (Use R)) (held : Multiset R) :
    settle (l ++ l') held = (settle l held).bind (settle l') := by
  induction l generalizing held with
  | nil => rfl
  | cons u l ih =>
    cases u with
    | acquire r => exact ih _
    | release r =>
      simp only [List.cons_append, settle]
      split
      · exact ih _
      · rfl

/-- What is not released stays held. -/
theorem mem_of_settle {l : List (Use R)} {held held' : Multiset R} {r : R}
    (h : settle l held = some held') (hmem : r ∈ held) (hnot : .release r ∉ l) : r ∈ held' := by
  induction l generalizing held with
  | nil => exact Option.some.inj h ▸ hmem
  | cons u l ih =>
    have htail : .release r ∉ l := fun hin => hnot (List.mem_cons_of_mem _ hin)
    cases u with
    | acquire r' => exact ih h (Multiset.mem_cons_of_mem hmem) htail
    | release r' =>
      have hne : r ≠ r' := by
        rintro rfl
        exact hnot List.mem_cons_self
      rw [settle] at h
      split at h
      · exact ih h ((Multiset.mem_erase_of_ne hne).mpr hmem) htail
      · cases h

theorem settle_acquires (rs : List R) (held : Multiset R) :
    settle (rs.map .acquire) held = some (↑rs + held) := by
  induction rs generalizing held with
  | nil => simp [settle]
  | cons r rs ih =>
    simp only [List.map_cons, settle, ih, ← Multiset.cons_coe, Multiset.cons_add,
      Multiset.add_cons]

theorem settle_releases (rs : List R) (held : Multiset R) :
    settle (rs.map .release) (↑rs + held) = some held := by
  induction rs generalizing held with
  | nil => simp [settle]
  | cons r rs ih =>
    simp only [List.map_cons, settle, ← Multiset.cons_coe, Multiset.cons_add,
      Multiset.mem_cons_self, if_true, Multiset.erase_cons_head, ih]

/-- What is released at once is never missed. -/
theorem settle_pairs (rs : List R) (held : Multiset R) :
    settle (rs.flatMap fun r => [.acquire r, .release r]) held = some held := by
  induction rs with
  | nil => rfl
  | cons r rs ih => simp [settle, ih]

/-- **Own resources**: acquired first, released last, with others in between that are released at
once. -/
theorem balanced_nested (own extra : List R) :
    Balanced (own.map .acquire ++ extra.flatMap (fun r => [.acquire r, .release r])
      ++ own.map .release) := by
  unfold Balanced
  rw [settle_append, settle_append, settle_acquires, Option.bind_some, settle_pairs,
    Option.bind_some]
  exact settle_releases own 0

end Ledger
