import Mathlib.Data.Nat.ModEq
import Mathlib.Data.Set.Lattice
import Mathlib.Order.CompletePartialOrder
import Mathlib.Tactic.Linarith

/-!
# Regions of a cyclic space, handed out in order

A cyclic space of `span` cells is allocated region after region: each region starts where the
previous one ends, modulo `span`, and regions are given back oldest first. As long as the live
regions have at most `span` cells together, no two of them share a cell.
-/

namespace Cyclic

/-- A run of `len` consecutive cells starting at `start`, continued from cell `0` at the end of the
space. -/
structure Region where
  /-- The first cell. -/
  start : Nat
  /-- The number of cells. -/
  len : Nat
  deriving DecidableEq

/-- The cells of a region in a space of `span` cells. -/
def Region.cells (span : Nat) (r : Region) : Set Nat :=
  {x | ∃ i < r.len, x = (r.start + i) % span}

/-- The number of cells of all regions together. -/
def total (l : List Region) : Nat := (l.map Region.len).sum

@[simp] theorem total_nil : total [] = 0 := rfl

@[simp] theorem total_cons (r : Region) (l : List Region) : total (r :: l) = r.len + total l := by
  simp [total]

@[simp] theorem total_append (l l' : List Region) : total (l ++ l') = total l + total l' := by
  simp [total]

theorem len_le_total {r : Region} {l : List Region} (h : r ∈ l) : r.len ≤ total l := by
  obtain ⟨l1, l2, rfl⟩ := List.append_of_mem h
  rw [total_append, total_cons]
  omega

/-- The regions of the list are laid out one behind the other from offset `o` on. -/
def Laid (span : Nat) : Nat → List Region → Prop
  | _, [] => True
  | o, r :: l => r.start = o % span ∧ Laid span (o + r.len) l

/-- Only the cell in which the layout starts matters. -/
theorem Laid.congr {span o o' : Nat} {l : List Region} (he : o % span = o' % span)
    (h : Laid span o' l) : Laid span o l := by
  induction l generalizing o o' with
  | nil => trivial
  | cons r l ih =>
    refine ⟨by rw [he]; exact h.1, ih ?_ h.2⟩
    rw [Nat.add_mod, he, ← Nat.add_mod]

theorem laid_append {span o : Nat} {l l' : List Region} :
    Laid span o (l ++ l') ↔ Laid span o l ∧ Laid span (o + total l) l' := by
  induction l generalizing o with
  | nil => simp [Laid]
  | cons r l ih => simp [Laid, ih, and_assoc, Nat.add_assoc]

/-- A new region at the end of the laid-out regions. -/
theorem laid_snoc {span o : Nat} {l : List Region} {r : Region} (h : Laid span o l)
    (hr : r.start = (o + total l) % span) : Laid span o (l ++ [r]) :=
  laid_append.mpr ⟨h, hr, trivial⟩

/-- Giving back the oldest regions leaves the rest laid out behind them. -/
theorem laid_drop {span o : Nat} {l : List Region} (h : Laid span o l) (k : Nat) :
    Laid span (o + total (l.take k)) (l.drop k) := by
  rw [← List.take_append_drop k l, laid_append] at h
  exact h.2

theorem Laid.start_lt {span o : Nat} {l : List Region} (h : Laid span o l) (hs : 0 < span) :
    ∀ r ∈ l, r.start < span := by
  induction l generalizing o with
  | nil => simp
  | cons r l ih =>
    intro r' hr'
    rcases List.mem_cons.mp hr' with rfl | hr'
    · rw [h.1]; exact Nat.mod_lt _ hs
    · exact ih h.2 r' hr'

/-- The cells of laid-out regions are offsets behind `o`. -/
theorem Laid.cell_offset {span o : Nat} {l : List Region} (h : Laid span o l) {r : Region}
    (hr : r ∈ l) {x : Nat} (hx : x ∈ r.cells span) : ∃ j < total l, x = (o + j) % span := by
  induction l generalizing o with
  | nil => simp at hr
  | cons r0 l ih =>
    rcases List.mem_cons.mp hr with rfl | hr
    · obtain ⟨i, hi, rfl⟩ := hx
      refine ⟨i, by simp; omega, ?_⟩
      rw [h.1, Nat.mod_add_mod]
    · obtain ⟨j, hj, rfl⟩ := ih h.2 hr
      exact ⟨r0.len + j, by simp; omega, by rw [Nat.add_assoc]⟩

/-- Two offsets less than `span` apart are different cells. -/
theorem mod_ne_of_lt {span a b : Nat} (h1 : a < b) (h2 : b < a + span) : a % span ≠ b % span := by
  intro h
  have hd : span ∣ b - a := (Nat.modEq_iff_dvd' h1.le).mp h
  exact absurd (Nat.le_of_dvd (by omega) hd) (by omega)

/-- **Disjointness**: regions laid out behind each other that fit the space together do not
overlap. -/
theorem Laid.pairwise_disjoint {span o : Nat} {l : List Region} (h : Laid span o l)
    (hfit : total l ≤ span) : l.Pairwise fun r r' => Disjoint (r.cells span) (r'.cells span) := by
  induction l generalizing o with
  | nil => exact .nil
  | cons r l ih =>
    rw [total_cons] at hfit
    refine List.pairwise_cons.mpr ⟨fun r' hr' => ?_, ih h.2 (by omega)⟩
    refine Set.disjoint_left.mpr fun x hx hx' => ?_
    obtain ⟨i, hi, rfl⟩ := hx
    obtain ⟨j, hj, hij⟩ := h.2.cell_offset hr' hx'
    rw [h.1, Nat.mod_add_mod] at hij
    exact mod_ne_of_lt (by omega) (by omega) hij

/-- A region is clear of the first `n` cells if it is behind them and does not wrap, or if there is
nothing to collide. -/
theorem Region.cells_ge_iff {span n : Nat} {r : Region} (hstart : r.start < span) :
    (∀ x ∈ r.cells span, n ≤ x) ↔
      r.len = 0 ∨ n = 0 ∨ (n ≤ r.start ∧ r.start + r.len ≤ span) := by
  constructor
  · intro h
    by_contra hne
    push Not at hne
    obtain ⟨hlen, hn, hwrap⟩ := hne
    have hfirst := h _ ⟨0, by omega, rfl⟩
    rw [Nat.add_zero, Nat.mod_eq_of_lt hstart] at hfirst
    -- the first cell behind the end of the space is cell `0`
    have hlast := h _ ⟨span - r.start, by have := hwrap hfirst; omega, rfl⟩
    rw [Nat.add_sub_cancel' hstart.le, Nat.mod_self] at hlast
    omega
  · rintro h x ⟨i, hi, rfl⟩
    rcases h with hlen | rfl | ⟨hn, hend⟩
    · omega
    · exact Nat.zero_le _
    · rw [Nat.mod_eq_of_lt (by omega)]
      omega

end Cyclic
