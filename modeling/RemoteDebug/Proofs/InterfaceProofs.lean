import Mathlib.Algebra.Order.Group.Nat
import RemoteDebug.Interfaces

/-!
# The interface table as a vector

Each call is compared with a resize of a vector: it keeps the elements and adds zero ones unless an
allocation fails or the reserved elements that become visible have been written before. A run is one of a
vector exactly as long as this does not happen.
-/

namespace RemoteDebug

open Runs

variable {v : InterfaceVec} {n i : Nat} {fresh : Nat → InterfaceInfo}
  {realloc : Option (Nat → InterfaceInfo)} {a : VecAction} {as : List VecAction}

namespace InterfaceVec

/-! ## The calls -/

theorem reserve_grow (h : v.reserved < n) (fresh : Nat → InterfaceInfo) :
    v.reserve n (some fresh) =
      { v with
        vec := some ((List.range n).map fun i => if i < v.reserved then v.moved fresh i else .zero)
        reserved := n } := by
  unfold reserve
  rw [if_pos h]

theorem reserve_fail (h : v.reserved < n) : v.reserve n none = { v with vec := none } := by
  unfold reserve
  rw [if_pos h]

theorem reserve_zero (realloc : Option (Nat → InterfaceInfo)) : v.reserve 0 realloc = .static := by
  unfold reserve
  rw [if_neg (Nat.not_lt_zero _), if_pos rfl]
  rfl

theorem reserve_within (h : n ≤ v.reserved) (h0 : 0 < n) (realloc : Option (Nat → InterfaceInfo)) :
    v.reserve n realloc = v := by
  unfold reserve
  rw [if_neg (not_lt.mpr h), if_neg h0.ne']

/-- The elements behind a growing call. -/
theorem at_reserve_grow (h : v.reserved < n) (hi : i < n) (fresh : Nat → InterfaceInfo) :
    (v.reserve n (some fresh)).at_ i =
      some (if i < v.reserved then v.moved fresh i else .zero) := by
  rw [reserve_grow h]
  simp [at_, hi]

theorem resize_at (n : Nat) (realloc : Option (Nat → InterfaceInfo)) (i : Nat) :
    (v.resize n realloc).at_ i = (v.reserve n realloc).at_ i := rfl

theorem moved_of_at {info : InterfaceInfo} (h : v.at_ i = some info) (fresh : Nat → InterfaceInfo) :
    v.moved fresh i = info := by
  rw [moved, h, Option.getD_some]

/-! ## The invariant -/

/-- The elements are allocated, and a block has as many elements as are reserved. -/
structure Sound (v : InterfaceVec) : Prop where
  allocated : v.Allocated
  block : ∀ block, v.vec = some block → block.length = v.reserved

theorem sound_static : static.Sound := ⟨⟨le_rfl, fun h => absurd h (Nat.lt_irrefl 0)⟩, nofun⟩

/-- Every element below the size is there. -/
theorem Sound.at_isSome (h : v.Sound) (hi : i < v.size) : ∃ info, v.at_ i = some info := by
  obtain ⟨block, hblock⟩ := Option.isSome_iff_exists.mp (h.allocated.storage (Nat.zero_lt_of_lt hi))
  have hlen := h.block block hblock
  have hle := h.allocated.size_le
  exact ⟨block[i], by simp [at_, hblock]⟩

theorem Sound.reserve_grow (h : v.Sound) (hn : v.reserved < n) (fresh : Nat → InterfaceInfo) :
    (v.reserve n (some fresh)).Sound := by
  rw [InterfaceVec.reserve_grow hn]
  refine ⟨⟨h.allocated.size_le.trans hn.le, fun _ => rfl⟩, ?_⟩
  intro block hblock
  obtain rfl := Option.some.inj hblock
  rw [List.length_map, List.length_range]

/-- Growing keeps the elements below the size. -/
theorem Sound.grow_kept (h : v.Sound) (hn : v.reserved < n) (hi : i < v.size)
    (fresh : Nat → InterfaceInfo) : (v.reserve n (some fresh)).at_ i = v.at_ i := by
  obtain ⟨info, hinfo⟩ := h.at_isSome hi
  have hlt : i < v.reserved := Nat.lt_of_lt_of_le hi h.allocated.size_le
  rw [at_reserve_grow hn (hlt.trans hn), if_pos hlt, moved_of_at hinfo, hinfo]

/-! ## One step -/

theorem Sound.resize_grow_iff (h : v.Sound) (hn : v.reserved < n) (fresh : Nat → InterfaceInfo) :
    (v.resize n (some fresh)).Allocated ∧ Resized n v (v.resize n (some fresh)) ↔
      ∀ i, v.size ≤ i → i < v.reserved → v.moved fresh i = .zero := by
  have hsound := h.reserve_grow hn fresh
  have hreserved : (v.reserve n (some fresh)).reserved = n := by rw [InterfaceVec.reserve_grow hn]
  constructor
  · rintro ⟨-, hres⟩ i hle hlt
    have hzero := hres.zeroed i hle (hlt.trans hn)
    rw [resize_at, at_reserve_grow hn (hlt.trans hn), if_pos hlt] at hzero
    exact Option.some.inj hzero
  · intro hstale
    refine ⟨⟨hreserved.ge, ?_⟩, ?_, ?_⟩
    · intro _
      show (v.reserve n (some fresh)).vec.isSome
      rw [InterfaceVec.reserve_grow hn]
      rfl
    · intro i hi
      exact h.grow_kept hn (Nat.lt_of_lt_of_le hi (min_le_left _ _)) fresh
    · intro i hle hlt
      rw [resize_at, at_reserve_grow hn hlt]
      split
      · next hres => rw [hstale i hle hres]
      · rfl

theorem resize_within_iff (hn : n ≤ v.reserved) (h0 : 0 < n)
    (realloc : Option (Nat → InterfaceInfo)) :
    (v.resize n realloc).Allocated ∧ Resized n v (v.resize n realloc) ↔
      v.vec.isSome ∧ ∀ i, v.size ≤ i → i < n → v.at_ i = some .zero := by
  have heq : v.resize n realloc = { v with size := n } := by rw [resize, reserve_within hn h0]
  rw [heq]
  constructor
  · rintro ⟨halloc, hres⟩
    exact ⟨halloc.storage h0, hres.zeroed⟩
  · rintro ⟨hsome, hzero⟩
    exact ⟨⟨hn, fun _ => hsome⟩, fun i _ => rfl, hzero⟩

theorem resize_zero (realloc : Option (Nat → InterfaceInfo)) : v.resize 0 realloc = .static := by
  rw [resize, reserve_zero]
  rfl

theorem resized_zero (v' : InterfaceVec) : Resized 0 v v' :=
  ⟨fun i hi => absurd hi (by omega), fun i _ hlt => absurd hlt (Nat.not_lt_zero i)⟩

/-- A step other than a resize only has to leave the table allocated. -/
theorem vecStep_of_ne (hne : ∀ n realloc, a ≠ .resize n realloc) :
    VecStep v a ↔ (v.next a).Allocated :=
  ⟨fun h => h.allocated, fun h => ⟨h, fun n realloc ha => absurd ha (hne n realloc)⟩⟩

theorem vecStep_resize :
    VecStep v (.resize n realloc) ↔
      (v.resize n realloc).Allocated ∧ Resized n v (v.resize n realloc) := by
  constructor
  · intro h
    exact ⟨h.allocated, h.resized n realloc rfl⟩
  · rintro ⟨halloc, hres⟩
    refine ⟨halloc, ?_⟩
    rintro n' realloc' ⟨⟩
    exact hres

/-- **One step** is a step of a vector exactly if it is orderly. -/
theorem Sound.step_iff (h : v.Sound) (hused : VecUsed v a) : VecStep v a ↔ VecOrderly v a := by
  cases a with
  | resize n realloc =>
    rw [vecStep_resize, VecOrderly]
    split
    · next hn =>
      cases realloc with
      | none =>
        constructor
        · intro hstep
          have hle := hstep.1.size_le
          rw [resize, reserve_fail hn] at hle
          exact absurd hn (not_lt.mpr hle)
        · rintro ⟨_, hcon, _⟩
          cases hcon
      | some fresh =>
        rw [h.resize_grow_iff hn fresh]
        constructor
        · intro hstale
          exact ⟨fresh, rfl, hstale⟩
        · rintro ⟨_, ⟨⟩, hstale⟩
          exact hstale
    · next hn =>
      rcases Nat.eq_zero_or_pos n with rfl | h0
      · rw [resize_zero]
        exact ⟨fun _ hlt => absurd hlt (Nat.lt_irrefl 0),
          fun _ => ⟨sound_static.allocated, resized_zero _⟩⟩
      · rw [resize_within_iff (not_lt.mp hn) h0]
        exact ⟨fun hres _ => hres, fun hres => hres h0⟩
  | reserve n realloc =>
    rw [vecStep_of_ne (fun _ _ h => by cases h), VecOrderly]
    show (v.reserve n realloc).Allocated ↔ _
    by_cases hn : v.reserved < n
    · cases realloc with
      | none =>
        rw [reserve_fail hn]
        constructor
        · intro halloc _
          refine Or.inr (Nat.eq_zero_of_not_pos fun hpos => ?_)
          cases halloc.storage hpos
        · intro hor
          rcases hor hn with hsome | h0
          · cases hsome
          · exact ⟨h.allocated.size_le, fun hpos => absurd h0 (Nat.ne_of_gt hpos)⟩
      | some fresh =>
        exact ⟨fun _ _ => Or.inl rfl, fun _ => (h.reserve_grow hn fresh).allocated⟩
    · refine ⟨fun _ hlt => absurd hlt hn, ?_⟩
      intro _
      rcases Nat.eq_zero_or_pos n with rfl | h0
      · rw [reserve_zero]
        exact sound_static.allocated
      · rw [reserve_within (not_lt.mp hn) h0]
        exact h.allocated
  | update i info =>
    rw [vecStep_of_ne (fun _ _ h => by cases h)]
    refine ⟨fun _ => trivial, fun _ => ⟨h.allocated.size_le, ?_⟩⟩
    intro hpos
    show (v.vec.map _).isSome
    rw [Option.isSome_map]
    exact h.allocated.storage hpos

theorem Sound.next (h : v.Sound) (hused : VecUsed v a) (horderly : VecOrderly v a) :
    (v.next a).Sound := by
  have hstep := (h.step_iff hused).mpr horderly
  refine ⟨hstep.allocated, ?_⟩
  cases a with
  | resize n realloc =>
    rcases Nat.eq_zero_or_pos n with rfl | h0
    · exact (resize_zero (v := v) realloc ▸ sound_static).block
    · by_cases hn : v.reserved < n
      · rw [VecOrderly, if_pos hn] at horderly
        obtain ⟨fresh, rfl, -⟩ := horderly
        exact (h.reserve_grow hn fresh).block
      · intro block hblock
        have heq : v.reserve n realloc = v := reserve_within (not_lt.mp hn) h0 realloc
        simp only [InterfaceVec.next, resize, heq] at hblock ⊢
        exact h.block block hblock
  | reserve n realloc =>
    show ∀ block, (v.reserve n realloc).vec = some block → block.length = _
    rcases Nat.eq_zero_or_pos n with rfl | h0
    · rw [reserve_zero]
      nofun
    · by_cases hn : v.reserved < n
      · cases realloc with
        | none =>
          rw [reserve_fail hn]
          nofun
        | some fresh => exact (h.reserve_grow hn fresh).block
      · intro block hblock
        have heq : v.reserve n realloc = v := reserve_within (not_lt.mp hn) h0 realloc
        rw [heq] at hblock
        exact (h.block block hblock).trans (congrArg reserved heq).symm
  | update i info =>
    intro block hblock
    obtain ⟨old, hold, rfl⟩ := Option.map_eq_some_iff.mp hblock
    rw [List.length_set]
    exact h.block old hold

/-! ## The elements -/

theorem getElem?_elements (v : InterfaceVec) (i : Nat) :
    v.elements[i]? = if i < v.size then v.at_ i else none := by
  rw [elements, List.getElem?_take]
  split
  · cases hvec : v.vec with
    | none => simp [at_, hvec]
    | some block => simp [at_, hvec]
  · rfl

theorem Sound.length_elements (h : v.Sound) : v.elements.length = v.size := by
  rcases Nat.eq_zero_or_pos v.size with h0 | hpos
  · rw [elements, h0, List.take_zero, List.length_nil]
  · obtain ⟨block, hblock⟩ := Option.isSome_iff_exists.mp (h.allocated.storage hpos)
    have hle := h.allocated.size_le
    have hlen := h.block block hblock
    rw [elements, hblock, Option.getD_some, List.length_take, hlen, Nat.min_eq_left hle]

/-- Tables of one size with the same elements below it. -/
theorem elements_congr {v' : InterfaceVec} (hsize : v'.size = v.size)
    (h : ∀ i < v.size, v'.at_ i = v.at_ i) : v'.elements = v.elements := by
  apply List.ext_getElem?
  intro i
  rw [getElem?_elements, getElem?_elements, hsize]
  split
  · next hi => exact h i hi
  · rfl

theorem Sound.elements_resize (h : v.Sound) {v' : InterfaceVec} (hsize : v'.size = n)
    (hres : Resized n v v') :
    v'.elements = v.elements.take n ++ List.replicate (n - v.elements.length) .zero := by
  apply List.ext_getElem?
  intro i
  rw [getElem?_elements, hsize, List.getElem?_append, List.length_take, h.length_elements,
    List.getElem?_take, getElem?_elements, List.getElem?_replicate]
  by_cases hmin : i < min n v.size
  · have hn : i < n := Nat.lt_of_lt_of_le hmin (min_le_left _ _)
    have hsz : i < v.size := Nat.lt_of_lt_of_le hmin (min_le_right _ _)
    rw [if_pos hn, if_pos hmin, if_pos hn, if_pos hsz]
    exact hres.kept i (by rwa [min_comm])
  · rw [if_neg hmin]
    by_cases hn : i < n
    · have hsz : v.size ≤ i := by omega
      rw [if_pos hn, if_pos (by omega)]
      exact hres.zeroed i hsz hn
    · rw [if_neg hn, if_neg (by omega)]

theorem Sound.elements_reserve (h : v.Sound) (h0 : 0 < n) (realloc : Option (Nat → InterfaceInfo))
    (hfail : v.reserved < n → realloc.isSome ∨ v.size = 0) :
    (v.reserve n realloc).elements = v.elements := by
  by_cases hn : v.reserved < n
  · cases realloc with
    | none =>
      have hsize : v.size = 0 := (hfail hn).resolve_left (by simp)
      rw [reserve_fail hn]
      exact elements_congr rfl fun i hi => absurd hi (hsize ▸ Nat.not_lt_zero i)
    | some fresh =>
      refine elements_congr ?_ fun i hi => h.grow_kept hn hi fresh
      rw [InterfaceVec.reserve_grow hn]
  · rw [reserve_within (not_lt.mp hn) h0]

/-- **An orderly step** does to the elements what it does to those of a vector. -/
theorem Sound.elements_next (h : v.Sound) (hused : VecUsed v a) (horderly : VecOrderly v a) :
    (v.next a).elements = vectorNext v.elements a := by
  have hstep := (h.step_iff hused).mpr horderly
  cases a with
  | resize n realloc => exact h.elements_resize rfl (hstep.resized n realloc rfl)
  | reserve n realloc =>
    rw [vectorNext]
    split
    · next h0 =>
      subst h0
      rw [InterfaceVec.next, reserve_zero]
      rfl
    · next h0 => exact h.elements_reserve (Nat.pos_of_ne_zero h0) realloc horderly
  | update i info =>
    rw [vectorNext, InterfaceVec.next, update, elements, elements]
    cases v.vec with
    | none => simp
    | some block => exact List.take_set ..

/-- **In an orderly run** the table holds the elements of a vector. -/
theorem elements_run (hused : AllSteps next VecUsed v as) (horderly : AllSteps next VecOrderly v as)
    (h : v.Sound) : (as.foldl next v).elements = as.foldl vectorNext v.elements := by
  induction as generalizing v with
  | nil => rfl
  | cons a as ih =>
    obtain ⟨hu, husedTail⟩ := hused
    obtain ⟨ho, horderlyTail⟩ := horderly
    rw [List.foldl_cons, List.foldl_cons, ih husedTail horderlyTail (h.next hu ho),
      h.elements_next hu ho]

end InterfaceVec

/-- **The interface table behaves as a vector** in a run exactly if the run is orderly. -/
theorem interface_vec_iff (hused : AllSteps InterfaceVec.next VecUsed .static as) :
    AllSteps InterfaceVec.next VecStep .static as ↔
      AllSteps InterfaceVec.next VecOrderly .static as :=
  allSteps_iff InterfaceVec.Sound (fun _ _ h hpre => h.step_iff hpre)
    (fun _ _ h hpre hguard => h.next hpre hguard) hused InterfaceVec.sound_static

/-- An interface that `fpga_open` has opened. -/
def openedInterface : InterfaceInfo := { InterfaceInfo.zero with isMmioOpened := true }

/-- Growth from the empty table and around an open element, and then a shrink, in memory that is not
zero. -/
def openedActions : List VecAction :=
  [.resize 1 (some fun _ => openedInterface), .update 0 openedInterface,
    .resize 3 (some fun _ => openedInterface), .resize 2 none]

theorem interface_vec_opened : AllSteps InterfaceVec.next VecStep .static openedActions := by
  have hused : AllSteps InterfaceVec.next VecUsed .static openedActions :=
    ⟨show 1 * 48 < 2 ^ 64 by omega, Nat.zero_lt_one, show 3 * 48 < 2 ^ 64 by omega,
      show 2 * 48 < 2 ^ 64 by omega, trivial⟩
  refine (interface_vec_iff hused).mpr ⟨⟨_, rfl, ?_⟩, trivial, ⟨_, rfl, ?_⟩, ?_, trivial⟩
  · exact fun i _ hi => absurd hi (Nat.not_lt_zero i)
  · exact fun i hsize hreserved => absurd (Nat.lt_of_le_of_lt hsize hreserved) (Nat.lt_irrefl 1)
  · exact fun _ => ⟨rfl, fun i hsize hi => absurd (Nat.lt_of_le_of_lt hsize hi) (by decide)⟩

/-- An element that is opened, dropped and added again is still open; and when the allocation fails the
table has a size without a block. -/
theorem interface_vec_fails :
    ¬ AllSteps InterfaceVec.next VecStep .static
        [.resize 2 (some fun _ => .zero), .update 1 openedInterface, .resize 1 none, .resize 2 none] ∧
      ¬ AllSteps InterfaceVec.next VecStep .static [.resize 1 none] := by
  constructor
  · rintro ⟨-, -, -, hstep, -⟩
    have hzero := (hstep.resized 2 none rfl).zeroed 1 (by decide) (by decide)
    exact absurd hzero (by decide)
  · rintro ⟨hstep, -⟩
    exact absurd hstep.allocated.size_le (by decide)

end RemoteDebug
