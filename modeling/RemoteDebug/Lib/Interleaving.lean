import Mathlib.Data.List.Basic

/-!
# Accesses between the steps of an environment

A system whose accesses are interleaved with steps of its environment. A schedule lists the steps that
the environment takes before each access. A computation refines another one if for every schedule of
the first there is one of the second with the same result, which leaves the same state behind steps
that the environment has still to take; in both the environment takes the same steps. The main result
is that an access that is split in two refines the undivided one.
-/

namespace Interleaving

variable {S E V W : Type*}

/-! ## Steps of the environment -/

/-- The state after the steps `l`. -/
def proceed (env : E → S → S) (l : List E) (s : S) : S := l.foldl (fun s e => env e s) s

variable {env : E → S → S} {s s' : S}

theorem proceed_append (l l' : List E) (s : S) :
    proceed env (l ++ l') s = proceed env l' (proceed env l s) := List.foldl_append

theorem proceed_cons (e : E) (l : List E) (s : S) :
    proceed env (e :: l) s = proceed env l (env e s) := rfl

/-- What each step preserves. -/
theorem proceed_invariant {I : S → Prop} {l : List E} (hstep : ∀ e ∈ l, ∀ s, I s → I (env e s))
    (h : I s) : I (proceed env l s) := by
  induction l generalizing s with
  | nil => exact h
  | cons e l ih =>
    exact ih (fun e' he' => hstep e' (List.mem_cons_of_mem e he')) (hstep e List.mem_cons_self s h)

/-- An effect that each of the steps leaves alone. -/
theorem proceed_comm {f : S → S} {l : List E} (h : ∀ e ∈ l, ∀ s, f (env e s) = env e (f s)) (s : S) :
    f (proceed env l s) = proceed env l (f s) := by
  induction l generalizing s with
  | nil => rfl
  | cons e l ih =>
    rw [proceed_cons, ih (fun e' he' => h e' (List.mem_cons_of_mem e he')), h e List.mem_cons_self s]
    rfl

/-- Steps that do not see the late ones can be taken first. -/
theorem proceed_late {late : E → Bool}
    (hcomm : ∀ e e' s, late e = true → late e' = false → env e' (env e s) = env e (env e' s))
    (l : List E) (s : S) :
    proceed env l s =
      proceed env (l.filter late) (proceed env (l.filter fun e => !late e) s) := by
  induction l generalizing s with
  | nil => rfl
  | cons e l ih =>
    cases hlate : late e with
    | true =>
      have hpast : env e (proceed env (l.filter fun e => !late e) s)
          = proceed env (l.filter fun e => !late e) (env e s) := by
        refine proceed_comm (fun e' he' s => (hcomm e e' s hlate ?_).symm) s
        simpa using (List.mem_filter.mp he').2
      rw [proceed_cons, ih, List.filter_cons_of_pos hlate,
        List.filter_cons_of_neg (by simp [hlate]), proceed_cons, hpast]
    | false =>
      rw [proceed_cons, ih, List.filter_cons_of_neg (by simp [hlate]),
        List.filter_cons_of_pos (by simp [hlate])]
      rfl

/-! ## Accesses -/

/-- A value that is read and an effect on the state. -/
structure Access (S V : Type*) where
  read : S → V
  effect : S → S

/-- Both accesses, with nothing in between. -/
def Access.both (a : Access S V) (b : Access S W) : Access S (V × W) where
  read s := (a.read s, b.read (a.effect s))
  effect s := b.effect (a.effect s)

/-- The environment takes the steps that are scheduled before the next access. -/
def turn (env : E → S → S) (x : S × List (List E)) : S × List (List E) :=
  (proceed env (x.2.headD []) x.1, x.2.tail)

/-- An access at its turn. -/
def Access.run (env : E → S → S) (a : Access S V) (x : S × List (List E)) :
    V × S × List (List E) :=
  (a.read (turn env x).1, a.effect (turn env x).1, (turn env x).2)

/-- The accesses one after the other, the environment taking the steps scheduled in between. -/
def Access.split (env : E → S → S) (a : Access S V) (b : Access S W) (x : S × List (List E)) :
    (V × W) × S × List (List E) :=
  (((a.run env x).1, (b.run env (a.run env x).2).1), (b.run env (a.run env x).2).2)

/-! ## Refinement -/

/-- From the state that `s` reaches with the steps `pending`, with the schedule `sched`, the
computation `f` does what `f'` does from `s`. -/
def RefinesAt (env : E → S → S) (f f' : S × List (List E) → V × S × List (List E)) (s : S)
    (pending : List E) (sched : List (List E)) : Prop :=
  ∃ sched' s' pending',
    (∀ rest, f' (s, sched' ++ rest) = ((f (proceed env pending s, sched)).1, s', rest)) ∧
    proceed env pending' s' = (f (proceed env pending s, sched)).2.1 ∧
    (sched'.flatten ++ pending' ++ (f (proceed env pending s, sched)).2.2.flatten).Perm
      (pending ++ sched.flatten)

/-- The computation `f` refines `f'`. -/
def Refines (env : E → S → S) (f f' : S × List (List E) → V × S × List (List E)) : Prop :=
  ∀ s pending sched, RefinesAt env f f' s pending sched

variable {f f' : S × List (List E) → V × S × List (List E)}
  {pending : List E} {sched : List (List E)}

theorem refinesAt_pure (v : V) (s : S) (pending : List E) (sched : List (List E)) :
    RefinesAt env (fun x => (v, x)) (fun x => (v, x)) s pending sched :=
  ⟨[], s, pending, fun _ => rfl, rfl, by simp⟩

/-- One computation after the other. -/
theorem RefinesAt.bind (g g' : V → S × List (List E) → W × S × List (List E))
    (hf : RefinesAt env f f' s pending sched)
    (hg : ∀ s' pending', proceed env pending' s' = (f (proceed env pending s, sched)).2.1 →
      RefinesAt env (g (f (proceed env pending s, sched)).1) (g' (f (proceed env pending s, sched)).1)
        s' pending' (f (proceed env pending s, sched)).2.2) :
    RefinesAt env (fun x => g (f x).1 (f x).2) (fun x => g' (f' x).1 (f' x).2) s pending sched := by
  obtain ⟨sched1, s1, pending1, hrun1, hstate1, hperm1⟩ := hf
  obtain ⟨sched2, s2, pending2, hrun2, hstate2, hperm2⟩ := hg s1 pending1 hstate1
  refine ⟨sched1 ++ sched2, s2, pending2, fun rest => ?_, ?_, ?_⟩
  · show g' (f' (s, sched1 ++ sched2 ++ rest)).1 (f' (s, sched1 ++ sched2 ++ rest)).2 = _
    rw [List.append_assoc, hrun1]
    show g' _ (s1, sched2 ++ rest) = _
    rw [hrun2, hstate1]
  · rw [hstate2, hstate1]
  · rw [hstate1] at hperm2
    refine List.Perm.trans ?_ hperm1
    rw [List.flatten_append, List.append_assoc, List.append_assoc, List.append_assoc]
    refine List.Perm.append_left _ ?_
    rw [← List.append_assoc]
    exact hperm2

theorem RefinesAt.map (h : V → W) (hf : RefinesAt env f f' s pending sched) :
    RefinesAt env (fun x => (h (f x).1, (f x).2)) (fun x => (h (f' x).1, (f' x).2)) s pending sched :=
  hf.bind (fun v x => (h v, x)) (fun v x => (h v, x)) fun s' pending' _ =>
    refinesAt_pure _ s' pending' _

theorem headD_append_flatten_tail (sched : List (List E)) :
    sched.headD [] ++ sched.tail.flatten = sched.flatten := by
  cases sched <;> rfl

/-- An undivided access. -/
theorem refines_access (a : Access S V) : Refines env (a.run env) (a.run env) := by
  intro s pending sched
  refine ⟨[pending ++ sched.headD []], a.effect (proceed env (pending ++ sched.headD []) s), [],
    fun rest => ?_, ?_, ?_⟩
  · simp only [Access.run, turn, List.singleton_append, List.headD_cons, List.tail_cons,
      proceed_append]
  · rw [proceed_append]
    rfl
  · simp only [Access.run, turn, List.flatten_cons, List.flatten_nil, List.append_nil,
      List.append_assoc, headD_append_flatten_tail, List.Perm.refl]

/-- **A split access**: of the steps between the two halves those that are late leave the second half
alone, and the others leave the first half alone. -/
theorem refinesAt_split (a : Access S V) (b : Access S W) (late : E → Bool) (I : S → Prop)
    (hcomm : ∀ e e' s, late e = true → late e' = false → env e' (env e s) = env e (env e' s))
    (hstable : ∀ e s, I s → I (env e s)) (hstart : I (proceed env (pending ++ sched.headD []) s))
    (hread : ∀ e s, late e = false → I s → a.read (env e s) = a.read s)
    (heffect : ∀ e s, late e = false → a.effect (env e s) = env e (a.effect s))
    (hread' : ∀ e s, late e = true → b.read (env e s) = b.read s)
    (heffect' : ∀ e s, late e = true → b.effect (env e s) = env e (b.effect s)) :
    RefinesAt env (a.split env b) ((a.both b).run env) s pending sched := by
  obtain ⟨early, hearly⟩ : ∃ l, (sched.tail.headD []).filter (fun e => !late e) = l := ⟨_, rfl⟩
  obtain ⟨after, hafter⟩ : ∃ l, (sched.tail.headD []).filter late = l := ⟨_, rfl⟩
  have hnot : ∀ e ∈ early, late e = false := by
    intro e he
    rw [← hearly] at he
    simpa using (List.mem_filter.mp he).2
  have hlate : ∀ e ∈ after, late e = true := by
    intro e he
    rw [← hafter] at he
    exact (List.mem_filter.mp he).2
  rw [proceed_append] at hstart
  generalize hs1 : proceed env (sched.headD []) (proceed env pending s) = s1 at hstart
  obtain ⟨s2, hs2⟩ : ∃ s2, proceed env early s1 = s2 := ⟨_, rfl⟩
  -- what the first half reads and does is the same behind the early steps
  have hsame : a.read s2 = a.read s1 := by
    have hinv : I (proceed env early s1) ∧ a.read (proceed env early s1) = a.read s1 :=
      proceed_invariant (I := fun s => I s ∧ a.read s = a.read s1)
        (fun e he s hs => ⟨hstable e s hs.1, (hread e s (hnot e he) hs.1).trans hs.2⟩) ⟨hstart, rfl⟩
    rw [hs2] at hinv
    exact hinv.2
  have hmid : proceed env (sched.tail.headD []) (a.effect s1) = proceed env after (a.effect s2) := by
    rw [proceed_late hcomm, hearly, hafter, ← hs2,
      proceed_comm (fun e he s => heffect e s (hnot e he))]
  have hsame' : b.read (proceed env after (a.effect s2)) = b.read (a.effect s2) :=
    proceed_invariant (I := fun s => b.read s = b.read (a.effect s2))
      (fun e he s hs => (hread' e s (hlate e he)).trans hs) rfl
  refine ⟨[pending ++ sched.headD [] ++ early], b.effect (a.effect s2), after, fun rest => ?_, ?_, ?_⟩
  · simp only [Access.split, Access.run, Access.both, turn, List.singleton_append, List.headD_cons,
      List.tail_cons, proceed_append, hs1, hs2, hmid, hsame, hsame']
  · simp only [Access.split, Access.run, turn, hs1, hmid]
    exact (proceed_comm (fun e he s => heffect' e s (hlate e he)) _).symm
  · have hparts : (early ++ after).Perm (sched.tail.headD []) := by
      rw [← hearly, ← hafter]
      exact List.perm_append_comm.trans (List.filter_append_perm late _)
    have hrest : sched.tail.headD [] ++ sched.tail.tail.flatten = sched.tail.flatten :=
      headD_append_flatten_tail _
    simp only [Access.split, Access.run, turn, List.flatten_cons, List.flatten_nil,
      List.append_nil, List.append_assoc]
    rw [← headD_append_flatten_tail sched, ← hrest]
    refine List.Perm.append_left _ ?_
    refine List.Perm.append_left _ ?_
    rw [← List.append_assoc]
    exact hparts.append_right _

end Interleaving
