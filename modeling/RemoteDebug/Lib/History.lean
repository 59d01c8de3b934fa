import Mathlib.Data.List.Basic

/-!
# The latest event that counts

A value that some events of a history set and the others leave as it is. A history lists the latest event
first, so that the rest of the list is the history before that event.
-/

namespace History

variable {E V : Type*}

/-- What the value has been set to last, `start` if no event of the history has set it. Whether an event
sets the value, and to what, may depend on the history before it. -/
def latest (set : List E → E → Option V) (start : V) : List E → V
  | [] => start
  | e :: before => (set before e).getD (latest set start before)

variable {set : List E → E → Option V} {start v : V} {e : E} {before after : List E}

@[simp] theorem latest_nil : latest set start [] = start := rfl

theorem latest_set (h : set before e = some v) : latest set start (e :: before) = v := by
  rw [latest, h, Option.getD_some]

theorem latest_keep (h : set before e = none) :
    latest set start (e :: before) = latest set start before := by
  rw [latest, h, Option.getD_none]

/-- What an event leaves, as long as it does not reset the value. -/
theorem latest_of_ne {set : List E → E → Option Bool} (h : latest set false before = true)
    (hne : set before e ≠ some false) : latest set false (e :: before) = true := by
  cases hset : set before e with
  | none => exact (latest_keep hset).trans h
  | some b =>
    cases b with
    | true => exact latest_set hset
    | false => exact absurd hset hne

/-- **Rising edges**: a condition holds if and only if an event has established it, when it did not hold,
and none since then has reset it. -/
theorem latest_eq_true_iff {set : List E → E → Option Bool} {events : List E} :
    latest set false events = true ↔
      ∃ later e earlier, events = later ++ e :: earlier ∧ set earlier e = some true ∧
        latest set false earlier = false ∧
        ∀ l c l', later = l ++ c :: l' → set (l' ++ e :: earlier) c ≠ some false := by
  constructor
  · intro h
    induction events with
    | nil => exact absurd h Bool.false_ne_true
    | cons c before ih =>
      by_cases hbefore : latest set false before = true
      · obtain ⟨later, e, earlier, heq, hset, hlow, hlater⟩ := ih hbefore
        refine ⟨c :: later, e, earlier, by rw [heq, List.cons_append], hset, hlow, ?_⟩
        intro l c' l' hl
        rcases List.cons_eq_append_iff.mp hl with ⟨rfl, hl'⟩ | ⟨l₁, rfl, hl'⟩
        · obtain ⟨rfl, rfl⟩ := List.cons.inj hl'
          intro hreset
          rw [← heq] at hreset
          rw [latest_set hreset] at h
          exact absurd h Bool.false_ne_true
        · exact hlater l₁ c' l' hl'
      · have hlow : latest set false before = false := by simpa using hbefore
        cases hset : set before c with
        | none =>
          rw [latest_keep hset] at h
          exact absurd h hbefore
        | some b =>
          rw [latest_set hset] at h
          subst h
          refine ⟨[], c, before, rfl, hset, hlow, ?_⟩
          intro l c' l' hl
          exact absurd hl (by simp)
  · rintro ⟨later, e, earlier, rfl, hset, -, hlater⟩
    induction later with
    | nil => exact latest_set hset
    | cons c later ih =>
      refine latest_of_ne (ih fun l c' l' hl => ?_) (hlater [] c later rfl)
      exact hlater (c :: l) c' l' (by rw [hl, List.cons_append])

/-! ## Around an event -/

/-- `P` holds of what is later and what is earlier than each occurrence of `e`. -/
def AtEach (e : E) (P : List E → List E → Prop) (events : List E) : Prop :=
  ∀ later earlier, events = later ++ e :: earlier → P later earlier

variable {P P' : List E → List E → Prop} {events new : List E}

theorem atEach_nil (e : E) (P : List E → List E → Prop) : AtEach e P [] := by
  intro later earlier h
  exact absurd h.symm (List.append_ne_nil_of_right_ne_nil later (List.cons_ne_nil e earlier))

theorem AtEach.imp (h : AtEach e P events) (himp : ∀ later earlier, P later earlier → P' later earlier) :
    AtEach e P' events := fun later earlier heq => himp later earlier (h later earlier heq)

/-- One more event, or none. -/
theorem AtEach.extend (h : AtEach e P events) (hlen : new.length ≤ 1)
    (hold : ∀ later earlier, P later earlier → P' (new ++ later) earlier)
    (hnew : e ∈ new → P' [] events) : AtEach e P' (new ++ events) := by
  intro later earlier heq
  match new, hlen with
  | [], _ => exact hold later earlier (h later earlier heq)
  | [e'], _ =>
    rcases List.cons_eq_append_iff.mp heq with ⟨rfl, hsame⟩ | ⟨rest, rfl, hrest⟩
    · obtain ⟨rfl, rfl⟩ := List.cons.inj hsame
      exact hnew List.mem_cons_self
    · exact hold rest earlier (h rest earlier hrest)

end History
