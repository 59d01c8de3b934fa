import Mathlib.Data.List.Basic

/-!
# Streams of codewords

A code in which no codeword starts another one. A stream of codewords that breaks off anywhere then
determines which codewords are complete and what has arrived of the next one. A code whose words have a
head of fixed length from which the length of the rest follows is of this kind.
-/

namespace PrefixCode

variable {α β : Type*} {code : β → List α} {x y : β} {xs ys : List β} {bs bs' rest rest' : List α}

/-- No codeword is empty, and none starts another one. -/
structure PrefixFree (code : β → List α) : Prop where
  ne_nil : ∀ x, code x ≠ []
  eq_of_prefix : ∀ x y, code x <+: code y → x = y

/-- Not more than a proper beginning of a codeword. -/
def Unfinished (code : β → List α) (rest : List α) : Prop := ∃ x, rest <+: code x ∧ rest ≠ code x

/-- The stream `bs` has the codewords of `xs`, followed by the beginning `rest` of another one. -/
structure Reads (code : β → List α) (xs : List β) (rest bs : List α) : Prop where
  stream : bs = xs.flatMap code ++ rest
  unfinished : Unfinished code rest

/-- Two beginnings of one list: one of them starts the other. -/
theorem PrefixFree.eq_of_append (h : PrefixFree code) (heq : code x ++ bs = code y ++ bs') : x = y := by
  rcases List.prefix_or_prefix_of_prefix (List.prefix_append (code x) bs)
    (heq ▸ List.prefix_append (code y) bs') with hxy | hyx
  · exact h.eq_of_prefix x y hxy
  · exact (h.eq_of_prefix y x hyx).symm

theorem PrefixFree.unfinished_nil (h : PrefixFree code) (x : β) : Unfinished code [] :=
  ⟨x, List.nil_prefix, (h.ne_nil x).symm⟩

theorem Unfinished.not_prefix (hrest : Unfinished code rest) (h : PrefixFree code) (x : β) :
    ¬ code x <+: rest := by
  intro hx
  obtain ⟨y, hpre, hne⟩ := hrest
  obtain rfl := h.eq_of_prefix x y (hx.trans hpre)
  exact hne (hpre.eq_of_length_le hx.length_le)

/-- **Decoding**: a stream can be read in one way only. -/
theorem PrefixFree.reads_unique (h : PrefixFree code) (hf : Reads code xs rest bs)
    (hf' : Reads code ys rest' bs) : xs = ys ∧ rest = rest' := by
  obtain ⟨hbs, hrest⟩ := hf
  obtain ⟨hbs', hrest'⟩ := hf'
  subst hbs
  induction xs generalizing ys with
  | nil =>
    cases ys with
    | nil => exact ⟨rfl, hbs'⟩
    | cons y ys =>
      have hy : code y <+: rest := by
        rw [show rest = _ from hbs', List.flatMap_cons, List.append_assoc]
        exact List.prefix_append _ _
      exact absurd hy (hrest.not_prefix h y)
  | cons x xs ih =>
    cases ys with
    | nil =>
      have hx : code x <+: rest' := by
        rw [show rest' = _ from hbs'.symm, List.flatMap_cons, List.append_assoc]
        exact List.prefix_append _ _
      exact absurd hx (hrest'.not_prefix h x)
    | cons y ys =>
      rw [List.flatMap_cons, List.flatMap_cons, List.append_assoc, List.append_assoc] at hbs'
      obtain rfl := h.eq_of_append hbs'
      obtain ⟨rfl, hr⟩ := ih (List.append_cancel_left hbs')
      exact ⟨rfl, hr⟩

/-- One stream behind another one that has not broken off. -/
theorem Reads.append (h : Reads code xs [] bs) (h' : Reads code ys rest' bs') :
    Reads code (xs ++ ys) rest' (bs ++ bs') := by
  refine ⟨?_, h'.unfinished⟩
  rw [h.stream, h'.stream, List.append_nil, List.flatMap_append, List.append_assoc]

/-- Heads of one length that determine the length of what follows them. -/
theorem prefixFree_of_head (head body : β → List α) (len : List α → Nat) {n : Nat} (hn : 0 < n)
    (hhead : ∀ x, (head x).length = n) (hbody : ∀ x, (body x).length = len (head x))
    (hext : ∀ x y, head x = head y → body x = body y → x = y) :
    PrefixFree fun x => head x ++ body x := by
  constructor
  · intro x hnil
    have hlen := congrArg List.length (List.append_eq_nil_iff.mp hnil).1
    rw [hhead x, List.length_nil] at hlen
    omega
  · intro x y hpre
    obtain ⟨t, ht⟩ := hpre
    rw [List.append_assoc] at ht
    obtain ⟨hxy, ht⟩ := List.append_inj ht ((hhead x).trans (hhead y).symm)
    have hlen : (body x).length = (body y).length := by rw [hbody x, hbody y, hxy]
    obtain ⟨hxy', -⟩ := List.append_inj (ht.trans (List.append_nil _).symm) hlen
    exact hext x y hxy hxy'

/-- Words that end with an element that is in none of them. -/
theorem prefixFree_of_terminator (body : β → List α) (stop : α) (hno : ∀ x, stop ∉ body x)
    (hinj : Function.Injective body) : PrefixFree fun x => body x ++ [stop] := by
  constructor
  · intro x hnil
    exact absurd (List.append_eq_nil_iff.mp hnil).2 (List.cons_ne_nil stop [])
  · intro x y hpre
    obtain ⟨t, ht⟩ := hpre
    rw [List.append_assoc] at ht
    rcases List.append_eq_append_iff.mp ht with ⟨as, hy, hstop⟩ | ⟨as, hx, hstop⟩
    · cases as with
      | nil => exact hinj (hy.trans (List.append_nil _)).symm
      | cons a as =>
        obtain rfl := (List.cons.inj hstop).1
        exact absurd (hy ▸ List.mem_append_right _ List.mem_cons_self) (hno y)
    · cases as with
      | nil => exact hinj (hx.trans (List.append_nil _))
      | cons a as =>
        obtain rfl := (List.cons.inj hstop).1
        exact absurd (hx ▸ List.mem_append_right _ List.mem_cons_self) (hno x)

end PrefixCode
