import Mathlib.Data.List.Basic

/-!
# Scripts of socket calls

What the kernel answers to the `recv` and `send` calls on a stream socket, given as the list of
events that the calls meet one after the other. A `recv` script lists the pieces in which the bytes
become available; a call takes at most the number of bytes it asks for and leaves the rest of the
piece to the next call. Every sequence of results that the calls can have is given by some script.
-/

namespace Script

/-- What a `recv` call meets. -/
inductive RecvEvent where
  /-- These bytes are available; the empty list is the end of the stream (`recv` returns `0`). -/
  | data (bs : List UInt8)
  /-- The call fails (`recv` returns `-1`). -/
  | error
  deriving DecidableEq

/-- What a `send` call meets. -/
inductive SendEvent where
  /-- At most `k` bytes are accepted; for `k = 0` the call returns `0`. -/
  | accept (k : Nat)
  /-- The call fails (`send` returns `-1`). -/
  | error
  deriving DecidableEq

/-- One call `recv(fd, buff, n)` with `0 < n`: the bytes it delivers, `none` for a result `≤ 0`, and
the script that is left. A peer that sends nothing more has closed the stream. -/
def recv (n : Nat) : List RecvEvent → Option (List UInt8) × List RecvEvent
  | [] => (none, [])
  | .error :: rx => (none, rx)
  | .data bs :: rx =>
    if bs = [] then (none, rx)
    else if bs.length ≤ n then (some bs, rx)
    else (some (bs.take n), .data (bs.drop n) :: rx)

/-- The bytes that arrive before the first result `≤ 0`. -/
def pending : List RecvEvent → List UInt8
  | [] => []
  | .error :: _ => []
  | .data bs :: rx => if bs = [] then [] else bs ++ pending rx

/-- A script of nonempty pieces only: no call fails before the bytes are used up. -/
def Flowing (rx : List RecvEvent) : Prop := ∀ e ∈ rx, ∃ bs, bs ≠ [] ∧ e = .data bs

/-- The script that delivers the given pieces. -/
def pieces (l : List (List UInt8)) : List RecvEvent := l.map .data

/-- The script when `bs` has not been read of a piece. -/
def unread (bs : List UInt8) (rx : List RecvEvent) : List RecvEvent :=
  if bs = [] then rx else .data bs :: rx

theorem flowing_nil : Flowing [] := by simp [Flowing]

theorem flowing_cons {e : RecvEvent} {rx : List RecvEvent} :
    Flowing (e :: rx) ↔ (∃ bs, bs ≠ [] ∧ e = .data bs) ∧ Flowing rx := by
  simp [Flowing]

theorem flowing_pieces {l : List (List UInt8)} (h : ∀ c ∈ l, c ≠ []) : Flowing (pieces l) := by
  intro e he
  obtain ⟨c, hc, rfl⟩ := List.mem_map.mp he
  exact ⟨c, h c hc, rfl⟩

/-- A flowing script without bytes is empty. -/
theorem Flowing.eq_nil {rx : List RecvEvent} (h : Flowing rx) (hp : pending rx = []) : rx = [] := by
  cases rx with
  | nil => rfl
  | cons e rx =>
    obtain ⟨bs, hbs, rfl⟩ := (flowing_cons.mp h).1
    simp [pending, hbs] at hp

theorem pending_pieces_append {l : List (List UInt8)} (h : ∀ c ∈ l, c ≠ []) (rx : List RecvEvent) :
    pending (pieces l ++ rx) = l.flatten ++ pending rx := by
  induction l with
  | nil => rfl
  | cons c l ih =>
    have hc : c ≠ [] := h c (by simp)
    have ih' := ih fun c' hc' => h c' (List.mem_cons_of_mem _ hc')
    simp only [pieces, List.map_cons, List.cons_append, pending, hc, if_false, List.flatten_cons,
      List.append_assoc] at ih' ⊢
    rw [ih']

theorem pending_unread (bs : List UInt8) (rx : List RecvEvent) :
    pending (unread bs rx) = bs ++ pending rx := by
  by_cases h : bs = []
  · simp [unread, h]
  · simp [unread, h, pending]

theorem Flowing.unread {rx : List RecvEvent} (h : Flowing rx) (bs : List UInt8) :
    Flowing (unread bs rx) := by
  unfold Script.unread
  split
  · exact h
  · next hbs => exact flowing_cons.mpr ⟨⟨bs, hbs, rfl⟩, h⟩

/-- The next `send` call returns a result `≤ 0`. -/
def SendFails : List SendEvent → Prop
  | .error :: _ => True
  | .accept 0 :: _ => True
  | _ => False

instance : DecidablePred SendFails := fun tx => by
  unfold SendFails
  split <;> infer_instance

/-- Every `send` call accepts at least one byte. -/
def AllAccept (tx : List SendEvent) : Prop := ∀ e ∈ tx, ∃ k, 0 < k ∧ e = .accept k

theorem allAccept_cons {e : SendEvent} {tx : List SendEvent} :
    AllAccept (e :: tx) ↔ (∃ k, 0 < k ∧ e = .accept k) ∧ AllAccept tx := by
  simp [AllAccept]

end Script
