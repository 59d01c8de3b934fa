import Mathlib.Logic.Function.Basic
import RemoteDebug.Handles
import RemoteDebug.Proofs.InterfaceProofs

/-!
# Proofs: the interface table over a history of calls

Every call leaves the table as the calls so far say, so that what it returns can be read off from them.
-/

namespace RemoteDebug

open History

variable {v : InterfaceVec} {n m i : Nat} {info : Nat → InterfaceInfo}

/-- The table has `n` elements, and element `i` is `info i`, also where it is only reserved. What is not even
reserved is zero. -/
structure Holds (n : Nat) (info : Nat → InterfaceInfo) (v : InterfaceVec) : Prop where
  size : v.size = n
  size_le : n ≤ v.reserved
  stored : ∀ i < v.reserved, v.at_ i = some (info i)
  blank : ∀ i, v.reserved ≤ i → info i = .zero

namespace Holds

/-! ## The calls on the table -/

theorem static : Holds 0 (fun _ => .zero) .static := by
  refine ⟨rfl, le_rfl, ?_, fun _ _ => rfl⟩
  intro i hi
  exact absurd hi (Nat.not_lt_zero i)

theorem reserve (h : Holds n info v) (hm : 0 < m) (fresh : Nat → InterfaceInfo) :
    Holds n info (v.reserve m (some fresh)) := by
  by_cases hgrow : v.reserved < m
  · have hreserved : (v.reserve m (some fresh)).reserved = m := by
      rw [InterfaceVec.reserve_grow hgrow]
    refine ⟨?_, ?_, ?_, ?_⟩
    · rw [InterfaceVec.reserve_grow hgrow]
      exact h.size
    · rw [hreserved]
      exact h.size_le.trans hgrow.le
    · intro i hi
      rw [hreserved] at hi
      rw [InterfaceVec.at_reserve_grow hgrow hi]
      by_cases hold : i < v.reserved
      · rw [if_pos hold, InterfaceVec.moved_of_at (h.stored i hold)]
      · rw [if_neg hold, h.blank i (not_lt.mp hold)]
    · intro i hi
      rw [hreserved] at hi
      exact h.blank i (hgrow.le.trans hi)
  · rw [InterfaceVec.reserve_within (not_lt.mp hgrow) hm]
    exact h

theorem resize (h : Holds n info v) (hm : 0 < m) (fresh : Nat → InterfaceInfo) :
    Holds m info (v.resize m (some fresh)) := by
  have hres := h.reserve hm fresh
  refine ⟨rfl, ?_, hres.stored, hres.blank⟩
  show m ≤ (v.reserve m (some fresh)).reserved
  by_cases hgrow : v.reserved < m
  · rw [InterfaceVec.reserve_grow hgrow]
  · rw [InterfaceVec.reserve_within (not_lt.mp hgrow) hm]
    exact not_lt.mp hgrow

theorem at_update (i j : Nat) (x : InterfaceInfo) (v : InterfaceVec) :
    (v.update i x).at_ j = if i = j then (v.at_ j).map fun _ => x else v.at_ j := by
  unfold InterfaceVec.update InterfaceVec.at_
  cases v.vec with
  | none => simp
  | some block =>
    simp only [Option.map_some, Option.bind_some, List.getElem?_set]
    by_cases hij : i = j
    · subst hij
      by_cases hlt : i < block.length
      · simp [hlt]
      · simp [hlt]
    · simp [hij]

theorem update (h : Holds n info v) (hi : i < v.reserved) (x : InterfaceInfo) :
    Holds n (Function.update info i x) (v.update i x) := by
  refine ⟨h.size, h.size_le, ?_, ?_⟩
  · intro j hj
    rw [at_update]
    by_cases hij : i = j
    · subst hij
      rw [if_pos rfl, h.stored i hi, Option.map_some, Function.update_self]
    · rw [if_neg hij, h.stored j hj, Function.update_of_ne (Ne.symm hij)]
  · intro j hj
    have hne : j ≠ i := (Nat.lt_of_lt_of_le hi hj).ne'
    rw [Function.update_of_ne hne]
    exact h.blank j hj

/-- The functions on one interface return what the element says. -/
theorem onInterface {R : Type} (h : Holds n info v) (i : Nat) (missing : R)
    (f : InterfaceInfo → R × InterfaceInfo) :
    ∃ v', v.onInterface i missing f = some (if i < n then (f (info i)).1 else missing, v') ∧
      Holds n (if i < n then Function.update info i (f (info i)).2 else info) v' := by
  unfold InterfaceVec.onInterface
  rw [h.size]
  by_cases hi : i < n
  · have hres : i < v.reserved := Nat.lt_of_lt_of_le hi h.size_le
    rw [if_pos hi, if_pos hi, if_pos hi, h.stored i hres]
    exact ⟨_, rfl, h.update hres _⟩
  · rw [if_neg hi, if_neg hi, if_neg hi]
    exact ⟨v, rfl, h⟩

/-- The stores of the platform to interface 0. -/
theorem storeFirst (h : Holds n info v) (f : InterfaceInfo → InterfaceInfo)
    (fresh : Nat → InterfaceInfo) :
    ∃ v', (v.resize 1 (some fresh)).storeFirst f = some ((), v') ∧
      Holds 1 (Function.update info 0 (f (info 0))) v' := by
  have hone := h.resize Nat.one_pos fresh
  have hres : 0 < (v.resize 1 (some fresh)).reserved := hone.size_le
  unfold InterfaceVec.storeFirst
  rw [hone.stored 0 hres]
  exact ⟨_, rfl, hone.update hres _⟩

end Holds

/-! ## Histories -/

namespace FpgaCall

variable {before calls : List FpgaCall} {c : FpgaCall} {kind : HandleKind}

theorem sizeAfter_cons (c : FpgaCall) (before : List FpgaCall) :
    sizeAfter (c :: before) = c.sizeSet.getD (sizeAfter before) := rfl

theorem property_cons {V : Type} {start : V} {set : List FpgaCall → FpgaCall → Option V}
    (h : c.empties = false) :
    property start set (c :: before) = (set before c).getD (property start set before) := by
  unfold property
  rw [latest, if_neg (by rw [h]; exact Bool.false_ne_true)]

theorem property_empties {V : Type} {start : V} {set : List FpgaCall → FpgaCall → Option V}
    (h : c.empties = true) : property start set (c :: before) = start := by
  unfold property
  rw [latest, if_pos h, Option.getD_some]

theorem infoAfter_empties (h : c.empties = true) : infoAfter (c :: before) = fun _ => .zero := by
  funext i
  unfold infoAfter held isrAfter
  simp only [property_empties h]
  rfl

theorem infoAfter_cons (h : c.empties = false) (i : Nat) :
    infoAfter (c :: before) i =
      { infoAfter before i with
        baseAddress := (baseSet i c).getD (infoAfter before i).baseAddress
        isMmioOpened := (openSet .mmio i before c).getD (infoAfter before i).isMmioOpened
        isInterruptOpened := (openSet .interrupt i before c).getD (infoAfter before i).isInterruptOpened
        interruptEnable := (enableSet i before c).getD (infoAfter before i).interruptEnable
        isrCallback := ((isrSet i before c).map Prod.fst).getD (infoAfter before i).isrCallback
        isrContext := ((isrSet i before c).map Prod.snd).getD (infoAfter before i).isrContext } := by
  unfold infoAfter held isrAfter
  simp only [property_cons h, Option.getD_map]

/-- A call that does not concern interface `i`. -/
theorem infoAfter_keep (h : c.empties = false) (hbase : baseSet i c = none)
    (hopen : ∀ kind, openSet kind i before c = none) (henable : enableSet i before c = none)
    (hisr : isrSet i before c = none) : infoAfter (c :: before) i = infoAfter before i := by
  rw [infoAfter_cons h, hbase, hopen, hopen, henable, hisr]
  rfl

theorem empties_of_sizeSet (h : c.sizeSet = none) : c.empties = false := by
  unfold empties
  rw [h]
  rfl

/-- An interface that the table does not have stays as it is as long as the size does. -/
theorem infoAfter_beyond (h : c.sizeSet = none) (hi : sizeAfter before ≤ i) :
    infoAfter (c :: before) i = infoAfter before i := by
  have hlt : ¬ i < sizeAfter before := not_lt.mpr hi
  have he := empties_of_sizeSet h
  cases c with
  | scan base fresh => cases h
  | swModel base fresh => cases h
  | openHandle k index =>
    exact infoAfter_keep he rfl (fun kind => if_neg fun hc => hlt hc.2.2) rfl rfl
  | closeHandle k index =>
    exact infoAfter_keep he rfl (fun kind => if_neg fun hc => hlt hc.2.2) rfl rfl
  | registerIsr handle isr context =>
    exact infoAfter_keep he rfl (fun _ => rfl) rfl (if_neg fun hc => hlt hc.2)
  | enableInterrupt handle =>
    exact infoAfter_keep he rfl (fun _ => rfl) (if_neg fun hc => hlt hc.2) rfl
  | disableInterrupt handle =>
    exact infoAfter_keep he rfl (fun _ => rfl) (if_neg fun hc => hlt hc.2) rfl
  | _ => exact infoAfter_keep he rfl (fun _ => rfl) rfl rfl

/-- An empty table has no interface left that has been used. -/
theorem infoAfter_of_size (h : sizeAfter before = 0) : infoAfter before = fun _ => .zero := by
  induction before with
  | nil => rfl
  | cons c before ih =>
    by_cases he : c.empties = true
    · exact infoAfter_empties he
    · have hset : c.sizeSet = none := by
        rw [sizeAfter_cons] at h
        cases hset : c.sizeSet with
        | none => rfl
        | some n =>
          rw [hset, Option.getD_some] at h
          refine absurd ?_ he
          unfold empties
          rw [hset, h]
          rfl
      rw [sizeAfter_cons, hset, Option.getD_none] at h
      funext i
      rw [infoAfter_beyond hset (h ▸ Nat.zero_le i), ih h]

/-- A call that only concerns interface `i`. -/
theorem infoAfter_update (hset : c.sizeSet = none) {f : InterfaceInfo → InterfaceInfo}
    (hself : i < sizeAfter before → infoAfter (c :: before) i = f (infoAfter before i))
    (hother : ∀ j, j ≠ i → infoAfter (c :: before) j = infoAfter before j) :
    infoAfter (c :: before) =
      if i < sizeAfter before then Function.update (infoAfter before) i (f (infoAfter before i))
      else infoAfter before := by
  funext j
  by_cases hi : i < sizeAfter before
  · rw [if_pos hi]
    by_cases hj : j = i
    · subst hj
      rw [Function.update_self]
      exact hself hi
    · rw [Function.update_of_ne hj]
      exact hother j hj
  · rw [if_neg hi]
    by_cases hj : j = i
    · subst hj
      exact infoAfter_beyond hset (not_lt.mp hi)
    · exact hother j hj

/-! ## Handles -/

theorem handleIndex_lt {handle : Int} (hn : n < 2 ^ 63) (h : -2 ^ 31 ≤ handle ∧ handle < 2 ^ 31) :
    handleIndex handle < n ↔ 0 ≤ handle ∧ handle < n := by
  unfold handleIndex
  omega

/-- The interface that a handle stands for. -/
theorem eq_handleIndex_iff {handle : Int} (hn : n < 2 ^ 63) (h : -2 ^ 31 ≤ handle ∧ handle < 2 ^ 31) :
    handle = i ∧ i < n ↔ i = handleIndex handle ∧ handleIndex handle < n := by
  unfold handleIndex
  omega

theorem sizeAfter_lt (h : ∀ c ∈ before, c.Typed) :
    sizeAfter before * sizeofInterfaceInfo < 2 ^ 64 := by
  induction before with
  | nil => exact Nat.two_pow_pos 64
  | cons c before ih =>
    have hc := h c List.mem_cons_self
    have hrest := ih fun c' hc' => h c' (List.mem_cons_of_mem c hc')
    rw [sizeAfter_cons]
    cases c with
    | resize size fresh => exact hc
    | reserve size fresh =>
      simp only [sizeSet]
      split
      · exact Nat.two_pow_pos 64
      · exact hrest
    | scan base fresh => show 1 * sizeofInterfaceInfo < 2 ^ 64; decide
    | swModel base fresh => show 1 * sizeofInterfaceInfo < 2 ^ 64; decide
    | cleanup fresh => exact Nat.two_pow_pos 64
    | _ => exact hrest

theorem setOpened_of_isOpened {info : InterfaceInfo} (h : kind.isOpened info = true) :
    kind.setOpened true info = info := by
  cases kind <;>
  · simp only [HandleKind.isOpened] at h
    simp only [HandleKind.setOpened, ← h]

theorem isOpened_infoAfter (kind : HandleKind) (i : Nat) :
    kind.isOpened (infoAfter before i) = held kind i before := by
  cases kind <;> rfl

theorem infoAfter_openHandle (kind : HandleKind) (i : Nat) :
    infoAfter (openHandle kind i :: before) =
      if i < sizeAfter before then
        Function.update (infoAfter before) i (kind.setOpened true (infoAfter before i))
      else infoAfter before := by
  apply infoAfter_update rfl
  · intro hi
    rw [infoAfter_cons rfl]
    cases kind <;> simp [baseSet, openSet, enableSet, isrSet, HandleKind.setOpened, hi]
  · intro j hj
    refine infoAfter_keep rfl rfl (fun k => if_neg ?_) rfl rfl
    intro hc
    exact hj hc.2.1.symm

theorem infoAfter_closeHandle (kind : HandleKind) (i : Nat) :
    infoAfter (closeHandle kind i :: before) =
      if i < sizeAfter before then
        Function.update (infoAfter before) i (kind.setOpened false (infoAfter before i))
      else infoAfter before := by
  apply infoAfter_update rfl
  · intro hi
    rw [infoAfter_cons rfl]
    cases kind <;> simp [baseSet, openSet, enableSet, isrSet, HandleKind.setOpened, hi]
  · intro j hj
    refine infoAfter_keep rfl rfl (fun k => if_neg ?_) rfl rfl
    intro hc
    exact hj hc.2.1.symm

theorem infoAfter_registerIsr {handle : Int} (hn : sizeAfter before < 2 ^ 63)
    (h : -2 ^ 31 ≤ handle ∧ handle < 2 ^ 31) (isr context : Nat) :
    infoAfter (registerIsr handle isr context :: before) =
      if handleIndex handle < sizeAfter before then
        Function.update (infoAfter before) (handleIndex handle)
          { infoAfter before (handleIndex handle) with isrCallback := isr, isrContext := context }
      else infoAfter before := by
  apply infoAfter_update rfl (f := fun info => { info with isrCallback := isr, isrContext := context })
  · intro hi
    rw [infoAfter_cons rfl]
    have hset : isrSet (handleIndex handle) before (registerIsr handle isr context) = some (isr, context) :=
      if_pos ((eq_handleIndex_iff hn h).mpr ⟨rfl, hi⟩)
    rw [hset]
    rfl
  · intro j hj
    refine infoAfter_keep rfl rfl (fun _ => rfl) rfl (if_neg ?_)
    intro hc
    exact hj ((eq_handleIndex_iff hn h).mp hc).1

theorem infoAfter_switch {handle : Int} (hn : sizeAfter before < 2 ^ 63)
    (h : -2 ^ 31 ≤ handle ∧ handle < 2 ^ 31) (enable : Bool)
    (hc : c = if enable then enableInterrupt handle else disableInterrupt handle) :
    infoAfter (c :: before) =
      if handleIndex handle < sizeAfter before then
        Function.update (infoAfter before) (handleIndex handle)
          { infoAfter before (handleIndex handle) with interruptEnable := enable }
      else infoAfter before := by
  have henable (j : Nat) : enableSet j before c =
      if handle = j ∧ j < sizeAfter before then some enable else none := by
    rw [hc]
    cases enable <;> rfl
  have hset : c.sizeSet = none := by
    rw [hc]
    cases enable <;> rfl
  have he := empties_of_sizeSet hset
  have hquiet (j : Nat) : baseSet j c = none ∧ (∀ kind, openSet kind j before c = none) ∧
      isrSet j before c = none := by
    rw [hc]
    cases enable <;> exact ⟨rfl, fun _ => rfl, rfl⟩
  apply infoAfter_update hset (f := fun info => { info with interruptEnable := enable })
  · intro hi
    obtain ⟨hbase, hopen, hisr⟩ := hquiet (handleIndex handle)
    rw [infoAfter_cons he, henable, if_pos ((eq_handleIndex_iff hn h).mpr ⟨rfl, hi⟩), hbase, hopen, hopen,
      hisr]
    rfl
  · intro j hj
    obtain ⟨hbase, hopen, hisr⟩ := hquiet j
    refine infoAfter_keep he hbase hopen ?_ hisr
    rw [henable, if_neg]
    intro hc
    exact hj ((eq_handleIndex_iff hn h).mp hc).1

/-- The calls of the platform that map interface 0. -/
theorem infoAfter_first {f : InterfaceInfo → InterfaceInfo} (hset : c.sizeSet = some 1)
    (hself : infoAfter (c :: before) 0 = f (infoAfter before 0)) :
    infoAfter (c :: before) = Function.update (infoAfter before) 0 (f (infoAfter before 0)) := by
  have he : c.empties = false := by
    unfold empties
    rw [hset]
    rfl
  funext j
  by_cases hj : j = 0
  · subst hj
    rw [Function.update_self]
    exact hself
  · rw [Function.update_of_ne hj]
    cases c with
    | scan base fresh => exact infoAfter_keep he (if_neg hj) (fun _ => if_neg hj) rfl rfl
    | swModel base fresh => exact infoAfter_keep he (if_neg hj) (fun _ => rfl) rfl rfl
    | openHandle k index => cases hset
    | closeHandle k index => cases hset
    | registerIsr handle isr context => cases hset
    | enableInterrupt handle => cases hset
    | disableInterrupt handle => cases hset
    | _ => exact infoAfter_keep he rfl (fun _ => rfl) rfl rfl

end FpgaCall

/-! ## Runs -/

open FpgaCall

variable {before : List FpgaCall} {c : FpgaCall} {kind : HandleKind}

theorem Holds.emptied (h : c.empties = true) : Holds (sizeAfter (c :: before)) (infoAfter (c :: before))
    InterfaceVec.static := by
  rw [infoAfter_empties h, sizeAfter_cons, of_decide_eq_true h]
  exact .static

/-- What the table is behind a call that sets no size and changes no interface. -/
theorem Holds.keep (h : Holds (sizeAfter before) (infoAfter before) v) (hset : c.sizeSet = none)
    (hinfo : infoAfter (c :: before) = infoAfter before) :
    Holds (sizeAfter (c :: before)) (infoAfter (c :: before)) v := by
  rw [hinfo, sizeAfter_cons, hset]
  exact h

theorem Holds.call_resize (h : Holds (sizeAfter before) (infoAfter before) v) (n : Nat)
    (fresh : Nat → InterfaceInfo) :
    Holds (sizeAfter (.resize n fresh :: before)) (infoAfter (.resize n fresh :: before))
      (v.resize n (some fresh)) := by
  by_cases h0 : n = 0
  · subst h0
    rw [InterfaceVec.resize_zero]
    exact .emptied rfl
  · have hinfo : infoAfter (.resize n fresh :: before) = infoAfter before := by
      funext i
      refine infoAfter_keep ?_ rfl (fun _ => rfl) rfl rfl
      exact decide_eq_false fun heq => h0 (Option.some.inj heq)
    rw [hinfo]
    exact h.resize (Nat.pos_of_ne_zero h0) fresh

theorem Holds.call_reserve (h : Holds (sizeAfter before) (infoAfter before) v) (n : Nat)
    (fresh : Nat → InterfaceInfo) :
    Holds (sizeAfter (.reserve n fresh :: before)) (infoAfter (.reserve n fresh :: before))
      (v.reserve n (some fresh)) := by
  by_cases h0 : n = 0
  · subst h0
    rw [InterfaceVec.reserve_zero]
    exact .emptied rfl
  · have hset : (FpgaCall.reserve n fresh).sizeSet = none := if_neg h0
    refine (h.reserve (Nat.pos_of_ne_zero h0) fresh).keep hset ?_
    funext i
    exact infoAfter_keep (empties_of_sizeSet hset) rfl (fun _ => rfl) rfl rfl

theorem Holds.call_cleanup (h : Holds (sizeAfter before) (infoAfter before) v)
    (fresh : Nat → InterfaceInfo) :
    Holds (sizeAfter (cleanup fresh :: before)) (infoAfter (cleanup fresh :: before))
      (v.fpgaPlatformCleanup fresh) := by
  unfold InterfaceVec.fpgaPlatformCleanup
  rw [h.size]
  by_cases h0 : 0 < sizeAfter before
  · rw [if_pos h0, InterfaceVec.resize_zero]
    exact .emptied rfl
  · have hsize : sizeAfter before = 0 := Nat.eq_zero_of_not_pos h0
    rw [if_neg h0, infoAfter_empties rfl]
    rw [infoAfter_of_size hsize, hsize] at h
    exact h

theorem Holds.call_scan (h : Holds (sizeAfter before) (infoAfter before) v) (base : Nat)
    (fresh : Nat → InterfaceInfo) :
    ∃ v', v.uioScanInterfaces base fresh = some ((), v') ∧
      Holds (sizeAfter (scan base fresh :: before)) (infoAfter (scan base fresh :: before)) v' := by
  have hfirst : infoAfter (scan base fresh :: before) = Function.update (infoAfter before) 0
      { infoAfter before 0 with
        baseAddress := base, isMmioOpened := false, isInterruptOpened := false } :=
    infoAfter_first (f := fun info =>
      { info with baseAddress := base, isMmioOpened := false, isInterruptOpened := false }) rfl
      (infoAfter_cons rfl 0)
  rw [hfirst]
  exact h.storeFirst _ fresh

theorem Holds.call_swModel (h : Holds (sizeAfter before) (infoAfter before) v) (base : Nat)
    (fresh : Nat → InterfaceInfo) :
    ∃ v', v.uioCreateUnitTestSwModel base fresh = some ((), v') ∧
      Holds (sizeAfter (swModel base fresh :: before)) (infoAfter (swModel base fresh :: before)) v' := by
  have hfirst : infoAfter (swModel base fresh :: before) = Function.update (infoAfter before) 0
      { infoAfter before 0 with baseAddress := base } :=
    infoAfter_first (f := fun info => { info with baseAddress := base }) rfl (infoAfter_cons rfl 0)
  rw [hfirst]
  exact h.storeFirst _ fresh

theorem Holds.call_interfaceAt (h : Holds (sizeAfter before) (infoAfter before) v) (index : Nat)
    (given : Bool) :
    ∃ v', v.fpgaGetInterfaceAt index given =
        some (if given ∧ index < sizeAfter before then some (infoAfter before index) else none, v') ∧
      Holds (sizeAfter (interfaceAt index given :: before))
        (infoAfter (interfaceAt index given :: before)) v' := by
  have hinfo : infoAfter (interfaceAt index given :: before) = infoAfter before := by
    funext i
    exact infoAfter_keep rfl rfl (fun _ => rfl) rfl rfl
  unfold InterfaceVec.fpgaGetInterfaceAt
  cases given with
  | false => exact ⟨v, rfl, h.keep rfl hinfo⟩
  | true =>
    obtain ⟨v', hcall, hv'⟩ := h.onInterface index none fun info => (some info, info)
    rw [Function.update_eq_self, ite_self] at hv'
    refine ⟨v', ?_, hv'.keep rfl hinfo⟩
    rw [if_pos rfl, hcall]
    simp only [true_and]

theorem Holds.call_openHandle (h : Holds (sizeAfter before) (infoAfter before) v) (kind : HandleKind)
    (index : Nat) :
    ∃ v', v.openInterface kind index =
        some (if Grantable kind index before then handleOf index else invalidHandle, v') ∧
      Holds (sizeAfter (openHandle kind index :: before))
        (infoAfter (openHandle kind index :: before)) v' := by
  obtain ⟨v', hcall, hv'⟩ := h.onInterface index invalidHandle fun info =>
    if kind.isOpened info then (invalidHandle, info) else (handleOf index, kind.setOpened true info)
  rw [isOpened_infoAfter] at hcall hv'
  unfold InterfaceVec.openInterface
  rw [infoAfter_openHandle]
  by_cases hgrant : Grantable kind index before
  · rw [if_pos hgrant]
    rw [hgrant.2, if_neg Bool.false_ne_true] at hcall hv'
    rw [if_pos hgrant.1] at hcall
    dsimp only at hcall
    exact ⟨v', hcall, hv'⟩
  · rw [if_neg hgrant]
    by_cases hlt : index < sizeAfter before
    · have hheld : held kind index before = true := by
        rw [← Bool.not_eq_false]
        exact fun hc => hgrant ⟨hlt, hc⟩
      rw [hheld, if_pos rfl] at hcall hv'
      rw [ite_self] at hcall
      refine ⟨v', hcall, ?_⟩
      rw [setOpened_of_isOpened ((isOpened_infoAfter kind index).trans hheld)]
      exact hv'
    · rw [if_neg hlt] at hcall hv' ⊢
      exact ⟨v', hcall, hv'⟩

theorem Holds.call_closeHandle (h : Holds (sizeAfter before) (infoAfter before) v) (kind : HandleKind)
    (index : Nat) :
    ∃ v', v.closeInterface kind index = some ((), v') ∧
      Holds (sizeAfter (closeHandle kind index :: before))
        (infoAfter (closeHandle kind index :: before)) v' := by
  rw [infoAfter_closeHandle]
  exact h.onInterface index () fun info => ((), kind.setOpened false info)

theorem Holds.call_registerIsr {handle : Int} (h : Holds (sizeAfter before) (infoAfter before) v)
    (hn : sizeAfter before < 2 ^ 63) (hh : -2 ^ 31 ≤ handle ∧ handle < 2 ^ 31) (isr context : Nat) :
    ∃ v', v.fpgaRegisterIsr handle isr context =
        some (if 0 ≤ handle ∧ handle < sizeAfter before then
          if (isrAfter handle.toNat before).1 ≠ 0 then 1 else 0 else -1, v') ∧
      Holds (sizeAfter (registerIsr handle isr context :: before))
        (infoAfter (registerIsr handle isr context :: before)) v' := by
  rw [infoAfter_registerIsr hn hh]
  obtain ⟨v', hcall, hv'⟩ := h.onInterface (handleIndex handle) (-1 : Int) fun info =>
    (if info.isrCallback ≠ 0 then 1 else 0, { info with isrCallback := isr, isrContext := context })
  refine ⟨v', hcall.trans ?_, hv'⟩
  by_cases hlt : 0 ≤ handle ∧ handle < sizeAfter before
  · have hindex := (eq_handleIndex_iff (i := handle.toNat) hn hh).mp (by omega)
    rw [if_pos hlt, if_pos hindex.2, ← hindex.1]
    rfl
  · rw [if_neg hlt, if_neg fun hc => hlt ((handleIndex_lt hn hh).mp hc)]

theorem Holds.call_switch {handle : Int} (h : Holds (sizeAfter before) (infoAfter before) v)
    (hn : sizeAfter before < 2 ^ 63) (hh : -2 ^ 31 ≤ handle ∧ handle < 2 ^ 31) (enable : Bool)
    (hc : c = if enable then enableInterrupt handle else disableInterrupt handle) :
    ∃ v', v.switchInterrupt enable handle =
        some (if 0 ≤ handle ∧ handle < sizeAfter before then 0 else -1, v') ∧
      Holds (sizeAfter (c :: before)) (infoAfter (c :: before)) v' := by
  have hset : c.sizeSet = none := by
    rw [hc]
    cases enable <;> rfl
  rw [infoAfter_switch hn hh enable hc, sizeAfter_cons, hset]
  obtain ⟨v', hcall, hv'⟩ := h.onInterface (handleIndex handle) (-1 : Int) fun info =>
    (0, { info with interruptEnable := enable })
  refine ⟨v', hcall.trans ?_, hv'⟩
  simp only [handleIndex_lt hn hh]

/-- One call: it returns what the calls before say, and the table is as these and the call say. -/
theorem Holds.call (h : Holds (sizeAfter before) (infoAfter before) v) (htyped : c.Typed)
    (hn : sizeAfter before < 2 ^ 63) :
    ∃ v', c.call v = some (c.answer before, v') ∧
      Holds (sizeAfter (c :: before)) (infoAfter (c :: before)) v' := by
  cases c with
  | resize n fresh => exact ⟨_, rfl, h.call_resize n fresh⟩
  | reserve n fresh => exact ⟨_, rfl, h.call_reserve n fresh⟩
  | scan base fresh =>
    obtain ⟨v', hcall, hv'⟩ := h.call_scan base fresh
    exact ⟨v', congrArg (Option.map _) hcall, hv'⟩
  | swModel base fresh =>
    obtain ⟨v', hcall, hv'⟩ := h.call_swModel base fresh
    exact ⟨v', congrArg (Option.map _) hcall, hv'⟩
  | cleanup fresh => exact ⟨_, rfl, h.call_cleanup fresh⟩
  | numOfInterfaces =>
    refine ⟨v, ?_, h.keep rfl ?_⟩
    · unfold answer
      rw [← h.size]
      rfl
    · funext i
      exact infoAfter_keep rfl rfl (fun _ => rfl) rfl rfl
  | interfaceAt index given =>
    obtain ⟨v', hcall, hv'⟩ := h.call_interfaceAt index given
    exact ⟨v', congrArg (Option.map _) hcall, hv'⟩
  | openHandle kind index =>
    obtain ⟨v', hcall, hv'⟩ := h.call_openHandle kind index
    cases kind <;> exact ⟨v', congrArg (Option.map _) hcall, hv'⟩
  | closeHandle kind index =>
    obtain ⟨v', hcall, hv'⟩ := h.call_closeHandle kind index
    cases kind <;> exact ⟨v', congrArg (Option.map _) hcall, hv'⟩
  | registerIsr handle isr context =>
    obtain ⟨v', hcall, hv'⟩ := h.call_registerIsr hn htyped isr context
    exact ⟨v', congrArg (Option.map _) hcall, hv'⟩
  | enableInterrupt handle =>
    obtain ⟨v', hcall, hv'⟩ := h.call_switch hn htyped true rfl
    exact ⟨v', congrArg (Option.map _) hcall, hv'⟩
  | disableInterrupt handle =>
    obtain ⟨v', hcall, hv'⟩ := h.call_switch hn htyped false rfl
    exact ⟨v', congrArg (Option.map _) hcall, hv'⟩

/-- A run, from a table that is as the calls before it say. -/
theorem Holds.run {calls : List FpgaCall} (h : Holds (sizeAfter before) (infoAfter before) v)
    (hbefore : ∀ c ∈ before, c.Typed) (htyped : ∀ c ∈ calls, c.Typed) :
    ∃ v', runFpgaCalls calls v = some (answers before calls, v') ∧
      Holds (sizeAfter (calls.reverse ++ before)) (infoAfter (calls.reverse ++ before)) v' := by
  induction calls generalizing before v with
  | nil => exact ⟨v, rfl, h⟩
  | cons c calls ih =>
    have hc := htyped c List.mem_cons_self
    have hn : sizeAfter before < 2 ^ 63 := by
      have hlt := sizeAfter_lt hbefore
      unfold sizeofInterfaceInfo at hlt
      omega
    obtain ⟨v₁, hcall, hv₁⟩ := h.call hc hn
    have hbefore' : ∀ c' ∈ c :: before, c'.Typed := by
      intro c' hc'
      rcases List.mem_cons.mp hc' with rfl | hmem
      · exact hc
      · exact hbefore c' hmem
    obtain ⟨v', hrun, hv'⟩ := ih hv₁ hbefore' fun c' hc' => htyped c' (List.mem_cons_of_mem c hc')
    refine ⟨v', ?_, ?_⟩
    · unfold runFpgaCalls
      rw [hcall, Option.bind_some, hrun]
      rfl
    · rw [List.reverse_cons, List.append_assoc, List.singleton_append]
      exact hv'

/-! ## Holding a handle -/

theorem openSet_eq_true (h : openSet kind i before c = some true) :
    c = openHandle kind i ∧ i < sizeAfter before := by
  cases c with
  | openHandle k index =>
    simp only [openSet] at h
    split at h
    · next hc => exact ⟨by rw [hc.1, hc.2.1], hc.2.2⟩
    · cases h
  | closeHandle k index =>
    simp only [openSet] at h
    split at h <;> cases h
  | scan base fresh =>
    simp only [openSet] at h
    split at h <;> cases h
  | _ => cases h

theorem openSet_eq_false (h : openSet kind i before c = some false) :
    c = closeHandle kind i ∧ i < sizeAfter before ∨ i = 0 ∧ ∃ base fresh, c = scan base fresh := by
  cases c with
  | openHandle k index =>
    simp only [openSet] at h
    split at h <;> cases h
  | closeHandle k index =>
    simp only [openSet] at h
    split at h
    · next hc => exact .inl ⟨by rw [hc.1, hc.2.1], hc.2.2⟩
    · cases h
  | scan base fresh =>
    simp only [openSet] at h
    split at h
    · next hc => exact .inr ⟨hc, base, fresh, rfl⟩
    · cases h
  | _ => cases h

/-- A call that takes a handle back, as an event. -/
theorem releases_iff : c.Releases kind i before ↔
    (if c.empties then some false else openSet kind i before c) = some false := by
  unfold Releases
  by_cases he : c.empties = true
  · rw [if_pos he]
    exact ⟨fun _ => rfl, fun _ => .inl he⟩
  · rw [if_neg he]
    constructor
    · rintro (hc | ⟨rfl, hi⟩ | ⟨rfl, base, fresh, rfl⟩)
      · exact absurd hc he
      · exact if_pos ⟨rfl, rfl, hi⟩
      · rfl
    · intro h
      exact .inr (openSet_eq_false h)

/-- A handle is held if and only if it has been granted and not been taken back since then. -/
theorem held_iff {calls : List FpgaCall} :
    held kind i calls = true ↔
      ∃ later earlier, calls = later ++ openHandle kind i :: earlier ∧ Grantable kind i earlier ∧
        ∀ l c l', later = l ++ c :: l' → ¬ c.Releases kind i (l' ++ openHandle kind i :: earlier) := by
  unfold held property
  rw [latest_eq_true_iff]
  constructor
  · rintro ⟨later, e, earlier, heq, hset, hlow, hlater⟩
    have he : ¬ e.empties = true := by
      intro he
      rw [if_pos he] at hset
      cases hset
    rw [if_neg he] at hset
    obtain ⟨rfl, hi⟩ := openSet_eq_true hset
    refine ⟨later, earlier, heq, ⟨hi, hlow⟩, ?_⟩
    intro l c l' hl hreleases
    exact hlater l c l' hl (releases_iff.mp hreleases)
  · rintro ⟨later, earlier, heq, hgrant, hlater⟩
    refine ⟨later, openHandle kind i, earlier, heq, ?_, hgrant.2, ?_⟩
    · show openSet kind i earlier (openHandle kind i) = some true
      exact if_pos ⟨rfl, rfl, hgrant.1⟩
    · intro l c l' hl hreset
      exact hlater l c l' hl (releases_iff.mpr hreset)

/-- **Handles over histories**: a program of calls never uses an element that is not there; what each call
returns, and the table at the end, are what the calls so far say; and a handle is held, so that the next call
that opens it is refused, if and only if it has been granted and not been taken back since then. -/
theorem interface_handles (calls : List FpgaCall) (htyped : ∀ c ∈ calls, c.Typed) :
    (∃ v, runFpgaCalls calls .static = some (answers [] calls, v) ∧ v.size = sizeAfter calls.reverse ∧
      ∀ i < v.size, v.at_ i = some (infoAfter calls.reverse i)) ∧
    ∀ kind i, held kind i calls.reverse = true ↔
      ∃ later earlier, calls.reverse = later ++ openHandle kind i :: earlier ∧
        Grantable kind i earlier ∧
        ∀ l c l', later = l ++ c :: l' → ¬ c.Releases kind i (l' ++ openHandle kind i :: earlier) := by
  have hnone : ∀ c ∈ ([] : List FpgaCall), c.Typed := by
    intro c hc
    exact absurd hc List.not_mem_nil
  have hstart : Holds (sizeAfter []) (infoAfter []) .static := .static
  obtain ⟨v, hrun, hv⟩ := hstart.run hnone htyped
  rw [List.append_nil] at hv
  refine ⟨⟨v, hrun, hv.size, ?_⟩, fun kind i => held_iff⟩
  intro i hi
  rw [hv.size] at hi
  exact hv.stored i (Nat.lt_of_lt_of_le hi hv.size_le)

/-- Interface 0 is opened twice, closed, and opened again. -/
def reopenProgram : List FpgaCall :=
  [.scan 0x1000 fun _ => .zero, .openHandle .mmio 0, .openHandle .mmio 0, .openHandle .interrupt 0,
    .closeHandle .mmio 0, .openHandle .mmio 0]

theorem interface_handles_reopened : ∃ v,
    runFpgaCalls reopenProgram .static =
      some ([.nothing, .int 0, .int (-1), .int 0, .nothing, .int 0], v) := by
  have htyped : ∀ c ∈ reopenProgram, c.Typed := by
    intro c hc
    unfold reopenProgram at hc
    simp only [List.mem_cons, List.not_mem_nil, or_false] at hc
    rcases hc with rfl | rfl | rfl | rfl | rfl | rfl <;> first | trivial | exact Nat.two_pow_pos 32
  obtain ⟨v, hrun, -⟩ := (interface_handles reopenProgram htyped).1
  refine ⟨v, hrun.trans ?_⟩
  rfl

end RemoteDebug
