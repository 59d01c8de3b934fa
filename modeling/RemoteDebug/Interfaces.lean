import Mathlib.Algebra.Group.Nat.Defs
import Mathlib.Data.List.Basic
import RemoteDebug.Lib.Runs

/-!
# The interface table

`common_fpga_interface_info_vec_resize` and `common_fpga_interface_info_vec_reserve` of
`intel_fpga_api_cmn_inf.c`, on the three variables of the table. The handler that
`fpga_throw_runtime_exception` calls is taken to return.
-/

namespace RemoteDebug

/-- `FPGA_INTERFACE_INFO`. Pointers are addresses, NULL is 0. -/
structure InterfaceInfo where
  version : UInt8
  mfgId : UInt8
  type : UInt16
  instance_ : UInt16
  groupId : UInt16
  subsystemId : UInt8
  baseAddress : Nat
  interrupt : UInt16
  isMmioOpened : Bool
  isInterruptOpened : Bool
  interruptEnable : Bool
  isrCallback : Nat
  isrContext : Nat
  deriving DecidableEq

/-- The element that `memset` with 0 leaves. -/
def InterfaceInfo.zero : InterfaceInfo :=
  ⟨0, 0, 0, 0, 0, 0, 0, 0, false, false, false, 0, 0⟩

/-- `sizeof(FPGA_INTERFACE_INFO)`. -/
def sizeofInterfaceInfo : Nat := 48

/-- `g_common_fpga_interface_info_vec`, its size and its reserved size; the pointer is `none` for NULL,
else the elements of the block. -/
structure InterfaceVec where
  vec : Option (List InterfaceInfo)
  size : Nat
  reserved : Nat
  deriving DecidableEq

namespace InterfaceVec

/-- The static values. -/
def static : InterfaceVec := ⟨none, 0, 0⟩

/-- `common_fpga_interface_info_vec_at`, `none` if nothing is allocated there. -/
def at_ (v : InterfaceVec) (i : Nat) : Option InterfaceInfo := v.vec.bind fun block => block[i]?

/-- Element `i` of the block that `realloc` returns: what the old block has there, and behind the old
block, or without one, whatever the memory contains. -/
def moved (v : InterfaceVec) (fresh : Nat → InterfaceInfo) (i : Nat) : InterfaceInfo :=
  (v.at_ i).getD (fresh i)

/-- `common_fpga_interface_info_vec_reserve`. The result of `realloc` is `none` for NULL, else the
contents of the memory that it adds. -/
def reserve (size : Nat) (realloc : Option (Nat → InterfaceInfo)) (v : InterfaceVec) : InterfaceVec :=
  if v.reserved < size then
    match realloc with
    | none => { v with vec := none }
    | some fresh =>
      { v with
        vec := some ((List.range size).map fun i =>
          if i < v.reserved then v.moved fresh i else .zero)
        reserved := size }
  else if size = 0 then { vec := none, reserved := 0, size := 0 }
  else v

/-- `common_fpga_interface_info_vec_resize`. -/
def resize (size : Nat) (realloc : Option (Nat → InterfaceInfo)) (v : InterfaceVec) : InterfaceVec :=
  { v.reserve size realloc with size := size }

/-- A store to element `i`. -/
def update (i : Nat) (info : InterfaceInfo) (v : InterfaceVec) : InterfaceVec :=
  { v with vec := v.vec.map fun block => block.set i info }

end InterfaceVec

/-! ## Runs -/

inductive VecAction where
  | resize (size : Nat) (realloc : Option (Nat → InterfaceInfo))
  | reserve (size : Nat) (realloc : Option (Nat → InterfaceInfo))
  | update (i : Nat) (info : InterfaceInfo)

/-- One call, or one store. -/
def InterfaceVec.next (v : InterfaceVec) : VecAction → InterfaceVec
  | .resize size realloc => v.resize size realloc
  | .reserve size realloc => v.reserve size realloc
  | .update i info => v.update i info

/-- No byte count overflows `size_t`, and elements are stored below the size. -/
def VecUsed (v : InterfaceVec) : VecAction → Prop
  | .resize size _ => size * sizeofInterfaceInfo < 2 ^ 64
  | .reserve size _ => size * sizeofInterfaceInfo < 2 ^ 64
  | .update i _ => i < v.size

/-- The elements of the table are allocated. -/
structure InterfaceVec.Allocated (v : InterfaceVec) : Prop where
  size_le : v.size ≤ v.reserved
  storage : 0 < v.size → v.vec.isSome

/-- From `v` to `v'` the table has been resized to `n`: the elements that stay are as they were, those
that are new are zero. -/
structure Resized (n : Nat) (v v' : InterfaceVec) : Prop where
  kept : ∀ i < min v.size n, v'.at_ i = v.at_ i
  zeroed : ∀ i, v.size ≤ i → i < n → v'.at_ i = some .zero

/-- A step of a vector. -/
structure VecStep (v : InterfaceVec) (a : VecAction) : Prop where
  allocated : (v.next a).Allocated
  resized : ∀ n realloc, a = .resize n realloc → Resized n v (v.next a)

/-- What keeps the table a vector. When it grows beyond the reserved elements the allocation succeeds, or
the table is empty and is only reserved for; when it grows over reserved elements there is a block and they
are zero. -/
def VecOrderly (v : InterfaceVec) : VecAction → Prop
  | .resize size realloc =>
    if v.reserved < size then
      ∃ fresh, realloc = some fresh ∧ ∀ i, v.size ≤ i → i < v.reserved → v.moved fresh i = .zero
    else 0 < size → v.vec.isSome ∧ ∀ i, v.size ≤ i → i < size → v.at_ i = some .zero
  | .reserve size realloc => v.reserved < size → realloc.isSome ∨ v.size = 0
  | .update _ _ => True

/-! ## The vector -/

/-- The elements of the table. -/
def InterfaceVec.elements (v : InterfaceVec) : List InterfaceInfo := (v.vec.getD []).take v.size

/-- What a call does to the elements of a vector; `reserve(0)` empties it. -/
def vectorNext (xs : List InterfaceInfo) : VecAction → List InterfaceInfo
  | .resize n _ => xs.take n ++ List.replicate (n - xs.length) .zero
  | .reserve n _ => if n = 0 then [] else xs
  | .update i info => xs.set i info

end RemoteDebug
