import RemoteDebug.Lib.Bytes
import RemoteDebug.Lib.Script
import RemoteDebug.Mmio

/-!
# Socket loops and staging buffers

The loops of `intel_st_debug_if_sockets.c` around `send` and `recv`, and the copies between the two
staging buffers and the FPGA (`memcpy64_fpga2host`, `memcpy64_host2fpga`). A loop is a recursion on
the script of its calls: every call that does not end the loop uses up one event.
-/

namespace RemoteDebug

open Bytes Script

/-- `RETURN_CODE`. -/
inductive ReturnCode where
  | ok
  | failure
  | initErr
  deriving DecidableEq

/-- `socket_send_all`: the return code, the bytes accepted by the kernel and the script that is
left. When the script is used up the kernel accepts everything. -/
def socketSendAll : List UInt8 → List SendEvent → ReturnCode × List UInt8 × List SendEvent
  | [], tx => (.ok, [], tx)
  | bs, [] => (.ok, bs, [])
  | _, .error :: tx => (.failure, [], tx)
  | bs, .accept k :: tx =>
    if k = 0 then (.failure, [], tx)
    else
      let rest := socketSendAll (bs.drop k) tx
      (rest.1, bs.take k ++ rest.2.1, rest.2.2)

/-- `socket_recv_accumulate` for `len` bytes: the return code, the bytes stored in the buffer and
the script that is left. -/
def socketRecvAccumulate :
    List RecvEvent → Nat → ReturnCode × List UInt8 × List RecvEvent
  | rx, 0 => (.ok, [], rx)
  | [], _ + 1 => (.failure, [], [])
  | .error :: rx, _ + 1 => (.failure, [], rx)
  | .data bs :: rx, len + 1 =>
    if bs = [] then (.failure, [], rx)
    else if bs.length ≤ len + 1 then
      let rest := socketRecvAccumulate rx (len + 1 - bs.length)
      (rest.1, bs ++ rest.2.1, rest.2.2)
    else (.ok, bs.take (len + 1), .data (bs.drop (len + 1)) :: rx)

/-- `socket_recv_until_null_reached` with a buffer of `maxLen` bytes: only the bytes of the latest
`recv` are searched for a NUL, and bytes behind a NUL stay in the buffer. -/
def socketRecvUntilNullReached :
    List RecvEvent → Nat → ReturnCode × List UInt8 × List RecvEvent
  | rx, 0 => (.failure, [], rx)
  | [], _ + 1 => (.failure, [], [])
  | .error :: rx, _ + 1 => (.failure, [], rx)
  | .data bs :: rx, len + 1 =>
    if bs = [] then (.failure, [], rx)
    else if bs.length ≤ len + 1 then
      if 0 ∈ bs then (.ok, bs, rx)
      else
        let rest := socketRecvUntilNullReached rx (len + 1 - bs.length)
        (rest.1, bs ++ rest.2.1, rest.2.2)
    else if 0 ∈ bs.take (len + 1) then
      (.ok, bs.take (len + 1), .data (bs.drop (len + 1)) :: rx)
    else (.failure, bs.take (len + 1), .data (bs.drop (len + 1)) :: rx)

/-! ## Staging buffers -/

/-- `g_socket_recv_buff` or `g_socket_send_buff`: the memory from the start of the buffer on, and
one more than the highest index written so far. -/
structure Staging where
  bytes : Nat → UInt8
  top : Nat

/-- The bytes that `alloc_tcpip_recv_send_buffer` allocates for each staging buffer:
`(sz + PACKET_HEADER_SIZE) * sizeof(char)` in `size_t`. -/
def stagingSize (sz : Nat) : Nat := (sz + 64) % 2 ^ 64

/-- Received bytes stored from index `0` on. -/
def Staging.receive (st : Staging) (bs : List UInt8) : Staging where
  bytes := storeBytes st.bytes 0 bs
  top := max st.top bs.length

/-- A 64-bit word stored at index `i`. -/
def Staging.storeWord (st : Staging) (i w : Nat) : Staging where
  bytes := store64 st.bytes i w
  top := max st.top (i + 8)

variable {D : Type}

/-- The loop of `memcpy64_fpga2host` for the last `n` words, the next one being word `i`. -/
def fpga2hostLoop (io : Mmio D) (fpgaBuff : Nat) : (n i : Nat) → Staging → D → Staging × D
  | 0, _, st, d => (st, d)
  | n + 1, i, st, d =>
    let word := io.read64 ((fpgaBuff + 8 * i) % 2 ^ 32) d
    fpga2hostLoop io fpgaBuff n (i + 1) (st.storeWord (8 * i) word.1) word.2

/-- `memcpy64_fpga2host` into a staging buffer. The `int32_t` address is converted back to
`uint32_t` at each access. -/
def memcpy64Fpga2host (io : Mmio D) (fpgaBuff len : Nat) (st : Staging) (d : D) : Staging × D :=
  fpga2hostLoop io fpgaBuff ((len + 7) / 8) 0 st d

/-- The loop of `memcpy64_host2fpga` for the last `n` words, the next one being word `i`. -/
def host2fpgaLoop (io : Mmio D) (host : Nat → UInt8) (fpgaBuff : Nat) : (n i : Nat) → D → D
  | 0, _, d => d
  | n + 1, i, d =>
    host2fpgaLoop io host fpgaBuff n (i + 1)
      (io.write64 ((fpgaBuff + 8 * i) % 2 ^ 32) (word64 host (8 * i)) d)

/-- `memcpy64_host2fpga` from a staging buffer. -/
def memcpy64Host2fpga (io : Mmio D) (st : Staging) (fpgaBuff len : Nat) (d : D) : D :=
  host2fpgaLoop io st.bytes fpgaBuff ((len + 7) / 8) 0 d

end RemoteDebug
