import RemoteDebug.Lib.Bytes

/-!
# Packet headers

The guardband and the six header bytes in front of every packet on the four data sockets
(`intel_st_debug_if_packet.h`, `intel_st_debug_if_packet.c`).
-/

namespace RemoteDebug

open Bytes

/-- `PACKET_GUARDBAND`. -/
def packetGuardband : List UInt8 := [0xDE, 0xAD, 0xBE, 0xEF]

/-- `H2T_PACKET_HEADER_MASK_SOP`, `MGMT_PACKET_HEADER_MASK_SOP`. -/
def packetHeaderMaskSop : UInt8 := 0x01

/-- `H2T_PACKET_HEADER_MASK_EOP`, `MGMT_PACKET_HEADER_MASK_EOP`. -/
def packetHeaderMaskEop : UInt8 := 0x02

/-- `H2T_PACKET_HEADER`. -/
@[ext]
structure H2tPacketHeader where
  sopEop : UInt8
  connId : UInt8
  channel : UInt16
  dataLenBytes : UInt16
  deriving DecidableEq

/-- `MGMT_PACKET_HEADER` has the layout of `H2T_PACKET_HEADER`; its second byte is `RESERVED`. -/
abbrev MgmtPacketHeader := H2tPacketHeader

namespace H2tPacketHeader

/-- The start-of-packet bit. -/
def sop (h : H2tPacketHeader) : Bool := h.sopEop &&& packetHeaderMaskSop ≠ 0

/-- The end-of-packet bit. -/
def eop (h : H2tPacketHeader) : Bool := h.sopEop &&& packetHeaderMaskEop ≠ 0

/-- The bytes of the header in memory (packed, little-endian). -/
def toBytes (h : H2tPacketHeader) : List UInt8 :=
  [h.sopEop, h.connId, byteAt h.channel.toNat 0, byteAt h.channel.toNat 1,
    byteAt h.dataLenBytes.toNat 0, byteAt h.dataLenBytes.toNat 1]

@[simp] theorem toBytes_length (h : H2tPacketHeader) : h.toBytes.length = 6 := rfl

end H2tPacketHeader

/-- A guardband followed by a header: `h2t_header_buff` and its siblings. -/
abbrev HeaderBuff := Buff 10

/-- `(H2T_PACKET_HEADER *)(buff + SIZEOF_PACKET_GUARDBAND)`, read. -/
def headerOf (b : HeaderBuff) : H2tPacketHeader where
  sopEop := b.get 4
  connId := b.get 5
  channel := le16 (b.get 6) (b.get 7)
  dataLenBytes := le16 (b.get 8) (b.get 9)

/-- `(H2T_PACKET_HEADER *)(buff + SIZEOF_PACKET_GUARDBAND)`, written. -/
def putHeader (b : HeaderBuff) (h : H2tPacketHeader) : HeaderBuff :=
  ⟨b.bytes.take 4 ++ h.toBytes, by simp [b.size]⟩

/-- `populate_guardband` on a header buffer. -/
def populateGuardband (b : HeaderBuff) : HeaderBuff :=
  ⟨packetGuardband ++ b.bytes.drop 4, by simp [b.size, packetGuardband]⟩

/-- The buffer starts with the guardband. -/
def GuardbandSet (b : HeaderBuff) : Prop := b.bytes.take 4 = packetGuardband

theorem GuardbandSet.putHeader {b : HeaderBuff} (hb : GuardbandSet b) (h : H2tPacketHeader) :
    GuardbandSet (putHeader b h) := by
  have hlen : (b.bytes.take 4).length = 4 := by simp [b.size]
  show (b.bytes.take 4 ++ h.toBytes).take 4 = packetGuardband
  rw [List.take_append_of_le_length hlen.ge, List.take_take, Nat.min_self]
  exact hb

theorem GuardbandSet.putHeader_bytes {b : HeaderBuff} (hb : GuardbandSet b)
    (h : H2tPacketHeader) : (RemoteDebug.putHeader b h).bytes = packetGuardband ++ h.toBytes := by
  show b.bytes.take 4 ++ h.toBytes = packetGuardband ++ h.toBytes
  rw [show b.bytes.take 4 = packetGuardband from hb]

/-- What is read back is what was written. -/
theorem headerOf_putHeader (b : HeaderBuff) (h : H2tPacketHeader) :
    headerOf (putHeader b h) = h := by
  have hlen : (b.bytes.take 4).length = 4 := by simp [b.size]
  have hget (i : Nat) (hi : 4 ≤ i) : (putHeader b h).get i = h.toBytes.getD (i - 4) 0 := by
    simp only [putHeader, Buff.get, List.getD_eq_getElem?_getD]
    rw [List.getElem?_append_right (by omega), hlen]
  ext1 <;> simp only [headerOf, hget _ (by omega : 4 ≤ 4), hget _ (by omega : 4 ≤ 5),
    hget _ (by omega : 4 ≤ 6), hget _ (by omega : 4 ≤ 7), hget _ (by omega : 4 ≤ 8),
    hget _ (by omega : 4 ≤ 9)] <;> simp [H2tPacketHeader.toBytes, le16_byteAt]

/-- A header of the data sockets with its payload. -/
structure H2tPacket where
  /-- The guardband and the header bytes. -/
  head : HeaderBuff
  /-- The payload. -/
  payload : List UInt8
  /-- The payload has the length that the header announces. -/
  len_eq : payload.length = (headerOf head).dataLenBytes.toNat

namespace H2tPacket

/-- The decoded header. -/
def header (p : H2tPacket) : H2tPacketHeader := headerOf p.head

/-- The packet as it is sent on the socket. -/
def bytes (p : H2tPacket) : List UInt8 := p.head.bytes ++ p.payload

end H2tPacket

end RemoteDebug
