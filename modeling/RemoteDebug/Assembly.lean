import RemoteDebug.Packet

/-!
# Packets that a client assembles

The functions of `intel_st_debug_if_packet.c` that fill in an H2T header, as a structure or as bytes, and
the packets that are made with them. The buffers have any contents before.
-/

namespace RemoteDebug

open Bytes

/-- A store to `bytes[i]`. -/
def setByte (i : Nat) (x : UInt8) (b : HeaderBuff) : HeaderBuff :=
  ⟨b.bytes.set i x, (List.length_set ..).trans b.size⟩

/-- `(sop & 0x01) | ((eop & 0x01) << 1)`. -/
def sopEopBits (sop eop : UInt8) : UInt8 :=
  (sop &&& (0x01 : UInt8)) ||| ((eop &&& (0x01 : UInt8)) <<< (1 : UInt8))

/-- The stores of `(unsigned char)v` and `(v & 0xFF00) >> 8` to two bytes. -/
def setWord (i : Nat) (v : UInt16) (b : HeaderBuff) : HeaderBuff :=
  setByte (i + 1) ((v &&& 0xFF00) >>> 8).toUInt8 (setByte i v.toUInt8 b)

/-- `populate_h2t_packet_header`. -/
def populateH2tPacketHeader (sop eop connId : UInt8) (channel dataLenBytes : UInt16) : H2tPacketHeader where
  sopEop := sopEopBits sop eop
  connId := connId
  channel := channel
  dataLenBytes := dataLenBytes

/-- `populate_h2t_packet_header_bytes`; `bytes` is byte `i` of the buffer. -/
def populateH2tPacketHeaderBytes (i : Nat) (sop eop connId : UInt8) (channel dataLenBytes : UInt16)
    (b : HeaderBuff) : HeaderBuff :=
  setWord (i + 4) dataLenBytes <| setWord (i + 2) channel <| setByte (i + 1) connId <|
    setByte i (sopEopBits sop eop) b

/-- `populate_h2t_packet_bytes`. -/
def populateH2tPacketBytes (sop eop connId : UInt8) (channel dataLenBytes : UInt16) (b : HeaderBuff) :
    HeaderBuff :=
  populateH2tPacketHeaderBytes 4 sop eop connId channel dataLenBytes (populateGuardband b)

/-! ## Messages -/

/-- What a client sends in one packet. -/
structure Message where
  sop : UInt8
  eop : UInt8
  connId : UInt8
  channel : UInt16
  payload : List UInt8
  fits : payload.length < 2 ^ 16

namespace Message

/-- The header that `populate_h2t_packet_bytes` makes in the buffer `b`. -/
def head (m : Message) (b : HeaderBuff) : HeaderBuff :=
  populateH2tPacketBytes m.sop m.eop m.connId m.channel (UInt16.ofNat m.payload.length) b

end Message

/-! ## What is read back -/

theorem get_setByte {i : Nat} (hi : i < 10) (x : UInt8) (b : HeaderBuff) (j : Nat) :
    (setByte i x b).get j = if i = j then x else b.get j := by
  unfold setByte Buff.get
  rw [List.getD_eq_getElem?_getD, List.getElem?_set, List.getD_eq_getElem?_getD]
  by_cases hij : i = j
  · rw [if_pos hij, if_pos hij, if_pos (by rw [b.size]; exact hi), Option.getD_some]
  · rw [if_neg hij, if_neg hij]

/-- The high byte, as a number. -/
theorem high_byte (v : Nat) : (v &&& 0xFF00) >>> 8 = v / 2 ^ 8 % 2 ^ 8 := by
  rw [Nat.shiftRight_and_distrib, Nat.shiftRight_eq_div_pow]
  exact Nat.and_two_pow_sub_one_eq_mod _ 8

theorem le16_bytes (v : UInt16) : le16 v.toUInt8 ((v &&& 0xFF00) >>> 8).toUInt8 = v := by
  have hv := v.toNat_lt
  have hhigh : ((v &&& 0xFF00) >>> 8).toNat = v.toNat / 2 ^ 8 % 2 ^ 8 := high_byte v.toNat
  apply UInt16.toNat_inj.mp
  simp only [le16, UInt16.toNat_ofNat', UInt16.toNat_toUInt8, hhigh]
  omega

theorem headerOf_populateH2tPacketBytes (sop eop connId : UInt8) (channel dataLenBytes : UInt16)
    (b : HeaderBuff) :
    headerOf (populateH2tPacketBytes sop eop connId channel dataLenBytes b) =
      populateH2tPacketHeader sop eop connId channel dataLenBytes := by
  unfold populateH2tPacketBytes populateH2tPacketHeaderBytes setWord
  ext1 <;> simp [headerOf, get_setByte, le16_bytes, populateH2tPacketHeader]

theorem guardbandSet_setByte {i : Nat} (hi : 4 ≤ i) {x : UInt8} {b : HeaderBuff} (h : GuardbandSet b) :
    GuardbandSet (setByte i x b) := by
  unfold GuardbandSet setByte
  rw [List.take_set_of_le hi]
  exact h

theorem guardbandSet_setWord {i : Nat} (hi : 4 ≤ i) {v : UInt16} {b : HeaderBuff} (h : GuardbandSet b) :
    GuardbandSet (setWord i v b) :=
  guardbandSet_setByte (Nat.le_succ_of_le hi) (guardbandSet_setByte hi h)

namespace Message

theorem head_length (m : Message) (b : HeaderBuff) :
    m.payload.length = (headerOf (m.head b)).dataLenBytes.toNat := by
  unfold head
  rw [headerOf_populateH2tPacketBytes]
  exact (UInt16.toNat_ofNat_of_lt' m.fits).symm

/-- The packet that is sent. -/
def packet (m : Message) (b : HeaderBuff) : H2tPacket := ⟨m.head b, m.payload, m.head_length b⟩

/-- What a client that reads the packet makes of it. -/
structure ReadFrom (m : Message) (p : H2tPacket) : Prop where
  guardband : GuardbandSet p.head
  sop : p.header.sop = true ↔ m.sop.toNat % 2 = 1
  eop : p.header.eop = true ↔ m.eop.toNat % 2 = 1
  connId : p.header.connId = m.connId
  channel : p.header.channel = m.channel
  payload : p.payload = m.payload

end Message

end RemoteDebug
